import ProcessEvents.Json.Codec
import ProcessEvents.Proofs.Json.Masking
import ProcessEvents.Proofs.Json.ReadBack

/-
  Values are decoded from bytes with gaps only if the gaps
  are skipped. This file proves that they are decoded as well
  if characters beyond ASCII stand in the gaps, whatever
  these are.

  Key definitions include:
    * `Json.Completes`
    * `Codec.IsMonotone`, `Fields.IsMonotone`

  Key theorems include:
    * `Json.Masks.reads`
    * `Json.readBytes?_of_fits`
    * `Codec.IsMonotone.record`
-/

namespace ProcessEvents

namespace Json

variable {masked filled rest : List Char}

------------------------------------------------------------
-- Values
------------------------------------------------------------

/- A value beside the same value with more that can be read. -/
inductive Completes : Json → Json → Prop
  | same (j : Json) :
      Completes j j
  | unreadable (j : Json) :
      Completes .unreadable j
  | arr {items items' : List Json}
      (hItems : List.Forall₂ Completes items items') :
      Completes (.arr items) (.arr items')
  | obj {members members' : List (String × Json)}
      (hKeys : members.map (·.1) = members'.map (·.1))
      (hValues :
        List.Forall₂ Completes (members.map (·.2)) (members'.map (·.2))) :
      Completes (.obj members) (.obj members')

/- Whatever key can be read is the same one. -/
def CompletesMember
    (m m' : Option String × Json) : Prop :=
  (∀ key, m.1 = some key → m'.1 = some key) ∧ Completes m.2 m'.2

inductive CompletesPart : Part → Part → Prop
  | value {j j' : Json}
      (hValue : Completes j j') :
      CompletesPart (.value j) (.value j')
  | items {items items' : List Json}
      (hItems : List.Forall₂ Completes items items') :
      CompletesPart (.items items) (.items items')
  | members {members members' : List (Option String × Json)}
      (hMembers : List.Forall₂ CompletesMember members members') :
      CompletesPart (.members members) (.members members')

theorem completes_ofString
    {s s' : Option String}
    (hText : ∀ text, s = some text → s' = some text) :
    Completes (ofString s) (ofString s') := by
  cases s with
  | none => exact .unreadable _
  | some text =>
      rw [hText text rfl]
      exact .same _

theorem Completes.atLevel
    {j j' : Json}
    (hValue : Completes j j')
    (level : Nat) :
    Completes (atLevel level j) (atLevel level j') := by
  unfold Json.atLevel
  split
  · exact hValue
  · exact .same _

theorem completes_ofMembers
    {members members' : List (Option String × Json)}
    (hMembers : List.Forall₂ CompletesMember members members') :
    Completes (ofMembers members) (ofMembers members') := by
  have hReadable :
      ∀ ms,
        members.mapM (fun m => m.1.map fun k => (k, m.2)) = some ms →
          ∃ ms',
            members'.mapM (fun m => m.1.map fun k => (k, m.2)) = some ms' ∧
              ms.map (·.1) = ms'.map (·.1) ∧
                List.Forall₂ Completes (ms.map (·.2)) (ms'.map (·.2)) := by
    induction hMembers with
    | nil =>
        intro ms hNone
        cases hNone
        exact ⟨[], rfl, rfl, .nil⟩
    | @cons m m' rest rest' hMember _ ih =>
        intro ms hSome
        rw [List.mapM_cons] at hSome
        rcases Option.bind_eq_some_iff.mp hSome with ⟨_, hFirst, hSome⟩
        rcases Option.bind_eq_some_iff.mp hSome with ⟨more, hMore, hSame⟩
        rcases Option.map_eq_some_iff.mp hFirst with ⟨key, hKey, rfl⟩
        cases hSame
        rcases ih more hMore with ⟨more', hMore', hKeys, hValues⟩
        refine ⟨(key, m'.2) :: more', ?_, congrArg (key :: ·) hKeys,
          .cons hMember.2 hValues⟩
        rw [List.mapM_cons, hMember.1 key hKey, hMore']
        rfl
  rw [ofMembers]
  split
  case h_1 ms hSome =>
    rcases hReadable ms hSome with ⟨ms', hSome', hKeys, hValues⟩
    rw [ofMembers, hSome']
    exact .obj hKeys hValues
  case h_2 => exact .unreadable _

/-
  Whatever is read with gaps is read with characters in them
  as well, up to what stands in place of unreadable values.
-/
theorem Masks.reads
    {level : Nat} {part : Part}
    (hMasks : Masks false masked filled)
    (hReads : Reads level masked part rest) :
    ∃ part' rest',
      Reads level filled part' rest' ∧ Masks false rest rest' ∧
        CompletesPart part part' := by
  induction hReads generalizing filled with
  | @nullWord _ _ rest hHead =>
      rcases hMasks.word ['n', 'u', 'l', 'l'] hHead (by decide) with
        ⟨rest', hHead, hRest⟩
      exact ⟨_, rest', .nullWord hHead, hRest, .value (.same _)⟩
  | @trueWord _ _ rest hHead =>
      rcases hMasks.word ['t', 'r', 'u', 'e'] hHead (by decide) with
        ⟨rest', hHead, hRest⟩
      exact ⟨_, rest', .trueWord hHead, hRest, .value (.same _)⟩
  | @falseWord _ _ rest hHead =>
      rcases hMasks.word ['f', 'a', 'l', 's', 'e'] hHead (by decide) with
        ⟨rest', hHead, hRest⟩
      exact ⟨_, rest', .falseWord hHead, hRest, .value (.same _)⟩
  | text hHead hText =>
      rcases hMasks.token hHead (by decide) with ⟨_, hHead, hAfter⟩
      rcases hAfter.readString hText with ⟨s', rest', hText, hRest, hSame⟩
      exact ⟨_, rest', .text hHead hText, hRest,
        .value (completes_ofString hSame)⟩
  | number hHead hBegins hNumber =>
      have hSkipped := hMasks.skipBlanks
      rw [hHead] at hSkipped
      rcases hSkipped.readNumeral hNumber with ⟨rest', hNumber, hRest⟩
      rcases readNumeral_head hNumber with ⟨c, after, hHead, hBegins⟩
      rw [hHead] at hNumber
      exact ⟨_, rest', .number hHead hBegins hNumber, hRest, .value (.same _)⟩
  | emptyArray hHead hEnd =>
      rcases hMasks.token hHead (by decide) with ⟨_, hHead, hAfter⟩
      rcases hAfter.token hEnd (by decide) with ⟨rest', hEnd, hRest⟩
      exact ⟨_, rest', .emptyArray hHead hEnd, hRest, .value (.same _)⟩
  | emptyObject hHead hEnd =>
      rcases hMasks.token hHead (by decide) with ⟨_, hHead, hAfter⟩
      rcases hAfter.token hEnd (by decide) with ⟨rest', hEnd, hRest⟩
      exact ⟨_, rest', .emptyObject hHead hEnd, hRest, .value (.same _)⟩
  | array hHead hOpen _ ih =>
      rcases hMasks.token hHead (by decide) with ⟨_, hHead, hAfter⟩
      rcases ih hAfter.skipBlanks with ⟨_, rest', hItems, hRest, hSame⟩
      cases hSame with
      | items hSame =>
          refine ⟨_, rest', .array hHead ?_ hItems,
            hRest, .value (.atLevel (.arr hSame) _)⟩
          exact hAfter.skipBlanks.other (by decide) (by decide) hOpen
  | object hHead hOpen _ ih =>
      rcases hMasks.token hHead (by decide) with ⟨_, hHead, hAfter⟩
      rcases ih hAfter.skipBlanks with ⟨_, rest', hMembers, hRest, hSame⟩
      cases hSame with
      | members hSame =>
          refine ⟨_, rest', .object hHead ?_ hMembers, hRest,
            .value (.atLevel (completes_ofMembers hSame) _)⟩
          exact hAfter.skipBlanks.other (by decide) (by decide) hOpen
  | lastItem _ hEnd ih =>
      rcases ih hMasks with ⟨_, _, hItem, hAfter, hSame⟩
      rcases hAfter.token hEnd (by decide) with ⟨rest', hEnd, hRest⟩
      cases hSame with
      | value hSame =>
          exact ⟨_, rest', .lastItem hItem hEnd,
            hRest, .items (.cons hSame .nil)⟩
  | item _ hComma _ ih ihItems =>
      rcases ih hMasks with ⟨_, _, hItem, hAfter, hSame⟩
      rcases hAfter.token hComma (by decide) with ⟨_, hComma, hNext⟩
      rcases ihItems hNext with ⟨_, rest', hItems, hRest, hSameItems⟩
      cases hSame with
      | value hSame =>
          cases hSameItems with
          | items hSameItems =>
              exact ⟨_, rest', .item hItem hComma hItems,
                hRest, .items (.cons hSame hSameItems)⟩
  | lastMember hHead hKey hColon _ hEnd ih =>
      rcases hMasks.token hHead (by decide) with ⟨_, hHead, hFront⟩
      rcases hFront.readString hKey with ⟨_, _, hKey, hMiddle, hSameKey⟩
      rcases hMiddle.token hColon (by decide) with ⟨_, hColon, hBack⟩
      rcases ih hBack with ⟨_, _, hValue, hAfter, hSame⟩
      rcases hAfter.token hEnd (by decide) with ⟨rest', hEnd, hRest⟩
      cases hSame with
      | value hSame =>
          exact ⟨_, rest', .lastMember hHead hKey hColon hValue hEnd, hRest,
            .members (.cons ⟨hSameKey, hSame⟩ .nil)⟩
  | member hHead hKey hColon _ hComma _ ih ihMembers =>
      rcases hMasks.token hHead (by decide) with ⟨_, hHead, hFront⟩
      rcases hFront.readString hKey with ⟨_, _, hKey, hMiddle, hSameKey⟩
      rcases hMiddle.token hColon (by decide) with ⟨_, hColon, hBack⟩
      rcases ih hBack with ⟨_, _, hValue, hAfter, hSame⟩
      rcases hAfter.token hComma (by decide) with ⟨_, hComma, hNext⟩
      rcases ihMembers hNext with ⟨_, rest', hMembers, hRest, hSameMembers⟩
      cases hSame with
      | value hSame =>
          cases hSameMembers with
          | members hSameMembers =>
              exact ⟨_, rest',
                .member hHead hKey hColon hValue hComma hMembers, hRest,
                .members (.cons ⟨hSameKey, hSame⟩ hSameMembers)⟩

/- Bytes are read as their text is, whatever stands in the gaps. -/
theorem readBytes?_of_fits
    {bytes : List UInt8} {j : Json}
    (hRead : readBytes? bytes = some j)
    (hFits : List.Forall₂ Fits (Utf8.units bytes) filled) :
    ∃ j', readChars? filled = some j' ∧ Completes j j' := by
  rcases readChars?_eq_some_iff.mp hRead with ⟨rest, hReads, hEnd⟩
  rcases (masks_maskGaps hFits false).reads hReads with
    ⟨_, rest', hReads, hRest, hSame⟩
  have hBlank := hRest.skipBlanks
  rw [hEnd] at hBlank
  cases hSame with
  | value hSame =>
      exact ⟨_,
        readChars?_eq_some_iff.mpr ⟨rest', hReads, hBlank.nil_right⟩, hSame⟩

end Json

open Json

------------------------------------------------------------
-- Codecs
------------------------------------------------------------

variable {α β : Type}

/-
  What is decoded from a value is decoded from the same
  value with more that can be read.
-/
def Codec.IsMonotone
    (c : Codec α) : Prop :=
  ∀ j j' x, Completes j j' → c.decode j = some x → c.decode j' = some x

structure Fields.IsMonotone
    (f : Fields α) : Prop where
  ofMembers :
    ∀ find find' x,
      (∀ name, Option.Rel Completes (find name) (find' name)) →
        f.ofMembers find = some x → f.ofMembers find' = some x
  ofItems :
    ∀ items items' x rest,
      List.Forall₂ Completes items items' → f.ofItems items = some (x, rest) →
        ∃ rest', f.ofItems items' = some (x, rest') ∧
          List.Forall₂ Completes rest rest'

theorem Codec.IsMonotone.string :
    Codec.string.IsMonotone := by
  intro j j' x hSame hDecode
  cases hSame with
  | same => exact hDecode
  | unreadable | arr | obj => cases hDecode

theorem Codec.IsMonotone.list
    {c : Codec α}
    (hItem : c.IsMonotone) :
    (Codec.list c).IsMonotone := by
  intro j j' xs hSame hDecode
  cases hSame with
  | same => exact hDecode
  | unreadable | obj => cases hDecode
  | @arr items items' hItems =>
      simp only [Codec.list] at hDecode ⊢
      induction hItems generalizing xs with
      | nil => exact hDecode
      | @cons j j' rest rest' hFirst _ ih =>
          rw [List.mapM_cons] at hDecode
          rcases Option.bind_eq_some_iff.mp hDecode with ⟨x, hX, hDecode⟩
          rcases Option.bind_eq_some_iff.mp hDecode with ⟨more, hMore, hXs⟩
          cases hXs
          rw [List.mapM_cons, hItem j j' x hFirst hX, ih more hMore]
          rfl

namespace Fields.IsMonotone

variable {c : Codec α} {f : Fields α} {g : Fields β}

theorem field
    (name : String) (dflt : α)
    (hValue : c.IsMonotone) :
    (Fields.field name c dflt).IsMonotone where
  ofMembers find find' x hSame hDecode := by
    have hSameHere := hSame name
    simp only [Fields.field] at hDecode ⊢
    generalize find name = here at hSameHere hDecode
    generalize find' name = here' at hSameHere
    cases hSameHere with
    | none => exact hDecode
    | some hJ => exact hValue _ _ x hJ hDecode
  ofItems items items' x rest hSame hDecode := by
    cases hSame with
    | nil =>
        cases hDecode
        exact ⟨[], rfl, .nil⟩
    | @cons j j' after after' hFirst hAfter =>
        rcases Option.map_eq_some_iff.mp hDecode with ⟨x', hX, hSame⟩
        cases hSame
        exact ⟨after',
          Option.map_eq_some_iff.mpr ⟨x, hValue j j' x hFirst hX, rfl⟩, hAfter⟩

theorem pair
    (hFirst : f.IsMonotone)
    (hSecond : g.IsMonotone) :
    (f.pair g).IsMonotone where
  ofMembers find find' p hSame hDecode := by
    rcases Option.bind_eq_some_iff.mp hDecode with ⟨x, hX, hDecode⟩
    rcases Option.bind_eq_some_iff.mp hDecode with ⟨y, hY, hPair⟩
    cases hPair
    simp only [Fields.pair, hFirst.ofMembers _ _ _ hSame hX,
      hSecond.ofMembers _ _ _ hSame hY]
    rfl
  ofItems items items' p rest hSame hDecode := by
    rcases Option.bind_eq_some_iff.mp hDecode with ⟨⟨x, after⟩, hX, hDecode⟩
    rcases Option.bind_eq_some_iff.mp hDecode with ⟨⟨y, after'⟩, hY, hPair⟩
    cases hPair
    rcases hFirst.ofItems _ _ _ _ hSame hX with ⟨_, hX', hAfter⟩
    rcases hSecond.ofItems _ _ _ _ hAfter hY with ⟨rest', hY', hRest⟩
    refine ⟨rest', ?_, hRest⟩
    simp only [Fields.pair, hX', hY', Option.bind_eq_bind,
      Option.bind_some, Option.pure_def]

end Fields.IsMonotone

/- Members with the same keys are found by the same names. -/
theorem Json.find?_completes
    {members members' : List (String × Json)}
    (hKeys : members.map (·.1) = members'.map (·.1))
    (hValues : List.Forall₂ Completes (members.map (·.2)) (members'.map (·.2)))
    (name : String) :
    Option.Rel Completes (find? members name) (find? members' name) := by
  induction members generalizing members' with
  | nil =>
      cases members' with
      | nil => exact .none
      | cons m' rest' => cases hKeys
  | cons m rest ih =>
      cases members' with
      | nil => cases hKeys
      | cons m' rest' =>
          rw [List.map_cons, List.map_cons, List.cons.injEq] at hKeys
          rcases List.forall₂_cons.mp hValues with ⟨hFirst, hRest⟩
          rw [find?, find?, List.find?_cons, List.find?_cons, ← hKeys.1]
          cases m.1 == name with
          | true => exact .some hFirst
          | false => exact ih hKeys.2 hRest

theorem Codec.repeats_of_keys
    {members members' : List (String × Json)}
    (hKeys : members.map (·.1) = members'.map (·.1))
    (names : List String) :
    Codec.repeats names members = Codec.repeats names members' := by
  simp only [repeats, occurrences_eq_count, hKeys]

theorem Codec.IsMonotone.record
    {f : Fields α} {make : α → β} {of : β → α}
    (hFields : f.IsMonotone) :
    (Codec.record f make of).IsMonotone := by
  intro j j' x hSame hDecode
  cases hSame with
  | same => exact hDecode
  | unreadable => cases hDecode
  | @arr items items' hItems =>
      simp only [Codec.record] at hDecode ⊢
      cases hRead : f.ofItems items with
      | none =>
          rw [hRead] at hDecode
          cases hDecode
      | some p =>
          rcases p with ⟨y, rest⟩
          rcases hFields.ofItems items items' y rest hItems hRead with
            ⟨rest', hRead', hRest⟩
          rw [hRead] at hDecode
          rw [hRead']
          cases hRest with
          | nil => exact hDecode
          | cons => cases hDecode
  | obj hKeys hValues =>
      simp only [Codec.record] at hDecode ⊢
      rw [← repeats_of_keys hKeys]
      split at hDecode
      case isTrue => cases hDecode
      case isFalse hOnce =>
        rcases Option.map_eq_some_iff.mp hDecode with ⟨y, hY, hX⟩
        have hFound :=
          hFields.ofMembers _ _ y (find?_completes hKeys hValues) hY
        rw [if_neg hOnce, hFound, Option.map_some, hX]

end ProcessEvents
