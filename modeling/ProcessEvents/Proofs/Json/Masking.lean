import Mathlib.Data.List.Forall2
import ProcessEvents.Json.Bytes
import ProcessEvents.Proofs.Json.Grammar

/-
  Bytes that encode no character leave gaps in a text, which
  are read as unpaired escapes. This file compares such a
  text with one that has characters beyond ASCII in its gaps:
  its numbers and texts are read up to the same place, and
  what can be read is the same.

  Key definitions include:
    * `Json.Fits`
    * `Json.Masks`
    * `Json.IsTorn`

  Key theorems include:
    * `Json.masks_maskGaps`
    * `Json.Masks.readNumeral`
    * `Json.Masks.readString`
-/

namespace ProcessEvents

namespace Json

------------------------------------------------------------
-- Gaps
------------------------------------------------------------

/-
  What may stand in place of a character: itself, or in a
  gap anything beyond ASCII.
-/
inductive Fits : Option Char → Char → Prop
  | char (c : Char) : Fits (some c) c
  | gap {c : Char} (hBeyond : 0x80 ≤ c.toNat) : Fits none c

/-
  A text with unpaired escapes in its gaps beside the same
  text with characters in them. As in `maskGaps`, the flag
  tells that a backslash stands in front.
-/
inductive Masks : Bool → List Char → List Char → Prop
  | nil {escaped : Bool} :
      Masks escaped [] []
  | char {escaped : Bool} {c : Char} {masked filled : List Char}
      (hRest : Masks (c == '\\' && !escaped) masked filled) :
      Masks escaped (c :: masked) (c :: filled)
  | gap {c : Char} {masked filled : List Char}
      (hBeyond : 0x80 ≤ c.toNat)
      (hRest : Masks false masked filled) :
      Masks false (unpairedEscapes ++ masked) (c :: filled)
  | escapedGap {c : Char} {masked filled : List Char}
      (hBeyond : 0x80 ≤ c.toNat)
      (hRest : Masks false masked filled) :
      Masks true ('\x00' :: masked) (c :: filled)

theorem masks_maskGaps
    {units : List (Option Char)} {filled : List Char}
    (hFits : List.Forall₂ Fits units filled)
    (escaped : Bool) :
    Masks escaped (maskGaps escaped units) filled := by
  induction hFits generalizing escaped with
  | nil => exact .nil
  | cons hFit _ ih =>
      cases hFit with
      | char c => exact .char (ih _)
      | gap hBeyond =>
          cases escaped with
          | false => exact .gap hBeyond (ih false)
          | true => exact .escapedGap hBeyond (ih false)

namespace Masks

variable {c : Char} {masked filled : List Char}

/- Whatever is no backslash stands in both texts. -/
theorem uncons
    (hMasks : Masks false (c :: masked) filled)
    (hOther : c ≠ '\\') :
    ∃ filled', filled = c :: filled' ∧ Masks false masked filled' := by
  generalize hMasked : c :: masked = cs at hMasks
  cases hMasks with
  | nil => cases hMasked
  | char hRest =>
      cases hMasked
      rw [beq_eq_false_iff_ne.mpr hOther] at hRest
      exact ⟨_, rfl, hRest⟩
  | gap => exact absurd (List.cons.inj hMasked).1 hOther

/- A backslash stands in both texts, or begins what stands in a gap. -/
theorem backslash
    (hMasks : Masks false ('\\' :: masked) filled) :
    (∃ filled', filled = '\\' :: filled' ∧ Masks true masked filled') ∨
      ∃ c masked' filled',
        '\\' :: masked = unpairedEscapes ++ masked' ∧ filled = c :: filled' ∧
          0x80 ≤ c.toNat ∧ Masks false masked' filled' := by
  generalize hMasked : '\\' :: masked = cs at hMasks
  cases hMasks with
  | nil => cases hMasked
  | char hRest =>
      cases hMasked
      exact Or.inl ⟨_, rfl, hRest⟩
  | gap hBeyond hRest => exact Or.inr ⟨_, _, _, rfl, rfl, hBeyond, hRest⟩

/-
  Behind a backslash stands the same character, unless it is
  the one for a gap.
-/
theorem escaped
    (hMasks : Masks true (c :: masked) filled)
    (hOther : c ≠ '\x00') :
    ∃ filled', filled = c :: filled' ∧ Masks false masked filled' := by
  cases hMasks with
  | char hRest =>
      rw [Bool.not_true, Bool.and_false] at hRest
      exact ⟨_, rfl, hRest⟩
  | escapedGap => exact absurd rfl hOther

/- Both texts begin with the same character of the grammar, or none does. -/
theorem startsWith
    (c : Char)
    (hAscii : c.toNat < 0x80)
    (hOther : c ≠ '\\')
    (hMasks : Masks false masked filled) :
    (∃ masked' filled',
        masked = c :: masked' ∧ filled = c :: filled' ∧
          Masks false masked' filled') ∨
      (∀ rest, masked ≠ c :: rest) ∧ ∀ rest, filled ≠ c :: rest := by
  cases hMasks with
  | nil => exact Or.inr ⟨fun _ => (List.cons_ne_nil _ _).symm,
        fun _ => (List.cons_ne_nil _ _).symm⟩
  | @char _ d masked filled hRest =>
      by_cases hSame : d = c
      · subst hSame
        rw [beq_eq_false_iff_ne.mpr hOther] at hRest
        exact Or.inl ⟨_, _, rfl, rfl, hRest⟩
      · exact Or.inr ⟨fun _ hCons => hSame (List.cons.inj hCons).1,
          fun _ hCons => hSame (List.cons.inj hCons).1⟩
  | gap hBeyond =>
      refine Or.inr
        ⟨fun _ hCons => hOther (List.cons.inj hCons).1.symm, fun _ hCons => ?_⟩
      rw [(List.cons.inj hCons).1] at hBeyond
      omega

/- What a test of the grammar accepts in front stands in both texts. -/
theorem span
    {p : Char → Bool}
    (hBackslash : p '\\' = false)
    (hBeyond : ∀ c : Char, 0x80 ≤ c.toNat → p c = false)
    (hMasks : Masks false masked filled) :
    masked.takeWhile p = filled.takeWhile p ∧
      Masks false (masked.dropWhile p) (filled.dropWhile p) := by
  generalize hFlag : false = flag at hMasks
  induction hMasks with
  | nil => exact ⟨rfl, .nil⟩
  | @char _ c masked filled hRest ih =>
      subst hFlag
      cases hTest : p c with
      | true =>
          have hOther : c ≠ '\\' := by
            rintro rfl
            rw [hBackslash] at hTest
            cases hTest
          rw [beq_eq_false_iff_ne.mpr hOther] at ih
          rw [List.takeWhile_cons_of_pos hTest,
            List.takeWhile_cons_of_pos hTest, List.dropWhile_cons_of_pos hTest,
            List.dropWhile_cons_of_pos hTest, (ih rfl).1]
          exact ⟨rfl, (ih rfl).2⟩
      | false =>
          have hNot : ¬ p c = true := by
            rw [hTest]
            exact Bool.false_ne_true
          rw [List.takeWhile_cons_of_neg hNot, List.takeWhile_cons_of_neg hNot,
            List.dropWhile_cons_of_neg hNot, List.dropWhile_cons_of_neg hNot]
          exact ⟨rfl, .char hRest⟩
  | @gap c masked filled hGap hRest ih =>
      have hNot : ¬ p c = true := by
        rw [hBeyond c hGap]
        exact Bool.false_ne_true
      have hStop : ¬ p '\\' = true := by
        rw [hBackslash]
        exact Bool.false_ne_true
      have hMasked : unpairedEscapes ++ masked =
          '\\' :: (unpairedEscapes.tail ++ masked) := rfl
      rw [List.takeWhile_cons_of_neg hNot, List.dropWhile_cons_of_neg hNot,
        hMasked, List.takeWhile_cons_of_neg hStop,
        List.dropWhile_cons_of_neg hStop, ← hMasked]
      exact ⟨rfl, .gap hGap hRest⟩
  | escapedGap => cases hFlag

theorem skipBlanks
    (hMasks : Masks false masked filled) :
    Masks false (skipBlanks masked) (skipBlanks filled) := by
  refine (hMasks.span (by decide) fun c hBeyond => ?_).2
  rw [← Bool.not_eq_true]
  intro hBlank
  simp only [isBlank, Bool.or_eq_true, beq_iff_eq] at hBlank
  rcases hBlank with
    ((rfl | rfl) | rfl) | rfl <;> exact absurd hBeyond (by decide)

/- What does not begin one text does not begin the other one. -/
theorem other
    (hMasks : Masks false masked filled)
    (hAscii : c.toNat < 0x80)
    (hChar : c ≠ '\\')
    (hOther : ∀ rest, masked ≠ c :: rest) :
    ∀ rest, filled ≠ c :: rest := by
  rcases hMasks.startsWith c hAscii hChar with
    ⟨masked', _, hSame, -⟩ | ⟨-, hFilled⟩
  · exact absurd hSame (hOther masked')
  · exact hFilled

theorem nil_right
    (hMasks : Masks false [] filled) :
    filled = [] := by
  generalize hNone : [] = cs at hMasks
  cases hMasks with
  | nil => rfl
  | char => cases hNone
  | gap => cases hNone

/- A token in front of one text stands in front of the other one. -/
theorem token
    {rest : List Char}
    (hMasks : Masks false masked filled)
    (hHead : Json.skipBlanks masked = c :: rest)
    (hOther : c ≠ '\\') :
    ∃ rest', Json.skipBlanks filled = c :: rest' ∧ Masks false rest rest' := by
  have hSkipped := hMasks.skipBlanks
  rw [hHead] at hSkipped
  exact hSkipped.uncons hOther

/- So does a word. -/
theorem word
    (word : List Char) {rest : List Char}
    (hMasks : Masks false masked filled)
    (hHead : Json.skipBlanks masked = word ++ rest)
    (hOther : '\\' ∉ word) :
    ∃ rest', Json.skipBlanks filled = word ++ rest' ∧
      Masks false rest rest' := by
  have hSkipped := hMasks.skipBlanks
  rw [hHead] at hSkipped
  generalize Json.skipBlanks filled = filled' at hSkipped
  clear hHead
  induction word generalizing filled' with
  | nil => exact ⟨filled', rfl, hSkipped⟩
  | cons c word ih =>
      rw [List.mem_cons, not_or] at hOther
      rcases hOther with ⟨hHere, hBehind⟩
      rcases hSkipped.uncons (Ne.symm hHere) with ⟨after, rfl, hAfter⟩
      rcases ih hBehind after hAfter with ⟨rest', rfl, hRest⟩
      exact ⟨rest', rfl, hRest⟩

end Masks

------------------------------------------------------------
-- Numbers
------------------------------------------------------------

section

variable {masked filled rest ds : List Char}

theorem isDigit_of_beyond
    {c : Char}
    (hBeyond : 0x80 ≤ c.toNat) :
    c.isDigit = false := by
  have hNine : '9'.toNat = 57 := by decide
  rw [← Bool.not_eq_true, Char.isDigit_iff_toNat]
  omega

/- No digit stands in a gap. -/
theorem Masks.digits
    (hMasks : Masks false masked filled) :
    masked.takeWhile Char.isDigit = filled.takeWhile Char.isDigit ∧
      Masks false (masked.dropWhile Char.isDigit)
        (filled.dropWhile Char.isDigit) :=
  hMasks.span (by decide) fun _ => isDigit_of_beyond

theorem Masks.readDigits
    (hMasks : Masks false masked filled)
    (hRead : readDigits masked = some (ds, rest)) :
    ∃ rest', Json.readDigits filled = some (ds, rest') ∧
      Masks false rest rest' := by
  rcases hMasks.digits with ⟨hDigits, hRest⟩
  rw [readDigits_eq, hDigits] at hRead
  rw [readDigits_eq]
  split at hRead
  case isTrue => cases hRead
  case isFalse hSome =>
    cases hRead
    rw [if_neg hSome]
    exact ⟨_, rfl, hRest⟩

theorem Masks.readWhole
    (hMasks : Masks false masked filled)
    (hRead : readWhole masked = some (ds, rest)) :
    ∃ rest', Json.readWhole filled = some (ds, rest') ∧
      Masks false rest rest' := by
  rcases hMasks.startsWith '0' (by decide) (by decide) with
    ⟨masked', filled', rfl, rfl, hRest⟩ | ⟨hMasked, hFilled⟩
  · rw [readWhole_zero, hRest.digits.1] at hRead
    rw [readWhole_zero]
    split at hRead
    case isFalse => cases hRead
    case isTrue hNone =>
      cases hRead
      rw [if_pos hNone]
      exact ⟨_, rfl, hRest⟩
  · rw [readWhole_other hMasked] at hRead
    rw [readWhole_other hFilled]
    exact hMasks.readDigits hRead

theorem Masks.readFraction
    (hMasks : Masks false masked filled)
    (hRead : readFraction masked = some (ds, rest)) :
    ∃ rest', Json.readFraction filled = some (ds, rest') ∧
      Masks false rest rest' := by
  rcases hMasks.startsWith '.' (by decide) (by decide) with
    ⟨masked', filled', rfl, rfl, hRest⟩ | ⟨hMasked, hFilled⟩
  · exact hRest.readDigits hRead
  · rw [Json.readFraction] at hRead ⊢
    · cases hRead
      exact ⟨_, rfl, hMasks⟩
    · exact hFilled
    · exact hMasked

theorem Masks.readMarked
    {hasMark : Bool} {exponent : Int} {value : List Char → Int}
    (hMasks : Masks false masked filled)
    (hRead : readMarked value masked = some (hasMark, exponent, rest)) :
    ∃ rest',
      Json.readMarked value filled = some (hasMark, exponent, rest') ∧
        Masks false rest rest' := by
  rcases Option.map_eq_some_iff.mp hRead with ⟨⟨ds, after⟩, hDigits, hSame⟩
  cases hSame
  rcases hMasks.readDigits hDigits with ⟨rest', hDigits, hRest⟩
  exact ⟨rest', Option.map_eq_some_iff.mpr ⟨_, hDigits, rfl⟩, hRest⟩

theorem Masks.readSigned
    {hasMark : Bool} {exponent : Int}
    (hMasks : Masks false masked filled)
    (hRead : readSigned masked = some (hasMark, exponent, rest)) :
    ∃ rest',
      Json.readSigned filled = some (hasMark, exponent, rest') ∧
        Masks false rest rest' := by
  rcases hMasks.startsWith '-' (by decide) (by decide) with
    ⟨masked', filled', rfl, rfl, hRest⟩ | ⟨hMasked, hFilled⟩
  · rw [Json.readSigned] at hRead ⊢
    exact hRest.readMarked hRead
  rcases hMasks.startsWith '+' (by decide) (by decide) with
    ⟨masked', filled', rfl, rfl, hRest⟩ | ⟨hMasked', hFilled'⟩
  · rw [Json.readSigned] at hRead ⊢
    exact hRest.readMarked hRead
  · rw [Json.readSigned] at hRead ⊢
    · exact hMasks.readMarked hRead
    · exact hFilled
    · exact hFilled'
    · exact hMasked
    · exact hMasked'

theorem Masks.readExponent
    {hasMark : Bool} {exponent : Int}
    (hMasks : Masks false masked filled)
    (hRead : readExponent masked = some (hasMark, exponent, rest)) :
    ∃ rest',
      Json.readExponent filled = some (hasMark, exponent, rest') ∧
        Masks false rest rest' := by
  rcases hMasks.startsWith 'e' (by decide) (by decide) with
    ⟨masked', filled', rfl, rfl, hRest⟩ | ⟨hMasked, hFilled⟩
  · rw [readExponent_marked (Or.inl rfl)] at hRead ⊢
    exact hRest.readSigned hRead
  rcases hMasks.startsWith 'E' (by decide) (by decide) with
    ⟨masked', filled', rfl, rfl, hRest⟩ | ⟨hMasked', hFilled'⟩
  · rw [readExponent_marked (Or.inr rfl)] at hRead ⊢
    exact hRest.readSigned hRead
  · rw [readExponent_other hMasked hMasked'] at hRead
    rw [readExponent_other hFilled hFilled']
    cases hRead
    exact ⟨_, rfl, hMasks⟩

theorem Masks.readParts
    {negative : Bool} {n : Numeral}
    (hMasks : Masks false masked filled)
    (hRead : readParts negative masked = some (n, rest)) :
    ∃ rest', Json.readParts negative filled = some (n, rest') ∧
      Masks false rest rest' := by
  rcases readParts_eq_some_iff.mp hRead with
    ⟨_, _, _, _, _, _, hWhole, hFraction, hExponent, rfl⟩
  rcases hMasks.readWhole hWhole with ⟨_, hWhole, hMasks⟩
  rcases hMasks.readFraction hFraction with ⟨_, hFraction, hMasks⟩
  rcases hMasks.readExponent hExponent with ⟨rest', hExponent, hMasks⟩
  exact ⟨rest', readParts_eq_some_iff.mpr
    ⟨_, _, _, _, _, _, hWhole, hFraction, hExponent, rfl⟩,
    hMasks⟩

/- No number goes on in a gap. -/
theorem Masks.readNumeral
    {n : Numeral}
    (hMasks : Masks false masked filled)
    (hRead : readNumeral masked = some (n, rest)) :
    ∃ rest', Json.readNumeral filled = some (n, rest') ∧
      Masks false rest rest' := by
  rcases hMasks.startsWith '-' (by decide) (by decide) with
    ⟨masked', filled', rfl, rfl, hRest⟩ | ⟨hMasked, hFilled⟩
  · rw [readNumeral_minus] at hRead ⊢
    exact hRest.readParts hRead
  · rw [readNumeral_other hMasked] at hRead
    rw [readNumeral_other hFilled]
    exact hMasks.readParts hRead

end

------------------------------------------------------------
-- Texts
------------------------------------------------------------

/- Units with two second halves of a pair, one after the other. -/
inductive IsTorn : List TextUnit → Prop
  | here (back : List TextUnit) :
      IsTorn (.code 0xDC00 :: .code 0xDC00 :: back)
  | there {units : List TextUnit} (unit : TextUnit) (hTorn : IsTorn units) :
      IsTorn (unit :: units)

theorem textOfUnits_low
    (units : List TextUnit) :
    textOfUnits (.code 0xDC00 :: units) = none := by
  cases units with
  | nil => rfl
  | cons unit units => cases unit <;> rfl

/- A unit forms a pair with the next one only. -/
theorem textOfUnits_cons
    {units : List TextUnit}
    (hRest : textOfUnits units = none)
    (hTail : textOfUnits units.tail = none)
    (unit : TextUnit) :
    textOfUnits (unit :: units) = none := by
  cases unit with
  | char c => rw [textOfUnits, hRest, Option.map_none]
  | code n =>
      cases units with
      | nil => cases hRest
      | cons next units =>
          cases next with
          | char c =>
              rw [textOfUnits, hRest, Option.map_none, ite_self]
              rintro _ _ hSame
              cases hSame
          | code m =>
              rw [List.tail_cons] at hTail
              rw [textOfUnits, hRest, hTail]
              simp only [Option.map_none, ite_self]

/- One of two second halves has no first half in front. -/
theorem textOfUnits_of_isTorn
    {units : List TextUnit}
    (hTorn : IsTorn units) :
    textOfUnits units = none ∧ textOfUnits units.tail = none := by
  induction hTorn with
  | here back => exact ⟨textOfUnits_low _, textOfUnits_low _⟩
  | there unit _ ih => exact ⟨textOfUnits_cons ih.1 ih.2 unit, ih.1⟩

/- No digit is a backslash. -/
theorem ne_backslash_of_number?
    {ds : List Char} {n : Nat}
    (hNumber : Hex.number? ds = some n) :
    ∀ d ∈ ds, d ≠ '\\' := by
  rw [Hex.number?] at hNumber
  generalize 0 = start at hNumber
  induction ds generalizing start with
  | nil => exact fun _ hMem => absurd hMem List.not_mem_nil
  | cons d ds ih =>
      rw [List.foldlM_cons] at hNumber
      rcases Option.bind_eq_some_iff.mp hNumber with ⟨next, hDigit, hRest⟩
      refine List.forall_mem_cons.mpr ⟨?_, ih next hRest⟩
      rintro rfl
      cases hDigit

variable {masked filled rest : List Char}

/- The escapes in a gap are torn. -/
theorem spells_unpairedEscapes
    {units : List TextUnit}
    (hSpells : Spells (unpairedEscapes ++ masked) units rest) :
    ∃ more, units = .code 0xDC00 :: .code 0xDC00 :: more ∧
      Spells masked more rest := by
  have hCode : Hex.number? ['d', 'c', '0', '0'] = some 0xDC00 := by decide
  have hRead :
      readUnits (unpairedEscapes ++ masked) =
        (readUnits masked).map fun r =>
          (.code 0xDC00 :: .code 0xDC00 :: r.1, r.2) := by
    change readUnits ('\\' :: 'u' :: 'd' :: 'c' :: '0' :: '0' ::
      '\\' :: 'u' :: 'd' :: 'c' :: '0' :: '0' :: masked) = _
    rw [readUnits, readUnits, hCode]
    cases readUnits masked <;> rfl
  rw [← readUnits_eq_some_iff, hRead] at hSpells
  rcases Option.map_eq_some_iff.mp hSpells with ⟨⟨more, after⟩, hMore, hSame⟩
  cases hSame
  exact ⟨more, rfl, readUnits_eq_some_iff.mp hMore⟩

/-
  A text with gaps is spelled up to the same quotation mark as the filled
  one. Its units are the same, or torn where there is a gap.
-/
theorem Masks.spells
    {units : List TextUnit}
    (hMasks : Masks false masked filled)
    (hSpells : Spells masked units rest) :
    ∃ units' rest',
      Spells filled units' rest' ∧ Masks false rest rest' ∧
        (units = units' ∨ IsTorn units) := by
  -- a gap holds two escapes, which are two steps of the spelling
  induction hLength :
    masked.length using Nat.strongRecOn generalizing masked filled units with
  | ind length ih =>
      subst hLength
      have hWhole := hSpells
      cases hSpells with
      | close =>
          rcases hMasks.uncons (by decide) with ⟨filled', rfl, hRest⟩
          exact ⟨_, _, .close, hRest, Or.inl rfl⟩
      | @char c cs _ units hQuote hBackslash hControl hMore =>
          rcases hMasks.uncons hBackslash with ⟨filled', rfl, hRest⟩
          rcases ih _ (Nat.lt_succ_self _) hRest hMore rfl with
            ⟨units', rest', hSpells, hAfter, hUnits⟩
          refine ⟨_, _, .char hQuote hBackslash hControl hSpells, hAfter, ?_⟩
          exact hUnits.imp (congrArg _) (.there _)
      | @letter e c cs _ units hChar hMore =>
          rcases hMasks.backslash with
            ⟨filled', rfl, hEscaped⟩ | ⟨_, _, _, hGap, -⟩
          · have hOther : e ≠ '\x00' := by
              rintro rfl
              cases hChar
            rcases hEscaped.escaped hOther with ⟨filled', rfl, hRest⟩
            rcases ih _
              (Nat.lt_succ_of_lt (Nat.lt_succ_self _)) hRest hMore rfl with
              ⟨units', rest', hSpells, hAfter, hUnits⟩
            refine ⟨_, _, .letter hChar hSpells, hAfter, ?_⟩
            exact hUnits.imp (congrArg _) (.there _)
          · rw [hGap] at hWhole
            rcases spells_unpairedEscapes hWhole with ⟨_, hUnits, -⟩
            cases hUnits
      | @code a b c d n cs _ units hCode hMore =>
          rcases hMasks.backslash with
            ⟨filled', rfl, hEscaped⟩ | ⟨e, masked',
              filled', hGap, rfl, hBeyond, hRest⟩
          · have hDigits := ne_backslash_of_number? hCode
            simp only [List.forall_mem_cons] at hDigits
            rcases hDigits with ⟨hA, hB, hC, hD, -⟩
            rcases hEscaped.escaped (by decide) with ⟨_, rfl, hAfterLetter⟩
            rcases hAfterLetter.uncons hA with ⟨_, rfl, hAfterA⟩
            rcases hAfterA.uncons hB with ⟨_, rfl, hAfterB⟩
            rcases hAfterB.uncons hC with ⟨_, rfl, hAfterC⟩
            rcases hAfterC.uncons hD with ⟨filled', rfl, hRest⟩
            rcases ih cs.length
              (by simp only [List.length_cons]; omega) hRest hMore rfl with
              ⟨units', rest', hSpells, hAfter, hUnits⟩
            refine ⟨_, _, .code hCode hSpells, hAfter, ?_⟩
            exact hUnits.imp (congrArg _) (.there _)
          · have hShorter : masked'.length <
                ('\\' :: 'u' :: a :: b :: c :: d :: cs).length := by
              rw [hGap, List.length_append]
              exact Nat.lt_add_of_pos_left (by decide)
            rw [hGap] at hWhole
            rcases spells_unpairedEscapes hWhole with ⟨more, hUnits, hMore⟩
            rcases ih _ hShorter hRest hMore rfl with
              ⟨units', rest', hSpells, hAfter, -⟩
            have hPlain : e ≠ '"' ∧ e ≠ '\\' ∧ ¬ e.toNat < 32 := by
              refine ⟨?_, ?_, by omega⟩ <;>
              · rintro rfl
                exact absurd hBeyond (by decide)
            refine ⟨_, _, .char hPlain.1 hPlain.2.1 hPlain.2.2 hSpells,
              hAfter, Or.inr ?_⟩
            rw [hUnits]
            exact .here more

/- A text that can be read has no gap. -/
theorem Masks.readString
    {s : Option String}
    (hMasks : Masks false masked filled)
    (hRead : readString masked = some (s, rest)) :
    ∃ s' rest',
      Json.readString filled = some (s', rest') ∧ Masks false rest rest' ∧
        ∀ text, s = some text → s' = some text := by
  rcases Option.map_eq_some_iff.mp hRead with ⟨⟨units, after⟩, hUnits, hSame⟩
  cases hSame
  rcases hMasks.spells (readUnits_eq_some_iff.mp hUnits) with
    ⟨units', rest', hSpells, hRest, hSameUnits⟩
  refine ⟨_, rest', Option.map_eq_some_iff.mpr
    ⟨_, readUnits_eq_some_iff.mpr hSpells, rfl⟩, hRest,
    ?_⟩
  intro text hText
  rcases hSameUnits with rfl | hTorn
  · exact hText
  · rw [(textOfUnits_of_isTorn hTorn).1] at hText
    cases hText

end Json

end ProcessEvents
