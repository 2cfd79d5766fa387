import ProcessEvents.Proofs.Json.Restoration

/-
  An open record keeps the members that it does not know. This
  file follows them from what has been decoded to what is
  written, also where the record is part of another one, in
  which it is found by the name of its field or, if the other
  one has been given as an array, by its position.

  Key definitions include:
    * `Json.field?`
    * `Json.CarriesUnknown`
    * `Json.CarriesField`, `Json.CarriesEach`
    * `Codec.Carries`, `Fields.Carries`
    * `Fields.Regular`

  Key theorems include:
    * `Codec.Carries.unknown`
    * `Fields.Carries.right`
    * `Codec.Carries.record`, `Codec.Carries.openRecord`
-/

namespace ProcessEvents

open Json

variable {α β : Type}

------------------------------------------------------------
-- Parts that are carried along
------------------------------------------------------------

namespace Json

/-
  The value of a field, which has a name among members and a
  position among items.
-/
def field?
    (position : Nat)
    (name : String) : Json → Option Json
  | .obj members => find? members name
  | .arr items => items[position]?
  | _ => none

/-
  No key stands twice in the second object. It has a member
  for each key of the first one that is none of the names:
  the free value of the last one with this key, which is this
  value itself if nothing is embedded in it.
-/
def CarriesUnknown
    (names : List String)
    (j e : Json) : Prop :=
  ∃ members members',
    j = .obj members ∧
      e = .obj members' ∧
      (members'.map (·.1)).Nodup ∧
      ∀ key, key ∉ names → ∀ v, find? members.reverse key = some v →
        ∃ v', free? v = some v' ∧ find? members' key = some v' ∧
          (isLiteral v = true → normal? v = some v')

/-
  A field of the first value that is given has a counterpart
  in the second one.
-/
def CarriesField
    (position : Nat)
    (name : String)
    (R : Json → Json → Prop)
    (j e : Json) : Prop :=
  ∀ v, j.field? position name = some v → v ≠ .null →
    ∃ w, e.field? position name = some w ∧ R v w

/-
  Each item of the first array has a counterpart at its
  place in the second one.
-/
def CarriesEach
    (R : Json → Json → Prop)
    (j e : Json) : Prop :=
  ∃ items items', j = .arr items ∧ e = .arr items' ∧ List.Forall₂ R items items'

end Json

/- Whatever is decoded is related to what is written for it. -/
def Codec.Carries
    (c : Codec α)
    (R : Json → Json → Prop) : Prop :=
  ∀ j x, c.decode j = some x → R j (c.encode x)

/-
  A field that is read, and is no `null`, is related to a
  written member with its name.
-/
structure Fields.Carries
    (f : Fields α)
    (position : Nat)
    (name : String)
    (R : Json → Json → Prop) : Prop where
  ofMembers :
    ∀ find x, f.ofMembers find = some x →
      ∀ v, find name = some v → v ≠ .null →
        ∃ w, (name, w) ∈ f.toMembers x ∧ R v w
  ofItems :
    ∀ items x rest, f.ofItems items = some (x, rest) →
      ∀ v, items[position]? = some v → v ≠ .null →
        ∃ w, (name, w) ∈ f.toMembers x ∧ R v w

/-
  Each field takes one item, as long as there are any, and
  is written under its name, if at all.
-/
class Fields.Regular
    (f : Fields α) : Prop where
  rest : ∀ items x rest, f.ofItems items = some (x, rest) →
    rest = items.drop f.names.length
  keys : ∀ x, ((f.toMembers x).map (·.1)).Sublist f.names

------------------------------------------------------------
-- Single fields
------------------------------------------------------------

theorem Codec.Carries.list
    {c : Codec α} {R : Json → Json → Prop}
    (hCarries : c.Carries R) :
    (Codec.list c).Carries (CarriesEach R) := by
  intro j xs hDecode
  simp only [Codec.list] at hDecode
  split at hDecode
  · rename_i items
    refine ⟨items, xs.map c.encode, rfl, rfl, ?_⟩
    rw [List.forall₂_map_right_iff]
    exact (mapM_eq_some_iff.mp hDecode).imp hCarries
  · cases hDecode

namespace Fields

variable {c : Codec α} {f : Fields α} {g : Fields β} {R : Json → Json → Prop}

instance
    {name : String} {dflt : α} :
    (Fields.field name c dflt).Regular where
  rest items x rest hItems := by
    simp only [Fields.field] at hItems
    split at hItems
    · cases hItems
      rfl
    · rcases Option.map_eq_some_iff.mp hItems with ⟨x', -, hEnd⟩
      cases hEnd
      rfl
  keys _ := List.Sublist.refl _

instance
    {name : String} :
    (Fields.text name).Regular :=
  inferInstanceAs (Fields.field name Codec.string "").Regular

instance
    {name : String} :
    (Fields.flag name).Regular :=
  inferInstanceAs (Fields.field name Codec.bool false).Regular

instance
    {name : String} :
    (Fields.items name c).Regular :=
  inferInstanceAs (Fields.field name (Codec.list c) ([] : List α)).Regular

instance
    {name : String} :
    (Fields.optional name c).Regular :=
  inferInstanceAs (Fields.field name (Codec.option c) (none : Option α)).Regular

instance
    {name : String} :
    (Fields.present name c).Regular where
  rest := Regular.rest (f := Fields.optional name c)
  keys
    | none => List.nil_sublist _
    | some _ => List.Sublist.refl _

instance
    [hFirst : f.Regular] [hSecond : g.Regular] :
    (f.pair g).Regular where
  rest items p rest hItems := by
    rcases ofItems_pair.mp hItems with ⟨middle, hLeft, hRight⟩
    rw [hSecond.rest _ _ _ hRight, hFirst.rest _ _ _ hLeft, List.drop_drop,
      Fields.pair, List.length_append]
  keys p := by
    simp only [Fields.pair, List.map_append]
    exact (hFirst.keys p.1).append (hSecond.keys p.2)

/- The first item is that of the field. -/
theorem decode_of_ofItems
    {name : String} {dflt x : α} {items rest : List Json} {v : Json}
    (hItems : (Fields.field name c dflt).ofItems items = some (x, rest))
    (hItem : items[0]? = some v) :
    c.decode v = some x := by
  cases items with
  | nil => cases hItem
  | cons j items =>
      cases hItem
      rcases Option.map_eq_some_iff.mp hItems with ⟨x', hValue, hEnd⟩
      cases hEnd
      exact hValue

namespace Carries

theorem field
    (name : String) (dflt : α)
    (hCarries : c.Carries R) :
    (Fields.field name c dflt).Carries 0 name R where
  ofMembers find x hMembers v hFind _ := by
    simp only [Fields.field, hFind] at hMembers
    exact ⟨c.encode x, List.mem_singleton.mpr rfl, hCarries v x hMembers⟩
  ofItems items x rest hItems v hItem _ :=
    ⟨c.encode x, List.mem_singleton.mpr rfl,
      hCarries v x (decode_of_ofItems hItems hItem)⟩

/- Of an optional value, only `null` is not decoded by its own codec. -/
theorem option
    (hCarries : c.Carries R)
    {v : Json} {x : Option α}
    (hDecode : (Codec.option c).decode v = some x)
    (hNull : v ≠ .null) :
    ∃ y, x = some y ∧ R v (c.encode y) := by
  simp only [Codec.option] at hDecode
  rcases Option.map_eq_some_iff.mp hDecode with ⟨y, hValue, rfl⟩
  exact ⟨y, rfl, hCarries v y hValue⟩

theorem present
    (name : String)
    (hCarries : c.Carries R) :
    (Fields.present name c).Carries 0 name R where
  ofMembers find x hMembers v hFind hNull := by
    simp only [Fields.present, Fields.omitting,
      Fields.optional, Fields.field, hFind] at hMembers
    rcases option hCarries hMembers hNull with ⟨y, rfl, hRel⟩
    exact ⟨c.encode y, List.mem_singleton.mpr rfl, hRel⟩
  ofItems items x rest hItems v hItem hNull := by
    have hField :
        (Fields.optional name c).ofItems items = some (x, rest) := hItems
    rcases option hCarries (decode_of_ofItems hField hItem) hNull with
      ⟨y, rfl, hRel⟩
    exact ⟨c.encode y, List.mem_singleton.mpr rfl, hRel⟩

theorem mem_optional_of_mem_present
    {name : String} {x : Option α} {m : String × Json}
    (hMem : m ∈ (Fields.present name c).toMembers x) :
    m ∈ (Fields.optional name c).toMembers x := by
  simp only [Fields.present, Fields.omitting] at hMem
  split at hMem
  · cases hMem
  · exact hMem

/- Whether missing values are left out does not matter for others. -/
theorem optional
    (name : String)
    (hCarries : c.Carries R) :
    (Fields.optional name c).Carries 0 name R where
  ofMembers find x hMembers v hFind hNull := by
    rcases (present name hCarries).ofMembers find x hMembers v hFind hNull with
      ⟨w, hMem, hRel⟩
    exact ⟨w, mem_optional_of_mem_present hMem, hRel⟩
  ofItems items x rest hItems v hItem hNull := by
    rcases (present name hCarries).ofItems items x rest hItems v hItem hNull
      with ⟨w, hMem, hRel⟩
    exact ⟨w, mem_optional_of_mem_present hMem, hRel⟩

theorem left
    {position : Nat} {name : String}
    (hCarries : f.Carries position name R) :
    (f.pair g).Carries position name R where
  ofMembers find p hMembers v hFind hNull := by
    rcases ofMembers_pair.mp hMembers with ⟨hFirst, -⟩
    rcases hCarries.ofMembers find p.1 hFirst v hFind hNull with ⟨w, hMem, hRel⟩
    exact ⟨w, List.mem_append_left _ hMem, hRel⟩
  ofItems items p rest hItems v hItem hNull := by
    rcases ofItems_pair.mp hItems with ⟨middle, hFirst, -⟩
    rcases hCarries.ofItems items p.1 middle hFirst v hItem hNull with
      ⟨w, hMem, hRel⟩
    exact ⟨w, List.mem_append_left _ hMem, hRel⟩

theorem right
    [hRegular : f.Regular]
    {position : Nat} {name : String}
    (hCarries : g.Carries position name R) :
    (f.pair g).Carries (f.names.length + position) name R where
  ofMembers find p hMembers v hFind hNull := by
    rcases ofMembers_pair.mp hMembers with ⟨-, hSecond⟩
    rcases hCarries.ofMembers find p.2 hSecond v hFind hNull with
      ⟨w, hMem, hRel⟩
    exact ⟨w, List.mem_append_right _ hMem, hRel⟩
  ofItems items p rest hItems v hItem hNull := by
    rcases ofItems_pair.mp hItems with ⟨middle, hFirst, hSecond⟩
    rw [hRegular.rest items p.1 middle hFirst] at hSecond
    rw [← List.getElem?_drop] at hItem
    rcases hCarries.ofItems _ p.2 rest hSecond v hItem hNull with
      ⟨w, hMem, hRel⟩
    exact ⟨w, List.mem_append_right _ hMem, hRel⟩

end Carries

end Fields

------------------------------------------------------------
-- Members
------------------------------------------------------------

namespace Codec

variable {f : Fields α}

/- Members are looked up in what has been decoded of them. -/
theorem find?_of_forall₂
    {γ : Type} {decode : Json → Option γ} {members : List (String × Json)}
    {l : List (String × γ)}
    {key : String} {v : Json}
    (hAll :
      List.Forall₂ (fun m e => e.1 = m.1 ∧ decode m.2 = some e.2) members l)
    (hFind : find? members key = some v) :
    ∃ v', decode v = some v' ∧
      (l.find? fun e => e.1 == key).map (·.2) = some v' := by
  induction hAll with
  | nil => cases hFind
  | @cons m e members l hHead _ ih =>
      rcases m with ⟨k, j⟩
      rcases e with ⟨k', x⟩
      rcases hHead with ⟨rfl, hValue⟩
      rw [find?, List.find?_cons] at hFind
      rw [List.find?_cons]
      split at hFind
      · rename_i hKey
        cases hFind
        rw [hKey]
        exact ⟨x, hValue, rfl⟩
      · rename_i hKey
        rw [hKey]
        exact ih hFind

theorem find?_others
    {names : List String} {members : List (String × Json)} {key : String}
    (hKey : key ∉ names) :
    find? (others names members) key = find? members key := by
  rw [find?, others, List.find?_filter]
  congr 2
  funext m
  by_cases hSame : m.1 = key
  · simp [hSame, hKey]
  · simp [hSame]

theorem find?_reverse_others
    {names : List String} {members : List (String × Json)} {key : String}
    (hKey : key ∉ names) :
    find? (others names members).reverse key = find? members.reverse key := by
  rw [others, ← List.filter_reverse, ← others, find?_others hKey]

/- A key that is written is that of a field, or has been given. -/
theorem mem_keys_of_openRecord
    [hRegular : f.Regular]
    {make : α → Dict Json → β} {of : β → α × Dict Json}
    {members members' : List (String × Json)} {y : β} {key : String}
    (hOf : ∀ x d, of (make x d) = (x, d))
    (hDecode : (Codec.openRecord f make of).decode (.obj members) = some y)
    (hEncode : (Codec.openRecord f make of).encode y = .obj members')
    (hMem : key ∈ members'.map (·.1)) :
    key ∈ f.names ∨ key ∈ members.map (·.1) := by
  rcases exists_of_openRecord hDecode with ⟨_, x, l, hSame, -, hOthers, rfl⟩
  cases hSame
  simp only [Codec.openRecord, hOf, Json.obj.injEq] at hEncode
  rw [← hEncode, List.map_append, keys_encodeEntries, List.mem_append] at hMem
  rcases hMem with hKnown | hUnknown
  · exact .inl ((hRegular.keys x).subset hKnown)
  · rcases List.mem_map.mp hUnknown with ⟨e, hEntry, rfl⟩
    rcases exists_of_mem_right (decodeMembers_eq_some_iff.mp hOthers)
      (Dict.mem_of_mem_entries_ofList hEntry) with ⟨m, hIn, hKey, -⟩
    exact .inr (List.mem_map.mpr ⟨m, List.mem_of_mem_filter hIn, hKey.symm⟩)

end Codec

------------------------------------------------------------
-- Records
------------------------------------------------------------

namespace Codec.Carries

variable {c : Codec α} {f : Fields α} {R S : Json → Json → Prop}
  {position : Nat} {name : String}

theorem and
    (hLeft : c.Carries R)
    (hRight : c.Carries S) :
    c.Carries fun j e => R j e ∧ S j e :=
  fun j x hDecode => ⟨hLeft j x hDecode, hRight j x hDecode⟩

/-
  A closed record is given as an object or as an array, and
  is written as an object.
-/
theorem record
    [hRegular : f.Regular]
    {make : α → β} {of : β → α}
    (hNames : f.names.Nodup)
    (hOf : ∀ x, of (make x) = x)
    (hCarries : f.Carries position name R) :
    (Codec.record f make of).Carries (CarriesField position name R) := by
  intro j y hDecode v hField hNull
  have hWritten :
      ∀ x, make x = y → (∃ w, (name, w) ∈ f.toMembers x ∧ R v w) →
        ∃ w, ((Codec.record f make of).encode y).field? position name = some w ∧
          R v w := by
    rintro x rfl ⟨w, hMem, hRel⟩
    refine ⟨w, ?_, hRel⟩
    rw [Codec.record, field?, hOf]
    exact find?_of_nodup ((hRegular.keys x).nodup hNames) hMem
  cases j with
  | obj members =>
      simp only [Codec.record, Option.ite_none_left_eq_some,
        Option.map_eq_some_iff] at hDecode
      rcases hDecode with ⟨-, x, hMembers, hMake⟩
      exact hWritten x hMake (hCarries.ofMembers _ x hMembers v hField hNull)
  | arr items =>
      simp only [Codec.record] at hDecode
      split at hDecode
      · rename_i x hItems
        exact hWritten x (Option.some.inj hDecode)
          (hCarries.ofItems items x [] hItems v hField hNull)
      · cases hDecode
  | null | bool b | int n | double x | str s | unreadable => cases hField

/- An open record is given and written as an object. -/
theorem openRecord
    [hRegular : f.Regular]
    {make : α → Dict Json → β} {of : β → α × Dict Json}
    (hNames : f.names.Nodup)
    (hOf : ∀ x d, of (make x d) = (x, d))
    (hCarries : f.Carries position name R) :
    (Codec.openRecord f make of).Carries (CarriesField position name R) := by
  intro j y hDecode v hField hNull
  rcases exists_of_openRecord hDecode with
    ⟨members, x, l, rfl, hMembers, hOthers, rfl⟩
  rcases hCarries.ofMembers _ x hMembers v hField hNull with ⟨w, hMem, hRel⟩
  have hKeys :=
    nodup_keys_append hNames (hRegular.keys x) (notMem_keys_of_others hOthers)
  refine ⟨w, ?_, hRel⟩
  rw [Codec.openRecord, field?, hOf]
  exact find?_of_nodup hKeys (List.mem_append_left _ hMem)

/-
  Members that are not known are the free values of the last
  ones with their keys.
-/
theorem unknown
    [hRegular : f.Regular]
    {make : α → Dict Json → β} {of : β → α × Dict Json}
    (hNames : f.names.Nodup)
    (hOf : ∀ x d, of (make x d) = (x, d)) :
    (Codec.openRecord f make of).Carries (CarriesUnknown f.names) := by
  intro j y hDecode
  rcases exists_of_openRecord hDecode with
    ⟨members, x, l, rfl, hMembers, hOthers, rfl⟩
  have hKeys :=
    nodup_keys_append hNames (hRegular.keys x) (notMem_keys_of_others hOthers)
  refine ⟨members, _, rfl, congrArg Json.obj (by rw [hOf]),
    hKeys, fun key hKey v hFind => ?_⟩
  have hUnknown : find? (others f.names members).reverse key = some v := by
    rw [find?_reverse_others hKey]
    exact hFind
  have hAll :=
    List.forall₂_reverse_iff.mpr (decodeMembers_eq_some_iff.mp hOthers)
  rcases find?_of_forall₂ hAll hUnknown with ⟨v', hFree, hEntry⟩
  have hMem : (key, v') ∈ (Dict.ofList l).entries := by
    rw [Dict.mem_entries_iff, Dict.get?_ofList]
    exact hEntry
  refine ⟨v', hFree, ?_, fun hLiteral => normal?_of_free? hLiteral hFree⟩
  exact find?_of_nodup hKeys
    (List.mem_append_right _ (List.mem_map.mpr ⟨_, hMem, rfl⟩))

end Codec.Carries

end ProcessEvents
