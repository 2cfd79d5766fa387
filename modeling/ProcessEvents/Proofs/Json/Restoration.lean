import ProcessEvents.Proofs.Json.FreeValues
import ProcessEvents.Proofs.Json.Inverse

/-
  What has been decoded is written, and decoded again. This
  file shows when the same value comes out, first for single
  fields and then for the records that they make up. All but
  free values are restored as they are.

  In contrast to the inverse laws, which are about any value
  that is written, nothing is asked of a value here but that
  it has been decoded from something.

  Key definitions include:
    * `Codec.Reads`, `Fields.Reads`
    * `Codec.Restores`, `Fields.Restores`
    * `Codec.Faithful`, `Fields.Faithful`

  Key theorems include:
    * `Codec.Restores.free`
    * `Codec.Restores.list`, `Codec.Restores.dict`, `Codec.Restores.option`
    * `Fields.Restores.pair`
    * `Codec.Restores.record`, `Codec.Restores.openRecord`
-/

namespace ProcessEvents

open Json

variable {α β γ : Type}

------------------------------------------------------------
-- Restored values
------------------------------------------------------------

/- The value is decoded from something. -/
def Codec.Reads
    (c : Codec α)
    (x : α) : Prop :=
  ∃ j, c.decode j = some x

/-
  Each value that has been decoded is written in a readable
  form, and is decoded again from it if and only if it has
  the property.
-/
structure Codec.Restores
    (c : Codec α)
    (P : α → Prop) : Prop where
  isReadable : ∀ x, c.Reads x → (c.encode x).isReadable = true
  decode_iff : ∀ x, c.Reads x → (c.decode (c.encode x) = some x ↔ P x)

/-
  The value is read from the members of an object or from
  the items of an array.
-/
def Fields.Reads
    (f : Fields α)
    (x : α) : Prop :=
  (∃ find, f.ofMembers find = some x) ∨ ∃ items rest,
    f.ofItems items = some (x, rest)

/-
  The same of a group of fields, which are looked up among
  the members that have been written.
-/
structure Fields.Restores
    (f : Fields α)
    (P : α → Prop) : Prop where
  keys : ∀ x, ((f.toMembers x).map (·.1)).Sublist f.names
  isReadable : ∀ x, f.Reads x → ∀ m ∈ f.toMembers x, m.2.isReadable = true
  ofMembers_iff :
    f.names.Nodup →
      ∀ x, f.Reads x →
        ∀ find : String → Option Json,
          (∀ name ∈ f.names, find name = find? (f.toMembers x) name) →
            (f.ofMembers find = some x ↔ P x)

/- Whatever has been decoded is restored, and is never written as `null`. -/
class Codec.Faithful
    (c : Codec α) : Prop where
  restores : c.Restores fun _ => True
  encode_ne_null : ∀ x, c.encode x ≠ .null

class Fields.Faithful
    (f : Fields α) : Prop where
  restores : f.Restores fun _ => True

/- The default of a field might have been decoded as well. -/
class Codec.Defaults
    (c : Codec α)
    (dflt : α) : Prop where
  reads : c.Reads dflt

theorem Codec.Restores.of_iff
    {c : Codec α} {P Q : α → Prop}
    (hRestores : c.Restores P)
    (hSame : ∀ x, P x ↔ Q x) :
    c.Restores Q where
  isReadable := hRestores.isReadable
  decode_iff x hReads := (hRestores.decode_iff x hReads).trans (hSame x)

/- Of a codec that never decodes anything, nothing is asked. -/
theorem Codec.Restores.of_never
    {c : Codec α} {P : α → Prop}
    (hNever : ∀ x, ¬ c.Reads x) :
    c.Restores P where
  isReadable x hReads := absurd hReads (hNever x)
  decode_iff x hReads := absurd hReads (hNever x)

theorem Fields.Restores.of_iff
    {f : Fields α} {P Q : α → Prop}
    (hRestores : f.Restores P)
    (hSame : ∀ x, P x ↔ Q x) :
    f.Restores Q where
  keys := hRestores.keys
  isReadable := hRestores.isReadable
  ofMembers_iff hNames x hReads find hFind :=
    (hRestores.ofMembers_iff hNames x hReads find hFind).trans (hSame x)

------------------------------------------------------------
-- Readable values
------------------------------------------------------------

theorem Json.isReadable_arr_iff
    {items : List Json} :
    (arr items).isReadable = true ↔ ∀ j ∈ items, j.isReadable = true := by
  rw [isReadable, normal?, Option.isSome_map]
  induction items with
  | nil => simp [normalItems?]
  | cons j rest ih =>
      rw [List.forall_mem_cons, ← ih, normalItems?, isReadable]
      cases normal? j with
      | none => simp
      | some j' =>
          cases normalItems? rest with
          | none => simp
          | some rest' => simp

theorem Json.isReadable_obj_iff
    {members : List (String × Json)} :
    (obj members).isReadable = true ↔ ∀ m ∈ members, m.2.isReadable = true := by
  rw [isReadable, normal?, Option.isSome_map]
  induction members with
  | nil => simp [normalMembers?]
  | cons m rest ih =>
      rw [List.forall_mem_cons, ← ih, normalMembers?, isReadable]
      cases normal? m.2 with
      | none => simp
      | some j' =>
          cases normalMembers? rest with
          | none => simp
          | some rest' => simp

------------------------------------------------------------
-- Members
------------------------------------------------------------

theorem Json.find?_eq_none
    {members : List (String × Json)} {name : String}
    (hKey : name ∉ members.map (·.1)) :
    find? members name = none := by
  rw [find?, Option.map_eq_none_iff, List.find?_eq_none]
  intro m hMem hSame
  exact hKey (List.mem_map.mpr ⟨m, hMem, beq_iff_eq.mp hSame⟩)

theorem Json.find?_append
    (members members' : List (String × Json)) (name : String) :
    find? (members ++ members') name =
      (find? members name).or (find? members' name) := by
  rw [find?, List.find?_append, Option.map_or]
  rfl

------------------------------------------------------------
-- Single values
------------------------------------------------------------

namespace Codec

instance : Codec.string.Faithful where
  restores :=
    { isReadable := fun _ _ => rfl
      decode_iff := fun _ _ => iff_true_intro rfl }
  encode_ne_null _ := nofun

instance : Codec.bool.Faithful where
  restores :=
    { isReadable := fun _ _ => rfl
      decode_iff := fun _ _ => iff_true_intro rfl }
  encode_ne_null _ := nofun

/- An integer has been within the bounds. -/
instance
    {low high : Int} :
    (Codec.int low high).Faithful where
  restores :=
    { isReadable := fun _ _ => rfl
      decode_iff := by
        rintro n ⟨j, hDecode⟩
        apply iff_true_intro
        simp only [Codec.int] at hDecode ⊢
        split at hDecode
        · split at hDecode
          · rename_i hBounds
            cases hDecode
            exact if_pos hBounds
          · cases hDecode
        · cases hDecode }
  encode_ne_null _ := nofun

instance : Codec.int64.Faithful :=
  inferInstanceAs (Codec.int _ _).Faithful

instance : Codec.int32.Faithful :=
  inferInstanceAs (Codec.int _ _).Faithful

/- A free value is restored if nothing in it looks like an embedded value. -/
theorem Restores.free :
    Codec.free.Restores (isLiteral · = true) where
  isReadable v hReads := by
    rcases hReads with ⟨j, hFree⟩
    exact isReadable_of_free? hFree
  decode_iff v hReads := by
    rcases hReads with ⟨j, hFree⟩
    exact free?_eq_self_iff hFree

/- Texts in a form of their own, which can be parsed. -/
theorem Faithful.refine
    {c : Codec α} {make : α → Option β} {of : β → α}
    (hFaithful : c.Faithful)
    (hOf : ∀ y, c.Reads (of y))
    (hMake : ∀ y, make (of y) = some y) :
    (c.refine make of).Faithful where
  restores :=
    { isReadable := fun y _ => hFaithful.restores.isReadable (of y) (hOf y)
      decode_iff := fun y _ => by
        have hDecode :=
          (hFaithful.restores.decode_iff (of y) (hOf y)).mpr trivial
        apply iff_true_intro
        simp only [Codec.refine, hDecode, Option.bind_some, hMake] }
  encode_ne_null y := hFaithful.encode_ne_null (of y)

------------------------------------------------------------
-- Containers
------------------------------------------------------------

variable {c : Codec α} {P : α → Prop}

theorem Restores.list
    (hRestores : c.Restores P) :
    (Codec.list c).Restores fun xs => ∀ x ∈ xs, P x := by
  have hReads : ∀ xs, (Codec.list c).Reads xs → ∀ x ∈ xs, c.Reads x := by
    rintro xs ⟨j, hDecode⟩ x hMem
    simp only [Codec.list] at hDecode
    split at hDecode
    · rcases exists_of_mem_right (mapM_eq_some_iff.mp hDecode) hMem with
        ⟨j, -, hItem⟩
      exact ⟨j, hItem⟩
    · cases hDecode
  constructor
  · intro xs hList
    rw [Codec.list, isReadable_arr_iff]
    exact List.forall_mem_map.mpr fun x hMem =>
      hRestores.isReadable x (hReads xs hList x hMem)
  · intro xs hList
    simp only [Codec.list, mapM_eq_some_iff, List.forall₂_map_left_iff,
      List.forall₂_same]
    exact forall₂_congr fun x hMem =>
      hRestores.decode_iff x (hReads xs hList x hMem)

theorem decodeMembers_eq_some_iff
    {members : List (String × Json)} {l : List (String × α)} :
    decodeMembers c members = some l ↔
      List.Forall₂ (fun m e => e.1 = m.1 ∧ c.decode m.2 = some e.2) members l :=
  mapM_values_eq_some_iff

/-
  Entries that are decoded from what they are written as are
  the same if their values are.
-/
theorem decodeMembers_encodeEntries_iff
    (d : Dict α) :
    (decodeMembers c (encodeEntries c d.entries)).map Dict.ofList = some d ↔
      ∀ e ∈ d.entries, c.decode (c.encode e.2) = some e.2 := by
  constructor
  · intro hDecode
    rcases Option.map_eq_some_iff.mp hDecode with ⟨l, hMembers, hDict⟩
    have hAll := decodeMembers_eq_some_iff.mp hMembers
    have hKeys : l.map (·.1) = d.entries.map (·.1) := by
      rw [keys_of_forall₂ hAll fun _ _ hMember =>
        hMember.1, encodeEntries, List.map_map]
      rfl
    have hSame : l = d.entries := by
      rw [← Dict.entries_ofList_of_keys hKeys, hDict]
    rw [hSame, encodeEntries, List.forall₂_map_left_iff,
      List.forall₂_same] at hAll
    exact fun e hMem => (hAll e hMem).2
  · intro hValues
    rw [Inverts.decodeMembers_encodeEntries hValues,
      Option.map_some, Dict.ofList_entries]

/- The values of a decoded dictionary have been decoded. -/
theorem reads_of_decodeMembers
    {members : List (String × Json)} {l : List (String × α)} {e : String × α}
    (hDecode : decodeMembers c members = some l)
    (hMem : e ∈ (Dict.ofList l).entries) :
    c.Reads e.2 := by
  rcases exists_of_mem_right (decodeMembers_eq_some_iff.mp hDecode)
    (Dict.mem_of_mem_entries_ofList hMem) with ⟨m, -, -, hValue⟩
  exact ⟨m.2, hValue⟩

theorem Restores.dict
    (hRestores : c.Restores P) :
    (Codec.dict c).Restores fun d => ∀ e ∈ d.entries, P e.2 := by
  have hReads : ∀ d, (Codec.dict c).Reads d → ∀ e ∈ d.entries, c.Reads e.2 := by
    rintro d ⟨j, hDecode⟩ e hMem
    simp only [Codec.dict] at hDecode
    split at hDecode
    · rcases Option.map_eq_some_iff.mp hDecode with ⟨l, hMembers, rfl⟩
      exact reads_of_decodeMembers hMembers hMem
    · cases hDecode
  constructor
  · intro d hDict
    rw [Codec.dict, isReadable_obj_iff]
    exact List.forall_mem_map.mpr fun e hMem =>
      hRestores.isReadable e.2 (hReads d hDict e hMem)
  · intro d hDict
    exact (decodeMembers_encodeEntries_iff d).trans
      (forall₂_congr fun e hMem =>
        hRestores.decode_iff e.2 (hReads d hDict e hMem))

/- A value that is written as `null` is not found again. -/
theorem Restores.option
    (hRestores : c.Restores P) :
    (Codec.option c).Restores fun x => ∀ y ∈ x, c.encode y ≠ .null ∧ P y := by
  have hReads : ∀ y, (Codec.option c).Reads (some y) → c.Reads y := by
    rintro y ⟨j, hDecode⟩
    simp only [Codec.option] at hDecode
    split at hDecode
    · cases hDecode
    · rcases Option.map_eq_some_iff.mp hDecode with ⟨y', hValue, hSame⟩
      cases hSame
      exact ⟨_, hValue⟩
  constructor
  · intro x hOption
    cases x with
    | none => rfl
    | some y => exact hRestores.isReadable y (hReads y hOption)
  · intro x hOption
    cases x with
    | none =>
        constructor
        · rintro - y ⟨⟩
        · exact fun _ => rfl
    | some y =>
        have hIff := hRestores.decode_iff y (hReads y hOption)
        simp only [Codec.option, Option.mem_def, Option.some.injEq, forall_eq']
        split
        · rename_i hNull
          constructor
          · rintro ⟨⟩
          · exact fun hRestored => absurd hNull hRestored.1
        · rename_i hNull
          rw [Option.map_eq_some_iff, ← hIff]
          constructor
          · rintro ⟨y', hValue, hSame⟩
            cases hSame
            exact ⟨hNull, hValue⟩
          · exact fun hRestored => ⟨y, hRestored.2, rfl⟩

theorem Restores.option_of_ne_null
    (hRestores : c.Restores P)
    (hNull : ∀ y, c.encode y ≠ .null) :
    (Codec.option c).Restores fun x => ∀ y ∈ x, P y :=
  hRestores.option.of_iff fun _ =>
    forall₂_congr fun y _ => and_iff_right (hNull y)

instance
    [hFaithful : c.Faithful] :
    (Codec.list c).Faithful where
  restores :=
    hFaithful.restores.list.of_iff fun _ => iff_true_intro fun _ _ => trivial
  encode_ne_null _ := nofun

instance
    [hFaithful : c.Faithful] :
    (Codec.dict c).Faithful where
  restores :=
    hFaithful.restores.dict.of_iff fun _ => iff_true_intro fun _ _ => trivial
  encode_ne_null _ := nofun

/- An optional value is the only one that may be written as `null`. -/
theorem Faithful.option
    (hFaithful : c.Faithful) :
    (Codec.option c).Restores fun _ => True :=
  (hFaithful.restores.option_of_ne_null hFaithful.encode_ne_null).of_iff
    fun _ =>
    iff_true_intro fun _ _ => trivial

------------------------------------------------------------
-- Defaults
------------------------------------------------------------

instance : Codec.string.Defaults "" :=
  ⟨.str "", rfl⟩

instance : Codec.bool.Defaults false :=
  ⟨.bool false, rfl⟩

instance : Codec.int64.Defaults 0 :=
  ⟨.int 0, rfl⟩

instance : Codec.int32.Defaults 0 :=
  ⟨.int 0, rfl⟩

instance : (Codec.list c).Defaults [] :=
  ⟨.arr [], rfl⟩

instance : (Codec.dict c).Defaults .empty :=
  ⟨.obj [], rfl⟩

instance : (Codec.option c).Defaults none :=
  ⟨.null, rfl⟩

end Codec

------------------------------------------------------------
-- Fields
------------------------------------------------------------

namespace Fields

variable {c : Codec α} {f : Fields α} {g : Fields β}
  {P : α → Prop} {Q : β → Prop}

theorem reads_of_pair
    {p : α × β}
    (hReads : (f.pair g).Reads p) :
    f.Reads p.1 ∧ g.Reads p.2 := by
  rcases hReads with ⟨find, hMembers⟩ | ⟨items, rest, hItems⟩
  · rcases ofMembers_pair.mp hMembers with ⟨hFirst, hSecond⟩
    exact ⟨.inl ⟨find, hFirst⟩, .inl ⟨find, hSecond⟩⟩
  · rcases ofItems_pair.mp hItems with ⟨middle, hFirst, hSecond⟩
    exact ⟨.inr ⟨items, middle, hFirst⟩, .inr ⟨middle, rest, hSecond⟩⟩

namespace Restores

theorem field
    (name : String) {dflt : α}
    (hRestores : c.Restores P)
    (hDefault : c.Reads dflt) :
    (Fields.field name c dflt).Restores P := by
  have hReads : ∀ x, (Fields.field name c dflt).Reads x → c.Reads x := by
    rintro x (⟨find, hMembers⟩ | ⟨items, rest, hItems⟩)
    · simp only [Fields.field] at hMembers
      split at hMembers
      · cases hMembers
        exact hDefault
      · exact ⟨_, hMembers⟩
    · simp only [Fields.field] at hItems
      split at hItems
      · cases hItems
        exact hDefault
      · rcases Option.map_eq_some_iff.mp hItems with ⟨x', hValue, hEnd⟩
        cases hEnd
        exact ⟨_, hValue⟩
  constructor
  · exact fun _ => List.Sublist.refl _
  · exact fun x hField =>
      List.forall_mem_singleton.mpr (hRestores.isReadable x (hReads x hField))
  · intro _ x hField find hFind
    have hFound : find name = some (c.encode x) := by
      rw [hFind name List.mem_cons_self]
      simp [Fields.field, find?]
    simp only [Fields.field, hFound]
    exact hRestores.decode_iff x (hReads x hField)

theorem required
    (name : String)
    (hRestores : c.Restores P) :
    (Fields.required name c).Restores P := by
  have hReads : ∀ x, (Fields.required name c).Reads x → c.Reads x := by
    rintro x (⟨find, hMembers⟩ | ⟨items, rest, hItems⟩)
    · rcases Option.bind_eq_some_iff.mp hMembers with ⟨j, -, hValue⟩
      exact ⟨j, hValue⟩
    · simp only [Fields.required] at hItems
      split at hItems
      · cases hItems
      · rcases Option.map_eq_some_iff.mp hItems with ⟨x', hValue, hEnd⟩
        cases hEnd
        exact ⟨_, hValue⟩
  constructor
  · exact fun _ => List.Sublist.refl _
  · exact fun x hField =>
      List.forall_mem_singleton.mpr (hRestores.isReadable x (hReads x hField))
  · intro _ x hField find hFind
    have hFound : find name = some (c.encode x) := by
      rw [hFind name List.mem_cons_self]
      simp [Fields.required, find?]
    simp only [Fields.required, hFound, Option.bind_some]
    exact hRestores.decode_iff x (hReads x hField)

/- A value is left out if it is what a missing field is read as. -/
theorem omitting
    {omitted : α → Bool}
    (hRestores : f.Restores P)
    (hOmitted :
      ∀ x, omitted x = true →
        P x ∧
          ∀ find : String → Option Json,
            (∀ name ∈ f.names, find name = none) → f.ofMembers find = some x) :
    (f.omitting omitted).Restores P where
  keys x := by
    simp only [Fields.omitting]
    split
    · exact List.nil_sublist _
    · exact hRestores.keys x
  isReadable x hReads := by
    simp only [Fields.omitting]
    split
    · exact nofun
    · exact hRestores.isReadable x hReads
  ofMembers_iff hNames x hReads find hFind := by
    simp only [Fields.omitting] at hFind
    split at hFind
    · rename_i hOut
      rcases hOmitted x hOut with ⟨hP, hMissing⟩
      exact ⟨fun _ => hP, fun _ => hMissing find hFind⟩
    · exact hRestores.ofMembers_iff hNames x hReads find hFind

/- A value that may be missing is left out if it is. -/
theorem present
    {name : String} {R : Option α → Prop}
    (hRestores : (Codec.option c).Restores R) :
    (Fields.present name c).Restores R := by
  have hField : (Fields.optional name c).Restores R :=
    field name hRestores ⟨.null, rfl⟩
  apply hField.omitting
  intro x hOut
  rw [Option.isNone_iff_eq_none] at hOut
  subst hOut
  constructor
  · exact (hRestores.decode_iff none ⟨.null, rfl⟩).mp rfl
  · intro find hMissing
    simp only [Fields.optional, Fields.field, hMissing name List.mem_cons_self]

/-
  Of two groups without a common name, each is found among
  the members of both.
-/
theorem pair
    (hFirst : f.Restores P)
    (hSecond : g.Restores Q) :
    (f.pair g).Restores fun p => P p.1 ∧ Q p.2 where
  keys p := by
    simp only [Fields.pair, List.map_append]
    exact (hFirst.keys p.1).append (hSecond.keys p.2)
  isReadable p hReads := by
    rcases reads_of_pair hReads with ⟨hLeft, hRight⟩
    exact List.forall_mem_append.mpr
      ⟨hFirst.isReadable p.1 hLeft, hSecond.isReadable p.2 hRight⟩
  ofMembers_iff hNames p hReads find hFind := by
    rcases reads_of_pair hReads with ⟨hLeft, hRight⟩
    rcases List.nodup_append.mp hNames with ⟨hNamesFirst, hNamesSecond, hApart⟩
    rcases List.forall_mem_append.mp hFind with ⟨hFindFirst, hFindSecond⟩
    have hFoundFirst :
        ∀ name ∈ f.names, find name = find? (f.toMembers p.1) name := by
      intro name hName
      have hNone : find? (g.toMembers p.2) name = none :=
        find?_eq_none fun hKey =>
          hApart name hName name ((hSecond.keys p.2).subset hKey) rfl
      rw [hFindFirst name hName, Fields.pair,
        find?_append, hNone, Option.or_none]
    have hFoundSecond :
        ∀ name ∈ g.names, find name = find? (g.toMembers p.2) name := by
      intro name hName
      have hNone : find? (f.toMembers p.1) name = none :=
        find?_eq_none fun hKey =>
          hApart name ((hFirst.keys p.1).subset hKey) name hName rfl
      rw [hFindSecond name hName, Fields.pair,
        find?_append, hNone, Option.none_or]
    rw [ofMembers_pair,
      hFirst.ofMembers_iff hNamesFirst p.1 hLeft find hFoundFirst,
      hSecond.ofMembers_iff hNamesSecond p.2 hRight find hFoundSecond]

end Restores

------------------------------------------------------------
-- Fields that are always restored
------------------------------------------------------------

namespace Faithful

instance
    {name : String} {dflt : α}
    [hFaithful : c.Faithful] [hDefaults : c.Defaults dflt] :
    (Fields.field name c dflt).Faithful where
  restores := .field name hFaithful.restores hDefaults.reads

instance
    {name : String}
    [hFaithful : c.Faithful] :
    (Fields.required name c).Faithful where
  restores := .required name hFaithful.restores

instance
    {name : String} :
    (Fields.text name).Faithful :=
  inferInstanceAs (Fields.field name Codec.string "").Faithful

instance
    {name : String} :
    (Fields.flag name).Faithful :=
  inferInstanceAs (Fields.field name Codec.bool false).Faithful

instance
    {name : String}
    [c.Faithful] :
    (Fields.items name c).Faithful :=
  inferInstanceAs (Fields.field name (Codec.list c) []).Faithful

instance
    {name : String}
    [hFaithful : c.Faithful] :
    (Fields.optional name c).Faithful where
  restores := .field name hFaithful.option Codec.Defaults.reads

/- A missing value is left out. -/
instance
    {name : String}
    [hFaithful : c.Faithful] :
    (Fields.present name c).Faithful where
  restores := .present hFaithful.option

instance
    [hFirst : f.Faithful] [hSecond : g.Faithful] :
    (f.pair g).Faithful where
  restores :=
    (hFirst.restores.pair hSecond.restores).of_iff fun _ => and_self_iff

end Faithful

/- Only the second group matters. -/
theorem Restores.after
    [hFirst : f.Faithful]
    (hSecond : g.Restores Q) :
    (f.pair g).Restores fun p => Q p.2 :=
  (hFirst.restores.pair hSecond).of_iff fun _ => Iff.of_eq (true_and _)

/- Only the first group matters. -/
theorem Restores.before
    [hSecond : g.Faithful]
    (hFirst : f.Restores P) :
    (f.pair g).Restores fun p => P p.1 :=
  (hFirst.pair hSecond.restores).of_iff fun _ => Iff.of_eq (and_true _)

end Fields

------------------------------------------------------------
-- Records
------------------------------------------------------------

namespace Codec

variable {f : Fields α} {P : α → Prop}

theorem reads_of_record
    {make : α → β} {of : β → α} {y : β}
    (hReads : (Codec.record f make of).Reads y) :
    ∃ x, f.Reads x ∧ make x = y := by
  rcases hReads with ⟨j, hDecode⟩
  simp only [Codec.record] at hDecode
  split at hDecode
  · rw [Option.ite_none_left_eq_some] at hDecode
    rcases Option.map_eq_some_iff.mp hDecode.2 with ⟨x, hMembers, hMake⟩
    exact ⟨x, .inl ⟨_, hMembers⟩, hMake⟩
  · split at hDecode
    · rename_i x hItems
      exact ⟨x, .inr ⟨_, _, hItems⟩, Option.some.inj hDecode⟩
    · cases hDecode
  · cases hDecode

/- A closed record is restored if its fields are. -/
theorem Restores.record
    {make : α → β} {of : β → α}
    (hNames : f.names.Nodup)
    (hOf : ∀ x, of (make x) = x)
    (hFields : f.Restores P) :
    (Codec.record f make of).Restores fun y => P (of y) where
  isReadable y hReads := by
    rcases reads_of_record hReads with ⟨x, hFieldReads, rfl⟩
    rw [Codec.record, isReadable_obj_iff, hOf]
    exact hFields.isReadable x hFieldReads
  decode_iff y hReads := by
    rcases reads_of_record hReads with ⟨x, hFieldReads, rfl⟩
    have hKeys : ((f.toMembers x).map (·.1)).Nodup :=
      (hFields.keys x).nodup hNames
    have hIff := hFields.ofMembers_iff hNames x hFieldReads _ fun _ _ => rfl
    simp only [Codec.record, hOf, Codec.repeats_of_nodup _ hKeys,
      Bool.false_eq_true, if_false]
    rw [← hIff, Option.map_eq_some_iff]
    constructor
    · rintro ⟨x', hMembers, hMake⟩
      have hSame : x' = x := by
        rw [← hOf x', hMake, hOf]
      rw [hSame] at hMembers
      exact hMembers
    · exact fun hMembers => ⟨x, hMembers, rfl⟩

theorem Faithful.record
    [hFaithful : f.Faithful]
    {make : α → β} {of : β → α}
    (hNames : f.names.Nodup)
    (hOf : ∀ x, of (make x) = x) :
    (Codec.record f make of).Faithful where
  restores := .record hNames hOf hFaithful.restores
  encode_ne_null _ := nofun

/- What an open record is decoded from: its fields, and free values. -/
theorem exists_of_openRecord
    {make : α → Dict Json → β} {of : β → α × Dict Json} {j : Json} {y : β}
    (hDecode : (Codec.openRecord f make of).decode j = some y) :
    ∃ members x l,
      j = .obj members ∧
        f.ofMembers (find? members) = some x ∧
        decodeMembers Codec.free (others f.names members) = some l ∧
        make x (Dict.ofList l) = y := by
  simp only [Codec.openRecord] at hDecode
  split at hDecode
  · rename_i members
    simp only [Option.ite_none_left_eq_some, Option.bind_eq_bind,
      Option.bind_eq_some_iff, Option.pure_def, Option.some.injEq] at hDecode
    rcases hDecode with ⟨-, x, hMembers, l, hOthers, hMake⟩
    exact ⟨members, x, l, rfl, hMembers, hOthers, hMake⟩
  · cases hDecode

/- Members that are not known have other keys. -/
theorem notMem_keys_of_others
    {names : List String} {members : List (String × Json)}
    {l : List (String × α)} {c : Codec α}
    (hOthers : decodeMembers c (others names members) = some l) :
    ∀ name ∈ names, name ∉ (Dict.ofList l).entries.map (·.1) := by
  intro name hName hMem
  rcases List.mem_map.mp hMem with ⟨e, hEntry, rfl⟩
  rcases exists_of_mem_right (decodeMembers_eq_some_iff.mp hOthers)
    (Dict.mem_of_mem_entries_ofList hEntry) with ⟨m, hIn, hKey, -⟩
  have hUnknown := (List.mem_filter.mp hIn).2
  rw [← hKey, List.contains_iff_mem.mpr hName] at hUnknown
  cases hUnknown

theorem keys_encodeEntries
    (c : Codec α) (entries : List (String × α)) :
    (encodeEntries c entries).map (·.1) = entries.map (·.1) := by
  rw [encodeEntries, List.map_map]
  rfl

theorem others_eq_nil
    {names : List String} {members : List (String × Json)}
    (hKnown : members.map (·.1) ⊆ names) :
    others names members = [] := by
  rw [others, List.filter_eq_nil_iff]
  intro m hMem hUnknown
  rw [List.contains_iff_mem.mpr (hKnown (List.mem_map.mpr ⟨m, hMem, rfl⟩))]
    at hUnknown
  cases hUnknown

theorem others_eq_self
    {names : List String} {members : List (String × Json)}
    (hApart : ∀ name ∈ names, name ∉ members.map (·.1)) :
    others names members = members := by
  rw [others, List.filter_eq_self]
  intro m hMem
  rw [Bool.not_eq_true', ← Bool.not_eq_true, List.contains_iff_mem]
  exact fun hName => hApart m.1 hName (List.mem_map.mpr ⟨m, hMem, rfl⟩)

theorem others_append
    (names : List String) (members members' : List (String × Json)) :
    others names (members ++ members') =
      others names members ++ others names members' := by
  rw [others, List.filter_append]
  rfl

/- Written fields and members that are not known share no key. -/
theorem nodup_keys_append
    {names : List String} {members : List (String × Json)} {d : Dict Json}
    (hNames : names.Nodup)
    (hKnown : (members.map (·.1)).Sublist names)
    (hApart : ∀ name ∈ names, name ∉ d.entries.map (·.1)) :
    ((members ++ encodeEntries free d.entries).map (·.1)).Nodup := by
  rw [List.map_append, keys_encodeEntries]
  refine List.nodup_append.mpr ⟨hKnown.nodup hNames, d.nodup_keys, ?_⟩
  rintro key hMem _ hOther rfl
  exact hApart key (hKnown.subset hMem) hOther

/-
  An open record is restored if its fields are, and the
  members that it does not know.
-/
theorem Restores.openRecord
    {make : α → Dict Json → β} {of : β → α × Dict Json}
    (hNames : f.names.Nodup)
    (hOf : ∀ x d, of (make x d) = (x, d))
    (hFields : f.Restores P) :
    (Codec.openRecord f make of).Restores fun y =>
      P (of y).1 ∧ ∀ e ∈ (of y).2.entries, isLiteral e.2 = true where
  isReadable y hReads := by
    rcases hReads with ⟨j, hDecode⟩
    rcases exists_of_openRecord hDecode with
      ⟨members, x, l, rfl, hMembers, hOthers, rfl⟩
    rw [Codec.openRecord, isReadable_obj_iff, hOf, List.forall_mem_append]
    refine ⟨hFields.isReadable x (.inl ⟨_, hMembers⟩), ?_⟩
    exact List.forall_mem_map.mpr fun e hMem =>
      Restores.free.isReadable e.2 (reads_of_decodeMembers hOthers hMem)
  decode_iff y hReads := by
    rcases hReads with ⟨j, hDecode⟩
    rcases exists_of_openRecord hDecode with
      ⟨members, x, l, rfl, hMembers, hOthers, rfl⟩
    have hApart := notMem_keys_of_others hOthers
    have hFree : ∀ e ∈ (Dict.ofList l).entries, Codec.free.Reads e.2 :=
      fun e hMem => reads_of_decodeMembers hOthers hMem
    generalize Dict.ofList l = d at hApart hFree ⊢
    have hKeys := nodup_keys_append hNames (hFields.keys x) hApart
    have hFound :
        ∀ name ∈ f.names,
          find? (f.toMembers x ++ encodeEntries Codec.free d.entries) name =
            find? (f.toMembers x) name := by
      intro name hName
      have hNone : find? (encodeEntries Codec.free d.entries) name = none := by
        apply find?_eq_none
        rw [keys_encodeEntries]
        exact hApart name hName
      rw [find?_append, hNone, Option.or_none]
    have hIff := hFields.ofMembers_iff hNames x (.inl ⟨_, hMembers⟩) _ hFound
    have hFreeIff :
        (decodeMembers Codec.free
            (encodeEntries Codec.free d.entries)).map Dict.ofList = some d ↔
          ∀ e ∈ d.entries, isLiteral e.2 = true :=
      (decodeMembers_encodeEntries_iff d).trans
        (forall₂_congr fun e hMem =>
          Restores.free.decode_iff e.2 (hFree e hMem))
    have hWritten :
        others f.names (f.toMembers x ++ encodeEntries Codec.free d.entries) =
          encodeEntries Codec.free d.entries := by
      rw [others_append, others_eq_nil (hFields.keys x).subset, List.nil_append]
      apply others_eq_self
      rw [keys_encodeEntries]
      exact hApart
    simp only [Codec.openRecord, hOf, Codec.repeats_of_nodup _ hKeys,
      Bool.false_eq_true, if_false, hWritten, Option.bind_eq_bind,
      Option.pure_def]
    rw [← hIff, ← hFreeIff, Option.bind_eq_some_iff, Option.map_eq_some_iff]
    constructor
    · rintro ⟨x', hAgain, hRest⟩
      rcases Option.bind_eq_some_iff.mp hRest with ⟨l', hDecode', hMake⟩
      have hSame : (x', Dict.ofList l') = (x, d) := by
        rw [← hOf x', Option.some.inj hMake, hOf]
      cases hSame
      exact ⟨hAgain, l', hDecode', rfl⟩
    · rintro ⟨hAgain, l', hDecode', rfl⟩
      exact ⟨x, hAgain, by rw [hDecode']; rfl⟩

end Codec

end ProcessEvents
