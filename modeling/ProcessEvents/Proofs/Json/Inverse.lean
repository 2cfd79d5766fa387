import ProcessEvents.Json.Codec
import ProcessEvents.Proofs.Dict
import ProcessEvents.Proofs.Json.ReadBack

/-
  Writer and reader of a codec are inverse to each other: a
  value that has been written is decoded again from its text,
  as it stands there. In contrast to a free value, nothing is
  put in another order in between, so that numbers, arrays
  and dictionaries are covered as well.

  Key definitions include:
    * `Codec.ofText?`
    * `Codec.Inverts`
    * `Fields.Inverts`

  Key theorems include:
    * `Codec.Inverts.list`, `Codec.Inverts.dict`
    * `Fields.Inverts.pair`
    * `Codec.Inverts.record`
    * `Codec.Inverts.ofText?_toText`
-/

namespace ProcessEvents

open Json

variable {α β : Type}

/- The value of a JSON text. -/
def Codec.ofText?
    (c : Codec α)
    (text : String) : Option α :=
  (Json.read? text).bind c.decode

/-
  The value is written as a JSON value whose text can be read,
  and is decoded from it again.
-/
structure Codec.Inverts
    (c : Codec α)
    (level : Nat)
    (x : α) : Prop where
  plain : isPlain (c.encode x) = true
  depth_le : depth (c.encode x) ≤ level
  decode : c.decode (c.encode x) = some x

/-
  The same of a group of fields, whose members may be found
  by their keys.
-/
structure Fields.Inverts
    (f : Fields α)
    (level : Nat)
    (x : α) : Prop where
  keys : ((f.toMembers x).map (·.1)).Sublist f.names
  plain : ∀ m ∈ f.toMembers x, isPlain m.2 = true
  depth_le : ∀ m ∈ f.toMembers x, depth m.2 ≤ level
  ofMembers :
    ∀ find : String → Option Json,
      (∀ m ∈ f.toMembers x, find m.1 = some m.2) → f.ofMembers find = some x

/- A written value is read from its text. -/
theorem Codec.Inverts.ofText?_toText
    {c : Codec α} {level : Nat} {x : α}
    (hInverts : c.Inverts level x)
    (hLevel : level ≤ maxLevel) :
    c.ofText? (c.encode x).toText = some x := by
  have hRead : Json.read? (c.encode x).toText = some (c.encode x) :=
    read?_toText hInverts.plain (Nat.le_trans hInverts.depth_le hLevel)
  rw [Codec.ofText?, hRead, Option.bind_some, hInverts.decode]

------------------------------------------------------------
-- Single values
------------------------------------------------------------

namespace Codec.Inverts

variable {c : Codec α} {level : Nat}

theorem string
    (s : String) :
    Codec.string.Inverts level s where
  plain := by rw [Codec.string, isPlain]
  depth_le := by simp [Codec.string, depth]
  decode := rfl

/- Integers of 64 bits are within the bounds of the reader. -/
theorem int64
    {n : Int}
    (hLow : -0x8000000000000000 ≤ n)
    (hHigh : n ≤ 0x7FFFFFFFFFFFFFFF) :
    Codec.int64.Inverts level n where
  plain := by
    have hMax : (0x7FFFFFFFFFFFFFFF : Int) ≤ maxSignificand := by decide
    simp only [Codec.int64, Codec.int, isPlain,
      Bool.and_eq_true, decide_eq_true_eq]
    exact ⟨hLow, Int.le_trans hHigh hMax⟩
  depth_le := by simp [Codec.int64, Codec.int, depth]
  decode := if_pos ⟨hLow, hHigh⟩

/- A value in another form is read if that form is. -/
theorem refine
    {make : α → Option β} {of : β → α} {x : β}
    (hMake : make (of x) = some x)
    (hForm : c.Inverts level (of x)) :
    (c.refine make of).Inverts level x where
  plain := hForm.plain
  depth_le := hForm.depth_le
  decode := by
    simp only [Codec.refine, hForm.decode, Option.bind_some, hMake]

------------------------------------------------------------
-- Containers
------------------------------------------------------------

/- An array is read item by item. -/
theorem list
    {xs : List α}
    (hItems : ∀ x ∈ xs, c.Inverts level x) :
    (Codec.list c).Inverts (level + 1) xs := by
  induction xs with
  | nil =>
      constructor
      · rfl
      · simp [Codec.list, depth, depthItems]
      · rfl
  | cons x rest ih =>
      rcases List.forall_mem_cons.mp hItems with ⟨hHead, hRest⟩
      have hTail := ih hRest
      have hDepth := hTail.depth_le
      have hDecode := hTail.decode
      have hPlain := hTail.plain
      simp only [Codec.list, depth, Nat.add_le_add_iff_right] at hDepth
      simp only [Codec.list] at hDecode
      simp only [Codec.list, isPlain] at hPlain
      constructor
      · simp only [Codec.list, List.map_cons, isPlain, itemsArePlain,
          hHead.plain, hPlain, Bool.and_self]
      · simp only [Codec.list, List.map_cons,
          depth, depthItems, Nat.add_le_add_iff_right]
        exact Nat.max_le.mpr ⟨hHead.depth_le, hDepth⟩
      · simp only [Codec.list, List.map_cons,
          List.mapM_cons, hHead.decode, hDecode]
        rfl

/- The members of a written dictionary are decoded to its entries. -/
theorem decodeMembers_encodeEntries
    {entries : List (String × α)}
    (hValues : ∀ e ∈ entries, c.decode (c.encode e.2) = some e.2) :
    decodeMembers c (encodeEntries c entries) = some entries := by
  induction entries with
  | nil => rfl
  | cons e rest ih =>
      rcases List.forall_mem_cons.mp hValues with ⟨hHead, hRest⟩
      have hTail := ih hRest
      simp only [decodeMembers, encodeEntries] at hTail
      simp only [decodeMembers, encodeEntries,
        List.map_cons, List.mapM_cons, hHead, hTail]
      rfl

/- A dictionary is read entry by entry. -/
theorem dict
    {d : Dict α}
    (hValues : ∀ e ∈ d.entries, c.Inverts level e.2) :
    (Codec.dict c).Inverts (level + 1) d where
  plain := by
    rw [Codec.dict, isPlain, membersArePlain_iff]
    exact List.forall_mem_map.mpr fun e hMem => (hValues e hMem).plain
  depth_le := by
    rw [Codec.dict, depth, Nat.add_le_add_iff_right, depthMembers_le_iff]
    exact List.forall_mem_map.mpr fun e hMem => (hValues e hMem).depth_le
  decode := by
    have hEntries :
        decodeMembers c (encodeEntries c d.entries) = some d.entries :=
      decodeMembers_encodeEntries fun e hMem => (hValues e hMem).decode
    simp only [Codec.dict, hEntries, Option.map_some, Dict.ofList_entries]

end Codec.Inverts

------------------------------------------------------------
-- Records
------------------------------------------------------------

/- Two groups of fields are read if each of them is. -/
theorem Fields.ofMembers_pair
    {f : Fields α} {g : Fields β} {find : String → Option Json} {p : α × β} :
    (f.pair g).ofMembers find = some p ↔
      f.ofMembers find = some p.1 ∧ g.ofMembers find = some p.2 := by
  rcases p with ⟨x, y⟩
  simp only [Fields.pair, Option.bind_eq_bind, Option.bind_eq_some_iff,
    Option.pure_def, Option.some.injEq, Prod.mk.injEq]
  constructor
  · rintro ⟨x', hFirst, y', hSecond, rfl, rfl⟩
    exact ⟨hFirst, hSecond⟩
  · rintro ⟨hFirst, hSecond⟩
    exact ⟨x, hFirst, y, hSecond, rfl, rfl⟩

/- The second group is read from the items that the first one leaves. -/
theorem Fields.ofItems_pair
    {f : Fields α} {g : Fields β} {items rest : List Json} {p : α × β} :
    (f.pair g).ofItems items = some (p, rest) ↔
      ∃ middle, f.ofItems items = some (p.1, middle) ∧
        g.ofItems middle = some (p.2, rest) := by
  rcases p with ⟨x, y⟩
  simp only [Fields.pair, Option.bind_eq_bind, Option.bind_eq_some_iff,
    Option.pure_def, Option.some.injEq, Prod.mk.injEq, Prod.exists]
  constructor
  · rintro ⟨x', middle, hFirst, y', rest', hSecond, ⟨rfl, rfl⟩, rfl⟩
    exact ⟨middle, hFirst, hSecond⟩
  · rintro ⟨middle, hFirst, hSecond⟩
    exact ⟨x, middle, hFirst, y, rest, hSecond, ⟨rfl, rfl⟩, rfl⟩

namespace Fields.Inverts

variable {c : Codec α} {f : Fields α} {g : Fields β} {level : Nat}

theorem field
    (name : String) (dflt : α) {x : α}
    (hValue : c.Inverts level x) :
    (Fields.field name c dflt).Inverts level x where
  keys := List.Sublist.refl _
  plain := List.forall_mem_singleton.mpr hValue.plain
  depth_le := List.forall_mem_singleton.mpr hValue.depth_le
  ofMembers find hFind := by
    have hFound := hFind (name, c.encode x) (List.mem_singleton.mpr rfl)
    simp only [Fields.field, hFound]
    exact hValue.decode

theorem required
    (name : String) {x : α}
    (hValue : c.Inverts level x) :
    (Fields.required name c).Inverts level x where
  keys := List.Sublist.refl _
  plain := List.forall_mem_singleton.mpr hValue.plain
  depth_le := List.forall_mem_singleton.mpr hValue.depth_le
  ofMembers find hFind := by
    have hFound := hFind (name, c.encode x) (List.mem_singleton.mpr rfl)
    simp only [Fields.required, hFound]
    exact hValue.decode

theorem text
    (name s : String) :
    (Fields.text name).Inverts level s :=
  field name "" (.string s)

theorem pair
    {x : α} {y : β}
    (hFirst : f.Inverts level x)
    (hSecond : g.Inverts level y) :
    (Fields.pair f g).Inverts level (x, y) where
  keys := by
    rw [Fields.pair, List.map_append]
    exact hFirst.keys.append hSecond.keys
  plain := List.forall_mem_append.mpr ⟨hFirst.plain, hSecond.plain⟩
  depth_le := List.forall_mem_append.mpr ⟨hFirst.depth_le, hSecond.depth_le⟩
  ofMembers find hFind := by
    rcases List.forall_mem_append.mp hFind with ⟨hFindFirst, hFindSecond⟩
    simp only [Fields.pair, hFirst.ofMembers find hFindFirst,
      hSecond.ofMembers find hFindSecond]
    rfl

end Fields.Inverts

/- Among members whose keys differ, each is found by its key. -/
theorem Json.find?_of_nodup
    {members : List (String × Json)} {m : String × Json}
    (hKeys : (members.map (·.1)).Nodup)
    (hMem : m ∈ members) :
    Json.find? members m.1 = some m.2 := by
  have hFound : (members.find? fun m' => m'.1 == m.1).isSome = true := by
    rw [List.find?_isSome]
    exact ⟨m, hMem, beq_self_eq_true _⟩
  rcases Option.isSome_iff_exists.mp hFound with ⟨m', hFind⟩
  have hKey : m'.1 = m.1 := by simpa using List.find?_some hFind
  have hSame : m' = m :=
    List.inj_on_of_nodup_map hKeys (List.mem_of_find?_eq_some hFind) hMem hKey
  rw [Json.find?, hFind, hSame, Option.map_some]

/- A closed record is read if its fields are. -/
theorem Codec.Inverts.record
    {f : Fields α} {make : α → β} {of : β → α} {level : Nat} {x : β}
    (hNames : f.names.Nodup)
    (hMake : make (of x) = x)
    (hFields : f.Inverts level (of x)) :
    (Codec.record f make of).Inverts (level + 1) x where
  plain := by
    rw [Codec.record, isPlain, membersArePlain_iff]
    exact hFields.plain
  depth_le := by
    rw [Codec.record, depth, Nat.add_le_add_iff_right, depthMembers_le_iff]
    exact hFields.depth_le
  decode := by
    have hKeys : ((f.toMembers (of x)).map (·.1)).Nodup :=
      hFields.keys.nodup hNames
    have hFound := hFields.ofMembers (Json.find? (f.toMembers (of x)))
      fun m hMem => find?_of_nodup hKeys hMem
    simp only [Codec.record, Codec.repeats_of_nodup _ hKeys, Bool.false_eq_true,
      if_false, hFound, Option.map_some, hMake]

end ProcessEvents
