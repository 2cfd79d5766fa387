import ProcessEvents.Json.Codec
import ProcessEvents.Proofs.Dict
import ProcessEvents.Proofs.Json.RoundTrip

/-
  A value that a codec has written is read back from its
  text as a free value, from which the codec decodes it
  again, provided that what it has written is plain and
  embeds nothing.

  Key definitions include:
    * `Json.isLiteral`
    * `Codec.ReadsBack`
    * `Fields.ReadsBack`

  Key theorems include:
    * `Json.readFree?_toText`
    * `Fields.ReadsBack.pair`
    * `Codec.ReadsBack.record`
-/

namespace ProcessEvents

------------------------------------------------------------
-- Values that embed nothing
------------------------------------------------------------

namespace Json

mutual

/- Whether no object within the value begins like an embedded value. -/
def isLiteral : Json → Bool
  | arr items => itemsAreLiteral items
  | obj [] => true
  | obj ((key, j) :: rest) =>
    key != embeddingKey && isLiteral j && membersAreLiteral rest
  | _ => true

def itemsAreLiteral : List Json → Bool
  | [] => true
  | j :: rest => isLiteral j && itemsAreLiteral rest

def membersAreLiteral : List (String × Json) → Bool
  | [] => true
  | (_, j) :: rest => isLiteral j && membersAreLiteral rest

end

variable {embedded? : String → Option Json}

mutual

/- There is nothing to put in place. -/
theorem expandWith_of_isLiteral
    {j : Json}
    (hLiteral : isLiteral j = true) :
    expandWith embedded? j = some j := by
  match j with
  | null => rw [expandWith] <;> simp
  | bool b => rw [expandWith] <;> simp
  | int n => rw [expandWith] <;> simp
  | double x => rw [expandWith] <;> simp
  | str s => rw [expandWith] <;> simp
  | unreadable => rw [expandWith] <;> simp
  | arr items =>
      rw [isLiteral] at hLiteral
      rw [expandWith, expandItems_of_areLiteral hLiteral]
      rfl
  | obj [] => rw [expandWith]
  | obj ((key, j) :: rest) =>
      simp only [isLiteral, Bool.and_eq_true, bne_iff_ne] at hLiteral
      unfold expandWith
      rw [if_neg hLiteral.1.1, expandWith_of_isLiteral hLiteral.1.2,
        expandMembers_of_areLiteral hLiteral.2]
      rfl

theorem expandItems_of_areLiteral
    {items : List Json}
    (hLiteral : itemsAreLiteral items = true) :
    expandItems embedded? items = some items := by
  match items with
  | [] => rw [expandItems]
  | j :: rest =>
      simp only [itemsAreLiteral, Bool.and_eq_true] at hLiteral
      rw [expandItems, expandWith_of_isLiteral hLiteral.1,
        expandItems_of_areLiteral hLiteral.2]
      rfl

theorem expandMembers_of_areLiteral
    {members : List (String × Json)}
    (hLiteral : membersAreLiteral members = true) :
    expandMembers embedded? members = some members := by
  match members with
  | [] => rw [expandMembers]
  | (key, j) :: rest =>
      simp only [membersAreLiteral, Bool.and_eq_true] at hLiteral
      rw [expandMembers, expandWith_of_isLiteral hLiteral.1,
        expandMembers_of_areLiteral hLiteral.2]
      rfl

end

theorem expand?_of_isLiteral
    {j : Json}
    (hLiteral : isLiteral j = true) :
    expand? j = some j := by
  rw [expand?]
  cases longestText j with
  | zero => exact expandWith_of_isLiteral hLiteral
  | succ n => exact expandWith_of_isLiteral hLiteral

/- A written value is read as a free value in its normal form. -/
theorem readFree?_toText
    {j : Json}
    (hPlain : isPlain j = true)
    (hLiteral : isLiteral j = true)
    (hDepth : depth j ≤ maxLevel) :
    readFree? j.toText = normal? j := by
  rw [readFree?, read?_toText hPlain hDepth, Option.bind_some, free?,
    expand?_of_isLiteral hLiteral, Option.bind_some]

------------------------------------------------------------
-- Members
------------------------------------------------------------

theorem membersArePlain_iff
    {members : List (String × Json)} :
    membersArePlain members = true ↔ ∀ m ∈ members, isPlain m.2 = true := by
  induction members with
  | nil => simp [membersArePlain]
  | cons m rest ih =>
      rcases m with ⟨key, j⟩
      simp [membersArePlain, ih]

theorem membersAreLiteral_iff
    {members : List (String × Json)} :
    membersAreLiteral members = true ↔ ∀ m ∈ members, isLiteral m.2 = true := by
  induction members with
  | nil => simp [membersAreLiteral]
  | cons m rest ih =>
      rcases m with ⟨key, j⟩
      simp [membersAreLiteral, ih]

theorem depthMembers_le_iff
    {members : List (String × Json)} {level : Nat} :
    depthMembers members ≤ level ↔ ∀ m ∈ members, depth m.2 ≤ level := by
  induction members with
  | nil => simp [depthMembers]
  | cons m rest ih =>
      rcases m with ⟨key, j⟩
      simp only [depthMembers, Nat.max_le, ih, List.forall_mem_cons]

/- The normal forms of members are members with the same keys. -/
theorem keys_of_normalMembers?
    {members normal : List (String × Json)}
    (hNormal : normalMembers? members = some normal) :
    normal.map (·.1) = members.map (·.1) := by
  induction members generalizing normal with
  | nil =>
      rw [normalMembers?] at hNormal
      cases hNormal
      rfl
  | cons m rest ih =>
      rcases m with ⟨key, j⟩
      simp only [normalMembers?, Option.bind_eq_bind, Option.bind_eq_some_iff,
        Option.pure_def, Option.some.injEq] at hNormal
      rcases hNormal with ⟨j', -, rest', hRest, rfl⟩
      rw [List.map_cons, List.map_cons, ih hRest]

theorem mem_of_normalMembers?
    {members normal : List (String × Json)} {m : String × Json}
    (hNormal : normalMembers? members = some normal)
    (hMem : m ∈ members) :
    ∃ j, normal? m.2 = some j ∧ (m.1, j) ∈ normal := by
  induction members generalizing normal with
  | nil => cases hMem
  | cons m' rest ih =>
      rcases m' with ⟨key, j⟩
      simp only [normalMembers?, Option.bind_eq_bind, Option.bind_eq_some_iff,
        Option.pure_def, Option.some.injEq] at hNormal
      rcases hNormal with ⟨j', hHead, rest', hRest, rfl⟩
      rcases List.mem_cons.mp hMem with rfl | hMem
      · exact ⟨j', hHead, List.mem_cons_self⟩
      · rcases ih hRest hMem with ⟨j'', hValue, hIn⟩
        exact ⟨j'', hValue, List.mem_cons_of_mem _ hIn⟩

/- A member is found among normal forms by its key. -/
theorem find?_normalMembers
    {members normal : List (String × Json)} {m : String × Json}
    (hKeys : (members.map (·.1)).Nodup)
    (hNormal : normalMembers? members = some normal)
    (hMem : m ∈ members) :
    find? (Dict.ofList normal).entries m.1 = normal? m.2 := by
  rcases mem_of_normalMembers? hNormal hMem with ⟨j, hValue, hIn⟩
  rw [hValue]
  apply Dict.get?_ofList_of_nodup _ hIn
  rw [keys_of_normalMembers? hNormal]
  exact hKeys

mutual

/- Whatever is plain has a normal form. -/
theorem normal?_isSome
    {j : Json}
    (hPlain : isPlain j = true) :
    (normal? j).isSome = true := by
  match j with
  | null => rw [normal?]; rfl
  | bool b => rw [normal?]; rfl
  | int n => rw [normal?]; rfl
  | double x => rw [normal?]; rfl
  | str s => rw [normal?]; rfl
  | unreadable => simp [isPlain] at hPlain
  | arr items =>
      rw [isPlain] at hPlain
      rw [normal?, Option.isSome_map]
      exact normalItems?_isSome hPlain
  | obj members =>
      rw [isPlain] at hPlain
      rw [normal?, Option.isSome_map]
      exact normalMembers?_isSome hPlain

theorem normalItems?_isSome
    {items : List Json}
    (hPlain : itemsArePlain items = true) :
    (normalItems? items).isSome = true := by
  match items with
  | [] => rw [normalItems?]; rfl
  | j :: rest =>
      simp only [itemsArePlain, Bool.and_eq_true] at hPlain
      have hHead := normal?_isSome hPlain.1
      have hRest := normalItems?_isSome hPlain.2
      rcases Option.isSome_iff_exists.mp hHead with ⟨j', hJ⟩
      rcases Option.isSome_iff_exists.mp hRest with ⟨rest', hR⟩
      rw [normalItems?, hJ, hR]
      rfl

theorem normalMembers?_isSome
    {members : List (String × Json)}
    (hPlain : membersArePlain members = true) :
    (normalMembers? members).isSome = true := by
  match members with
  | [] => rw [normalMembers?]; rfl
  | (key, j) :: rest =>
      simp only [membersArePlain, Bool.and_eq_true] at hPlain
      have hHead := normal?_isSome hPlain.1
      have hRest := normalMembers?_isSome hPlain.2
      rcases Option.isSome_iff_exists.mp hHead with ⟨j', hJ⟩
      rcases Option.isSome_iff_exists.mp hRest with ⟨rest', hR⟩
      rw [normalMembers?, hJ, hR]
      rfl

end

end Json

open Json

------------------------------------------------------------
-- Codecs
------------------------------------------------------------

variable {α β : Type}

/-
  The written form of the value can be written out as a text
  and read back; its normal form is decoded to the value.
-/
structure Codec.ReadsBack
    (c : Codec α)
    (level : Nat)
    (x : α) : Prop where
  plain : isPlain (c.encode x) = true
  literal : isLiteral (c.encode x) = true
  depth_le : depth (c.encode x) ≤ level
  decode : ∀ j, normal? (c.encode x) = some j → c.decode j = some x

/-
  The same of a group of fields, whose members may be found
  by their keys.
-/
structure Fields.ReadsBack
    (f : Fields α)
    (level : Nat)
    (x : α) : Prop where
  keys : ((f.toMembers x).map (·.1)).Sublist f.names
  plain : ∀ m ∈ f.toMembers x, isPlain m.2 = true
  literal : ∀ m ∈ f.toMembers x, isLiteral m.2 = true
  depth_le : ∀ m ∈ f.toMembers x, depth m.2 ≤ level
  ofMembers :
    ∀ find : String → Option Json,
      (∀ m ∈ f.toMembers x, find m.1 = normal? m.2) → f.ofMembers find = some x

namespace Codec.ReadsBack

variable {c : Codec α} {level : Nat}

theorem string
    (s : String) :
    Codec.string.ReadsBack level s where
  plain := by rw [Codec.string, isPlain]
  literal := by rw [Codec.string, isLiteral] <;> simp
  depth_le := by simp [Codec.string, depth]
  decode j hNormal := by
    rw [Codec.string, normal?] at hNormal
    cases hNormal
    rfl

theorem bool
    (b : Bool) :
    Codec.bool.ReadsBack level b where
  plain := by rw [Codec.bool, isPlain]
  literal := by rw [Codec.bool, isLiteral] <;> simp
  depth_le := by simp [Codec.bool, depth]
  decode j hNormal := by
    rw [Codec.bool, normal?] at hNormal
    cases hNormal
    rfl

/- A value that is there must not look like a missing one. -/
theorem option
    (hNull : c.decode .null = none)
    {x : Option α}
    (hValue : ∀ y, x = some y → c.ReadsBack level y) :
    (Codec.option c).ReadsBack level x := by
  cases x with
  | none =>
      constructor
      · rw [Codec.option, isPlain]
      · rw [Codec.option, isLiteral] <;> simp
      · simp [Codec.option, depth]
      · intro j hNormal
        rw [Codec.option, normal?] at hNormal
        cases hNormal
        rfl
  | some y =>
      have hY := hValue y rfl
      refine ⟨hY.plain, hY.literal, hY.depth_le, ?_⟩
      intro j hNormal
      have hDecode := hY.decode j hNormal
      cases j with
      | null =>
          rw [hNull] at hDecode
          cases hDecode
      | _ => exact congrArg (Option.map some) hDecode

end Codec.ReadsBack

------------------------------------------------------------
-- Records
------------------------------------------------------------

namespace Fields.ReadsBack

variable {c : Codec α} {f : Fields α} {g : Fields β} {level : Nat}

theorem field
    (name : String) (dflt : α) {x : α}
    (hValue : c.ReadsBack level x) :
    (Fields.field name c dflt).ReadsBack level x where
  keys := List.Sublist.refl _
  plain := List.forall_mem_singleton.mpr hValue.plain
  literal := List.forall_mem_singleton.mpr hValue.literal
  depth_le := List.forall_mem_singleton.mpr hValue.depth_le
  ofMembers find hFind := by
    have hFound := hFind (name, c.encode x) (List.mem_singleton.mpr rfl)
    rcases Option.isSome_iff_exists.mp (normal?_isSome hValue.plain) with
      ⟨j, hNormal⟩
    rw [hNormal] at hFound
    simp only [Fields.field, hFound]
    exact hValue.decode j hNormal

theorem pair
    {x : α} {y : β}
    (hFirst : f.ReadsBack level x)
    (hSecond : g.ReadsBack level y) :
    (Fields.pair f g).ReadsBack level (x, y) where
  keys := by
    rw [Fields.pair, List.map_append]
    exact hFirst.keys.append hSecond.keys
  plain := List.forall_mem_append.mpr ⟨hFirst.plain, hSecond.plain⟩
  literal := List.forall_mem_append.mpr ⟨hFirst.literal, hSecond.literal⟩
  depth_le := List.forall_mem_append.mpr ⟨hFirst.depth_le, hSecond.depth_le⟩
  ofMembers find hFind := by
    rcases List.forall_mem_append.mp hFind with ⟨hFindFirst, hFindSecond⟩
    simp only [Fields.pair, hFirst.ofMembers find hFindFirst,
      hSecond.ofMembers find hFindSecond]
    rfl

theorem text
    (name s : String) :
    (Fields.text name).ReadsBack level s :=
  field name "" (.string s)

theorem flag
    (name : String) (b : Bool) :
    (Fields.flag name).ReadsBack level b :=
  field name false (.bool b)

theorem optional
    (name : String)
    (hNull : c.decode .null = none)
    {x : Option α}
    (hValue : ∀ y, x = some y → c.ReadsBack level y) :
    (Fields.optional name c).ReadsBack level x :=
  field name none (.option hNull hValue)

end Fields.ReadsBack

theorem Json.occurrences_eq_count
    (members : List (String × Json)) (name : String) :
    occurrences members name = (members.map (·.1)).count name := by
  rw [occurrences, List.count, List.countP_map]
  rfl

/- Members whose keys differ repeat no name. -/
theorem Codec.repeats_of_nodup
    (names : List String) {members : List (String × Json)}
    (hKeys : (members.map (·.1)).Nodup) :
    Codec.repeats names members = false := by
  rw [Codec.repeats, List.any_eq_false]
  intro name _
  have hOnce : (members.map (·.1)).count name ≤ 1 :=
    List.nodup_iff_count_le_one.mp hKeys name
  rw [occurrences_eq_count]
  simpa using hOnce

/- Written members that begin with another key embed nothing. -/
theorem Json.isLiteral_obj
    {members : List (String × Json)}
    (hKeys : embeddingKey ∉ members.map (·.1))
    (hMembers : ∀ m ∈ members, isLiteral m.2 = true) :
    isLiteral (obj members) = true := by
  cases members with
  | nil => rw [isLiteral]
  | cons m rest =>
      rcases m with ⟨key, j⟩
      rcases List.forall_mem_cons.mp hMembers with ⟨hHead, hRest⟩
      have hKey : key ≠ embeddingKey := by
        intro hSame
        exact hKeys (hSame ▸ List.mem_cons_self)
      rw [isLiteral, hHead, membersAreLiteral_iff.mpr hRest]
      simpa using hKey

/- A closed record is read back if its fields are. -/
theorem Codec.ReadsBack.record
    {f : Fields α} {make : α → β} {of : β → α} {level : Nat} {x : β}
    (hNames : f.names.Nodup)
    (hEmbedding : embeddingKey ∉ f.names)
    (hMake : make (of x) = x)
    (hFields : f.ReadsBack level (of x)) :
    (Codec.record f make of).ReadsBack (level + 1) x where
  plain := by
    rw [Codec.record, isPlain, membersArePlain_iff]
    exact hFields.plain
  literal := by
    refine isLiteral_obj ?_ hFields.literal
    exact fun hMem => hEmbedding (hFields.keys.subset hMem)
  depth_le := by
    rw [Codec.record, depth, Nat.add_le_add_iff_right, depthMembers_le_iff]
    exact hFields.depth_le
  decode j hNormal := by
    simp only [Codec.record, normal?, Option.map_eq_some_iff] at hNormal
    rcases hNormal with ⟨normal, hMembers, rfl⟩
    have hKeys : ((f.toMembers (of x)).map (·.1)).Nodup :=
      hFields.keys.nodup hNames
    have hFound := hFields.ofMembers (Json.find? (Dict.ofList normal).entries)
      fun m hMem => find?_normalMembers hKeys hMembers hMem
    simp only [Codec.record, Codec.repeats_of_nodup _ (Dict.nodup_keys _),
      Bool.false_eq_true, if_false, hFound, Option.map_some, hMake]

end ProcessEvents
