/-
  This file defines dictionaries: finite maps from text to
  values, kept as a list of entries in strictly ascending
  key order. Two dictionaries with the same entries are
  equal, so results built in different orders compare with
  plain equality.

  Key definitions include:
    * `Dict`
    * `Dict.get?`
    * `Dict.insert`, `Dict.erase`
    * `Dict.ofList`
    * `Dict.keys`
    * `Dict.map`

  Key theorems include:
    * `Dict.get?_insert`, `Dict.get?_erase`
    * `Dict.ext_get?`
-/

namespace ProcessEvents

/-
  A dictionary: entries in strictly ascending order of
  their keys.
-/
structure Dict (β : Type) where
  entries : List (String × β)
  sorted : entries.Pairwise (fun a b => a.1 < b.1)
  deriving DecidableEq, Repr

namespace Dict

variable {β γ : Type}

------------------------------------------------------------
-- Construction
------------------------------------------------------------

/- The dictionary without entries. -/
def empty : Dict β :=
  ⟨[], List.Pairwise.nil⟩

instance : Inhabited (Dict β) :=
  ⟨empty⟩

/-
  Put an entry into an ascending list, in place of an entry
  with the same key.
-/
def insertEntry
    (k : String)
    (v : β) : List (String × β) → List (String × β)
  | [] => [(k, v)]
  | (k', v') :: rest =>
    if k < k' then (k, v) :: (k', v') :: rest
    else if k = k' then (k, v) :: rest
    else (k', v') :: insertEntry k v rest

/- The keys after an insertion are the old ones and the new one. -/
theorem mem_insertEntry
    {k : String} {v : β} {l : List (String × β)} {e : String × β}
    (h : e ∈ insertEntry k v l) :
    e.1 = k ∨ e ∈ l := by
  induction l with
  | nil => simp_all [insertEntry]
  | cons a rest ih =>
    obtain ⟨k', v'⟩ := a
    simp only [insertEntry] at h
    split at h
    · grind
    · split at h
      · grind
      · grind

/- Insertion keeps the entries ascending. -/
theorem pairwise_insertEntry
    (k : String) (v : β) {l : List (String × β)}
    (h : l.Pairwise (fun a b => a.1 < b.1)) :
    (insertEntry k v l).Pairwise (fun a b => a.1 < b.1) := by
  induction l with
  | nil => simp [insertEntry]
  | cons a rest ih =>
    obtain ⟨k', v'⟩ := a
    rw [List.pairwise_cons] at h
    simp only [insertEntry]
    split
    · rename_i hlt
      refine List.pairwise_cons.2 ⟨?_, List.pairwise_cons.2 h⟩
      intro e he
      rcases List.mem_cons.1 he with rfl | he
      · exact hlt
      · exact String.lt_trans hlt (h.1 e he)
    · split
      · rename_i heq
        subst heq
        exact List.pairwise_cons.2 h
      · rename_i hlt hne
        refine List.pairwise_cons.2 ⟨?_, ih h.2⟩
        intro e he
        have hk : k' < k :=
          Std.lt_of_le_of_ne (String.not_lt.1 hlt) (Ne.symm hne)
        rcases mem_insertEntry he with h' | h'
        · exact h' ▸ hk
        · exact h.1 e h'

/- Put an entry, in place of an earlier one with its key. -/
def insert
    (d : Dict β)
    (k : String)
    (v : β) : Dict β :=
  ⟨insertEntry k v d.entries, pairwise_insertEntry k v d.sorted⟩

/- Drop the entry of a key. -/
def erase
    (d : Dict β)
    (k : String) : Dict β :=
  ⟨d.entries.filter (fun e => e.1 ≠ k), d.sorted.filter _⟩

/- Put entries one after the other: of equal keys the last one stays. -/
def ofList
    (l : List (String × β)) : Dict β :=
  l.foldl (fun d e => d.insert e.1 e.2) empty

------------------------------------------------------------
-- Views
------------------------------------------------------------

/- The value of a key. -/
def get?
    (d : Dict β)
    (k : String) : Option β :=
  (d.entries.find? (fun e => e.1 == k)).map (·.2)

/- The keys, ascending. -/
def keys
    (d : Dict β) : List String :=
  d.entries.map (·.1)

/- The values, in the order of their keys. -/
def values
    (d : Dict β) : List β :=
  d.entries.map (·.2)

/- Whether a key has a value. -/
def contains
    (d : Dict β)
    (k : String) : Bool :=
  (d.get? k).isSome

/- Change every value, with its key at hand. -/
def mapWithKey
    (f : String → β → γ)
    (d : Dict β) : Dict γ :=
  ⟨d.entries.map (fun e => (e.1, f e.1 e.2)),
    List.pairwise_map.2 d.sorted⟩

/- Change every value. -/
def map
    (f : β → γ)
    (d : Dict β) : Dict γ :=
  d.mapWithKey (fun _ => f)

/- The value of a key, or a default. -/
def getD
    (d : Dict β)
    (k : String)
    (dflt : β) : β :=
  (d.get? k).getD dflt

/- Change the value of a key, which starts from a default. -/
def update
    (d : Dict β)
    (k : String)
    (dflt : β)
    (f : β → β) : Dict β :=
  d.insert k (f (d.getD k dflt))

------------------------------------------------------------
-- Laws of lookup
------------------------------------------------------------

@[simp]
theorem get?_empty
    (k : String) :
    (empty : Dict β).get? k = none := rfl

private theorem find?_insertEntry
    (k x : String) (v : β) (l : List (String × β)) :
    ((insertEntry k v l).find? (fun e => e.1 == x)).map (·.2) =
      if x = k then some v else (l.find? (fun e => e.1 == x)).map (·.2) := by
  induction l with
  | nil => grind [insertEntry]
  | cons a rest ih =>
    obtain ⟨k', v'⟩ := a
    simp only [insertEntry]
    split
    · grind
    · split <;> grind

/- Insertion changes the value of its key and of no other. -/
theorem get?_insert
    (d : Dict β) (k x : String) (v : β) :
    (d.insert k v).get? x = if x = k then some v else d.get? x :=
  find?_insertEntry k x v d.entries

private theorem find?_filter_ne
    (k x : String) (l : List (String × β)) :
    ((l.filter (fun e => e.1 ≠ k)).find? (fun e => e.1 == x)).map (·.2) =
      if x = k then none else (l.find? (fun e => e.1 == x)).map (·.2) := by
  induction l with
  | nil => simp
  | cons a rest ih => grind

/- Dropping an entry changes the value of its key and of no other. -/
theorem get?_erase
    (d : Dict β) (k x : String) :
    (d.erase k).get? x = if x = k then none else d.get? x :=
  find?_filter_ne k x d.entries

theorem get?_mapWithKey
    (f : String → β → γ) (d : Dict β) (k : String) :
    (d.mapWithKey f).get? k = (d.get? k).map (f k) := by
  obtain ⟨l, hl⟩ := d
  simp only [get?, mapWithKey]
  induction l with
  | nil => rfl
  | cons a rest ih =>
    have ih := ih (List.pairwise_cons.1 hl).2
    grind

/- A key has a value exactly if it is listed. -/
theorem mem_keys_iff
    (d : Dict β) (k : String) :
    k ∈ d.keys ↔ (d.get? k).isSome := by
  simp [keys, get?]

/- Two ascending lists with the same lookups are equal. -/
private theorem entries_ext
    {l m : List (String × β)}
    (hl : l.Pairwise (fun a b => a.1 < b.1))
    (hm : m.Pairwise (fun a b => a.1 < b.1))
    (h : ∀ e, e ∈ l ↔ e ∈ m) :
    l = m := by
  induction l generalizing m with
  | nil =>
    cases m with
    | nil => rfl
    | cons b m => exact absurd ((h b).2 (by simp)) (by simp)
  | cons a l ih =>
    cases m with
    | nil => exact absurd ((h a).1 (by simp)) (by simp)
    | cons b m =>
      rw [List.pairwise_cons] at hl hm
      have hab : a = b := by
        rcases List.mem_cons.1 ((h a).1 (by simp)) with e | ha
        · exact e
        · rcases List.mem_cons.1 ((h b).2 (by simp)) with e | hb
          · exact e.symm
          · exact absurd (hm.1 a ha) (String.lt_asymm (hl.1 b hb))
      subst hab
      refine congrArg _ (ih hl.2 hm.2 fun e => ?_)
      have he := h e
      simp only [List.mem_cons] at he
      constructor
      · intro hel
        rcases he.1 (Or.inr hel) with rfl | h'
        · exact absurd (hl.1 e hel) (String.lt_irrefl _)
        · exact h'
      · intro hem
        rcases he.2 (Or.inr hem) with rfl | h'
        · exact absurd (hm.1 e hem) (String.lt_irrefl _)
        · exact h'

/- An entry is listed exactly if looking up its key gives its value. -/
theorem mem_entries_iff
    (d : Dict β) (k : String) (v : β) :
    (k, v) ∈ d.entries ↔ d.get? k = some v := by
  obtain ⟨l, hl⟩ := d
  simp only [get?]
  induction l with
  | nil => simp
  | cons a rest ih =>
    rw [List.pairwise_cons] at hl
    have ih := ih hl.2
    obtain ⟨k', v'⟩ := a
    by_cases hk : k' = k
    · subst hk
      simp only [List.mem_cons, Prod.mk.injEq, true_and, List.find?_cons_of_pos,
        beq_self_eq_true, Option.map_some, Option.some.injEq]
      constructor
      · rintro (h | h)
        · exact h.symm
        · exact absurd (hl.1 _ h) (String.lt_irrefl _)
      · exact fun h => Or.inl h.symm
    · grind

/- Dictionaries with the same lookups are equal. -/
theorem ext_get?
    {d e : Dict β}
    (h : ∀ k, d.get? k = e.get? k) :
    d = e := by
  have : d.entries = e.entries :=
    entries_ext d.sorted e.sorted fun x => by
      rw [mem_entries_iff d x.1 x.2, mem_entries_iff e x.1 x.2, h]
  cases d
  cases e
  simp_all

end Dict

end ProcessEvents
