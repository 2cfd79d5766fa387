import ProcessEvents.Proofs.Json.UnknownMembers

/-
  A codec of values that contain values of their own kind is
  made of levels. A level decodes what is nested less deep in
  the same way as all further ones, so that what holds of
  each level holds of the codec that picks one by the depth.

  Key definitions include:
    * `Codec.AgreeTo`, `Fields.AgreeTo`
    * `Codec.AreLevels`

  Key theorems include:
    * `Codec.AgreeTo.record`
    * `Codec.AreLevels.agreeTo`, `Codec.AreLevels.encode_eq`
    * `Codec.Restores.of_levels`
-/

namespace ProcessEvents

open Json

variable {α β : Type}

/- Both decode what is nested up to a level in the same way. -/
def Codec.AgreeTo
    (level : Nat)
    (c c' : Codec α) : Prop :=
  ∀ j, depth j ≤ level → c.decode j = c'.decode j

/-
  Both are read in the same way from members and items that
  are nested up to a level.
-/
structure Fields.AgreeTo
    (level : Nat)
    (f f' : Fields α) : Prop where
  names : f.names = f'.names
  ofMembers :
    ∀ find : String → Option Json,
      (∀ name v, find name = some v → depth v ≤ level) →
        f.ofMembers find = f'.ofMembers find
  ofItems :
    ∀ items, (∀ j ∈ items, depth j ≤ level) → f.ofItems items = f'.ofItems items

theorem Json.depthItems_le_iff
    {items : List Json} {level : Nat} :
    depthItems items ≤ level ↔ ∀ j ∈ items, depth j ≤ level := by
  induction items with
  | nil => simp [depthItems]
  | cons j rest ih =>
      simp only [depthItems, Nat.max_le, ih, List.forall_mem_cons]

namespace Fields.AgreeTo

variable {c c' : Codec α} {f f' : Fields α} {g g' : Fields β} {level : Nat}

theorem refl
    (f : Fields α) :
    f.AgreeTo level f where
  names := rfl
  ofMembers _ _ := rfl
  ofItems _ _ := rfl

/- Items are nested less deep than their array. -/
theorem items
    (name : String)
    (hAgree : c.AgreeTo level c') :
    (Fields.items name c).AgreeTo level (Fields.items name c') := by
  have hList : (Codec.list c).AgreeTo level (Codec.list c') := by
    intro j hDepth
    cases j with
    | arr items =>
        rw [depth] at hDepth
        have hItems := depthItems_le_iff.mp (Nat.le_of_succ_le hDepth)
        clear hDepth
        simp only [Codec.list]
        induction items with
        | nil => rfl
        | cons j rest ih =>
            rcases List.forall_mem_cons.mp hItems with ⟨hHead, hRest⟩
            rw [List.mapM_cons, List.mapM_cons, hAgree j hHead, ih hRest]
    | null | bool b | int n | double x | str s | obj members | unreadable => rfl
  constructor
  · rfl
  · intro find hFind
    simp only [Fields.items, Fields.field]
    cases hValue : find name with
    | none => rfl
    | some v => exact hList v (hFind name v hValue)
  · intro items hItems
    cases items with
    | nil => rfl
    | cons j rest =>
        simp only [Fields.items, Fields.field,
          hList j (hItems j List.mem_cons_self)]

theorem pair
    [hRegular : f'.Regular]
    (hFirst : f.AgreeTo level f')
    (hSecond : g.AgreeTo level g') :
    (f.pair g).AgreeTo level (f'.pair g') where
  names := by rw [Fields.pair, hFirst.names, hSecond.names]; rfl
  ofMembers find hFind := by
    simp only [Fields.pair, hFirst.ofMembers find hFind,
      hSecond.ofMembers find hFind]
  ofItems items hItems := by
    simp only [Fields.pair, hFirst.ofItems items hItems]
    cases hRead : f'.ofItems items with
    | none => rfl
    | some p =>
        rcases p with ⟨x, rest⟩
        have hRest : ∀ j ∈ rest, depth j ≤ level := by
          rw [hRegular.rest items x rest hRead]
          exact fun j hMem => hItems j (List.mem_of_mem_drop hMem)
        simp only [Option.bind_eq_bind, Option.bind_some,
          hSecond.ofItems rest hRest]

end Fields.AgreeTo

/- The parts of a record are nested less deep than the record. -/
theorem Codec.AgreeTo.record
    {f f' : Fields α} {make : α → β} {of of' : β → α} {level : Nat}
    (hFields : ∀ below, below < level → f.AgreeTo below f') :
    (Codec.record f make of).AgreeTo level (Codec.record f' make of') := by
  intro j hDepth
  cases j with
  | obj members =>
      rw [depth] at hDepth
      have hAgree := hFields _ hDepth
      have hFind : ∀ name v, find? members name = some v →
          depth v ≤ depthMembers members := by
        intro name v hFound
        rcases Option.map_eq_some_iff.mp hFound with ⟨m, hMem, rfl⟩
        exact depthMembers_le_iff.mp (Nat.le_refl _) m
          (List.mem_of_find?_eq_some hMem)
      simp only [Codec.record, hAgree.names, hAgree.ofMembers _ hFind]
  | arr items =>
      rw [depth] at hDepth
      have hAgree := hFields _ hDepth
      simp only [Codec.record,
        hAgree.ofItems items (depthItems_le_iff.mp (Nat.le_refl _))]
  | null | bool b | int n | double x | str s | unreadable => rfl

------------------------------------------------------------
-- Levels
------------------------------------------------------------

/-
  Each level decodes and writes a value by the level below it,
  which it uses for the values within the value only.
-/
structure Codec.AreLevels
    (levels : Nat → Codec α)
    (depthOf : α → Nat)
    (subs : α → List α) : Prop where
  decode :
    ∀ level m n,
      (∀ below, below < level → (levels m).AgreeTo below (levels n)) →
        (levels (m + 1)).AgreeTo level (levels (n + 1))
  encode :
    ∀ m n x,
      (∀ s ∈ subs x, (levels m).encode s = (levels n).encode s) →
        (levels (m + 1)).encode x = (levels (n + 1)).encode x
  depth_pos : ∀ x, 0 < depthOf x
  depth_lt : ∀ x, ∀ s ∈ subs x, depthOf s < depthOf x

/- The depth of a list of values is that of the deepest one. -/
theorem Codec.AreLevels.depth_lt_of_mem
    {depthOf : α → Nat} {depthOfAll : List α → Nat} {xs : List α} {x : α}
    (hCons : ∀ y ys, depthOfAll (y :: ys) = max (depthOf y) (depthOfAll ys))
    (hMem : x ∈ xs) :
    depthOf x < depthOfAll xs + 1 := by
  induction xs with
  | nil => cases hMem
  | cons y ys ih =>
      rw [hCons]
      rcases List.mem_cons.mp hMem with rfl | hRest
      · exact Nat.lt_succ_of_le (Nat.le_max_left _ _)
      · exact Nat.lt_of_lt_of_le (ih hRest)
          (Nat.succ_le_succ (Nat.le_max_right _ _))

namespace Codec.AreLevels

variable
  {levels : Nat → Codec α} {depthOf : α → Nat} {subs : α → List α}

theorem agreeTo
    (hLevels : AreLevels levels depthOf subs)
    (level m n : Nat)
    (hLeft : level < m)
    (hRight : level < n) :
    (levels m).AgreeTo level (levels n) := by
  induction m generalizing level n with
  | zero => cases hLeft
  | succ m ih =>
      cases n with
      | zero => cases hRight
      | succ n =>
          apply hLevels.decode
          intro below hBelow
          exact ih below n (by omega) (by omega)

theorem encode_eq
    (hLevels : AreLevels levels depthOf subs)
    (m n : Nat) (x : α)
    (hLeft : depthOf x ≤ m)
    (hRight : depthOf x ≤ n) :
    (levels m).encode x = (levels n).encode x := by
  have hPositive := hLevels.depth_pos x
  induction m generalizing n x with
  | zero => omega
  | succ m ih =>
      cases n with
      | zero => omega
      | succ n =>
          apply hLevels.encode
          intro s hMem
          have hBelow := hLevels.depth_lt x s hMem
          exact ih n s (by omega) (by omega) (hLevels.depth_pos s)

end Codec.AreLevels

/- What all levels restore is restored by the codec that picks among them. -/
theorem Codec.Restores.of_levels
    {levels : Nat → Codec α} {depthOf : α → Nat} {subs : α → List α}
    {P : α → Prop}
    (hLevels : AreLevels levels depthOf subs)
    (hRestores : ∀ n, (levels n).Restores P) :
    (Codec.mk
      (fun j => (levels (j.depth + 1)).decode j)
      (fun x => (levels (depthOf x)).encode x)).Restores P := by
  -- a level that is high enough for the value, where it comes from, and its
  -- written form
  have hLevel :
      ∀ j x,
        (levels (j.depth + 1)).decode j = some x →
          ∃ n,
            (levels n).Reads x ∧
              (levels n).encode x = (levels (depthOf x)).encode x ∧
              (levels (((levels (depthOf x)).encode x).depth + 1)).decode
                  ((levels (depthOf x)).encode x) =
                (levels n).decode ((levels (depthOf x)).encode x) := by
    intro j x hRead
    refine ⟨j.depth + ((levels (depthOf x)).encode x).depth + depthOf x + 1,
      ⟨j, ?_⟩, ?_, ?_⟩
    · rw [← hRead]
      exact hLevels.agreeTo j.depth _ _ (by omega) (by omega) j (Nat.le_refl _)
    · exact hLevels.encode_eq _ _ x (by omega) (Nat.le_refl _)
    · exact hLevels.agreeTo _ _ _ (by omega) (by omega) _ (Nat.le_refl _)
  constructor
  · rintro x ⟨j, hRead⟩
    rcases hLevel j x hRead with ⟨n, hReads, hWritten, -⟩
    change ((levels (depthOf x)).encode x).isReadable = true
    rw [← hWritten]
    exact (hRestores n).isReadable x hReads
  · rintro x ⟨j, hRead⟩
    rcases hLevel j x hRead with ⟨n, hReads, hWritten, hAgain⟩
    change (levels (((levels (depthOf x)).encode x).depth + 1)).decode
      ((levels (depthOf x)).encode x) = some x ↔ P x
    rw [hAgain, ← hWritten]
    exact (hRestores n).decode_iff x hReads

end ProcessEvents
