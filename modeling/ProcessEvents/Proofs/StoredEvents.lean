import Mathlib.Data.Multiset.Count
import Mathlib.Data.Multiset.Filter
import ProcessEvents.EventDescription

/-
  This file defines what is stored for conditional events as
  two collections without order, and what can be done to
  them. It is told apart by deployments: what is done for one
  of them leaves alone what is stored for the others.

  Key definitions include:
    * `EventDescription.lastByKey`
    * `StoredEvents`
    * `StoredEvents.of`
    * `StoredEvents.put`, `StoredEvents.putAll`
    * `StoredEvents.putRow`
    * `StoredEvents.dropDescriptions`, `StoredEvents.dropRow`
    * `StoredEvents.without`

  Key theorems include:
    * `EventDescription.mem_lastByKey_iff`
    * `StoredEvents.eq_of_of_eq`
    * `StoredEvents.of_without`
    * `StoredEvents.without_eq_self`, `StoredEvents.without_eq_empty`
    * `StoredEvents.of_putAll`
    * `StoredEvents.of_putRow`
-/

namespace ProcessEvents

------------------------------------------------------------
-- Descriptions with equal keys
------------------------------------------------------------

namespace EventDescription

/- Of descriptions with equal keys, only the last one. -/
def lastByKey : List EventDescription → List EventDescription
  | [] => []
  | d :: rest =>
    if d.key ∈ rest.map key then lastByKey rest else d :: lastByKey rest

/- A description stays if none behind it has its key. -/
theorem mem_lastByKey_iff
    {ds : List EventDescription} {d : EventDescription} :
    d ∈ lastByKey ds ↔
      ∃ before after, ds = before ++ d :: after ∧ d.key ∉ after.map key := by
  induction ds with
  | nil =>
      constructor
      · nofun
      · rintro ⟨before, after, hList, -⟩
        simp at hList
  | cons d' rest ih =>
      rw [lastByKey]
      by_cases hLater : d'.key ∈ rest.map key
      · rw [if_pos hLater, ih]
        constructor
        · rintro ⟨before, after, rfl, hLast⟩
          exact ⟨d' :: before, after, rfl, hLast⟩
        · rintro ⟨before, after, hList, hLast⟩
          cases before with
          | nil =>
              cases hList
              exact absurd hLater hLast
          | cons _ before =>
              cases hList
              exact ⟨before, after, rfl, hLast⟩
      · rw [if_neg hLater, List.mem_cons, ih]
        constructor
        · rintro (rfl | ⟨before, after, rfl, hLast⟩)
          · exact ⟨[], rest, rfl, hLater⟩
          · exact ⟨d' :: before, after, rfl, hLast⟩
        · rintro ⟨before, after, hList, hLast⟩
          cases before with
          | nil =>
              cases hList
              exact Or.inl rfl
          | cons _ before =>
              cases hList
              exact Or.inr ⟨before, after, rfl, hLast⟩

theorem mem_of_mem_lastByKey
    {ds : List EventDescription} {d : EventDescription}
    (hMem : d ∈ lastByKey ds) :
    d ∈ ds := by
  rcases mem_lastByKey_iff.mp hMem with ⟨before, after, rfl, -⟩
  exact List.mem_append_right before List.mem_cons_self

/- Every key that there is stays. -/
theorem key_mem_lastByKey
    {ds : List EventDescription} {k : Key} :
    k ∈ (lastByKey ds).map key ↔ k ∈ ds.map key := by
  induction ds with
  | nil => rfl
  | cons d rest ih =>
      rw [lastByKey]
      by_cases hLater : d.key ∈ rest.map key
      · rw [if_pos hLater, ih, List.map_cons, List.mem_cons]
        constructor
        · exact Or.inr
        · rintro (rfl | hRest)
          · exact hLater
          · exact hRest
      · rw [if_neg hLater, List.map_cons, List.mem_cons,
          ih, List.map_cons, List.mem_cons]

/- No key stays twice. -/
theorem nodup_lastByKey
    (ds : List EventDescription) :
    ((lastByKey ds).map key).Nodup := by
  induction ds with
  | nil => exact List.nodup_nil
  | cons d rest ih =>
      rw [lastByKey]
      by_cases hLater : d.key ∈ rest.map key
      · rw [if_pos hLater]
        exact ih
      · rw [if_neg hLater, List.map_cons, List.nodup_cons, key_mem_lastByKey]
        exact ⟨hLater, ih⟩

end EventDescription

open EventDescription (lastByKey)

------------------------------------------------------------
-- Descriptions and rows
------------------------------------------------------------

/- The descriptions and the index rows that are stored. -/
@[ext]
structure StoredEvents where
  descriptions : Multiset EventDescription
  index : Multiset DeploymentIndex

namespace StoredEvents

/- Nothing is stored. -/
def empty : StoredEvents :=
  { descriptions := 0, index := 0 }

/- What is stored for a deployment. -/
def of
    (t : StoredEvents)
    (deploymentId : String) : StoredEvents :=
  { descriptions := t.descriptions.filter fun d => d.deploymentId = deploymentId
    index := t.index.filter fun r => r.id = deploymentId }

/- Put a description, in place of those with its key. -/
def put
    (t : StoredEvents)
    (d : EventDescription) : StoredEvents :=
  { t with descriptions := d ::ₘ t.descriptions.filter fun r => r.key ≠ d.key }

/- Put descriptions one after the other. -/
def putAll
    (t : StoredEvents)
    (ds : List EventDescription) : StoredEvents :=
  ds.foldl put t

/- Put a row, in place of those with its id. -/
def putRow
    (t : StoredEvents)
    (row : DeploymentIndex) : StoredEvents :=
  { t with index := row ::ₘ t.index.filter fun r => r.id ≠ row.id }

def dropDescriptions
    (t : StoredEvents)
    (deploymentId : String) : StoredEvents :=
  { t with
    descriptions :=
      t.descriptions.filter fun d => d.deploymentId ≠ deploymentId }

def dropRow
    (t : StoredEvents)
    (deploymentId : String) : StoredEvents :=
  { t with index := t.index.filter fun r => r.id ≠ deploymentId }

/- Drop all that is stored for a deployment. -/
def without
    (t : StoredEvents)
    (deploymentId : String) : StoredEvents :=
  (t.dropDescriptions deploymentId).dropRow deploymentId

variable (t : StoredEvents)

------------------------------------------------------------
-- Deployments apart from each other
------------------------------------------------------------

/- What is stored is what is stored for each deployment. -/
theorem eq_of_of_eq
    {t t' : StoredEvents}
    (hOf : ∀ deploymentId, t.of deploymentId = t'.of deploymentId) :
    t = t' := by
  classical
  apply StoredEvents.ext
  · apply Multiset.ext.mpr
    intro d
    have hCount :=
      congrArg (fun u => u.descriptions.count d) (hOf d.deploymentId)
    simpa [of, Multiset.count_filter] using hCount
  · apply Multiset.ext.mpr
    intro r
    have hCount := congrArg (fun u => u.index.count r) (hOf r.id)
    simpa [of, Multiset.count_filter] using hCount

/- Entries under one key, after those under another have been dropped. -/
theorem filter_eq_filter_ne
    {α : Type} (f : α → String) (m : Multiset α) (dropped other : String) :
    (m.filter fun x => f x ≠ dropped).filter (fun x => f x = other) =
      if other = dropped then 0 else m.filter fun x => f x = other := by
  rw [Multiset.filter_filter]
  by_cases hSame : other = dropped
  · rw [if_pos hSame]
    apply Multiset.filter_eq_nil.mpr
    rintro x _ ⟨hOther, hKept⟩
    exact hKept (hOther.trans hSame)
  · rw [if_neg hSame]
    apply Multiset.filter_congr
    intro x _
    constructor
    · exact And.left
    · intro hKey
      exact ⟨hKey, fun hDropped => hSame (hKey.symm.trans hDropped)⟩

theorem of_dropDescriptions
    (deploymentId other : String) :
    (t.dropDescriptions deploymentId).of other =
      { t.of other with
        descriptions :=
          if other = deploymentId then 0 else (t.of other).descriptions } :=
  StoredEvents.ext (filter_eq_filter_ne _ _ _ _) rfl

theorem of_dropRow
    (deploymentId other : String) :
    (t.dropRow deploymentId).of other =
      { t.of other with
        index := if other = deploymentId then 0 else (t.of other).index } :=
  StoredEvents.ext rfl (filter_eq_filter_ne _ _ _ _)

theorem of_without
    (deploymentId other : String) :
    (t.without deploymentId).of other =
      if other = deploymentId then empty else t.of other := by
  rw [without, of_dropRow, of_dropDescriptions]
  split
  · rfl
  · rfl

theorem of_empty
    (deploymentId : String) :
    empty.of deploymentId = empty := rfl

theorem without_empty
    (deploymentId : String) :
    empty.without deploymentId = empty := rfl

/- Without a deployment for which nothing is stored, all is left. -/
theorem without_eq_self
    {deploymentId : String}
    (hNone : t.of deploymentId = empty) :
    t.without deploymentId = t := by
  apply eq_of_of_eq
  intro other
  rw [of_without]
  split
  · rename_i hHere
    rw [hHere, hNone]
  · rfl

/- Without the only deployment for which anything is stored, nothing is left. -/
theorem without_eq_empty
    {deploymentId : String}
    (hOthers : ∀ other, other ≠ deploymentId → t.of other = empty) :
    t.without deploymentId = empty := by
  apply eq_of_of_eq
  intro other
  rw [of_without, of_empty]
  split
  · rfl
  · rename_i hOther
    exact hOthers other hOther

/- A row takes the place of the rows of its deployment. -/
theorem of_putRow
    (row : DeploymentIndex) (other : String) :
    (t.putRow row).of other =
      { t.of other with
        index := if other = row.id then {row} else (t.of other).index } := by
  apply StoredEvents.ext
  · rfl
  · have hRest := filter_eq_filter_ne DeploymentIndex.id t.index row.id other
    simp only [of, putRow, Multiset.filter_cons, hRest]
    by_cases hSame : other = row.id
    · rw [if_pos hSame, if_pos hSame, if_pos hSame.symm, Multiset.add_zero]
    · rw [if_neg hSame, if_neg hSame, if_neg (Ne.symm hSame), Multiset.zero_add]

/- Of descriptions that are put in turn, the last one of each key stays. -/
theorem putAll_eq
    (ds : List EventDescription) :
    t.putAll ds =
      { t with
        descriptions :=
          lastByKey ds + t.descriptions.filter fun r =>
            r.key ∉ ds.map (·.key) } := by
  induction ds generalizing t with
  | nil =>
      refine StoredEvents.ext ?_ rfl
      simp [putAll, lastByKey]
  | cons d rest ih =>
      change (t.put d).putAll rest = _
      rw [ih]
      refine StoredEvents.ext ?_ rfl
      have hFilter :
          (t.descriptions.filter fun r => r.key ≠ d.key).filter
              (fun r => r.key ∉ rest.map (·.key)) =
            t.descriptions.filter fun r => r.key ∉ (d :: rest).map (·.key) := by
        rw [Multiset.filter_filter]
        apply Multiset.filter_congr
        intro r _
        simp only [List.map_cons, List.mem_cons, not_or]
        exact and_comm
      simp only [put, lastByKey, Multiset.filter_cons, hFilter]
      by_cases hLater : d.key ∈ rest.map (·.key)
      · rw [if_neg (not_not_intro hLater), if_pos hLater, Multiset.zero_add]
      · rw [if_pos hLater, if_neg hLater, ← Multiset.cons_coe,
          ← Multiset.add_assoc, Multiset.add_comm _ {d}, Multiset.singleton_add]

/-
  Descriptions of a deployment that none are stored for are
  all that is stored for it afterwards.
-/
theorem of_putAll
    {ds : List EventDescription} {deploymentId : String}
    (hOf : ∀ d ∈ ds, d.deploymentId = deploymentId)
    (hNone : (t.of deploymentId).descriptions = 0)
    (other : String) :
    (t.putAll ds).of other =
      { t.of other with
        descriptions :=
          if other = deploymentId then lastByKey ds
          else (t.of other).descriptions } := by
  have hLast : ∀ d ∈ (lastByKey ds : Multiset EventDescription),
      d.deploymentId = deploymentId :=
    fun d hMem => hOf d (EventDescription.mem_of_mem_lastByKey hMem)
  have hKey : ∀ r : EventDescription, r.key ∈ ds.map (·.key) →
      r.deploymentId = deploymentId := by
    intro r hMem
    rcases List.mem_map.mp hMem with ⟨d, hIn, hSame⟩
    exact (congrArg EventDescription.Key.deploymentId hSame).symm.trans
      (hOf d hIn)
  rw [putAll_eq]
  apply StoredEvents.ext
  · simp only [of, Multiset.filter_add] at hNone ⊢
    by_cases hSame : other = deploymentId
    · subst hSame
      rw [if_pos rfl, Multiset.filter_eq_self.mpr hLast, Multiset.filter_comm,
        hNone, Multiset.filter_zero, Multiset.add_zero]
    · have hNew :
          ((lastByKey ds : Multiset EventDescription).filter fun d =>
            d.deploymentId = other) = 0 := by
        apply Multiset.filter_eq_nil.mpr
        intro d hMem hOther
        exact hSame (hOther.symm.trans (hLast d hMem))
      rw [if_neg hSame, hNew, Multiset.zero_add, Multiset.filter_filter]
      apply Multiset.filter_congr
      intro r _
      constructor
      · exact And.left
      · intro hOther
        exact ⟨hOther, fun hMem => hSame (hOther.symm.trans (hKey r hMem))⟩
  · rfl

end StoredEvents

end ProcessEvents
