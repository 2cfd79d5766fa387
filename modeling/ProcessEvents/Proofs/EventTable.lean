import ProcessEvents.EventTable
import ProcessEvents.Proofs.Collaborator
import ProcessEvents.Proofs.Dict
import ProcessEvents.Proofs.EventStore

/-
  This file shows that the tables of conditional events are
  stores that do what is expected of them.

  Key definitions include:
    * `IndexTable.Keyed`
    * `EventTables`
    * `EventTables.stored`
    * `EventTables.events`, `EventTables.index`

  Key theorems include:
    * `EventTables.events_lawful`, `EventTables.events_atomic`
    * `EventTables.index_lawful`, `EventTables.index_atomic`
-/

namespace ProcessEvents

------------------------------------------------------------
-- Rows by their ids
------------------------------------------------------------

namespace IndexTable

/- Every row stands under its id. -/
def Keyed
    (t : IndexTable) : Prop :=
  ∀ e ∈ t.rows.entries, e.1 = e.2.id

variable {t : IndexTable}

theorem keyed_empty :
    Keyed {} :=
  nofun

theorem Keyed.set
    (hTable : t.Keyed)
    (row : DeploymentIndex) :
    (t.set row).Keyed := by
  intro e hMem
  have hIn := (t.rows.entries_insert_perm row.id row).mem_iff.mp hMem
  rcases List.mem_cons.mp hIn with rfl | hOld
  · rfl
  · exact hTable e (List.mem_of_mem_filter hOld)

theorem Keyed.remove
    (hTable : t.Keyed)
    (deploymentId : String) :
    (t.remove deploymentId).Keyed := by
  intro e hMem
  exact hTable e (List.mem_of_mem_filter hMem)

/- Rows under other keys are rows with other ids. -/
theorem Keyed.values_filter
    (hTable : t.Keyed)
    (id : String) :
    (t.rows.entries.filter fun e => e.1 ≠ id).map (·.2) =
      t.rows.values.filter fun r => r.id ≠ id := by
  rw [Dict.values, List.filter_map]
  apply congrArg (List.map _)
  apply List.filter_congr
  intro e hMem
  rw [hTable e hMem]
  rfl

theorem Keyed.values_set
    (hTable : t.Keyed)
    (row : DeploymentIndex) :
    (t.set row).rows.values.Perm
      (row :: t.rows.values.filter fun r => r.id ≠ row.id) := by
  rw [← hTable.values_filter]
  exact (t.rows.entries_insert_perm row.id row).map _

/- No id stands twice. -/
theorem Keyed.nodup_ids
    (hTable : t.Keyed) :
    (t.rows.values.map (·.id)).Nodup := by
  have hIds : t.rows.values.map (·.id) = t.rows.keys := by
    rw [Dict.values, Dict.keys, List.map_map]
    exact List.map_congr_left fun e hMem => (hTable e hMem).symm
  rw [hIds]
  exact t.rows.nodup_keys

end IndexTable

------------------------------------------------------------
-- Stores
------------------------------------------------------------

/- The tables of descriptions and of index rows. -/
structure EventTables where
  descriptions : EventTable
  rows : IndexTable
  keyed : rows.Keyed

namespace EventTables

def stored
    (s : EventTables) : StoredEvents :=
  { descriptions := s.descriptions.rows, index := s.rows.rows.values }

/- The tables after rows have been put into the index one after the other. -/
def ofLists
    (descriptions : List EventDescription)
    (rows : List DeploymentIndex) : EventTables where
  descriptions := ⟨descriptions⟩
  rows := rows.foldl IndexTable.set {}
  keyed :=
    List.foldlRecOn rows IndexTable.set IndexTable.keyed_empty
      fun _ hTable row _ => hTable.set row

def events : EventStore EventTables where
  set d := .modify fun s => { s with descriptions := s.descriptions.set d }
  removeByDeployment id :=
    .modify fun s =>
      { s with descriptions := s.descriptions.removeDeployment id }
  byEvent id := .read fun s => s.descriptions.ofEvent id
  byDeviceGroup id := .read fun s => s.descriptions.ofDeviceGroup id
  byDeployment id := .read fun s => s.descriptions.ofDeployment id

def index : IndexStore EventTables where
  set row :=
    .modify fun s => { s with rows := s.rows.set row, keyed := s.keyed.set row }
  remove id := .modify fun s =>
    { s with rows := s.rows.remove id, keyed := s.keyed.remove id }
  byDeviceGroup id := .read fun s => s.rows.ofDeviceGroup id

theorem events_lawful :
    events.Lawful stored where
  set_ok {d s s'} hRun := by
    cases hRun
    apply StoredEvents.ext
    · rw [StoredEvents.put, ← Multiset.singleton_add, Multiset.add_comm]
      rfl
    · rfl
  removeByDeployment_ok {deploymentId s s'} hRun := by
    cases hRun
    rfl
  byEvent _ _ := rfl
  byEvent_ok hRun := by
    cases hRun
    rfl
  byDeviceGroup _ _ := rfl
  byDeviceGroup_ok hRun := by
    cases hRun
    rfl
  byDeployment _ _ := rfl
  byDeployment_ok hRun := by
    cases hRun
    rfl

theorem events_atomic :
    events.Atomic stored where
  set_error hRun := by cases hRun
  removeByDeployment_error hRun := by cases hRun

theorem index_lawful :
    index.Lawful stored where
  set_ok {row s s'} hRun := by
    cases hRun
    apply StoredEvents.ext
    · rfl
    · exact Multiset.coe_eq_coe.mpr (s.keyed.values_set row)
  remove_ok {deploymentId s s'} hRun := by
    cases hRun
    apply StoredEvents.ext
    · rfl
    · exact congrArg (Multiset.ofList ·) (s.keyed.values_filter deploymentId)
  byDeviceGroup _ _ := rfl
  byDeviceGroup_ok {groupId s s' rows} hRun := by
    cases hRun
    change
      ((s.rows.rows.values.filter fun r => r.deviceGroups.contains groupId :
          List DeploymentIndex) : Multiset DeploymentIndex) =
        (s.rows.rows.values : Multiset DeploymentIndex).filter fun r =>
          groupId ∈ r.deviceGroups
    rw [Multiset.filter_coe]
    apply congrArg
    apply List.filter_congr
    intro r _
    exact List.contains_eq_mem groupId r.deviceGroups

theorem index_atomic :
    index.Atomic stored where
  set_error hRun := by cases hRun
  remove_error hRun := by cases hRun

/- No call fails. -/
theorem events_succeed :
    events.All Action.Succeeds where
  set _ _ := ⟨(), _, rfl⟩
  removeByDeployment _ _ := ⟨(), _, rfl⟩
  byEvent _ s := ⟨_, s, rfl⟩
  byDeviceGroup _ s := ⟨_, s, rfl⟩
  byDeployment _ s := ⟨_, s, rfl⟩

theorem index_succeed :
    index.All Action.Succeeds where
  set _ _ := ⟨(), _, rfl⟩
  remove _ _ := ⟨(), _, rfl⟩
  byDeviceGroup _ s := ⟨_, s, rfl⟩

end EventTables

end ProcessEvents
