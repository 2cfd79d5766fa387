import ProcessEvents.EventDescription

/-
  This file defines the tables behind conditional events as
  plain values: the stored descriptions and the index rows.

  Key definitions include:
    * `EventTable`
    * `EventTable.set`, `EventTable.removeDeployment`
    * `EventTable.ofEvent`, `EventTable.ofDeviceGroup`
    * `IndexTable`
    * `IndexTable.set`, `IndexTable.remove`
    * `IndexTable.ofDeviceGroup`
-/

namespace ProcessEvents

------------------------------------------------------------
-- Descriptions
------------------------------------------------------------

/- Stored descriptions, in the order in which they were set. -/
structure EventTable where
  rows : List EventDescription := []
  deriving Repr, Inhabited

namespace EventTable

/- Put a description at the end, in place of those with its key. -/
def set
    (t : EventTable)
    (d : EventDescription) : EventTable :=
  ⟨(t.rows.filter fun r => r.key ≠ d.key) ++ [d]⟩

/- Drop the descriptions of a deployment. -/
def removeDeployment
    (t : EventTable)
    (deploymentId : String) : EventTable :=
  ⟨t.rows.filter fun r => r.deploymentId ≠ deploymentId⟩

/- The descriptions of an event. -/
def ofEvent
    (t : EventTable)
    (eventId : String) : List EventDescription :=
  t.rows.filter fun r => r.eventId = eventId

/- The descriptions on a device group. -/
def ofDeviceGroup
    (t : EventTable)
    (groupId : String) : List EventDescription :=
  t.rows.filter fun r => r.deviceGroupId = groupId

/- The descriptions of a deployment. -/
def ofDeployment
    (t : EventTable)
    (deploymentId : String) : List EventDescription :=
  t.rows.filter fun r => r.deploymentId = deploymentId

end EventTable

------------------------------------------------------------
-- Index rows
------------------------------------------------------------

/- Index rows by the id of their deployment. -/
structure IndexTable where
  rows : Dict DeploymentIndex := .empty
  deriving Repr, Inhabited

namespace IndexTable

/- Put a row, in place of an earlier one of its deployment. -/
def set
    (t : IndexTable)
    (row : DeploymentIndex) : IndexTable :=
  ⟨t.rows.insert row.id row⟩

/- Drop the row of a deployment. -/
def remove
    (t : IndexTable)
    (deploymentId : String) : IndexTable :=
  ⟨t.rows.erase deploymentId⟩

/- The rows that refer to a group, in the order of their ids. -/
def ofDeviceGroup
    (t : IndexTable)
    (groupId : String) : List DeploymentIndex :=
  t.rows.values.filter fun r => r.deviceGroups.contains groupId

end IndexTable

end ProcessEvents
