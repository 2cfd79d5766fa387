import ProcessEvents.EventRequest

/-
  This file defines the pipelines of a platform as a plain
  value: rows in the order of their creation, each with its
  owner and the request it runs.

  Key definitions include:
    * `PipelineRow`
    * `PipelineTable`
    * `PipelineTable.ofOwner`
    * `PipelineTable.create`
    * `PipelineTable.update?`
    * `PipelineTable.remove?`
-/

namespace ProcessEvents

/- A running pipeline. -/
structure PipelineRow where
  id : Uuid
  owner : String
  token : BearerToken
  request : PipelineRequest
  deriving DecidableEq, Repr

/- A pipeline as its owner sees it listed. -/
def PipelineRow.listed
    (r : PipelineRow) : Pipeline :=
  { id := r.id, name := r.request.name, description := r.request.description }

/- All pipelines, and how many have been created. -/
structure PipelineTable where
  rows : List PipelineRow := []
  created : Nat := 0
  deriving DecidableEq, Repr, Inhabited

namespace PipelineTable

/- The pipelines of an owner. -/
def ofOwner
    (t : PipelineTable)
    (owner : String) : List Pipeline :=
  (t.rows.filter fun r => r.owner = owner).map PipelineRow.listed

/- Add a pipeline, whose id is the number of its creation. -/
def create
    (t : PipelineTable)
    (token : BearerToken)
    (owner : String)
    (request : PipelineRequest) : Pipeline × PipelineTable :=
  let row : PipelineRow :=
    { id := .ofNat (t.created + 1), owner, token, request }
  (row.listed, { rows := t.rows ++ [row], created := t.created + 1 })

/- Whether there is a pipeline with an id. -/
def has
    (t : PipelineTable)
    (id : Uuid) : Bool :=
  t.rows.any fun r => r.id = id

/- Replace what the pipeline with the request's id runs. -/
def update?
    (t : PipelineTable)
    (token : BearerToken)
    (owner : String)
    (request : PipelineRequest) : Option (Pipeline × PipelineTable) := do
  let id ← Uuid.parse? request.id
  guard (t.has id)
  let row : PipelineRow := { id, owner, token, request }
  return (row.listed,
    { t with rows := t.rows.map fun r => if r.id = id then row else r })

/- Drop the pipeline with an id. -/
def remove?
    (t : PipelineTable)
    (id : String) : Option PipelineTable := do
  let id ← Uuid.parse? id
  guard (t.has id)
  return { t with rows := t.rows.filter fun r => r.id ≠ id }

end PipelineTable

end ProcessEvents
