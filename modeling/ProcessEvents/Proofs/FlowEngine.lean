import Mathlib.Data.List.Perm.Subperm
import ProcessEvents.Collaborator
import ProcessEvents.PipelineTable
import ProcessEvents.Proofs.Action
import ProcessEvents.Proofs.PipelineDescription
import ProcessEvents.Proofs.Uuid

/-
  This file states what is expected of a flow engine, in
  terms of the pipelines that it runs: it lists those of a
  user, it creates a pipeline under an id of its own, and it
  replaces or removes the pipeline that an id names.

  Key definitions include:
    * `RunningPipelines`
    * `RunningPipelines.besides`
    * `PipelineRequest.IsFor`
    * `PipelineRow.event?`
    * `PipelineRow.isOf`
    * `FlowEngine.Lawful`
    * `FlowEngine.UpdatesOne`
    * `FlowEngine.AllOrNothing`
    * `FlowEngine.Ready`, `FlowEngine.Serves`

  Key theorems include:
    * `FlowEngine.Lawful.mem_eventPipelines`
    * `FlowEngine.Lawful.mem_ids_filter`
    * `FlowEngine.Lawful.eventPipelines_filter`
-/

namespace ProcessEvents

variable {σ ω : Type}

------------------------------------------------------------
-- Pipelines
------------------------------------------------------------

/- The pipelines that are running; no two of them share an id. -/
structure RunningPipelines where
  rows : List PipelineRow
  distinct : (rows.map (·.id)).Nodup

theorem RunningPipelines.eq_of_id_eq
    (p : RunningPipelines)
    {r r' : PipelineRow}
    (hRow : r ∈ p.rows)
    (hRow' : r' ∈ p.rows)
    (hId : r.id = r'.id) :
    r = r' :=
  List.inj_on_of_nodup_map p.distinct hRow hRow' hId

/- The request carries a record for a deployment. -/
def PipelineRequest.IsFor
    (deploymentId : String)
    (request : PipelineRequest) : Prop :=
  ∃ d,
    PipelineDescription.parse? request.description = some d ∧
      d.deploymentId = deploymentId

namespace PipelineRow

/- The event that a pipeline has been created for, if any. -/
def event?
    (r : PipelineRow) : Option EventPipeline :=
  EventPipeline.ofPipeline? r.listed

/- Whether a pipeline is its owner's for a certain deployment. -/
def isOf
    (owner deploymentId : String)
    (r : PipelineRow) : Bool :=
  r.owner == owner &&
    (PipelineDescription.parse? r.request.description).any
      (·.deploymentId == deploymentId)

theorem isOf_iff
    {owner deploymentId : String} {r : PipelineRow} :
    r.isOf owner deploymentId = true ↔
      r.owner = owner ∧ r.request.IsFor deploymentId := by
  simp only [isOf, PipelineRequest.IsFor, Bool.and_eq_true,
    beq_iff_eq, Option.any_eq_true]

theorem event?_eq_some_iff
    {r : PipelineRow} {p : EventPipeline} :
    r.event? = some p ↔
      PipelineDescription.parse? r.request.description = some p.description ∧
        p.id = r.id.toText ∧ p.name = r.request.name := by
  simp only [event?, EventPipeline.ofPipeline?, listed, Option.map_eq_some_iff]
  constructor
  · rintro ⟨d, hParse, rfl⟩
    exact ⟨hParse, rfl, rfl⟩
  · rintro ⟨hParse, hId, hName⟩
    refine ⟨p.description, hParse, ?_⟩
    rw [← hId, ← hName]

end PipelineRow

/- The pipelines that are none of an owner's for a deployment. -/
def RunningPipelines.besides
    (p : RunningPipelines)
    (owner deploymentId : String) : List PipelineRow :=
  p.rows.filter fun r => !r.isOf owner deploymentId

------------------------------------------------------------
-- Engines
------------------------------------------------------------

/-
  An engine that does what it has been asked for. Of a call
  that fails nothing is expected.
-/
structure FlowEngine.Lawful
    (engine : FlowEngine σ)
    (pipelines : σ → RunningPipelines) : Prop where
  flowInputs :
    ∀ owner flowId, Action.Keeps pipelines (engine.flowInputs owner flowId)
  list : ∀ owner, Action.Keeps pipelines (engine.list owner)
  list_ok :
    ∀ {owner : String} {s s' : σ} {ps : List Pipeline},
      engine.list owner s = (.ok ps, s') →
        ∀ p, p ∈ ps ↔
          ∃ r ∈ (pipelines s).rows, r.owner = owner ∧ r.listed = p
  create_ok :
    ∀ {token : BearerToken} {owner : String} {request : PipelineRequest}
      {s s' : σ} {p : Pipeline},
      engine.create token owner request s = (.ok p, s') →
        (pipelines s').rows =
          (pipelines s).rows ++ [{ id := p.id, owner, token, request }]
  update_ok :
    ∀ {token : BearerToken} {owner : String} {request : PipelineRequest}
      {s s' : σ} {p : Pipeline} {id : Uuid},
      request.id = id.toText →
        engine.update token owner request s = (.ok p, s') →
          (pipelines s').rows =
            (pipelines s).rows.map fun r =>
              if r.id = id then { id, owner, token, request } else r
  remove_ok :
    ∀ {owner : String} {id : Uuid} {s s' : σ},
      engine.remove owner id.toText s = (.ok (), s') →
        (pipelines s').rows = (pipelines s).rows.filter fun r => r.id ≠ id

/-
  However an update ends, the pipelines with another id than
  the one that it names are left as they are.
-/
def FlowEngine.UpdatesOne
    (engine : FlowEngine σ)
    (pipelines : σ → RunningPipelines) : Prop :=
  ∀ (token : BearerToken) (owner : String) (request : PipelineRequest)
    {id : Uuid} {s : σ} {r : PipelineRow},
    request.id = id.toText →
      r.id ≠ id →
        r ∈ (pipelines s).rows →
          r ∈ (pipelines (engine.update token owner request s).2).rows

/-
  However a creation or a removal ends, it has done what it
  has been asked for, or nothing at all.
-/
structure FlowEngine.AllOrNothing
    (engine : FlowEngine σ)
    (pipelines : σ → RunningPipelines) : Prop where
  create :
    ∀ (token : BearerToken) (owner : String)
      (request : PipelineRequest) (s : σ),
      (pipelines (engine.create token owner request s).2).rows =
        (pipelines s).rows ∨
        ∃ id : Uuid,
          (pipelines (engine.create token owner request s).2).rows =
            (pipelines s).rows ++ [{ id := id, owner, token, request }]
  remove :
    ∀ (owner : String) (id : Uuid) (s : σ),
      (pipelines (engine.remove owner id.toText s).2).rows =
        (pipelines s).rows ∨
        (pipelines (engine.remove owner id.toText s).2).rows =
          (pipelines s).rows.filter fun r => r.id ≠ id

/- Nothing that is asked of pipelines which are running fails. -/
structure FlowEngine.Ready
    (engine : FlowEngine σ)
    (pipelines : σ → RunningPipelines) : Prop where
  list : ∀ owner, Action.Succeeds (engine.list owner)
  update :
    ∀ (token : BearerToken) (owner : String) {request : PipelineRequest} {s : σ}
      {r : PipelineRow},
      r ∈ (pipelines s).rows →
        request.id = r.id.toText →
          ∃ p s', engine.update token owner request s = (.ok p, s')
  remove :
    ∀ (owner : String) {s : σ} {r : PipelineRow},
      r ∈ (pipelines s).rows →
        ∃ s', engine.remove owner r.id.toText s = (.ok (), s')

/-
  Nothing that a deployment asks for fails: a pipeline that
  is running can be removed, and one more can be created as
  long as there is an id left. No pipeline is listed twice.
-/
structure FlowEngine.Serves
    (engine : FlowEngine σ)
    (pipelines : σ → RunningPipelines) : Prop where
  list : ∀ owner, Action.Succeeds (engine.list owner)
  listed :
    ∀ {owner : String} {s s' : σ} {ps : List Pipeline},
      engine.list owner s = (.ok ps, s') → (ps.map (·.id)).Nodup
  create :
    ∀ (token : BearerToken) (owner : String)
      (request : PipelineRequest) {s : σ},
      (∃ id : Uuid, id ∉ (pipelines s).rows.map (·.id)) →
        ∃ p s', engine.create token owner request s = (.ok p, s')
  remove :
    ∀ (owner : String) {s : σ} {r : PipelineRow},
      r ∈ (pipelines s).rows →
        ∃ s', engine.remove owner r.id.toText s = (.ok (), s')

/- Of more ids than there are pipelines, one is left. -/
theorem RunningPipelines.exists_unused
    {p : RunningPipelines} {ids : List Uuid}
    (hIds : ids.Nodup)
    (hMore : p.rows.length < ids.length) :
    ∃ id ∈ ids, id ∉ p.rows.map (·.id) := by
  by_contra hNone
  have hUsed : ids ⊆ p.rows.map (·.id) := by
    intro id hMem
    by_contra hUnused
    exact hNone ⟨id, hMem, hUnused⟩
  have hLength := (hIds.subperm hUsed).length_le
  rw [List.length_map] at hLength
  omega

namespace FlowEngine.Lawful

variable {engine : FlowEngine σ} {pipelines : σ → RunningPipelines}

theorem eventPipelines
    (hEngine : engine.Lawful pipelines)
    (owner : String) :
    Action.Keeps pipelines (engine.eventPipelines owner) :=
  Action.Keeps.closed.map _ (hEngine.list owner)

/- The listed events are those of the owner's pipelines. -/
theorem mem_eventPipelines
    (hEngine : engine.Lawful pipelines)
    {owner : String} {s s' : σ} {ps : List EventPipeline}
    (hList : engine.eventPipelines owner s = (.ok ps, s'))
    (p : EventPipeline) :
    p ∈ ps ↔
      ∃ r ∈ (pipelines s).rows, r.owner = owner ∧ r.event? = some p := by
  unfold FlowEngine.eventPipelines at hList
  rcases Action.map_eq_ok_iff.mp hList with ⟨listed, hRun, rfl⟩
  rw [List.mem_filterMap]
  constructor
  · rintro ⟨q, hListed, hEvent⟩
    rcases (hEngine.list_ok hRun q).mp hListed with ⟨r, hRow, hOwner, rfl⟩
    exact ⟨r, hRow, hOwner, hEvent⟩
  · rintro ⟨r, hRow, hOwner, hEvent⟩
    exact ⟨r.listed,
      (hEngine.list_ok hRun _).mpr ⟨r, hRow, hOwner, rfl⟩, hEvent⟩

/-
  A pipeline is named among the listed events of some kind
  exactly if it is the owner's for an event of this kind.
-/
theorem mem_ids_filter
    (hEngine : engine.Lawful pipelines)
    {owner : String} {s s' : σ} {ps : List EventPipeline}
    (hList : engine.eventPipelines owner s = (.ok ps, s'))
    (kind : EventPipeline → Bool)
    {r : PipelineRow}
    (hRow : r ∈ (pipelines s).rows) :
    r.id.toText ∈ (ps.filter kind).map (·.id) ↔
      r.owner = owner ∧ ∃ p, r.event? = some p ∧ kind p = true := by
  have hMem := hEngine.mem_eventPipelines hList
  simp only [List.mem_map, List.mem_filter]
  constructor
  · rintro ⟨p, ⟨hListed, hKind⟩, hId⟩
    rcases (hMem p).mp hListed with ⟨r', hRow', hOwner, hEvent⟩
    have hId' := (PipelineRow.event?_eq_some_iff.mp hEvent).2.1
    -- the pipelines have the same text for an id, hence the same id
    have hSame : r = r' :=
      (pipelines s).eq_of_id_eq hRow hRow'
        (Uuid.toText_injective (hId.symm.trans hId'))
    subst hSame
    exact ⟨hOwner, p, hEvent, hKind⟩
  · rintro ⟨hOwner, p, hEvent, hKind⟩
    exact
      ⟨p, ⟨(hMem p).mpr ⟨r, hRow, hOwner, hEvent⟩, hKind⟩,
        (PipelineRow.event?_eq_some_iff.mp hEvent).2.1⟩

/- Those of a deployment are the owner's pipelines for this deployment. -/
theorem eventPipelines_filter
    (hEngine : engine.Lawful pipelines)
    {owner : String} {s s' : σ} {ps : List EventPipeline}
    (hList : engine.eventPipelines owner s = (.ok ps, s'))
    (deploymentId : String)
    {r : PipelineRow}
    (hRow : r ∈ (pipelines s).rows) :
    r.id.toText ∈
        (ps.filter
          fun p => p.description.deploymentId = deploymentId).map (·.id) ↔
      r.isOf owner deploymentId = true := by
  rw [hEngine.mem_ids_filter hList _ hRow, PipelineRow.isOf_iff]
  apply and_congr_right
  intro _
  simp only [decide_eq_true_eq]
  constructor
  · rintro ⟨p, hEvent, hDeployment⟩
    exact ⟨p.description, (PipelineRow.event?_eq_some_iff.mp hEvent).1,
      hDeployment⟩
  · rintro ⟨d, hParse, hDeployment⟩
    exact
      ⟨⟨r.id.toText, r.request.name, d⟩,
        PipelineRow.event?_eq_some_iff.mpr ⟨hParse, rfl, rfl⟩, hDeployment⟩

/- With other flows, an engine runs its pipelines as before. -/
theorem withFlows
    (hEngine : engine.Lawful pipelines)
    {flowInputs : String → String → Action σ RequestError (List FlowCell)}
    (hFlows : ∀ owner flowId,
      Action.Keeps pipelines (flowInputs owner flowId)) :
    { engine with flowInputs }.Lawful pipelines where
  flowInputs := hFlows
  list := hEngine.list
  list_ok hRun p := hEngine.list_ok hRun p
  create_ok hRun := hEngine.create_ok hRun
  update_ok hId hRun := hEngine.update_ok hId hRun
  remove_ok hRun := hEngine.remove_ok hRun

end FlowEngine.Lawful

/- What it does to pipelines does not depend on the flows either. -/
theorem FlowEngine.AllOrNothing.withFlows
    {engine : FlowEngine σ} {pipelines : σ → RunningPipelines}
    (hEngine : engine.AllOrNothing pipelines)
    {flowInputs : String → String → Action σ RequestError (List FlowCell)} :
    { engine with flowInputs }.AllOrNothing pipelines where
  create := hEngine.create
  remove := hEngine.remove

end ProcessEvents
