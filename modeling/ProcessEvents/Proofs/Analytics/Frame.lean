import ProcessEvents.Proofs.Analytics.Deployment

/-
  This file tells what a deployment or a removal of message
  events leaves alone, however it ends: all pipelines but the
  owner's for the deployment that it is about.

  Key theorems include:
    * `AnalyticsHandler.remove_besides`
    * `AnalyticsHandler.deployElement_besides`
    * `AnalyticsHandler.deploy_besides`
    * `AnalyticsHandler.checkEvent_closed`
    * `AnalyticsHandler.eventStates_closed`
-/

namespace ProcessEvents

variable {σ : Type}

open ProcessEvents.Action (Keeps Preserves)

/- A pipeline that is not the owner's for the deployment is among the others. -/
theorem RunningPipelines.mem_besides_iff
    {p : RunningPipelines} {owner deploymentId : String} {r : PipelineRow} :
    r ∈ p.besides owner deploymentId ↔
      r ∈ p.rows ∧ r.isOf owner deploymentId = false := by
  rw [besides, List.mem_filter, Bool.not_eq_true']

namespace AnalyticsHandler

variable {h : AnalyticsHandler σ} {pipelines : σ → RunningPipelines}
variable {owner deploymentId : String}

------------------------------------------------------------
-- Removal
------------------------------------------------------------

/- A pipeline whose id none of the others has is removed from among them. -/
theorem removePipeline_besides
    (hLawful : h.Lawful pipelines)
    (hCalls : h.engine.AllOrNothing pipelines)
    {others : List PipelineRow} {p : EventPipeline} {id : Uuid}
    (hId : p.id = id.toText)
    (hNone : ∀ r ∈ others, r.id ≠ id) :
    Preserves (fun s => (pipelines s).besides owner deploymentId = others)
      (h.removePipeline owner p) := by
  have hP :
      Action.Closed (Preserves fun s =>
        (pipelines s).besides owner deploymentId = others) :=
    Preserves.closed
  unfold removePipeline
  apply hP.bind
  · apply hP.mapError
    intro s hBefore
    rw [hId]
    rcases hCalls.remove owner id s with hSame | hGone
    · rw [RunningPipelines.besides, hSame]
      exact hBefore
    · have hOthers :
          ((pipelines s).besides owner deploymentId).filter
            (fun r => r.id ≠ id) = others := by
        rw [hBefore]
        exact List.filter_eq_self.mpr fun r hRow =>
          decide_eq_true (hNone r hRow)
      rw [RunningPipelines.besides, hGone, List.filter_filter, ← hOthers,
        RunningPipelines.besides, List.filter_filter]
      exact List.filter_congr fun r _ => Bool.and_comm _ _
  · intro _
    exact (Counters.keeps_count hLawful.count _ _).preserves
      (·.besides owner deploymentId = others)

/- Whether or not a removal succeeds, the others are as before. -/
theorem remove_besides
    (hLawful : h.Lawful pipelines)
    (hCalls : h.engine.AllOrNothing pipelines)
    (owner deploymentId : String) :
    Keeps (fun s => (pipelines s).besides owner deploymentId)
      (h.remove owner deploymentId) := by
  intro s
  have hListKeeps := hLawful.engine.eventPipelines owner
  unfold remove
  rcases hList : h.engine.eventPipelines owner s with ⟨e | ps, s₁⟩
  · rw [Action.bind_of_error (Action.mapError_eq_error_iff.mpr ⟨e, hList, rfl⟩)]
    exact congrArg (·.besides owner deploymentId) (hListKeeps.of_eq hList)
  · rw [Action.bind_of_ok (Action.mapError_eq_ok_iff.mpr hList)]
    have hEach :
        ∀ p ∈ ps.filter (fun p => p.description.deploymentId = deploymentId),
          Preserves
            (fun t =>
              (pipelines t).besides owner deploymentId =
                (pipelines s).besides owner deploymentId)
            (h.removePipeline owner p) := by
      intro p hListed
      rcases List.mem_filter.mp hListed with ⟨hIn, hDeployment⟩
      rcases (hLawful.engine.mem_eventPipelines hList p).mp hIn with
        ⟨r, hRow, hOwner, hEvent⟩
      rcases PipelineRow.event?_eq_some_iff.mp hEvent with ⟨hParse, hId, -⟩
      have hIsOf : r.isOf owner deploymentId = true :=
        PipelineRow.isOf_iff.mpr
          ⟨hOwner, p.description, hParse, of_decide_eq_true hDeployment⟩
      apply removePipeline_besides hLawful hCalls hId
      -- a pipeline with this id would be the removed one
      intro r' hOther hSame
      rcases RunningPipelines.mem_besides_iff.mp hOther with ⟨hRow', hNotOf⟩
      rw [(pipelines s).eq_of_id_eq hRow' hRow hSame, hIsOf] at hNotOf
      cases hNotOf
    apply Preserves.closed.forEach _ hEach
    exact congrArg (·.besides owner deploymentId) (hListKeeps.of_eq hList)

------------------------------------------------------------
-- Creation
------------------------------------------------------------

theorem create_besides
    (hLawful : h.Lawful pipelines)
    (hCalls : h.engine.AllOrNothing pipelines)
    (token : BearerToken)
    {request : PipelineRequest}
    (hFor : request.IsFor deploymentId) :
    Keeps (fun s => (pipelines s).besides owner deploymentId)
      (h.create token owner request) := by
  have hP :
      Action.Closed (Keeps fun s => (pipelines s).besides owner deploymentId) :=
    Keeps.closed
  unfold create
  apply hP.bind
  · apply hP.mapError
    intro s
    unfold RunningPipelines.besides
    rcases hCalls.create token owner request s with hSame | ⟨id, hRows⟩
    · exact congrArg (List.filter _) hSame
    · have hIsOf : PipelineRow.isOf owner deploymentId
          { id, owner, token, request } = true :=
        PipelineRow.isOf_iff.mpr ⟨rfl, hFor⟩
      have hNone :
          [{ id := id, owner, token, request : PipelineRow }].filter
            (fun r => !r.isOf owner deploymentId) = [] := by
        rw [List.filter_singleton, hIsOf]
        rfl
      dsimp only
      rw [hRows, List.filter_append, hNone, List.append_nil]
  · intro _
    exact (Counters.keeps_count hLawful.count _ _).comp
      (·.besides owner deploymentId)

/- What is created for an element is for its deployment. -/
theorem deployElement_besides
    (hLawful : h.Lawful pipelines)
    (hCalls : h.engine.AllOrNothing pipelines)
    (token : BearerToken)
    (element : Element) :
    Keeps (fun s => (pipelines s).besides owner deploymentId)
      (h.deployElement token owner deploymentId element) := by
  have hP :
      Action.Closed (Keeps fun s => (pipelines s).besides owner deploymentId) :=
    Keeps.closed
  have hAsks :=
    hLawful.asks.elementRequest Keeps.closed token owner deploymentId element
  unfold deployElement
  apply Keeps.bind_of_yields
  · exact hAsks.comp (·.besides owner deploymentId)
  · exact h.elementRequest_isFor token owner deploymentId element
  · intro request? hFor
    cases request? with
    | none => exact hP.pure ()
    | some request =>
        exact create_besides hLawful hCalls token (hFor request rfl)

/- Whether or not a deployment succeeds, the others are as before. -/
theorem deploy_besides
    (hLawful : h.Lawful pipelines)
    (hCalls : h.engine.AllOrNothing pipelines)
    (owner : String)
    (deployment : Deployment) :
    Keeps (fun s => (pipelines s).besides owner deployment.id)
      (h.deploy owner deployment) := by
  have hP : Action.Closed
      (Keeps fun s => (pipelines s).besides owner deployment.id) :=
    Keeps.closed
  have hToken := hLawful.asks.userToken owner
  unfold deploy
  apply hP.bind (remove_besides hLawful hCalls owner deployment.id)
  intro _
  apply hP.bind (hP.mapError _ (hToken.comp (·.besides owner deployment.id)))
  intro token
  exact hP.forEach _ fun element _ =>
    deployElement_besides hLawful hCalls token element

------------------------------------------------------------
-- Queries
------------------------------------------------------------

/- A query does nothing but list pipelines. -/
theorem checkEvent_closed
    {P : Action.Property σ}
    (hP : Action.Closed P)
    (hPipelines : ∀ owner, P (h.engine.eventPipelines owner))
    (token eventId : String) :
    P (h.checkEvent token eventId) := by
  unfold AnalyticsHandler.checkEvent
  split
  · exact hP.pure _
  · apply hP.bind (hP.attempt (hPipelines _))
    intro result
    cases result with
    | error e => exact hP.pure _
    | ok ps =>
        dsimp only
        split
        · exact hP.pure _
        · exact hP.pure _

theorem eventStates_closed
    {P : Action.Property σ}
    (hP : Action.Closed P)
    (hPipelines : ∀ owner, P (h.engine.eventPipelines owner))
    (token : String)
    (eventIds : List String) :
    P (h.eventStates token eventIds) := by
  unfold AnalyticsHandler.eventStates
  split
  · exact hP.fail _
  · split
    · exact hP.pure _
    · apply hP.bind (hP.mapError _ (hPipelines _))
      intro ps
      exact hP.pure _

theorem checkEvent_keeps
    (hLawful : h.Lawful pipelines)
    (token eventId : String) :
    Keeps pipelines (h.checkEvent token eventId) :=
  checkEvent_closed Keeps.closed hLawful.engine.eventPipelines token eventId

theorem eventStates_keeps
    (hLawful : h.Lawful pipelines)
    (token : String)
    (eventIds : List String) :
    Keeps pipelines (h.eventStates token eventIds) :=
  eventStates_closed Keeps.closed hLawful.engine.eventPipelines token eventIds

end AnalyticsHandler

end ProcessEvents
