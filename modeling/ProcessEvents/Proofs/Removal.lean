import ProcessEvents.Proofs.Deployer

/-
  This file shows what a removal leaves: everything but what
  belongs to the deployment, so that its events are no longer
  found. A message that removes a deployment undoes the one
  that has changed it, if the latter has told of a deployment
  with the id that it has itself.

  Key definitions include:
    * `Holdings.Agree`
    * `Deployer.LooksUp`
    * `DeploymentCommand.IsUndoneBy`

  Key theorems include:
    * `Deployer.checkEvent_of_none`, `Deployer.eventStates_of_none`
    * `Deployer.remove_takes_deployment`
    * `Deployer.delete_undoes_put`
-/

namespace ProcessEvents

variable {σ : Type}

open ProcessEvents.Action (Delivers Keeps)

------------------------------------------------------------
-- Events that are not found
------------------------------------------------------------

namespace AnalyticsHandler

variable {h : AnalyticsHandler σ} {p : σ → Prop}
  {token eventId : String} {claims : Claims}

theorem checkEvent_notFound
    (hClaims : Claims.parse token = .ok claims)
    (hList :
      Delivers p (fun ps => ∀ q ∈ ps, q.description.eventId ≠ eventId)
        (h.engine.eventPipelines claims.subject)) :
    Delivers p (· = .notFound) (h.checkEvent token eventId) := by
  unfold checkEvent
  rw [hClaims]
  apply hList.attempt.bind
  rintro _ ⟨ps, rfl, hNone⟩
  have hAny : (ps.any fun q => q.description.eventId = eventId) = false := by
    rw [List.any_eq_false]
    intro q hMem
    rw [decide_eq_true_eq]
    exact hNone q hMem
  dsimp only
  rw [hAny]
  exact Delivers.pure rfl

theorem eventStates_false
    (hClaims : Claims.parse token = .ok claims)
    (hList :
      Delivers p (fun ps => ∀ q ∈ ps, q.description.eventId ≠ eventId)
        (h.engine.eventPipelines claims.subject))
    {eventIds : List String}
    (hMem : eventId ∈ eventIds) :
    Delivers p (fun states => states.get? eventId = some false)
      (h.eventStates token eventIds) := by
  have hNotEmpty : eventIds.isEmpty = false :=
    List.isEmpty_eq_false_iff.mpr (List.ne_nil_of_mem hMem)
  unfold eventStates
  rw [hClaims]
  dsimp only
  rw [hNotEmpty]
  apply (hList.mapError _).bind
  intro ps hNone
  apply Delivers.pure
  apply Dict.get?_ofList_eq_false
  · rw [List.map_map]
    exact List.mem_map.mpr ⟨eventId, hMem, rfl⟩
  · rw [List.mem_map]
    rintro ⟨id, -, hEntry⟩
    rw [Prod.mk.injEq, List.contains_iff_mem, List.mem_map] at hEntry
    rcases hEntry with ⟨rfl, q, hListed, hEvent⟩
    exact hNone q hListed hEvent

end AnalyticsHandler

namespace ConditionalHandler

variable {h : ConditionalHandler σ} {p : σ → Prop} {eventId : String}

theorem checkEvent_notFound
    (hNone : Delivers p (· = []) (h.events.byEvent eventId)) :
    Delivers p (· = .notFound) (h.checkEvent eventId) := by
  unfold checkEvent
  apply hNone.attempt.bind
  rintro _ ⟨_, rfl, rfl⟩
  exact Delivers.pure rfl

/- Each id has a state, which for the event is not that it is deployed. -/
theorem collect_eventState
    (hNone : Delivers p (· = []) (h.events.byEvent eventId))
    (hLookups : ∀ id, Delivers p (fun _ => True) (h.events.byEvent id))
    (eventIds : List String) :
    Delivers p
      (fun states => states.map (·.1) = eventIds ∧ (eventId, true) ∉ states)
      (Action.collect h.eventState eventIds) := by
  have hState :
      ∀ id, Delivers p (fun state => ∃ value,
        state = [(id, value)] ∧ (id = eventId → value = false))
        (h.eventState id) := by
    intro id
    unfold eventState
    by_cases hSame : id = eventId
    · subst hSame
      apply (hNone.mapError _).bind
      rintro _ rfl
      exact Delivers.pure ⟨false, rfl, fun _ => rfl⟩
    · apply ((hLookups id).mapError _).bind
      intro ds _
      exact Delivers.pure ⟨_, rfl, fun hHere => absurd hHere hSame⟩
  induction eventIds with
  | nil => exact Delivers.pure ⟨rfl, List.not_mem_nil⟩
  | cons id eventIds ih =>
      apply (hState id).bind
      rintro _ ⟨value, rfl, hValue⟩
      apply ih.bind
      rintro states ⟨hIds, hOthers⟩
      apply Delivers.pure
      refine ⟨congrArg (id :: ·) hIds, ?_⟩
      rw [List.singleton_append, List.mem_cons, not_or]
      refine ⟨fun hEntry => ?_, hOthers⟩
      cases hEntry
      cases hValue rfl

theorem eventStates_false
    (hNone : Delivers p (· = []) (h.events.byEvent eventId))
    (hLookups : ∀ id, Delivers p (fun _ => True) (h.events.byEvent id))
    {eventIds : List String}
    (hMem : eventId ∈ eventIds) :
    Delivers p (fun states => states.get? eventId = some false)
      (h.eventStates eventIds) := by
  unfold eventStates
  apply (collect_eventState hNone hLookups eventIds).bind
  rintro states ⟨hIds, hOthers⟩
  apply Delivers.pure
  apply Dict.get?_ofList_eq_false _ hOthers
  rw [hIds]
  exact hMem

end ConditionalHandler

/- The same pipelines are running, and the same is stored. -/
structure Holdings.Agree
    (held : Holdings σ)
    (s t : σ) : Prop where
  pipelines : held.pipelines s = held.pipelines t
  stored : held.stored s = held.stored t

namespace Deployer

variable {v : Deployer σ} {held : Holdings σ} {owner : String} {s : σ}

/-
  As long as what is held stays as it is, the owner's
  pipelines can be listed and descriptions be looked up.
-/
structure LooksUp
    (v : Deployer σ)
    (held : Holdings σ)
    (owner : String)
    (s : σ) : Prop where
  list :
    ∀ t, held.Agree t s →
      ∃ ps t', v.analytics.engine.list owner t = (.ok ps, t')
  byEvent :
    ∀ eventId t, held.Agree t s →
      ∃ ds t', v.conditional.events.byEvent eventId t = (.ok ds, t')

/- What is held does not change by a lookup. -/
theorem LooksUp.byEvent_keeps
    (hOrderly : v.Orderly held)
    (hByEvent :
      ∀ eventId, Keeps held.pipelines (v.conditional.events.byEvent eventId))
    (hLookups : v.LooksUp held owner s)
    (eventId : String) :
    Delivers (held.Agree · s) (fun _ => True)
      (v.conditional.events.byEvent eventId) := by
  intro t hSame
  rcases hLookups.byEvent eventId t hSame with ⟨ds, t', hRun⟩
  refine ⟨ds, t', hRun, trivial, ?_, ?_⟩
  · exact ((hByEvent eventId).of_eq hRun).trans hSame.pipelines
  · exact ((hOrderly.conditional.events.byEvent eventId).of_eq hRun).trans
      hSame.stored

theorem LooksUp.byEvent_none
    (hOrderly : v.Orderly held)
    (hByEvent :
      ∀ eventId, Keeps held.pipelines (v.conditional.events.byEvent eventId))
    (hLookups : v.LooksUp held owner s)
    {eventId : String}
    (hDescriptions : ∀ d ∈ (held.stored s).descriptions, d.eventId ≠ eventId) :
    Delivers (held.Agree · s) (· = [])
      (v.conditional.events.byEvent eventId) := by
  intro t hSame
  rcases hLookups.byEvent_keeps hOrderly hByEvent eventId t hSame with
    ⟨ds, t', hRun, -, hAfter⟩
  refine ⟨ds, t', hRun, ?_, hAfter⟩
  have hListed := hOrderly.conditional.events.byEvent_ok hRun
  rw [hSame.stored, Multiset.filter_eq_nil.mpr hDescriptions] at hListed
  exact Multiset.coe_eq_zero ds |>.mp hListed

theorem LooksUp.eventPipelines_none
    (hOrderly : v.Orderly held)
    (hLookups : v.LooksUp held owner s)
    {eventId : String}
    (hPipelines :
      ∀ r ∈ (held.pipelines s).rows, r.owner = owner →
        ∀ p, r.event? = some p → p.description.eventId ≠ eventId) :
    Delivers (held.Agree · s)
      (fun ps => ∀ p ∈ ps, p.description.eventId ≠ eventId)
      (v.analytics.engine.eventPipelines owner) := by
  intro t hSame
  rcases hLookups.list t hSame with ⟨listed, t', hList⟩
  have hRun :
      v.analytics.engine.eventPipelines owner t =
        (.ok (listed.filterMap EventPipeline.ofPipeline?), t') :=
    Action.map_eq_ok_iff.mpr ⟨listed, hList, rfl⟩
  refine ⟨_, t', hRun, fun p hMem => ?_, ?_, ?_⟩
  · rcases (hOrderly.analytics.engine.mem_eventPipelines hRun p).mp hMem with
      ⟨r, hRow, hOwner, hEvent⟩
    rw [hSame.pipelines] at hRow
    exact hPipelines r hRow hOwner p hEvent
  · exact ((hOrderly.analytics.engine.list owner).of_eq hList).trans
      hSame.pipelines
  · exact ((hOrderly.stored.list owner).of_eq hList).trans hSame.stored

/-
  An event that no pipeline of the owner and no description
  has is not found.
-/
theorem checkEvent_of_none
    (hOrderly : v.Orderly held)
    (hByEvent :
      ∀ eventId, Keeps held.pipelines (v.conditional.events.byEvent eventId))
    (hLookups : v.LooksUp held owner s)
    {token eventId : String} {claims : Claims}
    (hClaims : Claims.parse token = .ok claims)
    (hOwner : claims.subject = owner)
    (hPipelines :
      ∀ r ∈ (held.pipelines s).rows, r.owner = owner →
        ∀ p, r.event? = some p → p.description.eventId ≠ eventId)
    (hDescriptions : ∀ d ∈ (held.stored s).descriptions, d.eventId ≠ eventId) :
    Delivers (held.Agree · s) (· = .notFound)
      (v.dispatcher.checkEvent token eventId) := by
  subst hOwner
  apply Dispatcher.checkEvent_notFound
  apply forall_handlers
  · apply AnalyticsHandler.checkEvent_notFound hClaims
    exact hLookups.eventPipelines_none hOrderly hPipelines
  · apply ConditionalHandler.checkEvent_notFound
    exact hLookups.byEvent_none hOrderly hByEvent hDescriptions

/- Among all states that are asked for, the one of such an event is false. -/
theorem eventStates_of_none
    (hOrderly : v.Orderly held)
    (hByEvent :
      ∀ eventId, Keeps held.pipelines (v.conditional.events.byEvent eventId))
    (hLookups : v.LooksUp held owner s)
    {token eventId : String} {claims : Claims} {eventIds : List String}
    (hClaims : Claims.parse token = .ok claims)
    (hOwner : claims.subject = owner)
    (hMem : eventId ∈ eventIds)
    (hPipelines :
      ∀ r ∈ (held.pipelines s).rows, r.owner = owner →
        ∀ p, r.event? = some p → p.description.eventId ≠ eventId)
    (hDescriptions : ∀ d ∈ (held.stored s).descriptions, d.eventId ≠ eventId) :
    Delivers (held.Agree · s) (fun states => states.get? eventId = some false)
      (v.dispatcher.eventStates token eventIds) := by
  subst hOwner
  have hSome : v.dispatcher.handlers ≠ [] := by
    rcases v.handlers with hOrder | hOrder
    · rw [hOrder]
      exact List.cons_ne_nil _ _
    · rw [hOrder]
      exact List.cons_ne_nil _ _
  apply Dispatcher.eventStates_false hSome
  apply forall_handlers
  · apply AnalyticsHandler.eventStates_false hClaims _ hMem
    exact hLookups.eventPipelines_none hOrderly hPipelines
  · apply ConditionalHandler.eventStates_false _ _ hMem
    · exact hLookups.byEvent_none hOrderly hByEvent hDescriptions
    · exact hLookups.byEvent_keeps hOrderly hByEvent

------------------------------------------------------------
-- Removals
------------------------------------------------------------

/-
  A removal that succeeds leaves no pipeline of the owner for
  the deployment and nothing stored for it. All else is left
  as it is, and an event that has no other pipeline of the
  owner and no other description is no longer found.
-/
theorem remove_takes_deployment
    (hOrderly : v.Orderly held)
    (hByEvent :
      ∀ eventId, Keeps held.pipelines (v.conditional.events.byEvent eventId))
    {deploymentId : String} {s' : σ}
    (hRun : v.dispatcher.remove owner deploymentId s = (.ok (), s')) :
    ((held.pipelines s').rows =
        (held.pipelines s).rows.filter fun r => !r.isOf owner deploymentId) ∧
      (∀ other,
        (held.stored s').of other =
          if other = deploymentId then .empty else (held.stored s).of other) ∧
      ∀ {token eventId : String} {claims : Claims},
        Claims.parse token = .ok claims →
          claims.subject = owner →
            v.LooksUp held owner s' →
              (∀ r ∈ (held.pipelines s').rows, r.owner = owner →
                ∀ p, r.event? = some p → p.description.eventId ≠ eventId) →
                (∀ d ∈ (held.stored s').descriptions, d.eventId ≠ eventId) →
                  (v.dispatcher.checkEvent token eventId s').1 = .ok .notFound ∧
                    ∀ eventIds, eventId ∈ eventIds →
                      ∃ states t,
                        v.dispatcher.eventStates token eventIds s' =
                          (.ok states, t) ∧
                          states.get? eventId = some false := by
  rcases remove_parts hOrderly hRun with ⟨hRows, hStored⟩
  refine ⟨hRows, fun other => ?_, ?_⟩
  · rw [hStored, StoredEvents.of_without]
  intro token eventId claims hClaims hOwner hLookups hPipelines hDescriptions
  have hSame : held.Agree s' s' := ⟨rfl, rfl⟩
  constructor
  · rcases checkEvent_of_none hOrderly hByEvent
      hLookups hClaims hOwner hPipelines hDescriptions
        s' hSame with ⟨status, t, hCheck, rfl, -⟩
    rw [hCheck]
  · intro eventIds hMem
    rcases eventStates_of_none hOrderly hByEvent
      hLookups hClaims hOwner hMem hPipelines
        hDescriptions s' hSame with ⟨states, t, hStates, hFalse, -⟩
    exact ⟨states, t, hStates, hFalse⟩

/- A token of the user whose pipeline is running. -/
def ownerToken : String :=
  "Bearer e30.eyJzdWIiOiJ1MSJ9.e30"

theorem remove_takes_deployment_occupied :
    ∃ s',
      (Backend.deployer (.ok ⟨"Bearer"⟩) none).dispatcher.remove
        "u1" "d1" occupied =
          (.ok (), s') ∧
        s'.running.rows = [] ∧
        s'.tables.stored.of "d1" = .empty ∧
        s'.tables.stored.of "d2" = occupied.tables.stored.of "d2" ∧
        ((Backend.deployer (.ok ⟨"Bearer"⟩) none).dispatcher.checkEvent
          ownerToken "e0" s').1 =
          .ok .notFound := by
  have hOk :
      ((Backend.deployer (.ok ⟨"Bearer"⟩) none).dispatcher.remove "u1" "d1"
        occupied).1.isOk = true := by
    decide +kernel
  have hEvents :
      ∀ d ∈
        ((Backend.deployer (.ok ⟨"Bearer"⟩) none).dispatcher.remove "u1" "d1"
          occupied).2.tables.descriptions.rows,
        d.eventId ≠ "e0" := by
    decide +kernel
  have hClaims : Claims.parse ownerToken = .ok { subject := "u1" } := by
    decide +kernel
  have hRun := Action.eq_ok_of_isOk hOk
  generalize
    ((Backend.deployer (.ok ⟨"Bearer"⟩) none).dispatcher.remove
      "u1" "d1" occupied).2 = s'
    at hRun hEvents
  rcases remove_takes_deployment (Backend.deployer_orderly _)
    (fun _ _ => rfl) hRun with
    ⟨hRows, hStored, hGone⟩
  have hNone : s'.running.rows = [] := by
    rw [show s'.running.rows = _ from hRows]
    decide +kernel
  have hLookups :
      (Backend.deployer (.ok ⟨"Bearer"⟩) none).LooksUp
        Backend.holdings "u1" s' :=
    { list := fun t _ => ⟨_, t, rfl⟩
      byEvent := fun _ t _ => ⟨_, t, rfl⟩ }
  have hNoPipeline :
      ∀ r ∈ s'.running.rows, r.owner = "u1" →
        ∀ p, r.event? = some p → p.description.eventId ≠ "e0" := by
    rw [hNone]
    nofun
  exact
    ⟨s', hRun, hNone, hStored "d1", hStored "d2",
      (hGone hClaims rfl hLookups hNoPipeline hEvents).1⟩

end Deployer

------------------------------------------------------------
-- Messages
------------------------------------------------------------

/-
  The command of a message changes a deployment of somebody,
  and that of another one removes it by the same id.
-/
structure DeploymentCommand.IsUndoneBy
    (c c' : DeploymentCommand)
    (message message' : Json) : Prop where
  current : c.IsCurrent message
  verb : c.command = Verb.put
  named : c.owner ≠ ""
  undoing : c'.IsCurrent message'
  undoingVerb : c'.command = Verb.delete
  id : c'.id = c.id
  owner : c'.owner = c.owner

/- A pipeline is for one deployment only. -/
theorem PipelineRow.isOf_unique
    {owner deploymentId deploymentId' : String} {r : PipelineRow}
    (hIsOf : r.isOf owner deploymentId = true)
    (hIsOf' : r.isOf owner deploymentId' = true) :
    deploymentId = deploymentId' := by
  rcases (PipelineRow.isOf_iff.mp hIsOf).2 with ⟨d, hParse, hDeployment⟩
  rcases (PipelineRow.isOf_iff.mp hIsOf').2 with ⟨d', hParse', hDeployment'⟩
  rw [hParse] at hParse'
  cases hParse'
  exact hDeployment.symm.trans hDeployment'

/-
  Where all pipelines are the owner's for one deployment,
  there are no others.
-/
theorem RunningPipelines.besides_eq_nil
    {p : RunningPipelines} {owner deploymentId : String}
    (hAll : ∀ r ∈ p.rows, r.isOf owner deploymentId = true) :
    p.besides owner deploymentId = [] := by
  apply List.filter_eq_nil_iff.mpr
  intro r hRow
  rw [hAll r hRow]
  exact Bool.false_ne_true

/- None of them is for any other deployment. -/
theorem RunningPipelines.besides_eq_self
    {p : RunningPipelines} {owner deploymentId other : String}
    (hAll : ∀ r ∈ p.rows, r.isOf owner deploymentId = true)
    (hOther : deploymentId ≠ other) :
    p.besides owner other = p.rows := by
  apply List.filter_eq_self.mpr
  intro r hRow
  rw [Bool.not_eq_true', Bool.eq_false_iff]
  intro hNamedToo
  exact hOther (PipelineRow.isOf_unique (hAll r hRow) hNamedToo)

namespace Deployer

variable {v : Deployer σ} {held : Holdings σ}
  {c c' : DeploymentCommand} {message : Json}

/- A removal does not miss a user: it needs no token. -/
theorem remove_of_handled
    {owner deploymentId : String} {s s' : σ}
    (hRun :
      Dispatcher.ignoringMissingUser
        (v.dispatcher.remove owner deploymentId) s = (.ok (), s')) :
    v.dispatcher.remove owner deploymentId s = (.ok (), s') := by
  have hConditional :
      AnalyticsHandler.SparesUser
        (v.conditional.handler.remove owner deploymentId) := by
    intro t e t' hFail
    rcases ConditionalHandler.removeEvents_raisesStore
      deploymentId t e t' hFail with
      ⟨reason, rfl⟩
    rfl
  have hEach :
      AnalyticsHandler.SparesUser
        (Action.forEach
          (fun k => k.remove owner deploymentId) v.dispatcher.handlers) :=
    Action.Raises.forEach _
      (forall_handlers (p := fun k =>
        AnalyticsHandler.SparesUser (k.remove owner deploymentId))
        (AnalyticsHandler.remove_sparesUser owner deploymentId) hConditional)
  have hSpares :
      AnalyticsHandler.SparesUser (v.dispatcher.remove owner deploymentId) :=
    hEach.bind fun _ => .count _ _ _
  rcases Dispatcher.ignoringMissingUser_eq_ok_iff.mp hRun with
    ⟨result, hRemove, hDone⟩
  cases hDone with
  | ok => exact hRemove
  | userMissing hMissing =>
      rw [hSpares s _ s' hRemove] at hMissing
      cases hMissing

/-
  What a change that is acknowledged adds, if it tells of a
  deployment at all, belongs to this deployment.
-/
theorem put_adds
    (hOrderly : v.Orderly held)
    (hMessage : c.IsCurrent message)
    (hVerb : c.command = Verb.put)
    (hNamed : c.owner ≠ "")
    {s s' : σ}
    (hRun : v.dispatcher.handleDeploymentCommand message s = (.ok (), s')) :
    (c.deployment = none ∧ s' = s) ∨
      ∃ deployment,
        c.deployment = some deployment ∧
          (∀ r ∈ (held.pipelines s').rows,
            r ∈ (held.pipelines s).rows ∨ r.isOf c.owner deployment.id = true) ∧
          ∀ other, other ≠ deployment.id →
            (held.stored s').of other = (held.stored s).of other := by
  rw [v.dispatcher.handleDeploymentCommand_of_isCurrent hMessage] at hRun
  cases hDeployment : c.deployment with
  | none =>
      rw [v.dispatcher.runCommand_of_put_none hVerb hDeployment] at hRun
      cases hRun
      exact Or.inl ⟨rfl, rfl⟩
  | some deployment =>
      rw [v.dispatcher.runCommand_of_put hVerb hNamed hDeployment] at hRun
      rcases Dispatcher.ignoringMissingUser_eq_ok_iff.mp hRun with
        ⟨result, hDeploy, hDone⟩
      exact Or.inr ⟨deployment, rfl, deploy_of_isDone hOrderly hDeploy hDone⟩

/- A removal that is acknowledged takes what its own id names. -/
theorem delete_takes
    (hOrderly : v.Orderly held)
    (hMessage : c.IsCurrent message)
    (hVerb : c.command = Verb.delete)
    (hNamed : c.owner ≠ "")
    {s s' : σ}
    (hRun : v.dispatcher.handleDeploymentCommand message s = (.ok (), s')) :
    (held.pipelines s').rows = (held.pipelines s).besides c.owner c.id ∧
      held.stored s' = (held.stored s).without c.id := by
  rw [v.dispatcher.handleDeploymentCommand_of_isCurrent hMessage,
    v.dispatcher.runCommand_of_delete hVerb hNamed] at hRun
  exact remove_parts hOrderly (remove_of_handled hRun)

/-
  A deployment is changed and then removed, where nothing has
  been before. If the change tells of no other deployment than
  its own id names, nothing is left. If it does, then the
  removal, which goes by the id of its message, leaves all
  that the change has made.
-/
theorem delete_undoes_put
    (hOrderly : v.Orderly held)
    {put delete : Json}
    (hUndone : c.IsUndoneBy c' put delete)
    {s s₁ s₂ : σ}
    (hNone : (held.pipelines s).rows = [])
    (hEmpty : held.stored s = .empty)
    (hFirst : v.dispatcher.handleDeploymentCommand put s = (.ok (), s₁))
    (hSecond : v.dispatcher.handleDeploymentCommand delete s₁ = (.ok (), s₂)) :
    ((∀ deployment, c.deployment = some deployment → deployment.id = c.id) →
        (held.pipelines s₂).rows = [] ∧ held.stored s₂ = .empty) ∧
      ∀ deployment, c.deployment = some deployment → deployment.id ≠ c.id →
        (held.pipelines s₂).rows = (held.pipelines s₁).rows ∧
          held.stored s₂ = held.stored s₁ := by
  rcases delete_takes hOrderly hUndone.undoing hUndone.undoingVerb
    (hUndone.owner ▸ hUndone.named) hSecond with ⟨hRows, hStored⟩
  rw [hUndone.id, hUndone.owner] at hRows
  rw [hUndone.id] at hStored
  rw [hRows, hStored]
  rcases put_adds hOrderly hUndone.current hUndone.verb
    hUndone.named hFirst with
    ⟨hNoDeployment, rfl⟩ | ⟨deployment, hDeployment, hAdded, hOthers⟩
  · refine ⟨fun _ => ?_, fun deployment hDeployment => ?_⟩
    · rw [RunningPipelines.besides, hNone, hEmpty, StoredEvents.without_empty]
      exact ⟨rfl, rfl⟩
    · rw [hNoDeployment] at hDeployment
      cases hDeployment
  · rw [hNone] at hAdded
    have hIsOf :
        ∀ r ∈ (held.pipelines s₁).rows, r.isOf c.owner deployment.id = true :=
      fun r hRow => (hAdded r hRow).resolve_left List.not_mem_nil
    have hElsewhere : ∀ other, other ≠ deployment.id →
        (held.stored s₁).of other = .empty := by
      intro other hOther
      rw [hOthers other hOther, hEmpty, StoredEvents.of_empty]
    constructor
    · intro hSame
      rw [← hSame deployment hDeployment]
      exact
        ⟨RunningPipelines.besides_eq_nil hIsOf,
          StoredEvents.without_eq_empty _ hElsewhere⟩
    · intro _ hOther hDiffers
      rw [hDeployment] at hOther
      cases hOther
      exact
        ⟨RunningPipelines.besides_eq_self hIsOf hDiffers,
          StoredEvents.without_eq_self _ (hElsewhere c.id (Ne.symm hDiffers))⟩

/- A message that removes what an id names. -/
def removalOf
    (id : String) : Json :=
  DeploymentCommand.codec.encode
    { command := Verb.delete
      id
      version := Deployment.currentVersion
      owner := "u1" }

/- What a message comes to. -/
def afterMessage
    (message : Json)
    (s : Backend) : Except DeployError Unit × Backend :=
  (Backend.deployer (.ok ⟨"Bearer"⟩) none).dispatcher.handleDeploymentCommand
    message s

/- What the messages under two ids tell. -/
theorem isUndoneBy_under
    {id : String}
    (hId : id = "d1" ∨ id = "d2") :
    ∃ c c',
      DeploymentCommand.IsUndoneBy c c' (changeUnder id) (removalOf id) ∧
        c.id = id ∧
        ∃ deployment, c.deployment = some deployment ∧
          deployment.id = "d1" := by
  have hVersion :
      (CommandHeader.codec.decode (removalOf id)).map (·.version) =
        some Deployment.currentVersion := by
    rcases hId with rfl | rfl
    · decide +kernel
    · decide +kernel
  have hTells :
      (DeploymentCommand.codec.decode (removalOf id)).map outline =
        some (Verb.delete, id, "u1", none) := by
    rcases hId with rfl | rfl
    · decide +kernel
    · decide +kernel
  rcases changeUnder_isCurrent hId with
    ⟨c, deployment, hPut, hVerb, hPutId, hOwner, hBody, hBodyId⟩
  rcases exists_isCurrent (removalOf id) hVersion hTells with
    ⟨c', hDelete, hOutline⟩
  simp only [outline, Prod.mk.injEq] at hOutline
  rcases hOutline with ⟨hVerb', hDeleteId, hOwner', -⟩
  refine
    ⟨c, c', ⟨hPut, hVerb, ?_, hDelete, hVerb', hDeleteId.trans hPutId.symm,
      hOwner'.trans hOwner.symm⟩, hPutId, deployment, hBody, hBodyId⟩
  rw [hOwner]
  decide

theorem delete_undoes_put_same :
    ∃ s₁ s₂,
      afterMessage (changeUnder "d1") vacant = (.ok (), s₁) ∧
        s₁.tables.descriptions.rows.length = 1 ∧
        afterMessage (removalOf "d1") s₁ = (.ok (), s₂) ∧
        s₂.running.rows = [] ∧
        s₂.tables.stored = .empty := by
  have hFirst : (afterMessage (changeUnder "d1") vacant).1.isOk = true := by
    decide +kernel
  have hSecond :
      (afterMessage (removalOf "d1")
        (afterMessage (changeUnder "d1") vacant).2).1.isOk =
        true := by
    decide +kernel
  have hStored :
      (afterMessage
        (changeUnder "d1") vacant).2.tables.descriptions.rows.length = 1 := by
    decide +kernel
  have hPutRun := Action.eq_ok_of_isOk hFirst
  generalize
    (afterMessage (changeUnder "d1") vacant).2 = s₁ at hPutRun hSecond hStored
  have hDeleteRun := Action.eq_ok_of_isOk hSecond
  generalize (afterMessage (removalOf "d1") s₁).2 = s₂ at hDeleteRun
  rcases isUndoneBy_under (Or.inl rfl) with
    ⟨c, c', hUndone, hId, deployment, hBody, hBodyId⟩
  have hNothing :=
    (delete_undoes_put
      (Backend.deployer_orderly (.ok ⟨"Bearer"⟩)) hUndone rfl rfl hPutRun
      hDeleteRun).1
  refine ⟨s₁, s₂, hPutRun, hStored, hDeleteRun, hNothing ?_⟩
  intro other hOther
  rw [hBody] at hOther
  cases hOther
  rw [hBodyId, hId]

/-
  The change tells of a deployment with another id than its
  own. The removal of the latter leaves what has been stored
  under the former.
-/
theorem delete_misses_put :
    ∃ c c' s₁ s₂,
      DeploymentCommand.IsUndoneBy c c' (changeUnder "d2") (removalOf "d2") ∧
        vacant.running.rows = [] ∧
        vacant.tables.stored = .empty ∧
        afterMessage (changeUnder "d2") vacant = (.ok (), s₁) ∧
        afterMessage (removalOf "d2") s₁ = (.ok (), s₂) ∧
        s₂.tables.stored ≠ .empty := by
  have hFirst : (afterMessage (changeUnder "d2") vacant).1.isOk = true := by
    decide +kernel
  have hSecond :
      (afterMessage (removalOf "d2")
        (afterMessage (changeUnder "d2") vacant).2).1.isOk =
        true := by
    decide +kernel
  have hLeft :
      (afterMessage (removalOf "d2")
        (afterMessage (changeUnder "d2")
          vacant).2).2.tables.descriptions.rows.length = 1 := by
    decide +kernel
  rcases isUndoneBy_under (Or.inr rfl) with ⟨c, c', hUndone, -⟩
  refine
    ⟨c, c', _, _, hUndone, rfl, rfl, Action.eq_ok_of_isOk hFirst,
      Action.eq_ok_of_isOk hSecond, ?_⟩
  intro hEmpty
  have hCard := congrArg (fun t => t.descriptions.card) hEmpty
  exact absurd (hLeft.symm.trans hCard) (by decide)

end Deployer

end ProcessEvents
