import ProcessEvents.Proofs.Analytics.Completion
import ProcessEvents.Proofs.Backend
import ProcessEvents.Proofs.Conditional.Completion
import ProcessEvents.Proofs.Dispatcher

/-
  This file is about a dispatcher with a handler for each
  kind of event. A task that has succeeded has been performed
  by both of them, each on what it keeps, whichever of them
  has been the first. A deployment also counts as done if the
  owner does not exist; then nothing new has been made.

  Key definitions include:
    * `Holdings`
    * `Deployer`
    * `Deployer.Orderly`
    * `Deployer.onStores`
    * `Backend.deployer`

  Key theorems include:
    * `AnalyticsHandler.deploy_of_isDone`, `ConditionalHandler.deploy_of_isDone`
    * `Deployer.perform_parts`
    * `Deployer.deploy_parts`
    * `Deployer.remove_parts`
    * `Deployer.deploy_of_isDone`
-/

namespace ProcessEvents

variable {σ : Type}

open ProcessEvents.Action (Keeps)

------------------------------------------------------------
-- What deployments are about
------------------------------------------------------------

/- What is running, what is stored, and what has been announced. -/
structure Holdings (σ : Type) where
  pipelines : σ → RunningPipelines
  stored : σ → StoredEvents
  announced : σ → List (String × DoneNotification)

/- A dispatcher that has a handler for each kind of event. -/
structure Deployer (σ : Type) where
  analytics : AnalyticsHandler σ
  conditional : ConditionalHandler σ
  dispatcher : Dispatcher σ
  handlers :
    dispatcher.handlers = [analytics.handler, conditional.handler] ∨
      dispatcher.handlers = [conditional.handler, analytics.handler]

------------------------------------------------------------
-- Tasks of handlers
------------------------------------------------------------

theorem AnalyticsHandler.Acts.perform
    {h : AnalyticsHandler σ} {P : Action.Property σ}
    (hActs : h.Acts P)
    (hP : Action.Closed P)
    (task : DeploymentTask) :
    P (h.handler.perform task) := by
  cases task with
  | deploy owner deployment => exact hActs.deploy hP owner deployment
  | remove owner deploymentId =>
      exact remove_closed hP hActs.list hActs.remove
        hActs.count owner deploymentId

theorem ConditionalHandler.Acts.perform
    {h : ConditionalHandler σ} {P : Action.Property σ}
    (hActs : h.Acts P)
    (hP : Action.Closed P)
    (task : DeploymentTask) :
    P (h.handler.perform task) := by
  cases task with
  | deploy owner deployment => exact hActs.deploy hP owner deployment
  | remove owner deploymentId => exact hActs.removeEvents hP deploymentId

/- Unless it has failed for another reason, a deployment has removed first. -/
theorem AnalyticsHandler.remove_of_isDone
    {h : AnalyticsHandler σ} {owner : String} {deployment : Deployment}
    {s s' : σ}
    {result : Except DeployError Unit}
    (hRun : h.deploy owner deployment s = (result, s'))
    (hDone : Dispatcher.IsDone result) :
    ∃ s₁,
      h.remove owner deployment.id s = (.ok (), s₁) ∧
        h.deployEvents owner deployment s₁ = (result, s') := by
  rw [deploy_eq] at hRun
  rcases hRemove : h.remove owner deployment.id s with ⟨e | _, s₁⟩
  · rw [Action.bind_of_error hRemove] at hRun
    cases hRun
    cases hDone with
    | userMissing hMissing =>
        rw [remove_sparesUser owner deployment.id s e _ hRemove] at hMissing
        cases hMissing
  · rw [Action.bind_of_ok hRemove] at hRun
    exact ⟨s₁, rfl, hRun⟩

theorem ConditionalHandler.remove_of_isDone
    {h : ConditionalHandler σ} {owner : String} {deployment : Deployment}
    {s s' : σ}
    {result : Except DeployError Unit}
    (hRun : h.deploy owner deployment s = (result, s'))
    (hDone : Dispatcher.IsDone result) :
    ∃ s₁,
      h.removeEvents deployment.id s = (.ok (), s₁) ∧
        h.deployEvents owner deployment s₁ = (result, s') := by
  unfold deploy at hRun
  rcases hRemove : h.removeEvents deployment.id s with ⟨e | _, s₁⟩
  · rw [Action.bind_of_error hRemove] at hRun
    cases hRun
    rcases removeEvents_raisesStore deployment.id s e _ hRemove with
      ⟨reason, rfl⟩
    cases hDone with
    | userMissing hMissing => cases hMissing
  · rw [Action.bind_of_ok hRemove] at hRun
    exact ⟨s₁, rfl, hRun⟩

/-
  A deployment that counts as done has replaced the owner's
  pipelines for it, by none if it has missed the owner.
-/
theorem AnalyticsHandler.deploy_of_isDone
    {h : AnalyticsHandler σ} {pipelines : σ → RunningPipelines}
    (hLawful : h.Lawful pipelines)
    {owner : String} {deployment : Deployment} {s s' : σ}
    {result : Except DeployError Unit}
    (hRun : h.deploy owner deployment s = (result, s'))
    (hDone : Dispatcher.IsDone result) :
    ∃ created,
      (pipelines s').rows =
        (pipelines s).besides owner deployment.id ++ created ∧
        (∀ r ∈ created, r.isOf owner deployment.id = true) ∧
        (result ≠ .ok () → created = []) := by
  rcases remove_of_isDone hRun hDone with ⟨s₁, hRemove, hEvents⟩
  have hBesides :
      (pipelines s₁).rows = (pipelines s).besides owner deployment.id :=
    remove_rows hLawful hRemove
  cases hDone with
  | ok =>
      rcases Action.bind_eq_ok_iff.mp hEvents with ⟨token, s₂, hToken, hEach⟩
      rcases deployElements_creation hLawful hEach with ⟨created, hCreation⟩
      rw [Action.mapError_eq_ok_iff] at hToken
      refine ⟨created, ?_, hCreation.isOf, fun hFail => absurd rfl hFail⟩
      rw [hCreation.rows, (hLawful.asks.userToken owner).of_eq hToken, hBesides]
  | userMissing hMissing =>
      have hToken := deployEvents_of_userMissing hEvents hMissing
      rcases Action.mapError_eq_error_iff.mp hToken with ⟨_, hFail, -⟩
      refine ⟨[], ?_, nofun, fun _ => rfl⟩
      rw [(hLawful.asks.userToken owner).of_eq hFail, hBesides, List.append_nil]

/- The same holds of what is stored. -/
theorem ConditionalHandler.deploy_of_isDone
    {h : ConditionalHandler σ} {stored : σ → StoredEvents}
    (hLawful : h.Lawful stored)
    {owner : String} {deployment : Deployment} {s s' : σ}
    {result : Except DeployError Unit}
    (hRun : h.deploy owner deployment s = (result, s'))
    (hDone : Dispatcher.IsDone result) :
    ∃ left,
      (∀ other,
        (stored s').of other =
          if other = deployment.id then left else (stored s).of other) ∧
        (result ≠ .ok () → left = .empty) := by
  cases hDone with
  | ok =>
      rcases deploy_described hLawful hRun with ⟨_, ds, _, -, hEnd⟩
      exact ⟨deployed owner deployment ds, hEnd, fun hFail => absurd rfl hFail⟩
  | @userMissing e hMissing =>
      refine ⟨.empty, fun other => ?_, fun _ => rfl⟩
      have hOther : ∀ reason, e ≠ .store reason := by
        rintro reason rfl
        cases hMissing
      rw [deploy_stored_of_error hLawful hRun hOther, StoredEvents.of_without]

namespace Deployer

/-
  A call that succeeds does what it is asked for, and neither
  handler touches what the other one keeps. Of a call that
  fails nothing is expected.
-/
structure Orderly
    (v : Deployer σ)
    (held : Holdings σ) : Prop where
  analytics : v.analytics.Lawful held.pipelines
  conditional : v.conditional.Lawful held.stored
  stored : v.analytics.Acts (Keeps held.stored)
  pipelines : v.conditional.Acts (Keeps held.pipelines)
  ownPipelines : v.dispatcher.Own (Keeps held.pipelines)
  ownStored : v.dispatcher.Own (Keeps held.stored)

variable {v : Deployer σ} {held : Holdings σ}

/- What both handlers have in common, all handlers have. -/
theorem forall_handlers
    {p : EventHandler σ → Prop}
    (hAnalytics : p v.analytics.handler)
    (hConditional : p v.conditional.handler) :
    ∀ k ∈ v.dispatcher.handlers, p k := by
  rcases v.handlers with hOrder | hOrder
  · rw [hOrder]
    exact List.forall_mem_cons.mpr
      ⟨hAnalytics, List.forall_mem_singleton.mpr hConditional⟩
  · rw [hOrder]
    exact List.forall_mem_cons.mpr
      ⟨hConditional, List.forall_mem_singleton.mpr hAnalytics⟩

------------------------------------------------------------
-- Tasks that succeed
------------------------------------------------------------

/- Both handlers have succeeded, each of them on what it keeps. -/
theorem perform_parts
    (hOrderly : v.Orderly held)
    {task : DeploymentTask} {s s' : σ}
    (hRun : v.dispatcher.perform task s = (.ok (), s')) :
    (∃ a a',
      v.analytics.handler.perform task a = (.ok (), a') ∧
        held.pipelines a = held.pipelines s ∧
        held.pipelines s' = held.pipelines a') ∧
      ∃ c c',
        v.conditional.handler.perform task c = (.ok (), c') ∧
          held.stored c = held.stored s ∧
          held.stored s' = held.stored c' := by
  rcases Dispatcher.perform_of_ok hRun with ⟨s₁, hEach, hEnd⟩
  have hPipelines := hOrderly.pipelines.perform Keeps.closed task
  have hStored := hOrderly.stored.perform Keeps.closed task
  rw [hEnd hOrderly.ownPipelines, hEnd hOrderly.ownStored]
  rcases v.handlers with hOrder | hOrder
  · rw [hOrder] at hEach
    rcases Action.forEach_pair_eq_ok_iff.mp hEach with ⟨m, hFirst, hSecond⟩
    exact
      ⟨⟨s, m, hFirst, rfl, hPipelines.of_eq hSecond⟩,
        ⟨m, s₁, hSecond, hStored.of_eq hFirst, rfl⟩⟩
  · rw [hOrder] at hEach
    rcases Action.forEach_pair_eq_ok_iff.mp hEach with ⟨m, hFirst, hSecond⟩
    exact
      ⟨⟨m, s₁, hSecond, hPipelines.of_eq hFirst, rfl⟩,
        ⟨s, m, hFirst, rfl, hStored.of_eq hSecond⟩⟩

/- What a deployment has come to with each of the handlers. -/
theorem deploy_parts
    (hOrderly : v.Orderly held)
    {owner : String} {deployment : Deployment} {s s' : σ}
    (hRun : v.dispatcher.deploy owner deployment s = (.ok (), s')) :
    (∃ a a',
      v.analytics.deploy owner deployment a = (.ok (), a') ∧
        held.pipelines a = held.pipelines s ∧
        held.pipelines s' = held.pipelines a') ∧
      ∃ c c',
        v.conditional.deploy owner deployment c = (.ok (), c') ∧
          held.stored c = held.stored s ∧
          held.stored s' = held.stored c' := by
  have hPerform :
      v.dispatcher.perform (.deploy owner deployment) s = (.ok (), s') := hRun
  exact perform_parts hOrderly hPerform

/-
  A removal leaves all pipelines but the owner's for the
  deployment, and all that is stored for other deployments.
-/
theorem remove_parts
    (hOrderly : v.Orderly held)
    {owner deploymentId : String} {s s' : σ}
    (hRun : v.dispatcher.remove owner deploymentId s = (.ok (), s')) :
    (held.pipelines s').rows = (held.pipelines s).besides owner deploymentId ∧
      held.stored s' = (held.stored s).without deploymentId := by
  have hPerform :
      v.dispatcher.perform (.remove owner deploymentId) s = (.ok (), s') := hRun
  rcases perform_parts hOrderly hPerform with
    ⟨⟨a, a', hAnalytics, hBefore, hAfter⟩, c,
      c', hConditional, hStoredBefore, hStoredAfter⟩
  rw [hAfter, hStoredAfter,
    AnalyticsHandler.remove_rows hOrderly.analytics hAnalytics, hBefore,
    ConditionalHandler.removeEvents_stored hOrderly.conditional hConditional,
    hStoredBefore]
  exact ⟨rfl, rfl⟩

/-
  A deployment that counts as done leaves no pipelines that
  are new but the owner's for it, and no change in what is
  stored for other deployments.
-/
theorem deploy_of_isDone
    (hOrderly : v.Orderly held)
    {owner : String} {deployment : Deployment} {s s' : σ}
    {result : Except DeployError Unit}
    (hRun : v.dispatcher.deploy owner deployment s = (result, s'))
    (hDone : Dispatcher.IsDone result) :
    (∀ r ∈ (held.pipelines s').rows,
        r ∈ (held.pipelines s).rows ∨ r.isOf owner deployment.id = true) ∧
      ∀ other, other ≠ deployment.id →
        (held.stored s').of other = (held.stored s).of other := by
  have hPipelines := hOrderly.pipelines.deploy Keeps.closed owner deployment
  have hStored := hOrderly.stored.deploy Keeps.closed owner deployment
  have hAnalytics :
      ∀ {a a' : σ} {result : Except DeployError Unit},
        v.analytics.deploy owner deployment a = (result, a') →
          Dispatcher.IsDone result →
            ∀ r ∈ (held.pipelines a').rows,
              r ∈ (held.pipelines a).rows ∨
                r.isOf owner deployment.id = true := by
    intro a a' result hHere hEnd r hRow
    rcases AnalyticsHandler.deploy_of_isDone hOrderly.analytics hHere hEnd with
      ⟨created, hRows, hIsOf, -⟩
    rw [hRows] at hRow
    rcases List.mem_append.mp hRow with hOld | hNew
    · exact Or.inl (List.mem_of_mem_filter hOld)
    · exact Or.inr (hIsOf r hNew)
  have hConditional :
      ∀ {c c' : σ} {result : Except DeployError Unit},
        v.conditional.deploy owner deployment c = (result, c') →
          Dispatcher.IsDone result →
            ∀ other, other ≠ deployment.id →
              (held.stored c').of other = (held.stored c).of other := by
    intro c c' result hHere hEnd other hOther
    rcases ConditionalHandler.deploy_of_isDone
      hOrderly.conditional hHere hEnd with
      ⟨left, hLeft, -⟩
    rw [hLeft, if_neg hOther]
  rcases v.handlers with hOrder | hOrder
  · rcases Dispatcher.deploy_of_isDone hOrder hRun hDone with
      ⟨m, _, m', hFirst, hSecond, hEnd, hSame⟩ | ⟨e, hFirst, hMissing⟩
    · rw [hSame hOrderly.ownPipelines, hSame hOrderly.ownStored,
        hPipelines.of_eq hSecond]
      refine ⟨hAnalytics hFirst .ok, fun other hOther => ?_⟩
      rw [hConditional hSecond hEnd other hOther, hStored.of_eq hFirst]
    · refine ⟨hAnalytics hFirst (.userMissing hMissing), fun other _ => ?_⟩
      rw [hStored.of_eq hFirst]
  · rcases Dispatcher.deploy_of_isDone hOrder hRun hDone with
      ⟨m, _, m', hFirst, hSecond, hEnd, hSame⟩ | ⟨e, hFirst, hMissing⟩
    · rw [hSame hOrderly.ownPipelines, hSame hOrderly.ownStored,
        hStored.of_eq hSecond, ← hPipelines.of_eq hFirst]
      exact ⟨hAnalytics hSecond hEnd, hConditional hFirst .ok⟩
    · rw [hPipelines.of_eq hFirst]
      exact ⟨fun r hRow => Or.inl hRow,
        hConditional hFirst (.userMissing hMissing)⟩

end Deployer

------------------------------------------------------------
-- Handlers of an engine and of stores
------------------------------------------------------------

section

variable {P : Action.Property σ} {engine : FlowEngine σ}
variable {events : EventStore σ} {index : IndexStore σ}

/- What the engine does is all that the handler does. -/
theorem AnalyticsHandler.onEngine_acts
    (hP : Action.Closed P)
    (hEngine : engine.All P)
    (token : Except AuthError BearerToken) :
    (onEngine engine token).Acts P where
  asks := onEngine_asks hP.toSequential (hP.ofExcept token) hEngine.flowInputs
  list := hEngine.list
  create := hEngine.create
  remove := hEngine.remove
  count _ _ := hP.pure ()

/- What the stores do is all that the handler does. -/
theorem ConditionalHandler.onStores_acts
    (hP : Action.Closed P)
    (hEvents : events.All P)
    (hIndex : index.All P)
    (token : Except AuthError BearerToken) :
    (onStores events index token).Acts P where
  devices := DeviceDirectory.all_unchanging hP.toSequential _ _
  imports := ImportDirectory.all_unchanging hP.toSequential
  userToken _ := hP.ofExcept token
  set := hEvents.set
  removeByDeployment := hEvents.removeByDeployment
  byDeployment := hEvents.byDeployment
  setRow := hIndex.set
  removeRow := hIndex.remove
  count _ _ := hP.pure ()

namespace Deployer

/- A handler of an engine and one of stores, which get the same for a token. -/
def onStores
    (engine : FlowEngine σ)
    (events : EventStore σ)
    (index : IndexStore σ)
    (token : Except AuthError BearerToken)
    (done : Option (DoneChannel σ)) : Deployer σ where
  analytics := .onEngine engine token
  conditional := .onStores events index token
  dispatcher :=
    { handlers :=
        [(AnalyticsHandler.onEngine engine token).handler,
          (ConditionalHandler.onStores events index token).handler]
      done
      doneHandler := "events"
      counters := .none }
  handlers := Or.inl rfl

variable {token : Except AuthError BearerToken}

/- What the dispatcher does of its own is to announce. -/
theorem onStores_own
    {β : Type} {view : σ → β} {done : Option (DoneChannel σ)}
    (hProduce :
      ∀ channel ∈ done, ∀ id notification,
        Keeps view (channel.produce id notification)) :
    (onStores engine events index token done).dispatcher.Own (Keeps view) where
  count _ _ _ := rfl
  produce := hProduce

/- The engine and the stores do what they are asked for, each on its own. -/
theorem onStores_orderly
    {held : Holdings σ}
    (hEngine : engine.Lawful held.pipelines)
    (hEvents : events.Lawful held.stored)
    (hIndex : index.Lawful held.stored)
    (hStored : engine.All (Keeps held.stored))
    (hPipelines : events.All (Keeps held.pipelines))
    (hRows : index.All (Keeps held.pipelines))
    (token : Except AuthError BearerToken) :
    (onStores engine events index token none).Orderly held where
  analytics := AnalyticsHandler.onEngine_lawful hEngine token
  conditional := ConditionalHandler.onStores_lawful hEvents hIndex token
  stored := AnalyticsHandler.onEngine_acts Keeps.closed hStored token
  pipelines :=
    ConditionalHandler.onStores_acts Keeps.closed hPipelines hRows token
  ownPipelines := onStores_own nofun
  ownStored := onStores_own nofun

end Deployer

end

------------------------------------------------------------
-- Handlers on a backend
------------------------------------------------------------

namespace Backend

/- A handler whose pipelines run on the backend. -/
def analytics
    (token : Except AuthError BearerToken) : AnalyticsHandler Backend :=
  .onEngine engine token

/- A handler whose events are stored on the backend. -/
def conditional
    (token : Except AuthError BearerToken) : ConditionalHandler Backend :=
  .onStores events index token

/- Both of them, with what they get for a token. -/
def deployer
    (token : Except AuthError BearerToken)
    (done : Option (DoneChannel Backend)) : Deployer Backend :=
  .onStores engine events index token done

def holdings : Holdings Backend where
  pipelines := running
  stored s := s.tables.stored
  announced := announced

theorem engine_lawful :
    engine.Lawful running :=
  RunningPipelines.lawful.within runningSlot_holds

theorem events_lawful :
    events.Lawful fun s => s.tables.stored :=
  EventTables.events_lawful.within tablesSlot_holds

theorem index_lawful :
    index.Lawful fun s => s.tables.stored :=
  EventTables.index_lawful.within tablesSlot_holds

/- What is no pipeline is left alone. -/
theorem analytics_keeps
    {β : Type} {view : Backend → β}
    (hView : runningSlot.Spares view)
    (token : Except AuthError BearerToken) :
    (analytics token).Acts (Keeps view) :=
  AnalyticsHandler.onEngine_acts Keeps.closed (engine_all hView) token

/- What is no conditional event is left alone. -/
theorem conditional_keeps
    {β : Type} {view : Backend → β}
    (hView : tablesSlot.Spares view)
    (token : Except AuthError BearerToken) :
    (conditional token).Acts (Keeps view) :=
  ConditionalHandler.onStores_acts Keeps.closed (events_all hView)
    (index_all hView) token

theorem deployer_orderly
    (token : Except AuthError BearerToken) :
    (deployer token none).Orderly holdings :=
  Deployer.onStores_orderly engine_lawful events_lawful index_lawful
    (engine_all fun _ _ => rfl) (events_all fun _ _ => rfl)
    (index_all fun _ _ => rfl) token

end Backend

------------------------------------------------------------
-- Both kinds of events
------------------------------------------------------------

namespace Deployer

/- A deployment with an event of either kind. -/
def mixedDeployment : Deployment :=
  { id := "d1"
    elements :=
      AnalyticsHandler.importDeployment.elements ++
        ConditionalHandler.groupDeployment.elements }

/-
  A pipeline of an earlier deployment, and what another user
  has stored under its id.
-/
def occupied : Backend where
  running :=
    { rows :=
        [AnalyticsHandler.describedRow 1 "u1"
          "\x7b\"deployment_id\":\"d1\"\x7d"]
      distinct := List.nodup_singleton _ }
  tables := ConditionalHandler.staleTables

/- Nothing is running, and nothing is stored. -/
def vacant : Backend where
  running := { rows := [], distinct := List.nodup_nil }
  tables := .ofLists [] []

/- What a command tells, without the contents of its deployment. -/
def outline
    (c : DeploymentCommand) : String × String × String × Option String :=
  (c.command, c.id, c.owner, c.deployment.map (·.id))

theorem exists_isCurrent
    (message : Json)
    {tells : String × String × String × Option String}
    (hVersion :
      (CommandHeader.codec.decode message).map (·.version) =
        some Deployment.currentVersion)
    (hOutline : (DeploymentCommand.codec.decode message).map outline =
      some tells) :
    ∃ c : DeploymentCommand, c.IsCurrent message ∧ outline c = tells := by
  rcases Option.map_eq_some_iff.mp hVersion with ⟨header, hHeader, hCurrent⟩
  rcases Option.map_eq_some_iff.mp hOutline with ⟨c, hDecode, hTells⟩
  exact ⟨c, ⟨⟨header, hHeader, hCurrent⟩, hDecode⟩, hTells⟩

/-
  A message under any id that changes a deployment, which
  has an id of its own.
-/
def changeUnder
    (id : String) : Json :=
  DeploymentCommand.codec.encode
    { command := Verb.put
      id
      version := Deployment.currentVersion
      owner := "u1"
      deployment := some ConditionalHandler.groupDeployment }

theorem changeUnder_isCurrent
    {id : String}
    (hId : id = "d1" ∨ id = "d2") :
    ∃ c : DeploymentCommand, ∃ deployment,
      c.IsCurrent (changeUnder id) ∧
        c.command = Verb.put ∧
        c.id = id ∧
        c.owner = "u1" ∧
        c.deployment = some deployment ∧
        deployment.id = "d1" := by
  have hVersion :
      (CommandHeader.codec.decode (changeUnder id)).map (·.version) =
        some Deployment.currentVersion := by
    rcases hId with rfl | rfl
    · decide +kernel
    · decide +kernel
  have hTells :
      (DeploymentCommand.codec.decode (changeUnder id)).map outline =
        some (Verb.put, id, "u1", some "d1") := by
    rcases hId with rfl | rfl
    · decide +kernel
    · decide +kernel
  rcases exists_isCurrent (changeUnder id) hVersion hTells with
    ⟨c, hCurrent, hOutline⟩
  simp only [outline, Prod.mk.injEq, Option.map_eq_some_iff] at hOutline
  rcases hOutline with ⟨hVerb, hCommandId, hOwner, deployment, hBody, hBodyId⟩
  exact ⟨c, deployment, hCurrent, hVerb, hCommandId, hOwner, hBody, hBodyId⟩

end Deployer

end ProcessEvents
