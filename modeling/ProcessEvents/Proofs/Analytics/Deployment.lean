import ProcessEvents.Proofs.Analytics.Asking
import ProcessEvents.Proofs.PipelineTable

/-
  This file shows that a deployment of message events leaves
  exactly the pipelines that it has created, whatever has
  been running before, and that these are created for what
  the collaborators have answered and for nothing else.

  Key definitions include:
    * `AnalyticsHandler.Lawful`
    * `AnalyticsHandler.AnswersFrom`
    * `AnalyticsHandler.onEngine`, `AnalyticsHandler.onTable`
    * `AnalyticsHandler.plan`
    * `AnalyticsHandler.Creation`

  Key theorems include:
    * `AnalyticsHandler.remove_rows`
    * `AnalyticsHandler.deployElement_creation`
    * `AnalyticsHandler.deployElements_creation`
    * `AnalyticsHandler.deploy_replaces_pipelines`
-/

namespace ProcessEvents

variable {σ ω : Type}

open ProcessEvents.Action (Keeps)

namespace AnalyticsHandler

------------------------------------------------------------
-- Collaborators
------------------------------------------------------------

/-
  The engine does what it is asked for, and nobody else
  touches the pipelines.
-/
structure Lawful
    (h : AnalyticsHandler σ)
    (pipelines : σ → RunningPipelines) : Prop where
  engine : h.engine.Lawful pipelines
  asks : h.Asks (Keeps pipelines)
  count : ∀ c n s, pipelines (h.counters.add c n s) = pipelines s

/-
  What the collaborators answer is determined by a view of
  the state that pipelines and counts are no part of.
-/
structure AnswersFrom
    (h : AnalyticsHandler σ)
    (world : σ → ω) : Prop where
  asks : h.Asks (Action.AnswersFrom world)
  list : ∀ owner, Keeps world (h.engine.list owner)
  create :
    ∀ token owner request, Keeps world (h.engine.create token owner request)
  remove : ∀ owner id, Keeps world (h.engine.remove owner id)
  count : ∀ c n s, world (h.counters.add c n s) = world s

/-
  A handler of an engine, whose lookups have answers that
  never change, and all of whose users get the same for a
  token.
-/
def onEngine
    (engine : FlowEngine σ)
    (token : Except AuthError BearerToken) : AnalyticsHandler σ :=
  { settings := {}
    importPathPrefix := ""
    genericSourcePathPrefix := ""
    groupsEnabled := true
    engine
    devices := .unchanging {} []
    imports := .unchanging
    tokens := .answering token
    counters := .none }

theorem onEngine_asks
    {P : Action.Property σ}
    (hP : Action.Sequential P)
    {engine : FlowEngine σ} {token : Except AuthError BearerToken}
    (hToken : P (Action.ofExcept (σ := σ) token))
    (hFlows : ∀ owner flowId, P (engine.flowInputs owner flowId)) :
    (onEngine engine token).Asks P where
  devices := DeviceDirectory.all_unchanging hP _ _
  imports := ImportDirectory.all_unchanging hP
  userToken _ := hToken
  flowInputs := hFlows

theorem onEngine_lawful
    {engine : FlowEngine σ} {pipelines : σ → RunningPipelines}
    (hEngine : engine.Lawful pipelines)
    (token : Except AuthError BearerToken) :
    (onEngine engine token).Lawful pipelines where
  engine := hEngine
  asks :=
    onEngine_asks Keeps.closed.toSequential (Keeps.closed.ofExcept token)
      hEngine.flowInputs
  count _ _ _ := rfl

/- A handler whose pipelines run in a table. -/
def onTable
    (token : BearerToken) : AnalyticsHandler NumberedPipelines :=
  onEngine NumberedPipelines.engine (.ok token)

/- A platform on which nothing has been created. -/
def noPipelines : NumberedPipelines where
  table := {}
  numbered := ⟨List.nodup_nil, nofun⟩

/- All that it asks for is answered at once. -/
theorem onTable_asks
    (token : BearerToken)
    {P : Action.Property NumberedPipelines}
    (hP : Action.Sequential P) :
    (onTable token).Asks P :=
  onEngine_asks hP (hP.pure token) fun _ _ => hP.pure _

theorem onTable_lawful
    (token : BearerToken) :
    (onTable token).Lawful NumberedPipelines.running :=
  onEngine_lawful NumberedPipelines.lawful (.ok token)

theorem onTable_answersFrom
    (token : BearerToken) :
    (onTable token).AnswersFrom fun _ => () where
  asks := onTable_asks token Action.AnswersFrom.closed.toSequential
  list _ _ := rfl
  create _ _ _ _ := rfl
  remove _ _ _ := rfl
  count _ _ _ := rfl

variable {h : AnalyticsHandler σ} {pipelines : σ → RunningPipelines}

------------------------------------------------------------
-- Removal
------------------------------------------------------------

/- The pipeline with the id is gone, and no other one. -/
theorem removePipeline_rows
    (hLawful : h.Lawful pipelines)
    {owner : String} {p : EventPipeline} {id : Uuid} {s s' : σ}
    (hId : p.id = id.toText)
    (hRun : h.removePipeline owner p s = (.ok (), s')) :
    (pipelines s').rows = (pipelines s).rows.filter fun r => r.id ≠ id := by
  unfold removePipeline at hRun
  rcases Action.bind_eq_ok_iff.mp hRun with ⟨_, s₁, hRemove, hCount⟩
  rw [Action.mapError_eq_ok_iff, hId] at hRemove
  rw [(Counters.keeps_count hLawful.count _ _).of_eq hCount]
  exact hLawful.engine.remove_ok hRemove

/- Of all pipelines, those with another id than the given ones stay. -/
theorem removePipelines_rows
    (hLawful : h.Lawful pipelines)
    {owner : String} {ps : List EventPipeline} {s s' : σ}
    (hIds : ∀ p ∈ ps, ∃ id : Uuid, p.id = id.toText)
    (hRun : Action.forEach (h.removePipeline owner) ps s = (.ok (), s')) :
    (pipelines s').rows =
      (pipelines s).rows.filter fun r => r.id.toText ∉ ps.map (·.id) := by
  induction ps generalizing s with
  | nil =>
      cases hRun
      simp
  | cons p ps ih =>
      rcases Action.forEach_cons_eq_ok_iff.mp hRun with ⟨s₁, hHead, hTail⟩
      rcases List.forall_mem_cons.mp hIds with ⟨⟨id, hId⟩, hRest⟩
      have hRow : ∀ r : PipelineRow, r.id.toText = p.id ↔ r.id = id := by
        intro r
        rw [hId]
        exact ⟨Uuid.toText_injective, congrArg Uuid.toText⟩
      rw [ih hRest hTail, removePipeline_rows hLawful hId hHead,
        List.filter_filter]
      apply List.filter_congr
      intro r _
      simp [hRow, Bool.and_comm]

/- A removal leaves all pipelines but the owner's for the deployment. -/
theorem remove_rows
    (hLawful : h.Lawful pipelines)
    {owner deploymentId : String} {s s' : σ}
    (hRun : h.remove owner deploymentId s = (.ok (), s')) :
    (pipelines s').rows =
      (pipelines s).rows.filter fun r => !r.isOf owner deploymentId := by
  unfold remove at hRun
  rcases Action.bind_eq_ok_iff.mp hRun with ⟨ps, s₁, hList, hEach⟩
  rw [Action.mapError_eq_ok_iff] at hList
  have hMem := hLawful.engine.mem_eventPipelines hList
  have hIds :
      ∀ p ∈ ps.filter (fun p => p.description.deploymentId = deploymentId),
        ∃ id : Uuid, p.id = id.toText := by
    intro p hListed
    rcases (hMem p).mp (List.mem_of_mem_filter hListed) with ⟨r, -, -, hEvent⟩
    exact ⟨r.id, (PipelineRow.event?_eq_some_iff.mp hEvent).2.1⟩
  rw [removePipelines_rows hLawful hIds hEach,
    (hLawful.engine.eventPipelines owner).of_eq hList]
  apply List.filter_congr
  intro r hRow
  have hNamed := hLawful.engine.eventPipelines_filter hList deploymentId hRow
  simp only [hNamed, Bool.not_eq_true, Bool.decide_eq_false]

/- A removal has each property that listing, removing and counting have. -/
theorem remove_closed
    {P : Action.Property σ}
    (hP : Action.Closed P)
    (hList : ∀ owner, P (h.engine.list owner))
    (hRemove : ∀ owner id, P (h.engine.remove owner id))
    (hCount : ∀ c n, P (h.counters.count c n : Action σ DeployError Unit))
    (owner deploymentId : String) :
    P (h.remove owner deploymentId) := by
  unfold remove
  apply hP.bind (hP.mapError _ (hP.map _ (hList owner)))
  intro ps
  apply hP.forEach
  intro p _
  unfold removePipeline
  apply hP.bind (hP.mapError _ (hRemove owner p.id))
  intro _
  exact hCount _ _

theorem remove_keeps
    {world : σ → ω}
    (hWorld : h.AnswersFrom world)
    (owner deploymentId : String) :
    Keeps world (h.remove owner deploymentId) :=
  remove_closed Keeps.closed hWorld.list hWorld.remove
    (Counters.keeps_count hWorld.count) _ _

------------------------------------------------------------
-- Creation
------------------------------------------------------------

/-
  What a deployment asks for before it creates anything: a
  token, and the requests of its elements in their order.
-/
def plan
    (h : AnalyticsHandler σ)
    (owner : String)
    (deployment : Deployment) :
    Action σ DeployError (BearerToken × List PipelineRequest) := do
  let token ← (h.tokens.userToken owner).mapError .auth
  let requests ← .collect
    (fun e => Option.toList <$> h.elementRequest token owner deployment.id e)
    deployment.elements
  return (token, requests)

/-
  From one state to another, pipelines have been created for
  a deployment. They run what is asked for wherever the
  collaborators answer as they did, whatever is running there.
-/
structure Creation
    (h : AnalyticsHandler σ)
    (pipelines : σ → RunningPipelines)
    (token : BearerToken)
    (owner deploymentId : String)
    (ask : Action σ DeployError (List PipelineRequest))
    (created : List PipelineRow)
    (s s' : σ) : Prop where
  rows : (pipelines s').rows = (pipelines s).rows ++ created
  isOf : ∀ r ∈ created, r.isOf owner deploymentId = true
  token_eq : ∀ r ∈ created, r.token = token
  asked :
    ∀ {ω : Type} (world : σ → ω),
      h.AnswersFrom world →
        ∀ t, world t = world s →
          ∃ t', ask t = (.ok (created.map (·.request)), t') ∧
            world t' = world s'

/- A pipeline has been created at the end of the others. -/
theorem create_rows
    (hLawful : h.Lawful pipelines)
    {token : BearerToken} {owner : String} {request : PipelineRequest}
    {s s' : σ}
    (hRun : h.create token owner request s = (.ok (), s')) :
    ∃ r : PipelineRow,
      (pipelines s').rows = (pipelines s).rows ++ [r] ∧
        r.owner = owner ∧ r.token = token ∧ r.request = request := by
  unfold create at hRun
  rcases Action.bind_eq_ok_iff.mp hRun with ⟨p, s₁, hCreate, hCount⟩
  rw [Action.mapError_eq_ok_iff] at hCreate
  rw [(Counters.keeps_count hLawful.count _ _).of_eq hCount]
  exact ⟨_, hLawful.engine.create_ok hCreate, rfl, rfl, rfl⟩

theorem create_closed
    {P : Action.Property σ}
    (hP : Action.Closed P)
    (hCreate : ∀ token owner request, P (h.engine.create token owner request))
    (hCount : ∀ c n, P (h.counters.count c n : Action σ DeployError Unit))
    (token : BearerToken)
    (owner : String)
    (request : PipelineRequest) :
    P (h.create token owner request) := by
  unfold create
  apply hP.bind (hP.mapError _ (hCreate token owner request))
  intro _
  exact hCount _ _

theorem create_keeps
    {world : σ → ω}
    (hWorld : h.AnswersFrom world)
    (token : BearerToken)
    (owner : String)
    (request : PipelineRequest) :
    Keeps world (h.create token owner request) :=
  create_closed Keeps.closed hWorld.create
    (Counters.keeps_count hWorld.count) _ _ _

/- One element makes for at most one pipeline, the one that it asks for. -/
theorem deployElement_creation
    (hLawful : h.Lawful pipelines)
    {token : BearerToken} {owner deploymentId : String} {element : Element}
    {s s' : σ}
    (hRun : h.deployElement token owner deploymentId element s = (.ok (), s')) :
    ∃ created,
      h.Creation pipelines token owner deploymentId
        (Option.toList <$> h.elementRequest token owner deploymentId element)
        created s s' := by
  unfold deployElement at hRun
  rcases Action.bind_eq_ok_iff.mp hRun with ⟨request?, s₁, hAsk, hAct⟩
  have hKeeps :=
    (hLawful.asks.elementRequest Keeps.closed
      token owner deploymentId element).of_eq hAsk
  have hFor :=
    h.elementRequest_isFor token owner deploymentId element s _ s₁ hAsk
  have hAsked :
      ∀ {ω : Type} (world : σ → ω),
        h.AnswersFrom world →
          ∀ t, world t = world s →
            ∃ t',
              (Option.toList <$>
                h.elementRequest token owner deploymentId element) t =
                  (.ok request?.toList, t') ∧
                world t' = world s₁ := by
    intro ω world hWorld t hSame
    have hAnswers :=
      hWorld.asks.elementRequest Action.AnswersFrom.closed
        token owner deploymentId element
    rcases hAnswers.of_eq hAsk hSame with ⟨t', hRequest, hEnd⟩
    exact ⟨t', Action.map_eq_ok_iff.mpr ⟨request?, hRequest, rfl⟩, hEnd⟩
  cases request? with
  | none =>
      cases hAct
      refine ⟨[], ?_, nofun, nofun, hAsked⟩
      rw [hKeeps, List.append_nil]
  | some request =>
      rcases create_rows hLawful hAct with ⟨r, hRows, hOwner, hRowToken, rfl⟩
      refine ⟨[r], ?_, ?_, ?_, ?_⟩
      · rw [hRows, hKeeps]
      · rw [List.forall_mem_singleton, PipelineRow.isOf_iff]
        exact ⟨hOwner, hFor r.request rfl⟩
      · exact List.forall_mem_singleton.mpr hRowToken
      · intro ω world hWorld t hSame
        rcases hAsked world hWorld t hSame with ⟨t', hRequest, hEnd⟩
        exact ⟨t', hRequest,
          hEnd.trans
            ((create_keeps hWorld token owner r.request).of_eq hAct).symm⟩

/- The elements make for their pipelines one after the other. -/
theorem deployElements_creation
    (hLawful : h.Lawful pipelines)
    {token : BearerToken} {owner deploymentId : String}
    {elements : List Element}
    {s s' : σ}
    (hRun :
      Action.forEach (h.deployElement token owner deploymentId) elements s =
        (.ok (), s')) :
    ∃ created,
      h.Creation pipelines token owner deploymentId
        (Action.collect
          (fun e =>
            Option.toList <$> h.elementRequest token owner deploymentId e)
          elements)
        created s s' := by
  induction elements generalizing s with
  | nil =>
      cases hRun
      refine ⟨[], (List.append_nil _).symm, nofun, nofun, ?_⟩
      intro ω world _ t hSame
      exact ⟨t, rfl, hSame⟩
  | cons element elements ih =>
      rcases Action.forEach_cons_eq_ok_iff.mp hRun with ⟨s₁, hHead, hTail⟩
      rcases deployElement_creation hLawful hHead with ⟨first, hFirst⟩
      rcases ih hTail with ⟨more, hMore⟩
      refine ⟨first ++ more, ?_, ?_, ?_, ?_⟩
      · rw [hMore.rows, hFirst.rows, List.append_assoc]
      · exact List.forall_mem_append.mpr ⟨hFirst.isOf, hMore.isOf⟩
      · exact List.forall_mem_append.mpr ⟨hFirst.token_eq, hMore.token_eq⟩
      · intro ω world hWorld t hSame
        rcases hFirst.asked world hWorld t hSame with ⟨t₁, hAskFirst, hMiddle⟩
        rcases hMore.asked world hWorld t₁ hMiddle with ⟨t', hAskMore, hEnd⟩
        refine ⟨t', ?_, hEnd⟩
        rw [Action.collect, Action.bind_of_ok hAskFirst,
          Action.bind_of_ok hAskMore, List.map_append]
        rfl

------------------------------------------------------------
-- Deployments
------------------------------------------------------------

/-
  After a deployment, the owner's pipelines for it are those
  that it has created. Whatever belongs to another owner, to
  another deployment or to no deployment at all stays as it
  is. What the new pipelines run is the plan of the
  deployment in any state where the collaborators answer
  alike, whatever is running there.
-/
theorem deploy_replaces_pipelines
    (hLawful : h.Lawful pipelines)
    {owner : String} {deployment : Deployment} {s s' : σ}
    (hDeploy : h.deploy owner deployment s = (.ok (), s')) :
    ∃ token created,
      (pipelines s').rows =
          ((pipelines s).rows.filter fun r => !r.isOf owner deployment.id) ++
            created ∧
        (∀ r ∈ created, r.isOf owner deployment.id = true ∧ r.token = token) ∧
        ∀ {ω : Type} (world : σ → ω),
          h.AnswersFrom world →
            ∀ t, world t = world s →
              (h.plan owner deployment t).1 =
                .ok (token, created.map (·.request)) := by
  unfold deploy at hDeploy
  rcases Action.bind_eq_ok_iff.mp hDeploy with ⟨_, s₁, hRemove, hRest⟩
  rcases Action.bind_eq_ok_iff.mp hRest with ⟨token, s₂, hToken, hEach⟩
  rcases deployElements_creation hLawful hEach with ⟨created, hCreation⟩
  have hTokenRun := Action.mapError_eq_ok_iff.mp hToken
  refine ⟨token, created, ?_, ?_, ?_⟩
  · rw [hCreation.rows, (hLawful.asks.userToken owner).of_eq hTokenRun,
      remove_rows hLawful hRemove]
  · intro r hRow
    exact ⟨hCreation.isOf r hRow, hCreation.token_eq r hRow⟩
  · intro ω world hWorld t hSame
    have hBefore : world t = world s₁ :=
      hSame.trans ((remove_keeps hWorld owner deployment.id).of_eq hRemove).symm
    rcases (hWorld.asks.userToken owner).of_eq hTokenRun hBefore with
      ⟨t₁, hTokenT, hMiddle⟩
    rcases hCreation.asked world hWorld t₁ hMiddle with ⟨t', hAsk, -⟩
    rw [plan, Action.bind_of_ok (Action.mapError_eq_ok_iff.mpr hTokenT),
      Action.bind_of_ok hAsk]
    rfl

/- A deployment with one event, which is on an import. -/
def importDeployment : Deployment :=
  { id := "d1"
    elements :=
      [{ messageEvent := some
          { flowId := "f1"
            eventId := "e1"
            selection :=
              { filterCriteria :=
                  { characteristicId := some "c1"
                    functionId := some "fn1"
                    aspectId := some "a1" }
                importId := some "i1"
                path := some { path := "value" } } } }] }

/- A pipeline of which nothing but its owner and its description matters. -/
def describedRow
    (n : Nat)
    (owner description : String) : PipelineRow :=
  { id := .ofNat n, owner, token := ⟨""⟩, request := { description } }

/-
  One pipeline of the deployment, and three that are none of
  its owner's for it.
-/
def leftovers : NumberedPipelines where
  table :=
    { rows :=
        [describedRow 1 "u1" "\x7b\"deployment_id\":\"d1\"\x7d",
         describedRow 2 "u2" "\x7b\"deployment_id\":\"d1\"\x7d",
         describedRow 3 "u1" "\x7b\"deployment_id\":\"d2\"\x7d",
         describedRow 4 "u1" "hand-written"]
      created := 4 }
  numbered := ⟨by decide +kernel, by decide +kernel⟩

theorem deploy_replaces_pipelines_leftovers :
    ∃ s' r,
      (onTable ⟨"Bearer"⟩).deploy "u1" importDeployment leftovers =
        (.ok (), s') ∧
        r.isOf "u1" "d1" = true ∧
        s'.table.rows = leftovers.table.rows.tail ++ [r] := by
  have hOk :
      ((onTable ⟨"Bearer"⟩).deploy "u1" importDeployment leftovers).1.isOk =
        true := by
    decide +kernel
  have hRun := Action.eq_ok_of_isOk hOk
  generalize
    ((onTable ⟨"Bearer"⟩).deploy "u1" importDeployment leftovers).2 = s' at hRun
  rcases deploy_replaces_pipelines (onTable_lawful ⟨"Bearer"⟩) hRun with
    ⟨token, created, hRows, hIsOf, hPlan⟩
  have hAsked := hPlan _ (onTable_answersFrom ⟨"Bearer"⟩) leftovers rfl
  -- the plan of the deployment has one request
  have hOne :
      (((onTable ⟨"Bearer"⟩).plan "u1" importDeployment
        leftovers).1.toOption.map
        fun p => p.2.length) = some 1 := by
    decide +kernel
  rw [hAsked] at hOne
  have hLength : created.length = 1 := by
    simpa only [Except.toOption, Option.map_some,
      List.length_map, Option.some.injEq] using hOne
  rcases List.length_eq_one_iff.mp hLength with ⟨r, rfl⟩
  have hKept :
      (leftovers.table.rows.filter fun r => !r.isOf "u1" "d1") =
        leftovers.table.rows.tail := by
    decide +kernel
  refine ⟨s', r, hRun, (hIsOf r List.mem_cons_self).1, ?_⟩
  rw [← hKept]
  exact hRows

end AnalyticsHandler

end ProcessEvents
