import ProcessEvents.Proofs.Analytics.Frame

/-
  This file tells when a deployment of message events comes
  to its end: if its plan can be made, if its pipelines can
  be removed, and if there are ids for the new ones. What it
  leaves is then the same, up to these ids, wherever the
  other pipelines are the same. Only the token of the owner
  makes it fail for a missing user.

  Key definitions include:
    * `AnalyticsHandler.Acts`
    * `AnalyticsHandler.SparesUser`
    * `PipelineRow.content`

  Key theorems include:
    * `AnalyticsHandler.Acts.deploy`
    * `AnalyticsHandler.elementRequest_sparesUser`
    * `AnalyticsHandler.deployEvents_of_userMissing`
    * `AnalyticsHandler.deploy_sparesUser`
    * `AnalyticsHandler.remove_succeeds`
    * `AnalyticsHandler.deploy_of_plan`
    * `AnalyticsHandler.deploy_planned`
    * `AnalyticsHandler.deploy_agrees`
-/

namespace ProcessEvents

variable {σ α β : Type}

open ProcessEvents.Action (Keeps Raises Succeeds)

/- What a pipeline runs, and for whom. -/
def PipelineRow.content
    (r : PipelineRow) : String × BearerToken × PipelineRequest :=
  (r.owner, r.token, r.request)

namespace AnalyticsHandler

variable {h : AnalyticsHandler σ} {pipelines : σ → RunningPipelines}

------------------------------------------------------------
-- Properties of deployments
------------------------------------------------------------

/- What a deployment does after the removal. -/
def deployEvents
    (h : AnalyticsHandler σ)
    (owner : String)
    (deployment : Deployment) : Action σ DeployError Unit := do
  let token ← (h.tokens.userToken owner).mapError .auth
  .forEach (h.deployElement token owner deployment.id) deployment.elements

theorem deploy_eq
    (h : AnalyticsHandler σ)
    (owner : String)
    (deployment : Deployment) :
    h.deploy owner deployment =
      h.remove owner deployment.id >>=
        fun _ => h.deployEvents owner deployment := rfl

/- All that the handler calls for a deployment has a property. -/
structure Acts
    (h : AnalyticsHandler σ)
    (P : Action.Property σ) : Prop where
  asks : h.Asks P
  list : ∀ owner, P (h.engine.list owner)
  create : ∀ token owner request, P (h.engine.create token owner request)
  remove : ∀ owner id, P (h.engine.remove owner id)
  count : ∀ c n, P (h.counters.count c n : Action σ DeployError Unit)

/- An element asks and creates, but it removes nothing. -/
theorem deployElement_closed
    {P : Action.Property σ}
    (hP : Action.Closed P)
    (hAsks : h.Asks P)
    (hCreate : ∀ token owner request, P (h.engine.create token owner request))
    (hCount : ∀ c n, P (h.counters.count c n : Action σ DeployError Unit))
    (token : BearerToken)
    (owner deploymentId : String)
    (element : Element) :
    P (h.deployElement token owner deploymentId element) := by
  unfold AnalyticsHandler.deployElement
  apply hP.bind (hAsks.elementRequest hP token owner deploymentId element)
  intro request?
  cases request? with
  | none => exact hP.pure ()
  | some request => exact create_closed hP hCreate hCount token owner request

theorem Acts.deployElement
    {P : Action.Property σ}
    (hActs : h.Acts P)
    (hP : Action.Closed P)
    (token : BearerToken)
    (owner deploymentId : String)
    (element : Element) :
    P (h.deployElement token owner deploymentId element) :=
  deployElement_closed hP hActs.asks hActs.create
    hActs.count token owner deploymentId element

theorem Acts.deployEvents
    {P : Action.Property σ}
    (hActs : h.Acts P)
    (hP : Action.Closed P)
    (owner : String)
    (deployment : Deployment) :
    P (h.deployEvents owner deployment) := by
  unfold AnalyticsHandler.deployEvents
  apply hP.bind (hP.mapError _ (hActs.asks.userToken owner))
  intro token
  apply hP.forEach
  intro element _
  exact hActs.deployElement hP token owner deployment.id element

theorem Acts.deploy
    {P : Action.Property σ}
    (hActs : h.Acts P)
    (hP : Action.Closed P)
    (owner : String)
    (deployment : Deployment) :
    P (h.deploy owner deployment) := by
  rw [deploy_eq]
  apply hP.bind
    (remove_closed hP hActs.list hActs.remove hActs.count owner deployment.id)
  intro _
  exact hActs.deployEvents hP owner deployment

------------------------------------------------------------
-- Missing users
------------------------------------------------------------

/- If the action fails, then not for a missing user. -/
def SparesUser
    (a : Action σ DeployError α) : Prop :=
  Raises (fun e => e.isUserMissing = false) a

namespace SparesUser

theorem pure
    (x : α) :
    SparesUser (return x : Action σ DeployError α) :=
  Raises.pure x

theorem bind
    {a : Action σ DeployError α} {f : α → Action σ DeployError β}
    (hFirst : SparesUser a)
    (hThen : ∀ x, SparesUser (f x)) :
    SparesUser (a >>= f) :=
  Raises.bind hFirst hThen

theorem attempt
    {ε : Type} (a : Action σ ε α) :
    SparesUser a.attempt :=
  Raises.attempt a

theorem request
    (a : Action σ RequestError α) :
    SparesUser (a.mapError .request) := by
  apply Raises.mapError
  intro e
  rfl

theorem fail
    {e : DeployError}
    (hError : e.isUserMissing = false) :
    SparesUser (Action.fail e : Action σ DeployError α) :=
  Raises.fail hError

theorem count
    (counters : Counters σ)
    (c : Counter)
    (n : Nat) :
    SparesUser (counters.count c n) :=
  (Counters.succeeds_count counters c n).raises

end SparesUser

theorem conversions_sparesUser
    (functionId : Option String) :
    SparesUser (h.conversions functionId) := by
  unfold conversions
  cases functionId with
  | none => exact .pure _
  | some id =>
      apply SparesUser.bind (.attempt _)
      rintro (e | function)
      · dsimp only
        split
        · exact .pure _
        · exact .fail rfl
      · dsimp only
        split
        · exact .pure _
        · apply SparesUser.bind (.attempt _)
          rintro (e | concept)
          · dsimp only
            split
            · exact .pure _
            · exact .fail rfl
          · exact .pure _

theorem operatorNode_sparesUser
    (owner flowId : String) :
    SparesUser (h.operatorNode owner flowId) := by
  unfold operatorNode
  apply SparesUser.bind (.attempt _)
  intro result
  split
  · split
    · exact .pure _
    · exact .fail rfl
  · exact .pure _
  · exact .fail rfl

theorem requestOnFlow_sparesUser
    (c : EventContext)
    (request : String → PipelineRequest) :
    SparesUser (h.requestOnFlow c request) := by
  unfold requestOnFlow
  apply SparesUser.bind (operatorNode_sparesUser _ _)
  intro node
  exact .pure _

theorem deviceRequest_sparesUser
    (c : EventContext)
    (deviceId serviceId : String) :
    SparesUser (h.deviceRequest c deviceId serviceId) := by
  unfold deviceRequest
  split
  · exact .pure _
  · apply SparesUser.bind (operatorNode_sparesUser _ _)
    intro node
    split
    · exact .pure _
    · split
      · exact .pure _
      · apply SparesUser.bind (conversions_sparesUser _)
        intro conversions
        exact .pure _

theorem sourceRequest_sparesUser
    (token : BearerToken)
    (owner label : String)
    (e : SourceEvent) :
    SparesUser (h.sourceRequest token owner label e) := by
  have hSource : SparesUser (σ := σ) (.ofExcept (expansionSource e)) := by
    unfold expansionSource
    split
    · exact .pure _
    · split
      · exact .pure _
      · exact .fail rfl
  unfold sourceRequest
  apply hSource.bind
  intro source
  split
  · apply SparesUser.bind (.attempt _)
    rintro (fault | expansion)
    · dsimp only
      split
      · exact .pure _
      · exact .fail rfl
    · apply SparesUser.bind (conversions_sparesUser _)
      intro conversions
      apply SparesUser.bind (operatorNode_sparesUser _ _)
      intro node
      exact .pure _
  · exact .pure _

theorem importRequest_sparesUser
    (c : EventContext)
    (importId : String) :
    SparesUser (h.importRequest c importId) := by
  have hCast : SparesUser (h.importCast c) := by
    unfold importCast
    split
    · exact .pure _
    · apply SparesUser.bind (conversions_sparesUser _)
      intro conversions
      exact .pure _
  unfold importRequest
  split
  · apply hCast.bind
    rintro ⟨selected, conversions⟩
    dsimp only
    split
    · exact .fail rfl
    · apply SparesUser.bind (.request _)
      intro topic
      exact requestOnFlow_sparesUser _ _
  · exact .pure _

theorem genericRequest_sparesUser
    (c : EventContext)
    (source : GenericSource) :
    SparesUser (h.genericRequest c source) := by
  have hConversions :
      ∀ selected, SparesUser (h.genericConversions c selected) := by
    intro selected
    unfold genericConversions
    split
    · exact .pure _
    · exact conversions_sparesUser _
  unfold genericRequest
  split
  · exact .pure _
  · split
    · apply SparesUser.bind (hConversions _)
      intro conversions
      exact requestOnFlow_sparesUser _ _
    · exact .pure _

/- What makes a request impossible is never that a user is missing. -/
theorem elementRequest_sparesUser
    (token : BearerToken)
    (owner deploymentId : String)
    (element : Element) :
    SparesUser (h.elementRequest token owner deploymentId element) := by
  unfold elementRequest
  split
  · exact .pure _
  · rename_i c _
    split
    · exact .pure _
    · rename_i kind _
      cases kind with
      | deviceGroup groupId =>
          change SparesUser (h.groupRequest c groupId)
          unfold groupRequest
          split
          · exact sourceRequest_sparesUser _ _ _ _
          · exact .pure _
      | deviceWithService deviceId serviceId =>
          exact deviceRequest_sparesUser c deviceId serviceId
      | deviceWithoutService deviceId =>
          change SparesUser (h.wholeDeviceRequest c deviceId)
          unfold wholeDeviceRequest
          split
          · exact sourceRequest_sparesUser _ _ _ _
          · exact .pure _
      | importInstance importId => exact importRequest_sparesUser c importId
      | generic source => exact genericRequest_sparesUser c source

theorem remove_sparesUser
    (owner deploymentId : String) :
    SparesUser (h.remove owner deploymentId) := by
  unfold remove
  apply SparesUser.bind (.request _)
  intro ps
  apply Raises.forEach
  intro p _
  apply SparesUser.bind (.request _)
  intro _
  exact .count _ _ _

theorem deployElement_sparesUser
    (token : BearerToken)
    (owner deploymentId : String)
    (element : Element) :
    SparesUser (h.deployElement token owner deploymentId element) := by
  unfold deployElement
  apply SparesUser.bind
    (elementRequest_sparesUser token owner deploymentId element)
  intro request?
  cases request? with
  | none => exact .pure ()
  | some request =>
      apply SparesUser.bind (.request _)
      intro _
      exact .count _ _ _

/- With a token for the owner, a deployment fails for other reasons only. -/
theorem deploy_sparesUser
    {owner : String}
    (hToken : Succeeds (h.tokens.userToken owner))
    (deployment : Deployment) :
    SparesUser (h.deploy owner deployment) := by
  rw [deploy_eq]
  apply SparesUser.bind (remove_sparesUser owner deployment.id)
  intro _
  apply SparesUser.bind (hToken.mapError _).raises
  intro token
  apply Raises.forEach
  intro element _
  exact deployElement_sparesUser token owner deployment.id element

/- What comes after the removal misses the user only for want of a token. -/
theorem deployEvents_of_userMissing
    {owner : String} {deployment : Deployment} {s s' : σ} {e : DeployError}
    (hRun : h.deployEvents owner deployment s = (.error e, s'))
    (hMissing : e.isUserMissing = true) :
    (h.tokens.userToken owner).mapError DeployError.auth s =
      (.error e, s') := by
  unfold deployEvents at hRun
  rcases Action.bind_eq_error_iff.mp hRun with hToken | ⟨token, s₁, -, hEach⟩
  · exact hToken
  · have hSpares :
        SparesUser
          (Action.forEach
            (h.deployElement token owner deployment.id) deployment.elements) :=
      Raises.forEach _ fun element _ =>
        deployElement_sparesUser token owner deployment.id element
    rw [hSpares s₁ e s' hEach] at hMissing
    cases hMissing

------------------------------------------------------------
-- Removals that succeed
------------------------------------------------------------

/- Pipelines that are running can be removed one after the other. -/
theorem removePipelines_succeeds
    (hLawful : h.Lawful pipelines)
    (hServes : h.engine.Serves pipelines)
    {owner : String} {ps : List EventPipeline} {s : σ}
    (hDistinct : (ps.map (·.id)).Nodup)
    (hRunning : ∀ p ∈ ps, ∃ r ∈ (pipelines s).rows, p.id = r.id.toText) :
    ∃ s', Action.forEach (h.removePipeline owner) ps s = (.ok (), s') := by
  induction ps generalizing s with
  | nil => exact ⟨s, rfl⟩
  | cons p ps ih =>
      rcases List.forall_mem_cons.mp hRunning with ⟨⟨r, hRow, hId⟩, hRest⟩
      rw [List.map_cons, List.nodup_cons] at hDistinct
      have hRemove : ∃ s₁, h.removePipeline owner p s = (.ok (), s₁) := by
        rcases hServes.remove owner hRow with ⟨s₁, hRun⟩
        rw [← hId] at hRun
        exact ⟨_, Action.bind_of_ok (Action.mapError_eq_ok_iff.mpr hRun)⟩
      rcases hRemove with ⟨s₁, hHead⟩
      have hStill :
          ∀ p' ∈ ps, ∃ r' ∈ (pipelines s₁).rows, p'.id = r'.id.toText := by
        intro p' hMem
        rcases hRest p' hMem with ⟨r', hRow', hId'⟩
        refine ⟨r', ?_, hId'⟩
        rw [removePipeline_rows hLawful hId hHead, List.mem_filter]
        refine ⟨hRow', decide_eq_true ?_⟩
        intro hSame
        apply hDistinct.1
        rw [hId, ← hSame, ← hId']
        exact List.mem_map_of_mem hMem
      rcases ih hDistinct.2 hStill with ⟨s', hTail⟩
      exact ⟨s', Action.forEach_cons_eq_ok_iff.mpr ⟨s₁, hHead, hTail⟩⟩

/- What is read from different pipelines has different ids. -/
theorem nodup_eventPipelines
    {ps : List Pipeline}
    (hListed : (ps.map (·.id)).Nodup) :
    ((ps.filterMap EventPipeline.ofPipeline?).map (·.id)).Nodup := by
  rw [List.Nodup, List.pairwise_map] at hListed ⊢
  rw [List.pairwise_filterMap]
  apply hListed.imp
  intro p p' hOther event hEvent event' hEvent' hSame
  rcases Option.map_eq_some_iff.mp hEvent with ⟨_, -, rfl⟩
  rcases Option.map_eq_some_iff.mp hEvent' with ⟨_, -, rfl⟩
  exact hOther (Uuid.toText_injective hSame)

theorem remove_succeeds
    (hLawful : h.Lawful pipelines)
    (hServes : h.engine.Serves pipelines)
    (owner deploymentId : String)
    (s : σ) :
    ∃ s', h.remove owner deploymentId s = (.ok (), s') := by
  rcases hServes.list owner s with ⟨listed, s₁, hRun⟩
  have hList :
      h.engine.eventPipelines owner s =
        (.ok (listed.filterMap EventPipeline.ofPipeline?), s₁) :=
    Action.map_eq_ok_iff.mpr ⟨listed, hRun, rfl⟩
  have hSame := (hLawful.engine.eventPipelines owner).of_eq hList
  have hDistinct := nodup_eventPipelines (hServes.listed hRun)
  generalize listed.filterMap EventPipeline.ofPipeline? = ps at hList hDistinct
  have hRunning :
      ∀ p ∈ ps.filter (fun p => p.description.deploymentId = deploymentId),
        ∃ r ∈ (pipelines s₁).rows, p.id = r.id.toText := by
    intro p hMem
    rcases (hLawful.engine.mem_eventPipelines hList p).mp
      (List.mem_of_mem_filter hMem) with
      ⟨r, hRow, -, hEvent⟩
    rw [hSame]
    exact ⟨r, hRow, (PipelineRow.event?_eq_some_iff.mp hEvent).2.1⟩
  rw [remove, Action.bind_of_ok (Action.mapError_eq_ok_iff.mpr hList)]
  exact
    removePipelines_succeeds hLawful hServes
      (hDistinct.sublist (List.filter_sublist.map _)) hRunning

------------------------------------------------------------
-- Deployments that succeed
------------------------------------------------------------

/- As long as there is an id left, a pipeline can be created. -/
theorem create_succeeds
    (hServes : h.engine.Serves pipelines)
    {ids : List Uuid} {s : σ}
    (hIds : ids.Nodup)
    (hMore : (pipelines s).rows.length < ids.length)
    (token : BearerToken)
    (owner : String)
    (request : PipelineRequest) :
    ∃ s', h.create token owner request s = (.ok (), s') := by
  rcases RunningPipelines.exists_unused hIds hMore with ⟨id, -, hLeft⟩
  rcases hServes.create token owner request ⟨id, hLeft⟩ with ⟨p, s₁, hRun⟩
  exact ⟨_, Action.bind_of_ok (Action.mapError_eq_ok_iff.mpr hRun)⟩

/-
  The answers are the same in every state, so that a request
  can be made for each element even though pipelines have
  been created in between.
-/
theorem deployElements_of_plan
    (hLawful : h.Lawful pipelines)
    (hServes : h.engine.Serves pipelines)
    (hAnswers : h.Asks (Action.AnswersFrom fun _ => ()))
    {token : BearerToken} {owner deploymentId : String}
    {elements : List Element}
    {requests : List PipelineRequest} {s : σ}
    (hPlan :
      (Action.collect
        (fun e => Option.toList <$> h.elementRequest token owner deploymentId e)
        elements s).1 = .ok requests)
    {ids : List Uuid}
    (hIds : ids.Nodup)
    (hRoom : (pipelines s).rows.length + requests.length ≤ ids.length) :
    ∃ s', Action.forEach (h.deployElement token owner deploymentId) elements s =
      (.ok (), s') := by
  induction elements generalizing s requests with
  | nil => exact ⟨s, rfl⟩
  | cons element elements ih =>
      have hP : Action.Closed (Action.AnswersFrom fun _ : σ => ()) :=
        Action.AnswersFrom.closed
      have hRest :
          Action.AnswersFrom (fun _ : σ => ())
            (Action.collect
              (fun e => Option.toList <$>
                h.elementRequest token owner deploymentId e) elements) :=
        hP.collect _ fun e _ =>
          hP.map _ (hAnswers.elementRequest hP token owner deploymentId e)
      rcases Action.bind_eq_ok_iff.mp (Prod.ext hPlan rfl) with
        ⟨_, s₁, hFirst, hLater⟩
      rcases Action.bind_eq_ok_iff.mp hLater with ⟨more, s₂, hMore, hEnd⟩
      rcases Action.map_eq_ok_iff.mp hFirst with ⟨request?, hAsk, rfl⟩
      have hKeeps :=
        (hLawful.asks.elementRequest Keeps.closed
          token owner deploymentId element).of_eq hAsk
      have hLength :
          requests.length = request?.toList.length + more.length := by
        rw [← List.length_append]
        exact congrArg List.length (Except.ok.inj (congrArg Prod.fst hEnd)).symm
      rw [hLength, ← hKeeps] at hRoom
      -- whatever is created, the rest of the plan is the same in the end
      have hContinue :
          ∀ s₃, h.deployElement token owner deploymentId element s =
            (.ok (), s₃) →
            (pipelines s₃).rows.length =
              (pipelines s₁).rows.length + request?.toList.length →
              ∃ s',
                Action.forEach (h.deployElement token owner deploymentId)
                  (element :: elements) s =
                  (.ok (), s') := by
        intro s₃ hHead hRows
        have hMore₃ := (hRest s₃ s₁ rfl).1.trans (congrArg Prod.fst hMore)
        rw [← Nat.add_assoc, ← hRows] at hRoom
        rcases ih hMore₃ hRoom with ⟨s', hTail⟩
        exact ⟨s', Action.forEach_cons_eq_ok_iff.mpr ⟨s₃, hHead, hTail⟩⟩
      cases request? with
      | none =>
          apply hContinue s₁
          · rw [deployElement, Action.bind_of_ok hAsk]
            rfl
          · rfl
      | some request =>
          have hLess : (pipelines s₁).rows.length < ids.length := by
            change _ + (1 + more.length) ≤ _ at hRoom
            omega
          rcases create_succeeds hServes hIds hLess token owner request with
            ⟨s₃, hCreate⟩
          apply hContinue s₃
          · rw [deployElement, Action.bind_of_ok hAsk]
            exact hCreate
          · rcases create_rows hLawful hCreate with ⟨r, hRows, -⟩
            rw [hRows, List.length_append]
            rfl

/-
  A deployment that can be planned succeeds, as long as
  there are enough ids.
-/
theorem deploy_of_plan
    (hLawful : h.Lawful pipelines)
    (hServes : h.engine.Serves pipelines)
    (hAnswers : h.Asks (Action.AnswersFrom fun _ => ()))
    {owner : String} {deployment : Deployment} {token : BearerToken}
    {requests : List PipelineRequest} {s : σ}
    (hPlan : ∀ t, (h.plan owner deployment t).1 = .ok (token, requests))
    {ids : List Uuid}
    (hIds : ids.Nodup)
    (hRoom :
      ((pipelines s).besides owner deployment.id).length + requests.length ≤
        ids.length) :
    ∃ s', h.deploy owner deployment s = (.ok (), s') := by
  rcases remove_succeeds hLawful hServes owner deployment.id s with
    ⟨s₁, hRemove⟩
  rcases Action.bind_eq_ok_iff.mp (Prod.ext (hPlan s₁) rfl) with
    ⟨token', s₂, hToken, hRest⟩
  rcases Action.bind_eq_ok_iff.mp hRest with ⟨requests', s₃, hCollect, hEnd⟩
  cases hEnd
  have hTokenRun := Action.mapError_eq_ok_iff.mp hToken
  have hRoom₂ : (pipelines s₂).rows.length + requests.length ≤ ids.length := by
    rw [(hLawful.asks.userToken owner).of_eq hTokenRun,
      remove_rows hLawful hRemove]
    exact hRoom
  rcases deployElements_of_plan hLawful hServes hAnswers
    (congrArg Prod.fst hCollect) hIds
    hRoom₂ with ⟨s', hEach⟩
  refine ⟨s', ?_⟩
  rw [deploy, Action.bind_of_ok hRemove, Action.bind_of_ok hToken]
  exact hEach

/- What is created from one plan has the same content, whatever its ids are. -/
theorem map_content_eq
    {owner deploymentId : String} {token : BearerToken}
    {created : List PipelineRow}
    (hCreated : ∀ r ∈ created, r.isOf owner deploymentId = true ∧
      r.token = token) :
    created.map PipelineRow.content =
      (created.map (·.request)).map fun request => (owner, token, request) := by
  rw [List.map_map]
  apply List.map_congr_left
  intro r hMem
  rcases hCreated r hMem with ⟨hIsOf, hToken⟩
  rw [PipelineRow.content, (PipelineRow.isOf_iff.mp hIsOf).1, hToken]
  rfl

/- Without a view of the state there is nothing that could have changed. -/
theorem Asks.answersFrom
    (hAnswers : h.Asks (Action.AnswersFrom fun _ => ())) :
    h.AnswersFrom fun _ => () where
  asks := hAnswers
  list _ _ := rfl
  create _ _ _ _ := rfl
  remove _ _ _ := rfl
  count _ _ _ := rfl

/-
  Where answers are fixed, what a deployment creates is its
  plan in every state.
-/
theorem deploy_planned
    (hLawful : h.Lawful pipelines)
    (hAnswers : h.Asks (Action.AnswersFrom fun _ => ()))
    {owner : String} {deployment : Deployment} {s s' : σ}
    (hRun : h.deploy owner deployment s = (.ok (), s')) :
    ∃ token created,
      (pipelines s').rows =
        (pipelines s).besides owner deployment.id ++ created ∧
        (∀ r ∈ created, r.isOf owner deployment.id = true ∧ r.token = token) ∧
        ∀ t, (h.plan owner deployment t).1 =
          .ok (token, created.map (·.request)) := by
  unfold deploy at hRun
  rcases Action.bind_eq_ok_iff.mp hRun with ⟨_, s₁, hRemove, hRest⟩
  rcases Action.bind_eq_ok_iff.mp hRest with ⟨token, s₂, hToken, hEach⟩
  rw [Action.mapError_eq_ok_iff] at hToken
  rcases deployElements_creation hLawful hEach with ⟨created, hCreation⟩
  refine ⟨token, created, ?_,
    fun r hRow => ⟨hCreation.isOf r hRow, hCreation.token_eq r hRow⟩,
    fun t => ?_⟩
  · rw [hCreation.rows, (hLawful.asks.userToken owner).of_eq hToken,
      remove_rows hLawful hRemove]
    rfl
  · rcases (hAnswers.userToken owner).of_eq (t := t) hToken rfl with
      ⟨t₁, hTokenAgain, -⟩
    rcases hCreation.asked _ hAnswers.answersFrom t₁ rfl with ⟨t₂, hAsked, -⟩
    rw [plan, Action.bind_of_ok (Action.mapError_eq_ok_iff.mpr hTokenAgain),
      Action.bind_of_ok hAsked]
    rfl

/- What two deployments have created has the same content. -/
theorem deploy_created_agrees
    (hLawful : h.Lawful pipelines)
    (hAnswers : h.Asks (Action.AnswersFrom fun _ => ()))
    {owner : String} {deployment : Deployment} {s s' t t' : σ}
    (hRun : h.deploy owner deployment s = (.ok (), s'))
    (hRun' : h.deploy owner deployment t = (.ok (), t')) :
    ∃ created created',
      (pipelines s').rows =
        (pipelines s).besides owner deployment.id ++ created ∧
        (pipelines t').rows =
          (pipelines t).besides owner deployment.id ++ created' ∧
        (∀ r ∈ created, r.isOf owner deployment.id = true) ∧
        (∀ r ∈ created', r.isOf owner deployment.id = true) ∧
        created.map PipelineRow.content = created'.map PipelineRow.content := by
  rcases deploy_planned hLawful hAnswers hRun with
    ⟨token, created, hRows, hCreated, hPlan⟩
  rcases deploy_planned hLawful hAnswers hRun' with
    ⟨token', created', hRows', hCreated', hPlan'⟩
  refine
    ⟨created, created', hRows, hRows', fun r hRow => (hCreated r hRow).1,
      fun r hRow => (hCreated' r hRow).1, ?_⟩
  have hSame := (hPlan s).symm.trans (hPlan' s)
  rw [Except.ok.injEq, Prod.mk.injEq] at hSame
  rcases hSame with ⟨rfl, hRequests⟩
  rw [map_content_eq hCreated, map_content_eq hCreated', hRequests]

/-
  A deployment that has succeeded in one state succeeds in
  any other in which the other pipelines are the same, and
  leaves the same up to the ids of the new pipelines.
-/
theorem deploy_agrees
    (hLawful : h.Lawful pipelines)
    (hServes : h.engine.Serves pipelines)
    (hAnswers : h.Asks (Action.AnswersFrom fun _ => ()))
    {owner : String} {deployment : Deployment} {s t t' : σ}
    (hDeploy : h.deploy owner deployment t = (.ok (), t'))
    (hSame :
      (pipelines s).besides owner deployment.id =
        (pipelines t).besides owner deployment.id) :
    ∃ s',
      h.deploy owner deployment s = (.ok (), s') ∧
        (pipelines s').rows.map PipelineRow.content =
          (pipelines t').rows.map PipelineRow.content := by
  rcases deploy_planned hLawful hAnswers hDeploy with
    ⟨token, planned, hPlanned, -, hPlan⟩
  -- the ids that are in use in the end are enough
  have hRoom :
      ((pipelines s).besides owner deployment.id).length +
          (planned.map (·.request)).length ≤
        ((pipelines t').rows.map (·.id)).length := by
    apply Nat.le_of_eq
    rw [hSame, List.length_map, List.length_map, hPlanned, List.length_append]
  rcases deploy_of_plan hLawful hServes hAnswers hPlan
    (pipelines t').distinct hRoom with
    ⟨s', hRun⟩
  rcases deploy_created_agrees hLawful hAnswers hRun hDeploy with
    ⟨created, created', hRows, hRows', -, -, hContent⟩
  refine ⟨s', hRun, ?_⟩
  rw [hRows, hRows', List.map_append, List.map_append, hSame, hContent]

end AnalyticsHandler

end ProcessEvents
