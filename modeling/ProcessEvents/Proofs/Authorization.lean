import ProcessEvents.Proofs.Api
import ProcessEvents.Proofs.Queries
import ProcessEvents.Proofs.Text

/-
  Over HTTP nothing is changed but by admins, who deploy and
  remove. Whoever is no admin is turned away before the body
  is looked at, so that no answer and no state tells what is
  in it. What an admin submits is either turned down as a
  whole, or handed to the dispatcher as it is.

  Key definitions include:
    * `Api.IsPut`, `Api.IsDelete`
    * `Api.IsByAdmin`
    * `Api.IsUnusable`
    * `Api.counted`
    * `Api.Consults`

  Key theorems include:
    * `Api.requireAdmin_eq_ok_iff`
    * `Api.submission_of_isUnusable`
    * `Api.handle_of_isPut`
    * `Api.putDeployment_of_submission`
    * `Api.handle_spares`
    * `Api.handle_authorizes`
-/

namespace ProcessEvents

variable {σ ω : Type}

open ProcessEvents.Action (Keeps)

------------------------------------------------------------
-- Requests
------------------------------------------------------------

namespace Api

/- A request to deploy. -/
def IsPut
    (r : Http.Request) : Prop :=
  r.method = "PUT" ∧ r.path = "/process-deployments"

/- A request to remove, which names an owner and a deployment. -/
def IsDelete
    (r : Http.Request) : Prop :=
  r.method = "DELETE" ∧
    ∃ userId deploymentId : String,
      r.path = "/process-deployments/" ++ userId ++ "/" ++ deploymentId ∧
        '/' ∉ userId.toList ∧ '/' ∉ deploymentId.toList ∧ deploymentId ≠ ""

/- The token of the request has the claims of an admin. -/
def IsByAdmin
    (r : Http.Request) : Prop :=
  ∃ claims, Claims.parse (token r) = .ok claims ∧ "admin" ∈ claims.roles

/- The body is said to be JSON. -/
def IsDeclaredJson
    (r : Http.Request) : Prop :=
  ∃ mediaType,
    (r.header? "content-type").bind MediaType.parse? = some mediaType ∧
      mediaType.isJson = true

/- Why a request to deploy has no deployment that could be deployed. -/
inductive IsUnusable (r : Http.Request) : Prop
  | undeclared
      (hType : ¬ IsDeclaredJson r)
  | tooLong
      (hLength : OwnedDeployment.bodyLimit < r.body.length)
  | undecodable {fault : BodyFault}
      (hBody : OwnedDeployment.ofBody r.body = .error fault)
  | withoutId {d : OwnedDeployment}
      (hBody : OwnedDeployment.ofBody r.body = .ok d)
      (hId : d.deployment.id = "")
  | withoutOwner {d : OwnedDeployment}
      (hBody : OwnedDeployment.ofBody r.body = .ok d)
      (hOwner : d.owner = "")

/- The state after a request to deploy has been counted with its answer. -/
def counted
    (api : Api σ)
    (status : Http.Status)
    (s : σ) : σ :=
  api.dispatcher.counters.add
    (.httpRequests "PUT" "/process-deployments" status) 1 s

variable {api : Api σ} {now : Instant} {r : Http.Request}

------------------------------------------------------------
-- Paths
------------------------------------------------------------

theorem ofPath?_of_isPut
    (hPut : IsPut r) :
    Route.ofPath? r.path = some .deployments := by
  rw [hPut.2]
  decide +kernel

/- Only one path leads to all deployments. -/
theorem path_of_deployments
    {path : String}
    (hRoute : Route.ofPath? path = some .deployments) :
    path = "/process-deployments" := by
  have hPath := Text.intercalate_parts '/' path.toList
  unfold Route.ofPath? Route.ofParts? at hRoute
  split at hRoute
  · rename_i part hParts
    split at hRoute
    all_goals cases hRoute
    rename_i hPart
    rw [hParts] at hPath
    have hText : path = "/" ++ String.ofList part := by
      rw [← String.ofList_toList (s := path), ← hPath]
      simp [List.intercalate]
    rw [hText, hPart]
    rfl
  · split at hRoute <;> cases hRoute
  · split at hRoute <;> cases hRoute
  · cases hRoute

/- The path to a deployment names its owner and itself. -/
theorem path_of_deployment
    {path : String} {userId deploymentId : List Char}
    (hRoute : Route.ofPath? path = some (.deployment userId deploymentId)) :
    path =
        "/process-deployments/" ++ String.ofList userId ++
          "/" ++ String.ofList deploymentId ∧
      '/' ∉ userId ∧ '/' ∉ deploymentId ∧ deploymentId ≠ [] := by
  have hPath := Text.intercalate_parts '/' path.toList
  have hNone : ∀ part ∈ Text.parts '/' path.toList, '/' ∉ part :=
    fun _ => Text.notMem_of_mem_parts
  unfold Route.ofPath? Route.ofParts? at hRoute
  split at hRoute
  · split at hRoute <;> cases hRoute
  · split at hRoute <;> cases hRoute
  · rename_i part _ _ hParts
    split at hRoute
    · rename_i hNames
      cases hRoute
      rw [hParts] at hPath hNone
      refine ⟨?_, hNone _ (by simp), hNone _ (by simp), hNames.2⟩
      have hText :
          path =
            "/" ++ String.ofList part ++ "/" ++ String.ofList userId ++ "/" ++
            String.ofList deploymentId := by
        rw [← String.ofList_toList (s := path), ← hPath]
        simp [List.intercalate, String.ofList_append, String.append_assoc]
      rw [hText, hNames.1]
      rfl
    · cases hRoute
  · cases hRoute

------------------------------------------------------------
-- Admins
------------------------------------------------------------

theorem requireAdmin_eq_ok_iff
    {claims : Claims} :
    requireAdmin r = .ok claims ↔
      Claims.parse (token r) = .ok claims ∧ "admin" ∈ claims.roles := by
  unfold requireAdmin
  cases hParse : Claims.parse (token r) with
  | error fault => simp
  | ok parsed =>
      dsimp only
      by_cases hAdmin : parsed.isAdmin = true
      · rw [if_pos hAdmin]
        have hRole : "admin" ∈ parsed.roles := List.contains_iff_mem.mp hAdmin
        constructor
        · intro hSame
          cases hSame
          exact ⟨rfl, hRole⟩
        · rintro ⟨hSame, -⟩
          cases hSame
          rfl
      · rw [if_neg hAdmin]
        constructor
        · nofun
        · rintro ⟨hSame, hRole⟩
          cases hSame
          exact absurd (List.contains_iff_mem.mpr hRole) hAdmin

/- There is one answer to those who are no admins. -/
theorem requireAdmin_of_not_isByAdmin
    (hOther : ¬ IsByAdmin r) :
    requireAdmin r = .error .adminRequired := by
  cases hRequire : requireAdmin r with
  | ok claims =>
      exact absurd ⟨claims, requireAdmin_eq_ok_iff.mp hRequire⟩ hOther
  | error e =>
      unfold requireAdmin at hRequire
      split at hRequire
      · cases hRequire
        rfl
      · split at hRequire
        · cases hRequire
        · cases hRequire
          rfl

------------------------------------------------------------
-- Submissions
------------------------------------------------------------

theorem ofContent_of_not_isDeclaredJson
    (hType : ¬ IsDeclaredJson r) :
    OwnedDeployment.ofContent (r.header? "content-type") r.body =
      .error .contentType := by
  unfold OwnedDeployment.ofContent
  rw [if_neg]
  intro hAny
  cases hParse : (r.header? "content-type").bind MediaType.parse? with
  | none =>
      rw [hParse] at hAny
      cases hAny
  | some mediaType =>
      rw [hParse] at hAny
      exact hType ⟨mediaType, hParse, hAny⟩

/- Once the type is right, the length is all that is checked. -/
theorem ofContent_of_isDeclaredJson
    (hType : IsDeclaredJson r) :
    OwnedDeployment.ofContent (r.header? "content-type") r.body =
      if OwnedDeployment.bodyLimit < r.body.length then .error .tooLong
      else OwnedDeployment.ofBody r.body := by
  rcases hType with ⟨mediaType, hParse, hJson⟩
  unfold OwnedDeployment.ofContent
  rw [hParse, Option.any_some, if_pos hJson]

/- A body that is refused, whatever the reason, is answered alike. -/
theorem submission_of_fault
    {fault : BodyFault}
    (hContent :
      OwnedDeployment.ofContent (r.header? "content-type") r.body =
        .error fault) :
    ∃ e, submission r = .error e ∧ e.status = .badRequest := by
  unfold submission
  rw [hContent]
  exact ⟨.body fault, rfl, rfl⟩

theorem submission_of_ofContent
    {d : OwnedDeployment}
    (hContent :
      OwnedDeployment.ofContent (r.header? "content-type") r.body = .ok d) :
    submission r =
      if d.deployment.id = "" then .error .missingDeploymentId
      else if d.owner = "" then .error .missingUserId
      else .ok d := by
  unfold submission
  rw [hContent]
  simp only [beq_iff_eq]

/- What cannot be used is turned down. -/
theorem submission_of_isUnusable
    (hUnusable : IsUnusable r) :
    ∃ e, submission r = .error e ∧ e.status = .badRequest := by
  by_cases hType : IsDeclaredJson r
  · have hContent := ofContent_of_isDeclaredJson hType
    by_cases hLength : OwnedDeployment.bodyLimit < r.body.length
    · rw [if_pos hLength] at hContent
      exact submission_of_fault hContent
    · rw [if_neg hLength] at hContent
      cases hUnusable with
      | undeclared hNot => exact absurd hType hNot
      | tooLong hLong => exact absurd hLong hLength
      | undecodable hBody =>
          exact submission_of_fault (hContent.trans hBody)
      | withoutId hBody hId =>
          rw [submission_of_ofContent (hContent.trans hBody), if_pos hId]
          exact ⟨_, rfl, rfl⟩
      | @withoutOwner d hBody hOwner =>
          rw [submission_of_ofContent (hContent.trans hBody), if_pos hOwner]
          by_cases hId : d.deployment.id = ""
          · rw [if_pos hId]
            exact ⟨_, rfl, rfl⟩
          · rw [if_neg hId]
            exact ⟨_, rfl, rfl⟩
  · exact submission_of_fault (ofContent_of_not_isDeclaredJson hType)

/- Everything else is submitted as the body tells it. -/
theorem submission_of_not_isUnusable
    (hUsable : ¬ IsUnusable r) :
    ∃ d, OwnedDeployment.ofBody r.body = .ok d ∧ submission r = .ok d := by
  have hType : IsDeclaredJson r := by
    by_contra hNot
    exact hUsable (.undeclared hNot)
  have hLength : ¬ OwnedDeployment.bodyLimit < r.body.length :=
    fun hLong => hUsable (.tooLong hLong)
  have hContent := ofContent_of_isDeclaredJson hType
  rw [if_neg hLength] at hContent
  cases hBody : OwnedDeployment.ofBody r.body with
  | error fault => exact absurd (.undecodable hBody) hUsable
  | ok d =>
      have hId : d.deployment.id ≠ "" :=
        fun hEmpty => hUsable (.withoutId hBody hEmpty)
      have hOwner : d.owner ≠ "" :=
        fun hEmpty => hUsable (.withoutOwner hBody hEmpty)
      refine ⟨d, rfl, ?_⟩
      rw [submission_of_ofContent (hContent.trans hBody), if_neg hId,
        if_neg hOwner]

------------------------------------------------------------
-- Requests to deploy
------------------------------------------------------------

/- The answer to a request with the result of what has been done for it. -/
def answerTo : Except ApiError Http.Response → Http.Response
  | .ok response => response
  | .error e => e.response

/- A request to deploy is answered by what its route does, and counted. -/
theorem handle_of_isPut
    (hPut : IsPut r)
    (now : Instant) (s : σ) :
    api.handle now r s =
      (.ok (finish r (answerTo (api.putDeployment r s).1)),
        api.counted (answerTo (api.putDeployment r s).1).status
          (api.putDeployment r s).2) := by
  have hLabel : pathLabel r = "/process-deployments" := by
    rw [pathLabel, ofPath?_of_isPut hPut]
    rfl
  have hPutOnly :
      api.answer now r =
        (do
          match ← (api.putDeployment r).attempt with
          | .ok response => return response
          | .error e => return e.response) := by
    have hOptions : ¬ (r.method == "OPTIONS") = true := by
      rw [hPut.1]
      decide
    have hAccepts : Route.deployments.accepts r.method = true := by
      rw [hPut.1]
      decide
    unfold answer
    dsimp only
    rw [if_neg hOptions, ofPath?_of_isPut hPut]
    dsimp only
    rw [if_pos hAccepts]
    rfl
  have hAnswer :
      api.answer now r s =
        (.ok (answerTo (api.putDeployment r s).1),
          (api.putDeployment r s).2) := by
    rw [hPutOnly, Action.bind_of_ok (Action.attempt_apply _ s)]
    cases (api.putDeployment r s).1 with
    | error e => rfl
    | ok response => rfl
  unfold handle
  rw [Action.bind_of_ok hAnswer, hLabel, hPut.1]
  rfl

/- Whoever is no admin is turned away before the body is looked at. -/
theorem putDeployment_of_not_isByAdmin
    (hOther : ¬ IsByAdmin r)
    (s : σ) :
    api.putDeployment r s = (.error .adminRequired, s) := by
  have hRequire :
      Action.ofExcept (requireAdmin r) s = (.error .adminRequired, s) := by
    rw [Action.ofExcept, requireAdmin_of_not_isByAdmin hOther]
  exact Action.bind_of_error hRequire

/- An admin comes as far as the submission. -/
theorem putDeployment_of_isByAdmin
    (hAdmin : IsByAdmin r)
    (s : σ) :
    api.putDeployment r s =
      (do
        let d ← .ofExcept (submission r)
        (api.dispatcher.deploy d.owner d.deployment).mapError .deploy
        return { status := .ok } : Action σ ApiError Http.Response) s := by
  rcases hAdmin with ⟨claims, hClaims⟩
  have hRequire : Action.ofExcept (requireAdmin r) s = (.ok claims, s) := by
    rw [Action.ofExcept, requireAdmin_eq_ok_iff.mpr hClaims]
  exact Action.bind_of_ok hRequire

theorem putDeployment_of_isUnusable
    (hAdmin : IsByAdmin r)
    (hUnusable : IsUnusable r)
    (s : σ) :
    ∃ e, api.putDeployment r s = (.error e, s) ∧ e.status = .badRequest := by
  rcases submission_of_isUnusable hUnusable with ⟨e, hSubmission, hStatus⟩
  refine ⟨e, ?_, hStatus⟩
  rw [putDeployment_of_isByAdmin hAdmin, hSubmission]
  rfl

/- What an admin submits is deployed as it is, and answered by how that ends. -/
theorem putDeployment_of_submission
    (hAdmin : IsByAdmin r)
    {d : OwnedDeployment}
    (hSubmission : submission r = .ok d)
    (s : σ) :
    api.putDeployment r s =
      (((api.dispatcher.deploy d.owner d.deployment s).1.mapError .deploy).map
          fun _ => { status := .ok },
        (api.dispatcher.deploy d.owner d.deployment s).2) := by
  rw [putDeployment_of_isByAdmin hAdmin, hSubmission]
  change ((api.dispatcher.deploy d.owner d.deployment).mapError
    ApiError.deploy >>= _) s = _
  rcases hDeploy : api.dispatcher.deploy d.owner d.deployment s with ⟨e | _, s'⟩
  · exact Action.bind_of_error
      (Action.mapError_eq_error_iff.mpr ⟨e, hDeploy, rfl⟩)
  · exact Action.bind_of_ok (Action.mapError_eq_ok_iff.mpr hDeploy)

------------------------------------------------------------
-- All requests
------------------------------------------------------------

/-
  The handlers are of the two kinds, and neither looking up
  what there is nor counting changes what is viewed.
-/
structure Consults
    (api : Api σ)
    (a : AnalyticsHandler σ)
    (c : ConditionalHandler σ)
    (view : σ → ω) : Prop where
  handlers : ∀ k ∈ api.dispatcher.handlers, k = a.handler ∨ k = c.handler
  list : ∀ owner, Keeps view (a.engine.list owner)
  byEvent : ∀ id, Keeps view (c.events.byEvent id)
  count : ∀ counter n s, view (api.dispatcher.counters.add counter n s) = view s

variable {a : AnalyticsHandler σ} {c : ConditionalHandler σ} {view : σ → ω}

theorem Consults.checkEvent
    (hConsults : api.Consults a c view) :
    ∀ k ∈ api.dispatcher.handlers, ∀ token id,
      Keeps view (k.checkEvent token id) := by
  have hP : Action.Closed (Keeps view) := Keeps.closed
  intro k hMem token id
  rcases hConsults.handlers k hMem with rfl | rfl
  · exact AnalyticsHandler.checkEvent_closed hP
      (fun owner => hP.map _ (hConsults.list owner)) token id
  · change Keeps view (c.checkEvent id)
    unfold ConditionalHandler.checkEvent
    apply hP.bind (hP.attempt (hConsults.byEvent id))
    rintro (e | descriptions)
    · exact hP.pure _
    · cases descriptions with
      | nil => exact hP.pure _
      | cons d ds => exact hP.pure _

theorem Consults.eventStates
    (hConsults : api.Consults a c view) :
    ∀ k ∈ api.dispatcher.handlers, ∀ token ids,
      Keeps view (k.eventStates token ids) := by
  have hP : Action.Closed (Keeps view) := Keeps.closed
  intro k hMem token ids
  rcases hConsults.handlers k hMem with rfl | rfl
  · exact
      AnalyticsHandler.eventStates_closed hP
        (fun owner => hP.map _ (hConsults.list owner)) token ids
  · change Keeps view (c.eventStates ids)
    unfold ConditionalHandler.eventStates
    apply hP.bind
    · apply hP.collect
      intro id _
      unfold ConditionalHandler.eventState
      apply hP.bind (hP.mapError _ (hConsults.byEvent id))
      intro descriptions
      exact hP.pure _
    · intro states
      exact hP.pure _

/- A request asks for a task only if an admin puts or deletes. -/
theorem isRequestedBy_authorized
    {task : DeploymentTask}
    (hTask : task.IsRequestedBy r) :
    (IsPut r ∨ IsDelete r) ∧ IsByAdmin r := by
  cases hTask with
  | put hMethod hRoute hAdmin _ =>
      exact ⟨.inl ⟨hMethod, path_of_deployments hRoute⟩,
        _, requireAdmin_eq_ok_iff.mp hAdmin⟩
  | delete hMethod hRoute _ _ hAdmin =>
      rcases path_of_deployment hRoute with ⟨hPath, hOwner, hId, hSome⟩
      refine ⟨.inr ⟨hMethod, _, _, hPath, ?_, ?_, ?_⟩,
        _, requireAdmin_eq_ok_iff.mp hAdmin⟩
      · rwa [String.toList_ofList]
      · rwa [String.toList_ofList]
      · exact fun hEmpty => hSome (String.ofList_eq_empty_iff.mp hEmpty)

/- Whoever else asks, and whatever else is asked, leaves everything as it is. -/
theorem handle_spares
    (hConsults : api.Consults a c view)
    (hOther : ¬ ((IsPut r ∨ IsDelete r) ∧ IsByAdmin r))
    (now : Instant) :
    Keeps view (api.handle now r) :=
  handle_closed Keeps.closed
    (fun counter n => Counters.keeps_count hConsults.count counter n)
    hConsults.checkEvent hConsults.eventStates
    fun _ hTask => absurd (isRequestedBy_authorized hTask) hOther

/-
  Only admins who deploy or remove change anything. Without
  the token of an admin, requests to deploy are all answered
  alike and leave the same state behind, whatever is in their
  bodies. With it, a body that cannot be used is turned down
  and nothing is changed, while any other one does what the
  dispatcher does for its owner and deployment.
-/
theorem handle_authorizes
    (hConsults : api.Consults a c view)
    (s : σ) :
    (∀ now r, view (api.handle now r s).2 ≠ view s →
      (IsPut r ∨ IsDelete r) ∧ IsByAdmin r) ∧
      (∀ now now' r r',
        IsPut r → IsPut r' → ¬ IsByAdmin r → ¬ IsByAdmin r' →
          r.headers.value? "origin" = r'.headers.value? "origin" →
            ∃ response,
              api.handle now r s = (.ok response, api.counted .unauthorized s) ∧
                api.handle now' r' s =
                  (.ok response, api.counted .unauthorized s) ∧
                response.status = .unauthorized ∧
                response.content = .text "admin token required" ∧
                view (api.counted .unauthorized s) = view s) ∧
      (∀ now r,
        IsPut r → IsByAdmin r → IsUnusable r →
          ∃ response,
            api.handle now r s = (.ok response, api.counted .badRequest s) ∧
              response.status = .badRequest ∧
              view (api.counted .badRequest s) = view s) ∧
      ∀ now r,
        IsPut r → IsByAdmin r → ¬ IsUnusable r →
          ∃ d response,
            OwnedDeployment.ofBody r.body = .ok d ∧
              api.handle now r s =
                (.ok response,
                  api.counted response.status
                    (api.dispatcher.deploy d.owner d.deployment s).2) ∧
              match (api.dispatcher.deploy d.owner d.deployment s).1 with
              | .ok () => response.status = .ok ∧ response.content = .empty
              | .error e =>
                  response.status = e.status ∧
                    response.content = .text e.message := by
  refine ⟨?_, ?_, ?_, ?_⟩
  · intro now r hChanged
    by_contra hOther
    exact hChanged (handle_spares hConsults hOther now s)
  · intro now now' r r' hPut hPut' hOther hOther' hOrigin
    have hSame : finish r' = finish r := by
      funext response
      rw [finish, finish, originHeaders, originHeaders,
        hOrigin, hPut.1, hPut'.1]
    refine ⟨finish r ApiError.adminRequired.response,
      ?_, ?_, rfl, ?_, hConsults.count _ _ _⟩
    · rw [handle_of_isPut hPut, putDeployment_of_not_isByAdmin hOther]
      rfl
    · rw [handle_of_isPut hPut', putDeployment_of_not_isByAdmin hOther', hSame]
      rfl
    · rw [finish, hPut.1]
      rfl
  · intro now r hPut hAdmin hUnusable
    rcases putDeployment_of_isUnusable hAdmin hUnusable s with
      ⟨e, hRun, hStatus⟩
    refine ⟨finish r e.response, ?_, hStatus, hConsults.count _ _ _⟩
    rw [handle_of_isPut hPut, hRun, ← hStatus]
    rfl
  · intro now r hPut hAdmin hUsable
    rcases submission_of_not_isUnusable hUsable with ⟨d, hBody, hSubmission⟩
    have hRun : api.putDeployment r s = _ :=
      putDeployment_of_submission hAdmin hSubmission s
    have hContent : ¬ (r.method == "HEAD") = true := by
      rw [hPut.1]
      decide
    refine ⟨d, finish r (answerTo (api.putDeployment r s).1), hBody, ?_, ?_⟩
    · rw [handle_of_isPut hPut, hRun]
      rfl
    · rw [finish, if_neg hContent, hRun]
      cases (api.dispatcher.deploy d.owner d.deployment s).1 with
      | error e => exact ⟨rfl, rfl⟩
      | ok _ => exact ⟨rfl, rfl⟩

/- Both handlers on a backend, as they are reached over HTTP. -/
def onBackend : Api Backend where
  dispatcher := Dispatcher.lateAnalytics
  health := {}

theorem onBackend_consults :
    onBackend.Consults (Backend.analytics (.ok ⟨"Bearer"⟩))
      (Backend.conditional (.ok ⟨"Bearer"⟩))
      id where
  handlers k hMem := by
    rcases List.mem_pair.mp hMem with rfl | rfl
    · exact .inr rfl
    · exact .inl rfl
  list _ _ := rfl
  byEvent _ _ := rfl
  count _ _ _ := rfl

/- A request to deploy with a token and a body of JSON. -/
def putRequest
    (token body : String) : Http.Request :=
  { method := "PUT"
    path := "/process-deployments"
    headers :=
      [("Authorization", token), ("Content-Type", "application/json")]
    body := Utf8.encode body.toList }

/- A token with the role of an admin. -/
def adminToken : String :=
  "Bearer e30.eyJyZWFsbV9hY2Nlc3MiOnsicm9sZXMiOlsiYWRtaW4iXX19.e30"

/- An owner with an empty deployment. -/
def ownedBody : String :=
  "\x7b\"id\":\"d1\",\"user_id\":\"u1\"\x7d"

theorem isByAdmin_adminToken
    (body : String) :
    IsByAdmin (putRequest adminToken body) := by
  have hToken : token (putRequest adminToken "") = adminToken := by
    decide +kernel
  have hClaims : Claims.parse adminToken = .ok { roles := ["admin"] } := by
    decide +kernel
  refine ⟨{ roles := ["admin"] }, ?_, List.mem_singleton.mpr rfl⟩
  rw [← hClaims, ← hToken]
  rfl

theorem not_isByAdmin_ownerToken
    (body : String) :
    ¬ IsByAdmin (putRequest Deployer.ownerToken body) := by
  have hToken :
      token (putRequest Deployer.ownerToken "") = Deployer.ownerToken := by
    decide +kernel
  have hClaims :
      Claims.parse Deployer.ownerToken = .ok { subject := "u1" } := by
    decide +kernel
  rintro ⟨claims, hParse, hRole⟩
  have hSame : Claims.parse (token (putRequest Deployer.ownerToken body)) =
      .ok { subject := "u1" } := by
    rw [← hClaims, ← hToken]
    rfl
  rw [hSame] at hParse
  cases hParse
  cases hRole

theorem not_isUnusable_ownedBody :
    ¬ IsUnusable (putRequest adminToken ownedBody) := by
  have hBody :
      (OwnedDeployment.ofBody (Utf8.encode ownedBody.toList)).toOption.map
          (fun d => (d.owner, d.deployment.id)) =
        some ("u1", "d1") := by
    decide +kernel
  rintro (hType | hLength | hFault | ⟨hDecode, hId⟩ | ⟨hDecode, hOwner⟩)
  · exact hType
      ⟨⟨"application", "json", none⟩, by decide +kernel, by decide +kernel⟩
  · have hShort : (putRequest adminToken ownedBody).body.length = 26 := by
      decide +kernel
    rw [hShort] at hLength
    exact absurd hLength (by decide)
  · rw [show OwnedDeployment.ofBody (Utf8.encode ownedBody.toList) = _ from
      hFault] at hBody
    cases hBody
  · rw [show OwnedDeployment.ofBody (Utf8.encode ownedBody.toList) = _ from
      hDecode] at hBody
    rcases Prod.mk.inj (Option.some.inj hBody) with ⟨-, hGiven⟩
    exact absurd (hGiven.symm.trans hId) (by decide)
  · rw [show OwnedDeployment.ofBody (Utf8.encode ownedBody.toList) = _ from
      hDecode] at hBody
    rcases Prod.mk.inj (Option.some.inj hBody) with ⟨hGiven, -⟩
    exact absurd (hGiven.symm.trans hOwner) (by decide)

/-
  A user who is no admin, with and without a body; an admin
  without one; and an admin who deploys.
-/
theorem handle_authorizes_onBackend :
    (∃ response,
      onBackend.handle 0 (putRequest Deployer.ownerToken ownedBody)
            Deployer.occupied =
          (.ok response, Deployer.occupied) ∧
        onBackend.handle 1 (putRequest Deployer.ownerToken "")
            Deployer.occupied =
          (.ok response, Deployer.occupied) ∧
        response.status = .unauthorized) ∧
      (∃ response,
        onBackend.handle 0 (putRequest adminToken "") Deployer.occupied =
            (.ok response, Deployer.occupied) ∧
          response.status = .badRequest) ∧
      ∃ d response,
        OwnedDeployment.ofBody (Utf8.encode ownedBody.toList) = .ok d ∧
          onBackend.handle 0 (putRequest adminToken ownedBody)
              Deployer.occupied =
            (.ok response,
              (Dispatcher.lateAnalytics.deploy d.owner d.deployment
                Deployer.occupied).2) := by
  have hPut : ∀ token body, IsPut (putRequest token body) :=
    fun _ _ => ⟨rfl, rfl⟩
  have hFault : ∃ fault, OwnedDeployment.ofBody [] = .error fault := by
    have hFails : (OwnedDeployment.ofBody []).isOk = false := by
      decide +kernel
    cases hBody : OwnedDeployment.ofBody [] with
    | error fault => exact ⟨fault, rfl⟩
    | ok d =>
        rw [hBody] at hFails
        cases hFails
  rcases hFault with ⟨_, hFault⟩
  rcases handle_authorizes onBackend_consults Deployer.occupied with
    ⟨-, hOthers, hRejected, hDeployed⟩
  refine ⟨?_, ?_, ?_⟩
  · rcases hOthers 0 1 _ _ (hPut Deployer.ownerToken ownedBody)
      (hPut Deployer.ownerToken "") (not_isByAdmin_ownerToken _)
      (not_isByAdmin_ownerToken _) rfl with
      ⟨response, hFirst, hSecond, hStatus, -⟩
    exact ⟨response, hFirst, hSecond, hStatus⟩
  · rcases hRejected 0 _ (hPut adminToken "") (isByAdmin_adminToken _)
      (.undecodable hFault) with
      ⟨response, hRun, hStatus, -⟩
    exact ⟨response, hRun, hStatus⟩
  · rcases hDeployed 0 _ (hPut adminToken ownedBody)
      (isByAdmin_adminToken _) not_isUnusable_ownedBody with
      ⟨d, response, hBody, hRun, -⟩
    exact ⟨d, response, hBody, hRun⟩

end Api

end ProcessEvents
