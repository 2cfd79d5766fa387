import ProcessEvents.Proofs.Analytics.Accounting

/-
  A flow that has not exactly one operator ends a deployment.
  What has been created before stays, as elements are deployed
  one by one, so that nothing is left exactly if all elements
  in front have been passed over.

  Key definitions include:
    * `AnalyticsHandler.onFlows`
    * `AnalyticsHandler.importsDeployment`

  Key theorems include:
    * `AnalyticsHandler.isOf_of_accounts`
    * `AnalyticsHandler.creations_eq_nil_iff_of_accounts`
    * `AnalyticsHandler.deploy_flowOperatorCount_iff`
-/

namespace ProcessEvents

variable {σ : Type}

open ProcessEvents.Action (notesEach)

namespace AnalyticsHandler

variable
    {h : AnalyticsHandler σ} {pipelines : σ → RunningPipelines}
    {token : BearerToken} {owner deploymentId : String}

/- What has been created for elements is the owner's for the deployment. -/
theorem isOf_of_accounts
    {elements : List Element} {parts : List (List Note)}
    {created : List PipelineRow}
    (hAccounts :
      List.Forall₂ (h.Accounts token owner deploymentId) elements parts)
    (hCreated : created.map PipelineRow.content = creations parts.flatten) :
    ∀ r ∈ created, r.isOf owner deploymentId = true := by
  induction hAccounts generalizing created with
  | nil =>
      rw [List.map_eq_nil_iff.mp hCreated]
      exact nofun
  | @cons element notes elements parts hElement _ ih =>
      rw [List.flatten_cons, creations_append] at hCreated
      rcases List.map_eq_append_iff.mp hCreated with
        ⟨first, more, rfl, hFirst, hMore⟩
      rw [List.forall_mem_append]
      refine ⟨?_, ih hMore⟩
      cases hElement with
      | passedOver _ hNone =>
          rw [hNone, List.map_eq_nil_iff] at hFirst
          rw [hFirst]
          exact nofun
      | created _ _ hOne hCarries =>
          intro r hRow
          have hContent := List.mem_map_of_mem (f := PipelineRow.content) hRow
          rw [hFirst, hOne, List.mem_singleton, PipelineRow.content,
            Prod.mk.injEq, Prod.mk.injEq] at hContent
          rcases hContent with ⟨hOwner, -, hRequest⟩
          rcases hCarries.description with ⟨d, hParse, -, hDeployment⟩
          rw [PipelineRow.isOf_iff, hRequest]
          exact ⟨hOwner, d, hParse, hDeployment⟩

/- Nothing is created exactly if all elements are passed over. -/
theorem creations_eq_nil_iff_of_accounts
    {elements : List Element} {parts : List (List Note)}
    (hAccounts :
      List.Forall₂ (h.Accounts token owner deploymentId) elements parts) :
    creations parts.flatten = [] ↔
      List.Forall₂ (h.IsPassedOver owner deploymentId) elements parts := by
  induction hAccounts with
  | nil => exact ⟨fun _ => .nil, fun _ => rfl⟩
  | cons hElement _ ih =>
      rw [List.flatten_cons, creations_append, List.append_eq_nil_iff,
        hElement.creations_eq_nil_iff, ih, List.forall₂_cons]

/- Elements that have been served have had no reason to stop. -/
theorem heeds_of_deployed
    {elements : List Element} {parts : List (List Note)}
    (hDeployed :
      List.Forall₂
        (fun x notes => h.Deployed token owner deploymentId x (.ok ()) notes)
        elements parts) :
    Heeds (.ok () : Except DeployError Unit) parts.flatten := by
  induction hDeployed with
  | nil => exact .nil
  | cons hElement _ ih =>
      rw [List.flatten_cons]
      exact hElement.heeds.append ih

/- A deployment that comes to a flow has got its token. -/
theorem prepare_of_flow
    {deployment : Deployment} {userId flowId : String}
    {answer : Except RequestError (List FlowCell)} {s : σ}
    (hNote :
      .flow userId flowId answer ∈
        (h.recorded.deploy owner deployment (s, [])).2.2) :
    ∃ token s₁, h.prepare owner deployment.id s = (.ok token, s₁) := by
  rcases hPrepare : h.prepare owner deployment.id s with ⟨e | token, s₁⟩
  · rcases (h.prepare_records owner deployment.id).run s [] with ⟨hRun, hIdles⟩
    rw [hPrepare] at hRun hIdles
    rw [deploy_eq_prepare, Action.bind_of_error hRun] at hNote
    cases hIdles.idle _ hNote
  · exact ⟨token, s₁, rfl⟩

/- It ends at the element whose flow has not exactly one operator. -/
theorem deploy_stops_at_flow
    {deployment : Deployment} {token : BearerToken} {userId flowId : String}
    {cells : List FlowCell} {s s₁ : σ}
    (hPrepare : h.prepare owner deployment.id s = (.ok token, s₁))
    (hNote :
      .flow userId flowId (.ok cells) ∈
        (h.recorded.deploy owner deployment (s, [])).2.2)
    (hCount : cells.length ≠ 1) :
    (h.deploy owner deployment s).1 = .error (.flowOperatorCount cells.length) ∧
      ∃ before element after served last,
        deployment.elements = before ++ element :: after ∧
          notesEach (h.recorded.deployElement token owner deployment.id)
              deployment.elements s₁ =
            served ++ [last] ∧
          .flow userId flowId (.ok cells) ∈ last ∧
          List.Forall₂
            (fun x notes =>
              h.Deployed token owner deployment.id x (.ok ()) notes)
            before served ∧
          h.Deployed token owner deployment.id element
            (.error (.flowOperatorCount cells.length)) last := by
  have hStop := Note.stop?_flow userId flowId hCount
  rcases (h.deploy_records owner deployment).run s [] with ⟨hRecorded, hHeeds⟩
  rcases h.deploy_run hPrepare with ⟨front, hIdle, hRun, hServes⟩
  rw [hRecorded, List.nil_append] at hNote hRun
  have hEnd := hHeeds _ hNote _ hStop
  rcases hServes.split_of_error hEnd with
    ⟨before, element, after, served, last, hElements, hParts, hBefore, hLast⟩
  refine ⟨hEnd, before, element, after, served,
    last, hElements, hParts, ?_, hBefore, hLast⟩
  -- the lookup has been made for no other element
  rw [Prod.mk.injEq, Prod.mk.injEq] at hRun
  rw [hRun.2.2, hParts, List.flatten_append, List.flatten_singleton] at hNote
  rcases List.mem_append.mp hNote with hFront | hNote
  · cases hIdle _ hFront
  · rcases List.mem_append.mp hNote with hServed | hLastNote
    · cases heeds_of_deployed hBefore _ hServed _ hStop
    · exact hLastNote

/-
  A deployment that comes to a flow without exactly one
  operator fails for it, at one of its elements. All elements
  in front are accounted for. The owner has no pipeline for
  the deployment afterwards exactly if each of them has been
  passed over.
-/
theorem deploy_flowOperatorCount_iff
    (hLawful : h.Lawful pipelines)
    {deployment : Deployment}
    {userId flowId : String} {cells : List FlowCell} {s : σ}
    (hNote :
      .flow userId flowId (.ok cells) ∈
        (h.recorded.deploy owner deployment (s, [])).2.2)
    (hCount : cells.length ≠ 1) :
    ∃ t token s₁ before element after served last,
      h.deploy owner deployment s =
        (.error (.flowOperatorCount cells.length), t) ∧
        h.prepare owner deployment.id s = (.ok token, s₁) ∧
        deployment.elements = before ++ element :: after ∧
        notesEach (h.recorded.deployElement token owner deployment.id)
            deployment.elements s₁ =
          served ++ [last] ∧
        .flow userId flowId (.ok cells) ∈ last ∧
        List.Forall₂ (h.Accounts token owner deployment.id) before served ∧
        ((∀ r ∈ (pipelines t).rows, r.isOf owner deployment.id = false) ↔
          List.Forall₂ (h.IsPassedOver owner deployment.id) before served) := by
  rcases prepare_of_flow hNote with ⟨token, s₁, hPrepare⟩
  rcases deploy_stops_at_flow hPrepare hNote hCount with
    ⟨hEnd, before, element, after, served, last,
      hElements, hParts, hNoted, hBefore, hLast⟩
  have hAccounts :
      List.Forall₂ (h.Accounts token owner deployment.id) before served :=
    hBefore.imp fun _ _ hDeployed => hDeployed.accounts rfl
  refine ⟨_, token, s₁, before, element, after,
    served, last, Prod.ext hEnd rfl, hPrepare,
    hElements, hParts, hNoted, hAccounts, ?_⟩
  have hMade :
      ∀ note ∈
          (notesEach (h.recorded.deployElement token owner deployment.id)
            deployment.elements s₁).flatten,
        note.isCreation = true → note.fault? = none := by
    apply made_of_heeds (r :=
      (.error (.flowOperatorCount cells.length) : Except DeployError Unit))
    · rw [hParts, List.flatten_append, List.flatten_singleton]
      exact (heeds_of_deployed hBefore).of_ok.append hLast.heeds
    · exact nofun
  rcases deploy_rows hLawful hPrepare hMade with ⟨created, hRows, hCreated⟩
  rw [hParts, List.flatten_append, creations_append, List.flatten_singleton,
    hLast.uncreated _ rfl, List.append_nil] at hCreated
  have hIsOf := isOf_of_accounts hAccounts hCreated
  rw [← creations_eq_nil_iff_of_accounts hAccounts, ← hCreated,
    List.map_eq_nil_iff, hRows, List.forall_mem_append]
  constructor
  · rintro ⟨-, hNone⟩
    apply List.eq_nil_iff_forall_not_mem.mpr
    intro r hRow
    have hOther := hNone r hRow
    rw [hIsOf r hRow] at hOther
    cases hOther
  · rintro rfl
    refine ⟨fun r hRow => ?_, nofun⟩
    have hOther := (List.mem_filter.mp hRow).2
    rwa [Bool.not_eq_eq_eq_not, Bool.not_true] at hOther

/- If there are more pipelines than those of others, one is the owner's. -/
theorem exists_isOf_of_more
    (hLawful : h.Lawful pipelines)
    (hCalls : h.engine.AllOrNothing pipelines)
    {deployment : Deployment} {s : σ}
    (hMore :
      ((pipelines s).besides owner deployment.id).length <
        (pipelines (h.deploy owner deployment s).2).rows.length) :
    ∃ r ∈ (pipelines (h.deploy owner deployment s).2).rows,
      r.isOf owner deployment.id = true := by
  by_contra hNone
  have hSame :
      (pipelines (h.deploy owner deployment s).2).besides owner deployment.id =
        (pipelines s).besides owner deployment.id :=
    deploy_besides hLawful hCalls owner deployment s
  have hAll :
      (pipelines (h.deploy owner deployment s).2).besides owner deployment.id =
        (pipelines (h.deploy owner deployment s).2).rows := by
    apply List.filter_eq_self.mpr
    intro r hRow
    rw [Bool.not_eq_true', Bool.eq_false_iff]
    exact fun hIsOf => hNone ⟨r, hRow, hIsOf⟩
  rw [← hSame, hAll] at hMore
  exact Nat.lt_irrefl _ hMore

------------------------------------------------------------
-- A flow with two operators
------------------------------------------------------------

/- The same as `onTable`, but for the operators of the flows. -/
def onFlows
    (operators : String → List FlowCell)
    (token : BearerToken) : AnalyticsHandler NumberedPipelines :=
  onEngine
    { NumberedPipelines.engine with
      flowInputs := fun _ flowId => return operators flowId }
    (.ok token)

theorem onFlows_lawful
    (operators : String → List FlowCell)
    (token : BearerToken) :
    (onFlows operators token).Lawful NumberedPipelines.running :=
  onEngine_lawful (NumberedPipelines.lawful.withFlows fun _ _ _ => rfl) _

theorem onFlows_calls
    (operators : String → List FlowCell)
    (token : BearerToken) :
    (onFlows operators token).engine.AllOrNothing NumberedPipelines.running :=
  NumberedPipelines.allOrNothing.withFlows

/- Of two flows, the second one has two operators. -/
def twoFlows : String → List FlowCell
  | "f1" => [{ id := "a" }]
  | _ => [{ id := "b" }, { id := "c" }]

/- An event on each of the flows. -/
def importsDeployment : Deployment :=
  { importDeployment with
    elements :=
      importDeployment.elements ++
        importDeployment.elements.map fun element =>
          { element with
            messageEvent :=
              element.messageEvent.map fun event =>
                { event with flowId := "f2", eventId := "e2" } } }

/- Whether a lookup is noted that has not found exactly one operator. -/
def hasOperators : Note → Bool
  | .flow _ _ (.ok cells) => cells.length != 1
  | _ => false

theorem of_hasOperators
    {note : Note}
    (hNote : hasOperators note = true) :
    ∃ userId flowId cells,
      note = .flow userId flowId (.ok cells) ∧ cells.length ≠ 1 := by
  match note, hNote with
  | .flow userId flowId (.ok cells), hNote =>
      exact ⟨userId, flowId, cells, rfl, bne_iff_ne.mp hNote⟩

theorem deploy_flowOperatorCount_iff_imports :
    ∃ userId flowId cells t,
      .flow userId flowId (.ok cells) ∈
          ((onFlows twoFlows ⟨"Bearer"⟩).recorded.deploy "u1" importsDeployment
            (leftovers, [])).2.2 ∧
        cells.length ≠ 1 ∧
        (onFlows twoFlows ⟨"Bearer"⟩).deploy "u1" importsDeployment leftovers =
          (.error (.flowOperatorCount cells.length), t) := by
  have hNoted :
      (((onFlows twoFlows ⟨"Bearer"⟩).recorded.deploy "u1" importsDeployment
        (leftovers, [])).2.2.any hasOperators) = true := by
    decide +kernel
  have hLawful := onFlows_lawful twoFlows ⟨"Bearer"⟩
  -- the run is not to be evaluated any further
  generalize onFlows twoFlows ⟨"Bearer"⟩ = h at hNoted hLawful ⊢
  rcases List.any_eq_true.mp hNoted with ⟨note, hMem, hNote⟩
  rcases of_hasOperators hNote with ⟨userId, flowId, cells, rfl, hCount⟩
  rcases deploy_flowOperatorCount_iff hLawful hMem hCount with
    ⟨t, _, _, _, _, _, _, _, hRun, _⟩
  exact ⟨userId, flowId, cells, t, hMem, hCount, hRun⟩

/- The number of operators that a deployment has failed for. -/
def operatorCount? : Except DeployError Unit → Option Nat
  | .error (.flowOperatorCount n) => some n
  | _ => none

theorem of_operatorCount?
    {r : Except DeployError Unit} {n : Nat}
    (hCount : operatorCount? r = some n) :
    r = .error (.flowOperatorCount n) := by
  match r, hCount with
  | .error (.flowOperatorCount m), hCount =>
      cases hCount
      rfl

/-
  The second event ends the deployment, and the pipeline of
  the first one stays.
-/
theorem deploy_flowOperatorCount_leaves_first :
    ∃ t,
      (onFlows twoFlows ⟨"Bearer"⟩).deploy "u1" importsDeployment leftovers =
          (.error (.flowOperatorCount 2), t) ∧
        ∃ r ∈ t.running.rows, r.isOf "u1" "d1" = true := by
  have hCount :
      operatorCount?
          ((onFlows twoFlows ⟨"Bearer"⟩).deploy
            "u1" importsDeployment leftovers).1 =
        some 2 := by
    decide +kernel
  have hMore :
      (leftovers.running.besides "u1" importsDeployment.id).length <
        (((onFlows twoFlows ⟨"Bearer"⟩).deploy "u1" importsDeployment
          leftovers).2.running.rows).length := by
    decide +kernel
  have hLeft := exists_isOf_of_more (onFlows_lawful twoFlows _)
    (onFlows_calls twoFlows _) hMore
  generalize onFlows twoFlows ⟨"Bearer"⟩ = h at hCount hLeft ⊢
  exact ⟨_, Prod.ext (of_operatorCount? hCount) rfl, hLeft⟩

end AnalyticsHandler

end ProcessEvents
