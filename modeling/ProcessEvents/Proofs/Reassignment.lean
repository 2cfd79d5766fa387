import ProcessEvents.Proofs.Deployer

/-
  A deployment may be deployed again by another user. What is
  stored under its id is replaced then, whoever has deployed
  it before. Of the pipelines, only those of the new owner
  are: the pipelines of the earlier one stay.

  Key definitions include:
    * `RunningPipelines.contentOf`
    * `Deployer.AnswersAlike`

  Key theorems include:
    * `RunningPipelines.contentOf_of_rows`
    * `Deployer.deploy_contentOf_agrees`, `Deployer.deploy_contentOf_other`
    * `Deployer.reassignment_agrees_iff`
-/

namespace ProcessEvents

variable {σ : Type}

------------------------------------------------------------
-- Pipelines of one owner
------------------------------------------------------------

/- A pipeline has one owner. -/
theorem PipelineRow.isOf_other
    {owner deploymentId other : String} {r : PipelineRow}
    (hIsOf : r.isOf owner deploymentId = true)
    (hOther : other ≠ owner) :
    r.isOf other deploymentId = false := by
  rw [Bool.eq_false_iff]
  intro hToo
  exact hOther ((isOf_iff.mp hToo).1.symm.trans (isOf_iff.mp hIsOf).1)

namespace RunningPipelines

variable {p p' : RunningPipelines} {owner deploymentId : String}
  {created : List PipelineRow}

/- What the owner's pipelines for a deployment run, whatever their ids are. -/
def contentOf
    (p : RunningPipelines)
    (owner deploymentId : String) :
      List (String × BearerToken × PipelineRequest) :=
  (p.rows.filter (·.isOf owner deploymentId)).map PipelineRow.content

/-
  Where the owner's pipelines have been replaced, the others
  run what they have run.
-/
theorem contentOf_of_rows
    (hRows : p'.rows = p.besides owner deploymentId ++ created)
    (hIsOf : ∀ r ∈ created, r.isOf owner deploymentId = true)
    (other : String) :
    p'.contentOf other deploymentId =
      if other = owner then created.map PipelineRow.content
      else p.contentOf other deploymentId := by
  rw [contentOf, hRows, List.filter_append, besides, List.filter_filter]
  by_cases hOwn : other = owner
  · subst hOwn
    have hNone :
        (p.rows.filter fun r =>
          r.isOf other deploymentId && !r.isOf other deploymentId) = [] := by
      apply List.filter_eq_nil_iff.mpr
      intro r _
      rw [Bool.and_not_self]
      exact Bool.false_ne_true
    rw [if_pos rfl, hNone, List.filter_eq_self.mpr hIsOf, List.nil_append]
  · have hNew : created.filter (·.isOf other deploymentId) = [] := by
      apply List.filter_eq_nil_iff.mpr
      intro r hRow
      rw [PipelineRow.isOf_other (hIsOf r hRow) hOwn]
      exact Bool.false_ne_true
    have hOld :
        (p.rows.filter fun r =>
          r.isOf other deploymentId && !r.isOf owner deploymentId) =
          p.rows.filter (·.isOf other deploymentId) := by
      apply List.filter_congr
      intro r _
      rcases hHere : r.isOf owner deploymentId with _ | _
      · rw [Bool.not_false, Bool.and_true]
      · rw [PipelineRow.isOf_other hHere hOwn, Bool.false_and]
    rw [if_neg hOwn, hNew, hOld, List.append_nil, contentOf]

end RunningPipelines

------------------------------------------------------------
-- Deployments of one owner
------------------------------------------------------------

namespace Deployer

/- What is looked up has an answer of its own, whatever is running or stored. -/
structure AnswersAlike
    (v : Deployer σ) : Prop where
  analytics : v.analytics.Asks (Action.AnswersFrom fun _ => ())
  conditional : v.conditional.describer.Asks (Action.AnswersFrom fun _ => ())

variable {v : Deployer σ} {held : Holdings σ}
variable {owner : String} {deployment : Deployment} {s s' t t' : σ}

/- Besides the pipelines of others, there are those that have been created. -/
theorem deploy_creates
    (hOrderly : v.Orderly held)
    (hRun : v.dispatcher.deploy owner deployment s = (.ok (), s')) :
    ∃ created,
      (held.pipelines s').rows =
        (held.pipelines s).besides owner deployment.id ++ created ∧
        ∀ r ∈ created, r.isOf owner deployment.id = true := by
  rcases deploy_parts hOrderly hRun with ⟨⟨a, a', hDeploy, hBefore, hAfter⟩, -⟩
  rcases AnalyticsHandler.deploy_of_isDone hOrderly.analytics hDeploy .ok with
    ⟨created, hRows, hIsOf, -⟩
  rw [hAfter, ← hBefore]
  exact ⟨created, hRows, hIsOf⟩

/- Two deployments of one owner leave the same for it, wherever they start. -/
theorem deploy_contentOf_agrees
    (hOrderly : v.Orderly held)
    (hAnswers : v.AnswersAlike)
    (hRun : v.dispatcher.deploy owner deployment s = (.ok (), s'))
    (hRun' : v.dispatcher.deploy owner deployment t = (.ok (), t')) :
    (held.pipelines s').contentOf owner deployment.id =
      (held.pipelines t').contentOf owner deployment.id := by
  rcases deploy_parts hOrderly hRun with ⟨⟨a, a', hDeploy, -, hAfter⟩, -⟩
  rcases deploy_parts hOrderly hRun' with ⟨⟨b, b', hDeploy', -, hAfter'⟩, -⟩
  rcases AnalyticsHandler.deploy_created_agrees
    hOrderly.analytics hAnswers.analytics hDeploy
      hDeploy' with
    ⟨created, created', hRows, hRows', hIsOf, hIsOf', hContent⟩
  rw [hAfter, hAfter', RunningPipelines.contentOf_of_rows hRows hIsOf,
    RunningPipelines.contentOf_of_rows hRows' hIsOf', if_pos rfl, if_pos rfl,
    hContent]

/- The pipelines of others for the same deployment are left alone. -/
theorem deploy_contentOf_other
    (hOrderly : v.Orderly held)
    (hRun : v.dispatcher.deploy owner deployment s = (.ok (), s'))
    {other : String}
    (hOther : other ≠ owner) :
    (held.pipelines s').contentOf other deployment.id =
      (held.pipelines s).contentOf other deployment.id := by
  rcases deploy_creates hOrderly hRun with ⟨created, hRows, hIsOf⟩
  rw [RunningPipelines.contentOf_of_rows hRows hIsOf, if_neg hOther]

/- What is stored for the deployment is the same as well. -/
theorem deploy_of_agrees
    (hOrderly : v.Orderly held)
    (hAnswers : v.AnswersAlike)
    (hRun : v.dispatcher.deploy owner deployment s = (.ok (), s'))
    (hRun' : v.dispatcher.deploy owner deployment t = (.ok (), t')) :
    (held.stored s').of deployment.id = (held.stored t').of deployment.id := by
  rcases deploy_parts hOrderly hRun with ⟨-, c, c', hDeploy, -, hAfter⟩
  rcases deploy_parts hOrderly hRun' with ⟨-, d, d', hDeploy', -, hAfter'⟩
  rw [hAfter, hAfter']
  exact
    ConditionalHandler.deploy_of_agrees hOrderly.conditional
      (hAnswers.conditional.describe Action.AnswersFrom.closed.toSequential
        owner deployment)
      hDeploy hDeploy'

------------------------------------------------------------
-- Deployments of two owners
------------------------------------------------------------

/-
  One user deploys under an id, and another one does after
  that. Under the id, the same is stored as if the second
  user had been the only one. Each user has the same
  pipelines, up to their ids, exactly if both users are one,
  or if the first deployment has not changed what the first
  user's pipelines for it run.
-/
theorem reassignment_agrees_iff
    (hOrderly : v.Orderly held)
    (hAnswers : v.AnswersAlike)
    {first second : String} {earlier later : Deployment} {s s₁ s₂ t : σ}
    (hId : earlier.id = later.id)
    (hEarlier : v.dispatcher.deploy first earlier s = (.ok (), s₁))
    (hLater : v.dispatcher.deploy second later s₁ = (.ok (), s₂))
    (hAlone : v.dispatcher.deploy second later s = (.ok (), t)) :
    (held.stored s₂).of later.id = (held.stored t).of later.id ∧
      ((∀ owner,
          (held.pipelines s₂).contentOf owner later.id =
            (held.pipelines t).contentOf owner later.id) ↔
        first = second ∨
          (held.pipelines s₁).contentOf first later.id =
            (held.pipelines s).contentOf first later.id) := by
  refine ⟨deploy_of_agrees hOrderly hAnswers hLater hAlone, ?_⟩
  constructor
  · intro hSame
    by_cases hUsers : first = second
    · exact Or.inl hUsers
    · right
      rw [← deploy_contentOf_other hOrderly hLater hUsers, hSame first,
        deploy_contentOf_other hOrderly hAlone hUsers]
  · intro hFirst owner
    by_cases hSecond : owner = second
    · rw [hSecond]
      exact deploy_contentOf_agrees hOrderly hAnswers hLater hAlone
    · rw [deploy_contentOf_other hOrderly hLater hSecond,
        deploy_contentOf_other hOrderly hAlone hSecond]
      by_cases hOwner : owner = first
      · rw [hOwner] at hSecond ⊢
        exact hFirst.resolve_left hSecond
      · rw [← hId]
        exact deploy_contentOf_other hOrderly hEarlier hOwner

end Deployer

------------------------------------------------------------
-- Two users on a backend
------------------------------------------------------------

theorem Backend.deployer_answersAlike
    (token : Except AuthError BearerToken)
    (done : Option (DoneChannel Backend)) :
    (deployer token done).AnswersAlike where
  analytics :=
    AnalyticsHandler.onEngine_asks Action.AnswersFrom.closed.toSequential
      (Action.AnswersFrom.closed.ofExcept token) fun _ _ _ _ _ => ⟨rfl, rfl⟩
  conditional :=
    ConditionalHandler.onStores_asks Action.AnswersFrom.closed.toSequential
      token

namespace Deployer

/- What the deployment of a user comes to. -/
def deployedBy
    (owner : String)
    (deployment : Deployment)
    (s : Backend) : Except DeployError Unit × Backend :=
  (Backend.deployer (.ok ⟨"Bearer"⟩) none).dispatcher.deploy owner deployment s

theorem reassignment_agrees_iff_occupied :
    ∃ s₁ s₂ t,
      deployedBy "u2" ConditionalHandler.groupDeployment occupied =
        (.ok (), s₁) ∧
        deployedBy "u1" mixedDeployment s₁ = (.ok (), s₂) ∧
        deployedBy "u1" mixedDeployment occupied = (.ok (), t) ∧
        s₂.tables.stored.of "d1" = t.tables.stored.of "d1" ∧
        ∀ owner, s₂.running.contentOf owner "d1" =
          t.running.contentOf owner "d1" := by
  have hFirst :
      (deployedBy "u2" ConditionalHandler.groupDeployment occupied).1.isOk =
        true := by
    decide +kernel
  have hSecond :
      (deployedBy "u1" mixedDeployment
        (deployedBy "u2" ConditionalHandler.groupDeployment
          occupied).2).1.isOk = true := by
    decide +kernel
  have hThird : (deployedBy "u1" mixedDeployment occupied).1.isOk = true := by
    decide +kernel
  -- the earlier user has had no pipelines, and has got none
  have hNone :
      ((deployedBy "u2" ConditionalHandler.groupDeployment
          occupied).2.running.contentOf "u2" "d1").isEmpty = true ∧
        (occupied.running.contentOf "u2" "d1").isEmpty = true := by
    decide +kernel
  have hEarlier := Action.eq_ok_of_isOk hFirst
  generalize
    (deployedBy "u2" ConditionalHandler.groupDeployment occupied).2 = s₁
    at hEarlier hSecond hNone
  have hLater := Action.eq_ok_of_isOk hSecond
  generalize (deployedBy "u1" mixedDeployment s₁).2 = s₂ at hLater
  have hAlone := Action.eq_ok_of_isOk hThird
  generalize (deployedBy "u1" mixedDeployment occupied).2 = t at hAlone
  have hId : ConditionalHandler.groupDeployment.id = mixedDeployment.id := rfl
  have hSame :
      s₁.running.contentOf "u2" "d1" = occupied.running.contentOf "u2" "d1" :=
    (List.isEmpty_iff.mp hNone.1).trans (List.isEmpty_iff.mp hNone.2).symm
  rcases reassignment_agrees_iff (Backend.deployer_orderly _)
    (Backend.deployer_answersAlike _ none)
      hId hEarlier hLater hAlone with
    ⟨hStored, hPipelines⟩
  exact ⟨s₁, s₂, t, hEarlier, hLater, hAlone,
    hStored, hPipelines.mpr (Or.inr hSame)⟩

/-
  Two users deploy under one id, where nothing has been
  before. The pipeline of the first one stays.
-/
theorem reassignment_leaves_first :
    ∃ s₁ s₂ t,
      deployedBy "u1" mixedDeployment vacant = (.ok (), s₁) ∧
        deployedBy "u2" mixedDeployment s₁ = (.ok (), s₂) ∧
        deployedBy "u2" mixedDeployment vacant = (.ok (), t) ∧
        (s₂.running.contentOf "u1" "d1").length = 1 ∧
        t.running.contentOf "u1" "d1" = [] := by
  have hFirst : (deployedBy "u1" mixedDeployment vacant).1.isOk = true := by
    decide +kernel
  have hSecond :
      (deployedBy "u2" mixedDeployment
        (deployedBy "u1" mixedDeployment vacant).2).1.isOk =
        true := by
    decide +kernel
  have hThird : (deployedBy "u2" mixedDeployment vacant).1.isOk = true := by
    decide +kernel
  have hOne :
      (deployedBy "u1" mixedDeployment vacant).2.running.rows.length = 1 := by
    decide +kernel
  have hEarlier := Action.eq_ok_of_isOk hFirst
  generalize
    (deployedBy "u1" mixedDeployment vacant).2 = s₁ at hEarlier hSecond hOne
  have hLater := Action.eq_ok_of_isOk hSecond
  generalize (deployedBy "u2" mixedDeployment s₁).2 = s₂ at hLater
  have hAlone := Action.eq_ok_of_isOk hThird
  generalize (deployedBy "u2" mixedDeployment vacant).2 = t at hAlone
  have hOrderly := Backend.deployer_orderly (.ok ⟨"Bearer"⟩)
  have hStays :
      s₂.running.contentOf "u1" "d1" = s₁.running.contentOf "u1" "d1" :=
    deploy_contentOf_other hOrderly hLater (by decide)
  have hNone :
      t.running.contentOf "u1" "d1" = vacant.running.contentOf "u1" "d1" :=
    deploy_contentOf_other hOrderly hAlone (by decide)
  rcases deploy_creates hOrderly hEarlier with ⟨created, hRows, hIsOf⟩
  have hCreated : s₁.running.rows = created := hRows
  have hOwn := RunningPipelines.contentOf_of_rows hRows hIsOf "u1"
  refine ⟨s₁, s₂, t, hEarlier, hLater, hAlone, ?_, hNone⟩
  rw [hStays, ← hOne, hCreated]
  exact (congrArg List.length hOwn).trans (List.length_map _)

end Deployer

end ProcessEvents
