import ProcessEvents.Proofs.Conditional.Retry

/-
  This file tells when a deployment of conditional events
  comes to its end, and that it then leaves the same wherever
  the same has been stored for the other deployments.

  Key definitions include:
    * `ConditionalHandler.Acts`

  Key theorems include:
    * `ConditionalHandler.Acts.deploy`
    * `ConditionalHandler.Available.deploy`
    * `ConditionalHandler.deploy_others`
    * `ConditionalHandler.deploy_described`
    * `ConditionalHandler.deploy_agrees`
-/

namespace ProcessEvents

variable {σ : Type}

open ProcessEvents.Action (AnswersFrom Fixed Keeps Succeeds)

namespace ConditionalHandler

variable {h : ConditionalHandler σ} {stored : σ → StoredEvents}

/- All that the handler calls for a deployment has a property. -/
structure Acts
    (h : ConditionalHandler σ)
    (P : Action.Property σ) : Prop where
  devices : h.describer.devices.All P
  imports : h.describer.imports.All P
  userToken : ∀ owner, P (h.tokens.userToken owner)
  set : ∀ d, P (h.events.set d)
  removeByDeployment :
    ∀ deploymentId, P (h.events.removeByDeployment deploymentId)
  byDeployment : ∀ deploymentId, P (h.events.byDeployment deploymentId)
  setRow : ∀ row, P (h.index.set row)
  removeRow : ∀ deploymentId, P (h.index.remove deploymentId)
  count : ∀ c n, P (h.counters.count c n : Action σ DeployError Unit)

theorem Acts.removeEvents
    {P : Action.Property σ}
    (hActs : h.Acts P)
    (hP : Action.Closed P)
    (deploymentId : String) :
    P (h.removeEvents deploymentId) := by
  unfold ConditionalHandler.removeEvents
  apply hP.bind (hP.mapError _ (hActs.byDeployment deploymentId))
  intro removed
  apply hP.bind (hP.mapError _ (hActs.removeByDeployment deploymentId))
  intro _
  apply hP.bind (hP.mapError _ (hActs.removeRow deploymentId))
  intro _
  exact hActs.count _ _

theorem Acts.deployEvents
    {P : Action.Property σ}
    (hActs : h.Acts P)
    (hP : Action.Closed P)
    (owner : String)
    (deployment : Deployment) :
    P (h.deployEvents owner deployment) := by
  have hAsks := Describer.asks_of_all hP hActs.devices hActs.imports
  unfold ConditionalHandler.deployEvents
  apply hP.bind (hP.mapError _ (hActs.userToken owner))
  intro token
  apply hP.bind (hAsks.describe hP.toSequential owner deployment)
  intro ds
  apply hP.bind
  · apply hP.forEach
    intro d _
    unfold storeEvent
    apply hP.bind (hP.mapError _ (hActs.set _))
    intro _
    exact hActs.count _ _
  · intro _
    exact hP.mapError _ (hActs.setRow _)

theorem Acts.deploy
    {P : Action.Property σ}
    (hActs : h.Acts P)
    (hP : Action.Closed P)
    (owner : String)
    (deployment : Deployment) :
    P (h.deploy owner deployment) := by
  unfold ConditionalHandler.deploy
  apply hP.bind (hActs.removeEvents hP deployment.id)
  intro _
  exact hActs.deployEvents hP owner deployment

/- With a token for the owner, nothing keeps a deployment from succeeding. -/
theorem Available.deploy
    (hAvailable : h.Available)
    {owner : String}
    (hToken : Succeeds (h.tokens.userToken owner))
    (deployment : Deployment) :
    Succeeds (h.deploy owner deployment) := by
  unfold ConditionalHandler.deploy
  apply Succeeds.sequential.bind (hAvailable.removeEvents deployment.id)
  intro _
  exact hAvailable.deployEvents hToken deployment

/- However a deployment ends, what is stored for others stays. -/
theorem deploy_others
    (hLawful : h.Lawful stored)
    (hAtomic : h.Atomic stored)
    (owner : String)
    {deployment : Deployment} {other : String}
    (hOther : other ≠ deployment.id) :
    Keeps (fun s => (stored s).of other) (h.deploy owner deployment) :=
  fun _ => (deploy_confined hLawful hAtomic rfl).1 other hOther

/- What is stored afterwards, told apart by deployments. -/
theorem deploy_described
    (hLawful : h.Lawful stored)
    {owner : String} {deployment : Deployment} {s s' : σ}
    (hRun : h.deploy owner deployment s = (.ok (), s')) :
    ∃ u ds u',
      h.describer.describe owner deployment u = (.ok ds, u') ∧
        ∀ other,
          (stored s').of other =
            if other = deployment.id then deployed owner deployment ds
            else (stored s).of other := by
  rcases deploy_stored hLawful hRun with
    ⟨_, _, u, ds, u', -, -, hDescribe, hStored⟩
  refine ⟨u, ds, u', hDescribe, fun other => ?_⟩
  rw [hStored,
    of_deployed (h.describer.describe_isFor owner deployment u ds u' hDescribe)]

/- For the deployment itself, it depends on what is described only. -/
theorem deploy_of_agrees
    (hLawful : h.Lawful stored)
    {owner : String} {deployment : Deployment} {s s' t t' : σ}
    (hAnswers :
      AnswersFrom (fun _ => ()) (h.describer.describe owner deployment))
    (hRun : h.deploy owner deployment s = (.ok (), s'))
    (hRun' : h.deploy owner deployment t = (.ok (), t')) :
    (stored s').of deployment.id = (stored t').of deployment.id := by
  rcases deploy_described hLawful hRun with ⟨u, ds, _, hDescribe, hEnd⟩
  rcases deploy_described hLawful hRun' with ⟨v, ds', _, hDescribe', hEnd'⟩
  rcases hAnswers.of_eq (t := v) hDescribe rfl with ⟨_, hAgain, -⟩
  rw [hDescribe'] at hAgain
  cases hAgain
  rw [hEnd, hEnd', if_pos rfl, if_pos rfl]

/- What is left depends on what is stored for the other deployments only. -/
theorem deploy_agrees
    (hLawful : h.Lawful stored)
    (hAvailable : h.Available)
    {owner : String} {deployment : Deployment} {s s' t t' : σ}
    (hRun : h.deploy owner deployment s = (.ok (), s'))
    (hRun' : h.deploy owner deployment t = (.ok (), t'))
    (hOthers :
      ∀ other, other ≠ deployment.id →
        (stored s).of other = (stored t).of other) :
    stored s' = stored t' := by
  have hAnswers := (hAvailable.describer.describe
    Fixed.sequential owner deployment).answersFrom
  rcases deploy_described hLawful hRun with ⟨_, _, _, -, hEnd⟩
  rcases deploy_described hLawful hRun' with ⟨_, _, _, -, hEnd'⟩
  apply StoredEvents.eq_of_of_eq
  intro other
  by_cases hHere : other = deployment.id
  · rw [hHere]
    exact deploy_of_agrees hLawful hAnswers hRun hRun'
  · rw [hEnd, hEnd', if_neg hHere, if_neg hHere]
    exact hOthers other hHere

end ConditionalHandler

end ProcessEvents
