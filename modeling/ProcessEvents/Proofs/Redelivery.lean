import ProcessEvents.Proofs.Deployer

/-
  A message that orders a deployment and has failed is
  delivered again. This file shows that the second attempt
  leaves what a single one would have left: whatever has
  become of the first, it has concerned nothing but what the
  second replaces.

  Key definitions include:
    * `Holdings.AgreeBesides`
    * `Deployer.Lawful`
    * `Deployer.Healthy`

  Key theorems include:
    * `Deployer.deploy_agreeBesides`
    * `Deployer.deploy_agrees`
    * `Deployer.redelivery_agrees`
-/

namespace ProcessEvents

variable {σ : Type}

open ProcessEvents.Action (Keeps Succeeds)

------------------------------------------------------------
-- What deployments are about
------------------------------------------------------------

/-
  In both states there are the same pipelines, but for the
  owner's for a deployment, and the same is stored for all
  other deployments.
-/
structure Holdings.AgreeBesides
    (held : Holdings σ)
    (owner deploymentId : String)
    (s t : σ) : Prop where
  pipelines :
    (held.pipelines s).besides owner deploymentId =
      (held.pipelines t).besides owner deploymentId
  stored :
    ∀ other, other ≠ deploymentId →
      (held.stored s).of other = (held.stored t).of other

theorem Holdings.AgreeBesides.trans
    {held : Holdings σ} {owner deploymentId : String} {s t u : σ}
    (hLeft : held.AgreeBesides owner deploymentId s t)
    (hRight : held.AgreeBesides owner deploymentId t u) :
    held.AgreeBesides owner deploymentId s u where
  pipelines := hLeft.pipelines.trans hRight.pipelines
  stored other hOther :=
    (hLeft.stored other hOther).trans (hRight.stored other hOther)

namespace Deployer

/-
  Engine and stores do what they are asked for or nothing,
  and nobody touches what is kept by others.
-/
structure Lawful
    (v : Deployer σ)
    (held : Holdings σ) : Prop where
  analytics : v.analytics.Lawful held.pipelines
  calls : v.analytics.engine.AllOrNothing held.pipelines
  conditional : v.conditional.Lawful held.stored
  atomic : v.conditional.Atomic held.stored
  stored : v.analytics.Acts (Keeps held.stored)
  pipelines : v.conditional.Acts (Keeps held.pipelines)
  analyticsSilent : v.analytics.Acts (Keeps held.announced)
  conditionalSilent : v.conditional.Acts (Keeps held.announced)
  ownPipelines : v.dispatcher.Own (Keeps held.pipelines)
  ownStored : v.dispatcher.Own (Keeps held.stored)
  countSilent :
    ∀ c n s, held.announced (v.dispatcher.counters.add c n s) = held.announced s

/-
  No call fails, the owner exists, and what is looked up has
  an answer of its own, whatever is running or stored.
-/
structure Healthy
    (v : Deployer σ)
    (held : Holdings σ)
    (owner : String) : Prop where
  answers : v.analytics.Asks (Action.AnswersFrom fun _ => ())
  engine : v.analytics.engine.Serves held.pipelines
  token : Succeeds (v.analytics.tokens.userToken owner)
  available : v.conditional.Available
  conditionalToken : Succeeds (v.conditional.tokens.userToken owner)
  produce :
    ∀ channel ∈ v.dispatcher.done, ∀ id notification s,
      held.announced (channel.produce id notification s).2 =
        held.announced s ++ [(id, notification)]

variable {v : Deployer σ} {held : Holdings σ}
  {owner : String} {deployment : Deployment}

theorem Lawful.orderly
    (hLawful : v.Lawful held) :
    v.Orderly held :=
  { hLawful with }

------------------------------------------------------------
-- What attempts leave alone
------------------------------------------------------------

/- However an attempt ends, it concerns the owner's deployment only. -/
theorem deploy_agreeBesides
    (hLawful : v.Lawful held)
    (owner : String)
    (deployment : Deployment)
    (s : σ) :
    held.AgreeBesides owner deployment.id
      (v.dispatcher.deploy owner deployment s).2 s where
  pipelines := by
    have hAnalytics :=
      AnalyticsHandler.deploy_besides hLawful.analytics
        hLawful.calls owner deployment
    have hConditional :=
      (hLawful.pipelines.deploy Keeps.closed owner deployment).comp
      (·.besides owner deployment.id)
    have hOwn :
        v.dispatcher.Own
          (Keeps fun s => (held.pipelines s).besides owner deployment.id) :=
      { count := fun c n =>
          (hLawful.ownPipelines.count c n).comp (·.besides owner deployment.id)
        produce := fun channel hDone id notification =>
          (hLawful.ownPipelines.produce channel hDone id notification).comp
            (·.besides owner deployment.id) }
    have hPerform :
        Keeps (fun s => (held.pipelines s).besides owner deployment.id)
          (v.dispatcher.perform (.deploy owner deployment)) :=
      hOwn.perform Keeps.closed (forall_handlers hAnalytics hConditional)
    exact hPerform s
  stored other hOther := by
    have hAnalytics :=
      (hLawful.stored.deploy Keeps.closed owner deployment).comp (·.of other)
    have hConditional :=
      ConditionalHandler.deploy_others hLawful.conditional
        hLawful.atomic owner hOther
    have hOwn : v.dispatcher.Own (Keeps fun s => (held.stored s).of other) :=
      { count := fun c n => (hLawful.ownStored.count c n).comp (·.of other)
        produce := fun channel hDone id notification =>
          (hLawful.ownStored.produce channel hDone id notification).comp
            (·.of other) }
    have hPerform :
        Keeps (fun s => (held.stored s).of other)
          (v.dispatcher.perform (.deploy owner deployment)) :=
      hOwn.perform Keeps.closed (forall_handlers hAnalytics hConditional)
    exact hPerform s

/- The handlers announce nothing. -/
theorem handlers_announced
    (hLawful : v.Lawful held)
    (owner : String)
    (deployment : Deployment) :
    Keeps held.announced
      (Action.forEach
        (fun k => k.deploy owner deployment) v.dispatcher.handlers) :=
  Keeps.closed.forEach _
    (forall_handlers
      (hLawful.analyticsSilent.deploy Keeps.closed owner deployment)
      (hLawful.conditionalSilent.deploy Keeps.closed owner deployment))

theorem announced_of_error
    (hLawful : v.Lawful held)
    {s s' : σ} {e : DeployError}
    (hFail : v.dispatcher.deploy owner deployment s = (.error e, s')) :
    held.announced s' = held.announced s :=
  (handlers_announced hLawful owner deployment).of_eq
    (Dispatcher.deploy_eq_error_iff.mp hFail)

theorem announced_of_ok
    (hLawful : v.Lawful held)
    (hHealthy : v.Healthy held owner)
    {s s' : σ}
    (hRun : v.dispatcher.deploy owner deployment s = (.ok (), s')) :
    held.announced s' =
      held.announced s ++ v.dispatcher.notifications deployment.id := by
  rcases Dispatcher.deploy_eq_ok_iff.mp hRun with ⟨s₁, hEach, rfl⟩
  rw [Dispatcher.announce_announced hHealthy.produce, hLawful.countSilent,
    (handlers_announced hLawful owner deployment).of_eq hEach]

------------------------------------------------------------
-- Attempts that succeed
------------------------------------------------------------

/- If the message events can be deployed, everything can. -/
theorem deploy_succeeds
    (hLawful : v.Lawful held)
    (hHealthy : v.Healthy held owner)
    {s : σ}
    (hAnalytics :
      ∀ a, held.pipelines a = held.pipelines s →
        ∃ a', v.analytics.deploy owner deployment a = (.ok (), a')) :
    ∃ s', v.dispatcher.deploy owner deployment s = (.ok (), s') := by
  have hConditional :=
    hHealthy.available.deploy hHealthy.conditionalToken deployment
  have hPipelines := hLawful.pipelines.deploy Keeps.closed owner deployment
  have hEach :
      ∃ s₁, Action.forEach
        (fun k => k.deploy owner deployment) v.dispatcher.handlers s =
        (.ok (), s₁) := by
    rcases v.handlers with hOrder | hOrder
    · rcases hAnalytics s rfl with ⟨m, hFirst⟩
      rcases hConditional m with ⟨_, s₁, hSecond⟩
      refine ⟨s₁, ?_⟩
      rw [hOrder]
      exact Action.forEach_pair_eq_ok_iff.mpr ⟨m, hFirst, hSecond⟩
    · rcases hConditional s with ⟨_, m, hFirst⟩
      rcases hAnalytics m (hPipelines.of_eq hFirst) with ⟨s₁, hSecond⟩
      refine ⟨s₁, ?_⟩
      rw [hOrder]
      exact Action.forEach_pair_eq_ok_iff.mpr ⟨m, hFirst, hSecond⟩
  rcases hEach with ⟨s₁, hEach⟩
  exact ⟨_, Dispatcher.deploy_eq_ok_iff.mpr ⟨s₁, hEach, rfl⟩⟩

/-
  A deployment that has succeeded in one state succeeds in
  any other that agrees with it on everything else, and
  leaves the same up to the ids of the new pipelines.
-/
theorem deploy_agrees
    (hLawful : v.Lawful held)
    (hHealthy : v.Healthy held owner)
    {s t t' : σ}
    (hRun : v.dispatcher.deploy owner deployment t = (.ok (), t'))
    (hSame : held.AgreeBesides owner deployment.id s t) :
    ∃ s',
      v.dispatcher.deploy owner deployment s = (.ok (), s') ∧
        held.stored t' = held.stored s' ∧
        (held.pipelines t').rows.map PipelineRow.content =
          (held.pipelines s').rows.map PipelineRow.content := by
  rcases deploy_parts hLawful.orderly hRun with
    ⟨⟨a, a', hAnalytics, hBefore, hAfter⟩, c,
      c', hConditional, hStoredBefore, hStoredAfter⟩
  have hAgain :
      ∀ b, held.pipelines b = held.pipelines s →
        ∃ b',
          v.analytics.deploy owner deployment b = (.ok (), b') ∧
            (held.pipelines b').rows.map PipelineRow.content =
              (held.pipelines a').rows.map PipelineRow.content := by
    intro b hState
    apply
      AnalyticsHandler.deploy_agrees hLawful.analytics
        hHealthy.engine hHealthy.answers hAnalytics
    rw [hState, hBefore]
    exact hSame.pipelines
  have hCan :
      ∀ b, held.pipelines b = held.pipelines s →
        ∃ b', v.analytics.deploy owner deployment b = (.ok (), b') := by
    intro b hState
    rcases hAgain b hState with ⟨b', hRun', -⟩
    exact ⟨b', hRun'⟩
  rcases deploy_succeeds hLawful hHealthy hCan with ⟨s', hRun'⟩
  rcases deploy_parts hLawful.orderly hRun' with
    ⟨⟨b, b', hAnalytics', hBefore', hAfter'⟩,
      d, d', hConditional', hStoredBefore', hStoredAfter'⟩
  refine ⟨s', hRun', ?_, ?_⟩
  · rw [hStoredAfter, hStoredAfter']
    apply
      ConditionalHandler.deploy_agrees hLawful.conditional
        hHealthy.available hConditional
        hConditional'
    intro other hOther
    rw [hStoredBefore, hStoredBefore']
    exact (hSame.stored other hOther).symm
  · rcases hAgain b hBefore' with ⟨b'', hRun'', hContent⟩
    rw [hAnalytics'] at hRun''
    cases hRun''
    rw [hAfter, hAfter']
    exact hContent.symm

------------------------------------------------------------
-- Messages
------------------------------------------------------------

/- An attempt that is not given up for a missing user has succeeded. -/
theorem deploy_of_handled
    (hHealthy : v.Healthy held owner)
    {s s' : σ}
    (hRun :
      Dispatcher.ignoringMissingUser (v.dispatcher.deploy owner deployment) s =
        (.ok (), s')) :
    v.dispatcher.deploy owner deployment s = (.ok (), s') := by
  rcases hDeploy : v.dispatcher.deploy owner deployment s with ⟨e | _, s₁⟩
  · have hSpares : e.isUserMissing = false := by
      have hAnalytics :=
        AnalyticsHandler.deploy_sparesUser hHealthy.token deployment
      have hConditional :=
        hHealthy.available.deploy hHealthy.conditionalToken deployment
      have hEach :=
        Action.Raises.forEach v.dispatcher.handlers
          (forall_handlers (p := fun k =>
            AnalyticsHandler.SparesUser (k.deploy owner deployment))
            hAnalytics hConditional.raises)
      exact hEach s e s₁ (Dispatcher.deploy_eq_error_iff.mp hDeploy)
    rw [Dispatcher.ignoringMissingUser_of_error hDeploy, hSpares] at hRun
    cases hRun
  · rw [Dispatcher.ignoringMissingUser_of_ok hDeploy] at hRun
    cases hRun
    rfl

/-
  A change of a deployment has failed, and when it is handled
  again by healthy collaborators, it succeeds. Then handling
  it once would have succeeded as well and left the same, up
  to the ids of pipelines. Neither attempt has concerned the
  pipelines of other owners or anything for other deployments.
  The end of the deployment has been announced once, if there
  is a channel for it.
-/
theorem redelivery_agrees
    {v₀ : Deployer σ}
    (hFirst : v₀.Lawful held)
    (hLawful : v.Lawful held)
    {message : Json} {c : DeploymentCommand}
    (hDecode : DeploymentCommand.codec.decode message = some c)
    (hPut : c.command = Verb.put)
    (hHealthy : v.Healthy held c.owner)
    {s s₁ s₂ : σ} {e : DeployError}
    (hFail : v₀.dispatcher.handleDeploymentCommand message s = (.error e, s₁))
    (hRetry : v.dispatcher.handleDeploymentCommand message s₁ = (.ok (), s₂)) :
    ∃ deployment s',
      c.deployment = some deployment ∧
        v.dispatcher.handleDeploymentCommand message s = (.ok (), s') ∧
        held.stored s₂ = held.stored s' ∧
        (held.pipelines s₂).rows.map PipelineRow.content =
          (held.pipelines s').rows.map PipelineRow.content ∧
        held.AgreeBesides c.owner deployment.id s₁ s ∧
        held.AgreeBesides c.owner deployment.id s₂ s ∧
        held.announced s₂ =
          held.announced s ++ v.dispatcher.notifications deployment.id := by
  rcases Dispatcher.put_of_error hDecode hPut hFail with
    ⟨deployment, hDeployment, hTask⟩
  rw [v₀.dispatcher.handleDeploymentCommand_of_deploy hTask] at hFail
  rw [v.dispatcher.handleDeploymentCommand_of_deploy hTask] at hRetry ⊢
  have hState := Dispatcher.ignoringMissingUser_state
    (v₀.dispatcher.deploy c.owner deployment) s
  have hBesides := deploy_agreeBesides hFirst c.owner deployment s
  rw [hFail] at hState
  rcases hDeploy : v₀.dispatcher.deploy c.owner deployment s with ⟨e' | _, t⟩
  · rw [hDeploy] at hState hBesides
    cases hState
    have hRun := deploy_of_handled hHealthy hRetry
    have hBesides' := deploy_agreeBesides hLawful c.owner deployment s₁
    rw [hRun] at hBesides'
    rcases deploy_agrees hLawful hHealthy hRun
      ⟨hBesides.pipelines.symm,
        fun other hOther => (hBesides.stored other hOther).symm⟩ with
      ⟨s', hOnce, hStored, hContent⟩
    refine
      ⟨deployment, s', hDeployment, Dispatcher.ignoringMissingUser_of_ok hOnce,
        hStored, hContent,
        hBesides, hBesides'.trans hBesides, ?_⟩
    rw [announced_of_ok hLawful hHealthy hRun,
      announced_of_error hFirst hDeploy]
  · rw [Dispatcher.ignoringMissingUser_of_ok hDeploy] at hFail
    cases hFail

end Deployer

------------------------------------------------------------
-- Handlers on a backend
------------------------------------------------------------

namespace Backend

/-
  With the channel of the backend or with none, the
  collaborators are lawful.
-/
theorem deployer_lawful
    (token : Except AuthError BearerToken)
    {done : Option (DoneChannel Backend)}
    (hDone : ∀ other ∈ done, other = channel) :
    (deployer token done).Lawful holdings where
  analytics := AnalyticsHandler.onEngine_lawful engine_lawful token
  calls := RunningPipelines.allOrNothing.within runningSlot_holds
  conditional :=
    ConditionalHandler.onStores_lawful events_lawful index_lawful token
  atomic :=
    { events := EventTables.events_atomic.within tablesSlot_holds
      index := EventTables.index_atomic.within tablesSlot_holds }
  stored := analytics_keeps (fun _ _ => rfl) token
  pipelines := conditional_keeps (fun _ _ => rfl) token
  analyticsSilent := analytics_keeps (fun _ _ => rfl) token
  conditionalSilent := conditional_keeps (fun _ _ => rfl) token
  ownPipelines := Deployer.onStores_own fun other hMem id notification s => by
    rw [hDone other hMem]
    rfl
  ownStored := Deployer.onStores_own fun other hMem id notification s => by
    rw [hDone other hMem]
    rfl
  countSilent _ _ _ := rfl

/- With a token for every user, nothing fails. -/
theorem deployer_healthy
    {done : Option (DoneChannel Backend)}
    (hDone : ∀ other ∈ done, other = channel)
    (token : BearerToken)
    (owner : String) :
    (deployer (.ok token) done).Healthy holdings owner where
  answers :=
    AnalyticsHandler.onEngine_asks Action.AnswersFrom.closed.toSequential
      (Action.AnswersFrom.closed.ofExcept (.ok token))
      fun _ _ _ _ _ => ⟨rfl, rfl⟩
  engine := RunningPipelines.serves.within runningSlot_holds
  token := Succeeds.sequential.pure token
  available :=
    ConditionalHandler.onStores_available
      (EventTables.events_succeed.within fun _ hSucceeds => hSucceeds.within)
      (EventTables.index_succeed.within fun _ hSucceeds => hSucceeds.within)
      (.ok token)
  conditionalToken := Succeeds.sequential.pure token
  produce other hMem id notification s := by
    rw [hDone other hMem]
    rfl

end Backend

------------------------------------------------------------
-- A token that is denied once
------------------------------------------------------------

namespace Deployer

/- The message that changes it. -/
def putMessage : Json :=
  DeploymentCommand.codec.encode
    { command := Verb.put
      id := "d1"
      version := Deployment.currentVersion
      owner := "u1"
      deployment := some mixedDeployment }

/- What handling the message comes to. -/
def handled
    (token : Except AuthError BearerToken)
    (done : Option (DoneChannel Backend))
    (s : Backend) : Except DeployError Unit × Backend :=
  (Backend.deployer token done).dispatcher.handleDeploymentCommand putMessage s

theorem redelivery_agrees_noToken :
    ∃ e s₁ s₂ s',
      handled (.error ConditionalHandler.noToken)
        (some Backend.channel) occupied = (.error e, s₁) ∧
        handled (.ok ⟨"Bearer"⟩) (some Backend.channel) s₁ = (.ok (), s₂) ∧
        handled (.ok ⟨"Bearer"⟩) (some Backend.channel) occupied =
          (.ok (), s') ∧
        s₂.tables.stored = s'.tables.stored ∧
        s₂.running.rows.map PipelineRow.content =
          s'.running.rows.map PipelineRow.content ∧
        s₂.announced.length = 1 := by
  have hError :
      (handled (.error ConditionalHandler.noToken)
        (some Backend.channel) occupied).1.isOk =
        false := by
    decide +kernel
  have hOk :
      (handled (.ok ⟨"Bearer"⟩) (some Backend.channel)
        (handled (.error ConditionalHandler.noToken) (some Backend.channel)
          occupied).2).1.isOk = true := by
    decide +kernel
  have hVerb :
      (DeploymentCommand.codec.decode putMessage).map (·.command) =
        some Verb.put := by
    decide +kernel
  rcases Option.map_eq_some_iff.mp hVerb with ⟨c, hDecode, hPut⟩
  rcases Action.eq_error_of_isOk hError with ⟨e, hFail⟩
  generalize
    (handled (.error ConditionalHandler.noToken)
      (some Backend.channel) occupied).2 = s₁
    at hFail hOk
  have hRetry := Action.eq_ok_of_isOk hOk
  generalize
    (handled (.ok ⟨"Bearer"⟩) (some Backend.channel) s₁).2 = s₂ at hRetry
  have hDone : ∀ other ∈ some Backend.channel, other = Backend.channel :=
    fun _ hMem => (Option.some.inj hMem).symm
  rcases redelivery_agrees (Backend.deployer_lawful _ hDone)
    (Backend.deployer_lawful _ hDone)
      hDecode hPut (Backend.deployer_healthy hDone ⟨"Bearer"⟩ c.owner)
      hFail hRetry with
    ⟨deployment, s', -, hOnce, hStored, hContent, -, -, hAnnounced⟩
  have hLength := congrArg List.length hAnnounced
  rw [List.length_append] at hLength
  exact ⟨e, s₁, s₂, s', hFail, hRetry, hOnce, hStored, hContent, hLength⟩

/-
  What another user has stored under the id of the deployment
  is gone, and without a channel nothing is announced.
-/
theorem redelivery_takes_stored :
    (handled (.error ConditionalHandler.noToken) none occupied).1.isOk = false ∧
      (handled (.ok ⟨"Bearer"⟩) none
        (handled (.error ConditionalHandler.noToken) none
          occupied).2).1.isOk = true ∧
      ("u2", "d1") ∈ occupied.tables.descriptions.rows.map
        (fun d => (d.userId, d.deploymentId)) ∧
      ("u2", "d1") ∉
        (handled (.ok ⟨"Bearer"⟩) none
          (handled (.error ConditionalHandler.noToken) none
            occupied).2).2.tables.descriptions.rows.map
              (fun d => (d.userId, d.deploymentId)) ∧
      (handled (.ok ⟨"Bearer"⟩) none
        (handled (.error ConditionalHandler.noToken)
          none occupied).2).2.announced = [] := by
  refine ⟨?_, ?_, ?_, ?_, ?_⟩
  · decide +kernel
  · decide +kernel
  · decide +kernel
  · decide +kernel
  · decide +kernel

end Deployer

end ProcessEvents
