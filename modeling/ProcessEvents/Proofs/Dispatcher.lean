import ProcessEvents.Dispatcher
import ProcessEvents.Proofs.Collaborator
import ProcessEvents.Proofs.Json.Inverse

/-
  The dispatcher does little itself: it counts, it announces
  deployments, and it leaves the rest to its handlers. What
  it does for a message therefore has each property that its
  own part and its handlers have. A message about deployments
  orders at most one task, which every handler performs.

  Key definitions include:
    * `EventHandler.All`
    * `Dispatcher.alone`
    * `DeploymentTask`
    * `DeploymentTask.IsOrderedBy`
    * `DeploymentCommand.IsCurrent`
    * `Dispatcher.perform`
    * `Dispatcher.IsDone`
    * `Dispatcher.Own`
    * `Dispatcher.notifications`

  Key theorems include:
    * `Dispatcher.Own.perform`
    * `Dispatcher.handleDeploymentCommand_closed`
    * `Dispatcher.handleDeploymentCommand_state`
    * `Dispatcher.put_of_error`
    * `Dispatcher.deploy_eq_error_iff`, `Dispatcher.deploy_eq_ok_iff`
    * `Dispatcher.deploy_of_isDone`
    * `Dispatcher.perform_of_ok`
    * `Dispatcher.Own.process`
    * `Dispatcher.checkEvent_notFound`, `Dispatcher.eventStates_false`
-/

namespace ProcessEvents

variable {σ α β γ : Type} {P : Action.Property σ}

open ProcessEvents.Action (Delivers)

------------------------------------------------------------
-- Handlers
------------------------------------------------------------

/- All that a handler does has the property. -/
structure EventHandler.All
    (P : Action.Property σ)
    (k : EventHandler σ) : Prop where
  deploy : ∀ owner deployment, P (k.deploy owner deployment)
  remove : ∀ owner id, P (k.remove owner id)
  updateGroup : ∀ owner group, P (k.updateGroup owner group)
  checkEvent : ∀ token id, P (k.checkEvent token id)
  eventStates : ∀ token ids, P (k.eventStates token ids)

/- A dispatcher that has a single handler, and is not watched. -/
def Dispatcher.alone
    (k : EventHandler σ) : Dispatcher σ :=
  { handlers := [k]
    done := none
    doneHandler := ""
    counters := .none }

------------------------------------------------------------
-- Tasks
------------------------------------------------------------

/- What is done with a deployment of an owner. -/
inductive DeploymentTask where
  | deploy (owner : String) (deployment : Deployment)
  | remove (owner deploymentId : String)

namespace DeploymentTask

def owner : DeploymentTask → String
  | deploy owner _ => owner
  | remove owner _ => owner

def deploymentId : DeploymentTask → String
  | deploy _ deployment => deployment.id
  | remove _ deploymentId => deploymentId

/-
  The task that a message orders. Commands of the current
  version need an owner; those of other versions are obeyed
  only if they are removals, of which nothing but the parts
  that all versions share is looked at.
-/
inductive IsOrderedBy (message : Json) : DeploymentTask → Prop
  | put {header : CommandHeader} {c : DeploymentCommand}
      {deployment : Deployment}
      (hHeader : CommandHeader.codec.decode message = some header)
      (hVersion : header.version = Deployment.currentVersion)
      (hDecode : DeploymentCommand.codec.decode message = some c)
      (hVerb : c.command = Verb.put)
      (hOwner : c.owner ≠ "")
      (hDeployment : c.deployment = some deployment) :
      IsOrderedBy message (deploy c.owner deployment)
  | delete {header : CommandHeader} {c : DeploymentCommand}
      (hHeader : CommandHeader.codec.decode message = some header)
      (hVersion : header.version = Deployment.currentVersion)
      (hDecode : DeploymentCommand.codec.decode message = some c)
      (hVerb : c.command = Verb.delete)
      (hOwner : c.owner ≠ "") :
      IsOrderedBy message (remove c.owner c.id)
  | outdated {header : CommandHeader}
      (hHeader : CommandHeader.codec.decode message = some header)
      (hVersion : header.version ≠ Deployment.currentVersion)
      (hVerb : header.command = Verb.delete) :
      IsOrderedBy message (remove header.owner header.id)

end DeploymentTask

/- The message has a command of the current version. -/
structure DeploymentCommand.IsCurrent
    (c : DeploymentCommand)
    (message : Json) : Prop where
  header :
    ∃ header,
      CommandHeader.codec.decode message = some header ∧
        header.version = Deployment.currentVersion
  decode : DeploymentCommand.codec.decode message = some c

/- A change that tells of a deployment of somebody orders it. -/
theorem DeploymentCommand.IsCurrent.orders_deploy
    {c : DeploymentCommand} {message : Json} {deployment : Deployment}
    (hMessage : c.IsCurrent message)
    (hVerb : c.command = Verb.put)
    (hOwner : c.owner ≠ "")
    (hDeployment : c.deployment = some deployment) :
    (DeploymentTask.deploy c.owner deployment).IsOrderedBy message := by
  rcases hMessage.header with ⟨header, hHeader, hVersion⟩
  exact .put hHeader hVersion hMessage.decode hVerb hOwner hDeployment

/- What the first of the fields of a record reads. -/
def Fields.first?
    (f : Fields α) : Json → Option α
  | .obj members => f.ofMembers (Json.find? members)
  | .arr items => (f.ofItems items).map (·.1)
  | _ => none

theorem Fields.first?_of_record
    {f : Fields α} {g : Fields β} {make : α × β → γ} {of : γ → α × β}
    {j : Json} {y : γ}
    (hDecode : (Codec.record (f.pair g) make of).decode j = some y) :
    ∃ p, make p = y ∧ f.first? j = some p.1 := by
  simp only [Codec.record] at hDecode
  split at hDecode
  · rename_i members
    simp only [Option.ite_none_left_eq_some, Option.map_eq_some_iff] at hDecode
    rcases hDecode with ⟨-, p, hFields, hMake⟩
    exact ⟨p, hMake, (ofMembers_pair.mp hFields).1⟩
  · rename_i items
    split at hDecode
    · rename_i p hFields
      cases hDecode
      rcases ofItems_pair.mp hFields with ⟨rest, hFirst, -⟩
      refine ⟨p, rfl, ?_⟩
      rw [first?, hFirst]
      rfl
    · cases hDecode
  · cases hDecode

/- The header of a command has the command's verb. -/
theorem CommandHeader.command_eq
    {message : Json} {header : CommandHeader} {c : DeploymentCommand}
    (hHeader : CommandHeader.codec.decode message = some header)
    (hDecode : DeploymentCommand.codec.decode message = some c) :
    header.command = c.command := by
  rcases Fields.first?_of_record hHeader with ⟨p, rfl, hFirst⟩
  rcases Fields.first?_of_record hDecode with ⟨q, rfl, hFirst'⟩
  rw [hFirst] at hFirst'
  exact Option.some.inj hFirst'

/- What a handler does for a task. -/
def EventHandler.perform
    (k : EventHandler σ) : DeploymentTask → Action σ DeployError Unit
  | .deploy owner deployment => k.deploy owner deployment
  | .remove owner deploymentId => k.remove owner deploymentId

theorem EventHandler.All.perform
    {k : EventHandler σ}
    (hAll : k.All P)
    (task : DeploymentTask) :
    P (k.perform task) := by
  cases task with
  | deploy owner deployment => exact hAll.deploy owner deployment
  | remove owner deploymentId => exact hAll.remove owner deploymentId

namespace Dispatcher

variable {d : Dispatcher σ} {message : Json} {task : DeploymentTask}

/- What the dispatcher does for a task. -/
def perform
    (d : Dispatcher σ) : DeploymentTask → Action σ DeployError Unit
  | .deploy owner deployment => d.deploy owner deployment
  | .remove owner deploymentId => d.remove owner deploymentId

------------------------------------------------------------
-- Users who do not exist
------------------------------------------------------------

theorem ignoringMissingUser_closed
    (hP : Action.Closed P)
    {a : Action σ DeployError Unit}
    (hAction : P a) :
    P (ignoringMissingUser a) := by
  unfold ignoringMissingUser
  apply hP.bind (hP.attempt hAction)
  rintro (e | _)
  · dsimp only
    split
    · exact hP.pure ()
    · exact hP.fail e
  · exact hP.pure ()

theorem ignoringMissingUser_of_ok
    {a : Action σ DeployError Unit} {s s' : σ}
    (hRun : a s = (.ok (), s')) :
    ignoringMissingUser a s = (.ok (), s') := by
  have hAttempt :
      (a.attempt : Action σ DeployError (Except DeployError Unit)) s =
        (.ok (.ok ()), s') := by
    rw [Action.attempt_apply, hRun]
  exact Action.bind_of_ok hAttempt

theorem ignoringMissingUser_of_error
    {a : Action σ DeployError Unit} {s s' : σ} {e : DeployError}
    (hRun : a s = (.error e, s')) :
    ignoringMissingUser a s =
      (if e.isUserMissing then .ok () else .error e, s') := by
  have hAttempt :
      (a.attempt : Action σ DeployError (Except DeployError Unit)) s =
        (.ok (.error e), s') := by
    rw [Action.attempt_apply, hRun]
  rw [ignoringMissingUser, Action.bind_of_ok hAttempt]
  dsimp only
  split
  · rfl
  · rfl

/- How an action ends that counts as done. -/
inductive IsDone : Except DeployError Unit → Prop
  | ok : IsDone (.ok ())
  | userMissing {e : DeployError} (hMissing : e.isUserMissing = true) :
      IsDone (.error e)

theorem ignoringMissingUser_eq_ok_iff
    {a : Action σ DeployError Unit} {s s' : σ} :
    ignoringMissingUser a s = (.ok (), s') ↔
      ∃ result, a s = (result, s') ∧ IsDone result := by
  constructor
  · intro hRun
    rcases hAction : a s with ⟨e | _, s₁⟩
    · rw [ignoringMissingUser_of_error hAction] at hRun
      cases hMissing : e.isUserMissing with
      | true =>
          rw [hMissing, if_pos rfl] at hRun
          cases hRun
          exact ⟨.error e, rfl, .userMissing hMissing⟩
      | false =>
          rw [hMissing, if_neg Bool.false_ne_true] at hRun
          cases hRun
    · rw [ignoringMissingUser_of_ok hAction] at hRun
      cases hRun
      exact ⟨.ok (), rfl, .ok⟩
  · rintro ⟨result, hAction, hDone⟩
    cases hDone with
    | ok => exact ignoringMissingUser_of_ok hAction
    | userMissing hMissing =>
        rw [ignoringMissingUser_of_error hAction, hMissing, if_pos rfl]

/- What has been done is not undone. -/
theorem ignoringMissingUser_state
    (a : Action σ DeployError Unit) (s : σ) :
    (ignoringMissingUser a s).2 = (a s).2 := by
  rcases hRun : a s with ⟨e | _, s'⟩
  · rw [ignoringMissingUser_of_error hRun]
  · rw [ignoringMissingUser_of_ok hRun]

------------------------------------------------------------
-- Messages about device groups
------------------------------------------------------------

/- A change of a group updates it with every handler. -/
theorem handleGroupCommand_of_put
    (d : Dispatcher σ)
    {c : DeviceGroupCommand}
    (hDecode : DeviceGroupCommand.codec.decode message = some c)
    (hPut : c.command = Verb.put) :
    d.handleGroupCommand message =
      ignoringMissingUser (d.updateGroup c.owner c.deviceGroup) := by
  have hRights : c.command ≠ Verb.rights := by
    rw [hPut]
    decide
  rw [handleGroupCommand, hDecode]
  dsimp only
  rw [if_neg hRights, if_pos hPut]

/- Any other message updates nothing. -/
theorem handleGroupCommand_closed
    (d : Dispatcher σ)
    (hP : Action.Closed P)
    (hOther :
      ∀ c, DeviceGroupCommand.codec.decode message = some c →
        c.command ≠ Verb.put) :
    P (d.handleGroupCommand message) := by
  unfold handleGroupCommand
  split
  · exact hP.pure ()
  · rename_i c hDecode
    rw [if_neg (hOther c hDecode)]
    split
    · exact hP.pure ()
    · split
      · exact hP.pure ()
      · exact hP.fail _

------------------------------------------------------------
-- Messages about deployments
------------------------------------------------------------

theorem runCommand_of_put
    (d : Dispatcher σ)
    {c : DeploymentCommand} {deployment : Deployment}
    (hVerb : c.command = Verb.put)
    (hOwner : c.owner ≠ "")
    (hDeployment : c.deployment = some deployment) :
    d.runCommand c = ignoringMissingUser (d.deploy c.owner deployment) := by
  have hRights : c.command ≠ Verb.rights := by
    rw [hVerb]
    decide
  have hNamed : (c.owner == "") = false := beq_false_of_ne hOwner
  rw [runCommand, if_neg hRights, if_pos hVerb, hNamed, hDeployment]

theorem runCommand_of_delete
    (d : Dispatcher σ)
    {c : DeploymentCommand}
    (hVerb : c.command = Verb.delete)
    (hOwner : c.owner ≠ "") :
    d.runCommand c = ignoringMissingUser (d.remove c.owner c.id) := by
  have hRights : c.command ≠ Verb.rights := by
    rw [hVerb]
    decide
  have hPut : c.command ≠ Verb.put := by
    rw [hVerb]
    decide
  have hNamed : (c.owner == "") = false := beq_false_of_ne hOwner
  rw [runCommand, if_neg hRights, if_neg hPut, if_pos hVerb, hNamed]
  rfl

/- A change that tells of no deployment changes nothing. -/
theorem runCommand_of_put_none
    (d : Dispatcher σ)
    {c : DeploymentCommand}
    (hVerb : c.command = Verb.put)
    (hDeployment : c.deployment = none) :
    d.runCommand c = pure () := by
  have hRights : c.command ≠ Verb.rights := by
    rw [hVerb]
    decide
  rw [runCommand, if_neg hRights, if_pos hVerb, hDeployment]
  cases c.owner == "" with
  | true => rfl
  | false => rfl

/- A command of the current version is run. -/
theorem handleDeploymentCommand_of_current
    (d : Dispatcher σ)
    {header : CommandHeader} {c : DeploymentCommand}
    (hHeader : CommandHeader.codec.decode message = some header)
    (hVersion : header.version = Deployment.currentVersion)
    (hDecode : DeploymentCommand.codec.decode message = some c) :
    d.handleDeploymentCommand message = d.runCommand c := by
  rw [handleDeploymentCommand, hHeader]
  dsimp only
  rw [if_pos hVersion, hDecode]

theorem handleDeploymentCommand_of_isCurrent
    (d : Dispatcher σ)
    {c : DeploymentCommand} {message : Json}
    (hMessage : c.IsCurrent message) :
    d.handleDeploymentCommand message = d.runCommand c := by
  rcases hMessage.header with ⟨header, hHeader, hVersion⟩
  exact d.handleDeploymentCommand_of_current hHeader hVersion hMessage.decode

/- However a message ends, it has done what its task does. -/
theorem handleDeploymentCommand_state
    (d : Dispatcher σ)
    (hTask : task.IsOrderedBy message)
    (s : σ) :
    (d.handleDeploymentCommand message s).2 = (d.perform task s).2 := by
  cases hTask with
  | put hHeader hVersion hDecode hVerb hOwner hDeployment =>
      rw [d.handleDeploymentCommand_of_current hHeader hVersion hDecode,
        d.runCommand_of_put hVerb hOwner hDeployment, ignoringMissingUser_state]
      rfl
  | delete hHeader hVersion hDecode hVerb hOwner =>
      rw [d.handleDeploymentCommand_of_current hHeader hVersion hDecode,
        d.runCommand_of_delete hVerb hOwner, ignoringMissingUser_state]
      rfl
  | outdated hHeader hVersion hVerb =>
      rw [handleDeploymentCommand, hHeader]
      dsimp only
      rw [if_neg hVersion, if_pos hVerb]
      rfl

/- A message does nothing but the task that it orders. -/
theorem handleDeploymentCommand_closed
    (hP : Action.Closed P)
    (hTasks : ∀ task : DeploymentTask, task.IsOrderedBy message →
      P (d.perform task)) :
    P (d.handleDeploymentCommand message) := by
  have hIdle : P (pure () : Action σ DeployError Unit) := hP.pure ()
  unfold handleDeploymentCommand
  rcases hHeader : CommandHeader.codec.decode message with _ | header
  · exact hIdle
  dsimp only
  by_cases hVersion : header.version = Deployment.currentVersion
  · rw [if_pos hVersion]
    rcases hDecode : DeploymentCommand.codec.decode message with _ | c
    · exact hIdle
    dsimp only
    unfold runCommand
    split
    · exact hIdle
    · split
      · rename_i hVerb
        split
        · rename_i deployment hOwner hDeployment
          apply ignoringMissingUser_closed hP
          exact hTasks _ (.put hHeader hVersion hDecode hVerb
            (ne_of_beq_false hOwner) hDeployment)
        · exact hIdle
      · split
        · rename_i hVerb
          by_cases hOwner : c.owner = ""
          · rw [hOwner]
            exact hIdle
          · rw [beq_false_of_ne hOwner]
            apply ignoringMissingUser_closed hP
            exact hTasks _ (.delete hHeader hVersion hDecode hVerb hOwner)
        · exact hP.fail _
  · rw [if_neg hVersion]
    by_cases hVerb : header.command = Verb.delete
    · rw [if_pos hVerb]
      exact hTasks _ (.outdated hHeader hVersion hVerb)
    · rw [if_neg hVerb]
      exact hIdle

/- A message that orders a deployment deploys it with every handler. -/
theorem handleDeploymentCommand_of_deploy
    (d : Dispatcher σ)
    {owner : String} {deployment : Deployment}
    (hTask : (DeploymentTask.deploy owner deployment).IsOrderedBy message) :
    d.handleDeploymentCommand message =
      ignoringMissingUser (d.deploy owner deployment) := by
  cases hTask with
  | put hHeader hVersion hDecode hVerb hOwner hDeployment =>
      rw [d.handleDeploymentCommand_of_current hHeader hVersion hDecode,
        d.runCommand_of_put hVerb hOwner hDeployment]

/-
  A change of a deployment that is not carried out is
  dropped, which is no failure.
-/
theorem put_of_error
    {c : DeploymentCommand} {s s' : σ} {e : DeployError}
    (hDecode : DeploymentCommand.codec.decode message = some c)
    (hPut : c.command = Verb.put)
    (hFail : d.handleDeploymentCommand message s = (.error e, s')) :
    ∃ deployment,
      c.deployment = some deployment ∧
        (DeploymentTask.deploy c.owner deployment).IsOrderedBy message := by
  have hIdle : (pure () : Action σ DeployError Unit) s ≠ (.error e, s') := nofun
  rcases hHeader : CommandHeader.codec.decode message with _ | header
  · rw [handleDeploymentCommand, hHeader] at hFail
    exact absurd hFail hIdle
  by_cases hVersion : header.version = Deployment.currentVersion
  · rw [d.handleDeploymentCommand_of_current hHeader hVersion hDecode] at hFail
    by_cases hOwner : c.owner = ""
    · rw [runCommand, if_neg (hPut ▸ by decide), if_pos hPut, hOwner] at hFail
      exact absurd hFail hIdle
    · cases hDeployment : c.deployment with
      | none =>
          rw [runCommand, if_neg (hPut ▸ by decide), if_pos hPut,
            beq_false_of_ne hOwner, hDeployment] at hFail
          exact absurd hFail hIdle
      | some deployment =>
          exact ⟨deployment, rfl,
            .put hHeader hVersion hDecode hPut hOwner hDeployment⟩
  · have hVerb : header.command ≠ Verb.delete := by
      rw [CommandHeader.command_eq hHeader hDecode, hPut]
      decide
    rw [handleDeploymentCommand, hHeader] at hFail
    dsimp only at hFail
    rw [if_neg hVersion, if_neg hVerb] at hFail
    exact absurd hFail hIdle

------------------------------------------------------------
-- The part of the dispatcher
------------------------------------------------------------

/- What the dispatcher does itself has the property. -/
structure Own
    (d : Dispatcher σ)
    (P : Action.Property σ) : Prop where
  count : ∀ {ε : Type} c n, P (d.counters.count c n : Action σ ε Unit)
  produce :
    ∀ channel ∈ d.done, ∀ id notification, P (channel.produce id notification)

namespace Own

theorem announce
    (hOwn : d.Own P)
    (hP : Action.Closed P)
    (deploymentId : String) :
    P (d.announce deploymentId) := by
  unfold Dispatcher.announce
  split
  · exact hP.pure ()
  · rename_i channel hDone
    apply hP.bind (hP.attempt (hOwn.produce channel hDone _ _))
    intro _
    exact hP.pure ()

/- A task is performed by each handler. -/
theorem perform
    (hOwn : d.Own P)
    (hP : Action.Closed P)
    (hEach : ∀ k ∈ d.handlers, P (k.perform task)) :
    P (d.perform task) := by
  cases task with
  | deploy owner deployment =>
      apply hP.bind (hP.forEach _ hEach)
      intro _
      apply hP.bind (hOwn.count _ _)
      intro _
      exact hOwn.announce hP _
  | remove owner deploymentId =>
      apply hP.bind (hP.forEach _ hEach)
      intro _
      exact hOwn.count _ _

/- A message is handled and counted. -/
theorem process
    (hOwn : d.Own P)
    (hP : Action.Closed P)
    (topic : CommandTopic)
    (hHandle : P (d.handle topic message)) :
    P (d.process topic message) := by
  unfold Dispatcher.process
  apply hP.bind (hP.attempt hHandle)
  intro result
  apply hP.bind (hOwn.count _ _)
  intro _
  exact hP.ofExcept result

end Own

/-
  A task that has succeeded has been performed by all
  handlers. What the dispatcher has done itself after that is
  not seen where its own part is not.
-/
theorem perform_of_ok
    {s s' : σ}
    (hRun : d.perform task s = (.ok (), s')) :
    ∃ s₁,
      Action.forEach (fun k => k.perform task) d.handlers s = (.ok (), s₁) ∧
        ∀ {β : Type} {view : σ → β}, d.Own (Action.Keeps view) →
          view s' = view s₁ := by
  cases task with
  | deploy owner deployment =>
      rcases Action.bind_eq_ok_iff.mp hRun with ⟨_, s₁, hEach, hOwnRun⟩
      refine ⟨s₁, hEach, fun {β view} hOwn => ?_⟩
      have hKeeps :=
        Action.Keeps.closed.bind
          (hOwn.count (ε := DeployError) .deployedProcesses 1) fun _ =>
          hOwn.announce Action.Keeps.closed deployment.id
      exact hKeeps.of_eq hOwnRun
  | remove owner deploymentId =>
      rcases Action.bind_eq_ok_iff.mp hRun with ⟨_, s₁, hEach, hOwnRun⟩
      exact ⟨s₁, hEach, fun {β view} hOwn =>
        (hOwn.count .removedProcesses 1).of_eq hOwnRun⟩

------------------------------------------------------------
-- Announcements
------------------------------------------------------------

/- What is announced of a deployment, if there is a channel for it. -/
def notifications
    (d : Dispatcher σ)
    (deploymentId : String) : List (String × DoneNotification) :=
  match d.done with
  | none => []
  | some _ =>
    [(deploymentId,
      { command := Verb.put, id := deploymentId, handler := d.doneHandler })]

/- Whether or not the channel fails, the deployment does not. -/
theorem announce_succeeds
    (d : Dispatcher σ)
    (deploymentId : String) :
    Action.Succeeds (d.announce deploymentId) := by
  unfold announce
  split
  · exact Action.Succeeds.sequential.pure ()
  · intro s
    exact ⟨(), _, rfl⟩

theorem announce_announced
    {announced : σ → List (String × DoneNotification)}
    (hProduce :
      ∀ channel ∈ d.done, ∀ id notification s,
        announced (channel.produce id notification s).2 =
          announced s ++ [(id, notification)])
    (deploymentId : String)
    (s : σ) :
    announced (d.announce deploymentId s).2 =
      announced s ++ d.notifications deploymentId := by
  unfold announce notifications
  cases hDone : d.done with
  | none => exact (List.append_nil _).symm
  | some channel => exact hProduce channel hDone _ _ s

/- A deployment fails if and only if one of the handlers does. -/
theorem deploy_eq_error_iff
    {owner : String} {deployment : Deployment} {s s' : σ} {e : DeployError} :
    d.deploy owner deployment s = (.error e, s') ↔
      Action.forEach (fun k => k.deploy owner deployment) d.handlers s =
        (.error e, s') := by
  unfold deploy
  rw [Action.bind_eq_error_iff]
  constructor
  · rintro (hFail | ⟨_, s₁, -, hLater⟩)
    · exact hFail
    · rcases Action.bind_eq_error_iff.mp hLater with
        hCount | ⟨_, s₂, -, hAnnounce⟩
      · cases hCount
      · rcases d.announce_succeeds deployment.id s₂ with ⟨_, _, hRun⟩
        rw [hRun] at hAnnounce
        cases hAnnounce
  · exact Or.inl

/- After the handlers have succeeded, it is counted and announced. -/
theorem deploy_eq_ok_iff
    {owner : String} {deployment : Deployment} {s s' : σ} :
    d.deploy owner deployment s = (.ok (), s') ↔
      ∃ s₁,
        Action.forEach (fun k => k.deploy owner deployment) d.handlers s =
          (.ok (), s₁) ∧
          (d.announce deployment.id
            (d.counters.add .deployedProcesses 1 s₁)).2 = s' := by
  unfold deploy
  rw [Action.bind_eq_ok_iff]
  constructor
  · rintro ⟨_, s₁, hEach, hLater⟩
    rcases Action.bind_eq_ok_iff.mp hLater with ⟨_, s₂, hCount, hAnnounce⟩
    cases hCount
    exact ⟨s₁, hEach, congrArg Prod.snd hAnnounce⟩
  · rintro ⟨s₁, hEach, rfl⟩
    refine ⟨(), s₁, hEach, ?_⟩
    rcases d.announce_succeeds deployment.id
      (d.counters.add .deployedProcesses 1 s₁) with
      ⟨_, s₂, hAnnounce⟩
    rw [hAnnounce]
    exact (Action.bind_of_ok rfl).trans hAnnounce

/-
  A deployment that counts as done has succeeded with the
  first of two handlers, and is done with the second, too, or
  the first one has missed the user.
-/
theorem deploy_of_isDone
    {x y : EventHandler σ}
    (hHandlers : d.handlers = [x, y])
    {owner : String} {deployment : Deployment} {s s' : σ}
    {result : Except DeployError Unit}
    (hRun : d.deploy owner deployment s = (result, s'))
    (hDone : IsDone result) :
    (∃ m result' m',
      x.deploy owner deployment s = (.ok (), m) ∧
        y.deploy owner deployment m = (result', m') ∧
        IsDone result' ∧
        ∀ {β : Type} {view : σ → β}, d.Own (Action.Keeps view) →
          view s' = view m') ∨
      ∃ e, x.deploy owner deployment s = (.error e, s') ∧
        e.isUserMissing = true := by
  cases hDone with
  | ok =>
      have hPerform :
          d.perform (.deploy owner deployment) s = (.ok (), s') := hRun
      rcases perform_of_ok hPerform with ⟨m', hEach, hEnd⟩
      rw [hHandlers] at hEach
      rcases Action.forEach_pair_eq_ok_iff.mp hEach with ⟨m, hFirst, hSecond⟩
      exact Or.inl ⟨m, .ok (), m', hFirst, hSecond, .ok, hEnd⟩
  | userMissing hMissing =>
      have hEach := deploy_eq_error_iff.mp hRun
      rw [hHandlers] at hEach
      rcases Action.forEach_pair_eq_error_iff.mp hEach with
        hFirst | ⟨m, hFirst, hSecond⟩
      · exact Or.inr ⟨_, hFirst, hMissing⟩
      · exact Or.inl
          ⟨m, _, s', hFirst, hSecond, .userMissing hMissing, fun _ => rfl⟩

------------------------------------------------------------
-- Queries
------------------------------------------------------------

theorem checkEvent_closed
    (hP : Action.Closed P)
    {token eventId : String}
    (hEach : ∀ k ∈ d.handlers, P (k.checkEvent token eventId)) :
    P (d.checkEvent token eventId) := by
  unfold checkEvent
  generalize d.handlers = handlers at hEach ⊢
  induction handlers with
  | nil => exact hP.pure _
  | cons k handlers ih =>
      rcases List.forall_mem_cons.mp hEach with ⟨hFirst, hRest⟩
      apply hP.bind hFirst
      intro status
      split
      · exact hP.pure status
      · exact ih hRest

theorem eventStates_closed
    (hP : Action.Closed P)
    {token : String} {eventIds : List String}
    (hEach : ∀ k ∈ d.handlers, P (k.eventStates token eventIds)) :
    P (d.eventStates token eventIds) := by
  unfold eventStates
  generalize Dict.empty = known
  generalize d.handlers = handlers at hEach ⊢
  induction handlers generalizing known with
  | nil => exact hP.pure known
  | cons k handlers ih =>
      rcases List.forall_mem_cons.mp hEach with ⟨hFirst, hRest⟩
      apply hP.bind hFirst
      intro states
      exact ih _ hRest

/- What no handler finds is not found. -/
theorem checkEvent_notFound
    {p : σ → Prop} {token eventId : String}
    (hEach : ∀ k ∈ d.handlers,
      Delivers p (· = .notFound) (k.checkEvent token eventId)) :
    Delivers p (· = .notFound) (d.checkEvent token eventId) := by
  unfold checkEvent
  generalize d.handlers = handlers at hEach ⊢
  induction handlers with
  | nil => exact Delivers.pure rfl
  | cons k handlers ih =>
      rcases List.forall_mem_cons.mp hEach with ⟨hFirst, hRest⟩
      apply hFirst.bind
      rintro status rfl
      exact ih hRest

/- A state that is never merged with a true one is false, once it is known. -/
theorem get?_foldl_update
    {k : String} {l : List (String × Bool)} {a : Dict Bool}
    (hLeft : a.get? k ≠ some true)
    (hNone : (k, true) ∉ l)
    (hKnown : (k, false) ∈ l ∨ a.get? k = some false) :
    (l.foldl (fun states e => states.update e.1 false (· || e.2)) a).get? k =
      some false := by
  induction l generalizing a with
  | nil => exact hKnown.resolve_left List.not_mem_nil
  | cons e l ih =>
      rw [List.mem_cons, not_or] at hNone
      rw [List.foldl_cons]
      rcases e with ⟨key, value⟩
      by_cases hKey : k = key
      · subst hKey
        cases value with
        | true => exact absurd rfl hNone.1
        | false =>
            have hHere :
                (a.update k false (· || false)).get? k = some false := by
              rw [Dict.update, Dict.get?_insert,
                if_pos rfl, Bool.or_false, Dict.getD]
              rcases hValue : a.get? k with _ | (_ | _)
              · rfl
              · rfl
              · exact absurd hValue hLeft
            apply ih _ hNone.2 (Or.inr hHere)
            rw [hHere]
            rintro ⟨⟩
      · have hSame : (a.update key false (· || value)).get? k = a.get? k := by
          rw [Dict.update, Dict.get?_insert, if_neg hKey]
        apply ih _ hNone.2
        · rw [hSame]
          rcases hKnown with hListed | hKnown
          · rcases List.mem_cons.mp hListed with hHead | hTail
            · exact absurd (congrArg Prod.fst hHead) hKey
            · exact Or.inl hTail
          · exact Or.inr hKnown
        · rw [hSame]
          exact hLeft

/- A state that is false in one answer, and true in none, is false in both. -/
theorem get?_mergeStates
    {a b : Dict Bool} {k : String}
    (hLeft : a.get? k ≠ some true)
    (hRight : b.get? k = some false) :
    (mergeStates a b).get? k = some false := by
  have hNone : (k, true) ∉ b.entries := by
    rw [b.mem_entries_iff, hRight]
    nofun
  exact get?_foldl_update hLeft hNone
    (Or.inl ((b.mem_entries_iff k false).mpr hRight))

/- What all handlers tell to be false is false. -/
theorem eventStates_false
    {p : σ → Prop} {token eventId : String} {eventIds : List String}
    (hSome : d.handlers ≠ [])
    (hEach :
      ∀ k ∈ d.handlers,
        Delivers p (fun states => states.get? eventId = some false)
          (k.eventStates token eventIds)) :
    Delivers p (fun states => states.get? eventId = some false)
      (d.eventStates token eventIds) := by
  have hRest :
      ∀ (handlers : List (EventHandler σ)) (known : Dict Bool),
        (∀ k ∈ handlers,
            Delivers p (fun states => states.get? eventId = some false)
              (k.eventStates token eventIds)) →
          known.get? eventId = some false →
            Delivers p (fun states => states.get? eventId = some false)
              (statesWith token eventIds known handlers) := by
    intro handlers
    induction handlers with
    | nil =>
        intro known _ hKnown
        exact Delivers.pure hKnown
    | cons k handlers ih =>
        intro known hEach hKnown
        rcases List.forall_mem_cons.mp hEach with ⟨hFirst, hOthers⟩
        apply hFirst.bind
        intro states hStates
        apply ih _ hOthers
        apply get?_mergeStates _ hStates
        rw [hKnown]
        nofun
  unfold eventStates
  cases hHandlers : d.handlers with
  | nil => exact absurd hHandlers hSome
  | cons k handlers =>
      rw [hHandlers] at hEach
      rcases List.forall_mem_cons.mp hEach with ⟨hFirst, hOthers⟩
      apply hFirst.bind
      intro states hStates
      exact hRest handlers _ hOthers (get?_mergeStates nofun hStates)

end Dispatcher

end ProcessEvents
