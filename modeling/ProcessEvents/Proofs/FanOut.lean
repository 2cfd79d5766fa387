import ProcessEvents.Proofs.Dispatcher
import ProcessEvents.Proofs.Record

/-
  A dispatcher carries out an operation by calling its
  handlers in order, each one once, up to the first that
  fails. A record of the calls is put beside the state. It
  shows which handlers have been called and how each call
  has ended, and that a deployment, and nothing else, is
  announced after all handlers have succeeded.

  Key definitions include:
    * `Operation`
    * `Call`
    * `Dispatcher.recorded`
    * `Dispatcher.FansOut`
    * `Operation.IsOrderedBy`, `CommandTopic.IsOutdated`

  Key theorems include:
    * `Dispatcher.handlers_records`
    * `Dispatcher.carryOut_records`
    * `Dispatcher.carryOut_muted`
    * `Dispatcher.handle_of_current`
    * `Dispatcher.carryOut_fansOut`
-/

namespace ProcessEvents

variable {σ ω : Type}

open ProcessEvents.Action (Keeps Records)

------------------------------------------------------------
-- Operations
------------------------------------------------------------

/- What a dispatcher has its handlers do. -/
inductive Operation where
  | task (task : DeploymentTask)
  | updateGroup (owner : String) (group : DeviceGroup)

def EventHandler.carryOut
    (k : EventHandler σ) : Operation → Action σ DeployError Unit
  | .task task => k.perform task
  | .updateGroup owner group => k.updateGroup owner group

def Dispatcher.carryOut
    (d : Dispatcher σ) : Operation → Action σ DeployError Unit
  | .task task => d.perform task
  | .updateGroup owner group => d.updateGroup owner group

------------------------------------------------------------
-- Calls
------------------------------------------------------------

/-
  A call of one of the handlers, which are told apart by
  their positions, or of the channel for announcements.
-/
inductive Call where
  | handler (position : Nat) (op : Operation)
      (outcome : Except DeployError Unit)
  | query (position : Nat)
  | announcement
      (key : String)
      (notification : DoneNotification)
      (outcome : Except DeployError Unit)

/- The handler, with a record of its calls. -/
def EventHandler.recorded
    (k : EventHandler σ)
    (position : Nat) : EventHandler (σ × List Call) where
  name := k.name
  deploy owner deployment :=
    (k.deploy owner deployment).noting
      (.handler position (.task (.deploy owner deployment)))
  remove owner deploymentId :=
    (k.remove owner deploymentId).noting
      (.handler position (.task (.remove owner deploymentId)))
  updateGroup owner group :=
    (k.updateGroup owner group).noting
      (.handler position (.updateGroup owner group))
  checkEvent token eventId :=
    (k.checkEvent token eventId).noting fun _ => .query position
  eventStates token eventIds :=
    (k.eventStates token eventIds).noting fun _ => .query position

def DoneChannel.recorded
    (channel : DoneChannel σ) : DoneChannel (σ × List Call) where
  produce key notification :=
    (channel.produce key notification).noting (.announcement key notification)

/- Handlers with a record, the first of them at a given position. -/
def EventHandler.recordedFrom
    (first : Nat)
    (handlers : List (EventHandler σ)) : List (EventHandler (σ × List Call)) :=
  (handlers.zipIdx first).map fun k => k.1.recorded k.2

theorem EventHandler.carryOut_records
    (k : EventHandler σ)
    (position : Nat)
    (op : Operation) :
    Records (k.carryOut op) ((k.recorded position).carryOut op)
      fun outcome calls => calls = [.handler position op outcome] := by
  cases op with
  | updateGroup owner group => exact Records.noting fun _ => rfl
  | task task =>
      cases task with
      | deploy owner deployment => exact Records.noting fun _ => rfl
      | remove owner deploymentId => exact Records.noting fun _ => rfl

namespace Dispatcher

variable {d : Dispatcher σ} {op : Operation}

/- The dispatcher, with a record of whom it calls. -/
def recorded
    (d : Dispatcher σ) : Dispatcher (σ × List Call) where
  handlers := EventHandler.recordedFrom 0 d.handlers
  done := d.done.map DoneChannel.recorded
  doneHandler := d.doneHandler
  counters := d.counters.recorded

------------------------------------------------------------
-- Calls of the handlers
------------------------------------------------------------

/- Handlers that succeed, one after the other from a position on. -/
def successes
    (op : Operation)
    (first count : Nat) : List Call :=
  (List.range' first count).map fun position => .handler position op (.ok ())

theorem successes_succ
    (op : Operation)
    (first count : Nat) :
    successes op first (count + 1) =
      .handler first op (.ok ()) :: successes op (first + 1) count := rfl

/- All handlers have succeeded, or those in front of one that has failed. -/
inductive Called (op : Operation) (first count : Nat) :
    Except DeployError Unit → List Call → Prop
  | all : Called op first count (.ok ()) (successes op first count)
  | upTo {n : Nat} {e : DeployError}
      (hBefore : n < count) :
      Called op first count (.error e)
        (successes op first n ++ [.handler (first + n) op (.error e)])

theorem Called.after
    {first count : Nat} {outcome : Except DeployError Unit} {calls : List Call}
    (hCalled : Called op (first + 1) count outcome calls) :
    Called op first (count + 1) outcome
      (.handler first op (.ok ()) :: calls) := by
  cases hCalled with
  | all => exact .all
  | @upTo n e hBefore =>
      have hPosition : first + 1 + n = first + (n + 1) := by omega
      rw [hPosition, ← List.cons_append, ← successes_succ]
      exact .upTo (Nat.succ_lt_succ hBefore)

/- By induction over the handlers, whose positions go up. -/
theorem handlers_records
    (op : Operation)
    (handlers : List (EventHandler σ))
    (first : Nat) :
    Records
      (Action.forEach (fun k => k.carryOut op) handlers)
      (Action.forEach (fun k => k.carryOut op)
        (EventHandler.recordedFrom first handlers))
      (Called op first handlers.length) := by
  induction handlers generalizing first with
  | nil => exact Records.pure .all
  | cons k handlers ih =>
      apply Records.bind (k.carryOut_records first op) fun _ => ih (first + 1)
      · rintro e _ rfl
        exact .upTo (Nat.succ_pos _)
      · rintro _ outcome _ calls rfl hCalled
        exact hCalled.after

------------------------------------------------------------
-- Announcements
------------------------------------------------------------

/- A deployment is announced once, if there is a channel for it. -/
inductive Announces (d : Dispatcher σ) (deploymentId : String) :
  List Call → Prop
  | silent
      (hNone : d.done = none) :
      Announces d deploymentId []
  | sent {channel : DoneChannel σ} {outcome : Except DeployError Unit}
      (hSome : d.done = some channel) :
      Announces d deploymentId
        [.announcement deploymentId
          { command := Verb.put, id := deploymentId, handler := d.doneHandler }
          outcome]

/- After an operation, only deployments are announced. -/
def AnnouncesAfter
    (d : Dispatcher σ) : Operation → List Call → Prop
  | .task (.deploy _ deployment), calls => d.Announces deployment.id calls
  | _, calls => calls = []

theorem announce_records
    (d : Dispatcher σ)
    (deploymentId : String) :
    Records (d.announce deploymentId) (d.recorded.announce deploymentId)
      fun outcome calls => outcome = .ok () ∧
        d.Announces deploymentId calls := by
  unfold announce
  cases hDone : d.done with
  | none =>
      have hRecorded : d.recorded.done = none := by
        rw [recorded, hDone]
        rfl
      rw [hRecorded]
      exact Records.pure ⟨rfl, .silent hDone⟩
  | some channel =>
      have hRecorded : d.recorded.done = some channel.recorded := by
        rw [recorded, hDone]
        rfl
      rw [hRecorded]
      apply Records.bind_attempt
        (P := fun outcome calls =>
          calls =
            [.announcement deploymentId
              { command := Verb.put
                id := deploymentId
                handler := d.doneHandler } outcome])
        (R := fun _ outcome calls => outcome = .ok () ∧ calls = [])
      · exact Records.noting fun _ => rfl
      · exact fun _ => Records.pure ⟨rfl, rfl⟩
      · rintro outcome _ _ _ rfl ⟨rfl, rfl⟩
        exact ⟨rfl, .sent hDone⟩

------------------------------------------------------------
-- Operations of the dispatcher
------------------------------------------------------------

/-
  The handlers have been called in order, each one once. All
  of them have succeeded, and what is announced after that
  has been announced; or one of them has failed, in whose
  error it has ended, and nothing has been done after it.
-/
inductive FansOut (d : Dispatcher σ) (op : Operation) :
    Except DeployError Unit → List Call → Prop
  | succeeded {announcements : List Call}
      (hAnnounces : d.AnnouncesAfter op announcements) :
      FansOut d op (.ok ()) (successes op 0 d.handlers.length ++ announcements)
  | failed {n : Nat} {e : DeployError}
      (hPosition : n < d.handlers.length) :
      FansOut d op (.error e) (successes op 0 n ++ [.handler n op (.error e)])

theorem Called.fansOut_of_error
    {calls : List Call} {e : DeployError}
    (hCalled : Called op 0 d.handlers.length (.error e) calls) :
    d.FansOut op (.error e) calls := by
  cases hCalled with
  | @upTo n _ hBefore =>
      rw [Nat.zero_add]
      exact .failed hBefore

theorem Called.fansOut_of_ok
    {calls announcements : List Call}
    (hCalled : Called op 0 d.handlers.length (.ok ()) calls)
    (hAnnounces : d.AnnouncesAfter op announcements) :
    d.FansOut op (.ok ()) (calls ++ announcements) := by
  cases hCalled with
  | all => exact .succeeded hAnnounces

theorem carryOut_records
    (d : Dispatcher σ)
    (op : Operation) :
    Records (d.carryOut op) (d.recorded.carryOut op) (d.FansOut op) := by
  have hHandlers := handlers_records op d.handlers 0
  cases op with
  | updateGroup owner group =>
      apply hHandlers.mono
      rintro (e | _) calls hCalled
      · exact hCalled.fansOut_of_error
      · have hSilent : d.AnnouncesAfter (.updateGroup owner group) [] := rfl
        have hFansOut := hCalled.fansOut_of_ok hSilent
        rw [List.append_nil] at hFansOut
        exact hFansOut
  | task task =>
      cases task with
      | remove owner deploymentId =>
          apply Records.bind (R := fun _ outcome calls => outcome = .ok () ∧
            calls = []) hHandlers
          · exact fun _ => d.counters.count_records _ _ ⟨rfl, rfl⟩
          · exact fun e calls hCalled => hCalled.fansOut_of_error
          · rintro _ _ calls _ hCalled ⟨rfl, rfl⟩
            exact hCalled.fansOut_of_ok rfl
      | deploy owner deployment =>
          apply Records.bind
            (R := fun _ outcome calls => outcome = .ok () ∧
              d.Announces deployment.id calls)
            hHandlers
          · intro _
            have hCount :
                Records
                  (d.counters.count .deployedProcesses 1)
                  (d.recorded.counters.count .deployedProcesses 1)
                  fun (outcome : Except DeployError Unit) (calls : List Call) =>
                    outcome = .ok () ∧ calls = [] :=
              d.counters.count_records _ _ ⟨rfl, rfl⟩
            apply Records.bind hCount fun _ => d.announce_records deployment.id
            · rintro e _ ⟨hOk, -⟩
              cases hOk
            · rintro _ outcome _ calls ⟨-, rfl⟩ hAnnounces
              exact hAnnounces
          · exact fun e calls hCalled => hCalled.fansOut_of_error
          · rintro _ _ calls announcements hCalled ⟨rfl, hAnnounces⟩
            exact hCalled.fansOut_of_ok hAnnounces

------------------------------------------------------------
-- The channel
------------------------------------------------------------

/- The dispatcher without its channel. -/
def muted
    (d : Dispatcher σ) : Dispatcher σ :=
  { d with done := none }

theorem announce_keeps
    {view : σ → ω}
    (hChannel :
      ∀ channel ∈ d.done, ∀ key notification,
        Keeps view (channel.produce key notification))
    (deploymentId : String) :
    Keeps view (d.announce deploymentId) := by
  unfold announce
  split
  · exact Keeps.closed.pure ()
  · rename_i channel hDone
    apply Keeps.closed.bind (Keeps.closed.attempt (hChannel channel hDone _ _))
    intro _
    exact Keeps.closed.pure ()

/-
  Without its channel, a dispatcher ends in the same way. It
  leaves the same of whatever the channel does not touch.
-/
theorem carryOut_muted
    (d : Dispatcher σ)
    (op : Operation)
    (s : σ) :
    (d.muted.carryOut op s).1 = (d.carryOut op s).1 ∧
      ∀ {ω : Type} {view : σ → ω},
        (∀ channel ∈ d.done, ∀ key notification,
          Keeps view (channel.produce key notification)) →
          view (d.muted.carryOut op s).2 = view (d.carryOut op s).2 := by
  cases op with
  | updateGroup owner group => exact ⟨rfl, fun _ => rfl⟩
  | task task =>
      cases task with
      | remove owner deploymentId => exact ⟨rfl, fun _ => rfl⟩
      | deploy owner deployment =>
          change (d.muted.deploy owner deployment s).1 =
            (d.deploy owner deployment s).1 ∧ _
          change _ ∧ ∀ {ω : Type} {view : σ → ω}, _ →
            view (d.muted.deploy owner deployment s).2 =
              view (d.deploy owner deployment s).2
          rcases hEach : Action.forEach
            (fun k => k.deploy owner deployment) d.handlers s with
            ⟨e | _, s₁⟩
          · rw [deploy_eq_error_iff.mpr hEach,
              show d.muted.deploy owner deployment s = _ from
                deploy_eq_error_iff.mpr hEach]
            exact ⟨rfl, fun _ => rfl⟩
          · rw [deploy_eq_ok_iff.mpr ⟨s₁, hEach, rfl⟩,
              show d.muted.deploy owner deployment s = _ from
                deploy_eq_ok_iff.mpr ⟨s₁, hEach, rfl⟩]
            exact ⟨rfl,
              fun hChannel => (d.announce_keeps hChannel deployment.id _).symm⟩

end Dispatcher

------------------------------------------------------------
-- Messages
------------------------------------------------------------

/- The operation that a message on a topic orders. -/
inductive Operation.IsOrderedBy (message : Json) :
  CommandTopic → Operation → Prop
  | task {task : DeploymentTask}
      (hTask : task.IsOrderedBy message) :
      IsOrderedBy message .deployment (.task task)
  | update {c : DeviceGroupCommand}
      (hDecode : DeviceGroupCommand.codec.decode message = some c)
      (hVerb : c.command = Verb.put) :
      IsOrderedBy message .deviceGroup (.updateGroup c.owner c.deviceGroup)

/- A message about a deployment is of another version than the current one. -/
inductive CommandTopic.IsOutdated (message : Json) : CommandTopic → Prop
  | deployment {header : CommandHeader}
      (hHeader : CommandHeader.codec.decode message = some header)
      (hVersion : header.version ≠ Deployment.currentVersion) :
      IsOutdated message .deployment

namespace Dispatcher

variable {d : Dispatcher σ} {op : Operation} {message : Json}
  {topic : CommandTopic}

/- An outcome, where a user who does not exist is no failure. -/
def demoted : Except DeployError Unit → Except DeployError Unit
  | .ok _ => .ok ()
  | .error e => if e.isUserMissing then .ok () else .error e

theorem ignoringMissingUser_apply
    (a : Action σ DeployError Unit) (s : σ) :
    ignoringMissingUser a s = (demoted (a s).1, (a s).2) := by
  rcases hRun : a s with ⟨e | _, s'⟩
  · exact ignoringMissingUser_of_error hRun
  · exact ignoringMissingUser_of_ok hRun

/- What a message orders is carried out, for users that exist. -/
theorem handle_of_current
    (d : Dispatcher σ)
    (hOrdered : op.IsOrderedBy message topic)
    (hCurrent : ¬ topic.IsOutdated message) :
    d.handle topic message = ignoringMissingUser (d.carryOut op) := by
  cases hOrdered with
  | update hDecode hVerb => exact d.handleGroupCommand_of_put hDecode hVerb
  | task hTask =>
      cases hTask with
      | put hHeader hVersion hDecode hVerb hOwner hDeployment =>
          exact (d.handleDeploymentCommand_of_current
            hHeader hVersion hDecode).trans
            (d.runCommand_of_put hVerb hOwner hDeployment)
      | delete hHeader hVersion hDecode hVerb hOwner =>
          exact (d.handleDeploymentCommand_of_current
            hHeader hVersion hDecode).trans
            (d.runCommand_of_delete hVerb hOwner)
      | outdated hHeader hVersion hVerb =>
          exact absurd (.deployment hHeader hVersion) hCurrent

/-
  For every list of handlers, whatever they do: an operation
  calls them in order, each one once, up to the first that
  fails, in whose error it ends. A deployment is announced
  once if all have succeeded, and nothing else is announced.
  The channel decides neither about the outcome nor about
  anything that it does not touch itself. A message of the
  current version that orders the operation makes the same
  calls, and ends in the same way unless a user is missing.
-/
theorem carryOut_fansOut
    (d : Dispatcher σ)
    (op : Operation)
    (s : σ) :
    ∃ calls,
      d.recorded.carryOut op (s, []) =
        ((d.carryOut op s).1, (d.carryOut op s).2, calls) ∧
        d.FansOut op (d.carryOut op s).1 calls ∧
        (d.muted.carryOut op s).1 = (d.carryOut op s).1 ∧
        (∀ {ω : Type} {view : σ → ω},
          (∀ channel ∈ d.done, ∀ key notification,
            Keeps view (channel.produce key notification)) →
            view (d.muted.carryOut op s).2 = view (d.carryOut op s).2) ∧
        ∀ topic message,
          op.IsOrderedBy message topic →
            ¬ topic.IsOutdated message →
              d.recorded.handle topic message (s, []) =
                (demoted (d.carryOut op s).1, (d.carryOut op s).2, calls) := by
  rcases d.carryOut_records op s with ⟨calls, hRun, hFansOut⟩
  have hFromStart := hRun []
  rw [List.nil_append] at hFromStart
  rcases d.carryOut_muted op s with ⟨hOutcome, hView⟩
  refine ⟨calls, hFromStart, hFansOut, hOutcome, hView, ?_⟩
  intro topic message hOrdered hCurrent
  rw [d.recorded.handle_of_current hOrdered hCurrent,
    ignoringMissingUser_apply, hFromStart]

end Dispatcher

end ProcessEvents
