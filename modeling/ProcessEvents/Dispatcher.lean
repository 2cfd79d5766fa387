import ProcessEvents.Collaborator
import ProcessEvents.Counter
import ProcessEvents.EventHandler

/-
  This file defines the dispatcher, which runs every command
  against all handlers in order. The first handler that fails
  ends the command, so that a command that is delivered again
  starts over from a clean removal.

  Key definitions include:
    * `Dispatcher`
    * `Dispatcher.deploy`, `Dispatcher.remove`
    * `Dispatcher.updateGroup`
    * `Dispatcher.checkEvent`, `Dispatcher.eventStates`
    * `Dispatcher.handleDeploymentCommand`
    * `Dispatcher.handleGroupCommand`
    * `Dispatcher.process`
-/

namespace ProcessEvents

variable {σ : Type}

/- The handlers, and where the end of a deployment is announced. -/
structure Dispatcher (σ : Type) where
  handlers : List (EventHandler σ)
  done : Option (DoneChannel σ)
  doneHandler : String
  counters : Counters σ

namespace Dispatcher

/- The names of the handlers, in order. -/
def handlerNames
    (d : Dispatcher σ) : List String :=
  d.handlers.map (·.name)

------------------------------------------------------------
-- Deployments
------------------------------------------------------------

/- Announce a deployment; a failure to do so is left alone. -/
def announce
    (d : Dispatcher σ)
    (deploymentId : String) : Action σ DeployError Unit :=
  match d.done with
  | none => return ()
  | some channel => do
    let _ ← (channel.produce deploymentId
      { command := Verb.put
        id := deploymentId
        handler := d.doneHandler }).attempt

/- Deploy a process with every handler, and then announce it. -/
def deploy
    (d : Dispatcher σ)
    (owner : String)
    (deployment : Deployment) : Action σ DeployError Unit := do
  .forEach (fun h => h.deploy owner deployment) d.handlers
  d.counters.count .deployedProcesses 1
  d.announce deployment.id

/- Remove a process with every handler. -/
def remove
    (d : Dispatcher σ)
    (owner deploymentId : String) : Action σ DeployError Unit := do
  .forEach (fun h => h.remove owner deploymentId) d.handlers
  d.counters.count .removedProcesses 1

/- Deploy the events on a group again with every handler. -/
def updateGroup
    (d : Dispatcher σ)
    (owner : String)
    (group : DeviceGroup) : Action σ DeployError Unit :=
  .forEach (fun h => h.updateGroup owner group) d.handlers

------------------------------------------------------------
-- Queries
------------------------------------------------------------

/- Whether the answer of a handler decides about an event. -/
def isDecisive
    (status : Http.Status) : Bool :=
  status = .ok || status = .badRequest || status = .internalServerError

/- The first decisive answer of the handlers. -/
def checkWith
    (token eventId : String) :
    List (EventHandler σ) → Action σ Empty Http.Status
  | [] => return .notFound
  | h :: rest => do
    let status ← h.checkEvent token eventId
    if isDecisive status then return status
    else checkWith token eventId rest

/- Whether an event is deployed by any handler. -/
def checkEvent
    (d : Dispatcher σ)
    (token eventId : String) : Action σ Empty Http.Status :=
  checkWith token eventId d.handlers

/- States that hold if they do in either of two answers. -/
def mergeStates
    (a b : Dict Bool) : Dict Bool :=
  b.entries.foldl (fun states e => states.update e.1 false (· || e.2)) a

/- The states of the handlers, merged with those known so far. -/
def statesWith
    (token : String)
    (eventIds : List String) :
    Dict Bool → List (EventHandler σ) → Action σ DeployError (Dict Bool)
  | known, [] => return known
  | known, h :: rest => do
    let states ← h.eventStates token eventIds
    statesWith token eventIds (mergeStates known states) rest

/- Which events are deployed by any handler. -/
def eventStates
    (d : Dispatcher σ)
    (token : String)
    (eventIds : List String) : Action σ DeployError (Dict Bool) :=
  statesWith token eventIds .empty d.handlers

------------------------------------------------------------
-- Commands
------------------------------------------------------------

/-
  A user who does not exist will never be deployable, so that
  an action that fails for this reason counts as done.
-/
def ignoringMissingUser
    (a : Action σ DeployError Unit) : Action σ DeployError Unit := do
  match ← a.attempt with
  | .ok () => return ()
  | .error e => if e.isUserMissing then return () else .fail e

/- Run a command of the current version. -/
def runCommand
    (d : Dispatcher σ)
    (c : DeploymentCommand) : Action σ DeployError Unit :=
  if c.command = Verb.rights then return ()
  else if c.command = Verb.put then
    match c.owner == "", c.deployment with
    | false, some deployment =>
        ignoringMissingUser (d.deploy c.owner deployment)
    | _, _ => return ()
  else if c.command = Verb.delete then
    if c.owner == "" then return ()
    else ignoringMissingUser (d.remove c.owner c.id)
  else .fail (.unknownCommand c.command)

/-
  Handle a message about a deployment. One that can never
  succeed is dropped; of other versions only removals count.
-/
def handleDeploymentCommand
    (d : Dispatcher σ)
    (message : Json) : Action σ DeployError Unit :=
  match CommandHeader.codec.decode message with
  | none => return ()
  | some header =>
    if header.version = Deployment.currentVersion then
      match DeploymentCommand.codec.decode message with
      | none => return ()
      | some c => d.runCommand c
    else if header.command = Verb.delete then d.remove header.owner header.id
    else return ()

/- Handle a message about a device group. -/
def handleGroupCommand
    (d : Dispatcher σ)
    (message : Json) : Action σ DeployError Unit :=
  match DeviceGroupCommand.codec.decode message with
  | none => return ()
  | some c =>
    if c.command = Verb.rights then return ()
    else if c.command = Verb.put then
      ignoringMissingUser (d.updateGroup c.owner c.deviceGroup)
    else if c.command = Verb.delete then return ()
    else .fail (.unknownCommand c.command)

/- Handle a message of either topic. -/
def handle
    (d : Dispatcher σ)
    (topic : CommandTopic)
    (message : Json) : Action σ DeployError Unit :=
  match topic with
  | .deployment => d.handleDeploymentCommand message
  | .deviceGroup => d.handleGroupCommand message

/- Handle a message and count how it ended. -/
def process
    (d : Dispatcher σ)
    (topic : CommandTopic)
    (message : Json) : Action σ DeployError Unit := do
  let result ← (d.handle topic message).attempt
  d.counters.count (.commands topic result.isOk) 1
  .ofExcept result

end Dispatcher

end ProcessEvents
