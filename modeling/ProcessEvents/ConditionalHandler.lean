import ProcessEvents.Counter
import ProcessEvents.Describer
import ProcessEvents.EventHandler

/-
  This file defines the handler of conditional events. Each
  event becomes descriptions in a store, and each deployment
  a row in the index, by which the deployments that a device
  group concerns are found again.

  Key definitions include:
    * `ConditionalHandler`
    * `ConditionalHandler.removeEvents`
    * `ConditionalHandler.deployEvents`
    * `ConditionalHandler.deploy`
    * `ConditionalHandler.updateGroup`
    * `ConditionalHandler.checkEvent`
    * `ConditionalHandler.eventStates`
    * `ConditionalHandler.handler`
-/

namespace ProcessEvents

variable {σ : Type}

/- What the handler asks for. -/
structure ConditionalHandler (σ : Type) where
  events : EventStore σ
  index : IndexStore σ
  describer : Describer σ
  tokens : TokenIssuer σ
  counters : Counters σ

namespace ConditionalHandler

------------------------------------------------------------
-- Deployments
------------------------------------------------------------

/- Remove the descriptions and the row of a deployment. -/
def removeEvents
    (h : ConditionalHandler σ)
    (deploymentId : String) : Action σ DeployError Unit := do
  let removed ← (h.events.byDeployment deploymentId).mapError .store
  (h.events.removeByDeployment deploymentId).mapError .store
  (h.index.remove deploymentId).mapError .store
  h.counters.count .removedConditionalEvents removed.length

/- Store a description and count it. -/
def storeEvent
    (h : ConditionalHandler σ)
    (d : EventDescription) : Action σ DeployError Unit := do
  (h.events.set d.withPureIds).mapError .store
  h.counters.count .deployedConditionalEvents 1

/- Store the descriptions of a deployment, and last its row. -/
def deployEvents
    (h : ConditionalHandler σ)
    (owner : String)
    (deployment : Deployment) : Action σ DeployError Unit := do
  let _ ← (h.tokens.userToken owner).mapError .auth
  let descriptions ← h.describer.describe owner deployment
  .forEach h.storeEvent descriptions
  (h.index.set (.ofDeployment owner deployment)).mapError .store

/- Replace everything that is stored for a deployment. -/
def deploy
    (h : ConditionalHandler σ)
    (owner : String)
    (deployment : Deployment) : Action σ DeployError Unit := do
  h.removeEvents deployment.id
  h.deployEvents owner deployment

------------------------------------------------------------
-- Device groups
------------------------------------------------------------

/- The first owner that some description of a deployment names. -/
def describedOwner?
    (descriptions : List EventDescription)
    (deploymentId : String) : Option String :=
  (descriptions.find? fun d =>
    d.deploymentId == deploymentId && d.userId != "").map (·.userId)

/- The owner of a row, or else of a description; empty if there is none. -/
def ownerOf
    (descriptions : List EventDescription)
    (row : DeploymentIndex) : String :=
  if row.userId == "" then (describedOwner? descriptions row.id).getD ""
  else row.userId

/- Replace what is stored for a row, or drop it if it has no owner. -/
def redeploy
    (h : ConditionalHandler σ)
    (descriptions : List EventDescription)
    (row : DeploymentIndex) : Action σ DeployError Unit := do
  h.removeEvents row.id
  let owner := ownerOf descriptions row
  if owner == "" then return () else h.deployEvents owner row.deployment

/-
  Replace what is stored for the deployments of a group. Its
  members are looked up again, whatever the group says.
-/
def updateGroup
    (h : ConditionalHandler σ)
    (group : DeviceGroup) : Action σ DeployError Unit :=
  if group.id == "" then return ()
  else do
    match ← (h.index.byDeviceGroup group.id).mapError .store with
    | [] => return ()
    | rows => do
      let descriptions ← (h.events.byDeviceGroup group.id).mapError .store
      .forEach (h.redeploy descriptions) rows

------------------------------------------------------------
-- Queries
------------------------------------------------------------

/- Whether there is a description of an event. -/
def checkEvent
    (h : ConditionalHandler σ)
    (eventId : String) : Action σ Empty Http.Status := do
  match ← (h.events.byEvent eventId).attempt with
  | .error _ => return .internalServerError
  | .ok [] => return .notFound
  | .ok (_ :: _) => return .ok

/- Whether there is a description of an event, paired with its id. -/
def eventState
    (h : ConditionalHandler σ)
    (eventId : String) : Action σ DeployError (List (String × Bool)) := do
  let descriptions ← (h.events.byEvent eventId).mapError .store
  return [(eventId, !descriptions.isEmpty)]

/- For which events there are descriptions. -/
def eventStates
    (h : ConditionalHandler σ)
    (eventIds : List String) : Action σ DeployError (Dict Bool) := do
  let states ← .collect h.eventState eventIds
  return .ofList states

/- The handler of conditional events. -/
def handler
    (h : ConditionalHandler σ) : EventHandler σ where
  name := "conditional"
  deploy := h.deploy
  remove _ := h.removeEvents
  updateGroup _ := h.updateGroup
  checkEvent _ := h.checkEvent
  eventStates _ := h.eventStates

end ConditionalHandler

end ProcessEvents
