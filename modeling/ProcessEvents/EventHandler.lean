import ProcessEvents.Action
import ProcessEvents.Deployment
import ProcessEvents.Device
import ProcessEvents.Error

/-
  This file defines what a handler of events is: it deploys
  and removes one kind of event of a process, and tells which
  events it has deployed.

  Key definitions include:
    * `EventHandler`
-/

namespace ProcessEvents

/-
  A handler for one kind of event. What it deploys belongs
  to the id of a deployment, and a deployment replaces all
  that has been deployed for its id before.
-/
structure EventHandler (σ : Type) where
  name : String
  deploy : String → Deployment → Action σ DeployError Unit
  remove : String → String → Action σ DeployError Unit
  /- Deploy all events on a group again after its members have changed. -/
  updateGroup : String → DeviceGroup → Action σ DeployError Unit
  /-
    Whether an event is deployed: found, not found, or why
    there is no answer.
  -/
  checkEvent : String → String → Action σ Empty Http.Status
  /- Which of several events are deployed. -/
  eventStates : String → List String → Action σ DeployError (Dict Bool)

end ProcessEvents
