import ProcessEvents.Action
import ProcessEvents.Command
import ProcessEvents.Error
import ProcessEvents.EventDescription
import ProcessEvents.EventRequest
import ProcessEvents.Import

/-
  This file defines the collaborators of the service by what
  can be asked of them. Each of them acts on a state that is
  left open: a table in memory, or the world outside.

  Key definitions include:
    * `DeviceDirectory`
    * `ImportDirectory`
    * `TokenIssuer`
    * `FlowEngine`
    * `EventStore`, `IndexStore`
    * `DoneChannel`
    * `EventPipeline`
    * `FlowEngine.eventPipelines`
-/

namespace ProcessEvents

variable {σ : Type}

------------------------------------------------------------
-- Devices and imports
------------------------------------------------------------

/- Devices, and what their services measure. -/
structure DeviceDirectory (σ : Type) where
  /- The members of a group. -/
  ofGroup : String → Action σ RequestError DeviceInfos
  /- The devices with the given ids. -/
  ofDevices : List String → Action σ RequestError DeviceInfos
  /- The services of all device types that fit a query. -/
  selectables :
    List DeviceTypeCriteria → Action σ RequestError (List DeviceTypeSelectable)
  function : String → Action σ RequestError MeasuringFunction
  concept : String → Action σ RequestError Concept
  service : String → Action σ RequestError Service

/- Imports and their types, as a user sees them. -/
structure ImportDirectory (σ : Type) where
  importInstance : String → String → Action σ RequestError Import
  importType : String → String → Action σ RequestError ImportType

/- The topic that a running import is published on. -/
def ImportDirectory.topic
    (imports : ImportDirectory σ)
    (userId importId : String) : Action σ RequestError String :=
  (·.topic) <$> imports.importInstance userId importId

------------------------------------------------------------
-- Tokens
------------------------------------------------------------

/- Tokens of the service itself and of its users. -/
structure TokenIssuer (σ : Type) where
  adminToken : Action σ AuthError BearerToken
  userToken : String → Action σ AuthError BearerToken

------------------------------------------------------------
-- Pipelines
------------------------------------------------------------

/- Flows and the pipelines that run them, as a user sees them. -/
structure FlowEngine (σ : Type) where
  /- The operators of a flow. -/
  flowInputs : String → String → Action σ RequestError (List FlowCell)
  create :
    BearerToken → String → PipelineRequest → Action σ RequestError Pipeline
  /- Replace the pipeline that the request names. -/
  update :
    BearerToken → String → PipelineRequest → Action σ RequestError Pipeline
  remove : String → String → Action σ RequestError Unit
  /- All pipelines of a user, whoever has created them. -/
  list : String → Action σ RequestError (List Pipeline)

/- A pipeline together with the record in its description. -/
structure EventPipeline where
  id : String
  name : String
  description : PipelineDescription
  deriving DecidableEq, Repr

/- A pipeline whose description is a record of ours. -/
def EventPipeline.ofPipeline?
    (p : Pipeline) : Option EventPipeline :=
  (PipelineDescription.parse? p.description).map fun description =>
    { id := p.id.toText, name := p.name, description }

/- The pipelines of a user that have been created for events. -/
def FlowEngine.eventPipelines
    (engine : FlowEngine σ)
    (userId : String) : Action σ RequestError (List EventPipeline) :=
  (·.filterMap EventPipeline.ofPipeline?) <$> engine.list userId

------------------------------------------------------------
-- Stores
------------------------------------------------------------

/- The descriptions of conditional events. -/
structure EventStore (σ : Type) where
  /- Put a description, in place of one with its key. -/
  set : EventDescription → Action σ StoreError Unit
  removeByDeployment : String → Action σ StoreError Unit
  byEvent : String → Action σ StoreError (List EventDescription)
  byDeviceGroup : String → Action σ StoreError (List EventDescription)
  byDeployment : String → Action σ StoreError (List EventDescription)

/- The deployments with conditional events. -/
structure IndexStore (σ : Type) where
  set : DeploymentIndex → Action σ StoreError Unit
  remove : String → Action σ StoreError Unit
  /- The deployments with an event on a group. -/
  byDeviceGroup : String → Action σ StoreError (List DeploymentIndex)

------------------------------------------------------------
-- Notifications
------------------------------------------------------------

/- Where the end of a deployment is announced, under a key. -/
structure DoneChannel (σ : Type) where
  produce : String → DoneNotification → Action σ DeployError Unit

end ProcessEvents
