import ProcessEvents.Deployment
import ProcessEvents.Device

/-
  This file defines the records kept for conditional events:
  one description for each script and source, and one index
  row for each deployment with its device groups.

  Key definitions include:
    * `EventDescription`
    * `EventDescription.Key`
    * `EventDescription.key`
    * `DeploymentIndex`
    * `DeploymentIndex.ofDeployment`
-/

namespace ProcessEvents

------------------------------------------------------------
-- Event descriptions
------------------------------------------------------------

/-
  A script with the source it reads, as the event worker
  finds it: one for each device and service, or import.
-/
structure EventDescription where
  userId : String := ""
  deploymentId : String := ""
  deviceGroupId : String := ""
  deviceId : String := ""
  serviceId : String := ""
  importId : String := ""
  script : String := ""
  valueVariable : String := ""
  bindings : Dict String := .empty
  qos : Int := 0
  eventId : String := ""
  characteristicId : String := ""
  functionId : String := ""
  aspectId : String := ""
  path : String := ""
  serviceForMarshaller : Service := {}
  deriving Repr, Inhabited

namespace EventDescription

def codec : Codec EventDescription :=
  .record
    (.pair (.text "user_id") <|
     .pair (.text "deployment_id") <|
     .pair (.text "device_group_id") <|
     .pair (.text "device_id") <|
     .pair (.text "service_id") <|
     .pair (.text "import_id") <|
     .pair (.text "script") <|
     .pair (.text "value_variable") <|
     .pair (.field "variables" (.dict .string) .empty) <|
     .pair (.field "qos" .int32 0) <|
     .pair (.text "event_id") <|
     .pair (.text "characteristic_id") <|
     .pair (.text "function_id") <|
     .pair (.text "aspect_id") <|
     .pair (.text "path") <|
     .field "service_for_marshaller" Service.codec {})
    (fun (userId, deploymentId, deviceGroupId, deviceId, serviceId, importId,
        script, valueVariable, bindings, qos, eventId, characteristicId,
        functionId, aspectId, path, serviceForMarshaller) =>
      { userId, deploymentId, deviceGroupId, deviceId, serviceId, importId,
        script, valueVariable, bindings, qos, eventId, characteristicId,
        functionId, aspectId, path, serviceForMarshaller })
    (fun d =>
      (d.userId, d.deploymentId, d.deviceGroupId, d.deviceId, d.serviceId,
        d.importId, d.script, d.valueVariable, d.bindings, d.qos, d.eventId,
        d.characteristicId, d.functionId, d.aspectId, d.path,
        d.serviceForMarshaller))

/- What tells two stored descriptions apart. -/
structure Key where
  deploymentId : String
  eventId : String
  deviceId : String
  serviceId : String
  importId : String
  deriving DecidableEq, Repr

def key
    (d : EventDescription) : Key :=
  { deploymentId := d.deploymentId
    eventId := d.eventId
    deviceId := d.deviceId
    serviceId := d.serviceId
    importId := d.importId }

end EventDescription

------------------------------------------------------------
-- Index rows
------------------------------------------------------------

/-
  A deployment with conditional events, and the device
  groups that they refer to.
-/
structure DeploymentIndex where
  id : String := ""
  userId : String := ""
  deployment : Deployment := {}
  deviceGroups : List String := []
  deriving Repr, Inhabited

namespace DeploymentIndex

def codec : Codec DeploymentIndex :=
  .record
    (.pair (.text "id") <|
     .pair (.text "user_id") <|
     .pair (.field "deployment" Deployment.codec {}) <|
     .items "device_groups" .string)
    (fun (id, userId, deployment, deviceGroups) =>
      { id, userId, deployment, deviceGroups })
    (fun i => (i.id, i.userId, i.deployment, i.deviceGroups))

/-
  The index row of a deployment: its groups are those of its
  conditional events, each once, in first-seen order.
-/
def ofDeployment
    (userId : String)
    (deployment : Deployment) : DeploymentIndex :=
  { id := deployment.id
    userId
    deployment
    deviceGroups :=
      firstSeen
        (deployment.conditionalEvents.filterMap fun e =>
          nonEmpty? e.selection.deviceGroupId) }

end DeploymentIndex

end ProcessEvents
