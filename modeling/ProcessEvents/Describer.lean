import ProcessEvents.Collaborator
import ProcessEvents.Expansion.Lookup

/-
  This file defines how conditional events are described: by
  one event description for each device and service, or by
  one for an import.

  Key definitions include:
    * `ImportType.asService`
    * `ConditionalEvent.template`
    * `tolerated`
    * `Describer`
    * `Describer.describe`

  A lookup that fails with an internal error ends all of it.
  Any other failure only drops the event, or the device, that
  it was made for.
-/

namespace ProcessEvents

variable {σ α : Type}

------------------------------------------------------------
-- Imports as services
------------------------------------------------------------

mutual

/- A variable of an import as a variable of a service. -/
def ImportVariable.asContent : ImportVariable → ContentVariable
  | ⟨name, variableType, characteristicId, subs, _, functionId, aspectId⟩ =>
    { name
      variableType
      subVariables := ImportVariable.asContents subs
      characteristicId
      functionId
      aspectId }

def ImportVariable.asContents : List ImportVariable → List ContentVariable
  | [] => []
  | v :: rest => ImportVariable.asContent v :: ImportVariable.asContents rest

end

/- A type of imports as a service with a single output. -/
def ImportType.asService
    (t : ImportType) : Service :=
  { id := t.id
    name := t.name
    interaction := "event"
    outputs :=
      [{ id := t.id
         contentVariable := t.output.asContent
         serialization := "json" }] }

------------------------------------------------------------
-- Parts of descriptions
------------------------------------------------------------

/- What all descriptions of an event have in common. -/
def ConditionalEvent.template
    (e : ConditionalEvent)
    (owner deploymentId : String) : EventDescription :=
  let criteria := e.selection.filterCriteria
  { userId := owner
    deploymentId
    script := e.script
    valueVariable := e.valueVariable
    bindings := e.bindings
    qos := e.qos
    eventId := e.eventId
    characteristicId := criteria.characteristicId.getD ""
    functionId := criteria.functionId.getD ""
    aspectId := criteria.aspectId.getD ""
    path := (e.selection.path.map (·.path)).getD "" }

/- A description for one service of one device. -/
def EventDescription.onDevice
    (d : EventDescription)
    (deviceId : String)
    (service : Service) : EventDescription :=
  { d with
    deviceId
    serviceId := service.id
    serviceForMarshaller := service }

/- A description whose ids have no modifier parameters. -/
def EventDescription.withPureIds
    (d : EventDescription) : EventDescription :=
  { d with
    deviceId := Ident.pure d.deviceId
    serviceId := Ident.pure d.serviceId }

/- The services of a device type, in listing order. -/
def servicesOf
    (selectables : List DeviceTypeSelectable)
    (deviceTypeId : String) : List Service :=
  (selectables.filter fun s => s.deviceTypeId = deviceTypeId).flatMap
    (·.services)

/-
  A lookup whose failure means that there is nothing to be
  found, unless it is an internal error.
-/
def tolerated
    (lookup : Action σ RequestError α) : Action σ DeployError (Option α) := do
  match ← lookup.attempt with
  | .ok x => return some x
  | .error e => if e.isInternal then .fail (.request e) else return none

------------------------------------------------------------
-- Descriptions of events
------------------------------------------------------------

/- What is asked while events are described. -/
structure Describer (σ : Type) where
  devices : DeviceDirectory σ
  imports : ImportDirectory σ

namespace Describer

/-
  Device types by the id of their device; of several devices
  with one id the last one counts.
-/
def listedTypes
    (devices : List Device) : Dict String :=
  .ofList (devices.map fun d => (d.id, d.deviceTypeId))

/-
  The type of a device, with the types that are known from
  then on. A device whose listed type is empty is looked up
  on its own.
-/
def deviceType
    (r : Describer σ)
    (known : Dict String)
    (deviceId : String) :
    Action σ DeployError (Option String × Dict String) :=
  match nonEmpty? (known.get? deviceId) with
  | some typeId => return (some typeId, known)
  | none => do
    match ← tolerated (r.devices.ofDevices [deviceId]) with
    | none => return (none, known)
    | some infos =>
      match infos.devices with
      | [] => return (none, known)
      | device :: _ =>
        return (some device.deviceTypeId,
          known.insert device.id device.deviceTypeId)

/- The descriptions of each device with each service of its type. -/
def fanOut
    (r : Describer σ)
    (d : EventDescription)
    (selectables : List DeviceTypeSelectable) :
    Dict String → List Device → Action σ DeployError (List EventDescription)
  | _, [] => return []
  | known, device :: rest => do
    let (typeId, known) ← r.deviceType known device.id
    let services := (typeId.map (servicesOf selectables)).getD []
    let more ← fanOut r d selectables known rest
    return services.map (d.onDevice device.id) ++ more

/- The descriptions on devices, for services that deliver the value. -/
def onDevices
    (r : Describer σ)
    (d : EventDescription)
    (devices : List Device) : Action σ DeployError (List EventDescription) := do
  match ← tolerated
    (r.devices.selectables [.measuring d.functionId d.aspectId]) with
  | none => return []
  | some selectables => r.fanOut d selectables (listedTypes devices) devices

/- The descriptions on the devices of a source. -/
def onSource
    (r : Describer σ)
    (d : EventDescription)
    (source : ExpansionSource) :
      Action σ DeployError (List EventDescription) := do
  match ← tolerated (r.devices.infosOf source) with
  | none => return []
  | some infos => r.onDevices d infos.devices

/- The description on one service of one device. -/
def onService
    (r : Describer σ)
    (d : EventDescription)
    (deviceId serviceId : String) :
      Action σ DeployError (List EventDescription) := do
  match ← tolerated (r.devices.service (Ident.pure serviceId)) with
  | none => return []
  | some service =>
    return [{ d with
      deviceId := Ident.pure deviceId
      serviceId := Ident.pure serviceId
      serviceForMarshaller := service }]

/- The description on an import. -/
def onImport
    (r : Describer σ)
    (d : EventDescription)
    (importId : String) : Action σ DeployError (List EventDescription) := do
  match ← tolerated (r.imports.importInstance d.userId importId) with
  | none => return []
  | some running =>
    match ← tolerated (r.imports.importType d.userId running.importTypeId) with
    | none => return []
    | some importType =>
      return [{ d with importId, serviceForMarshaller := importType.asService }]

/-
  The descriptions of an event. Events without characteristic
  and events on generic sources have none.
-/
def describeEvent
    (r : Describer σ)
    (owner deploymentId : String)
    (e : ConditionalEvent) : Action σ DeployError (List EventDescription) :=
  let d := e.template owner deploymentId
  match e.selection.filterCriteria.characteristicId, e.selection.kind with
  | none, _ => return []
  | some _, some (.deviceGroup groupId) =>
    r.onSource { d with deviceGroupId := groupId } (.group groupId)
  | some _, some (.deviceWithService deviceId serviceId) =>
    r.onService d deviceId serviceId
  | some _, some (.deviceWithoutService deviceId) =>
    r.onSource d (.devices [deviceId])
  | some _, some (.importInstance importId) => r.onImport d importId
  | some _, some (.generic _) => return []
  | some _, none => return []

/- The descriptions of all conditional events, in element order. -/
def describe
    (r : Describer σ)
    (owner : String)
    (deployment : Deployment) : Action σ DeployError (List EventDescription) :=
  .collect (r.describeEvent owner deployment.id) deployment.conditionalEvents

end Describer

end ProcessEvents
