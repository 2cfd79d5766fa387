import ProcessEvents.Json.Codec

/-
  This file defines what the device repository knows: devices,
  groups of devices, the services of device types with the
  paths within their values, and the functions and concepts
  that give values a meaning.

  Key definitions include:
    * `Device`, `DeviceGroup`, `DeviceInfos`
    * `ContentVariable`, `Content`, `Service`
    * `ServicePathOption`, `DeviceTypeSelectable`
    * `DeviceTypeCriteria`
    * `MeasuringFunction`, `Concept`, `Conversion`
    * `CharacterizedPath`
-/

namespace ProcessEvents

------------------------------------------------------------
-- Devices
------------------------------------------------------------

structure Device where
  id : String := ""
  name : String := ""
  deviceTypeId : String := ""
  deriving DecidableEq, Repr, Inhabited

def Device.codec : Codec Device :=
  .record
    (.pair (.text "id") <|
     .pair (.text "name") <|
     .text "device_type_id")
    (fun (id, name, deviceTypeId) => { id, name, deviceTypeId })
    (fun d => (d.id, d.name, d.deviceTypeId))

structure DeviceGroup where
  id : String := ""
  name : String := ""
  deviceIds : List String := []
  deriving DecidableEq, Repr, Inhabited

def DeviceGroup.codec : Codec DeviceGroup :=
  .record
    (.pair (.text "id") <|
     .pair (.text "name") <|
     .items "device_ids" .string)
    (fun (id, name, deviceIds) => { id, name, deviceIds })
    (fun g => (g.id, g.name, g.deviceIds))

/- Append an element unless it is there. -/
def appendNew
    {α : Type}
    [BEq α]
    (xs : List α)
    (x : α) : List α :=
  if xs.contains x then xs else xs ++ [x]

/- The distinct elements of a list, each at its first place. -/
def firstSeen
    {α : Type}
    [BEq α]
    (xs : List α) : List α :=
  xs.foldl appendNew []

/-
  Devices, and the ids of their device types in the order in
  which they are first seen.
-/
structure DeviceInfos where
  devices : List Device := []
  deviceTypeIds : List String := []
  deriving DecidableEq, Repr, Inhabited

def DeviceInfos.ofDevices
    (devices : List Device) : DeviceInfos :=
  { devices, deviceTypeIds := firstSeen (devices.map (·.deviceTypeId)) }

------------------------------------------------------------
-- Content of services
------------------------------------------------------------

/- A variable within the values of a service. -/
structure ContentVariable where
  id : String := ""
  name : String := ""
  isVoid : Bool := false
  variableType : String := ""
  subVariables : List ContentVariable := []
  characteristicId : String := ""
  value : Option Json := none
  functionId : String := ""
  aspectId : String := ""
  deriving Repr, Inhabited

namespace ContentVariable

mutual

/- How deep the variables are nested. -/
def depth : ContentVariable → Nat
  | ⟨_, _, _, _, subs, _, _, _, _⟩ => depthList subs + 1

def depthList : List ContentVariable → Nat
  | [] => 0
  | v :: rest => max (depth v) (depthList rest)

end

/- The codec of variables up to a depth of nesting. -/
def codecTo : Nat → Codec ContentVariable
  | 0 => ⟨fun _ => none, fun _ => .unreadable⟩
  | depth + 1 =>
    .record
      (.pair (.text "id") <|
       .pair (.text "name") <|
       .pair (.flag "is_void") <|
       .pair (.text "type") <|
       .pair (.items "sub_content_variables" (codecTo depth)) <|
       .pair (.text "characteristic_id") <|
       .pair (.present "value" .free) <|
       .pair (.text "function_id") <|
       .text "aspect_id")
      (fun (id, name, isVoid, variableType, subVariables, characteristicId,
          value, functionId, aspectId) =>
        { id, name, isVoid, variableType, subVariables, characteristicId,
          value, functionId, aspectId })
      (fun v =>
        (v.id, v.name, v.isVoid, v.variableType, v.subVariables,
          v.characteristicId, v.value, v.functionId, v.aspectId))

/- The codec of variables, which are nested no deeper than their text. -/
def codec : Codec ContentVariable where
  decode j := (codecTo (j.depth + 1)).decode j
  encode v := (codecTo v.depth).encode v

end ContentVariable

structure Content where
  id : String := ""
  contentVariable : ContentVariable := {}
  serialization : String := ""
  protocolSegmentId : String := ""
  deriving Repr, Inhabited

def Content.codec : Codec Content :=
  .record
    (.pair (.text "id") <|
     .pair (.field "content_variable" ContentVariable.codec {}) <|
     .pair (.text "serialization") <|
     .text "protocol_segment_id")
    (fun (id, contentVariable, serialization, protocolSegmentId) =>
      { id, contentVariable, serialization, protocolSegmentId })
    (fun c =>
      (c.id, c.contentVariable, c.serialization, c.protocolSegmentId))

structure Service where
  id : String := ""
  localId : String := ""
  name : String := ""
  description : String := ""
  interaction : String := ""
  protocolId : String := ""
  inputs : List Content := []
  outputs : List Content := []
  deriving Repr, Inhabited

def Service.codec : Codec Service :=
  .record
    (.pair (.text "id") <|
     .pair (.text "local_id") <|
     .pair (.text "name") <|
     .pair (.text "description") <|
     .pair (.text "interaction") <|
     .pair (.text "protocol_id") <|
     .pair (.items "inputs" Content.codec) <|
     .items "outputs" Content.codec)
    (fun (id, localId, name, description, interaction, protocolId, inputs,
        outputs) =>
      { id, localId, name, description, interaction, protocolId, inputs,
        outputs })
    (fun s =>
      (s.id, s.localId, s.name, s.description, s.interaction, s.protocolId,
        s.inputs, s.outputs))

------------------------------------------------------------
-- Services that fit a query
------------------------------------------------------------

/- One element of a query for services. -/
structure DeviceTypeCriteria where
  functionId : String := ""
  deviceClassId : String := ""
  aspectId : String := ""
  deriving DecidableEq, Repr, Inhabited

def DeviceTypeCriteria.codec : Codec DeviceTypeCriteria :=
  .record
    (.pair (.text "function_id") <|
     .pair (.text "device_class_id") <|
     .text "aspect_id")
    (fun (functionId, deviceClassId, aspectId) =>
      { functionId, deviceClassId, aspectId })
    (fun c => (c.functionId, c.deviceClassId, c.aspectId))

/- A path of a service that carries the requested value. -/
structure ServicePathOption where
  serviceId : String := ""
  path : String := ""
  characteristicId : String := ""
  functionId : String := ""
  isVoid : Bool := false
  value : Option Json := none
  isControllingFunction : Bool := false
  deriving Repr, Inhabited

def ServicePathOption.codec : Codec ServicePathOption :=
  .record
    (.pair (.text "service_id") <|
     .pair (.text "path") <|
     .pair (.text "characteristic_id") <|
     .pair (.text "function_id") <|
     .pair (.flag "is_void") <|
     .pair (.present "value" .free) <|
     .flag "is_controlling_function")
    (fun (serviceId, path, characteristicId, functionId, isVoid, value,
        isControllingFunction) =>
      { serviceId, path, characteristicId, functionId, isVoid, value,
        isControllingFunction })
    (fun o =>
      (o.serviceId, o.path, o.characteristicId, o.functionId, o.isVoid, o.value,
        o.isControllingFunction))

/- The services of one device type that fit a query, with their paths. -/
structure DeviceTypeSelectable where
  deviceTypeId : String := ""
  services : List Service := []
  servicePathOptions : Dict (List ServicePathOption) := .empty
  deriving Repr, Inhabited

def DeviceTypeSelectable.codec : Codec DeviceTypeSelectable :=
  .record
    (.pair (.text "device_type_id") <|
     .pair (.items "services" Service.codec) <|
     .field "service_path_options"
       (.dict (.list ServicePathOption.codec)) .empty)
    (fun (deviceTypeId, services, servicePathOptions) =>
      { deviceTypeId, services, servicePathOptions })
    (fun s => (s.deviceTypeId, s.services, s.servicePathOptions))

------------------------------------------------------------
-- Functions and concepts
------------------------------------------------------------

/- What a service measures or controls. -/
structure MeasuringFunction where
  id : String := ""
  name : String := ""
  displayName : String := ""
  description : String := ""
  conceptId : String := ""
  rdfType : String := ""
  deriving DecidableEq, Repr, Inhabited

def MeasuringFunction.codec : Codec MeasuringFunction :=
  .record
    (.pair (.text "id") <|
     .pair (.text "name") <|
     .pair (.text "display_name") <|
     .pair (.text "description") <|
     .pair (.text "concept_id") <|
     .text "rdf_type")
    (fun (id, name, displayName, description, conceptId, rdfType) =>
      { id, name, displayName, description, conceptId, rdfType })
    (fun f =>
      (f.id, f.name, f.displayName, f.description, f.conceptId, f.rdfType))

/-
  A conversion formula between two characteristics of one
  concept, for casts without a rule of their own.
-/
structure Conversion where
  source : String := ""
  target : String := ""
  distance : Int := 0
  formula : String := ""
  placeholderName : String := ""
  deriving DecidableEq, Repr, Inhabited

def Conversion.codec : Codec Conversion :=
  .record
    (.pair (.text "from") <|
     .pair (.text "to") <|
     .pair (.field "distance" .int64 0) <|
     .pair (.text "formula") <|
     .text "placeholder_name")
    (fun (source, target, distance, formula, placeholderName) =>
      { source, target, distance, formula, placeholderName })
    (fun c => (c.source, c.target, c.distance, c.formula, c.placeholderName))

structure Concept where
  id : String := ""
  name : String := ""
  characteristicIds : List String := []
  baseCharacteristicId : String := ""
  conversions : List Conversion := []
  deriving DecidableEq, Repr, Inhabited

def Concept.codec : Codec Concept :=
  .record
    (.pair (.text "id") <|
     .pair (.text "name") <|
     .pair (.items "characteristic_ids" .string) <|
     .pair (.text "base_characteristic_id") <|
     .items "conversions" Conversion.codec)
    (fun (id, name, characteristicIds, baseCharacteristicId, conversions) =>
      { id, name, characteristicIds, baseCharacteristicId, conversions })
    (fun c =>
      (c.id, c.name, c.characteristicIds, c.baseCharacteristicId,
        c.conversions))

/- A path together with the characteristic of its values. -/
structure CharacterizedPath where
  path : String
  characteristicId : String
  deriving DecidableEq, Repr, Inhabited

def CharacterizedPath.codec : Codec CharacterizedPath :=
  .record
    (.pair (.required "json_path" .string) <|
     .required "characteristic_id" .string)
    (fun (path, characteristicId) => { path, characteristicId })
    (fun p => (p.path, p.characteristicId))

end ProcessEvents
