import ProcessEvents.Json.Embedding
import ProcessEvents.Json.Writer
import ProcessEvents.Selection
import ProcessEvents.Uuid

/-
  This file defines analytics pipelines: the request that
  creates one, the pipeline as the platform lists it, and
  the record that is kept as its description text.

  Key definitions include:
    * `NodeConfig`, `NodeValue`, `NodeInput`, `PipelineNode`
    * `PipelineRequest`
    * `PipelineRequest.configValue?`
    * `Pipeline`
    * `FlowCell`
    * `PipelineDescription`
    * `PipelineDescription.toText`
    * `PipelineDescription.parse?`
-/

namespace ProcessEvents

------------------------------------------------------------
-- Requests
------------------------------------------------------------

/- A named setting of a node. -/
structure NodeConfig where
  name : String := ""
  value : String := ""
  deriving DecidableEq, Repr, Inhabited

def NodeConfig.codec : Codec NodeConfig :=
  .record
    (.pair (.text "name") <| .text "value")
    (fun (name, value) => { name, value })
    (fun c => (c.name, c.value))

/- A named value of an input, read from a path. -/
structure NodeValue where
  name : String := ""
  path : String := ""
  deriving DecidableEq, Repr, Inhabited

def NodeValue.codec : Codec NodeValue :=
  .record
    (.pair (.text "name") <| .text "path")
    (fun (name, path) => { name, path })
    (fun v => (v.name, v.path))

/- A topic that a node reads, with the filter on its messages. -/
structure NodeInput where
  filterIds : String := ""
  filterType : String := ""
  topicName : String := ""
  values : List NodeValue := []
  deriving DecidableEq, Repr, Inhabited

def NodeInput.codec : Codec NodeInput :=
  .record
    (.pair (.text "filterIds") <|
     .pair (.text "filterType") <|
     .pair (.text "topicName") <|
     .items "values" NodeValue.codec)
    (fun (filterIds, filterType, topicName, values) =>
      { filterIds, filterType, topicName, values })
    (fun i => (i.filterIds, i.filterType, i.topicName, i.values))

structure PipelineNode where
  nodeId : String := ""
  inputs : List NodeInput := []
  config : List NodeConfig := []
  deriving DecidableEq, Repr, Inhabited

def PipelineNode.codec : Codec PipelineNode :=
  .record
    (.pair (.text "nodeId") <|
     .pair (.items "inputs" NodeInput.codec) <|
     .items "config" NodeConfig.codec)
    (fun (nodeId, inputs, config) => { nodeId, inputs, config })
    (fun n => (n.nodeId, n.inputs, n.config))

/- What the flow engine needs to run a flow; the id only to replace one. -/
structure PipelineRequest where
  id : String := ""
  flowId : String := ""
  name : String := ""
  description : String := ""
  windowTime : Int := 0
  nodes : List PipelineNode := []
  deriving DecidableEq, Repr, Inhabited

namespace PipelineRequest

def codec : Codec PipelineRequest :=
  .record
    (.pair ((Fields.text "id").omitting (· == "")) <|
     .pair (.text "flowId") <|
     .pair (.text "name") <|
     .pair (.text "description") <|
     .pair (.field "windowTime" .int64 0) <|
     .items "nodes" PipelineNode.codec)
    (fun (id, flowId, name, description, windowTime, nodes) =>
      { id, flowId, name, description, windowTime, nodes })
    (fun r => (r.id, r.flowId, r.name, r.description, r.windowTime, r.nodes))

/- A setting of the first node. -/
def configValue?
    (r : PipelineRequest)
    (name : String) : Option String := do
  let node ← r.nodes.head?
  let entry ← node.config.find? (·.name == name)
  return entry.value

end PipelineRequest

------------------------------------------------------------
-- Listed pipelines and flows
------------------------------------------------------------

def Uuid.codec : Codec Uuid :=
  Codec.string.refine Uuid.parse? Uuid.toText

/- A pipeline as the platform lists it. -/
structure Pipeline where
  id : Uuid := .nil
  name : String := ""
  description : String := ""
  deriving DecidableEq, Repr, Inhabited

def Pipeline.codec : Codec Pipeline :=
  .record
    (.pair (.field "id" Uuid.codec .nil) <|
     .pair (.text "name") <|
     .text "description")
    (fun (id, name, description) => { id, name, description })
    (fun p => (p.id, p.name, p.description))

/- One operator of a flow. -/
structure FlowCell where
  id : String := ""
  name : String := ""
  deploymentType : String := ""
  operatorId : String := ""
  deriving DecidableEq, Repr, Inhabited

def FlowCell.codec : Codec FlowCell :=
  .record
    (.pair (.text "id") <|
     .pair (.text "name") <|
     .pair (.text "deploymentType") <|
     .text "operatorId")
    (fun (id, name, deploymentType, operatorId) =>
      { id, name, deploymentType, operatorId })
    (fun c => (c.id, c.name, c.deploymentType, c.operatorId))

------------------------------------------------------------
-- Descriptions
------------------------------------------------------------

/-
  The record that ties a pipeline to the event it was
  created for. It is kept as the pipeline's description.
-/
structure PipelineDescription where
  deviceId : String := ""
  serviceId : String := ""
  valuePath : String := ""
  operatorValue : String := ""
  eventId : String := ""
  deploymentId : String := ""
  deviceGroupId : String := ""
  functionId : String := ""
  aspectId : String := ""
  characteristicId : String := ""
  flowId : String := ""
  importId : String := ""
  genericSource : Option GenericSource := none
  useMarshaller : Bool := false
  deriving DecidableEq, Repr, Inhabited

namespace PipelineDescription

def codec : Codec PipelineDescription :=
  .record
    (.pair (.text "device_id") <|
     .pair (.text "service_id") <|
     .pair (.text "value_path") <|
     .pair (.text "operator_value") <|
     .pair (.text "event_id") <|
     .pair (.text "deployment_id") <|
     .pair (.text "device_group_id") <|
     .pair (.text "function_id") <|
     .pair (.text "aspect_id") <|
     .pair (.text "characteristic_id") <|
     .pair (.text "flow_id") <|
     .pair (.text "import_id") <|
     .pair (.optional "generic_event_source" GenericSource.codec) <|
     .flag "use_marshaller")
    (fun (deviceId, serviceId, valuePath, operatorValue, eventId, deploymentId,
        deviceGroupId, functionId, aspectId, characteristicId, flowId, importId,
        genericSource, useMarshaller) =>
      { deviceId, serviceId, valuePath, operatorValue, eventId, deploymentId,
        deviceGroupId, functionId, aspectId, characteristicId, flowId, importId,
        genericSource, useMarshaller })
    (fun d =>
      (d.deviceId, d.serviceId, d.valuePath, d.operatorValue, d.eventId,
        d.deploymentId, d.deviceGroupId, d.functionId, d.aspectId,
        d.characteristicId, d.flowId, d.importId, d.genericSource,
        d.useMarshaller))

/- The description text of a record. -/
def toText
    (d : PipelineDescription) : String :=
  (codec.encode d).toText

/-
  The record of a description text. A text that is not an
  object, or whose members have other types, is not ours.
-/
def parse?
    (text : String) : Option PipelineDescription :=
  match Json.readFree? text with
  | some (.obj members) => codec.decode (.obj members)
  | _ => none

end PipelineDescription

end ProcessEvents
