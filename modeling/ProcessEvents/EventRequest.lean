import ProcessEvents.Config
import ProcessEvents.Expansion
import ProcessEvents.Ident
import ProcessEvents.Pipeline
import ProcessEvents.Text

/-
  This file defines the pipeline requests of events. It is
  pure: flows, topics and conversions are resolved before.

  Key definitions include:
    * `RequestSettings`
    * `BearerToken`
    * `DeviceEvent`
    * `SourceEvent`
    * `SourceEvent.ofDescription`
    * `Cast`
    * `DeviceEvent.request`
    * `DeviceEvent.marshallerRequest`
    * `SourceEvent.groupRequest`
    * `SourceEvent.importRequest`
    * `SourceEvent.genericRequest`
-/

namespace ProcessEvents

------------------------------------------------------------
-- Inputs of the builders
------------------------------------------------------------

/- The settings that end up within requests. -/
structure RequestSettings where
  eventTriggerUrl : String := ""
  converterUrl : String := ""
  extendedConverterUrl : String := ""
  marshallerUrl : String := ""
  devicePathPrefix : String := ""
  groupPathPrefix : String := ""
  enableMultiplePaths : Bool := false
  deriving DecidableEq, Repr, Inhabited

def RequestSettings.ofConfig
    (c : Config) : RequestSettings :=
  { eventTriggerUrl := c.eventTriggerUrl
    converterUrl := c.converterUrl
    extendedConverterUrl := c.extendedConverterUrl
    marshallerUrl := c.marshallerUrl
    devicePathPrefix := c.devicePathPrefix
    groupPathPrefix := c.groupPathPrefix
    enableMultiplePaths := c.enableMultiplePaths }

/- A token as it stands in an authorization header. -/
structure BearerToken where
  text : String
  deriving DecidableEq, Repr

/- The header text of an access token. -/
def BearerToken.ofAccess
    (accessToken : String) : BearerToken :=
  ⟨"Bearer " ++ accessToken⟩

/- An event on one service of one device. -/
structure DeviceEvent where
  deploymentId : String := ""
  flowId : String := ""
  eventId : String := ""
  deviceId : String := ""
  serviceId : String := ""
  operatorValue : String := ""
  path : String := ""
  functionId : String := ""
  aspectId : String := ""
  characteristicId : String := ""
  deriving DecidableEq, Repr, Inhabited

/-
  An event on any other source. Devices are given by the id
  of their group, or one by one.
-/
structure SourceEvent where
  deviceGroupId : String := ""
  deviceIds : Option (List String) := none
  importId : String := ""
  genericSource : Option GenericSource := none
  eventId : String := ""
  deploymentId : String := ""
  functionId : String := ""
  aspectId : String := ""
  characteristicId : String := ""
  flowId : String := ""
  operatorValue : String := ""
  path : String := ""
  useMarshaller : Bool := false
  deriving DecidableEq, Repr, Inhabited

/- The event of an existing group pipeline. -/
def SourceEvent.ofDescription
    (d : PipelineDescription) : SourceEvent :=
  { deviceGroupId := d.deviceGroupId
    eventId := d.eventId
    deploymentId := d.deploymentId
    functionId := d.functionId
    aspectId := d.aspectId
    characteristicId := d.characteristicId
    flowId := d.flowId
    operatorValue := d.operatorValue
    useMarshaller := d.useMarshaller }

/- A conversion of the event's value before it is compared. -/
structure Cast where
  source : String := ""
  target : String := ""
  conversions : List Conversion := []
  deriving DecidableEq, Repr, Inhabited

namespace Cast

/- Whether there is something to convert. -/
def differs
    (c : Cast) : Bool :=
  c.source != c.target

/- Whether both ends are known as well. -/
def differsAndKnown
    (c : Cast) : Bool :=
  c.differs && c.source != "" && c.target != ""

end Cast

------------------------------------------------------------
-- Settings of nodes
------------------------------------------------------------

namespace EventRequest

/- Type of a filter on devices. -/
def deviceFilter : String :=
  "deviceId"

/- Type of a filter on imports. -/
def importFilter : String :=
  "ImportId"

/- The value of an event, read from a path. -/
def value
    (path : String) : NodeValue :=
  { name := "value", path }

/- The settings that every event has in front. -/
def leadingConfig
    (s : RequestSettings)
    (operatorValue eventId : String) : List NodeConfig :=
  [⟨"value", operatorValue⟩, ⟨"url", s.eventTriggerUrl⟩, ⟨"eventId", eventId⟩]

/- The token of the owner, which every event has at the end. -/
def tokenConfig
    (token : BearerToken) : List NodeConfig :=
  [⟨"userToken", token.text⟩]

/- Conversions as text; none are the empty text. -/
def conversionsText
    (conversions : List Conversion) : String :=
  if conversions.isEmpty then ""
  else ((Codec.list Conversion.codec).encode conversions).toText

/- The settings of the converter, all empty unless it is active. -/
def converterConfig
    (s : RequestSettings)
    (cast : Cast)
    (active : Bool) : List NodeConfig :=
  if active then
    [⟨"converterUrl", s.converterUrl⟩,
      ⟨"extendedConverterUrl", s.extendedConverterUrl⟩,
      ⟨"convertFrom", cast.source⟩,
      ⟨"convertTo", cast.target⟩,
      ⟨"castExtensions", conversionsText cast.conversions⟩]
  else
    [⟨"converterUrl", ""⟩,
      ⟨"extendedConverterUrl", ""⟩,
      ⟨"convertFrom", ""⟩,
      ⟨"convertTo", ""⟩,
      ⟨"castExtensions", ""⟩]

/- A prefix of paths that stands alone loses its dots at the end. -/
def trimDots
    (pathPrefix : String) : String :=
  String.ofList (Text.dropEndWhile (· == '.') pathPrefix.toList)

/- A request with a single node. -/
def singleNode
    (label flowId : String)
    (description : PipelineDescription)
    (nodeId : String)
    (inputs : List NodeInput)
    (config : List NodeConfig) : PipelineRequest :=
  { flowId
    name := label
    description := description.toText
    nodes := [{ nodeId, inputs, config }] }

end EventRequest

open EventRequest

------------------------------------------------------------
-- Device events
------------------------------------------------------------

namespace DeviceEvent

/- The record of a device event. -/
def description
    (e : DeviceEvent)
    (useMarshaller : Bool) : PipelineDescription :=
  { deviceId := e.deviceId
    serviceId := e.serviceId
    valuePath := e.path
    operatorValue := e.operatorValue
    eventId := e.eventId
    deploymentId := e.deploymentId
    characteristicId := e.characteristicId
    useMarshaller }

/- The topic of the service, filtered by the device. -/
def input
    (e : DeviceEvent)
    (path : String) : NodeInput :=
  { filterIds := e.deviceId
    filterType := deviceFilter
    topicName := Ident.topic e.serviceId
    values := [value path] }

/- A device event whose value stands on a fixed path. -/
def request
    (s : RequestSettings)
    (token : BearerToken)
    (label nodeId : String)
    (e : DeviceEvent)
    (cast : Cast) : PipelineRequest :=
  singleNode label e.flowId (e.description false) nodeId [e.input e.path]
    (leadingConfig s e.operatorValue e.eventId ++
      converterConfig s cast cast.differs ++
      tokenConfig token)

/- A device event whose value the marshaller extracts. -/
def marshallerRequest
    (s : RequestSettings)
    (token : BearerToken)
    (label nodeId : String)
    (e : DeviceEvent) : PipelineRequest :=
  singleNode label e.flowId (e.description true) nodeId
    [e.input (trimDots s.devicePathPrefix)]
    (leadingConfig s e.operatorValue e.eventId ++
      [⟨"marshallerUrl", s.marshallerUrl⟩,
        ⟨"path", e.path⟩,
        ⟨"functionId", e.functionId⟩,
        ⟨"aspectNodeId", e.aspectId⟩] ++
      tokenConfig token)

end DeviceEvent

------------------------------------------------------------
-- Group events
------------------------------------------------------------

namespace SourceEvent

/- The values of one service of a group. -/
def groupValues
    (s : RequestSettings)
    (useMarshaller : Bool)
    (paths : List String) : List NodeValue :=
  if useMarshaller then [value (trimDots s.groupPathPrefix)]
  else if s.enableMultiplePaths then
    paths.map fun p => value (s.groupPathPrefix ++ p)
  else (paths.take 1).map fun p => value (s.groupPathPrefix ++ p)

/- The input of one service, if it has devices and paths. -/
def groupInput?
    (s : RequestSettings)
    (x : Expansion)
    (useMarshaller : Bool)
    (serviceId : String) : Option NodeInput :=
  let deviceIds := (x.serviceToDevices.getD serviceId []).map Ident.pure
  let paths := x.serviceToPaths.getD serviceId []
  if deviceIds.isEmpty || paths.isEmpty then none
  else some
    { filterIds := Ident.joined deviceIds
      filterType := deviceFilter
      topicName := Ident.topic serviceId
      values := groupValues s useMarshaller paths }

/- One input for each service of an expansion. -/
def groupInputs
    (s : RequestSettings)
    (x : Expansion)
    (useMarshaller : Bool) : List NodeInput :=
  x.serviceIds.filterMap (groupInput? s x useMarshaller)

/- The service of each topic; of services on one topic the last one. -/
def topicToService
    (x : Expansion) : Dict String :=
  .ofList (x.serviceIds.map fun id => (Ident.topic id, id))

/- The paths on each topic; of services on one topic those of the last. -/
def topicToPaths
    (x : Expansion) : Dict (List CharacterizedPath) :=
  .ofList
    (x.serviceToCharacterizedPaths.entries.map fun e => (Ident.topic e.1, e.2))

/- The settings of a group event between the leading ones and the token. -/
def groupConfig
    (s : RequestSettings)
    (e : SourceEvent)
    (x : Expansion)
    (conversions : List Conversion) : List NodeConfig :=
  if e.useMarshaller then
    [⟨"marshallerUrl", s.marshallerUrl⟩,
      ⟨"functionId", e.functionId⟩,
      ⟨"aspectNodeId", e.aspectId⟩,
      ⟨"targetCharacteristicId", e.characteristicId⟩,
      ⟨"topicToServiceId",
        ((Codec.dict Codec.string).encode (topicToService x)).toText⟩]
  else
    [⟨"converterUrl", s.converterUrl⟩,
      ⟨"extendedConverterUrl", s.extendedConverterUrl⟩,
      ⟨"convertFrom", ""⟩,
      ⟨"convertTo", e.characteristicId⟩,
      ⟨"castExtensions", conversionsText conversions⟩,
      ⟨"topicToPathAndCharacteristic",
        ((Codec.dict (Codec.list CharacterizedPath.codec)).encode
          (topicToPaths x)).toText⟩]

/- The record of a group event. -/
def groupDescription
    (e : SourceEvent) : PipelineDescription :=
  { deviceGroupId := e.deviceGroupId
    functionId := e.functionId
    aspectId := e.aspectId
    characteristicId := e.characteristicId
    operatorValue := e.operatorValue
    eventId := e.eventId
    deploymentId := e.deploymentId
    flowId := e.flowId
    useMarshaller := e.useMarshaller }

/- An event on all devices of an expansion. -/
def groupRequest
    (s : RequestSettings)
    (token : BearerToken)
    (label nodeId : String)
    (e : SourceEvent)
    (x : Expansion)
    (conversions : List Conversion) : PipelineRequest :=
  singleNode label e.flowId e.groupDescription nodeId
    (groupInputs s x e.useMarshaller)
    (leadingConfig s e.operatorValue e.eventId ++
      groupConfig s e x conversions ++
      tokenConfig token)

------------------------------------------------------------
-- Import and generic events
------------------------------------------------------------

/- The record of an import event. -/
def importDescription
    (e : SourceEvent) : PipelineDescription :=
  { importId := e.importId
    functionId := e.functionId
    aspectId := e.aspectId
    characteristicId := e.characteristicId
    operatorValue := e.operatorValue
    eventId := e.eventId
    deploymentId := e.deploymentId
    flowId := e.flowId }

/- An event on the topic of an import. -/
def importRequest
    (s : RequestSettings)
    (token : BearerToken)
    (label nodeId : String)
    (e : SourceEvent)
    (topic path : String)
    (cast : Cast) : PipelineRequest :=
  singleNode label e.flowId e.importDescription nodeId
    [{ filterIds := e.importId
       filterType := importFilter
       topicName := topic
       values := [value path] }]
    (leadingConfig s e.operatorValue e.eventId ++
      converterConfig s cast cast.differs ++
      tokenConfig token)

/- The record of an event on a generic source. -/
def genericDescription
    (e : SourceEvent)
    (source : GenericSource) : PipelineDescription :=
  { genericSource := some source
    functionId := e.functionId
    aspectId := e.aspectId
    characteristicId := e.characteristicId
    operatorValue := e.operatorValue
    eventId := e.eventId
    deploymentId := e.deploymentId
    flowId := e.flowId }

/-
  An event on a generic source, which is passed through. It
  is converted only if both characteristics are known.
-/
def genericRequest
    (s : RequestSettings)
    (token : BearerToken)
    (label nodeId : String)
    (e : SourceEvent)
    (source : GenericSource)
    (path : String)
    (cast : Cast) : PipelineRequest :=
  singleNode label e.flowId (e.genericDescription source) nodeId
    [{ filterIds := source.filterIds
       filterType := source.filterType
       topicName := source.topic
       values := [value path] }]
    (leadingConfig s e.operatorValue e.eventId ++
      converterConfig s cast cast.differsAndKnown ++
      tokenConfig token)

end SourceEvent

end ProcessEvents
