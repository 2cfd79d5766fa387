import ProcessEvents.Claims
import ProcessEvents.Counter
import ProcessEvents.EventHandler
import ProcessEvents.Expansion.Lookup

/-
  This file defines the handler of message events. Each event
  becomes a pipeline; the records in the descriptions of the
  pipelines are the only link back to deployments, so that
  the handler keeps no state of its own.

  Key definitions include:
    * `AnalyticsHandler`
    * `AnalyticsHandler.sourceRequest`
    * `AnalyticsHandler.elementRequest`
    * `AnalyticsHandler.deployElement`
    * `AnalyticsHandler.deploy`, `AnalyticsHandler.remove`
    * `AnalyticsHandler.updateGroup`
    * `AnalyticsHandler.checkEvent`
    * `AnalyticsHandler.eventStates`
    * `AnalyticsHandler.handler`

  What is asked of the collaborators comes first and ends in
  a request, which is then acted upon. Events that can never
  be deployed as they are given have no request and are
  skipped: the deployment goes on without them.
-/

namespace ProcessEvents

variable {σ : Type}

/- The settings of the handler and what it asks for. -/
structure AnalyticsHandler (σ : Type) where
  settings : RequestSettings
  importPathPrefix : String
  genericSourcePathPrefix : String
  groupsEnabled : Bool
  engine : FlowEngine σ
  devices : DeviceDirectory σ
  imports : ImportDirectory σ
  tokens : TokenIssuer σ
  counters : Counters σ

/- The handler with the settings of the service. -/
def AnalyticsHandler.ofConfig
    (c : Config)
    (engine : FlowEngine σ)
    (devices : DeviceDirectory σ)
    (imports : ImportDirectory σ)
    (tokens : TokenIssuer σ)
    (counters : Counters σ) : AnalyticsHandler σ :=
  { settings := .ofConfig c
    importPathPrefix := c.importPathPrefix
    genericSourcePathPrefix := c.genericSourcePathPrefix
    groupsEnabled := c.groupsEnabled
    engine, devices, imports, tokens, counters }

/- The message event that is being deployed. -/
structure EventContext where
  token : BearerToken
  owner : String
  deploymentId : String
  label : String
  event : MessageEvent
  characteristicId : String
  deriving Repr

namespace EventContext

def functionId
    (c : EventContext) : Option String :=
  c.event.selection.filterCriteria.functionId

def aspectId
    (c : EventContext) : Option String :=
  c.event.selection.filterCriteria.aspectId

/-
  The context of an element. An element without message
  event, or whose event has no characteristic, has none.
-/
def ofElement?
    (token : BearerToken)
    (owner deploymentId : String)
    (element : Element) : Option EventContext := do
  let event ← element.messageEvent
  let characteristicId ← event.selection.filterCriteria.characteristicId
  return {
    token, owner, deploymentId
    label := element.name ++ " (" ++ event.eventId ++ ")"
    event, characteristicId }

/- The event on a source, unless its function or aspect is missing. -/
def sourceEvent?
    (c : EventContext) : Option SourceEvent := do
  let functionId ← c.functionId
  let aspectId ← c.aspectId
  return {
    eventId := c.event.eventId
    deploymentId := c.deploymentId
    characteristicId := c.characteristicId
    functionId, aspectId
    flowId := c.event.flowId
    operatorValue := c.event.value
    useMarshaller := c.event.useMarshaller }

/- The event on one service of one device. -/
def deviceEvent
    (c : EventContext)
    (deviceId serviceId path : String) : DeviceEvent :=
  { deploymentId := c.deploymentId
    flowId := c.event.flowId
    eventId := c.event.eventId
    deviceId, serviceId
    operatorValue := c.event.value
    path
    functionId := c.functionId.getD ""
    aspectId := c.aspectId.getD ""
    characteristicId := c.characteristicId }

/- The event on a generic source. -/
def genericEvent
    (c : EventContext)
    (source : GenericSource)
    (path : String) : SourceEvent :=
  { genericSource := some source
    eventId := c.event.eventId
    deploymentId := c.deploymentId
    characteristicId := c.characteristicId
    functionId := c.functionId.getD ""
    aspectId := c.aspectId.getD ""
    flowId := c.event.flowId
    operatorValue := c.event.value
    path }

/- The cast from a selected path to the event. -/
def cast
    (c : EventContext)
    (selected : PathOption)
    (conversions : List Conversion) : Cast :=
  { source := selected.characteristicId
    target := c.characteristicId
    conversions }

end EventContext

/- A source that can be subscribed to: none of its texts is empty. -/
def GenericSource.isComplete
    (s : GenericSource) : Bool :=
  s.filterType != "" && s.filterIds != "" && s.topic != ""

namespace AnalyticsHandler

------------------------------------------------------------
-- Lookups
------------------------------------------------------------

/-
  The conversions of a function's concept. A function or a
  concept that does not exist has none.
-/
def conversions
    (h : AnalyticsHandler σ)
    (functionId : Option String) : Action σ DeployError (List Conversion) :=
  match functionId with
  | none => return []
  | some id => do
    match ← (h.devices.function id).attempt with
    | .error e => if e.isNotFound then return [] else .fail (.request e)
    | .ok function =>
      if function.conceptId == "" then return []
      else
        match ← (h.devices.concept function.conceptId).attempt with
        | .error e => if e.isNotFound then return [] else .fail (.request e)
        | .ok concept => return concept.conversions

/- The single operator of a flow; none if the flow is absent. -/
def operatorNode
    (h : AnalyticsHandler σ)
    (owner flowId : String) : Action σ DeployError (Option String) := do
  match ← (h.engine.flowInputs owner flowId).attempt with
  | .error e => if e.isAbsent then return none else .fail (.request e)
  | .ok [cell] => return some cell.id
  | .ok cells => .fail (.flowOperatorCount cells.length)

------------------------------------------------------------
-- Device events
------------------------------------------------------------

/- The request of an event on a flow's operator; none if the flow is absent. -/
def requestOnFlow
    (h : AnalyticsHandler σ)
    (c : EventContext)
    (request : String → PipelineRequest) :
    Action σ DeployError (Option PipelineRequest) := do
  let node ← h.operatorNode c.owner c.event.flowId
  return node.map request

/- The request of an event on one service of one device. -/
def deviceRequest
    (h : AnalyticsHandler σ)
    (c : EventContext)
    (deviceId serviceId : String) :
    Action σ DeployError (Option PipelineRequest) :=
  match c.event.selection.path with
  | none => return none
  | some selected => do
    match ← h.operatorNode c.owner c.event.flowId with
    | none => return none
    | some node =>
      if c.event.useMarshaller then
        return some
          ((c.deviceEvent deviceId serviceId selected.path).marshallerRequest
            h.settings c.token c.label node)
      else do
        let conversions ← h.conversions c.functionId
        return some
          ((c.deviceEvent deviceId serviceId
              (h.settings.devicePathPrefix ++ selected.path)).request
            h.settings c.token c.label node (c.cast selected conversions))

------------------------------------------------------------
-- Group events
------------------------------------------------------------

/-
  Where the devices of an event come from: the given devices,
  or else its group, which must have an id.
-/
def expansionSource
    (e : SourceEvent) : Except DeployError ExpansionSource :=
  match e.deviceIds with
  | some ids => .ok (.devices ids)
  | none =>
    if e.deviceGroupId != "" then .ok (.group e.deviceGroupId)
    else .error (.missingField .deviceGroupId)

/- Whether the texts that a group event depends on are there. -/
def isExpandable
    (e : SourceEvent) : Bool :=
  e.functionId != "" && e.aspectId != "" && e.deploymentId != ""

/- The request of an event on several devices, if they can be found. -/
def sourceRequest
    (h : AnalyticsHandler σ)
    (token : BearerToken)
    (owner label : String)
    (e : SourceEvent) :
    Action σ DeployError (Option PipelineRequest) := do
  let source ← .ofExcept (expansionSource e)
  if isExpandable e then
    match ← (h.devices.expand source e.functionId e.aspectId).attempt with
    | .error fault =>
        if fault.isNotFound then return none else .fail (.request fault)
    | .ok expansion =>
      let conversions ← h.conversions (some e.functionId)
      let node ← h.operatorNode owner e.flowId
      return node.map fun id =>
        e.groupRequest h.settings token label id expansion conversions
  else return none

/- The request of an event on a group, if groups are enabled. -/
def groupRequest
    (h : AnalyticsHandler σ)
    (c : EventContext)
    (groupId : String) : Action σ DeployError (Option PipelineRequest) :=
  match h.groupsEnabled, c.sourceEvent? with
  | true, some e =>
    h.sourceRequest c.token c.owner c.label { e with deviceGroupId := groupId }
  | _, _ => return none

/-
  The request of an event on all services of a device, if
  groups are enabled.
-/
def wholeDeviceRequest
    (h : AnalyticsHandler σ)
    (c : EventContext)
    (deviceId : String) : Action σ DeployError (Option PipelineRequest) :=
  match h.groupsEnabled, c.sourceEvent? with
  | true, some e =>
    h.sourceRequest c.token c.owner c.label
      { e with deviceIds := some [deviceId] }
  | _, _ => return none

------------------------------------------------------------
-- Import and generic events
------------------------------------------------------------

/- The selected path, with the conversions of its value. -/
def importCast
    (h : AnalyticsHandler σ)
    (c : EventContext) : Action σ DeployError (PathOption × List Conversion) :=
  match c.event.selection.path with
  | none => return ({}, [])
  | some selected => do
    let conversions ← h.conversions c.functionId
    return (selected, conversions)

/- The request of an event on an import, which must have a path. -/
def importRequest
    (h : AnalyticsHandler σ)
    (c : EventContext)
    (importId : String) : Action σ DeployError (Option PipelineRequest) :=
  match h.groupsEnabled, c.sourceEvent? with
  | true, some e => do
    let (selected, conversions) ← h.importCast c
    if selected.path == "" then .fail (.missingField .path)
    else do
      let topic ← (h.imports.topic c.owner importId).mapError .request
      h.requestOnFlow c fun node =>
        { e with importId, useMarshaller := false }.importRequest
          h.settings c.token c.label node topic
          (h.importPathPrefix ++ selected.path) (c.cast selected conversions)
  | _, _ => return none

/- The conversions from a selected path, if its characteristic is known. -/
def genericConversions
    (h : AnalyticsHandler σ)
    (c : EventContext)
    (selected : PathOption) : Action σ DeployError (List Conversion) :=
  if selected.characteristicId == "" then return []
  else h.conversions c.functionId

/- The request of an event on a generic source that is complete. -/
def genericRequest
    (h : AnalyticsHandler σ)
    (c : EventContext)
    (source : GenericSource) : Action σ DeployError (Option PipelineRequest) :=
  match c.event.selection.path with
  | none => return none
  | some selected =>
    if selected.path != "" && source.isComplete && h.groupsEnabled then do
      let conversions ← h.genericConversions c selected
      h.requestOnFlow c fun node =>
        (c.genericEvent source selected.path).genericRequest
          h.settings c.token c.label node source
          (h.genericSourcePathPrefix ++ selected.path)
          (c.cast selected conversions)
    else return none

------------------------------------------------------------
-- Deployments
------------------------------------------------------------

/- The request of an event on the source that it selects. -/
def requestOn
    (h : AnalyticsHandler σ)
    (c : EventContext) :
    SourceKind → Action σ DeployError (Option PipelineRequest)
  | .deviceGroup groupId => h.groupRequest c groupId
  | .deviceWithService deviceId serviceId =>
      h.deviceRequest c deviceId serviceId
  | .deviceWithoutService deviceId => h.wholeDeviceRequest c deviceId
  | .importInstance importId => h.importRequest c importId
  | .generic source => h.genericRequest c source

/-
  The request of an element's message event. There is none
  without such an event, without a source for it, and for an
  event that is skipped.
-/
def elementRequest
    (h : AnalyticsHandler σ)
    (token : BearerToken)
    (owner deploymentId : String)
    (element : Element) : Action σ DeployError (Option PipelineRequest) :=
  match EventContext.ofElement? token owner deploymentId element with
  | none => return none
  | some c =>
    match c.event.selection.kind with
    | none => return none
    | some kind => h.requestOn c kind

/- Create a pipeline and count it. -/
def create
    (h : AnalyticsHandler σ)
    (token : BearerToken)
    (owner : String)
    (request : PipelineRequest) : Action σ DeployError Unit := do
  let _ ← (h.engine.create token owner request).mapError .request
  h.counters.count .deployedAnalyticsEvents 1

/- Deploy the message event of an element, if there is a request for it. -/
def deployElement
    (h : AnalyticsHandler σ)
    (token : BearerToken)
    (owner deploymentId : String)
    (element : Element) : Action σ DeployError Unit := do
  match ← h.elementRequest token owner deploymentId element with
  | none => return ()
  | some request => h.create token owner request

/- Remove a pipeline and count it. -/
def removePipeline
    (h : AnalyticsHandler σ)
    (owner : String)
    (p : EventPipeline) : Action σ DeployError Unit := do
  (h.engine.remove owner p.id).mapError .request
  h.counters.count .removedAnalyticsEvents 1

/- Remove the owner's pipelines of a deployment. -/
def remove
    (h : AnalyticsHandler σ)
    (owner deploymentId : String) : Action σ DeployError Unit := do
  let pipelines ← (h.engine.eventPipelines owner).mapError .request
  .forEach (h.removePipeline owner)
    (pipelines.filter fun p => p.description.deploymentId = deploymentId)

/- Replace the owner's pipelines of a deployment. -/
def deploy
    (h : AnalyticsHandler σ)
    (owner : String)
    (deployment : Deployment) : Action σ DeployError Unit := do
  h.remove owner deployment.id
  let token ← (h.tokens.userToken owner).mapError .auth
  .forEach (h.deployElement token owner deployment.id) deployment.elements

/- The event of a group pipeline, on the members given. -/
def memberEvent
    (group : DeviceGroup)
    (p : EventPipeline) : SourceEvent :=
  { SourceEvent.ofDescription p.description with
    deviceIds := some group.deviceIds }

/- Deploy the event of a group pipeline again, in place of the pipeline. -/
def updatePipeline
    (h : AnalyticsHandler σ)
    (token : BearerToken)
    (owner : String)
    (group : DeviceGroup)
    (p : EventPipeline) : Action σ DeployError Unit := do
  match ← h.sourceRequest token owner p.name (memberEvent group p) with
  | none => return ()
  | some request =>
    let _ ←
      (h.engine.update token owner
        { request with id := p.id }).mapError .request

/- Replace the owner's pipelines on a group, if groups are enabled. -/
def updateGroup
    (h : AnalyticsHandler σ)
    (owner : String)
    (group : DeviceGroup) : Action σ DeployError Unit :=
  if h.groupsEnabled then do
    let pipelines ← (h.engine.eventPipelines owner).mapError .request
    match pipelines.filter fun p => p.description.deviceGroupId = group.id with
    | [] => return ()
    | affected => do
      let token ← (h.tokens.userToken owner).mapError .auth
      .forEach (h.updatePipeline token owner group) affected
  else return ()

------------------------------------------------------------
-- Queries
------------------------------------------------------------

/- Whether the user of a token has a pipeline for an event. -/
def checkEvent
    (h : AnalyticsHandler σ)
    (token eventId : String) : Action σ Empty Http.Status :=
  match Claims.parse token with
  | .error _ => return .badRequest
  | .ok claims => do
    match ← (h.engine.eventPipelines claims.subject).attempt with
    | .error _ => return .internalServerError
    | .ok pipelines =>
      if pipelines.any fun p => p.description.eventId = eventId then return .ok
      else return .notFound

/- For which events the user of a token has a pipeline. -/
def eventStates
    (h : AnalyticsHandler σ)
    (token : String)
    (eventIds : List String) : Action σ DeployError (Dict Bool) :=
  match Claims.parse token with
  | .error fault => .fail (.invalidToken fault)
  | .ok claims =>
    if eventIds.isEmpty then return .empty
    else do
      let pipelines ← (h.engine.eventPipelines claims.subject).mapError .request
      let deployed := pipelines.map (·.description.eventId)
      return .ofList (eventIds.map fun id => (id, deployed.contains id))

/- The handler of message events. -/
def handler
    (h : AnalyticsHandler σ) : EventHandler σ where
  name := "analytics"
  deploy := h.deploy
  remove := h.remove
  updateGroup := h.updateGroup
  checkEvent := h.checkEvent
  eventStates := h.eventStates

end AnalyticsHandler

end ProcessEvents
