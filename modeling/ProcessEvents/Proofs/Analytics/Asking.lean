import ProcessEvents.AnalyticsHandler
import ProcessEvents.Proofs.Collaborator
import ProcessEvents.Proofs.FlowEngine

/-
  Before it acts, the handler of message events asks for a
  request. Asking has each property that the collaborators'
  answers have: it leaves the pipelines alone, and it ends
  in the same way wherever they answer in the same way. The
  record in a request always names the deployment that the
  request has been made for.

  Key definitions include:
    * `AnalyticsHandler.Asks`
    * `AnalyticsHandler.YieldsFor`

  Key theorems include:
    * `AnalyticsHandler.Asks.elementRequest`
    * `AnalyticsHandler.sourceRequest_describes`
    * `AnalyticsHandler.elementRequest_isFor`
-/

namespace ProcessEvents

variable {σ : Type}

namespace AnalyticsHandler

/- All that the handler asks for has a property. -/
structure Asks
    (h : AnalyticsHandler σ)
    (P : Action.Property σ) : Prop where
  devices : h.devices.All P
  imports : h.imports.All P
  userToken : ∀ owner, P (h.tokens.userToken owner)
  flowInputs : ∀ owner flowId, P (h.engine.flowInputs owner flowId)

------------------------------------------------------------
-- Properties of asking
------------------------------------------------------------

namespace Asks

variable {h : AnalyticsHandler σ} {P : Action.Property σ}

theorem conversions
    (hAsks : h.Asks P)
    (hP : Action.Closed P)
    (functionId : Option String) :
    P (h.conversions functionId) := by
  unfold AnalyticsHandler.conversions
  cases functionId with
  | none => exact hP.pure _
  | some id =>
      apply hP.bind (hP.attempt (hAsks.devices.function id))
      rintro (e | function)
      · dsimp only
        split
        · exact hP.pure _
        · exact hP.fail _
      · dsimp only
        split
        · exact hP.pure _
        · apply hP.bind (hP.attempt (hAsks.devices.concept _))
          rintro (e | concept)
          · dsimp only
            split
            · exact hP.pure _
            · exact hP.fail _
          · exact hP.pure _

theorem operatorNode
    (hAsks : h.Asks P)
    (hP : Action.Closed P)
    (owner flowId : String) :
    P (h.operatorNode owner flowId) := by
  unfold AnalyticsHandler.operatorNode
  apply hP.bind (hP.attempt (hAsks.flowInputs owner flowId))
  intro result
  split
  · split
    · exact hP.pure _
    · exact hP.fail _
  · exact hP.pure _
  · exact hP.fail _

theorem requestOnFlow
    (hAsks : h.Asks P)
    (hP : Action.Closed P)
    (c : EventContext)
    (request : String → PipelineRequest) :
    P (h.requestOnFlow c request) := by
  unfold AnalyticsHandler.requestOnFlow
  apply hP.bind (hAsks.operatorNode hP _ _)
  intro node
  exact hP.pure _

theorem deviceRequest
    (hAsks : h.Asks P)
    (hP : Action.Closed P)
    (c : EventContext)
    (deviceId serviceId : String) :
    P (h.deviceRequest c deviceId serviceId) := by
  unfold AnalyticsHandler.deviceRequest
  split
  · exact hP.pure _
  · apply hP.bind (hAsks.operatorNode hP _ _)
    intro node
    split
    · exact hP.pure _
    · split
      · exact hP.pure _
      · apply hP.bind (hAsks.conversions hP _)
        intro conversions
        exact hP.pure _

theorem sourceRequest
    (hAsks : h.Asks P)
    (hP : Action.Closed P)
    (token : BearerToken)
    (owner label : String)
    (e : SourceEvent) :
    P (h.sourceRequest token owner label e) := by
  unfold AnalyticsHandler.sourceRequest
  apply hP.bind (hP.ofExcept _)
  intro source
  split
  · apply hP.bind (hP.attempt (hAsks.devices.expand hP.toSequential source _ _))
    rintro (fault | expansion)
    · dsimp only
      split
      · exact hP.pure _
      · exact hP.fail _
    · apply hP.bind (hAsks.conversions hP _)
      intro conversions
      apply hP.bind (hAsks.operatorNode hP _ _)
      intro node
      exact hP.pure _
  · exact hP.pure _

theorem importCast
    (hAsks : h.Asks P)
    (hP : Action.Closed P)
    (c : EventContext) :
    P (h.importCast c) := by
  unfold AnalyticsHandler.importCast
  split
  · exact hP.pure _
  · apply hP.bind (hAsks.conversions hP _)
    intro conversions
    exact hP.pure _

theorem importRequest
    (hAsks : h.Asks P)
    (hP : Action.Closed P)
    (c : EventContext)
    (importId : String) :
    P (h.importRequest c importId) := by
  unfold AnalyticsHandler.importRequest
  split
  · apply hP.bind (hAsks.importCast hP c)
    rintro ⟨selected, conversions⟩
    dsimp only
    split
    · exact hP.fail _
    · apply hP.bind (hP.mapError _ (hAsks.imports.topic hP.toSequential _ _))
      intro topic
      exact hAsks.requestOnFlow hP _ _
  · exact hP.pure _

theorem genericConversions
    (hAsks : h.Asks P)
    (hP : Action.Closed P)
    (c : EventContext)
    (selected : PathOption) :
    P (h.genericConversions c selected) := by
  unfold AnalyticsHandler.genericConversions
  split
  · exact hP.pure _
  · exact hAsks.conversions hP _

theorem genericRequest
    (hAsks : h.Asks P)
    (hP : Action.Closed P)
    (c : EventContext)
    (source : GenericSource) :
    P (h.genericRequest c source) := by
  unfold AnalyticsHandler.genericRequest
  split
  · exact hP.pure _
  · split
    · apply hP.bind (hAsks.genericConversions hP _ _)
      intro conversions
      exact hAsks.requestOnFlow hP _ _
    · exact hP.pure _

/- Events of all kinds of sources are asked for alike. -/
theorem requestOn
    (hAsks : h.Asks P)
    (hP : Action.Closed P)
    (c : EventContext)
    (kind : SourceKind) :
    P (h.requestOn c kind) := by
  cases kind with
  | deviceGroup groupId =>
      change P (h.groupRequest c groupId)
      unfold AnalyticsHandler.groupRequest
      split
      · exact hAsks.sourceRequest hP _ _ _ _
      · exact hP.pure _
  | deviceWithService deviceId serviceId =>
      exact hAsks.deviceRequest hP c deviceId serviceId
  | deviceWithoutService deviceId =>
      change P (h.wholeDeviceRequest c deviceId)
      unfold AnalyticsHandler.wholeDeviceRequest
      split
      · exact hAsks.sourceRequest hP _ _ _ _
      · exact hP.pure _
  | importInstance importId => exact hAsks.importRequest hP c importId
  | generic source => exact hAsks.genericRequest hP c source

theorem elementRequest
    (hAsks : h.Asks P)
    (hP : Action.Closed P)
    (token : BearerToken)
    (owner deploymentId : String)
    (element : Element) :
    P (h.elementRequest token owner deploymentId element) := by
  unfold AnalyticsHandler.elementRequest
  split
  · exact hP.pure _
  · split
    · exact hP.pure _
    · exact hAsks.requestOn hP _ _

end Asks

------------------------------------------------------------
-- Records of requests
------------------------------------------------------------

open ProcessEvents.Action (Yields)

/- A request that has been asked for, if any, is for the deployment. -/
def YieldsFor
    (deploymentId : String) :
    Action σ DeployError (Option PipelineRequest) → Prop :=
  Yields fun request? => ∀ request ∈ request?, request.IsFor deploymentId

theorem isFor_singleNode
    (label flowId nodeId : String)
    (d : PipelineDescription)
    (inputs : List NodeInput)
    (config : List NodeConfig) :
    (EventRequest.singleNode label flowId d nodeId inputs config).IsFor
      d.deploymentId :=
  ⟨d, d.parse?_toText, rfl⟩

theorem yieldsFor_none
    (deploymentId : String) :
    YieldsFor deploymentId (return none : Action σ DeployError _) :=
  Yields.pure nofun

theorem yieldsFor_some
    {deploymentId : String} {request : PipelineRequest}
    (hRequest : request.IsFor deploymentId) :
    YieldsFor deploymentId (return some request : Action σ DeployError _) := by
  apply Yields.pure
  intro _ hMem
  cases hMem
  exact hRequest

theorem yieldsFor_map
    {deploymentId : String} {request : String → PipelineRequest}
    (node : Option String)
    (hRequest : ∀ id, (request id).IsFor deploymentId) :
    YieldsFor deploymentId
      (return node.map request : Action σ DeployError _) := by
  cases node with
  | none => exact yieldsFor_none _
  | some id => exact yieldsFor_some (hRequest id)

variable (h : AnalyticsHandler σ)

theorem requestOnFlow_isFor
    {deploymentId : String}
    (c : EventContext) {request : String → PipelineRequest}
    (hRequest : ∀ id, (request id).IsFor deploymentId) :
    YieldsFor deploymentId (h.requestOnFlow c request) := by
  unfold requestOnFlow
  apply Yields.bind
  intro node
  exact yieldsFor_map node hRequest

/-
  A request of an event on several devices has the label as
  its name and the record of the event as its description.
  The event has all the texts that are needed.
-/
theorem sourceRequest_describes
    (token : BearerToken)
    (owner label : String)
    (e : SourceEvent) :
    Yields
      (fun request? => ∀ request ∈ request?,
        isExpandable e = true ∧
          request.name = label ∧
          request.description = e.groupDescription.toText)
      (h.sourceRequest token owner label e) := by
  have hNone :
      Yields
        (fun request? : Option PipelineRequest => ∀ request ∈ request?,
          isExpandable e = true ∧
            request.name = label ∧
            request.description = e.groupDescription.toText)
        (return none : Action σ DeployError _) :=
    Yields.pure nofun
  unfold sourceRequest
  apply Yields.bind
  intro source
  split
  · rename_i hExpandable
    apply Yields.bind
    rintro (fault | expansion)
    · dsimp only
      split
      · exact hNone
      · exact Yields.fail _
    · apply Yields.bind
      intro conversions
      apply Yields.bind
      intro node
      apply Yields.pure
      intro request hRequest
      rcases Option.map_eq_some_iff.mp hRequest with ⟨id, -, rfl⟩
      exact ⟨hExpandable, rfl, rfl⟩
  · exact hNone

theorem sourceRequest_isFor
    (token : BearerToken)
    (owner label : String)
    (e : SourceEvent) :
    YieldsFor e.deploymentId (h.sourceRequest token owner label e) := by
  intro s request? s' hRun request hRequest
  rcases sourceRequest_describes h token owner
    label e s request? s' hRun request hRequest with
    ⟨-, -, hDescription⟩
  exact ⟨e.groupDescription,
    hDescription ▸ e.groupDescription.parse?_toText, rfl⟩

theorem deviceRequest_isFor
    (c : EventContext)
    (deviceId serviceId : String) :
    YieldsFor c.deploymentId (h.deviceRequest c deviceId serviceId) := by
  unfold AnalyticsHandler.deviceRequest
  split
  · exact yieldsFor_none _
  · apply Yields.bind
    intro node
    split
    · exact yieldsFor_none _
    · split
      · exact yieldsFor_some (isFor_singleNode _ _ _ _ _ _)
      · apply Yields.bind
        intro conversions
        exact yieldsFor_some (isFor_singleNode _ _ _ _ _ _)

theorem sourceEvent?_deploymentId
    {c : EventContext} {e : SourceEvent}
    (hEvent : c.sourceEvent? = some e) :
    e.deploymentId = c.deploymentId := by
  simp only [EventContext.sourceEvent?, Option.bind_eq_bind,
    Option.bind_eq_some_iff, Option.pure_def, Option.some.injEq] at hEvent
  rcases hEvent with ⟨functionId, -, aspectId, -, rfl⟩
  rfl

theorem ofElement?_deploymentId
    {token : BearerToken} {owner deploymentId : String} {element : Element}
    {c : EventContext}
    (hContext : EventContext.ofElement? token owner deploymentId element =
      some c) :
    c.deploymentId = deploymentId := by
  simp only [EventContext.ofElement?, Option.bind_eq_bind,
    Option.bind_eq_some_iff, Option.pure_def, Option.some.injEq] at hContext
  rcases hContext with ⟨event, -, characteristicId, -, rfl⟩
  rfl

theorem importRequest_isFor
    (c : EventContext)
    (importId : String) :
    YieldsFor c.deploymentId (h.importRequest c importId) := by
  unfold AnalyticsHandler.importRequest
  split
  · rename_i e _ hEvent
    have hDeployment : e.deploymentId = c.deploymentId :=
      sourceEvent?_deploymentId hEvent
    apply Yields.bind
    rintro ⟨selected, conversions⟩
    dsimp only
    split
    · exact Yields.fail _
    · apply Yields.bind
      intro topic
      apply requestOnFlow_isFor
      intro id
      rw [← hDeployment]
      exact isFor_singleNode _ _ _ _ _ _
  · exact yieldsFor_none _

theorem genericRequest_isFor
    (c : EventContext)
    (source : GenericSource) :
    YieldsFor c.deploymentId (h.genericRequest c source) := by
  unfold AnalyticsHandler.genericRequest
  split
  · exact yieldsFor_none _
  · split
    · apply Yields.bind
      intro conversions
      apply requestOnFlow_isFor
      exact fun id => isFor_singleNode _ _ _ _ _ _
    · exact yieldsFor_none _

/- The request of an event on a group or on a whole device. -/
theorem sourceRequest_isFor_of_event
    {c : EventContext} {e : SourceEvent}
    (hEvent : c.sourceEvent? = some e)
    (groupId : String) (deviceIds : Option (List String)) :
    YieldsFor c.deploymentId
      (h.sourceRequest c.token c.owner c.label
        { e with deviceGroupId := groupId, deviceIds }) := by
  rw [← sourceEvent?_deploymentId hEvent]
  exact sourceRequest_isFor h c.token c.owner c.label
    { e with deviceGroupId := groupId, deviceIds }

theorem requestOn_isFor
    (c : EventContext)
    (kind : SourceKind) :
    YieldsFor c.deploymentId (h.requestOn c kind) := by
  cases kind with
  | deviceGroup groupId =>
      change YieldsFor c.deploymentId (h.groupRequest c groupId)
      unfold AnalyticsHandler.groupRequest
      split
      · rename_i e _ hEvent
        exact sourceRequest_isFor_of_event h hEvent groupId e.deviceIds
      · exact yieldsFor_none _
  | deviceWithService deviceId serviceId =>
      exact deviceRequest_isFor h c deviceId serviceId
  | deviceWithoutService deviceId =>
      change YieldsFor c.deploymentId (h.wholeDeviceRequest c deviceId)
      unfold AnalyticsHandler.wholeDeviceRequest
      split
      · rename_i e _ hEvent
        exact sourceRequest_isFor_of_event h hEvent e.deviceGroupId
          (some [deviceId])
      · exact yieldsFor_none _
  | importInstance importId => exact importRequest_isFor h c importId
  | generic source => exact genericRequest_isFor h c source

/- Whatever the source of the event, its request names the deployment. -/
theorem elementRequest_isFor
    (token : BearerToken)
    (owner deploymentId : String)
    (element : Element) :
    YieldsFor deploymentId
      (h.elementRequest token owner deploymentId element) := by
  unfold AnalyticsHandler.elementRequest
  split
  · exact yieldsFor_none _
  · rename_i c hContext
    split
    · exact yieldsFor_none _
    · rename_i kind _
      rw [← ofElement?_deploymentId hContext]
      exact requestOn_isFor h c kind

end AnalyticsHandler

end ProcessEvents
