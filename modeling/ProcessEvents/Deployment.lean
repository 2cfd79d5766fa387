import ProcessEvents.Selection

/-
  This file defines process deployments. Only the parts that
  concern events are typed, everything else is carried along,
  so that a stored deployment can be deployed again.

  Key definitions include:
    * `MessageEvent`
    * `ConditionalEvent`
    * `Element`
    * `Deployment`
    * `OwnedDeployment`
-/

namespace ProcessEvents

------------------------------------------------------------
-- Events
------------------------------------------------------------

/- An event whose value an operator of a flow evaluates. -/
structure MessageEvent where
  value : String := ""
  flowId : String := ""
  eventId : String := ""
  useMarshaller : Bool := false
  selection : Selection := {}
  deriving Repr, Inhabited

def MessageEvent.codec : Codec MessageEvent :=
  .record
    (.pair (.text "value") <|
     .pair (.text "flow_id") <|
     .pair (.text "event_id") <|
     .pair (.flag "use_marshaller") <|
     .field "selection" Selection.codec {})
    (fun (value, flowId, eventId, useMarshaller, selection) =>
      { value, flowId, eventId, useMarshaller, selection })
    (fun e => (e.value, e.flowId, e.eventId, e.useMarshaller, e.selection))

/- An event whose script the event worker evaluates. -/
structure ConditionalEvent where
  script : String := ""
  valueVariable : String := ""
  bindings : Dict String := .empty
  qos : Int := 0
  eventId : String := ""
  selection : Selection := {}
  deriving Repr, Inhabited

def ConditionalEvent.codec : Codec ConditionalEvent :=
  .record
    (.pair (.text "script") <|
     .pair (.text "value_variable") <|
     .pair (.field "variables" (.dict .string) .empty) <|
     .pair (.field "qos" .int32 0) <|
     .pair (.text "event_id") <|
     .field "selection" Selection.codec {})
    (fun (script, valueVariable, bindings, qos, eventId, selection) =>
      { script, valueVariable, bindings, qos, eventId, selection })
    (fun e =>
      (e.script, e.valueVariable, e.bindings, e.qos, e.eventId, e.selection))

------------------------------------------------------------
-- Deployments
------------------------------------------------------------

/- One element of a process, with the events deployed for it. -/
structure Element where
  bpmnId : String := ""
  name : String := ""
  messageEvent : Option MessageEvent := none
  conditionalEvent : Option ConditionalEvent := none
  extra : Dict Json := .empty
  deriving Repr, Inhabited

def Element.codec : Codec Element :=
  .openRecord
    (.pair (.text "bpmn_id") <|
     .pair (.text "name") <|
     .pair (.optional "message_event" MessageEvent.codec) <|
     .optional "conditional_event" ConditionalEvent.codec)
    (fun (bpmnId, name, messageEvent, conditionalEvent) extra =>
      { bpmnId, name, messageEvent, conditionalEvent, extra })
    (fun e => ((e.bpmnId, e.name, e.messageEvent, e.conditionalEvent), e.extra))

/- A deployed process. -/
structure Deployment where
  version : Int := 0
  id : String := ""
  name : String := ""
  elements : List Element := []
  extra : Dict Json := .empty
  deriving Repr, Inhabited

namespace Deployment

/- Version of the deployments that are understood. -/
def currentVersion : Int :=
  3

def fields : Fields (Int × String × String × List Element) :=
  .pair (.field "version" .int64 0) <|
  .pair (.text "id") <|
  .pair (.text "name") <|
  .items "elements" Element.codec

def codec : Codec Deployment :=
  .openRecord fields
    (fun (version, id, name, elements) extra =>
      { version, id, name, elements, extra })
    (fun d => ((d.version, d.id, d.name, d.elements), d.extra))

/- The conditional events of a deployment, in element order. -/
def conditionalEvents
    (d : Deployment) : List ConditionalEvent :=
  d.elements.filterMap (·.conditionalEvent)

end Deployment

------------------------------------------------------------
-- Deployments with their owner
------------------------------------------------------------

/- A deployment that is submitted together with its owner. -/
structure OwnedDeployment where
  deployment : Deployment := {}
  owner : String := ""
  deriving Repr, Inhabited

namespace OwnedDeployment

/- Key of the owner among the members of the deployment. -/
def ownerKey : String :=
  "user_id"

/-
  The members of the deployment and the owner stand side by
  side. All members but the owner have to be readable.
-/
def decode : Json → Option OwnedDeployment
  | .obj members =>
    if Codec.repeats [ownerKey] members then none
    else do
      let owner ← (Fields.text ownerKey).ofMembers (Json.find? members)
      let body := Json.obj (Codec.others [ownerKey] members)
      guard body.isReadable
      let deployment ← Deployment.codec.decode body
      return { deployment, owner }
  | _ => none

/- The members of the deployment, followed by the owner. -/
def encode
    (d : OwnedDeployment) : Json :=
  match Deployment.codec.encode d.deployment with
  | .obj members => .obj (members ++ [(ownerKey, .str d.owner)])
  | j => j

def codec : Codec OwnedDeployment :=
  ⟨decode, encode⟩

end OwnedDeployment

end ProcessEvents
