import ProcessEvents.EventRequest
import ProcessEvents.Proofs.Json.Inverse
import ProcessEvents.Proofs.PipelineDescription

/-
  What the request of an event holds as text can be read
  back, whatever characters it is made of: the record of its
  description, and the values that stand as JSON texts in the
  settings of its node.

  Key definitions include:
    * `Conversion.IsBounded`
    * `PipelineRequest.Carries`
    * `PipelineRequest.CarriesConversions`

  Key theorems include:
    * `EventRequest.conversionsText_eq_empty_iff`
    * `EventRequest.ofText?_conversionsText`
    * `EventRequest.requests_read_back`
-/

namespace ProcessEvents

------------------------------------------------------------
-- Values within settings
------------------------------------------------------------

/- The distance of a conversion is an integer of 64 bits. -/
def Conversion.IsBounded
    (c : Conversion) : Prop :=
  -0x8000000000000000 ≤ c.distance ∧ c.distance ≤ 0x7FFFFFFFFFFFFFFF

theorem Conversion.inverts
    {c : Conversion}
    (hBounded : c.IsBounded) :
    Conversion.codec.Inverts 1 c := by
  apply Codec.Inverts.record
    (by simp [Fields.pair, Fields.text, Fields.field]) rfl
  exact .pair (.text _ _) <| .pair (.text _ _) <|
    .pair (.field _ _ (.int64 hBounded.1 hBounded.2)) <|
    .pair (.text _ _) (.text _ _)

theorem CharacterizedPath.inverts
    (p : CharacterizedPath) :
    CharacterizedPath.codec.Inverts 1 p := by
  apply Codec.Inverts.record (by simp [Fields.pair, Fields.required]) rfl
  exact .pair (.required _ (.string _)) (.required _ (.string _))

namespace PipelineRequest

variable {α : Type}

/- A setting of the node holds the text of a value. -/
def Carries
    (r : PipelineRequest)
    (name : String)
    (c : Codec α)
    (x : α) : Prop :=
  ∃ text, r.configValue? name = some text ∧ c.ofText? text = some x

/-
  The setting for conversions holds their text. It is empty
  only if there is nothing to convert.
-/
structure CarriesConversions
    (r : PipelineRequest)
    (active : Bool)
    (conversions : List Conversion) : Prop where
  empty :
    r.configValue? "castExtensions" = some "" ↔
      active = false ∨ conversions = []
  carries :
    active = true → conversions ≠ [] →
      r.Carries "castExtensions" (.list Conversion.codec) conversions

end PipelineRequest

namespace EventRequest

------------------------------------------------------------
-- Conversions
------------------------------------------------------------

variable {conversions : List Conversion}

theorem conversions_inverts
    (hBounded : ∀ c ∈ conversions, c.IsBounded) :
    (Codec.list Conversion.codec).Inverts 2 conversions :=
  .list fun c hMem => Conversion.inverts (hBounded c hMem)

theorem conversionsText_eq_empty_iff
    (hBounded : ∀ c ∈ conversions, c.IsBounded) :
    conversionsText conversions = "" ↔ conversions = [] := by
  constructor
  · intro hText
    by_contra hSome
    have hPlain := (conversions_inverts hBounded).plain
    have hLength := Json.render_length_pos hPlain
    rw [conversionsText, if_neg (by simpa using hSome), Json.toText,
      String.ofList_eq_empty_iff] at hText
    rw [hText] at hLength
    exact Nat.lt_irrefl 0 hLength
  · intro hNone
    rw [hNone]
    rfl

theorem ofText?_conversionsText
    (hBounded : ∀ c ∈ conversions, c.IsBounded)
    (hSome : conversions ≠ []) :
    (Codec.list Conversion.codec).ofText? (conversionsText conversions) =
      some conversions := by
  rw [conversionsText, if_neg (by simpa using hSome)]
  exact (conversions_inverts hBounded).ofText?_toText (by decide)

/- What is carried under a setting that holds the text of the conversions. -/
theorem carriesConversions_of_configValue?
    {r : PipelineRequest} {active : Bool}
    (hBounded : ∀ c ∈ conversions, c.IsBounded)
    (hValue :
      r.configValue? "castExtensions" =
        some (if active then conversionsText conversions else "")) :
    r.CarriesConversions active conversions := by
  cases active with
  | false =>
      refine ⟨?_, fun hActive => by cases hActive⟩
      rw [hValue]
      simp
  | true =>
      refine ⟨?_, fun _ hSome => ?_⟩
      · rw [hValue, if_pos rfl, Option.some.injEq,
          conversionsText_eq_empty_iff hBounded]
        simp
      · exact ⟨_, hValue, ofText?_conversionsText hBounded hSome⟩

------------------------------------------------------------
-- Settings of single nodes
------------------------------------------------------------

variable
    {s : RequestSettings} {token : BearerToken} {label flowId nodeId : String}
    {d : PipelineDescription} {inputs : List NodeInput}

/-
  The settings of a converter stand between those that every
  event has.
-/
theorem castExtensions_of_converterConfig
    (operatorValue eventId : String) (cast : Cast) (active : Bool) :
    (singleNode label flowId d nodeId inputs
        (leadingConfig s operatorValue eventId ++
          converterConfig s cast active ++
          tokenConfig token)).configValue? "castExtensions" =
      some (if active then conversionsText cast.conversions else "") := by
  cases active <;> rfl

/- The marshaller is told the service of each topic. -/
theorem groupRequest_carries_services
    {e : SourceEvent}
    (hMode : e.useMarshaller = true)
    (x : Expansion) (conversions : List Conversion) :
    (e.groupRequest s token label nodeId x conversions).Carries
      "topicToServiceId"
      (.dict .string) (SourceEvent.topicToService x) := by
  have hInverts :
      (Codec.dict Codec.string).Inverts 1 (SourceEvent.topicToService x) :=
    .dict fun _ _ => .string _
  refine ⟨_, ?_, hInverts.ofText?_toText (by decide)⟩
  rw [SourceEvent.groupRequest, SourceEvent.groupConfig, if_pos hMode]
  rfl

/- The settings of a group without the marshaller. -/
theorem groupConfig_of_paths
    {e : SourceEvent}
    (hMode : e.useMarshaller = false)
    (x : Expansion) (conversions : List Conversion) :
    SourceEvent.groupConfig s e x conversions =
      [⟨"converterUrl", s.converterUrl⟩,
        ⟨"extendedConverterUrl", s.extendedConverterUrl⟩,
        ⟨"convertFrom", ""⟩,
        ⟨"convertTo", e.characteristicId⟩,
        ⟨"castExtensions", conversionsText conversions⟩,
        ⟨"topicToPathAndCharacteristic",
          ((Codec.dict (Codec.list CharacterizedPath.codec)).encode
            (SourceEvent.topicToPaths x)).toText⟩] := by
  rw [SourceEvent.groupConfig, hMode]
  rfl

/- Without the marshaller, the paths of each topic are carried. -/
theorem groupRequest_carries_paths
    {e : SourceEvent}
    (hMode : e.useMarshaller = false)
    (x : Expansion) (conversions : List Conversion) :
    (e.groupRequest s token label nodeId x conversions).Carries
      "topicToPathAndCharacteristic"
      (.dict (.list CharacterizedPath.codec)) (SourceEvent.topicToPaths x) := by
  have hInverts :
      (Codec.dict (Codec.list CharacterizedPath.codec)).Inverts 3
        (SourceEvent.topicToPaths x) :=
    .dict fun _ _ => .list fun p _ => p.inverts
  rw [SourceEvent.groupRequest, groupConfig_of_paths hMode]
  exact ⟨_, rfl, hInverts.ofText?_toText (by decide)⟩

/- The topics of a group are carried in one of two forms. -/
theorem groupRequest_carries
    (e : SourceEvent) (x : Expansion)
    (hBounded : ∀ c ∈ conversions, c.IsBounded) :
    if e.useMarshaller then
      (e.groupRequest s token label nodeId x conversions).Carries
        "topicToServiceId"
        (.dict .string) (SourceEvent.topicToService x)
    else
      (e.groupRequest s token label nodeId x conversions).CarriesConversions
          true conversions ∧
        (e.groupRequest s token label nodeId x conversions).Carries
          "topicToPathAndCharacteristic" (.dict (.list CharacterizedPath.codec))
          (SourceEvent.topicToPaths x) := by
  cases hMode : e.useMarshaller with
  | true =>
      rw [if_pos rfl]
      exact groupRequest_carries_services hMode x conversions
  | false =>
      rw [if_neg Bool.false_ne_true]
      refine ⟨?_, groupRequest_carries_paths hMode x conversions⟩
      rw [SourceEvent.groupRequest, groupConfig_of_paths hMode]
      exact carriesConversions_of_configValue? hBounded rfl

------------------------------------------------------------
-- The requests of all sources
------------------------------------------------------------

/-
  The description of a request is parsed to the record of its
  event, field by field; the JSON texts in its settings are
  read back to the values that they have been written from;
  and from the record of a group event the event is taken up
  again, but for what the record does not keep.
-/
theorem requests_read_back
    (s : RequestSettings) (token : BearerToken) (label nodeId : String)
    (device : DeviceEvent) (e : SourceEvent)
    (x : Expansion) (source : GenericSource)
    (topic path : String) (cast : Cast)
    (hBounded : ∀ c ∈ cast.conversions, c.IsBounded) :
    (let r := device.request s token label nodeId cast
     PipelineDescription.parse? r.description =
         some
           { deviceId := device.deviceId
             serviceId := device.serviceId
             valuePath := device.path
             operatorValue := device.operatorValue
             eventId := device.eventId
             deploymentId := device.deploymentId
             characteristicId := device.characteristicId } ∧
       r.CarriesConversions cast.differs cast.conversions) ∧
    (let r := device.marshallerRequest s token label nodeId
     PipelineDescription.parse? r.description =
       some
         { deviceId := device.deviceId
           serviceId := device.serviceId
           valuePath := device.path
           operatorValue := device.operatorValue
           eventId := device.eventId
           deploymentId := device.deploymentId
           characteristicId := device.characteristicId
           useMarshaller := true }) ∧
    (let r := e.groupRequest s token label nodeId x cast.conversions
     ∃ d,
       PipelineDescription.parse? r.description = some d ∧
       d =
         { deviceGroupId := e.deviceGroupId
           functionId := e.functionId
           aspectId := e.aspectId
           characteristicId := e.characteristicId
           operatorValue := e.operatorValue
           eventId := e.eventId
           deploymentId := e.deploymentId
           flowId := e.flowId
           useMarshaller := e.useMarshaller } ∧
       SourceEvent.ofDescription d =
         { e with
           deviceIds := none
           importId := ""
           genericSource := none
           path := "" } ∧
       if e.useMarshaller then
         r.Carries "topicToServiceId" (.dict .string)
           (SourceEvent.topicToService x)
       else
         r.CarriesConversions true cast.conversions ∧
           r.Carries "topicToPathAndCharacteristic"
             (.dict (.list CharacterizedPath.codec))
             (SourceEvent.topicToPaths x)) ∧
    (let r := e.importRequest s token label nodeId topic path cast
     PipelineDescription.parse? r.description =
         some
           { importId := e.importId
             functionId := e.functionId
             aspectId := e.aspectId
             characteristicId := e.characteristicId
             operatorValue := e.operatorValue
             eventId := e.eventId
             deploymentId := e.deploymentId
             flowId := e.flowId } ∧
       r.CarriesConversions cast.differs cast.conversions) ∧
    (let r := e.genericRequest s token label nodeId source path cast
     PipelineDescription.parse? r.description =
         some
           { genericSource := some source
             functionId := e.functionId
             aspectId := e.aspectId
             characteristicId := e.characteristicId
             operatorValue := e.operatorValue
             eventId := e.eventId
             deploymentId := e.deploymentId
             flowId := e.flowId } ∧
       r.CarriesConversions cast.differsAndKnown cast.conversions) := by
  refine ⟨⟨?_, ?_⟩, ?_, ⟨_, ?_, rfl, rfl, ?_⟩, ⟨?_, ?_⟩, ⟨?_, ?_⟩⟩
  · exact PipelineDescription.parse?_toText _
  · exact carriesConversions_of_configValue? hBounded
      (castExtensions_of_converterConfig _ _ cast _)
  · exact PipelineDescription.parse?_toText _
  · exact PipelineDescription.parse?_toText _
  · exact groupRequest_carries e x hBounded
  · exact PipelineDescription.parse?_toText _
  · exact carriesConversions_of_configValue? hBounded
      (castExtensions_of_converterConfig _ _ cast _)
  · exact PipelineDescription.parse?_toText _
  · exact carriesConversions_of_configValue? hBounded
      (castExtensions_of_converterConfig _ _ cast _)

/- A cast whose texts need escapes, over the greatest distance. -/
def quotedCast : Cast :=
  { source := "\"°C\""
    target := "\\F\n"
    conversions :=
      [{ source := "\"°C\"", target := "\\F\n", distance := 0x7FFFFFFFFFFFFFFF
         formula := "x*1.8\t+ 32", placeholderName := "\u0000x" }] }

/- An event whose texts need escapes. -/
def quotedEvent : DeviceEvent :=
  { deploymentId := "d\"1\""
    eventId := "e\\1\n"
    deviceId := "ü\u001f"
    path := "a.\"b\"" }

theorem requests_read_back_quoted :
    (∀ c ∈ quotedCast.conversions, c.IsBounded) ∧
      PipelineDescription.parse?
          (quotedEvent.request {} ⟨"Bearer t"⟩
            "task" "node" quotedCast).description =
        some
          { deploymentId := "d\"1\"", eventId := "e\\1\n", deviceId := "ü\u001f"
            valuePath := "a.\"b\"" } ∧
      (quotedEvent.request {} ⟨"Bearer t"⟩ "task" "node" quotedCast).Carries
        "castExtensions" (.list Conversion.codec) quotedCast.conversions := by
  have hBounded : ∀ c ∈ quotedCast.conversions, c.IsBounded := by
    simp [quotedCast, Conversion.IsBounded]
  have hRead :=
    (requests_read_back {} ⟨"Bearer t"⟩ "task" "node" quotedEvent {} {} {} "" ""
      quotedCast hBounded).1
  refine ⟨hBounded, hRead.1, hRead.2.carries ?_ ?_⟩
  · simp [Cast.differs, quotedCast]
  · simp [quotedCast]

end EventRequest

end ProcessEvents
