import ProcessEvents.Command
import ProcessEvents.EventDescription
import ProcessEvents.Import
import ProcessEvents.Pipeline
import ProcessEvents.Proofs.Json.Nesting
import ProcessEvents.Proofs.Uuid

/-
  The types that are exchanged as JSON. A value that has been
  decoded is decoded again from what is written for it, if
  its free values are: they must hold nothing that looks like
  an embedded value, and must not be `null` where they may be
  missing. The members that deployments, elements, selections
  and path options do not know are written again, also where
  these are parts of other records.

  Key definitions include:
    * `Deployment.IsRestorable`, `ContentVariable.IsRestorable`
    * `Deployment.Carries`, `OwnedDeployment.Carries`
    * `WireType`, `WireType.codec`
    * `WireType.IsRestorable`, `WireType.Carries`

  Key theorems include:
    * `ContentVariable.restores`
    * `OwnedDeployment.restores`, `OwnedDeployment.carries`
    * `WireType.restores`, `WireType.carries`
    * `WireType.decode_encode`
-/

namespace ProcessEvents

open Json

------------------------------------------------------------
-- Types without free values
------------------------------------------------------------

instance : FilterCriteria.codec.Faithful :=
  .record (by decide) fun _ => rfl

instance : GenericSource.codec.Faithful :=
  .record (by decide) fun _ => rfl

instance : Device.codec.Faithful :=
  .record (by decide) fun _ => rfl

instance : DeviceGroup.codec.Faithful :=
  .record (by decide) fun _ => rfl

instance : DeviceGroup.codec.Defaults {} :=
  ⟨.obj [], rfl⟩

instance : DeviceTypeCriteria.codec.Faithful :=
  .record (by decide) fun _ => rfl

instance : MeasuringFunction.codec.Faithful :=
  .record (by decide) fun _ => rfl

instance : Conversion.codec.Faithful :=
  .record (by decide) fun _ => rfl

instance : Concept.codec.Faithful :=
  .record (by decide) fun _ => rfl

instance : CharacterizedPath.codec.Faithful :=
  .record (by decide) fun _ => rfl

instance : Import.codec.Faithful :=
  .record (by decide) fun _ => rfl

instance : NodeConfig.codec.Faithful :=
  .record (by decide) fun _ => rfl

instance : NodeValue.codec.Faithful :=
  .record (by decide) fun _ => rfl

instance : NodeInput.codec.Faithful :=
  .record (by decide) fun _ => rfl

instance : PipelineNode.codec.Faithful :=
  .record (by decide) fun _ => rfl

/- An empty id is left out. -/
instance : ((Fields.text "id").omitting (· == "")).Faithful where
  restores := by
    apply Fields.Restores.omitting Fields.Faithful.restores
    intro id hEmpty
    refine ⟨trivial, fun find hMissing => ?_⟩
    rw [beq_iff_eq.mp hEmpty, Fields.text, Fields.field]
    simp only [hMissing "id" List.mem_cons_self]

instance : PipelineRequest.codec.Faithful :=
  .record (by decide) fun _ => rfl

instance : Uuid.codec.Faithful :=
  Codec.Faithful.refine inferInstance
    (fun id => ⟨.str id.toText, rfl⟩) Uuid.parse?_toText

instance : Uuid.codec.Defaults .nil :=
  ⟨.str Uuid.nil.toText, Uuid.parse?_toText .nil⟩

instance : Pipeline.codec.Faithful :=
  .record (by decide) fun _ => rfl

instance : FlowCell.codec.Faithful :=
  .record (by decide) fun _ => rfl

instance : PipelineDescription.codec.Faithful :=
  .record (by decide) fun _ => rfl

instance : CommandHeader.codec.Faithful :=
  .record (by decide) fun _ => rfl

instance : DeviceGroupCommand.codec.Faithful :=
  .record (by decide) fun _ => rfl

instance : DoneNotification.codec.Faithful :=
  .record (by decide) fun _ => rfl

instance : FilterCriteria.codec.Defaults {} :=
  ⟨.obj [], rfl⟩

------------------------------------------------------------
-- Imports
------------------------------------------------------------

namespace ImportVariable

theorem areLevels :
    Codec.AreLevels codecTo depth (·.subVariables) where
  decode level m n hBelow := by
    apply Codec.AgreeTo.record
    intro below hLess
    exact .pair (.refl _) <| .pair (.refl _) <| .pair (.refl _) <|
      .pair (.items _ (hBelow below hLess)) (.refl _)
  encode m n v hSubs := by
    have hList : v.subVariables.map (codecTo m).encode =
        v.subVariables.map (codecTo n).encode :=
      List.map_congr_left hSubs
    simp only [codecTo, Codec.record, Fields.pair,
      Fields.items, Fields.field, Codec.list, hList]
  depth_pos v := by
    cases v
    exact Nat.succ_pos _
  depth_lt v s hMem := by
    cases v
    exact Codec.AreLevels.depth_lt_of_mem (fun _ _ => by rw [depthList]) hMem

theorem codecTo_faithful
    (n : Nat) :
    (codecTo n).Faithful := by
  induction n with
  | zero =>
      have hNever : ∀ v, ¬ (codecTo 0).Reads v := by
        rintro v ⟨j, ⟨⟩⟩
      exact ⟨.of_never hNever, fun _ => nofun⟩
  | succ n ih =>
      have hNames :
          ["name", "type", "characteristic_id",
            "sub_content_variables", "use_as_tag",
            "function_id", "aspect_id"].Nodup := by
        decide
      exact .record hNames fun _ => rfl

end ImportVariable

instance : ImportVariable.codec.Faithful where
  restores :=
    .of_levels ImportVariable.areLevels fun n =>
      (ImportVariable.codecTo_faithful n).restores
  encode_ne_null v := (ImportVariable.codecTo_faithful v.depth).encode_ne_null v

instance : ImportVariable.codec.Defaults {} :=
  ⟨.obj [], rfl⟩

instance : ImportType.codec.Faithful :=
  .record (by decide) fun _ => rfl

------------------------------------------------------------
-- Values that are restored
------------------------------------------------------------

/- No value looks like an embedded one. -/
def Dict.IsLiteral
    (d : Dict Json) : Prop :=
  ∀ e ∈ d.entries, isLiteral e.2 = true

/-
  As a value that may be missing, it is found again: `null`
  would be taken for a missing one.
-/
def Json.IsGiven
    (v : Json) : Prop :=
  v ≠ .null ∧ isLiteral v = true

def PathOption.IsRestorable
    (p : PathOption) : Prop :=
  p.extra.IsLiteral

def Selection.IsRestorable
    (s : Selection) : Prop :=
  s.extra.IsLiteral ∧ ∀ p ∈ s.path, p.IsRestorable

def MessageEvent.IsRestorable
    (e : MessageEvent) : Prop :=
  e.selection.IsRestorable

def ConditionalEvent.IsRestorable
    (e : ConditionalEvent) : Prop :=
  e.selection.IsRestorable

def Element.IsRestorable
    (e : Element) : Prop :=
  e.extra.IsLiteral ∧
    (∀ m ∈ e.messageEvent, m.IsRestorable) ∧
    ∀ c ∈ e.conditionalEvent, c.IsRestorable

def Deployment.IsRestorable
    (d : Deployment) : Prop :=
  d.extra.IsLiteral ∧ ∀ e ∈ d.elements, e.IsRestorable

/- The value of a variable is restored, and those of all variables within it. -/
inductive ContentVariable.IsRestorable : ContentVariable → Prop
  | intro {v : ContentVariable}
      (hValue : ∀ j ∈ v.value, j.IsGiven)
      (hSubs : ∀ s ∈ v.subVariables, s.IsRestorable) :
      IsRestorable v

def Service.IsRestorable
    (s : Service) : Prop :=
  (∀ c ∈ s.inputs, c.contentVariable.IsRestorable) ∧
    ∀ c ∈ s.outputs, c.contentVariable.IsRestorable

def ServicePathOption.IsRestorable
    (o : ServicePathOption) : Prop :=
  ∀ v ∈ o.value, v.IsGiven

def DeviceTypeSelectable.IsRestorable
    (s : DeviceTypeSelectable) : Prop :=
  (∀ service ∈ s.services, service.IsRestorable) ∧
    ∀ e ∈ s.servicePathOptions.entries, ∀ o ∈ e.2, o.IsRestorable

instance : DecidablePred Dict.IsLiteral :=
  fun d => inferInstanceAs (Decidable (∀ e ∈ d.entries, _))

instance : DecidablePred PathOption.IsRestorable :=
  fun p => inferInstanceAs (Decidable p.extra.IsLiteral)

instance : DecidablePred Selection.IsRestorable :=
  fun s => inferInstanceAs
    (Decidable (s.extra.IsLiteral ∧ ∀ p ∈ s.path, p.IsRestorable))

instance : DecidablePred MessageEvent.IsRestorable :=
  fun e => inferInstanceAs (Decidable e.selection.IsRestorable)

instance : DecidablePred ConditionalEvent.IsRestorable :=
  fun e => inferInstanceAs (Decidable e.selection.IsRestorable)

instance : DecidablePred Element.IsRestorable :=
  fun e =>
    inferInstanceAs
      (Decidable
        (e.extra.IsLiteral ∧
          (∀ m ∈ e.messageEvent, m.IsRestorable) ∧
          ∀ c ∈ e.conditionalEvent, c.IsRestorable))

instance : DecidablePred Deployment.IsRestorable :=
  fun d => inferInstanceAs
    (Decidable (d.extra.IsLiteral ∧ ∀ e ∈ d.elements, e.IsRestorable))

------------------------------------------------------------
-- Members that are carried along
------------------------------------------------------------

def PathOption.Carries : Json → Json → Prop :=
  CarriesUnknown ["path", "characteristicId", "functionId", "isVoid"]

def Selection.Carries
    (j e : Json) : Prop :=
  CarriesUnknown
      ["filter_criteria", "selected_device_id", "selected_service_id",
        "selected_device_group_id", "selected_import_id",
        "selected_generic_event_source",
        "selected_path"] j e ∧
    CarriesField 6 "selected_path" PathOption.Carries j e

def MessageEvent.Carries : Json → Json → Prop :=
  CarriesField 4 "selection" Selection.Carries

def ConditionalEvent.Carries : Json → Json → Prop :=
  CarriesField 5 "selection" Selection.Carries

def Element.Carries
    (j e : Json) : Prop :=
  CarriesUnknown ["bpmn_id", "name", "message_event", "conditional_event"] j e ∧
    CarriesField 2 "message_event" MessageEvent.Carries j e ∧
    CarriesField 3 "conditional_event" ConditionalEvent.Carries j e

def Deployment.Carries
    (j e : Json) : Prop :=
  CarriesUnknown ["version", "id", "name", "elements"] j e ∧
    CarriesField 3 "elements" (CarriesEach Element.Carries) j e

/- The owner stands beside the members of the deployment. -/
def OwnedDeployment.Carries
    (j e : Json) : Prop :=
  CarriesUnknown ["version", "id", "name", "elements", "user_id"] j e ∧
    CarriesField 3 "elements" (CarriesEach Element.Carries) j e

def DeploymentIndex.Carries : Json → Json → Prop :=
  CarriesField 2 "deployment" Deployment.Carries

def DeploymentCommand.Carries : Json → Json → Prop :=
  CarriesField 4 "deployment" Deployment.Carries

------------------------------------------------------------
-- Deployments
------------------------------------------------------------

theorem PathOption.restores :
    PathOption.codec.Restores PathOption.IsRestorable :=
  (Codec.Restores.openRecord (by decide)
    (fun _ _ => rfl) Fields.Faithful.restores).of_iff
    fun _ => Iff.of_eq (true_and _)

theorem PathOption.carries :
    PathOption.codec.Carries PathOption.Carries :=
  .unknown (by decide) fun _ _ => rfl

theorem Selection.restores :
    Selection.codec.Restores Selection.IsRestorable :=
  (Codec.Restores.openRecord (by decide) (fun _ _ => rfl) <|
    .after <| .after <| .after <| .after <| .after <| .after <|
      .present (PathOption.restores.option_of_ne_null fun _ => nofun)).of_iff
    fun _ => and_comm

theorem Selection.carries :
    Selection.codec.Carries Selection.Carries :=
  .and (.unknown (by decide) fun _ _ => rfl) <|
    .openRecord (by decide) (fun _ _ => rfl) <|
      .right <| .right <| .right <| .right <|
        .right <| .right <| .present _ PathOption.carries

instance : Selection.codec.Defaults {} :=
  ⟨.obj [], rfl⟩

theorem MessageEvent.restores :
    MessageEvent.codec.Restores MessageEvent.IsRestorable :=
  .record (by decide) (fun _ => rfl) <|
    .after <| .after <| .after <| .after <|
      .field _ Selection.restores Codec.Defaults.reads

theorem MessageEvent.carries :
    MessageEvent.codec.Carries MessageEvent.Carries :=
  .record (by decide) (fun _ => rfl) <|
    .right <| .right <| .right <| .right <| .field _ _ Selection.carries

theorem ConditionalEvent.restores :
    ConditionalEvent.codec.Restores ConditionalEvent.IsRestorable :=
  .record (by decide) (fun _ => rfl) <|
    .after <| .after <| .after <| .after <| .after <|
      .field _ Selection.restores Codec.Defaults.reads

theorem ConditionalEvent.carries :
    ConditionalEvent.codec.Carries ConditionalEvent.Carries :=
  .record (by decide) (fun _ => rfl) <|
    .right <| .right <| .right <| .right <| .right <|
      .field _ _ Selection.carries

theorem Element.restores :
    Element.codec.Restores Element.IsRestorable :=
  (Codec.Restores.openRecord (by decide) (fun _ _ => rfl) <|
    .after <| .after <|
      .pair
        (.field _ (MessageEvent.restores.option_of_ne_null fun _ => nofun)
          Codec.Defaults.reads)
        (.field _ (ConditionalEvent.restores.option_of_ne_null fun _ => nofun)
          Codec.Defaults.reads)).of_iff
    fun _ => and_comm

theorem Element.carries :
    Element.codec.Carries Element.Carries :=
  .and (.unknown (by decide) fun _ _ => rfl) <|
    .and
      (.openRecord (by decide) (fun _ _ => rfl) <|
        .right <| .right <| .left <| .optional _ MessageEvent.carries)
      (.openRecord (by decide) (fun _ _ => rfl) <|
        .right <| .right <| .right <| .optional _ ConditionalEvent.carries)

theorem Deployment.restores :
    Deployment.codec.Restores Deployment.IsRestorable :=
  (Codec.Restores.openRecord (by decide) (fun _ _ => rfl) <|
    .after <| .after <| .after <|
      .field _ Element.restores.list Codec.Defaults.reads).of_iff
    fun _ => and_comm

instance : Deployment.fields.Regular := by
  unfold Deployment.fields
  infer_instance

theorem Deployment.carries :
    Deployment.codec.Carries Deployment.Carries :=
  .and (.unknown (by decide) fun _ _ => rfl) <|
    .openRecord (by decide) (fun _ _ => rfl) <|
      .right <| .right <| .right <| .field _ _ Element.carries.list

instance : Deployment.codec.Defaults {} :=
  ⟨.obj [], rfl⟩

------------------------------------------------------------
-- Deployments with their owner
------------------------------------------------------------

namespace OwnedDeployment

/- What a deployment with its owner is decoded from. -/
theorem exists_of_decode
    {j : Json} {d : OwnedDeployment}
    (hDecode : codec.decode j = some d) :
    ∃ members,
      j = .obj members ∧
        (Fields.text ownerKey).ofMembers (find? members) = some d.owner ∧
        Deployment.codec.decode (.obj (Codec.others [ownerKey] members)) =
          some d.deployment := by
  simp only [codec, decode] at hDecode
  split at hDecode
  · rename_i members
    simp only [Option.ite_none_left_eq_some, Option.bind_eq_bind,
      Option.bind_eq_some_iff, Option.guard_eq_some', Option.pure_def,
      Option.some.injEq] at hDecode
    rcases hDecode with ⟨-, owner, hOwner, -, -, deployment, hDeployment, rfl⟩
    exact ⟨members, rfl, hOwner, hDeployment⟩
  · cases hDecode

/-
  What it is written as: the members of the deployment, none
  of which is the owner.
-/
theorem exists_of_encode
    {members : List (String × Json)} {d : OwnedDeployment}
    (hDecode :
      Deployment.codec.decode (.obj (Codec.others [ownerKey] members)) =
        some d.deployment) :
    ∃ members',
      Deployment.codec.encode d.deployment = .obj members' ∧
        (members'.map (·.1)).Nodup ∧
        ownerKey ∉ members'.map (·.1) ∧
        codec.encode d = .obj (members' ++ [(ownerKey, .str d.owner)]) := by
  rcases (Deployment.carries _ _ hDecode).1 with
    ⟨_, members', -, hEncode, hKeys, -⟩
  refine ⟨members', hEncode, hKeys,
    fun hMem => ?_, by simp only [codec, encode, hEncode]⟩
  rcases Codec.mem_keys_of_openRecord (fun _ _ => rfl) hDecode hEncode hMem
    with hField | hOther
  · revert hField
    decide
  · rcases List.mem_map.mp hOther with ⟨m, hIn, hKey⟩
    have hUnknown := (List.mem_filter.mp hIn).2
    rw [hKey] at hUnknown
    revert hUnknown
    decide

theorem nodup_keys_append_owner
    {members : List (String × Json)}
    (owner : Json)
    (hKeys : (members.map (·.1)).Nodup)
    (hKey : ownerKey ∉ members.map (·.1)) :
    ((members ++ [(ownerKey, owner)]).map (·.1)).Nodup := by
  rw [List.map_append, List.map_singleton, ← List.concat_eq_append]
  exact hKeys.concat hKey

theorem others_append_owner
    {members : List (String × Json)} {owner : Json}
    (hKey : ownerKey ∉ members.map (·.1)) :
    Codec.others [ownerKey] (members ++ [(ownerKey, owner)]) = members := by
  rw [Codec.others_append, Codec.others_eq_self,
    Codec.others_eq_nil, List.append_nil]
  · exact List.Subset.refl _
  · exact List.forall_mem_singleton.mpr hKey

theorem find?_append_owner
    {members : List (String × Json)} {owner : Json}
    (hKey : ownerKey ∉ members.map (·.1)) :
    find? (members ++ [(ownerKey, owner)]) ownerKey = some owner := by
  rw [find?_append, find?_eq_none hKey, Option.none_or]
  rfl

theorem restores :
    codec.Restores fun d => d.deployment.IsRestorable where
  isReadable d hReads := by
    rcases hReads with ⟨j, hDecode⟩
    rcases exists_of_decode hDecode with ⟨members, rfl, -, hDeployment⟩
    rcases exists_of_encode hDeployment with ⟨members', hEncode, -, -, hWritten⟩
    have hReadable :=
      Deployment.restores.isReadable d.deployment ⟨_, hDeployment⟩
    rw [hEncode, isReadable_obj_iff] at hReadable
    rw [hWritten, isReadable_obj_iff, List.forall_mem_append]
    exact ⟨hReadable, List.forall_mem_singleton.mpr rfl⟩
  decode_iff d hReads := by
    rcases hReads with ⟨j, hDecode⟩
    rcases exists_of_decode hDecode with ⟨members, rfl, -, hDeployment⟩
    rcases exists_of_encode hDeployment with
      ⟨members', hEncode, hKeys, hKey, hWritten⟩
    have hReadable :=
      Deployment.restores.isReadable d.deployment ⟨_, hDeployment⟩
    have hIff := Deployment.restores.decode_iff d.deployment ⟨_, hDeployment⟩
    rw [hEncode] at hReadable hIff
    have hDistinct := nodup_keys_append_owner (.str d.owner) hKeys hKey
    rw [← hIff, hWritten]
    simp only [codec, decode, Codec.repeats_of_nodup _ hDistinct,
      others_append_owner hKey, Fields.text, Fields.field,
      find?_append_owner hKey, Codec.string, hReadable, Bool.false_eq_true,
      if_false, guard_true, Option.bind_eq_bind, Option.bind_some,
      Option.pure_def]
    rw [Option.bind_eq_some_iff]
    constructor
    · rintro ⟨deployment, hAgain, hSame⟩
      rw [← Option.some.inj hSame]
      exact hAgain
    · exact fun hAgain => ⟨d.deployment, hAgain, rfl⟩

/- The owner is none of the members that are not known. -/
theorem carries :
    codec.Carries OwnedDeployment.Carries := by
  intro j d hDecode
  rcases exists_of_decode hDecode with ⟨members, rfl, -, hDeployment⟩
  rcases exists_of_encode hDeployment with
    ⟨members', hEncode, hKeys, hKey, hWritten⟩
  rcases Deployment.carries _ _ hDeployment with ⟨hUnknown, hElements⟩
  rw [hEncode] at hUnknown hElements
  rw [hWritten]
  constructor
  · rcases hUnknown with ⟨_, _, hGiven, hSame, -, hValues⟩
    cases hGiven
    cases hSame
    refine ⟨members, _, rfl, rfl, nodup_keys_append_owner _ hKeys hKey, ?_⟩
    intro key hOther v hFind
    have hNames :
        key ∉ ["version", "id", "name", "elements"] ∧ key ∉ [ownerKey] :=
      not_or.mp fun hMem => hOther (List.mem_append.mpr hMem)
    rw [← Codec.find?_reverse_others hNames.2] at hFind
    rcases hValues key hNames.1 v hFind with ⟨v', hFree, hFound, hLiteral⟩
    refine ⟨v', hFree, ?_, hLiteral⟩
    rw [find?_append, hFound, Option.some_or]
  · intro v hField hNull
    have hGiven :
        (Json.obj (Codec.others [ownerKey] members)).field? 3 "elements" =
          some v := by
      rw [field?, Codec.find?_others (by decide)]
      exact hField
    rcases hElements v hGiven hNull with ⟨w, hFound, hEach⟩
    refine ⟨w, ?_, hEach⟩
    rw [field?] at hFound ⊢
    rw [find?_append, hFound, Option.some_or]

end OwnedDeployment

------------------------------------------------------------
-- Records with a deployment
------------------------------------------------------------

theorem DeploymentIndex.restores :
    DeploymentIndex.codec.Restores fun i => i.deployment.IsRestorable :=
  .record (by decide) (fun _ => rfl) <|
    .after <| .after <| .before <|
      .field _ Deployment.restores Codec.Defaults.reads

theorem DeploymentIndex.carries :
    DeploymentIndex.codec.Carries DeploymentIndex.Carries :=
  .record (by decide) (fun _ => rfl) <|
    .right <| .right <| .left <| .field _ _ Deployment.carries

theorem DeploymentCommand.restores :
    DeploymentCommand.codec.Restores fun c => ∀ d ∈ c.deployment,
      d.IsRestorable :=
  .record (by decide) (fun _ => rfl) <|
    .after <| .after <| .after <| .after <|
      .field _ (Deployment.restores.option_of_ne_null fun _ => nofun)
        Codec.Defaults.reads

theorem DeploymentCommand.carries :
    DeploymentCommand.codec.Carries DeploymentCommand.Carries :=
  .record (by decide) (fun _ => rfl) <|
    .right <| .right <| .right <| .right <| .optional _ Deployment.carries

------------------------------------------------------------
-- Services
------------------------------------------------------------

namespace ContentVariable

theorem isRestorable_iff
    {v : ContentVariable} :
    v.IsRestorable ↔
      (∀ s ∈ v.subVariables, s.IsRestorable) ∧ ∀ j ∈ v.value, j.IsGiven := by
  constructor
  · rintro ⟨hValue, hSubs⟩
    exact ⟨hSubs, hValue⟩
  · rintro ⟨hSubs, hValue⟩
    exact .intro hValue hSubs

theorem areLevels :
    Codec.AreLevels codecTo depth (·.subVariables) where
  decode level m n hBelow := by
    apply Codec.AgreeTo.record
    intro below hLess
    exact .pair (.refl _) <| .pair (.refl _) <|
      .pair (.refl _) <| .pair (.refl _) <|
      .pair (.items _ (hBelow below hLess)) (.refl _)
  encode m n v hSubs := by
    have hList : v.subVariables.map (codecTo m).encode =
        v.subVariables.map (codecTo n).encode :=
      List.map_congr_left hSubs
    simp only [codecTo, Codec.record, Fields.pair,
      Fields.items, Fields.field, Codec.list, hList]
  depth_pos v := by
    cases v
    exact Nat.succ_pos _
  depth_lt v s hMem := by
    cases v
    exact Codec.AreLevels.depth_lt_of_mem (fun _ _ => by rw [depthList]) hMem

theorem codecTo_restores
    (n : Nat) :
    (codecTo n).Restores IsRestorable := by
  induction n with
  | zero =>
      apply Codec.Restores.of_never
      rintro v ⟨j, ⟨⟩⟩
  | succ n ih =>
      have hNames :
          ["id", "name", "is_void", "type", "sub_content_variables",
            "characteristic_id",
            "value", "function_id", "aspect_id"].Nodup := by
        decide
      exact (Codec.Restores.record hNames (fun _ => rfl) <|
        .after <| .after <| .after <| .after <|
          .pair (.field _ ih.list Codec.Defaults.reads) <|
            .after <| .before <| .present Codec.Restores.free.option).of_iff
        fun _ => isRestorable_iff.symm

theorem restores :
    codec.Restores IsRestorable :=
  .of_levels areLevels codecTo_restores

end ContentVariable

instance : ContentVariable.codec.Defaults {} :=
  ⟨.obj [], rfl⟩

theorem Content.restores :
    Content.codec.Restores fun c => c.contentVariable.IsRestorable :=
  .record (by decide) (fun _ => rfl) <|
    .after <| .before <| .field _ ContentVariable.restores Codec.Defaults.reads

theorem Service.restores :
    Service.codec.Restores Service.IsRestorable :=
  .record (by decide) (fun _ => rfl) <|
    .after <| .after <| .after <| .after <| .after <| .after <|
      .pair
        (.field _ Content.restores.list Codec.Defaults.reads)
        (.field _ Content.restores.list Codec.Defaults.reads)

instance : Service.codec.Defaults {} :=
  ⟨.obj [], rfl⟩

theorem ServicePathOption.restores :
    ServicePathOption.codec.Restores ServicePathOption.IsRestorable :=
  .record (by decide) (fun _ => rfl) <|
    .after <| .after <| .after <| .after <| .after <| .before <|
      .present Codec.Restores.free.option

theorem DeviceTypeSelectable.restores :
    DeviceTypeSelectable.codec.Restores DeviceTypeSelectable.IsRestorable :=
  .record (by decide) (fun _ => rfl) <|
    .after <|
      .pair
        (.field _ Service.restores.list Codec.Defaults.reads)
        (.field _ ServicePathOption.restores.list.dict Codec.Defaults.reads)

theorem EventDescription.restores :
    EventDescription.codec.Restores fun d =>
      d.serviceForMarshaller.IsRestorable :=
  .record (by decide) (fun _ => rfl) <|
    .after <| .after <| .after <| .after <| .after <|
      .after <| .after <| .after <|
      .after <| .after <| .after <| .after <| .after <| .after <| .after <|
        .field _ Service.restores Codec.Defaults.reads

------------------------------------------------------------
-- The wire model
------------------------------------------------------------

/- The types that are exchanged as JSON. -/
inductive WireType where
  | deployment
  | ownedDeployment
  | element
  | messageEvent
  | conditionalEvent
  | selection
  | filterCriteria
  | genericSource
  | pathOption
  | eventDescription
  | deploymentIndex
  | device
  | deviceGroup
  | deviceTypeCriteria
  | deviceTypeSelectable
  | servicePathOption
  | service
  | content
  | contentVariable
  | measuringFunction
  | concept
  | conversion
  | characterizedPath
  | importInstance
  | importType
  | importVariable
  | pipelineRequest
  | pipelineNode
  | nodeInput
  | nodeValue
  | nodeConfig
  | pipeline
  | flowCell
  | pipelineDescription
  | commandHeader
  | deploymentCommand
  | deviceGroupCommand
  | doneNotification
  deriving DecidableEq, Repr

namespace WireType

@[reducible]
def Value : WireType → Type
  | .deployment => Deployment
  | .ownedDeployment => OwnedDeployment
  | .element => Element
  | .messageEvent => MessageEvent
  | .conditionalEvent => ConditionalEvent
  | .selection => Selection
  | .filterCriteria => FilterCriteria
  | .genericSource => GenericSource
  | .pathOption => PathOption
  | .eventDescription => EventDescription
  | .deploymentIndex => DeploymentIndex
  | .device => Device
  | .deviceGroup => DeviceGroup
  | .deviceTypeCriteria => DeviceTypeCriteria
  | .deviceTypeSelectable => DeviceTypeSelectable
  | .servicePathOption => ServicePathOption
  | .service => Service
  | .content => Content
  | .contentVariable => ContentVariable
  | .measuringFunction => MeasuringFunction
  | .concept => Concept
  | .conversion => Conversion
  | .characterizedPath => CharacterizedPath
  | .importInstance => Import
  | .importType => ImportType
  | .importVariable => ImportVariable
  | .pipelineRequest => PipelineRequest
  | .pipelineNode => PipelineNode
  | .nodeInput => NodeInput
  | .nodeValue => NodeValue
  | .nodeConfig => NodeConfig
  | .pipeline => Pipeline
  | .flowCell => FlowCell
  | .pipelineDescription => PipelineDescription
  | .commandHeader => CommandHeader
  | .deploymentCommand => DeploymentCommand
  | .deviceGroupCommand => DeviceGroupCommand
  | .doneNotification => DoneNotification

@[reducible]
def codec : (t : WireType) → Codec t.Value
  | .deployment => Deployment.codec
  | .ownedDeployment => OwnedDeployment.codec
  | .element => Element.codec
  | .messageEvent => MessageEvent.codec
  | .conditionalEvent => ConditionalEvent.codec
  | .selection => Selection.codec
  | .filterCriteria => FilterCriteria.codec
  | .genericSource => GenericSource.codec
  | .pathOption => PathOption.codec
  | .eventDescription => EventDescription.codec
  | .deploymentIndex => DeploymentIndex.codec
  | .device => Device.codec
  | .deviceGroup => DeviceGroup.codec
  | .deviceTypeCriteria => DeviceTypeCriteria.codec
  | .deviceTypeSelectable => DeviceTypeSelectable.codec
  | .servicePathOption => ServicePathOption.codec
  | .service => Service.codec
  | .content => Content.codec
  | .contentVariable => ContentVariable.codec
  | .measuringFunction => MeasuringFunction.codec
  | .concept => Concept.codec
  | .conversion => Conversion.codec
  | .characterizedPath => CharacterizedPath.codec
  | .importInstance => Import.codec
  | .importType => ImportType.codec
  | .importVariable => ImportVariable.codec
  | .pipelineRequest => PipelineRequest.codec
  | .pipelineNode => PipelineNode.codec
  | .nodeInput => NodeInput.codec
  | .nodeValue => NodeValue.codec
  | .nodeConfig => NodeConfig.codec
  | .pipeline => Pipeline.codec
  | .flowCell => FlowCell.codec
  | .pipelineDescription => PipelineDescription.codec
  | .commandHeader => CommandHeader.codec
  | .deploymentCommand => DeploymentCommand.codec
  | .deviceGroupCommand => DeviceGroupCommand.codec
  | .doneNotification => DoneNotification.codec

/-
  Which values are restored; all of them if there are no
  free values in the type.
-/
def IsRestorable : (t : WireType) → t.Value → Prop
  | .deployment => Deployment.IsRestorable
  | .ownedDeployment => fun d => d.deployment.IsRestorable
  | .element => Element.IsRestorable
  | .messageEvent => MessageEvent.IsRestorable
  | .conditionalEvent => ConditionalEvent.IsRestorable
  | .selection => Selection.IsRestorable
  | .pathOption => PathOption.IsRestorable
  | .eventDescription => fun d => d.serviceForMarshaller.IsRestorable
  | .deploymentIndex => fun i => i.deployment.IsRestorable
  | .deviceTypeSelectable => DeviceTypeSelectable.IsRestorable
  | .servicePathOption => ServicePathOption.IsRestorable
  | .service => Service.IsRestorable
  | .content => fun c => c.contentVariable.IsRestorable
  | .contentVariable => ContentVariable.IsRestorable
  | .deploymentCommand => fun c => ∀ d ∈ c.deployment, d.IsRestorable
  | _ => fun _ => True

/- What is kept of a value in what is written for it, at any depth. -/
def Carries : WireType → Json → Json → Prop
  | .deployment => Deployment.Carries
  | .ownedDeployment => OwnedDeployment.Carries
  | .element => Element.Carries
  | .messageEvent => MessageEvent.Carries
  | .conditionalEvent => ConditionalEvent.Carries
  | .selection => Selection.Carries
  | .pathOption => PathOption.Carries
  | .deploymentIndex => DeploymentIndex.Carries
  | .deploymentCommand => DeploymentCommand.Carries
  | _ => fun _ _ => True

theorem restores :
    (t : WireType) → t.codec.Restores t.IsRestorable
  | .deployment => Deployment.restores
  | .ownedDeployment => OwnedDeployment.restores
  | .element => Element.restores
  | .messageEvent => MessageEvent.restores
  | .conditionalEvent => ConditionalEvent.restores
  | .selection => Selection.restores
  | .pathOption => PathOption.restores
  | .eventDescription => EventDescription.restores
  | .deploymentIndex => DeploymentIndex.restores
  | .deviceTypeSelectable => DeviceTypeSelectable.restores
  | .servicePathOption => ServicePathOption.restores
  | .service => Service.restores
  | .content => Content.restores
  | .contentVariable => ContentVariable.restores
  | .deploymentCommand => DeploymentCommand.restores
  | .filterCriteria | .genericSource | .device | .deviceGroup
  | .deviceTypeCriteria | .measuringFunction | .concept | .conversion
  | .characterizedPath | .importInstance | .importType | .importVariable
  | .pipelineRequest | .pipelineNode | .nodeInput | .nodeValue | .nodeConfig
  | .pipeline | .flowCell | .pipelineDescription | .commandHeader
  | .deviceGroupCommand | .doneNotification =>
      Codec.Faithful.restores

theorem carries :
    (t : WireType) → t.codec.Carries t.Carries
  | .deployment => Deployment.carries
  | .ownedDeployment => OwnedDeployment.carries
  | .element => Element.carries
  | .messageEvent => MessageEvent.carries
  | .conditionalEvent => ConditionalEvent.carries
  | .selection => Selection.carries
  | .pathOption => PathOption.carries
  | .deploymentIndex => DeploymentIndex.carries
  | .deploymentCommand => DeploymentCommand.carries
  | .filterCriteria | .genericSource | .eventDescription | .device
  | .deviceGroup | .deviceTypeCriteria | .deviceTypeSelectable
  | .servicePathOption | .service | .content | .contentVariable
  | .measuringFunction | .concept | .conversion | .characterizedPath
  | .importInstance | .importType | .importVariable | .pipelineRequest
  | .pipelineNode | .nodeInput | .nodeValue | .nodeConfig | .pipeline
  | .flowCell | .pipelineDescription | .commandHeader | .deviceGroupCommand
  | .doneNotification =>
      fun _ _ _ => trivial

/-
  A value is decoded again from what is written for it if and
  only if its free values are restored, and what is written
  keeps the members that the type does not know.
-/
theorem decode_encode
    {t : WireType} {j : Json} {x : t.Value}
    (hDecode : t.codec.decode j = some x) :
    (t.codec.decode (t.codec.encode x) = some x ↔ t.IsRestorable x) ∧
      t.Carries j (t.codec.encode x) :=
  ⟨t.restores.decode_iff x ⟨j, hDecode⟩, t.carries j x hDecode⟩

/- A deployment with a diagram, and an element with a place in an order. -/
def deploymentWithDiagram : Json :=
  .obj [
    ("version", .int 3),
    ("id", .str "d1"),
    ("diagram", .obj [("xml_deployed", .str "<xml/>")]),
    ("elements", .arr [.obj [("bpmn_id", .str "b1"), ("order", .int 2)]])]

theorem decode_encode_deploymentWithDiagram :
    ∃ d,
      Deployment.codec.decode deploymentWithDiagram = some d ∧
        Deployment.codec.decode (Deployment.codec.encode d) = some d ∧
        Deployment.Carries deploymentWithDiagram
          (Deployment.codec.encode d) := by
  have hGiven :
      ∃ d ∈ Deployment.codec.decode deploymentWithDiagram, d.IsRestorable := by
    decide +kernel
  rcases hGiven with ⟨d, hDecode, hRestorable⟩
  have hWritten := decode_encode (t := .deployment) hDecode
  exact ⟨d, hDecode, hWritten.1.mpr hRestorable, hWritten.2⟩

/-
  An embedded value is put in place, and an object in which
  another member comes first is sorted, after which it is
  taken for an embedded value that cannot be read.
-/
theorem decode_encode_embedding :
    (∃ p ∈ PathOption.codec.decode
        (.obj [("a", .obj [(embeddingKey, .str "[1,2]")])]),
      ((PathOption.codec.encode p).field? 4 "a").map toText = some "[1,2]") ∧
      ∃ p ∈ PathOption.codec.decode
          (.obj [("a", .obj [("b", .int 2), (embeddingKey, .str "1")])]),
        (PathOption.codec.decode (PathOption.codec.encode p)).isNone =
          true := by
  decide +kernel

end WireType

end ProcessEvents
