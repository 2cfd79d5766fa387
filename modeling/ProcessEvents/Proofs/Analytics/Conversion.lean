import ProcessEvents.Proofs.Analytics.Accounting
import ProcessEvents.Proofs.EventRequest

/-
  This file tells which settings of the converter an event is
  deployed with. They are all given or all empty: that is
  decided by the characteristics that the value has and that
  it should have. What can be converted is asked of the
  event's function and of its concept; a record beside the
  run tells what they have answered.

  Key definitions include:
    * `HasConverter`
    * `ConversionNote`
    * `LacksConversions`, `HasConversions`
    * `SourceKind.IsActive`, `MessageEvent.IsCast`
    * `IsConverted`
    * `AnalyticsHandler.traced`
    * `AnalyticsHandler.Converts`

  Key theorems include:
    * `isConverted_of_told`
    * `AnalyticsHandler.conversions_traced`
    * `AnalyticsHandler.deployElement_traced`
    * `AnalyticsHandler.deploy_converts`
-/

namespace ProcessEvents

variable {σ α β : Type}

open ProcessEvents.Action (Records Serves Silent notesEach)

------------------------------------------------------------
-- Settings of the converter
------------------------------------------------------------

/- There is exactly one setting of the name, with the value. -/
def HasOnce
    (config : List NodeConfig)
    (name value : String) : Prop :=
  config.filter (fun setting => setting.name = name) = [⟨name, value⟩]

/- Each setting of the converter is there exactly once. -/
structure HasConverter
    (config : List NodeConfig)
    (converterUrl extendedConverterUrl convertFrom convertTo castExtensions :
      String) :
    Prop where
  converterUrl : HasOnce config "converterUrl" converterUrl
  extendedConverterUrl :
    HasOnce config "extendedConverterUrl" extendedConverterUrl
  convertFrom : HasOnce config "convertFrom" convertFrom
  convertTo : HasOnce config "convertTo" convertTo
  castExtensions : HasOnce config "castExtensions" castExtensions

namespace EventRequest

variable (s : RequestSettings) (cast : Cast) (token : BearerToken)
  (operatorValue eventId : String)

theorem hasConverter_of_active :
    HasConverter
      (leadingConfig s operatorValue eventId ++
        converterConfig s cast true ++ tokenConfig token)
      s.converterUrl s.extendedConverterUrl cast.source cast.target
      (conversionsText cast.conversions) :=
  ⟨rfl, rfl, rfl, rfl, rfl⟩

theorem hasConverter_of_inactive :
    HasConverter
      (leadingConfig s operatorValue eventId ++
        converterConfig s cast false ++ tokenConfig token)
      "" "" "" "" "" :=
  ⟨rfl, rfl, rfl, rfl, rfl⟩

end EventRequest

namespace Cast

theorem differs_iff
    {c : Cast} :
    c.differs = true ↔ c.source ≠ c.target :=
  bne_iff_ne

theorem differsAndKnown_iff
    {c : Cast} :
    c.differsAndKnown = true ↔
      c.source ≠ c.target ∧ c.source ≠ "" ∧ c.target ≠ "" := by
  rw [differsAndKnown, Bool.and_eq_true, Bool.and_eq_true, differs_iff,
    bne_iff_ne, bne_iff_ne, and_assoc]

end Cast

------------------------------------------------------------
-- Lookups of conversions
------------------------------------------------------------

/- A lookup on the way to conversions, with its answer, or a creation. -/
inductive ConversionNote where
  | function (id : String) (answer : Except RequestError MeasuringFunction)
  | concept (id : String) (answer : Except RequestError Concept)
  | creation
      (owner : String)
      (token : BearerToken)
      (request : PipelineRequest)
      (fault : Option RequestError)

def ConversionNote.isCreation : ConversionNote → Bool
  | .creation _ _ _ _ => true
  | _ => false

/-
  Why there are no conversions: the function is missing or
  unknown, it has no concept, or its concept is unknown or
  has no conversions.
-/
inductive LacksConversions : Option String → List ConversionNote → Prop where
  | functionMissing : LacksConversions none []
  | functionUnknown
      {id body : String} :
      LacksConversions (some id)
        [.function id (.error (.unexpectedStatus .notFound body))]
  | conceptMissing
      {id : String} {function : MeasuringFunction}
      (hConcept : function.conceptId = "") :
      LacksConversions (some id) [.function id (.ok function)]
  | conceptUnknown
      {id body : String} {function : MeasuringFunction} :
      LacksConversions (some id)
        [.function id (.ok function),
          .concept function.conceptId
            (.error (.unexpectedStatus .notFound body))]
  | conceptEmpty
      {id : String} {function : MeasuringFunction} {concept : Concept}
      (hNone : concept.conversions = []) :
      LacksConversions (some id)
        [.function id (.ok function), .concept function.conceptId (.ok concept)]

/- The conversions are those of the function's concept. -/
inductive HasConversions :
    Option String → List ConversionNote → List Conversion → Prop where
  | found
      {id : String} {function : MeasuringFunction} {concept : Concept}
      (hConcept : function.conceptId ≠ "")
      (hSome : concept.conversions ≠ []) :
      HasConversions (some id)
        [.function id (.ok function), .concept function.conceptId (.ok concept)]
        concept.conversions

theorem HasConversions.not_lacks
    {functionId : Option String} {lookups : List ConversionNote}
    {conversions : List Conversion}
    (hHas : HasConversions functionId lookups conversions) :
    ¬ LacksConversions functionId lookups := by
  cases hHas with
  | found hConcept hSome =>
      intro hLacks
      cases hLacks with
      | conceptEmpty hNone => exact hSome hNone

theorem HasConversions.ne_nil
    {functionId : Option String} {lookups : List ConversionNote}
    {conversions : List Conversion}
    (hHas : HasConversions functionId lookups conversions) :
    conversions ≠ [] := by
  cases hHas with
  | found _ hSome => exact hSome

/- The conversions that lookups have told: none, or those of a concept. -/
inductive Told
    (functionId : Option String) :
    List Conversion → List ConversionNote → Prop where
  | none
      {lookups : List ConversionNote}
      (hLacks : LacksConversions functionId lookups) :
      Told functionId [] lookups
  | some
      {conversions : List Conversion} {lookups : List ConversionNote}
      (hHas : HasConversions functionId lookups conversions)
      (hBounded : ∀ c ∈ conversions, c.IsBounded) :
      Told functionId conversions lookups

/-
  The text is empty exactly if there are no conversions, and
  the text of the conversions otherwise.
-/
structure TellsConversions
    (functionId : Option String)
    (lookups : List ConversionNote)
    (text : String) : Prop where
  empty : text = "" ↔ LacksConversions functionId lookups
  full :
    ¬ LacksConversions functionId lookups →
      ∃ conversions,
        HasConversions functionId lookups conversions ∧
          (Codec.list Conversion.codec).ofText? text = some conversions

theorem told_of_concept
    {id : String} {function : MeasuringFunction} {concept : Concept}
    (hConcept : function.conceptId ≠ "")
    (hBounded : ∀ c ∈ concept.conversions, c.IsBounded) :
    Told (some id) concept.conversions
      [.function id (.ok function),
        .concept function.conceptId (.ok concept)] := by
  by_cases hNone : concept.conversions = []
  · rw [hNone]
    exact .none (.conceptEmpty hNone)
  · exact .some (.found hConcept hNone) hBounded

theorem Told.tellsConversions
    {functionId : Option String} {conversions : List Conversion}
    {lookups : List ConversionNote}
    (hTold : Told functionId conversions lookups) :
    TellsConversions functionId lookups
      (EventRequest.conversionsText conversions) := by
  cases hTold with
  | none hLacks =>
      exact ⟨iff_of_true rfl hLacks, fun hHas => absurd hLacks hHas⟩
  | some hHas hBounded =>
      constructor
      · rw [EventRequest.conversionsText_eq_empty_iff hBounded]
        exact iff_of_false hHas.ne_nil hHas.not_lacks
      · exact fun _ =>
          ⟨conversions, hHas,
            EventRequest.ofText?_conversionsText hBounded hHas.ne_nil⟩

------------------------------------------------------------
-- Casts
------------------------------------------------------------

/-
  A value is converted if it should have another
  characteristic. That of a generic source is passed through
  unless both characteristics are known.
-/
def SourceKind.IsActive
    (source target : String) : SourceKind → Prop
  | .generic _ => source ≠ target ∧ source ≠ "" ∧ target ≠ ""
  | _ => source ≠ target

/- The events whose values are cast from a single path. -/
def MessageEvent.IsCast
    (event : MessageEvent) : SourceKind → Prop
  | .deviceWithService _ _ => event.useMarshaller = false
  | .importInstance _ => True
  | .generic _ => True
  | .deviceGroup _ => False
  | .deviceWithoutService _ => False

/-
  The settings of the converter for a value that has one
  characteristic and should have another one.
-/
structure IsConverted
    (s : RequestSettings)
    (kind : SourceKind)
    (functionId : Option String)
    (source target : String)
    (lookups : List ConversionNote)
    (config : List NodeConfig) : Prop where
  inactive : ¬ kind.IsActive source target → HasConverter config "" "" "" "" ""
  active :
    kind.IsActive source target →
      ∃ text,
        HasConverter config s.converterUrl s.extendedConverterUrl
          source target text ∧
          TellsConversions functionId lookups text

theorem isConverted_of_told
    {kind : SourceKind} {functionId : Option String} {source target : String}
    {conversions : List Conversion} {lookups : List ConversionNote}
    {active : Bool}
    (hActive : active = true ↔ kind.IsActive source target)
    (hTold : active = true → Told functionId conversions lookups)
    (s : RequestSettings) (token : BearerToken)
    (operatorValue eventId : String) :
    IsConverted s kind functionId source target lookups
      (EventRequest.leadingConfig s operatorValue eventId ++
        EventRequest.converterConfig s { source, target, conversions } active ++
        EventRequest.tokenConfig token) := by
  cases active with
  | false =>
      refine ⟨fun _ => EventRequest.hasConverter_of_inactive _ _ _ _ _,
        fun hIs => ?_⟩
      cases hActive.mpr hIs
  | true =>
      exact ⟨fun hNot => absurd (hActive.mp rfl) hNot, fun _ =>
        ⟨_, EventRequest.hasConverter_of_active _ _ _ _ _,
          (hTold rfl).tellsConversions⟩⟩

------------------------------------------------------------
-- Collaborators with a record
------------------------------------------------------------

/- The distances of all conversions are integers of 64 bits. -/
def DeviceDirectory.IsBounded
    (directory : DeviceDirectory σ) : Prop :=
  ∀ id s concept,
    (directory.concept id s).1 = .ok concept →
      ∀ c ∈ concept.conversions, c.IsBounded

/-
  Functions and concepts are noted as they are answered, and
  creations with what is created and how they fail.
-/
def ConversionNote.calls : CallNotes ConversionNote where
  function := some .function
  concept := some .concept
  create := some fun token userId request answer =>
    .creation userId token request (faultOf? answer)

/- The expansion of a source looks up no conversions. -/
theorem expand_silent
    (devices : DeviceDirectory σ)
    (source : ExpansionSource)
    (functionId aspectId : String) :
    Records (devices.expand source functionId aspectId)
      ((devices.recorded ConversionNote.calls).expand source functionId
        aspectId) Silent := by
  unfold DeviceDirectory.expand
  apply Records.bind_silent
  · cases source with
    | group id => exact .aside
    | devices ids => exact .aside
  · intro infos
    apply Records.bind_silent .aside
    · intro selectables
      exact .pure rfl
    · exact fun _ => rfl
  · exact fun _ => rfl

namespace AnalyticsHandler

/- The handler with a record of lookups for conversions, and of creations. -/
def traced
    (h : AnalyticsHandler σ) : AnalyticsHandler (σ × List ConversionNote) :=
  h.recording ConversionNote.calls

------------------------------------------------------------
-- What is learned
------------------------------------------------------------

/-
  Nothing has been created yet, and the notes explain the
  value if there is one.
-/
structure Learns
    (P : α → List ConversionNote → Prop)
    (r : Except DeployError α)
    (notes : List ConversionNote) : Prop where
  uncreated : ∀ note ∈ notes, note.isCreation = false
  value : ∀ x, r = .ok x → P x notes

namespace Learns

variable {P : α → List ConversionNote → Prop} {notes : List ConversionNote}

theorem error
    {e : DeployError}
    (hNotes : ∀ note ∈ notes, note.isCreation = false) :
    Learns P (.error e) notes :=
  ⟨hNotes, nofun⟩

theorem ok
    {x : α}
    (hNotes : ∀ note ∈ notes, note.isCreation = false)
    (hValue : P x notes) :
    Learns P (.ok x) notes := by
  refine ⟨hNotes, fun y hSame => ?_⟩
  cases hSame
  exact hValue

/- A value that is known without any lookup. -/
theorem pure_records
    {x : α}
    (hValue : P x []) :
    Records (pure x : Action σ DeployError α) (pure x) (Learns P) :=
  .pure (ok nofun hValue)

theorem fail_records
    {e : DeployError} :
    Records (Action.fail e : Action σ DeployError α)
      (Action.fail e) (Learns P) :=
  .fail (error nofun)

theorem bind
    {a : Action σ DeployError α}
    {b : Action (σ × List ConversionNote) DeployError α}
    {f : α → Action σ DeployError β}
    {g : α → Action (σ × List ConversionNote) DeployError β}
    {R : α → β → List ConversionNote → Prop}
    {Q : β → List ConversionNote → Prop}
    (hFirst : Records a b (Learns P))
    (hThen : ∀ x, Records (f x) (g x) (Learns (R x)))
    (hEnd : ∀ x y notes more, P x notes → R x y more → Q y (notes ++ more)) :
    Records (a >>= f) (b >>= g) (Learns Q) := by
  apply Records.bind hFirst hThen
  · exact fun _ _ hNotes => error hNotes.uncreated
  · intro x r notes more hNotes hMore
    refine ⟨List.forall_mem_append.mpr ⟨hNotes.uncreated, hMore.uncreated⟩,
      fun y hSame => ?_⟩
    exact hEnd x y notes more (hNotes.value x rfl) (hMore.value y hSame)

/- Nothing is learned in silence. -/
theorem bind_silent
    {a : Action σ DeployError α}
    {b : Action (σ × List ConversionNote) DeployError α}
    {f : α → Action σ DeployError β}
    {g : α → Action (σ × List ConversionNote) DeployError β}
    {Q : β → List ConversionNote → Prop}
    (hFirst : Records a b Silent)
    (hThen : ∀ x, Records (f x) (g x) (Learns Q)) :
    Records (a >>= f) (b >>= g) (Learns Q) :=
  Records.bind_silent hFirst hThen fun _ => error nofun

end Learns

variable (h : AnalyticsHandler σ)

------------------------------------------------------------
-- Lookups
------------------------------------------------------------

/- A function or a concept that does not exist is passed over. -/
theorem unknown_records
    {e : RequestError}
    {Q : Except DeployError (List Conversion) → List ConversionNote → Prop}
    (hUnknown : ∀ body, e = .unexpectedStatus .notFound body → Q (.ok []) [])
    (hFailed : Q (.error (.request e)) []) :
    Records (if e.isNotFound then return [] else .fail (.request e) :
      Action σ DeployError _)
      (if e.isNotFound then return [] else .fail (.request e)) Q := by
  split
  · rename_i hStatus
    rcases RequestError.isNotFound_iff.mp hStatus with ⟨body, hError⟩
    exact .pure (hUnknown body hError)
  · exact .fail hFailed

theorem conversions_traced
    (hBounded : h.devices.IsBounded)
    (functionId : Option String) :
    Records (h.conversions functionId) (h.traced.conversions functionId)
      (Learns (Told functionId)) := by
  unfold conversions
  cases functionId with
  | none => exact Learns.pure_records (.none .functionMissing)
  | some id =>
      apply Records.bind_attempt_noting (fun _ => True) fun _ => trivial
      intro answer _
      have hFunction : ∀ note ∈ [ConversionNote.function id answer],
          note.isCreation = false :=
        List.forall_mem_singleton.mpr rfl
      cases answer with
      | error e =>
          apply unknown_records
          · rintro body rfl
            exact .ok hFunction (.none .functionUnknown)
          · exact .error hFunction
      | ok function =>
          dsimp only
          split
          · rename_i hConcept
            exact .pure
              (.ok hFunction (.none (.conceptMissing (beq_iff_eq.mp hConcept))))
          · rename_i hConcept
            apply Records.bind_attempt_noting
              (fun answer =>
                ∀ concept, answer = .ok concept →
                  ∀ c ∈ concept.conversions, c.IsBounded)
              (hBounded function.conceptId)
            intro answer hAnswer
            have hNotes :
                ∀ note ∈
                    [ConversionNote.function id (.ok function),
                      .concept function.conceptId answer],
                  note.isCreation = false :=
              List.forall_mem_cons.mpr ⟨rfl, List.forall_mem_singleton.mpr rfl⟩
            cases answer with
            | error e =>
                apply unknown_records
                · rintro body rfl
                  exact .ok hNotes (.none .conceptUnknown)
                · exact .error hNotes
            | ok concept =>
                have hOther : function.conceptId ≠ "" := fun hEmpty =>
                  hConcept (beq_iff_eq.mpr hEmpty)
                exact .pure
                  (.ok hNotes (told_of_concept hOther (hAnswer concept rfl)))

theorem operatorNode_silent
    (owner flowId : String) :
    Records (h.operatorNode owner flowId)
      (h.traced.operatorNode owner flowId) Silent := by
  unfold operatorNode
  apply Records.bind_attempt (R := fun _ => Silent) .aside
  · rintro (e | cells)
    · dsimp only
      split
      · exact .pure rfl
      · exact .fail rfl
    · match cells with
      | [] => exact .fail rfl
      | [_] => exact .pure rfl
      | _ :: _ :: _ => exact .fail rfl
  · rintro answer r notes more rfl rfl
    rfl

------------------------------------------------------------
-- Requests
------------------------------------------------------------

/-
  Nothing more is looked up, and a request is of the given
  form if there is one.
-/
def Makes
    (IsOne : PipelineRequest → Prop)
    (request? : Option PipelineRequest)
    (notes : List ConversionNote) : Prop :=
  notes = [] ∧ ∀ request, request? = some request → IsOne request

/-
  The request has a single node, for a value that is cast
  from the selected path.
-/
def IsRequestWith
    (s : RequestSettings)
    (c : EventContext)
    (kind : SourceKind)
    (lookups : List ConversionNote)
    (request : PipelineRequest) : Prop :=
  ∃ selected node,
    c.event.selection.path = some selected ∧
      request.nodes = [node] ∧
      IsConverted s kind c.functionId selected.characteristicId
        c.characteristicId lookups
        node.config

/- If there is a request for an event whose value is cast, then it says how. -/
def IsAskedFor
    (s : RequestSettings)
    (c : EventContext)
    (kind : SourceKind)
    (request? : Option PipelineRequest)
    (lookups : List ConversionNote) : Prop :=
  c.event.IsCast kind →
    ∀ request, request? = some request → IsRequestWith s c kind lookups request

section

variable {s : RequestSettings} {c : EventContext} {kind : SourceKind}

theorem isRequestWith_of_told
    {selected : PathOption} {conversions : List Conversion}
    {lookups : List ConversionNote}
    {active : Bool} {label flowId nodeId operatorValue eventId : String}
    {d : PipelineDescription} {inputs : List NodeInput}
    (hPath : c.event.selection.path = some selected)
    (hActive : active = true ↔
      kind.IsActive selected.characteristicId c.characteristicId)
    (hTold : active = true → Told c.functionId conversions lookups) :
    IsRequestWith s c kind lookups
      (EventRequest.singleNode label flowId d nodeId inputs
        (EventRequest.leadingConfig s operatorValue eventId ++
          EventRequest.converterConfig s (c.cast selected conversions) active ++
          EventRequest.tokenConfig c.token)) :=
  ⟨selected, _, hPath, rfl,
    isConverted_of_told hActive hTold s c.token operatorValue eventId⟩

theorem none_records :
    Records (return none : Action σ DeployError (Option PipelineRequest))
      (return none)
      (Learns (IsAskedFor s c kind)) :=
  Learns.pure_records fun _ => nofun

/- What is made of lookups is a request that says how the value is cast. -/
theorem askedFor_records
    {P : α → List ConversionNote → Prop}
    {a : Action σ DeployError α}
    {b : Action (σ × List ConversionNote) DeployError α}
    {f : α → Action σ DeployError (Option PipelineRequest)}
    {g :
      α → Action (σ × List ConversionNote) DeployError (Option PipelineRequest)}
    (IsOne : α → PipelineRequest → Prop)
    (hFirst : Records a b (Learns P))
    (hThen : ∀ x, Records (f x) (g x) (Learns (Makes (IsOne x))))
    (hRequest :
      ∀ x lookups request, P x lookups → IsOne x request →
        IsRequestWith s c kind lookups request) :
    Records (a >>= f) (b >>= g) (Learns (IsAskedFor s c kind)) := by
  apply Learns.bind hFirst hThen
  rintro x request? lookups more hLookups ⟨rfl, hMade⟩ - request hSome
  rw [List.append_nil]
  exact hRequest x lookups request hLookups (hMade request hSome)

end

/- On a flow there is a request for its operator, or none. -/
theorem requestOnFlow_makes
    {IsOne : PipelineRequest → Prop}
    (c : EventContext)
    {request : String → PipelineRequest}
    (hOne : ∀ node, IsOne (request node)) :
    Records (h.requestOnFlow c request) (h.traced.requestOnFlow c request)
      (Learns (Makes IsOne)) := by
  unfold requestOnFlow
  apply Learns.bind_silent (h.operatorNode_silent _ _)
  intro node
  apply Learns.pure_records
  refine ⟨rfl, fun r hSome => ?_⟩
  rcases Option.map_eq_some_iff.mp hSome with ⟨id, -, rfl⟩
  exact hOne id

section

variable (hBounded : h.devices.IsBounded) (c : EventContext)

include hBounded

theorem deviceRequest_traced
    (deviceId serviceId : String) :
    Records (h.deviceRequest c deviceId serviceId)
      (h.traced.deviceRequest c deviceId serviceId)
      (Learns
        (IsAskedFor h.settings c (.deviceWithService deviceId serviceId))) := by
  unfold deviceRequest
  cases hPath : c.event.selection.path with
  | none => exact none_records
  | some selected =>
      apply Learns.bind_silent (h.operatorNode_silent _ _)
      rintro (_ | node)
      · exact none_records
      · dsimp only
        split
        · rename_i hMarshaller
          apply Learns.pure_records
          intro hCast
          cases hMarshaller.symm.trans hCast
        · apply askedFor_records
            (fun conversions request =>
              request =
                (c.deviceEvent deviceId serviceId
                    (h.settings.devicePathPrefix ++ selected.path)).request
                  h.settings c.token c.label node (c.cast selected conversions))
            (h.conversions_traced hBounded c.functionId)
          · intro conversions
            apply Learns.pure_records
            refine ⟨rfl, fun request hSame => ?_⟩
            exact (Option.some.inj hSame).symm
          · rintro conversions lookups request hTold rfl
            exact isRequestWith_of_told hPath Cast.differs_iff fun _ => hTold

/- An import needs a path, and its value is cast from there. -/
theorem importCast_traced :
    Records (h.importCast c) (h.traced.importCast c)
      (Learns fun cast lookups =>
        cast.1.path ≠ "" →
          c.event.selection.path = some cast.1 ∧
            Told c.functionId cast.2 lookups) := by
  unfold importCast
  cases c.event.selection.path with
  | none => exact Learns.pure_records fun hPath => absurd rfl hPath
  | some selected =>
      apply Learns.bind (h.conversions_traced hBounded c.functionId)
        (R := fun conversions cast more => more = [] ∧
          cast = (selected, conversions))
      · intro conversions
        exact Learns.pure_records ⟨rfl, rfl⟩
      · rintro conversions cast lookups more hTold ⟨rfl, rfl⟩ -
        rw [List.append_nil]
        exact ⟨rfl, hTold⟩

theorem importRequest_traced
    (importId : String) :
    Records (h.importRequest c importId) (h.traced.importRequest c importId)
      (Learns (IsAskedFor h.settings c (.importInstance importId))) := by
  have hGroups : h.traced.groupsEnabled = h.groupsEnabled := rfl
  unfold importRequest
  rw [hGroups]
  cases h.groupsEnabled with
  | false => exact none_records
  | true =>
      cases c.sourceEvent? with
      | none => exact none_records
      | some e =>
          apply askedFor_records
            (fun cast request =>
              cast.1.path ≠ "" ∧
                ∃ node topic,
                  request =
                    { e with importId, useMarshaller := false }.importRequest
                      h.settings c.token c.label node topic
                      (h.importPathPrefix ++ cast.1.path)
                      (c.cast cast.1 cast.2))
            (h.importCast_traced hBounded c)
          · rintro ⟨selected, conversions⟩
            dsimp only
            split
            · exact Learns.fail_records
            · rename_i hPath
              have hImport :
                  Records (h.imports.importInstance c.owner importId)
                    (h.traced.imports.importInstance c.owner importId) Silent :=
                .aside
              apply Learns.bind_silent
                (hImport.map_silent (f := (·.topic))).mapError_silent
              intro topic
              apply h.requestOnFlow_makes c
              exact fun node =>
                ⟨fun hEmpty => hPath (beq_iff_eq.mpr hEmpty), node, topic, rfl⟩
          · -- there is a path, or there would be no request
            rintro ⟨selected, conversions⟩ lookups request hCast
              ⟨hPath, node, topic, rfl⟩
            rcases hCast hPath with ⟨hSelected, hTold⟩
            exact isRequestWith_of_told hSelected Cast.differs_iff
              fun _ => hTold

/- From an unknown characteristic there is nothing to convert. -/
theorem genericConversions_traced
    (selected : PathOption) :
    Records (h.genericConversions c selected)
      (h.traced.genericConversions c selected)
      (Learns fun conversions lookups =>
        selected.characteristicId ≠ "" →
          Told c.functionId conversions lookups) := by
  unfold genericConversions
  split
  · rename_i hEmpty
    exact Learns.pure_records fun hKnown => absurd (beq_iff_eq.mp hEmpty) hKnown
  · apply (h.conversions_traced hBounded c.functionId).mono
    exact fun _ _ hTold =>
      ⟨hTold.uncreated, fun conversions hSame _ => hTold.value _ hSame⟩

theorem genericRequest_traced
    (source : GenericSource) :
    Records (h.genericRequest c source) (h.traced.genericRequest c source)
      (Learns (IsAskedFor h.settings c (.generic source))) := by
  have hGroups : h.traced.groupsEnabled = h.groupsEnabled := rfl
  unfold genericRequest
  rw [hGroups]
  cases hPath : c.event.selection.path with
  | none => exact none_records
  | some selected =>
      dsimp only
      split
      · apply askedFor_records
          (fun conversions request =>
            ∃ node,
              request =
                (c.genericEvent source selected.path).genericRequest
                  h.settings c.token c.label node source
                  (h.genericSourcePathPrefix ++ selected.path)
                  (c.cast selected conversions))
          (h.genericConversions_traced hBounded c selected)
        · intro conversions
          apply h.requestOnFlow_makes c
          exact fun node => ⟨node, rfl⟩
        · rintro conversions lookups request hTold ⟨node, rfl⟩
          apply isRequestWith_of_told hPath Cast.differsAndKnown_iff
          -- an active cast starts from a known characteristic, so there has
          -- been a lookup
          exact fun hActive => hTold (Cast.differsAndKnown_iff.mp hActive).2.1
      · exact none_records

/-
  The events on several devices say in another way how their
  values are cast.
-/
theorem sourceRequest_traced
    (token : BearerToken)
    (owner label : String)
    (e : SourceEvent) :
    Records (h.sourceRequest token owner label e)
      (h.traced.sourceRequest token owner label e)
      (Learns fun _ _ => True) := by
  unfold sourceRequest
  apply Records.bind_ofExcept
  · exact fun _ _ => .error nofun
  · intro source _
    split
    · apply Records.bind_attempt (R := fun _ => Learns fun _ _ => True)
        (expand_silent h.devices source e.functionId e.aspectId)
      · rintro (fault | expansion)
        · dsimp only
          split
          · exact Learns.pure_records trivial
          · exact Learns.fail_records
        · apply Learns.bind (h.conversions_traced hBounded (some e.functionId))
            (R := fun _ _ _ => True)
          · intro conversions
            apply Learns.bind_silent (h.operatorNode_silent _ _)
            intro node
            exact Learns.pure_records trivial
          · exact fun _ _ _ _ _ _ => trivial
      · rintro answer r notes more rfl hMore
        exact hMore
    · exact Learns.pure_records trivial

/- An event on several devices, if it can be asked for at all. -/
theorem expanded_traced
    {kind : SourceKind}
    (hKind : ¬ c.event.IsCast kind)
    (place : SourceEvent → SourceEvent) :
    Records
      (match h.groupsEnabled, c.sourceEvent? with
        | true, some e => h.sourceRequest c.token c.owner c.label (place e)
        | _, _ => return none)
      (match h.groupsEnabled, c.sourceEvent? with
        | true, some e =>
            h.traced.sourceRequest c.token c.owner c.label (place e)
        | _, _ => return none)
      (Learns (IsAskedFor h.settings c kind)) := by
  cases h.groupsEnabled with
  | false => exact none_records
  | true =>
      cases c.sourceEvent? with
      | none => exact none_records
      | some e =>
          apply (h.sourceRequest_traced hBounded c.token c.owner c.label
            (place e)).mono
          exact fun _ _ hNotes =>
            ⟨hNotes.uncreated, fun _ _ hCast => absurd hCast hKind⟩

theorem requestOn_traced
    (kind : SourceKind) :
    Records (h.requestOn c kind) (h.traced.requestOn c kind)
      (Learns (IsAskedFor h.settings c kind)) := by
  cases kind with
  | deviceGroup groupId =>
      exact h.expanded_traced hBounded c id fun e =>
        { e with deviceGroupId := groupId }
  | deviceWithService deviceId serviceId =>
      exact h.deviceRequest_traced hBounded c deviceId serviceId
  | deviceWithoutService deviceId =>
      exact h.expanded_traced hBounded c id fun e =>
        { e with deviceIds := some [deviceId] }
  | importInstance importId => exact h.importRequest_traced hBounded c importId
  | generic source => exact h.genericRequest_traced hBounded c source

end

------------------------------------------------------------
-- Elements
------------------------------------------------------------

/-
  What is created for an element whose value is cast is a
  single pipeline. It is created last, and what has been
  looked up before tells its settings.
-/
def Converts
    (h : AnalyticsHandler σ)
    (token : BearerToken)
    (owner : String)
    (element : Element)
    (notes : List ConversionNote) : Prop :=
  ∀ event kind,
    element.messageEvent = some event →
      event.selection.kind = some kind → event.IsCast kind →
      ∀ note ∈ notes, note.isCreation = true →
        ∃ lookups request fault selected target node,
          note = .creation owner token request fault ∧
            notes = lookups ++ [note] ∧
            request.nodes = [node] ∧
            event.selection.path = some selected ∧
            event.selection.filterCriteria.characteristicId = some target ∧
            IsConverted h.settings kind
              event.selection.filterCriteria.functionId
              selected.characteristicId target lookups node.config

section

variable {h} {token : BearerToken} {owner : String} {element : Element}

/- Without a creation there is nothing to tell. -/
theorem converts_of_uncreated
    {notes : List ConversionNote}
    (hNone : ∀ note ∈ notes, note.isCreation = false) :
    h.Converts token owner element notes := by
  intro event kind _ _ _ note hMem hCreation
  cases hCreation.symm.trans (hNone note hMem)

/-
  The context of an element has the event and the
  characteristic of the element.
-/
theorem event_of_ofElement?
    {deploymentId : String} {c : EventContext}
    (hContext : EventContext.ofElement? token owner deploymentId element =
      some c) :
    element.messageEvent = some c.event ∧
      c.event.selection.filterCriteria.characteristicId =
        some c.characteristicId := by
  simp only [EventContext.ofElement?, Option.bind_eq_bind,
    Option.bind_eq_some_iff, Option.pure_def, Option.some.injEq] at hContext
  rcases hContext with ⟨event, hEvent, characteristicId, hCharacteristic, rfl⟩
  exact ⟨hEvent, hCharacteristic⟩

/-
  The element has a context and a source, and if its value
  is cast the request says how.
-/
def IsElementRequest
    (h : AnalyticsHandler σ)
    (element : Element)
    (lookups : List ConversionNote)
    (request : PipelineRequest) : Prop :=
  ∃ c kind,
    element.messageEvent = some c.event ∧
      c.event.selection.filterCriteria.characteristicId =
        some c.characteristicId ∧
      c.event.selection.kind = some kind ∧
      (c.event.IsCast kind → IsRequestWith h.settings c kind lookups request)

theorem converts_append_creation
    {lookups : List ConversionNote} {request : PipelineRequest}
    (hNone : ∀ note ∈ lookups, note.isCreation = false)
    (hRequest : h.IsElementRequest element lookups request)
    (fault : Option RequestError) :
    h.Converts token owner element
      (lookups ++ [.creation owner token request fault]) := by
  intro event kind hEvent hKind hCast note hMem hCreation
  have hLast : note = .creation owner token request fault := by
    rcases List.mem_append.mp hMem with hBefore | hLast
    · cases hCreation.symm.trans (hNone note hBefore)
    · exact List.mem_singleton.mp hLast
  rcases hRequest with ⟨c, kind', hEvent', hTarget, hKind', hWith⟩
  cases hEvent.symm.trans hEvent'
  cases hKind.symm.trans hKind'
  rcases hWith hCast with ⟨selected, node, hPath, hNodes, hConverted⟩
  exact ⟨lookups, request, fault, selected, c.characteristicId,
    node, hLast, by rw [hLast],
    hNodes, hPath, hTarget, hConverted⟩

end

theorem elementRequest_traced
    (hBounded : h.devices.IsBounded)
    (token : BearerToken)
    (owner deploymentId : String)
    (element : Element) :
    Records (h.elementRequest token owner deploymentId element)
      (h.traced.elementRequest token owner deploymentId element)
      (Learns fun request? lookups =>
        ∀ request, request? = some request →
          h.IsElementRequest element lookups request) := by
  unfold elementRequest
  cases hContext : EventContext.ofElement? token owner deploymentId element with
  | none => exact Learns.pure_records nofun
  | some c =>
      rcases event_of_ofElement? hContext with ⟨hEvent, hTarget⟩
      dsimp only
      cases hKind : c.event.selection.kind with
      | none => exact Learns.pure_records nofun
      | some kind =>
          apply (h.requestOn_traced hBounded c kind).mono
          intro r lookups hAsked
          refine ⟨hAsked.uncreated, fun request? hSame request hSome => ?_⟩
          exact ⟨c, kind, hEvent, hTarget, hKind, fun hCast =>
            hAsked.value request? hSame hCast request hSome⟩

/- A creation is noted as it is asked for, however it ends. -/
theorem create_traced
    (token : BearerToken)
    (owner : String)
    (request : PipelineRequest) :
    Records (h.create token owner request) (h.traced.create token owner request)
      fun _ notes => ∃ fault,
        notes = [.creation owner token request fault] := by
  have hCreate :
      Records
        ((h.engine.create token owner request).mapError DeployError.request)
        ((h.traced.engine.create token owner request).mapError
          DeployError.request)
        fun _ notes => ∃ fault,
          notes = [.creation owner token request fault] := by
    apply Records.mapError
      (P := fun r notes => notes = [.creation owner token request (faultOf? r)])
      (.noting fun _ => rfl)
    exact fun r _ hNotes => ⟨faultOf? r, hNotes⟩
  unfold create
  apply Records.bind (R := fun _ => Silent) hCreate
  · intro p
    exact h.counters.count_records _ _ rfl
  · exact fun _ _ hNotes => hNotes
  · rintro p r notes more hNotes rfl
    rw [List.append_nil]
    exact hNotes

theorem deployElement_traced
    (hBounded : h.devices.IsBounded)
    (token : BearerToken)
    (owner deploymentId : String)
    (element : Element) :
    Records (h.deployElement token owner deploymentId element)
      (h.traced.deployElement token owner deploymentId element)
      fun _ notes => h.Converts token owner element notes := by
  unfold deployElement
  apply Records.bind
    (R := fun request? _ more =>
      (request? = none ∧ more = []) ∨
        ∃ request fault,
          request? = some request ∧
            more = [.creation owner token request fault])
    (h.elementRequest_traced hBounded token owner deploymentId element)
  · rintro (_ | request)
    · exact .pure (.inl ⟨rfl, rfl⟩)
    · apply (h.create_traced token owner request).mono
      rintro r notes ⟨fault, hNotes⟩
      exact .inr ⟨request, fault, rfl, hNotes⟩
  · exact fun e notes hAsked => converts_of_uncreated hAsked.uncreated
  · rintro request? r notes more hAsked
      (⟨rfl, rfl⟩ | ⟨request, fault, rfl, rfl⟩)
    · rw [List.append_nil]
      exact converts_of_uncreated hAsked.uncreated
    · exact converts_append_creation hAsked.uncreated
        (hAsked.value _ rfl request rfl) fault

------------------------------------------------------------
-- Deployments
------------------------------------------------------------

/- Removing pipelines is not noted. -/
theorem remove_silent
    (owner deploymentId : String) :
    Records (h.remove owner deploymentId)
      (h.traced.remove owner deploymentId) Silent := by
  have hList :
      Records (h.engine.list owner) (h.traced.engine.list owner) Silent :=
    .aside
  unfold remove
  apply Records.bind_silent
    (hList.map_silent
      (f := (·.filterMap EventPipeline.ofPipeline?))).mapError_silent
  · intro pipelines
    apply Records.forEach_silent
    intro p
    unfold removePipeline
    apply Records.bind_silent (Records.mapError_silent .aside)
    · intro _
      exact h.counters.count_records _ _ rfl
    · exact fun _ => rfl
  · exact fun _ => rfl

theorem prepare_silent
    (owner deploymentId : String) :
    Records (h.prepare owner deploymentId)
      (h.traced.prepare owner deploymentId) Silent := by
  unfold prepare
  apply Records.bind_silent (h.remove_silent owner deploymentId)
  · intro _
    exact Records.mapError_silent .aside
  · exact fun _ => rfl

/-
  The settings of the converter in what a deployment creates,
  whatever the collaborators answer. The record beside the
  run tells what has been looked up and created for each
  element that the deployment has come to.
-/
theorem deploy_converts
    (hBounded : h.devices.IsBounded)
    (owner : String)
    (deployment : Deployment)
    (s : σ) :
    ∃ r t log,
      h.deploy owner deployment s = (r, t) ∧
        h.traced.deploy owner deployment (s, []) = (r, t, log) ∧
        ((∃ e,
            h.prepare owner deployment.id s = (.error e, t) ∧
              r = .error e ∧ log = []) ∨
          ∃ token s₁ parts,
            h.prepare owner deployment.id s = (.ok token, s₁) ∧
              parts =
                notesEach (h.traced.deployElement token owner deployment.id)
                  deployment.elements s₁ ∧
              log = parts.flatten ∧
              Serves
                (fun element _ notes => h.Converts token owner element notes)
                deployment.elements r parts) := by
  rcases (h.prepare_silent owner deployment.id).run s [] with ⟨hRecorded, hNone⟩
  rw [hNone, List.append_nil] at hRecorded
  rw [deploy_eq_prepare, deploy_eq_prepare]
  rcases hPrepare : h.prepare owner deployment.id s with ⟨e | token, s₁⟩
  · rw [hPrepare] at hRecorded
    rw [Action.bind_of_error hPrepare, Action.bind_of_error hRecorded]
    exact ⟨_, _, _, rfl, rfl, .inl ⟨e, rfl, rfl, rfl⟩⟩
  · rw [hPrepare] at hRecorded
    rw [Action.bind_of_ok hPrepare, Action.bind_of_ok hRecorded]
    rcases Records.forEach_run
      (h.deployElement_traced hBounded token owner deployment.id)
      deployment.elements s₁ [] with ⟨hRun, hServes⟩
    rw [List.nil_append] at hRun
    exact ⟨_, _, _, rfl, hRun, .inr ⟨token, s₁, _, rfl, rfl, rfl, hServes⟩⟩

/- A concept with a single conversion. -/
def temperature : Concept :=
  { id := "temperature"
    conversions :=
      [{ source := "kelvin"
         target := "c1"
         distance := 1
         formula := "x - 273.15"
         placeholderName := "x" }] }

/-
  The same as `onTable`, but with a converter, and with one
  concept for all functions.
-/
def withConverter : AnalyticsHandler NumberedPipelines :=
  { onTable ⟨"Bearer"⟩ with
    settings :=
      { converterUrl := "http://converter"
        extendedConverterUrl := "http://extended" }
    devices :=
      { DeviceDirectory.unchanging {} [] with
        function := fun id => return { id, conceptId := "temperature" }
        concept := fun _ => return temperature } }

theorem withConverter_isBounded :
    withConverter.devices.IsBounded := by
  rintro id s concept ⟨⟩
  exact List.forall_mem_singleton.mpr ⟨by decide, by decide⟩

theorem deploy_converts_temperature :
    withConverter.devices.IsBounded ∧
      ∃ t lookups owner token request fault node text,
        withConverter.traced.deploy "u1" importDeployment (noPipelines, []) =
            (.ok (), t, lookups ++ [.creation owner token request fault]) ∧
          request.nodes = [node] ∧
          HasConverter node.config "http://converter"
            "http://extended" "" "c1" text ∧
          (Codec.list Conversion.codec).ofText? text =
            some temperature.conversions := by
  have hRun :
      ∃ t owner token request fault,
        withConverter.traced.deploy "u1" importDeployment (noPipelines, []) =
          (.ok (), t,
            [.function "fn1" (.ok { id := "fn1", conceptId := "temperature" }),
              .concept "temperature" (.ok temperature),
              .creation owner token request fault]) :=
    ⟨_, _, _, _, _, rfl⟩
  refine ⟨withConverter_isBounded, ?_⟩
  rcases hRun with ⟨t, owner, token, request, fault, hRun⟩
  rcases deploy_converts withConverter withConverter_isBounded
    "u1" importDeployment noPipelines
    with ⟨r, t', log, -, hTraced, hEnd⟩
  rw [hRun, Prod.mk.injEq, Prod.mk.injEq] at hTraced
  rcases hTraced with ⟨rfl, rfl, rfl⟩
  rcases hEnd with ⟨e, -, hError, -⟩ | ⟨token', s₁, parts, -, -, hLog, hServes⟩
  · cases hError
  · rcases List.forall₂_cons_left_iff.mp (hServes.forall₂_of_ok rfl) with
      ⟨notes, more, hConverts, hNoMore, rfl⟩
    cases hNoMore
    rw [List.flatten_cons, List.flatten_nil, List.append_nil] at hLog
    subst hLog
    rcases hConverts _ _ rfl rfl trivial (.creation owner token request fault)
      (by simp) rfl with
      ⟨lookups, request', fault', selected, target,
        node, hSame, hNotes, hNodes, hPath, hTarget,
        hConverted⟩
    cases hSame
    cases hPath
    cases hTarget
    have hLookups :
        [.function "fn1" (.ok { id := "fn1", conceptId := "temperature" }),
            .concept "temperature" (.ok temperature)] =
          lookups :=
      List.append_inj_left' hNotes rfl
    subst hLookups
    have hActive : "" ≠ "c1" := by decide
    rcases hConverted.active hActive with ⟨text, hHas, hTells⟩
    have hFound :
        HasConversions (some "fn1")
          [.function "fn1" (.ok { id := "fn1", conceptId := "temperature" }),
            .concept "temperature" (.ok temperature)]
          temperature.conversions :=
      HasConversions.found (by decide) (by decide)
    rcases hTells.full hFound.not_lacks with ⟨conversions, ⟨⟩, hText⟩
    exact ⟨_, [_, _], _, _, _, _, node, text, hRun, hNodes, hHas, hText⟩

end AnalyticsHandler

end ProcessEvents
