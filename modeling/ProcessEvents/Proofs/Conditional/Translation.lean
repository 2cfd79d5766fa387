import ProcessEvents.Proofs.Conditional.Describing
import ProcessEvents.Proofs.Dict
import ProcessEvents.Proofs.Record

/-
  This file accounts for all that describing conditional
  events ends in, by a record of the lookups that are made
  and of their answers: which failures end it, which of them
  only cost an event or a device, and what is described of
  each event otherwise.

  Key definitions include:
    * `RequestError.IsInternal`
    * `Lookup`, `Describer.recorded`
    * `EventDescription.IsOf`
    * `Describer.Resolves`, `Describer.HasTypes`
    * `Describer.Describes`

  Key theorems include:
    * `RequestError.isInternal_iff`
    * `Describer.HasTypes.isTypeOf`
    * `Describer.describeEvent_records`
    * `Describer.describe_accounts`
-/

namespace ProcessEvents

variable {σ α β : Type}

open ProcessEvents.Action (Records)

------------------------------------------------------------
-- Lookups and their failures
------------------------------------------------------------

/-
  A failure that says nothing about what has been asked for:
  there is no answer, or an answer with the status 500.
-/
inductive RequestError.IsInternal : RequestError → Prop where
  | transport (fault : TransportFault) : IsInternal (.transport fault)
  | url (fault : Url.Fault) : IsInternal (.url fault)
  | auth (error : AuthError) : IsInternal (.auth error)
  | answered (body : String) :
      IsInternal (.unexpectedStatus .internalServerError body)

theorem RequestError.isInternal_iff
    {e : RequestError} :
    e.isInternal = true ↔ e.IsInternal := by
  rw [isInternal, decide_eq_true_iff]
  constructor
  · intro hStatus
    cases e with
    | transport fault => exact .transport fault
    | url fault => exact .url fault
    | auth error => exact .auth error
    | unexpectedStatus status body =>
        change status = .internalServerError at hStatus
        rw [hStatus]
        exact .answered body
  · rintro (_ | _ | _ | _)
    · rfl
    · rfl
    · rfl
    · rfl

theorem tolerated_of_internal
    {lookup : Action σ RequestError α} {s s' : σ} {e : RequestError}
    (hFault : lookup s = (.error e, s'))
    (hInternal : e.IsInternal) :
    tolerated lookup s = (.error (.request e), s') := by
  rw [tolerated, Action.bind_of_ok (Action.attempt_apply _ s), hFault]
  dsimp only
  rw [if_pos (RequestError.isInternal_iff.mpr hInternal)]
  rfl

theorem tolerated_of_not_internal
    {lookup : Action σ RequestError α} {s s' : σ} {e : RequestError}
    (hFault : lookup s = (.error e, s'))
    (hInternal : ¬ e.IsInternal) :
    tolerated lookup s = (.ok none, s') := by
  rw [tolerated, Action.bind_of_ok (Action.attempt_apply _ s), hFault]
  dsimp only
  rw [if_neg (mt RequestError.isInternal_iff.mp hInternal)]
  rfl

/- A lookup that has been made, with what it asks for and its answer. -/
inductive Lookup where
  | group (id : String) (answer : Except RequestError DeviceInfos)
  | devices (ids : List String) (answer : Except RequestError DeviceInfos)
  | selectables
      (query : List DeviceTypeCriteria)
      (answer : Except RequestError (List DeviceTypeSelectable))
  | service (id : String) (answer : Except RequestError Service)
  | importInstance (userId id : String) (answer : Except RequestError Import)
  | importType (userId id : String) (answer : Except RequestError ImportType)
  /- The lookup of a function, or of its concept. -/
  | meaning (fault : Option RequestError)

namespace Lookup

/- The lookup of the devices of a source. -/
def ofSource
    (source : ExpansionSource)
    (answer : Except RequestError DeviceInfos) : Lookup :=
  match source with
  | .group id => .group id answer
  | .devices ids => .devices ids answer

/- The failure that a lookup has ended in. -/
def fault? : Lookup → Option RequestError
  | .group _ answer => faultOf? answer
  | .devices _ answer => faultOf? answer
  | .selectables _ answer => faultOf? answer
  | .service _ answer => faultOf? answer
  | .importInstance _ _ answer => faultOf? answer
  | .importType _ _ answer => faultOf? answer
  | .meaning fault => fault

/- The lookup has failed for a reason of its own, which ends all of it. -/
def Stops
    (lookup : Lookup)
    (err : DeployError) : Prop :=
  ∃ e, lookup.fault? = some e ∧ e.IsInternal ∧ err = .request e

theorem fault?_ofSource
    (source : ExpansionSource) (answer : Except RequestError DeviceInfos) :
    (ofSource source answer).fault? = faultOf? answer := by
  cases source with
  | group id => rfl
  | devices ids => rfl

end Lookup

/- All lookups are noted, those of meanings only by their failures. -/
def Lookup.calls : CallNotes Lookup where
  ofGroup := some .group
  ofDevices := some .devices
  selectables := some .selectables
  function := some fun _ answer => .meaning (faultOf? answer)
  concept := some fun _ answer => .meaning (faultOf? answer)
  service := some .service
  importInstance := some .importInstance
  importType := some .importType

/- The describer with a record of its lookups. -/
def Describer.recorded
    (r : Describer σ) : Describer (σ × List Lookup) where
  devices := r.devices.recorded Lookup.calls
  imports := r.imports.recorded Lookup.calls

------------------------------------------------------------
-- Actions that account for their lookups
------------------------------------------------------------

/-
  The error is that of a lookup that stops everything, and
  without such a lookup there is a value, which is related to
  the lookups.
-/
structure Accounted
    (Q : α → List Lookup → Prop)
    (result : Except DeployError α)
    (log : List Lookup) : Prop where
  error_iff : ∀ err, result = .error err ↔ ∃ lookup ∈ log, lookup.Stops err
  value : ∀ x, result = .ok x → Q x log

namespace Accounted

variable {P Q : α → List Lookup → Prop}

theorem pure
    {x : α}
    (hEnd : Q x []) :
    Records (Pure.pure x : Action σ DeployError α)
      (Pure.pure x) (Accounted Q) := by
  apply Records.pure
  constructor
  · intro err
    simp
  · intro y hValue
    cases hValue
    exact hEnd

theorem mono
    {a : Action σ DeployError α} {b : Action (σ × List Lookup) DeployError α}
    (hAction : Records a b (Accounted P))
    (hEnd : ∀ x log, P x log → Q x log) :
    Records a b (Accounted Q) :=
  hAction.mono fun _ log hAccounted =>
    ⟨hAccounted.error_iff,
      fun x hValue => hEnd x log (hAccounted.value x hValue)⟩

/- No lookup of what has ended well stops what comes next. -/
theorem bind
    {Q : β → List Lookup → Prop} {R : α → β → List Lookup → Prop}
    {a : Action σ DeployError α} {b : Action (σ × List Lookup) DeployError α}
    {f : α → Action σ DeployError β}
    {g : α → Action (σ × List Lookup) DeployError β}
    (hFirst : Records a b (Accounted P))
    (hThen : ∀ x, Records (f x) (g x) (Accounted (R x)))
    (hEnd : ∀ x y log more, P x log → R x y more → Q y (log ++ more)) :
    Records (a >>= f) (b >>= g) (Accounted Q) := by
  refine Records.bind hFirst hThen ?_ ?_
  · intro e log hAccounted
    constructor
    · intro err
      rw [← hAccounted.error_iff]
      simp
    · intro y hValue
      cases hValue
  · intro x r log more hAccounted hMore
    have hGoesOn : ∀ err, ¬ ∃ lookup ∈ log, lookup.Stops err := by
      intro err hStops
      cases (hAccounted.error_iff err).mpr hStops
    constructor
    · intro err
      rw [hMore.error_iff]
      simp only [List.mem_append, or_and_right,
        exists_or, or_iff_right (hGoesOn err)]
    · intro y hValue
      exact hEnd x y log more (hAccounted.value x rfl) (hMore.value y hValue)

/-
  A tolerated lookup finds something, or fails without being
  internal, or stops everything.
-/
theorem tolerated
    {lookup : Action σ RequestError α} {note : Except RequestError α → Lookup}
    (hNote : ∀ answer, (note answer).fault? = faultOf? answer) :
    Records (ProcessEvents.tolerated lookup)
      (ProcessEvents.tolerated (lookup.noting note))
      (Accounted fun found log =>
        match found with
        | some x => log = [note (.ok x)]
        | none => ∃ e, ¬ e.IsInternal ∧ log = [note (.error e)]) := by
  intro s
  rcases hRun : lookup s with ⟨e | x, s'⟩
  · have hNoted : ∀ record,
        lookup.noting note (s, record) =
          (.error e, s', record ++ [note (.error e)]) := by
      intro record
      rw [Action.noting, hRun]
    have hStops : ∀ err,
        (∃ l ∈ [note (.error e)], l.Stops err) ↔
          e.IsInternal ∧ err = .request e := by
      intro err
      simp [Lookup.Stops, hNote, faultOf?]
    refine ⟨[note (.error e)], ?_⟩
    by_cases hInternal : e.IsInternal
    · rw [tolerated_of_internal hRun hInternal]
      refine ⟨fun record => tolerated_of_internal (hNoted record) hInternal,
        ?_, nofun⟩
      intro err
      rw [hStops, and_iff_right hInternal, Except.error.injEq, eq_comm]
    · rw [tolerated_of_not_internal hRun hInternal]
      refine ⟨fun record =>
        tolerated_of_not_internal (hNoted record) hInternal, ?_, ?_⟩
      · intro err
        rw [hStops]
        simp [hInternal]
      · intro found hFound
        cases hFound
        exact ⟨e, hInternal, rfl⟩
  · have hNoted : ∀ record,
        lookup.noting note (s, record) =
          (.ok x, s', record ++ [note (.ok x)]) := by
      intro record
      rw [Action.noting, hRun]
    rw [tolerated_of_ok hRun]
    refine ⟨[note (.ok x)],
      fun record => tolerated_of_ok (hNoted record), ?_, ?_⟩
    · intro err
      simp [Lookup.Stops, hNote, faultOf?]
    · intro found hFound
      cases hFound
      rfl

/-
  After a tolerated lookup, what has been found is known, or
  that the lookup has failed without being internal.
-/
theorem bind_tolerated
    {Q : β → List Lookup → Prop}
    {lookup : Action σ RequestError α} {note : Except RequestError α → Lookup}
    {f : Option α → Action σ DeployError β}
    {g : Option α → Action (σ × List Lookup) DeployError β}
    (hNote : ∀ answer, (note answer).fault? = faultOf? answer)
    (hFound : ∀ x, Records (f (some x)) (g (some x))
      (Accounted fun y log => Q y (note (.ok x) :: log)))
    (hLost : Records (f none) (g none)
      (Accounted fun y log => ∀ e, ¬ e.IsInternal →
        Q y (note (.error e) :: log))) :
    Records (ProcessEvents.tolerated lookup >>= f)
      (ProcessEvents.tolerated (lookup.noting note) >>= g) (Accounted Q) := by
  apply bind (tolerated hNote)
    (R := fun found y log =>
      match found with
      | some x => Q y (note (.ok x) :: log)
      | none => ∀ e, ¬ e.IsInternal → Q y (note (.error e) :: log))
  · rintro (_ | x)
    · exact hLost
    · exact hFound x
  · rintro (_ | x) y log more hLookup hMore
    · rcases hLookup with ⟨e, hInternal, rfl⟩
      exact hMore e hInternal
    · cases hLookup
      exact hMore

/- The values of all elements, and what each of them has looked up. -/
theorem collect
    {Q : α → List β → List Lookup → Prop}
    {f : α → Action σ DeployError (List β)}
    {g : α → Action (σ × List Lookup) DeployError (List β)}
    (hEach : ∀ x, Records (f x) (g x) (Accounted (Q x)))
    (l : List α) :
    Records (Action.collect f l) (Action.collect g l)
      (Accounted fun ys log =>
        ∃ parts : List (List Lookup × List β),
          log = parts.flatMap (·.1) ∧
            ys = parts.flatMap (·.2) ∧
            List.Forall₂ (fun x part => Q x part.2 part.1) l parts) := by
  induction l with
  | nil => exact pure ⟨[], rfl, rfl, .nil⟩
  | cons x rest ih =>
      apply bind (hEach x)
        (R := fun ys all log =>
          ∃ parts : List (List Lookup × List β),
            log = parts.flatMap (·.1) ∧
              all = ys ++ parts.flatMap (·.2) ∧
              List.Forall₂ (fun x part => Q x part.2 part.1) rest parts)
      · intro ys
        apply bind ih (R := fun more all log => log = [] ∧ all = ys ++ more)
        · intro more
          exact pure ⟨rfl, rfl⟩
        · rintro more all _ _ ⟨parts, rfl, rfl, hParts⟩ ⟨rfl, rfl⟩
          exact ⟨parts, List.append_nil _, rfl, hParts⟩
      · rintro ys all log _ hFirst ⟨parts, rfl, rfl, hParts⟩
        exact ⟨(log, ys) :: parts, rfl, rfl, .cons hFirst hParts⟩

end Accounted

------------------------------------------------------------
-- What there is to describe
------------------------------------------------------------

/-
  The source of a description: the ids that it names, and
  the service that is read.
-/
structure Place where
  deviceGroupId : String := ""
  deviceId : String := ""
  serviceId : String := ""
  importId : String := ""
  service : Service

/- All fields of a description of an event. -/
structure EventDescription.IsOf
    (owner ofDeployment : String)
    (e : ConditionalEvent)
    (place : Place)
    (d : EventDescription) : Prop where
  userId : d.userId = owner
  deploymentId : d.deploymentId = ofDeployment
  deviceGroupId : d.deviceGroupId = place.deviceGroupId
  deviceId : d.deviceId = place.deviceId
  serviceId : d.serviceId = place.serviceId
  importId : d.importId = place.importId
  script : d.script = e.script
  valueVariable : d.valueVariable = e.valueVariable
  bindings : d.bindings = e.bindings
  qos : d.qos = e.qos
  eventId : d.eventId = e.eventId
  characteristicId :
    some d.characteristicId = e.selection.filterCriteria.characteristicId
  functionId : d.functionId = e.selection.filterCriteria.functionId.getD ""
  aspectId : d.aspectId = e.selection.filterCriteria.aspectId.getD ""
  path : d.path = (e.selection.path.map (·.path)).getD ""
  service : d.serviceForMarshaller = place.service

namespace Describer

/-
  The type of the last device that has been noted with an
  id, unless it is empty.
-/
def notedType?
    (noted : List Device)
    (deviceId : String) : Option String :=
  nonEmpty?
    ((noted.reverse.find? fun d => d.id == deviceId).map (·.deviceTypeId))

/-
  How the type of a device is resolved, given the devices that
  are noted before. A device without a noted type is looked up
  on its own, and what is found is noted.
-/
inductive Resolves
    (noted : List Device)
    (deviceId : String) : List Lookup → Option String → List Device → Prop where
  | known
      {typeId : String}
      (hKnown : notedType? noted deviceId = some typeId) :
      Resolves noted deviceId [] (some typeId) noted
  | found
      {infos : DeviceInfos} {device : Device} {others : List Device}
      (hUnknown : notedType? noted deviceId = none)
      (hAnswer : infos.devices = device :: others) :
      Resolves noted deviceId
        [.devices [deviceId] (.ok infos)] (some device.deviceTypeId)
        (noted ++ [device])
  | missing
      {infos : DeviceInfos}
      (hUnknown : notedType? noted deviceId = none)
      (hAnswer : infos.devices = []) :
      Resolves noted deviceId [.devices [deviceId] (.ok infos)] none noted
  | lost
      {fault : RequestError}
      (hUnknown : notedType? noted deviceId = none)
      (hFault : ¬ fault.IsInternal) :
      Resolves noted deviceId [.devices [deviceId] (.error fault)] none noted

/- The types of devices, resolved from one to the next. -/
inductive HasTypes :
    List Device → List Device → List Lookup → List (Option String) → Prop where
  | nil
      {noted : List Device} :
      HasTypes noted [] [] []
  | cons
      {noted noted' rest : List Device} {device : Device}
      {log more : List Lookup}
      {type : Option String} {types : List (Option String)}
      (hFirst : Resolves noted device.id log type noted')
      (hRest : HasTypes noted' rest more types) :
      HasTypes noted (device :: rest) (log ++ more) (type :: types)

/- Each device with each service of its type, in listing order. -/
def placed
    (selectables : List DeviceTypeSelectable)
    (devices : List Device)
    (types : List (Option String)) : List (Device × Service) :=
  (devices.zip types).flatMap fun p =>
    ((p.2.map (servicesOf selectables)).getD []).map fun service =>
      (p.1, service)

theorem placed_cons
    (selectables : List DeviceTypeSelectable) (device : Device)
    (rest : List Device)
    (type : Option String) (types : List (Option String)) :
    placed selectables (device :: rest) (type :: types) =
      ((type.map (servicesOf selectables)).getD []).map
        (fun service => (device, service)) ++
        placed selectables rest types := rfl

/-
  The devices that an event is on, and the group that they
  are described with.
-/
inductive Spans : SourceKind → ExpansionSource → String → Prop where
  | group (id : String) : Spans (.deviceGroup id) (.group id) id
  | device (id : String) : Spans (.deviceWithoutService id) (.devices [id]) ""

------------------------------------------------------------
-- Types that are listed and types that are looked up
------------------------------------------------------------

/-
  A separate lookup of a device has been answered with a
  device of this type.
-/
def FoundOfType
    (log : List Lookup)
    (deviceId typeId : String) : Prop :=
  ∃ infos device others,
    .devices [deviceId] (.ok infos) ∈ log ∧
      infos.devices = device :: others ∧
      device.deviceTypeId = typeId

/- Separate lookups are answered with the devices that are asked for. -/
def IsFaithful
    (log : List Lookup) : Prop :=
  ∀ deviceId infos device others,
    .devices [deviceId] (.ok infos) ∈ log →
      infos.devices = device :: others →
      device.id = deviceId

/-
  The type of a device is the last one that is listed for its
  id. If that is empty, then it is the type that a separate
  lookup has found, if there is one.
-/
structure IsTypeOf
    (devices : List Device)
    (log : List Lookup)
    (deviceId : String)
    (type : Option String) : Prop where
  listed :
    ∀ typeId, notedType? devices deviceId = some typeId → type = some typeId
  lookedUp :
    notedType? devices deviceId = none →
      ∀ typeId, type = some typeId → FoundOfType log deviceId typeId

theorem FoundOfType.mono
    {log more : List Lookup} {deviceId typeId : String}
    (hFound : FoundOfType log deviceId typeId)
    (hLog : log ⊆ more) :
    FoundOfType more deviceId typeId := by
  rcases hFound with ⟨infos, device, others, hMem, hAnswer, hType⟩
  exact ⟨infos, device, others, hLog hMem, hAnswer, hType⟩

theorem IsTypeOf.mono
    {devices : List Device} {log more : List Lookup} {deviceId : String}
    {type : Option String}
    (hType : IsTypeOf devices log deviceId type)
    (hLog : log ⊆ more) :
    IsTypeOf devices more deviceId type where
  listed := hType.listed
  lookedUp hNone typeId hSome := (hType.lookedUp hNone typeId hSome).mono hLog

/- What is known by the dictionary is what has been noted last. -/
theorem nonEmpty?_get?_listedTypes
    (noted : List Device) (deviceId : String) :
    nonEmpty? ((listedTypes noted).get? deviceId) =
      notedType? noted deviceId := by
  rw [listedTypes, Dict.get?_ofList, notedType?, ← List.map_reverse,
    List.find?_map, Option.map_map]
  rfl

theorem listedTypes_concat
    (noted : List Device) (device : Device) :
    (listedTypes noted).insert device.id device.deviceTypeId =
      listedTypes (noted ++ [device]) := by
  rw [listedTypes, listedTypes, Dict.ofList, Dict.ofList,
    List.map_append, List.foldl_append]
  rfl

theorem notedType?_concat
    (noted : List Device) (device : Device) (deviceId : String) :
    notedType? (noted ++ [device]) deviceId =
      if device.id = deviceId then nonEmpty? (some device.deviceTypeId)
      else notedType? noted deviceId := by
  unfold notedType?
  rw [List.reverse_concat, List.find?_cons]
  by_cases hId : device.id = deviceId
  · rw [if_pos hId, beq_iff_eq.mpr hId]
    rfl
  · rw [if_neg hId, beq_eq_false_iff_ne.mpr hId]

/- What is noted is what has been listed, or found by a lookup. -/
private def IsNotedOf
    (devices : List Device)
    (log : List Lookup)
    (noted : List Device) : Prop :=
  ∀ deviceId, IsTypeOf devices log deviceId (notedType? noted deviceId)

/- No type is listed for a device that has to be looked up. -/
private theorem isTypeOf_of_unknown
    {devices noted : List Device} {before log : List Lookup} {deviceId : String}
    {type : Option String}
    (hNoted : IsNotedOf devices before noted)
    (hUnknown : notedType? noted deviceId = none)
    (hFound : ∀ typeId, type = some typeId → FoundOfType log deviceId typeId) :
    IsTypeOf devices (before ++ log) deviceId type where
  listed typeId hListed := by
    rw [(hNoted deviceId).listed typeId hListed] at hUnknown
    cases hUnknown
  lookedUp _ typeId hType :=
    (hFound typeId hType).mono (List.subset_append_right before log)

/- Resolving one more type keeps to that. -/
private theorem Resolves.isNotedOf
    {devices noted noted' : List Device} {deviceId : String}
    {before log : List Lookup}
    {type : Option String}
    (hResolves : Resolves noted deviceId log type noted')
    (hNoted : IsNotedOf devices before noted)
    (hFaithful : IsFaithful log) :
    IsTypeOf devices (before ++ log) deviceId type ∧
      IsNotedOf devices (before ++ log) noted' := by
  have hKept : IsNotedOf devices (before ++ log) noted :=
    fun other => (hNoted other).mono (List.subset_append_left before log)
  cases hResolves with
  | known hKnown =>
      refine ⟨?_, hKept⟩
      rw [← hKnown]
      exact hKept deviceId
  | @found infos device others hUnknown hAnswer =>
      have hFound : FoundOfType
          [.devices [deviceId] (.ok infos)] deviceId device.deviceTypeId :=
        ⟨infos, device, others, List.mem_singleton_self _, hAnswer, rfl⟩
      have hSame : device.id = deviceId :=
        hFaithful deviceId infos device others
          (List.mem_singleton_self _) hAnswer
      constructor
      · apply isTypeOf_of_unknown hNoted hUnknown
        intro typeId hType
        cases hType
        exact hFound
      · intro other
        rw [notedType?_concat]
        by_cases hOther : device.id = other
        · rw [if_pos hOther]
          apply isTypeOf_of_unknown hNoted (hOther ▸ hSame ▸ hUnknown)
          intro typeId hType
          cases (Option.filter_eq_some_iff.mp hType).1
          exact hOther ▸ hSame ▸ hFound
        · rw [if_neg hOther]
          exact hKept other
  | missing hUnknown _ =>
      exact ⟨isTypeOf_of_unknown hNoted hUnknown nofun, hKept⟩
  | lost hUnknown _ => exact ⟨isTypeOf_of_unknown hNoted hUnknown nofun, hKept⟩

/- So does resolving the types of all devices that are left. -/
private theorem HasTypes.forall_isTypeOf
    {devices noted rest : List Device} {before log : List Lookup}
    {types : List (Option String)}
    (hTypes : HasTypes noted rest log types)
    (hNoted : IsNotedOf devices before noted)
    (hFaithful : IsFaithful log) :
    List.Forall₂
      (fun device type => IsTypeOf devices (before ++ log) device.id type)
      rest types := by
  induction hTypes generalizing before with
  | nil => exact .nil
  | @cons noted noted' rest device log more type types hFirst _ ih =>
      have hHere : IsFaithful log :=
        fun id infos found others hMem =>
          hFaithful id infos found others (List.mem_append_left _ hMem)
      have hLater : IsFaithful more :=
        fun id infos found others hMem =>
          hFaithful id infos found others (List.mem_append_right _ hMem)
      rcases hFirst.isNotedOf hNoted hHere with ⟨hType, hNext⟩
      rw [← List.append_assoc]
      exact .cons (hType.mono (List.subset_append_left _ _)) (ih hNext hLater)

/- Types are the listed ones, and those that have been looked up otherwise. -/
theorem HasTypes.isTypeOf
    {devices : List Device} {log : List Lookup} {types : List (Option String)}
    (hTypes : HasTypes devices devices log types)
    (hFaithful : IsFaithful log) :
    List.Forall₂ (fun device type => IsTypeOf devices log device.id type)
      devices types := by
  have hListed : IsNotedOf devices [] devices := by
    intro deviceId
    constructor
    · exact fun _ hListed => hListed
    · intro hNone typeId hSome
      rw [hNone] at hSome
      cases hSome
  exact hTypes.forall_isTypeOf hListed hFaithful

------------------------------------------------------------
-- What is described of an event
------------------------------------------------------------

/- The types of listed devices, with the lookups that they have needed. -/
structure AreTypesOf
    (devices : List Device)
    (log : List Lookup)
    (types : List (Option String)) : Prop where
  resolved : HasTypes devices devices log types
  faithful :
    IsFaithful log →
      List.Forall₂ (fun device type => IsTypeOf devices log device.id type)
        devices types

/- The query for what the services of an event have to deliver. -/
def queryOf
    (e : ConditionalEvent) : List DeviceTypeCriteria :=
  [.measuring (e.selection.filterCriteria.functionId.getD "")
    (e.selection.filterCriteria.aspectId.getD "")]

/-
  What is looked up for an event on a source, and what is
  described of it then. A lookup that fails costs the event
  all of its descriptions, unless it has been made for the
  type of one device.
-/
inductive DescribesOn
    (owner deploymentId : String)
    (e : ConditionalEvent) :
      SourceKind → List Lookup → List EventDescription → Prop where
  | generic
      {source : GenericSource} :
      DescribesOn owner deploymentId e (.generic source) [] []
  | service
      {deviceId serviceId : String} {service : Service} {d : EventDescription}
      (hIsOf : d.IsOf owner deploymentId e
        { deviceId := Ident.pure deviceId
          serviceId := Ident.pure serviceId
          service }) :
      DescribesOn owner deploymentId e (.deviceWithService deviceId serviceId)
        [.service (Ident.pure serviceId) (.ok service)] [d]
  | noService
      {deviceId serviceId : String} {fault : RequestError}
      (hFault : ¬ fault.IsInternal) :
      DescribesOn owner deploymentId e (.deviceWithService deviceId serviceId)
        [.service (Ident.pure serviceId) (.error fault)] []
  | running
      {importId : String} {running : Import} {importType : ImportType}
      {d : EventDescription}
      (hIsOf : d.IsOf owner deploymentId e
        { importId, service := importType.asService }) :
      DescribesOn owner deploymentId e (.importInstance importId)
        [.importInstance owner importId (.ok running),
          .importType owner running.importTypeId (.ok importType)] [d]
  | noImport
      {importId : String} {fault : RequestError}
      (hFault : ¬ fault.IsInternal) :
      DescribesOn owner deploymentId e (.importInstance importId)
        [.importInstance owner importId (.error fault)] []
  | noImportType
      {importId : String} {running : Import} {fault : RequestError}
      (hFault : ¬ fault.IsInternal) :
      DescribesOn owner deploymentId e (.importInstance importId)
        [.importInstance owner importId (.ok running),
          .importType owner running.importTypeId (.error fault)] []
  | devices
      {kind : SourceKind} {source : ExpansionSource} {groupId : String}
      {infos : DeviceInfos}
      {selectables : List DeviceTypeSelectable} {log : List Lookup}
      {types : List (Option String)} {ds : List EventDescription}
      (hSpans : Spans kind source groupId)
      (hTypes : AreTypesOf infos.devices log types)
      (hEach : List.Forall₂
        (fun p d => d.IsOf owner deploymentId e
          { deviceGroupId := groupId
            deviceId := p.1.id
            serviceId := p.2.id
            service := p.2 })
        (placed selectables infos.devices types) ds) :
      DescribesOn owner deploymentId e kind
        (.ofSource source (.ok infos) ::
          .selectables (queryOf e) (.ok selectables) :: log) ds
  | noDevices
      {kind : SourceKind} {source : ExpansionSource} {groupId : String}
      {fault : RequestError}
      (hSpans : Spans kind source groupId)
      (hFault : ¬ fault.IsInternal) :
      DescribesOn owner deploymentId e kind [.ofSource source (.error fault)] []
  | noSelectables
      {kind : SourceKind} {source : ExpansionSource} {groupId : String}
      {infos : DeviceInfos}
      {fault : RequestError}
      (hSpans : Spans kind source groupId)
      (hFault : ¬ fault.IsInternal) :
      DescribesOn owner deploymentId e kind
        [.ofSource source (.ok infos),
          .selectables (queryOf e) (.error fault)] []

variable (r : Describer σ)

/- The type of a device is resolved from the types that are known. -/
theorem deviceType_records
    (known : Dict String) (deviceId : String) :
    Records (r.deviceType known deviceId) (r.recorded.deviceType known deviceId)
      (Accounted fun x log => ∀ noted, known = listedTypes noted →
        ∃ noted', x.2 = listedTypes noted' ∧
          Resolves noted deviceId log x.1 noted') := by
  unfold deviceType
  cases hKnown : nonEmpty? (known.get? deviceId) with
  | some typeId =>
      apply Accounted.pure
      rintro noted rfl
      rw [nonEmpty?_get?_listedTypes] at hKnown
      exact ⟨noted, rfl, .known hKnown⟩
  | none =>
      have hUnknown : ∀ noted, known = listedTypes noted →
          notedType? noted deviceId = none := by
        rintro noted rfl
        rw [← nonEmpty?_get?_listedTypes]
        exact hKnown
      apply Accounted.bind_tolerated (fun _ => rfl)
      · rintro ⟨_ | ⟨device, others⟩, typeIds⟩
        · apply Accounted.pure
          exact fun noted hNoted =>
            ⟨noted, hNoted, .missing (hUnknown noted hNoted) rfl⟩
        · apply Accounted.pure
          intro noted hNoted
          refine ⟨noted ++ [device], ?_, .found (hUnknown noted hNoted) rfl⟩
          rw [← listedTypes_concat, ← hNoted]
      · apply Accounted.pure
        intro fault hFault noted hNoted
        exact ⟨noted, hNoted, .lost (hUnknown noted hNoted) hFault⟩

/-
  Each device is described with the services of the type
  that is resolved for it.
-/
theorem fanOut_records
    (d : EventDescription) (selectables : List DeviceTypeSelectable)
    (known : Dict String) (devices : List Device) :
    Records (r.fanOut d selectables known devices)
      (r.recorded.fanOut d selectables known devices)
      (Accounted fun ds log => ∀ noted, known = listedTypes noted →
        ∃ types, HasTypes noted devices log types ∧
          ds = (placed selectables devices types).map fun p =>
            d.onDevice p.1.id p.2) := by
  induction devices generalizing known with
  | nil => exact Accounted.pure fun noted _ => ⟨[], .nil, rfl⟩
  | cons device rest ih =>
      unfold fanOut
      apply Accounted.bind (deviceType_records r known device.id)
        (R := fun x ds log => ∀ noted, x.2 = listedTypes noted →
          ∃ types, HasTypes noted rest log types ∧
            ds = (placed selectables (device :: rest) (x.1 :: types)).map
              fun p => d.onDevice p.1.id p.2)
      · rintro ⟨type, known'⟩
        apply Accounted.bind (ih known')
          (R := fun more ds log => log = [] ∧
            ds = ((type.map (servicesOf selectables)).getD []).map
              (d.onDevice device.id) ++ more)
        · intro more
          exact Accounted.pure ⟨rfl, rfl⟩
        · rintro more ds log _ hRest ⟨rfl, rfl⟩ noted hNoted
          rcases hRest noted hNoted with ⟨types, hTypes, rfl⟩
          rw [List.append_nil]
          refine ⟨types, hTypes, ?_⟩
          rw [placed_cons, List.map_append, List.map_map]
          rfl
      · intro x ds log more hFirst hRest noted hNoted
        rcases hFirst noted hNoted with ⟨noted', hNext, hResolves⟩
        rcases hRest noted' hNext with ⟨types, hTypes, hEach⟩
        exact ⟨x.1 :: types, .cons hResolves hTypes, hEach⟩

/-
  What is made of a template: all that is the same for all
  descriptions of an event is set there.
-/
theorem isOf_template
    {owner deploymentId characteristicId : String} {e : ConditionalEvent}
    (hCharacteristic :
      e.selection.filterCriteria.characteristicId = some characteristicId)
    (place : Place) :
    EventDescription.IsOf owner deploymentId e place
      { e.template owner deploymentId with
        deviceGroupId := place.deviceGroupId
        deviceId := place.deviceId
        serviceId := place.serviceId
        importId := place.importId
        serviceForMarshaller := place.service } := by
  constructor
  case characteristicId =>
    rw [hCharacteristic]
    change some (e.selection.filterCriteria.characteristicId.getD "") = _
    rw [hCharacteristic]
    rfl
  all_goals rfl

section

variable {owner deploymentId characteristicId : String} {e : ConditionalEvent}

theorem onSource_records
    (hCharacteristic :
      e.selection.filterCriteria.characteristicId = some characteristicId)
    {kind : SourceKind} {source : ExpansionSource} {groupId : String}
    (hSpans : Spans kind source groupId)
    {d : EventDescription}
    (hTemplate : d =
      { e.template owner deploymentId with deviceGroupId := groupId }) :
    Records (r.onSource d source) (r.recorded.onSource d source)
      (Accounted fun ds log =>
        DescribesOn owner deploymentId e kind log ds) := by
  have hInfos :
      r.recorded.devices.infosOf source =
        (r.devices.infosOf source).noting (.ofSource source) := by
    cases source with
    | group id => rfl
    | devices ids => rfl
  unfold onSource
  rw [hInfos, hTemplate]
  apply Accounted.bind_tolerated (Lookup.fault?_ofSource source)
  · intro infos
    apply Accounted.bind_tolerated (fun _ => rfl)
    · intro selectables
      apply Accounted.mono (fanOut_records r _ selectables
        (listedTypes infos.devices) infos.devices)
      intro ds log hEach
      rcases hEach infos.devices rfl with ⟨types, hTypes, rfl⟩
      apply DescribesOn.devices hSpans ⟨hTypes, hTypes.isTypeOf⟩
      rw [List.forall₂_map_right_iff, List.forall₂_same]
      exact fun p _ => isOf_template hCharacteristic
        { deviceGroupId := groupId
          deviceId := p.1.id
          serviceId := p.2.id
          service := p.2 }
    · apply Accounted.pure
      exact fun fault hFault => .noSelectables hSpans hFault
  · apply Accounted.pure
    exact fun fault hFault => .noDevices hSpans hFault

end

end Describer

end ProcessEvents
