import ProcessEvents.Proofs.Analytics.Accounting
import ProcessEvents.Proofs.Device

/-
  This file tells which absences a deployment goes on after.
  A flow may be hidden or absent. The devices of an event may
  be absent, but if they are hidden, then the deployment ends,
  and the elements behind the event are not reached.

  Key definitions include:
    * `Note.IsAbsence`
    * `SourceKind.IsExpanded`
    * `AnalyticsHandler.Stopped`
    * `AnalyticsHandler.Apart`

  Key theorems include:
    * `AnalyticsHandler.sourceRequest_stopped`
    * `AnalyticsHandler.sourceRequest_apart`
    * `AnalyticsHandler.deployElement_goesOn_iff`
-/

namespace ProcessEvents

variable {σ α β : Type}

open ProcessEvents.Action (Records notesOf)

------------------------------------------------------------
-- Absences
------------------------------------------------------------

/- The flow, or the source, is hidden or does not exist. -/
inductive Note.IsAbsence : Note → Prop where
  | flow
      {userId flowId body : String} {status : Http.Status}
      (hStatus : status ∈ [Http.Status.unauthorized, .forbidden, .notFound]) :
      IsAbsence (.flow userId flowId (.error (.unexpectedStatus status body)))
  | source
      {body : String} {status : Http.Status}
      (hStatus : status ∈ [Http.Status.unauthorized, .forbidden, .notFound]) :
      IsAbsence (.expansion (some (.unexpectedStatus status body)))

/- The note tells neither of a flow nor of an absence. -/
def Note.isAside : Note → Bool
  | .flow _ _ _ => false
  | .expansion fault => fault.isNone
  | _ => true

theorem Note.isAside_of_isIdle
    {note : Note}
    (hIdle : note.isIdle = true) :
    note.isAside = true := by
  cases note with
  | flow userId flowId answer => cases hIdle
  | expansion fault => exact hIdle
  | _ => rfl

/- An event on a group, or on a device with all of its services. -/
inductive SourceKind.IsExpanded : SourceKind → Prop where
  | group (id : String) : IsExpanded (.deviceGroup id)
  | device (id : String) : IsExpanded (.deviceWithoutService id)

namespace AnalyticsHandler

/-
  If there is an error, then a call has ended in it that has
  to stop everything.
-/
def Stopped
    (r : Except DeployError α)
    (notes : List Note) : Prop :=
  ∀ e, r = .error e → ∃ note ∈ notes, note.stop? = some e

/- Besides an absence, no flow has been found. -/
def Apart
    (notes : List Note) : Prop :=
  ∀ note ∈ notes, note.IsAbsence →
    ∀ userId flowId cells, .flow userId flowId (.ok cells) ∉ notes

/-
  What stops everything is a failure, or a flow without
  exactly one operator.
-/
theorem fault?_of_stop?
    {note : Note} {e : DeployError}
    (hStop : note.stop? = some e) :
    note.fault? = some e ∨
      ∃ userId flowId cells, note = .flow userId flowId (.ok cells) ∧
        cells.length ≠ 1 := by
  match note with
  | .flow userId flowId (.ok cells) =>
      refine Or.inr ⟨userId, flowId, cells, rfl, fun hOne => ?_⟩
      rcases List.length_eq_one_iff.mp hOne with ⟨cell, rfl⟩
      cases hStop
  | .flow _ _ (.error fault) =>
      rw [Note.stop?] at hStop
      split at hStop
      · cases hStop
      · exact Or.inl hStop
  | .expansion none => cases hStop
  | .expansion (some fault) =>
      rw [Note.stop?] at hStop
      split at hStop
      · cases hStop
      · exact Or.inl hStop
  | .conversion none => cases hStop
  | .conversion (some fault) =>
      rw [Note.stop?] at hStop
      split at hStop
      · cases hStop
      · exact Or.inl hStop
  | .creation _ _ _ _ => exact Or.inl hStop
  | .token _ => exact Or.inl hStop
  | .other _ => exact Or.inl hStop

/- Of all absences, only that of a hidden source stops everything. -/
theorem status_of_isAbsence
    {note : Note} {e : DeployError}
    (hAbsence : note.IsAbsence)
    (hStop : note.stop? = some e) :
    ∃ status body,
      note = .expansion (some (.unexpectedStatus status body)) ∧
        status ≠ .notFound := by
  cases hAbsence with
  | flow hStatus =>
      rw [Note.stop?,
        if_pos (RequestError.isAbsent_iff.mpr ⟨_, _, rfl, hStatus⟩)] at hStop
      cases hStop
  | @source body status hStatus =>
      refine ⟨status, body, rfl, ?_⟩
      rintro rfl
      rw [Note.stop?,
        if_pos (RequestError.isNotFound_iff.mpr ⟨body, rfl⟩)] at hStop
      cases hStop

theorem stop?_of_hidden
    {status : Http.Status} {body : String}
    (hStatus : status ≠ .notFound) :
    (Note.expansion (some (.unexpectedStatus status body))).stop? =
      some (.request (.unexpectedStatus status body)) := by
  rw [Note.stop?, if_neg]
  rw [RequestError.isNotFound_iff]
  rintro ⟨body', hSame⟩
  cases hSame
  exact hStatus rfl

------------------------------------------------------------
-- What stops
------------------------------------------------------------

namespace Stopped

theorem of_ok
    (x : α) (notes : List Note) :
    Stopped (.ok x : Except DeployError α) notes :=
  nofun

theorem of_stop?
    {e : DeployError} {note : Note} {notes : List Note}
    (hMem : note ∈ notes)
    (hStop : note.stop? = some e) :
    Stopped (.error e : Except DeployError α) notes := by
  intro e' hError
  cases hError
  exact ⟨note, hMem, hStop⟩

theorem append
    {r : Except DeployError α} {more : List Note}
    (notes : List Note)
    (hMore : Stopped r more) :
    Stopped r (notes ++ more) := by
  intro e hError
  rcases hMore e hError with ⟨note, hMem, hStop⟩
  exact ⟨note, List.mem_append_right notes hMem, hStop⟩

theorem bind
    {a : Action σ DeployError α} {b : Action (σ × List Note) DeployError α}
    {f : α → Action σ DeployError β}
    {g : α → Action (σ × List Note) DeployError β}
    (hFirst : Records a b Stopped)
    (hThen : ∀ x, Records (f x) (g x) Stopped) :
    Records (a >>= f) (b >>= g) Stopped := by
  apply Records.bind hFirst hThen
  · intro e notes hNotes
    rcases hNotes e rfl with ⟨note, hMem, hStop⟩
    exact .of_stop? hMem hStop
  · exact fun _ _ notes _ _ hMore => hMore.append notes

/- After a lookup whose failures stop everything, unless nothing is found. -/
theorem bind_attempt
    {P : Except RequestError α → List Note → Prop} {absent : β}
    {a : Action σ RequestError α} {b : Action (σ × List Note) RequestError α}
    {k : Except RequestError α → Action σ DeployError β}
    {k' : Except RequestError α → Action (σ × List Note) DeployError β}
    (hLookup : Records a b P)
    (hFails : ∀ e notes, P (.error e) notes → e.isNotFound = false →
      ∃ note ∈ notes, note.stop? = some (.request e))
    (hError :
      ∀ e,
        k (.error e) =
          if e.isNotFound then return absent else .fail (.request e))
    (hError' :
      ∀ e,
        k' (.error e) =
          if e.isNotFound then return absent else .fail (.request e))
    (hOk : ∀ x, Records (k (.ok x)) (k' (.ok x)) Stopped) :
    Records (a.attempt >>= k) (b.attempt >>= k') Stopped := by
  apply Records.bind_attempt hLookup (goesOn_records hError hError' hOk)
  intro answer r notes more hNotes hGoes
  cases hGoes with
  | passedOver _ => exact .of_ok _ _
  | @failed e hStatus =>
      rcases hFails e notes hNotes hStatus with ⟨note, hMem, hStop⟩
      exact .of_stop? (List.mem_append_left _ hMem) hStop
  | found hMore => exact hMore.append notes

end Stopped

variable (h : AnalyticsHandler σ)

theorem conversions_stopped
    (functionId : Option String) :
    Records (h.conversions functionId)
      (h.recorded.conversions functionId) Stopped := by
  have hLookup : ∀ {α : Type} (a : Action σ RequestError α),
      Records a (a.noting fun r => Note.conversion (faultOf? r))
        fun answer notes => notes = [.conversion (faultOf? answer)] :=
    fun a => .noting fun _ => rfl
  have hFails : ∀ {α : Type} (e : RequestError) (notes : List Note),
      notes = [.conversion (faultOf? (.error e : Except RequestError α))] →
        e.isNotFound = false →
          ∃ note ∈ notes, note.stop? = some (.request e) := by
    rintro α e _ rfl hStatus
    refine ⟨_, List.mem_singleton_self _, ?_⟩
    rw [faultOf?, Note.stop?, hStatus]
    rfl
  unfold conversions
  cases functionId with
  | none => exact .pure (.of_ok _ _)
  | some id =>
      apply Stopped.bind_attempt (hLookup _) hFails
        (fun _ => rfl) (fun _ => rfl)
      intro function
      dsimp only
      split
      · exact .pure (.of_ok _ _)
      · apply Stopped.bind_attempt (hLookup _) hFails
          (fun _ => rfl) (fun _ => rfl)
        intro concept
        exact .pure (.of_ok _ _)

theorem operatorNode_stopped
    (owner flowId : String) :
    Records (h.operatorNode owner flowId)
      (h.recorded.operatorNode owner flowId) Stopped := by
  apply (h.operatorNode_records owner flowId).mono
  intro r notes hFinds
  cases hFinds with
  | found cell => exact .of_ok _ _
  | absent _ => exact .of_ok _ _
  | stopped hStop => exact .of_stop? (List.mem_singleton_self _) hStop

theorem sourceRequest_stopped
    (token : BearerToken) (owner label : String)
    {e : SourceEvent} {source : ExpansionSource}
    (hSource : expansionSource e = .ok source) :
    Records (h.sourceRequest token owner label e)
      (h.recorded.sourceRequest token owner label e)
      Stopped := by
  unfold sourceRequest
  rw [hSource]
  apply Records.bind_ofExcept nofun
  intro source' hSame
  cases hSame
  cases isExpandable e with
  | false => exact .pure (.of_ok _ _)
  | true =>
      rw [if_pos rfl, if_pos rfl]
      apply Stopped.bind_attempt
        (expand_records h.devices source e.functionId e.aspectId)
        ?_ (fun _ => rfl) (fun _ => rfl)
      · intro expansion
        apply Stopped.bind (h.conversions_stopped (some e.functionId))
        intro conversions
        apply Stopped.bind (h.operatorNode_stopped owner e.flowId)
        intro node
        exact .pure (.of_ok _ _)
      · rintro fault notes ⟨⟩ hStatus
        refine ⟨_, List.mem_append_right _ (List.mem_singleton_self _), ?_⟩
        rw [Note.stop?, hStatus]
        rfl

------------------------------------------------------------
-- Absences and flows
------------------------------------------------------------

theorem not_isAbsence_of_isAside
    {note : Note}
    (hAside : note.isAside = true) :
    ¬ note.IsAbsence := by
  rintro (_ | _)
  · cases hAside
  · cases hAside

theorem not_isAside_flow
    {userId flowId : String} {answer : Except RequestError (List FlowCell)}
    {notes : List Note}
    (hAside : ∀ note ∈ notes, note.isAside = true) :
    .flow userId flowId answer ∉ notes := by
  intro hMem
  cases hAside _ hMem

namespace Apart

variable {notes more : List Note}

theorem of_isAside
    (hAside : ∀ note ∈ notes, note.isAside = true) :
    Apart notes :=
  fun note hMem hAbsence =>
    absurd hAbsence (not_isAbsence_of_isAside (hAside note hMem))

theorem singleton
    (note : Note) :
    Apart [note] := by
  intro absence hMem hAbsence userId flowId cells hFlow
  rw [List.mem_singleton.mp hMem, ← List.mem_singleton.mp hFlow] at hAbsence
  cases hAbsence

theorem append_left
    (hNotes : ∀ note ∈ notes, note.isAside = true)
    (hMore : Apart more) :
    Apart (notes ++ more) := by
  intro note hMem hAbsence userId flowId cells hFlow
  rcases List.mem_append.mp hMem with hMem | hMem
  · exact not_isAbsence_of_isAside (hNotes note hMem) hAbsence
  · rcases List.mem_append.mp hFlow with hFlow | hFlow
    · exact not_isAside_flow hNotes hFlow
    · exact hMore note hMem hAbsence userId flowId cells hFlow

theorem append_right
    (hNotes : Apart notes)
    (hMore : ∀ note ∈ more, note.isAside = true) :
    Apart (notes ++ more) := by
  intro note hMem hAbsence userId flowId cells hFlow
  rcases List.mem_append.mp hMem with hMem | hMem
  · rcases List.mem_append.mp hFlow with hFlow | hFlow
    · exact hNotes note hMem hAbsence userId flowId cells hFlow
    · exact not_isAside_flow hMore hFlow
  · exact not_isAbsence_of_isAside (hMore note hMem) hAbsence

end Apart

/-
  The flow is looked up behind the source, and only if the
  source has been found.
-/
theorem sourceRequest_apart
    (token : BearerToken) (owner label : String) (e : SourceEvent) :
    Records (h.sourceRequest token owner label e)
      (h.recorded.sourceRequest token owner label e)
      fun _ notes => Apart notes := by
  unfold sourceRequest
  apply Records.bind_ofExcept
  · exact fun _ _ => .of_isAside nofun
  intro source _
  cases isExpandable e with
  | false => exact .pure (.of_isAside nofun)
  | true =>
      rw [if_pos rfl, if_pos rfl]
      apply Records.bind_attempt
        (expand_records h.devices source e.functionId e.aspectId)
        (goesOn_records (Q := fun _ notes => Apart notes)
          (fun _ => rfl) (fun _ => rfl) ?_)
      · intro answer r notes more hExpands hGoes
        cases hExpands with
        | @found expansion notes hNotes =>
            have hAside : ∀ note ∈ notes, note.isAside = true := by
              intro note hMem
              rw [hNotes note hMem]
              rfl
            cases hGoes with
            | found hMore => exact .append_left hAside hMore
        | @failed fault notes hNotes =>
            have hAside : ∀ note ∈ notes, note.isAside = true := by
              intro note hMem
              rw [hNotes note hMem]
              rfl
            cases hGoes with
            | passedOver _ =>
                rw [List.append_nil]
                exact .append_left hAside (.singleton _)
            | failed _ =>
                rw [List.append_nil]
                exact .append_left hAside (.singleton _)
      · intro expansion
        apply Records.bind (h.conversions_records (some e.functionId))
          (R := fun _ _ notes => Apart notes)
        · intro conversions
          apply Records.bind (h.operatorNode_records owner e.flowId)
            (R := fun _ _ notes => notes = [])
          · intro node
            exact .pure rfl
          · rintro fault notes ⟨⟩
            exact .singleton _
          · rintro node? r notes _ hFinds rfl
            rw [List.append_nil]
            cases hFinds with
            | found cell => exact .singleton _
            | absent _ => exact .singleton _
        · exact fun _ notes hIdles =>
            .of_isAside fun note hMem =>
              Note.isAside_of_isIdle (hIdles.idle note hMem)
        · exact fun _ _ notes more hIdles hMore =>
            .append_left (fun note hMem =>
              Note.isAside_of_isIdle (hIdles.idle note hMem)) hMore

------------------------------------------------------------
-- Elements on groups and on whole devices
------------------------------------------------------------

theorem deviceIds_of_sourceEvent?
    {c : EventContext} {e : SourceEvent}
    (hEvent : c.sourceEvent? = some e) :
    e.deviceIds = none := by
  simp only [EventContext.sourceEvent?, Option.bind_eq_bind,
    Option.bind_eq_some_iff, Option.pure_def, Option.some.injEq] at hEvent
  rcases hEvent with ⟨_, _, _, _, rfl⟩
  rfl

section

variable
    {element : Element} {event : MessageEvent} {kind : SourceKind}
    {Q : Except DeployError (Option PipelineRequest) → List Note → Prop}

/-
  The source of an event that is expanded has an id, so that
  it is only left open what is made of its request.
-/
theorem elementRequest_records_of_isExpanded
    (token : BearerToken) (owner deploymentId : String)
    (hEvent : element.messageEvent = some event)
    (hKind : event.selection.kind = some kind)
    (hExpanded : kind.IsExpanded)
    (hNone : Q (.ok none) [])
    (hSource : ∀ label e source, expansionSource e = .ok source →
      Records (h.sourceRequest token owner label e)
        (h.recorded.sourceRequest token owner label e) Q) :
    Records (h.elementRequest token owner deploymentId element)
      (h.recorded.elementRequest token owner deploymentId element) Q := by
  have hGroups : h.recorded.groupsEnabled = h.groupsEnabled := rfl
  unfold elementRequest
  cases hContext : EventContext.ofElement? token owner deploymentId element with
  | none => exact .pure hNone
  | some c =>
      simp only [EventContext.ofElement?, hEvent, Option.bind_eq_bind,
        Option.bind_some, Option.bind_eq_some_iff, Option.pure_def,
        Option.some.injEq] at hContext
      rcases hContext with ⟨characteristicId, -, rfl⟩
      dsimp only
      rw [hKind]
      -- without groups, function or aspect there is no request
      cases hExpanded with
      | group id =>
          have hId : id ≠ "" := by
            simpa using
              (Option.filter_eq_some_iff.mp
                (Selection.kind_eq_deviceGroup_iff.mp hKind)).2
          change Records (h.groupRequest _ id) (h.recorded.groupRequest _ id) Q
          unfold groupRequest
          rw [hGroups]
          cases h.groupsEnabled with
          | false => exact .pure hNone
          | true =>
              cases hSourceEvent : EventContext.sourceEvent? _ with
              | none => exact .pure hNone
              | some e =>
                  apply hSource _ _ (.group id)
                  rw [expansionSource, deviceIds_of_sourceEvent? hSourceEvent]
                  exact if_pos (bne_iff_ne.mpr hId)
      | device id =>
          change Records (h.wholeDeviceRequest _ id)
            (h.recorded.wholeDeviceRequest _ id) Q
          unfold wholeDeviceRequest
          rw [hGroups]
          cases h.groupsEnabled with
          | false => exact .pure hNone
          | true =>
              cases EventContext.sourceEvent? _ with
              | none => exact .pure hNone
              | some e => exact hSource _ _ (.devices [id]) rfl

/-
  An element on a group or on a whole device is only stopped
  by a call, and after an absence it comes to no flow.
-/
theorem deployElement_records_of_isExpanded
    (token : BearerToken) (owner deploymentId : String)
    (hEvent : element.messageEvent = some event)
    (hKind : event.selection.kind = some kind)
    (hExpanded : kind.IsExpanded) :
    Records (h.deployElement token owner deploymentId element)
      (h.recorded.deployElement token owner deploymentId element)
      fun r notes => Stopped r notes ∧ Apart notes := by
  unfold deployElement
  apply Records.bind (P := fun r notes => Stopped r notes ∧ Apart notes)
    (R := fun _ r more => Stopped r more ∧ ∀ note ∈ more, note.isAside = true)
  · apply h.elementRequest_records_of_isExpanded
      token owner deploymentId hEvent hKind hExpanded
    · exact ⟨.of_ok _ _, .of_isAside nofun⟩
    · intro label e source hSource
      exact (h.sourceRequest_stopped token owner label hSource).and
        (h.sourceRequest_apart token owner label e)
  · rintro (_ | request)
    · exact .pure ⟨.of_ok _ _, nofun⟩
    · apply (h.create_records token owner request).mono
      rintro r notes ⟨fault, rfl, rfl⟩
      refine ⟨?_, List.forall_mem_singleton.mpr rfl⟩
      cases fault with
      | none => exact .of_ok _ _
      | some e => exact .of_stop? (List.mem_singleton_self _) rfl
  · rintro e notes ⟨hStopped, hApart⟩
    rcases hStopped e rfl with ⟨note, hMem, hStop⟩
    exact ⟨.of_stop? hMem hStop, hApart⟩
  · rintro request? r notes more ⟨-, hApart⟩ ⟨hStopped, hAside⟩
    exact ⟨hStopped.append notes, hApart.append_right hAside⟩

/-
  If nothing has failed for an event on a group or on a whole
  device but lookups of what is absent or hidden, then the
  deployment goes on behind it exactly if no lookup of its
  devices tells that they are hidden, and its flow, where it
  is reached, has one operator. It is not reached after an
  absence.
-/
theorem deployElement_goesOn_iff
    (token : BearerToken) (owner deploymentId : String)
    (hEvent : element.messageEvent = some event)
    (hKind : event.selection.kind = some kind)
    (hExpanded : kind.IsExpanded)
    {notes : List Note} {s : σ}
    (hNotes :
      notesOf (h.recorded.deployElement token owner deploymentId element) s =
        notes)
    (hAbsent : ∀ note ∈ notes, ∀ e, note.fault? = some e → note.IsAbsence) :
    ((∃ t, h.deployElement token owner deploymentId element s = (.ok (), t) ∧
        ∀ rest,
          Action.forEach (h.deployElement token owner deploymentId)
            (element :: rest) s =
            Action.forEach (h.deployElement token owner deploymentId) rest t) ↔
      (∀ status body,
          .expansion (some (.unexpectedStatus status body)) ∈ notes →
            status = .notFound) ∧
        ∀ userId flowId cells, .flow userId flowId (.ok cells) ∈ notes →
          cells.length = 1) ∧
      ((∃ note ∈ notes, note.IsAbsence) →
        ∀ userId flowId cells, .flow userId flowId (.ok cells) ∉ notes) := by
  rcases h.deployElement_records token owner deploymentId element |>.run s []
    with ⟨-, hDeployed⟩
  rcases h.deployElement_records_of_isExpanded
    token owner deploymentId hEvent hKind hExpanded
    |>.run s [] with ⟨-, hStopped, hApart⟩
  rw [hNotes] at hDeployed hStopped hApart
  refine ⟨⟨?_, ?_⟩, fun ⟨note, hMem, hAbsence⟩ => hApart note hMem hAbsence⟩
  · rintro ⟨t, hRun, -⟩
    have hGoesOn : ∀ note ∈ notes, ∀ e, note.stop? ≠ some e := by
      intro note hMem e hStop
      have hEnd := hDeployed.heeds note hMem e hStop
      rw [hRun] at hEnd
      cases hEnd
    constructor
    · intro status body hMem
      by_contra hStatus
      exact hGoesOn _ hMem _ (stop?_of_hidden hStatus)
    · intro userId flowId cells hMem
      by_contra hCount
      exact hGoesOn _ hMem _ (Note.stop?_flow userId flowId hCount)
  · rintro ⟨hFound, hCount⟩
    rcases hRun :
      h.deployElement token owner deploymentId element s with ⟨e | _, t⟩
    · exfalso
      rw [hRun] at hStopped
      rcases hStopped e rfl with ⟨note, hMem, hStop⟩
      rcases fault?_of_stop? hStop with
        hFault | ⟨userId, flowId, cells, rfl, hOther⟩
      · rcases status_of_isAbsence (hAbsent note hMem e hFault) hStop with
          ⟨status, body, rfl, hStatus⟩
        exact hStatus (hFound status body hMem)
      · exact hOther (hCount userId flowId cells hMem)
    · exact ⟨t, rfl, fun rest => Action.bind_of_ok hRun⟩

end

------------------------------------------------------------
-- A device that is hidden
------------------------------------------------------------

/- The same as `onTable`, but for the lookup of devices, which fails. -/
def lookingUp
    (status : Http.Status) : AnalyticsHandler NumberedPipelines :=
  { onTable ⟨"Bearer"⟩ with
    devices :=
      { (DeviceDirectory.unchanging {} [] :
          DeviceDirectory NumberedPipelines) with
        ofDevices := fun _ => .fail (NumberedPipelines.refusal status) } }

/- An event on a device with all of its services. -/
def deviceElement : Element :=
  { messageEvent := some
      { flowId := "f1"
        eventId := "e1"
        selection :=
          { filterCriteria :=
              { characteristicId := some "c1"
                functionId := some "fn1"
                aspectId := some "a1" }
            deviceId := some "dev1" } } }

/- The lookup is the only call that is made for the event. -/
theorem notesOf_deviceElement
    {status : Http.Status}
    (hAbsent : status ∈ [Http.Status.unauthorized, .forbidden, .notFound]) :
    notesOf ((lookingUp status).recorded.deployElement
      ⟨"Bearer"⟩ "u1" "d1" deviceElement)
        leftovers =
      [.expansion (some (NumberedPipelines.refusal status))] := by
  simp only [List.mem_cons, List.not_mem_nil, or_false] at hAbsent
  rcases hAbsent with rfl | rfl | rfl
  · rfl
  · rfl
  · rfl

theorem deployElement_goesOn_iff_notFound :
    ∃ t,
      (lookingUp .notFound).deployElement
        ⟨"Bearer"⟩ "u1" "d1" deviceElement leftovers =
          (.ok (), t) ∧
        ∀ rest,
          Action.forEach
            ((lookingUp .notFound).deployElement ⟨"Bearer"⟩ "u1" "d1")
              (deviceElement :: rest) leftovers =
            Action.forEach ((lookingUp .notFound).deployElement
              ⟨"Bearer"⟩ "u1" "d1") rest t := by
  have hStatus : Http.Status.notFound ∈ [Http.Status.unauthorized,
      .forbidden, .notFound] := by
    decide
  have hAbsent :
      ∀ note ∈ [Note.expansion (some (NumberedPipelines.refusal .notFound))],
        ∀ e, note.fault? = some e → note.IsAbsence :=
    List.forall_mem_singleton.mpr fun _ _ => .source hStatus
  apply (deployElement_goesOn_iff (lookingUp .notFound)
    ⟨"Bearer"⟩ "u1" "d1" rfl rfl
    (.device "dev1") (notesOf_deviceElement hStatus) hAbsent).1.mpr
  constructor
  · intro status body hMem
    cases List.mem_singleton.mp hMem
    rfl
  · intro userId flowId cells hMem
    cases List.mem_singleton.mp hMem

/-
  A device that is hidden ends the deployment, whatever
  elements come behind its event.
-/
theorem deployElement_stops_at_hidden :
    (lookingUp .forbidden).groupsEnabled = true ∧
      (∃ event,
        deviceElement.messageEvent = some event ∧
          event.selection.kind = some (.deviceWithoutService "dev1")) ∧
      notesOf ((lookingUp .forbidden).recorded.deployElement
        ⟨"Bearer"⟩ "u1" "d1" deviceElement)
          leftovers =
        [.expansion (some (.unexpectedStatus .forbidden ""))] ∧
      (lookingUp .forbidden).deployElement
        ⟨"Bearer"⟩ "u1" "d1" deviceElement leftovers =
        (.error (.request (.unexpectedStatus .forbidden "")), leftovers) ∧
      ∀ rest,
        Action.forEach
          ((lookingUp .forbidden).deployElement ⟨"Bearer"⟩ "u1" "d1")
            (deviceElement :: rest) leftovers =
          (.error (.request (.unexpectedStatus .forbidden "")), leftovers) := by
  have hRun :
      (lookingUp .forbidden).deployElement
        ⟨"Bearer"⟩ "u1" "d1" deviceElement leftovers =
        (.error (.request (.unexpectedStatus .forbidden "")), leftovers) := rfl
  exact ⟨rfl, ⟨_, rfl, rfl⟩, notesOf_deviceElement (by decide), hRun,
    fun rest => Action.bind_of_error hRun⟩

end AnalyticsHandler

end ProcessEvents
