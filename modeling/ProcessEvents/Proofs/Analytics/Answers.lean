import ProcessEvents.Proofs.Analytics.Asking
import ProcessEvents.Proofs.Record

/-
  This file tells what the handler of message events makes of
  the answers that it gets. Of all failures it goes on after
  few: a flow that is hidden or absent, a source, function or
  concept that does not exist. Whether there is a request for
  an event is decided by the event, by whether groups are
  enabled, and by these answers.

  Key definitions include:
    * `RequestError.isUnanswered`, `DeployError.isUnanswered`
    * `Note.stop?`
    * `AnalyticsHandler.recording`, `AnalyticsHandler.recorded`
    * `AnalyticsHandler.Heeds`
    * `AnalyticsHandler.GoesOn`
    * `AnalyticsHandler.LooksInVain`
    * `AnalyticsHandler.IsUnfit`
    * `AnalyticsHandler.Asked`

  Key theorems include:
    * `Note.stop?_of_isUnanswered`
    * `AnalyticsHandler.sourceRequest_records`
    * `AnalyticsHandler.requestOn_records`
-/

namespace ProcessEvents

variable {σ ν α β : Type}

open ProcessEvents.Action (Records)

------------------------------------------------------------
-- Failures
------------------------------------------------------------

/- No service has answered with a status. -/
def RequestError.isUnanswered : RequestError → Bool
  | .unexpectedStatus _ _ => false
  | _ => true

/- There is no token, or a request has not got through. -/
def DeployError.isUnanswered : DeployError → Bool
  | .auth _ => true
  | .request e => e.isUnanswered
  | _ => false

namespace RequestError

theorem isNotFound_iff
    {e : RequestError} :
    e.isNotFound = true ↔ ∃ body, e = .unexpectedStatus .notFound body := by
  rw [isNotFound, decide_eq_true_iff]
  constructor
  · intro hStatus
    cases e with
    | unexpectedStatus status body =>
        change status = .notFound at hStatus
        exact ⟨body, by rw [hStatus]⟩
    | _ => cases hStatus
  · rintro ⟨body, rfl⟩
    rfl

theorem isAbsent_iff
    {e : RequestError} :
    e.isAbsent = true ↔
      ∃ status body,
        e = .unexpectedStatus status body ∧
          status ∈ [Http.Status.unauthorized, .forbidden, .notFound] := by
  have hStatus :
      e.isAbsent = true ↔
        e.status ∈ [Http.Status.unauthorized, .forbidden, .notFound] := by
    simp only [isAbsent, Bool.or_eq_true, decide_eq_true_iff, List.mem_cons,
      List.not_mem_nil, or_false]
    rw [or_comm, or_comm (a := e.status = .notFound)]
  rw [hStatus]
  constructor
  · intro hMem
    cases e with
    | unexpectedStatus status body => exact ⟨status, body, rfl, hMem⟩
    | _ =>
        exfalso
        simp [RequestError.status, Http.Status.internalServerError,
          Http.Status.notFound, Http.Status.forbidden,
          Http.Status.unauthorized] at hMem
  · rintro ⟨status, body, rfl, hMem⟩
    exact hMem

theorem isNotFound_of_isUnanswered
    {e : RequestError}
    (hUnanswered : e.isUnanswered = true) :
    e.isNotFound = false := by
  rw [← Bool.not_eq_true, isNotFound_iff]
  rintro ⟨body, rfl⟩
  cases hUnanswered

theorem isAbsent_of_isUnanswered
    {e : RequestError}
    (hUnanswered : e.isUnanswered = true) :
    e.isAbsent = false := by
  rw [← Bool.not_eq_true, isAbsent_iff]
  rintro ⟨status, body, rfl, -⟩
  cases hUnanswered

end RequestError

namespace Note

/-
  The error that a deployment ends in for a call. It goes on
  after an absent flow, and after a source, function or
  concept that is not found.
-/
def stop? : Note → Option DeployError
  | .flow _ _ (.error e) => if e.isAbsent then none else some (.request e)
  | .flow _ _ (.ok [_]) => none
  | .flow _ _ (.ok cells) => some (.flowOperatorCount cells.length)
  | .expansion (some e) => if e.isNotFound then none else some (.request e)
  | .conversion (some e) => if e.isNotFound then none else some (.request e)
  | note => note.fault?

/- Nothing is made of the call: it neither creates nor lacks anything. -/
def isIdle : Note → Bool
  | .flow _ _ _ => false
  | .expansion fault => fault.isNone
  | .creation _ _ _ _ => false
  | _ => true

/- Whether a pipeline should have been created. -/
def isCreation : Note → Bool
  | .creation _ _ _ _ => true
  | _ => false

/- What has been created, if the call has created a pipeline. -/
def created? : Note → Option (String × BearerToken × PipelineRequest)
  | .creation owner issued request none => some (owner, issued, request)
  | _ => none

/- A flow has one operator, or else the deployment ends. -/
theorem stop?_flow
    (userId flowId : String) {cells : List FlowCell}
    (hCount : cells.length ≠ 1) :
    (Note.flow userId flowId (.ok cells)).stop? =
      some (.flowOperatorCount cells.length) := by
  match cells with
  | [] => rfl
  | [_] => exact absurd rfl hCount
  | _ :: _ :: _ => rfl

/- A deployment goes on after no failure but an answer with a status. -/
theorem stop?_of_isUnanswered
    {note : Note} {e : DeployError}
    (hFault : note.fault? = some e)
    (hUnanswered : e.isUnanswered = true) :
    note.stop? = some e := by
  match note with
  | .flow _ _ (.ok _) => cases hFault
  | .flow _ _ (.error fault) =>
      cases hFault
      rw [stop?, RequestError.isAbsent_of_isUnanswered hUnanswered]
      rfl
  | .expansion (some fault) =>
      cases hFault
      rw [stop?, RequestError.isNotFound_of_isUnanswered hUnanswered]
      rfl
  | .conversion (some fault) =>
      cases hFault
      rw [stop?, RequestError.isNotFound_of_isUnanswered hUnanswered]
      rfl
  | .creation _ _ _ _ => exact hFault
  | .token _ => exact hFault
  | .other _ => exact hFault

theorem created?_of_not_isCreation
    {note : Note}
    (hOther : note.isCreation = false) :
    note.created? = none := by
  cases note with
  | creation owner token request fault => cases hOther
  | _ => rfl

theorem created?_of_isIdle
    {note : Note}
    (hIdle : note.isIdle = true) :
    note.created? = none := by
  cases note with
  | creation owner token request fault => cases hIdle
  | _ => rfl

end Note

/- What has been created by calls, in their order. -/
def creations
    (notes : List Note) : List (String × BearerToken × PipelineRequest) :=
  notes.filterMap Note.created?

theorem creations_append
    (notes more : List Note) :
    creations (notes ++ more) = creations notes ++ creations more :=
  List.filterMap_append

theorem creations_of_isIdle
    {notes : List Note}
    (hIdle : ∀ note ∈ notes, note.isIdle = true) :
    creations notes = [] :=
  List.filterMap_eq_nil_iff.mpr fun note hMem =>
    Note.created?_of_isIdle (hIdle note hMem)

namespace AnalyticsHandler

/- The handler with a record, in which its calls are noted. -/
def recording
    (notes : CallNotes ν)
    (h : AnalyticsHandler σ) : AnalyticsHandler (σ × List ν) :=
  { settings := h.settings
    importPathPrefix := h.importPathPrefix
    genericSourcePathPrefix := h.genericSourcePathPrefix
    groupsEnabled := h.groupsEnabled
    engine := h.engine.recorded notes
    devices := h.devices.recorded notes
    imports := h.imports.recorded notes
    tokens := h.tokens.recorded notes
    counters := h.counters.recorded }

/- The handler with a record of what it has been told. -/
def recorded
    (h : AnalyticsHandler σ) : AnalyticsHandler (σ × List Note) :=
  h.recording Note.calls

------------------------------------------------------------
-- What is made of failures
------------------------------------------------------------

/- The result is the failure that a call has ended in, if any has to stop it. -/
def Heeds
    (r : Except DeployError α)
    (notes : List Note) : Prop :=
  ∀ note ∈ notes, ∀ e, note.stop? = some e → r = .error e

namespace Heeds

variable {r : Except DeployError α} {notes more : List Note}

theorem nil : Heeds r [] :=
  nofun

theorem append
    (hNotes : Heeds r notes)
    (hMore : Heeds r more) :
    Heeds r (notes ++ more) :=
  List.forall_mem_append.mpr ⟨hNotes, hMore⟩

/- After a success nothing has to stop what follows. -/
theorem of_ok
    {x : β}
    (hNotes : Heeds (.ok x : Except DeployError β) notes) :
    Heeds r notes := by
  intro note hMem e hStop
  cases hNotes note hMem e hStop

theorem of_error
    {e : DeployError}
    (hNotes : Heeds (.error e : Except DeployError β) notes) :
    Heeds (.error e : Except DeployError α) notes := by
  intro note hMem e' hStop
  cases hNotes note hMem e' hStop
  rfl

theorem singleton
    {note : Note}
    (hNote : ∀ e, note.stop? = some e → r = .error e) :
    Heeds r [note] :=
  List.forall_mem_singleton.mpr hNote

end Heeds

/- Failures are heeded, and apart from them nothing is made of the calls. -/
structure Idles
    (r : Except DeployError α)
    (notes : List Note) : Prop where
  heeds : Heeds r notes
  idle : ∀ note ∈ notes, note.isIdle = true

namespace Idles

theorem nil
    {r : Except DeployError α} :
    Idles r [] :=
  ⟨.nil, nofun⟩

theorem bind
    {a : Action σ DeployError α} {b : Action (σ × List Note) DeployError α}
    {f : α → Action σ DeployError β}
    {g : α → Action (σ × List Note) DeployError β}
    (hFirst : Records a b Idles)
    (hThen : ∀ x, Records (f x) (g x) Idles) :
    Records (a >>= f) (b >>= g) Idles := by
  apply Records.bind hFirst hThen
  · intro e notes hNotes
    exact ⟨hNotes.heeds.of_error, hNotes.idle⟩
  · intro x r notes more hNotes hMore
    exact ⟨hNotes.heeds.of_ok.append hMore.heeds,
      List.forall_mem_append.mpr ⟨hNotes.idle, hMore.idle⟩⟩

/- A call of which only a failure matters, with what is made of its answer. -/
theorem other
    (a : Action σ RequestError α)
    (f : α → β) :
    Records ((f <$> a).mapError .request)
      ((f <$> a.noting fun r => Note.other (faultOf? r)).mapError .request)
        Idles := by
  have hCall :
      Records a (a.noting fun r => Note.other (faultOf? r))
        fun r notes => notes = [.other (faultOf? r)] :=
    .noting fun _ => rfl
  have hMap :
      Records (f <$> a) (f <$> a.noting fun r => Note.other (faultOf? r))
        fun r notes => notes = [.other (faultOf? r)] := by
    apply hCall.map
    rintro (e | x) notes rfl
    · rfl
    · rfl
  apply hMap.mapError
  rintro r notes rfl
  refine ⟨.singleton fun e hStop => ?_, List.forall_mem_singleton.mpr rfl⟩
  cases r with
  | error e' =>
      cases hStop
      rfl
  | ok x => cases hStop

end Idles

variable (h : AnalyticsHandler σ)

/-
  What does not exist is passed over, and any other failure
  is the end.
-/
inductive GoesOn
    (absent : β)
    (Q : Except DeployError β → List Note → Prop) :
    Except RequestError α → Except DeployError β → List Note → Prop where
  | passedOver
      {e : RequestError}
      (hStatus : e.isNotFound = true) :
      GoesOn absent Q (.error e) (.ok absent) []
  | failed
      {e : RequestError}
      (hStatus : e.isNotFound = false) :
      GoesOn absent Q (.error e) (.error (.request e)) []
  | found
      {x : α} {r : Except DeployError β} {notes : List Note}
      (hFound : Q r notes) :
      GoesOn absent Q (.ok x) r notes

theorem goesOn_records
    {absent : β} {Q : Except DeployError β → List Note → Prop}
    {k : Except RequestError α → Action σ DeployError β}
    {k' : Except RequestError α → Action (σ × List Note) DeployError β}
    (hError :
      ∀ e,
        k (.error e) =
          if e.isNotFound then return absent else .fail (.request e))
    (hError' :
      ∀ e,
        k' (.error e) =
          if e.isNotFound then return absent else .fail (.request e))
    (hOk : ∀ x, Records (k (.ok x)) (k' (.ok x)) Q)
    (answer : Except RequestError α) :
    Records (k answer) (k' answer) (GoesOn absent Q answer) := by
  cases answer with
  | error e =>
      rw [hError, hError']
      cases hStatus : e.isNotFound with
      | true => exact .pure (.passedOver hStatus)
      | false => exact .fail (.failed hStatus)
  | ok x => exact (hOk x).mono fun _ _ => .found

/- A function or a concept that does not exist is passed over. -/
theorem conversion_records
    (a : Action σ RequestError α) (absent : β)
    {k : Except RequestError α → Action σ DeployError β}
    {k' : Except RequestError α → Action (σ × List Note) DeployError β}
    (hError :
      ∀ e,
        k (.error e) =
          if e.isNotFound then return absent else .fail (.request e))
    (hError' :
      ∀ e,
        k' (.error e) =
          if e.isNotFound then return absent else .fail (.request e))
    (hOk : ∀ x, Records (k (.ok x)) (k' (.ok x)) Idles) :
    Records (a.attempt >>= k)
      ((a.noting fun r => Note.conversion (faultOf? r)).attempt >>= k')
        Idles := by
  apply Records.bind_attempt
    (P := fun answer notes => notes = [Note.conversion (faultOf? answer)])
    (.noting fun _ => rfl) (goesOn_records hError hError' hOk)
  rintro answer r notes more rfl hGoes
  have hIdle : (Note.conversion (faultOf? answer)).isIdle = true := rfl
  cases hGoes with
  | passedOver hStatus =>
      refine ⟨.singleton fun e hStop => ?_, List.forall_mem_singleton.mpr hIdle⟩
      rw [faultOf?, Note.stop?, hStatus] at hStop
      cases hStop
  | failed hStatus =>
      refine ⟨.singleton fun e hStop => ?_, List.forall_mem_singleton.mpr hIdle⟩
      rw [faultOf?, Note.stop?, hStatus] at hStop
      cases hStop
      rfl
  | found hMore =>
      have hFirst : Heeds r [.conversion none] := .singleton nofun
      exact ⟨hFirst.append hMore.heeds,
        List.forall_mem_append.mpr
          ⟨List.forall_mem_singleton.mpr hIdle, hMore.idle⟩⟩

theorem conversions_records
    (functionId : Option String) :
    Records (h.conversions functionId)
      (h.recorded.conversions functionId) Idles := by
  unfold conversions
  cases functionId with
  | none => exact .pure .nil
  | some id =>
      apply conversion_records (h.devices.function id)
        [] (fun _ => rfl) (fun _ => rfl)
      intro function
      dsimp only
      split
      · exact .pure .nil
      · apply conversion_records (h.devices.concept function.conceptId) []
          (fun _ => rfl) (fun _ => rfl)
        intro concept
        exact .pure .nil

------------------------------------------------------------
-- What is made of lookups
------------------------------------------------------------

/- What is made of the lookup of a flow's operators. -/
inductive FindsOperator
    (owner flowId : String) :
    Except DeployError (Option String) → List Note → Prop where
  | found
      (cell : FlowCell) :
      FindsOperator owner flowId (.ok (some cell.id))
        [.flow owner flowId (.ok [cell])]
  | absent
      {e : RequestError}
      (hAbsent : e.isAbsent = true) :
      FindsOperator owner flowId (.ok none) [.flow owner flowId (.error e)]
  | stopped
      {answer : Except RequestError (List FlowCell)} {e : DeployError}
      (hStop : (Note.flow owner flowId answer).stop? = some e) :
      FindsOperator owner flowId (.error e) [.flow owner flowId answer]

theorem operatorNode_records
    (owner flowId : String) :
    Records (h.operatorNode owner flowId) (h.recorded.operatorNode owner flowId)
      (FindsOperator owner flowId) := by
  unfold operatorNode
  apply Records.bind_attempt
    (P := fun answer notes => notes = [Note.flow owner flowId answer])
    (R := fun answer r notes => notes = [] ∧
      FindsOperator owner flowId r [.flow owner flowId answer])
    (.noting fun _ => rfl)
  · intro answer
    match answer with
    | .error e =>
        dsimp only
        cases hAbsent : e.isAbsent with
        | true => exact .pure ⟨rfl, .absent hAbsent⟩
        | false =>
            exact .fail ⟨rfl, .stopped (by rw [Note.stop?, hAbsent]; rfl)⟩
    | .ok [cell] => exact .pure ⟨rfl, .found cell⟩
    | .ok [] => exact .fail ⟨rfl, .stopped rfl⟩
    | .ok (_ :: _ :: _) => exact .fail ⟨rfl, .stopped rfl⟩
  · rintro answer r notes more rfl ⟨rfl, hFinds⟩
    exact hFinds

/-
  The lookups made for an event have found nothing that it
  could run on: its flow is hidden or absent, or its source
  does not exist.
-/
inductive LooksInVain
    (owner flowId : String)
    (notes : List Note) : Prop where
  | flow
      {status : Http.Status} {body : String}
      (hNote :
        .flow owner flowId (.error (.unexpectedStatus status body)) ∈ notes)
      (hStatus : status ∈ [Http.Status.unauthorized, .forbidden, .notFound])
  | source
      {body : String}
      (hNote : .expansion (some (.unexpectedStatus .notFound body)) ∈ notes)

theorem looksInVain_append_iff
    {owner flowId : String} {notes more : List Note} :
    LooksInVain owner flowId (notes ++ more) ↔
      LooksInVain owner flowId notes ∨ LooksInVain owner flowId more := by
  constructor
  · rintro (⟨hNote, hStatus⟩ | ⟨hNote⟩)
    · rcases List.mem_append.mp hNote with hNote | hNote
      · exact Or.inl (.flow hNote hStatus)
      · exact Or.inr (.flow hNote hStatus)
    · rcases List.mem_append.mp hNote with hNote | hNote
      · exact Or.inl (.source hNote)
      · exact Or.inr (.source hNote)
  · rintro ((⟨hNote, hStatus⟩ | ⟨hNote⟩) | (⟨hNote, hStatus⟩ | ⟨hNote⟩))
    · exact .flow (List.mem_append_left _ hNote) hStatus
    · exact .source (List.mem_append_left _ hNote)
    · exact .flow (List.mem_append_right _ hNote) hStatus
    · exact .source (List.mem_append_right _ hNote)

theorem not_looksInVain_of_isIdle
    {owner flowId : String} {notes : List Note}
    (hIdle : ∀ note ∈ notes, note.isIdle = true) :
    ¬ LooksInVain owner flowId notes := by
  rintro (⟨hNote, -⟩ | ⟨hNote⟩)
  · cases hIdle _ hNote
  · cases hIdle _ hNote

------------------------------------------------------------
-- Requests
------------------------------------------------------------

/-
  There is no request for an event exactly if the event is
  unfit as it is given, or if the lookups for it have been in
  vain. A request runs on the single operator of the flow.
-/
structure Asked
    (owner flowId : String)
    (unfit : Prop)
    (built : String → PipelineRequest → Prop)
    (r : Except DeployError (Option PipelineRequest))
    (notes : List Note) : Prop where
  heeds : Heeds r notes
  uncreated : creations notes = []
  skipped : r = .ok none → unfit ∨ LooksInVain owner flowId notes
  requested :
    ∀ request, r = .ok (some request) →
      ¬ unfit ∧ ¬ LooksInVain owner flowId notes ∧
        ∃ cell, .flow owner flowId (.ok [cell]) ∈ notes ∧ built cell.id request

namespace Asked

variable
    {owner flowId : String} {unfit : Prop}
    {built : String → PipelineRequest → Prop}

theorem of_idles_error
    {e : DeployError} {notes : List Note}
    (hNotes : Idles (.error e : Except DeployError α) notes) :
    Asked owner flowId unfit built (.error e) notes where
  heeds := hNotes.heeds.of_error
  uncreated := creations_of_isIdle hNotes.idle
  skipped := nofun
  requested := nofun

theorem of_error
    (e : DeployError) :
    Asked owner flowId unfit built (.error e) [] :=
  ⟨.nil, rfl, nofun, nofun⟩

/- An event that is unfit is not asked for. -/
theorem unfit_records
    (hUnfit : unfit) :
    Records (return none : Action σ DeployError _) (return none)
      (Asked owner flowId unfit built) := by
  apply Records.pure
  exact ⟨.nil, rfl, fun _ => Or.inl hUnfit, nofun⟩

theorem fail_records
    (e : DeployError) :
    Records (.fail e : Action σ DeployError _)
      (.fail e) (Asked owner flowId unfit built) :=
  .fail (of_error e)

/- An event that is fit depends on the lookups alone. -/
theorem of_fit
    {a : Action σ DeployError (Option PipelineRequest)}
    {b : Action (σ × List Note) DeployError (Option PipelineRequest)}
    (hFit : ¬ unfit)
    (hAsked : Records a b (Asked owner flowId False built)) :
    Records a b (Asked owner flowId unfit built) := by
  apply hAsked.mono
  intro r notes hAsked
  constructor
  · exact hAsked.heeds
  · exact hAsked.uncreated
  · exact fun hNone => Or.inr ((hAsked.skipped hNone).resolve_left id)
  · exact fun request hSome => ⟨hFit, (hAsked.requested request hSome).2⟩

theorem of_iff
    {unfit' : Prop} {r : Except DeployError (Option PipelineRequest)}
    {notes : List Note}
    (hUnfit : unfit ↔ unfit')
    (hAsked : Asked owner flowId unfit built r notes) :
    Asked owner flowId unfit' built r notes where
  heeds := hAsked.heeds
  uncreated := hAsked.uncreated
  skipped hNone := (hAsked.skipped hNone).imp_left hUnfit.mp
  requested request hSome :=
    ⟨mt hUnfit.mpr (hAsked.requested request hSome).1,
      (hAsked.requested request hSome).2⟩

/- Calls in front of which nothing is made do not matter. -/
theorem append_idles
    {x : α} {r : Except DeployError (Option PipelineRequest)}
    {notes more : List Note}
    (hNotes : Idles (.ok x : Except DeployError α) notes)
    (hMore : Asked owner flowId unfit built r more) :
    Asked owner flowId unfit built r (notes ++ more) := by
  have hVain : LooksInVain owner flowId (notes ++ more) ↔
      LooksInVain owner flowId more := by
    rw [looksInVain_append_iff,
      or_iff_right (not_looksInVain_of_isIdle hNotes.idle)]
  constructor
  · exact hNotes.heeds.of_ok.append hMore.heeds
  · rw [creations_append, creations_of_isIdle hNotes.idle,
      hMore.uncreated, List.append_nil]
  · rw [hVain]
    exact hMore.skipped
  · intro request hSome
    rw [hVain]
    rcases hMore.requested request hSome with
      ⟨hFit, hFound, cell, hCell, hBuilt⟩
    exact ⟨hFit, hFound, cell, List.mem_append_right _ hCell, hBuilt⟩

theorem bind_idles
    {a : Action σ DeployError α} {b : Action (σ × List Note) DeployError α}
    {f : α → Action σ DeployError (Option PipelineRequest)}
    {g : α → Action (σ × List Note) DeployError (Option PipelineRequest)}
    (hFirst : Records a b Idles)
    (hThen : ∀ x, Records (f x) (g x) (Asked owner flowId unfit built)) :
    Records (a >>= f) (b >>= g) (Asked owner flowId unfit built) :=
  Records.bind hFirst hThen (fun _ _ hNotes => of_idles_error hNotes)
    fun _ _ _ _ hNotes hMore => hMore.append_idles hNotes

/- A source that does not exist is passed over. -/
theorem of_absent_source
    {e : RequestError}
    (hStatus : e.isNotFound = true) :
    Asked owner flowId False built (.ok none) [.expansion (some e)] := by
  refine ⟨.singleton fun e' hStop => ?_, rfl, fun _ => ?_, nofun⟩
  · rw [Note.stop?, hStatus] at hStop
    cases hStop
  · rcases RequestError.isNotFound_iff.mp hStatus with ⟨body, rfl⟩
    exact Or.inr (.source List.mem_cons_self)

theorem of_failed_source
    {e : RequestError}
    (hStatus : e.isNotFound = false) :
    Asked owner flowId False built (.error (.request e))
      [.expansion (some e)] := by
  refine ⟨.singleton fun e' hStop => ?_, rfl, nofun, nofun⟩
  rw [Note.stop?, hStatus] at hStop
  cases hStop
  rfl

end Asked

/- With an operator there is always a request, unless a lookup fails. -/
structure AskedOn
    (built : PipelineRequest → Prop)
    (r : Except DeployError (Option PipelineRequest))
    (notes : List Note) : Prop where
  idles : Idles r notes
  requested : ∀ request?, r = .ok request? →
    ∃ request, request? = some request ∧ built request

namespace AskedOn

variable {built : PipelineRequest → Prop}

theorem some_records
    {request : PipelineRequest}
    (hBuilt : built request) :
    Records (return some request : Action σ DeployError _) (return some request)
      (AskedOn built) := by
  apply Records.pure
  refine ⟨.nil, fun request? hEnd => ?_⟩
  cases hEnd
  exact ⟨request, rfl, hBuilt⟩

theorem bind_idles
    {a : Action σ DeployError α} {b : Action (σ × List Note) DeployError α}
    {f : α → Action σ DeployError (Option PipelineRequest)}
    {g : α → Action (σ × List Note) DeployError (Option PipelineRequest)}
    (hFirst : Records a b Idles)
    (hThen : ∀ x, Records (f x) (g x) (AskedOn built)) :
    Records (a >>= f) (b >>= g) (AskedOn built) := by
  apply Records.bind hFirst hThen
  · intro e notes hNotes
    exact ⟨⟨hNotes.heeds.of_error, hNotes.idle⟩, nofun⟩
  · intro x r notes more hNotes hMore
    exact ⟨⟨hNotes.heeds.of_ok.append hMore.idles.heeds,
      List.forall_mem_append.mpr ⟨hNotes.idle, hMore.idles.idle⟩⟩,
      hMore.requested⟩

end AskedOn

/- The request of an event whose flow is looked up first. -/
theorem onOperator_records
    {owner flowId : String} {built : String → PipelineRequest → Prop}
    {k : Option String → Action σ DeployError (Option PipelineRequest)}
    {k' : Option String →
      Action (σ × List Note) DeployError (Option PipelineRequest)}
    (hNone : k none = return none)
    (hNone' : k' none = return none)
    (hSome : ∀ id, Records (k (some id)) (k' (some id)) (AskedOn (built id))) :
    Records (h.operatorNode owner flowId >>= k)
      (h.recorded.operatorNode owner flowId >>= k')
      (Asked owner flowId False built) := by
  apply Records.bind (P := FindsOperator owner flowId)
    (R := fun node? r notes =>
    (node? = none → r = .ok none ∧ notes = []) ∧
      ∀ id, node? = some id → AskedOn (built id) r notes)
    (h.operatorNode_records owner flowId)
  · rintro (_ | id)
    · rw [hNone, hNone']
      exact .pure ⟨fun _ => ⟨rfl, rfl⟩, nofun⟩
    · apply (hSome id).mono
      intro r notes hAsked
      refine ⟨nofun, fun _ hId => ?_⟩
      cases hId
      exact hAsked
  · rintro e notes ⟨⟩
    rename_i answer hStop
    refine ⟨.singleton ?_, rfl, nofun, nofun⟩
    intro e' hStop'
    rw [hStop] at hStop'
    cases hStop'
    rfl
  · rintro node? r notes more hFinds ⟨hIfNone, hIfSome⟩
    cases hFinds with
    | found cell =>
        rcases hIfSome cell.id rfl with ⟨hIdles, hBuilt⟩
        constructor
        · exact (Heeds.singleton fun e hStop => by cases hStop).append
            hIdles.heeds
        · rw [creations_append, creations_of_isIdle hIdles.idle]
          rfl
        · intro hEnd
          rcases hBuilt none hEnd with ⟨_, hRequest, -⟩
          cases hRequest
        · intro request hEnd
          rcases hBuilt (some request) hEnd with ⟨_, hRequest, hIs⟩
          cases hRequest
          refine ⟨id, ?_, cell, List.mem_append_left _ List.mem_cons_self, hIs⟩
          rw [looksInVain_append_iff, not_or]
          refine ⟨?_, not_looksInVain_of_isIdle hIdles.idle⟩
          rintro (⟨hNote, -⟩ | ⟨hNote⟩)
          · cases List.mem_singleton.mp hNote
          · cases List.mem_singleton.mp hNote
    | @absent e hAbsent =>
        rcases hIfNone rfl with ⟨rfl, rfl⟩
        refine ⟨.singleton ?_, rfl, ?_, nofun⟩
        · intro e' hStop
          rw [Note.stop?, hAbsent] at hStop
          cases hStop
        · intro _
          rcases RequestError.isAbsent_iff.mp hAbsent with
            ⟨status, body, rfl, hStatus⟩
          exact Or.inr (.flow List.mem_cons_self hStatus)

------------------------------------------------------------
-- Expansions
------------------------------------------------------------

/-
  The calls of an expansion succeed, up to the last one if
  the expansion fails.
-/
inductive Expands : Except RequestError α → List Note → Prop where
  | found
      {x : α} {notes : List Note}
      (hNotes : ∀ note ∈ notes, note = .expansion none) :
      Expands (.ok x) notes
  | failed
      {e : RequestError} {notes : List Note}
      (hNotes : ∀ note ∈ notes, note = .expansion none) :
      Expands (.error e) (notes ++ [.expansion (some e)])

namespace Expands

theorem call
    (a : Action σ RequestError α) :
    Records a (a.noting fun r => Note.expansion (faultOf? r)) Expands := by
  apply Records.noting
  rintro (e | x)
  · rw [← List.nil_append [Note.expansion _]]
    exact failed nofun
  · exact found (List.forall_mem_singleton.mpr rfl)

theorem bind
    {a : Action σ RequestError α} {b : Action (σ × List Note) RequestError α}
    {f : α → Action σ RequestError β}
    {g : α → Action (σ × List Note) RequestError β}
    (hFirst : Records a b Expands)
    (hThen : ∀ x, Records (f x) (g x) Expands) :
    Records (a >>= f) (b >>= g) Expands := by
  apply Records.bind hFirst hThen
  · rintro e notes ⟨⟩
    rename_i notes hNotes
    exact failed hNotes
  · rintro x r notes more ⟨⟩ hMore
    rename_i hNotes
    cases hMore with
    | found hMore => exact found (List.forall_mem_append.mpr ⟨hNotes, hMore⟩)
    | failed hMore =>
        rw [← List.append_assoc]
        exact failed (List.forall_mem_append.mpr ⟨hNotes, hMore⟩)

end Expands

theorem expand_records
    (devices : DeviceDirectory σ)
    (source : ExpansionSource)
    (functionId aspectId : String) :
    Records (devices.expand source functionId aspectId)
      ((devices.recorded Note.calls).expand source functionId aspectId)
      Expands := by
  unfold DeviceDirectory.expand
  apply Expands.bind
  · cases source with
    | group id => exact Expands.call _
    | devices ids => exact Expands.call _
  · intro infos
    apply Expands.bind (Expands.call _)
    intro selectables
    exact .pure (.found nofun)

/- Calls that have all succeeded lead to nothing by themselves. -/
theorem idles_of_found
    {x : α} {notes : List Note}
    (hNotes : ∀ note ∈ notes, note = .expansion none) :
    Idles (.ok x : Except DeployError α) notes := by
  constructor
  · intro note hMem e hStop
    rw [hNotes note hMem] at hStop
    cases hStop
  · intro note hMem
    rw [hNotes note hMem]
    rfl

/- The request of an event whose source is expanded first. -/
theorem onSource_records
    {owner flowId : String} {built : String → PipelineRequest → Prop}
    {a : Action σ RequestError Expansion}
    {b : Action (σ × List Note) RequestError Expansion}
    {k : Except RequestError Expansion →
      Action σ DeployError (Option PipelineRequest)}
    {k' : Except RequestError Expansion →
      Action (σ × List Note) DeployError (Option PipelineRequest)}
    (hSource : Records a b Expands)
    (hError :
      ∀ e,
        k (.error e) =
          if e.isNotFound then return none else .fail (.request e))
    (hError' :
      ∀ e,
        k' (.error e) =
          if e.isNotFound then return none else .fail (.request e))
    (hOk : ∀ x,
      Records (k (.ok x)) (k' (.ok x)) (Asked owner flowId False built)) :
    Records (a.attempt >>= k) (b.attempt >>= k')
      (Asked owner flowId False built) := by
  apply Records.bind_attempt hSource (goesOn_records hError hError' hOk)
  rintro answer r notes more hExpands hGoes
  cases hExpands with
  | @found x notes hNotes =>
      cases hGoes with
      | found hAsked =>
          exact hAsked.append_idles (idles_of_found (x := x) hNotes)
  | @failed e notes hNotes =>
      have hBefore : Idles (.ok () : Except DeployError Unit) notes :=
        idles_of_found hNotes
      cases hGoes with
      | passedOver hStatus =>
          rw [List.append_nil]
          exact (Asked.of_absent_source hStatus).append_idles hBefore
      | failed hStatus =>
          rw [List.append_nil]
          exact (Asked.of_failed_source hStatus).append_idles hBefore

------------------------------------------------------------
-- Kinds of sources
------------------------------------------------------------

/- A text that is needed is missing or empty. -/
def IsUnexpandable
    (deploymentId : String)
    (event : MessageEvent) : Prop :=
  nonEmpty? event.selection.filterCriteria.functionId = none ∨
    nonEmpty? event.selection.filterCriteria.aspectId = none ∨
    deploymentId = ""

/-
  An event that is skipped as it is given. On a service it
  lacks a path; on all other sources groups are disabled, or
  it lacks what its kind of source needs.
-/
def IsUnfit
    (groupsEnabled : Bool)
    (deploymentId : String)
    (event : MessageEvent) : SourceKind → Prop
  | .deviceWithService _ _ => event.selection.path = none
  | .deviceGroup _ => groupsEnabled = false ∨ IsUnexpandable deploymentId event
  | .deviceWithoutService _ =>
      groupsEnabled = false ∨ IsUnexpandable deploymentId event
  | .importInstance _ =>
    groupsEnabled = false ∨
      event.selection.filterCriteria.functionId = none ∨
      event.selection.filterCriteria.aspectId = none
  | .generic source =>
    groupsEnabled = false ∨
      source.filterType = "" ∨ source.filterIds = "" ∨ source.topic = "" ∨
      event.selection.path.elim "" PathOption.path = ""

/-
  The request of a context on an operator: one node under the
  label of the element, with a record of the event.
-/
def IsBuilt
    (c : EventContext)
    (operator : String)
    (request : PipelineRequest) : Prop :=
  ∃ d inputs config,
    d.eventId = c.event.eventId ∧ d.deploymentId = c.deploymentId ∧
      request =
        EventRequest.singleNode c.label c.event.flowId d operator inputs config

/- The same of an event on several devices. -/
def IsBuiltFor
    (label : String)
    (e : SourceEvent)
    (operator : String)
    (request : PipelineRequest) : Prop :=
  ∃ inputs config,
    request = EventRequest.singleNode label e.flowId
      e.groupDescription operator inputs config

/- The request of an event on several devices. -/
theorem sourceRequest_records
    (token : BearerToken)
    (owner label : String)
    (e : SourceEvent) :
    Records (h.sourceRequest token owner label e)
      (h.recorded.sourceRequest token owner label e)
      (Asked owner e.flowId (isExpandable e = false) (IsBuiltFor label e)) := by
  unfold sourceRequest
  apply Records.bind_ofExcept
  · intro fault _
    exact Asked.of_error fault
  · intro source _
    cases hExpandable : isExpandable e with
    | false => exact Asked.unfit_records rfl
    | true =>
        rw [if_pos rfl, if_pos rfl]
        apply Asked.of_fit nofun
        apply onSource_records
          (expand_records h.devices source e.functionId e.aspectId)
          (fun _ => rfl) (fun _ => rfl)
        intro expansion
        apply Asked.bind_idles (h.conversions_records (some e.functionId))
        intro conversions
        apply onOperator_records h rfl rfl
        intro id
        exact AskedOn.some_records ⟨_, _, rfl⟩

variable (c : EventContext)

/- The request of an event on a given operator, without another lookup. -/
theorem requestOnFlow_records
    {request : String → PipelineRequest}
    (hBuilt : ∀ id, IsBuilt c id (request id)) :
    Records (h.requestOnFlow c request) (h.recorded.requestOnFlow c request)
      (Asked c.owner c.event.flowId False (IsBuilt c)) := by
  unfold requestOnFlow
  apply onOperator_records h rfl rfl
  intro id
  exact AskedOn.some_records (hBuilt id)

theorem deviceRequest_records
    (deviceId serviceId : String) :
    Records (h.deviceRequest c deviceId serviceId)
      (h.recorded.deviceRequest c deviceId serviceId)
      (Asked c.owner c.event.flowId (c.event.selection.path = none)
        (IsBuilt c)) := by
  unfold deviceRequest
  cases hPath : c.event.selection.path with
  | none => exact Asked.unfit_records rfl
  | some selected =>
      apply Asked.of_fit nofun
      apply onOperator_records h rfl rfl
      intro id
      dsimp only
      split
      · exact AskedOn.some_records ⟨_, _, _, rfl, rfl, rfl⟩
      · apply AskedOn.bind_idles (h.conversions_records c.functionId)
        intro conversions
        exact AskedOn.some_records ⟨_, _, _, rfl, rfl, rfl⟩

variable {c}

/- Without an event on a source, the function or the aspect is missing. -/
theorem missing_of_sourceEvent?
    (hNone : c.sourceEvent? = none) :
    c.event.selection.filterCriteria.functionId = none ∨
      c.event.selection.filterCriteria.aspectId = none := by
  change (c.event.selection.filterCriteria.functionId.bind fun _ =>
    c.event.selection.filterCriteria.aspectId.bind fun _ => some _) =
      none at hNone
  cases hFunction : c.event.selection.filterCriteria.functionId with
  | none => exact Or.inl rfl
  | some functionId =>
      cases hAspect : c.event.selection.filterCriteria.aspectId with
      | none => exact Or.inr rfl
      | some aspectId =>
          rw [hFunction, hAspect] at hNone
          cases hNone

/- The event on a source has the function and the aspect of the event. -/
theorem of_sourceEvent?
    {e : SourceEvent}
    (hEvent : c.sourceEvent? = some e) :
    c.event.selection.filterCriteria.functionId = some e.functionId ∧
      c.event.selection.filterCriteria.aspectId = some e.aspectId ∧
      e.deploymentId = c.deploymentId ∧
      e.eventId = c.event.eventId ∧
      e.flowId = c.event.flowId := by
  simp only [EventContext.sourceEvent?, Option.bind_eq_bind,
    Option.bind_eq_some_iff, Option.pure_def, Option.some.injEq] at hEvent
  rcases hEvent with ⟨functionId, hFunction, aspectId, hAspect, rfl⟩
  exact ⟨hFunction, hAspect, rfl, rfl, rfl⟩

theorem isExpandable_eq_false_iff
    {e : SourceEvent}
    (hEvent : c.sourceEvent? = some e) :
    isExpandable e = false ↔ IsUnexpandable c.deploymentId c.event := by
  rcases of_sourceEvent? hEvent with ⟨hFunction, hAspect, hDeployment, -, -⟩
  rw [IsUnexpandable, hFunction, hAspect, ← hDeployment]
  simp only [isExpandable, nonEmpty?, Bool.and_eq_false_iff,
    bne_eq_false_iff_eq, Option.filter_some, ite_eq_right_iff, reduceCtorEq,
    imp_false, decide_eq_true_eq, ne_eq, not_not, or_assoc]

/- The request of an event on a group, or on a whole device. -/
theorem expandedRequest_records
    {e : SourceEvent}
    (hEvent : c.sourceEvent? = some e)
    (deviceGroupId : String) (deviceIds : Option (List String)) :
    Records (h.sourceRequest c.token c.owner c.label
      { e with deviceGroupId, deviceIds })
      (h.recorded.sourceRequest c.token c.owner c.label
        { e with deviceGroupId, deviceIds })
      (Asked c.owner c.event.flowId (IsUnexpandable c.deploymentId c.event)
        (IsBuilt c)) := by
  rcases of_sourceEvent? hEvent with ⟨-, -, hDeployment, hId, hFlow⟩
  have hRequest :=
    h.sourceRequest_records c.token c.owner c.label
      { e with deviceGroupId, deviceIds }
  apply hRequest.mono
  intro r notes hAsked
  rw [← isExpandable_eq_false_iff hEvent, ← hFlow]
  refine ⟨hAsked.heeds, hAsked.uncreated, hAsked.skipped,
    fun request hSome => ?_⟩
  rcases hAsked.requested request hSome with
    ⟨hFit, hFound, cell, hCell, inputs, config, hIs⟩
  refine ⟨hFit, hFound, cell, hCell, ?_⟩
  refine ⟨SourceEvent.groupDescription { e with deviceGroupId, deviceIds },
    inputs, config,
    hId, hDeployment, ?_⟩
  rw [← hFlow]
  exact hIs

/- An event that needs groups is skipped where they are disabled. -/
theorem expanded_records
    (place : SourceEvent → SourceEvent)
    (hPlace :
      ∀ e, ∃ deviceGroupId deviceIds,
        place e = { e with deviceGroupId, deviceIds })
    {a : Action σ DeployError (Option PipelineRequest)}
    {b : Action (σ × List Note) DeployError (Option PipelineRequest)}
    (hPlain :
      a =
        match h.groupsEnabled, c.sourceEvent? with
        | true, some e => h.sourceRequest c.token c.owner c.label (place e)
        | _, _ => return none)
    (hRecorded :
      b =
        match h.groupsEnabled, c.sourceEvent? with
        | true, some e =>
            h.recorded.sourceRequest c.token c.owner c.label (place e)
        | _, _ => return none) :
    Records a b
      (Asked c.owner c.event.flowId
        (h.groupsEnabled = false ∨ IsUnexpandable c.deploymentId c.event)
        (IsBuilt c)) := by
  rw [hPlain, hRecorded]
  cases hGroups : h.groupsEnabled with
  | false => exact Asked.unfit_records (Or.inl rfl)
  | true =>
      cases hEvent : c.sourceEvent? with
      | none =>
          apply Asked.unfit_records
          rcases missing_of_sourceEvent? hEvent with hNone | hNone
          · exact Or.inr (Or.inl (by rw [hNone]; rfl))
          · exact Or.inr (Or.inr (Or.inl (by rw [hNone]; rfl)))
      | some e =>
          rcases hPlace e with ⟨deviceGroupId, deviceIds, hSame⟩
          dsimp only
          rw [hSame]
          apply (h.expandedRequest_records hEvent deviceGroupId deviceIds).mono
          exact fun _ _ hAsked => hAsked.of_iff (or_iff_right nofun).symm

variable (c)

theorem importCast_records :
    Records (h.importCast c) (h.recorded.importCast c) Idles := by
  unfold importCast
  split
  · exact .pure .nil
  · apply Idles.bind (h.conversions_records c.functionId)
    intro conversions
    exact .pure .nil

theorem importRequest_records
    (importId : String) :
    Records (h.importRequest c importId) (h.recorded.importRequest c importId)
      (Asked c.owner c.event.flowId
        (IsUnfit h.groupsEnabled c.deploymentId c.event
          (.importInstance importId))
        (IsBuilt c)) := by
  have hGroups : h.recorded.groupsEnabled = h.groupsEnabled := rfl
  unfold importRequest
  rw [hGroups, IsUnfit]
  cases h.groupsEnabled with
  | false => exact Asked.unfit_records (Or.inl rfl)
  | true =>
      cases hEvent : c.sourceEvent? with
      | none =>
          exact Asked.unfit_records (Or.inr (missing_of_sourceEvent? hEvent))
      | some e =>
          rcases of_sourceEvent? hEvent with
            ⟨hFunction, hAspect, hDeployment, hId, hFlow⟩
          apply Asked.of_fit (by rw [hFunction, hAspect]; simp)
          apply Asked.bind_idles (h.importCast_records c)
          rintro ⟨selected, conversions⟩
          dsimp only
          split
          · exact Asked.fail_records _
          · apply Asked.bind_idles
              (Idles.other (h.imports.importInstance c.owner importId) _)
            intro topic
            apply requestOnFlow_records
            intro id
            exact ⟨_, _, _, hId, hDeployment, by rw [← hFlow]; rfl⟩

theorem genericConversions_records
    (selected : PathOption) :
    Records (h.genericConversions c selected)
      (h.recorded.genericConversions c selected)
      Idles := by
  unfold genericConversions
  split
  · exact .pure .nil
  · exact h.conversions_records c.functionId

theorem genericRequest_records
    (source : GenericSource) :
    Records (h.genericRequest c source) (h.recorded.genericRequest c source)
      (Asked c.owner c.event.flowId
        (IsUnfit h.groupsEnabled c.deploymentId c.event (.generic source))
        (IsBuilt c)) := by
  have hGroups : h.recorded.groupsEnabled = h.groupsEnabled := rfl
  unfold genericRequest
  rw [hGroups, IsUnfit]
  cases hPath : c.event.selection.path with
  | none => exact Asked.unfit_records (by simp)
  | some selected =>
      dsimp only
      split
      · rename_i hComplete
        simp only [Bool.and_eq_true, bne_iff_ne,
          GenericSource.isComplete] at hComplete
        rcases hComplete with ⟨⟨hSelected, ⟨hType, hIds⟩, hTopic⟩, hEnabled⟩
        apply Asked.of_fit (by simp [hEnabled, hType, hIds, hTopic, hSelected])
        apply Asked.bind_idles (h.genericConversions_records c selected)
        intro conversions
        apply requestOnFlow_records
        intro id
        exact ⟨_, _, _, rfl, rfl, rfl⟩
      · rename_i hIncomplete
        apply Asked.unfit_records
        by_contra hFit
        simp only [not_or, Option.elim_some, Bool.not_eq_false] at hFit
        rcases hFit with ⟨hEnabled, hType, hIds, hTopic, hSelected⟩
        apply hIncomplete
        simp [GenericSource.isComplete, hEnabled,
          hType, hIds, hTopic, hSelected]

/- Events of all kinds of sources are asked for, unless they are skipped. -/
theorem requestOn_records
    (kind : SourceKind) :
    Records (h.requestOn c kind) (h.recorded.requestOn c kind)
      (Asked c.owner c.event.flowId
        (IsUnfit h.groupsEnabled c.deploymentId c.event kind)
        (IsBuilt c)) := by
  cases kind with
  | deviceGroup groupId =>
      exact h.expanded_records (fun e => { e with deviceGroupId := groupId })
        (fun e => ⟨groupId, e.deviceIds, rfl⟩) rfl rfl
  | deviceWithService deviceId serviceId =>
      exact h.deviceRequest_records c deviceId serviceId
  | deviceWithoutService deviceId =>
      exact h.expanded_records
        (fun e => { e with deviceIds := some [deviceId] })
        (fun e => ⟨e.deviceGroupId, some [deviceId], rfl⟩) rfl rfl
  | importInstance importId => exact h.importRequest_records c importId
  | generic source => exact h.genericRequest_records c source

end AnalyticsHandler

end ProcessEvents
