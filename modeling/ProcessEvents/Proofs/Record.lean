import Mathlib.Data.List.Forall2
import ProcessEvents.Collaborator
import ProcessEvents.Counter
import ProcessEvents.Proofs.Action

/-
  This file puts a record beside the state of an action. A
  call that is made along the way is noted there, together
  with its answer. The record changes nothing about what the
  action does, so that what an action has been told, and what
  it makes of it, can be stated for whatever state it acts on.

  Key definitions include:
    * `Action.noting`, `Action.aside`, `Action.recording`
    * `Action.Tracks`, `Action.Records`, `Action.Silent`
    * `Action.notesEach`
    * `Action.Serves`
    * `CallNotes`
    * `FlowEngine.recorded`, `DeviceDirectory.recorded`
    * `ImportDirectory.recorded`, `TokenIssuer.recorded`
    * `Note`, `Note.fault?`, `Note.calls`

  Key theorems include:
    * `Action.Tracks.bind`, `Action.Tracks.bind_attempt`
    * `Action.Records.bind`, `Action.Records.bind_attempt`
    * `Action.Records.bind_silent`, `Action.Records.bind_attempt_noting`
    * `Action.Records.run`
    * `Action.Records.forEach_run`
-/

namespace ProcessEvents

variable {σ ε ε' ν α β : Type}

------------------------------------------------------------
-- Actions with a record
------------------------------------------------------------

namespace Action

/- The action, with a note of how it has ended. -/
def noting
    (note : Except ε α → ν)
    (a : Action σ ε α) : Action (σ × List ν) ε α :=
  fun s => ((a s.1).1, (a s.1).2, s.2 ++ [note (a s.1).1])

/- The action beside a record that it leaves alone. -/
def aside
    (a : Action σ ε α) : Action (σ × List ν) ε α :=
  fun s => ((a s.1).1, (a s.1).2, s.2)

/- The action beside a record, with a note if one is taken of it. -/
def recording
    (note : Option (Except ε α → ν))
    (a : Action σ ε α) : Action (σ × List ν) ε α :=
  note.elim a.aside fun note => a.noting note

/-
  From a state, the second action does what the first one
  does. The notes that it adds to the record are related to
  its result and to the state that it has reached.
-/
def Tracks
    (s : σ)
    (a : Action σ ε α)
    (b : Action (σ × List ν) ε α)
    (Q : Except ε α → σ → List ν → Prop) : Prop :=
  ∃ notes,
    (∀ record, b (s, record) = ((a s).1, (a s).2, record ++ notes)) ∧
      Q (a s).1 (a s).2 notes

/-
  The second action does what the first one does. The notes
  that it adds to the record are related to its result.
-/
def Records
    (a : Action σ ε α)
    (b : Action (σ × List ν) ε α)
    (Q : Except ε α → List ν → Prop) : Prop :=
  ∀ s, ∃ notes,
    (∀ record, b (s, record) = ((a s).1, (a s).2, record ++ notes)) ∧
      Q (a s).1 notes

/- Nothing is noted. -/
def Silent
    (_ : Except ε α)
    (notes : List ν) : Prop :=
  notes = []

/- What an action notes when it starts with an empty record. -/
def notesOf
    (b : Action (σ × List ν) ε α)
    (s : σ) : List ν :=
  (b (s, [])).2.2

/-
  What is noted of each element of a list, from one to the
  next, up to the first that fails.
-/
def notesEach
    (g : α → Action (σ × List ν) ε Unit) : List α → σ → List (List ν)
  | [], _ => []
  | x :: rest, s =>
    match g x (s, []) with
    | (.ok _, s', notes) => notes :: notesEach g rest s'
    | (.error _, _, notes) => [notes]

/-
  How the elements of a list have been served, each with its
  notes: all of them, or those up to the first that has
  failed.
-/
inductive Serves
    (Q : α → Except ε Unit → List ν → Prop) :
    List α → Except ε Unit → List (List ν) → Prop where
  | nil : Serves Q [] (.ok ()) []
  | served
      {x : α} {l : List α} {r : Except ε Unit} {notes : List ν}
      {parts : List (List ν)}
      (hHead : Q x (.ok ()) notes)
      (hTail : Serves Q l r parts) :
      Serves Q (x :: l) r (notes :: parts)
  | failed
      {x : α} {l : List α} {e : ε} {notes : List ν}
      (hHead : Q x (.error e) notes) :
      Serves Q (x :: l) (.error e) [notes]

namespace Serves

variable {Q : α → Except ε Unit → List ν → Prop}
  {l : List α} {parts : List (List ν)}

/- In the end, every element has been served. -/
theorem forall₂_of_ok
    {r : Except ε Unit}
    (hServes : Serves Q l r parts)
    (hResult : r = .ok ()) :
    List.Forall₂ (fun x notes => Q x (.ok ()) notes) l parts := by
  induction hServes with
  | nil => exact .nil
  | served hHead _ ih => exact .cons hHead (ih hResult)
  | failed _ => cases hResult

/- Otherwise, those in front of the one that has failed. -/
theorem split_of_error
    {r : Except ε Unit} {e : ε}
    (hServes : Serves Q l r parts)
    (hResult : r = .error e) :
    ∃ before x after served last,
      l = before ++ x :: after ∧
        parts = served ++ [last] ∧
        List.Forall₂ (fun x notes => Q x (.ok ()) notes) before served ∧
        Q x (.error e) last := by
  induction hServes with
  | nil => cases hResult
  | @served x l r notes parts hHead _ ih =>
      rcases ih hResult with
        ⟨before, y, after, served, last, rfl, rfl, hBefore, hLast⟩
      exact ⟨x :: before, y, after, notes :: served, last, rfl, rfl,
        .cons hHead hBefore, hLast⟩
  | @failed x l e' notes hHead =>
      cases hResult
      exact ⟨[], x, l, [], notes, rfl, rfl, .nil, hHead⟩

/- What holds of the notes of each element holds of all notes. -/
theorem forall_notes
    {r : Except ε Unit} {p : Except ε Unit → ν → Prop}
    (hServes : Serves Q l r parts)
    (hEach : ∀ x r notes, Q x r notes → ∀ note ∈ notes, p r note)
    (hOk : ∀ r note, p (.ok ()) note → p r note) :
    ∀ note ∈ parts.flatten, p r note := by
  induction hServes with
  | nil => exact nofun
  | served hHead _ ih =>
      rw [List.flatten_cons, List.forall_mem_append]
      exact ⟨fun note hMem => hOk _ note (hEach _ _ _ hHead note hMem), ih⟩
  | failed hHead =>
      rw [List.flatten_cons, List.flatten_nil, List.append_nil]
      exact hEach _ _ _ hHead

end Serves

namespace Tracks

variable
    {s : σ} {a : Action σ ε α} {b : Action (σ × List ν) ε α}
    {P Q : Except ε α → σ → List ν → Prop}

/- An action that leaves the record alone notes nothing. -/
theorem quiet
    (hRun : ∀ record, b (s, record) = ((a s).1, (a s).2, record))
    (hEnd : Q (a s).1 (a s).2 []) :
    Tracks s a b Q := by
  refine ⟨[], fun record => ?_, hEnd⟩
  rw [List.append_nil, hRun]

theorem mono
    (hAction : Tracks s a b P)
    (hEnd : ∀ r s' notes, P r s' notes → Q r s' notes) :
    Tracks s a b Q := by
  rcases hAction with ⟨notes, hRun, hNotes⟩
  exact ⟨notes, hRun, hEnd _ _ _ hNotes⟩

theorem mapError
    {f : ε → ε'} {Q : Except ε' α → σ → List ν → Prop}
    (hAction : Tracks s a b P)
    (hEnd : ∀ r s' notes, P r s' notes → Q (r.mapError f) s' notes) :
    Tracks s (a.mapError f) (b.mapError f) Q := by
  rcases hAction with ⟨notes, hRun, hNotes⟩
  refine ⟨notes, fun record => ?_, hEnd _ _ _ hNotes⟩
  rw [Action.mapError, hRun]
  rfl

/- The notes of what comes next are added behind the first ones. -/
theorem bind
    {f : α → Action σ ε β} {g : α → Action (σ × List ν) ε β}
    {Q : Except ε β → σ → List ν → Prop}
    (hFirst : Tracks s a b P)
    (hError : ∀ e s' notes, P (.error e) s' notes → Q (.error e) s' notes)
    (hThen :
      ∀ x s' notes, P (.ok x) s' notes →
        Tracks s' (f x) (g x) fun r s'' more => Q r s'' (notes ++ more)) :
    Tracks s (a >>= f) (b >>= g) Q := by
  rcases hFirst with ⟨notes, hRun, hNotes⟩
  rcases hPlain : a s with ⟨e | x, s'⟩
  · rw [hPlain] at hRun hNotes
    refine ⟨notes, fun record => ?_, ?_⟩
    · rw [bind_of_error (hRun record), bind_of_error hPlain]
    · rw [bind_of_error hPlain]
      exact hError e s' notes hNotes
  · rw [hPlain] at hRun hNotes
    rcases hThen x s' notes hNotes with ⟨more, hRunThen, hMore⟩
    refine ⟨notes ++ more, fun record => ?_, ?_⟩
    · rw [bind_of_ok (hRun record), bind_of_ok hPlain,
        hRunThen, List.append_assoc]
    · rw [bind_of_ok hPlain]
      exact hMore

/- The answer of an attempt is known, whether or not it is a failure. -/
theorem bind_attempt
    {k : Except ε α → Action σ ε' β}
    {k' : Except ε α → Action (σ × List ν) ε' β}
    {Q : Except ε' β → σ → List ν → Prop}
    (hAction : Tracks s a b P)
    (hThen :
      ∀ answer s' notes, P answer s' notes →
        Tracks s' (k answer) (k' answer) fun r s'' more =>
          Q r s'' (notes ++ more)) :
    Tracks s (a.attempt >>= k) (b.attempt >>= k') Q := by
  have hAttempt :
      Tracks s (a.attempt : Action σ ε' _) b.attempt
        fun r s' notes => ∃ answer, r = .ok answer ∧ P answer s' notes := by
    rcases hAction with ⟨notes, hRun, hNotes⟩
    refine ⟨notes, fun record => ?_, _, rfl, hNotes⟩
    rw [attempt_apply, hRun]
    rfl
  apply bind hAttempt
  · rintro e s' notes ⟨_, hAnswer, -⟩
    cases hAnswer
  · rintro x s' notes ⟨answer, hAnswer, hNotes⟩
    cases hAnswer
    exact hThen x s' notes hNotes

/- What follows a known result adds its notes to none. -/
theorem bind_ofExcept
    {r : Except ε α} {f : α → Action σ ε β} {g : α → Action (σ × List ν) ε β}
    {Q : Except ε β → σ → List ν → Prop}
    (hError : ∀ e, r = .error e → Q (.error e) s [])
    (hOk : ∀ x, r = .ok x → Tracks s (f x) (g x) Q) :
    Tracks s (Action.ofExcept r >>= f) (Action.ofExcept r >>= g) Q := by
  cases r with
  | error e => exact quiet (fun _ => rfl) (hError e rfl)
  | ok x => exact hOk x rfl

/- What is read does not depend on the record. -/
theorem bind_read
    {f : σ → α} {k : α → Action σ ε β} {k' : α → Action (σ × List ν) ε β}
    {Q : Except ε β → σ → List ν → Prop}
    (hThen : Tracks s (k (f s)) (k' (f s)) Q) :
    Tracks s (Action.read f >>= k) (Action.read (fun t => f t.1) >>= k') Q :=
  hThen

end Tracks

namespace Records

variable
    {a : Action σ ε α} {b : Action (σ × List ν) ε α}
    {P Q : Except ε α → List ν → Prop}

theorem tracks
    (hAction : Records a b Q)
    (s : σ) :
    Tracks s a b fun r _ => Q r :=
  hAction s

theorem of_tracks
    (hAction : ∀ s, Tracks s a b fun r _ => Q r) :
    Records a b Q :=
  hAction

theorem pure
    {x : α}
    (hEnd : Q (.ok x) []) :
    Records (Pure.pure x : Action σ ε α) (Pure.pure x) Q :=
  of_tracks fun _ => Tracks.quiet (fun _ => rfl) hEnd

theorem fail
    {e : ε}
    (hEnd : Q (.error e) []) :
    Records (Action.fail e : Action σ ε α) (Action.fail e) Q :=
  of_tracks fun _ => Tracks.quiet (fun _ => rfl) hEnd

theorem noting
    {note : Except ε α → ν}
    (hEnd : ∀ r, Q r [note r]) :
    Records a (a.noting note) Q :=
  fun s => ⟨[note (a s).1], fun _ => rfl, hEnd _⟩

theorem aside : Records a (a.aside : Action (σ × List ν) ε α) Silent :=
  of_tracks fun _ => Tracks.quiet (fun _ => rfl) rfl

theorem mono
    (hAction : Records a b P)
    (hEnd : ∀ r notes, P r notes → Q r notes) :
    Records a b Q :=
  of_tracks fun s => (hAction.tracks s).mono fun r _ => hEnd r

theorem mapError
    {f : ε → ε'} {Q : Except ε' α → List ν → Prop}
    (hAction : Records a b P)
    (hEnd : ∀ r notes, P r notes → Q (r.mapError f) notes) :
    Records (a.mapError f) (b.mapError f) Q :=
  of_tracks fun s => (hAction.tracks s).mapError fun r _ => hEnd r

/- The notes of what comes next are added behind the first ones. -/
theorem bind
    {f : α → Action σ ε β} {g : α → Action (σ × List ν) ε β}
    {R : α → Except ε β → List ν → Prop} {Q : Except ε β → List ν → Prop}
    (hFirst : Records a b P)
    (hThen : ∀ x, Records (f x) (g x) (R x))
    (hError : ∀ e notes, P (.error e) notes → Q (.error e) notes)
    (hOk : ∀ x r notes more, P (.ok x) notes →
      R x r more → Q r (notes ++ more)) :
    Records (a >>= f) (b >>= g) Q := by
  apply of_tracks
  intro s
  apply (hFirst.tracks s).bind fun e _ => hError e
  intro x s' notes hNotes
  exact ((hThen x).tracks s').mono fun r _ more => hOk x r notes more hNotes

/- The answer of an attempt is known, whether or not it is a failure. -/
theorem bind_attempt
    {k : Except ε α → Action σ ε' β}
    {k' : Except ε α → Action (σ × List ν) ε' β}
    {R : Except ε α → Except ε' β → List ν → Prop}
    {Q : Except ε' β → List ν → Prop}
    (hAction : Records a b P)
    (hThen : ∀ answer, Records (k answer) (k' answer) (R answer))
    (hEnd : ∀ answer r notes more, P answer notes →
      R answer r more → Q r (notes ++ more)) :
    Records (a.attempt >>= k) (b.attempt >>= k') Q := by
  apply of_tracks
  intro s
  apply (hAction.tracks s).bind_attempt
  intro answer s' notes hNotes
  exact ((hThen answer).tracks s').mono fun r _ more =>
    hEnd answer r notes more hNotes

/- What comes after silence has all the notes. -/
theorem bind_silent
    {f : α → Action σ ε β} {g : α → Action (σ × List ν) ε β}
    {Q : Except ε β → List ν → Prop}
    (hFirst : Records a b Silent)
    (hThen : ∀ x, Records (f x) (g x) Q)
    (hError : ∀ e, Q (.error e) []) :
    Records (a >>= f) (b >>= g) Q := by
  apply bind hFirst hThen
  · rintro e notes rfl
    exact hError e
  · rintro x r notes more rfl hMore
    exact hMore

/-
  What comes after an attempt that is noted has the answer in
  front of its notes.
-/
theorem bind_attempt_noting
    {k : Except ε α → Action σ ε' β}
    {k' : Except ε α → Action (σ × List ν) ε' β}
    {note : Except ε α → ν} {Q : Except ε' β → List ν → Prop}
    (IsAnswer : Except ε α → Prop)
    (hAnswer : ∀ s, IsAnswer (a s).1)
    (hThen :
      ∀ answer, IsAnswer answer →
        Records (k answer) (k' answer) fun r more =>
          Q r (note answer :: more)) :
    Records (a.attempt >>= k) ((a.noting note).attempt >>= k') Q := by
  apply of_tracks
  intro s
  have hNoting :
      Tracks s a (a.noting note) fun answer _ notes => IsAnswer answer ∧
        notes = [note answer] :=
    ⟨_, fun _ => rfl, hAnswer s, rfl⟩
  apply hNoting.bind_attempt
  rintro answer s' notes ⟨hIs, rfl⟩
  exact (hThen answer hIs).tracks s'

theorem map
    {f : α → β} {Q : Except ε β → List ν → Prop}
    (hAction : Records a b P)
    (hEnd : ∀ r notes, P r notes → Q (r.map f) notes) :
    Records (f <$> a) (f <$> b) Q := by
  rw [map_eq_pure_bind, map_eq_pure_bind]
  apply bind (R := fun x r notes => r = .ok (f x) ∧ notes = []) hAction
  · intro x
    exact pure ⟨rfl, rfl⟩
  · exact fun e notes hNotes => hEnd _ _ hNotes
  · rintro x r notes more hNotes ⟨rfl, rfl⟩
    rw [List.append_nil]
    exact hEnd _ _ hNotes

/- What follows a known result adds its notes to none. -/
theorem bind_ofExcept
    {r : Except ε α} {f : α → Action σ ε β} {g : α → Action (σ × List ν) ε β}
    {Q : Except ε β → List ν → Prop}
    (hError : ∀ e, r = .error e → Q (.error e) [])
    (hOk : ∀ x, r = .ok x → Records (f x) (g x) Q) :
    Records (Action.ofExcept r >>= f) (Action.ofExcept r >>= g) Q :=
  of_tracks fun s =>
    Tracks.bind_ofExcept hError fun x hResult => (hOk x hResult).tracks s

theorem map_silent
    {f : α → β}
    (hAction : Records a b Silent) :
    Records (f <$> a) (f <$> b) Silent :=
  hAction.map fun _ _ hNotes => hNotes

theorem mapError_silent
    {f : ε → ε'}
    (hAction : Records a b Silent) :
    Records (a.mapError f) (b.mapError f) Silent :=
  hAction.mapError fun _ _ hNotes => hNotes

/- What is done for each element of a list is silent if each part of it is. -/
theorem forEach_silent
    {f : α → Action σ ε Unit} {g : α → Action (σ × List ν) ε Unit}
    (hEach : ∀ x, Records (f x) (g x) Silent)
    (l : List α) :
    Records (forEach f l) (forEach g l) Silent := by
  induction l with
  | nil => exact pure rfl
  | cons x l ih => exact bind_silent (hEach x) (fun _ => ih) fun _ => rfl

/- An action with a record does what it does without one. -/
theorem run
    (hAction : Records a b Q)
    (s : σ) (record : List ν) :
    b (s, record) = ((a s).1, (a s).2, record ++ notesOf b s) ∧
      Q (a s).1 (notesOf b s) := by
  rcases hAction s with ⟨notes, hRun, hNotes⟩
  have hNoted : notesOf b s = notes := by
    rw [notesOf, hRun, List.nil_append]
  rw [hNoted]
  exact ⟨hRun record, hNotes⟩

/- The notes are the same for all that is shown of them. -/
theorem and
    (hP : Records a b P)
    (hQ : Records a b Q) :
    Records a b fun r notes => P r notes ∧ Q r notes :=
  fun s => ⟨notesOf b s,
    fun record => (hP.run s record).1, (hP.run s []).2, (hQ.run s []).2⟩

/- The notes of a list are those of its elements, one after the other. -/
theorem forEach_run
    {f : α → Action σ ε Unit} {g : α → Action (σ × List ν) ε Unit}
    {Q : α → Except ε Unit → List ν → Prop}
    (hEach : ∀ x, Records (f x) (g x) (Q x))
    (l : List α) (s : σ) (record : List ν) :
    forEach g l (s, record) =
        ((forEach f l s).1, (forEach f l s).2,
          record ++ (notesEach g l s).flatten) ∧
      Serves Q l (forEach f l s).1 (notesEach g l s) := by
  induction l generalizing s record with
  | nil =>
      refine ⟨?_, .nil⟩
      rw [notesEach, List.flatten_nil, List.append_nil]
      rfl
  | cons x l ih =>
      rcases hEach x s with ⟨notes, hRun, hNotes⟩
      have hEmpty := hRun []
      have hRecord := hRun record
      change (g x >>= fun _ => forEach g l) (s, record) =
          (((f x >>= fun _ => forEach f l) s).1,
            ((f x >>= fun _ => forEach f l) s).2, _) ∧
        Serves Q (x :: l) ((f x >>= fun _ => forEach f l) s).1 _
      rcases hPlain : f x s with ⟨e | _, s'⟩
      · rw [hPlain] at hEmpty hRecord hNotes
        have hParts : notesEach g (x :: l) s = [notes] := by
          rw [notesEach, hEmpty]
          rfl
        rw [bind_of_error hPlain, bind_of_error hRecord, hParts]
        refine ⟨?_, .failed hNotes⟩
        rw [List.flatten_cons, List.flatten_nil, List.append_nil]
      · rw [hPlain] at hEmpty hRecord hNotes
        have hParts : notesEach g (x :: l) s = notes :: notesEach g l s' := by
          rw [notesEach, hEmpty]
          rfl
        rcases ih s' (record ++ notes) with ⟨hTail, hServes⟩
        rw [bind_of_ok hPlain, bind_of_ok hRecord, hParts]
        refine ⟨?_, .served hNotes hServes⟩
        rw [hTail, List.flatten_cons, List.append_assoc]

end Records

end Action

------------------------------------------------------------
-- Collaborators with a record
------------------------------------------------------------

/-
  What is noted of the calls of collaborators, by what they
  ask for and by their answers. Of most calls it is nothing.
-/
structure CallNotes (ν : Type) where
  ofGroup : Option (String → Except RequestError DeviceInfos → ν) := none
  ofDevices :
    Option (List String → Except RequestError DeviceInfos → ν) := none
  selectables :
    Option
      (List DeviceTypeCriteria →
        Except RequestError (List DeviceTypeSelectable) → ν) := none
  function :
    Option (String → Except RequestError MeasuringFunction → ν) := none
  concept : Option (String → Except RequestError Concept → ν) := none
  service : Option (String → Except RequestError Service → ν) := none
  importInstance :
    Option (String → String → Except RequestError Import → ν) := none
  importType :
    Option (String → String → Except RequestError ImportType → ν) := none
  adminToken : Option (Except AuthError BearerToken → ν) := none
  userToken : Option (String → Except AuthError BearerToken → ν) := none
  flowInputs :
    Option
      (String → String → Except RequestError (List FlowCell) → ν) := none
  create :
    Option
      (BearerToken → String → PipelineRequest →
        Except RequestError Pipeline → ν) := none
  update :
    Option
      (BearerToken → String → PipelineRequest →
        Except RequestError Pipeline → ν) := none
  remove : Option (String → String → Except RequestError Unit → ν) := none
  list : Option (String → Except RequestError (List Pipeline) → ν) := none

def DeviceDirectory.recorded
    (notes : CallNotes ν)
    (devices : DeviceDirectory σ) : DeviceDirectory (σ × List ν) where
  ofGroup id := (devices.ofGroup id).recording (notes.ofGroup.map (· id))
  ofDevices ids :=
    (devices.ofDevices ids).recording (notes.ofDevices.map (· ids))
  selectables query :=
    (devices.selectables query).recording (notes.selectables.map (· query))
  function id := (devices.function id).recording (notes.function.map (· id))
  concept id := (devices.concept id).recording (notes.concept.map (· id))
  service id := (devices.service id).recording (notes.service.map (· id))

def ImportDirectory.recorded
    (notes : CallNotes ν)
    (imports : ImportDirectory σ) : ImportDirectory (σ × List ν) where
  importInstance userId id :=
    (imports.importInstance userId id).recording
      (notes.importInstance.map (· userId id))
  importType userId id :=
    (imports.importType userId id).recording
      (notes.importType.map (· userId id))

def TokenIssuer.recorded
    (notes : CallNotes ν)
    (tokens : TokenIssuer σ) : TokenIssuer (σ × List ν) where
  adminToken := tokens.adminToken.recording notes.adminToken
  userToken userId :=
    (tokens.userToken userId).recording (notes.userToken.map (· userId))

def FlowEngine.recorded
    (notes : CallNotes ν)
    (engine : FlowEngine σ) : FlowEngine (σ × List ν) where
  flowInputs userId flowId :=
    (engine.flowInputs userId flowId).recording
      (notes.flowInputs.map (· userId flowId))
  create token userId request :=
    (engine.create token userId request).recording
      (notes.create.map (· token userId request))
  update token userId request :=
    (engine.update token userId request).recording
      (notes.update.map (· token userId request))
  remove userId id :=
    (engine.remove userId id).recording (notes.remove.map (· userId id))
  list userId := (engine.list userId).recording (notes.list.map (· userId))

/- Counting is not noted. -/
def Counters.recorded
    (counters : Counters σ) : Counters (σ × List ν) where
  add c n s := (counters.add c n s.1, s.2)

theorem Counters.count_records
    (counters : Counters σ)
    (c : Counter) (n : Nat)
    {Q : Except ε Unit → List ν → Prop}
    (hEnd : Q (.ok ()) []) :
    Action.Records (counters.count c n) (counters.recorded.count c n) Q := by
  intro s
  refine ⟨[], fun record => ?_, hEnd⟩
  rw [List.append_nil]
  rfl

------------------------------------------------------------
-- Notes
------------------------------------------------------------

/- The error that a call has ended in. -/
def faultOf? : Except ε α → Option ε
  | .error e => some e
  | .ok _ => none

/-
  A call of a collaborator with its answer, as far as it
  matters what has been asked for and what has been answered.
-/
inductive Note where
  /- The lookup of a flow's operators. -/
  | flow (userId flowId : String) (answer : Except RequestError (List FlowCell))
  /- A lookup of the devices of a source, or of their services. -/
  | expansion (fault : Option RequestError)
  /- A lookup of a function, or of its concept. -/
  | conversion (fault : Option RequestError)
  | creation
      (owner : String)
      (token : BearerToken)
      (request : PipelineRequest)
      (fault : Option RequestError)
  | token (fault : Option AuthError)
  | other (fault : Option RequestError)

namespace Note

/- The failure that a call has ended in. -/
def fault? : Note → Option DeployError
  | .flow _ _ answer => (faultOf? answer).map .request
  | .expansion fault => fault.map .request
  | .conversion fault => fault.map .request
  | .creation _ _ _ fault => fault.map .request
  | .token fault => fault.map .auth
  | .other fault => fault.map .request

/- Of every call a note is taken. -/
def calls : CallNotes Note where
  ofGroup := some fun _ answer => .expansion (faultOf? answer)
  ofDevices := some fun _ answer => .expansion (faultOf? answer)
  selectables := some fun _ answer => .expansion (faultOf? answer)
  function := some fun _ answer => .conversion (faultOf? answer)
  concept := some fun _ answer => .conversion (faultOf? answer)
  service := some fun _ answer => .other (faultOf? answer)
  importInstance := some fun _ _ answer => .other (faultOf? answer)
  importType := some fun _ _ answer => .other (faultOf? answer)
  adminToken := some fun answer => .token (faultOf? answer)
  userToken := some fun _ answer => .token (faultOf? answer)
  flowInputs := some .flow
  create := some fun token userId request answer =>
    .creation userId token request (faultOf? answer)
  update := some fun _ _ _ answer => .other (faultOf? answer)
  remove := some fun _ _ answer => .other (faultOf? answer)
  list := some fun _ answer => .other (faultOf? answer)

end Note

end ProcessEvents
