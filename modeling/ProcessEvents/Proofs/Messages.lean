import ProcessEvents.Proofs.FanOut

/-
  Most messages order nothing. This file shows which do, what
  is called for them, and which messages are never done with:
  those that end in an error are delivered again, until they
  end well.

  Key definitions include:
    * `Fields.Begins`
    * `DeploymentCommand.header`
    * `CommandTopic.IsUnknown`
    * `Dispatcher.Handled`

  Key theorems include:
    * `CommandHeader.eq_header`
    * `Dispatcher.handle_of_outdated`
    * `Dispatcher.handle_of_unknown`
    * `Dispatcher.handle_of_idle`
    * `Dispatcher.handle_records`
    * `Dispatcher.handle_obeys`
-/

namespace ProcessEvents

variable {σ α β γ δ : Type}

open ProcessEvents.Action (Records)

------------------------------------------------------------
-- Shared fields
------------------------------------------------------------

/-
  What is read of the first group of fields is the beginning
  of what is read of the second one.
-/
structure Fields.Begins
    (f : Fields α)
    (g : Fields β)
    (beginning : β → α) : Prop where
  ofMembers :
    ∀ find y, g.ofMembers find = some y → f.ofMembers find = some (beginning y)
  ofItems :
    ∀ items y rest,
      g.ofItems items = some (y, rest) →
        ∃ more, f.ofItems items = some (beginning y, more)

namespace Fields.Begins

theorem first
    (f : Fields α)
    (g : Fields β) :
    f.Begins (f.pair g) Prod.fst where
  ofMembers find p hRead := (ofMembers_pair.mp hRead).1
  ofItems items p rest hRead := by
    rcases ofItems_pair.mp hRead with ⟨more, hFirst, -⟩
    exact ⟨more, hFirst⟩

theorem pair
    {g : Fields β} {h : Fields γ} {beginning : γ → β}
    (f : Fields α)
    (hBegins : g.Begins h beginning) :
    (f.pair g).Begins (f.pair h) fun p => (p.1, beginning p.2) where
  ofMembers find p hRead := by
    rcases ofMembers_pair.mp hRead with ⟨hFirst, hSecond⟩
    exact ofMembers_pair.mpr ⟨hFirst, hBegins.ofMembers find p.2 hSecond⟩
  ofItems items p rest hRead := by
    rcases ofItems_pair.mp hRead with ⟨middle, hFirst, hSecond⟩
    rcases hBegins.ofItems middle p.2 rest hSecond with ⟨more, hMore⟩
    exact ⟨more, ofItems_pair.mpr ⟨middle, hFirst, hMore⟩⟩

/- Two records of the same value have the shared fields in common. -/
theorem of_records
    {f : Fields α} {g : Fields β} {beginning : β → α}
    {makeFirst : α → γ} {ofFirst : γ → α} {make : β → δ} {of : δ → β}
    {j : Json} {x : γ} {y : δ}
    (hBegins : f.Begins g beginning)
    (hFirst : (Codec.record f makeFirst ofFirst).decode j = some x)
    (hSecond : (Codec.record g make of).decode j = some y) :
    ∃ q, make q = y ∧ makeFirst (beginning q) = x := by
  cases j with
  | obj members =>
      simp only [Codec.record, Option.ite_none_left_eq_some,
        Option.map_eq_some_iff]
        at hFirst hSecond
      rcases hFirst with ⟨-, p, hRead, rfl⟩
      rcases hSecond with ⟨-, q, hReadAll, rfl⟩
      rw [hBegins.ofMembers _ q hReadAll] at hRead
      cases hRead
      exact ⟨q, rfl, rfl⟩
  | arr items =>
      simp only [Codec.record] at hFirst hSecond
      split at hFirst
      · rename_i p hRead
        split at hSecond
        · rename_i q hReadAll
          rcases hBegins.ofItems items q [] hReadAll with ⟨more, hMore⟩
          rw [hRead] at hMore
          cases hMore
          cases hFirst
          cases hSecond
          exact ⟨q, rfl, rfl⟩
        · cases hSecond
      · cases hFirst
  | null | bool b | int n | double x | str s | unreadable => cases hFirst

end Fields.Begins

/- The part of a command that all versions share. -/
def DeploymentCommand.header
    (c : DeploymentCommand) : CommandHeader where
  command := c.command
  id := c.id
  version := c.version
  owner := c.owner

/- The header of a message is that of its command. -/
theorem CommandHeader.eq_header
    {message : Json} {header : CommandHeader} {c : DeploymentCommand}
    (hHeader : CommandHeader.codec.decode message = some header)
    (hDecode : DeploymentCommand.codec.decode message = some c) :
    header = c.header := by
  have hBegins :=
    Fields.Begins.pair (.text "command") <|
      Fields.Begins.pair (.text "id") <|
        Fields.Begins.pair (.field "version" .int64 0) <|
          Fields.Begins.first (.text "owner")
            (.optional "deployment" Deployment.codec)
  rcases hBegins.of_records hHeader hDecode with ⟨q, rfl, rfl⟩
  rfl

------------------------------------------------------------
-- Unknown commands
------------------------------------------------------------

/- A message has a command that there is no rule for. -/
inductive CommandTopic.IsUnknown (message : Json) : CommandTopic → String → Prop
  | deployment {c : DeploymentCommand}
      (hCurrent : c.IsCurrent message)
      (hRights : c.command ≠ Verb.rights)
      (hPut : c.command ≠ Verb.put)
      (hDelete : c.command ≠ Verb.delete) :
      IsUnknown message .deployment c.command
  | deviceGroup {c : DeviceGroupCommand}
      (hDecode : DeviceGroupCommand.codec.decode message = some c)
      (hRights : c.command ≠ Verb.rights)
      (hPut : c.command ≠ Verb.put)
      (hDelete : c.command ≠ Verb.delete) :
      IsUnknown message .deviceGroup c.command

variable {message : Json} {topic : CommandTopic}
  {op : Operation} {verb : String}

/- There is a rule for what a message orders. -/
theorem Operation.IsOrderedBy.not_isUnknown
    (hOrdered : op.IsOrderedBy message topic) :
    ¬ topic.IsUnknown message verb := by
  intro hUnknown
  cases hUnknown with
  | deviceGroup hDecode hRights hPut hDelete =>
      cases hOrdered with
      | update hDecode' hVerb =>
          rw [hDecode] at hDecode'
          cases hDecode'
          exact hPut hVerb
  | deployment hCurrent hRights hPut hDelete =>
      rcases hCurrent.header with ⟨header, hHeader, hVersion⟩
      cases hOrdered with
      | task hTask =>
          cases hTask with
          | put hHeader' hVersion' hDecode hVerb hOwner hDeployment =>
              rw [hCurrent.decode] at hDecode
              cases hDecode
              exact hPut hVerb
          | delete hHeader' hVersion' hDecode hVerb hOwner =>
              rw [hCurrent.decode] at hDecode
              cases hDecode
              exact hDelete hVerb
          | outdated hHeader' hVersion' hVerb =>
              rw [hHeader] at hHeader'
              cases hHeader'
              exact hVersion' hVersion

theorem CommandTopic.IsUnknown.unique
    {verb' : String}
    (hUnknown : topic.IsUnknown message verb)
    (hUnknown' : topic.IsUnknown message verb') :
    verb = verb' := by
  cases hUnknown with
  | deployment hCurrent _ _ _ =>
      cases hUnknown' with
      | deployment hCurrent' _ _ _ =>
          have hDecode := hCurrent'.decode
          rw [hCurrent.decode] at hDecode
          cases hDecode
          rfl
  | deviceGroup hDecode _ _ _ =>
      cases hUnknown' with
      | deviceGroup hDecode' _ _ _ =>
          rw [hDecode] at hDecode'
          cases hDecode'
          rfl

/- A call that is made for an operation with the outcome. -/
inductive Call.IsFor (op : Operation) (outcome : Except DeployError Unit) :
  Call → Prop
  | served (position : Nat) :
      IsFor op outcome (.handler position op (.ok ()))
  | failed (position : Nat) {e : DeployError}
      (hOutcome : outcome = .error e) :
      IsFor op outcome (.handler position op (.error e))
  | announcement (key : String) (notification : DoneNotification)
      (r : Except DeployError Unit) :
      IsFor op outcome (.announcement key notification r)

------------------------------------------------------------
-- What a message leads to
------------------------------------------------------------

namespace Dispatcher

variable {d : Dispatcher σ}

/- Removals of other versions are carried out for any user. -/
theorem handle_of_outdated
    (d : Dispatcher σ)
    (hOrdered : op.IsOrderedBy message topic)
    (hOutdated : topic.IsOutdated message) :
    d.handle topic message = d.carryOut op := by
  cases hOutdated with
  | @deployment header hHeader hVersion =>
      cases hOrdered with
      | task hTask =>
          cases hTask with
          | put hHeader' hVersion' hDecode hVerb hOwner hDeployment =>
              rw [hHeader] at hHeader'
              cases hHeader'
              exact absurd hVersion' hVersion
          | delete hHeader' hVersion' hDecode hVerb hOwner =>
              rw [hHeader] at hHeader'
              cases hHeader'
              exact absurd hVersion' hVersion
          | outdated hHeader' hVersion' hVerb =>
              rw [handle, handleDeploymentCommand, hHeader']
              dsimp only
              rw [if_neg hVersion', if_pos hVerb]
              rfl

theorem handle_of_unknown
    (d : Dispatcher σ)
    (hUnknown : topic.IsUnknown message verb) :
    d.handle topic message = .fail (.unknownCommand verb) := by
  cases hUnknown with
  | deployment hCurrent hRights hPut hDelete =>
      rw [handle, d.handleDeploymentCommand_of_isCurrent hCurrent, runCommand,
        if_neg hRights, if_neg hPut, if_neg hDelete]
  | deviceGroup hDecode hRights hPut hDelete =>
      rw [handle, handleGroupCommand, hDecode]
      dsimp only
      rw [if_neg hRights, if_neg hPut, if_neg hDelete]

/- A message that orders nothing, for all that is known, is dropped. -/
theorem handle_of_idle
    (d : Dispatcher σ)
    (hIdle : ∀ op : Operation, ¬ op.IsOrderedBy message topic)
    (hKnown : ∀ verb, ¬ topic.IsUnknown message verb) :
    d.handle topic message = pure () := by
  cases topic with
  | deviceGroup =>
      rw [handle, handleGroupCommand]
      split
      · rfl
      · rename_i c hDecode
        split
        · rfl
        · rename_i hRights
          rw [if_neg fun hPut => hIdle _ (.update hDecode hPut)]
          split
          · rfl
          · rename_i hDelete
            have hPut : c.command ≠ Verb.put :=
              fun hPut => hIdle _ (.update hDecode hPut)
            exact absurd (.deviceGroup hDecode hRights hPut hDelete) (hKnown _)
  | deployment =>
      rw [handle, handleDeploymentCommand]
      split
      · rfl
      · rename_i header hHeader
        split
        · rename_i hVersion
          split
          · rfl
          · rename_i c hDecode
            rw [runCommand]
            split
            · rfl
            · rename_i hRights
              split
              · rename_i hPut
                split
                · rename_i deployment hOwner hDeployment
                  have hTask :=
                    DeploymentTask.IsOrderedBy.put hHeader hVersion hDecode hPut
                    (ne_of_beq_false hOwner) hDeployment
                  exact absurd (.task hTask) (hIdle _)
                · rfl
              · rename_i hPut
                split
                · rename_i hDelete
                  by_cases hOwner : c.owner = ""
                  · rw [hOwner]
                    rfl
                  · have hTask :=
                      DeploymentTask.IsOrderedBy.delete
                        hHeader hVersion hDecode hDelete hOwner
                    exact absurd (.task hTask) (hIdle _)
                · rename_i hDelete
                  have hCurrent : c.IsCurrent message :=
                    ⟨⟨header, hHeader, hVersion⟩, hDecode⟩
                  exact absurd (.deployment hCurrent hRights hPut hDelete)
                    (hKnown _)
        · rename_i hVersion
          rw [if_neg fun hDelete =>
            hIdle _ (.task (.outdated hHeader hVersion hDelete))]

/-
  How a message may end, and whom is called for it. Only for
  those of the current version, a missing user is no failure.
-/
inductive Handled (d : Dispatcher σ) (topic : CommandTopic) (message : Json) :
    Except DeployError Unit → List Call → Prop
  | current {op : Operation} {outcome : Except DeployError Unit}
      {calls : List Call}
      (hOrdered : op.IsOrderedBy message topic)
      (hCurrent : ¬ topic.IsOutdated message)
      (hFansOut : d.FansOut op outcome calls) :
      Handled d topic message (demoted outcome) calls
  | outdated {op : Operation} {outcome : Except DeployError Unit}
      {calls : List Call}
      (hOrdered : op.IsOrderedBy message topic)
      (hOutdated : topic.IsOutdated message)
      (hFansOut : d.FansOut op outcome calls) :
      Handled d topic message outcome calls
  | unknown {verb : String}
      (hUnknown : topic.IsUnknown message verb) :
      Handled d topic message (.error (.unknownCommand verb)) []
  | idle
      (hIdle : ∀ op : Operation, ¬ op.IsOrderedBy message topic)
      (hKnown : ∀ verb, ¬ topic.IsUnknown message verb) :
      Handled d topic message (.ok ()) []

theorem ignoringMissingUser_records
    {a : Action σ DeployError Unit}
    {b : Action (σ × List Call) DeployError Unit}
    {P Q : Except DeployError Unit → List Call → Prop}
    (hAction : Records a b P)
    (hEnd : ∀ outcome calls, P outcome calls → Q (demoted outcome) calls) :
    Records (ignoringMissingUser a) (ignoringMissingUser b) Q := by
  intro s
  rcases hAction s with ⟨calls, hRun, hCalls⟩
  refine ⟨calls, fun record => ?_, ?_⟩
  · rw [ignoringMissingUser_apply, ignoringMissingUser_apply, hRun]
  · rw [ignoringMissingUser_apply]
    exact hEnd _ calls hCalls

theorem handle_records
    (d : Dispatcher σ)
    (topic : CommandTopic)
    (message : Json) :
    Records (d.handle topic message) (d.recorded.handle topic message)
      (d.Handled topic message) := by
  by_cases hOrders : ∃ op : Operation, op.IsOrderedBy message topic
  · rcases hOrders with ⟨op, hOrdered⟩
    by_cases hOutdated : topic.IsOutdated message
    · rw [d.handle_of_outdated hOrdered hOutdated,
        d.recorded.handle_of_outdated hOrdered hOutdated]
      exact (d.carryOut_records op).mono fun _ _ => .outdated hOrdered hOutdated
    · rw [d.handle_of_current hOrdered hOutdated,
        d.recorded.handle_of_current hOrdered hOutdated]
      exact ignoringMissingUser_records (d.carryOut_records op)
        fun _ _ => .current hOrdered hOutdated
  · have hIdle : ∀ op : Operation, ¬ op.IsOrderedBy message topic :=
      not_exists.mp hOrders
    by_cases hUnknown : ∃ verb, topic.IsUnknown message verb
    · rcases hUnknown with ⟨verb, hUnknown⟩
      rw [d.handle_of_unknown hUnknown, d.recorded.handle_of_unknown hUnknown]
      exact Records.fail (.unknown hUnknown)
    · have hKnown : ∀ verb, ¬ topic.IsUnknown message verb :=
        not_exists.mp hUnknown
      rw [d.handle_of_idle hIdle hKnown, d.recorded.handle_of_idle hIdle hKnown]
      exact Records.pure (.idle hIdle hKnown)

------------------------------------------------------------
-- Which messages act
------------------------------------------------------------

theorem isFor_of_mem_successes
    {outcome : Except DeployError Unit} {first count : Nat} {call : Call}
    (hMem : call ∈ successes op first count) :
    call.IsFor op outcome := by
  rcases List.mem_map.mp hMem with ⟨position, -, rfl⟩
  exact .served position

theorem AnnouncesAfter.isFor
    {calls : List Call} {outcome : Except DeployError Unit} {call : Call}
    (hAnnounces : d.AnnouncesAfter op calls)
    (hMem : call ∈ calls) :
    call.IsFor op outcome := by
  cases op with
  | updateGroup owner group =>
      rw [show calls = [] from hAnnounces] at hMem
      cases hMem
  | task task =>
      cases task with
      | remove owner deploymentId =>
          rw [show calls = [] from hAnnounces] at hMem
          cases hMem
      | deploy owner deployment =>
          have hDeployment : d.Announces deployment.id calls := hAnnounces
          cases hDeployment with
          | silent hNone => cases hMem
          | sent hSome =>
              rw [List.mem_singleton.mp hMem]
              exact .announcement _ _ _

theorem FansOut.isFor
    {calls : List Call} {outcome : Except DeployError Unit} {call : Call}
    (hFansOut : d.FansOut op outcome calls)
    (hMem : call ∈ calls) :
    call.IsFor op outcome := by
  cases hFansOut with
  | succeeded hAnnounces =>
      rcases List.mem_append.mp hMem with hSuccess | hAnnounced
      · exact isFor_of_mem_successes hSuccess
      · exact AnnouncesAfter.isFor hAnnounces hAnnounced
  | failed hPosition =>
      rcases List.mem_append.mp hMem with hSuccess | hLast
      · exact isFor_of_mem_successes hSuccess
      · rw [List.mem_singleton.mp hLast]
        exact .failed _ rfl

/- An error is that of a handler. -/
theorem FansOut.error_iff
    {calls : List Call} {outcome : Except DeployError Unit} {e : DeployError}
    (hFansOut : d.FansOut op outcome calls) :
    outcome = .error e ↔
      ∃ position op', Call.handler position op' (.error e) ∈ calls := by
  constructor
  · rintro rfl
    cases hFansOut with
    | failed hPosition =>
        exact ⟨_, op, List.mem_append_right _ (List.mem_singleton.mpr rfl)⟩
  · rintro ⟨position, op', hMem⟩
    cases hFansOut.isFor hMem with
    | failed _ hOutcome => exact hOutcome

theorem demoted_eq_error_iff
    {outcome : Except DeployError Unit} {e : DeployError} :
    demoted outcome = .error e ↔
      outcome = .error e ∧ e.isUserMissing = false := by
  rcases outcome with e' | _
  · cases hMissing : e'.isUserMissing with
    | true =>
        rw [demoted, if_pos hMissing]
        constructor
        · exact nofun
        · rintro ⟨hOutcome, hOther⟩
          cases hOutcome
          rw [hMissing] at hOther
          cases hOther
    | false =>
        rw [demoted, if_neg (ne_true_of_eq_false hMissing)]
        constructor
        · intro hOutcome
          cases hOutcome
          exact ⟨rfl, hMissing⟩
        · exact And.left
  · exact ⟨nofun, fun hOutcome => nomatch hOutcome.1⟩

/- The errors that a message may end in. -/
theorem Handled.error_iff
    {outcome : Except DeployError Unit} {calls : List Call} {e : DeployError}
    (hHandled : d.Handled topic message outcome calls) :
    outcome = .error e ↔
      (∃ verb, topic.IsUnknown message verb ∧ e = .unknownCommand verb) ∨
        ((∃ position op, Call.handler position op (.error e) ∈ calls) ∧
          (topic.IsOutdated message ∨ e.isUserMissing = false)) := by
  cases hHandled with
  | current hOrdered hCurrent hFansOut =>
      rw [demoted_eq_error_iff, hFansOut.error_iff]
      constructor
      · exact fun hFailed => .inr ⟨hFailed.1, .inr hFailed.2⟩
      · rintro (⟨verb, hUnknown, -⟩ | ⟨hCall, hOutdated | hOther⟩)
        · exact absurd hUnknown hOrdered.not_isUnknown
        · exact absurd hOutdated hCurrent
        · exact ⟨hCall, hOther⟩
  | outdated hOrdered hOutdated hFansOut =>
      rw [hFansOut.error_iff]
      constructor
      · exact fun hCall => .inr ⟨hCall, .inl hOutdated⟩
      · rintro (⟨verb, hUnknown, -⟩ | ⟨hCall, -⟩)
        · exact absurd hUnknown hOrdered.not_isUnknown
        · exact hCall
  | @unknown verb hUnknown =>
      constructor
      · intro hOutcome
        cases hOutcome
        exact .inl ⟨verb, hUnknown, rfl⟩
      · rintro (⟨verb', hUnknown', rfl⟩ | ⟨⟨_, _, hMem⟩, -⟩)
        · rw [hUnknown.unique hUnknown']
        · cases hMem
  | idle hIdle hKnown =>
      constructor
      · exact nofun
      · rintro (⟨verb, hUnknown, -⟩ | ⟨⟨_, _, hMem⟩, -⟩)
        · exact absurd hUnknown (hKnown verb)
        · cases hMem

/- Nothing is called for a message that orders nothing. -/
theorem Handled.calls_of_idle
    {outcome : Except DeployError Unit} {calls : List Call}
    (hHandled : d.Handled topic message outcome calls)
    (hIdle : ∀ op : Operation, ¬ op.IsOrderedBy message topic) :
    calls = [] := by
  cases hHandled with
  | current hOrdered _ _ => exact absurd hOrdered (hIdle _)
  | outdated hOrdered _ _ => exact absurd hOrdered (hIdle _)
  | unknown _ => rfl
  | idle _ _ => rfl

theorem Handled.isFor
    {outcome : Except DeployError Unit} {calls : List Call} {call : Call}
    (hHandled : d.Handled topic message outcome calls)
    (hMem : call ∈ calls) :
    ∃ op outcome', op.IsOrderedBy message topic ∧ call.IsFor op outcome' := by
  cases hHandled with
  | current hOrdered _ hFansOut => exact ⟨_, _, hOrdered, hFansOut.isFor hMem⟩
  | outdated hOrdered _ hFansOut => exact ⟨_, _, hOrdered, hFansOut.isFor hMem⟩
  | unknown _ => cases hMem
  | idle _ _ => cases hMem

/- Handlers are called for what is ordered only. -/
theorem Handled.isOrderedBy_of_mem
    {outcome outcome' : Except DeployError Unit} {calls : List Call}
    {position : Nat}
    (hHandled : d.Handled topic message outcome calls)
    (hMem : .handler position op outcome' ∈ calls) :
    op.IsOrderedBy message topic := by
  rcases hHandled.isFor hMem with ⟨op', _, hOrdered, hFor⟩
  cases hFor with
  | served _ => exact hOrdered
  | failed _ _ => exact hOrdered

theorem Handled.query_notMem
    {outcome : Except DeployError Unit} {calls : List Call} {position : Nat}
    (hHandled : d.Handled topic message outcome calls) :
    .query position ∉ calls := by
  intro hMem
  rcases hHandled.isFor hMem with ⟨_, _, _, hFor⟩
  cases hFor

/- The record of a message with an order is that of its operation. -/
theorem handle_fansOut
    (d : Dispatcher σ)
    (hOrdered : op.IsOrderedBy message topic)
    (s : σ) :
    ∃ outcome calls,
      d.recorded.handle topic message (s, []) =
          ((d.handle topic message s).1, (d.handle topic message s).2, calls) ∧
        d.FansOut op outcome calls ∧
        (topic.IsOutdated message → (d.handle topic message s).1 = outcome) ∧
        (¬ topic.IsOutdated message →
          (d.handle topic message s).1 = demoted outcome) := by
  rcases d.carryOut_records op s with ⟨calls, hRun, hFansOut⟩
  have hFromStart := hRun []
  rw [List.nil_append] at hFromStart
  refine ⟨_, calls, ?_, hFansOut, fun hOutdated => ?_, fun hCurrent => ?_⟩
  · by_cases hOutdated : topic.IsOutdated message
    · rw [d.recorded.handle_of_outdated hOrdered hOutdated, hFromStart,
        d.handle_of_outdated hOrdered hOutdated]
    · rw [d.recorded.handle_of_current hOrdered hOutdated,
        d.handle_of_current hOrdered hOutdated, ignoringMissingUser_apply,
        ignoringMissingUser_apply, hFromStart]
  · rw [d.handle_of_outdated hOrdered hOutdated]
  · rw [d.handle_of_current hOrdered hCurrent, ignoringMissingUser_apply]

theorem handle_state_of_idle
    (d : Dispatcher σ)
    (hIdle : ∀ op : Operation, ¬ op.IsOrderedBy message topic)
    (s : σ) :
    (d.handle topic message s).2 = s := by
  by_cases hUnknown : ∃ verb, topic.IsUnknown message verb
  · rcases hUnknown with ⟨verb, hUnknown⟩
    rw [d.handle_of_unknown hUnknown]
    rfl
  · rw [d.handle_of_idle hIdle (not_exists.mp hUnknown)]
    rfl

/- Counting how a message has ended does not change it. -/
theorem process_result
    (d : Dispatcher σ)
    (topic : CommandTopic)
    (message : Json)
    (s : σ) :
    (d.process topic message s).1 = (d.handle topic message s).1 := by
  have hAttempt :
      ((d.handle topic message).attempt :
        Action σ DeployError (Except DeployError Unit)) s =
        (.ok (d.handle topic message s).1, (d.handle topic message s).2) :=
    Action.attempt_apply _ s
  rw [process, Action.bind_of_ok hAttempt]
  cases (d.handle topic message s).1 with
  | error e => rfl
  | ok _ => rfl

/-
  What a message orders is carried out once, and no handler
  is called for anything else; without an order nothing is
  done at all. A message ends in an error, and is delivered
  again, if its command is unknown, or if a handler that has
  been called for it has failed; that a user is missing only
  counts as a failure for messages of another version.
-/
theorem handle_obeys
    (d : Dispatcher σ)
    (topic : CommandTopic)
    (message : Json)
    (s : σ) :
    ∃ calls,
      d.recorded.handle topic message (s, []) =
          ((d.handle topic message s).1, (d.handle topic message s).2, calls) ∧
        (∀ op : Operation,
          op.IsOrderedBy message topic →
            ∃ outcome,
              d.FansOut op outcome calls ∧
                (topic.IsOutdated message →
                  (d.handle topic message s).1 = outcome) ∧
                (¬ topic.IsOutdated message →
                  (d.handle topic message s).1 = demoted outcome)) ∧
        ((∀ op : Operation, ¬ op.IsOrderedBy message topic) →
          calls = [] ∧ (d.handle topic message s).2 = s) ∧
        (∀ position op outcome,
          .handler position op outcome ∈ calls → op.IsOrderedBy message topic) ∧
        (∀ position, .query position ∉ calls) ∧
        (∀ e,
          (d.handle topic message s).1 = .error e ↔
            (∃ verb, topic.IsUnknown message verb ∧ e = .unknownCommand verb) ∨
              ((∃ position op, .handler position op (.error e) ∈ calls) ∧
                (topic.IsOutdated message ∨ e.isUserMissing = false))) ∧
        (d.process topic message s).1 = (d.handle topic message s).1 ∧
        ∀ header c,
          CommandHeader.codec.decode message = some header →
            DeploymentCommand.codec.decode message = some c →
              header = c.header := by
  rcases d.handle_records topic message s with ⟨calls, hRun, hHandled⟩
  have hFromStart := hRun []
  rw [List.nil_append] at hFromStart
  refine ⟨calls, hFromStart, fun op hOrdered => ?_,
    fun hIdle => ⟨hHandled.calls_of_idle hIdle, d.handle_state_of_idle hIdle s⟩,
    fun _ _ _ => hHandled.isOrderedBy_of_mem, fun _ => hHandled.query_notMem,
    fun e => hHandled.error_iff, d.process_result topic message s,
    fun _ _ => CommandHeader.eq_header⟩
  rcases d.handle_fansOut hOrdered s with ⟨outcome, calls', hRun', hOutcome⟩
  rw [hFromStart] at hRun'
  cases congrArg (·.2.2) hRun'
  exact ⟨outcome, hOutcome⟩

end Dispatcher

end ProcessEvents
