import ProcessEvents.Proofs.Analytics.Frame
import ProcessEvents.Proofs.Analytics.GroupUpdate
import ProcessEvents.Proofs.Api

/-
  Other services run pipelines on the same platform. This
  file tells which of the calls that deploy and remove
  processes leave such a pipeline alone: all requests over
  HTTP, and all messages but those that order a task of its
  owner for a deployment without an id. For a description
  that has no such id is read as one whose id is empty.

  Key definitions include:
    * `PipelineRow.namesDeployment`, `PipelineRow.IsForeign`
    * `Dispatcher.OnlyChangedBy`
    * `DeploymentCall`, `Api.after`
    * `PipelineRow.IsTakenBy`

  Key theorems include:
    * `PipelineRow.IsForeign.deploymentId_eq`
    * `AnalyticsHandler.perform_leaves`
    * `AnalyticsHandler.after_leaves`
    * `AnalyticsHandler.after_removes`
    * `AnalyticsHandler.after_leaves_iff`
-/

namespace ProcessEvents

variable {σ β : Type}

open ProcessEvents.Action (Keeps Preserves)

------------------------------------------------------------
-- Pipelines of other services
------------------------------------------------------------

namespace PipelineRow

/- Whether a text is an object with a member for the id of a deployment. -/
def namesDeployment
    (text : String) : Bool :=
  match Json.readFree? text with
  | some (.obj members) => (Json.find? members "deployment_id").isSome
  | _ => false

/- The description is no such object. -/
def IsForeign
    (r : PipelineRow) : Prop :=
  namesDeployment r.request.description = false

instance (r : PipelineRow) :
    Decidable r.IsForeign :=
  inferInstanceAs (Decidable (_ = _))

/- Whatever else it holds, it is read as a record with an empty id. -/
theorem IsForeign.deploymentId_eq
    {r : PipelineRow} {d : PipelineDescription}
    (hForeign : r.IsForeign)
    (hParse : PipelineDescription.parse? r.request.description = some d) :
    d.deploymentId = "" := by
  unfold IsForeign namesDeployment at hForeign
  unfold PipelineDescription.parse? at hParse
  split at hParse
  · rename_i members hRead
    rw [hRead] at hForeign
    have hNone : Json.find? members "deployment_id" = none :=
      Option.isSome_eq_false_iff.mp hForeign |> Option.isNone_iff_eq_none.mp
    simp only [PipelineDescription.codec, Codec.record,
      Option.ite_none_left_eq_some, Option.map_eq_some_iff] at hParse
    rcases hParse with ⟨-, fields, hFields, rfl⟩
    simp only [Fields.ofMembers_pair] at hFields
    rcases hFields with ⟨-, -, -, -, -, hId, -⟩
    simp only [Fields.text, Fields.field, hNone, Option.some.injEq] at hId
    exact hId.symm
  · cases hParse

end PipelineRow

------------------------------------------------------------
-- Calls
------------------------------------------------------------

/- Nobody but one handler changes what is viewed. -/
structure Dispatcher.OnlyChangedBy
    (d : Dispatcher σ)
    (k : EventHandler σ)
    (view : σ → β) : Prop where
  own : d.Own (Keeps view)
  others : ∀ k' ∈ d.handlers, k' = k ∨ k'.All (Keeps view)

/- A message about deployments, or a request over HTTP. -/
inductive DeploymentCall where
  | message (message : Json)
  | request (request : Http.Request)

/- The state after a call has been handled or answered. -/
def Api.after
    (api : Api σ)
    (now : Instant)
    (s : σ) : DeploymentCall → σ
  | .message message => (api.dispatcher.process .deployment message s).2
  | .request request => (api.handle now request s).2

/- The task that a call is for. -/
def DeploymentTask.IsOf
    (task : DeploymentTask) : DeploymentCall → Prop
  | .message message => task.IsOrderedBy message
  | .request request => task.IsRequestedBy request

/-
  The call is a message with a task for the pipeline's owner
  that names no deployment, and the pipeline's description is
  read as a record.
-/
def PipelineRow.IsTakenBy
    (r : PipelineRow)
    (call : DeploymentCall) : Prop :=
  (PipelineDescription.parse? r.request.description).isSome ∧
    ∃ message task,
      call = .message message ∧
        DeploymentTask.IsOrderedBy message task ∧
        task.owner = r.owner ∧
        task.deploymentId = ""

namespace AnalyticsHandler

variable {h : AnalyticsHandler σ} {pipelines : σ → RunningPipelines}

------------------------------------------------------------
-- Pipelines that are left alone
------------------------------------------------------------

/- A task concerns the owner's pipelines for its deployment only. -/
theorem perform_leaves
    (hLawful : h.Lawful pipelines)
    (hCalls : h.engine.AllOrNothing pipelines)
    {r : PipelineRow} {task : DeploymentTask}
    (hOther : r.isOf task.owner task.deploymentId = false) :
    Preserves (fun s => r ∈ (pipelines s).rows) (h.handler.perform task) := by
  have hKeeps :
      Keeps (fun s => (pipelines s).besides task.owner task.deploymentId)
        (h.handler.perform task) := by
    cases task with
    | deploy owner deployment =>
        exact deploy_besides hLawful hCalls owner deployment
    | remove owner deploymentId =>
        exact remove_besides hLawful hCalls owner deploymentId
  have hStays := hKeeps.preserves (r ∈ ·)
  intro s hRow
  have hAfter := hStays s (RunningPipelines.mem_besides_iff.mpr ⟨hRow, hOther⟩)
  exact (RunningPipelines.mem_besides_iff.mp hAfter).1

/- A pipeline that none of a call's tasks concerns stays as it is. -/
theorem after_leaves
    (hLawful : h.Lawful pipelines)
    (hCalls : h.engine.AllOrNothing pipelines)
    {api : Api σ}
    (hOnly : api.dispatcher.OnlyChangedBy h.handler pipelines)
    {r : PipelineRow} {call : DeploymentCall}
    (hOther :
      ∀ task : DeploymentTask,
        task.IsOf call → r.isOf task.owner task.deploymentId = false)
    (now : Instant)
    {s : σ}
    (hRow : r ∈ (pipelines s).rows) :
    r ∈ (pipelines (api.after now s call)).rows := by
  have hP : Action.Closed (Preserves fun s => r ∈ (pipelines s).rows) :=
    Preserves.closed
  have hOwn : api.dispatcher.Own (Preserves fun s => r ∈ (pipelines s).rows) :=
    { count := fun c n => (hOnly.own.count c n).preserves (r ∈ ·.rows)
      produce := fun channel hDone id notification =>
        (hOnly.own.produce channel hDone id notification).preserves
          (r ∈ ·.rows) }
  have hTasks :
      ∀ task : DeploymentTask,
        task.IsOf call →
          Preserves (fun s => r ∈ (pipelines s).rows)
            (api.dispatcher.perform task) := by
    intro task hTask
    apply hOwn.perform hP
    intro k hHandler
    rcases hOnly.others k hHandler with rfl | hAll
    · exact perform_leaves hLawful hCalls (hOther task hTask)
    · exact (hAll.perform task).preserves (r ∈ ·.rows)
  cases call with
  | message message =>
      have hHandle := Dispatcher.handleDeploymentCommand_closed hP hTasks
      exact hOwn.process hP .deployment hHandle s hRow
  | request request =>
      have hEvent :
          ∀ k ∈ api.dispatcher.handlers, ∀ token id,
            Preserves (fun s => r ∈ (pipelines s).rows)
              (k.checkEvent token id) := by
        intro k hHandler token id
        rcases hOnly.others k hHandler with rfl | hAll
        · exact (checkEvent_keeps hLawful token id).preserves (r ∈ ·.rows)
        · exact (hAll.checkEvent token id).preserves (r ∈ ·.rows)
      have hStates :
          ∀ k ∈ api.dispatcher.handlers, ∀ token ids,
            Preserves (fun s => r ∈ (pipelines s).rows)
              (k.eventStates token ids) := by
        intro k hHandler token ids
        rcases hOnly.others k hHandler with rfl | hAll
        · exact (eventStates_keeps hLawful token ids).preserves (r ∈ ·.rows)
        · exact (hAll.eventStates token ids).preserves (r ∈ ·.rows)
      exact Api.handle_closed hP hOwn.count hEvent hStates hTasks s hRow

/-
  No task concerns a pipeline of another service, unless it
  is taken for one of ours.
-/
theorem isOf_eq_false_of_not_isTakenBy
    {r : PipelineRow}
    (hForeign : r.IsForeign)
    {call : DeploymentCall}
    (hSafe : ¬ r.IsTakenBy call)
    {task : DeploymentTask}
    (hTask : task.IsOf call) :
    r.isOf task.owner task.deploymentId = false := by
  rw [← Bool.not_eq_true, PipelineRow.isOf_iff]
  rintro ⟨hOwner, d, hParse, hDeployment⟩
  have hNoId : task.deploymentId = "" :=
    hDeployment.symm.trans (hForeign.deploymentId_eq hParse)
  cases call with
  | message message =>
      exact
        hSafe
          ⟨Option.isSome_of_eq_some hParse, message,
            task, rfl, hTask, hOwner.symm, hNoId⟩
  | request request => exact hTask.deploymentId_ne_empty hNoId

------------------------------------------------------------
-- Pipelines that are taken
------------------------------------------------------------

/-
  A handler whose pipelines run in a table, and none of
  whose users has a token.
-/
def withoutToken : AnalyticsHandler NumberedPipelines :=
  onEngine NumberedPipelines.engine (.error .userDoesNotExist)

theorem withoutToken_engine :
    withoutToken.engine = NumberedPipelines.engine := rfl

theorem withoutToken_lawful :
    withoutToken.Lawful NumberedPipelines.running :=
  onEngine_lawful NumberedPipelines.lawful _

/- The service with this handler only. -/
def apiAlone
    (h : AnalyticsHandler σ) : Api σ :=
  { dispatcher := .alone h.handler, health := {} }

theorem alone_onlyChangedBy
    (h : AnalyticsHandler σ) :
    (Dispatcher.alone h.handler).OnlyChangedBy h.handler pipelines where
  own :=
    { count := fun _ _ _ => rfl
      produce := fun _ hDone => by cases hDone }
  others _ hHandler := Or.inl (List.mem_singleton.mp hHandler)

/- The removal takes the only pipeline that there is. -/
theorem withoutToken_remove
    {r : PipelineRow} {deploymentId : String}
    (hIsOf : r.isOf r.owner deploymentId = true) :
    ∃ s',
      withoutToken.remove r.owner deploymentId (onlyPipeline r) = (.ok (), s') ∧
        s'.table.rows = [] := by
  rcases PipelineRow.isOf_iff.mp hIsOf with ⟨-, d, hParse, hDeployment⟩
  have hList := eventPipelines_onlyPipeline hParse
  have hThere : r ∈ (onlyPipeline r).table.rows := List.mem_cons_self
  rcases NumberedPipelines.remove_of_mem hThere r.owner with ⟨s', hRemove⟩
  generalize hEvent :
    (⟨r.id.toText, r.request.name, d⟩ : EventPipeline) = p at hList
  have hId : p.id = r.id.toText := hEvent ▸ rfl
  have hNamed :
      ([p].filter fun p => p.description.deploymentId = deploymentId) =
        [p] := by
    apply List.filter_eq_self.mpr
    rw [List.forall_mem_singleton, ← hEvent]
    exact decide_eq_true hDeployment
  have hPipeline : withoutToken.removePipeline r.owner p (onlyPipeline r) =
      (.ok (), s') := by
    rw [removePipeline, withoutToken_engine, hId,
      Action.bind_of_ok (Action.mapError_eq_ok_iff.mpr hRemove)]
    rfl
  have hRun : withoutToken.remove r.owner deploymentId (onlyPipeline r) =
      (.ok (), s') := by
    rw [remove, withoutToken_engine,
      Action.bind_of_ok (Action.mapError_eq_ok_iff.mpr hList), hNamed]
    exact Action.forEach_singleton_eq_ok_iff.mpr hPipeline
  refine ⟨s', hRun, ?_⟩
  have hRows := remove_rows withoutToken_lawful hRun
  change s'.table.rows = [r].filter _ at hRows
  rw [hRows, List.filter_singleton, hIsOf]
  rfl

/- Whatever the task is, it begins with this removal, and goes no further. -/
theorem withoutToken_perform
    {r : PipelineRow} {task : DeploymentTask}
    (hOwner : task.owner = r.owner)
    (hIsOf : r.isOf r.owner task.deploymentId = true) :
    ((Dispatcher.alone withoutToken.handler).perform task
      (onlyPipeline r)).2.table.rows = [] := by
  rcases withoutToken_remove hIsOf with ⟨s', hRemove, hRows⟩
  rw [← hOwner] at hRemove
  cases task with
  | deploy owner deployment =>
      have hDeploy :
          withoutToken.deploy owner deployment (onlyPipeline r) =
            (.error (.auth .userDoesNotExist), s') := by
        unfold deploy
        exact Action.bind_of_ok hRemove
      have hRun :
          (Dispatcher.alone withoutToken.handler).perform
            (.deploy owner deployment) (onlyPipeline r) =
            (.error (.auth .userDoesNotExist), s') :=
        Action.bind_of_error (Action.bind_of_error hDeploy)
      rw [hRun]
      exact hRows
  | remove owner deploymentId =>
      have hEach :
          Action.forEach (fun k => k.remove owner deploymentId)
            (Dispatcher.alone withoutToken.handler).handlers
              (onlyPipeline r) =
            (.ok (), s') :=
        Action.forEach_singleton_eq_ok_iff.mpr hRemove
      have hRun :
          (Dispatcher.alone withoutToken.handler).perform
            (.remove owner deploymentId) (onlyPipeline r) =
            (.ok (), s') :=
        Action.bind_of_ok hEach
      rw [hRun]
      exact hRows

theorem after_removes
    {r : PipelineRow} {call : DeploymentCall}
    (hForeign : r.IsForeign)
    (hTaken : r.IsTakenBy call)
    (now : Instant) :
    r ∉ (withoutToken.apiAlone.after now (onlyPipeline r) call).table.rows := by
  rcases hTaken with ⟨hRecord, message, task, rfl, hTask, hOwner, hNoId⟩
  rcases Option.isSome_iff_exists.mp hRecord with ⟨d, hParse⟩
  have hIsOf : r.isOf r.owner task.deploymentId = true :=
    PipelineRow.isOf_iff.mpr
      ⟨rfl, d, hParse, (hForeign.deploymentId_eq hParse).trans hNoId.symm⟩
  have hAfter :
      withoutToken.apiAlone.after now (onlyPipeline r) (.message message) =
        ((Dispatcher.alone withoutToken.handler).perform task
          (onlyPipeline r)).2 :=
    (Dispatcher.alone withoutToken.handler).handleDeploymentCommand_state hTask
      (onlyPipeline r)
  rw [hAfter, withoutToken_perform hOwner hIsOf]
  exact List.not_mem_nil

------------------------------------------------------------
-- Calls and pipelines of other services
------------------------------------------------------------

/-
  Wherever a pipeline of another service is running, a call
  leaves it as it is, unless the call is a message for the
  pipeline's owner that names no deployment, and something
  like a record stands in the pipeline's description.
-/
theorem after_leaves_iff
    {r : PipelineRow}
    (hForeign : r.IsForeign)
    (call : DeploymentCall) :
    (∀ {σ : Type} (h : AnalyticsHandler σ) (pipelines : σ → RunningPipelines)
        (api : Api σ),
        h.Lawful pipelines →
          h.engine.AllOrNothing pipelines →
            api.dispatcher.OnlyChangedBy h.handler pipelines →
              ∀ now s, r ∈ (pipelines s).rows →
                r ∈ (pipelines (api.after now s call)).rows) ↔
      ¬ r.IsTakenBy call := by
  constructor
  · intro hLeaves hTaken
    apply after_removes hForeign hTaken 0
    exact
      hLeaves withoutToken NumberedPipelines.running
        withoutToken.apiAlone withoutToken_lawful
        NumberedPipelines.allOrNothing (alone_onlyChangedBy _) 0
        (onlyPipeline r)
        List.mem_cons_self
  · intro hSafe σ h pipelines api hLawful hCalls hOnly now s hRow
    exact after_leaves hLawful hCalls hOnly
      (fun _ hTask => isOf_eq_false_of_not_isTakenBy hForeign hSafe hTask)
      now hRow

/- A removal that does not tell the deployment that it is for. -/
def namelessRemoval : Json :=
  .obj
    [("command", .str Verb.delete), ("version", .int Deployment.currentVersion),
      ("owner", .str "u1")]

/- A pipeline with a description in plain words. -/
def plainRow : PipelineRow :=
  describedRow 1 "u1" "hand-written"

theorem after_leaves_iff_plain :
    plainRow.IsForeign ∧
      plainRow ∈
        ((onTable ⟨"Bearer"⟩).apiAlone.after 0 (onlyPipeline plainRow)
          (.message namelessRemoval)).table.rows := by
  have hForeign : plainRow.IsForeign := by
    decide +kernel
  have hSafe : ¬ plainRow.IsTakenBy (.message namelessRemoval) := by
    intro hTaken
    have hNone :
        (PipelineDescription.parse? plainRow.request.description).isSome =
          false := by
      decide +kernel
    rw [hTaken.1] at hNone
    cases hNone
  have hStays :=
    (after_leaves_iff hForeign (.message namelessRemoval)).mpr hSafe
      (onTable ⟨"Bearer"⟩)
      NumberedPipelines.running (onTable ⟨"Bearer"⟩).apiAlone (onTable_lawful _)
      NumberedPipelines.allOrNothing (alone_onlyChangedBy _) 0
      (onlyPipeline plainRow)
      List.mem_cons_self
  generalize
    (onTable ⟨"Bearer"⟩).apiAlone.after 0 (onlyPipeline plainRow)
      (.message namelessRemoval) = s
    at hStays ⊢
  exact ⟨hForeign, hStays⟩

/- A pipeline whose description some other service has written. -/
def reportRow : PipelineRow :=
  describedRow 1 "u1" "\x7b\"service\":\"reporting\",\"interval\":60\x7d"

/- The removal takes it for a pipeline of a deployment without an id. -/
theorem after_removes_report :
    reportRow.IsForeign ∧
      reportRow ∈ (onlyPipeline reportRow).table.rows ∧
      reportRow ∉
        ((onTable ⟨"Bearer"⟩).apiAlone.after 0 (onlyPipeline reportRow)
          (.message namelessRemoval)).table.rows := by
  refine ⟨?_, ?_, ?_⟩
  · decide +kernel
  · exact List.mem_cons_self
  · decide +kernel

end AnalyticsHandler

end ProcessEvents
