import ProcessEvents.Proofs.Analytics.Deployment
import ProcessEvents.Proofs.Dispatcher

/-
  A message about a device group makes the handler of message
  events replace pipelines. This file tells which pipelines
  it leaves alone: of those that are on no group, all but the
  ones that a message without a group id is taken to concern.

  Key definitions include:
    * `PipelineRow.IsOnNoGroup`
    * `PipelineRow.IsReplaceable`
    * `PipelineRow.IsExposedTo`
    * `AnalyticsHandler.Governs`

  Key theorems include:
    * `AnalyticsHandler.updatePipeline_leaves`
    * `AnalyticsHandler.updatePipeline_leaves_of_listed`
    * `AnalyticsHandler.updateGroup_leaves`
    * `AnalyticsHandler.handleGroupCommand_leaves`
    * `AnalyticsHandler.handleGroupCommand_leaves_iff`
-/

namespace ProcessEvents

variable {σ : Type}

open ProcessEvents.Action (Keeps Preserves)
open AnalyticsHandler (isExpandable)

------------------------------------------------------------
-- Pipelines on no group
------------------------------------------------------------

namespace PipelineRow

/- The description is none of ours, or the id of its group is empty. -/
def IsOnNoGroup
    (r : PipelineRow) : Prop :=
  ∀ d,
    PipelineDescription.parse? r.request.description = some d →
      d.deviceGroupId = ""

instance (r : PipelineRow) :
    Decidable r.IsOnNoGroup :=
  decidable_of_iff
    (∀ d ∈ PipelineDescription.parse? r.request.description,
      d.deviceGroupId = "")
    Iff.rfl

/-
  The group has no id, and the pipeline is its owner's for an
  event that can be expanded: then it is taken for a pipeline
  on this group.
-/
def IsReplaceable
    (r : PipelineRow)
    (owner : String)
    (group : DeviceGroup) : Prop :=
  group.id = "" ∧
    r.owner = owner ∧
    ∃ d,
      PipelineDescription.parse? r.request.description = some d ∧
        isExpandable (.ofDescription d) = true

/- The message is a change of such a group. -/
def IsExposedTo
    (r : PipelineRow)
    (message : Json) : Prop :=
  ∃ c,
    DeviceGroupCommand.codec.decode message = some c ∧
      c.command = Verb.put ∧
      r.IsReplaceable c.owner c.deviceGroup

end PipelineRow

namespace AnalyticsHandler

/- No handler but this one has to do with pipelines when groups are updated. -/
def Governs
    (h : AnalyticsHandler σ)
    (pipelines : σ → RunningPipelines)
    (d : Dispatcher σ) : Prop :=
  ∀ k ∈ d.handlers,
    k = h.handler ∨ ∀ owner group, Keeps pipelines (k.updateGroup owner group)

variable {h : AnalyticsHandler σ} {pipelines : σ → RunningPipelines}

theorem governs_alone :
    h.Governs pipelines (.alone h.handler) := by
  intro k hHandler
  exact Or.inl (List.mem_singleton.mp hHandler)

------------------------------------------------------------
-- Updates of single pipelines
------------------------------------------------------------

/- Without all the texts that are needed, there is no new request. -/
theorem sourceRequest_of_not_isExpandable
    {token : BearerToken} {owner label : String} {group : DeviceGroup}
    {p : EventPipeline}
    (hBare : isExpandable (.ofDescription p.description) = false) :
    h.sourceRequest token owner label (memberEvent group p) = return none := by
  have hMember : isExpandable (memberEvent group p) = false := hBare
  unfold sourceRequest
  rw [hMember]
  rfl

theorem updatePipeline_of_not_isExpandable
    {token : BearerToken} {owner : String} {group : DeviceGroup}
    {p : EventPipeline}
    (hBare : isExpandable (.ofDescription p.description) = false) :
    h.updatePipeline token owner group p = return () := by
  unfold updatePipeline
  rw [sourceRequest_of_not_isExpandable hBare]
  rfl

/- An update concerns the pipeline with the id of the listed one. -/
theorem updatePipeline_leaves
    (hLawful : h.Lawful pipelines)
    (hUpdates : h.engine.UpdatesOne pipelines)
    {token : BearerToken} {owner : String} {group : DeviceGroup}
    {p : EventPipeline}
    {r : PipelineRow} {id : Uuid}
    (hId : p.id = id.toText)
    (hOther : r.id ≠ id) :
    Preserves (fun s => r ∈ (pipelines s).rows)
      (h.updatePipeline token owner group p) := by
  have hP : Action.Closed (Preserves fun s => r ∈ (pipelines s).rows) :=
    Preserves.closed
  have hAsks := hLawful.asks.sourceRequest Keeps.closed token owner p.name
    (memberEvent group p)
  unfold updatePipeline
  apply hP.bind (hAsks.preserves (r ∈ ·.rows))
  rintro (_ | request)
  · exact hP.pure ()
  · apply hP.bind
    · apply hP.mapError
      intro s hRow
      exact hUpdates token owner { request with id := p.id } hId hOther hRow
    · intro _
      exact hP.pure ()

------------------------------------------------------------
-- Updates of groups
------------------------------------------------------------

/-
  A listed pipeline on the group is another one, or has no
  event that can be expanded.
-/
theorem updatePipeline_leaves_of_listed
    (hLawful : h.Lawful pipelines)
    (hUpdates : h.engine.UpdatesOne pipelines)
    {r : PipelineRow}
    (hNoGroup : r.IsOnNoGroup)
    {owner : String} {group : DeviceGroup}
    (hSafe : ¬ r.IsReplaceable owner group)
    {s : σ}
    (hRow : r ∈ (pipelines s).rows)
    {p : EventPipeline}
    (hListed : ∃ r' ∈ (pipelines s).rows, r'.owner = owner ∧ r'.event? = some p)
    (hGroup : p.description.deviceGroupId = group.id)
    (token : BearerToken) :
    Preserves (fun s => r ∈ (pipelines s).rows)
      (h.updatePipeline token owner group p) := by
  rcases hListed with ⟨r', hRow', hOwner, hEvent⟩
  rcases PipelineRow.event?_eq_some_iff.mp hEvent with ⟨hParse, hId, -⟩
  by_cases hSame : r.id = r'.id
  · have hOne : r = r' := (pipelines s).eq_of_id_eq hRow hRow' hSame
    subst hOne
    have hEmpty : group.id = "" :=
      hGroup.symm.trans (hNoGroup p.description hParse)
    have hBare : isExpandable (.ofDescription p.description) = false := by
      by_contra hExpandable
      rw [Bool.not_eq_false] at hExpandable
      exact hSafe ⟨hEmpty, hOwner, p.description, hParse, hExpandable⟩
    rw [updatePipeline_of_not_isExpandable hBare]
    exact Preserves.closed.pure ()
  · exact updatePipeline_leaves hLawful hUpdates hId hSame

theorem updateGroup_leaves
    (hLawful : h.Lawful pipelines)
    (hUpdates : h.engine.UpdatesOne pipelines)
    {r : PipelineRow}
    (hNoGroup : r.IsOnNoGroup)
    {owner : String} {group : DeviceGroup}
    (hSafe : ¬ r.IsReplaceable owner group) :
    Preserves (fun s => r ∈ (pipelines s).rows)
      (h.updateGroup owner group) := by
  have hP : Action.Closed (Preserves fun s => r ∈ (pipelines s).rows) :=
    Preserves.closed
  have hListKeeps := hLawful.engine.eventPipelines owner
  unfold AnalyticsHandler.updateGroup
  split
  · intro s hRow
    rcases hList : h.engine.eventPipelines owner s with ⟨e | ps, s₁⟩
    · rw [Action.bind_of_error
        (Action.mapError_eq_error_iff.mpr ⟨e, hList, rfl⟩),
        hListKeeps.of_eq hList]
      exact hRow
    · rw [Action.bind_of_ok (Action.mapError_eq_ok_iff.mpr hList)]
      have hRow₁ : r ∈ (pipelines s₁).rows := by
        rw [hListKeeps.of_eq hList]
        exact hRow
      have hEach :
          ∀ token,
            ∀ p ∈ ps.filter fun p => p.description.deviceGroupId = group.id,
            Preserves (fun s => r ∈ (pipelines s).rows)
              (h.updatePipeline token owner group p) := by
        intro token p hAffected
        rcases List.mem_filter.mp hAffected with ⟨hIn, hGroup⟩
        have hListed := (hLawful.engine.mem_eventPipelines hList p).mp hIn
        exact
          updatePipeline_leaves_of_listed hLawful
            hUpdates hNoGroup hSafe hRow hListed
            (of_decide_eq_true hGroup) token
      generalize (ps.filter fun p => p.description.deviceGroupId = group.id) =
        affected at hEach ⊢
      cases affected with
      | nil => exact hRow₁
      | cons p affected =>
          have hToken := (hLawful.asks.userToken owner).preserves (r ∈ ·.rows)
          apply hP.bind (hP.mapError _ hToken) _ s₁ hRow₁
          intro token
          exact hP.forEach _ (hEach token)
  · exact hP.pure ()

------------------------------------------------------------
-- Messages
------------------------------------------------------------

theorem handleGroupCommand_leaves
    (hLawful : h.Lawful pipelines)
    (hUpdates : h.engine.UpdatesOne pipelines)
    {d : Dispatcher σ}
    (hGoverns : h.Governs pipelines d)
    {r : PipelineRow}
    (hNoGroup : r.IsOnNoGroup)
    {message : Json}
    (hSafe : ¬ r.IsExposedTo message) :
    Preserves (fun s => r ∈ (pipelines s).rows)
      (d.handleGroupCommand message) := by
  have hP : Action.Closed (Preserves fun s => r ∈ (pipelines s).rows) :=
    Preserves.closed
  by_cases hPut :
      ∃ c, DeviceGroupCommand.codec.decode message = some c ∧
        c.command = Verb.put
  · rcases hPut with ⟨c, hDecode, hPut⟩
    have hUnexposed : ¬ r.IsReplaceable c.owner c.deviceGroup :=
      fun hReplaceable => hSafe ⟨c, hDecode, hPut, hReplaceable⟩
    rw [d.handleGroupCommand_of_put hDecode hPut]
    apply Dispatcher.ignoringMissingUser_closed hP
    apply hP.forEach
    intro k hHandler
    rcases hGoverns k hHandler with rfl | hKeeps
    · exact updateGroup_leaves hLawful hUpdates hNoGroup hUnexposed
    · exact (hKeeps c.owner c.deviceGroup).preserves (r ∈ ·.rows)
  · have hKeeps : Keeps pipelines (d.handleGroupCommand message) :=
      d.handleGroupCommand_closed Keeps.closed fun c hDecode hVerb =>
        hPut ⟨c, hDecode, hVerb⟩
    exact hKeeps.preserves (r ∈ ·.rows)

------------------------------------------------------------
-- Pipelines that are replaced
------------------------------------------------------------

/- A platform that runs a single pipeline. -/
def onlyPipeline
    (r : PipelineRow) : NumberedPipelines where
  table := { rows := [r], created := r.id.bits.toNat }
  numbered :=
    { distinct := List.nodup_singleton _
      given := List.forall_mem_singleton.mpr (Nat.le_refl _) }

/- Those that are on the group are updated with one token. -/
theorem updateGroup_of_affected
    {owner : String} {group : DeviceGroup} {s s₁ s₂ : σ}
    {ps rest : List EventPipeline} {p : EventPipeline} {token : BearerToken}
    (hEnabled : h.groupsEnabled = true)
    (hList : h.engine.eventPipelines owner s = (.ok ps, s₁))
    (hAffected :
      (ps.filter fun p => p.description.deviceGroupId = group.id) = p :: rest)
    (hToken : h.tokens.userToken owner s₁ = (.ok token, s₂)) :
    h.updateGroup owner group s =
      Action.forEach (h.updatePipeline token owner group) (p :: rest) s₂ := by
  unfold AnalyticsHandler.updateGroup
  rw [if_pos hEnabled, Action.bind_of_ok (Action.mapError_eq_ok_iff.mpr hList),
    hAffected]
  exact Action.bind_of_ok (Action.mapError_eq_ok_iff.mpr hToken)

/- The event that is taken to be on the group is asked for. -/
theorem sourceRequest_onTable
    {p : EventPipeline}
    (hExpandable : isExpandable (.ofDescription p.description) = true)
    (token : BearerToken)
    (owner label : String)
    (group : DeviceGroup)
    (s : NumberedPipelines) :
    ∃ request,
      (onTable token).sourceRequest token owner label (memberEvent group p) s =
        (.ok (some request), s) := by
  have hMember : isExpandable (memberEvent group p) = true := hExpandable
  unfold sourceRequest
  rw [hMember]
  exact ⟨_, rfl⟩

/- The pipeline is listed with its record. -/
theorem eventPipelines_onlyPipeline
    {r : PipelineRow} {d : PipelineDescription}
    (hParse : PipelineDescription.parse? r.request.description = some d) :
    NumberedPipelines.engine.eventPipelines r.owner (onlyPipeline r) =
      (.ok [⟨r.id.toText, r.request.name, d⟩], onlyPipeline r) := by
  have hListed : (onlyPipeline r).table.ofOwner r.owner = [r.listed] := by
    simp [PipelineTable.ofOwner, onlyPipeline]
  have hEvent : r.event? = some ⟨r.id.toText, r.request.name, d⟩ :=
    PipelineRow.event?_eq_some_iff.mpr ⟨hParse, rfl, rfl⟩
  refine Action.map_eq_ok_iff.mpr ⟨_, rfl, ?_⟩
  change (((onlyPipeline r).table.ofOwner r.owner).filterMap
    EventPipeline.ofPipeline?) = _
  rw [hListed]
  exact List.filterMap_cons_some hEvent

theorem updateGroup_replaces
    {r : PipelineRow} {owner : String} {group : DeviceGroup}
    (hNoGroup : r.IsOnNoGroup)
    (hReplaceable : r.IsReplaceable owner group)
    (token : BearerToken) :
    ∃ s' request,
      (onTable token).updateGroup owner group (onlyPipeline r) = (.ok (), s') ∧
        s'.table.rows = [{ id := r.id, owner, token, request }] := by
  rcases hReplaceable with ⟨hGroup, rfl, d, hParse, hExpandable⟩
  have hList := eventPipelines_onlyPipeline hParse
  generalize hEvent :
    (⟨r.id.toText, r.request.name, d⟩ : EventPipeline) = p at hList
  have hRecord : p.description = d := hEvent ▸ rfl
  have hId : p.id = r.id.toText := hEvent ▸ rfl
  have hAffected :
      ([p].filter fun p => p.description.deviceGroupId = group.id) = [p] := by
    apply List.filter_cons_of_pos
    rw [hGroup, hRecord]
    exact decide_eq_true (hNoGroup d hParse)
  rcases sourceRequest_onTable
    (hRecord ▸ hExpandable) token r.owner p.name group
    (onlyPipeline r) with ⟨request, hRequest⟩
  have hThere : r ∈ (onlyPipeline r).table.rows := List.mem_cons_self
  rcases NumberedPipelines.update_of_mem hThere token r.owner
    (show { request with id := p.id }.id = r.id.toText from hId) with
      ⟨_, s', hUpdate⟩
  have hPipeline :
      (onTable token).updatePipeline token r.owner group p (onlyPipeline r) =
        (.ok (), s') := by
    rw [updatePipeline, Action.bind_of_ok hRequest]
    exact Action.bind_of_ok (Action.mapError_eq_ok_iff.mpr hUpdate)
  refine ⟨s', { request with id := p.id }, ?_, ?_⟩
  · rw [updateGroup_of_affected (h := onTable token) rfl hList hAffected rfl]
    exact Action.bind_of_ok hPipeline
  · rw [NumberedPipelines.update_rows hId hUpdate]
    simp [onlyPipeline]

/- A token that the pipeline does not run with. -/
def otherToken
    (r : PipelineRow) : BearerToken :=
  ⟨r.token.text ++ "-new"⟩

theorem otherToken_ne
    (r : PipelineRow) :
    otherToken r ≠ r.token := by
  intro hSame
  have hLength := congrArg (fun token : BearerToken => token.text.length) hSame
  simp [otherToken] at hLength

theorem handleGroupCommand_replaces
    {r : PipelineRow} {message : Json}
    (hNoGroup : r.IsOnNoGroup)
    (hExposed : r.IsExposedTo message) :
    r ∉
      ((Dispatcher.alone (onTable (otherToken r)).handler).handleGroupCommand
        message (onlyPipeline r)).2.table.rows := by
  rcases hExposed with ⟨c, hDecode, hPut, hReplaceable⟩
  rcases updateGroup_replaces hNoGroup hReplaceable (otherToken r) with
    ⟨s', request, hUpdate, hRows⟩
  have hEach :
      (Dispatcher.alone (onTable (otherToken r)).handler).updateGroup
        c.owner c.deviceGroup (onlyPipeline r) =
        (.ok (), s') :=
    Action.forEach_cons_eq_ok_iff.mpr ⟨s', hUpdate, rfl⟩
  have hRun :
      (Dispatcher.alone (onTable (otherToken r)).handler).handleGroupCommand
        message (onlyPipeline r) =
        (.ok (), s') := by
    rw [Dispatcher.handleGroupCommand_of_put _ hDecode hPut]
    exact Dispatcher.ignoringMissingUser_of_ok hEach
  rw [hRun, hRows, List.mem_singleton]
  intro hSame
  exact otherToken_ne r (congrArg PipelineRow.token hSame).symm

/-
  Wherever a pipeline on no group is running, a message about
  a device group leaves it as it is, unless the message is a
  change of a group without an id, for the pipeline's owner,
  and the pipeline is for an event that can be expanded.
-/
theorem handleGroupCommand_leaves_iff
    {r : PipelineRow}
    (hNoGroup : r.IsOnNoGroup)
    (message : Json) :
    (∀ {σ : Type} (h : AnalyticsHandler σ) (pipelines : σ → RunningPipelines)
        (d : Dispatcher σ),
        h.Lawful pipelines →
          h.engine.UpdatesOne pipelines →
            h.Governs pipelines d →
              ∀ s, r ∈ (pipelines s).rows →
                r ∈ (pipelines (d.handleGroupCommand message s).2).rows) ↔
      ¬ r.IsExposedTo message := by
  constructor
  · intro hLeaves hExposed
    apply handleGroupCommand_replaces hNoGroup hExposed
    exact
      hLeaves (onTable (otherToken r)) NumberedPipelines.running _
        (onTable_lawful _)
        NumberedPipelines.updatesOne governs_alone
        (onlyPipeline r) List.mem_cons_self
  · intro hSafe σ h pipelines d hLawful hUpdates hGoverns
    exact handleGroupCommand_leaves hLawful hUpdates hGoverns hNoGroup hSafe

/- A pipeline for an event on an import. -/
def importRow : PipelineRow :=
  describedRow 1 "u1"
    ("\x7b\"deployment_id\":\"d1\",\"function_id\":\"f1\"," ++
      "\"aspect_id\":\"a1\",\"import_id\":\"i1\"\x7d")

/- A change of a group, of which the message tells nothing but these members. -/
def groupMessage
    (members : List (String × Json)) : Json :=
  .obj [("command", .str Verb.put), ("owner", .str "u1"),
    ("device_group", .obj members)]

theorem handleGroupCommand_leaves_iff_import :
    importRow.IsOnNoGroup ∧
      importRow ∈
        ((Dispatcher.alone (onTable ⟨"Bearer"⟩).handler).handleGroupCommand
          (groupMessage [("id", .str "g1")])
          (onlyPipeline importRow)).2.table.rows := by
  have hNoGroup : importRow.IsOnNoGroup := by
    decide +kernel
  have hSafe : ¬ importRow.IsExposedTo (groupMessage [("id", .str "g1")]) := by
    rintro ⟨c, hDecode, -, hGroup, -⟩
    have hId :
        (DeviceGroupCommand.codec.decode (groupMessage [("id", .str "g1")])).map
          (·.deviceGroup.id) = some "g1" := by
      decide +kernel
    rw [hDecode, Option.map_some, hGroup] at hId
    exact absurd hId (by decide)
  have hStays :=
    (handleGroupCommand_leaves_iff hNoGroup
      (groupMessage [("id", .str "g1")])).mpr hSafe
      (onTable ⟨"Bearer"⟩) NumberedPipelines.running
      (Dispatcher.alone (onTable ⟨"Bearer"⟩).handler)
      (onTable_lawful _) NumberedPipelines.updatesOne governs_alone
      (onlyPipeline importRow)
      List.mem_cons_self
  generalize
    ((Dispatcher.alone (onTable ⟨"Bearer"⟩).handler).handleGroupCommand
      (groupMessage [("id", .str "g1")])
      (onlyPipeline importRow)).2 = s at hStays ⊢
  exact ⟨hNoGroup, hStays⟩

/- Without an id, the group is taken for the one that the import is not on. -/
theorem handleGroupCommand_replaces_import :
    importRow.IsOnNoGroup ∧
      importRow ∈ (onlyPipeline importRow).table.rows ∧
      importRow ∉
        ((Dispatcher.alone (onTable ⟨"Bearer"⟩).handler).handleGroupCommand
          (groupMessage [])
          (onlyPipeline importRow)).2.table.rows := by
  refine ⟨?_, ?_, ?_⟩
  · decide +kernel
  · exact List.mem_cons_self
  · decide +kernel

end AnalyticsHandler

end ProcessEvents
