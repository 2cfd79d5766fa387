import ProcessEvents.Proofs.Analytics.GroupUpdate

/-
  An update of a device group deploys the events of the
  group's pipelines again, from what stands in the pipelines.
  This file shows that it comes to the same as a deployment
  of the elements that the pipelines have been created for:
  each pipeline runs what such a deployment would create now,
  under its old id, and nothing else changes.

  Key definitions include:
    * `PipelineRow.IsOnGroup`
    * `AnalyticsHandler.Settled`
    * `AnalyticsHandler.AnswersWith`
    * `AnalyticsHandler.renewed`, `AnalyticsHandler.renewedAmong`

  Key theorems include:
    * `AnalyticsHandler.elementRequest_group`
    * `AnalyticsHandler.Settled.sourceRequest_members`
    * `AnalyticsHandler.renewed_renewed`
    * `AnalyticsHandler.updatePipeline_rows`
    * `AnalyticsHandler.updateGroup_renewed`
    * `AnalyticsHandler.updateGroup_agrees`
-/

namespace ProcessEvents

variable {σ : Type}

open ProcessEvents.Action (FixedWhere Gives Keeps Preserves)

/- The pipeline has a record that names the group. -/
def PipelineRow.IsOnGroup
    (groupId : String)
    (r : PipelineRow) : Prop :=
  ∃ p, r.event? = some p ∧ p.description.deviceGroupId = groupId

namespace AnalyticsHandler

------------------------------------------------------------
-- Elements with an event on a group
------------------------------------------------------------

/-
  An event on a group either is skipped by every handler, or
  makes all of them ask for a request of the same event with
  the same label, if groups are enabled.
-/
theorem elementRequest_group
    {element : Element} {event : MessageEvent} {groupId : String}
    (hEvent : element.messageEvent = some event)
    (hKind : event.selection.kind = some (.deviceGroup groupId))
    (owner deploymentId : String) :
    (∃ label e,
      e.deviceGroupId = groupId ∧
        SourceEvent.ofDescription e.groupDescription = e ∧
        ∀ (h : AnalyticsHandler σ) token,
          h.elementRequest token owner deploymentId element =
            if h.groupsEnabled then h.sourceRequest token owner label e
            else return none) ∨
      ∀ (h : AnalyticsHandler σ) token,
        h.elementRequest token owner deploymentId element = return none := by
  cases hCharacteristic : event.selection.filterCriteria.characteristicId with
  | none =>
      right
      intro h token
      rw [elementRequest, EventContext.ofElement?, hEvent, Option.bind_eq_bind,
        Option.bind_some, hCharacteristic]
      rfl
  | some characteristicId =>
      let context (token : BearerToken) : EventContext :=
        { token, owner, deploymentId
          label := element.name ++ " (" ++ event.eventId ++ ")"
          event, characteristicId }
      have hRequest :
          ∀ (h : AnalyticsHandler σ) token,
            h.elementRequest token owner deploymentId element =
              h.groupRequest (context token) groupId := by
        intro h token
        have hContext :
            EventContext.ofElement? token owner deploymentId element =
              some (context token) := by
          rw [EventContext.ofElement?, hEvent, Option.bind_eq_bind,
            Option.bind_some, hCharacteristic]
          rfl
        rw [elementRequest, hContext]
        dsimp only
        rw [hKind]
        rfl
      cases hSource : (context ⟨""⟩).sourceEvent? with
      | none =>
          right
          intro h token
          have hNone : (context token).sourceEvent? = none := hSource
          rw [hRequest, groupRequest, hNone]
          cases h.groupsEnabled with
          | false => rfl
          | true => rfl
      | some e =>
          left
          refine ⟨(context ⟨""⟩).label, { e with deviceGroupId := groupId },
            rfl, ?_, ?_⟩
          · simp only [EventContext.sourceEvent?, Option.bind_eq_bind,
              Option.bind_eq_some_iff, Option.pure_def,
              Option.some.injEq] at hSource
            rcases hSource with ⟨functionId, -, aspectId, -, rfl⟩
            rfl
          · intro h token
            have hSome : (context token).sourceEvent? = some e := hSource
            rw [hRequest, groupRequest, hSome]
            cases h.groupsEnabled with
            | false => rfl
            | true => rfl

------------------------------------------------------------
-- Answers that do not change
------------------------------------------------------------

/-
  Where the condition holds, everything that is asked for is
  answered in one way, every flow has one operator, and
  neither listing nor updating pipelines changes any of it.
-/
structure Settled
    (h : AnalyticsHandler σ)
    (now : σ → Prop) : Prop where
  asks : h.Asks (FixedWhere now)
  operator :
    ∀ (owner flowId : String) {s : σ},
      now s → ∃ cell s', h.engine.flowInputs owner flowId s = (.ok [cell], s')
  list : ∀ owner, Preserves now (h.engine.list owner)
  update :
    ∀ token owner request, Preserves now (h.engine.update token owner request)

namespace Settled

variable {h : AnalyticsHandler σ} {now : σ → Prop}

theorem conversions
    (hSettled : h.Settled now)
    (functionId : Option String) :
    FixedWhere now (h.conversions functionId) := by
  have hP : Action.Sequential (FixedWhere now) := FixedWhere.sequential
  unfold AnalyticsHandler.conversions
  cases functionId with
  | none => exact hP.pure _
  | some id =>
      apply FixedWhere.bind_attempt (hSettled.asks.devices.function id)
      intro function
      dsimp only
      by_cases hNone : function.conceptId == ""
      · rw [if_pos hNone]
        exact hP.pure _
      · rw [if_neg hNone]
        apply FixedWhere.bind_attempt (hSettled.asks.devices.concept _)
        intro concept
        exact hP.pure _

/- The node of a request on a flow is the flow's operator. -/
theorem operatorNode
    (hSettled : h.Settled now)
    {s : σ}
    (hNow : now s)
    (owner flowId : String) :
    ∃ node, Gives now (h.operatorNode owner flowId) (some node) := by
  rcases hSettled.asks.flowInputs owner flowId with ⟨cells, hCells⟩
  rcases hCells s hNow with ⟨s₁, hRun, -⟩
  rcases hSettled.operator owner flowId hNow with ⟨cell, s₂, hOne⟩
  rw [hRun] at hOne
  cases hOne
  exact ⟨cell.id, hCells.attempt.bind (Gives.pure (some cell.id))⟩

end Settled

section

variable {h : AnalyticsHandler σ} {now : σ → Prop}
variable (token : BearerToken) (owner label : String) {e : SourceEvent}

/- What has been answered is put together to the request. -/
theorem sourceRequest_gives
    {source : ExpansionSource} {expansion : Expansion}
    {conversions : List Conversion}
    {node : String}
    (hSource : expansionSource e = .ok source)
    (hExpandable : isExpandable e = true)
    (hExpansion :
      Gives now (h.devices.expand source e.functionId e.aspectId) expansion)
    (hConversions : Gives now (h.conversions (some e.functionId)) conversions)
    (hNode : Gives now (h.operatorNode owner e.flowId) (some node)) :
    Gives now (h.sourceRequest token owner label e)
      (some (e.groupRequest h.settings token label
        node expansion conversions)) := by
  unfold sourceRequest
  rw [hSource]
  apply (Gives.pure source).bind
  rw [if_pos hExpandable]
  apply hExpansion.attempt.bind
  apply hConversions.bind
  exact hNode.bind (Gives.pure _)

/- An event on given devices always makes for the same request. -/
theorem Settled.sourceRequest_fixed
    (hSettled : h.Settled now)
    {s : σ}
    (hNow : now s)
    (e : SourceEvent)
    (deviceIds : List String) :
    FixedWhere now
      (h.sourceRequest token owner label { e with
        deviceIds := some deviceIds }) := by
  by_cases hExpandable : isExpandable e = true
  · rcases hSettled.asks.devices.expand FixedWhere.sequential
      (.devices deviceIds)
      e.functionId e.aspectId with ⟨expansion, hExpansion⟩
    rcases hSettled.conversions (some e.functionId) with
      ⟨conversions, hConversions⟩
    rcases hSettled.operatorNode hNow owner e.flowId with ⟨node, hNode⟩
    exact
      ⟨_, sourceRequest_gives token owner label
        rfl hExpandable hExpansion hConversions hNode⟩
  · refine ⟨none, ?_⟩
    unfold sourceRequest
    apply (Gives.pure (ExpansionSource.devices deviceIds)).bind
    have hBare : ¬ isExpandable { e with deviceIds := some deviceIds } = true :=
      hExpandable
    rw [if_neg hBare]
    exact Gives.pure none

/-
  The members that are given for a group make for the same
  request as the group, if the same devices are found.
-/
theorem Settled.sourceRequest_members
    (hSettled : h.Settled now)
    {s : σ}
    (hNow : now s)
    {deviceIds : List String}
    (hMembers :
      ∀ s, now s →
        (h.devices.ofGroup e.deviceGroupId s).1 =
          (h.devices.ofDevices deviceIds s).1)
    (hGroup : expansionSource e = .ok (.group e.deviceGroupId))
    (hExpandable : isExpandable e = true) :
    ∃ request,
      Gives now (h.sourceRequest token owner label e) (some request) ∧
        Gives now
          (h.sourceRequest token owner label { e with
            deviceIds := some deviceIds })
          (some request) := by
  rcases hSettled.asks.devices.ofGroup e.deviceGroupId with ⟨infos, hInfos⟩
  rcases hSettled.asks.devices.ofDevices deviceIds with ⟨infos', hInfos'⟩
  have hSame : infos' = infos := by
    rcases hInfos s hNow with ⟨s₁, hRun, -⟩
    rcases hInfos' s hNow with ⟨s₂, hRun', -⟩
    have hFound := hMembers s hNow
    rw [hRun, hRun'] at hFound
    cases hFound
    rfl
  subst hSame
  rcases hSettled.asks.devices.selectables
    [.measuring e.functionId e.aspectId] with
    ⟨selectables, hSelectables⟩
  have hExpand :
      ∀ source,
        Gives now (h.devices.infosOf source) infos' →
          Gives now (h.devices.expand source e.functionId e.aspectId)
            (.ofOptions infos'.devices
              (pathOptions infos'.deviceTypeIds selectables)) :=
    fun source hSource => hSource.bind (hSelectables.bind (Gives.pure _))
  rcases hSettled.conversions (some e.functionId) with
    ⟨conversions, hConversions⟩
  rcases hSettled.operatorNode hNow owner e.flowId with ⟨node, hNode⟩
  exact
    ⟨_,
      sourceRequest_gives token owner label hGroup hExpandable
        (hExpand _ hInfos)
        hConversions hNode,
      sourceRequest_gives token owner label rfl hExpandable
        (hExpand (.devices deviceIds) hInfos')
        hConversions hNode⟩

end

------------------------------------------------------------
-- Pipelines that are renewed
------------------------------------------------------------

/-
  A pipeline of the owner's on the group runs the new request
  for its event, if there is one, under its old id.
-/
def renewed
    (token : BearerToken)
    (owner groupId : String)
    (ask : EventPipeline → Option PipelineRequest)
    (r : PipelineRow) : PipelineRow :=
  match r.event? with
  | none => r
  | some p =>
    if r.owner = owner ∧ p.description.deviceGroupId = groupId then
      match ask p with
      | none => r
      | some request => { r with token, request := { request with id := p.id } }
    else r

section

variable {token : BearerToken} {owner groupId : String}
variable {ask : EventPipeline → Option PipelineRequest}
  {r : PipelineRow} {p : EventPipeline}

theorem renewed_of_ask_none
    (hEvent : r.event? = some p)
    (hNone : ask p = none) :
    renewed token owner groupId ask r = r := by
  simp only [renewed, hEvent, hNone, ite_self]

theorem renewed_of_ask_some
    (hEvent : r.event? = some p)
    (hOwner : r.owner = owner)
    (hGroup : p.description.deviceGroupId = groupId)
    {request : PipelineRequest}
    (hSome : ask p = some request) :
    renewed token owner groupId ask r =
      { r with token, request := { request with id := p.id } } := by
  simp only [renewed, hEvent, hOwner, hGroup, hSome, and_self, if_true]

/- Other pipelines are left as they are. -/
theorem renewed_of_not
    (hOther : ¬ (r.owner = owner ∧ r.IsOnGroup groupId)) :
    renewed token owner groupId ask r = r := by
  unfold renewed
  cases hEvent : r.event? with
  | none => rfl
  | some p =>
      apply if_neg
      intro hBoth
      exact hOther ⟨hBoth.1, p, hEvent, hBoth.2⟩

/- A pipeline is not renewed, or it is the owner's and gets a new request. -/
theorem renewed_cases
    (token : BearerToken)
    (owner groupId : String)
    (ask : EventPipeline → Option PipelineRequest)
    (r : PipelineRow) :
    renewed token owner groupId ask r = r ∨
      ∃ p request,
        r.event? = some p ∧
          r.owner = owner ∧
          p.description.deviceGroupId = groupId ∧
          ask p = some request ∧
          renewed token owner groupId ask r =
            { r with token, request := { request with id := p.id } } := by
  by_cases hOn : r.owner = owner ∧ r.IsOnGroup groupId
  · rcases hOn with ⟨hOwner, p, hEvent, hGroup⟩
    cases hAsk : ask p with
    | none => exact Or.inl (renewed_of_ask_none hEvent hAsk)
    | some request =>
        exact
          Or.inr ⟨p, request, hEvent, hOwner, hGroup, hAsk,
            renewed_of_ask_some hEvent hOwner hGroup hAsk⟩
  · exact Or.inl (renewed_of_not hOn)

theorem renewed_id :
    (renewed token owner groupId ask r).id = r.id := by
  rcases renewed_cases token owner groupId ask r with
    hSame | ⟨p, request, -, -, -, -, hNew⟩
  · rw [hSame]
  · rw [hNew]

theorem renewed_owner :
    (renewed token owner groupId ask r).owner = r.owner := by
  rcases renewed_cases token owner groupId ask r with
    hSame | ⟨p, request, -, -, -, -, hNew⟩
  · rw [hSame]
  · rw [hNew]

end

/- The request of each pipeline's event, on the members given. -/
def AnswersWith
    (h : AnalyticsHandler σ)
    (now : σ → Prop)
    (token : BearerToken)
    (owner : String)
    (group : DeviceGroup)
    (ask : EventPipeline → Option PipelineRequest) : Prop :=
  ∀ p,
    Gives now (h.sourceRequest token owner p.name (memberEvent group p)) (ask p)

theorem Settled.answersWith
    {h : AnalyticsHandler σ} {now : σ → Prop} {s : σ}
    (hSettled : h.Settled now)
    (hNow : now s)
    (token : BearerToken)
    (owner : String)
    (group : DeviceGroup) :
    ∃ ask, h.AnswersWith now token owner group ask :=
  Classical.skolem.mp fun p =>
    hSettled.sourceRequest_fixed token owner p.name hNow
      (.ofDescription p.description)
      group.deviceIds

/-
  What has been renewed has the name and the record that it
  had before, so that it is not renewed to anything else.
-/
theorem renewed_renewed
    {h : AnalyticsHandler σ} {now : σ → Prop} {s : σ}
    {token : BearerToken} {owner : String} {group : DeviceGroup}
    {ask : EventPipeline → Option PipelineRequest}
    (hNow : now s)
    (hAsk : h.AnswersWith now token owner group ask)
    (r : PipelineRow) :
    renewed token owner group.id ask (renewed token owner group.id ask r) =
      renewed token owner group.id ask r := by
  rcases renewed_cases token owner group.id ask r with
    hSame | ⟨p, request, hEvent, hOwner, hGroup, hSome, hNew⟩
  · rw [hSame, hSame]
  · rcases hAsk p s hNow with ⟨s₁, hRun, -⟩
    rw [hSome] at hRun
    rcases h.sourceRequest_describes token owner p.name
      (memberEvent group p) s _ s₁ hRun
      request rfl with ⟨-, hName, hDescription⟩
    let again : EventPipeline :=
      { id := p.id
        name := p.name
        description := (memberEvent group p).groupDescription }
    have hId := (PipelineRow.event?_eq_some_iff.mp hEvent).2.1
    have hAgain : (renewed token owner group.id ask r).event? = some again := by
      rw [hNew]
      apply PipelineRow.event?_eq_some_iff.mpr
      refine ⟨?_, hId, hName.symm⟩
      change PipelineDescription.parse? request.description = _
      rw [hDescription]
      exact PipelineDescription.parse?_toText _
    have hAskAgain : ask again = some request := by
      rw [← hSome]
      exact Gives.unique hNow (hAsk again) (hAsk p)
    rw [hNew] at hAgain ⊢
    exact renewed_of_ask_some hAgain hOwner hGroup hAskAgain

------------------------------------------------------------
-- Updates
------------------------------------------------------------

/- Of all pipelines, those with the given ids have been renewed. -/
def renewedAmong
    (token : BearerToken)
    (owner groupId : String)
    (ask : EventPipeline → Option PipelineRequest)
    (ids : List String)
    (r : PipelineRow) : PipelineRow :=
  if r.id.toText ∈ ids then renewed token owner groupId ask r else r

section

variable {h : AnalyticsHandler σ} {pipelines : σ → RunningPipelines}
  {now : σ → Prop}
variable {token : BearerToken} {owner : String} {group : DeviceGroup}
variable {ask : EventPipeline → Option PipelineRequest}

theorem renewedAmong_id
    (ids : List String)
    (r : PipelineRow) :
    (renewedAmong token owner group.id ask ids r).id = r.id := by
  unfold renewedAmong
  by_cases hMem : r.id.toText ∈ ids
  · rw [if_pos hMem]
    exact renewed_id
  · rw [if_neg hMem]

/- Nothing becomes of the other pipelines if one more has been renewed. -/
theorem renewedAmong_append_of_ne
    {ids : List String} {id : String} {r : PipelineRow}
    (hOther : r.id.toText ≠ id) :
    renewedAmong token owner group.id ask (ids ++ [id]) r =
      renewedAmong token owner group.id ask ids r := by
  unfold renewedAmong
  simp only [List.mem_append, List.mem_singleton, hOther, or_false]

theorem renewedAmong_append_self
    {ids : List String} {r : PipelineRow} :
    renewedAmong token owner group.id ask (ids ++ [r.id.toText]) r =
      renewed token owner group.id ask r := by
  unfold renewedAmong
  exact if_pos (List.mem_append_right _ (List.mem_singleton.mpr rfl))

/-
  A listed pipeline is renewed after some others have been,
  and whatever has become of these stays as it is.
-/
theorem updatePipeline_rows
    (hLawful : h.Lawful pipelines)
    (hReady : h.engine.Ready pipelines)
    (hSettled : h.Settled now)
    (hAsk : h.AnswersWith now token owner group ask)
    {before : RunningPipelines} {r : PipelineRow} {p : EventPipeline}
    (hRow : r ∈ before.rows)
    (hOwner : r.owner = owner)
    (hEvent : r.event? = some p)
    (hGroup : p.description.deviceGroupId = group.id)
    {ids : List String} {s : σ}
    (hNow : now s)
    (hRows :
      (pipelines s).rows =
        before.rows.map (renewedAmong token owner group.id ask ids)) :
    ∃ s',
      h.updatePipeline token owner group p s = (.ok (), s') ∧
        now s' ∧
        (pipelines s').rows =
          before.rows.map
            (renewedAmong token owner group.id ask (ids ++ [p.id])) := by
  have hId := (PipelineRow.event?_eq_some_iff.mp hEvent).2.1
  have hOther :
      ∀ r' ∈ before.rows, r'.id ≠ r.id → r'.id.toText ≠ p.id := by
    intro r' _ hNe hSame
    exact hNe (Uuid.toText_injective (hSame.trans hId))
  rcases hAsk p s hNow with ⟨s₁, hRun, hNow₁⟩
  have hRows₁ :
      (pipelines s₁).rows =
        before.rows.map (renewedAmong token owner group.id ask ids) := by
    rw [← hRows]
    exact congrArg RunningPipelines.rows
      ((hLawful.asks.sourceRequest Keeps.closed token owner p.name _).of_eq
        hRun)
  cases hSome : ask p with
  | none =>
      rw [hSome] at hRun
      refine ⟨s₁, ?_, hNow₁, ?_⟩
      · rw [updatePipeline, Action.bind_of_ok hRun]
        rfl
      · rw [hRows₁]
        apply List.map_congr_left
        intro r' hRow'
        by_cases hSame : r'.id = r.id
        · have hOne : r' = r := before.eq_of_id_eq hRow' hRow hSame
          subst hOne
          rw [hId, renewedAmong_append_self, renewedAmong,
            renewed_of_ask_none hEvent hSome, ite_self]
        · rw [renewedAmong_append_of_ne (hOther r' hRow' hSame)]
  | some request =>
      rw [hSome] at hRun
      have hThere :
          renewedAmong token owner group.id ask ids r ∈
            (pipelines s₁).rows := by
        rw [hRows₁]
        exact List.mem_map_of_mem hRow
      have hText :
          { request with id := p.id }.id =
            (renewedAmong token owner group.id ask ids r).id.toText := by
        rw [renewedAmong_id]
        exact hId
      rcases hReady.update token owner hThere hText with ⟨_, s₂, hUpdate⟩
      refine ⟨s₂, ?_, ?_, ?_⟩
      · rw [updatePipeline, Action.bind_of_ok hRun]
        exact Action.bind_of_ok (Action.mapError_eq_ok_iff.mpr hUpdate)
      · have hAfter :=
          hSettled.update token owner { request with id := p.id } s₁ hNow₁
        rw [hUpdate] at hAfter
        exact hAfter
      · rw [hLawful.engine.update_ok hId hUpdate, hRows₁, List.map_map]
        apply List.map_congr_left
        intro r' hRow'
        rw [Function.comp_apply, renewedAmong_id]
        by_cases hSame : r'.id = r.id
        · have hOne : r' = r := before.eq_of_id_eq hRow' hRow hSame
          subst hOne
          rw [if_pos rfl, hId, renewedAmong_append_self,
            renewed_of_ask_some hEvent hOwner hGroup hSome, hOwner, hId]
        · rw [if_neg hSame, renewedAmong_append_of_ne (hOther r' hRow' hSame)]

/- The listed pipelines are renewed one after the other. -/
theorem updatePipelines_rows
    (hLawful : h.Lawful pipelines)
    (hReady : h.engine.Ready pipelines)
    (hSettled : h.Settled now)
    (hAsk : h.AnswersWith now token owner group ask)
    {before : RunningPipelines} {ps : List EventPipeline}
    (hListed :
      ∀ p ∈ ps,
        p.description.deviceGroupId = group.id ∧
          ∃ r ∈ before.rows, r.owner = owner ∧ r.event? = some p)
    {ids : List String} {s : σ}
    (hNow : now s)
    (hRows :
      (pipelines s).rows =
        before.rows.map (renewedAmong token owner group.id ask ids)) :
    ∃ s',
      Action.forEach (h.updatePipeline token owner group) ps s = (.ok (), s') ∧
        now s' ∧
        (pipelines s').rows =
          before.rows.map
            (renewedAmong token owner group.id ask (ids ++ ps.map (·.id))) := by
  induction ps generalizing ids s with
  | nil =>
      refine ⟨s, rfl, hNow, ?_⟩
      rw [List.map_nil, List.append_nil]
      exact hRows
  | cons p ps ih =>
      rcases List.forall_mem_cons.mp hListed with
        ⟨⟨hGroup, r, hRow, hOwner, hEvent⟩, hRest⟩
      rcases updatePipeline_rows hLawful hReady
        hSettled hAsk hRow hOwner hEvent hGroup hNow
        hRows with ⟨s₁, hHead, hNow₁, hRows₁⟩
      rcases ih hRest hNow₁ hRows₁ with ⟨s', hTail, hNow', hRows'⟩
      refine ⟨s', Action.forEach_cons_eq_ok_iff.mpr ⟨s₁, hHead, hTail⟩,
        hNow', ?_⟩
      rw [hRows', List.append_assoc]
      rfl

/- An update of a group renews all pipelines, and ends well. -/
theorem updateGroup_renewed
    (hLawful : h.Lawful pipelines)
    (hReady : h.engine.Ready pipelines)
    (hSettled : h.Settled now)
    (hEnabled : h.groupsEnabled = true)
    (hToken : Gives now (h.tokens.userToken owner) token)
    (hAsk : h.AnswersWith now token owner group ask)
    {s : σ}
    (hNow : now s) :
    ∃ s',
      h.updateGroup owner group s = (.ok (), s') ∧
        now s' ∧
        (pipelines s').rows =
          (pipelines s).rows.map (renewed token owner group.id ask) := by
  rcases hReady.list owner s with ⟨listed, s₁, hRun⟩
  have hList : h.engine.eventPipelines owner s =
      (.ok (listed.filterMap EventPipeline.ofPipeline?), s₁) :=
    Action.map_eq_ok_iff.mpr ⟨listed, hRun, rfl⟩
  have hNow₁ : now s₁ := by
    have hAfter := hSettled.list owner s hNow
    rw [hRun] at hAfter
    exact hAfter
  have hRows₁ : pipelines s₁ = pipelines s :=
    (hLawful.engine.eventPipelines owner).of_eq hList
  generalize listed.filterMap EventPipeline.ofPipeline? = ps at hList
  generalize hAffected :
    (ps.filter fun p => p.description.deviceGroupId = group.id) = affected
  have hListed :
      ∀ p ∈ affected,
        p.description.deviceGroupId = group.id ∧
          ∃ r ∈ (pipelines s).rows, r.owner = owner ∧ r.event? = some p := by
    intro p hIn
    rw [← hAffected, List.mem_filter] at hIn
    exact ⟨of_decide_eq_true hIn.2,
      (hLawful.engine.mem_eventPipelines hList p).mp hIn.1⟩
  -- those that are not named are none of the owner's on the group
  have hAll :
      (pipelines s).rows.map
        (renewedAmong token owner group.id ask (affected.map (·.id))) =
        (pipelines s).rows.map (renewed token owner group.id ask) := by
    apply List.map_congr_left
    intro r hRow
    have hNamed :=
      hLawful.engine.mem_ids_filter hList
        (fun p => p.description.deviceGroupId = group.id) hRow
    rw [hAffected] at hNamed
    unfold renewedAmong
    by_cases hMem : r.id.toText ∈ affected.map (·.id)
    · rw [if_pos hMem]
    · rw [if_neg hMem]
      symm
      apply renewed_of_not
      rintro ⟨hOwner, p, hEvent, hGroup⟩
      exact hMem (hNamed.mpr ⟨hOwner, p, hEvent, decide_eq_true hGroup⟩)
  have hNone :
      (pipelines s).rows =
        (pipelines s).rows.map (renewedAmong token owner group.id ask []) := by
    conv_lhs => rw [← List.map_id (pipelines s).rows]
    exact List.map_congr_left fun r _ => (if_neg List.not_mem_nil).symm
  cases affected with
  | nil =>
      refine ⟨s₁, ?_, hNow₁, ?_⟩
      · unfold updateGroup
        rw [if_pos hEnabled,
          Action.bind_of_ok (Action.mapError_eq_ok_iff.mpr hList), hAffected]
        rfl
      · rw [hRows₁, ← hAll]
        exact hNone
  | cons p rest =>
      rcases hToken s₁ hNow₁ with ⟨s₂, hTokenRun, hNow₂⟩
      have hRows₂ :
          (pipelines s₂).rows =
            (pipelines s).rows.map
              (renewedAmong token owner group.id ask []) := by
        rw [(hLawful.asks.userToken owner).of_eq hTokenRun, hRows₁]
        exact hNone
      rcases updatePipelines_rows hLawful hReady
        hSettled hAsk hListed hNow₂ hRows₂ with
        ⟨s', hEach, hNow', hRows'⟩
      refine ⟨s', ?_, hNow', ?_⟩
      · rw [updateGroup_of_affected hEnabled hList hAffected hTokenRun]
        exact hEach
      · rw [hRows', List.nil_append]
        exact hAll

end

------------------------------------------------------------
-- Updates and deployments
------------------------------------------------------------

/-
  What makes for a pipeline on a group: an event that can be
  expanded, whose record and whose label the pipeline keeps.
-/
theorem deployElement_group
    {h : AnalyticsHandler σ} {pipelines : σ → RunningPipelines}
    (hLawful : h.Lawful pipelines)
    {element : Element} {event : MessageEvent} {groupId : String}
    (hEvent : element.messageEvent = some event)
    (hKind : event.selection.kind = some (.deviceGroup groupId))
    {token : BearerToken} {owner deploymentId : String} {s s' : σ}
    {r : PipelineRow}
    (hRun : h.deployElement token owner deploymentId element s = (.ok (), s'))
    (hCreated : (pipelines s').rows = (pipelines s).rows ++ [r]) :
    ∃ label e,
      e.deviceGroupId = groupId ∧
        SourceEvent.ofDescription e.groupDescription = e ∧
        expansionSource e = .ok (.group groupId) ∧
        isExpandable e = true ∧
        h.groupsEnabled = true ∧
        r.owner = owner ∧
        r.event? = some ⟨r.id.toText, label, e.groupDescription⟩ ∧
        ∀ (h : AnalyticsHandler σ) token,
          h.elementRequest token owner deploymentId element =
            if h.groupsEnabled then h.sourceRequest token owner label e
            else return none := by
  unfold deployElement at hRun
  rcases Action.bind_eq_ok_iff.mp hRun with ⟨request?, s₁, hAsk, hAct⟩
  have hKeeps :=
    (hLawful.asks.elementRequest Keeps.closed
      token owner deploymentId element).of_eq hAsk
  cases request? with
  | none =>
      cases hAct
      rw [hKeeps] at hCreated
      rw [List.self_eq_append_right] at hCreated
      cases hCreated
  | some request =>
      rcases create_rows hLawful hAct with ⟨r', hRows, hOwner, -, hRowRequest⟩
      rw [hRows, hKeeps, List.append_cancel_left_eq] at hCreated
      cases hCreated
      rcases elementRequest_group hEvent hKind owner deploymentId with
        ⟨label, e, hGroup, hRecord, hRequest⟩ | hNone
      · rw [hRequest] at hAsk
        by_cases hEnabled : h.groupsEnabled = true
        · rw [if_pos hEnabled] at hAsk
          rcases h.sourceRequest_describes token
            owner label e s _ s₁ hAsk request rfl with
            ⟨hExpandable, hName, hDescription⟩
          have hNoIds : e.deviceIds = none := by
            rw [← hRecord]
            rfl
          have hSource : expansionSource e = .ok (.group groupId) := by
            unfold sourceRequest at hAsk
            unfold expansionSource at hAsk ⊢
            rw [hNoIds, hGroup] at hAsk ⊢
            dsimp only at hAsk ⊢
            by_cases hId : (groupId != "") = true
            · rw [if_pos hId]
            · rw [if_neg hId] at hAsk
              cases hAsk
          refine
            ⟨label, e, hGroup, hRecord, hSource,
              hExpandable, hEnabled, hOwner, ?_, hRequest⟩
          apply PipelineRow.event?_eq_some_iff.mpr
          refine ⟨?_, rfl, ?_⟩
          · rw [hRowRequest, hDescription]
            exact PipelineDescription.parse?_toText _
          · rw [hRowRequest]
            exact hName.symm
        · rw [if_neg hEnabled] at hAsk
          cases hAsk
      · rw [hNone] at hAsk
        cases hAsk

/-
  A pipeline has been created for an element with an event on
  a group. If an update finds the same members as the group
  has, then the pipeline runs, under its old id, what a
  deployment of the element would create now. The pipelines
  are the same as before, those that are not the owner's on
  the group run what they did, and another update of the same
  kind changes nothing.
-/
theorem updateGroup_agrees
    {h₀ h : AnalyticsHandler σ} {pipelines : σ → RunningPipelines}
    {now : σ → Prop}
    (hEarlier : h₀.Lawful pipelines)
    (hLawful : h.Lawful pipelines)
    (hReady : h.engine.Ready pipelines)
    (hSettled : h.Settled now)
    (hEnabled : h.groupsEnabled = h₀.groupsEnabled)
    (group : DeviceGroup)
    {element : Element} {event : MessageEvent}
    (hEvent : element.messageEvent = some event)
    (hKind : event.selection.kind = some (.deviceGroup group.id))
    {token₀ : BearerToken} {owner deploymentId : String} {t t' : σ}
    {r₀ : PipelineRow}
    (hDeployed :
      h₀.deployElement token₀ owner deploymentId element t = (.ok (), t'))
    (hCreated : (pipelines t').rows = (pipelines t).rows ++ [r₀])
    (hMembers :
      ∀ s, now s →
        (h.devices.ofGroup group.id s).1 =
          (h.devices.ofDevices group.deviceIds s).1)
    {s : σ} {r : PipelineRow}
    (hNow : now s)
    (hRow : r ∈ (pipelines s).rows)
    (hOwner : r.owner = r₀.owner)
    (hSame : r.event? = r₀.event?) :
    ∃ token request s',
      Gives now (h.tokens.userToken owner) token ∧
        (∀ u, now u →
          ∃ u',
            h.deployElement token owner deploymentId element u =
              h.create token owner request u') ∧
        h.updateGroup owner group s = (.ok (), s') ∧
        { id := r.id, owner, token,
            request := { request with id := r.id.toText } } ∈
          (pipelines s').rows ∧
        (pipelines s').rows.map (fun r => (r.id, r.owner)) =
          (pipelines s).rows.map (fun r => (r.id, r.owner)) ∧
        (∀ r' ∈ (pipelines s).rows,
          ¬ (r'.owner = owner ∧ r'.IsOnGroup group.id) →
            r' ∈ (pipelines s').rows) ∧
        ∃ s'',
          h.updateGroup owner group s' = (.ok (), s'') ∧
            (pipelines s'').rows = (pipelines s').rows := by
  rcases deployElement_group hEarlier hEvent hKind hDeployed hCreated with
    ⟨label, e, hGroup, hRecord, hSource, hExpandable,
      hEnabled₀, hOwner₀, hEvent₀, hRequest⟩
  rcases hSettled.asks.userToken owner with ⟨token, hToken⟩
  rcases hSettled.answersWith hNow token owner group with ⟨ask, hAsk⟩
  rw [← hGroup] at hSource hMembers
  rcases hSettled.sourceRequest_members token
    owner label hNow hMembers hSource hExpandable with
    ⟨request, hDeploy, hUpdate⟩
  rw [hEnabled₀] at hEnabled
  rw [hOwner₀] at hOwner
  rw [hEvent₀] at hSame
  have hMember :
      ∀ id, memberEvent group ⟨id, label, e.groupDescription⟩ =
        { e with deviceIds := some group.deviceIds } := by
    intro id
    rw [← hRecord]
    rfl
  -- the pipeline is renewed with the request that the element makes for
  have hSome :
      ask ⟨r₀.id.toText, label, e.groupDescription⟩ = some request := by
    have hGives := hAsk ⟨r₀.id.toText, label, e.groupDescription⟩
    rw [hMember] at hGives
    exact Gives.unique hNow hGives hUpdate
  have hNew :
      renewed token owner group.id ask r =
        { r with token, request := { request with id := r₀.id.toText } } :=
    renewed_of_ask_some hSame hOwner hGroup hSome
  have hId : r₀.id.toText = r.id.toText :=
    (PipelineRow.event?_eq_some_iff.mp hSame).2.1
  rcases updateGroup_renewed hLawful hReady hSettled
    hEnabled hToken hAsk hNow with
    ⟨s', hRun, hNow', hRows⟩
  rcases updateGroup_renewed hLawful hReady hSettled
    hEnabled hToken hAsk hNow' with
    ⟨s'', hAgain, -, hRows'⟩
  refine ⟨token, request, s', hToken, ?_, hRun, ?_, ?_, ?_, s'', hAgain, ?_⟩
  · intro u hNowU
    rcases hDeploy u hNowU with ⟨u', hAskU, -⟩
    refine ⟨u', ?_⟩
    rw [deployElement, hRequest, if_pos hEnabled, Action.bind_of_ok hAskU]
  · rw [hRows, List.mem_map]
    refine ⟨r, hRow, ?_⟩
    rw [hNew, hOwner, hId]
  · rw [hRows, List.map_map]
    apply List.map_congr_left
    intro r' _
    rw [Function.comp_apply, renewed_id, renewed_owner]
  · intro r' hRow' hOther
    rw [hRows, List.mem_map]
    exact ⟨r', hRow', renewed_of_not hOther⟩
  · rw [hRows', hRows, List.map_map]
    apply List.map_congr_left
    intro r' _
    exact renewed_renewed hNow hAsk r'

/- A handler that finds one device with one service, whatever it looks up. -/
def onDevice : AnalyticsHandler NumberedPipelines :=
  { onTable ⟨"new"⟩ with
    devices :=
      .unchanging
        (.ofDevices [{ id := "device", deviceTypeId := "type" }])
        [{ deviceTypeId := "type"
           services := [{ id := "service" }]
           servicePathOptions :=
             .ofList
               [("service", [{ serviceId := "service", path := "value" }])] }] }

theorem onDevice_asks
    {P : Action.Property NumberedPipelines}
    (hP : Action.Sequential P) :
    onDevice.Asks P :=
  { onTable_asks ⟨"new"⟩ hP with
    devices := DeviceDirectory.all_unchanging hP _ _ }

theorem onDevice_lawful :
    onDevice.Lawful NumberedPipelines.running where
  engine := NumberedPipelines.lawful
  asks := onDevice_asks Keeps.closed.toSequential
  count _ _ _ := rfl

theorem onDevice_settled :
    onDevice.Settled fun _ => True where
  asks := onDevice_asks FixedWhere.sequential
  operator _ _ _ _ := ⟨_, _, rfl⟩
  list _ _ _ := trivial
  update _ _ _ _ _ := trivial

/- An event on a group. -/
def groupEvent : MessageEvent :=
  { flowId := "f1"
    eventId := "e1"
    selection :=
      { filterCriteria :=
          { characteristicId := some "c1"
            functionId := some "fn1"
            aspectId := some "a1" }
        deviceGroupId := some "g1" } }

theorem updateGroup_agrees_onDevice :
    ∃ s r request s',
      (onTable ⟨"old"⟩).deployElement ⟨"old"⟩ "u1" "d1"
          { name := "task", messageEvent := some groupEvent } noPipelines =
              (.ok (), s) ∧
        s.table.rows = [r] ∧
        onDevice.updateGroup "u1" { id := "g1", deviceIds := ["device"] } s =
          (.ok (), s') ∧
        { id := r.id, owner := "u1", token := ⟨"new"⟩,
            request } ∈ s'.table.rows := by
  have hOk :
      ((onTable ⟨"old"⟩).deployElement ⟨"old"⟩ "u1" "d1"
        { name := "task", messageEvent := some groupEvent }
            noPipelines).1.isOk = true := by
    decide +kernel
  have hOne :
      ((onTable ⟨"old"⟩).deployElement ⟨"old"⟩ "u1" "d1"
        { name := "task", messageEvent := some groupEvent }
            noPipelines).2.table.rows.length =
        1 := by
    decide +kernel
  have hDeployed := Action.eq_ok_of_isOk hOk
  generalize
    ((onTable ⟨"old"⟩).deployElement ⟨"old"⟩ "u1" "d1"
      { name := "task", messageEvent := some groupEvent } noPipelines).2 =
          s at hDeployed hOne
  rcases List.length_eq_one_iff.mp hOne with ⟨r, hRows⟩
  have hKind : groupEvent.selection.kind = some (.deviceGroup "g1") := by
    decide
  have hRow : r ∈ s.table.rows := by
    rw [hRows]
    exact List.mem_cons_self
  rcases updateGroup_agrees
    (onTable_lawful ⟨"old"⟩) onDevice_lawful NumberedPipelines.ready
    onDevice_settled rfl
      { id := "g1", deviceIds := ["device"] } rfl hKind hDeployed hRows
    (fun _ _ => rfl) trivial hRow rfl rfl with
    ⟨token, request, s', hToken, -, hRun, hRenewed, -⟩
  have hNew : token = ⟨"new"⟩ := by
    rcases hToken noPipelines trivial with ⟨s₁, hIssued, -⟩
    cases hIssued
    rfl
  subst hNew
  exact ⟨s, r, _, s', hDeployed, hRows, hRun, hRenewed⟩

end AnalyticsHandler

end ProcessEvents
