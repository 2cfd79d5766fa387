import ProcessEvents.Proofs.Analytics.Answers
import ProcessEvents.Proofs.Analytics.Completion

/-
  This file accounts for the elements of a deployment. Each
  element makes for exactly one pipeline, unless there is a
  reason to pass it over, and the reasons are few: it has no
  message event that could be deployed, its event is unfit as
  it is given, or the lookups for it have been in vain.

  Key definitions include:
    * `Element.selected?`
    * `AnalyticsHandler.IsPassedOver`
    * `PipelineRequest.CarriesEvent`
    * `AnalyticsHandler.Accounts`
    * `AnalyticsHandler.prepare`
    * `AnalyticsHandler.Follows`

  Key theorems include:
    * `AnalyticsHandler.deployElement_records`
    * `AnalyticsHandler.deploy_run`
    * `AnalyticsHandler.deployElements_rows`
    * `AnalyticsHandler.deploy_accounts`
-/

namespace ProcessEvents

variable {σ α : Type}

open ProcessEvents.Action (Keeps Preserves Records Serves notesEach)

/- The message event of an element, if it has a source and a characteristic. -/
def Element.selected?
    (element : Element) : Option (MessageEvent × SourceKind) := do
  let event ← element.messageEvent
  let _ ← event.selection.filterCriteria.characteristicId
  let kind ← event.selection.kind
  return (event, kind)

/-
  What the pipeline of an event carries: the name of the
  element and the id of the event as its name, a record of
  the event and the deployment, and a single node, which is
  the operator that has been looked up.
-/
structure PipelineRequest.CarriesEvent
    (owner deploymentId : String)
    (element : Element)
    (event : MessageEvent)
    (notes : List Note)
    (request : PipelineRequest) : Prop where
  name : request.name = element.name ++ " (" ++ event.eventId ++ ")"
  description :
    ∃ d,
      PipelineDescription.parse? request.description = some d ∧
        d.eventId = event.eventId ∧ d.deploymentId = deploymentId
  node :
    ∃ cell node,
      .flow owner event.flowId (.ok [cell]) ∈ notes ∧
        request.nodes = [node] ∧ node.nodeId = cell.id

namespace AnalyticsHandler

/- Why an element makes for no pipeline. -/
inductive IsPassedOver
    (h : AnalyticsHandler σ)
    (owner deploymentId : String)
    (element : Element)
    (notes : List Note) : Prop where
  | eventless
      (hNone : element.selected? = none)
  | unfit
      {event : MessageEvent} {kind : SourceKind}
      (hSelected : element.selected? = some (event, kind))
      (hUnfit : IsUnfit h.groupsEnabled deploymentId event kind)
  | inVain
      {event : MessageEvent} {kind : SourceKind}
      (hSelected : element.selected? = some (event, kind))
      (hVain : LooksInVain owner event.flowId notes)

theorem IsPassedOver.imp
    {h : AnalyticsHandler σ} {owner deploymentId : String} {element : Element}
    {notes notes' : List Note}
    (hVain : ∀ flowId, LooksInVain owner flowId notes →
      LooksInVain owner flowId notes')
    (hReason : h.IsPassedOver owner deploymentId element notes) :
    h.IsPassedOver owner deploymentId element notes' := by
  cases hReason with
  | eventless hNone => exact .eventless hNone
  | unfit hSelected hUnfit => exact .unfit hSelected hUnfit
  | inVain hSelected hInVain => exact .inVain hSelected (hVain _ hInVain)

/-
  The element is passed over for one of the reasons, and
  nothing is created for it; or there is none of the reasons,
  and exactly one pipeline is created, which carries its
  event.
-/
inductive Accounts
    (h : AnalyticsHandler σ)
    (token : BearerToken)
    (owner deploymentId : String)
    (element : Element)
    (notes : List Note) : Prop where
  | passedOver
      (hReason : h.IsPassedOver owner deploymentId element notes)
      (hNone : creations notes = [])
  | created
      {event : MessageEvent} {kind : SourceKind} {request : PipelineRequest}
      (hSelected : element.selected? = some (event, kind))
      (hNoReason : ¬ h.IsPassedOver owner deploymentId element notes)
      (hOne : creations notes = [(owner, token, request)])
      (hCarries : request.CarriesEvent owner deploymentId element event notes)

theorem Accounts.creations_eq_nil_iff
    {h : AnalyticsHandler σ} {token : BearerToken} {owner deploymentId : String}
    {element : Element} {notes : List Note}
    (hAccounts : h.Accounts token owner deploymentId element notes) :
    creations notes = [] ↔ h.IsPassedOver owner deploymentId element notes := by
  cases hAccounts with
  | passedOver hReason hNone => exact ⟨fun _ => hReason, fun _ => hNone⟩
  | created _ hNoReason hOne _ =>
      rw [hOne]
      exact ⟨nofun, fun hReason => absurd hReason hNoReason⟩

variable (h : AnalyticsHandler σ)

------------------------------------------------------------
-- Elements
------------------------------------------------------------

section

variable {token : BearerToken} {owner deploymentId : String} {element : Element}

/- An element without a context has no event that could be deployed. -/
theorem selected?_of_ofElement?_eq_none
    (hNone : EventContext.ofElement? token owner deploymentId element = none) :
    element.selected? = none := by
  unfold EventContext.ofElement? at hNone
  unfold Element.selected?
  cases hEvent : element.messageEvent with
  | none => rfl
  | some event =>
      rw [hEvent] at hNone
      cases hCharacteristic :
        event.selection.filterCriteria.characteristicId with
      | none =>
          change
            (event.selection.filterCriteria.characteristicId.bind fun _ => _) =
              none
          rw [hCharacteristic]
          rfl
      | some characteristicId =>
          change
            (event.selection.filterCriteria.characteristicId.bind fun _ =>
              some _) = none at hNone
          rw [hCharacteristic] at hNone
          cases hNone

/- The context of an element is made of its event. -/
theorem of_ofElement?
    {c : EventContext}
    (hContext : EventContext.ofElement? token owner deploymentId element =
      some c) :
    c.owner = owner ∧ c.deploymentId = deploymentId ∧
      c.label = element.name ++ " (" ++ c.event.eventId ++ ")" ∧
      element.selected? =
        c.event.selection.kind.map fun kind => (c.event, kind) := by
  simp only [EventContext.ofElement?, Option.bind_eq_bind,
    Option.bind_eq_some_iff, Option.pure_def, Option.some.injEq] at hContext
  rcases hContext with ⟨event, hEvent, characteristicId, hCharacteristic, rfl⟩
  refine ⟨rfl, rfl, rfl, ?_⟩
  simp only [Element.selected?, hEvent, Option.bind_eq_bind, Option.bind_some,
    hCharacteristic, Option.pure_def]
  cases event.selection.kind <;> rfl

end

/- What the request of an element depends on. -/
structure AskedFor
    (h : AnalyticsHandler σ)
    (owner deploymentId : String)
    (element : Element)
    (r : Except DeployError (Option PipelineRequest))
    (notes : List Note) : Prop where
  heeds : Heeds r notes
  uncreated : creations notes = []
  passedOver : r = .ok none → h.IsPassedOver owner deploymentId element notes
  requested :
    ∀ request, r = .ok (some request) →
      ¬ h.IsPassedOver owner deploymentId element notes ∧
        ∃ event kind,
          element.selected? = some (event, kind) ∧
            request.CarriesEvent owner deploymentId element event notes

theorem elementRequest_records
    (token : BearerToken)
    (owner deploymentId : String)
    (element : Element) :
    Records (h.elementRequest token owner deploymentId element)
      (h.recorded.elementRequest token owner deploymentId element)
      (h.AskedFor owner deploymentId element) := by
  have hEventless :
      element.selected? = none →
        Records (return none : Action σ DeployError _) (return none)
          (h.AskedFor owner deploymentId element) :=
    fun hNone => .pure ⟨.nil, rfl, fun _ => .eventless hNone, nofun⟩
  unfold elementRequest
  cases hContext : EventContext.ofElement? token owner deploymentId element with
  | none => exact hEventless (selected?_of_ofElement?_eq_none hContext)
  | some c =>
      rcases of_ofElement? hContext with
        ⟨hOwner, hDeployment, hLabel, hSelected⟩
      dsimp only
      cases hKind : c.event.selection.kind with
      | none => exact hEventless (by rw [hSelected, hKind]; rfl)
      | some kind =>
          rw [hKind, Option.map_some] at hSelected
          apply (h.requestOn_records c kind).mono
          rw [hOwner, hDeployment]
          intro r notes hAsked
          refine ⟨hAsked.heeds, hAsked.uncreated,
            fun hNone => ?_, fun request hSome => ?_⟩
          · rcases hAsked.skipped hNone with hUnfit | hVain
            · exact .unfit hSelected hUnfit
            · exact .inVain hSelected hVain
          · rcases hAsked.requested request hSome with
              ⟨hFit, hFound, cell, hCell, d, inputs, config, hEvent, hFor, rfl⟩
            refine ⟨?_, c.event, kind, hSelected,
              hLabel, ?_, cell, _, hCell, rfl, rfl⟩
            · rintro (hNone | ⟨hSame, hUnfit⟩ | ⟨hSame, hVain⟩)
              · rw [hSelected] at hNone
                cases hNone
              · rw [hSelected] at hSame
                cases hSame
                exact hFit hUnfit
              · rw [hSelected] at hSame
                cases hSame
                exact hFound hVain
            · exact ⟨d, d.parse?_toText, hEvent, hFor.trans hDeployment⟩

/- How the deployment of an element ends. -/
structure Deployed
    (h : AnalyticsHandler σ)
    (token : BearerToken)
    (owner deploymentId : String)
    (element : Element)
    (r : Except DeployError Unit)
    (notes : List Note) : Prop where
  heeds : Heeds r notes
  accounts : r = .ok () → h.Accounts token owner deploymentId element notes
  uncreated : ∀ e, r = .error e → creations notes = []

/- A creation is the last call for an element. -/
theorem create_records
    (token : BearerToken)
    (owner : String)
    (request : PipelineRequest) :
    Records (h.create token owner request)
      (h.recorded.create token owner request)
      fun r notes =>
        ∃ fault,
          notes = [.creation owner token request fault] ∧
            r = fault.elim (.ok ()) fun e => .error (.request e) := by
  have hCall :
      Records (h.engine.create token owner request)
        ((h.engine.create token owner request).noting fun r =>
          Note.creation owner token request (faultOf? r))
        fun r notes => notes = [.creation owner token request (faultOf? r)] :=
    .noting fun _ => rfl
  have hCreate :
      Records
        ((h.engine.create token owner request).mapError DeployError.request)
        ((h.recorded.engine.create token owner request).mapError
          DeployError.request)
        fun r notes =>
          ∃ answer,
            notes = [.creation owner token request (faultOf? answer)] ∧
              r = answer.mapError DeployError.request :=
    hCall.mapError fun r _ hNotes => ⟨r, hNotes, rfl⟩
  unfold create
  apply Records.bind (R := fun _ r notes => r = .ok () ∧ notes = []) hCreate
  · intro p
    exact h.counters.count_records _ _ ⟨rfl, rfl⟩
  · rintro e notes ⟨answer, rfl, hAnswer⟩
    cases answer with
    | error fault =>
        cases hAnswer
        exact ⟨some fault, rfl, rfl⟩
    | ok p => cases hAnswer
  · rintro p r notes more ⟨answer, rfl, hAnswer⟩ ⟨rfl, rfl⟩
    cases answer with
    | error fault => cases hAnswer
    | ok p => exact ⟨none, rfl, rfl⟩

/- A creation is no reason to pass an element over. -/
theorem isPassedOver_append_creation_iff
    {token : BearerToken} {owner deploymentId : String} {element : Element}
    {notes : List Note} {request : PipelineRequest}
    {fault : Option RequestError} :
    h.IsPassedOver owner deploymentId element
        (notes ++ [.creation owner token request fault]) ↔
      h.IsPassedOver owner deploymentId element notes := by
  have hVain : ∀ flowId,
      LooksInVain owner flowId
        (notes ++ [.creation owner token request fault]) ↔
        LooksInVain owner flowId notes := by
    intro flowId
    rw [looksInVain_append_iff, or_iff_left]
    rintro (⟨hNote, -⟩ | ⟨hNote⟩)
    · cases List.mem_singleton.mp hNote
    · cases List.mem_singleton.mp hNote
  exact ⟨.imp fun flowId => (hVain flowId).mp,
    .imp fun flowId => (hVain flowId).mpr⟩

theorem deployElement_records
    (token : BearerToken)
    (owner deploymentId : String)
    (element : Element) :
    Records (h.deployElement token owner deploymentId element)
      (h.recorded.deployElement token owner deploymentId element)
      (h.Deployed token owner deploymentId element) := by
  unfold deployElement
  apply Records.bind
    (R := fun request? r more =>
      (request? = none → r = .ok () ∧ more = []) ∧
        ∀ request, request? = some request →
          ∃ fault,
            more = [.creation owner token request fault] ∧
              r = fault.elim (.ok ()) fun e => .error (.request e))
    (h.elementRequest_records token owner deploymentId element)
  · rintro (_ | request)
    · exact .pure ⟨fun _ => ⟨rfl, rfl⟩, nofun⟩
    · apply (h.create_records token owner request).mono
      intro r notes hCreated
      refine ⟨nofun, fun request' hSame => ?_⟩
      cases hSame
      exact hCreated
  · intro e notes hAsked
    exact ⟨hAsked.heeds.of_error, nofun, fun _ _ => hAsked.uncreated⟩
  · rintro (_ | request) r notes more hAsked ⟨hIfNone, hIfSome⟩
    · rcases hIfNone rfl with ⟨rfl, rfl⟩
      rw [List.append_nil]
      exact ⟨hAsked.heeds.of_ok,
        fun _ => .passedOver (hAsked.passedOver rfl) hAsked.uncreated,
        nofun⟩
    · rcases hIfSome request rfl with ⟨fault, rfl, rfl⟩
      rcases hAsked.requested request rfl with
        ⟨hNoReason, event, kind, hSelected, hCarries⟩
      have hCreations :
          creations (notes ++ [.creation owner token request fault]) =
            creations [.creation owner token request fault] := by
        rw [creations_append, hAsked.uncreated, List.nil_append]
      cases fault with
      | some e =>
          refine ⟨hAsked.heeds.of_ok.append
            (.singleton fun e' hStop => ?_), nofun,
            fun _ _ => hCreations⟩
          cases hStop
          rfl
      | none =>
          refine ⟨hAsked.heeds.of_ok.append (.singleton fun e' hStop => ?_),
            fun _ => ?_, nofun⟩
          · cases hStop
          · refine .created hSelected ?_ hCreations
              ⟨hCarries.name, hCarries.description, ?_⟩
            · rw [isPassedOver_append_creation_iff]
              exact hNoReason
            · rcases hCarries.node with ⟨cell, node, hCell, hNodes, hId⟩
              exact ⟨cell, node, List.mem_append_left _ hCell, hNodes, hId⟩

------------------------------------------------------------
-- Deployments
------------------------------------------------------------

/- What a deployment begins with: the removal, and the token. -/
def prepare
    (h : AnalyticsHandler σ)
    (owner deploymentId : String) : Action σ DeployError BearerToken := do
  h.remove owner deploymentId
  (h.tokens.userToken owner).mapError .auth

theorem deploy_eq_prepare
    (owner : String)
    (deployment : Deployment) :
    h.deploy owner deployment =
      h.prepare owner deployment.id >>= fun token =>
        .forEach (h.deployElement token owner deployment.id)
          deployment.elements := by
  rw [prepare, bind_assoc]
  rfl

theorem Idles.forEach
    {f : α → Action σ DeployError Unit}
    {g : α → Action (σ × List Note) DeployError Unit}
    (hEach : ∀ x, Records (f x) (g x) Idles)
    (l : List α) :
    Records (Action.forEach f l) (Action.forEach g l) Idles := by
  induction l with
  | nil => exact .pure .nil
  | cons x l ih => exact Idles.bind (hEach x) fun _ => ih

/- Nothing is made of the calls of a removal but their failures. -/
theorem remove_records
    (owner deploymentId : String) :
    Records (h.remove owner deploymentId)
      (h.recorded.remove owner deploymentId) Idles := by
  unfold remove
  apply Idles.bind (Idles.other (h.engine.list owner) _)
  intro pipelines
  apply Idles.forEach
  intro p
  unfold removePipeline
  have hRemove := Idles.other (h.engine.remove owner p.id) id
  rw [id_map, id_map] at hRemove
  apply Idles.bind hRemove
  intro _
  exact h.counters.count_records _ _ .nil

theorem prepare_records
    (owner deploymentId : String) :
    Records (h.prepare owner deploymentId)
      (h.recorded.prepare owner deploymentId) Idles := by
  unfold prepare
  apply Idles.bind (h.remove_records owner deploymentId)
  intro _
  apply Records.mapError (P := fun r notes => notes = [Note.token (faultOf? r)])
    (.noting fun _ => rfl)
  rintro r notes rfl
  refine ⟨.singleton fun e hStop => ?_, List.forall_mem_singleton.mpr rfl⟩
  cases r with
  | error e' =>
      cases hStop
      rfl
  | ok token => cases hStop

/- The elements of a deployment heed the failures of their calls. -/
theorem deployElements_records
    (token : BearerToken)
    (owner deploymentId : String)
    (elements : List Element) :
    Records (Action.forEach (h.deployElement token owner deploymentId) elements)
      (Action.forEach (h.recorded.deployElement token owner deploymentId)
        elements) Heeds := by
  intro s
  have hRun := fun record =>
    Records.forEach_run
      (h.deployElement_records token owner deploymentId) elements s record
  refine ⟨_, fun record => (hRun record).1, ?_⟩
  apply (hRun []).2.forall_notes
    (p := fun r note => ∀ e, note.stop? = some e → r = .error e)
  · exact fun _ _ _ hDeployed => hDeployed.heeds
  · intro r note hNote e hStop
    cases hNote e hStop

theorem deploy_records
    (owner : String)
    (deployment : Deployment) :
    Records (h.deploy owner deployment)
      (h.recorded.deploy owner deployment) Heeds := by
  rw [deploy_eq_prepare, deploy_eq_prepare]
  apply Records.bind (h.prepare_records owner deployment.id)
    fun token =>
      h.deployElements_records token owner deployment.id deployment.elements
  · exact fun _ _ hNotes => hNotes.heeds.of_error
  · exact fun _ _ _ _ hNotes hMore => hNotes.heeds.of_ok.append hMore

/-
  A deployment that has got its token comes to its elements,
  one after the other.
-/
theorem deploy_run
    {owner : String} {deployment : Deployment} {token : BearerToken} {s s₁ : σ}
    (hPrepare : h.prepare owner deployment.id s = (.ok token, s₁)) :
    ∃ front,
      (∀ note ∈ front, note.isIdle = true) ∧
        h.recorded.deploy owner deployment (s, []) =
          ((h.deploy owner deployment s).1, (h.deploy owner deployment s).2,
            front ++
              (notesEach (h.recorded.deployElement token owner deployment.id)
                deployment.elements s₁).flatten) ∧
        Serves (h.Deployed token owner deployment.id) deployment.elements
          (h.deploy owner deployment s).1
          (notesEach (h.recorded.deployElement token owner deployment.id)
            deployment.elements s₁) := by
  rcases (h.prepare_records owner deployment.id).run s [] with ⟨hFront, hIdles⟩
  rw [hPrepare] at hFront hIdles
  rcases Records.forEach_run (h.deployElement_records token owner deployment.id)
      deployment.elements s₁
      (Action.notesOf (h.recorded.prepare owner deployment.id) s) with
    ⟨hRun, hServes⟩
  refine ⟨_, hIdles.idle, ?_⟩
  rw [deploy_eq_prepare, deploy_eq_prepare, Action.bind_of_ok hPrepare,
    Action.bind_of_ok hFront]
  exact ⟨hRun, hServes⟩

------------------------------------------------------------
-- Pipelines
------------------------------------------------------------

section

variable {h} {pipelines : σ → RunningPipelines} {base : List PipelineRow}

/-
  Unless a creation has failed, the pipelines are those that
  there have been before, and those that have been created.
-/
def Follows
    (pipelines : σ → RunningPipelines)
    (base : List PipelineRow)
    (s : σ × List Note) : Prop :=
  (∀ note ∈ s.2, note.isCreation = true → note.fault? = none) →
    ∃ created,
      (pipelines s.1).rows = base ++ created ∧
        created.map PipelineRow.content = creations s.2

/- A call that neither creates nor removes pipelines has no part in them. -/
theorem follows_noting
    {ε : Type} {a : Action σ ε α}
    (hKeeps : Keeps pipelines a)
    {note : Except ε α → Note}
    (hNote : ∀ r, (note r).isCreation = false) :
    Preserves (Follows pipelines base) (a.noting note) := by
  intro s hBefore hMade
  rcases List.forall_mem_append.mp hMade with ⟨hMadeBefore, -⟩
  rcases hBefore hMadeBefore with ⟨created, hRows, hCreated⟩
  have hNothing : creations [note (a s.1).1] = [] := by
    rw [creations, List.filterMap_eq_nil_iff, List.forall_mem_singleton]
    exact Note.created?_of_not_isCreation (hNote _)
  refine ⟨created, ?_, ?_⟩
  · rw [← hRows, ← hKeeps s.1]
    rfl
  · rw [hCreated]
    change _ = creations (s.2 ++ [note (a s.1).1])
    rw [creations_append, hNothing, List.append_nil]

theorem follows_asks
    (hLawful : h.Lawful pipelines) :
    h.recorded.Asks (Preserves (Follows pipelines base)) where
  devices :=
    { ofGroup :=
        fun id => follows_noting (hLawful.asks.devices.ofGroup id) fun _ => rfl
      ofDevices := fun ids =>
        follows_noting (hLawful.asks.devices.ofDevices ids) fun _ => rfl
      selectables := fun criteria =>
        follows_noting (hLawful.asks.devices.selectables criteria) fun _ => rfl
      function :=
        fun id => follows_noting (hLawful.asks.devices.function id) fun _ => rfl
      concept :=
        fun id => follows_noting (hLawful.asks.devices.concept id) fun _ => rfl
      service := fun id =>
        follows_noting (hLawful.asks.devices.service id) fun _ => rfl }
  imports :=
    { importInstance := fun userId id =>
        follows_noting (hLawful.asks.imports.importInstance userId id)
          fun _ => rfl
      importType := fun userId id =>
        follows_noting (hLawful.asks.imports.importType userId id)
          fun _ => rfl }
  userToken owner := follows_noting (hLawful.asks.userToken owner) fun _ => rfl
  flowInputs owner flowId :=
    follows_noting (hLawful.asks.flowInputs owner flowId) fun _ => rfl

/- A creation adds its pipeline at the end, as it is noted. -/
theorem follows_create
    (hLawful : h.Lawful pipelines)
    (token : BearerToken)
    (owner : String)
    (request : PipelineRequest) :
    Preserves (Follows pipelines base)
      (h.recorded.engine.create token owner request) := by
  intro s hBefore hMade
  rcases List.forall_mem_append.mp hMade with ⟨hMadeBefore, hMadeLast⟩
  rcases hBefore hMadeBefore with ⟨created, hRows, hCreated⟩
  have hLast := List.forall_mem_singleton.mp hMadeLast rfl
  change ∃ created,
    (pipelines (h.engine.create token owner request s.1).2).rows =
      base ++ created ∧
      created.map PipelineRow.content =
        creations
          (s.2 ++
            [.creation owner token request
              (faultOf? (h.engine.create token owner request s.1).1)])
  rcases hRun : h.engine.create token owner request s.1 with ⟨e | p, s'⟩
  · rw [hRun] at hLast
    cases hLast
  · refine ⟨created ++ [{ id := p.id, owner, token, request }], ?_, ?_⟩
    · rw [hLawful.engine.create_ok hRun, hRows, List.append_assoc]
    · rw [creations_append, List.map_append, hCreated]
      rfl

/- Unless the result is the failure of a call, no creation has failed. -/
theorem made_of_heeds
    {r : Except DeployError α} {notes : List Note}
    (hHeeds : Heeds r notes)
    (hOther : ∀ e, r ≠ .error (.request e)) :
    ∀ note ∈ notes, note.isCreation = true → note.fault? = none := by
  intro note hMem hCreation
  have hNoted := hHeeds note hMem
  cases note with
  | creation noteOwner noteToken request fault =>
      cases fault with
      | none => rfl
      | some e => exact absurd (hNoted (.request e) rfl) (hOther e)
  | _ => cases hCreation

/-
  After the elements there are the pipelines that have been
  created for them.
-/
theorem deployElements_rows
    (hLawful : h.Lawful pipelines)
    {token : BearerToken} {owner deploymentId : String}
    {elements : List Element} {s : σ}
    (hMade :
      ∀ note ∈
          (notesEach (h.recorded.deployElement token owner deploymentId)
            elements s).flatten,
        note.isCreation = true → note.fault? = none) :
    ∃ created,
      (pipelines (Action.forEach
        (h.deployElement token owner deploymentId) elements s).2).rows =
          (pipelines s).rows ++ created ∧
        created.map PipelineRow.content =
          creations
            (notesEach (h.recorded.deployElement token owner deploymentId)
              elements s).flatten := by
  have hCount :
      ∀ c n,
        Preserves (Follows pipelines (pipelines s).rows)
          (h.recorded.counters.count c n :
            Action (σ × List Note) DeployError Unit) := by
    intro c n s' hBefore hMade
    rcases hBefore hMade with ⟨created, hRows, hCreated⟩
    refine ⟨created, ?_, hCreated⟩
    rw [← hRows, ← hLawful.count c n s'.1]
    rfl
  have hFollows :
      Preserves (Follows pipelines (pipelines s).rows)
        (Action.forEach
          (h.recorded.deployElement token owner deploymentId) elements) := by
    refine Preserves.closed.toSequential.forEach elements fun element _ => ?_
    exact deployElement_closed Preserves.closed
      (follows_asks hLawful) (follows_create hLawful)
      hCount token owner deploymentId element
  have hEnd := hFollows (s, []) fun _ => ⟨[], (List.append_nil _).symm, rfl⟩
  rw [(Records.forEach_run
    (h.deployElement_records token owner deploymentId) elements s []).1,
    List.nil_append] at hEnd
  exact hEnd hMade

/- In the beginning, the owner's pipelines for the deployment are removed. -/
theorem prepare_rows
    (hLawful : h.Lawful pipelines)
    {owner deploymentId : String} {token : BearerToken} {s s₁ : σ}
    (hPrepare : h.prepare owner deploymentId s = (.ok token, s₁)) :
    (pipelines s₁).rows = (pipelines s).besides owner deploymentId := by
  unfold prepare at hPrepare
  rcases Action.bind_eq_ok_iff.mp hPrepare with ⟨_, s', hRemove, hToken⟩
  rw [(hLawful.asks.userToken owner).of_eq
    (Action.mapError_eq_ok_iff.mp hToken),
    remove_rows hLawful hRemove]
  rfl

/-
  A deployment none of whose creations has failed leaves what
  has been created, besides the pipelines of others.
-/
theorem deploy_rows
    (hLawful : h.Lawful pipelines)
    {owner : String} {deployment : Deployment} {token : BearerToken} {s s₁ : σ}
    (hPrepare : h.prepare owner deployment.id s = (.ok token, s₁))
    (hMade :
      ∀ note ∈
          (notesEach (h.recorded.deployElement token owner deployment.id)
            deployment.elements s₁).flatten,
        note.isCreation = true → note.fault? = none) :
    ∃ created,
      (pipelines (h.deploy owner deployment s).2).rows =
          (pipelines s).besides owner deployment.id ++ created ∧
        created.map PipelineRow.content =
          creations
            (notesEach (h.recorded.deployElement token owner deployment.id)
              deployment.elements s₁).flatten := by
  rw [deploy_eq_prepare,
    Action.bind_of_ok hPrepare, ← prepare_rows hLawful hPrepare]
  exact deployElements_rows hLawful hMade

end

/-
  What becomes of the elements of a deployment, whatever the
  collaborators answer. The record beside the run tells what
  they have answered. If there has been no token, or if a
  request has not got through, then this is the error that
  the deployment ends in. If it succeeds, then exactly one
  pipeline has been created for each element, in their order,
  but for the elements that there is a reason to pass over.
-/
theorem deploy_accounts
    (owner : String)
    (deployment : Deployment)
    (s : σ) :
    ∃ r t log,
      h.deploy owner deployment s = (r, t) ∧
        h.recorded.deploy owner deployment (s, []) = (r, t, log) ∧
        (∀ note ∈ log, ∀ e, note.fault? = some e →
          e.isUnanswered = true → r = .error e) ∧
        (r = .ok () →
          ∃ token s₁ front parts,
            h.prepare owner deployment.id s = (.ok token, s₁) ∧
              parts =
                notesEach (h.recorded.deployElement token owner deployment.id)
                  deployment.elements s₁ ∧
              log = front ++ parts.flatten ∧
              creations front = [] ∧
              List.Forall₂ (h.Accounts token owner deployment.id)
                deployment.elements parts ∧
              ∀ {pipelines : σ → RunningPipelines},
                h.Lawful pipelines →
                  ∃ created,
                    (pipelines t).rows =
                      (pipelines s).besides owner deployment.id ++ created ∧
                      created.map PipelineRow.content = creations log) := by
  rcases hDeploy : h.deploy owner deployment s with ⟨r, t⟩
  have hRecords := (h.deploy_records owner deployment).run s []
  rw [hDeploy, List.nil_append] at hRecords
  rcases hRecords with ⟨hRecorded, hHeeds⟩
  refine ⟨r, t, _, rfl, hRecorded, ?_, ?_⟩
  · intro note hMem e hFault hUnanswered
    exact hHeeds note hMem e (Note.stop?_of_isUnanswered hFault hUnanswered)
  · rintro rfl
    have hBegin := hDeploy
    rw [deploy_eq_prepare] at hBegin
    rcases Action.bind_eq_ok_iff.mp hBegin with ⟨token, s₁, hPrepare, -⟩
    rcases h.deploy_run hPrepare with ⟨front, hIdle, hRun, hServes⟩
    rw [hDeploy] at hRun hServes
    rw [hRecorded, Prod.mk.injEq, Prod.mk.injEq] at hRun
    have hLog := hRun.2.2
    have hFront : creations front = [] := creations_of_isIdle hIdle
    refine ⟨token, s₁, front, _, hPrepare, rfl, hLog, hFront, ?_, ?_⟩
    · apply (hServes.forall₂_of_ok rfl).imp
      exact fun _ _ hDeployed => hDeployed.accounts rfl
    · intro pipelines hLawful
      have hMade := made_of_heeds hHeeds nofun
      rw [hLog, List.forall_mem_append] at hMade
      have hRows := deploy_rows hLawful hPrepare hMade.2
      rw [hDeploy] at hRows
      rw [hLog, creations_append, hFront, List.nil_append]
      exact hRows

end AnalyticsHandler

end ProcessEvents
