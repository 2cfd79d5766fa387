import ProcessEvents.Proofs.Deployer

/-
  A deployment takes the place of what has been deployed
  under its id before. This file tells when a message that
  orders one, and has been acknowledged, leaves nothing old:
  unless the first handler has missed the owner, so that the
  second one has not been asked to remove what it holds.

  What is new may be equal to what has been there before.
  Therefore it is not read off the state alone which of it is
  old, but remembered from the start.

  Key definitions include:
    * `Artifact`
    * `Holdings.artifacts`
    * `EventHandler.Replaces`
    * `Deployer.Remembers`
    * `Deployer.Strands`
    * `Marked`

  Key theorems include:
    * `EventHandler.Replaces.none_iff`
    * `Deployer.deploy_leaves_old_iff`, `Deployer.deploy_leaves_none`
    * `Deployer.put_leaves_none_iff`
-/

namespace ProcessEvents

variable {σ : Type}

open ProcessEvents.Action (Keeps Preserves)

------------------------------------------------------------
-- What deployments leave
------------------------------------------------------------

/- A pipeline that is running, or something that is stored. -/
inductive Artifact where
  | pipeline (r : PipelineRow)
  | description (d : EventDescription)
  | indexRow (row : DeploymentIndex)

namespace Artifact

def IsPipeline : Artifact → Prop
  | pipeline _ => True
  | description _ => False
  | indexRow _ => False

/-
  Of pipelines, those of the owner belong to a deployment. Of
  what is stored, all that has its id does.
-/
def IsOf
    (owner deploymentId : String) : Artifact → Prop
  | pipeline r => r.isOf owner deploymentId = true
  | description d => d.deploymentId = deploymentId
  | indexRow row => row.id = deploymentId

end Artifact

def Holdings.artifacts
    (held : Holdings σ)
    (s : σ) : Set Artifact :=
  { a |
    match a with
    | .pipeline r => r ∈ (held.pipelines s).rows
    | .description d => d ∈ (held.stored s).descriptions
    | .indexRow row => row ∈ (held.stored s).index }

namespace Holdings

variable {held : Holdings σ} {s : σ} {owner deploymentId : String}

/- No pipeline belongs to the deployment if none is the owner's for it. -/
theorem exists_pipeline_iff :
    (∃ a ∈ held.artifacts s, a.IsPipeline ∧ a.IsOf owner deploymentId) ↔
      ∃ r ∈ (held.pipelines s).rows, r.isOf owner deploymentId = true := by
  constructor
  · rintro ⟨r | d | row, hHeld, hKind, hIsOf⟩
    · exact ⟨r, hHeld, hIsOf⟩
    · exact hKind.elim
    · exact hKind.elim
  · rintro ⟨r, hRow, hIsOf⟩
    exact ⟨.pipeline r, hRow, trivial, hIsOf⟩

/- Nothing else does if nothing is stored for it. -/
theorem exists_stored_iff :
    (∃ a ∈ held.artifacts s, ¬a.IsPipeline ∧ a.IsOf owner deploymentId) ↔
      (held.stored s).of deploymentId ≠ .empty := by
  constructor
  · rintro ⟨r | d | row, hHeld, hKind, hIsOf⟩ hEmpty
    · exact hKind trivial
    · have hNone := congrArg StoredEvents.descriptions hEmpty
      exact Multiset.filter_eq_nil.mp hNone d hHeld hIsOf
    · have hNone := congrArg StoredEvents.index hEmpty
      exact Multiset.filter_eq_nil.mp hNone row hHeld hIsOf
  · intro hSome
    by_contra hNone
    apply hSome
    apply StoredEvents.ext
    · apply Multiset.filter_eq_nil.mpr
      intro d hHeld hIsOf
      exact hNone ⟨.description d, hHeld, not_false, hIsOf⟩
    · apply Multiset.filter_eq_nil.mpr
      intro row hHeld hIsOf
      exact hNone ⟨.indexRow row, hHeld, not_false, hIsOf⟩

end Holdings

------------------------------------------------------------
-- Handlers that replace
------------------------------------------------------------

/-
  Where a deployment ends in a certain way, the handler has
  taken what belongs to it of one kind from the marked
  artifacts. It never touches those of the other kind.
-/
structure EventHandler.Replaces
    (k : EventHandler σ)
    (marked : σ → Set Artifact)
    (kind : Artifact → Prop)
    (owner : String)
    (deployment : Deployment)
    (ends : Except DeployError Unit → Prop) : Prop where
  takes :
    ∀ {s s' : σ} {result : Except DeployError Unit},
      k.deploy owner deployment s = (result, s') →
        ends result →
          ∀ a, kind a → a.IsOf owner deployment.id → a ∉ marked s'
  spares :
    ∀ a, ¬kind a → Keeps (fun s => a ∈ marked s) (k.deploy owner deployment)

/- A deployment that counts as done although it has failed. -/
def Dispatcher.IsDropped
    (result : Except DeployError Unit) : Prop :=
  IsDone result ∧ result ≠ .ok ()

namespace EventHandler.Replaces

variable {k : EventHandler σ} {marked : σ → Set Artifact}
  {kind : Artifact → Prop}
variable {owner : String} {deployment : Deployment}
  {ends : Except DeployError Unit → Prop}

/- What is left is what has been there of the other kind. -/
theorem none_iff
    (hReplaces : k.Replaces marked kind owner deployment ends)
    {other : Artifact → Prop}
    (hKinds : ∀ a, ¬kind a ↔ other a)
    {s s' : σ} {result : Except DeployError Unit}
    (hRun : k.deploy owner deployment s = (result, s'))
    (hEnd : ends result) :
    (∀ a ∈ marked s', ¬a.IsOf owner deployment.id) ↔
      ¬∃ a ∈ marked s, other a ∧ a.IsOf owner deployment.id := by
  have hSame : ∀ a, ¬kind a → (a ∈ marked s' ↔ a ∈ marked s) :=
    fun a hOther => Iff.of_eq ((hReplaces.spares a hOther).of_eq hRun)
  constructor
  · rintro hNone ⟨a, hMarked, hOther, hIsOf⟩
    exact hNone a ((hSame a ((hKinds a).mpr hOther)).mpr hMarked) hIsOf
  · intro hNone a hMarked hIsOf
    by_cases hKind : kind a
    · exact hReplaces.takes hRun hEnd a hKind hIsOf hMarked
    · exact hNone ⟨a, (hSame a hKind).mp hMarked, (hKinds a).mp hKind, hIsOf⟩

end EventHandler.Replaces

namespace Dispatcher

variable {d : Dispatcher σ} {x y : EventHandler σ}
  {kind other : Artifact → Prop}
variable {old current : σ → Set Artifact} {owner : String}
  {deployment : Deployment}

/-
  Of two handlers, each replaces what is old of its kind. A
  deployment that counts as done leaves nothing old unless
  the first handler has failed and something of the other
  kind has been there.
-/
theorem deploy_leaves_old_iff
    (hHandlers : d.handlers = [x, y])
    (hFirst : x.Replaces old kind owner deployment IsDone)
    (hSecond : y.Replaces old other owner deployment IsDone)
    (hKinds : ∀ a, ¬kind a ↔ other a)
    (hNew : ∀ a, Preserves (fun s => a ∉ old s) (y.deploy owner deployment))
    (hOwn : ∀ a, d.Own (Keeps fun s => a ∈ old s))
    {s s' : σ} {result : Except DeployError Unit}
    (hRun : d.deploy owner deployment s = (result, s'))
    (hDone : IsDone result) :
    (∀ a ∈ old s', ¬a.IsOf owner deployment.id) ↔
      ¬((∃ e t, x.deploy owner deployment s = (.error e, t)) ∧
        ∃ a ∈ old s, other a ∧ a.IsOf owner deployment.id) := by
  rcases deploy_of_isDone hHandlers hRun hDone with
    ⟨m, result', m', hOk, hRest, hEnd, hSame⟩ | ⟨e, hFail, hMissing⟩
  · constructor
    · rintro - ⟨⟨e, t, hFail⟩, -⟩
      rw [hOk] at hFail
      cases hFail
    · -- both handlers have taken what is old of their kinds
      intro _ a hOld hIsOf
      have hOldBefore : a ∈ old m' := (hSame (hOwn a)).mp hOld
      by_cases hKind : kind a
      · have hGone := hNew a m (hFirst.takes hOk .ok a hKind hIsOf)
        rw [hRest] at hGone
        exact hGone hOldBefore
      · exact hSecond.takes hRest hEnd a ((hKinds a).mp hKind) hIsOf hOldBefore
  · -- the second handler has not been asked
    rw [hFirst.none_iff hKinds hFail (.userMissing hMissing)]
    constructor
    · rintro hNone ⟨-, hLeft⟩
      exact hNone hLeft
    · intro hNone hLeft
      exact hNone ⟨⟨e, s', hFail⟩, hLeft⟩

/- If the first handler cannot succeed, then nothing at all is left. -/
theorem deploy_leaves_none
    (hHandlers : d.handlers = [x, y])
    (hFirst : x.Replaces current kind owner deployment IsDropped)
    (hKinds : ∀ a, ¬kind a ↔ other a)
    (hNever : ∀ t t', x.deploy owner deployment t ≠ (.ok (), t'))
    {s s' : σ} {result : Except DeployError Unit}
    (hRun : d.deploy owner deployment s = (result, s'))
    (hDone : IsDone result)
    (hNone :
      ¬((∃ e t, x.deploy owner deployment s = (.error e, t)) ∧
        ∃ a ∈ current s, other a ∧ a.IsOf owner deployment.id)) :
    ∀ a ∈ current s', ¬a.IsOf owner deployment.id := by
  rcases deploy_of_isDone hHandlers hRun hDone with
    ⟨m, _, _, hOk, -⟩ | ⟨e, hFail, hMissing⟩
  · exact absurd hOk (hNever s m)
  · rw [hFirst.none_iff hKinds hFail ⟨.userMissing hMissing, nofun⟩]
    intro hLeft
    exact hNone ⟨⟨e, s', hFail⟩, hLeft⟩

end Dispatcher

------------------------------------------------------------
-- The handlers of both kinds
------------------------------------------------------------

namespace Deployer

variable {v : Deployer σ} {held : Holdings σ} {old : σ → Set Artifact}

/-
  Of the artifacts that there are, some are old. Nothing
  becomes old by what the handlers do, and what is of the
  other handler's kind remains old.
-/
structure Remembers
    (v : Deployer σ)
    (held : Holdings σ)
    (old : σ → Set Artifact) : Prop where
  current : ∀ s, old s ⊆ held.artifacts s
  analyticsNew : ∀ a, v.analytics.Acts (Preserves fun s => a ∉ old s)
  conditionalNew : ∀ a, v.conditional.Acts (Preserves fun s => a ∉ old s)
  stored : ∀ a, ¬a.IsPipeline → v.analytics.Acts (Keeps fun s => a ∈ old s)
  pipelines : ∀ a, a.IsPipeline → v.conditional.Acts (Keeps fun s => a ∈ old s)
  own : ∀ a, v.dispatcher.Own (Keeps fun s => a ∈ old s)

/- Nobody gets a token for the owner. -/
structure MissesUser
    (v : Deployer σ)
    (owner : String) : Prop where
  analytics : ∀ s, ∃ s',
    v.analytics.tokens.userToken owner s = (.error .userDoesNotExist, s')
  conditional :
    ∀ s, ∃ s', v.conditional.tokens.userToken owner s =
      (.error .userDoesNotExist, s')

/-
  The handler that comes first fails, and the other one holds
  something of the deployment.
-/
inductive Strands
    (v : Deployer σ)
    (held : Holdings σ)
    (owner : String)
    (deployment : Deployment)
    (s : σ) : Prop
  | stored {e : DeployError} {s' : σ}
      (hOrder :
        v.dispatcher.handlers = [v.analytics.handler, v.conditional.handler])
      (hFail : v.analytics.deploy owner deployment s = (.error e, s'))
      (hLeft : (held.stored s).of deployment.id ≠ .empty)
  | pipelines {e : DeployError} {s' : σ} {r : PipelineRow}
      (hOrder :
        v.dispatcher.handlers = [v.conditional.handler, v.analytics.handler])
      (hFail : v.conditional.deploy owner deployment s = (.error e, s'))
      (hRow : r ∈ (held.pipelines s).rows)
      (hIsOf : r.isOf owner deployment.id = true)

/-
  Old pipelines of the owner are removed, and what comes
  after it is not old.
-/
theorem analytics_replaces_old
    (hOrderly : v.Orderly held)
    (hOld : v.Remembers held old)
    (owner : String)
    (deployment : Deployment) :
    v.analytics.handler.Replaces old Artifact.IsPipeline
      owner deployment Dispatcher.IsDone where
  takes {s s' result} hRun hDone a hKind hIsOf := by
    rcases AnalyticsHandler.remove_of_isDone hRun hDone with
      ⟨s₁, hRemove, hDeploy⟩
    have hGone : a ∉ old s₁ := by
      intro hMem
      have hHeld := hOld.current s₁ hMem
      rcases a with r | d | row
      · have hRow : r ∈ (held.pipelines s₁).rows := hHeld
        rw [AnalyticsHandler.remove_rows hOrderly.analytics hRemove] at hRow
        have hOther := List.of_mem_filter hRow
        rw [show r.isOf owner deployment.id = true from hIsOf] at hOther
        cases hOther
      · exact hKind
      · exact hKind
    have hStill := (hOld.analyticsNew a).deployEvents
      Preserves.closed owner deployment s₁ hGone
    rw [hDeploy] at hStill
    exact hStill
  spares a hKind := (hOld.stored a hKind).deploy Keeps.closed owner deployment

/-
  What is stored for the deployment is removed, and what
  comes after it is not old.
-/
theorem conditional_replaces_old
    (hOrderly : v.Orderly held)
    (hOld : v.Remembers held old)
    (owner : String)
    (deployment : Deployment) :
    v.conditional.handler.Replaces old (fun a => ¬a.IsPipeline) owner deployment
      Dispatcher.IsDone where
  takes {s s' result} hRun hDone a hKind hIsOf := by
    rcases ConditionalHandler.remove_of_isDone hRun hDone with
      ⟨s₁, hRemove, hDeploy⟩
    have hGone : a ∉ old s₁ := by
      intro hMem
      have hNone : (held.stored s₁).of deployment.id = .empty := by
        rw [ConditionalHandler.removeEvents_stored hOrderly.conditional hRemove,
          StoredEvents.of_without, if_pos rfl]
      exact
        Holdings.exists_stored_iff.mp
          ⟨a, hOld.current s₁ hMem, hKind, hIsOf⟩ hNone
    have hStill :=
      (hOld.conditionalNew a).deployEvents Preserves.closed
        owner deployment s₁ hGone
    rw [hDeploy] at hStill
    exact hStill
  spares a hKind :=
    (hOld.pipelines a (not_not.mp hKind)).deploy Keeps.closed owner deployment

/- Without a token, no pipeline takes the place of those that are removed. -/
theorem analytics_replaces_all
    (hOrderly : v.Orderly held)
    (owner : String)
    (deployment : Deployment) :
    v.analytics.handler.Replaces held.artifacts
      Artifact.IsPipeline owner deployment
      Dispatcher.IsDropped where
  takes {s s' result} hRun hDropped a hKind hIsOf := by
    rcases AnalyticsHandler.deploy_of_isDone hOrderly.analytics
      hRun hDropped.1 with
      ⟨created, hRows, -, hNone⟩
    intro hHeld
    rcases Holdings.exists_pipeline_iff.mp ⟨a, hHeld, hKind, hIsOf⟩ with
      ⟨r, hRow, hOwn⟩
    rw [hRows, hNone hDropped.2, List.append_nil] at hRow
    have hOther := List.of_mem_filter hRow
    rw [hOwn] at hOther
    cases hOther
  spares a hKind := by
    have hStored := hOrderly.stored.deploy Keeps.closed owner deployment
    rcases a with r | d | row
    · exact absurd trivial hKind
    · exact hStored.comp fun t => d ∈ t.descriptions
    · exact hStored.comp fun t => row ∈ t.index

/- Without a token, nothing is stored in place of what is removed. -/
theorem conditional_replaces_all
    (hOrderly : v.Orderly held)
    (owner : String)
    (deployment : Deployment) :
    v.conditional.handler.Replaces held.artifacts
      (fun a => ¬a.IsPipeline) owner deployment
      Dispatcher.IsDropped where
  takes {s s' result} hRun hDropped a hKind hIsOf := by
    rcases ConditionalHandler.deploy_of_isDone
      hOrderly.conditional hRun hDropped.1 with
      ⟨left, hLeft, hNone⟩
    intro hHeld
    apply Holdings.exists_stored_iff.mp ⟨a, hHeld, hKind, hIsOf⟩
    rw [hLeft, if_pos rfl, hNone hDropped.2]
  spares a hKind := by
    have hPipelines := hOrderly.pipelines.deploy Keeps.closed owner deployment
    rcases a with r | d | row
    · exact hPipelines.comp fun p => r ∈ p.rows
    · exact absurd not_false hKind
    · exact absurd not_false hKind

/- A deployment needs a token. -/
theorem MissesUser.analytics_fails
    {owner : String}
    (hMisses : v.MissesUser owner)
    (deployment : Deployment)
    (s s' : σ) :
    v.analytics.handler.deploy owner deployment s ≠ (.ok (), s') := by
  intro hRun
  rcases AnalyticsHandler.remove_of_isDone hRun .ok with ⟨s₁, -, hDeploy⟩
  rcases Action.bind_eq_ok_iff.mp hDeploy with ⟨token, s₂, hToken, -⟩
  rcases hMisses.analytics s₁ with ⟨s₃, hNoToken⟩
  rw [Action.mapError_eq_ok_iff, hNoToken] at hToken
  cases hToken

theorem MissesUser.conditional_fails
    {owner : String}
    (hMisses : v.MissesUser owner)
    (deployment : Deployment)
    (s s' : σ) :
    v.conditional.handler.deploy owner deployment s ≠ (.ok (), s') := by
  intro hRun
  rcases ConditionalHandler.remove_of_isDone hRun .ok with ⟨s₁, -, hDeploy⟩
  rcases Action.bind_eq_ok_iff.mp hDeploy with ⟨token, s₂, hToken, -⟩
  rcases hMisses.conditional s₁ with ⟨s₃, hNoToken⟩
  rw [Action.mapError_eq_ok_iff, hNoToken] at hToken
  cases hToken

/-
  A deployment that counts as done leaves nothing old, unless
  the first handler fails while the other one holds something
  of it.
-/
theorem deploy_leaves_old_iff
    (hOrderly : v.Orderly held)
    (hOld : v.Remembers held old)
    {owner : String} {deployment : Deployment} {s s' : σ}
    {result : Except DeployError Unit}
    (hStart : old s = held.artifacts s)
    (hDeploy : v.dispatcher.deploy owner deployment s = (result, s'))
    (hDone : Dispatcher.IsDone result) :
    (∀ a ∈ old s', ¬a.IsOf owner deployment.id) ↔
      ¬v.Strands held owner deployment s := by
  have hAnalytics := analytics_replaces_old hOrderly hOld owner deployment
  have hConditional := conditional_replaces_old hOrderly hOld owner deployment
  have hAnalyticsFirst :
      v.dispatcher.handlers =
        [v.analytics.handler, v.conditional.handler] → _ := fun hOrder =>
    Dispatcher.deploy_leaves_old_iff hOrder hAnalytics hConditional
      (fun _ => Iff.rfl)
      (fun a => (hOld.conditionalNew a).deploy
        Preserves.closed owner deployment) hOld.own
      hDeploy hDone
  have hConditionalFirst :
      v.dispatcher.handlers =
        [v.conditional.handler, v.analytics.handler] → _ := fun hOrder =>
    Dispatcher.deploy_leaves_old_iff hOrder hConditional hAnalytics
      (fun _ => not_not)
      (fun a => (hOld.analyticsNew a).deploy Preserves.closed owner deployment)
      hOld.own hDeploy hDone
  rw [hStart] at hAnalyticsFirst hConditionalFirst
  constructor
  · rintro hNone (⟨hOrder, hFail, hLeft⟩ | ⟨hOrder, hFail, hRow, hIsOf⟩)
    · apply (hAnalyticsFirst hOrder).mp hNone
      exact ⟨⟨_, _, hFail⟩, Holdings.exists_stored_iff.mpr hLeft⟩
    · apply (hConditionalFirst hOrder).mp hNone
      exact ⟨⟨_, _, hFail⟩, Holdings.exists_pipeline_iff.mpr ⟨_, hRow, hIsOf⟩⟩
  · intro hNever
    rcases v.handlers with hOrder | hOrder
    · apply (hAnalyticsFirst hOrder).mpr
      rintro ⟨⟨e, t, hFail⟩, hLeft⟩
      exact hNever (.stored hOrder hFail (Holdings.exists_stored_iff.mp hLeft))
    · apply (hConditionalFirst hOrder).mpr
      rintro ⟨⟨e, t, hFail⟩, hLeft⟩
      rcases Holdings.exists_pipeline_iff.mp hLeft with ⟨r, hRow, hIsOf⟩
      exact hNever (.pipelines hOrder hFail hRow hIsOf)

/- If the owner does not exist, it then leaves nothing at all. -/
theorem deploy_leaves_none
    (hOrderly : v.Orderly held)
    {owner : String} {deployment : Deployment} {s s' : σ}
    {result : Except DeployError Unit}
    (hMisses : v.MissesUser owner)
    (hDeploy : v.dispatcher.deploy owner deployment s = (result, s'))
    (hDone : Dispatcher.IsDone result)
    (hNever : ¬v.Strands held owner deployment s) :
    ∀ a ∈ held.artifacts s', ¬a.IsOf owner deployment.id := by
  rcases v.handlers with hOrder | hOrder
  · apply Dispatcher.deploy_leaves_none hOrder
      (analytics_replaces_all hOrderly owner deployment) (fun _ => Iff.rfl)
      (hMisses.analytics_fails deployment) hDeploy hDone
    rintro ⟨⟨e, t, hFail⟩, hLeft⟩
    exact hNever (.stored hOrder hFail (Holdings.exists_stored_iff.mp hLeft))
  · apply Dispatcher.deploy_leaves_none hOrder
      (conditional_replaces_all hOrderly owner deployment) (fun _ => not_not)
      (hMisses.conditional_fails deployment) hDeploy hDone
    rintro ⟨⟨e, t, hFail⟩, hLeft⟩
    rcases Holdings.exists_pipeline_iff.mp hLeft with ⟨r, hRow, hIsOf⟩
    exact hNever (.pipelines hOrder hFail hRow hIsOf)

/-
  A message that orders a deployment and is acknowledged
  leaves nothing of what has been deployed under its id
  before, and nothing at all if there is no such owner,
  exactly unless the first handler fails while the other one
  holds something of the deployment.
-/
theorem put_leaves_none_iff
    (hOrderly : v.Orderly held)
    (hOld : v.Remembers held old)
    {message : Json} {owner : String} {deployment : Deployment}
    (hTask : (DeploymentTask.deploy owner deployment).IsOrderedBy message)
    {s s' : σ}
    (hStart : old s = held.artifacts s)
    (hRun : v.dispatcher.handleDeploymentCommand message s = (.ok (), s')) :
    ((∀ a ∈ old s', ¬a.IsOf owner deployment.id) ∧
        (v.MissesUser owner → ∀ a ∈ held.artifacts s',
          ¬a.IsOf owner deployment.id)) ↔
      ¬v.Strands held owner deployment s := by
  rw [v.dispatcher.handleDeploymentCommand_of_deploy hTask] at hRun
  rcases Dispatcher.ignoringMissingUser_eq_ok_iff.mp hRun with
    ⟨result, hDeploy, hDone⟩
  rw [deploy_leaves_old_iff hOrderly hOld hStart hDeploy hDone]
  apply and_iff_left_of_imp
  intro hNever hMisses
  exact deploy_leaves_none hOrderly hMisses hDeploy hDone hNever

end Deployer

------------------------------------------------------------
-- A backend that remembers
------------------------------------------------------------

/- A backend, and those of its artifacts that are marked. -/
structure Marked where
  backend : Backend
  marks : Set Artifact
  held : marks ⊆ Backend.holdings.artifacts backend

namespace Marked

/-
  An artifact that is gone is no longer marked, even if it
  is there again later.
-/
def slot : Slot Marked Backend where
  get := backend
  set x m :=
    { backend := x
      marks := m.marks ∩ Backend.holdings.artifacts x
      held := Set.inter_subset_right }

theorem slot_holds :
    slot.Holds :=
  fun _ _ => rfl

/- All that there is is marked. -/
def all
    (s : Backend) : Marked where
  backend := s
  marks := Backend.holdings.artifacts s
  held := subset_rfl

def holdings : Holdings Marked where
  pipelines m := m.backend.running
  stored m := m.backend.tables.stored
  announced m := m.backend.announced

/- The handlers of the backend, which do not see what is marked. -/
def deployer
    (token : Except AuthError BearerToken) : Deployer Marked :=
  .onStores (Backend.engine.within slot) (Backend.events.within slot)
    (Backend.index.within slot) token none

section

variable {P : Action.Property Marked} {token : Except AuthError BearerToken}

/- A handler of pipelines has what all calls have that touch no tables. -/
theorem analytics_acts
    (hP : Action.Closed P)
    (hWithin :
      ∀ {ε α : Type} (a : Action Backend ε α),
        Keeps Backend.tables a → P (a.within slot)) :
    (deployer token).analytics.Acts P :=
  AnalyticsHandler.onEngine_acts hP
    ((Backend.engine_all fun _ _ => rfl).within hWithin) token

/-
  A handler of conditional events has what all calls have
  that touch no pipelines.
-/
theorem conditional_acts
    (hP : Action.Closed P)
    (hWithin :
      ∀ {ε α : Type} (a : Action Backend ε α),
        Keeps Backend.running a → P (a.within slot)) :
    (deployer token).conditional.Acts P :=
  ConditionalHandler.onStores_acts hP
    ((Backend.events_all fun _ _ => rfl).within hWithin)
    ((Backend.index_all fun _ _ => rfl).within hWithin) token

end

theorem deployer_orderly
    (token : Except AuthError BearerToken) :
    (deployer token).Orderly holdings := by
  have hEngine : Backend.engine.All (Keeps Backend.tables) :=
    Backend.engine_all fun _ _ => rfl
  have hEvents : Backend.events.All (Keeps Backend.running) :=
    Backend.events_all fun _ _ => rfl
  have hIndex : Backend.index.All (Keeps Backend.running) :=
    Backend.index_all fun _ _ => rfl
  apply Deployer.onStores_orderly (Backend.engine_lawful.within slot_holds)
    (Backend.events_lawful.within slot_holds)
    (Backend.index_lawful.within slot_holds)
  · exact hEngine.within fun _ hTables m =>
      congrArg EventTables.stored (hTables m.backend)
  · exact hEvents.within fun _ hRunning m => hRunning m.backend
  · exact hIndex.within fun _ hRunning m => hRunning m.backend

/- What is marked after a call was marked before. -/
theorem within_new
    {ε α : Type}
    (x : Artifact)
    (a : Action Backend ε α) :
    Preserves (fun m : Marked => x ∉ m.marks) (a.within slot) :=
  fun _ hNew hMarked => hNew hMarked.1

/- A call that leaves an artifact there leaves its mark. -/
theorem within_keeps
    {ε α : Type} {x : Artifact} {a : Action Backend ε α}
    (hStays : Keeps (fun s => x ∈ Backend.holdings.artifacts s) a) :
    Keeps (fun m : Marked => x ∈ m.marks) (a.within slot) := by
  intro m
  apply propext
  constructor
  · exact And.left
  · intro hMarked
    exact ⟨hMarked, (hStays m.backend).mpr (m.held hMarked)⟩

theorem deployer_remembers
    (token : Except AuthError BearerToken) :
    (deployer token).Remembers holdings marks where
  current m := m.held
  analyticsNew x := analytics_acts Preserves.closed fun a _ => within_new x a
  conditionalNew x :=
    conditional_acts Preserves.closed fun a _ => within_new x a
  stored x hKind := by
    apply analytics_acts Keeps.closed
    intro ε α a hTables
    apply within_keeps
    rcases x with r | d | row
    · exact absurd trivial hKind
    · exact hTables.comp fun t => d ∈ t.stored.descriptions
    · exact hTables.comp fun t => row ∈ t.stored.index
  pipelines x hKind := by
    apply conditional_acts Keeps.closed
    intro ε α a hRunning
    apply within_keeps
    rcases x with r | d | row
    · exact hRunning.comp fun p => r ∈ p.rows
    · exact hKind.elim
    · exact hKind.elim
  own _ := Deployer.onStores_own nofun

end Marked

namespace Deployer

/- What the message comes to. -/
def afterChange
    (token : Except AuthError BearerToken)
    (m : Marked) : Except DeployError Unit × Marked :=
  (Marked.deployer token).dispatcher.handleDeploymentCommand
    (changeUnder "d1") m

/- There are artifacts of both kinds before. -/
theorem occupied_pipeline :
    ∃ a ∈ Backend.holdings.artifacts occupied,
      a.IsPipeline ∧ a.IsOf "u1" "d1" := by
  apply Holdings.exists_pipeline_iff.mpr
  exact ⟨_, List.mem_singleton_self _, by decide +kernel⟩

theorem occupied_stored :
    ∃ a ∈ Backend.holdings.artifacts occupied,
      ¬a.IsPipeline ∧ a.IsOf "u1" "d1" := by
  have hRow :
      ∃ d ∈ occupied.tables.descriptions.rows, d.deploymentId = "d1" := by
    decide +kernel
  rcases hRow with ⟨d, hMem, hDeployment⟩
  exact ⟨.description d, hMem, not_false, hDeployment⟩

theorem put_leaves_none_iff_occupied :
    ∃ m,
      afterChange (.ok ⟨"Bearer"⟩) (.all occupied) = (.ok (), m) ∧
        (∃ a ∈ Backend.holdings.artifacts occupied,
          a.IsPipeline ∧ a.IsOf "u1" "d1") ∧
        (∃ a ∈ Backend.holdings.artifacts occupied,
          ¬a.IsPipeline ∧ a.IsOf "u1" "d1") ∧
        m.backend.tables.descriptions.rows.map
          (fun d => (d.userId, d.deploymentId)) =
          [("u2", "d2"), ("u1", "d1")] ∧
        ∀ a ∈ m.marks, ¬a.IsOf "u1" "d1" := by
  have hOk : (afterChange (.ok ⟨"Bearer"⟩) (.all occupied)).1.isOk = true := by
    decide +kernel
  have hStored :
      (afterChange (.ok ⟨"Bearer"⟩)
        (.all occupied)).2.backend.tables.descriptions.rows.map
          (fun d => (d.userId, d.deploymentId)) =
        [("u2", "d2"), ("u1", "d1")] := by
    decide +kernel
  -- none of the handlers fails
  have hBoth :
      (DeploymentCommand.codec.decode (changeUnder "d1")).map (fun c =>
          c.deployment.map fun deployment =>
            (((Marked.deployer (.ok ⟨"Bearer"⟩)).analytics.deploy
              c.owner deployment
                (.all occupied)).1.isOk,
              ((Marked.deployer (.ok ⟨"Bearer"⟩)).conditional.deploy
                c.owner deployment
                (.all occupied)).1.isOk)) =
        some (some (true, true)) := by
    decide +kernel
  have hRun := Action.eq_ok_of_isOk hOk
  generalize
    (afterChange (.ok ⟨"Bearer"⟩) (.all occupied)).2 = m at hRun hStored
  rcases changeUnder_isCurrent (Or.inl rfl) with
    ⟨c, deployment, hCurrent, hVerb, -, hOwner, hBody, hId⟩
  have hNamed : c.owner ≠ "" := by
    rw [hOwner]
    decide
  rw [hCurrent.decode, Option.map_some, hBody, Option.map_some,
    Option.some.injEq, Option.some.injEq, Prod.mk.injEq] at hBoth
  have hNever :
      ¬(Marked.deployer (.ok ⟨"Bearer"⟩)).Strands
        Marked.holdings c.owner deployment
        (.all occupied) := by
    rintro (⟨-, hFail, -⟩ | ⟨-, hFail, -, -⟩)
    · have hEnd := congrArg (fun r => r.1.isOk) hFail
      exact Bool.false_ne_true (hEnd.symm.trans hBoth.1)
    · have hEnd := congrArg (fun r => r.1.isOk) hFail
      exact Bool.false_ne_true (hEnd.symm.trans hBoth.2)
  have hTask := hCurrent.orders_deploy hVerb hNamed hBody
  have hStart : (Marked.all occupied).marks =
      Marked.holdings.artifacts (.all occupied) := rfl
  have hNone :=
    ((put_leaves_none_iff (Marked.deployer_orderly _)
      (Marked.deployer_remembers _) hTask hStart
      hRun).mpr hNever).1
  rw [hOwner, hId] at hNone
  exact ⟨m, hRun, occupied_pipeline, occupied_stored, hStored, hNone⟩

/-
  Where the owner does not exist, the handler that comes
  first removes its pipelines and fails. The message is
  acknowledged all the same, and what is stored stays.
-/
theorem put_strands_stored :
    ∃ c : DeploymentCommand, ∃ deployment m,
      c.IsCurrent (changeUnder "d1") ∧
        c.command = Verb.put ∧
        c.owner = "u1" ∧
        c.deployment = some deployment ∧
        deployment.id = "d1" ∧
        (Marked.deployer (.error .userDoesNotExist)).MissesUser "u1" ∧
        afterChange (.error .userDoesNotExist) (.all occupied) = (.ok (), m) ∧
        ∃ a ∈ m.marks, a.IsOf "u1" "d1" := by
  have hOk : (afterChange (.error .userDoesNotExist) (.all occupied)).1.isOk =
      true := by
    decide +kernel
  have hFails :
      (DeploymentCommand.codec.decode (changeUnder "d1")).map (fun c =>
          c.deployment.map fun deployment =>
            ((Marked.deployer (.error .userDoesNotExist)).analytics.deploy
              c.owner deployment
              (.all occupied)).1.isOk) =
        some (some false) := by
    decide +kernel
  have hRun := Action.eq_ok_of_isOk hOk
  generalize
    (afterChange (.error .userDoesNotExist) (.all occupied)).2 = m at hRun
  rcases changeUnder_isCurrent (Or.inl rfl) with
    ⟨c, deployment, hCurrent, hVerb, -, hOwner, hBody, hId⟩
  have hNamed : c.owner ≠ "" := by
    rw [hOwner]
    decide
  rw [hCurrent.decode, Option.map_some, hBody, Option.map_some,
    Option.some.injEq, Option.some.injEq] at hFails
  rcases Action.eq_error_of_isOk hFails with ⟨e, hFail⟩
  have hStored :
      (Marked.holdings.stored (.all occupied)).of deployment.id ≠ .empty := by
    rw [hId]
    exact Holdings.exists_stored_iff.mp occupied_stored
  have hTask := hCurrent.orders_deploy hVerb hNamed hBody
  have hHandled := hRun
  rw [afterChange,
    Dispatcher.handleDeploymentCommand_of_deploy _ hTask] at hHandled
  rcases Dispatcher.ignoringMissingUser_eq_ok_iff.mp hHandled with
    ⟨result, hDeploy, hDone⟩
  have hStart : (Marked.all occupied).marks =
      Marked.holdings.artifacts (.all occupied) := rfl
  refine
    ⟨c, deployment, m, hCurrent, hVerb, hOwner, hBody, hId,
      ⟨fun t => ⟨t, rfl⟩, fun t => ⟨t, rfl⟩⟩, hRun, ?_⟩
  by_contra hNone
  have hNever :=
    (deploy_leaves_old_iff (Marked.deployer_orderly _)
      (Marked.deployer_remembers _) hStart
      hDeploy hDone).mp fun a hMarked hIsOf =>
        hNone ⟨a, hMarked, hOwner ▸ hId ▸ hIsOf⟩
  exact hNever (.stored rfl hFail hStored)

end Deployer

end ProcessEvents
