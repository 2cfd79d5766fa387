import ProcessEvents.Proofs.Conditional.Coherence
import ProcessEvents.Proofs.Conditional.Deployment

/-
  A removal, a deployment or a group update may end at any of
  its calls. This file lists what each of them may leave of
  what has been stored for a deployment, and shows that what
  is stored stays coherent all the same.

  Key definitions include:
    * `ConditionalHandler.Atomic`
    * `ConditionalHandler.AfterRemoval`
    * `ConditionalHandler.AfterDeployment`
    * `ConditionalHandler.AfterRedeployment`
    * `ConditionalHandler.AfterUpdate`

  Key theorems include:
    * `ConditionalHandler.removeEvents_confined`
    * `ConditionalHandler.deploy_confined`
    * `ConditionalHandler.redeploy_confined`
    * `ConditionalHandler.redeployAll_confined`
    * `ConditionalHandler.updateGroup_leaves`
    * `ConditionalHandler.updateGroup_coherent`
-/

namespace ProcessEvents

variable {σ : Type}

open EventDescription (lastByKey)
open StoredEvents (Coherent)

namespace ConditionalHandler

------------------------------------------------------------
-- What attempts may leave
------------------------------------------------------------

/- Calls of the stores that fail do nothing. -/
structure Atomic
    (h : ConditionalHandler σ)
    (stored : σ → StoredEvents) : Prop where
  events : h.events.Atomic stored
  index : h.index.Atomic stored

/- Descriptions are removed first, then the row. -/
inductive AfterRemoval
    (before : StoredEvents) : StoredEvents → Prop where
  | untouched : AfterRemoval before before
  | undescribed : AfterRemoval before { before with descriptions := 0 }
  | removed : AfterRemoval before .empty

/-
  What has been removed is described anew, and the new row
  comes last. An attempt that ends in between leaves no row.
-/
inductive AfterDeployment
    (owner : String)
    (deployment : Deployment)
    (before : StoredEvents) : StoredEvents → Prop where
  | unremoved {after : StoredEvents} :
      AfterRemoval before after → AfterDeployment owner deployment before after
  | unindexed (ds : List EventDescription) :
      (∀ d ∈ ds, d.IsFor owner deployment.id) →
        AfterDeployment owner deployment before
          { descriptions := lastByKey (ds.map (·.withPureIds)), index := 0 }
  | complete (ds : List EventDescription) :
      (∀ d ∈ ds, d.IsFor owner deployment.id) →
        AfterDeployment owner deployment before (deployed owner deployment ds)

/- A row without an owner is removed, any other one deployed. -/
def AfterRedeployment
    (owner : String)
    (r : DeploymentIndex)
    (before after : StoredEvents) : Prop :=
  if owner = "" then AfterRemoval before after
  else AfterDeployment owner r.deployment before after

/-
  What an update of a group may leave of a deployment: all
  of it, unless it has a row on the group. With such a row,
  what an attempt to deploy it for its owner may leave, or
  to remove it if its owner is not known.
-/
inductive AfterUpdate
    (groupId : String)
    (t t' : StoredEvents) : String → Prop where
  | unconcerned {deploymentId : String} :
      t'.of deploymentId = t.of deploymentId →
        AfterUpdate groupId t t' deploymentId
  | owned (r : DeploymentIndex) (owner : String) :
      t.Concerns groupId r →
        t.Names groupId r owner →
          AfterDeployment owner r.deployment (t.of r.id) (t'.of r.id) →
            AfterUpdate groupId t t' r.id
  | unowned (r : DeploymentIndex) :
      t.Concerns groupId r →
        (¬ ∃ owner, t.Names groupId r owner) →
          AfterRemoval (t.of r.id) (t'.of r.id) →
            AfterUpdate groupId t t' r.id

/- One deployment is concerned, in a certain way, and no other one is. -/
def Confined
    (deploymentId : String)
    (change : StoredEvents → StoredEvents → Prop)
    (t t' : StoredEvents) : Prop :=
  (∀ other, other ≠ deploymentId → t'.of other = t.of other) ∧
    change (t.of deploymentId) (t'.of deploymentId)

/- Unless everything has been removed, the row is still there. -/
theorem AfterRemoval.of_ne_empty
    {before after : StoredEvents}
    (hAfter : AfterRemoval before after)
    (hNotEmpty : after ≠ .empty) :
    after.index = before.index ∧ after.descriptions ≤ before.descriptions := by
  cases hAfter with
  | untouched => exact ⟨rfl, le_rfl⟩
  | undescribed => exact ⟨rfl, Multiset.zero_le _⟩
  | removed => exact absurd rfl hNotEmpty

variable {h : ConditionalHandler σ} {stored : σ → StoredEvents}

------------------------------------------------------------
-- Removal
------------------------------------------------------------

theorem removeEvents_error
    (hLawful : h.Lawful stored)
    (hAtomic : h.Atomic stored)
    {deploymentId : String} {s s' : σ} {e : DeployError}
    (hRun : h.removeEvents deploymentId s = (.error e, s')) :
    stored s' = stored s ∨
      stored s' = (stored s).dropDescriptions deploymentId := by
  have hKeeps := hLawful.events.byDeployment deploymentId
  unfold removeEvents at hRun
  rcases Action.bind_eq_error_iff.mp hRun with
    hList | ⟨removed, s₁, hList, hRun⟩
  · rcases Action.mapError_eq_error_iff.mp hList with ⟨_, hFail, -⟩
    exact Or.inl (hKeeps.of_eq hFail)
  rw [Action.mapError_eq_ok_iff] at hList
  rcases Action.bind_eq_error_iff.mp hRun with hDrop | ⟨_, s₂, hDrop, hRun⟩
  · rcases Action.mapError_eq_error_iff.mp hDrop with ⟨_, hFail, -⟩
    left
    rw [hAtomic.events.removeByDeployment_error hFail, hKeeps.of_eq hList]
  rw [Action.mapError_eq_ok_iff] at hDrop
  rcases Action.bind_eq_error_iff.mp hRun with hDropRow | ⟨_, s₃, -, hCount⟩
  · rcases Action.mapError_eq_error_iff.mp hDropRow with ⟨_, hFail, -⟩
    right
    rw [hAtomic.index.remove_error hFail,
      hLawful.events.removeByDeployment_ok hDrop, hKeeps.of_eq hList]
  · cases hCount

theorem removeEvents_confined
    (hLawful : h.Lawful stored)
    (hAtomic : h.Atomic stored)
    {deploymentId : String} {s s' : σ} {result : Except DeployError Unit}
    (hRun : h.removeEvents deploymentId s = (result, s')) :
    Confined deploymentId AfterRemoval (stored s) (stored s') := by
  cases result with
  | error e =>
      rcases removeEvents_error hLawful hAtomic hRun with hSame | hDropped
      · rw [hSame]
        exact ⟨fun _ _ => rfl, .untouched⟩
      · rw [hDropped]
        constructor
        · intro other hOther
          rw [StoredEvents.of_dropDescriptions, if_neg hOther]
        · rw [StoredEvents.of_dropDescriptions, if_pos rfl]
          exact .undescribed
  | ok _ =>
      rw [removeEvents_stored hLawful hRun]
      constructor
      · intro other hOther
        rw [StoredEvents.of_without, if_neg hOther]
      · rw [StoredEvents.of_without, if_pos rfl]
        exact .removed

------------------------------------------------------------
-- Deployments
------------------------------------------------------------

/- Descriptions that have been stored before the failing one stay. -/
theorem storeEvents_error
    (hLawful : h.Lawful stored)
    (hAtomic : h.Atomic stored)
    {ds : List EventDescription} {s s' : σ} {e : DeployError}
    (hRun : Action.forEach h.storeEvent ds s = (.error e, s')) :
    ∃ kept : List EventDescription,
      (∀ d ∈ kept, d ∈ ds) ∧
        stored s' = (stored s).putAll (kept.map (·.withPureIds)) := by
  rcases Action.forEach_eq_error_iff.mp hRun with
    ⟨kept, d, after, s₁, rfl, hKept, hFail⟩
  refine ⟨kept, fun d hMem => List.mem_append_left _ hMem, ?_⟩
  rw [← storeEvents_stored hLawful hKept]
  unfold storeEvent at hFail
  rcases Action.bind_eq_error_iff.mp hFail with hSet | ⟨_, s₂, -, hCount⟩
  · rcases Action.mapError_eq_error_iff.mp hSet with ⟨_, hSetFail, -⟩
    exact hAtomic.events.set_error hSetFail
  · cases hCount

/- Whatever fails, there is no new row yet. -/
theorem deployEvents_error
    (hLawful : h.Lawful stored)
    (hAtomic : h.Atomic stored)
    {owner : String} {deployment : Deployment} {s s' : σ} {e : DeployError}
    (hRun : h.deployEvents owner deployment s = (.error e, s')) :
    ∃ kept : List EventDescription,
      (∀ d ∈ kept, d.IsFor owner deployment.id) ∧
        stored s' = (stored s).putAll (kept.map (·.withPureIds)) := by
  have hDescribeKeeps := hLawful.describe owner deployment
  unfold deployEvents at hRun
  rcases Action.bind_eq_error_iff.mp hRun with
    hToken | ⟨token, s₁, hToken, hRun⟩
  · rcases Action.mapError_eq_error_iff.mp hToken with ⟨_, hFail, -⟩
    exact ⟨[], nofun, (hLawful.userToken owner).of_eq hFail⟩
  rw [Action.mapError_eq_ok_iff] at hToken
  have hBefore := (hLawful.userToken owner).of_eq hToken
  rcases Action.bind_eq_error_iff.mp hRun with
    hDescribe | ⟨ds, s₂, hDescribe, hRun⟩
  · exact ⟨[], nofun, (hDescribeKeeps.of_eq hDescribe).trans hBefore⟩
  have hFor := h.describer.describe_isFor owner deployment s₁ ds s₂ hDescribe
  have hMiddle := (hDescribeKeeps.of_eq hDescribe).trans hBefore
  rcases Action.bind_eq_error_iff.mp hRun with hStore | ⟨_, s₃, hStore, hSet⟩
  · rcases storeEvents_error hLawful hAtomic hStore with ⟨kept, hSub, hStored⟩
    rw [hMiddle] at hStored
    exact ⟨kept, fun d hMem => hFor d (hSub d hMem), hStored⟩
  · rcases Action.mapError_eq_error_iff.mp hSet with ⟨_, hFail, -⟩
    refine ⟨ds, hFor, ?_⟩
    rw [hAtomic.index.set_error hFail, storeEvents_stored hLawful hStore,
      hMiddle]

theorem deploy_confined
    (hLawful : h.Lawful stored)
    (hAtomic : h.Atomic stored)
    {owner : String} {deployment : Deployment} {s s' : σ}
    {result : Except DeployError Unit}
    (hRun : h.deploy owner deployment s = (result, s')) :
    Confined deployment.id (AfterDeployment owner deployment)
      (stored s) (stored s') := by
  cases result with
  | error e =>
      unfold deploy at hRun
      rcases Action.bind_eq_error_iff.mp hRun with
        hRemove | ⟨_, s₁, hRemove, hStore⟩
      · rcases removeEvents_confined hLawful hAtomic hRemove with
          ⟨hOthers, hHere⟩
        exact ⟨hOthers, .unremoved hHere⟩
      · rcases deployEvents_error hLawful hAtomic hStore with
          ⟨kept, hFor, hStored⟩
        have hGone := StoredEvents.of_without (stored s) deployment.id
        have hNone :
            ((stored s).without deployment.id).of deployment.id = .empty := by
          rw [hGone, if_pos rfl]
        have hOf :=
          StoredEvents.of_putAll ((stored s).without deployment.id)
            (deploymentId_of_withPureIds hFor)
            (congrArg StoredEvents.descriptions hNone)
        rw [hStored, removeEvents_stored hLawful hRemove]
        constructor
        · intro other hOther
          rw [hOf, if_neg hOther, hGone, if_neg hOther]
        · rw [hOf, if_pos rfl, hNone]
          exact .unindexed kept hFor
  | ok _ =>
      rcases deploy_stored hLawful hRun with
        ⟨s₀, token, s₁, ds, s₂, -, -, hDescribe, hStored⟩
      have hFor :=
        h.describer.describe_isFor owner deployment s₁ ds s₂ hDescribe
      have hOf := of_deployed hFor
      rw [hStored]
      constructor
      · intro other hOther
        rw [hOf, if_neg hOther]
      · rw [hOf, if_pos rfl]
        exact .complete ds hFor

------------------------------------------------------------
-- Group updates
------------------------------------------------------------

/- A row is removed or deployed, depending on its owner. -/
theorem redeploy_eq
    (h : ConditionalHandler σ)
    {ds : List EventDescription} {r : DeploymentIndex}
    (hRow : r.deployment.id = r.id) :
    h.redeploy ds r =
      if ownerOf ds r = "" then h.removeEvents r.id
      else h.deploy (ownerOf ds r) r.deployment := by
  rw [redeploy, deploy, hRow]
  by_cases hOwner : ownerOf ds r = ""
  · simp only [hOwner, beq_self_eq_true, if_true]
    exact bind_pure_unit
  · simp only [beq_iff_eq, hOwner, if_false]

theorem redeploy_confined
    (hLawful : h.Lawful stored)
    (hAtomic : h.Atomic stored)
    {ds : List EventDescription} {r : DeploymentIndex}
    (hRow : r.deployment.id = r.id)
    {s s' : σ} {result : Except DeployError Unit}
    (hRun : h.redeploy ds r s = (result, s')) :
    Confined r.id (AfterRedeployment (ownerOf ds r) r)
      (stored s) (stored s') := by
  rw [redeploy_eq h hRow] at hRun
  unfold AfterRedeployment
  by_cases hOwner : ownerOf ds r = ""
  · simp only [hOwner, if_true] at hRun ⊢
    exact removeEvents_confined hLawful hAtomic hRun
  · simp only [hOwner, if_false] at hRun ⊢
    rw [← hRow]
    exact deploy_confined hLawful hAtomic hRun

/-
  What is done for rows of different deployments, one after
  the other, concerns each of these deployments once. Rows
  behind the first that fails are untouched, which has to be
  a change that is considered if failures are.
-/
theorem forEach_confined
    {f : DeploymentIndex → Action σ DeployError Unit}
    {change : DeploymentIndex → StoredEvents → StoredEvents → Prop}
    {considered : Except DeployError Unit → Prop}
    {rows : List DeploymentIndex}
    (hIds : (rows.map (·.id)).Nodup)
    (hOk : considered (.ok ()))
    (hUntouched :
      ∀ e, considered (.error e) → ∀ r before, change r before before)
    (hStep :
      ∀ r ∈ rows, ∀ {s s' : σ} {result : Except DeployError Unit},
        f r s = (result, s') → considered result →
          Confined r.id (change r) (stored s) (stored s'))
    {s s' : σ} {result : Except DeployError Unit}
    (hRun : Action.forEach f rows s = (result, s'))
    (hResult : considered result) :
    (∀ other, other ∉ rows.map (·.id) →
      (stored s').of other = (stored s).of other) ∧
      ∀ r ∈ rows, change r ((stored s).of r.id) ((stored s').of r.id) := by
  induction rows generalizing s with
  | nil =>
      cases hRun
      exact ⟨fun _ _ => rfl, nofun⟩
  | cons r rows ih =>
      rcases List.forall_mem_cons.mp hStep with ⟨hHeadStep, hTailStep⟩
      rw [List.map_cons, List.nodup_cons] at hIds
      have hApart : ∀ r' ∈ rows, r'.id ≠ r.id := by
        intro r' hMem hSame
        exact hIds.1 (hSame ▸ List.mem_map_of_mem hMem)
      simp only [List.map_cons, List.mem_cons, not_or]
      rcases hHead : f r s with ⟨e | _, s₁⟩
      · have hEnd : Action.forEach f (r :: rows) s = (.error e, s₁) :=
          Action.bind_of_error hHead
        rw [hEnd] at hRun
        cases hRun
        rcases hHeadStep hHead hResult with ⟨hOthers, hHere⟩
        constructor
        · intro other hOther
          exact hOthers other hOther.1
        · rintro r' (rfl | hMem)
          · exact hHere
          · rw [hOthers r'.id (hApart r' hMem)]
            exact hUntouched e hResult r' _
      · have hTail : Action.forEach f rows s₁ = (result, s') :=
          (Action.bind_of_ok hHead).symm.trans hRun
        rcases hHeadStep hHead hOk with ⟨hOthers, hHere⟩
        rcases ih hIds.2 hTailStep hTail with ⟨hLater, hEach⟩
        constructor
        · intro other hOther
          rw [hLater other hOther.2, hOthers other hOther.1]
        · rintro r' (rfl | hMem)
          · rw [hLater r'.id hIds.1]
            exact hHere
          · rw [← hOthers r'.id (hApart r' hMem)]
            exact hEach r' hMem

theorem AfterRedeployment.untouched
    (owner : String)
    (r : DeploymentIndex)
    (before : StoredEvents) :
    AfterRedeployment owner r before before := by
  unfold AfterRedeployment
  split
  · exact .untouched
  · exact .unremoved .untouched

theorem redeployAll_confined
    (hLawful : h.Lawful stored)
    (hAtomic : h.Atomic stored)
    {ds : List EventDescription} {rows : List DeploymentIndex}
    (hRows : ∀ r ∈ rows, r.deployment.id = r.id)
    (hIds : (rows.map (·.id)).Nodup)
    {s s' : σ} {result : Except DeployError Unit}
    (hRun : Action.forEach (h.redeploy ds) rows s = (result, s')) :
    (∀ other, other ∉ rows.map (·.id) →
      (stored s').of other = (stored s).of other) ∧
      ∀ r ∈ rows,
        AfterRedeployment (ownerOf ds r) r ((stored s).of r.id)
          ((stored s').of r.id) := by
  have hStep :
      ∀ r ∈ rows, ∀ {s s' : σ} {result : Except DeployError Unit},
        h.redeploy ds r s = (result, s') → True →
          Confined r.id (AfterRedeployment (ownerOf ds r) r)
            (stored s) (stored s') := by
    intro r hMem s s' result hRedeploy _
    exact redeploy_confined hLawful hAtomic (hRows r hMem) hRedeploy
  exact
    forEach_confined hIds trivial
      (fun _ _ r before => .untouched (ownerOf ds r) r before)
      hStep hRun trivial

/-
  Unless it is refused or its lists fail, an update deploys
  the rows of the group with the owners that it finds in the
  listed descriptions.
-/
theorem updateGroup_cases
    (hLawful : h.Lawful stored)
    {group : DeviceGroup} {s s' : σ} {result : Except DeployError Unit}
    (hRun : h.updateGroup group s = (result, s')) :
    (group.id = "" ∨ ∃ e, result = .error e) ∧ stored s' = stored s ∨
      ∃ (rows : List DeploymentIndex) (ds : List EventDescription) (s₁ : σ),
        (rows : Multiset DeploymentIndex) =
            (stored s).index.filter (fun r => group.id ∈ r.deviceGroups) ∧
          (ds : Multiset EventDescription) =
            (stored s).descriptions.filter
              (fun d => d.deviceGroupId = group.id) ∧
          stored s₁ = stored s ∧
          Action.forEach (h.redeploy ds) rows s₁ = (result, s') := by
  unfold updateGroup at hRun
  by_cases hGroup : (group.id == "") = true
  · rw [if_pos hGroup] at hRun
    cases hRun
    exact Or.inl ⟨Or.inl (beq_iff_eq.mp hGroup), rfl⟩
  rw [if_neg hGroup] at hRun
  have hRowsKeep := hLawful.index.byDeviceGroup group.id
  have hDescriptionsKeep := hLawful.events.byDeviceGroup group.id
  rcases hRows : h.index.byDeviceGroup group.id s with ⟨e | rows, s₁⟩
  · rw [Action.bind_of_error
      (Action.mapError_eq_error_iff.mpr ⟨e, hRows, rfl⟩)] at hRun
    cases hRun
    exact Or.inl ⟨Or.inr ⟨_, rfl⟩, hRowsKeep.of_eq hRows⟩
  rw [Action.bind_of_ok (Action.mapError_eq_ok_iff.mpr hRows)] at hRun
  have hListed := hLawful.index.byDeviceGroup_ok hRows
  have hSame := hRowsKeep.of_eq hRows
  cases rows with
  | nil =>
      -- without rows nothing is listed, whatever is described
      rcases Quot.exists_rep
        ((stored s).descriptions.filter fun d => d.deviceGroupId = group.id)
          with ⟨ds, hDs⟩
      exact Or.inr ⟨[], ds, s₁, hListed, hDs, hSame, hRun⟩
  | cons r rows =>
      change
        ((h.events.byDeviceGroup group.id).mapError DeployError.store >>=
          fun ds =>
          Action.forEach (h.redeploy ds) (r :: rows)) s₁ = _ at hRun
      rcases hDescriptions :
        h.events.byDeviceGroup group.id s₁ with ⟨e | ds, s₂⟩
      · rw [Action.bind_of_error
          (Action.mapError_eq_error_iff.mpr ⟨e, hDescriptions, rfl⟩)] at hRun
        cases hRun
        exact Or.inl
          ⟨Or.inr ⟨_, rfl⟩, (hDescriptionsKeep.of_eq hDescriptions).trans hSame⟩
      · rw [Action.bind_of_ok
          (Action.mapError_eq_ok_iff.mpr hDescriptions)] at hRun
        have hDs := hLawful.events.byDeviceGroup_ok hDescriptions
        rw [hSame] at hDs
        exact
          Or.inr ⟨r :: rows, ds, s₂, hListed, hDs,
            (hDescriptionsKeep.of_eq hDescriptions).trans hSame, hRun⟩

theorem updateGroup_leaves
    (hLawful : h.Lawful stored)
    (hAtomic : h.Atomic stored)
    {group : DeviceGroup} {s s' : σ} {result : Except DeployError Unit}
    (hCoherent : (stored s).Coherent)
    (hRun : h.updateGroup group s = (result, s'))
    (deploymentId : String) :
    AfterUpdate group.id (stored s) (stored s') deploymentId := by
  rcases updateGroup_cases hLawful hRun with
    ⟨-, hSame⟩ | ⟨rows, ds, s₁, hRows, hDs, hSame, hEach⟩
  · exact .unconcerned (hSame ▸ rfl)
  have hConcerns : ∀ r ∈ rows, (stored s).Concerns group.id r := by
    intro r hMem
    have hIn := Multiset.mem_coe.mpr hMem
    rw [hRows] at hIn
    exact Multiset.mem_filter.mp hIn
  have hIds : (rows.map (·.id)).Nodup :=
    hCoherent.indexed.nodup_ids (hRows ▸ Multiset.filter_le _ _)
  have hRowIds : ∀ r ∈ rows, r.deployment.id = r.id :=
    fun r hMem => hCoherent.row_id (hConcerns r hMem).1
  rcases redeployAll_confined hLawful hAtomic hRowIds hIds hEach with
    ⟨hOthers, hRedeployed⟩
  rw [hSame] at hOthers hRedeployed
  by_cases hMem : deploymentId ∈ rows.map (·.id)
  · rcases List.mem_map.mp hMem with ⟨r, hRow, rfl⟩
    have hAfter := hRedeployed r hRow
    unfold AfterRedeployment at hAfter
    by_cases hOwner : ownerOf ds r = ""
    · rw [if_pos hOwner] at hAfter
      refine .unowned r (hConcerns r hRow) ?_ hAfter
      rintro ⟨owner, hNames⟩
      exact hNames.1 ((ownerOf_eq hCoherent hDs hNames).symm.trans hOwner)
    · rw [if_neg hOwner] at hAfter
      exact .owned r (ownerOf ds r) (hConcerns r hRow)
        (names_ownerOf hDs hOwner) hAfter
  · exact .unconcerned (hOthers deploymentId hMem)

------------------------------------------------------------
-- Coherence
------------------------------------------------------------

theorem AfterRemoval.coherent
    {before after : StoredEvents}
    (hBefore : before.Coherent)
    (hAfter : AfterRemoval before after) :
    after.Coherent := by
  cases hAfter with
  | untouched => exact hBefore
  | undescribed =>
      exact
        { single := hBefore.single
          row := hBefore.row
          owner := fun d hMem => absurd hMem (Multiset.notMem_zero d) }
  | removed => exact StoredEvents.coherent_empty

/- Descriptions for one owner, and at most one row made for it. -/
theorem coherent_of_isFor
    {owner : String} {deployment : Deployment} {ds : List EventDescription}
    (hFor : ∀ d ∈ ds, d.IsFor owner deployment.id)
    {index : Multiset DeploymentIndex}
    (hIndex : index ≤ {.ofDeployment owner deployment}) :
    Coherent { descriptions := lastByKey (ds.map (·.withPureIds)), index } where
  single id := by
    have hLess := (Multiset.filter_le (fun r => r.id = id) index).trans hIndex
    exact Multiset.card_le_card hLess
  row r hMem := by
    have hRow := Multiset.mem_singleton.mp (Multiset.mem_of_le hIndex hMem)
    rw [hRow]
    rfl
  owner := by
    have hUser :
        ∀ d ∈ (lastByKey (ds.map (·.withPureIds)) : Multiset EventDescription),
          d.userId = owner := by
      intro d hMem
      have hIn :=
        EventDescription.mem_of_mem_lastByKey (Multiset.mem_coe.mp hMem)
      rcases List.mem_map.mp hIn with ⟨d', hIn', rfl⟩
      exact (hFor d' hIn').1
    intro d hMem d' hMem' _
    rw [hUser d hMem, hUser d' hMem']

theorem AfterDeployment.coherent
    {owner : String} {deployment : Deployment} {before after : StoredEvents}
    (hBefore : before.Coherent)
    (hAfter : AfterDeployment owner deployment before after) :
    after.Coherent := by
  cases hAfter with
  | unremoved hRemoval => exact hRemoval.coherent hBefore
  | unindexed ds hFor => exact coherent_of_isFor hFor (Multiset.zero_le _)
  | complete ds hFor => exact coherent_of_isFor hFor le_rfl

/-
  What holds of the stores if it holds for each deployment is
  kept by a change of one deployment that keeps it there.
-/
theorem Confined.of_local
    {p : StoredEvents → Prop}
    (hLocal : ∀ t, p t ↔ ∀ deploymentId, p (t.of deploymentId))
    {deploymentId : String} {change : StoredEvents → StoredEvents → Prop}
    {t t' : StoredEvents}
    (hChange : ∀ {before after}, p before → change before after → p after)
    (hConfined : Confined deploymentId change t t')
    (hBefore : p t) :
    p t' := by
  rw [hLocal] at hBefore ⊢
  intro other
  by_cases hOther : other = deploymentId
  · rw [hOther]
    exact hChange (hBefore deploymentId) hConfined.2
  · rw [hConfined.1 other hOther]
    exact hBefore other

/- Whatever fails, a group update leaves coherent stores. -/
theorem updateGroup_coherent
    (hLawful : h.Lawful stored)
    (hAtomic : h.Atomic stored)
    (group : DeviceGroup)
    {s : σ}
    (hCoherent : (stored s).Coherent) :
    (stored (h.updateGroup group s).2).Coherent := by
  have hEach := StoredEvents.coherent_iff_of.mp hCoherent
  rcases hRun : h.updateGroup group s with ⟨result, s'⟩
  rw [StoredEvents.coherent_iff_of]
  intro deploymentId
  have hLeaves := updateGroup_leaves hLawful hAtomic hCoherent hRun deploymentId
  cases hLeaves with
  | unconcerned hSame =>
      rw [hSame]
      exact hEach deploymentId
  | owned r owner _ _ hAfter => exact hAfter.coherent (hEach r.id)
  | unowned r _ _ hAfter => exact hAfter.coherent (hEach r.id)

end ConditionalHandler

end ProcessEvents
