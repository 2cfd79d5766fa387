import ProcessEvents.Proofs.Conditional.Attempts

/-
  A group update that has failed is tried again when nothing
  fails any more. This file shows when that makes up for the
  failed attempt: exactly if every deployment that could be
  recalled by the group, together with its owner, still can.
  An attempt that fails between the removal of a row and the
  setting of the new one takes this away.

  Key definitions include:
    * `StoredEvents.Recalls`
    * `StoredEvents.Renewed`
    * `ConditionalHandler.Available`, `ConditionalHandler.Healthy`

  Key theorems include:
    * `StoredEvents.renewed_eq_iff`
    * `ConditionalHandler.updateGroup_renewed`
    * `ConditionalHandler.retry_eq_iff`
-/

namespace ProcessEvents

variable {σ : Type}

open ProcessEvents.Action (Fixed Succeeds)
open StoredEvents (Coherent)

------------------------------------------------------------
-- Complete updates
------------------------------------------------------------

namespace StoredEvents

/- A deployment can be found again by its group, with its owner. -/
def Recalls
    (t : StoredEvents)
    (groupId deploymentId : String) : Prop :=
  ∃ r owner,
    t.Concerns groupId r ∧ r.id = deploymentId ∧ t.Names groupId r owner

/-
  What an update leaves that nothing fails in: the answers of
  the lookups for the deployments of the group whose owners
  are known, nothing for those whose owners are not, and the
  others as they are.
-/
structure Renewed
    (answers : String → Deployment → List EventDescription)
    (groupId : String)
    (t t' : StoredEvents) : Prop where
  other :
    ∀ deploymentId,
      (∀ r, t.Concerns groupId r → r.id ≠ deploymentId) →
        t'.of deploymentId = t.of deploymentId
  owned :
    ∀ r owner,
      t.Concerns groupId r → t.Names groupId r owner →
        t'.of r.id =
          ConditionalHandler.deployed owner r.deployment
            (answers owner r.deployment)
  unowned :
    ∀ r,
      t.Concerns groupId r → (¬ ∃ owner, t.Names groupId r owner) →
        t'.of r.id = empty

variable {answers : String → Deployment → List EventDescription}
  {groupId : String}
variable {t t₁ u u₁ : StoredEvents}

/- The new row of a deployment is on the same groups. -/
theorem Coherent.mem_deviceGroups
    (hCoherent : t.Coherent)
    {r : DeploymentIndex}
    (hConcerns : t.Concerns groupId r)
    (owner : String) :
    groupId ∈
      (DeploymentIndex.ofDeployment owner r.deployment).deviceGroups := by
  have hGroups :=
    congrArg DeploymentIndex.deviceGroups (hCoherent.row r hConcerns.1)
  exact hGroups ▸ hConcerns.2

/-
  Once a complete update has left the same, whatever could be
  recalled before can be recalled after the attempt.
-/
theorem recalls_of_renewed_eq
    (hCoherent : t.Coherent)
    (hRenewed : Renewed answers groupId t u)
    (hRenewed₁ : Renewed answers groupId t₁ u)
    {deploymentId : String}
    (hRecalls : t.Recalls groupId deploymentId) :
    t₁.Recalls groupId deploymentId := by
  rcases hRecalls with ⟨r, owner, hConcerns, rfl, hNames⟩
  have hNew := hRenewed.owned r owner hConcerns hNames
  by_cases hStill : ∃ r₁, t₁.Concerns groupId r₁ ∧ r₁.id = r.id
  · rcases hStill with ⟨r₁, hConcerns₁, hId⟩
    by_cases hOwner : ∃ owner₁, t₁.Names groupId r₁ owner₁
    · rcases hOwner with ⟨owner₁, hNames₁⟩
      exact ⟨r₁, owner₁, hConcerns₁, hId, hNames₁⟩
    · exfalso
      have hEmpty := hRenewed₁.unowned r₁ hConcerns₁ hOwner
      rw [hId, hNew] at hEmpty
      exact Multiset.singleton_ne_zero _ (congrArg StoredEvents.index hEmpty)
  · exfalso
    have hSame :=
      hRenewed₁.other r.id fun r₁ hConcerns₁ hId => hStill ⟨r₁, hConcerns₁, hId⟩
    rw [hNew] at hSame
    -- the new row is on the group, and stood there already
    have hRow :
        DeploymentIndex.ofDeployment owner r.deployment ∈
          (t₁.of r.id).index := by
      rw [← hSame]
      exact Multiset.mem_singleton_self _
    rcases mem_of_index.mp hRow with ⟨hMem, hId⟩
    exact hStill ⟨_, ⟨hMem, hCoherent.mem_deviceGroups hConcerns owner⟩, hId⟩

/-
  The row is the same and there are no other descriptions
  than before: the update leaves the same if the owner, if
  known before, still is.
-/
theorem of_eq_of_row_eq
    (hCoherent : t.Coherent)
    (hRenewed : Renewed answers groupId t u)
    (hRenewed₁ : Renewed answers groupId t₁ u₁)
    {deploymentId : String}
    (hIndex : (t₁.of deploymentId).index = (t.of deploymentId).index)
    (hDescriptions :
      (t₁.of deploymentId).descriptions ≤ (t.of deploymentId).descriptions)
    (hSame :
      (∀ r, t.Concerns groupId r → r.id ≠ deploymentId) →
        t₁.of deploymentId = t.of deploymentId)
    (hRecalls : t.Recalls groupId deploymentId →
      t₁.Recalls groupId deploymentId) :
    u₁.of deploymentId = u.of deploymentId := by
  by_cases hRow : ∃ r, t.Concerns groupId r ∧ r.id = deploymentId
  · rcases hRow with ⟨r, hConcerns, rfl⟩
    have hConcerns₁ := hConcerns.congr hIndex
    by_cases hOwner : ∃ owner, t.Names groupId r owner
    · rcases hOwner with ⟨owner, hNames⟩
      rcases hRecalls ⟨r, owner, hConcerns, rfl, hNames⟩ with
        ⟨r₁, owner₁, hStill, hId, hNames₁⟩
      have hBack : t.Concerns groupId r₁ := hStill.congr (hId ▸ hIndex.symm)
      have hRowSame : r₁ = r := hCoherent.row_unique hBack.1 hConcerns.1 hId
      subst hRowSame
      have hOwnerSame :=
        hCoherent.names_unique (hNames₁.mono hDescriptions) hNames
      subst hOwnerSame
      rw [hRenewed.owned r₁ owner₁ hConcerns hNames,
        hRenewed₁.owned r₁ owner₁ hConcerns₁ hNames₁]
    · have hOwner₁ : ¬ ∃ owner, t₁.Names groupId r owner := by
        rintro ⟨owner, hNames₁⟩
        exact hOwner ⟨owner, hNames₁.mono hDescriptions⟩
      rw [hRenewed.unowned r hConcerns hOwner,
        hRenewed₁.unowned r hConcerns₁ hOwner₁]
  · have hNone : ∀ r, t.Concerns groupId r → r.id ≠ deploymentId :=
      fun r hConcerns hId => hRow ⟨r, hConcerns, hId⟩
    have hNone₁ : ∀ r, t₁.Concerns groupId r → r.id ≠ deploymentId := by
      rintro r hConcerns₁ rfl
      exact hNone r (hConcerns₁.congr hIndex.symm) rfl
    rw [hRenewed.other deploymentId hNone, hRenewed₁.other deploymentId hNone₁,
      hSame hNone]

theorem id_ne_of_index_eq_zero
    {deploymentId : String}
    (hIndex : (t.of deploymentId).index = 0) :
    ∀ r, t.Concerns groupId r → r.id ≠ deploymentId := by
  rintro r hConcerns rfl
  have hIn := mem_of_index.mpr ⟨hConcerns.1, rfl⟩
  rw [hIndex] at hIn
  exact Multiset.notMem_zero r hIn

/- What an attempt has completed is deployed once more from the answers. -/
theorem of_eq_of_complete
    (hCoherent : t.Coherent)
    (hRenewed : Renewed answers groupId t u)
    (hRenewed₁ : Renewed answers groupId t₁ u₁)
    {r : DeploymentIndex} {owner : String}
    (hConcerns : t.Concerns groupId r)
    (hNames : t.Names groupId r owner)
    {ds : List EventDescription}
    (hPiece : t₁.of r.id = ConditionalHandler.deployed owner r.deployment ds) :
    u₁.of r.id = u.of r.id := by
  have hMem :
      DeploymentIndex.ofDeployment owner r.deployment ∈ (t₁.of r.id).index := by
    rw [hPiece]
    exact Multiset.mem_singleton_self _
  rcases mem_of_index.mp hMem with ⟨hRow, hId⟩
  have hNew :=
    hRenewed₁.owned _ owner
      ⟨hRow, hCoherent.mem_deviceGroups hConcerns owner⟩ ⟨hNames.1, Or.inl rfl⟩
  rw [hId] at hNew
  rw [hNew, hRenewed.owned r owner hConcerns hNames]
  rfl

/- What an attempt may leave is made up for if nothing has been lost. -/
theorem of_eq_of_recalls
    (hCoherent : t.Coherent)
    (hRenewed : Renewed answers groupId t u)
    (hRenewed₁ : Renewed answers groupId t₁ u₁)
    {deploymentId : String}
    (hAfter : ConditionalHandler.AfterUpdate groupId t t₁ deploymentId)
    (hRecalls : t.Recalls groupId deploymentId →
      t₁.Recalls groupId deploymentId) :
    u₁.of deploymentId = u.of deploymentId := by
  -- without a row the deployment cannot be recalled
  have hLost :
      t.Recalls groupId deploymentId → (t₁.of deploymentId).index ≠ 0 := by
    intro hBefore hIndex
    rcases hRecalls hBefore with ⟨r, owner, hConcerns, hId, -⟩
    exact id_ne_of_index_eq_zero hIndex r hConcerns hId
  have hRemoved :
      ∀ {r : DeploymentIndex},
        r.id = deploymentId →
          t.Concerns groupId r →
            ConditionalHandler.AfterRemoval (t.of deploymentId)
              (t₁.of deploymentId) →
              t₁.of deploymentId ≠ empty →
                u₁.of deploymentId = u.of deploymentId := by
    intro r hId hConcerns hRemoval hNotEmpty
    rcases hRemoval.of_ne_empty hNotEmpty with ⟨hIndex, hDescriptions⟩
    exact
      of_eq_of_row_eq hCoherent hRenewed hRenewed₁ hIndex hDescriptions
        (fun hNone => absurd hId (hNone r hConcerns)) hRecalls
  cases hAfter with
  | unconcerned hSame =>
      exact
        of_eq_of_row_eq hCoherent hRenewed hRenewed₁ (congrArg _ hSame)
          (le_of_eq (congrArg _ hSame)) (fun _ => hSame) hRecalls
  | unowned r hConcerns hOwner hRemoval =>
      by_cases hEmpty : t₁.of r.id = empty
      · have hNone : ∀ r', t₁.Concerns groupId r' → r'.id ≠ r.id :=
          id_ne_of_index_eq_zero (congrArg StoredEvents.index hEmpty)
        rw [hRenewed₁.other r.id hNone,
          hRenewed.unowned r hConcerns hOwner, hEmpty]
      · exact hRemoved rfl hConcerns hRemoval hEmpty
  | owned r owner hConcerns hNames hDeployment =>
      have hIndex := hLost ⟨r, owner, hConcerns, rfl, hNames⟩
      generalize hPiece : t₁.of r.id = after at hDeployment
      cases hDeployment with
      | unremoved hRemoval =>
          rw [← hPiece] at hRemoval
          exact hRemoved rfl hConcerns hRemoval fun hEmpty =>
            hIndex (congrArg StoredEvents.index hEmpty)
      | unindexed ds _ =>
          exact absurd (congrArg StoredEvents.index hPiece) hIndex
      | complete ds _ =>
          exact of_eq_of_complete hCoherent hRenewed
            hRenewed₁ hConcerns hNames hPiece

/-
  An update after the attempt and one without it leave the
  same exactly if the attempt has lost no deployment.
-/
theorem renewed_eq_iff
    (hCoherent : t.Coherent)
    (hRenewed : Renewed answers groupId t u)
    (hRenewed₁ : Renewed answers groupId t₁ u₁)
    (hAfter : ∀ deploymentId,
      ConditionalHandler.AfterUpdate groupId t t₁ deploymentId) :
    u₁ = u ↔
      ∀ deploymentId, t.Recalls groupId deploymentId →
        t₁.Recalls groupId deploymentId := by
  constructor
  · intro hSame deploymentId hRecalls
    rw [hSame] at hRenewed₁
    exact recalls_of_renewed_eq hCoherent hRenewed hRenewed₁ hRecalls
  · intro hRecalls
    apply eq_of_of_eq
    intro deploymentId
    exact
      of_eq_of_recalls hCoherent hRenewed hRenewed₁ (hAfter deploymentId)
        (hRecalls deploymentId)

end StoredEvents

------------------------------------------------------------
-- Healthy collaborators
------------------------------------------------------------

namespace ConditionalHandler

/-
  No call but that for a token fails, and the lookups have
  answers of their own: what is stored has no influence on
  them.
-/
structure Available
    (h : ConditionalHandler σ) : Prop where
  describer : h.describer.Asks Fixed
  set : ∀ d, Succeeds (h.events.set d)
  removeByDeployment :
    ∀ deploymentId, Succeeds (h.events.removeByDeployment deploymentId)
  byDeviceGroup : ∀ groupId, Succeeds (h.events.byDeviceGroup groupId)
  byDeployment : ∀ deploymentId, Succeeds (h.events.byDeployment deploymentId)
  setRow : ∀ row, Succeeds (h.index.set row)
  removeRow : ∀ deploymentId, Succeeds (h.index.remove deploymentId)
  rowsByDeviceGroup : ∀ groupId, Succeeds (h.index.byDeviceGroup groupId)

/- No call fails, not even that for a token. -/
structure Healthy
    (h : ConditionalHandler σ) : Prop extends Available h where
  userToken : ∀ owner, Succeeds (h.tokens.userToken owner)

variable {h : ConditionalHandler σ} {stored : σ → StoredEvents}

namespace Available

/- Of calls that do not fail there is nothing to expect when they do. -/
theorem atomic
    (hAvailable : h.Available) :
    h.Atomic stored where
  events :=
    { set_error := fun {d s _ _} hError => by
        rcases hAvailable.set d s with ⟨_, _, hRun⟩
        rw [hRun] at hError
        cases hError
      removeByDeployment_error := fun {deploymentId s _ _} hError => by
        rcases hAvailable.removeByDeployment deploymentId s with ⟨_, _, hRun⟩
        rw [hRun] at hError
        cases hError }
  index :=
    { set_error := fun {row s _ _} hError => by
        rcases hAvailable.setRow row s with ⟨_, _, hRun⟩
        rw [hRun] at hError
        cases hError
      remove_error := fun {deploymentId s _ _} hError => by
        rcases hAvailable.removeRow deploymentId s with ⟨_, _, hRun⟩
        rw [hRun] at hError
        cases hError }

theorem removeEvents
    (hAvailable : h.Available)
    (deploymentId : String) :
    Succeeds (h.removeEvents deploymentId) := by
  have hP : Action.Sequential (Succeeds : Action.Property σ) :=
    Succeeds.sequential
  unfold ConditionalHandler.removeEvents
  apply hP.bind ((hAvailable.byDeployment deploymentId).mapError _)
  intro removed
  apply hP.bind ((hAvailable.removeByDeployment deploymentId).mapError _)
  intro _
  apply hP.bind ((hAvailable.removeRow deploymentId).mapError _)
  intro _
  exact Counters.succeeds_count _ _ _

/- Nothing but the token of the owner is in doubt. -/
theorem deployEvents
    (hAvailable : h.Available)
    {owner : String}
    (hToken : Succeeds (h.tokens.userToken owner))
    (deployment : Deployment) :
    Succeeds (h.deployEvents owner deployment) := by
  have hP : Action.Sequential (Succeeds : Action.Property σ) :=
    Succeeds.sequential
  unfold ConditionalHandler.deployEvents
  apply hP.bind (hToken.mapError _)
  intro token
  apply hP.bind
    (hAvailable.describer.describe Fixed.sequential owner deployment).succeeds
  intro ds
  apply hP.bind
  · apply hP.forEach
    intro d _
    unfold storeEvent
    apply hP.bind ((hAvailable.set _).mapError _)
    intro _
    exact Counters.succeeds_count _ _ _
  · intro _
    exact (hAvailable.setRow _).mapError _

theorem redeploy
    (hAvailable : h.Available)
    {ds : List EventDescription} {r : DeploymentIndex}
    (hToken : ownerOf ds r = "" ∨
      Succeeds (h.tokens.userToken (ownerOf ds r))) :
    Succeeds (h.redeploy ds r) := by
  have hP : Action.Sequential (Succeeds : Action.Property σ) :=
    Succeeds.sequential
  unfold ConditionalHandler.redeploy
  apply hP.bind (hAvailable.removeEvents r.id)
  intro _
  dsimp only
  rcases hToken with hNone | hToken
  · rw [hNone]
    exact hP.pure ()
  · split
    · exact hP.pure ()
    · exact hAvailable.deployEvents hToken _

end Available

theorem Healthy.updateGroup
    (hHealthy : h.Healthy)
    (group : DeviceGroup) :
    Succeeds (h.updateGroup group) := by
  have hP : Action.Sequential (Succeeds : Action.Property σ) :=
    Succeeds.sequential
  unfold ConditionalHandler.updateGroup
  split
  · exact hP.pure ()
  · apply hP.bind ((hHealthy.rowsByDeviceGroup group.id).mapError _)
    intro rows
    split
    · exact hP.pure ()
    · apply hP.bind ((hHealthy.byDeviceGroup group.id).mapError _)
      intro ds
      apply hP.forEach
      intro r _
      exact hHealthy.toAvailable.redeploy (Or.inr (hHealthy.userToken _))

------------------------------------------------------------
-- Updates that succeed
------------------------------------------------------------

/-
  What is stored for a deployment that is deployed from the
  answers for its owner.
-/
def redeployed
    (answers : String → Deployment → List EventDescription)
    (owner : String)
    (deployment : Deployment) : StoredEvents :=
  if owner = "" then .empty
  else deployed owner deployment (answers owner deployment)

/- Whatever has been stored, a row is deployed from the same answers. -/
theorem redeploy_answers
    (hLawful : h.Lawful stored)
    {answers : String → Deployment → List EventDescription}
    (hAnswers :
      ∀ owner deployment s,
        ∃ s', h.describer.describe owner deployment s =
          (.ok (answers owner deployment), s'))
    (ds : List EventDescription)
    {r : DeploymentIndex}
    (hRow : r.deployment.id = r.id)
    {s s' : σ}
    (hRun : h.redeploy ds r s = (.ok (), s')) :
    Confined r.id
      (fun _ after => after = redeployed answers (ownerOf ds r) r.deployment)
      (stored s) (stored s') := by
  unfold redeployed
  rw [redeploy_eq h hRow] at hRun
  by_cases hOwner : ownerOf ds r = ""
  · simp only [hOwner, if_true] at hRun ⊢
    rw [removeEvents_stored hLawful hRun]
    constructor
    · intro other hOther
      rw [StoredEvents.of_without, if_neg hOther]
    · rw [StoredEvents.of_without, if_pos rfl]
  · simp only [hOwner, if_false] at hRun ⊢
    rcases deploy_stored hLawful hRun with
      ⟨s₀, token, s₁, described, s₂, -, -, hDescribe, hStored⟩
    have hFor := h.describer.describe_isFor _ _ s₁ described s₂ hDescribe
    have hOf := of_deployed hFor
    rcases hAnswers (ownerOf ds r) r.deployment s₁ with ⟨s₃, hAnswer⟩
    rw [hDescribe] at hAnswer
    cases hAnswer
    rw [hRow] at hOf hStored
    rw [hStored]
    constructor
    · intro other hOther
      rw [hOf, if_neg hOther]
    · rw [hOf, if_pos rfl]

theorem updateGroup_renewed
    (hLawful : h.Lawful stored)
    {answers : String → Deployment → List EventDescription}
    (hAnswers :
      ∀ owner deployment s,
        ∃ s', h.describer.describe owner deployment s =
          (.ok (answers owner deployment), s'))
    {group : DeviceGroup}
    (hGroup : group.id ≠ "")
    {s s' : σ}
    (hCoherent : (stored s).Coherent)
    (hRun : h.updateGroup group s = (.ok (), s')) :
    StoredEvents.Renewed answers group.id (stored s) (stored s') := by
  rcases updateGroup_cases hLawful hRun with
    ⟨hRefused | ⟨e, hError⟩, -⟩ | ⟨rows, ds, s₁, hRows, hDs, hSame, hEach⟩
  · exact absurd hRefused hGroup
  · cases hError
  have hMem : ∀ r, r ∈ rows ↔ (stored s).Concerns group.id r := by
    intro r
    rw [← Multiset.mem_coe, hRows, Multiset.mem_filter]
    rfl
  have hIds : (rows.map (·.id)).Nodup :=
    hCoherent.indexed.nodup_ids (hRows ▸ Multiset.filter_le _ _)
  have hStep :
      ∀ r ∈ rows, ∀ {s s' : σ} {result : Except DeployError Unit},
        h.redeploy ds r s = (result, s') → .ok () = result →
          Confined r.id (fun _ after => after =
            redeployed answers (ownerOf ds r) r.deployment)
            (stored s) (stored s') := by
    intro r hIn s s' result hRedeploy hOk
    subst hOk
    exact redeploy_answers hLawful hAnswers ds
      (hCoherent.row_id ((hMem r).mp hIn).1) hRedeploy
  rcases forEach_confined hIds rfl nofun hStep hEach rfl with
    ⟨hOthers, hRedeployed⟩
  rw [hSame] at hOthers
  constructor
  · intro deploymentId hNone
    apply hOthers
    intro hIn
    rcases List.mem_map.mp hIn with ⟨r, hRow, hId⟩
    exact hNone r ((hMem r).mp hRow) hId
  · intro r owner hConcerns hNames
    rw [hRedeployed r ((hMem r).mpr hConcerns), ownerOf_eq hCoherent hDs hNames,
      redeployed, if_neg hNames.1]
  · intro r hConcerns hUnknown
    have hOwner : ownerOf ds r = "" := by
      by_contra hKnown
      exact hUnknown ⟨_, names_ownerOf hDs hKnown⟩
    rw [hRedeployed r ((hMem r).mpr hConcerns), redeployed, if_pos hOwner]

/-
  A group update has failed. Trying it again without failures
  leaves what it would have left in the first place exactly
  if the failed attempt has lost no deployment: each one that
  the group recalled before, it still recalls.
-/
theorem retry_eq_iff
    {h h' : ConditionalHandler σ}
    (hLawful : h.Lawful stored)
    (hAtomic : h.Atomic stored)
    (hLawful' : h'.Lawful stored)
    (hHealthy : h'.Healthy)
    {group : DeviceGroup} {s s₁ : σ} {e : DeployError}
    (hCoherent : (stored s).Coherent)
    (hFail : h.updateGroup group s = (.error e, s₁)) :
    ∃ t t₁,
      h'.updateGroup group s = (.ok (), t) ∧
        h'.updateGroup group s₁ = (.ok (), t₁) ∧
        (stored t₁ = stored t ↔
          ∀ deploymentId,
            (stored s).Recalls group.id deploymentId →
              (stored s₁).Recalls group.id deploymentId) := by
  have hGroup : group.id ≠ "" := by
    intro hEmpty
    rw [updateGroup, if_pos (beq_iff_eq.mpr hEmpty)] at hFail
    cases hFail
  have hCoherent₁ : (stored s₁).Coherent := by
    have hEnd := updateGroup_coherent hLawful hAtomic group hCoherent
    rw [hFail] at hEnd
    exact hEnd
  choose answers hAnswers using
    fun owner deployment =>
      hHealthy.describer.describe Fixed.sequential owner deployment
  rcases hHealthy.updateGroup group s with ⟨_, t, hRun⟩
  rcases hHealthy.updateGroup group s₁ with ⟨_, t₁, hRun₁⟩
  have hRenewed := updateGroup_renewed hLawful' hAnswers hGroup hCoherent hRun
  have hRenewed₁ :=
    updateGroup_renewed hLawful' hAnswers hGroup hCoherent₁ hRun₁
  have hAfter := updateGroup_leaves hLawful hAtomic hCoherent hFail
  exact ⟨t, t₁, hRun, hRun₁,
    StoredEvents.renewed_eq_iff hCoherent hRenewed hRenewed₁ hAfter⟩

------------------------------------------------------------
-- A deployment that is lost
------------------------------------------------------------

theorem onTables_atomic
    (token : Except AuthError BearerToken) :
    (onTables token).Atomic EventTables.stored where
  events := EventTables.events_atomic
  index := EventTables.index_atomic

/- If no call to the stores fails, only tokens can. -/
theorem onStores_available
    {events : EventStore σ} {index : IndexStore σ}
    (hEvents : events.All Succeeds)
    (hIndex : index.All Succeeds)
    (token : Except AuthError BearerToken) :
    (onStores events index token).Available where
  describer := onStores_asks Fixed.sequential token
  set := hEvents.set
  removeByDeployment := hEvents.removeByDeployment
  byDeviceGroup := hEvents.byDeviceGroup
  byDeployment := hEvents.byDeployment
  setRow := hIndex.set
  removeRow := hIndex.remove
  rowsByDeviceGroup := hIndex.byDeviceGroup

theorem onTables_available
    (token : Except AuthError BearerToken) :
    (onTables token).Available :=
  onStores_available EventTables.events_succeed EventTables.index_succeed token

/- With a token for every user, nothing fails. -/
theorem onTables_healthy
    (token : BearerToken) :
    (onTables (.ok token)).Healthy where
  toAvailable := onTables_available (.ok token)
  userToken _ := Succeeds.sequential.pure token

/- Why there is no token for now. -/
def noToken : AuthError :=
  .request (.transport .unreachable)

/- The row of one deployment with an event on a group. -/
def indexedTables : EventTables :=
  .ofLists [] [.ofDeployment "u1" groupDeployment]

theorem indexedTables_coherent :
    indexedTables.stored.Coherent := by
  have hFor : ∀ d ∈ ([] : List EventDescription),
      d.IsFor "u1" groupDeployment.id := nofun
  exact coherent_of_isFor hFor le_rfl

theorem indexedTables_recalls :
    indexedTables.stored.Recalls "g1" "d1" :=
  ⟨.ofDeployment "u1" groupDeployment, "u1",
    ⟨Multiset.mem_singleton_self _, by decide +kernel⟩,
    rfl, by decide, Or.inl rfl⟩

theorem retry_eq_iff_noToken :
    ∃ s₁ t t₁,
      ((onTables (.error noToken)).updateGroup
          { id := "g1" } indexedTables).2 = s₁ ∧
        (onTables (.ok ⟨"Bearer"⟩)).updateGroup { id := "g1" } indexedTables =
          (.ok (), t) ∧
        (onTables (.ok ⟨"Bearer"⟩)).updateGroup { id := "g1" } s₁ =
          (.ok (), t₁) ∧
        t₁.stored ≠ t.stored := by
  have hError :
      ((onTables (.error noToken)).updateGroup
        { id := "g1" } indexedTables).1.isOk = false := by
    decide +kernel
  have hIds :
      ((onTables (.error noToken)).updateGroup
        { id := "g1" } indexedTables).2.rows.rows.values.map
        (·.id) = [] := by
    decide +kernel
  rcases Action.eq_error_of_isOk hError with ⟨e, hFail⟩
  generalize
    ((onTables (.error noToken)).updateGroup { id := "g1" } indexedTables).2 =
      s₁ at hFail hIds ⊢
  rcases retry_eq_iff (onTables_lawful _) (onTables_atomic _)
    (onTables_lawful _)
      (onTables_healthy ⟨"Bearer"⟩) indexedTables_coherent hFail with
    ⟨t, t₁, hRun, hRun₁, hIff⟩
  refine ⟨s₁, t, t₁, rfl, hRun, hRun₁, ?_⟩
  intro hSame
  rcases hIff.mp hSame "d1" indexedTables_recalls with ⟨r, -, ⟨hRow, -⟩, -, -⟩
  have hMem : r ∈ s₁.rows.rows.values := hRow
  rw [List.map_eq_nil_iff.mp hIds] at hMem
  cases hMem

/-
  While there is no token, the update removes the deployment
  and does not deploy it again. Nothing points to it any more
  when the update is tried again.
-/
theorem retry_finds_no_row :
    ((onTables (.error noToken)).updateGroup
      { id := "g1" } indexedTables).1.isOk = false ∧
      ((onTables (.ok ⟨"Bearer"⟩)).updateGroup { id := "g1" }
          indexedTables).2.rows.rows.keys = ["d1"] ∧
      ((onTables (.ok ⟨"Bearer"⟩)).updateGroup { id := "g1" }
          ((onTables (.error noToken)).updateGroup { id := "g1" }
            indexedTables).2).2.rows.rows.keys = [] := by
  refine ⟨?_, ?_, ?_⟩
  · decide +kernel
  · decide +kernel
  · decide +kernel

end ConditionalHandler

end ProcessEvents
