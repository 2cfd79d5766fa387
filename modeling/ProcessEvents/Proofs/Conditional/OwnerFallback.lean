import ProcessEvents.Proofs.Conditional.Acknowledgement

/-
  A row that has lost its owner is deployed again for an owner
  whom a description of its deployment names. This file tells
  which rows are: the descriptions that are searched are those
  of the group that has changed, and not all of the deployment.
  If none of them names an owner, then the deployment is
  dropped, whoever is named by the others.

  Key definitions include:
    * `ConditionalHandler.IsRecovered`

  Key theorems include:
    * `ConditionalHandler.isRecovered_of_redeployed`
    * `ConditionalHandler.not_isRecovered_of_ownerless`
    * `ConditionalHandler.isRecovered_iff_of_reached`
    * `ConditionalHandler.updateGroup_recovers_iff`
-/

namespace ProcessEvents

variable {σ : Type}

open ProcessEvents.Action (Fixed)

namespace ConditionalHandler

variable {h : ConditionalHandler σ} {stored : σ → StoredEvents}
  {isUser : String → Prop}
variable {r : DeploymentIndex} {t t' : StoredEvents}

/-
  The deployment of a row has been deployed again for an owner
  whom one of its descriptions has named: there is a row of
  the owner, and besides it what deploying leaves.
-/
def IsRecovered
    (h : ConditionalHandler σ)
    (stored : σ → StoredEvents)
    (r : DeploymentIndex)
    (t t' : StoredEvents) : Prop :=
  ∃ d ∈ t.descriptions,
    d.deploymentId = r.id ∧ d.userId ≠ "" ∧
      (∃ r' ∈ t'.index, r'.id = r.id ∧ r'.userId = d.userId) ∧
      h.IsFresh stored { r with userId := d.userId } t'

/- Without a row of an owner the deployment is not recovered. -/
theorem not_isRecovered_of_ownerless
    (hOwnerless : ∀ r' ∈ (t'.of r.id).index, r'.userId = "") :
    ¬ h.IsRecovered stored r t t' := by
  rintro ⟨d, -, -, hOwner, ⟨r', hMem, hId, hSame⟩, -⟩
  exact hOwner (hSame.symm.trans
    (hOwnerless r' (StoredEvents.mem_of_index.mpr ⟨hMem, hId⟩)))

/- What is deployed from the answers for a named owner is recovered. -/
theorem isRecovered_of_redeployed
    (hLawful : h.Lawful stored)
    (hServes : h.Serves isUser)
    {answers : String → Deployment → List EventDescription}
    (hAnswers :
      ∀ owner deployment s,
        ∃ s', h.describer.describe owner deployment s =
          (.ok (answers owner deployment), s'))
    (hRow : r.deployment.id = r.id)
    {d : EventDescription}
    (hMem : d ∈ t.descriptions)
    (hDeployment : d.deploymentId = r.id)
    (hOwner : d.userId ≠ "")
    (hUser : isUser d.userId)
    (hStored : t'.of r.id = redeployed answers d.userId r.deployment) :
    h.IsRecovered stored r t t' := by
  have hFresh : h.IsFresh stored { r with userId := d.userId } t' :=
    isFresh_of_answers
      (r := { r with userId := d.userId }) hLawful hServes hAnswers hRow hOwner
      hUser hStored
  rw [redeployed, if_neg hOwner] at hStored
  have hNew :
      DeploymentIndex.ofDeployment d.userId r.deployment ∈
        (t'.of r.id).index := by
    rw [hStored]
    exact Multiset.mem_singleton_self _
  exact ⟨d, hMem, hDeployment, hOwner,
    ⟨_, (StoredEvents.mem_of_index.mp hNew).1, hRow, rfl⟩, hFresh⟩

/-
  If a row without owner is reached, then it is recovered
  exactly if a description that is listed for the group names
  an owner.
-/
theorem isRecovered_iff_of_reached
    (hLawful : h.Lawful stored)
    (hServes : h.Serves isUser)
    {answers : String → Deployment → List EventDescription}
    (hAnswers :
      ∀ owner deployment s,
        ∃ s', h.describer.describe owner deployment s =
          (.ok (answers owner deployment), s'))
    {groupId : String} {ds : List EventDescription}
    (hListed :
      (ds : Multiset EventDescription) =
        t.descriptions.filter fun d => d.deviceGroupId = groupId)
    (hRow : r.deployment.id = r.id)
    (hOwnerless : r.userId = "")
    (hUsers :
      ∀ d ∈ t.descriptions, d.deploymentId = r.id →
        d.userId ≠ "" → isUser d.userId)
    (hStored :
      IsServed isUser ds r →
        t'.of r.id = redeployed answers (ownerOf ds r) r.deployment) :
    h.IsRecovered stored r t t' ↔
      ∃ d ∈ t.descriptions,
        d.deploymentId = r.id ∧ d.deviceGroupId = groupId ∧ d.userId ≠ "" := by
  by_cases hNamed : ownerOf ds r = ""
  · apply iff_of_false
    · apply not_isRecovered_of_ownerless
      rw [hStored (Or.inl hNamed), redeployed, if_pos hNamed]
      exact fun r' hMem => absurd hMem (Multiset.notMem_zero r')
    · rintro ⟨d, hMem, hDeployment, hHere, hOwner⟩
      exact ownerOf_ne_empty hListed
        ⟨hOwner, Or.inr ⟨hOwnerless, d, hMem, hHere, hDeployment, rfl⟩⟩ hNamed
  · rcases names_ownerOf hListed hNamed with
      ⟨hOwner, hRowNames | ⟨-, d, hMem, hHere, hDeployment, hSameOwner⟩⟩
    · exact absurd (hRowNames.symm.trans hOwnerless) hOwner
    · rw [← hSameOwner] at hOwner hStored
      have hUser : isUser d.userId := hUsers d hMem hDeployment hOwner
      apply iff_of_true
      · apply isRecovered_of_redeployed hLawful
          hServes hAnswers hRow hMem hDeployment hOwner hUser
        exact hStored (Or.inr (hSameOwner ▸ hUser))
      · exact ⟨d, hMem, hDeployment, hHere, hOwner⟩

/-
  A row without owner is recovered exactly if a description of
  its deployment on the group that has changed names an owner,
  and the rows that are listed before it do not end the update.
-/
theorem updateGroup_recovers_iff
    (hLawful : h.Lawful stored)
    (hServes : h.Serves isUser)
    (group : DeviceGroup) (s : σ)
    (hIndexed : (stored s).Indexed)
    (hConcerns : (stored s).Concerns group.id r)
    (hOwnerless : r.userId = "")
    (hUsers :
      ∀ d ∈ (stored s).descriptions,
        d.deploymentId = r.id → d.userId ≠ "" → isUser d.userId) :
    ∃ before after ds s₁ s₂,
      h.index.byDeviceGroup group.id s = (.ok (before ++ r :: after), s₁) ∧
        h.events.byDeviceGroup group.id s₁ = (.ok ds, s₂) ∧
        (h.IsRecovered stored r (stored s) (stored (h.updateGroup group s).2) ↔
          group.id ≠ "" ∧
            (∃ d ∈ (stored s).descriptions,
              d.deploymentId = r.id ∧ d.deviceGroupId = group.id ∧
                d.userId ≠ "") ∧
            ∀ r' ∈ before, IsServed isUser ds r') := by
  rcases exists_listing hLawful hServes.available hIndexed hConcerns with
    ⟨before, after, ds, s₁, s₂, hRows, hDs, hListed, hSame, hRowIds, hIds⟩
  refine ⟨before, after, ds, s₁, s₂, hRows, hDs, ?_⟩
  have hNotNil : before ++ r :: after ≠ [] :=
    List.append_ne_nil_of_right_ne_nil _ (List.cons_ne_nil _ _)
  have hRow : r.deployment.id = r.id :=
    hRowIds r (List.mem_append_right _ List.mem_cons_self)
  -- what is not reached keeps the row without owner
  have hKept :
      (stored (h.updateGroup group s).2).of r.id = (stored s).of r.id →
        ¬ h.IsRecovered stored r (stored s)
          (stored (h.updateGroup group s).2) := by
    intro hStays
    apply not_isRecovered_of_ownerless
    rw [hStays, hIndexed.of_index hConcerns.1]
    intro r' hMem
    rw [Multiset.mem_singleton.mp hMem, hOwnerless]
  by_cases hGroup : group.id = ""
  · have hNothing : h.updateGroup group s = (.ok (), s) := by
      rw [updateGroup, if_pos (beq_iff_eq.mpr hGroup)]
      rfl
    exact iff_of_false (hKept (by rw [hNothing])) fun hReached =>
      hReached.1 hGroup
  have hRun := updateGroup_of_listed hGroup hRows hNotNil hDs
  by_cases hBefore : ∀ r' ∈ before, IsServed isUser ds r'
  · rw [and_iff_right hGroup, and_iff_left hBefore, hRun]
    choose answers hAnswers using
      fun owner deployment =>
        hServes.available.describer.describe Fixed.sequential owner deployment
    apply isRecovered_iff_of_reached hLawful hServes
      hAnswers hListed hRow hOwnerless hUsers
    intro hServed
    exact redeployAll_served hLawful hServes hAnswers
      (fun r' hIn => hRowIds r' (List.mem_append_right _ hIn))
        hIds hBefore hServed s₂
  · apply iff_of_false
    · apply hKept
      simp only [not_forall, exists_prop] at hBefore
      rcases hBefore with ⟨r', hMem, hMissing⟩
      rw [hRun, redeployAll_behind hLawful hServes
        (fun r' hIn => hRowIds r' (List.mem_append_left _ hIn))
          hIds hMem hMissing s₂, hSame]
    · exact fun hReached => hBefore hReached.2.2

/- A row without owner, and a description of its deployment that names one. -/
def ownerlessTables
    (deviceGroupId : String) : EventTables :=
  .ofLists
    [{ userId := "u1", deploymentId := "d1", deviceGroupId, eventId := "e0" }]
    [groupRow "" "d1"]

/- The description is on the group, so that the owner is found. -/
theorem updateGroup_recovers_iff_described :
    withUser.IsRecovered EventTables.stored (groupRow "" "d1")
      (ownerlessTables "g1").stored
      (withUser.updateGroup { id := "g1" }
        (ownerlessTables "g1")).2.stored := by
  have hRowIds : ∀ r ∈ (ownerlessTables "g1").rows.rows.values,
      r.deployment.id = r.id := by
    decide +kernel
  have hConcerns :
      (ownerlessTables "g1").stored.Concerns "g1" (groupRow "" "d1") :=
    ⟨List.mem_cons_self, by decide +kernel⟩
  have hUsers :
      ∀ d ∈ (ownerlessTables "g1").stored.descriptions,
        d.deploymentId = "d1" → d.userId ≠ "" → d.userId = "u1" := by
    intro d hMem _ _
    rw [List.mem_singleton.mp hMem]
  have hLength :
      ((ownerlessTables "g1").rows.ofDeviceGroup "g1").length = 1 := by
    decide +kernel
  rcases updateGroup_recovers_iff withUser_lawful withUser_serves { id := "g1" }
      (ownerlessTables "g1") (stored_indexed hRowIds) hConcerns rfl hUsers with
    ⟨before, after, ds, s₁, s₂, hRows, -, hIff⟩
  have hListed : (ownerlessTables "g1").rows.ofDeviceGroup "g1" = _ :=
    Except.ok.inj (congrArg Prod.fst hRows)
  rw [hListed, List.length_append, List.length_cons] at hLength
  have hBefore : before = [] := List.length_eq_zero_iff.mp (by omega)
  refine hIff.mpr ⟨by decide, ?_, ?_⟩
  · exact ⟨_, List.mem_singleton_self _, rfl, rfl, by decide⟩
  · rw [hBefore]
    exact fun r' hMem => absurd hMem List.not_mem_nil

/-
  If the description is on no group, or on another one, then
  the owner is not found, and the deployment is dropped.
-/
theorem updateGroup_drops_described :
    (ownerlessTables "").stored.Concerns "g1" (groupRow "" "d1") ∧
      (groupRow "" "d1").userId = "" ∧
      (∃ d ∈ (ownerlessTables "").stored.descriptions,
        d.deploymentId = "d1" ∧ d.userId = "u1") ∧
      (withUser.updateGroup { id := "g1" } (ownerlessTables "")).1.isOk = true ∧
      (withUser.updateGroup { id := "g1" }
        (ownerlessTables "")).2.rows.rows.values = [] ∧
      ¬ withUser.IsRecovered EventTables.stored
        (groupRow "" "d1") (ownerlessTables "").stored
        (withUser.updateGroup { id := "g1" }
          (ownerlessTables "")).2.stored := by
  have hIds :
      (withUser.updateGroup { id := "g1" }
        (ownerlessTables "")).2.rows.rows.values.map (·.id) =
        [] := by
    decide +kernel
  have hNone := List.map_eq_nil_iff.mp hIds
  refine ⟨⟨List.mem_cons_self, by decide +kernel⟩, rfl,
    ⟨_, List.mem_singleton_self _, rfl, rfl⟩, by decide +kernel, hNone, ?_⟩
  apply not_isRecovered_of_ownerless
  intro r' hMem
  have hRow := (StoredEvents.mem_of_index.mp hMem).1
  change r' ∈ ((withUser.updateGroup { id := "g1" }
    (ownerlessTables "")).2.rows.rows.values :
    Multiset DeploymentIndex) at hRow
  rw [hNone] at hRow
  exact absurd hRow (Multiset.notMem_zero r')

end ConditionalHandler

end ProcessEvents
