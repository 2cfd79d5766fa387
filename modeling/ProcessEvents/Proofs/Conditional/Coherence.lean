import ProcessEvents.ConditionalHandler
import ProcessEvents.Proofs.StoredEvents

/-
  What is stored is coherent if each deployment has at most
  one index row, which has been made from the deployment, and
  if its descriptions name one owner. Then the owner of a row
  is found in whatever order descriptions are listed.

  Key definitions include:
    * `StoredEvents.Coherent`, `StoredEvents.Indexed`
    * `StoredEvents.Concerns`
    * `StoredEvents.Names`

  Key theorems include:
    * `StoredEvents.coherent_iff_of`
    * `ConditionalHandler.names_ownerOf`
    * `ConditionalHandler.ownerOf_ne_empty`
    * `ConditionalHandler.ownerOf_eq`
-/

namespace ProcessEvents

------------------------------------------------------------
-- Coherent stores
------------------------------------------------------------

namespace StoredEvents

structure Coherent
    (t : StoredEvents) : Prop where
  single : ∀ deploymentId, (t.of deploymentId).index.card ≤ 1
  row : ∀ r ∈ t.index, r = .ofDeployment r.userId r.deployment
  owner :
    ∀ d ∈ t.descriptions, ∀ d' ∈ t.descriptions,
      d.deploymentId = d'.deploymentId → d.userId = d'.userId

/- Rows can be told apart by their ids, which are those of their deployments. -/
structure Indexed
    (t : StoredEvents) : Prop where
  single : ∀ deploymentId, (t.of deploymentId).index.card ≤ 1
  row_id : ∀ r ∈ t.index, r.deployment.id = r.id

variable {t t' : StoredEvents} {deploymentId : String}

theorem mem_of_descriptions
    {d : EventDescription} :
    d ∈ (t.of deploymentId).descriptions ↔
      d ∈ t.descriptions ∧ d.deploymentId = deploymentId :=
  Multiset.mem_filter

theorem mem_of_index
    {r : DeploymentIndex} :
    r ∈ (t.of deploymentId).index ↔ r ∈ t.index ∧ r.id = deploymentId :=
  Multiset.mem_filter

theorem of_of
    (t : StoredEvents) (deploymentId other : String) :
    (t.of deploymentId).of other =
      if other = deploymentId then t.of other else empty := by
  by_cases hSame : other = deploymentId
  · subst hSame
    rw [if_pos rfl]
    apply StoredEvents.ext
    · exact Multiset.filter_eq_self.mpr fun d hMem =>
        (mem_of_descriptions.mp hMem).2
    · exact Multiset.filter_eq_self.mpr fun r hMem => (mem_of_index.mp hMem).2
  · rw [if_neg hSame]
    apply StoredEvents.ext
    · apply Multiset.filter_eq_nil.mpr
      intro d hMem hOther
      exact hSame (hOther.symm.trans (mem_of_descriptions.mp hMem).2)
    · apply Multiset.filter_eq_nil.mpr
      intro r hMem hOther
      exact hSame (hOther.symm.trans (mem_of_index.mp hMem).2)

theorem coherent_empty :
    Coherent empty where
  single _ := by simp [of, empty]
  row r hMem := absurd hMem (Multiset.notMem_zero r)
  owner d hMem := absurd hMem (Multiset.notMem_zero d)

/- Coherence is a matter of each deployment on its own. -/
theorem coherent_iff_of :
    t.Coherent ↔ ∀ deploymentId, (t.of deploymentId).Coherent := by
  constructor
  · intro hCoherent deploymentId
    refine ⟨fun other => ?_, fun r hMem => ?_, fun d hMem d' hMem' => ?_⟩
    · rw [of_of]
      split
      · exact hCoherent.single other
      · exact coherent_empty.single other
    · exact hCoherent.row r (mem_of_index.mp hMem).1
    · exact hCoherent.owner d (mem_of_descriptions.mp hMem).1 d'
        (mem_of_descriptions.mp hMem').1
  · intro hEach
    refine ⟨fun other => ?_, fun r hMem => ?_, fun d hMem d' hMem' hSame => ?_⟩
    · have hSingle := (hEach other).single other
      rw [of_of, if_pos rfl] at hSingle
      exact hSingle
    · exact (hEach r.id).row r (mem_of_index.mpr ⟨hMem, rfl⟩)
    · exact
        (hEach d.deploymentId).owner d (mem_of_descriptions.mpr ⟨hMem, rfl⟩) d'
          (mem_of_descriptions.mpr ⟨hMem', hSame.symm⟩) hSame

/- Rows that have been made from deployments have their ids. -/
theorem Coherent.row_id
    (hCoherent : t.Coherent)
    {r : DeploymentIndex}
    (hMem : r ∈ t.index) :
    r.deployment.id = r.id :=
  (congrArg DeploymentIndex.id (hCoherent.row r hMem)).symm

theorem Coherent.indexed
    (hCoherent : t.Coherent) :
    t.Indexed where
  single := hCoherent.single
  row_id _ hMem := hCoherent.row_id hMem

/- A row with its id is all that the index has for its deployment. -/
theorem Indexed.of_index
    (hIndexed : t.Indexed)
    {r : DeploymentIndex}
    (hMem : r ∈ t.index) :
    (t.of r.id).index = {r} := by
  have hIn := mem_of_index.mpr ⟨hMem, rfl⟩
  rcases Nat.le_one_iff_eq_zero_or_eq_one.mp (hIndexed.single r.id) with
    hNone | hOne
  · rw [Multiset.card_eq_zero.mp hNone] at hIn
    exact absurd hIn (Multiset.notMem_zero r)
  · rcases Multiset.card_eq_one.mp hOne with ⟨only, hOnly⟩
    rw [hOnly, Multiset.mem_singleton] at hIn
    rw [hOnly, hIn]

theorem Coherent.of_index
    (hCoherent : t.Coherent)
    {r : DeploymentIndex}
    (hMem : r ∈ t.index) :
    (t.of r.id).index = {r} :=
  hCoherent.indexed.of_index hMem

theorem Coherent.row_unique
    (hCoherent : t.Coherent)
    {r r' : DeploymentIndex}
    (hMem : r ∈ t.index)
    (hMem' : r' ∈ t.index)
    (hId : r.id = r'.id) :
    r = r' := by
  have hIn := mem_of_index.mpr ⟨hMem, hId⟩
  rw [hCoherent.of_index hMem'] at hIn
  exact Multiset.mem_singleton.mp hIn

/- Whichever rows are listed, they have ids of their own. -/
theorem Indexed.nodup_ids
    (hIndexed : t.Indexed)
    {rows : List DeploymentIndex}
    (hListed : (rows : Multiset DeploymentIndex) ≤ t.index) :
    (rows.map (·.id)).Nodup := by
  rw [List.nodup_iff_count_le_one]
  intro id
  have hOf : ((rows : Multiset DeploymentIndex).filter fun r => r.id = id) ≤
      (t.of id).index :=
    Multiset.filter_le_filter _ hListed
  have hCard := (Multiset.card_le_card hOf).trans (hIndexed.single id)
  rw [Multiset.filter_coe,
    Multiset.coe_card, ← List.countP_eq_length_filter] at hCard
  rw [List.count, List.countP_map]
  exact hCard

------------------------------------------------------------
-- Rows and their owners
------------------------------------------------------------

/- The row belongs to a deployment with an event on the group. -/
def Concerns
    (t : StoredEvents)
    (groupId : String)
    (r : DeploymentIndex) : Prop :=
  r ∈ t.index ∧ groupId ∈ r.deviceGroups

theorem Concerns.congr
    {groupId : String} {r : DeploymentIndex}
    (hConcerns : t.Concerns groupId r)
    (hIndex : (t'.of r.id).index = (t.of r.id).index) :
    t'.Concerns groupId r := by
  have hIn := mem_of_index.mpr ⟨hConcerns.1, rfl⟩
  rw [← hIndex] at hIn
  exact ⟨(mem_of_index.mp hIn).1, hConcerns.2⟩

/-
  The owner of a row is known: the row names it, or else a
  description of its deployment on the group does.
-/
def Names
    (t : StoredEvents)
    (groupId : String)
    (r : DeploymentIndex)
    (owner : String) : Prop :=
  owner ≠ "" ∧
    (r.userId = owner ∨
      r.userId = "" ∧
        ∃ d ∈ t.descriptions,
          d.deviceGroupId = groupId ∧ d.deploymentId = r.id ∧ d.userId = owner)

/- It depends on the descriptions of the row's deployment only. -/
theorem Names.mono
    {groupId owner : String} {r : DeploymentIndex}
    (hNames : t.Names groupId r owner)
    (hDescriptions : (t.of r.id).descriptions ≤ (t'.of r.id).descriptions) :
    t'.Names groupId r owner := by
  rcases hNames with
    ⟨hOwner, hRow | ⟨hRow, d, hMem, hGroup, hDeployment, hUser⟩⟩
  · exact ⟨hOwner, Or.inl hRow⟩
  · refine ⟨hOwner, Or.inr ⟨hRow, d, ?_, hGroup, hDeployment, hUser⟩⟩
    have hIn := Multiset.mem_of_le hDescriptions
      (mem_of_descriptions.mpr ⟨hMem, hDeployment⟩)
    exact (mem_of_descriptions.mp hIn).1

theorem Coherent.names_unique
    (hCoherent : t.Coherent)
    {groupId owner owner' : String} {r : DeploymentIndex}
    (hNames : t.Names groupId r owner)
    (hNames' : t.Names groupId r owner') :
    owner = owner' := by
  rcases hNames with ⟨hOwner, hRow | ⟨hRow, d, hMem, -, hDeployment, hUser⟩⟩
  · rcases hNames' with ⟨-, hRow' | ⟨hRow', -⟩⟩
    · exact hRow.symm.trans hRow'
    · exact absurd (hRow.symm.trans hRow') hOwner
  · rcases hNames' with
      ⟨hOwner', hRow' | ⟨-, d', hMem', -, hDeployment', hUser'⟩⟩
    · exact absurd (hRow'.symm.trans hRow) hOwner'
    · rw [← hUser, ← hUser']
      exact hCoherent.owner d hMem d' hMem'
        (hDeployment.trans hDeployment'.symm)

end StoredEvents

/-
  The owner of a row, as it is looked for among the listed
  descriptions of a group, is the one that is known.
-/
theorem ConditionalHandler.names_ownerOf
    {t : StoredEvents} {groupId : String} {ds : List EventDescription}
    {r : DeploymentIndex}
    (hListed :
      (ds : Multiset EventDescription) =
        t.descriptions.filter fun d => d.deviceGroupId = groupId)
    (hOwner : ownerOf ds r ≠ "") :
    t.Names groupId r (ownerOf ds r) := by
  refine ⟨hOwner, ?_⟩
  rw [ownerOf] at hOwner ⊢
  by_cases hRow : r.userId = ""
  · rw [if_pos (beq_iff_eq.mpr hRow)] at hOwner ⊢
    refine Or.inr ⟨hRow, ?_⟩
    rw [describedOwner?] at hOwner ⊢
    cases hFind :
      ds.find? fun d => d.deploymentId == r.id && d.userId != "" with
    | none =>
        rw [hFind] at hOwner
        exact absurd rfl hOwner
    | some d =>
        have hTest := List.find?_some hFind
        have hMem : d ∈ (ds : Multiset EventDescription) :=
          Multiset.mem_coe.mpr (List.mem_of_find?_eq_some hFind)
        rw [hListed, Multiset.mem_filter] at hMem
        simp only [Bool.and_eq_true, beq_iff_eq] at hTest
        exact ⟨d, hMem.1, hMem.2, hTest.1, rfl⟩
  · rw [if_neg (fun h => hRow (beq_iff_eq.mp h))]
    exact Or.inl rfl

theorem ConditionalHandler.ownerOf_ne_empty
    {t : StoredEvents} {groupId owner : String} {ds : List EventDescription}
    {r : DeploymentIndex}
    (hListed :
      (ds : Multiset EventDescription) =
        t.descriptions.filter fun d => d.deviceGroupId = groupId)
    (hNames : t.Names groupId r owner) :
    ownerOf ds r ≠ "" := by
  intro hOwner
  rw [ownerOf] at hOwner
  rcases hNames with
    ⟨hKnown, hRow | ⟨hRow, d, hMem, hGroup, hDeployment, hUser⟩⟩
  · subst hRow
    rw [if_neg (fun h => hKnown (beq_iff_eq.mp h))] at hOwner
    exact hKnown hOwner
  · rw [if_pos (beq_iff_eq.mpr hRow), describedOwner?] at hOwner
    have hIn : d ∈ (ds : Multiset EventDescription) := by
      rw [hListed]
      exact Multiset.mem_filter.mpr ⟨hMem, hGroup⟩
    have hFound : (ds.find? fun d =>
        d.deploymentId == r.id && d.userId != "").isSome := by
      rw [List.find?_isSome]
      refine ⟨d, Multiset.mem_coe.mp hIn, ?_⟩
      simp [hDeployment, hUser, hKnown]
    rcases Option.isSome_iff_exists.mp hFound with ⟨d', hFind⟩
    have hTest := List.find?_some hFind
    simp only [Bool.and_eq_true, bne_iff_ne] at hTest
    rw [hFind] at hOwner
    exact hTest.2 hOwner

theorem ConditionalHandler.ownerOf_eq
    {t : StoredEvents} {groupId owner : String} {ds : List EventDescription}
    {r : DeploymentIndex}
    (hCoherent : t.Coherent)
    (hListed :
      (ds : Multiset EventDescription) =
        t.descriptions.filter fun d => d.deviceGroupId = groupId)
    (hNames : t.Names groupId r owner) :
    ownerOf ds r = owner :=
  hCoherent.names_unique
    (names_ownerOf hListed (ownerOf_ne_empty hListed hNames)) hNames

end ProcessEvents
