import ProcessEvents.Proofs.Conditional.Acknowledgement
import ProcessEvents.Proofs.Device

/-
  Descriptions and rows are kept in two stores, and every
  call of the handler takes them apart before it puts them
  together again. This file shows that they are in step after
  every call that is not ended by a store, whatever else has
  ended it.

  Key definitions include:
    * `StoredEvents.InStep`
    * `ConditionalHandler.Call`
    * `ConditionalHandler.IsReached`

  Key theorems include:
    * `StoredEvents.inStep_iff_of`
    * `ConditionalHandler.deploy_inStep`
    * `ConditionalHandler.updateGroup_inStep`
    * `ConditionalHandler.IsReached.stores`
-/

namespace ProcessEvents

variable {σ : Type}

open EventDescription (lastByKey)

------------------------------------------------------------
-- Groups of rows
------------------------------------------------------------

/- A row lists the groups that its deployment has conditional events on. -/
theorem DeploymentIndex.mem_deviceGroups_iff
    {owner groupId : String} {deployment : Deployment} :
    groupId ∈ (ofDeployment owner deployment).deviceGroups ↔
      ∃ e ∈ deployment.conditionalEvents,
        e.selection.kind = some (.deviceGroup groupId) := by
  unfold ofDeployment
  simp only [mem_firstSeen, List.mem_filterMap,
    Selection.kind_eq_deviceGroup_iff]

------------------------------------------------------------
-- Stores in step
------------------------------------------------------------

namespace StoredEvents

/-
  Each description has a row, which names its owner and lists
  its group. Descriptions have keys of their own, and ids
  without modifier parameters.
-/
structure InStep
    (t : StoredEvents) : Prop extends Coherent t where
  indexed :
    ∀ d ∈ t.descriptions,
      ∃ r ∈ t.index,
        r.id = d.deploymentId ∧
          r.userId = d.userId ∧
          (d.deviceGroupId = "" ∨ d.deviceGroupId ∈ r.deviceGroups)
  distinct : (t.descriptions.map (·.key)).Nodup
  pureIds :
    ∀ d ∈ t.descriptions,
      Ident.parameterSeparator ∉ d.deviceId.toList ∧
        Ident.parameterSeparator ∉ d.serviceId.toList

variable {t : StoredEvents}

theorem inStep_empty :
    InStep empty where
  toCoherent := coherent_empty
  indexed d hMem := absurd hMem (Multiset.notMem_zero d)
  distinct := Multiset.nodup_zero
  pureIds d hMem := absurd hMem (Multiset.notMem_zero d)

/- A key names its deployment, and so no two deployments share one. -/
theorem nodup_keys_iff_of :
    (t.descriptions.map (·.key)).Nodup ↔
      ∀ deploymentId, ((t.of deploymentId).descriptions.map (·.key)).Nodup := by
  constructor
  · intro hDistinct deploymentId
    exact Multiset.nodup_of_le
      (Multiset.map_le_map (Multiset.filter_le _ _)) hDistinct
  · intro hEach
    rw [Multiset.nodup_iff_count_le_one]
    intro k
    have hOne := Multiset.nodup_iff_count_le_one.mp (hEach k.deploymentId) k
    rw [Multiset.count_map] at hOne ⊢
    have hSame :
        (t.of k.deploymentId).descriptions.filter (fun d => k = d.key) =
          t.descriptions.filter (fun d => k = d.key) := by
      rw [of, Multiset.filter_filter]
      apply Multiset.filter_congr
      intro d _
      constructor
      · exact And.left
      · intro hKey
        exact ⟨hKey, (congrArg EventDescription.Key.deploymentId hKey).symm⟩
    rw [hSame] at hOne
    exact hOne

theorem inStep_iff_of :
    t.InStep ↔ ∀ deploymentId, (t.of deploymentId).InStep := by
  constructor
  · intro hStep deploymentId
    refine ⟨coherent_iff_of.mp hStep.toCoherent deploymentId, fun d hMem => ?_,
      nodup_keys_iff_of.mp hStep.distinct deploymentId, fun d hMem => ?_⟩
    · rcases mem_of_descriptions.mp hMem with ⟨hIn, hHere⟩
      rcases hStep.indexed d hIn with ⟨r, hRow, hId, hNames⟩
      exact ⟨r, mem_of_index.mpr ⟨hRow, hId.trans hHere⟩, hId, hNames⟩
    · exact hStep.pureIds d (mem_of_descriptions.mp hMem).1
  · intro hEach
    refine ⟨coherent_iff_of.mpr fun deploymentId =>
      (hEach deploymentId).toCoherent,
      fun d hMem => ?_,
      nodup_keys_iff_of.mpr fun deploymentId => (hEach deploymentId).distinct,
      fun d hMem => ?_⟩
    · rcases (hEach d.deploymentId).indexed d
        (mem_of_descriptions.mpr ⟨hMem, rfl⟩) with
        ⟨r, hRow, hNames⟩
      exact ⟨r, (mem_of_index.mp hRow).1, hNames⟩
    · exact (hEach d.deploymentId).pureIds d
        (mem_of_descriptions.mpr ⟨hMem, rfl⟩)

end StoredEvents

open StoredEvents (InStep)

------------------------------------------------------------
-- Calls
------------------------------------------------------------

namespace ConditionalHandler

variable {h : ConditionalHandler σ} {stored : σ → StoredEvents}

/- What is stored for a deployment is in step with its row. -/
theorem inStep_deployed
    {owner : String} {deployment : Deployment} {ds : List EventDescription}
    (hFor : ∀ d ∈ ds, d.IsFor owner deployment.id)
    (hGroups : ∀ d ∈ ds, ∃ e ∈ deployment.conditionalEvents, d.IsOnGroupOf e) :
    (deployed owner deployment ds).InStep := by
  have hPure :
      ∀ d ∈ (deployed owner deployment ds).descriptions,
        ∃ d' ∈ ds, d'.withPureIds = d := by
    intro d hMem
    exact List.mem_map.mp
      (EventDescription.mem_of_mem_lastByKey (Multiset.mem_coe.mp hMem))
  refine ⟨coherent_of_isFor hFor le_rfl, fun d hMem => ?_, ?_, fun d hMem => ?_⟩
  · rcases hPure d hMem with ⟨d', hIn, rfl⟩
    rcases hFor d' hIn with ⟨hUser, hDeployment⟩
    refine
      ⟨.ofDeployment owner deployment, Multiset.mem_singleton_self _,
        hDeployment.symm,
        hUser.symm, ?_⟩
    rcases hGroups d' hIn with ⟨e, hEvent, hNone | hKind⟩
    · exact Or.inl hNone
    · exact Or.inr (DeploymentIndex.mem_deviceGroups_iff.mpr ⟨e, hEvent, hKind⟩)
  · exact Multiset.coe_nodup.mpr (EventDescription.nodup_lastByKey _)
  · rcases hPure d hMem with ⟨d', -, rfl⟩
    exact ⟨Ident.separator_notMem_pure _, Ident.separator_notMem_pure _⟩

/- Unless a store fails, nothing is left of what has been removed. -/
theorem removeEvents_inStep
    (hLawful : h.Lawful stored)
    {deploymentId : String} {s s' : σ} {result : Except DeployError Unit}
    (hRun : h.removeEvents deploymentId s = (result, s'))
    (hStores : ∀ reason, result ≠ .error (.store reason)) :
    Confined deploymentId (fun _ after => after.InStep)
      (stored s) (stored s') := by
  cases result with
  | error e =>
      rcases removeEvents_raisesStore deploymentId s e s' hRun with
        ⟨reason, rfl⟩
      exact absurd rfl (hStores reason)
  | ok _ =>
      rw [removeEvents_stored hLawful hRun]
      constructor
      · intro other hOther
        rw [StoredEvents.of_without, if_neg hOther]
      · rw [StoredEvents.of_without, if_pos rfl]
        exact StoredEvents.inStep_empty

/-
  Unless a store fails, the deployment has been stored as a
  whole, or nothing is left of it.
-/
theorem deploy_inStep
    (hLawful : h.Lawful stored)
    {owner : String} {deployment : Deployment} {s s' : σ}
    {result : Except DeployError Unit}
    (hRun : h.deploy owner deployment s = (result, s'))
    (hStores : ∀ reason, result ≠ .error (.store reason)) :
    Confined deployment.id (fun _ after => after.InStep)
      (stored s) (stored s') := by
  cases result with
  | error e =>
      have hOther : ∀ reason, e ≠ .store reason :=
        fun reason hReason => hStores reason (congrArg Except.error hReason)
      rw [deploy_stored_of_error hLawful hRun hOther]
      constructor
      · intro other hOther
        rw [StoredEvents.of_without, if_neg hOther]
      · rw [StoredEvents.of_without, if_pos rfl]
        exact StoredEvents.inStep_empty
  | ok _ =>
      rcases deploy_stored hLawful hRun with
        ⟨s₀, token, s₁, ds, s₂, -, -, hDescribe, hStored⟩
      have hFor :=
        h.describer.describe_isFor owner deployment s₁ ds s₂ hDescribe
      have hGroups :=
        h.describer.describe_isOnGroup owner deployment s₁ ds s₂ hDescribe
      rw [hStored]
      constructor
      · intro other hOther
        rw [of_deployed hFor, if_neg hOther]
      · rw [of_deployed hFor, if_pos rfl]
        exact inStep_deployed hFor hGroups

theorem redeploy_inStep
    (hLawful : h.Lawful stored)
    {ds : List EventDescription} {r : DeploymentIndex}
    (hRow : r.deployment.id = r.id)
    {s s' : σ} {result : Except DeployError Unit}
    (hRun : h.redeploy ds r s = (result, s'))
    (hStores : ∀ reason, result ≠ .error (.store reason)) :
    Confined r.id (fun _ after => after.InStep) (stored s) (stored s') := by
  rw [redeploy_eq h hRow] at hRun
  by_cases hOwner : ownerOf ds r = ""
  · rw [if_pos hOwner] at hRun
    exact removeEvents_inStep hLawful hRun hStores
  · rw [if_neg hOwner] at hRun
    rw [← hRow]
    exact deploy_inStep hLawful hRun hStores

/-
  An update that ends within the rows of a group leaves those
  behind as they have been, which is in step, too.
-/
theorem updateGroup_inStep
    (hLawful : h.Lawful stored)
    {group : DeviceGroup} {s s' : σ} {result : Except DeployError Unit}
    (hStep : (stored s).InStep)
    (hRun : h.updateGroup group s = (result, s'))
    (hStores : ∀ reason, result ≠ .error (.store reason)) :
    (stored s').InStep := by
  rcases updateGroup_cases hLawful hRun with
    ⟨-, hSame⟩ | ⟨rows, ds, s₁, hRows, -, hSame, hEach⟩
  · rw [hSame]
    exact hStep
  have hListed : ∀ r ∈ rows, r.deployment.id = r.id := by
    intro r hMem
    have hIn := Multiset.mem_coe.mpr hMem
    rw [hRows] at hIn
    exact hStep.row_id (Multiset.mem_filter.mp hIn).1
  have hIds : (rows.map (·.id)).Nodup :=
    hStep.toCoherent.indexed.nodup_ids (hRows ▸ Multiset.filter_le _ _)
  have hRedeploy :
      ∀ r ∈ rows, ∀ {s s' : σ} {result : Except DeployError Unit},
        h.redeploy ds r s = (result, s') →
          (∀ reason, result ≠ .error (.store reason)) →
            Confined r.id (fun before after => before.InStep → after.InStep)
              (stored s) (stored s') := by
    intro r hMem s s' result hRun hStores
    rcases redeploy_inStep hLawful (hListed r hMem) hRun hStores with
      ⟨hOthers, hHere⟩
    exact ⟨hOthers, fun _ => hHere⟩
  rcases forEach_confined hIds nofun
    (fun _ _ _ _ hBefore => hBefore) hRedeploy hEach hStores with
    ⟨hOthers, hEach⟩
  rw [hSame] at hOthers hEach
  rw [StoredEvents.inStep_iff_of] at hStep ⊢
  intro deploymentId
  by_cases hMem : deploymentId ∈ rows.map (·.id)
  · rcases List.mem_map.mp hMem with ⟨r, hRow, rfl⟩
    exact hEach r hRow (hStep r.id)
  · rw [hOthers deploymentId hMem]
    exact hStep deploymentId

------------------------------------------------------------
-- Runs
------------------------------------------------------------

/- What the handler may be called for. -/
inductive Call where
  | deploy (owner : String) (deployment : Deployment)
  | remove (owner deploymentId : String)
  | updateGroup (owner : String) (group : DeviceGroup)

def perform
    (h : ConditionalHandler σ) : Call → Action σ DeployError Unit
  | .deploy owner deployment => h.handler.deploy owner deployment
  | .remove owner deploymentId => h.handler.remove owner deploymentId
  | .updateGroup owner group => h.handler.updateGroup owner group

/-
  The states that are reached from empty stores by calls none
  of which ends with a failure of a store. Any other failure
  may end them. In between, whatever is not stored may change.
-/
inductive IsReached
    (h : ConditionalHandler σ)
    (stored : σ → StoredEvents) : σ → Prop where
  | start {s : σ}
      (hEmpty : stored s = .empty) :
      IsReached h stored s
  | meanwhile {s s' : σ}
      (hReached : IsReached h stored s)
      (hSame : stored s' = stored s) :
      IsReached h stored s'
  | call {s s' : σ} {result : Except DeployError Unit} (call : Call)
      (hReached : IsReached h stored s)
      (hRun : h.perform call s = (result, s'))
      (hStores : ∀ reason, result ≠ .error (.store reason)) :
      IsReached h stored s'

/- One call keeps the stores in step, whatever it is for. -/
theorem perform_inStep
    (hLawful : h.Lawful stored)
    {call : Call} {s s' : σ} {result : Except DeployError Unit}
    (hStep : (stored s).InStep)
    (hRun : h.perform call s = (result, s'))
    (hStores : ∀ reason, result ≠ .error (.store reason)) :
    (stored s').InStep := by
  have hLocal : ∀ t : StoredEvents, t.InStep ↔
      ∀ deploymentId, (t.of deploymentId).InStep :=
    fun _ => StoredEvents.inStep_iff_of
  cases call with
  | deploy owner deployment =>
      have hConfined := deploy_inStep hLawful hRun hStores
      exact hConfined.of_local hLocal (fun _ hAfter => hAfter) hStep
  | remove owner deploymentId =>
      have hConfined := removeEvents_inStep hLawful hRun hStores
      exact hConfined.of_local hLocal (fun _ hAfter => hAfter) hStep
  | updateGroup owner group =>
      exact updateGroup_inStep hLawful hStep hRun hStores

theorem IsReached.inStep
    (hLawful : h.Lawful stored)
    {s : σ}
    (hReached : h.IsReached stored s) :
    (stored s).InStep := by
  induction hReached with
  | start hEmpty =>
      rw [hEmpty]
      exact StoredEvents.inStep_empty
  | meanwhile _ hSame ih =>
      rw [hSame]
      exact ih
  | call _ _ hRun hStores ih => exact perform_inStep hLawful ih hRun hStores

/-
  After any run, each description has exactly one row. The
  row names its owner, and lists its group if it has one. No
  two descriptions share a key, no stored id has parameters,
  and a row lists each group of its deployment once.
-/
theorem IsReached.stores
    (hLawful : h.Lawful stored)
    {s : σ}
    (hReached : h.IsReached stored s) :
    (∀ d ∈ (stored s).descriptions,
        ∃ r,
          ((stored s).of d.deploymentId).index = {r} ∧
            r.userId = d.userId ∧
            (d.deviceGroupId = "" ∨ d.deviceGroupId ∈ r.deviceGroups)) ∧
      ((stored s).descriptions.map (·.key)).Nodup ∧
      (∀ d ∈ (stored s).descriptions,
        '$' ∉ d.deviceId.toList ∧ '$' ∉ d.serviceId.toList) ∧
      ∀ r ∈ (stored s).index,
        r.deployment.id = r.id ∧
          r.deviceGroups.Nodup ∧
          ∀ groupId,
            groupId ∈ r.deviceGroups ↔
              ∃ e ∈ r.deployment.conditionalEvents,
                e.selection.kind = some (.deviceGroup groupId) := by
  have hStep := hReached.inStep hLawful
  refine
    ⟨fun d hMem => ?_, hStep.distinct, hStep.pureIds,
      fun r hMem => ⟨hStep.row_id hMem, ?_⟩⟩
  · rcases hStep.indexed d hMem with ⟨r, hRow, hId, hUser, hGroup⟩
    exact ⟨r, hId ▸ hStep.of_index hRow, hUser, hGroup⟩
  · rw [hStep.row r hMem]
    exact ⟨nodup_firstSeen _, fun _ => DeploymentIndex.mem_deviceGroups_iff⟩

/- Tables in which nothing is stored. -/
def noEvents : EventTables :=
  .ofLists [] []

/-
  What is stored after calls for the user, for a group, and
  for somebody else.
-/
def afterCalls : EventTables :=
  let deployed := (withUser.perform (.deploy "u1" groupDeployment) noEvents).2
  let updated :=
    (withUser.perform (.updateGroup "u1" { id := "g1" }) deployed).2
  (withUser.perform (.deploy "u2" { groupDeployment with id := "d2" })
    updated).2

theorem isReached_afterCalls :
    withUser.IsReached EventTables.stored afterCalls := by
  have hDeploy :
      (withUser.perform (.deploy "u1" groupDeployment) noEvents).1.isOk =
        true := by
    decide +kernel
  have hUpdate :
      (withUser.perform (.updateGroup "u1" { id := "g1" })
        (withUser.perform (.deploy "u1" groupDeployment) noEvents).2).1.isOk =
          true := by
    decide +kernel
  have hMissing :
      withUser.perform (.deploy "u2" { groupDeployment with id := "d2" })
          (withUser.perform (.updateGroup "u1" { id := "g1" })
            (withUser.perform (.deploy "u1" groupDeployment) noEvents).2).2 =
        (.error (.auth .userDoesNotExist), afterCalls) :=
    rfl
  have hStart : withUser.IsReached EventTables.stored noEvents := .start rfl
  have hDeployed := hStart.call _ (Action.eq_ok_of_isOk hDeploy) nofun
  have hUpdated := hDeployed.call _ (Action.eq_ok_of_isOk hUpdate) nofun
  exact hUpdated.call _ hMissing nofun

theorem stores_afterCalls :
    ∃ d ∈ afterCalls.stored.descriptions,
      ∃ r,
        (afterCalls.stored.of d.deploymentId).index = {r} ∧
          r.userId = d.userId ∧
          (d.deviceGroupId = "" ∨ d.deviceGroupId ∈ r.deviceGroups) := by
  have hSome : afterCalls.descriptions.rows.length = 1 := by
    decide +kernel
  rcases IsReached.stores withUser_lawful isReached_afterCalls with ⟨hRows, -⟩
  rcases List.length_eq_one_iff.mp hSome with ⟨d, hList⟩
  have hMem : d ∈ afterCalls.stored.descriptions := by
    change d ∈ (afterCalls.descriptions.rows : Multiset EventDescription)
    rw [hList]
    exact Multiset.mem_singleton_self d
  exact ⟨d, hMem, hRows d hMem⟩

end ConditionalHandler

end ProcessEvents
