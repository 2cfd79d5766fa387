import ProcessEvents.ConditionalHandler
import ProcessEvents.Proofs.Conditional.Describing
import ProcessEvents.Proofs.EventTable

/-
  This file shows what the handler of conditional events does
  to the stores. After a deployment they hold exactly what
  has been described for it, whatever they have held before,
  and what they hold for other deployments stays the same.

  Key definitions include:
    * `ConditionalHandler.Lawful`
    * `ConditionalHandler.onStores`, `ConditionalHandler.onTables`
    * `ConditionalHandler.deployed`

  Key theorems include:
    * `ConditionalHandler.removeEvents_stored`
    * `ConditionalHandler.storeEvents_stored`
    * `ConditionalHandler.deployEvents_stored`
    * `ConditionalHandler.deploy_stored_of_error`
    * `ConditionalHandler.deploy_stored`
    * `ConditionalHandler.of_deployed`
    * `ConditionalHandler.deploy_replaces_events`
-/

namespace ProcessEvents

variable {σ : Type}

open ProcessEvents.Action (Keeps Raises)
open EventDescription (lastByKey)

namespace ConditionalHandler

/-
  The stores do what they are asked for, and nobody else
  touches what is stored.
-/
structure Lawful
    (h : ConditionalHandler σ)
    (stored : σ → StoredEvents) : Prop where
  events : h.events.Lawful stored
  index : h.index.Lawful stored
  devices : h.describer.devices.All (Keeps stored)
  imports : h.describer.imports.All (Keeps stored)
  userToken : ∀ owner, Keeps stored (h.tokens.userToken owner)
  count : ∀ c n s, stored (h.counters.add c n s) = stored s

/-
  A handler of stores. Whatever it looks up, it finds one
  device, whose id has parameters, and one service of this
  device.
-/
def onStores
    (events : EventStore σ)
    (index : IndexStore σ)
    (token : Except AuthError BearerToken) : ConditionalHandler σ :=
  { events
    index
    describer :=
      { devices :=
          .unchanging
            (.ofDevices [{ id := "device$1", deviceTypeId := "type" }])
            [{ deviceTypeId := "type", services := [{ id := "service" }] }]
        imports := .unchanging }
    tokens := .answering token
    counters := .none }

variable {events : EventStore σ} {index : IndexStore σ}

theorem onStores_asks
    {P : Action.Property σ}
    (hP : Action.Sequential P)
    (token : Except AuthError BearerToken) :
    (onStores events index token).describer.Asks P where
  ofGroup _ := hP.pure (some _)
  ofDevices _ := hP.pure (some _)
  selectables _ := hP.pure (some _)
  service id := hP.pure (some ({ id } : Service))
  importInstance _ id := hP.pure (some ({ id, topic := id } : Import))
  importType _ id := hP.pure (some ({ id } : ImportType))

theorem onStores_lawful
    {stored : σ → StoredEvents}
    (hEvents : events.Lawful stored)
    (hIndex : index.Lawful stored)
    (token : Except AuthError BearerToken) :
    (onStores events index token).Lawful stored where
  events := hEvents
  index := hIndex
  devices := DeviceDirectory.all_unchanging Keeps.closed.toSequential _ _
  imports := ImportDirectory.all_unchanging Keeps.closed.toSequential
  userToken _ := Keeps.closed.ofExcept _
  count _ _ _ := rfl

/- A handler that keeps events in tables. -/
def onTables
    (token : Except AuthError BearerToken) : ConditionalHandler EventTables :=
  onStores EventTables.events EventTables.index token

theorem onTables_asks
    (token : Except AuthError BearerToken)
    {P : Action.Property EventTables}
    (hP : Action.Sequential P) :
    (onTables token).describer.Asks P :=
  onStores_asks hP token

theorem onTables_lawful
    (token : Except AuthError BearerToken) :
    (onTables token).Lawful EventTables.stored :=
  onStores_lawful EventTables.events_lawful EventTables.index_lawful token

variable {h : ConditionalHandler σ} {stored : σ → StoredEvents}

/- Describing events does not touch what is stored. -/
theorem Lawful.describe
    (hLawful : h.Lawful stored)
    (owner : String)
    (deployment : Deployment) :
    Keeps stored (h.describer.describe owner deployment) := by
  have hAsks :=
    Describer.asks_of_all Keeps.closed hLawful.devices hLawful.imports
  exact hAsks.describe Keeps.closed.toSequential owner deployment

/- What is stored for a deployment after it has been described. -/
def deployed
    (owner : String)
    (deployment : Deployment)
    (ds : List EventDescription) : StoredEvents :=
  { descriptions := lastByKey (ds.map (·.withPureIds))
    index := {.ofDeployment owner deployment} }

------------------------------------------------------------
-- Removal
------------------------------------------------------------

theorem removeEvents_stored
    (hLawful : h.Lawful stored)
    {deploymentId : String} {s s' : σ}
    (hRun : h.removeEvents deploymentId s = (.ok (), s')) :
    stored s' = (stored s).without deploymentId := by
  unfold removeEvents at hRun
  rcases Action.bind_eq_ok_iff.mp hRun with ⟨removed, s₁, hList, hRun⟩
  rcases Action.bind_eq_ok_iff.mp hRun with ⟨_, s₂, hDrop, hRun⟩
  rcases Action.bind_eq_ok_iff.mp hRun with ⟨_, s₃, hDropRow, hCount⟩
  rw [Action.mapError_eq_ok_iff] at hList hDrop hDropRow
  rw [(Counters.keeps_count hLawful.count _ _).of_eq hCount,
    hLawful.index.remove_ok hDropRow,
    hLawful.events.removeByDeployment_ok hDrop,
    (hLawful.events.byDeployment deploymentId).of_eq hList]
  rfl

------------------------------------------------------------
-- Storing
------------------------------------------------------------

theorem storeEvent_stored
    (hLawful : h.Lawful stored)
    {d : EventDescription} {s s' : σ}
    (hRun : h.storeEvent d s = (.ok (), s')) :
    stored s' = (stored s).put d.withPureIds := by
  unfold storeEvent at hRun
  rcases Action.bind_eq_ok_iff.mp hRun with ⟨_, s₁, hSet, hCount⟩
  rw [Action.mapError_eq_ok_iff] at hSet
  rw [(Counters.keeps_count hLawful.count _ _).of_eq hCount]
  exact hLawful.events.set_ok hSet

theorem storeEvents_stored
    (hLawful : h.Lawful stored)
    {ds : List EventDescription} {s s' : σ}
    (hRun : Action.forEach h.storeEvent ds s = (.ok (), s')) :
    stored s' = (stored s).putAll (ds.map (·.withPureIds)) := by
  induction ds generalizing s with
  | nil =>
      cases hRun
      rfl
  | cons d ds ih =>
      rcases Action.forEach_cons_eq_ok_iff.mp hRun with ⟨s₁, hHead, hTail⟩
      rw [ih hTail, storeEvent_stored hLawful hHead]
      rfl

/- The owner has a token, and what is described then is put, and a row. -/
theorem deployEvents_stored
    (hLawful : h.Lawful stored)
    {owner : String} {deployment : Deployment} {s s' : σ}
    (hRun : h.deployEvents owner deployment s = (.ok (), s')) :
    ∃ token s₁ ds s₂,
      (h.tokens.userToken owner).mapError DeployError.auth s = (.ok token, s₁) ∧
        h.describer.describe owner deployment s₁ = (.ok ds, s₂) ∧
        stored s' =
          ((stored s).putAll (ds.map (·.withPureIds))).putRow
            (.ofDeployment owner deployment) := by
  unfold deployEvents at hRun
  rcases Action.bind_eq_ok_iff.mp hRun with ⟨token, s₁, hToken, hRun⟩
  rcases Action.bind_eq_ok_iff.mp hRun with ⟨ds, s₂, hDescribe, hRun⟩
  rcases Action.bind_eq_ok_iff.mp hRun with ⟨_, s₃, hStore, hSet⟩
  refine ⟨token, s₁, ds, s₂, hToken, hDescribe, ?_⟩
  rw [Action.mapError_eq_ok_iff] at hToken hSet
  rw [hLawful.index.set_ok hSet, storeEvents_stored hLawful hStore,
    (hLawful.describe owner deployment).of_eq hDescribe,
    (hLawful.userToken owner).of_eq hToken]

theorem deploymentId_of_withPureIds
    {owner deploymentId : String} {ds : List EventDescription}
    (hFor : ∀ d ∈ ds, d.IsFor owner deploymentId) :
    ∀ d ∈ ds.map (·.withPureIds), d.deploymentId = deploymentId := by
  intro d hMem
  rcases List.mem_map.mp hMem with ⟨d', hIn, rfl⟩
  exact (hFor d' hIn).2

------------------------------------------------------------
-- Failures of other collaborators
------------------------------------------------------------

/- The action fails with a store only. -/
def RaisesStore
    {α : Type}
    (a : Action σ DeployError α) : Prop :=
  Raises (fun e => ∃ reason, e = .store reason) a

theorem raisesStore_mapError
    {α : Type}
    (a : Action σ StoreError α) :
    RaisesStore (a.mapError .store) := by
  apply Raises.mapError
  intro reason
  exact ⟨reason, rfl⟩

theorem removeEvents_raisesStore
    (deploymentId : String) :
    RaisesStore (h.removeEvents deploymentId) := by
  unfold removeEvents
  refine Raises.bind (raisesStore_mapError _) fun removed => ?_
  refine Raises.bind (raisesStore_mapError _) fun _ => ?_
  refine Raises.bind (raisesStore_mapError _) fun _ => ?_
  exact (Counters.succeeds_count _ _ _).raises

theorem storeEvents_raisesStore
    (ds : List EventDescription) :
    RaisesStore (Action.forEach h.storeEvent ds) := by
  apply Raises.forEach
  intro d _
  unfold storeEvent
  refine Raises.bind (raisesStore_mapError _) fun _ => ?_
  exact (Counters.succeeds_count _ _ _).raises

/- Before anything is stored, there is a token, and everything is described. -/
theorem deployEvents_stored_of_error
    (hLawful : h.Lawful stored)
    {owner : String} {deployment : Deployment} {s s' : σ} {e : DeployError}
    (hRun : h.deployEvents owner deployment s = (.error e, s'))
    (hOther : ∀ reason, e ≠ .store reason) :
    stored s' = stored s := by
  unfold deployEvents at hRun
  rcases Action.bind_eq_error_iff.mp hRun with
    hToken | ⟨token, s₁, hToken, hRun⟩
  · rcases Action.mapError_eq_error_iff.mp hToken with ⟨_, hFail, -⟩
    exact (hLawful.userToken owner).of_eq hFail
  rw [Action.mapError_eq_ok_iff] at hToken
  rcases Action.bind_eq_error_iff.mp hRun with hDescribe | ⟨ds, s₂, -, hRun⟩
  · rw [(hLawful.describe owner deployment).of_eq hDescribe,
      (hLawful.userToken owner).of_eq hToken]
  exfalso
  rcases Action.bind_eq_error_iff.mp hRun with hStore | ⟨_, s₃, -, hSet⟩
  · rcases storeEvents_raisesStore ds s₂ e s' hStore with ⟨reason, hReason⟩
    exact hOther reason hReason
  · rcases Action.mapError_eq_error_iff.mp hSet with ⟨reason, -, hReason⟩
    exact hOther reason hReason.symm

/-
  A deployment that fails although the stores do not has
  removed and not stored.
-/
theorem deploy_stored_of_error
    (hLawful : h.Lawful stored)
    {owner : String} {deployment : Deployment} {s s' : σ} {e : DeployError}
    (hRun : h.deploy owner deployment s = (.error e, s'))
    (hOther : ∀ reason, e ≠ .store reason) :
    stored s' = (stored s).without deployment.id := by
  unfold deploy at hRun
  rcases Action.bind_eq_error_iff.mp hRun with
    hRemove | ⟨_, s₁, hRemove, hStore⟩
  · rcases removeEvents_raisesStore deployment.id s e s' hRemove with
      ⟨reason, hReason⟩
    exact absurd hReason (hOther reason)
  · rw [deployEvents_stored_of_error hLawful hStore hOther,
      removeEvents_stored hLawful hRemove]

------------------------------------------------------------
-- Deployments
------------------------------------------------------------

/- All that a deployment does to what is stored. -/
theorem deploy_stored
    (hLawful : h.Lawful stored)
    {owner : String} {deployment : Deployment} {s s' : σ}
    (hDeploy : h.deploy owner deployment s = (.ok (), s')) :
    ∃ s₀ token s₁ ds s₂,
      h.removeEvents deployment.id s = (.ok (), s₀) ∧
        (h.tokens.userToken owner).mapError DeployError.auth s₀ =
          (.ok token, s₁) ∧
        h.describer.describe owner deployment s₁ = (.ok ds, s₂) ∧
        stored s' =
          (((stored s).without deployment.id).putAll
            (ds.map (·.withPureIds))).putRow
            (.ofDeployment owner deployment) := by
  unfold deploy at hDeploy
  rcases Action.bind_eq_ok_iff.mp hDeploy with ⟨_, s₀, hRemove, hStore⟩
  rcases deployEvents_stored hLawful hStore with
    ⟨token, s₁, ds, s₂, hToken, hDescribe, hStored⟩
  refine ⟨s₀, token, s₁, ds, s₂, hRemove, hToken, hDescribe, ?_⟩
  rw [hStored, removeEvents_stored hLawful hRemove]

/-
  What is stored for the deployment is replaced as a whole,
  and what is stored for others stays.
-/
theorem of_deployed
    {owner : String} {deployment : Deployment} {ds : List EventDescription}
    (hFor : ∀ d ∈ ds, d.IsFor owner deployment.id)
    (t : StoredEvents)
    (other : String) :
    (((t.without deployment.id).putAll (ds.map (·.withPureIds))).putRow
        (.ofDeployment owner deployment)).of other =
      if other = deployment.id then deployed owner deployment ds
      else t.of other := by
  have hNone :
      ((t.without deployment.id).of deployment.id).descriptions = 0 := by
    rw [StoredEvents.of_without, if_pos rfl]
    rfl
  rw [StoredEvents.of_putRow,
    StoredEvents.of_putAll _ (deploymentId_of_withPureIds hFor) hNone,
    StoredEvents.of_without]
  by_cases hOther : other = deployment.id
  · subst hOther
    have hRow : (DeploymentIndex.ofDeployment owner deployment).id =
        deployment.id := rfl
    simp only [hRow, if_true, deployed]
  · have hRow :
        other ≠ (DeploymentIndex.ofDeployment owner deployment).id := hOther
    simp only [hOther, hRow, if_false]

/-
  After a deployment, what is stored for it is what has been
  described for it, with pure ids and the last description
  of each key, and one index row. Nothing that was stored for
  it before is left, and other deployments are not concerned.
-/
theorem deploy_replaces_events
    (hLawful : h.Lawful stored)
    {owner : String} {deployment : Deployment} {s s' : σ}
    (hDeploy : h.deploy owner deployment s = (.ok (), s')) :
    ∃ s₀ token s₁ ds s₂,
      h.removeEvents deployment.id s = (.ok (), s₀) ∧
        h.tokens.userToken owner s₀ = (.ok token, s₁) ∧
        h.describer.describe owner deployment s₁ = (.ok ds, s₂) ∧
        (stored s').of deployment.id =
          { descriptions := lastByKey (ds.map (·.withPureIds))
            index := {.ofDeployment owner deployment} } ∧
        ∀ other, other ≠ deployment.id →
          (stored s').of other = (stored s).of other := by
  rcases deploy_stored hLawful hDeploy with
    ⟨s₀, token, s₁, ds, s₂, hRemove, hToken, hDescribe, hStored⟩
  have hOf :=
    of_deployed (h.describer.describe_isFor owner deployment s₁ ds s₂ hDescribe)
  rw [Action.mapError_eq_ok_iff] at hToken
  refine ⟨s₀, token, s₁, ds, s₂, hRemove, hToken, hDescribe, ?_, ?_⟩
  · rw [hStored, hOf, if_pos rfl]
    rfl
  · intro other hOther
    rw [hStored, hOf, if_neg hOther]

/- An event on a group. -/
def groupEvent
    (groupId script : String) : Element :=
  { conditionalEvent := some
      { script
        eventId := "e1"
        selection :=
          { filterCriteria := { characteristicId := some "c1" }
            deviceGroupId := some groupId } } }

/- Two scripts for one event on one group. -/
def groupDeployment : Deployment :=
  { id := "d1"
    elements := [groupEvent "g1" "first", groupEvent "g1" "second"] }

/-
  Another user's row and description for the deployment, and
  for another one.
-/
def staleTables : EventTables :=
  .ofLists
    [{ userId := "u2", deploymentId := "d1", eventId := "e0" },
     { userId := "u2", deploymentId := "d2", eventId := "e1" }]
    [.ofDeployment "u2" { id := "d1" }, .ofDeployment "u2" { id := "d2" }]

theorem deploy_replaces_events_stale :
    ∃ s',
      (onTables (.ok ⟨"Bearer"⟩)).deploy "u1" groupDeployment staleTables =
        (.ok (), s') ∧
        (s'.stored.of "d1").descriptions.map (fun d => (d.deviceId, d.script)) =
          {("device", "second")} ∧
        (s'.stored.of "d1").index = {.ofDeployment "u1" groupDeployment} ∧
        s'.stored.of "d2" = staleTables.stored.of "d2" := by
  have hOk :
      ((onTables (.ok ⟨"Bearer"⟩)).deploy "u1"
        groupDeployment staleTables).1.isOk = true := by
    decide +kernel
  have hRun := Action.eq_ok_of_isOk hOk
  generalize
    ((onTables (.ok ⟨"Bearer"⟩)).deploy "u1" groupDeployment staleTables).2 =
      s' at hRun
  rcases deploy_replaces_events (onTables_lawful _) hRun with
    ⟨s₀, token, s₁, ds, s₂, -, -, hDescribe, hHere, hOthers⟩
  have hP : Action.Closed (Action.AnswersFrom fun _ : EventTables => ()) :=
    Action.AnswersFrom.closed
  have hAnswers :=
    (onTables_asks (.ok ⟨"Bearer"⟩) hP.toSequential).describe
      hP.toSequential "u1" groupDeployment
  rcases hAnswers.of_eq (t := staleTables) hDescribe rfl with ⟨t, hAgain, -⟩
  -- of the two descriptions, which share a key, the last one stays
  have hKept :
      (((onTables (.ok ⟨"Bearer"⟩)).describer.describe "u1" groupDeployment
            staleTables).1.toOption.map
          fun ds => (lastByKey (ds.map (·.withPureIds))).map fun d =>
            (d.deviceId, d.script)) =
        some [("device", "second")] := by
    decide +kernel
  rw [hAgain] at hKept
  have hHere : s'.stored.of "d1" = _ := hHere
  refine ⟨s', hRun, ?_, ?_, hOthers "d2" (by decide)⟩
  · rw [hHere, Multiset.map_coe]
    exact congrArg _ (Option.some.inj hKept)
  · rw [hHere]

end ConditionalHandler

end ProcessEvents
