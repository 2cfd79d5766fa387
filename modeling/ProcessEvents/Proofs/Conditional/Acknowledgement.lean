import ProcessEvents.Proofs.Conditional.Retry
import ProcessEvents.Proofs.Dispatcher

/-
  A message about a device group is acknowledged when every
  handler has succeeded, but also when an owner does not
  exist. This file tells what an acknowledged message has
  done: a deployment of the group is as if it had just been
  deployed, unless it has been skipped. For the handler stops
  at the first deployment whose owner is missing, so that the
  ones behind it keep what was stored for them before.

  Key definitions include:
    * `ConditionalHandler.Serves`
    * `ConditionalHandler.IsServed`
    * `ConditionalHandler.IsFresh`
    * `ConditionalHandler.IsSkipped`

  Key theorems include:
    * `ConditionalHandler.redeployAll_served`
    * `ConditionalHandler.redeployAll_behind`
    * `ConditionalHandler.exists_listing`
    * `ConditionalHandler.IsSkipped.of_eq`
    * `ConditionalHandler.handleGroupCommand_fresh_iff`
-/

namespace ProcessEvents

variable {σ : Type}

open ProcessEvents.Action (Fixed Keeps Succeeds)

namespace ConditionalHandler

variable {h : ConditionalHandler σ} {stored : σ → StoredEvents}
  {isUser : String → Prop}

------------------------------------------------------------
-- Users
------------------------------------------------------------

/- Nothing fails, but there are no tokens for those who are no users. -/
structure Serves
    (h : ConditionalHandler σ)
    (isUser : String → Prop) : Prop where
  available : h.Available
  token : ∀ owner, isUser owner → Succeeds (h.tokens.userToken owner)
  noToken :
    ∀ owner, ¬ isUser owner →
      ∀ s, ∃ s', h.tokens.userToken owner s = (.error .userDoesNotExist, s')

/- The owner that is found for a row, if any, is a user. -/
def IsServed
    (isUser : String → Prop)
    (ds : List EventDescription)
    (r : DeploymentIndex) : Prop :=
  ownerOf ds r = "" ∨ isUser (ownerOf ds r)

theorem ownerOf_of_ne_empty
    {r : DeploymentIndex}
    (hOwner : r.userId ≠ "")
    (ds : List EventDescription) :
    ownerOf ds r = r.userId := by
  rw [ownerOf, if_neg (fun hEmpty => hOwner (beq_iff_eq.mp hEmpty))]

theorem Serves.redeploy
    (hServes : h.Serves isUser)
    {ds : List EventDescription} {r : DeploymentIndex}
    (hServed : IsServed isUser ds r) :
    Succeeds (h.redeploy ds r) := by
  apply hServes.available.redeploy
  rcases hServed with hNone | hUser
  · exact Or.inl hNone
  · exact Or.inr (hServes.token _ hUser)

/- What is stored for the row has been removed by then. -/
theorem Serves.redeploy_fails
    (hServes : h.Serves isUser)
    {ds : List EventDescription} {r : DeploymentIndex}
    (hMissing : ¬ IsServed isUser ds r)
    (s : σ) :
    ∃ e s', h.redeploy ds r s = (.error e, s') := by
  rcases not_or.mp hMissing with ⟨hOwner, hNoUser⟩
  rcases hServes.available.removeEvents r.id s with ⟨_, s₁, hRemove⟩
  rcases hServes.noToken _ hNoUser s₁ with ⟨s', hToken⟩
  refine ⟨.auth .userDoesNotExist, s', ?_⟩
  rw [ConditionalHandler.redeploy, Action.bind_of_ok hRemove,
    if_neg (fun hEmpty => hOwner (beq_iff_eq.mp hEmpty)), deployEvents]
  exact Action.bind_of_error (Action.mapError_eq_error_iff.mpr ⟨_, hToken, rfl⟩)

------------------------------------------------------------
-- Rows one after the other
------------------------------------------------------------

/- A row is deployed once all those before it have been. -/
theorem redeployAll_served
    (hLawful : h.Lawful stored)
    (hServes : h.Serves isUser)
    {answers : String → Deployment → List EventDescription}
    (hAnswers :
      ∀ owner deployment s,
        ∃ s', h.describer.describe owner deployment s =
          (.ok (answers owner deployment), s'))
    {ds : List EventDescription} {before after : List DeploymentIndex}
    {r : DeploymentIndex}
    (hRows : ∀ r' ∈ r :: after, r'.deployment.id = r'.id)
    (hIds : ((before ++ r :: after).map (·.id)).Nodup)
    (hBefore : ∀ r' ∈ before, IsServed isUser ds r')
    (hServed : IsServed isUser ds r)
    (s : σ) :
    (stored
      (Action.forEach (h.redeploy ds) (before ++ r :: after) s).2).of r.id =
      redeployed answers (ownerOf ds r) r.deployment := by
  rw [List.map_append, List.map_cons, List.nodup_append,
    List.nodup_cons] at hIds
  rcases List.forall_mem_cons.mp hRows with ⟨hRow, hRest⟩
  have hAll : Succeeds (Action.forEach (h.redeploy ds) before) :=
    Succeeds.sequential.forEach before fun r' hMem =>
      hServes.redeploy (hBefore r' hMem)
  rcases hAll s with ⟨_, s₁, hRunBefore⟩
  rcases hServes.redeploy hServed s₁ with ⟨_, s₂, hRun⟩
  have hEnd :
      Action.forEach (h.redeploy ds) (before ++ r :: after) s =
        Action.forEach (h.redeploy ds) after s₂ := by
    rw [Action.forEach_append, Action.bind_of_ok hRunBefore]
    exact Action.bind_of_ok hRun
  rcases hAfter : Action.forEach (h.redeploy ds) after s₂ with ⟨result, s'⟩
  have hLater :=
    (redeployAll_confined hLawful hServes.available.atomic
      hRest hIds.2.1.2 hAfter).1
  rw [hEnd, hAfter, hLater r.id hIds.2.1.1]
  exact (redeploy_answers hLawful hAnswers ds hRow hRun).2

/- A row is not reached if one before it belongs to nobody who exists. -/
theorem redeployAll_behind
    (hLawful : h.Lawful stored)
    (hServes : h.Serves isUser)
    {ds : List EventDescription} {before after : List DeploymentIndex}
    {r r' : DeploymentIndex}
    (hRows : ∀ r' ∈ before, r'.deployment.id = r'.id)
    (hIds : ((before ++ r :: after).map (·.id)).Nodup)
    (hMem : r' ∈ before)
    (hMissing : ¬ IsServed isUser ds r')
    (s : σ) :
    (stored
      (Action.forEach (h.redeploy ds) (before ++ r :: after) s).2).of r.id =
      (stored s).of r.id := by
  rw [List.map_append, List.map_cons, List.nodup_append,
    List.nodup_cons] at hIds
  rcases Action.forEach_error_of_mem hMem
    (hServes.redeploy_fails hMissing) s with
    ⟨e, s₁, hRun⟩
  have hNotBefore : r.id ∉ before.map (·.id) :=
    fun hIn => hIds.2.2 r.id hIn r.id List.mem_cons_self rfl
  rw [Action.forEach_append, Action.bind_of_error hRun]
  exact
    (redeployAll_confined hLawful hServes.available.atomic hRows hIds.1 hRun).1
      r.id hNotBefore

------------------------------------------------------------
-- Updates
------------------------------------------------------------

/- The rows that are listed first are deployed with what is listed then. -/
theorem updateGroup_of_listed
    {group : DeviceGroup}
    (hGroup : group.id ≠ "")
    {rows : List DeploymentIndex} {ds : List EventDescription} {s s₁ s₂ : σ}
    (hRows : h.index.byDeviceGroup group.id s = (.ok rows, s₁))
    (hNotNil : rows ≠ [])
    (hDs : h.events.byDeviceGroup group.id s₁ = (.ok ds, s₂)) :
    h.updateGroup group s = Action.forEach (h.redeploy ds) rows s₂ := by
  cases rows with
  | nil => exact absurd rfl hNotNil
  | cons r rows =>
      rw [ConditionalHandler.updateGroup,
        if_neg (fun hEmpty => hGroup (beq_iff_eq.mp hEmpty)),
        Action.bind_of_ok (Action.mapError_eq_ok_iff.mpr hRows)]
      exact Action.bind_of_ok (Action.mapError_eq_ok_iff.mpr hDs)

/-
  A row on a group is among those that are listed for it,
  and stands there once.
-/
theorem exists_listing
    (hLawful : h.Lawful stored)
    (hAvailable : h.Available)
    {groupId : String} {r : DeploymentIndex} {s : σ}
    (hIndexed : (stored s).Indexed)
    (hConcerns : (stored s).Concerns groupId r) :
    ∃ before after ds s₁ s₂,
      h.index.byDeviceGroup groupId s = (.ok (before ++ r :: after), s₁) ∧
        h.events.byDeviceGroup groupId s₁ = (.ok ds, s₂) ∧
        (ds : Multiset EventDescription) =
          (stored s).descriptions.filter (fun d => d.deviceGroupId = groupId) ∧
        stored s₂ = stored s ∧
        (∀ r' ∈ before ++ r :: after, r'.deployment.id = r'.id) ∧
        ((before ++ r :: after).map (·.id)).Nodup := by
  rcases hAvailable.rowsByDeviceGroup groupId s with ⟨rows, s₁, hRows⟩
  rcases hAvailable.byDeviceGroup groupId s₁ with ⟨ds, s₂, hDs⟩
  have hListed := hLawful.index.byDeviceGroup_ok hRows
  have hSame : stored s₁ = stored s :=
    (hLawful.index.byDeviceGroup _).of_eq hRows
  have hMem : r ∈ rows := by
    rw [← Multiset.mem_coe, hListed, Multiset.mem_filter]
    exact hConcerns
  have hLess : (rows : Multiset DeploymentIndex) ≤ (stored s).index :=
    hListed ▸ Multiset.filter_le _ _
  rcases List.append_of_mem hMem with ⟨before, after, rfl⟩
  refine ⟨before, after, ds, s₁, s₂, hRows, hDs,
    ?_, ?_, ?_, hIndexed.nodup_ids hLess⟩
  · rw [hLawful.events.byDeviceGroup_ok hDs, hSame]
  · rw [(hLawful.events.byDeviceGroup _).of_eq hDs, hSame]
  · exact fun r' hIn =>
      hIndexed.row_id r' (Multiset.mem_of_le hLess (Multiset.mem_coe.mpr hIn))

/-
  What is stored for a row is what deploying it for its
  owner leaves, wherever that is done.
-/
def IsFresh
    (h : ConditionalHandler σ)
    (stored : σ → StoredEvents)
    (r : DeploymentIndex)
    (t : StoredEvents) : Prop :=
  ∀ s, ∃ s',
    h.deploy r.userId r.deployment s = (.ok (), s') ∧
      t.of r.id = (stored s').of r.id

/-
  A message does not get to a row: its group has no id, or a
  handler in front has failed, or the owner of a row that is
  listed before it does not exist.
-/
inductive IsSkipped
    (h : ConditionalHandler σ)
    (isUser : String → Prop)
    (front : List (EventHandler σ))
    (c : DeviceGroupCommand)
    (s : σ)
    (r : DeploymentIndex) : Prop where
  | unnamed : c.deviceGroup.id = "" → IsSkipped h isUser front c s r
  | unreached (e : DeployError) (s₁ : σ) :
      Action.forEach (fun k => k.updateGroup c.owner c.deviceGroup) front s =
        (.error e, s₁) →
        IsSkipped h isUser front c s r
  | behind (s₁ s₂ s₃ : σ) (before after : List DeploymentIndex)
      (ds : List EventDescription) (r' : DeploymentIndex) :
      Action.forEach (fun k => k.updateGroup c.owner c.deviceGroup) front s =
        (.ok (), s₁) →
        h.index.byDeviceGroup c.deviceGroup.id s₁ =
          (.ok (before ++ r :: after), s₂) →
          h.events.byDeviceGroup c.deviceGroup.id s₂ = (.ok ds, s₃) →
            r' ∈ before →
              ¬ IsServed isUser ds r' →
                IsSkipped h isUser front c s r

/- Wherever a row of a user is deployed from the answers, it is fresh. -/
theorem isFresh_of_answers
    (hLawful : h.Lawful stored)
    (hServes : h.Serves isUser)
    {answers : String → Deployment → List EventDescription}
    (hAnswers :
      ∀ owner deployment s,
        ∃ s', h.describer.describe owner deployment s =
          (.ok (answers owner deployment), s'))
    {r : DeploymentIndex}
    (hRow : r.deployment.id = r.id)
    (hOwner : r.userId ≠ "")
    (hUser : isUser r.userId)
    {t : StoredEvents}
    (hStored : t.of r.id = redeployed answers r.userId r.deployment) :
    h.IsFresh stored r t := by
  intro s
  have hName := ownerOf_of_ne_empty hOwner []
  have hServed : IsServed isUser [] r := Or.inr (hName ▸ hUser)
  rcases hServes.redeploy hServed s with ⟨_, s', hRun⟩
  have hSame := (redeploy_answers hLawful hAnswers [] hRow hRun).2
  rw [redeploy_eq h hRow, hName, if_neg hOwner] at hRun
  refine ⟨s', hRun, ?_⟩
  rw [hStored, hSame, hName]

variable {front back : List (EventHandler σ)} {c : DeviceGroupCommand} {s : σ}
variable {r : DeploymentIndex}

/-
  What an update does to the stores when other handlers are
  in front and behind.
-/
theorem forEach_stored
    (hFront :
      ∀ k ∈ front, ∀ owner group, Keeps stored (k.updateGroup owner group))
    (hBack :
      ∀ k ∈ back, ∀ owner group, Keeps stored (k.updateGroup owner group))
    {s₁ : σ}
    (hRun :
      Action.forEach (fun k => k.updateGroup c.owner c.deviceGroup) front s =
        (.ok (), s₁)) :
    stored s₁ = stored s ∧
      stored
          (Action.forEach (fun k => k.updateGroup c.owner c.deviceGroup)
            (front ++ h.handler :: back) s).2 =
        stored (h.updateGroup c.deviceGroup s₁).2 := by
  have hP : Action.Closed (Keeps stored) := Keeps.closed
  have hFrontKeeps :
      Keeps stored
        (Action.forEach (fun k => k.updateGroup c.owner c.deviceGroup) front) :=
    hP.forEach front fun k hMem => hFront k hMem c.owner c.deviceGroup
  have hBackKeeps :
      Keeps stored
        (Action.forEach (fun k => k.updateGroup c.owner c.deviceGroup) back) :=
    hP.forEach back fun k hMem => hBack k hMem c.owner c.deviceGroup
  refine ⟨hFrontKeeps.of_eq hRun, ?_⟩
  rw [Action.forEach_append, Action.bind_of_ok hRun]
  change stored
    ((h.updateGroup c.deviceGroup >>= fun _ => Action.forEach _ back) s₁).2 = _
  rcases hHere : h.updateGroup c.deviceGroup s₁ with ⟨e | _, s₂⟩
  · rw [Action.bind_of_error hHere]
  · rw [Action.bind_of_ok hHere, hBackKeeps s₂]

/- What is stored for a row that is skipped stays as it is. -/
theorem IsSkipped.of_eq
    (hLawful : h.Lawful stored)
    (hServes : h.Serves isUser)
    (hFront :
      ∀ k ∈ front, ∀ owner group, Keeps stored (k.updateGroup owner group))
    (hBack :
      ∀ k ∈ back, ∀ owner group, Keeps stored (k.updateGroup owner group))
    (hIndexed : (stored s).Indexed)
    (hSkipped : h.IsSkipped isUser front c s r) :
    (stored
        (Action.forEach (fun k => k.updateGroup c.owner c.deviceGroup)
          (front ++ h.handler :: back) s).2).of r.id =
      (stored s).of r.id := by
  have hFrontKeeps :
      Keeps stored
        (Action.forEach (fun k => k.updateGroup c.owner c.deviceGroup) front) :=
    Keeps.closed.forEach front fun k hMem => hFront k hMem c.owner c.deviceGroup
  have hUnreached :
      ∀ {e : DeployError} {s₁ : σ},
        Action.forEach (fun k => k.updateGroup c.owner c.deviceGroup) front s =
          (.error e, s₁) →
          stored
              (Action.forEach (fun k => k.updateGroup c.owner c.deviceGroup)
                (front ++ h.handler :: back) s).2 =
            stored s := by
    intro e s₁ hRun
    rw [Action.forEach_append, Action.bind_of_error hRun]
    exact hFrontKeeps.of_eq hRun
  cases hSkipped with
  | unnamed hGroup =>
      rcases hRun : Action.forEach
        (fun k => k.updateGroup c.owner c.deviceGroup) front s with
        ⟨e | _, s₁⟩
      · rw [hUnreached hRun]
      · rcases forEach_stored (h := h) hFront hBack hRun with ⟨hBefore, hStored⟩
        rw [hStored, updateGroup, if_pos (beq_iff_eq.mpr hGroup)]
        exact congrArg (·.of r.id) hBefore
  | unreached e s₁ hRun => rw [hUnreached hRun]
  | behind s₁ s₂ s₃ before after ds r' hRun hRows hDs hMem hMissing =>
      rcases forEach_stored (h := h) hFront hBack hRun with ⟨hBefore, hStored⟩
      by_cases hGroup : c.deviceGroup.id = ""
      · rw [hStored, updateGroup, if_pos (beq_iff_eq.mpr hGroup)]
        exact congrArg (·.of r.id) hBefore
      have hListed := hLawful.index.byDeviceGroup_ok hRows
      rw [hBefore] at hListed
      have hLess :
          ((before ++ r :: after : List DeploymentIndex) :
            Multiset DeploymentIndex) ≤
            (stored s).index :=
        hListed ▸ Multiset.filter_le _ _
      have hRowIds : ∀ r' ∈ before, r'.deployment.id = r'.id := by
        intro r' hIn
        apply hIndexed.row_id
        exact Multiset.mem_of_le hLess
          (Multiset.mem_coe.mpr (List.mem_append_left _ hIn))
      have hNotNil : before ++ r :: after ≠ [] :=
        List.append_ne_nil_of_right_ne_nil _ (List.cons_ne_nil _ _)
      have hSame : stored s₃ = stored s := by
        rw [(hLawful.events.byDeviceGroup _).of_eq hDs,
          (hLawful.index.byDeviceGroup _).of_eq hRows, hBefore]
      rw [hStored, updateGroup_of_listed hGroup hRows hNotNil hDs,
        redeployAll_behind hLawful hServes hRowIds
          (hIndexed.nodup_ids hLess) hMem hMissing,
        hSame]

/- A row of a user that is not skipped is fresh afterwards. -/
theorem isFresh_of_not_isSkipped
    (hLawful : h.Lawful stored)
    (hServes : h.Serves isUser)
    (hFront :
      ∀ k ∈ front, ∀ owner group, Keeps stored (k.updateGroup owner group))
    (hBack :
      ∀ k ∈ back, ∀ owner group, Keeps stored (k.updateGroup owner group))
    (hIndexed : (stored s).Indexed)
    (hConcerns : (stored s).Concerns c.deviceGroup.id r)
    (hOwner : r.userId ≠ "")
    (hUser : isUser r.userId)
    (hReached : ¬ h.IsSkipped isUser front c s r) :
    h.IsFresh stored r
      (stored
        (Action.forEach (fun k => k.updateGroup c.owner c.deviceGroup)
          (front ++ h.handler :: back) s).2) := by
  have hGroup : c.deviceGroup.id ≠ "" :=
    fun hEmpty => hReached (.unnamed hEmpty)
  choose answers hAnswers using
    fun owner deployment =>
      hServes.available.describer.describe Fixed.sequential owner deployment
  rcases hRun :
    Action.forEach (fun k => k.updateGroup c.owner c.deviceGroup) front s with
    ⟨e | _, s₁⟩
  · exact absurd (.unreached e s₁ hRun) hReached
  rcases forEach_stored (h := h) hFront hBack hRun with ⟨hBefore, hStored⟩
  rw [← hBefore] at hIndexed hConcerns
  rcases exists_listing hLawful hServes.available hIndexed hConcerns with
    ⟨before, after, ds, s₂, s₃, hRows, hDs, -, -, hRowIds, hIds⟩
  have hNotNil : before ++ r :: after ≠ [] :=
    List.append_ne_nil_of_right_ne_nil _ (List.cons_ne_nil _ _)
  rw [hStored, updateGroup_of_listed hGroup hRows hNotNil hDs]
  have hName := ownerOf_of_ne_empty hOwner ds
  have hServedBefore : ∀ r' ∈ before, IsServed isUser ds r' := by
    intro r' hIn
    by_contra hMissing
    exact hReached
      (.behind s₁ s₂ s₃ before after ds r' hRun hRows hDs hIn hMissing)
  have hRow : r.deployment.id = r.id :=
    hRowIds r (List.mem_append_right _ List.mem_cons_self)
  apply isFresh_of_answers hLawful hServes hAnswers hRow hOwner hUser
  rw [redeployAll_served hLawful hServes hAnswers
    (fun r' hIn => hRowIds r' (List.mem_append_right _ hIn)) hIds hServedBefore
    (Or.inr (hName ▸ hUser)), hName]

------------------------------------------------------------
-- Acknowledged messages
------------------------------------------------------------

/-
  A change of a group has been acknowledged. A deployment on
  the group whose owner is named and exists is then as if it
  had just been deployed for its owner, unless it has been
  skipped: then exactly if it has been like this before.
-/
theorem handleGroupCommand_fresh_iff
    (hLawful : h.Lawful stored)
    (hServes : h.Serves isUser)
    {d : Dispatcher σ}
    (hHandlers : d.handlers = front ++ h.handler :: back)
    (hFront :
      ∀ k ∈ front, ∀ owner group, Keeps stored (k.updateGroup owner group))
    (hBack :
      ∀ k ∈ back, ∀ owner group, Keeps stored (k.updateGroup owner group))
    {message : Json} {s' : σ}
    (hDecode : DeviceGroupCommand.codec.decode message = some c)
    (hPut : c.command = Verb.put)
    (hIndexed : (stored s).Indexed)
    (hAcknowledged : d.handleGroupCommand message s = (.ok (), s'))
    (hConcerns : (stored s).Concerns c.deviceGroup.id r)
    (hOwner : r.userId ≠ "")
    (hUser : isUser r.userId) :
    h.IsFresh stored r (stored s') ↔
      (h.IsSkipped isUser front c s r → h.IsFresh stored r (stored s)) := by
  have hEnd :
      s' =
        (Action.forEach (fun k => k.updateGroup c.owner c.deviceGroup)
          (front ++ h.handler :: back) s).2 := by
    have hState :=
      Dispatcher.ignoringMissingUser_state
        (d.updateGroup c.owner c.deviceGroup) s
    rw [← d.handleGroupCommand_of_put hDecode hPut, hAcknowledged,
      Dispatcher.updateGroup, hHandlers] at hState
    exact hState
  subst hEnd
  by_cases hSkipped : h.IsSkipped isUser front c s r
  · have hSame := hSkipped.of_eq hLawful hServes hFront hBack hIndexed
    unfold IsFresh
    rw [hSame]
    exact ⟨fun hAfter _ => hAfter, fun hBefore => hBefore hSkipped⟩
  · have hFresh :=
      isFresh_of_not_isSkipped hLawful hServes
        hFront hBack hIndexed hConcerns hOwner hUser
        hSkipped
    exact ⟨fun _ hThere => absurd hThere hSkipped, fun _ => hFresh⟩

/- A handler that keeps events in tables, and a single user. -/
def withUser : ConditionalHandler EventTables :=
  { onTables (.ok ⟨"Bearer"⟩) with tokens := .knowing (· = "u1") ⟨"Bearer"⟩ }

theorem withUser_lawful :
    withUser.Lawful EventTables.stored :=
  { onTables_lawful (.ok ⟨"Bearer"⟩) with
    userToken := fun _ => Keeps.closed.ofExcept _ }

theorem withUser_serves :
    withUser.Serves (· = "u1") where
  available := { onTables_available (.ok ⟨"Bearer"⟩) with }
  token owner hUser s := by
    subst hUser
    exact ⟨⟨"Bearer"⟩, s, rfl⟩
  noToken owner hNoUser s := by
    refine ⟨s, ?_⟩
    change (if decide (owner = "u1") = true then _ else _, s) = _
    rw [if_neg (fun hUser => hNoUser (of_decide_eq_true hUser))]

/- A change of a group, of which the message tells nothing but its id. -/
def groupChange : Json :=
  .obj [("command", .str Verb.put), ("device_group", .obj [("id", .str "g1")])]

/- Tables are indexed if every row has the id of its deployment. -/
theorem stored_indexed
    {s : EventTables}
    (hRows : ∀ r ∈ s.rows.rows.values, r.deployment.id = r.id) :
    s.stored.Indexed where
  single id := by
    have hOne := List.nodup_iff_count_le_one.mp s.keyed.nodup_ids id
    rw [List.count, List.countP_map, List.countP_eq_length_filter] at hOne
    exact hOne
  row_id := hRows

/- The row of one of several deployments on a group. -/
def groupRow
    (owner id : String) : DeploymentIndex :=
  .ofDeployment owner { groupDeployment with id }

/- Two of them, of which nothing but the rows is stored. -/
def groupTables
    (owner owner' : String) : EventTables :=
  .ofLists [] [groupRow owner "d1", groupRow owner' "d2"]

/- The first of them is deployed, although there is no user for the second. -/
theorem handleGroupCommand_fresh_iff_first :
    ∃ s',
      (Dispatcher.alone withUser.handler).handleGroupCommand groupChange
        (groupTables "u1" "u0") = (.ok (), s') ∧
        withUser.IsFresh EventTables.stored (groupRow "u1" "d1") s'.stored := by
  have hOk :
      ((Dispatcher.alone withUser.handler).handleGroupCommand groupChange
        (groupTables "u1" "u0")).1.isOk = true := by
    decide +kernel
  have hRun := Action.eq_ok_of_isOk hOk
  have hDecode :
      DeviceGroupCommand.codec.decode groupChange =
        some { command := Verb.put, deviceGroup := { id := "g1" } } := by
    decide +kernel
  have hRowIds : ∀ r ∈ (groupTables "u1" "u0").rows.rows.values,
      r.deployment.id = r.id := by
    decide +kernel
  have hIds : ((groupTables "u1" "u0").rows.ofDeviceGroup "g1").map (·.id) =
      ["d1", "d2"] := by
    decide +kernel
  have hConcerns :
      (groupTables "u1" "u0").stored.Concerns "g1" (groupRow "u1" "d1") :=
    ⟨List.mem_cons_self, by decide +kernel⟩
  have hHandlers : (Dispatcher.alone withUser.handler).handlers =
      [] ++ withUser.handler :: [] := rfl
  refine ⟨_, hRun, ?_⟩
  refine
    (handleGroupCommand_fresh_iff withUser_lawful
      withUser_serves hHandlers nofun nofun hDecode
      rfl (stored_indexed hRowIds) hRun hConcerns (by decide) rfl).mpr ?_
  intro hSkipped
  exfalso
  cases hSkipped with
  | unnamed hGroup => exact absurd hGroup (by decide)
  | unreached e s₁ hFront => cases hFront
  | behind s₁ s₂ s₃ before after ds r' hFront hRows hDs hMem hMissing =>
      cases hFront
      have hListed : (groupTables "u1" "u0").rows.ofDeviceGroup "g1" = _ :=
        Except.ok.inj (congrArg Prod.fst hRows)
      rw [hListed] at hIds
      -- nothing is listed before the first row
      cases before with
      | nil => cases hMem
      | cons r before =>
          have hLater : "d1" ∈ ["d2"] := by
            rw [← (List.cons.inj hIds).2]
            exact
              List.mem_map_of_mem (f := fun r : DeploymentIndex => r.id)
                (List.mem_append_right before List.mem_cons_self)
          exact absurd hLater (by decide)

/-
  Once the first has no user, the second is skipped: it has
  no descriptions after the update, although deploying it
  would give it some.
-/
theorem handleGroupCommand_skips_second :
    ((Dispatcher.alone withUser.handler).handleGroupCommand groupChange
      (groupTables "u0" "u1")).1.isOk = true ∧
      (groupTables "u0" "u1").stored.Concerns "g1" (groupRow "u1" "d2") ∧
      ¬ withUser.IsFresh EventTables.stored (groupRow "u1" "d2")
        ((Dispatcher.alone withUser.handler).handleGroupCommand groupChange
          (groupTables "u0" "u1")).2.stored := by
  refine ⟨?_, ⟨?_, ?_⟩, ?_⟩
  · decide +kernel
  · exact List.mem_cons_of_mem _ List.mem_cons_self
  · decide +kernel
  · intro hFresh
    rcases hFresh (groupTables "u0" "u1") with ⟨s', hDeploy, hSame⟩
    have hNone :
        (((Dispatcher.alone withUser.handler).handleGroupCommand groupChange
            (groupTables "u0" "u1")).2.descriptions.rows.filter
          fun d => d.deploymentId = "d2").length = 0 := by
      decide +kernel
    have hSome :
        ((withUser.deploy "u1" { groupDeployment with id := "d2" }
            (groupTables "u0" "u1")).2.descriptions.rows.filter
          fun d => d.deploymentId = "d2").length = 1 := by
      decide +kernel
    have hCounts := congrArg (fun t => t.descriptions.card) hSame
    have hState : (withUser.deploy "u1" { groupDeployment with id := "d2" }
        (groupTables "u0" "u1")).2 = s' := congrArg Prod.snd hDeploy
    rw [hState] at hSome
    exact absurd (hNone.symm.trans (hCounts.trans hSome)) (by decide)

end ConditionalHandler

end ProcessEvents
