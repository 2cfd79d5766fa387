import ProcessEvents.Proofs.Collaborator
import ProcessEvents.Proofs.EventTable
import ProcessEvents.Proofs.PipelineTable
import ProcessEvents.Slot

/-
  This file defines a backend on which pipelines run, events
  are stored and ends of deployments are announced. Each of
  these has a slot of its own, so that what acts on one of
  them leaves the others alone.

  Key definitions include:
    * `RunningPipelines.engine`
    * `Action.within`
    * `FlowEngine.within`, `EventStore.within`, `IndexStore.within`
    * `Backend`

  Key theorems include:
    * `RunningPipelines.exists_free`
    * `RunningPipelines.lawful`, `RunningPipelines.serves`
    * `FlowEngine.All.within`
    * `FlowEngine.Lawful.within`
    * `EventStore.Lawful.within`, `IndexStore.Lawful.within`
-/

namespace ProcessEvents

variable {σ τ β ε α : Type}

------------------------------------------------------------
-- Engines with free ids
------------------------------------------------------------

namespace RunningPipelines

/- The first of enough ids that no pipeline has. -/
def free?
    (p : RunningPipelines) : Option Uuid :=
  ((List.range (p.rows.length + 1)).map Uuid.ofNat).find? fun id =>
    id ∉ p.rows.map (·.id)

theorem notMem_of_free?
    {p : RunningPipelines} {id : Uuid}
    (hFree : p.free? = some id) :
    id ∉ p.rows.map (·.id) := by
  have hFound := List.find?_some hFree
  exact of_decide_eq_true hFound

/-
  If there is an id left at all, there is one among the first:
  as long as these are different, there are more of them than
  pipelines.
-/
theorem exists_free
    {p : RunningPipelines}
    (hLeft : ∃ id : Uuid, id ∉ p.rows.map (·.id)) :
    ∃ id, p.free? = some id := by
  rcases hLeft with ⟨id, hUnused⟩
  have hFirst :
      ∃ id ∈ (List.range (p.rows.length + 1)).map Uuid.ofNat,
        id ∉ p.rows.map (·.id) := by
    by_cases hSmall : id.bits.toNat < p.rows.length + 1
    · refine ⟨id, List.mem_map.mpr
        ⟨id.bits.toNat, List.mem_range.mpr hSmall, ?_⟩, hUnused⟩
      rw [Uuid.ofNat, BitVec.ofNat_toNat, BitVec.setWidth_eq]
    · apply exists_unused
      · apply List.Nodup.map_on _ List.nodup_range
        intro n hn m hm hSame
        have hBound := id.bits.isLt
        rw [List.mem_range] at hn hm
        have hBits := congrArg (fun id : Uuid => id.bits.toNat) hSame
        simp only [Uuid.ofNat, BitVec.toNat_ofNat] at hBits
        rw [Nat.mod_eq_of_lt (by omega), Nat.mod_eq_of_lt (by omega)] at hBits
        exact hBits
      · rw [List.length_map, List.length_range]
        exact Nat.lt_succ_self _
  rcases hFirst with ⟨id', hMem, hUnused'⟩
  apply Option.isSome_iff_exists.mp
  rw [free?, List.find?_isSome]
  exact ⟨id', hMem, decide_eq_true hUnused'⟩

/- The pipelines and one more. -/
def add
    (p : RunningPipelines)
    (r : PipelineRow)
    (hNew : r.id ∉ p.rows.map (·.id)) : RunningPipelines where
  rows := p.rows ++ [r]
  distinct := by
    rw [List.map_append, List.map_singleton, ← List.concat_eq_append]
    exact p.distinct.concat hNew

/- The pipelines, one of which has been replaced under its id. -/
def replace
    (p : RunningPipelines)
    (token : BearerToken)
    (owner : String)
    (request : PipelineRequest)
    (id : Uuid) : RunningPipelines where
  rows :=
    p.rows.map fun r => if r.id = id then { id, owner, token, request } else r
  distinct := by
    rw [PipelineRow.map_id_replace]
    exact p.distinct

/- The pipelines without the one that has an id. -/
def drop
    (p : RunningPipelines)
    (id : Uuid) : RunningPipelines where
  rows := p.rows.filter fun r => r.id ≠ id
  distinct := p.distinct.sublist (List.filter_sublist.map _)

/- Why the engine does not do what it is asked for. -/
def refusal : RequestError :=
  .unexpectedStatus .notFound ""

/- Every flow has one operator. Calls for pipelines that are not there fail. -/
def engine : FlowEngine RunningPipelines where
  flowInputs _ flowId := return [{ id := flowId ++ "-node" }]
  create token owner request p :=
    match hFree : p.free? with
    | some id =>
      let r : PipelineRow := { id, owner, token, request }
      (.ok r.listed, p.add r (notMem_of_free? hFree))
    | none => (.error refusal, p)
  update token owner request p :=
    match Uuid.parse? request.id with
    | some id =>
      let r : PipelineRow := { id, owner, token, request }
      if id ∈ p.rows.map (·.id) then
        (.ok r.listed, p.replace token owner request id)
      else (.error refusal, p)
    | none => (.error refusal, p)
  remove _ text p :=
    match Uuid.parse? text with
    | some id =>
      if id ∈ p.rows.map (·.id) then (.ok (), p.drop id)
      else (.error refusal, p)
    | none => (.error refusal, p)
  list owner := .read fun p =>
    (p.rows.filter fun r => r.owner = owner).map PipelineRow.listed

theorem remove_eq
    (owner : String) (id : Uuid) (p : RunningPipelines) :
    engine.remove owner id.toText p =
      if id ∈ p.rows.map (·.id) then (.ok (), p.drop id)
      else (.error refusal, p) := by
  simp only [engine, Uuid.parse?_toText]

theorem lawful :
    engine.Lawful id where
  flowInputs _ _ _ := rfl
  list _ _ := rfl
  list_ok {owner s s' ps} hRun p := by
    cases hRun
    simp only [List.mem_map, List.mem_filter, decide_eq_true_eq]
    constructor
    · rintro ⟨r, ⟨hRow, hOwner⟩, hListed⟩
      exact ⟨r, hRow, hOwner, hListed⟩
    · rintro ⟨r, hRow, hOwner, hListed⟩
      exact ⟨r, ⟨hRow, hOwner⟩, hListed⟩
  create_ok {token owner request s s' p} hRun := by
    simp only [engine] at hRun
    split at hRun
    · cases hRun
      rfl
    · cases hRun
  update_ok {token owner request s s' p id} hId hRun := by
    simp only [engine, hId, Uuid.parse?_toText] at hRun
    split at hRun
    · cases hRun
      rfl
    · cases hRun
  remove_ok {owner id s s'} hRun := by
    rw [remove_eq] at hRun
    split at hRun
    · cases hRun
      rfl
    · cases hRun

theorem allOrNothing :
    engine.AllOrNothing id where
  create token owner request s := by
    simp only [engine]
    split
    · exact Or.inr ⟨_, rfl⟩
    · exact Or.inl rfl
  remove owner id s := by
    rw [remove_eq]
    split
    · exact Or.inr rfl
    · exact Or.inl rfl

theorem serves :
    engine.Serves id where
  list _ s := ⟨_, s, rfl⟩
  listed {owner s s' ps} hRun := by
    cases hRun
    rw [List.map_map]
    exact s.distinct.sublist (List.filter_sublist.map _)
  create token owner request s hLeft := by
    rcases exists_free hLeft with ⟨id, hSome⟩
    simp only [engine]
    split
    · exact ⟨_, _, rfl⟩
    · rename_i hNone
      exact absurd (hSome.symm.trans hNone) (Option.some_ne_none id)
  remove owner s r hRow := by
    refine ⟨s.drop r.id, ?_⟩
    rw [remove_eq]
    exact if_pos (List.mem_map_of_mem hRow)

end RunningPipelines

------------------------------------------------------------
-- Actions on slots
------------------------------------------------------------

/- What has been put into a slot is found there. -/
def Slot.Holds
    (slot : Slot σ τ) : Prop :=
  ∀ x s, slot.get (slot.set x s) = x

/- What a slot does not touch has nothing to do with it. -/
def Slot.Spares
    (slot : Slot σ τ)
    (view : σ → β) : Prop :=
  ∀ x s, view (slot.set x s) = view s

/- An action on what a slot holds, as one on the whole state. -/
def Action.within
    (slot : Slot σ τ)
    (a : Action τ ε α) : Action σ ε α :=
  fun s => ((a (slot.get s)).1, slot.set (a (slot.get s)).2 s)

namespace Action

variable {slot : Slot σ τ} {a : Action τ ε α}

theorem of_within
    (hSlot : slot.Holds)
    {s s' : σ} {r : Except ε α}
    (hRun : a.within slot s = (r, s')) :
    a (slot.get s) = (r, slot.get s') := by
  cases hRun
  rw [hSlot]

theorem within_of_eq
    {s : σ} {t : τ} {r : Except ε α}
    (hRun : a (slot.get s) = (r, t)) :
    a.within slot s = (r, slot.set t s) := by
  rw [within, hRun]

theorem Keeps.within
    (hSlot : slot.Holds)
    {view : τ → β}
    (hKeeps : Keeps view a) :
    Keeps (fun s => view (slot.get s)) (a.within slot) := by
  intro s
  change view (slot.get (slot.set _ s)) = _
  rw [hSlot]
  exact hKeeps _

/- What the slot does not touch stays as it is. -/
theorem keeps_within
    {view : σ → β}
    (hSpares : slot.Spares view) :
    Keeps view (a.within slot) :=
  fun s => hSpares _ s

theorem Succeeds.within
    (hSucceeds : Succeeds a) :
    Succeeds (a.within slot) := by
  intro s
  rcases hSucceeds (slot.get s) with ⟨x, t, hRun⟩
  exact ⟨x, _, within_of_eq hRun⟩

end Action

------------------------------------------------------------
-- Collaborators in slots
------------------------------------------------------------

variable {slot : Slot σ τ}

def FlowEngine.within
    (slot : Slot σ τ)
    (engine : FlowEngine τ) : FlowEngine σ where
  flowInputs owner flowId := (engine.flowInputs owner flowId).within slot
  create token owner request := (engine.create token owner request).within slot
  update token owner request := (engine.update token owner request).within slot
  remove owner id := (engine.remove owner id).within slot
  list owner := (engine.list owner).within slot

def EventStore.within
    (slot : Slot σ τ)
    (events : EventStore τ) : EventStore σ where
  set d := (events.set d).within slot
  removeByDeployment id := (events.removeByDeployment id).within slot
  byEvent id := (events.byEvent id).within slot
  byDeviceGroup id := (events.byDeviceGroup id).within slot
  byDeployment id := (events.byDeployment id).within slot

def IndexStore.within
    (slot : Slot σ τ)
    (index : IndexStore τ) : IndexStore σ where
  set row := (index.set row).within slot
  remove id := (index.remove id).within slot
  byDeviceGroup id := (index.byDeviceGroup id).within slot

/- What calls have, they have in a slot as far as it is handed on. -/
theorem FlowEngine.All.within
    {P : Action.Property σ} {Q : Action.Property τ} {engine : FlowEngine τ}
    (hEngine : engine.All Q)
    (hWithin :
      ∀ {ε α : Type} (a : Action τ ε α), Q a → P (a.within slot)) :
    (engine.within slot).All P where
  flowInputs owner flowId := hWithin _ (hEngine.flowInputs owner flowId)
  create token owner request := hWithin _ (hEngine.create token owner request)
  update token owner request := hWithin _ (hEngine.update token owner request)
  remove owner id := hWithin _ (hEngine.remove owner id)
  list owner := hWithin _ (hEngine.list owner)

theorem EventStore.All.within
    {P : Action.Property σ} {Q : Action.Property τ} {events : EventStore τ}
    (hEvents : events.All Q)
    (hWithin :
      ∀ {ε α : Type} (a : Action τ ε α), Q a → P (a.within slot)) :
    (events.within slot).All P where
  set d := hWithin _ (hEvents.set d)
  removeByDeployment id := hWithin _ (hEvents.removeByDeployment id)
  byEvent id := hWithin _ (hEvents.byEvent id)
  byDeviceGroup id := hWithin _ (hEvents.byDeviceGroup id)
  byDeployment id := hWithin _ (hEvents.byDeployment id)

theorem IndexStore.All.within
    {P : Action.Property σ} {Q : Action.Property τ} {index : IndexStore τ}
    (hIndex : index.All Q)
    (hWithin :
      ∀ {ε α : Type} (a : Action τ ε α), Q a → P (a.within slot)) :
    (index.within slot).All P where
  set row := hWithin _ (hIndex.set row)
  remove id := hWithin _ (hIndex.remove id)
  byDeviceGroup id := hWithin _ (hIndex.byDeviceGroup id)

theorem FlowEngine.Lawful.within
    {engine : FlowEngine τ} {pipelines : τ → RunningPipelines}
    (hEngine : engine.Lawful pipelines)
    (hSlot : slot.Holds) :
    (engine.within slot).Lawful fun s => pipelines (slot.get s) where
  flowInputs owner flowId := (hEngine.flowInputs owner flowId).within hSlot
  list owner := (hEngine.list owner).within hSlot
  list_ok hRun := hEngine.list_ok (Action.of_within hSlot hRun)
  create_ok hRun := hEngine.create_ok (Action.of_within hSlot hRun)
  update_ok hId hRun := hEngine.update_ok hId (Action.of_within hSlot hRun)
  remove_ok hRun := hEngine.remove_ok (Action.of_within hSlot hRun)

theorem FlowEngine.AllOrNothing.within
    {engine : FlowEngine τ} {pipelines : τ → RunningPipelines}
    (hEngine : engine.AllOrNothing pipelines)
    (hSlot : slot.Holds) :
    (engine.within slot).AllOrNothing fun s => pipelines (slot.get s) where
  create token owner request s := by
    have hCreate := hEngine.create token owner request (slot.get s)
    rw [← hSlot (engine.create token owner request (slot.get s)).2 s] at hCreate
    exact hCreate
  remove owner id s := by
    have hRemove := hEngine.remove owner id (slot.get s)
    rw [← hSlot (engine.remove owner id.toText (slot.get s)).2 s] at hRemove
    exact hRemove

theorem FlowEngine.Serves.within
    {engine : FlowEngine τ} {pipelines : τ → RunningPipelines}
    (hEngine : engine.Serves pipelines)
    (hSlot : slot.Holds) :
    (engine.within slot).Serves fun s => pipelines (slot.get s) where
  list owner := (hEngine.list owner).within
  listed hRun := hEngine.listed (Action.of_within hSlot hRun)
  create token owner request s hLeft := by
    rcases hEngine.create token owner request hLeft with ⟨p, t, hRun⟩
    exact ⟨p, _, Action.within_of_eq hRun⟩
  remove owner s r hRow := by
    rcases hEngine.remove owner hRow with ⟨t, hRun⟩
    exact ⟨_, Action.within_of_eq hRun⟩

theorem EventStore.Lawful.within
    {events : EventStore τ} {stored : τ → StoredEvents}
    (hEvents : events.Lawful stored)
    (hSlot : slot.Holds) :
    (events.within slot).Lawful fun s => stored (slot.get s) where
  set_ok hRun := hEvents.set_ok (Action.of_within hSlot hRun)
  removeByDeployment_ok hRun :=
    hEvents.removeByDeployment_ok (Action.of_within hSlot hRun)
  byEvent eventId := (hEvents.byEvent eventId).within hSlot
  byEvent_ok hRun := hEvents.byEvent_ok (Action.of_within hSlot hRun)
  byDeviceGroup groupId := (hEvents.byDeviceGroup groupId).within hSlot
  byDeviceGroup_ok hRun :=
    hEvents.byDeviceGroup_ok (Action.of_within hSlot hRun)
  byDeployment deploymentId := (hEvents.byDeployment deploymentId).within hSlot
  byDeployment_ok hRun := hEvents.byDeployment_ok (Action.of_within hSlot hRun)

theorem IndexStore.Lawful.within
    {index : IndexStore τ} {stored : τ → StoredEvents}
    (hIndex : index.Lawful stored)
    (hSlot : slot.Holds) :
    (index.within slot).Lawful fun s => stored (slot.get s) where
  set_ok hRun := hIndex.set_ok (Action.of_within hSlot hRun)
  remove_ok hRun := hIndex.remove_ok (Action.of_within hSlot hRun)
  byDeviceGroup groupId := (hIndex.byDeviceGroup groupId).within hSlot
  byDeviceGroup_ok hRun := hIndex.byDeviceGroup_ok (Action.of_within hSlot hRun)

theorem EventStore.Atomic.within
    {events : EventStore τ} {stored : τ → StoredEvents}
    (hEvents : events.Atomic stored)
    (hSlot : slot.Holds) :
    (events.within slot).Atomic fun s => stored (slot.get s) where
  set_error hRun := hEvents.set_error (Action.of_within hSlot hRun)
  removeByDeployment_error hRun :=
    hEvents.removeByDeployment_error (Action.of_within hSlot hRun)

theorem IndexStore.Atomic.within
    {index : IndexStore τ} {stored : τ → StoredEvents}
    (hIndex : index.Atomic stored)
    (hSlot : slot.Holds) :
    (index.within slot).Atomic fun s => stored (slot.get s) where
  set_error hRun := hIndex.set_error (Action.of_within hSlot hRun)
  remove_error hRun := hIndex.remove_error (Action.of_within hSlot hRun)

------------------------------------------------------------
-- The backend
------------------------------------------------------------

/-
  Pipelines, conditional events, and what has been announced
  under which key.
-/
structure Backend where
  running : RunningPipelines
  tables : EventTables
  announced : List (String × DoneNotification) := []

namespace Backend

def runningSlot : Slot Backend RunningPipelines where
  get := running
  set x s := { s with running := x }

def tablesSlot : Slot Backend EventTables where
  get := tables
  set x s := { s with tables := x }

theorem runningSlot_holds :
    runningSlot.Holds :=
  fun _ _ => rfl

theorem tablesSlot_holds :
    tablesSlot.Holds :=
  fun _ _ => rfl

def engine : FlowEngine Backend :=
  RunningPipelines.engine.within runningSlot

def events : EventStore Backend :=
  EventTables.events.within tablesSlot

def index : IndexStore Backend :=
  EventTables.index.within tablesSlot

/- The engine touches nothing but what is running. -/
theorem engine_all
    {view : Backend → β}
    (hView : runningSlot.Spares view) :
    engine.All (Action.Keeps view) where
  flowInputs _ _ := Action.keeps_within hView
  create _ _ _ := Action.keeps_within hView
  update _ _ _ := Action.keeps_within hView
  remove _ _ := Action.keeps_within hView
  list _ := Action.keeps_within hView

/- The stores touch nothing but the tables. -/
theorem events_all
    {view : Backend → β}
    (hView : tablesSlot.Spares view) :
    events.All (Action.Keeps view) where
  set _ := Action.keeps_within hView
  removeByDeployment _ := Action.keeps_within hView
  byEvent _ := Action.keeps_within hView
  byDeviceGroup _ := Action.keeps_within hView
  byDeployment _ := Action.keeps_within hView

theorem index_all
    {view : Backend → β}
    (hView : tablesSlot.Spares view) :
    index.All (Action.Keeps view) where
  set _ := Action.keeps_within hView
  remove _ := Action.keeps_within hView
  byDeviceGroup _ := Action.keeps_within hView

/- All that is announced is kept. -/
def channel : DoneChannel Backend where
  produce key notification :=
    .modify fun s =>
      { s with announced := s.announced ++ [(key, notification)] }

end Backend

end ProcessEvents
