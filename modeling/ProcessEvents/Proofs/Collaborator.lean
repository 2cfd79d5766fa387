import ProcessEvents.Counter
import ProcessEvents.Expansion.Lookup
import ProcessEvents.Proofs.Action

/-
  A collaborator has a property if all that can be asked of
  it does. What is put together from such questions then has
  the property, too.

  Key definitions include:
    * `DeviceDirectory.All`, `DeviceDirectory.unchanging`
    * `ImportDirectory.All`, `ImportDirectory.unchanging`
    * `FlowEngine.All`
    * `EventStore.All`, `IndexStore.All`
    * `TokenIssuer.answering`, `TokenIssuer.knowing`

  Key theorems include:
    * `DeviceDirectory.All.expand`
    * `ImportDirectory.All.topic`
    * `Counters.keeps_count`
-/

namespace ProcessEvents

variable {σ : Type} {P : Action.Property σ}

------------------------------------------------------------
-- What is asked of collaborators
------------------------------------------------------------

structure DeviceDirectory.All
    (P : Action.Property σ)
    (devices : DeviceDirectory σ) : Prop where
  ofGroup : ∀ id, P (devices.ofGroup id)
  ofDevices : ∀ ids, P (devices.ofDevices ids)
  selectables : ∀ criteria, P (devices.selectables criteria)
  function : ∀ id, P (devices.function id)
  concept : ∀ id, P (devices.concept id)
  service : ∀ id, P (devices.service id)

structure ImportDirectory.All
    (P : Action.Property σ)
    (imports : ImportDirectory σ) : Prop where
  importInstance : ∀ userId id, P (imports.importInstance userId id)
  importType : ∀ userId id, P (imports.importType userId id)

structure FlowEngine.All
    (P : Action.Property σ)
    (engine : FlowEngine σ) : Prop where
  flowInputs : ∀ owner flowId, P (engine.flowInputs owner flowId)
  create : ∀ token owner request, P (engine.create token owner request)
  update : ∀ token owner request, P (engine.update token owner request)
  remove : ∀ owner id, P (engine.remove owner id)
  list : ∀ owner, P (engine.list owner)

structure EventStore.All
    (P : Action.Property σ)
    (events : EventStore σ) : Prop where
  set : ∀ d, P (events.set d)
  removeByDeployment : ∀ id, P (events.removeByDeployment id)
  byEvent : ∀ id, P (events.byEvent id)
  byDeviceGroup : ∀ id, P (events.byDeviceGroup id)
  byDeployment : ∀ id, P (events.byDeployment id)

structure IndexStore.All
    (P : Action.Property σ)
    (index : IndexStore σ) : Prop where
  set : ∀ row, P (index.set row)
  remove : ∀ id, P (index.remove id)
  byDeviceGroup : ∀ id, P (index.byDeviceGroup id)

namespace DeviceDirectory.All

variable {devices : DeviceDirectory σ}

theorem infosOf
    (hDevices : devices.All P)
    (source : ExpansionSource) :
    P (devices.infosOf source) := by
  cases source with
  | group id => exact hDevices.ofGroup id
  | devices ids => exact hDevices.ofDevices ids

theorem expand
    (hP : Action.Sequential P)
    (hDevices : devices.All P)
    (source : ExpansionSource)
    (functionId aspectId : String) :
    P (devices.expand source functionId aspectId) := by
  unfold DeviceDirectory.expand
  apply hP.bind (hDevices.infosOf source)
  intro infos
  apply hP.bind (hDevices.selectables _)
  intro selectables
  exact hP.pure _

end DeviceDirectory.All

theorem ImportDirectory.All.topic
    {imports : ImportDirectory σ}
    (hP : Action.Sequential P)
    (hImports : imports.All P)
    (userId importId : String) :
    P (imports.topic userId importId) :=
  hP.map _ (hImports.importInstance userId importId)

------------------------------------------------------------
-- Answers that never change
------------------------------------------------------------

/-
  The same devices and services, whatever is asked for, and
  anything else that has the id it is asked for by.
-/
def DeviceDirectory.unchanging
    (infos : DeviceInfos)
    (selectables : List DeviceTypeSelectable) : DeviceDirectory σ where
  ofGroup _ := return infos
  ofDevices _ := return infos
  selectables _ := return selectables
  function id := return { id }
  concept id := return { id }
  service id := return { id }

/- Every import there is, with a topic of its own. -/
def ImportDirectory.unchanging : ImportDirectory σ where
  importInstance _ id := return { id, topic := id }
  importType _ id := return { id }

/- One answer, whoever a token is for. -/
def TokenIssuer.answering
    (answer : Except AuthError BearerToken) : TokenIssuer σ where
  adminToken := .ofExcept answer
  userToken _ := .ofExcept answer

/- The same token for all users, and none for anybody else. -/
def TokenIssuer.knowing
    (isUser : String → Bool)
    (token : BearerToken) : TokenIssuer σ where
  adminToken := return token
  userToken owner :=
    .ofExcept (if isUser owner then .ok token else .error .userDoesNotExist)

/- Nothing is counted. -/
def Counters.none : Counters σ where
  add _ _ s := s

theorem DeviceDirectory.all_unchanging
    (hP : Action.Sequential P)
    (infos : DeviceInfos)
    (selectables : List DeviceTypeSelectable) :
    (DeviceDirectory.unchanging infos selectables).All P where
  ofGroup _ := hP.pure _
  ofDevices _ := hP.pure _
  selectables _ := hP.pure _
  function _ := hP.pure _
  concept _ := hP.pure _
  service _ := hP.pure _

theorem ImportDirectory.all_unchanging
    (hP : Action.Sequential P) :
    ImportDirectory.unchanging.All P where
  importInstance _ _ := hP.pure _
  importType _ _ := hP.pure _

------------------------------------------------------------
-- Counting
------------------------------------------------------------

/- Counting changes a view of the state at most where it counts. -/
theorem Counters.keeps_count
    {ε ω : Type} {counters : Counters σ} {view : σ → ω}
    (hCount : ∀ c n s, view (counters.add c n s) = view s)
    (c : Counter) (n : Nat) :
    Action.Keeps view (counters.count c n : Action σ ε Unit) :=
  fun s => hCount c n s

theorem Counters.succeeds_count
    {ε : Type} (counters : Counters σ) (c : Counter) (n : Nat) :
    Action.Succeeds (counters.count c n : Action σ ε Unit) :=
  fun s => ⟨(), counters.add c n s, rfl⟩

end ProcessEvents
