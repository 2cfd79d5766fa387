import ProcessEvents.Describer
import ProcessEvents.Proofs.Collaborator

/-
  Conditional events are described by lookups whose failures
  are tolerated, one after the other. Describing has each
  property of a sequence that these lookups have. All that
  it ends in names the owner and the deployment that it has
  been asked for, and no group but those of the events.

  Key definitions include:
    * `Describer.Asks`
    * `EventDescription.IsFor`
    * `EventDescription.IsOnGroupOf`

  Key theorems include:
    * `Describer.asks_of_all`
    * `Describer.Asks.describe`
    * `Describer.describe_isFor`
    * `Describer.describe_isOnGroup`
-/

namespace ProcessEvents

variable {σ : Type}

------------------------------------------------------------
-- Properties of describing
------------------------------------------------------------

/- A lookup that is answered is not lost. -/
theorem tolerated_of_ok
    {α : Type} {lookup : Action σ RequestError α} {s s' : σ} {x : α}
    (hAnswer : lookup s = (.ok x, s')) :
    tolerated lookup s = (.ok (some x), s') := by
  rw [tolerated, Action.bind_of_ok (Action.attempt_apply _ s), hAnswer]
  rfl

/- All lookups of a describer, with tolerated failures, have a property. -/
structure Describer.Asks
    (r : Describer σ)
    (P : Action.Property σ) : Prop where
  ofGroup : ∀ id, P (tolerated (r.devices.ofGroup id))
  ofDevices : ∀ ids, P (tolerated (r.devices.ofDevices ids))
  selectables : ∀ criteria, P (tolerated (r.devices.selectables criteria))
  service : ∀ id, P (tolerated (r.devices.service id))
  importInstance :
    ∀ userId id, P (tolerated (r.imports.importInstance userId id))
  importType : ∀ userId id, P (tolerated (r.imports.importType userId id))

theorem Action.Closed.tolerated
    {P : Action.Property σ} {α : Type}
    (hP : Action.Closed P)
    {lookup : Action σ RequestError α}
    (hLookup : P lookup) :
    P (tolerated lookup) := by
  unfold ProcessEvents.tolerated
  apply hP.bind (hP.attempt hLookup)
  rintro (e | x)
  · dsimp only
    split
    · exact hP.fail _
    · exact hP.pure _
  · exact hP.pure _

namespace Describer

variable {r : Describer σ} {P : Action.Property σ}

/- It is enough that the lookups themselves have the property. -/
theorem asks_of_all
    (hP : Action.Closed P)
    (hDevices : r.devices.All P)
    (hImports : r.imports.All P) :
    r.Asks P where
  ofGroup id := hP.tolerated (hDevices.ofGroup id)
  ofDevices ids := hP.tolerated (hDevices.ofDevices ids)
  selectables criteria := hP.tolerated (hDevices.selectables criteria)
  service id := hP.tolerated (hDevices.service id)
  importInstance userId id := hP.tolerated (hImports.importInstance userId id)
  importType userId id := hP.tolerated (hImports.importType userId id)

namespace Asks

theorem deviceType
    (hAsks : r.Asks P)
    (hP : Action.Sequential P)
    (known : Dict String)
    (deviceId : String) :
    P (r.deviceType known deviceId) := by
  unfold Describer.deviceType
  split
  · exact hP.pure _
  · apply hP.bind (hAsks.ofDevices _)
    rintro (_ | infos)
    · exact hP.pure _
    · dsimp only
      split
      · exact hP.pure _
      · exact hP.pure _

theorem fanOut
    (hAsks : r.Asks P)
    (hP : Action.Sequential P)
    (d : EventDescription)
    (selectables : List DeviceTypeSelectable)
    (known : Dict String)
    (devices : List Device) :
    P (r.fanOut d selectables known devices) := by
  induction devices generalizing known with
  | nil => exact hP.pure _
  | cons device devices ih =>
      apply hP.bind (hAsks.deviceType hP known device.id)
      rintro ⟨typeId, known'⟩
      apply hP.bind (ih known')
      intro more
      exact hP.pure _

theorem onDevices
    (hAsks : r.Asks P)
    (hP : Action.Sequential P)
    (d : EventDescription)
    (devices : List Device) :
    P (r.onDevices d devices) := by
  unfold Describer.onDevices
  apply hP.bind (hAsks.selectables _)
  rintro (_ | selectables)
  · exact hP.pure _
  · exact hAsks.fanOut hP d selectables _ devices

theorem onSource
    (hAsks : r.Asks P)
    (hP : Action.Sequential P)
    (d : EventDescription)
    (source : ExpansionSource) :
    P (r.onSource d source) := by
  have hInfos : P (tolerated (r.devices.infosOf source)) := by
    cases source with
    | group id => exact hAsks.ofGroup id
    | devices ids => exact hAsks.ofDevices ids
  unfold Describer.onSource
  apply hP.bind hInfos
  rintro (_ | infos)
  · exact hP.pure _
  · exact hAsks.onDevices hP d infos.devices

theorem onService
    (hAsks : r.Asks P)
    (hP : Action.Sequential P)
    (d : EventDescription)
    (deviceId serviceId : String) :
    P (r.onService d deviceId serviceId) := by
  unfold Describer.onService
  apply hP.bind (hAsks.service _)
  rintro (_ | service)
  · exact hP.pure _
  · exact hP.pure _

theorem onImport
    (hAsks : r.Asks P)
    (hP : Action.Sequential P)
    (d : EventDescription)
    (importId : String) :
    P (r.onImport d importId) := by
  unfold Describer.onImport
  apply hP.bind (hAsks.importInstance _ _)
  rintro (_ | running)
  · exact hP.pure _
  · apply hP.bind (hAsks.importType _ _)
    rintro (_ | importType)
    · exact hP.pure _
    · exact hP.pure _

theorem describeEvent
    (hAsks : r.Asks P)
    (hP : Action.Sequential P)
    (owner deploymentId : String)
    (e : ConditionalEvent) :
    P (r.describeEvent owner deploymentId e) := by
  unfold Describer.describeEvent
  dsimp only
  split
  · exact hP.pure _
  · exact hAsks.onSource hP _ _
  · exact hAsks.onService hP _ _ _
  · exact hAsks.onSource hP _ _
  · exact hAsks.onImport hP _ _
  · exact hP.pure _
  · exact hP.pure _

theorem describe
    (hAsks : r.Asks P)
    (hP : Action.Sequential P)
    (owner : String)
    (deployment : Deployment) :
    P (r.describe owner deployment) :=
  hP.collect _ fun e _ => hAsks.describeEvent hP owner deployment.id e

end Asks

end Describer

------------------------------------------------------------
-- What descriptions name
------------------------------------------------------------

open ProcessEvents.Action (Yields)

/- The description names an owner and a deployment. -/
def EventDescription.IsFor
    (owner deploymentId : String)
    (d : EventDescription) : Prop :=
  d.userId = owner ∧ d.deploymentId = deploymentId

/-
  The group that the description names, if any, is the one
  that the event is on.
-/
def EventDescription.IsOnGroupOf
    (e : ConditionalEvent)
    (d : EventDescription) : Prop :=
  d.deviceGroupId = "" ∨ e.selection.kind = some (.deviceGroup d.deviceGroupId)

/- The description names the same owner, deployment and group as another one. -/
def EventDescription.IsLike
    (original d : EventDescription) : Prop :=
  d.IsFor original.userId original.deploymentId ∧
    d.deviceGroupId = original.deviceGroupId

namespace Describer

variable (r : Describer σ) {d : EventDescription}

/- All descriptions that have been made name the owner and the deployment. -/
def YieldsFor
    (owner deploymentId : String) :
    Action σ DeployError (List EventDescription) → Prop :=
  Yields fun ds => ∀ d ∈ ds, d.IsFor owner deploymentId

/-
  All descriptions that have been made are like the one that
  they are made from.
-/
def YieldsLike
    (original : EventDescription) :
    Action σ DeployError (List EventDescription) → Prop :=
  Yields fun ds => ∀ d ∈ ds, original.IsLike d

theorem yieldsLike_nil
    (d : EventDescription) :
    YieldsLike d (return [] : Action σ DeployError _) :=
  Yields.pure nofun

theorem yieldsLike_singleton
    {original d : EventDescription}
    (hLike : original.IsLike d) :
    YieldsLike original (return [d] : Action σ DeployError _) :=
  Yields.pure (List.forall_mem_singleton.mpr hLike)

theorem fanOut_isLike
    (d : EventDescription)
    (selectables : List DeviceTypeSelectable)
    (known : Dict String)
    (devices : List Device) :
    YieldsLike d (r.fanOut d selectables known devices) := by
  induction devices generalizing known with
  | nil => exact yieldsLike_nil _
  | cons device devices ih =>
      intro s ds s' hRun
      rcases Action.bind_eq_ok_iff.mp hRun with ⟨⟨typeId, known'⟩, s₁, -, hRest⟩
      rcases Action.bind_eq_ok_iff.mp hRest with ⟨more, s₂, hMore, hEnd⟩
      cases hEnd
      intro d' hMem
      rcases List.mem_append.mp hMem with hHere | hLater
      · rcases List.mem_map.mp hHere with ⟨service, -, rfl⟩
        exact ⟨⟨rfl, rfl⟩, rfl⟩
      · exact ih known' s₁ more s' hMore d' hLater

theorem onSource_isLike
    (d : EventDescription)
    (source : ExpansionSource) :
    YieldsLike d (r.onSource d source) := by
  unfold onSource
  apply Yields.bind
  rintro (_ | infos)
  · exact yieldsLike_nil _
  · apply Yields.bind
    rintro (_ | selectables)
    · exact yieldsLike_nil _
    · exact fanOut_isLike r d selectables _ _

theorem onService_isLike
    (d : EventDescription)
    (deviceId serviceId : String) :
    YieldsLike d (r.onService d deviceId serviceId) := by
  unfold onService
  apply Yields.bind
  rintro (_ | service)
  · exact yieldsLike_nil _
  · exact yieldsLike_singleton ⟨⟨rfl, rfl⟩, rfl⟩

theorem onImport_isLike
    (d : EventDescription)
    (importId : String) :
    YieldsLike d (r.onImport d importId) := by
  unfold onImport
  apply Yields.bind
  rintro (_ | running)
  · exact yieldsLike_nil _
  · apply Yields.bind
    rintro (_ | importType)
    · exact yieldsLike_nil _
    · exact yieldsLike_singleton ⟨⟨rfl, rfl⟩, rfl⟩

/- What is made from the template of an event, with its group or without one. -/
theorem names_of_isLike
    {owner deploymentId : String} {e : ConditionalEvent}
    {original d : EventDescription}
    (hFor : original.IsFor owner deploymentId)
    (hGroup : original.IsOnGroupOf e)
    (hLike : original.IsLike d) :
    d.IsFor owner deploymentId ∧ d.IsOnGroupOf e := by
  rcases hLike with ⟨⟨hUser, hDeployment⟩, hSame⟩
  refine ⟨⟨hUser.trans hFor.1, hDeployment.trans hFor.2⟩, ?_⟩
  unfold EventDescription.IsOnGroupOf
  rw [hSame]
  exact hGroup

/- Whatever the source of the event, its descriptions name what it is for. -/
theorem describeEvent_names
    (owner deploymentId : String)
    (e : ConditionalEvent) :
    Yields (fun ds => ∀ d ∈ ds, d.IsFor owner deploymentId ∧ d.IsOnGroupOf e)
      (r.describeEvent owner deploymentId e) := by
  have hNone : (e.template owner deploymentId).IsOnGroupOf e := Or.inl rfl
  unfold Describer.describeEvent
  dsimp only
  split
  · exact Yields.pure nofun
  · rename_i groupId _ hKind
    intro s ds s' hRun d hMem
    exact names_of_isLike ⟨rfl, rfl⟩ (Or.inr hKind)
      (onSource_isLike r _ _ s ds s' hRun d hMem)
  · intro s ds s' hRun d hMem
    exact names_of_isLike ⟨rfl, rfl⟩ hNone
      (onService_isLike r _ _ _ s ds s' hRun d hMem)
  · intro s ds s' hRun d hMem
    exact names_of_isLike ⟨rfl, rfl⟩ hNone
      (onSource_isLike r _ _ s ds s' hRun d hMem)
  · intro s ds s' hRun d hMem
    exact names_of_isLike ⟨rfl, rfl⟩ hNone
      (onImport_isLike r _ _ s ds s' hRun d hMem)
  · exact Yields.pure nofun
  · exact Yields.pure nofun

theorem describe_isFor
    (owner : String)
    (deployment : Deployment) :
    YieldsFor owner deployment.id (r.describe owner deployment) := by
  apply Yields.collect
  intro e _ s ds s' hRun d hMem
  exact (describeEvent_names r owner deployment.id e s ds s' hRun d hMem).1

/- Each description is on the group of one of the events, or on none. -/
theorem describe_isOnGroup
    (owner : String)
    (deployment : Deployment) :
    Yields (fun ds => ∀ d ∈ ds, ∃ e ∈ deployment.conditionalEvents,
      d.IsOnGroupOf e)
      (r.describe owner deployment) := by
  apply Yields.collect
  intro e hEvent s ds s' hRun d hMem
  exact ⟨e, hEvent,
    (describeEvent_names r owner deployment.id e s ds s' hRun d hMem).2⟩

end Describer

end ProcessEvents
