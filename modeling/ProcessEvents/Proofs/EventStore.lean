import ProcessEvents.Collaborator
import ProcessEvents.Proofs.Action
import ProcessEvents.Proofs.StoredEvents

/-
  This file states what is expected of the stores of
  conditional events: a call that succeeds does what it is
  asked for, and a call that fails does nothing. In which
  order a store lists its entries is left open.

  Key definitions include:
    * `EventStore.Lawful`, `EventStore.Atomic`
    * `IndexStore.Lawful`, `IndexStore.Atomic`
-/

namespace ProcessEvents

variable {σ : Type}

open ProcessEvents.Action (Keeps)

/- Descriptions are put in place of those with their key. -/
structure EventStore.Lawful
    (events : EventStore σ)
    (stored : σ → StoredEvents) : Prop where
  set_ok :
    ∀ {d : EventDescription} {s s' : σ},
      events.set d s = (.ok (), s') → stored s' = (stored s).put d
  removeByDeployment_ok :
    ∀ {deploymentId : String} {s s' : σ},
      events.removeByDeployment deploymentId s = (.ok (), s') →
        stored s' = (stored s).dropDescriptions deploymentId
  byEvent : ∀ eventId, Keeps stored (events.byEvent eventId)
  byEvent_ok :
    ∀ {eventId : String} {s s' : σ} {ds : List EventDescription},
      events.byEvent eventId s = (.ok ds, s') →
        ds = (stored s).descriptions.filter fun d => d.eventId = eventId
  byDeviceGroup : ∀ groupId, Keeps stored (events.byDeviceGroup groupId)
  byDeviceGroup_ok :
    ∀ {groupId : String} {s s' : σ} {ds : List EventDescription},
      events.byDeviceGroup groupId s = (.ok ds, s') →
        ds = (stored s).descriptions.filter fun d => d.deviceGroupId = groupId
  byDeployment : ∀ deploymentId, Keeps stored (events.byDeployment deploymentId)
  byDeployment_ok :
    ∀ {deploymentId : String} {s s' : σ} {ds : List EventDescription},
      events.byDeployment deploymentId s = (.ok ds, s') →
        ds = ((stored s).of deploymentId).descriptions

structure EventStore.Atomic
    (events : EventStore σ)
    (stored : σ → StoredEvents) : Prop where
  set_error :
    ∀ {d : EventDescription} {s s' : σ} {e : StoreError},
      events.set d s = (.error e, s') → stored s' = stored s
  removeByDeployment_error :
    ∀ {deploymentId : String} {s s' : σ} {e : StoreError},
      events.removeByDeployment deploymentId s = (.error e, s') →
        stored s' = stored s

/- Rows are put in place of those of their deployment. -/
structure IndexStore.Lawful
    (index : IndexStore σ)
    (stored : σ → StoredEvents) : Prop where
  set_ok :
    ∀ {row : DeploymentIndex} {s s' : σ},
      index.set row s = (.ok (), s') → stored s' = (stored s).putRow row
  remove_ok :
    ∀ {deploymentId : String} {s s' : σ},
      index.remove deploymentId s = (.ok (), s') →
        stored s' = (stored s).dropRow deploymentId
  byDeviceGroup : ∀ groupId, Keeps stored (index.byDeviceGroup groupId)
  byDeviceGroup_ok :
    ∀ {groupId : String} {s s' : σ} {rows : List DeploymentIndex},
      index.byDeviceGroup groupId s = (.ok rows, s') →
        rows = (stored s).index.filter fun r => groupId ∈ r.deviceGroups

structure IndexStore.Atomic
    (index : IndexStore σ)
    (stored : σ → StoredEvents) : Prop where
  set_error :
    ∀ {row : DeploymentIndex} {s s' : σ} {e : StoreError},
      index.set row s = (.error e, s') → stored s' = stored s
  remove_error :
    ∀ {deploymentId : String} {s s' : σ} {e : StoreError},
      index.remove deploymentId s = (.error e, s') → stored s' = stored s

end ProcessEvents
