import ProcessEvents.Collaborator
import ProcessEvents.Expansion

/-
  This file defines how an expansion is looked up: first the
  devices of its source, then the services that deliver a
  function and an aspect.

  Key definitions include:
    * `ExpansionSource`
    * `DeviceDirectory.infosOf`
    * `DeviceDirectory.expand`
-/

namespace ProcessEvents

variable {σ : Type}

/- Where the devices of an expansion come from. -/
inductive ExpansionSource where
  | group (id : String)
  | devices (ids : List String)
  deriving DecidableEq, Repr

/- The query for services with a function and an aspect. -/
def DeviceTypeCriteria.measuring
    (functionId aspectId : String) : DeviceTypeCriteria :=
  { functionId, aspectId }

namespace DeviceDirectory

/- The devices of a source. -/
def infosOf
    (directory : DeviceDirectory σ) :
    ExpansionSource → Action σ RequestError DeviceInfos
  | .group id => directory.ofGroup id
  | .devices ids => directory.ofDevices ids

/- The services of a source that deliver a function and an aspect. -/
def expand
    (directory : DeviceDirectory σ)
    (source : ExpansionSource)
    (functionId aspectId : String) : Action σ RequestError Expansion := do
  let infos ← directory.infosOf source
  let selectables ← directory.selectables [.measuring functionId aspectId]
  return .ofOptions infos.devices (pathOptions infos.deviceTypeIds selectables)

end DeviceDirectory

end ProcessEvents
