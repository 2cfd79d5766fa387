import ProcessEvents.Client.Network
import ProcessEvents.Collaborator

/-
  This file defines the client of the device repository. All
  of its requests are made with the token of the service.

  Key definitions include:
    * `DeviceRepository`
    * `DeviceRepository.ofDevices`
    * `DeviceRepository.ofGroup`
    * `DeviceRepository.directory`
-/

namespace ProcessEvents

open Client

variable {σ α : Type}

structure DeviceRepository (σ : Type) where
  network : Network σ
  baseUrl : String
  tokens : TokenIssuer σ

namespace DeviceRepository

/- Headers with the token of the service. -/
def credentials
    (r : DeviceRepository σ) : Action σ RequestError Http.Headers :=
  (fun token => [tokenHeader token.text]) <$> r.tokens.adminToken.mapError .auth

/- Ask for a resource. -/
def get
    (r : DeviceRepository σ)
    (c : Codec α)
    (segments : List String) : Action σ RequestError α := do
  let headers ← r.credentials
  let url ← .ofExcept (resource r.baseUrl segments)
  r.network.fetch c { method := "GET", url, headers }

/- The devices with the given ids. No request is made for none. -/
def ofDevices
    (r : DeviceRepository σ)
    (ids : List String) : Action σ RequestError DeviceInfos :=
  if ids.isEmpty then return {}
  else do
    let headers ← r.credentials
    let url ← .ofExcept (resource r.baseUrl ["devices"])
    let url := url.withQuery
      [("ids", Ident.joined ids), ("limit", Text.decimal ids.length)]
    let devices ← r.network.fetch (.list Device.codec)
      { method := "GET", url, headers }
    return .ofDevices devices

/- The members of a group; one that cannot be seen has none. -/
def ofGroup
    (r : DeviceRepository σ)
    (groupId : String) : Action σ RequestError DeviceInfos := do
  match ← (r.get DeviceGroup.codec ["device-groups", groupId]).attempt with
  | .ok group => r.ofDevices group.deviceIds
  | .error e => if e.isAbsent then return {} else .fail e

/- The services that fit a query; only those that report events. -/
def selectables
    (r : DeviceRepository σ)
    (criteria : List DeviceTypeCriteria) :
    Action σ RequestError (List DeviceTypeSelectable) := do
  let headers ← r.credentials
  let url ← .ofExcept (resource r.baseUrl ["query", "device-type-selectables"])
  let url := url.withQuery
    [("interactions-filter", "event"), ("include_id_modified", "true")]
  r.network.fetch (.list DeviceTypeSelectable.codec)
    { method := "POST", url, headers
      payload := .json ((Codec.list DeviceTypeCriteria.codec).encode criteria) }

/- The repository as a directory. -/
def directory
    (r : DeviceRepository σ) : DeviceDirectory σ where
  ofGroup := r.ofGroup
  ofDevices := r.ofDevices
  selectables := r.selectables
  function id := r.get MeasuringFunction.codec ["functions", id]
  concept id := r.get Concept.codec ["concepts", id]
  service id := r.get Service.codec ["services", id]

end DeviceRepository

end ProcessEvents
