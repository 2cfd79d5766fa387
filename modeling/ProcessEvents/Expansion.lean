import ProcessEvents.Device

/-
  This file defines the expansion of devices into services:
  which services of the devices deliver a requested value,
  for which devices, and on which paths.

  Key definitions include:
    * `PathOptions`
    * `pathOptions`
    * `Expansion`
    * `Expansion.listings`
    * `Expansion.collect`
    * `Expansion.ofOptions`
-/

namespace ProcessEvents

------------------------------------------------------------
-- Path options
------------------------------------------------------------

/- The paths on which one service offers the requested value. -/
structure PathOptions where
  serviceId : String := ""
  paths : List String := []
  characteristics : Dict String := .empty
  deriving DecidableEq, Repr, Inhabited

/-
  The paths listed for a service. Options that name another
  service are left out.
-/
def PathOptions.ofListed
    (serviceId : String)
    (options : List ServicePathOption) : PathOptions :=
  let own := options.filter fun o => o.serviceId = serviceId
  { serviceId
    paths := own.map (·.path)
    characteristics := .ofList (own.map fun o => (o.path, o.characteristicId)) }

/- The services of all selectables of one device type. -/
def PathOptions.ofDeviceType
    (selectables : List DeviceTypeSelectable)
    (deviceTypeId : String) : List PathOptions :=
  (selectables.filter fun s => s.deviceTypeId = deviceTypeId).flatMap fun s =>
    s.servicePathOptions.entries.map fun e => ofListed e.1 e.2

/-
  Path options of each device type. A device type without
  services has no entry.
-/
def pathOptions
    (deviceTypeIds : List String)
    (selectables : List DeviceTypeSelectable) : Dict (List PathOptions) :=
  deviceTypeIds.foldl
    (fun result id =>
      let options := PathOptions.ofDeviceType selectables id
      if options.isEmpty then result
      else result.update id [] (· ++ options))
    .empty

------------------------------------------------------------
-- Expansions
------------------------------------------------------------

/-
  The services that deliver a value, ascending, each with
  its devices in listing order and its ascending paths.
-/
structure Expansion where
  serviceIds : List String := []
  serviceToDevices : Dict (List String) := .empty
  serviceToPaths : Dict (List String) := .empty
  serviceToCharacterizedPaths : Dict (List CharacterizedPath) := .empty
  deriving DecidableEq, Repr, Inhabited

namespace Expansion

/-
  Each device with each usable option of its type: one that
  has a path.
-/
def listings
    (devices : List Device)
    (options : Dict (List PathOptions)) : List (String × PathOptions) :=
  devices.flatMap fun d =>
    ((options.getD d.deviceTypeId []).filter fun o => !o.paths.isEmpty).map
      fun o => (d.id, o)

/- Note the characteristic of each path of an option. -/
def noteCharacteristics
    (known : Dict String)
    (o : PathOptions) : Dict String :=
  o.paths.foldl (fun d p => d.insert p (o.characteristics.getD p "")) known

/-
  What has been collected from the listings up to some point.
  The services and their paths are in the order in which they
  have been met.
-/
structure Collected where
  serviceIds : List String := []
  devices : Dict (List String) := .empty
  paths : Dict (List String) := .empty
  characteristics : Dict (Dict String) := .empty

/- Take one listing in. A service that has paths already has been met before. -/
def Collected.take
    (c : Collected)
    (l : String × PathOptions) : Collected :=
  let serviceId := l.2.serviceId
  { serviceIds :=
      if c.paths.contains serviceId then c.serviceIds
      else c.serviceIds ++ [serviceId]
    devices := c.devices.update serviceId [] (appendNew · l.1)
    paths := c.paths.update serviceId [] (l.2.paths.foldl appendNew ·)
    characteristics :=
      c.characteristics.update serviceId .empty (noteCharacteristics · l.2) }

/- What all listings contain. -/
def collect
    (listed : List (String × PathOptions)) : Collected :=
  listed.foldl Collected.take {}

/- Texts in ascending order. -/
def sortTexts
    (texts : List String) : List String :=
  texts.mergeSort (· ≤ ·)

/- The expansion of devices by the path options of their types. -/
def ofOptions
    (devices : List Device)
    (options : Dict (List PathOptions)) : Expansion :=
  let c := collect (listings devices options)
  { serviceIds := sortTexts c.serviceIds
    serviceToDevices := c.devices
    serviceToPaths := c.paths.map sortTexts
    serviceToCharacterizedPaths :=
      c.characteristics.map fun d => d.entries.map fun e => ⟨e.1, e.2⟩ }

end Expansion

end ProcessEvents
