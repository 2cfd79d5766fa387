import ProcessEvents.Proofs.Conditional.Describing
import ProcessEvents.Proofs.Device
import ProcessEvents.Proofs.Dict

/-
  This file proves that message events and conditional events
  on the same devices are put on the same services of them.
  The ones go by the path options of a device type, and are
  collected by service; the others go by the services that
  are listed for it, and are collected by device.

  Key theorems include:
    * `mem_getD_pathOptions`
    * `Expansion.mem_serviceToDevices_iff`
    * `Describer.onDevices_of_selectables`
    * `Describer.onDevices_covers_expansion`
-/

namespace ProcessEvents

variable {σ : Type}

------------------------------------------------------------
-- The options of device types
------------------------------------------------------------

theorem PathOptions.exists_path_iff
    {serviceId : String} {options : List ServicePathOption} :
    (ofListed serviceId options).paths.isEmpty = false ↔
      ∃ o ∈ options, o.serviceId = serviceId := by
  simp [ofListed]

theorem PathOptions.mem_ofDeviceType
    {selectables : List DeviceTypeSelectable} {deviceTypeId : String}
    {o : PathOptions} :
    o ∈ ofDeviceType selectables deviceTypeId ↔
      ∃ s ∈ selectables, s.deviceTypeId = deviceTypeId ∧
        ∃ serviceId options,
          s.servicePathOptions.get? serviceId = some options ∧
          o = ofListed serviceId options := by
  unfold ofDeviceType
  simp only [List.mem_flatMap, List.mem_filter, decide_eq_true_eq, List.mem_map,
    Prod.exists, Dict.mem_entries_iff, and_assoc, eq_comm (a := o)]

/- The usable options of a device type are those of the services on offer. -/
theorem PathOptions.exists_usable_iff
    {selectables : List DeviceTypeSelectable}
    {deviceTypeId serviceId : String} :
    (∃ o ∈ ofDeviceType selectables deviceTypeId,
        o.paths.isEmpty = false ∧ o.serviceId = serviceId) ↔
      OffersOn selectables deviceTypeId serviceId := by
  constructor
  · rintro ⟨o, hMem, hPath, rfl⟩
    rcases mem_ofDeviceType.mp hMem with
      ⟨s, hSelectable, hType, id, options, hOptions, rfl⟩
    exact ⟨s, hSelectable, hType, options, hOptions, exists_path_iff.mp hPath⟩
  · rintro ⟨s, hSelectable, hType, options, hOptions, hOwn⟩
    exact ⟨ofListed serviceId options,
      mem_ofDeviceType.mpr
        ⟨s, hSelectable, hType, serviceId, options, hOptions, rfl⟩,
      exists_path_iff.mpr hOwn, rfl⟩

/-
  The fold over the ids of device types adds to what it
  starts from the options of each of them.
-/
private theorem mem_getD_foldl_options
    (selectables : List DeviceTypeSelectable) (deviceTypeIds : List String)
    (result : Dict (List PathOptions)) (deviceTypeId : String)
    (o : PathOptions) :
    o ∈ (deviceTypeIds.foldl
        (fun result id =>
          let options := PathOptions.ofDeviceType selectables id
          if options.isEmpty then result
          else result.update id [] (· ++ options))
        result).getD deviceTypeId [] ↔
      o ∈ result.getD deviceTypeId [] ∨
        (deviceTypeId ∈ deviceTypeIds ∧
          o ∈ PathOptions.ofDeviceType selectables deviceTypeId) := by
  induction deviceTypeIds generalizing result with
  | nil => simp
  | cons id rest ih =>
      rw [List.foldl_cons, ih]
      by_cases hEmpty : (PathOptions.ofDeviceType selectables id).isEmpty = true
      · rw [if_pos hEmpty]
        rw [List.isEmpty_iff] at hEmpty
        grind
      · rw [if_neg hEmpty, Dict.getD_update]
        grind

/- The options of a device type that has been asked for. -/
theorem mem_getD_pathOptions
    {deviceTypeIds : List String} {selectables : List DeviceTypeSelectable}
    {deviceTypeId : String} {o : PathOptions} :
    o ∈ (pathOptions deviceTypeIds selectables).getD deviceTypeId [] ↔
      deviceTypeId ∈ deviceTypeIds ∧
        o ∈ PathOptions.ofDeviceType selectables deviceTypeId := by
  rw [pathOptions, mem_getD_foldl_options]
  simp [Dict.getD]

------------------------------------------------------------
-- The devices of a service
------------------------------------------------------------

namespace Expansion

theorem mem_listings
    {devices : List Device} {options : Dict (List PathOptions)}
    {l : String × PathOptions} :
    l ∈ listings devices options ↔
      ∃ device ∈ devices, device.id = l.1 ∧
        l.2 ∈ options.getD device.deviceTypeId [] ∧
          l.2.paths.isEmpty = false := by
  unfold listings
  simp only [List.mem_flatMap, List.mem_map, List.mem_filter, Bool.not_eq_true']
  constructor
  · rintro ⟨device, hDevice, o, ⟨hOption, hPath⟩, rfl⟩
    exact ⟨device, hDevice, rfl, hOption, hPath⟩
  · rintro ⟨device, hDevice, hId, hOption, hPath⟩
    exact ⟨device, hDevice, l.2, ⟨hOption, hPath⟩, Prod.ext hId rfl⟩

private theorem mem_getD_foldl_devices
    (listed : List (String × PathOptions)) (result : Dict (List String))
    (deviceId serviceId : String) :
    deviceId ∈ (listed.foldl
        (fun result l => result.update l.2.serviceId [] (appendNew · l.1))
        result).getD serviceId [] ↔
      deviceId ∈ result.getD serviceId [] ∨
        ∃ l ∈ listed, l.1 = deviceId ∧ l.2.serviceId = serviceId := by
  induction listed generalizing result with
  | nil => simp
  | cons l rest ih =>
      rw [List.foldl_cons, ih, Dict.getD_update]
      by_cases hService : serviceId = l.2.serviceId
      · rw [if_pos hService, mem_appendNew, ← hService]
        simp only [List.exists_mem_cons_iff, ← hService,
          and_true, eq_comm, or_assoc]
      · rw [if_neg hService]
        simp only [List.exists_mem_cons_iff, Ne.symm hService,
          and_false, false_or]

/- The devices are collected by themselves. -/
theorem devices_collect
    (listed : List (String × PathOptions)) :
    (collect listed).devices =
      listed.foldl (fun result l =>
        result.update l.2.serviceId [] (appendNew · l.1)) .empty :=
  (List.foldl_hom Collected.devices fun _ _ => rfl).symm

/- A service is given the devices that it is listed with. -/
theorem mem_getD_devices_collect
    {listed : List (String × PathOptions)} {deviceId serviceId : String} :
    deviceId ∈ (collect listed).devices.getD serviceId [] ↔
      ∃ l ∈ listed, l.1 = deviceId ∧ l.2.serviceId = serviceId := by
  rw [devices_collect, mem_getD_foldl_devices]
  simp [Dict.getD]

/- The devices of a service are those whose type offers it. -/
theorem mem_serviceToDevices_iff
    {devices : List Device} {selectables : List DeviceTypeSelectable}
    {deviceTypeIds : List String} {deviceId serviceId : String}
    (hTypes : ∀ device ∈ devices, device.deviceTypeId ∈ deviceTypeIds) :
    deviceId ∈ (ofOptions devices
        (pathOptions deviceTypeIds selectables)).serviceToDevices.getD
          serviceId [] ↔
      ∃ device ∈ devices, device.id = deviceId ∧
        OffersOn selectables device.deviceTypeId serviceId := by
  rw [ofOptions, mem_getD_devices_collect]
  constructor
  · rintro ⟨l, hListed, hId, hService⟩
    rcases mem_listings.mp hListed with ⟨device, hDevice, hSame, hOption, hPath⟩
    have hUsable := (mem_getD_pathOptions.mp hOption).2
    exact ⟨device, hDevice, hSame.trans hId,
      PathOptions.exists_usable_iff.mp ⟨l.2, hUsable, hPath, hService⟩⟩
  · rintro ⟨device, hDevice, hId, hOffers⟩
    rcases PathOptions.exists_usable_iff.mpr hOffers with
      ⟨o, hUsable, hPath, hService⟩
    have hOption := mem_getD_pathOptions.mpr ⟨hTypes device hDevice, hUsable⟩
    exact ⟨(deviceId, o),
      mem_listings.mpr ⟨device, hDevice, hId, hOption, hPath⟩, rfl, hService⟩

end Expansion

------------------------------------------------------------
-- The descriptions of devices
------------------------------------------------------------

namespace Describer

/- A type that is known is not looked up. -/
theorem deviceType_of_known
    {r : Describer σ} {known : Dict String} {deviceId typeId : String} (s : σ)
    (hKnown : nonEmpty? (known.get? deviceId) = some typeId) :
    r.deviceType known deviceId s = (.ok (some typeId, known), s) := by
  rw [deviceType, hKnown]
  rfl

/- Without a lookup for any device, all go by the types that are known. -/
theorem fanOut_of_known
    {r : Describer σ} {d : EventDescription}
    {selectables : List DeviceTypeSelectable}
    {known : Dict String} {devices : List Device} (s : σ)
    (hKnown : ∀ device ∈ devices,
      nonEmpty? (known.get? device.id) = some device.deviceTypeId) :
    r.fanOut d selectables known devices s =
      (.ok (devices.flatMap fun device =>
        (servicesOf selectables device.deviceTypeId).map
          (d.onDevice device.id)), s) := by
  induction devices with
  | nil => rfl
  | cons device rest ih =>
      rcases List.forall_mem_cons.mp hKnown with ⟨hFirst, hRest⟩
      rw [fanOut, Action.bind_of_ok (deviceType_of_known s hFirst)]
      exact Action.bind_of_ok (ih hRest)

/- Devices that are listed once each are known by their listed type. -/
theorem nonEmpty?_listedTypes
    {devices : List Device} {device : Device}
    (hIds : (devices.map (·.id)).Nodup)
    (hDevice : device ∈ devices)
    (hType : device.deviceTypeId ≠ "") :
    nonEmpty? ((listedTypes devices).get? device.id) =
      some device.deviceTypeId := by
  have hListed :
      (listedTypes devices).get? device.id = some device.deviceTypeId := by
    apply Dict.get?_ofList_of_nodup
    · rw [List.map_map]
      exact hIds
    · exact List.mem_map_of_mem hDevice
  rw [hListed]
  simp [nonEmpty?, hType]

/-
  With one type for each device, the descriptions are those
  of each device with each service of its type.
-/
theorem onDevices_of_selectables
    {r : Describer σ} {d : EventDescription} {devices : List Device}
    {selectables : List DeviceTypeSelectable} {s s' : σ}
    (hAnswer : r.devices.selectables [.measuring d.functionId d.aspectId] s =
      (.ok selectables, s'))
    (hIds : (devices.map (·.id)).Nodup)
    (hTypes : ∀ device ∈ devices, device.deviceTypeId ≠ "") :
    r.onDevices d devices s =
      (.ok (devices.flatMap fun device =>
        (servicesOf selectables device.deviceTypeId).map
          (d.onDevice device.id)), s') := by
  rw [onDevices, Action.bind_of_ok (tolerated_of_ok hAnswer)]
  exact fanOut_of_known s' fun device hDevice =>
    nonEmpty?_listedTypes hIds hDevice (hTypes device hDevice)

/- The services listed for a type are those that it offers. -/
theorem exists_service_iff
    {selectables : List DeviceTypeSelectable} {deviceTypeId serviceId : String}
    (hConsistent : ∀ selectable ∈ selectables, selectable.IsConsistent) :
    (∃ service ∈ servicesOf selectables deviceTypeId, service.id = serviceId) ↔
      OffersOn selectables deviceTypeId serviceId := by
  unfold servicesOf OffersOn
  simp only [List.mem_flatMap, List.mem_filter, decide_eq_true_eq]
  constructor
  · rintro ⟨service, ⟨s, ⟨hMem, hType⟩, hService⟩, hId⟩
    exact ⟨s, hMem, hType,
      (hConsistent s hMem serviceId).mp ⟨service, hService, hId⟩⟩
  · rintro ⟨s, hMem, hType, hOffers⟩
    rcases (hConsistent s hMem serviceId).mpr hOffers with
      ⟨service, hService, hId⟩
    exact ⟨service, ⟨s, ⟨hMem, hType⟩, hService⟩, hId⟩

/-
  A device and a service are described together exactly if
  the expansion has the device for the service.
-/
theorem exists_description_iff
    (d : EventDescription) (devices : List Device)
    {selectables : List DeviceTypeSelectable} {deviceId serviceId : String}
    (hConsistent : ∀ selectable ∈ selectables, selectable.IsConsistent) :
    (∃ x ∈ devices.flatMap fun device =>
          (servicesOf selectables device.deviceTypeId).map
            (d.onDevice device.id),
        x.deviceId = deviceId ∧ x.serviceId = serviceId) ↔
      deviceId ∈ (Expansion.ofOptions devices
        (pathOptions (DeviceInfos.ofDevices devices).deviceTypeIds
          selectables)).serviceToDevices.getD serviceId [] := by
  have hTypes : ∀ device ∈ devices,
      device.deviceTypeId ∈ (DeviceInfos.ofDevices devices).deviceTypeIds :=
    fun device hDevice =>
      DeviceInfos.mem_deviceTypeIds.mpr ⟨device, hDevice, rfl⟩
  rw [Expansion.mem_serviceToDevices_iff hTypes]
  simp only [← exists_service_iff hConsistent, List.mem_flatMap, List.mem_map]
  constructor
  · rintro ⟨x, ⟨device, hDevice, service, hService, rfl⟩, hDeviceId, hServiceId⟩
    exact ⟨device, hDevice, hDeviceId, service, hService, hServiceId⟩
  · rintro ⟨device, hDevice, hDeviceId, service, hService, hServiceId⟩
    exact ⟨d.onDevice device.id service,
      ⟨device, hDevice, service, hService, rfl⟩,
      hDeviceId, hServiceId⟩

/-
  Conditional events on devices are described for the same
  devices and services as message events are deployed for.
-/
theorem onDevices_covers_expansion
    (r : Describer σ) (d : EventDescription) (devices : List Device)
    (selectables : List DeviceTypeSelectable) (s s' : σ)
    (hAnswer : r.devices.selectables [.measuring d.functionId d.aspectId] s =
      (.ok selectables, s'))
    (hConsistent : ∀ selectable ∈ selectables, selectable.IsConsistent)
    (hIds : (devices.map (·.id)).Nodup)
    (hTypes : ∀ device ∈ devices, device.deviceTypeId ≠ "") :
    ∃ descriptions,
      r.onDevices d devices s = (.ok descriptions, s') ∧
      ∀ deviceId serviceId,
        (∃ x ∈ descriptions, x.deviceId = deviceId ∧ x.serviceId = serviceId) ↔
          deviceId ∈ (Expansion.ofOptions devices
            (pathOptions (DeviceInfos.ofDevices devices).deviceTypeIds
              selectables)).serviceToDevices.getD serviceId [] :=
  ⟨_, onDevices_of_selectables hAnswer hIds hTypes,
    fun _ _ => exists_description_iff d devices hConsistent⟩

/- A device type with one service, which has one path. -/
def offering
    (deviceTypeId serviceId : String) : DeviceTypeSelectable :=
  { deviceTypeId
    services := [{ id := serviceId }]
    servicePathOptions :=
      .ofList [(serviceId, [{ serviceId, path := "value" }])] }

theorem offering_isConsistent
    (deviceTypeId serviceId : String) :
    (offering deviceTypeId serviceId).IsConsistent := by
  intro id
  simp only [offering, DeviceTypeSelectable.Offers, Dict.ofList,
    List.foldl_cons, List.foldl_nil, Dict.get?_insert, Dict.get?_empty,
    List.mem_singleton, exists_eq_left]
  by_cases hId : id = serviceId
  · simp [hId]
  · simp [hId, Ne.symm hId]

/-
  Of a group with one device without a fitting service and
  two devices with one.
-/
theorem onDevices_covers_expansion_of_group :
    let r : Describer Unit :=
      { devices := .unchanging {} [offering "t1" "s1"]
        imports := .unchanging }
    let devices : List Device :=
      [{ id := "d1", deviceTypeId := "t1" },
       { id := "d2", deviceTypeId := "t2" },
       { id := "d3", deviceTypeId := "t1" }]
    ∃ descriptions,
      r.onDevices {} devices () = (.ok descriptions, ()) ∧
      ∀ deviceId serviceId,
        (∃ x ∈ descriptions, x.deviceId = deviceId ∧ x.serviceId = serviceId) ↔
          deviceId ∈ (Expansion.ofOptions devices
            (pathOptions (DeviceInfos.ofDevices devices).deviceTypeIds
              [offering "t1" "s1"])).serviceToDevices.getD serviceId [] := by
  refine onDevices_covers_expansion _ {} _ [offering "t1" "s1"]
    () () rfl ?_ ?_ ?_
  · simp [offering_isConsistent]
  · decide
  · decide

end Describer

end ProcessEvents
