import Mathlib.Data.List.Forall2
import ProcessEvents.Proofs.Expansion.Services

/-
  This file proves that an expansion does not depend on the
  order of what it is made of: of the answers about device
  types, of the services within an answer and of the options
  within a service. Another order of the devices leaves all of
  it but the order of the devices of a service.

  Key definitions include:
    * `IteratedSelectable`
    * `iteratedPathOptions`
    * `ListsPath`, `IsUnambiguous`
    * `IsRearranged`
    * `Expansion.IsReordered`

  Key theorems include:
    * `iteratedPathOptions_eq`
    * `Expansion.ofSelectables_isReordered`
    * `Expansion.ofIterated_rearranged`
-/

namespace ProcessEvents

------------------------------------------------------------
-- Maps that are iterated
------------------------------------------------------------

/-
  An answer about a device type, and the order in which its
  services come out of their map.
-/
structure IteratedSelectable where
  selectable : DeviceTypeSelectable
  serviceIds : List String

namespace IteratedSelectable

/- The options of one service that has come out of the map. -/
def optionsOf
    (i : IteratedSelectable)
    (serviceId : String) : PathOptions :=
  .ofListed serviceId (i.selectable.servicePathOptions.getD serviceId [])

/- Push the options of all services, which are sorted first. -/
def pushOptions
    (i : IteratedSelectable)
    (result : Dict (List PathOptions)) : Dict (List PathOptions) :=
  (Expansion.sortTexts i.serviceIds).foldl
    (fun result serviceId =>
      result.update i.selectable.deviceTypeId [] (· ++ [i.optionsOf serviceId]))
    result

/- The order is one in which the services can come out of the map. -/
def IsIteration
    (i : IteratedSelectable) : Prop :=
  i.serviceIds.Perm i.selectable.servicePathOptions.keys

end IteratedSelectable

/-
  Path options of each device type, pushed one by one while
  the maps of services are iterated.
-/
def iteratedPathOptions
    (deviceTypeIds : List String)
    (iterated : List IteratedSelectable) : Dict (List PathOptions) :=
  deviceTypeIds.foldl
    (fun result id =>
      (iterated.filter fun i => i.selectable.deviceTypeId = id).foldl
        (fun result i => i.pushOptions result) result)
    .empty

/- Append options to those of a device type, if there are any. -/
def addOptions
    (deviceTypeId : String)
    (result : Dict (List PathOptions))
    (options : List PathOptions) : Dict (List PathOptions) :=
  if options.isEmpty then result
  else result.update deviceTypeId [] (· ++ options)

section

variable {result : Dict (List PathOptions)} {deviceTypeId : String}

theorem addOptions_append
    (options more : List PathOptions) :
    addOptions deviceTypeId (addOptions deviceTypeId result options) more =
      addOptions deviceTypeId result (options ++ more) := by
  cases options with
  | nil => rfl
  | cons o options =>
      cases more with
      | nil =>
          rw [List.append_nil]
          rfl
      | cons m more =>
          apply Dict.ext_get?
          intro id
          simp only [addOptions, List.isEmpty_cons, List.cons_append,
            Bool.false_eq_true, if_false, Dict.update, Dict.get?_insert,
            Dict.getD, if_true, Option.getD_some, List.append_assoc]
          by_cases hId : id = deviceTypeId
          · rw [if_pos hId, if_pos hId]
          · rw [if_neg hId, if_neg hId, if_neg hId]

/- Options that are added part by part are added at once. -/
theorem foldl_addOptions
    {α : Type} (parts : α → List PathOptions) (xs : List α) :
    xs.foldl (fun result x => addOptions deviceTypeId result (parts x)) result =
      addOptions deviceTypeId result (xs.flatMap parts) := by
  induction xs generalizing result with
  | nil => rfl
  | cons x xs ih =>
      rw [List.foldl_cons, ih, addOptions_append, List.flatMap_cons]

end

/- Once they are sorted, it is no longer seen how the services came out. -/
theorem IteratedSelectable.pushOptions_eq
    {i : IteratedSelectable}
    (hIteration : i.IsIteration)
    (result : Dict (List PathOptions)) :
    i.pushOptions result =
      addOptions i.selectable.deviceTypeId result
        (i.selectable.servicePathOptions.entries.map fun e =>
          .ofListed e.1 e.2) := by
  have hKeys :
      Expansion.sortTexts i.serviceIds =
        i.selectable.servicePathOptions.keys := by
    have hDistinct : i.serviceIds.Nodup :=
      hIteration.nodup_iff.mpr (Dict.nodup_keys _)
    apply (Expansion.isAscending_sortTexts hDistinct).eq_of_mem_iff
      (Expansion.isAscending_keys _)
    intro serviceId
    rw [Expansion.mem_sortTexts, hIteration.mem_iff]
  have hOptions :
      i.selectable.servicePathOptions.keys.flatMap
        (fun id => [i.optionsOf id]) =
        i.selectable.servicePathOptions.entries.map fun e =>
          .ofListed e.1 e.2 := by
    rw [← List.map_eq_flatMap, Dict.keys, List.map_map]
    apply List.map_congr_left
    rintro ⟨serviceId, options⟩ hEntry
    rw [Function.comp_apply, optionsOf, Dict.getD,
      (Dict.mem_entries_iff _ _ _).mp hEntry]
    rfl
  rw [pushOptions, hKeys, ← hOptions, ← foldl_addOptions]
  rfl

/- However the maps are iterated, the path options are the same. -/
theorem iteratedPathOptions_eq
    {iterated : List IteratedSelectable}
    (deviceTypeIds : List String)
    (hIterations : ∀ i ∈ iterated, i.IsIteration) :
    iteratedPathOptions deviceTypeIds iterated =
      pathOptions deviceTypeIds (iterated.map (·.selectable)) := by
  unfold iteratedPathOptions pathOptions
  congr
  funext result id
  rw [PathOptions.ofDeviceType, List.filter_map, List.flatMap_map]
  change _ = addOptions id result _
  rw [← foldl_addOptions]
  apply List.foldl_ext
  intro result i hMem
  rcases List.mem_filter.mp hMem with ⟨hIterated, hType⟩
  rw [i.pushOptions_eq (hIterations i hIterated), of_decide_eq_true hType]

------------------------------------------------------------
-- Paths that are listed
------------------------------------------------------------

/- The path of an option with its characteristic. -/
def ServicePathOption.characterized
    (o : ServicePathOption) : CharacterizedPath :=
  ⟨o.path, o.characteristicId⟩

/- An option that names its own service lists the path for it. -/
def DeviceTypeSelectable.Lists
    (s : DeviceTypeSelectable)
    (serviceId : String)
    (c : CharacterizedPath) : Prop :=
  ∃ e ∈ s.servicePathOptions.entries, e.1 = serviceId ∧
    ∃ o ∈ e.2, o.serviceId = serviceId ∧ o.characterized = c

/- Some answer about the device type lists the path for the service. -/
def ListsPath
    (selectables : List DeviceTypeSelectable)
    (deviceTypeId serviceId : String)
    (c : CharacterizedPath) : Prop :=
  ∃ s ∈ selectables, s.deviceTypeId = deviceTypeId ∧ s.Lists serviceId c

/- No path of a service is listed with two characteristics. -/
def IsUnambiguous
    (selectables : List DeviceTypeSelectable) : Prop :=
  ∀ deviceTypeId deviceTypeId' serviceId c c',
    ListsPath selectables deviceTypeId serviceId c →
      ListsPath selectables deviceTypeId' serviceId c' →
        c.path = c'.path → c = c'

/- All paths that are listed, with their services. -/
def listedPaths
    (selectables : List DeviceTypeSelectable) :
      List (String × CharacterizedPath) :=
  selectables.flatMap fun s => s.servicePathOptions.entries.flatMap fun e =>
    (e.2.filter fun o => o.serviceId = e.1).map fun o => (e.1, o.characterized)

theorem mem_listedPaths
    {selectables : List DeviceTypeSelectable} {serviceId : String}
    {c : CharacterizedPath} :
    (serviceId, c) ∈ listedPaths selectables ↔
      ∃ deviceTypeId, ListsPath selectables deviceTypeId serviceId c := by
  simp only [listedPaths, List.mem_flatMap, List.mem_map, List.mem_filter,
    decide_eq_true_eq, Prod.mk.injEq]
  constructor
  · rintro ⟨s, hSelectable, e, hEntry, o, ⟨hOption, hOwn⟩, rfl, rfl⟩
    exact ⟨_, s, hSelectable, rfl, e, hEntry, rfl, o, hOption, hOwn, rfl⟩
  · rintro ⟨_, s, hSelectable, -, e, hEntry, rfl, o, hOption, hOwn, rfl⟩
    exact ⟨s, hSelectable, e, hEntry, o, ⟨hOption, hOwn⟩, rfl, rfl⟩

theorem isUnambiguous_iff
    {selectables : List DeviceTypeSelectable} :
    IsUnambiguous selectables ↔
      ∀ x ∈ listedPaths selectables, ∀ y ∈ listedPaths selectables,
        x.1 = y.1 → x.2.path = y.2.path → x.2 = y.2 := by
  constructor
  · rintro hUnambiguous ⟨serviceId, c⟩ hLeft ⟨_, c'⟩ hRight rfl hPath
    rcases mem_listedPaths.mp hLeft with ⟨_, hLists⟩
    rcases mem_listedPaths.mp hRight with ⟨_, hLists'⟩
    exact hUnambiguous _ _ _ _ _ hLists hLists' hPath
  · intro hAll _ _ serviceId c c' hLists hLists' hPath
    exact hAll (serviceId, c) (mem_listedPaths.mpr ⟨_, hLists⟩) (serviceId, c')
      (mem_listedPaths.mpr ⟨_, hLists'⟩) rfl hPath

instance (selectables : List DeviceTypeSelectable) :
    Decidable (IsUnambiguous selectables) :=
  decidable_of_iff _ isUnambiguous_iff.symm

theorem PathOptions.mem_paths_ofListed
    {serviceId path : String} {listed : List ServicePathOption} :
    path ∈ (ofListed serviceId listed).paths ↔
      ∃ o ∈ listed, o.serviceId = serviceId ∧ o.path = path := by
  simp [ofListed, and_assoc]

/- The characteristic of a path comes from an option that lists it. -/
theorem PathOptions.exists_characterized
    {serviceId path : String} {listed : List ServicePathOption}
    (hPath : path ∈ (ofListed serviceId listed).paths) :
    ∃ o ∈ listed, o.serviceId = serviceId ∧
      o.characterized =
        ⟨path, (ofListed serviceId listed).characteristics.getD path ""⟩ := by
  rcases mem_paths_ofListed.mp hPath with ⟨given, hGiven, hOwn, rfl⟩
  have hFound :
      (((listed.filter fun o => o.serviceId = serviceId).map fun o =>
        (o.path, o.characteristicId)).reverse.find? fun e =>
          e.1 == given.path).isSome = true := by
    rw [List.find?_isSome]
    refine ⟨(given.path, given.characteristicId), ?_, beq_self_eq_true _⟩
    exact List.mem_reverse.mpr (List.mem_map.mpr
      ⟨given, List.mem_filter.mpr ⟨hGiven, decide_eq_true hOwn⟩, rfl⟩)
  rcases Option.isSome_iff_exists.mp hFound with ⟨e, hFind⟩
  rcases List.mem_map.mp
    (List.mem_reverse.mp (List.mem_of_find?_eq_some hFind)) with
    ⟨o, hFiltered, rfl⟩
  rcases List.mem_filter.mp hFiltered with ⟨hMem, hSame⟩
  have hPath : o.path = given.path := by
    simpa using List.find?_some hFind
  refine ⟨o, hMem, of_decide_eq_true hSame, ?_⟩
  rw [ofListed, Dict.getD, Dict.get?_ofList, hFind,
    ServicePathOption.characterized, hPath]
  rfl

------------------------------------------------------------
-- Answers in another order
------------------------------------------------------------

/-
  An answer lists the same options for the same services, in
  whatever order, and is iterated in whatever order.
-/
structure IteratedSelectable.IsOrderOf
    (i : IteratedSelectable)
    (s : DeviceTypeSelectable) : Prop where
  deviceTypeId : i.selectable.deviceTypeId = s.deviceTypeId
  iterated : i.IsIteration
  options :
    List.Forall₂ (fun e e' => e.1 = e'.1 ∧ e.2.Perm e'.2)
      i.selectable.servicePathOptions.entries s.servicePathOptions.entries

/- The same answers, in whatever order. -/
def IsRearranged
    (iterated : List IteratedSelectable)
    (selectables : List DeviceTypeSelectable) : Prop :=
  ∃ order : List DeviceTypeSelectable,
    order.Perm selectables ∧
      List.Forall₂ IteratedSelectable.IsOrderOf iterated order

/- What is among related elements on the one side is among them on the other. -/
theorem exists_mem_iff_of_forall₂
    {α β : Type} {r : α → β → Prop} {p : α → Prop} {q : β → Prop} {xs : List α}
    {ys : List β}
    (hRelated : List.Forall₂ r xs ys)
    (hSame : ∀ x y, r x y → (p x ↔ q y)) :
    (∃ x ∈ xs, p x) ↔ ∃ y ∈ ys, q y := by
  induction hRelated with
  | nil => simp
  | cons hHead _ ih => simp only [List.exists_mem_cons_iff, hSame _ _ hHead, ih]

theorem IteratedSelectable.IsOrderOf.lists_iff
    {i : IteratedSelectable} {s : DeviceTypeSelectable} {serviceId : String}
    {c : CharacterizedPath}
    (hOrder : i.IsOrderOf s) :
    i.selectable.Lists serviceId c ↔ s.Lists serviceId c := by
  apply exists_mem_iff_of_forall₂ hOrder.options
  rintro e e' ⟨hKey, hOptions⟩
  simp only [hKey, hOptions.mem_iff]

section

variable {iterated : List IteratedSelectable}
  {selectables : List DeviceTypeSelectable}

theorem IsRearranged.isIteration
    (hRearranged : IsRearranged iterated selectables) :
    ∀ i ∈ iterated, i.IsIteration := by
  rcases hRearranged with ⟨order, -, hOrders⟩
  induction hOrders with
  | nil => exact fun _ hMem => absurd hMem List.not_mem_nil
  | cons hHead _ ih => exact List.forall_mem_cons.mpr ⟨hHead.iterated, ih⟩

/- Answers in another order list the same paths. -/
theorem IsRearranged.listsPath_iff
    {deviceTypeId serviceId : String} {c : CharacterizedPath}
    (hRearranged : IsRearranged iterated selectables) :
    ListsPath (iterated.map (·.selectable)) deviceTypeId serviceId c ↔
      ListsPath selectables deviceTypeId serviceId c := by
  rcases hRearranged with ⟨order, hPerm, hOrders⟩
  have hOrder :
      (∃ i ∈ iterated, i.selectable.deviceTypeId = deviceTypeId ∧
        i.selectable.Lists serviceId c) ↔
        ∃ s ∈ order, s.deviceTypeId = deviceTypeId ∧ s.Lists serviceId c := by
    apply exists_mem_iff_of_forall₂ hOrders
    intro i s hOrder
    rw [hOrder.deviceTypeId, hOrder.lists_iff]
  unfold ListsPath
  simp only [List.mem_map, exists_exists_and_eq_and, ← hPerm.mem_iff]
  exact hOrder

end

------------------------------------------------------------
-- Expansions by what is listed
------------------------------------------------------------

namespace Expansion

/- The expansion of devices by the answers about their types. -/
def ofSelectables
    (devices : List Device)
    (selectables : List DeviceTypeSelectable) : Expansion :=
  ofOptions devices
    (pathOptions (DeviceInfos.ofDevices devices).deviceTypeIds selectables)

variable
  {devices devices' : List Device}
  {selectables selectables' : List DeviceTypeSelectable}
  {serviceId : String}

/- The options of a device are those that the answers about its type list. -/
theorem mem_optionsFor
    {d : Device} {o : PathOptions}
    (hDevice : d ∈ devices) :
    o ∈ d.optionsFor
        (pathOptions (DeviceInfos.ofDevices devices).deviceTypeIds selectables)
        serviceId ↔
      ∃ s ∈ selectables, s.deviceTypeId = d.deviceTypeId ∧
        ∃ listed, s.servicePathOptions.get? serviceId = some listed ∧
          o = .ofListed serviceId listed := by
  have hType : d.deviceTypeId ∈ (DeviceInfos.ofDevices devices).deviceTypeIds :=
    DeviceInfos.mem_deviceTypeIds.mpr ⟨d, hDevice, rfl⟩
  rw [Device.optionsFor, List.mem_filter, mem_getD_pathOptions,
    and_iff_right hType, PathOptions.mem_ofDeviceType, decide_eq_true_eq]
  constructor
  · rintro ⟨⟨s, hSelectable, hSame, id, listed, hListed, rfl⟩, rfl⟩
    exact ⟨s, hSelectable, hSame, listed, hListed, rfl⟩
  · rintro ⟨s, hSelectable, hSame, listed, hListed, rfl⟩
    exact ⟨⟨s, hSelectable, hSame, serviceId, listed, hListed, rfl⟩, rfl⟩

theorem exists_option_iff
    {d : Device} {path : String}
    (hDevice : d ∈ devices) :
    (∃ o ∈ d.optionsFor
        (pathOptions (DeviceInfos.ofDevices devices).deviceTypeIds selectables)
        serviceId,
        path ∈ o.paths) ↔
      ∃ c, ListsPath selectables d.deviceTypeId serviceId c ∧
        c.path = path := by
  constructor
  · rintro ⟨o, hOption, hPath⟩
    rcases (mem_optionsFor hDevice).mp hOption with
      ⟨s, hSelectable, hType, listed, hListed, rfl⟩
    rcases PathOptions.mem_paths_ofListed.mp hPath with
      ⟨given, hGiven, hOwn, hSame⟩
    have hEntry := (Dict.mem_entries_iff _ _ _).mpr hListed
    exact ⟨given.characterized,
      ⟨s, hSelectable, hType, (serviceId, listed),
        hEntry, rfl, given, hGiven, hOwn, rfl⟩, hSame⟩
  · rintro ⟨_, ⟨s, hSelectable, hType, ⟨_, listed⟩,
      hEntry, rfl, given, hGiven, hOwn, rfl⟩, hSame⟩
    have hListed := (Dict.mem_entries_iff _ _ _).mp hEntry
    exact ⟨.ofListed _ listed,
      (mem_optionsFor hDevice).mpr
        ⟨s, hSelectable, hType, listed, hListed, rfl⟩,
      PathOptions.mem_paths_ofListed.mpr ⟨given, hGiven, hOwn, hSame⟩⟩

/- A device delivers the services that paths are listed for. -/
theorem delivers_iff
    {d : Device}
    (hDevice : d ∈ devices) :
    d.Delivers
      (pathOptions (DeviceInfos.ofDevices devices).deviceTypeIds selectables)
        serviceId ↔
      ∃ c, ListsPath selectables d.deviceTypeId serviceId c := by
  constructor
  · rintro ⟨o, hOption, hSome⟩
    rcases List.exists_mem_of_ne_nil _ hSome with ⟨path, hPath⟩
    rcases (exists_option_iff hDevice).mp ⟨o, hOption, hPath⟩ with
      ⟨c, hLists, -⟩
    exact ⟨c, hLists⟩
  · rintro ⟨c, hLists⟩
    rcases (exists_option_iff hDevice).mpr ⟨c, hLists, rfl⟩ with
      ⟨o, hOption, hPath⟩
    exact ⟨o, hOption, List.ne_nil_of_mem hPath⟩

/- The paths of a service are those that are listed for it. -/
theorem mem_paths_iff
    {paths : List String} {path : String}
    (hPaths : (ofSelectables devices selectables).serviceToPaths.get?
      serviceId = some paths) :
    path ∈ paths ↔
      ∃ d ∈ devices, ∃ c, ListsPath selectables d.deviceTypeId serviceId c ∧
        c.path = path := by
  rw [(paths_of_get? hPaths).2.1]
  constructor
  · rintro ⟨o, hOption, hPath⟩
    rcases List.mem_flatMap.mp hOption with ⟨d, hDevice, hOwn⟩
    exact ⟨d, hDevice, (exists_option_iff hDevice).mp ⟨o, hOwn, hPath⟩⟩
  · rintro ⟨d, hDevice, hListed⟩
    rcases (exists_option_iff hDevice).mpr hListed with ⟨o, hOwn, hPath⟩
    exact ⟨o, List.mem_flatMap.mpr ⟨d, hDevice, hOwn⟩, hPath⟩

/- The last characteristic of a path is one that is listed. -/
theorem IsLastListed.exists_lists
    {c : CharacterizedPath}
    (hLast : IsLastListed
      (optionsOf devices
        (pathOptions (DeviceInfos.ofDevices devices).deviceTypeIds selectables)
        serviceId) c) :
    ∃ d ∈ devices, ListsPath selectables d.deviceTypeId serviceId c := by
  rcases hLast with ⟨before, o, after, hSplit, hPath, -, hGiven⟩
  have hOption : o ∈ optionsOf devices
      (pathOptions (DeviceInfos.ofDevices devices).deviceTypeIds selectables)
      serviceId := by
    rw [hSplit]
    exact List.mem_append_right _ List.mem_cons_self
  rcases List.mem_flatMap.mp hOption with ⟨d, hDevice, hOwn⟩
  rcases (mem_optionsFor hDevice).mp hOwn with
    ⟨s, hSelectable, hType, listed, hListed, rfl⟩
  rcases PathOptions.exists_characterized hPath with
    ⟨given, hMem, hSame, hCharacterized⟩
  rw [← hGiven] at hCharacterized
  exact ⟨d, hDevice, s, hSelectable, hType, (serviceId, listed),
    (Dict.mem_entries_iff _ _ _).mpr hListed,
    rfl, given, hMem, hSame, hCharacterized⟩

theorem nodup_eraseDups
    (texts : List String) :
    texts.eraseDups.Nodup := by
  rw [← firstSeen_eq_eraseDups]
  exact nodup_firstSeen texts

/- The devices of a service are those of whose type paths are listed. -/
theorem deviceIds_eq
    {ids : List String}
    (hIds : (ofSelectables devices selectables).serviceToDevices.get?
      serviceId = some ids) :
    ids.Nodup ∧
      ∀ id, id ∈ ids ↔
        ∃ d ∈ devices, d.id = id ∧ ∃ c,
          ListsPath selectables d.deviceTypeId serviceId c := by
  rw [(deviceIds_of_get? hIds).1]
  refine ⟨nodup_eraseDups _, fun id => ?_⟩
  rw [List.mem_eraseDups, List.mem_map]
  constructor
  · rintro ⟨d, hFiltered, rfl⟩
    rcases List.mem_filter.mp hFiltered with ⟨hDevice, hDelivers⟩
    exact ⟨d, hDevice, rfl,
      (delivers_iff hDevice).mp (of_decide_eq_true hDelivers)⟩
  · rintro ⟨d, hDevice, rfl, hListed⟩
    exact ⟨d, List.mem_filter.mpr
      ⟨hDevice, decide_eq_true ((delivers_iff hDevice).mpr hListed)⟩, rfl⟩

------------------------------------------------------------
-- Other orders
------------------------------------------------------------

/- All but the order of the devices of each service is the same. -/
structure IsReordered
    (x y : Expansion) : Prop where
  serviceIds : x.serviceIds = y.serviceIds
  serviceToPaths : x.serviceToPaths = y.serviceToPaths
  serviceToCharacterizedPaths :
    x.serviceToCharacterizedPaths = y.serviceToCharacterizedPaths
  keys : x.serviceToDevices.keys = y.serviceToDevices.keys
  deviceIds :
    ∀ serviceId ids ids', x.serviceToDevices.get? serviceId = some ids →
      y.serviceToDevices.get? serviceId = some ids' → ids.Perm ids'

/-
  An expansion is made of which devices there are, and which
  paths are listed.
-/
theorem ofSelectables_isReordered
    (hUnambiguous : IsUnambiguous selectables)
    (hDevices : ∀ d, d ∈ devices ↔ d ∈ devices')
    (hLists : ∀ deviceTypeId serviceId c,
      ListsPath selectables deviceTypeId serviceId c ↔
        ListsPath selectables' deviceTypeId serviceId c) :
    (ofSelectables devices selectables).IsReordered
      (ofSelectables devices' selectables') := by
  have hServices :
      (ofSelectables devices selectables).serviceIds =
        (ofSelectables devices' selectables').serviceIds := by
    apply ascending_serviceIds.eq_of_mem_iff ascending_serviceIds
    intro serviceId
    rw [mem_serviceIds_iff, mem_serviceIds_iff]
    constructor
    · rintro ⟨d, hDevice, hDelivers⟩
      rcases (delivers_iff hDevice).mp hDelivers with ⟨c, hListed⟩
      have hDevice' := (hDevices d).mp hDevice
      exact ⟨d, hDevice',
        (delivers_iff hDevice').mpr ⟨c, (hLists _ _ _).mp hListed⟩⟩
    · rintro ⟨d, hDevice, hDelivers⟩
      rcases (delivers_iff hDevice).mp hDelivers with ⟨c, hListed⟩
      have hDevice' := (hDevices d).mpr hDevice
      exact ⟨d, hDevice',
        (delivers_iff hDevice').mpr ⟨c, (hLists _ _ _).mpr hListed⟩⟩
  have hPaths :
      (ofSelectables devices selectables).serviceToPaths =
        (ofSelectables devices' selectables').serviceToPaths := by
    apply Dict.ext_of_keys
    · exact keys_ofOptions.2.1.trans (hServices.trans keys_ofOptions.2.1.symm)
    · intro serviceId paths paths' hLeft hRight
      apply (paths_of_get? hLeft).1.eq_of_mem_iff (paths_of_get? hRight).1
      intro path
      simp only [mem_paths_iff hLeft, mem_paths_iff hRight, hDevices, hLists]
  refine ⟨hServices, hPaths, ?_, ?_, ?_⟩
  · apply Dict.ext_of_keys
    · exact keys_ofOptions.2.2.trans (hServices.trans keys_ofOptions.2.2.symm)
    · intro serviceId paths paths' hLeft hRight
      rcases characterized_of_get? hLeft with ⟨hLeftPaths, hLeftListed⟩
      rcases characterized_of_get? hRight with ⟨hRightPaths, hRightListed⟩
      have hSame : paths.map (·.path) = paths'.map (·.path) := by
        have hBoth := hLeftPaths.symm.trans
          ((congrArg (Dict.get? · serviceId) hPaths).trans hRightPaths)
        exact Option.some.inj hBoth
      apply eq_of_map_path hSame
      intro c hMem c' hMem' hPath
      rcases (hLeftListed c hMem).exists_lists with ⟨d, -, hListed⟩
      rcases (hRightListed c' hMem').exists_lists with ⟨d', -, hListed'⟩
      exact hUnambiguous _ _ _ _ _ hListed ((hLists _ _ _).mpr hListed') hPath
  · exact keys_ofOptions.1.trans (hServices.trans keys_ofOptions.1.symm)
  · intro serviceId ids ids' hLeft hRight
    rcases deviceIds_eq hLeft with ⟨hDistinct, hMem⟩
    rcases deviceIds_eq hRight with ⟨hDistinct', hMem'⟩
    rw [List.perm_ext_iff_of_nodup hDistinct hDistinct']
    intro id
    simp only [hMem, hMem', hDevices, hLists]

/- With the devices in one order, nothing differs at all. -/
theorem ofSelectables_eq
    (hUnambiguous : IsUnambiguous selectables)
    (hLists : ∀ deviceTypeId serviceId c,
      ListsPath selectables deviceTypeId serviceId c ↔
        ListsPath selectables' deviceTypeId serviceId c) :
    ofSelectables devices selectables = ofSelectables devices selectables' := by
  rcases ofSelectables_isReordered hUnambiguous (fun _ => Iff.rfl) hLists with
    ⟨hServices, hPaths, hCharacterized, hKeys, -⟩
  have hDevices :
      (ofSelectables devices selectables).serviceToDevices =
        (ofSelectables devices selectables').serviceToDevices := by
    apply Dict.ext_of_keys hKeys
    intro serviceId ids ids' hLeft hRight
    rw [(deviceIds_of_get? hLeft).1, (deviceIds_of_get? hRight).1]
    congr 2
    apply List.filter_congr
    intro d hDevice
    apply decide_eq_decide.mpr
    rw [delivers_iff hDevice, delivers_iff hDevice]
    simp only [hLists]
  cases hLeft : ofSelectables devices selectables
  cases hRight : ofSelectables devices selectables'
  rw [hLeft, hRight] at hServices hPaths hCharacterized hDevices
  cases hServices
  cases hPaths
  cases hCharacterized
  cases hDevices
  rfl

/-
  The expansion, with path options that are pushed while the
  maps are iterated.
-/
def ofIterated
    (devices : List Device)
    (iterated : List IteratedSelectable) : Expansion :=
  ofOptions devices
    (iteratedPathOptions (DeviceInfos.ofDevices devices).deviceTypeIds iterated)

/-
  Neither the answers, nor the services and the options within
  them, have an order that is seen in the expansion. The order
  of the devices is seen in the devices of each service only.
-/
theorem ofIterated_rearranged
    (devices devices' : List Device) (selectables : List DeviceTypeSelectable)
    (iterated : List IteratedSelectable)
    (hUnambiguous : IsUnambiguous selectables)
    (hRearranged : IsRearranged iterated selectables)
    (hDevices : devices'.Perm devices) :
    ofIterated devices iterated = ofSelectables devices selectables ∧
      (ofIterated devices' iterated).IsReordered
        (ofSelectables devices selectables) := by
  have hSame : ∀ ds, ofIterated ds iterated = ofSelectables ds selectables := by
    intro ds
    rw [ofIterated, iteratedPathOptions_eq _ hRearranged.isIteration]
    exact (ofSelectables_eq hUnambiguous fun _ _ _ =>
      hRearranged.listsPath_iff.symm).symm
  refine ⟨hSame devices, ?_⟩
  rw [hSame]
  exact ofSelectables_isReordered hUnambiguous
    (fun _ => hDevices.mem_iff) fun _ _ _ => Iff.rfl

/-
  Two devices and the answers about their types, with all of
  it in another order.
-/
theorem ofIterated_rearranged_twoTypes :
    let value : ServicePathOption :=
      { serviceId := "s1", path := "value", characteristicId := "c1" }
    let time : ServicePathOption :=
      { serviceId := "s1", path := "time", characteristicId := "c2" }
    let level : ServicePathOption :=
      { serviceId := "s2", path := "level", characteristicId := "c1" }
    let first : DeviceTypeSelectable :=
      { deviceTypeId := "t1"
        servicePathOptions :=
          ⟨[("s1", [value, time]), ("s2", [level])], by decide⟩ }
    let second : DeviceTypeSelectable :=
      { deviceTypeId := "t2"
        servicePathOptions := ⟨[("s1", [value])], by decide⟩ }
    let turned : DeviceTypeSelectable :=
      { deviceTypeId := "t1"
        servicePathOptions :=
          ⟨[("s1", [time, value]), ("s2", [level])], by decide⟩ }
    let d1 : Device := { id := "d1", deviceTypeId := "t1" }
    let d2 : Device := { id := "d2", deviceTypeId := "t2" }
    ofIterated [d1, d2] [⟨second, ["s1"]⟩, ⟨turned, ["s2", "s1"]⟩] =
        ofSelectables [d1, d2] [first, second] ∧
      (ofIterated [d2, d1]
        [⟨second, ["s1"]⟩, ⟨turned, ["s2", "s1"]⟩]).IsReordered
        (ofSelectables [d1, d2] [first, second]) := by
  intro value time level first second turned d1 d2
  apply ofIterated_rearranged
  · decide
  · refine ⟨[second, first], .swap _ _ _, .cons ?_ (.cons ?_ .nil)⟩
    · exact ⟨rfl, .refl _, .cons ⟨rfl, .refl _⟩ .nil⟩
    · exact ⟨rfl, .swap _ _ _,
        .cons ⟨rfl, .swap _ _ _⟩ (.cons ⟨rfl, .refl _⟩ .nil)⟩
  · exact .swap _ _ _

end Expansion

end ProcessEvents
