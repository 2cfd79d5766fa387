import Mathlib.Data.List.Induction
import ProcessEvents.Proofs.Expansion
import ProcessEvents.Proofs.Utf8

/-
  This file says what an expansion consists of, without the
  way in which it is collected: the services that some device
  delivers, the devices of each of them in listing order, and
  its paths, each with the characteristic that it was given
  last. There is exactly one such expansion for devices and
  their options, and it is the one that is computed.

  Key definitions include:
    * `Device.optionsFor`, `Device.Delivers`
    * `Expansion.IsLastListed`
    * `Expansion.IsOf`

  Key theorems include:
    * `Expansion.deviceIds_of_get?`, `Expansion.paths_of_get?`
    * `Expansion.get?_foldl_noteCharacteristics_iff`
    * `Expansion.ofOptions_isOf`
    * `Expansion.isOf_iff_eq_ofOptions`
-/

namespace ProcessEvents

------------------------------------------------------------
-- What an expansion consists of
------------------------------------------------------------

namespace Device

/- The options of a device for a service, in order. -/
def optionsFor
    (options : Dict (List PathOptions))
    (serviceId : String)
    (d : Device) : List PathOptions :=
  (options.getD d.deviceTypeId []).filter fun o => o.serviceId = serviceId

/-
  The type of the device has an option for the service with
  at least one path.
-/
def Delivers
    (options : Dict (List PathOptions))
    (serviceId : String)
    (d : Device) : Prop :=
  ∃ o ∈ d.optionsFor options serviceId, o.paths ≠ []

instance (options : Dict (List PathOptions)) (serviceId : String) (d : Device) :
    Decidable (d.Delivers options serviceId) :=
  inferInstanceAs
    (Decidable (∃ o ∈ d.optionsFor options serviceId, o.paths ≠ []))

end Device

namespace Expansion

/- Texts in strictly ascending order of their bytes. -/
def IsAscending
    (texts : List String) : Prop :=
  texts.Pairwise fun s t => Utf8.encode s.toList < Utf8.encode t.toList

/-
  The options of all devices for a service, as they are met
  one after the other.
-/
def optionsOf
    (devices : List Device)
    (options : Dict (List PathOptions))
    (serviceId : String) : List PathOptions :=
  devices.flatMap (·.optionsFor options serviceId)

/-
  The path has the characteristic that the last of the options
  which list it gives it, or none if this option gives none.
-/
def IsLastListed
    (listed : List PathOptions)
    (c : CharacterizedPath) : Prop :=
  ∃ before o after,
    listed = before ++ o :: after ∧
      c.path ∈ o.paths ∧
      (∀ later ∈ after, c.path ∉ later.paths) ∧
      c.characteristicId = o.characteristics.getD c.path ""

/- The expansion of devices by the options of their types. -/
structure IsOf
    (devices : List Device)
    (options : Dict (List PathOptions))
    (x : Expansion) : Prop where
  ascending : IsAscending x.serviceIds
  delivered :
    ∀ serviceId, serviceId ∈ x.serviceIds ↔
      ∃ d ∈ devices, d.Delivers options serviceId
  keys :
    x.serviceToDevices.keys = x.serviceIds ∧
      x.serviceToPaths.keys = x.serviceIds ∧
      x.serviceToCharacterizedPaths.keys = x.serviceIds
  deviceIds :
    ∀ serviceId ids, x.serviceToDevices.get? serviceId = some ids →
      ids = ((devices.filter fun d => d.Delivers options serviceId).map
        (·.id)).eraseDups ∧
        ids ≠ []
  paths :
    ∀ serviceId paths, x.serviceToPaths.get? serviceId = some paths →
      IsAscending paths ∧
        (∀ path, path ∈ paths ↔
          ∃ o ∈ optionsOf devices options serviceId, path ∈ o.paths) ∧
        paths ≠ []
  characterized :
    ∀ serviceId paths,
      x.serviceToCharacterizedPaths.get? serviceId = some paths →
      x.serviceToPaths.get? serviceId = some (paths.map (·.path)) ∧
        ∀ c ∈ paths, IsLastListed (optionsOf devices options serviceId) c

variable
  {devices : List Device} {options : Dict (List PathOptions)}
  {serviceId : String}
  {listed : List PathOptions}

------------------------------------------------------------
-- Ascending texts
------------------------------------------------------------

/- Texts are compared as their bytes are. -/
theorem isAscending_of_pairwise
    {texts : List String}
    (hLess : texts.Pairwise (· < ·)) :
    IsAscending texts :=
  hLess.imp fun hTexts => Utf8.encode_lt_encode hTexts

theorem isAscending_keys
    {β : Type}
    (d : Dict β) :
    IsAscending d.keys :=
  isAscending_of_pairwise (List.pairwise_map.mpr d.sorted)

theorem IsAscending.nodup
    {texts : List String}
    (hTexts : IsAscending texts) :
    texts.Nodup := by
  apply hTexts.imp
  rintro s _ hLess rfl
  exact List.lt_irrefl _ hLess

/- Ascending texts are known by what is among them. -/
theorem IsAscending.eq_of_mem_iff
    {texts others : List String}
    (hTexts : IsAscending texts)
    (hOthers : IsAscending others)
    (hSame : ∀ text, text ∈ texts ↔ text ∈ others) :
    texts = others := by
  have hPerm : texts.Perm others :=
    (List.perm_ext_iff_of_nodup hTexts.nodup hOthers.nodup).mpr hSame
  apply hPerm.eq_of_pairwise _ hTexts hOthers
  intro s t _ _ hLess hGreater
  exact absurd hGreater (List.lt_asymm hLess)

/- Texts that do not repeat are strictly ascending when they are sorted. -/
theorem isAscending_sortTexts
    {texts : List String}
    (hDistinct : texts.Nodup) :
    IsAscending (sortTexts texts) := by
  have hSorted :
      (sortTexts texts).Pairwise fun s t => decide (s ≤ t) = true := by
    apply List.pairwise_mergeSort
    · intro s t u hFirst hSecond
      simp only [decide_eq_true_eq] at hFirst hSecond ⊢
      exact String.le_trans hFirst hSecond
    · intro s t
      simpa using String.le_total s t
  have hNodup : (sortTexts texts).Nodup :=
    (List.mergeSort_perm _ _).nodup_iff.mpr hDistinct
  apply isAscending_of_pairwise
  apply (hSorted.and hNodup).imp
  rintro s t ⟨hLess, hApart⟩
  exact Std.lt_of_le_of_ne (of_decide_eq_true hLess) hApart

theorem mem_sortTexts
    {texts : List String} {text : String} :
    text ∈ sortTexts texts ↔ text ∈ texts :=
  List.mem_mergeSort

------------------------------------------------------------
-- The services
------------------------------------------------------------

/- The services are those with paths, each once. -/
def Collected.IsCoherent
    (c : Collected) : Prop :=
  c.serviceIds.Nodup ∧ ∀ serviceId, serviceId ∈ c.serviceIds ↔
    serviceId ∈ c.paths.keys

theorem Collected.isCoherent_take
    {c : Collected} (l : String × PathOptions)
    (hCoherent : c.IsCoherent) :
    (c.take l).IsCoherent := by
  rcases hCoherent with ⟨hDistinct, hSame⟩
  have hKeys : ∀ serviceId, serviceId ∈ (c.take l).paths.keys ↔
      serviceId ∈ c.paths.keys ∨ serviceId = l.2.serviceId := by
    intro serviceId
    have hPaths : (c.take l).paths =
        c.paths.insert l.2.serviceId
          (l.2.paths.foldl appendNew (c.paths.getD l.2.serviceId [])) := rfl
    rw [Dict.mem_keys_iff, Dict.mem_keys_iff, hPaths, Dict.get?_insert]
    by_cases hOwn : serviceId = l.2.serviceId
    · simp [hOwn]
    · simp [hOwn]
  have hKnown :
      c.paths.contains l.2.serviceId = true ↔ l.2.serviceId ∈ c.serviceIds := by
    rw [hSame, Dict.mem_keys_iff, Dict.contains]
  by_cases hMet : l.2.serviceId ∈ c.serviceIds
  · have hIds : (c.take l).serviceIds = c.serviceIds := if_pos (hKnown.mpr hMet)
    refine ⟨hIds ▸ hDistinct, fun serviceId => ?_⟩
    rw [hIds, hKeys, ← hSame]
    constructor
    · exact Or.inl
    · rintro (hMem | rfl)
      · exact hMem
      · exact hMet
  · have hIds : (c.take l).serviceIds = c.serviceIds ++ [l.2.serviceId] :=
      if_neg (mt hKnown.mp hMet)
    refine ⟨?_, fun serviceId => ?_⟩
    · rw [hIds, ← List.concat_eq_append, List.nodup_concat]
      exact ⟨hMet, hDistinct⟩
    · rw [hIds, hKeys, ← hSame, List.mem_append, List.mem_singleton]

theorem isCoherent_collect
    (listed : List (String × PathOptions)) :
    (collect listed).IsCoherent := by
  have hRun : ∀ c : Collected, c.IsCoherent →
      (listed.foldl Collected.take c).IsCoherent := by
    induction listed with
    | nil => exact fun _ hCoherent => hCoherent
    | cons l listed ih =>
        exact fun c hCoherent => ih _ (c.isCoherent_take l hCoherent)
  exact hRun {} ⟨List.nodup_nil, fun _ => Iff.rfl⟩

/- The paths are collected by themselves. -/
theorem paths_collect
    (listed : List (String × PathOptions)) :
    (collect listed).paths =
      listed.foldl
        (fun result l => result.update l.2.serviceId
          [] (l.2.paths.foldl appendNew ·)) .empty :=
  (List.foldl_hom Collected.paths fun _ _ => rfl).symm

/- The characteristics are collected by themselves. -/
theorem characteristics_collect
    (listed : List (String × PathOptions)) :
    (collect listed).characteristics =
      listed.foldl
        (fun result l => result.update l.2.serviceId .empty
          (noteCharacteristics · l.2)) .empty :=
  (List.foldl_hom Collected.characteristics fun _ _ => rfl).symm

/- The services that are listed are those that a device delivers. -/
theorem exists_listing_iff :
    (∃ l ∈ listings devices options, l.2.serviceId = serviceId) ↔
      ∃ d ∈ devices, d.Delivers options serviceId := by
  constructor
  · rintro ⟨l, hListed, rfl⟩
    rcases mem_listings.mp hListed with ⟨d, hDevice, -, hOption, hPaths⟩
    refine ⟨d, hDevice, l.2, List.mem_filter.mpr ⟨hOption, by simp⟩, ?_⟩
    simpa using hPaths
  · rintro ⟨d, hDevice, o, hOption, hPaths⟩
    rcases List.mem_filter.mp hOption with ⟨hMem, hService⟩
    exact ⟨(d.id, o),
      mem_listings.mpr ⟨d, hDevice, rfl, hMem, by simpa using hPaths⟩,
      of_decide_eq_true hService⟩

theorem exists_delivers_of_filter_ne_nil
    (hSome : (listings devices options).filter
      (fun l => l.2.serviceId = serviceId) ≠ []) :
    ∃ d ∈ devices, d.Delivers options serviceId := by
  rcases List.exists_mem_of_ne_nil _ hSome with ⟨l, hListed⟩
  rcases List.mem_filter.mp hListed with ⟨hMem, hService⟩
  exact exists_listing_iff.mp ⟨l, hMem, of_decide_eq_true hService⟩

theorem mem_serviceIds_iff :
    serviceId ∈ (ofOptions devices options).serviceIds ↔
      ∃ d ∈ devices, d.Delivers options serviceId := by
  rw [ofOptions, mem_sortTexts, (isCoherent_collect _).2, paths_collect,
    Dict.mem_keys_foldl_update, exists_listing_iff]

------------------------------------------------------------
-- The devices of a service
------------------------------------------------------------

/- What is listed for one service. -/
theorem filter_listings
    (devices : List Device) (options : Dict (List PathOptions))
    (serviceId : String) :
    (listings devices options).filter (fun l => l.2.serviceId = serviceId) =
      devices.flatMap fun d =>
        ((d.optionsFor options serviceId).filter fun o => !o.paths.isEmpty).map
          fun o => (d.id, o) := by
  unfold listings Device.optionsFor
  rw [List.filter_flatMap]
  congr
  funext d
  rw [List.filter_map, List.filter_filter, List.filter_filter]
  congr
  funext o
  exact Bool.and_comm _ _

/- A device whose type has several options for a service is one device of it. -/
theorem foldl_listings
    (devices : List Device) (options : Dict (List PathOptions))
    (serviceId : String)
    (seen : List String) :
    ((listings devices options).filter fun l => l.2.serviceId = serviceId).foldl
        (fun ids l => appendNew ids l.1) seen =
      ((devices.filter fun d => d.Delivers options serviceId).map (·.id)).foldl
        appendNew seen := by
  rw [filter_listings]
  induction devices generalizing seen with
  | nil => rfl
  | cons d devices ih =>
      rw [List.flatMap_cons, List.foldl_append,
        List.foldl_map, List.filter_cons]
      by_cases hDelivers : d.Delivers options serviceId
      · have hSome :
            (d.optionsFor options serviceId).filter
              (fun o => !o.paths.isEmpty) ≠ [] := by
          rcases hDelivers with ⟨o, hOption, hPaths⟩
          exact List.ne_nil_of_mem
            (List.mem_filter.mpr ⟨hOption, by simpa using hPaths⟩)
        rw [foldl_appendNew_same hSome, if_pos (decide_eq_true hDelivers),
          List.map_cons, List.foldl_cons, ih]
      · have hNone :
            (d.optionsFor options serviceId).filter
              (fun o => !o.paths.isEmpty) = [] := by
          rw [List.filter_eq_nil_iff]
          intro o hOption hPaths
          exact hDelivers ⟨o, hOption, by simpa using hPaths⟩
        rw [hNone, if_neg (by simpa using hDelivers)]
        exact ih seen

/- The devices of a service are in listing order, each once. -/
theorem deviceIds_of_get?
    {ids : List String}
    (hIds : (ofOptions devices options).serviceToDevices.get? serviceId =
      some ids) :
    ids = ((devices.filter fun d => d.Delivers options serviceId).map
      (·.id)).eraseDups ∧
      ids ≠ [] := by
  rw [ofOptions, devices_collect,
    Dict.get?_foldl_update_empty
      (fun l : String × PathOptions => l.2.serviceId) []
      (fun ids l => appendNew ids l.1)] at hIds
  by_cases hNone :
    (listings devices options).filter (fun l => l.2.serviceId = serviceId) = []
  · rw [if_pos hNone] at hIds
    cases hIds
  · rw [if_neg hNone, foldl_listings, foldl_appendNew] at hIds
    simp only [List.contains_nil, Bool.not_false, List.filter_true,
      List.nil_append, Option.some.injEq] at hIds
    refine ⟨hIds.symm, ?_⟩
    rcases exists_delivers_of_filter_ne_nil hNone with ⟨d, hDevice, hDelivers⟩
    rw [← hIds]
    exact List.ne_nil_of_mem (List.mem_eraseDups.mpr (List.mem_map_of_mem
      (List.mem_filter.mpr ⟨hDevice, decide_eq_true hDelivers⟩)))

------------------------------------------------------------
-- The paths of a service
------------------------------------------------------------

/- What is listed for one service are its options with paths. -/
theorem map_filter_listings
    (devices : List Device) (options : Dict (List PathOptions))
    (serviceId : String) :
    ((listings devices options).filter
        fun l => l.2.serviceId = serviceId).map (·.2) =
      (optionsOf devices options serviceId).filter fun o =>
        !o.paths.isEmpty := by
  rw [filter_listings, List.map_flatMap, optionsOf, List.filter_flatMap]
  congr
  funext d
  rw [List.map_map]
  exact List.map_id _

/-
  What is collected of the options that are listed comes, for
  a service, from its options with paths. There are some.
-/
theorem eq_foldl_of_get?
    {β : Type} {dflt v : β} {f : β → PathOptions → β}
    (hValue : ((listings devices options).foldl
      (fun result l => result.update l.2.serviceId dflt (f · l.2))
        Dict.empty).get? serviceId =
        some v) :
    v = ((optionsOf devices options serviceId).filter fun o =>
      !o.paths.isEmpty).foldl f dflt ∧
      ∃ o ∈ optionsOf devices options serviceId, o.paths ≠ [] := by
  rw [Dict.get?_foldl_update_empty
    (fun l : String × PathOptions => l.2.serviceId) dflt
    (fun v l => f v l.2)] at hValue
  by_cases hNone :
    (listings devices options).filter (fun l => l.2.serviceId = serviceId) = []
  · rw [if_pos hNone] at hValue
    cases hValue
  · rw [if_neg hNone, Option.some.injEq] at hValue
    constructor
    · rw [← hValue, ← map_filter_listings, List.foldl_map]
    · rcases exists_delivers_of_filter_ne_nil hNone with
        ⟨d, hDevice, o, hOption, hSome⟩
      exact ⟨o, List.mem_flatMap.mpr ⟨d, hDevice, hOption⟩, hSome⟩

/- The paths of a service are ascending, and are those of its options. -/
theorem paths_of_get?
    {paths : List String}
    (hPaths : (ofOptions devices options).serviceToPaths.get? serviceId =
      some paths) :
    IsAscending paths ∧
      (∀ path, path ∈ paths ↔
        ∃ o ∈ optionsOf devices options serviceId, path ∈ o.paths) ∧
      paths ≠ [] := by
  rw [ofOptions, Dict.get?_map, paths_collect, Option.map_eq_some_iff] at hPaths
  rcases hPaths with ⟨met, hMet, rfl⟩
  rcases eq_foldl_of_get?
    (f := fun ps o => o.paths.foldl appendNew ps) hMet with
    ⟨hFold, o, hOption, hSome⟩
  rw [← List.foldl_flatMap, ← firstSeen] at hFold
  have hMem : ∀ path, path ∈ sortTexts met ↔
      ∃ o ∈ optionsOf devices options serviceId, path ∈ o.paths := by
    intro path
    rw [mem_sortTexts, hFold, mem_firstSeen, List.mem_flatMap]
    constructor
    · rintro ⟨o, hUsable, hPath⟩
      exact ⟨o, List.mem_of_mem_filter hUsable, hPath⟩
    · rintro ⟨o, hListed, hPath⟩
      exact ⟨o, List.mem_filter.mpr
        ⟨hListed, by simpa using List.ne_nil_of_mem hPath⟩, hPath⟩
  rcases List.exists_mem_of_ne_nil _ hSome with ⟨path, hPath⟩
  refine ⟨isAscending_sortTexts ?_, hMem,
    List.ne_nil_of_mem ((hMem path).mpr ⟨o, hOption, hPath⟩)⟩
  rw [hFold]
  exact nodup_firstSeen _

------------------------------------------------------------
-- The characteristics of a path
------------------------------------------------------------

/- An option gives a characteristic to its own paths only. -/
theorem get?_noteCharacteristics
    (known : Dict String) (o : PathOptions) (path : String) :
    (noteCharacteristics known o).get? path =
      if path ∈ o.paths then some (o.characteristics.getD path "")
      else known.get? path := by
  have hRun : ∀ paths : List String,
      (paths.foldl (fun d p => d.insert p (o.characteristics.getD p ""))
        known).get? path =
        if path ∈ paths then some (o.characteristics.getD path "")
        else known.get? path := by
    intro paths
    induction paths using List.reverseRecOn with
    | nil => rfl
    | append_singleton paths p ih =>
        rw [List.foldl_append, List.foldl_cons,
          List.foldl_nil, Dict.get?_insert, ih]
        by_cases hSame : path = p
        · simp [hSame]
        · simp [hSame]
  exact hRun o.paths

/- Of the options that list a path, the last one gives its characteristic. -/
theorem get?_foldl_noteCharacteristics
    (listed : List PathOptions) (path : String) :
    (listed.foldl noteCharacteristics Dict.empty).get? path =
      (listed.reverse.find? fun o => path ∈ o.paths).map
        (·.characteristics.getD path "") := by
  induction listed using List.reverseRecOn with
  | nil => rfl
  | append_singleton listed o ih =>
      rw [List.foldl_append, List.foldl_cons, List.foldl_nil,
        get?_noteCharacteristics, ih, List.reverse_append,
        List.reverse_singleton, List.singleton_append, List.find?_cons]
      by_cases hPath : path ∈ o.paths
      · simp [hPath]
      · simp [hPath]

theorem get?_foldl_noteCharacteristics_iff
    {path characteristicId : String} :
    (listed.foldl noteCharacteristics Dict.empty).get? path =
      some characteristicId ↔
      IsLastListed listed ⟨path, characteristicId⟩ := by
  rw [get?_foldl_noteCharacteristics, Option.map_eq_some_iff]
  constructor
  · rintro ⟨o, hFound, rfl⟩
    rcases List.find?_eq_some_iff_append.mp hFound with
      ⟨hPath, after, before, hSplit, hNone⟩
    refine ⟨before.reverse, o, after.reverse,
      ?_, of_decide_eq_true hPath, ?_, rfl⟩
    · rw [← List.reverse_reverse listed, hSplit]
      simp
    · intro later hLater
      simpa using hNone later (List.mem_reverse.mp hLater)
  · rintro ⟨before, o, after, rfl, hPath, hNone, hGiven⟩
    refine ⟨o, List.find?_eq_some_iff_append.mpr
      ⟨decide_eq_true hPath, after.reverse, before.reverse, by simp, ?_⟩,
        hGiven.symm⟩
    intro later hLater
    simpa using hNone later (List.mem_reverse.mp hLater)

/- Options without paths give no characteristics. -/
theorem foldl_noteCharacteristics_filter
    (listed : List PathOptions) (known : Dict String) :
    (listed.filter fun o => !o.paths.isEmpty).foldl noteCharacteristics known =
      listed.foldl noteCharacteristics known := by
  rw [List.foldl_filter]
  congr
  funext known o
  by_cases hNone : o.paths = []
  · simp [hNone, noteCharacteristics]
  · simp [hNone]

/-
  The characteristics of a service are those of its options,
  one after the other.
-/
theorem characteristics_of_get?
    {known : Dict String}
    (hKnown : (collect (listings devices options)).characteristics.get?
      serviceId = some known) :
    known = (optionsOf devices options serviceId).foldl
      noteCharacteristics Dict.empty := by
  rw [characteristics_collect] at hKnown
  exact (eq_foldl_of_get? hKnown).1.trans (foldl_noteCharacteristics_filter _ _)

/- A path has a characteristic exactly if an option lists it. -/
theorem mem_keys_foldl_noteCharacteristics
    {path : String} :
    path ∈ (listed.foldl noteCharacteristics Dict.empty).keys ↔
      ∃ o ∈ listed, path ∈ o.paths := by
  rw [Dict.mem_keys_iff, get?_foldl_noteCharacteristics,
    Option.isSome_map, List.find?_isSome]
  simp

/- The characteristic of a path is determined by the options. -/
theorem IsLastListed.unique
    {c c' : CharacterizedPath}
    (hFirst : IsLastListed listed c)
    (hSecond : IsLastListed listed c')
    (hPath : c.path = c'.path) :
    c = c' := by
  rcases c with ⟨path, characteristicId⟩
  rcases c' with ⟨path', characteristicId'⟩
  cases hPath
  have hSame := (get?_foldl_noteCharacteristics_iff.mpr hFirst).symm.trans
    (get?_foldl_noteCharacteristics_iff.mpr hSecond)
  rw [Option.some.inj hSame]

/- Paths of one kind that agree in their texts agree. -/
theorem eq_of_map_path
    {paths paths' : List CharacterizedPath}
    (hSame : paths.map (·.path) = paths'.map (·.path))
    (hDetermined : ∀ c ∈ paths, ∀ c' ∈ paths', c.path = c'.path → c = c') :
    paths = paths' := by
  induction paths generalizing paths' with
  | nil => exact (List.map_eq_nil_iff.mp hSame.symm).symm
  | cons c paths ih =>
      cases paths' with
      | nil => cases hSame
      | cons c' paths' =>
          rw [List.map_cons, List.map_cons, List.cons.injEq] at hSame
          rw [hDetermined c List.mem_cons_self c' List.mem_cons_self hSame.1,
            ih hSame.2 fun p hLeft p' hRight =>
              hDetermined p (List.mem_cons_of_mem c hLeft) p'
                (List.mem_cons_of_mem c' hRight)]

------------------------------------------------------------
-- The expansion
------------------------------------------------------------

theorem ascending_serviceIds :
    IsAscending (ofOptions devices options).serviceIds :=
  isAscending_sortTexts (isCoherent_collect _).1

/- Every collection is there for the services that are delivered. -/
theorem keys_ofOptions :
    (ofOptions devices options).serviceToDevices.keys =
      (ofOptions devices options).serviceIds ∧
      (ofOptions devices options).serviceToPaths.keys =
        (ofOptions devices options).serviceIds ∧
      (ofOptions devices options).serviceToCharacterizedPaths.keys =
        (ofOptions devices options).serviceIds := by
  refine ⟨?_, ?_, ?_⟩
  · apply (isAscending_keys _).eq_of_mem_iff ascending_serviceIds
    intro serviceId
    rw [mem_serviceIds_iff, ofOptions, devices_collect,
      Dict.mem_keys_foldl_update, exists_listing_iff]
  · apply (isAscending_keys _).eq_of_mem_iff ascending_serviceIds
    intro serviceId
    rw [mem_serviceIds_iff, ofOptions, Dict.keys_map, paths_collect,
      Dict.mem_keys_foldl_update, exists_listing_iff]
  · apply (isAscending_keys _).eq_of_mem_iff ascending_serviceIds
    intro serviceId
    rw [mem_serviceIds_iff, ofOptions, Dict.keys_map, characteristics_collect,
      Dict.mem_keys_foldl_update, exists_listing_iff]

/-
  The paths with their characteristics are the paths, each
  with its last one.
-/
theorem characterized_of_get?
    {paths : List CharacterizedPath}
    (hPaths :
      (ofOptions devices options).serviceToCharacterizedPaths.get? serviceId =
      some paths) :
    (ofOptions devices options).serviceToPaths.get? serviceId =
      some (paths.map (·.path)) ∧
      ∀ c ∈ paths, IsLastListed (optionsOf devices options serviceId) c := by
  have hService :
      serviceId ∈ (ofOptions devices options).serviceToPaths.keys := by
    rw [keys_ofOptions.2.1, ← keys_ofOptions.2.2, Dict.mem_keys_iff, hPaths]
    rfl
  rw [ofOptions, Dict.get?_map, Option.map_eq_some_iff] at hPaths
  rcases hPaths with ⟨known, hKnown, rfl⟩
  have hFold := characteristics_of_get? hKnown
  constructor
  · rw [Dict.mem_keys_iff] at hService
    rcases Option.isSome_iff_exists.mp hService with ⟨ascending, hAscending⟩
    have hKeys : ascending = known.keys := by
      apply (paths_of_get? hAscending).1.eq_of_mem_iff (isAscending_keys known)
      intro path
      rw [(paths_of_get? hAscending).2.1, hFold,
        mem_keys_foldl_noteCharacteristics]
    rw [hAscending, hKeys, List.map_map]
    rfl
  · intro c hMem
    rcases List.mem_map.mp hMem with ⟨⟨path, characteristicId⟩, hEntry, rfl⟩
    rw [Dict.mem_entries_iff, hFold] at hEntry
    exact get?_foldl_noteCharacteristics_iff.mp hEntry

theorem ofOptions_isOf
    (devices : List Device) (options : Dict (List PathOptions)) :
    (ofOptions devices options).IsOf devices options where
  ascending := ascending_serviceIds
  delivered _ := mem_serviceIds_iff
  keys := keys_ofOptions
  deviceIds _ _ := deviceIds_of_get?
  paths _ _ := paths_of_get?
  characterized _ _ := characterized_of_get?

/- Devices and their options leave no choice for the expansion. -/
theorem IsOf.unique
    {x y : Expansion}
    (hFirst : x.IsOf devices options)
    (hSecond : y.IsOf devices options) :
    x = y := by
  have hIds : x.serviceIds = y.serviceIds := by
    apply hFirst.ascending.eq_of_mem_iff hSecond.ascending
    intro serviceId
    rw [hFirst.delivered, hSecond.delivered]
  have hDevices : x.serviceToDevices = y.serviceToDevices := by
    apply Dict.ext_of_keys
    · rw [hFirst.keys.1, hSecond.keys.1, hIds]
    · intro serviceId ids ids' hLeft hRight
      rw [(hFirst.deviceIds _ _ hLeft).1, (hSecond.deviceIds _ _ hRight).1]
  have hPaths : x.serviceToPaths = y.serviceToPaths := by
    apply Dict.ext_of_keys
    · rw [hFirst.keys.2.1, hSecond.keys.2.1, hIds]
    · intro serviceId paths paths' hLeft hRight
      apply (hFirst.paths _ _ hLeft).1.eq_of_mem_iff
        (hSecond.paths _ _ hRight).1
      intro path
      rw [(hFirst.paths _ _ hLeft).2.1, (hSecond.paths _ _ hRight).2.1]
  have hCharacterized :
      x.serviceToCharacterizedPaths = y.serviceToCharacterizedPaths := by
    apply Dict.ext_of_keys
    · rw [hFirst.keys.2.2, hSecond.keys.2.2, hIds]
    · intro serviceId paths paths' hLeft hRight
      rcases hFirst.characterized _ _ hLeft with ⟨hLeftPaths, hLeftListed⟩
      rcases hSecond.characterized _ _ hRight with ⟨hRightPaths, hRightListed⟩
      have hSame : paths.map (·.path) = paths'.map (·.path) := by
        rw [hPaths, hRightPaths] at hLeftPaths
        exact (Option.some.inj hLeftPaths).symm
      exact eq_of_map_path hSame fun c hLeft c' hRight hPath =>
        (hLeftListed c hLeft).unique (hRightListed c' hRight) hPath
  cases x
  cases y
  cases hIds
  cases hDevices
  cases hPaths
  cases hCharacterized
  rfl

/-
  The computed expansion is the one that the devices and the
  options of their types determine.
-/
theorem isOf_iff_eq_ofOptions
    (devices : List Device) (options : Dict (List PathOptions))
    (x : Expansion) :
    x.IsOf devices options ↔ x = ofOptions devices options := by
  constructor
  · exact fun hOf => hOf.unique (ofOptions_isOf devices options)
  · rintro rfl
    exact ofOptions_isOf devices options

end Expansion

end ProcessEvents
