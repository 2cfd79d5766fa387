import Mathlib.Data.List.Nodup
import ProcessEvents.Device
import ProcessEvents.Selection

/-
  This file collects what is used of devices and their groups,
  and of the services of their types, whoever asks for them.

  Key definitions include:
    * `DeviceTypeSelectable.Offers`
    * `DeviceTypeSelectable.IsConsistent`
    * `OffersOn`

  Key theorems include:
    * `foldl_appendNew`, `nodup_foldl_appendNew`
    * `mem_firstSeen`, `nodup_firstSeen`
    * `DeviceInfos.mem_deviceTypeIds`
    * `Selection.kind_eq_deviceGroup_iff`
-/

namespace ProcessEvents

------------------------------------------------------------
-- Distinct elements
------------------------------------------------------------

section

variable {α : Type} [BEq α] [LawfulBEq α] {x y : α} {xs seen : List α}

theorem appendNew_of_mem
    (hMem : x ∈ xs) :
    appendNew xs x = xs :=
  if_pos (List.contains_iff_mem.mpr hMem)

theorem appendNew_of_notMem
    (hNew : x ∉ xs) :
    appendNew xs x = xs ++ [x] :=
  if_neg (mt List.contains_iff_mem.mp hNew)

theorem mem_appendNew :
    y ∈ appendNew xs x ↔ y ∈ xs ∨ y = x := by
  by_cases hMem : x ∈ xs
  · rw [appendNew_of_mem hMem]
    constructor
    · exact Or.inl
    · rintro (hThere | rfl)
      · exact hThere
      · exact hMem
  · rw [appendNew_of_notMem hMem, List.mem_append, List.mem_singleton]

theorem nodup_appendNew
    (hNodup : xs.Nodup)
    (x : α) :
    (appendNew xs x).Nodup := by
  by_cases hMem : x ∈ xs
  · rwa [appendNew_of_mem hMem]
  · rw [appendNew_of_notMem hMem, ← List.concat_eq_append]
    exact hNodup.concat hMem

/- Nothing is ever appended twice. -/
theorem nodup_foldl_appendNew
    (hSeen : seen.Nodup)
    (xs : List α) :
    (xs.foldl appendNew seen).Nodup := by
  induction xs generalizing seen with
  | nil => exact hSeen
  | cons x xs ih => exact ih (nodup_appendNew hSeen x)

/- What has not been seen is appended once. -/
theorem foldl_appendNew
    (xs seen : List α) :
    xs.foldl appendNew seen =
      seen ++ (xs.filter fun x => !seen.contains x).eraseDups := by
  induction xs generalizing seen with
  | nil => simp
  | cons x xs ih =>
      rw [List.foldl_cons, ih, appendNew, List.filter_cons]
      cases hSeen : seen.contains x with
      | true => simp
      | false =>
          simp only [Bool.false_eq_true, if_false, Bool.not_false, if_true,
            List.eraseDups_cons, List.filter_filter, List.append_assoc,
            List.singleton_append]
          congr 3
          apply List.filter_congr
          intro y _
          rw [List.contains_append, Bool.not_or, Bool.and_comm,
            List.contains_cons, List.contains_nil, Bool.or_false]

/- An element that is appended again and again is appended once. -/
theorem foldl_appendNew_same
    {β : Type} {l : List β}
    (hSome : l ≠ [])
    (x : α) (seen : List α) :
    l.foldl (fun xs _ => appendNew xs x) seen = appendNew seen x := by
  have hAgain : appendNew (appendNew seen x) x = appendNew seen x :=
    appendNew_of_mem (mem_appendNew.mpr (Or.inr rfl))
  cases l with
  | nil => exact absurd rfl hSome
  | cons first l =>
      rw [List.foldl_cons]
      induction l with
      | nil => rfl
      | cons second l ih =>
          rw [List.foldl_cons, hAgain, ih (List.cons_ne_nil first l)]

theorem firstSeen_eq_eraseDups
    (xs : List α) :
    firstSeen xs = xs.eraseDups := by
  rw [firstSeen, foldl_appendNew]
  simp

theorem mem_firstSeen :
    x ∈ firstSeen xs ↔ x ∈ xs := by
  rw [firstSeen_eq_eraseDups, List.mem_eraseDups]

theorem nodup_firstSeen
    (xs : List α) :
    (firstSeen xs).Nodup :=
  nodup_foldl_appendNew List.nodup_nil xs

end

/- The types of devices are those that are listed with them. -/
theorem DeviceInfos.mem_deviceTypeIds
    {devices : List Device} {deviceTypeId : String} :
    deviceTypeId ∈ (ofDevices devices).deviceTypeIds ↔
      ∃ device ∈ devices, device.deviceTypeId = deviceTypeId := by
  unfold ofDevices
  rw [mem_firstSeen, List.mem_map]

------------------------------------------------------------
-- Groups that are selected
------------------------------------------------------------

/- A group comes before all other sources, unless it has no id. -/
theorem Selection.kind_eq_deviceGroup_iff
    {s : Selection} {groupId : String} :
    s.kind = some (.deviceGroup groupId) ↔
      nonEmpty? s.deviceGroupId = some groupId := by
  unfold Selection.kind
  cases hGroup : nonEmpty? s.deviceGroupId with
  | some id => simp
  | none =>
      simp only [reduceCtorEq, iff_false]
      split
      · rename_i hSome
        cases hSome
      · split
        · simp
        · simp
      · simp
      · simp
      · simp

------------------------------------------------------------
-- Services that are offered
------------------------------------------------------------

namespace DeviceTypeSelectable

/- Some path is listed for a service that names the service. -/
def Offers
    (s : DeviceTypeSelectable)
    (serviceId : String) : Prop :=
  ∃ options, s.servicePathOptions.get? serviceId = some options ∧
    ∃ o ∈ options, o.serviceId = serviceId

/- The services are the ones that paths are listed for. -/
def IsConsistent
    (s : DeviceTypeSelectable) : Prop :=
  ∀ serviceId, (∃ service ∈ s.services, service.id = serviceId) ↔
    s.Offers serviceId

end DeviceTypeSelectable

/- Some answer about a device type offers the service. -/
def OffersOn
    (selectables : List DeviceTypeSelectable)
    (deviceTypeId serviceId : String) : Prop :=
  ∃ s ∈ selectables, s.deviceTypeId = deviceTypeId ∧ s.Offers serviceId

end ProcessEvents
