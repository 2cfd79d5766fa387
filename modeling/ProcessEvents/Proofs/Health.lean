import ProcessEvents.Health
import ProcessEvents.Proofs.Dict

/-
  Whatever has happened to a registry, its report lists the
  components that have ever been registered, each with the
  status that the latest step on it has left behind. Several
  handles of one name share one status. A component that has
  been healthy until now or before is shown as stalled.

  Key definitions include:
    * `HealthRegistry.IsRegistered`
    * `HealthRegistry.IsHistory`
    * `HealthRegistry.latest?`
    * `HealthRegistry.Reflects`
    * `ComponentStatus.Shows`

  Key theorems include:
    * `HealthRegistry.Reflects.step`
    * `HealthRegistry.IsHistory.reflects`
    * `HealthRegistry.report_healthy_iff`
    * `HealthRegistry.report_of_isHistory`
-/

namespace ProcessEvents

------------------------------------------------------------
-- Shown statuses
------------------------------------------------------------

namespace ComponentStatus

/- What is shown of a status at a time. -/
inductive Shows
    (now : Instant) : ComponentStatus → ComponentStatus → Prop where
  | stalled
      {instant : Instant}
      (hPast : instant ≤ now) :
      Shows now (.healthyUntil instant) .stalled
  | same
      {status : ComponentStatus}
      (hAhead : ∀ instant, status = .healthyUntil instant → now < instant) :
      Shows now status status

theorem shows_iff_eq_asOf
    {now : Instant} {status shown : ComponentStatus} :
    Shows now status shown ↔ shown = status.asOf now := by
  constructor
  · rintro (hPast | hAhead)
    · rw [asOf, if_neg (Int.not_lt.mpr hPast)]
    · cases status with
      | healthyUntil instant => rw [asOf, if_pos (hAhead instant rfl)]
      | _ => rfl
  · rintro rfl
    cases status with
    | healthyUntil instant =>
        rw [asOf]
        split
        · rename_i hAhead
          apply Shows.same
          rintro _ ⟨⟩
          exact hAhead
        · rename_i hPast
          exact .stalled (Int.not_lt.mp hPast)
    | _ => exact .same nofun

/- Only a time that is still to come is shown as healthy. -/
theorem isHealthy_asOf_iff
    {now : Instant} {status : ComponentStatus} :
    (status.asOf now).isHealthy = true ↔
      ∃ instant, status.asOf now = .healthyUntil instant ∧ now < instant := by
  cases status with
  | healthyUntil instant =>
      rw [asOf]
      split
      · rename_i hAhead
        exact ⟨fun _ => ⟨instant, rfl, hAhead⟩, fun _ => rfl⟩
      · exact ⟨nofun, nofun⟩
  | _ => exact ⟨nofun, nofun⟩

end ComponentStatus

namespace HealthRegistry

open ProcessEvents.ComponentStatus (Shows)

------------------------------------------------------------
-- Histories
------------------------------------------------------------

/- A component of this name has been registered. -/
def IsRegistered
    (steps : List (Instant × HealthStep))
    (name : String) : Prop :=
  ∃ time handle, (time, .register handle) ∈ steps ∧ handle.component = name

/-
  What can have happened to a registry: time does not go back,
  and whoever reports has got the handle by registering.
-/
inductive IsHistory : List (Instant × HealthStep) → Prop where
  | nil : IsHistory []
  | register
      {past : List (Instant × HealthStep)}
      (time : Instant) (handle : HealthHandle)
      (hPast : IsHistory past)
      (hTime : ∀ e ∈ past, e.1 ≤ time) :
      IsHistory (past ++ [(time, .register handle)])
  | reportHealthy
      {past : List (Instant × HealthStep)}
      (since time : Instant) (handle : HealthHandle)
      (hPast : IsHistory past)
      (hTime : ∀ e ∈ past, e.1 ≤ time)
      (hHandle : (since, .register handle) ∈ past) :
      IsHistory (past ++ [(time, .reportHealthy handle)])
  | reportStatus
      {past : List (Instant × HealthStep)}
      (since time : Instant) (handle : HealthHandle) (status : ComponentStatus)
      (hPast : IsHistory past)
      (hTime : ∀ e ∈ past, e.1 ≤ time)
      (hHandle : (since, .register handle) ∈ past) :
      IsHistory (past ++ [(time, .reportStatus handle status)])

/- The latest step on a component, with its time. -/
def latest?
    (steps : List (Instant × HealthStep))
    (name : String) : Option (Instant × HealthStep) :=
  (steps.filter fun e => e.2.component = name).getLast?

section

variable
    {steps past : List (Instant × HealthStep)} {name : String} {time : Instant}
    {s : HealthStep}

theorem isRegistered_append
    {more : List (Instant × HealthStep)} :
    IsRegistered (steps ++ more) name ↔
      IsRegistered steps name ∨ IsRegistered more name := by
  simp only [IsRegistered, List.mem_append, or_and_right, exists_or]

/- A step is the latest one on its own component. -/
theorem latest?_append
    (steps : List (Instant × HealthStep)) (time : Instant) (s : HealthStep)
    (name : String) :
    latest? (steps ++ [(time, s)]) name =
      if name = s.component then some (time, s) else latest? steps name := by
  rw [latest?, List.filter_append, List.getLast?_append, List.filter_singleton]
  by_cases hName : name = s.component
  · rw [if_pos hName, decide_eq_true hName.symm]
    rfl
  · rw [if_neg hName, decide_eq_false (Ne.symm hName)]
    rfl

/- A step that is not earlier than the others can be the latest one. -/
theorem le_latest_append
    (hPast :
      ∀ e, latest? past name = some e →
        ∀ e' ∈ past, e'.2.component = name → e'.1 ≤ e.1)
    (hTime : ∀ e ∈ past, e.1 ≤ time)
    {e : Instant × HealthStep}
    (hLatest : latest? (past ++ [(time, s)]) name = some e) :
    ∀ e' ∈ past ++ [(time, s)], e'.2.component = name → e'.1 ≤ e.1 := by
  rw [latest?_append] at hLatest
  rw [List.forall_mem_append, List.forall_mem_singleton]
  split at hLatest
  · cases hLatest
    exact ⟨fun e' hMem _ => hTime e' hMem, fun _ => Int.le_refl time⟩
  · rename_i hOther
    exact ⟨hPast e hLatest, fun hSame => absurd hSame.symm hOther⟩

/- As time does not go back, no step on the component is later. -/
theorem IsHistory.le_latest
    (hHistory : IsHistory steps)
    {e : Instant × HealthStep}
    (hLatest : latest? steps name = some e) :
    ∀ e' ∈ steps, e'.2.component = name → e'.1 ≤ e.1 := by
  induction hHistory generalizing e with
  | nil => exact nofun
  | register _ _ _ hTime ih =>
      exact le_latest_append (fun _ => ih) hTime hLatest
  | reportHealthy _ _ _ _ hTime _ ih =>
      exact le_latest_append (fun _ => ih) hTime hLatest
  | reportStatus _ _ _ _ _ hTime _ ih =>
      exact le_latest_append (fun _ => ih) hTime hLatest

end

------------------------------------------------------------
-- What a registry knows
------------------------------------------------------------

/-
  The registry lists what has been registered, with what the
  latest steps have left.
-/
structure Reflects
    (steps : List (Instant × HealthStep))
    (r : HealthRegistry) : Prop where
  listed : ∀ name, name ∈ r.components.keys ↔ IsRegistered steps name
  status :
    ∀ name, r.components.get? name =
      (latest? steps name).map fun e => e.2.statusAt e.1

section

variable {steps : List (Instant × HealthStep)} {r : HealthRegistry}

/- A step is seen at its own component only. -/
theorem Reflects.step
    (hReflects : Reflects steps r)
    {s : HealthStep}
    (hKnown : (∃ handle, s = .register handle) ∨ IsRegistered steps s.component)
    (time : Instant) :
    Reflects (steps ++ [(time, s)]) (r.step time s) where
  listed name := by
    have hListed : name ∈ (r.step time s).components.keys ↔
        name = s.component ∨ IsRegistered steps name := by
      rw [← hReflects.listed, Dict.mem_keys_iff, Dict.mem_keys_iff,
        HealthRegistry.step, Dict.get?_insert]
      by_cases hName : name = s.component
      · simp [hName]
      · simp [hName]
    rw [hListed, isRegistered_append, or_comm]
    rcases hKnown with ⟨handle, rfl⟩ | hKnown
    · apply or_congr_right
      constructor
      · rintro rfl
        exact ⟨time, handle, List.mem_singleton_self _, rfl⟩
      · rintro ⟨_, _, hMem, rfl⟩
        cases List.mem_singleton.mp hMem
        rfl
    · constructor
      · rintro (hBefore | rfl)
        · exact Or.inl hBefore
        · exact Or.inl hKnown
      · rintro (hBefore | ⟨_, handle, hMem, rfl⟩)
        · exact Or.inl hBefore
        · cases List.mem_singleton.mp hMem
          exact Or.inr rfl
  status name := by
    rw [latest?_append, HealthRegistry.step, Dict.get?_insert, hReflects.status]
    split
    · rfl
    · rfl

theorem run_append
    (r : HealthRegistry) (steps : List (Instant × HealthStep)) (time : Instant)
    (s : HealthStep) :
    r.run (steps ++ [(time, s)]) = (r.run steps).step time s := by
  rw [run, List.foldl_append]
  rfl

/- After any history, the registry reflects it. -/
theorem IsHistory.reflects
    (hHistory : IsHistory steps) :
    Reflects steps (run {} steps) := by
  induction hHistory with
  | nil =>
      refine ⟨fun name => ?_, fun _ => rfl⟩
      refine ⟨fun hMem => (List.not_mem_nil hMem).elim, ?_⟩
      rintro ⟨_, _, hMem, -⟩
      cases hMem
  | register _ handle _ _ ih =>
      rw [run_append]
      exact ih.step (Or.inl ⟨handle, rfl⟩) _
  | reportHealthy since _ handle _ _ hHandle ih =>
      rw [run_append]
      exact ih.step (Or.inr ⟨since, handle, hHandle, rfl⟩) _
  | reportStatus since _ handle _ _ _ hHandle ih =>
      rw [run_append]
      exact ih.step (Or.inr ⟨since, handle, hHandle, rfl⟩) _

end

------------------------------------------------------------
-- Reports
------------------------------------------------------------

/-
  A report is healthy if there are components, all of them
  for some time to come.
-/
theorem report_healthy_iff
    (r : HealthRegistry) (now : Instant) :
    (r.report now).healthy = true ↔
      (∃ name, name ∈ (r.report now).components.keys) ∧
        ∀ name shown, (r.report now).components.get? name = some shown →
          ∃ instant, shown = .healthyUntil instant ∧ now < instant := by
  have hSome : (!(r.report now).components.entries.isEmpty) = true ↔
      ∃ name, name ∈ (r.report now).components.keys := by
    rw [Bool.not_eq_true', List.isEmpty_eq_false_iff_exists_mem]
    simp only [Dict.keys, List.mem_map]
    constructor
    · rintro ⟨e, hMem⟩
      exact ⟨_, e, hMem, rfl⟩
    · rintro ⟨_, e, hMem, -⟩
      exact ⟨e, hMem⟩
  change (!(r.report now).components.entries.isEmpty &&
    (r.report now).components.values.all ComponentStatus.isHealthy) = true ↔ _
  rw [Bool.and_eq_true, hSome, and_congr_right_iff]
  rintro -
  rw [List.all_eq_true]
  constructor
  · intro hAll name shown hShown
    have hMem := List.mem_map_of_mem (f := Prod.snd)
      ((Dict.mem_entries_iff _ _ _).mpr hShown)
    have hHealthy := hAll shown hMem
    rw [report, Dict.get?_map] at hShown
    rcases Option.map_eq_some_iff.mp hShown with ⟨status, -, rfl⟩
    exact ComponentStatus.isHealthy_asOf_iff.mp hHealthy
  · intro hAll shown hMem
    rcases List.mem_map.mp hMem with ⟨⟨name, _⟩, hEntry, rfl⟩
    rcases hAll name _ ((Dict.mem_entries_iff _ _ _).mp hEntry) with
      ⟨instant, hShown, -⟩
    rw [hShown]
    rfl

/-
  Something has been registered, and all that is listed is
  healthy until a time that is still to come.
-/
def IsWell
    (steps : List (Instant × HealthStep))
    (now : Instant)
    (report : HealthReport) : Prop :=
  (∃ name, IsRegistered steps name) ∧
    ∀ name shown, report.components.get? name = some shown →
      ∃ instant, shown = .healthyUntil instant ∧ now < instant

/-
  The report on any history lists exactly the components that
  have been registered. Each of them is shown with what the
  latest step on it has left behind. The report is healthy,
  and the answer has the status 200, exactly if all is well;
  otherwise the status is 500.
-/
theorem report_of_isHistory
    {steps : List (Instant × HealthStep)}
    (hHistory : IsHistory steps)
    (now : Instant) :
    let report := (run {} steps).report now
    (∀ name, name ∈ report.components.keys ↔ IsRegistered steps name) ∧
      (∀ name shown,
        report.components.get? name = some shown ↔
          ∃ time s,
            latest? steps name = some (time, s) ∧
              (∀ e ∈ steps, e.2.component = name → e.1 ≤ time) ∧
              Shows now (s.statusAt time) shown) ∧
      (report.healthy = true ↔ IsWell steps now report) ∧
      (report.code = .ok ↔ IsWell steps now report) ∧
      (report.code = .internalServerError ↔ ¬ IsWell steps now report) := by
  intro report
  have hReflects := hHistory.reflects
  have hListed :
      ∀ name, name ∈ report.components.keys ↔ IsRegistered steps name := by
    intro name
    change name ∈ ((run {} steps).components.map _).keys ↔ _
    rw [Dict.keys_map, hReflects.listed]
  have hHealthy : report.healthy = true ↔ IsWell steps now report := by
    rw [report_healthy_iff]
    exact and_congr_left' (exists_congr hListed)
  refine ⟨hListed, fun name shown => ?_, hHealthy, ?_, ?_⟩
  · change ((run {} steps).components.map _).get? name = some shown ↔ _
    rw [Dict.get?_map, hReflects.status, Option.map_map, Option.map_eq_some_iff]
    constructor
    · rintro ⟨⟨time, s⟩, hLatest, rfl⟩
      exact ⟨time, s, hLatest, hHistory.le_latest hLatest,
        ComponentStatus.shows_iff_eq_asOf.mpr rfl⟩
    · rintro ⟨time, s, hLatest, -, hShows⟩
      exact ⟨_, hLatest, (ComponentStatus.shows_iff_eq_asOf.mp hShows).symm⟩
  · rw [← hHealthy, HealthReport.code]
    cases report.healthy <;> decide
  · rw [← hHealthy, HealthReport.code]
    cases report.healthy <;> decide

/- A consumer has two handles, and a producer does not report again. -/
def sharedSteps : List (Instant × HealthStep) :=
  [(0, .register ⟨"consumer", 30⟩),
    (0, .register ⟨"producer", 10⟩),
    (2, .reportHealthy ⟨"producer", 10⟩),
    (3, .register ⟨"consumer", 5⟩),
    (4, .reportHealthy ⟨"consumer", 30⟩)]

theorem report_of_isHistory_shared :
    IsHistory sharedSteps ∧
      ((run {} sharedSteps).report 11).code = .ok ∧
      ((run {} sharedSteps).report 12).components.get? "consumer" =
        some (.healthyUntil 34) ∧
      ((run {} sharedSteps).report 12).components.get? "producer" =
        some .stalled ∧
      ((run {} sharedSteps).report 12).code = .internalServerError := by
  have hHistory : IsHistory sharedSteps := by
    have hConsumer := IsHistory.nil.register 0 ⟨"consumer", 30⟩ (by decide)
    have hProducer := hConsumer.register 0 ⟨"producer", 10⟩ (by decide)
    have hReported :=
      hProducer.reportHealthy 0 2 ⟨"producer", 10⟩ (by decide) (by decide)
    have hAgain := hReported.register 3 ⟨"consumer", 5⟩ (by decide)
    exact hAgain.reportHealthy 0 4 ⟨"consumer", 30⟩ (by decide) (by decide)
  rcases report_of_isHistory hHistory 11 with ⟨-, -, hHealthy, hOk, -⟩
  rcases report_of_isHistory hHistory 12 with ⟨-, hShown, hLater, -, hError⟩
  refine ⟨hHistory, hOk.mpr (hHealthy.mp rfl),
    ?_, ?_, hError.mpr (mt hLater.mpr (by decide))⟩
  · refine (hShown _ _).mpr
      ⟨4, .reportHealthy ⟨"consumer", 30⟩, rfl, by decide, .same ?_⟩
    rintro _ ⟨⟩
    decide
  · exact (hShown _ _).mpr
      ⟨2, .reportHealthy ⟨"producer", 10⟩, rfl, by decide, .stalled (by decide)⟩

end HealthRegistry

end ProcessEvents
