import ProcessEvents.Dict
import ProcessEvents.Http.Status

/-
  This file defines the registry of the components that have
  to be alive. A component registers with a deadline, within
  which it has to report; the service is healthy only while
  every component has done so.

  Key definitions include:
    * `ComponentStatus`
    * `HealthRegistry`
    * `HealthStep`
    * `HealthRegistry.step`
    * `HealthReport`
    * `HealthRegistry.report`
-/

namespace ProcessEvents

/- Points in time, in nanoseconds. -/
abbrev Instant :=
  Int

------------------------------------------------------------
-- Components
------------------------------------------------------------

/- What is known of a component. -/
inductive ComponentStatus where
  | starting
  | healthyUntil (instant : Instant)
  | unhealthy
  | stalled
  deriving DecidableEq, Repr

namespace ComponentStatus

/- A component that has not reported in time is stalled. -/
def asOf
    (now : Instant) : ComponentStatus → ComponentStatus
  | healthyUntil instant =>
      if now < instant then healthyUntil instant else stalled
  | status => status

def isHealthy : ComponentStatus → Bool
  | healthyUntil _ => true
  | _ => false

def toText : ComponentStatus → String
  | starting => "Starting"
  | healthyUntil instant => "HealthyUntil(" ++ toString instant ++ ")"
  | unhealthy => "Unhealthy"
  | stalled => "Stalled"

end ComponentStatus

------------------------------------------------------------
-- The registry
------------------------------------------------------------

/- The last status of each component. -/
structure HealthRegistry where
  components : Dict ComponentStatus := .empty
  deriving DecidableEq, Repr, Inhabited

/- A component that has registered, with its deadline. -/
structure HealthHandle where
  component : String
  deadline : Int
  deriving DecidableEq, Repr

/- What can happen to a registry. -/
inductive HealthStep where
  | register (handle : HealthHandle)
  | reportHealthy (handle : HealthHandle)
  | reportStatus (handle : HealthHandle) (status : ComponentStatus)
  deriving DecidableEq, Repr

namespace HealthStep

/- The component that a step is about. -/
def component : HealthStep → String
  | register h => h.component
  | reportHealthy h => h.component
  | reportStatus h _ => h.component

/- The status that a step leaves behind. -/
def statusAt
    (now : Instant) : HealthStep → ComponentStatus
  | register _ => .starting
  | reportHealthy h => .healthyUntil (now + h.deadline)
  | reportStatus _ status => status

end HealthStep

namespace HealthRegistry

/- The registry after a step. -/
def step
    (r : HealthRegistry)
    (now : Instant)
    (s : HealthStep) : HealthRegistry :=
  ⟨r.components.insert s.component (s.statusAt now)⟩

/- The registry of components that have just registered. -/
def ofHandles
    (handles : List HealthHandle) : HealthRegistry :=
  ⟨.ofList (handles.map fun h => (h.component, .starting))⟩

/- The registry after steps, each at its time. -/
def run
    (r : HealthRegistry)
    (steps : List (Instant × HealthStep)) : HealthRegistry :=
  steps.foldl (fun r s => r.step s.1 s.2) r

end HealthRegistry

------------------------------------------------------------
-- Reports
------------------------------------------------------------

/- What the registry answers when it is asked. -/
structure HealthReport where
  healthy : Bool
  components : Dict ComponentStatus
  deriving DecidableEq, Repr

/- The status of every component at a time. -/
def HealthRegistry.report
    (r : HealthRegistry)
    (now : Instant) : HealthReport :=
  let components := r.components.map (·.asOf now)
  { healthy := !components.entries.isEmpty &&
      components.values.all ComponentStatus.isHealthy
    components }

namespace HealthReport

/- The status code of the answer. -/
def code
    (r : HealthReport) : Http.Status :=
  if r.healthy then .ok else .internalServerError

/- The text of the answer. -/
def toText
    (r : HealthReport) : String :=
  "HealthStatus \x7b healthy: " ++ (if r.healthy then "true" else "false") ++
    ", components: \x7b" ++
    String.intercalate ", "
      (r.components.entries.map fun e => "\"" ++ e.1 ++ "\": " ++ e.2.toText) ++
    "\x7d \x7d"

end HealthReport

end ProcessEvents
