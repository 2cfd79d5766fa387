import ProcessEvents.Action
import ProcessEvents.Command
import ProcessEvents.Http.Status

/-
  This file defines what the service counts: deployed and
  removed processes and events, handled commands, and
  answered requests.

  Key definitions include:
    * `Counter`
    * `Counter.escapeLabel`
    * `Counter.key`
    * `CounterTable`
    * `CounterTable.byKey`
    * `Counters`
-/

namespace ProcessEvents

------------------------------------------------------------
-- Counters
------------------------------------------------------------

/- What is counted. -/
inductive Counter where
  | deployedProcesses
  | removedProcesses
  | deployedAnalyticsEvents
  | removedAnalyticsEvents
  | deployedConditionalEvents
  | removedConditionalEvents
  | commands (topic : CommandTopic) (succeeded : Bool)
  | httpRequests (method path : String) (status : Http.Status)
  deriving DecidableEq, Repr

namespace Counter

/- Name of a counter. -/
def name : Counter → String
  | deployedProcesses => "event_deployment_deployed_processes_total"
  | removedProcesses => "event_deployment_removed_processes_total"
  | deployedAnalyticsEvents =>
      "event_deployment_deployed_analytics_events_total"
  | removedAnalyticsEvents => "event_deployment_removed_analytics_events_total"
  | deployedConditionalEvents =>
      "event_deployment_deployed_conditional_events_total"
  | removedConditionalEvents =>
      "event_deployment_removed_conditional_events_total"
  | commands _ _ => "event_deployment_commands_total"
  | httpRequests _ _ _ => "http_requests_total"

/- What a counter of this name is counted for. -/
def labels : Counter → List (String × String)
  | commands topic succeeded =>
    [("topic", topic.label), ("outcome", if succeeded then "ok" else "error")]
  | httpRequests method path status =>
    [("method", method), ("path", path), ("status", status.digits)]
  | _ => []

/-
  The characters of a label as they stand between quotes. A
  backslash that already stands before a quote or another
  backslash is taken for an escape, and is not escaped again;
  the flag tells that such a backslash stands in front.
-/
def escapeLabel
    (pending : Bool) : List Char → List Char
  | [] => if pending then ['\\', '\\'] else []
  | '\n' :: rest => '\\' :: 'n' :: escapeLabel pending rest
  | '"' :: rest => '\\' :: '"' :: escapeLabel false rest
  | '\\' :: rest =>
    if pending then '\\' :: '\\' :: escapeLabel false rest
    else escapeLabel true rest
  | c :: rest =>
    if pending then '\\' :: '\\' :: c :: escapeLabel false rest
    else c :: escapeLabel false rest

/- A label with its value in quotes. -/
def labelText
    (label value : String) : String :=
  label ++ "=\"" ++ String.ofList (escapeLabel false value.toList) ++ "\""

/- The name, followed by the labels in curly brackets. -/
def key
    (c : Counter) : String :=
  if c.labels.isEmpty then c.name
  else
    c.name ++ "\x7b" ++
      String.intercalate ","
        (c.labels.map fun l => labelText l.1 l.2) ++
      "\x7d"

end Counter

------------------------------------------------------------
-- Counting
------------------------------------------------------------

/- The counts so far, in the order in which counters were touched first. -/
structure CounterTable where
  counts : List (Counter × Nat) := []
  deriving DecidableEq, Repr, Inhabited

namespace CounterTable

/- Counts after adding to one of them. -/
def addTo
    (c : Counter)
    (n : Nat) : List (Counter × Nat) → List (Counter × Nat)
  | [] => [(c, n)]
  | (d, m) :: rest =>
    if c = d then (d, m + n) :: rest else (d, m) :: addTo c n rest

/- The counts after adding to a counter, be it nothing. -/
def add
    (t : CounterTable)
    (c : Counter)
    (n : Nat) : CounterTable :=
  ⟨addTo c n t.counts⟩

/-
  The counts as they are listed. Of counters that share a
  key, only the last one is listed.
-/
def byKey
    (t : CounterTable) : Dict Nat :=
  .ofList (t.counts.map fun e => (e.1.key, e.2))

end CounterTable

/- The counters that a state holds. -/
structure Counters (σ : Type) where
  add : Counter → Nat → σ → σ

namespace Counters

variable {σ ε : Type}

/- Add to a counter. -/
def count
    (counters : Counters σ)
    (c : Counter)
    (n : Nat) : Action σ ε Unit :=
  .modify (counters.add c n)

end Counters

end ProcessEvents
