import ProcessEvents.Text

/-
  This file defines the addresses that the service answers
  at. A parameter is a part of a path: the last one must not
  be empty, and no path may be followed by a further slash.

  Key definitions include:
    * `Route`
    * `Route.ofPath?`
    * `Route.template`
    * `Route.method`
    * `Route.accepts`, `Route.allowed`
-/

namespace ProcessEvents

/- What a path stands for; parameters are still encoded. -/
inductive Route where
  | index
  | readiness
  | liveness
  | health
  | deployments
  | deployment (userId deploymentId : List Char)
  | event (eventId : List Char)
  | eventStates
  deriving DecidableEq, Repr

namespace Route

/- The route of the parts of a path. -/
def ofParts? : List (List Char) → Option Route
  | [[], part] =>
    match String.ofList part with
    | "" => some index
    | "_readiness" => some readiness
    | "_liveness" => some liveness
    | "health" => some health
    | "process-deployments" => some deployments
    | "event-states" => some eventStates
    | _ => none
  | [[], part, eventId] =>
    if String.ofList part = "events" ∧ eventId ≠ [] then some (event eventId)
    else none
  | [[], part, userId, deploymentId] =>
    if String.ofList part = "process-deployments" ∧ deploymentId ≠ [] then
      some (deployment userId deploymentId)
    else none
  | _ => none

/- The route of a path. -/
def ofPath?
    (path : String) : Option Route :=
  ofParts? (Text.parts '/' path.toList)

/- The path with the names of its parameters. -/
def template : Route → String
  | index => "/"
  | readiness => "/_readiness"
  | liveness => "/_liveness"
  | health => "/health"
  | deployments => "/process-deployments"
  | deployment _ _ => "/process-deployments/:userid/:deplid"
  | event _ => "/events/:id"
  | eventStates => "/event-states"

/- The method of a route. -/
def method : Route → String
  | index => "GET"
  | readiness => "GET"
  | liveness => "GET"
  | health => "POST"
  | deployments => "PUT"
  | deployment _ _ => "DELETE"
  | event _ => "HEAD"
  | eventStates => "GET"

/- What can be read can also be asked for without content. -/
def accepts
    (r : Route)
    (method : String) : Bool :=
  method == r.method || (method == "HEAD" && r.method == "GET")

/- The methods of a route as a header lists them. -/
def allowed
    (r : Route) : String :=
  if r.method == "GET" then "GET,HEAD" else r.method

end Route

end ProcessEvents
