import ProcessEvents.Api.Body
import ProcessEvents.Api.Route
import ProcessEvents.Claims
import ProcessEvents.Dispatcher
import ProcessEvents.Health
import ProcessEvents.Http.Form
import ProcessEvents.Http.Message

/-
  This file defines the service as it answers over HTTP: what
  is done for each route, and the headers that let browsers
  ask from other origins.

  Key definitions include:
    * `ApiError`
    * `Api`
    * `Api.requireAdmin`
    * `Api.respond`
    * `Api.answer`
    * `Api.handle`
-/

namespace ProcessEvents

variable {σ : Type}

------------------------------------------------------------
-- Errors
------------------------------------------------------------

/- Why a request is not done. -/
inductive ApiError where
  | adminRequired
  | body (fault : BodyFault)
  | missingDeploymentId
  | missingUserId
  | query
  | parameter (name : String)
  | deploy (error : DeployError)
  deriving Repr

namespace ApiError

def message : ApiError → String
  | adminRequired => "admin token required"
  | body fault => fault.message
  | missingDeploymentId => "missing deployment id"
  | missingUserId => "missing user id"
  | query => "Failed to deserialize query string"
  | parameter name => "Invalid URL: Invalid UTF-8 in `" ++ name ++ "`"
  | deploy error => error.message

def status : ApiError → Http.Status
  | adminRequired => .unauthorized
  | deploy error => error.status
  | _ => .badRequest

/- The answer to a request that is not done. -/
def response
    (e : ApiError) : Http.Response :=
  { status := e.status, content := .text e.message }

end ApiError

/- The dispatcher, and the components that have to be alive. -/
structure Api (σ : Type) where
  dispatcher : Dispatcher σ
  health : HealthRegistry

namespace Api

------------------------------------------------------------
-- Parts of requests
------------------------------------------------------------

/- What the service says of itself. -/
def banner : String :=
  "event deployment service"

/- The token of a request; empty if there is none. -/
def token
    (r : Http.Request) : String :=
  (r.header? "authorization").getD ""

/- The claims of an admin. -/
def requireAdmin
    (r : Http.Request) : Except ApiError Claims :=
  match Claims.parse (token r) with
  | .error _ => .error .adminRequired
  | .ok claims => if claims.isAdmin then .ok claims else .error .adminRequired

/- The text of a parameter of a path. -/
def parameter
    (name : String)
    (encoded : List Char) : Except ApiError String :=
  match Percent.decodeText? encoded with
  | some cs => .ok (String.ofList cs)
  | none => .error (.parameter name)

/- The ids of a query: parts between commas, without blanks. -/
def idsOf
    (ids : String) : List String :=
  (((Text.parts ',' ids.toList).map fun part => part.filter (· != ' ')).filter
    fun part => !part.isEmpty).map String.ofList

/- The event ids that a query asks for; they are given at most once. -/
def eventIds
    (query : String) : Except ApiError (List String) :=
  match (Form.read query).filter fun pair => pair.1 == "ids" with
  | [] => .ok []
  | [pair] => .ok (idsOf pair.2)
  | _ => .error .query

/- A submitted deployment, which must have an id and an owner. -/
def submission
    (r : Http.Request) : Except ApiError OwnedDeployment :=
  match OwnedDeployment.ofContent (r.header? "content-type") r.body with
  | .error fault => .error (.body fault)
  | .ok d =>
    if d.deployment.id == "" then .error .missingDeploymentId
    else if d.owner == "" then .error .missingUserId
    else .ok d

------------------------------------------------------------
-- Routes
------------------------------------------------------------

/- Deploy what an admin submits. -/
def putDeployment
    (api : Api σ)
    (r : Http.Request) : Action σ ApiError Http.Response := do
  let _ ← .ofExcept (requireAdmin r)
  let d ← .ofExcept (submission r)
  (api.dispatcher.deploy d.owner d.deployment).mapError .deploy
  return { status := .ok }

/- Remove what an admin names. -/
def deleteDeployment
    (api : Api σ)
    (r : Http.Request)
    (userId deploymentId : List Char) : Action σ ApiError Http.Response := do
  let userId ← .ofExcept (parameter "userid" userId)
  let deploymentId ← .ofExcept (parameter "deplid" deploymentId)
  let _ ← .ofExcept (requireAdmin r)
  (api.dispatcher.remove userId deploymentId).mapError .deploy
  return { status := .ok }

/- Tell whether an event is deployed. -/
def checkEvent
    (api : Api σ)
    (r : Http.Request)
    (eventId : List Char) : Action σ ApiError Http.Response := do
  let eventId ← .ofExcept (parameter "id" eventId)
  let status ← (api.dispatcher.checkEvent (token r) eventId).infallible
  return { status }

/- Tell which events are deployed. -/
def eventStates
    (api : Api σ)
    (r : Http.Request) : Action σ ApiError Http.Response := do
  let ids ← .ofExcept (eventIds r.query)
  let states ←
    if ids.isEmpty then pure .empty
    else (api.dispatcher.eventStates (token r) ids).mapError .deploy
  return { status := .ok, content := .json ((Codec.dict .bool).encode states) }

/- Tell which components are alive. -/
def liveness
    (api : Api σ)
    (now : Instant) : Http.Response :=
  let report := api.health.report now
  { status := report.code, content := .text report.toText }

/- What is done for a route. -/
def respond
    (api : Api σ)
    (now : Instant)
    (r : Http.Request) : Route → Action σ ApiError Http.Response
  | .index => return { status := .ok, content := .text banner }
  | .readiness => return { status := .ok, content := .text banner }
  | .liveness => return api.liveness now
  | .health => return { status := .ok }
  | .deployments => api.putDeployment r
  | .deployment userId deploymentId =>
      api.deleteDeployment r userId deploymentId
  | .event eventId => api.checkEvent r eventId
  | .eventStates => api.eventStates r

------------------------------------------------------------
-- Answers
------------------------------------------------------------

/- Headers of every answer; the origin of the request is allowed. -/
def originHeaders
    (r : Http.Request) : Http.Headers :=
  [("access-control-allow-credentials", "true"),
    ("vary",
      "origin, access-control-request-method, " ++
        "access-control-request-headers")] ++
    ((r.headers.value? "origin").map
      fun origin => ("access-control-allow-origin", origin)).toList

/- Headers for a browser that asks what it may send. -/
def preflightHeaders
    (r : Http.Request) : Http.Headers :=
  ("access-control-allow-methods", "GET,HEAD,POST,PUT,DELETE,OPTIONS") ::
    ((r.headers.value? "access-control-request-headers").map
      fun names => ("access-control-allow-headers", names)).toList

/- The methods of a route, for requests with another one. -/
def allowHeader
    (route : Route) : Http.Headers :=
  [("allow", route.allowed)]

/- The answer to a request, before the headers of every answer. -/
def answer
    (api : Api σ)
    (now : Instant)
    (r : Http.Request) : Action σ Empty Http.Response :=
  let route := Route.ofPath? r.path
  if r.method == "OPTIONS" then
    return {
      status := .ok
      headers := preflightHeaders r ++ (route.map allowHeader).getD [] }
  else
    match route with
    | none => return { status := .notFound }
    | some route =>
      if route.accepts r.method then do
        match ← (api.respond now r route).attempt with
        | .ok response => return response
        | .error e => return e.response
      else return { status := .methodNotAllowed, headers := allowHeader route }

/- What is sent: without content if only the head is asked for. -/
def finish
    (r : Http.Request)
    (response : Http.Response) : Http.Response :=
  { response with
    headers := originHeaders r ++ response.headers
    content := if r.method == "HEAD" then .empty else response.content }

/- The path that a request is counted under. -/
def pathLabel
    (r : Http.Request) : String :=
  ((Route.ofPath? r.path).map Route.template).getD r.path

/- Answer a request and count it. -/
def handle
    (api : Api σ)
    (now : Instant)
    (r : Http.Request) : Action σ Empty Http.Response := do
  let response ← api.answer now r
  api.dispatcher.counters.count
    (.httpRequests r.method (pathLabel r) response.status) 1
  return finish r response

end Api

end ProcessEvents
