import ProcessEvents.Action
import ProcessEvents.Error
import ProcessEvents.Health
import ProcessEvents.Http.Message
import ProcessEvents.Json.Codec
import ProcessEvents.Json.Reader
import ProcessEvents.Json.Writer
import ProcessEvents.Text
import ProcessEvents.Url.Endpoint

/-
  This file defines the requests that are sent to other
  services, and how their answers are read.

  Key definitions include:
    * `Client.Payload`
    * `Client.Outgoing`
    * `Client.Answer`
    * `Client.Network`
    * `Client.Network.request`
    * `Client.Network.fetch`
    * `Client.resource`
-/

namespace ProcessEvents

namespace Client

variable {σ α : Type}

------------------------------------------------------------
-- Requests
------------------------------------------------------------

/- What a request carries. -/
inductive Payload where
  | empty
  | json (value : Json)
  | form (pairs : List (String × String))
  deriving Repr

/- A request to another service. -/
structure Outgoing where
  method : String
  url : Url
  headers : Http.Headers := []
  payload : Payload := .empty
  deriving Repr

/- Header with the user that a request is made for. -/
def userHeader
    (userId : String) : String × String :=
  ("x-userid", userId)

/- Header with the token of a request. -/
def tokenHeader
    (text : String) : String × String :=
  ("authorization", text)

/- A resource: segments appended to the base of a service. -/
def resource
    (base : String)
    (segments : List String) : Except RequestError Url :=
  (Url.endpoint base segments).mapError .url

------------------------------------------------------------
-- Answers
------------------------------------------------------------

/- The answer of another service. -/
structure Answer where
  status : Http.Status
  body : String
  deriving Repr

namespace Answer

/- The mark of the byte order, which may stand in front of a text. -/
def byteOrderMark : Char :=
  Char.ofNat 0xFEFF

/- The body as a text, without a mark in front. -/
def text
    (a : Answer) : String :=
  String.ofList
    ((Text.stripPrefix? [byteOrderMark] a.body.toList).getD a.body.toList)

/- An answer that carries what was asked for. -/
def checked
    (a : Answer) : Except RequestError Answer :=
  if a.status.isSuccess then .ok a
  else .error (.unexpectedStatus a.status a.text)

/- The value in the body of an answer. -/
def value
    (c : Codec α)
    (a : Answer) : Except RequestError α :=
  match (Json.read? a.body).bind c.decode with
  | some x => .ok x
  | none => .error (.transport .unreadableAnswer)

end Answer

------------------------------------------------------------
-- The network
------------------------------------------------------------

/- The world outside: other services, and the time. -/
structure Network (σ : Type) where
  send : Outgoing → Action σ TransportFault Answer
  now : σ → Instant

namespace Network

/- Send a request, if all of its headers can be sent. -/
def request
    (n : Network σ)
    (o : Outgoing) : Action σ RequestError Answer :=
  if o.headers.all fun h => Http.Headers.isSendable h.2 then
    (n.send o).mapError .transport
  else .fail (.transport .unsendableHeader)

/- Ask for a value. -/
def fetch
    (n : Network σ)
    (c : Codec α)
    (o : Outgoing) : Action σ RequestError α := do
  let answer ← n.request o
  let answer ← .ofExcept answer.checked
  .ofExcept (answer.value c)

end Network

end Client

end ProcessEvents
