import ProcessEvents.Http.Status
import ProcessEvents.Json.Value
import ProcessEvents.Utf8

/-
  This file defines the requests that the service is asked
  with, and its answers.

  Key definitions include:
    * `Http.Request`
    * `Http.Request.header?`
    * `Http.Request.ofTarget`
    * `Http.Content`
    * `Http.Response`
-/

namespace ProcessEvents

namespace Http

------------------------------------------------------------
-- Headers
------------------------------------------------------------

/- Names and values; the case of names does not matter. -/
abbrev Headers :=
  List (String × String)

namespace Headers

def lowerName
    (name : String) : String :=
  String.ofList (name.toList.map Char.toLower)

/- The value of a header; the name is given in lower case. -/
def value?
    (headers : Headers)
    (name : String) : Option String :=
  (headers.find? fun h => lowerName h.1 == name).map (·.2)

/- Whether a value can be sent: it holds no control character. -/
def isSendable
    (value : String) : Bool :=
  value.toList.all fun c => c == '\t' || (32 ≤ c.toNat && c.toNat != 127)

/- Whether a value is a text that can be relied upon. -/
def isVisible
    (value : String) : Bool :=
  value.toList.all fun c => c == '\t' || (32 ≤ c.toNat && c.toNat < 127)

end Headers

------------------------------------------------------------
-- Requests
------------------------------------------------------------

/-
  A request, with path and query as they are sent. The body
  is any bytes, which need not encode a text.
-/
structure Request where
  method : String
  path : String
  query : String := ""
  headers : Headers := []
  body : List UInt8 := []
  deriving Repr

namespace Request

/-
  The path of a target and what follows it. A target is a
  path, a single `*`, or a whole address, whose path is `/`
  if it is left out. Any other target names an authority
  only, and has no path.
-/
def resource : List Char → List Char
  | ['*'] => ['*']
  | '/' :: rest => '/' :: rest
  | cs =>
    match cs.dropWhile (· ≠ ':') with
    | ':' :: '/' :: '/' :: rest =>
      match rest.dropWhile (fun c => c != '/' && c != '?' && c != '#') with
      | '/' :: rest => '/' :: rest
      | rest => '/' :: rest
    | _ => []

/-
  A request for a target, with a text as its body. A query
  may follow the path; a fragment is left out.
-/
def ofTarget
    (method target : String)
    (headers : Headers)
    (body : String) : Request :=
  let cs := (resource target.toList).takeWhile (· ≠ '#')
  { method
    path := String.ofList (cs.takeWhile (· ≠ '?'))
    query := String.ofList ((cs.dropWhile (· ≠ '?')).drop 1)
    headers
    body := Utf8.encode body.toList }

/- A header that holds nothing but visible characters. -/
def header?
    (r : Request)
    (name : String) : Option String :=
  (r.headers.value? name).filter Headers.isVisible

end Request

------------------------------------------------------------
-- Responses
------------------------------------------------------------

/- What an answer carries. -/
inductive Content where
  | empty
  | text (text : String)
  | json (value : Json)
  deriving Repr

/- An answer. -/
structure Response where
  status : Status
  headers : Headers := []
  content : Content := .empty
  deriving Repr

end Http

end ProcessEvents
