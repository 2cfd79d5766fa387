import ProcessEvents.Deployment
import ProcessEvents.Http.MediaType
import ProcessEvents.Json.Bytes

/-
  This file defines how a submitted deployment is read from
  the body of a request. The body has to be declared as JSON,
  and may not be longer than a limit. Only its first value
  counts. Of several faults the first one in reading order
  decides: the owner is checked as soon as it is met, all
  other members after the end of the object.

  Key definitions include:
    * `BodyFault`
    * `OwnedDeployment.ownerFault?`
    * `OwnedDeployment.ofBody`
    * `OwnedDeployment.bodyLimit`
    * `OwnedDeployment.ofContent`
-/

namespace ProcessEvents

/- Why a body is no deployment. -/
inductive BodyFault where
  | contentType
  | tooLong
  | syntaxError
  | shape
  deriving DecidableEq, Repr

def BodyFault.message : BodyFault → String
  | .contentType => "Expected request with `Content-Type: application/json`"
  | .tooLong => "Failed to buffer the request body: length limit exceeded"
  | .syntaxError => "Failed to parse the request body as JSON"
  | .shape => "Failed to deserialize the JSON body into the target type"

namespace OwnedDeployment

open Json

/- What follows a value that has to be a text. -/
def afterText
    (fuel : Nat)
    (cs : List Char) : Except BodyFault (List Char) :=
  match skipBlanks cs with
  | '[' :: _ => .error .shape
  | '{' :: _ => .error .shape
  | cs =>
    match readValue fuel 0 cs with
    | none => .error .syntaxError
    | some (.unreadable, _) => .error .syntaxError
    | some (.str _, rest) => .ok rest
    | some _ => .error .shape

/- What follows a value that only has to be readable. -/
def afterValue
    (fuel : Nat)
    (cs : List Char) : Except BodyFault (List Char) :=
  match readValue fuel 1 cs with
  | none => .error .syntaxError
  | some (j, rest) => if j.isReadable then .ok rest else .error .syntaxError

/-
  What follows the rest of a member after its key. The first
  argument tells whether the owner has been met before.
-/
def afterMember
    (met : Bool)
    (fuel : Nat)
    (key : String)
    (cs : List Char) : Except BodyFault (List Char) :=
  if met && key == ownerKey then .error .shape
  else
    match skipBlanks cs with
    | ':' :: rest =>
      if key == ownerKey then afterText fuel rest else afterValue fuel rest
    | _ => .error .syntaxError

/-
  The first fault of the members up to the closing brace,
  at least one of which is expected.
-/
def membersFault?
    (met : Bool) : Nat → List Char → Option BodyFault
  | 0, _ => some .syntaxError
  | fuel + 1, cs =>
    match skipBlanks cs with
    | '"' :: rest =>
      match readString rest with
      | some (some key, rest) =>
        match afterMember met fuel key rest with
        | .error fault => some fault
        | .ok rest =>
          match skipBlanks rest with
          | '}' :: _ => none
          | ',' :: rest => membersFault? (met || key == ownerKey) fuel rest
          | _ => some .syntaxError
      | _ => some .syntaxError
    | _ => some .syntaxError

/- The first fault that stands in the way of an object. -/
def ownerFault?
    (cs : List Char) : Option BodyFault :=
  let fuel := readBound cs
  match skipBlanks cs with
  | '{' :: rest =>
    match skipBlanks rest with
    | '}' :: _ => none
    | rest => membersFault? false fuel rest
  | cs =>
    match afterText fuel cs with
    | .error fault => some fault
    | .ok _ => some .shape

/-
  The deployment in a body. Bytes that encode no character
  are read as an unpaired escape within a text, and are a
  fault anywhere else in the first value.
-/
def ofBody
    (body : List UInt8) : Except BodyFault OwnedDeployment :=
  let cs := maskGaps false (Utf8.units body)
  match ownerFault? cs with
  | some fault => .error fault
  | none =>
    match (readFirst? cs).bind (codec.decode ·.1) with
    | some d => .ok d
    | none => .error .shape

/- How many bytes a body may have. -/
def bodyLimit : Nat :=
  2 * 1024 * 1024

/-
  The deployment in a body of some type. The type is checked
  before the length, and both before anything is read.
-/
def ofContent
    (contentType : Option String)
    (body : List UInt8) : Except BodyFault OwnedDeployment :=
  if (contentType.bind MediaType.parse?).any MediaType.isJson then
    if bodyLimit < body.length then .error .tooLong
    else ofBody body
  else .error .contentType

end OwnedDeployment

end ProcessEvents
