import ProcessEvents.Error
import ProcessEvents.Json.Bytes
import ProcessEvents.Json.Codec
import ProcessEvents.Text

/-
  This file defines the claims of a token, and how they are
  read from its text. The signature is not checked: that has
  been done before the token arrives here.

  Key definitions include:
    * `Claims`
    * `Claims.isAdmin`
    * `Claims.payload?`
    * `Claims.parse`
-/

namespace ProcessEvents

/- Who a token belongs to, and with which roles. -/
structure Claims where
  subject : String := ""
  roles : List String := []
  deriving DecidableEq, Repr, Inhabited

namespace Claims

/- The roles stand within a record of their own. -/
def rolesCodec : Codec (List String) :=
  .record (.items "roles" .string) id id

def codec : Codec Claims :=
  .record
    (.pair (.text "sub") <| .field "realm_access" rolesCodec [])
    (fun (subject, roles) => { subject, roles })
    (fun c => (c.subject, c.roles))

/- Role of those who may change deployments. -/
def adminRole : String :=
  "admin"

def isAdmin
    (c : Claims) : Bool :=
  c.roles.contains adminRole

------------------------------------------------------------
-- Tokens
------------------------------------------------------------

/- The word in front of a token, in its two spellings. -/
def schemes : List (List Char) :=
  ["Bearer ".toList, "bearer ".toList]

/- A token without the word in front and without blanks around it. -/
def bareToken
    (token : List Char) : List Char :=
  Text.trim ((schemes.findSome? (Text.stripPrefix? · token)).getD token)

/-
  The second of the parts between dots, without the equals
  signs at its end.
-/
def payload?
    (token : String) : Option (List Char) :=
  match (bareToken token.toList).dropWhile (· ≠ '.') with
  | [] => none
  | _ :: rest =>
    some (Text.dropEndWhile (· == '=') (rest.takeWhile (· ≠ '.')))

/- The claims in the payload of a token. -/
def parse
    (token : String) : Except TokenFault Claims :=
  match payload? token with
  | none => .error .notJwt
  | some payload =>
    match Base64Url.decode payload with
    | .error fault => .error (.encoding fault)
    | .ok bytes =>
      match (Json.readBytes? bytes).bind codec.decode with
      | some claims => .ok claims
      | none => .error .claims

end Claims

end ProcessEvents
