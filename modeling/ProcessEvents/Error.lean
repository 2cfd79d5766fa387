import ProcessEvents.Base64Url
import ProcessEvents.Http.Status
import ProcessEvents.Url.Fault

/-
  This file defines what can go wrong: requests to other
  services, tokens, stores, and the operations of the service
  that need them. Each error states its cause; `message`
  gives its wording.

  Key definitions include:
    * `TransportFault`
    * `RequestError`, `AuthError`
    * `StoreError`
    * `TokenFault`
    * `MissingField`
    * `DeployError`
-/

namespace ProcessEvents

------------------------------------------------------------
-- Requests to other services
------------------------------------------------------------

/- Why a request or its answer did not get through. -/
inductive TransportFault where
  | unreachable
  | unsendableHeader
  | unreadableAnswer
  | endlessListing
  deriving DecidableEq, Repr

def TransportFault.message : TransportFault → String
  | .unreachable => "the server cannot be reached"
  | .unsendableHeader => "a header value cannot be sent"
  | .unreadableAnswer => "the answer cannot be decoded"
  | .endlessListing => "the listing does not end"

mutual

/- A request to another service failed. -/
inductive RequestError where
  | transport (fault : TransportFault)
  | url (fault : Url.Fault)
  | unexpectedStatus (status : Http.Status) (body : String)
  | auth (error : AuthError)
  deriving Repr

/- A token could not be had. -/
inductive AuthError where
  | userDoesNotExist
  | accessDenied (status : Http.Status) (body : String)
  | request (error : RequestError)
  deriving Repr

end

mutual

def RequestError.message : RequestError → String
  | .transport fault => "request failed: " ++ fault.message
  | .url fault => "invalid url: " ++ fault.message
  | .unexpectedStatus status body =>
    "unexpected status " ++ status.toText ++ ": " ++ body
  | .auth error => "unable to authenticate request: " ++ error.message

def AuthError.message : AuthError → String
  | .userDoesNotExist => "user does not exist"
  | .accessDenied status body =>
    "access denied (" ++ status.toText ++ "): " ++ body
  | .request error => error.message

end

namespace RequestError

/-
  The status that the other service answered with. All other
  failures count as internal errors.
-/
def status : RequestError → Http.Status
  | .unexpectedStatus status _ => status
  | _ => .internalServerError

/- The resource does not exist. -/
def isNotFound
    (e : RequestError) : Bool :=
  e.status = .notFound

/- The resource does not exist or is hidden; retrying does not help. -/
def isAbsent
    (e : RequestError) : Bool :=
  e.status = .notFound || e.status = .forbidden || e.status = .unauthorized

/- The failure says nothing about the resource. -/
def isInternal
    (e : RequestError) : Bool :=
  e.status = .internalServerError

end RequestError

------------------------------------------------------------
-- Stores and tokens
------------------------------------------------------------

/- A store failed, or holds a document that cannot be read. -/
inductive StoreError where
  | database (reason : String)
  | document (reason : String)
  deriving DecidableEq, Repr

def StoreError.message : StoreError → String
  | .database reason => "database error: " ++ reason
  | .document reason => "invalid stored document: " ++ reason

/- Why a token cannot be read. -/
inductive TokenFault where
  | notJwt
  | encoding (fault : Base64Url.Fault)
  | claims
  | other (reason : String)
  deriving DecidableEq, Repr

/- The wording; that of unreadable claims is left open. -/
def TokenFault.message : TokenFault → String
  | .notJwt => "not a jwt"
  | .encoding fault => fault.message
  | .claims => "<json>"
  | .other reason => reason

------------------------------------------------------------
-- Operations of the service
------------------------------------------------------------

/- A part of an event that has to be there. -/
inductive MissingField where
  | deviceGroupId
  | path
  deriving DecidableEq, Repr

def MissingField.name : MissingField → String
  | .deviceGroupId => "device group id"
  | .path => "path"

/- Everything that can end a deployment, removal or update. -/
inductive DeployError where
  | auth (error : AuthError)
  | request (error : RequestError)
  | store (error : StoreError)
  | flowOperatorCount (count : Nat)
  | missingField (field : MissingField)
  | notification (reason : String)
  | unknownCommand (command : String)
  | invalidToken (fault : TokenFault)
  deriving Repr

namespace DeployError

def message : DeployError → String
  | .auth error => error.message
  | .request error => error.message
  | .store error => error.message
  | .flowOperatorCount count =>
    "expect flow to have exact one operator, found " ++
      Text.decimal count
  | .missingField field => "missing " ++ field.name
  | .notification reason => "failed to publish done notification: " ++ reason
  | .unknownCommand command => "unknown command " ++ command
  | .invalidToken fault => "invalid token: " ++ fault.message

/- The owner does not exist; retrying does not help. -/
def isUserMissing : DeployError → Bool
  | .auth .userDoesNotExist => true
  | _ => false

/- The status that a caller is answered with. -/
def status : DeployError → Http.Status
  | .invalidToken _ => .badRequest
  | _ => .internalServerError

end DeployError

end ProcessEvents
