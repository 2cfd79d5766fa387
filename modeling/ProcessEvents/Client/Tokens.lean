import ProcessEvents.Client.Network
import ProcessEvents.Collaborator
import ProcessEvents.Number.Written
import ProcessEvents.Slot

/-
  This file defines the client of the identity provider. The
  service asks for a token of its own, and exchanges it for
  tokens of its users. Tokens are kept: that of the service
  until shortly before it expires, those of users for a time
  that is configured.

  Key definitions include:
    * `AccessGrant`
    * `TokenCache`
    * `IdentityProvider`
    * `IdentityProvider.adminToken`
    * `IdentityProvider.userToken`
    * `IdentityProvider.issuer`
-/

namespace ProcessEvents

open Client

variable {σ : Type}

------------------------------------------------------------
-- Grants
------------------------------------------------------------

/- A number as a double. -/
def Codec.double : Codec Binary64 where
  decode
    | .int n => Binary64.ofRatio (n < 0) n.natAbs 1
    | .double x => some x
    | _ => none
  encode := .double

/- An access token, and for how many seconds it is valid. -/
structure AccessGrant where
  accessToken : String
  expiresIn : Binary64
  deriving Repr

def AccessGrant.codec : Codec AccessGrant :=
  .record
    (.pair (.required "access_token" .string) <|
     .field "expires_in" .double (.zero false))
    (fun (accessToken, expiresIn) => { accessToken, expiresIn })
    (fun g => (g.accessToken, g.expiresIn))

/- Nanoseconds that a grant is valid for; unusable ones are none. -/
def AccessGrant.lifetime
    (g : AccessGrant) : Nat :=
  (Written.nanos? g.expiresIn).getD 0

------------------------------------------------------------
-- Kept tokens
------------------------------------------------------------

/- A token together with a point in time. -/
structure TimedToken where
  token : BearerToken
  instant : Instant
  deriving DecidableEq, Repr

/-
  The tokens that are kept: that of the service with the end
  of its validity, those of users with the time at which
  they have been kept.
-/
structure TokenCache where
  admin : Option TimedToken := none
  users : Dict TimedToken := .empty
  deriving DecidableEq, Repr, Inhabited

namespace TokenCache

/- The token of the service, while it is valid. -/
def adminAt?
    (c : TokenCache)
    (now : Instant) : Option BearerToken :=
  (c.admin.filter fun t => now < t.instant).map (·.token)

/- The token of a user, until its time is over. -/
def userAt?
    (c : TokenCache)
    (lifespan : Nat)
    (now : Instant)
    (userId : String) : Option BearerToken :=
  ((c.users.get? userId).filter fun t => now < t.instant + lifespan).map
    (·.token)

/- Keep a token of the service until the given time. -/
def keepAdmin
    (token : BearerToken)
    (validUntil : Instant)
    (c : TokenCache) : TokenCache :=
  { c with admin := some ⟨token, validUntil⟩ }

/- Keep a token of a user from the given time on. -/
def keepUser
    (userId : String)
    (token : BearerToken)
    (now : Instant)
    (c : TokenCache) : TokenCache :=
  { c with users := c.users.insert userId ⟨token, now⟩ }

end TokenCache

------------------------------------------------------------
-- The identity provider
------------------------------------------------------------

/- The provider, the credentials of the service, and kept tokens. -/
structure IdentityProvider (σ : Type) where
  network : Network σ
  baseUrl : String
  clientId : String
  clientSecret : String
  expirationBuffer : Nat
  userLifespan : Nat
  cache : Slot σ TokenCache

namespace IdentityProvider

/- Who asks for a token. -/
def credentials
    (p : IdentityProvider σ) : List (String × String) :=
  [("client_id", p.clientId), ("client_secret", p.clientSecret)]

/- The grant of an answer, which must have exactly the usual status. -/
def grantOf
    (a : Answer) : Except AuthError AccessGrant :=
  if a.status = .ok then (a.value AccessGrant.codec).mapError .request
  else .error (.accessDenied a.status a.text)

/- Ask for a grant. -/
def requestGrant
    (p : IdentityProvider σ)
    (form : List (String × String)) : Action σ AuthError AccessGrant := do
  let url ← .ofExcept
    ((resource p.baseUrl
      ["auth", "realms", "master", "protocol",
        "openid-connect", "token"]).mapError
      .request)
  let answer ← (p.network.request
    { method := "POST", url, payload := .form form }).mapError .request
  .ofExcept (grantOf answer)

/- Ask for a token of the service, and keep it while it is valid. -/
def requestAdminToken
    (p : IdentityProvider σ) : Action σ AuthError BearerToken := do
  let requestedAt ← .read p.network.now
  let grant ← p.requestGrant
    (p.credentials ++ [("grant_type", "client_credentials")])
  let token := BearerToken.ofAccess grant.accessToken
  let validUntil :=
    requestedAt + ((grant.lifetime - p.expirationBuffer : Nat) : Int)
  .modify (p.cache.update (.keepAdmin token validUntil))
  return token

/- The token of the service. -/
def adminToken
    (p : IdentityProvider σ) : Action σ AuthError BearerToken := do
  match ← .read (fun s => (p.cache.get s).adminAt? (p.network.now s)) with
  | some token => return token
  | none => p.requestAdminToken

/- Exchange the credentials of the service for a token of a user. -/
def exchange
    (p : IdentityProvider σ)
    (userId : String) : Action σ AuthError BearerToken := do
  let grant ← p.requestGrant
    (p.credentials ++
      [("grant_type", "urn:ietf:params:oauth:grant-type:token-exchange"),
        ("requested_subject", userId)])
  return .ofAccess grant.accessToken

/- Whether a user exists. -/
def userExists
    (p : IdentityProvider σ)
    (userId : String) : Action σ AuthError Bool := do
  let token ← p.adminToken
  let url ← .ofExcept
    ((resource p.baseUrl
      ["auth", "admin", "realms", "master", "users", userId]).mapError
      .request)
  let answer ←
    (p.network.request
      { method := "GET", url, headers := [tokenHeader token.text] }).mapError
      .request
  if answer.status = .notFound then return false
  else
    let _ ← .ofExcept (answer.checked.mapError .request)
    return true

/- Ask for a token of a user, and keep it. -/
def requestUserToken
    (p : IdentityProvider σ)
    (userId : String) : Action σ AuthError BearerToken := do
  match ← (p.exchange userId).attempt with
  | .ok token =>
    let now ← .read p.network.now
    .modify (p.cache.update (.keepUser userId token now))
    return token
  | .error e =>
    let userExists ← p.userExists userId
    .fail (if userExists then e else .userDoesNotExist)

/- The token of a user. -/
def userToken
    (p : IdentityProvider σ)
    (userId : String) : Action σ AuthError BearerToken := do
  match ← .read (fun s =>
    (p.cache.get s).userAt? p.userLifespan (p.network.now s) userId) with
  | some token => return token
  | none => p.requestUserToken userId

/- The provider as an issuer of tokens. -/
def issuer
    (p : IdentityProvider σ) : TokenIssuer σ where
  adminToken := p.adminToken
  userToken := p.userToken

end IdentityProvider

end ProcessEvents
