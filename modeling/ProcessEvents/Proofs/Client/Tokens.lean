import ProcessEvents.Client.Tokens
import ProcessEvents.Proofs.Record

/-
  This file tells which requests the client of the identity
  provider sends for a token, what it makes of their answers,
  and what it keeps. The token of a user who has none kept is
  asked for by an exchange. Only if that fails, the user is
  looked up, with the token of the service.

  Key definitions include:
    * `Client.Sent`, `Client.Network.Sends`
    * `Client.Network.recorded`, `IdentityProvider.recorded`
    * `IdentityProvider.AsksGrant`
    * `IdentityProvider.TellsAdmin`
    * `IdentityProvider.LooksUp`
    * `IdentityProvider.TellsUser`
    * `IdentityProvider.KeptAfter`, `IdentityProvider.Effect`

  Key theorems include:
    * `IdentityProvider.adminToken_tracks`
    * `IdentityProvider.userExists_tracks`
    * `IdentityProvider.userToken_tracks`
    * `IdentityProvider.KeptAfter.append`
    * `IdentityProvider.TellsUser.effect`
-/

namespace ProcessEvents

open Client
open ProcessEvents.Action (Tracks)

variable {σ β : Type}

------------------------------------------------------------
-- Requests that are recorded
------------------------------------------------------------

/- A slot of a state, as one of the state with something beside it. -/
def Slot.beside
    {α : Type}
    (slot : Slot σ α) : Slot (σ × β) α where
  get s := slot.get s.1
  set x s := (slot.set x s.1, s.2)

namespace Client

/- A request that has been sent, its answer, and the times of both. -/
structure Sent where
  request : Outgoing
  answer : Except TransportFault Answer
  sentAt : Instant
  answeredAt : Instant

namespace Network

/- Sending a request in a state leads to another one. -/
structure Sends
    (n : Network σ)
    (o : Outgoing)
    (s s' : σ)
    (e : Sent) : Prop where
  run : n.send o s = (e.answer, s')
  request : e.request = o
  sentAt : e.sentAt = n.now s
  answeredAt : e.answeredAt = n.now s'

/- What is recorded of a request. -/
def entry
    (n : Network σ)
    (o : Outgoing)
    (s : σ) : Sent :=
  { request := o
    answer := (n.send o s).1
    sentAt := n.now s
    answeredAt := n.now (n.send o s).2 }

/- The network, with a record of what is sent. -/
def recorded
    (n : Network σ) : Network (σ × List Sent) where
  send o s := ((n.send o s.1).1, (n.send o s.1).2, s.2 ++ [n.entry o s.1])
  now s := n.now s.1

theorem send_tracks
    (n : Network σ) (o : Outgoing) (s : σ) :
    Tracks s (n.send o) (n.recorded.send o) fun r s' log =>
      ∃ e, n.Sends o s s' e ∧ r = e.answer ∧ log = [e] :=
  ⟨[n.entry o s], fun _ => rfl, n.entry o s, ⟨rfl, rfl, rfl, rfl⟩, rfl, rfl⟩

/-
  What follows a request depends on whether it could be
  sent, and on its answer.
-/
theorem request_tracks
    {α ε : Type} {n : Network σ} {o : Outgoing} {s : σ} {f : RequestError → ε}
    {k : Answer → Action σ ε α} {k' : Answer → Action (σ × List Sent) ε α}
    {Q : Except ε α → σ → List Sent → Prop}
    (hUnsendable :
      ¬ (o.headers.all fun h => Http.Headers.isSendable h.2) = true →
        Q (.error (f (.transport .unsendableHeader))) s [])
    (hFault :
      ∀ e s' fault, n.Sends o s s' e → e.answer = .error fault →
        Q (.error (f (.transport fault))) s' [e])
    (hAnswer :
      ∀ e s' answer, n.Sends o s s' e → e.answer = .ok answer →
        Tracks s' (k answer) (k' answer) fun r s'' more =>
          Q r s'' ([e] ++ more)) :
    Tracks s ((n.request o).mapError f >>= k)
      ((n.recorded.request o).mapError f >>= k') Q := by
  unfold request
  by_cases hHeaders :
    (o.headers.all fun h => Http.Headers.isSendable h.2) = true
  · rw [if_pos hHeaders, if_pos hHeaders]
    have hSend :
        Tracks s (((n.send o).mapError .transport).mapError f)
          (((n.recorded.send o).mapError .transport).mapError f) fun r s' log =>
            ∃ e, n.Sends o s s' e ∧
              r = (e.answer.mapError .transport).mapError f ∧ log = [e] := by
      apply ((n.send_tracks o s).mapError (f := RequestError.transport)
        (Q := fun r s' log =>
        ∃ e, n.Sends o s s' e ∧ r = e.answer.mapError .transport ∧
          log = [e]) ?_).mapError
      · rintro _ s' _ ⟨e, hSends, rfl, rfl⟩
        exact ⟨e, hSends, rfl, rfl⟩
      · rintro _ s' _ ⟨e, hSends, rfl, rfl⟩
        exact ⟨e, hSends, rfl, rfl⟩
    apply hSend.bind
    · rintro x s' _ ⟨e, hSends, hResult, rfl⟩
      cases hGiven : e.answer with
      | error fault =>
          rw [hGiven] at hResult
          cases hResult
          exact hFault e s' fault hSends hGiven
      | ok answer =>
          rw [hGiven] at hResult
          cases hResult
    · rintro x s' _ ⟨e, hSends, hResult, rfl⟩
      cases hGiven : e.answer with
      | error fault =>
          rw [hGiven] at hResult
          cases hResult
      | ok answer =>
          rw [hGiven] at hResult
          cases hResult
          exact hAnswer e s' x hSends hGiven
  · rw [if_neg hHeaders, if_neg hHeaders]
    exact Tracks.quiet (fun _ => rfl) (hUnsendable hHeaders)

end Network

end Client

------------------------------------------------------------
-- What is asked for
------------------------------------------------------------

/- What an answer grants. -/
def Client.Sent.granted
    (e : Sent) : Except AuthError AccessGrant :=
  match e.answer with
  | .error fault => .error (.request (.transport fault))
  | .ok answer => IdentityProvider.grantOf answer

/- Whether a user exists, according to an answer. -/
def Client.Sent.existence
    (e : Sent) : Except AuthError Bool :=
  match e.answer with
  | .error fault => .error (.request (.transport fault))
  | .ok answer =>
    if answer.status = .notFound then .ok false
    else if answer.status.isSuccess then .ok true
    else .error (.request (.unexpectedStatus answer.status answer.text))

/- The token that a grant is about. -/
def AccessGrant.token
    (g : AccessGrant) : BearerToken :=
  .ofAccess g.accessToken

namespace IdentityProvider

/- The provider, with a record of the requests to it. -/
def recorded
    (p : IdentityProvider σ) : IdentityProvider (σ × List Sent) where
  network := p.network.recorded
  baseUrl := p.baseUrl
  clientId := p.clientId
  clientSecret := p.clientSecret
  expirationBuffer := p.expirationBuffer
  userLifespan := p.userLifespan
  cache := p.cache.beside

/- Where grants are asked for. -/
def tokenUrl
    (p : IdentityProvider σ) : Except RequestError Url :=
  resource p.baseUrl
    ["auth", "realms", "master", "protocol", "openid-connect", "token"]

/- Where a user is looked up. -/
def userUrl
    (p : IdentityProvider σ)
    (userId : String) : Except RequestError Url :=
  resource p.baseUrl ["auth", "admin", "realms", "master", "users", userId]

/- What the service asks for a token of its own with. -/
def adminForm
    (p : IdentityProvider σ) : List (String × String) :=
  p.credentials ++ [("grant_type", "client_credentials")]

/- What the service asks for the token of a user with. -/
def userForm
    (p : IdentityProvider σ)
    (userId : String) : List (String × String) :=
  p.credentials ++
    [("grant_type", "urn:ietf:params:oauth:grant-type:token-exchange"),
      ("requested_subject", userId)]

def grantRequest
    (url : Url)
    (form : List (String × String)) : Outgoing :=
  { method := "POST", url, payload := .form form }

def lookupRequest
    (url : Url)
    (token : BearerToken) : Outgoing :=
  { method := "GET", url, headers := [tokenHeader token.text] }

/- From when on a grant to the service is not used any more. -/
def validUntil
    (p : IdentityProvider σ)
    (sentAt : Instant)
    (g : AccessGrant) : Instant :=
  sentAt + ((g.lifetime - p.expirationBuffer : Nat) : Int)

------------------------------------------------------------
-- What is told
------------------------------------------------------------

/- A grant is asked for, if there is an address to ask. -/
inductive AsksGrant (p : IdentityProvider σ) (form : List (String × String))
  (s : σ) :
    Except AuthError AccessGrant → σ → List Sent → Prop
  | unsent {fault : RequestError} (hUrl : p.tokenUrl = .error fault) :
      AsksGrant p form s (.error (.request fault)) s []
  | sent {url : Url} {s' : σ} {e : Sent}
      (hUrl : p.tokenUrl = .ok url)
      (hSends : p.network.Sends (grantRequest url form) s s' e) :
      AsksGrant p form s e.granted s' [e]

/-
  The token of the service is the one that is kept, or one
  that is asked for.
-/
inductive TellsAdmin (p : IdentityProvider σ) (s : σ) :
    Except AuthError BearerToken → σ → List Sent → Prop
  | kept {token : BearerToken}
      (hKept : (p.cache.get s).adminAt? (p.network.now s) = some token) :
      TellsAdmin p s (.ok token) s []
  | granted {g : AccessGrant} {s' : σ} {log : List Sent}
      (hKept : (p.cache.get s).adminAt? (p.network.now s) = none)
      (hAsks : p.AsksGrant p.adminForm s (.ok g) s' log) :
      TellsAdmin p s (.ok g.token)
        (p.cache.update
          (.keepAdmin g.token (p.validUntil (p.network.now s) g)) s') log
  | refused {e : AuthError} {s' : σ} {log : List Sent}
      (hKept : (p.cache.get s).adminAt? (p.network.now s) = none)
      (hAsks : p.AsksGrant p.adminForm s (.error e) s' log) :
      TellsAdmin p s (.error e) s' log

/- A user is looked up with the token of the service. -/
inductive LooksUp (p : IdentityProvider σ) (userId : String) (s : σ) :
    Except AuthError Bool → σ → List Sent → Prop
  | refused {e : AuthError} {s' : σ} {log : List Sent}
      (hAdmin : p.TellsAdmin s (.error e) s' log) :
      LooksUp p userId s (.error e) s' log
  | unsent {token : BearerToken} {fault : RequestError}
      {s' : σ} {log : List Sent}
      (hAdmin : p.TellsAdmin s (.ok token) s' log)
      (hUrl : p.userUrl userId = .error fault) :
      LooksUp p userId s (.error (.request fault)) s' log
  | unsendable {token : BearerToken} {url : Url} {s' : σ} {log : List Sent}
      (hAdmin : p.TellsAdmin s (.ok token) s' log)
      (hUrl : p.userUrl userId = .ok url)
      (hToken : ¬ Http.Headers.isSendable token.text) :
      LooksUp p userId s
        (.error (.request (.transport .unsendableHeader))) s' log
  | sent {token : BearerToken} {url : Url} {s' s'' : σ}
      {log : List Sent} {e : Sent}
      (hAdmin : p.TellsAdmin s (.ok token) s' log)
      (hUrl : p.userUrl userId = .ok url)
      (hSends : p.network.Sends (lookupRequest url token) s' s'' e) :
      LooksUp p userId s e.existence s'' (log ++ [e])

/-
  How the request for a token ends if the exchange has
  failed and the user was looked up.
-/
def failure
    (e : AuthError) : Except AuthError Bool → AuthError
  | .ok true => e
  | .ok false => .userDoesNotExist
  | .error e' => e'

/- The token of a user is the one that is kept, or one that is asked for. -/
inductive TellsUser (p : IdentityProvider σ) (userId : String) (s : σ) :
    Except AuthError BearerToken → σ → List Sent → Prop
  | kept {token : BearerToken}
      (hKept :
        (p.cache.get s).userAt? p.userLifespan (p.network.now s) userId =
          some token) :
      TellsUser p userId s (.ok token) s []
  | granted {g : AccessGrant} {s' : σ} {log : List Sent}
      (hKept :
        (p.cache.get s).userAt? p.userLifespan (p.network.now s) userId = none)
      (hAsks : p.AsksGrant (p.userForm userId) s (.ok g) s' log) :
      TellsUser p userId s (.ok g.token)
        (p.cache.update (.keepUser userId g.token (p.network.now s')) s') log
  | refused {e : AuthError} {found : Except AuthError Bool}
      {s' s'' : σ} {log more : List Sent}
      (hKept :
        (p.cache.get s).userAt? p.userLifespan (p.network.now s) userId = none)
      (hAsks : p.AsksGrant (p.userForm userId) s (.error e) s' log)
      (hLookup : p.LooksUp userId s' found s'' more) :
      TellsUser p userId s (.error (failure e found)) s'' (log ++ more)

variable (p : IdentityProvider σ)

theorem requestGrant_tracks
    (form : List (String × String)) (s : σ) :
    Tracks s (p.requestGrant form) (p.recorded.requestGrant form)
      (p.AsksGrant form s) := by
  change Tracks s
    (Action.ofExcept (p.tokenUrl.mapError AuthError.request) >>= _)
    (Action.ofExcept (p.tokenUrl.mapError AuthError.request) >>= _) _
  cases hUrl : p.tokenUrl with
  | error fault => exact Tracks.quiet (fun _ => rfl) (.unsent hUrl)
  | ok url =>
      change Tracks s ((p.network.request (grantRequest url form)).mapError
        AuthError.request >>= _)
        ((p.network.recorded.request (grantRequest url form)).mapError
          AuthError.request >>= _) _
      apply Network.request_tracks
      · intro hHeaders
        exact absurd rfl hHeaders
      · intro e s' fault hSends hFault
        have hGranted : e.granted = .error (.request (.transport fault)) := by
          rw [Sent.granted, hFault]
        rw [← hGranted]
        exact .sent hUrl hSends
      · intro e s' answer hSends hAnswer
        have hGranted : e.granted = grantOf answer := by
          rw [Sent.granted, hAnswer]
        apply Tracks.quiet (fun _ => rfl)
        change p.AsksGrant form s (grantOf answer) s' ([e] ++ [])
        rw [← hGranted]
        exact .sent hUrl hSends

theorem requestAdminToken_tracks
    {s : σ}
    (hKept : (p.cache.get s).adminAt? (p.network.now s) = none) :
    Tracks s p.requestAdminToken p.recorded.requestAdminToken
      (p.TellsAdmin s) := by
  unfold requestAdminToken
  apply Tracks.bind_read
  apply (p.requestGrant_tracks p.adminForm s).bind
  · intro e s' log hAsks
    exact .refused hKept hAsks
  · intro g s' log hAsks
    apply Tracks.quiet (fun _ => rfl)
    rw [List.append_nil]
    exact .granted hKept hAsks

/- The token of the service is told as it is kept, or asked for. -/
theorem adminToken_tracks
    (s : σ) :
    Tracks s p.adminToken p.recorded.adminToken (p.TellsAdmin s) := by
  unfold adminToken
  apply Tracks.bind_read
  cases hKept : (p.cache.get s).adminAt? (p.network.now s) with
  | some token => exact Tracks.quiet (fun _ => rfl) (.kept hKept)
  | none => exact p.requestAdminToken_tracks hKept

theorem exchange_tracks
    (userId : String) (s : σ) :
    Tracks s (p.exchange userId) (p.recorded.exchange userId) fun r s' log =>
      ∃ x, p.AsksGrant (p.userForm userId) s x s' log ∧
        r = x.map AccessGrant.token := by
  unfold exchange
  apply (p.requestGrant_tracks (p.userForm userId) s).bind
  · intro e s' log hAsks
    exact ⟨_, hAsks, rfl⟩
  · intro g s' log hAsks
    apply Tracks.quiet (fun _ => rfl)
    rw [List.append_nil]
    exact ⟨_, hAsks, rfl⟩

/- A user is looked up, once there is a token for it. -/
theorem userExists_tracks
    (userId : String) (s : σ) :
    Tracks s (p.userExists userId) (p.recorded.userExists userId)
      (p.LooksUp userId s) := by
  unfold userExists
  apply (p.adminToken_tracks s).bind
  · intro e s' log hAdmin
    exact .refused hAdmin
  · intro token s' log hAdmin
    change Tracks s'
      (Action.ofExcept ((p.userUrl userId).mapError AuthError.request) >>= _)
      (Action.ofExcept ((p.userUrl userId).mapError AuthError.request) >>= _) _
    cases hUrl : p.userUrl userId with
    | error fault =>
        apply Tracks.quiet (fun _ => rfl)
        rw [List.append_nil]
        exact .unsent hAdmin hUrl
    | ok url =>
        change Tracks s' ((p.network.request (lookupRequest url token)).mapError
          AuthError.request >>= _)
          ((p.network.recorded.request (lookupRequest url token)).mapError
            AuthError.request >>= _) _
        apply Network.request_tracks
        · intro hHeaders
          rw [List.append_nil]
          refine .unsendable hAdmin hUrl fun hToken => hHeaders ?_
          rw [lookupRequest, List.all_cons, List.all_nil, Bool.and_true]
          exact hToken
        · intro e s'' fault hSends hFault
          have hExistence :
              e.existence = .error (.request (.transport fault)) := by
            rw [Sent.existence, hFault]
          rw [← hExistence]
          exact .sent hAdmin hUrl hSends
        · intro e s'' answer hSends hAnswer
          have hTold := LooksUp.sent hAdmin hUrl hSends
          rw [Sent.existence, hAnswer] at hTold
          dsimp only at hTold ⊢
          by_cases hMissing : answer.status = .notFound
          · rw [if_pos hMissing] at hTold
            rw [if_pos hMissing, if_pos hMissing]
            exact Tracks.quiet (fun _ => rfl) hTold
          · rw [if_neg hMissing] at hTold
            rw [if_neg hMissing, if_neg hMissing, Answer.checked]
            by_cases hSuccess : answer.status.isSuccess = true
            · rw [if_pos hSuccess] at hTold ⊢
              exact Tracks.quiet (fun _ => rfl) hTold
            · rw [if_neg hSuccess] at hTold ⊢
              exact Tracks.quiet (fun _ => rfl) hTold

theorem requestUserToken_tracks
    {userId : String} {s : σ}
    (hKept : (p.cache.get s).userAt? p.userLifespan (p.network.now s) userId =
      none) :
    Tracks s (p.requestUserToken userId) (p.recorded.requestUserToken userId)
      (p.TellsUser userId s) := by
  unfold requestUserToken
  apply (p.exchange_tracks userId s).bind_attempt
  rintro _ s' log ⟨e | g, hAsks, rfl⟩
  · apply (p.userExists_tracks userId s').bind
    · intro e' s'' more hLookup
      have hTold := TellsUser.refused hKept hAsks hLookup
      exact hTold
    · intro found s'' more hLookup
      have hTold := TellsUser.refused hKept hAsks hLookup
      apply Tracks.quiet (fun _ => rfl)
      rw [List.append_nil]
      cases found with
      | true => exact hTold
      | false => exact hTold
  · apply Tracks.bind_read
    apply Tracks.quiet (fun _ => rfl)
    rw [List.append_nil]
    exact .granted hKept hAsks

/- The token of a user is told as it is kept, or asked for. -/
theorem userToken_tracks
    (userId : String) (s : σ) :
    Tracks s (p.userToken userId) (p.recorded.userToken userId)
      (p.TellsUser userId s) := by
  unfold userToken
  apply Tracks.bind_read
  cases hKept :
    (p.cache.get s).userAt? p.userLifespan (p.network.now s) userId with
  | some token => exact Tracks.quiet (fun _ => rfl) (.kept hKept)
  | none => exact p.requestUserToken_tracks hKept

------------------------------------------------------------
-- What is kept
------------------------------------------------------------

/-
  The cache holds what has been put into it, which takes no
  time. Sending a request leaves it alone, and time does not
  go back.
-/
structure Lawful
    (p : IdentityProvider σ) : Prop where
  get_set : ∀ c s, p.cache.get (p.cache.set c s) = c
  now_set : ∀ c s, p.network.now (p.cache.set c s) = p.network.now s
  get_send : ∀ o s, p.cache.get (p.network.send o s).2 = p.cache.get s
  now_send : ∀ o s, p.network.now s ≤ p.network.now (p.network.send o s).2

/- The answer to a request grants what a form asks for. -/
structure Grants
    (p : IdentityProvider σ)
    (form : List (String × String))
    (e : Sent)
    (g : AccessGrant) : Prop where
  request : ∃ url, p.tokenUrl = .ok url ∧ e.request = grantRequest url form
  granted : e.granted = .ok g

variable {p} {form : List (String × String)} {userId : String}
  {s s' : σ} {log : List Sent}

/- Whatever a form asks for, it is asked for in the same way. -/
theorem Grants.form_eq
    {form' : List (String × String)} {url : Url} {e : Sent} {g : AccessGrant}
    (hGrants : p.Grants form e g)
    (hRequest : e.request = grantRequest url form') :
    form = form' := by
  rcases hGrants.request with ⟨url', -, hOwn⟩
  have hPayload : Payload.form form = Payload.form form' :=
    congrArg Outgoing.payload (hOwn.symm.trans hRequest)
  exact Payload.form.inj hPayload

theorem adminForm_ne_userForm
    (p : IdentityProvider σ) (userId : String) :
    p.adminForm ≠ p.userForm userId := by
  intro hSame
  have hLength := congrArg List.length hSame
  simp [adminForm, userForm] at hLength

theorem userForm_injective
    {other : String}
    (hSame : p.userForm userId = p.userForm other) :
    userId = other := by
  have hOwn := List.append_cancel_left hSame
  exact (Prod.mk.inj (List.cons.inj (List.cons.inj hOwn).2).1).2

theorem get_eq_of_sends
    {o : Outgoing} {e : Sent}
    (hSends : p.network.Sends o s s' e)
    (hLawful : p.Lawful) :
    p.cache.get s' = p.cache.get s := by
  have hKept := hLawful.get_send o s
  rw [hSends.run] at hKept
  exact hKept

theorem AsksGrant.get_eq
    {x : Except AuthError AccessGrant}
    (hAsks : p.AsksGrant form s x s' log)
    (hLawful : p.Lawful) :
    p.cache.get s' = p.cache.get s := by
  cases hAsks with
  | unsent _ => rfl
  | sent _ hSends => exact get_eq_of_sends hSends hLawful

/- What has been granted has been granted by the one request that was sent. -/
theorem AsksGrant.grants
    {g : AccessGrant}
    (hAsks : p.AsksGrant form s (.ok g) s' log) :
    ∃ e,
      log = [e] ∧ p.Grants form e g ∧
        e.sentAt = p.network.now s ∧ e.answeredAt = p.network.now s' := by
  generalize hResult : Except.ok g = x at hAsks
  cases hAsks with
  | unsent _ => cases hResult
  | sent hUrl hSends =>
      exact ⟨_, rfl, ⟨⟨_, hUrl, hSends.request⟩, hResult.symm⟩,
        hSends.sentAt, hSends.answeredAt⟩

/- What has been refused has not been granted to anybody. -/
theorem AsksGrant.grants_nothing
    {x : AuthError}
    (hAsks : p.AsksGrant form s (.error x) s' log)
    (form' : List (String × String)) :
    ∀ e ∈ log, ∀ g, ¬ p.Grants form' e g := by
  generalize hResult : Except.error x = r at hAsks
  cases hAsks with
  | unsent _ => exact List.forall_mem_nil _
  | sent hUrl hSends =>
      intro e hMem g hGrants
      rw [List.mem_singleton] at hMem
      subst hMem
      rw [hGrants.granted] at hResult
      cases hResult

/- What a form asks for is granted to no other form. -/
theorem AsksGrant.grants_no_other
    {x : Except AuthError AccessGrant} {form' : List (String × String)}
    (hAsks : p.AsksGrant form s x s' log)
    (hOther : form' ≠ form) :
    ∀ e ∈ log, ∀ g, ¬ p.Grants form' e g := by
  cases hAsks with
  | unsent _ => exact List.forall_mem_nil _
  | sent hUrl hSends =>
      intro e hMem g hGrants
      rw [List.mem_singleton] at hMem
      subst hMem
      exact hOther (hGrants.form_eq hSends.request)

/- What the service has asked for itself is no concern of the users. -/
theorem TellsAdmin.users_eq
    {r : Except AuthError BearerToken}
    (hAdmin : p.TellsAdmin s r s' log)
    (hLawful : p.Lawful) :
    (p.cache.get s').users = (p.cache.get s).users := by
  cases hAdmin with
  | kept _ => rfl
  | granted _ hAsks =>
      rw [Slot.update, hLawful.get_set, hAsks.get_eq hLawful]
      rfl
  | refused _ hAsks => rw [hAsks.get_eq hLawful]

/- The service asks for its token with its own form only. -/
theorem TellsAdmin.request
    {r : Except AuthError BearerToken}
    (hAdmin : p.TellsAdmin s r s' log) :
    ∀ e ∈ log, ∃ url, e.request = grantRequest url p.adminForm := by
  have hOwn :
      ∀ {x s' log}, p.AsksGrant p.adminForm s x s' log →
        ∀ e ∈ log, ∃ url, e.request = grantRequest url p.adminForm := by
    intro x s' log hAsks
    cases hAsks with
    | unsent _ => exact List.forall_mem_nil _
    | sent _ hSends =>
        intro e hMem
        rw [List.mem_singleton] at hMem
        subst hMem
        exact ⟨_, hSends.request⟩
  cases hAdmin with
  | kept _ => exact List.forall_mem_nil _
  | granted _ hAsks => exact hOwn hAsks
  | refused _ hAsks => exact hOwn hAsks

theorem LooksUp.users_eq
    {found : Except AuthError Bool}
    (hLookup : p.LooksUp userId s found s' log)
    (hLawful : p.Lawful) :
    (p.cache.get s').users = (p.cache.get s).users := by
  cases hLookup with
  | refused hAdmin => exact hAdmin.users_eq hLawful
  | unsent hAdmin _ => exact hAdmin.users_eq hLawful
  | unsendable hAdmin _ _ => exact hAdmin.users_eq hLawful
  | sent hAdmin _ hSends =>
      rw [get_eq_of_sends hSends hLawful, hAdmin.users_eq hLawful]

------------------------------------------------------------
-- The effects of requests
------------------------------------------------------------

/-
  What is kept after requests for tokens: the last one that
  has been granted for a form, or what was kept before.
-/
inductive KeptAfter
    (p : IdentityProvider σ)
    (form : List (String × String))
    (instant : Sent → AccessGrant → Instant)
    (before : Option TimedToken)
    (log : List Sent) : Option TimedToken → Prop
  | same (hNone : ∀ e ∈ log, ∀ g, ¬ p.Grants form e g) :
      KeptAfter p form instant before log before
  | granted (earlier later : List Sent) {e : Sent} {g : AccessGrant}
      (hLog : log = earlier ++ e :: later)
      (hGrants : p.Grants form e g)
      (hLast : ∀ e' ∈ later, ∀ g', ¬ p.Grants form e' g') :
      KeptAfter p form instant before log (some ⟨g.token, instant e g⟩)

/- What requests for tokens do to the cache, and in what time. -/
structure Effect
    (p : IdentityProvider σ)
    (s : σ)
    (log : List Sent)
    (s' : σ) : Prop where
  admin :
    p.KeptAfter p.adminForm (fun e g => p.validUntil e.sentAt g)
      (p.cache.get s).admin log (p.cache.get s').admin
  users :
    ∀ userId,
      p.KeptAfter (p.userForm userId) (fun e _ => e.answeredAt)
        ((p.cache.get s).users.get? userId) log
        ((p.cache.get s').users.get? userId)
  time : p.network.now s ≤ p.network.now s'
  sent : ∀ e ∈ log, e.sentAt ≤ e.answeredAt ∧ e.answeredAt ≤ p.network.now s'

variable
  {instant : Sent → AccessGrant → Instant} {s'' : σ} {more : List Sent}

/- Of requests in turn, the later ones decide, unless they grant nothing. -/
theorem KeptAfter.append
    {before mid after : Option TimedToken}
    (hFirst : p.KeptAfter form instant before log mid)
    (hThen : p.KeptAfter form instant mid more after) :
    p.KeptAfter form instant before (log ++ more) after := by
  cases hThen with
  | same hNone =>
      cases hFirst with
      | same hNoneBefore =>
          apply KeptAfter.same
          rw [List.forall_mem_append]
          exact ⟨hNoneBefore, hNone⟩
      | @granted earlier later e g hLog hGrants hLast =>
          refine .granted earlier (later ++ more) ?_ hGrants ?_
          · rw [hLog, List.append_assoc, List.cons_append]
          · rw [List.forall_mem_append]
            exact ⟨hLast, hNone⟩
  | @granted earlier later e g hLog hGrants hLast =>
      refine .granted (log ++ earlier) later ?_ hGrants hLast
      rw [hLog, List.append_assoc]

theorem Effect.append
    (hFirst : p.Effect s log s')
    (hThen : p.Effect s' more s'') :
    p.Effect s (log ++ more) s'' where
  admin := hFirst.admin.append hThen.admin
  users userId := (hFirst.users userId).append (hThen.users userId)
  time := Int.le_trans hFirst.time hThen.time
  sent := by
    rw [List.forall_mem_append]
    refine ⟨fun e hMem => ?_, hThen.sent⟩
    rcases hFirst.sent e hMem with ⟨hAnswered, hBefore⟩
    exact ⟨hAnswered, Int.le_trans hBefore hThen.time⟩

/- Requests that grant nothing leave the cache as it is. -/
theorem Effect.of_none
    (hNone : ∀ form, ∀ e ∈ log, ∀ g, ¬ p.Grants form e g)
    (hCache : p.cache.get s' = p.cache.get s)
    (hTime : p.network.now s ≤ p.network.now s')
    (hSent : ∀ e ∈ log, e.sentAt ≤ e.answeredAt ∧
      e.answeredAt ≤ p.network.now s') :
    p.Effect s log s' where
  admin := by
    rw [hCache]
    exact .same (hNone p.adminForm)
  users userId := by
    rw [hCache]
    exact .same (hNone (p.userForm userId))
  time := hTime
  sent := hSent

theorem Effect.nil
    (s : σ) :
    p.Effect s [] s :=
  .of_none (fun _ => List.forall_mem_nil _) rfl
    (Int.le_refl _) (List.forall_mem_nil _)

/- Without a grant, what was kept before is still kept. -/
theorem KeptAfter.eq_of_none
    {before after : Option TimedToken}
    (hKept : p.KeptAfter form instant before log after)
    (hNone : ∀ e ∈ log, ∀ g, ¬ p.Grants form e g) :
    after = before := by
  cases hKept with
  | same _ => rfl
  | @granted earlier later e g hLog hGrants _ =>
      have hMem : e ∈ log := by
        rw [hLog]
        exact List.mem_append_right _ List.mem_cons_self
      exact absurd hGrants (hNone e hMem g)

theorem now_le_of_sends
    {o : Outgoing} {e : Sent}
    (hSends : p.network.Sends o s s' e)
    (hLawful : p.Lawful) :
    p.network.now s ≤ p.network.now s' := by
  have hTime := hLawful.now_send o s
  rw [hSends.run] at hTime
  exact hTime

/- A request is answered after it has been sent, and before anything else. -/
theorem sent_of_sends
    {o : Outgoing} {e : Sent}
    (hSends : p.network.Sends o s s' e)
    (hLawful : p.Lawful) :
    ∀ e' ∈ [e], e'.sentAt ≤ e'.answeredAt ∧
      e'.answeredAt ≤ p.network.now s' := by
  intro e' hMem
  rw [List.mem_singleton.mp hMem, hSends.sentAt, hSends.answeredAt]
  exact ⟨now_le_of_sends hSends hLawful, Int.le_refl _⟩

theorem AsksGrant.time
    {x : Except AuthError AccessGrant}
    (hAsks : p.AsksGrant form s x s' log)
    (hLawful : p.Lawful) :
    p.network.now s ≤ p.network.now s' ∧
      ∀ e ∈ log, e.sentAt ≤ e.answeredAt ∧ e.answeredAt ≤ p.network.now s' := by
  cases hAsks with
  | unsent _ => exact ⟨Int.le_refl _, List.forall_mem_nil _⟩
  | sent _ hSends =>
      exact ⟨now_le_of_sends hSends hLawful, sent_of_sends hSends hLawful⟩

theorem AsksGrant.effect_of_error
    {x : AuthError}
    (hAsks : p.AsksGrant form s (.error x) s' log)
    (hLawful : p.Lawful) :
    p.Effect s log s' :=
  .of_none hAsks.grants_nothing (hAsks.get_eq hLawful) (hAsks.time hLawful).1
    (hAsks.time hLawful).2

/- What the service asks for itself is kept for nobody else. -/
theorem TellsAdmin.effect
    {r : Except AuthError BearerToken}
    (hAdmin : p.TellsAdmin s r s' log)
    (hLawful : p.Lawful) :
    p.Effect s log s' := by
  cases hAdmin with
  | kept _ => exact .nil s
  | refused _ hAsks => exact hAsks.effect_of_error hLawful
  | @granted g s₁ _ _ hAsks =>
      rcases hAsks.time hLawful with ⟨hTime, hSent⟩
      have hUsers := fun userId =>
        hAsks.grants_no_other (p.adminForm_ne_userForm userId).symm
      rcases hAsks.grants with ⟨e, rfl, hGrants, hSentAt, -⟩
      refine ⟨?_, fun userId => ?_, ?_, ?_⟩
      · rw [Slot.update, hLawful.get_set, ← hSentAt]
        exact .granted [] [] rfl hGrants (List.forall_mem_nil _)
      · rw [Slot.update, hLawful.get_set, hAsks.get_eq hLawful]
        exact .same (hUsers userId)
      · rw [Slot.update, hLawful.now_set]
        exact hTime
      · rw [Slot.update, hLawful.now_set]
        exact hSent

/- A lookup grants nothing. -/
theorem effect_of_lookup
    {url : Url} {token : BearerToken} {e : Sent}
    (hSends : p.network.Sends (lookupRequest url token) s s' e)
    (hLawful : p.Lawful) :
    p.Effect s [e] s' := by
  apply Effect.of_none _ (get_eq_of_sends hSends hLawful)
    (now_le_of_sends hSends hLawful)
    (sent_of_sends hSends hLawful)
  intro form e' hMem g hGrants
  rw [List.mem_singleton.mp hMem] at hGrants
  rcases hGrants.request with ⟨url', -, hRequest⟩
  have hMethod : "GET" = "POST" :=
    congrArg Outgoing.method (hSends.request.symm.trans hRequest)
  exact absurd hMethod (by decide)

theorem LooksUp.effect
    {userId : String} {found : Except AuthError Bool}
    (hLookup : p.LooksUp userId s found s' log)
    (hLawful : p.Lawful) :
    p.Effect s log s' := by
  cases hLookup with
  | refused hAdmin => exact hAdmin.effect hLawful
  | unsent hAdmin _ => exact hAdmin.effect hLawful
  | unsendable hAdmin _ _ => exact hAdmin.effect hLawful
  | sent hAdmin _ hSends =>
      exact (hAdmin.effect hLawful).append (effect_of_lookup hSends hLawful)

/- What is asked for a user is kept for this user. -/
theorem TellsUser.effect
    {userId : String} {r : Except AuthError BearerToken}
    (hUser : p.TellsUser userId s r s' log)
    (hLawful : p.Lawful) :
    p.Effect s log s' := by
  cases hUser with
  | kept _ => exact .nil s
  | refused _ hAsks hLookup =>
      exact (hAsks.effect_of_error hLawful).append (hLookup.effect hLawful)
  | @granted g s₁ _ _ hAsks =>
      rcases hAsks.time hLawful with ⟨hTime, hSent⟩
      have hAdmin := hAsks.grants_no_other (p.adminForm_ne_userForm userId)
      have hOthers := fun other (hApart : other ≠ userId) =>
        hAsks.grants_no_other (mt userForm_injective hApart)
      rcases hAsks.grants with ⟨e, rfl, hGrants, -, hAnsweredAt⟩
      refine ⟨?_, fun other => ?_, ?_, ?_⟩
      · rw [Slot.update, hLawful.get_set, hAsks.get_eq hLawful]
        exact .same hAdmin
      · rw [Slot.update, hLawful.get_set, hAsks.get_eq hLawful,
          TokenCache.keepUser]
        dsimp only
        rw [Dict.get?_insert]
        by_cases hSame : other = userId
        · rw [if_pos hSame, hSame, ← hAnsweredAt]
          exact .granted [] [] rfl hGrants (List.forall_mem_nil _)
        · rw [if_neg hSame]
          exact .same (hOthers other hSame)
      · rw [Slot.update, hLawful.now_set]
        exact hTime
      · rw [Slot.update, hLawful.now_set]
        exact hSent

end IdentityProvider

end ProcessEvents
