import ProcessEvents.Proofs.Client.Tokens

/-
  This file tells how the request for the token of a user
  ends who has none kept: with the token that the exchange
  has granted, or else with the failure of the exchange,
  unless the user is not found. If the lookup of the user
  fails, its own failure takes the place of the other one.

  Key definitions include:
    * `IdentityProvider.FindsNobody`
    * `Script`

  Key theorems include:
    * `IdentityProvider.LooksUp.found_iff`
    * `IdentityProvider.failure_eq_missing_iff`
    * `IdentityProvider.userToken_fails_iff`
-/

namespace ProcessEvents

open Client

variable {σ : Type}

------------------------------------------------------------
-- Users who are not found
------------------------------------------------------------

namespace IdentityProvider

/- The lookup of a user has been answered with there being none. -/
def FindsNobody
    (p : IdentityProvider σ)
    (userId : String)
    (e : Sent) : Prop :=
  e.request.method = "GET" ∧
    p.userUrl userId = .ok e.request.url ∧
    ∃ answer, e.answer = .ok answer ∧ answer.status = .notFound

variable {p : IdentityProvider σ} {userId : String} {s s' : σ} {log : List Sent}

theorem existence_eq_false_iff
    {e : Sent} :
    e.existence = .ok false ↔
      ∃ answer, e.answer = .ok answer ∧ answer.status = .notFound := by
  unfold Sent.existence
  cases e.answer with
  | error fault => simp
  | ok answer =>
      dsimp only
      by_cases hMissing : answer.status = .notFound
      · rw [if_pos hMissing]
        exact ⟨fun _ => ⟨answer, rfl, hMissing⟩, fun _ => rfl⟩
      · rw [if_neg hMissing]
        constructor
        · intro hFound
          split at hFound
          · cases hFound
          · cases hFound
        · rintro ⟨_, hAnswer, hStatus⟩
          cases hAnswer
          exact absurd hStatus hMissing

/- Asking for its own token, the service looks up nobody. -/
theorem TellsAdmin.finds_somebody
    {r : Except AuthError BearerToken}
    (hAdmin : p.TellsAdmin s r s' log) :
    ∀ e ∈ log, ¬ p.FindsNobody userId e := by
  intro e hMem hNobody
  rcases hAdmin.request e hMem with ⟨url, hRequest⟩
  have hMethod : e.request.method = "POST" := congrArg Outgoing.method hRequest
  rw [hNobody.1] at hMethod
  exact absurd hMethod (by decide)

/- There is no user exactly if the lookup has been answered so. -/
theorem LooksUp.found_iff
    {found : Except AuthError Bool}
    (hLookup : p.LooksUp userId s found s' log) :
    found = .ok false ↔ ∃ e ∈ log, p.FindsNobody userId e := by
  cases hLookup with
  | refused hAdmin =>
      exact ⟨nofun, fun ⟨e, hMem, hNobody⟩ =>
        absurd hNobody (hAdmin.finds_somebody e hMem)⟩
  | unsent hAdmin _ =>
      exact ⟨nofun, fun ⟨e, hMem, hNobody⟩ =>
        absurd hNobody (hAdmin.finds_somebody e hMem)⟩
  | unsendable hAdmin _ _ =>
      exact ⟨nofun, fun ⟨e, hMem, hNobody⟩ =>
        absurd hNobody (hAdmin.finds_somebody e hMem)⟩
  | @sent token url s₁ s₂ before e hAdmin hUrl hSends =>
      rw [existence_eq_false_iff]
      constructor
      · intro hMissing
        refine ⟨e, List.mem_append_right _ (List.mem_singleton.mpr rfl),
          ?_, ?_, hMissing⟩
        · rw [hSends.request]
          rfl
        · rw [hSends.request]
          exact hUrl
      · rintro ⟨e', hMem, hNobody⟩
        rcases List.mem_append.mp hMem with hBefore | hLast
        · exact absurd hNobody (hAdmin.finds_somebody e' hBefore)
        · rw [List.mem_singleton.mp hLast] at hNobody
          exact hNobody.2.2

------------------------------------------------------------
-- Failures
------------------------------------------------------------

/- No answer to a form tells that a user does not exist. -/
theorem granted_ne_missing
    (e : Sent) :
    e.granted ≠ .error .userDoesNotExist := by
  unfold Sent.granted
  cases e.answer with
  | error fault => exact nofun
  | ok answer =>
      dsimp only
      unfold grantOf
      split
      · cases answer.value AccessGrant.codec with
        | error _ => exact nofun
        | ok _ => exact nofun
      · exact nofun

theorem existence_ne_missing
    (e : Sent) :
    e.existence ≠ .error .userDoesNotExist := by
  unfold Sent.existence
  cases e.answer with
  | error fault => exact nofun
  | ok answer =>
      dsimp only
      split
      · exact nofun
      · split
        · exact nofun
        · exact nofun

theorem AsksGrant.ne_missing
    {form : List (String × String)} {x : Except AuthError AccessGrant}
    (hAsks : p.AsksGrant form s x s' log) :
    x ≠ .error .userDoesNotExist := by
  cases hAsks with
  | unsent _ => exact nofun
  | sent _ _ => exact granted_ne_missing _

theorem TellsAdmin.ne_missing
    {r : Except AuthError BearerToken}
    (hAdmin : p.TellsAdmin s r s' log) :
    r ≠ .error .userDoesNotExist := by
  cases hAdmin with
  | kept _ => exact nofun
  | granted _ _ => exact nofun
  | refused _ hAsks =>
      intro hSame
      cases hSame
      exact hAsks.ne_missing rfl

theorem LooksUp.ne_missing
    {found : Except AuthError Bool}
    (hLookup : p.LooksUp userId s found s' log) :
    found ≠ .error .userDoesNotExist := by
  cases hLookup with
  | refused hAdmin =>
      intro hSame
      cases hSame
      exact hAdmin.ne_missing rfl
  | unsent _ _ => exact nofun
  | unsendable _ _ _ => exact nofun
  | sent _ _ _ => exact existence_ne_missing _

/- A user is told not to exist only if that is what the lookup has found. -/
theorem failure_eq_missing_iff
    {e : AuthError} {found : Except AuthError Bool}
    (hError : e ≠ .userDoesNotExist)
    (hLookup : found ≠ .error .userDoesNotExist) :
    failure e found = .userDoesNotExist ↔ found = .ok false := by
  rcases found with e' | (_ | _)
  · constructor
    · intro hSame
      exact absurd (congrArg Except.error hSame) hLookup
    · nofun
  · exact ⟨fun _ => rfl, fun _ => rfl⟩
  · exact ⟨fun hSame => absurd hSame hError, nofun⟩

/-
  If the user is not missing, the failure is that of the
  lookup, should it have failed.
-/
theorem failure_eq_iff
    (e : AuthError) (found : Except AuthError Bool) :
    (found ≠ .ok false → failure e found = e) ↔
      ∀ e', found = .error e' → e' = e := by
  rcases found with e' | (_ | _)
  · constructor
    · intro hFails e'' hSame
      cases hSame
      exact hFails nofun
    · exact fun hSame _ => hSame e' rfl
  · exact ⟨fun _ => nofun, fun _ hMissing => absurd rfl hMissing⟩
  · exact ⟨fun _ => nofun, fun _ _ => rfl⟩

------------------------------------------------------------
-- The token of a user
------------------------------------------------------------

/-
  Without a kept token, an exchange that succeeds tells the
  token. If it fails, the user is looked up: the user does
  not exist exactly if that is what is answered. Otherwise
  the failure of the exchange is told if and only if the
  lookup, and the request of a token for it, have not failed
  in another way. What has failed is not kept.
-/
theorem userToken_fails_iff
    (hLawful : p.Lawful)
    (hNone : (p.cache.get s).userAt? p.userLifespan (p.network.now s) userId =
      none) :
    ∃ exchanged s₁ asked result s' looked,
      p.AsksGrant (p.userForm userId) s exchanged s₁ asked ∧
        p.userToken userId s = (result, s') ∧
        (∀ record,
          p.recorded.userToken userId (s, record) =
            (result, s', record ++ (asked ++ looked))) ∧
        (∀ g, exchanged = .ok g → looked = [] ∧ result = .ok g.token) ∧
        ∀ e, exchanged = .error e →
          ∃ found,
            p.LooksUp userId s₁ found s' looked ∧
              (result = .error .userDoesNotExist ↔
                ∃ sent ∈ looked, p.FindsNobody userId sent) ∧
              ((¬ (∃ sent ∈ looked, p.FindsNobody userId sent) →
                result = .error e) ↔
                ∀ e', found = .error e' → e' = e) ∧
              (p.cache.get s').users = (p.cache.get s).users ∧
              ((∀ sent ∈ looked, ∀ g, ¬ p.Grants p.adminForm sent g) →
                (p.cache.get s').admin = (p.cache.get s).admin) := by
  rcases p.userToken_tracks userId s with ⟨notes, hRun, hTells⟩
  have hPlain : p.userToken userId s =
      ((p.userToken userId s).1, (p.userToken userId s).2) := rfl
  generalize (p.userToken userId s).1 = result at hRun hTells hPlain
  generalize (p.userToken userId s).2 = s' at hRun hTells hPlain
  cases hTells with
  | kept hKept =>
      rw [hNone] at hKept
      cases hKept
  | @granted g s₁ asked hKept hAsks =>
      refine ⟨.ok g, s₁, notes, _, _, [], hAsks,
        hPlain, fun record => ?_, ?_, nofun⟩
      · rw [List.append_nil, hRun]
      · rintro _ hSame
        cases hSame
        exact ⟨rfl, rfl⟩
  | @refused e found s₁ _ asked looked hKept hAsks hLookup =>
      refine ⟨.error e, s₁, asked, _, _, looked, hAsks, hPlain, hRun, nofun, ?_⟩
      rintro _ hSame
      cases hSame
      have hError : e ≠ .userDoesNotExist :=
        fun hMissing => hAsks.ne_missing (by rw [hMissing])
      refine ⟨found, hLookup, ?_, ?_, ?_, ?_⟩
      · rw [← hLookup.found_iff, Except.error.injEq,
          failure_eq_missing_iff hError hLookup.ne_missing]
      · rw [← hLookup.found_iff, Except.error.injEq]
        exact failure_eq_iff e found
      · rw [hLookup.users_eq hLawful, hAsks.get_eq hLawful]
      · intro hNothing
        rw [(hLookup.effect hLawful).admin.eq_of_none hNothing,
          hAsks.get_eq hLawful]

end IdentityProvider

------------------------------------------------------------
-- Scripted answers
------------------------------------------------------------

/- Answers that are given one after the other, the time, and what is kept. -/
structure Script where
  answers : List (Except TransportFault Answer)
  time : Instant := 0
  cache : TokenCache := {}

namespace Script

def network : Network Script where
  send _ s :=
    match s.answers with
    | [] => (.error .unreachable, s)
    | answer :: rest => (answer, { s with answers := rest })
  now := time

/- The client of a provider that answers as it is written. -/
def provider : IdentityProvider Script where
  network := network
  baseUrl := "http://[::1]"
  clientId := "client"
  clientSecret := "secret"
  expirationBuffer := 1000000000
  userLifespan := 600000000000
  cache := { get := cache, set := fun c s => { s with cache := c } }

theorem provider_lawful :
    provider.Lawful where
  get_set _ _ := rfl
  now_set _ _ := rfl
  get_send _ s := by
    rcases s with ⟨_ | ⟨answer, rest⟩, time, cache⟩
    · rfl
    · rfl
  now_send _ s := by
    rcases s with ⟨_ | ⟨answer, rest⟩, time, cache⟩
    · exact Int.le_refl _
    · exact Int.le_refl _

/-
  The exchange is refused, the service gets its token, and
  there is no such user.
-/
def ghost : Script where
  answers :=
    [.ok ⟨.badRequest, "invalid subject"⟩,
      .ok ⟨.ok, "\x7b\"access_token\":\"admin\",\"expires_in\":300\x7d"⟩,
      .ok ⟨.notFound, ""⟩]

/-
  The exchange is refused, and so is the token of the
  service, for another reason.
-/
def unavailable : Script where
  answers := [.ok ⟨.forbidden, "no exchange"⟩, .ok ⟨⟨503⟩, "down"⟩]

/- The status with which access has been denied. -/
def denial?
    {α : Type} : Except AuthError α → Option Nat
  | .error (.accessDenied status _) => some status.code
  | _ => none

def isMissing
    {α : Type} : Except AuthError α → Bool
  | .error .userDoesNotExist => true
  | _ => false

end Script

namespace IdentityProvider

open Script

/- Nobody has been found, which is what is told. -/
theorem userToken_fails_iff_ghost :
    ∃ s' asked looked,
      provider.recorded.userToken "u1" (ghost, []) =
          (.error .userDoesNotExist, s', asked ++ looked) ∧
        ∃ sent ∈ looked, provider.FindsNobody "u1" sent := by
  have hMissing : isMissing (provider.userToken "u1" ghost).1 = true := by
    decide +kernel
  have hNone :
      (provider.cache.get ghost).userAt? provider.userLifespan
        (provider.network.now ghost) "u1" =
        none := rfl
  rcases userToken_fails_iff provider_lawful hNone with
    ⟨exchanged, s₁, asked, result, s', looked, -, hRun, hRecord, hOk, hError⟩
  rw [hRun] at hMissing
  have hResult : result = .error .userDoesNotExist := by
    rcases result with (_ | _ | _) | _
    · rfl
    · cases hMissing
    · cases hMissing
    · cases hMissing
  cases exchanged with
  | ok g =>
      rw [(hOk g rfl).2] at hResult
      cases hResult
  | error e =>
      rcases hError e rfl with ⟨found, -, hFindsNobody, -⟩
      rw [← hResult]
      exact ⟨s', asked, looked, hRecord [], hFindsNobody.mp hResult⟩

/-
  The exchange has failed, and nobody has answered that the
  user is missing, but another failure is told.
-/
theorem userToken_hides_failure :
    ∃ e e' s₁ s' asked looked,
      provider.AsksGrant (provider.userForm "u1") unavailable
        (.error e) s₁ asked ∧
        provider.recorded.userToken "u1" (unavailable, []) =
          (.error e', s', asked ++ looked) ∧
        ¬ (∃ sent ∈ looked, provider.FindsNobody "u1" sent) ∧
        e' ≠ e := by
  have hDenial :
      denial? (provider.userToken "u1" unavailable).1 = some 503 := by
    decide +kernel
  rcases provider.userToken_tracks "u1" unavailable with ⟨notes, hRun, hTells⟩
  generalize
    (provider.userToken "u1" unavailable).1 = result at hRun hTells hDenial
  generalize (provider.userToken "u1" unavailable).2 = s' at hRun hTells
  cases hTells with
  | kept hKept => cases hKept
  | granted _ _ => cases hDenial
  | @refused e found s₁ _ asked looked _ hAsks hLookup =>
      refine ⟨e, _, s₁, s', asked, looked, hAsks, hRun [], ?_, ?_⟩
      · rw [← hLookup.found_iff]
        rintro rfl
        cases hDenial
      · intro hSame
        rw [hSame] at hDenial
        -- the exchange has got the first of the answers
        generalize hResult : Except.error e = x at hAsks
        cases hAsks with
        | unsent _ =>
            cases hResult
            cases hDenial
        | @sent url _ entry _ hSends =>
            have hAnswer : .ok ⟨.forbidden, "no exchange"⟩ = entry.answer :=
              congrArg Prod.fst hSends.run
            rw [Sent.granted, ← hAnswer] at hResult
            cases hResult
            cases hDenial

end IdentityProvider

end ProcessEvents
