import ProcessEvents.Proofs.Client.UserToken
import ProcessEvents.Proofs.Json.Inverse

/-
  This file proves that tokens which are told without asking
  are never outdated, and never those of somebody else. The
  token of the service is the one that has been granted last,
  before the buffer in front of its end is reached. The token
  of a user has been granted for this user, and has not been
  kept for longer than is configured. What is refused changes
  nothing that is kept.

  Key definitions include:
    * `IdentityProvider.IsReached`
    * `IdentityProvider.Remembers`
    * `IdentityProvider.LastGrant`

  Key theorems include:
    * `IdentityProvider.call_tracks`
    * `IdentityProvider.IsReached.remembers`
    * `IdentityProvider.IsReached.tells_granted`
-/

namespace ProcessEvents

open Client
open ProcessEvents.Action (Tracks)

variable {σ : Type}

------------------------------------------------------------
-- Grants without a time
------------------------------------------------------------

namespace AccessGrant

/- A grant is written without the time for which it is valid. -/
def NamesNoTime : Json → Prop
  | .obj members => Json.find? members "expires_in" = none
  | .arr items => items.length ≤ 1
  | _ => True

/- A grant that names no time is not valid for any. -/
theorem lifetime_of_namesNoTime
    {j : Json} {g : AccessGrant}
    (hDecode : codec.decode j = some g)
    (hNone : NamesNoTime j) :
    g.lifetime = 0 := by
  have hZero :
      ∀ accessToken,
        AccessGrant.lifetime { accessToken, expiresIn := .zero false } = 0 := by
    intro accessToken
    change (Written.nanos? (.zero false)).getD 0 = 0
    decide +kernel
  unfold codec at hDecode
  simp only [Codec.record] at hDecode
  split at hDecode
  · rename_i members
    simp only [Option.ite_none_left_eq_some, Option.map_eq_some_iff] at hDecode
    rcases hDecode with ⟨-, ⟨accessToken, expiresIn⟩, hFields, rfl⟩
    have hTime := (Fields.ofMembers_pair.mp hFields).2
    have hMissing : Json.find? members "expires_in" = none := hNone
    simp only [Fields.field, hMissing, Option.some.injEq] at hTime
    rw [← hTime]
    exact hZero accessToken
  · rename_i items
    split at hDecode
    · rename_i fields hFields
      cases hDecode
      rcases Fields.ofItems_pair.mp hFields with ⟨middle, hFirst, hSecond⟩
      have hLength : items.length ≤ 1 := hNone
      cases items with
      | nil => cases hFirst
      | cons item items =>
          have hEmpty : items = [] := by
            rw [List.length_cons] at hLength
            exact List.length_eq_zero_iff.mp (by omega)
          simp only [Fields.required, hEmpty,
            Option.map_eq_some_iff, Prod.mk.injEq] at hFirst
          rcases hFirst with ⟨_, -, -, rfl⟩
          simp only [Fields.field, Option.some.injEq,
            Prod.mk.injEq, and_true] at hSecond
          rw [← hSecond]
          exact hZero fields.1
    · cases hDecode
  · cases hDecode

end AccessGrant

------------------------------------------------------------
-- Calls
------------------------------------------------------------

/- What the client is asked for. -/
inductive TokenCall where
  | admin
  | user (userId : String)

namespace IdentityProvider

/- What is done for a call. -/
def tell
    (p : IdentityProvider σ) : TokenCall → Action σ AuthError BearerToken
  | .admin => p.adminToken
  | .user userId => p.userToken userId

variable
  {p : IdentityProvider σ} {form : List (String × String)}
  {instant : Sent → AccessGrant → Instant}
  {s s' : σ} {log : List Sent}

/- The cache after a call is that of the requests that have been sent for it. -/
theorem call_tracks
    (hLawful : p.Lawful)
    (call : TokenCall) (s : σ) :
    Tracks s (p.tell call) (p.recorded.tell call) fun _ s' notes =>
      p.Effect s notes s' := by
  cases call with
  | admin =>
      exact (p.adminToken_tracks s).mono fun _ _ _ hAdmin =>
        hAdmin.effect hLawful
  | user userId =>
      exact (p.userToken_tracks userId s).mono fun _ _ _ hUser =>
        hUser.effect hLawful

------------------------------------------------------------
-- Calls in turn
------------------------------------------------------------

/-
  The states that calls lead to, with all requests that have
  been sent and all tokens of users that have ever been kept.
  Between calls time goes on, and anything may happen but to
  the token of the service. What is kept for a user may be
  lost, or be one of the tokens that were kept before.
-/
inductive IsReached (p : IdentityProvider σ) :
    List (String × TimedToken) → σ → List Sent → Prop
  | start {s : σ}
      (hEmpty : p.cache.get s = {}) :
      IsReached p [] s []
  | wait {kept : List (String × TimedToken)} {s s' : σ} {log : List Sent}
      (hReached : IsReached p kept s log)
      (hTime : p.network.now s ≤ p.network.now s')
      (hAdmin : (p.cache.get s').admin = (p.cache.get s).admin)
      (hUsers :
        ∀ userId t, (p.cache.get s').users.get? userId = some t →
          (userId, t) ∈ kept) :
      IsReached p kept s' log
  | call {kept : List (String × TimedToken)} {s s' : σ} {log log' : List Sent}
      {result : Except AuthError BearerToken} (call : TokenCall)
      (hReached : IsReached p kept s log)
      (hRun : p.recorded.tell call (s, log) = (result, s', log')) :
      IsReached p (kept ++ (p.cache.get s').users.entries) s' log'

/- What is kept has been granted, and that in the past. -/
structure Remembers
    (p : IdentityProvider σ)
    (kept : List (String × TimedToken))
    (s : σ)
    (log : List Sent) : Prop where
  admin :
    p.KeptAfter p.adminForm (fun e g => p.validUntil e.sentAt g) none log
      (p.cache.get s).admin
  users :
    ∀ userId t, (p.cache.get s).users.get? userId = some t → (userId, t) ∈ kept
  kept :
    ∀ userId t, (userId, t) ∈ kept →
      ∃ e ∈ log, ∃ g, p.Grants (p.userForm userId) e g ∧
        t = ⟨g.token, e.answeredAt⟩
  past : ∀ e ∈ log, e.sentAt ≤ e.answeredAt ∧ e.answeredAt ≤ p.network.now s

variable {kept : List (String × TimedToken)}

/- One call keeps what is remembered in line with what has been granted. -/
theorem Remembers.call
    {notes : List Sent}
    (hRemembers : p.Remembers kept s log)
    (hEffect : p.Effect s notes s') :
    p.Remembers (kept ++ (p.cache.get s').users.entries) s' (log ++ notes) where
  admin := hRemembers.admin.append hEffect.admin
  users userId t hKept :=
    List.mem_append_right _
      (((p.cache.get s').users.mem_entries_iff userId t).mpr hKept)
  kept userId t hMem := by
    have hEarlier :
        (userId, t) ∈ kept →
          ∃ e ∈ log ++ notes, ∃ g,
            p.Grants (p.userForm userId) e g ∧ t = ⟨g.token, e.answeredAt⟩ := by
      intro hBefore
      rcases hRemembers.kept userId t hBefore with ⟨e, hLogged, hGranted⟩
      exact ⟨e, List.mem_append_left _ hLogged, hGranted⟩
    rcases List.mem_append.mp hMem with hBefore | hNow
    · exact hEarlier hBefore
    · have hKept := ((p.cache.get s').users.mem_entries_iff userId t).mp hNow
      have hUser := hEffect.users userId
      rw [hKept] at hUser
      generalize hBefore : (p.cache.get s).users.get? userId = before at hUser
      generalize hAfter : some t = after at hUser
      cases hUser with
      | same _ =>
          rw [← hAfter] at hBefore
          exact hEarlier (hRemembers.users userId t hBefore)
      | @granted earlier later e g hLog hGrants _ =>
          cases hAfter
          refine ⟨e, List.mem_append_right _ ?_, g, hGrants, rfl⟩
          rw [hLog]
          exact List.mem_append_right _ List.mem_cons_self
  past := by
    rw [List.forall_mem_append]
    refine ⟨fun e hMem => ?_, hEffect.sent⟩
    rcases hRemembers.past e hMem with ⟨hAnswered, hBefore⟩
    exact ⟨hAnswered, Int.le_trans hBefore hEffect.time⟩

/- By induction over the calls: what is kept is always what has been granted. -/
theorem IsReached.remembers
    (hReached : p.IsReached kept s log)
    (hLawful : p.Lawful) :
    p.Remembers kept s log := by
  induction hReached with
  | @start s hEmpty =>
      have hAdmin : (p.cache.get s).admin = none := by rw [hEmpty]
      have hUsers : (p.cache.get s).users = .empty := by rw [hEmpty]
      refine ⟨?_, ?_, nofun, List.forall_mem_nil _⟩
      · rw [hAdmin]
        exact .same (List.forall_mem_nil _)
      · rw [hUsers]
        exact nofun
  | wait _ hTime hAdmin hUsers ih =>
      refine ⟨?_, hUsers, ih.kept, fun e hMem => ?_⟩
      · rw [hAdmin]
        exact ih.admin
      · exact ⟨(ih.past e hMem).1, Int.le_trans (ih.past e hMem).2 hTime⟩
  | @call kept s s' log log' result call _ hRun ih =>
      rcases call_tracks hLawful call s with ⟨notes, hNoted, hEffect⟩
      rw [hNoted log] at hRun
      cases hRun
      exact ih.call hEffect

------------------------------------------------------------
-- Tokens that are told without asking
------------------------------------------------------------

/- The request is the last one of which a form has been granted something. -/
def LastGrant
    (p : IdentityProvider σ)
    (form : List (String × String))
    (log : List Sent)
    (e : Sent)
    (g : AccessGrant) : Prop :=
  ∃ earlier later,
    log = earlier ++ e :: later ∧ p.Grants form e g ∧
      ∀ e' ∈ later, ∀ g', ¬ p.Grants form e' g'

/- There is only one last grant. -/
theorem LastGrant.unique
    {e e' : Sent} {g g' : AccessGrant}
    (hFirst : p.LastGrant form log e g)
    (hSecond : p.LastGrant form log e' g') :
    e = e' ∧ g = g' := by
  rcases hFirst with ⟨earlier, later, hLog, hGrants, hLast⟩
  rcases hSecond with ⟨earlier', later', hLog', hGrants', hLast'⟩
  have hSame : e = e' := by
    rw [hLog] at hLog'
    rcases List.append_eq_append_iff.mp hLog' with
      ⟨between, -, hRest⟩ | ⟨between, -, hRest⟩
    · cases between with
      | nil => exact (List.cons.inj hRest).1
      | cons _ between =>
          have hMem : e' ∈ later := by
            rw [(List.cons.inj hRest).2]
            exact List.mem_append_right _ List.mem_cons_self
          exact absurd hGrants' (hLast e' hMem g')
    · cases between with
      | nil => exact (List.cons.inj hRest).1.symm
      | cons _ between =>
          have hMem : e ∈ later' := by
            rw [(List.cons.inj hRest).2]
            exact List.mem_append_right _ List.mem_cons_self
          exact absurd hGrants (hLast' e hMem g)
  subst hSame
  exact ⟨rfl, Except.ok.inj (hGrants.granted.symm.trans hGrants'.granted)⟩

/- What is kept in the end comes from the last grant. -/
theorem KeptAfter.eq_some_iff
    {after : Option TimedToken} {t : TimedToken}
    (hKept : p.KeptAfter form instant none log after) :
    after = some t ↔
      ∃ e g, p.LastGrant form log e g ∧ t = ⟨g.token, instant e g⟩ := by
  cases hKept with
  | same hNone =>
      constructor
      · nofun
      · rintro ⟨e, g, ⟨earlier, later, rfl, hGrants, -⟩, -⟩
        exact absurd hGrants
          (hNone e (List.mem_append_right _ List.mem_cons_self) g)
  | @granted earlier later e g hLog hGrants hLast =>
      have hFound : p.LastGrant form log e g :=
        ⟨earlier, later, hLog, hGrants, hLast⟩
      constructor
      · intro hSame
        exact ⟨e, g, hFound, (Option.some.inj hSame).symm⟩
      · rintro ⟨e', g', hOther, rfl⟩
        rcases hFound.unique hOther with ⟨rfl, rfl⟩
        rfl

theorem adminAt?_eq_some_iff
    {c : TokenCache} {now : Instant} {token : BearerToken} :
    c.adminAt? now = some token ↔
      ∃ t, c.admin = some t ∧ now < t.instant ∧ t.token = token := by
  unfold TokenCache.adminAt?
  simp only [Option.map_eq_some_iff, Option.filter_eq_some_iff,
    decide_eq_true_eq, and_assoc]

theorem userAt?_eq_some_iff
    {c : TokenCache} {lifespan : Nat} {now : Instant} {userId : String}
    {token : BearerToken} :
    c.userAt? lifespan now userId = some token ↔
      ∃ t, c.users.get? userId = some t ∧ now < t.instant + lifespan ∧
        t.token = token := by
  unfold TokenCache.userAt?
  simp only [Option.map_eq_some_iff, Option.filter_eq_some_iff,
    decide_eq_true_eq, and_assoc]

theorem LastGrant.mem
    {e : Sent} {g : AccessGrant}
    (hLast : p.LastGrant form log e g) :
    e ∈ log := by
  rcases hLast with ⟨earlier, later, rfl, -⟩
  exact List.mem_append_right _ List.mem_cons_self

/- A buffer that is longer than a grant is valid for leaves no time. -/
theorem validUntil_eq
    (p : IdentityProvider σ) (sentAt : Instant) (g : AccessGrant) :
    p.validUntil sentAt g =
      sentAt + max 0 ((g.lifetime : Int) - p.expirationBuffer) := by
  have hBuffer :
      ((g.lifetime - p.expirationBuffer : Nat) : Int) =
        max 0 ((g.lifetime : Int) - p.expirationBuffer) := by
    omega
  rw [validUntil, hBuffer]

theorem effect_of_run
    {call : TokenCall} {result : Except AuthError BearerToken}
    {notes : List Sent}
    (hLawful : p.Lawful)
    (hRun : p.recorded.tell call (s, log) = (result, s', log ++ notes)) :
    p.Effect s notes s' := by
  rcases call_tracks hLawful call s with ⟨notes', hNoted, hEffect⟩
  rw [hNoted log] at hRun
  rcases Prod.mk.inj (Prod.mk.inj hRun).2 with ⟨hState, hLog⟩
  rw [← hState, ← List.append_cancel_left hLog]
  exact hEffect

/- Without a request, the service's token is told exactly if it is kept. -/
theorem adminToken_quiet_iff
    {token : BearerToken} :
    (∃ s', p.recorded.adminToken (s, log) = (.ok token, s', log)) ↔
      (p.cache.get s).adminAt? (p.network.now s) = some token := by
  rcases p.adminToken_tracks s with ⟨notes, hRun, hTells⟩
  rw [hRun]
  generalize (p.adminToken s).1 = result at hTells ⊢
  generalize (p.adminToken s).2 = s' at hTells ⊢
  cases hTells with
  | @kept token' hKept =>
      rw [hKept, List.append_nil]
      constructor
      · rintro ⟨_, hSame⟩
        cases hSame
        rfl
      · intro hSame
        cases hSame
        exact ⟨_, rfl⟩
  | granted hKept hAsks =>
      rcases hAsks.grants with ⟨e, rfl, -⟩
      rw [hKept]
      constructor
      · rintro ⟨_, hSame⟩
        simp at hSame
      · nofun
  | refused hKept _ =>
      rw [hKept]
      exact ⟨nofun, nofun⟩

/- Without a request, the token of a user is the one that is kept. -/
theorem userToken_quiet
    {userId : String} {token : BearerToken}
    (hRun : p.recorded.userToken userId (s, log) = (.ok token, s', log)) :
    (p.cache.get s).userAt? p.userLifespan (p.network.now s) userId =
      some token := by
  rcases p.userToken_tracks userId s with ⟨notes, hNoted, hTells⟩
  rw [hNoted] at hRun
  generalize (p.userToken userId s).1 = result at hTells hRun
  generalize (p.userToken userId s).2 = s₁ at hTells hRun
  cases hTells with
  | kept hKept =>
      rw [List.append_nil] at hRun
      cases hRun
      exact hKept
  | granted _ hAsks =>
      rcases hAsks.grants with ⟨e, rfl, -⟩
      simp at hRun
  | refused _ _ _ => cases hRun

/-
  After any calls, a token of the service that is told
  without a request is the one that has been granted last,
  and less time has passed since then than the grant is
  valid for, less the buffer. A token of a user that is told
  without a request has been granted for this user within
  the lifespan. Requests that grant nothing change nothing
  about what is told later. A time that is missing, or that
  cannot be used, counts as none.
-/
theorem IsReached.tells_granted
    (hReached : p.IsReached kept s log)
    (hLawful : p.Lawful) :
    (∀ token,
      (∃ s', p.recorded.adminToken (s, log) = (.ok token, s', log)) ↔
        ∃ e g,
          p.LastGrant p.adminForm log e g ∧ token = g.token ∧
            e.sentAt ≤ p.network.now s ∧
            p.network.now s <
              e.sentAt + max 0 ((g.lifetime : Int) - p.expirationBuffer)) ∧
      (∀ userId token s',
        p.recorded.userToken userId (s, log) = (.ok token, s', log) →
          ∃ e ∈ log, ∃ g,
            p.Grants (p.userForm userId) e g ∧ token = g.token ∧
              e.answeredAt ≤ p.network.now s ∧
              p.network.now s < e.answeredAt + p.userLifespan) ∧
      (∀ call result s' notes,
        p.recorded.tell call (s, log) = (result, s', log ++ notes) →
          ((∀ e ∈ notes, ∀ g, ¬ p.Grants p.adminForm e g) →
            ∀ now,
              (p.cache.get s').adminAt? now = (p.cache.get s).adminAt? now) ∧
          ∀ userId,
            (∀ e ∈ notes, ∀ g, ¬ p.Grants (p.userForm userId) e g) →
              ∀ now,
                (p.cache.get s').userAt? p.userLifespan now userId =
                  (p.cache.get s).userAt? p.userLifespan now userId) ∧
      (∀ j g, AccessGrant.codec.decode j = some g →
        AccessGrant.NamesNoTime j → g.lifetime = 0) ∧
      ∀ g : AccessGrant, Written.nanos? g.expiresIn = none →
        g.lifetime = 0 := by
  have hRemembers := hReached.remembers hLawful
  refine ⟨fun token => ?_, ?_, ?_, ?_, ?_⟩
  · rw [adminToken_quiet_iff, adminAt?_eq_some_iff]
    constructor
    · rintro ⟨t, hKept, hNow, rfl⟩
      rcases hRemembers.admin.eq_some_iff.mp hKept with ⟨e, g, hLast, rfl⟩
      refine ⟨e, g, hLast, rfl, ?_, ?_⟩
      · have hPast := hRemembers.past e hLast.mem
        exact Int.le_trans hPast.1 hPast.2
      · rw [validUntil_eq] at hNow
        exact hNow
    · rintro ⟨e, g, hLast, rfl, -, hNow⟩
      refine ⟨_, hRemembers.admin.eq_some_iff.mpr ⟨e, g, hLast, rfl⟩, ?_, rfl⟩
      rw [validUntil_eq]
      exact hNow
  · intro userId token s' hRun
    rcases userAt?_eq_some_iff.mp (userToken_quiet hRun) with
      ⟨t, hKept, hNow, rfl⟩
    rcases hRemembers.kept userId t (hRemembers.users userId t hKept) with
      ⟨e, hMem, g, hGrants, rfl⟩
    exact ⟨e, hMem, g, hGrants, rfl, (hRemembers.past e hMem).2, hNow⟩
  · intro call result s' notes hRun
    have hEffect := effect_of_run hLawful hRun
    constructor
    · intro hNone now
      rw [TokenCache.adminAt?, TokenCache.adminAt?,
        hEffect.admin.eq_of_none hNone]
    · intro userId hNone now
      rw [TokenCache.userAt?, TokenCache.userAt?,
        (hEffect.users userId).eq_of_none hNone]
  · exact fun j g => AccessGrant.lifetime_of_namesNoTime
  · intro g hUnusable
    rw [AccessGrant.lifetime, hUnusable]
    rfl

/- The service is granted a token for five minutes. -/
def granting : Script where
  answers :=
    [.ok ⟨.ok, "\x7b\"access_token\":\"admin\",\"expires_in\":300\x7d"⟩]

/-
  A token that has been granted is told again without a
  request, a hundred seconds later.
-/
theorem IsReached.tells_granted_again :
    ∃ kept s log s',
      Script.provider.IsReached kept s log ∧
        Script.provider.network.now s = 100000000000 ∧
        Script.provider.recorded.adminToken (s, log) =
          (.ok (.ofAccess "admin"), s', log) ∧
        ∃ e g,
          Script.provider.LastGrant Script.provider.adminForm log e g ∧
            g.token = .ofAccess "admin" ∧
            Script.provider.network.now s <
              e.sentAt + max 0
                ((g.lifetime : Int) - Script.provider.expirationBuffer) := by
  have hTime :
      (Script.provider.tell .admin granting).2.time ≤ 100000000000 := by
    decide +kernel
  have hKept :
      (Script.provider.tell .admin granting).2.cache.adminAt? 100000000000 =
        some (.ofAccess "admin") := by
    decide +kernel
  rcases call_tracks Script.provider_lawful .admin granting with ⟨log, hRun, -⟩
  generalize Script.provider.tell .admin granting = called at hTime hKept hRun
  rcases called with ⟨result, s⟩
  have hCalled :=
    IsReached.call .admin (.start (p := Script.provider) rfl) (hRun [])
  let later : Script := { s with time := 100000000000 }
  have hReached : Script.provider.IsReached ([] ++ s.cache.users.entries) later
      ([] ++ log) := by
    refine hCalled.wait ?_ ?_ ?_
    · exact hTime
    · rfl
    · intro userId t hUser
      exact List.mem_append_right _
        ((Dict.mem_entries_iff _ userId t).mpr hUser)
  have hAgain :
      ∃ s',
        Script.provider.recorded.adminToken (later, [] ++ log) =
          (.ok (.ofAccess "admin"), s', [] ++ log) :=
    adminToken_quiet_iff.mpr hKept
  rcases hAgain with ⟨s', hQuiet⟩
  rcases ((hReached.tells_granted Script.provider_lawful).1 _).mp
    ⟨s', hQuiet⟩ with
    ⟨e, g, hLast, hToken, -, hUntil⟩
  exact ⟨_, later, _, s', hReached, rfl, hQuiet,
    e, g, hLast, hToken.symm, hUntil⟩

end IdentityProvider

end ProcessEvents
