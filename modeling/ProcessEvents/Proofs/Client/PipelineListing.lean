import Mathlib.Data.List.Forall2
import ProcessEvents.Client.Analytics
import ProcessEvents.Proofs.Client.Tokens
import ProcessEvents.Proofs.Json.Inverse
import ProcessEvents.Proofs.Uuid

/-
  This file proves that the pipelines of a user are listed
  completely, however many pages they fill: each of them
  once, in order, with one request more than there are full
  pages. A page that fails is a listing that fails.

  Key definitions include:
    * `AnalyticsPlatform.pageRequest`
    * `AnalyticsPlatform.AsksPage`
    * `AnalyticsPlatform.Lists`
    * `AnalyticsPlatform.AnswersFrom`
    * `Shelf`

  Key theorems include:
    * `AnalyticsPlatform.page_tracks`
    * `AnalyticsPlatform.Lists.recorded`
    * `AnalyticsPlatform.lists_of_recorded`
    * `AnalyticsPlatform.list_complete`
-/

namespace ProcessEvents

open Client
open ProcessEvents.Action (Tracks)

variable {σ : Type}

------------------------------------------------------------
-- Single pages
------------------------------------------------------------

namespace Client

variable {α : Type} {n : Network σ} {o : Outgoing} {s : σ}

/- The value that a request has been answered with. -/
def Sent.value
    (c : Codec α)
    (e : Sent) : Except RequestError α :=
  match e.answer with
  | .error fault => .error (.transport fault)
  | .ok answer => answer.checked.bind (Answer.value c)

/- What an answer carries is read without any effect. -/
theorem Answer.read_apply
    {τ : Type} (c : Codec α) (a : Answer) (t : τ) :
    (Action.ofExcept a.checked >>= fun checked =>
      Action.ofExcept (checked.value c)) t =
      (a.checked.bind (Answer.value c), t) := by
  rw [Action.bind_apply]
  cases a.checked with
  | error fault => rfl
  | ok checked => rfl

/- A value is what a single request is answered with. -/
theorem Network.fetch_tracks
    (c : Codec α)
    (hHeaders : (o.headers.all fun h => Http.Headers.isSendable h.2) = true) :
    Tracks s (n.fetch c o) (n.recorded.fetch c o) fun r s' log =>
      ∃ e, n.Sends o s s' e ∧ r = e.value c ∧ log = [e] := by
  have hSend :
      Tracks s (n.request o) (n.recorded.request o) fun r s' log =>
        ∃ e, n.Sends o s s' e ∧ r = e.answer.mapError .transport ∧
          log = [e] := by
    unfold request
    rw [if_pos hHeaders, if_pos hHeaders]
    apply (n.send_tracks o s).mapError
    rintro _ s' _ ⟨e, hSends, rfl, rfl⟩
    exact ⟨e, hSends, rfl, rfl⟩
  apply hSend.bind
  · rintro fault s' _ ⟨e, hSends, hResult, rfl⟩
    refine ⟨e, hSends, ?_, rfl⟩
    cases hAnswer : e.answer with
    | error fault' =>
        rw [hAnswer] at hResult
        cases hResult
        rw [Sent.value, hAnswer]
    | ok answer =>
        rw [hAnswer] at hResult
        cases hResult
  · rintro answer s' _ ⟨e, hSends, hResult, rfl⟩
    have hAnswer : e.answer = .ok answer := by
      cases hGiven : e.answer with
      | error fault =>
          rw [hGiven] at hResult
          cases hResult
      | ok answer' =>
          rw [hGiven] at hResult
          cases hResult
          rfl
    have hValue : answer.checked.bind (Answer.value c) = e.value c := by
      rw [Sent.value, hAnswer]
    apply Tracks.quiet
    · intro record
      rw [Answer.read_apply, Answer.read_apply]
    · rw [Answer.read_apply, hValue]
      exact ⟨e, hSends, rfl, rfl⟩

end Client

namespace AnalyticsPlatform

/- The platform, with a record of the requests to it. -/
def recorded
    (p : AnalyticsPlatform σ) : AnalyticsPlatform (σ × List Sent) where
  network := p.network.recorded
  engineUrl := p.engineUrl
  parserUrl := p.parserUrl
  repositoryUrl := p.repositoryUrl

/- Where pipelines are listed. -/
def listingUrl
    (p : AnalyticsPlatform σ) : Except RequestError Url :=
  resource p.repositoryUrl ["pipeline"]

/- The request for the pipelines of a user after an offset, up to a limit. -/
def pageRequest
    (url : Url)
    (userId : String)
    (limit offset : Nat) : Outgoing :=
  { method := "GET"
    url := url.withQuery
      [("limit", Text.decimal limit), ("offset", Text.decimal offset)]
    headers := [userHeader userId] }

/- The pipelines that a request has been answered with. -/
def pipelinesOf
    (e : Sent) : Except RequestError (List Pipeline) :=
  e.value (.list Pipeline.codec)

/- A page is asked for, if there is an address to ask, and a user to name. -/
inductive AsksPage (p : AnalyticsPlatform σ) (userId : String)
  (offset : Nat) (s : σ) :
    Except RequestError (List Pipeline) → σ → List Sent → Prop
  | unaddressed {fault : RequestError} (hUrl : p.listingUrl = .error fault) :
      AsksPage p userId offset s (.error fault) s []
  | unsendable {url : Url}
      (hUrl : p.listingUrl = .ok url)
      (hUser : ¬ Http.Headers.isSendable userId = true) :
      AsksPage p userId offset s (.error (.transport .unsendableHeader)) s []
  | sent {url : Url} {s' : σ} {e : Sent}
      (hUrl : p.listingUrl = .ok url)
      (hSends :
        p.network.Sends (pageRequest url userId pageSize offset) s s' e) :
      AsksPage p userId offset s (pipelinesOf e) s' [e]

theorem AsksPage.result_of_mem
    {p : AnalyticsPlatform σ} {userId : String} {offset : Nat} {s s' : σ}
    {r : Except RequestError (List Pipeline)} {log : List Sent} {e : Sent}
    (hAsks : p.AsksPage userId offset s r s' log)
    (hMem : e ∈ log) :
    r = pipelinesOf e := by
  cases hAsks with
  | unaddressed _ => cases hMem
  | unsendable _ _ => cases hMem
  | sent _ _ =>
      rw [List.mem_singleton.mp hMem]

theorem AsksPage.of_ok
    {p : AnalyticsPlatform σ} {userId : String} {offset : Nat} {s s' : σ}
    {r : Except RequestError (List Pipeline)} {log : List Sent}
    {page : List Pipeline}
    (hAsks : p.AsksPage userId offset s r s' log)
    (hResult : r = .ok page) :
    ∃ e, log = [e] ∧ pipelinesOf e = .ok page := by
  cases hAsks with
  | unaddressed _ => cases hResult
  | unsendable _ _ => cases hResult
  | @sent _ _ e _ _ => exact ⟨e, rfl, hResult⟩

theorem page_tracks
    (p : AnalyticsPlatform σ) (userId : String) (offset : Nat) (s : σ) :
    Tracks s (p.page userId offset) (p.recorded.page userId offset)
      (p.AsksPage userId offset s) := by
  change Tracks s (Action.ofExcept p.listingUrl >>= _)
    (Action.ofExcept p.listingUrl >>= _) _
  apply Tracks.bind_ofExcept
  · exact fun fault hUrl => .unaddressed hUrl
  · intro url hUrl
    change Tracks s (p.network.fetch _ (pageRequest url userId pageSize offset))
      (p.network.recorded.fetch _ (pageRequest url userId pageSize offset)) _
    have hHeaders :
        ((pageRequest url userId pageSize offset).headers.all fun h =>
          Http.Headers.isSendable h.2) = Http.Headers.isSendable userId :=
      Bool.and_true _
    by_cases hUser : Http.Headers.isSendable userId = true
    · apply (Network.fetch_tracks (.list Pipeline.codec)
        (hHeaders.trans hUser)).mono
      rintro _ s' _ ⟨e, hSends, rfl, rfl⟩
      exact .sent hUrl hSends
    · apply Tracks.quiet
      · intro record
        rw [Network.fetch, Network.fetch, Network.request, Network.request,
          hHeaders, if_neg hUser, if_neg hUser]
        rfl
      · rw [Network.fetch, Network.request, hHeaders, if_neg hUser]
        exact .unsendable hUrl hUser

------------------------------------------------------------
-- Whole listings
------------------------------------------------------------

/- A page has been asked for, with and without a record. -/
structure GetsPage
    (p : AnalyticsPlatform σ)
    (userId : String)
    (offset : Nat)
    (s : σ)
    (r : Except RequestError (List Pipeline))
    (s' : σ)
    (log : List Sent) : Prop where
  asks : p.AsksPage userId offset s r s' log
  run : p.page userId offset s = (r, s')
  recorded :
    ∀ record, p.recorded.page userId offset (s, record) = (r, s', record ++ log)

/-
  After the pipelines listed so far, pages are asked for up to
  the first one that is not full, or that fails.
-/
inductive Lists (p : AnalyticsPlatform σ) (userId : String) :
    List Pipeline →
      σ → Except RequestError (List Pipeline) → σ → List Sent → Prop
  | failed {listed : List Pipeline} {s s' : σ}
      {fault : RequestError} {log : List Sent}
      (hPage : p.GetsPage userId listed.length s (.error fault) s' log) :
      Lists p userId listed s (.error fault) s' log
  | last {listed more : List Pipeline} {s s' : σ} {log : List Sent}
      (hPage : p.GetsPage userId listed.length s (.ok more) s' log)
      (hShort : more.length < pageSize) :
      Lists p userId listed s (.ok (listed ++ more)) s' log
  | next {listed more : List Pipeline} {s s' s'' : σ} {log rest : List Sent}
      {r : Except RequestError (List Pipeline)}
      (hPage : p.GetsPage userId listed.length s (.ok more) s' log)
      (hFull : ¬ more.length < pageSize)
      (hRest : Lists p userId (listed ++ more) s' r s'' rest) :
      Lists p userId listed s r s'' (log ++ rest)

variable
    {p : AnalyticsPlatform σ} {userId : String} {listed : List Pipeline}
    {s s' : σ}
    {r : Except RequestError (List Pipeline)} {log : List Sent}

theorem exists_getsPage
    (p : AnalyticsPlatform σ) (userId : String) (offset : Nat) (s : σ) :
    ∃ r s' log, p.GetsPage userId offset s r s' log := by
  rcases p.page_tracks userId offset s with ⟨log, hRecorded, hAsks⟩
  exact ⟨_, _, log, hAsks, rfl, hRecorded⟩

/- A listing that ends is the one that is computed. -/
theorem Lists.run
    (hLists : p.Lists userId listed s r s' log) :
    p.listFrom? userId listed s = some (r, s') := by
  induction hLists with
  | failed hPage =>
      rw [listFrom?_eq, hPage.run]
  | last hPage hShort =>
      rw [listFrom?_eq, hPage.run]
      exact if_pos hShort
  | next hPage hFull _ ih =>
      rw [listFrom?_eq, hPage.run]
      exact (if_neg hFull).trans ih

/- Its requests are those that are recorded. -/
theorem Lists.recorded
    (hLists : p.Lists userId listed s r s' log)
    (record : List Sent) :
    p.recorded.listFrom? userId listed (s, record) =
      some (r, s', record ++ log) := by
  induction hLists generalizing record with
  | failed hPage =>
      rw [listFrom?_eq, hPage.recorded]
  | last hPage hShort =>
      rw [listFrom?_eq, hPage.recorded]
      exact if_pos hShort
  | next hPage hFull _ ih =>
      rw [listFrom?_eq, hPage.recorded, ← List.append_assoc]
      exact (if_neg hFull).trans (ih _)

/- Whatever is computed, is a listing that has ended. -/
theorem lists_of_recorded
    {record record' : List Sent}
    (hRun : p.recorded.listFrom? userId listed (s, record) =
      some (r, s', record')) :
    ∃ log, record' = record ++ log ∧ p.Lists userId listed s r s' log := by
  refine listFrom?.partial_correctness p.recorded userId
    (fun listed t u => ∃ log, u.2.2 = t.2 ++ log ∧
      p.Lists userId listed t.1 u.1 u.2.1 log)
    ?_ listed (s, record) (r, s', record') hRun
  rintro next ih listed ⟨s, record⟩ u hEnd
  rcases p.exists_getsPage userId listed.length s with ⟨r, s', log, hPage⟩
  rw [hPage.recorded] at hEnd
  cases r with
  | error fault =>
      cases hEnd
      exact ⟨log, rfl, .failed hPage⟩
  | ok more =>
      dsimp only at hEnd
      by_cases hShort : more.length < pageSize
      · rw [if_pos hShort] at hEnd
        cases hEnd
        exact ⟨log, rfl, .last hPage hShort⟩
      · rw [if_neg hShort] at hEnd
        rcases ih _ _ _ hEnd with ⟨rest, hRecord, hRest⟩
        refine ⟨log ++ rest, ?_, .next hPage hShort hRest⟩
        rw [hRecord, List.append_assoc]

/- A failed page is a failed listing. -/
theorem Lists.error_of_mem
    {e : Sent} {fault : RequestError}
    (hLists : p.Lists userId listed s r s' log)
    (hMem : e ∈ log)
    (hFault : pipelinesOf e = .error fault) :
    r = .error fault := by
  induction hLists with
  | failed hPage =>
      exact (hPage.asks.result_of_mem hMem).trans hFault
  | last hPage _ =>
      cases (hPage.asks.result_of_mem hMem).trans hFault
  | next hPage _ _ ih =>
      rcases List.mem_append.mp hMem with hHere | hLater
      · cases (hPage.asks.result_of_mem hHere).trans hFault
      · exact ih hLater

/- A listing consists of what each of its requests has been answered with. -/
theorem Lists.pages_of_ok
    {all : List Pipeline}
    (hLists : p.Lists userId listed s r s' log)
    (hResult : r = .ok all) :
    ∃ pages,
      List.Forall₂ (fun e page => pipelinesOf e = .ok page) log pages ∧
        all = listed ++ pages.flatten := by
  induction hLists with
  | failed _ => cases hResult
  | @last listed more s s' log hPage _ =>
      cases hResult
      rcases hPage.asks.of_ok rfl with ⟨e, rfl, hMore⟩
      exact ⟨[more], .cons hMore .nil, by rw [List.flatten_singleton]⟩
  | @next listed more s s' s'' log rest r hPage _ _ ih =>
      rcases ih hResult with ⟨pages, hPages, rfl⟩
      rcases hPage.asks.of_ok rfl with ⟨e, rfl, hMore⟩
      exact ⟨more :: pages, .cons hMore hPages,
        by rw [List.flatten_cons, List.append_assoc]⟩

------------------------------------------------------------
-- Listings of a repository
------------------------------------------------------------

/-
  The repository answers for a user from a fixed list, with
  the elements after the offset, up to the limit.
-/
structure AnswersFrom
    (p : AnalyticsPlatform σ)
    (userId : String)
    (url : Url)
    (all : List Pipeline) : Prop where
  address : p.listingUrl = .ok url
  user : Http.Headers.isSendable userId = true
  answers :
    ∀ limit offset s, ∃ answer s',
      p.network.send (pageRequest url userId limit offset) s =
        (.ok answer, s') ∧
        answer.checked.bind (Answer.value (.list Pipeline.codec)) =
          .ok ((all.drop offset).take limit)

variable {url : Url} {all : List Pipeline}

/- The page behind the pipelines listed so far are those that come next. -/
theorem AnswersFrom.getsPage
    {offset : Nat}
    (hAnswers : p.AnswersFrom userId url all)
    (hOffset : offset ≤ all.length)
    (s : σ) :
    ∃ s' e more,
      p.GetsPage userId (all.take offset).length s (.ok more) s' [e] ∧
        e.request = pageRequest url userId pageSize offset ∧
        all.take offset ++ more = all.take (offset + pageSize) ∧
        more.length = min pageSize (all.length - offset) := by
  have hListed : (all.take offset).length = offset :=
    List.length_take_of_le hOffset
  rw [hListed]
  rcases p.exists_getsPage userId offset s with ⟨r, s', log, hPage⟩
  cases hPage.asks with
  | unaddressed hUrl =>
      rw [hAnswers.address] at hUrl
      cases hUrl
  | unsendable _ hUser => exact absurd hAnswers.user hUser
  | @sent url' _ e hUrl hSends =>
      rw [hAnswers.address] at hUrl
      cases hUrl
      rcases hAnswers.answers pageSize offset s with
        ⟨answer, s'', hSend, hGiven⟩
      have hAnswer : e.answer = .ok answer :=
        congrArg Prod.fst (hSends.run.symm.trans hSend)
      have hPipelines :
          pipelinesOf e = .ok ((all.drop offset).take pageSize) := by
        rw [pipelinesOf, Sent.value, hAnswer]
        exact hGiven
      rw [hPipelines] at hPage
      refine ⟨s', e, _, hPage, hSends.request, List.take_add.symm, ?_⟩
      rw [List.length_take, List.length_drop]

/-
  What is left of the list is listed page by page. The
  induction is on the number of full pages that are left.
-/
theorem AnswersFrom.lists
    {full offset : Nat}
    (hAnswers : p.AnswersFrom userId url all)
    (hOffset : offset ≤ all.length)
    (hFull : (all.length - offset) / pageSize = full)
    (s : σ) :
    ∃ s' log,
      p.Lists userId (all.take offset) s (.ok all) s' log ∧
        log.map (·.request) =
          (List.range (full + 1)).map fun k =>
            pageRequest url userId pageSize (offset + pageSize * k) := by
  have hSize : pageSize = 500 := rfl
  induction full generalizing offset s with
  | zero =>
      rcases hAnswers.getsPage hOffset s with
        ⟨s', e, more, hPage, hRequest, hTaken, hLength⟩
      rw [hSize] at hFull hLength
      have hShort : more.length < pageSize := by omega
      have hAll : all.take offset ++ more = all := by
        rw [hTaken]
        exact List.take_of_length_le (by omega)
      have hLast := Lists.last hPage hShort
      rw [hAll] at hLast
      refine ⟨s', [e], hLast, ?_⟩
      rw [List.map_singleton, hRequest]
      rfl
  | succ full ih =>
      rcases hAnswers.getsPage hOffset s with
        ⟨s', e, more, hPage, hRequest, hTaken, hLength⟩
      rw [hSize] at hFull hLength
      have hLong : ¬ more.length < pageSize := by omega
      have hRest : (all.length - (offset + pageSize)) / pageSize = full := by
        rw [hSize]
        omega
      rcases ih (by omega) hRest s' with ⟨s'', log, hLists, hRequests⟩
      rw [← hTaken] at hLists
      refine ⟨s'', [e] ++ log, .next hPage hLong hLists, ?_⟩
      rw [List.singleton_append, List.map_cons, hRequest, hRequests,
        List.range_succ_eq_map (n := full + 1), List.map_cons, List.map_map,
        Nat.mul_zero, Nat.add_zero]
      refine congrArg (List.cons _) (List.map_congr_left ?_)
      intro k _
      rw [Function.comp_apply, Nat.mul_succ, Nat.add_assoc,
        Nat.add_comm pageSize]

/- A listing that has ended is the one that is told. -/
theorem list_recorded
    (hRun : p.recorded.list userId (s, []) = (r, s', log)) :
    log = [] ∧ r = .error (.transport .endlessListing) ∨
      p.Lists userId [] s r s' log := by
  unfold list at hRun
  cases hEnd : p.recorded.listFrom? userId [] (s, []) with
  | none =>
      rw [hEnd] at hRun
      cases hRun
      exact Or.inl ⟨rfl, rfl⟩
  | some u =>
      rw [hEnd] at hRun
      cases hRun
      rcases lists_of_recorded hEnd with ⟨log', hLog, hLists⟩
      rw [List.nil_append] at hLog
      rw [← hLog] at hLists
      exact Or.inr hLists

/-
  A repository that answers from a list is listed completely:
  every pipeline once and in order, with one request for each
  full page and one more. Whatever it answers, a request that
  fails is a listing that fails, and a listing that succeeds
  consists of what its requests have been answered with.
-/
theorem list_complete :
    (∀ (p : AnalyticsPlatform σ) (userId : String) (url : Url)
        (all : List Pipeline) (s : σ),
      p.AnswersFrom userId url all →
        ∃ s' log,
          p.list userId s = (.ok all, s') ∧
            p.recorded.list userId (s, []) = (.ok all, s', log) ∧
            log.length = all.length / 500 + 1 ∧
            log.map (·.request) =
              (List.range (all.length / 500 + 1)).map fun k =>
                pageRequest url userId 500 (500 * k)) ∧
      ∀ (p : AnalyticsPlatform σ) (userId : String) (s s' : σ)
        (r : Except RequestError (List Pipeline)) (log : List Sent),
        p.recorded.list userId (s, []) = (r, s', log) →
          (∀ e ∈ log, ∀ fault, pipelinesOf e = .error fault →
            r = .error fault) ∧
            ∀ listed, r = .ok listed →
              ∃ pages,
                List.Forall₂
                  (fun e page => pipelinesOf e = .ok page) log pages ∧
                  listed = pages.flatten := by
  constructor
  · intro p userId url all s hAnswers
    rcases hAnswers.lists (Nat.zero_le _) rfl s with
      ⟨s', log, hLists, hRequests⟩
    simp only [List.take_zero, Nat.sub_zero, Nat.zero_add] at hLists hRequests
    refine ⟨s', log, ?_, ?_, ?_, hRequests⟩
    · rw [list, hLists.run]
      rfl
    · rw [list, hLists.recorded]
      rfl
    · have hLength := congrArg List.length hRequests
      rw [List.length_map, List.length_map, List.length_range] at hLength
      exact hLength
  · intro p userId s s' r log hRun
    rcases list_recorded hRun with ⟨rfl, rfl⟩ | hLists
    · refine ⟨fun e hMem => absurd hMem List.not_mem_nil,
        fun listed hListed => ?_⟩
      cases hListed
    · refine ⟨fun e hMem fault hFault =>
        hLists.error_of_mem hMem hFault, fun listed hListed => ?_⟩
      exact hLists.pages_of_ok hListed

end AnalyticsPlatform

------------------------------------------------------------
-- A repository that reads its queries
------------------------------------------------------------

theorem Form.encode_of_isPlain
    {cs : List Char}
    (hPlain : ∀ c ∈ cs, isPlain c = true) :
    encode cs = cs := by
  induction cs with
  | nil => rfl
  | cons c cs ih =>
      rcases List.forall_mem_cons.mp hPlain with ⟨hHead, hRest⟩
      have hBlank : c ≠ ' ' := by
        rintro rfl
        cases hHead
      have hTail := ih hRest
      rw [encode] at hTail ⊢
      rw [List.flatMap_cons, if_neg hBlank, hTail, Percent.encodeChar, hHead]
      rfl

theorem Pipeline.inverts
    (x : Pipeline) :
    Pipeline.codec.Inverts 1 x := by
  have hId : Uuid.codec.Inverts 0 x.id :=
    .refine (Uuid.parse?_toText x.id) (.string _)
  apply Codec.Inverts.record
    (by simp [Fields.pair, Fields.text, Fields.field]) rfl
  exact .pair (.field _ _ hId) (.pair (.text _ _) (.text _ _))

/-
  A shelf of pipelines, as a repository that reads the numbers
  in its queries. Its state counts the requests to it.
-/
structure Shelf where
  pipelines : List Pipeline

namespace Shelf

/- The limit and the offset in a query that holds nothing else. -/
def numbers
    (query : List Char) : Nat × Nat :=
  let digits := query.drop "limit=".length
  (Json.digitsValue (digits.takeWhile Char.isDigit),
    Json.digitsValue ((digits.dropWhile Char.isDigit).drop "&offset=".length))

def answer
    (shelf : Shelf)
    (query : String) : Answer :=
  let (limit, offset) := numbers query.toList
  { status := .ok
    body := ((Codec.list Pipeline.codec).encode
      ((shelf.pipelines.drop offset).take limit)).toText }

def platform
    (shelf : Shelf) : AnalyticsPlatform Nat where
  network :=
    { send :=
        fun o asked => (.ok (shelf.answer (o.url.query.getD "")), asked + 1)
      now := fun _ => 0 }
  engineUrl := ""
  parserUrl := ""
  repositoryUrl := "http://[::1]"

/- Where the pipelines of a shelf are listed. -/
def url : Url where
  scheme := "http"
  authority := some { host := .ipv6 [0, 0, 0, 0, 0, 0, 0, 1] }
  path := .segments false ["pipeline"]

theorem listingUrl_eq
    (shelf : Shelf) :
    shelf.platform.listingUrl = .ok url := by
  have hUrl : (resource "http://[::1]" ["pipeline"]).toOption = some url := by
    decide +kernel
  change resource "http://[::1]" ["pipeline"] = .ok url
  cases hResult : resource "http://[::1]" ["pipeline"] with
  | error fault =>
      rw [hResult] at hUrl
      cases hUrl
  | ok found =>
      rw [hResult] at hUrl
      cases hUrl
      rfl

/- What has been written into a query is read from it. -/
theorem numbers_written
    (limit offset : Nat) :
    numbers (Form.write
      [("limit", Text.decimal limit), ("offset", Text.decimal offset)]).toList =
        (limit, offset) := by
  have hPlain :
      ∀ n, Form.encode (Text.decimal n).toList = Nat.toDigits 10 n := by
    intro n
    rw [Text.decimal, String.toList_ofList]
    apply Form.encode_of_isPlain
    intro c hMem
    rw [Form.isPlain, Char.isAlphanum, Json.isDigit_of_mem_toDigits hMem,
      Bool.or_true]
    rfl
  have hQuery :
      (Form.write [("limit", Text.decimal limit),
        ("offset", Text.decimal offset)]).toList =
        "limit=".toList ++ (Nat.toDigits 10 limit ++
          ("&offset=".toList ++ Nat.toDigits 10 offset)) := by
    change (Form.writePair _ ++ "&" ++ Form.writePair _).toList = _
    rw [String.toList_append, String.toList_append,
      Form.writePair, Form.writePair,
      String.toList_ofList, String.toList_ofList, hPlain, hPlain]
    simp [Form.encode, Form.isPlain, Percent.encodeChar]
  have hDigits : ∀ n, ∀ c ∈ Nat.toDigits 10 n, c.isDigit = true :=
    fun _ _ => Json.isDigit_of_mem_toDigits
  have hFirst :
      (Nat.toDigits 10 limit ++
        ("&offset=".toList ++ Nat.toDigits 10 offset)).span Char.isDigit =
        (Nat.toDigits 10 limit, "&offset=".toList ++ Nat.toDigits 10 offset) :=
    Json.span_isDigit (hDigits limit) rfl
  have hSkip : ∀ (name : String) (rest : List Char),
      (name.toList ++ rest).drop name.length = rest :=
    fun name rest => List.drop_left' name.length_toList
  rw [List.span_eq_takeWhile_dropWhile, Prod.mk.injEq] at hFirst
  unfold numbers
  rw [hQuery]
  dsimp only
  rw [hSkip, hFirst.1, hFirst.2, hSkip, Json.digitsValue_toDigits,
    Json.digitsValue_toDigits]

/- What has been asked for is read from the answer. -/
theorem pipelines_answer
    (shelf : Shelf) (limit offset : Nat) :
    (shelf.answer (Form.write
        [("limit", Text.decimal limit),
          ("offset", Text.decimal offset)])).checked.bind
      (Answer.value (.list Pipeline.codec)) =
        .ok ((shelf.pipelines.drop offset).take limit) := by
  have hInverts :
      ∀ xs : List Pipeline, (Codec.list Pipeline.codec).Inverts 2 xs :=
    fun xs => .list fun x _ => x.inverts
  have hBody :=
    (hInverts ((shelf.pipelines.drop offset).take limit)).ofText?_toText
      (by decide)
  have hSuccess : Http.Status.ok.isSuccess = true := by decide
  rw [Codec.ofText?] at hBody
  rw [answer, numbers_written]
  dsimp only
  rw [Answer.checked, if_pos hSuccess, Except.bind, Answer.value, hBody]

/- A shelf answers from its pipelines. -/
theorem answersFrom
    (shelf : Shelf) :
    shelf.platform.AnswersFrom "u1" url shelf.pipelines where
  address := shelf.listingUrl_eq
  user := by decide +kernel
  answers limit offset asked :=
    ⟨_, asked + 1, rfl, shelf.pipelines_answer limit offset⟩

end Shelf

namespace AnalyticsPlatform

/- Two full pages are followed by an empty one. -/
theorem list_complete_twoPages :
    let shelf : Shelf := ⟨List.replicate 1000 {}⟩
    ∃ s' log,
      shelf.platform.recorded.list "u1" (0, []) =
        (.ok (List.replicate 1000 {}), s', log) ∧
        log.length = 3 := by
  intro shelf
  rcases list_complete.1 shelf.platform "u1" Shelf.url
    shelf.pipelines 0 shelf.answersFrom with
    ⟨s', log, -, hRun, hLength, -⟩
  refine ⟨s', log, hRun, ?_⟩
  rw [hLength, List.length_replicate]

end AnalyticsPlatform

end ProcessEvents
