import ProcessEvents.Proofs.Removal

/-
  Whether an event is deployed may be asked in two ways: for
  one event, where the first handler that knows decides, and
  for many, where the answers of all handlers are merged. As
  long as the lookups succeed, the two agree for every list
  of handlers. They differ for tokens that cannot be read,
  which only one of the handlers looks at.

  Key definitions include:
    * `IsAnswer`, `AreStates`
    * `EventHandler.Tells`
    * `Dispatcher.FindsFirst`
    * `Dispatcher.LooksUp`, `Dispatcher.Finds`

  Key theorems include:
    * `AnalyticsHandler.tells`, `ConditionalHandler.tells`
    * `AreStates.merge`
    * `Dispatcher.checkWith_tells`, `Dispatcher.eventStates_tells`
    * `Dispatcher.checkWith_of_badToken`, `Dispatcher.statesWith_of_badToken`
    * `Dispatcher.queries_agree`
-/

namespace ProcessEvents

variable {σ : Type} {p : σ → Prop}

open ProcessEvents.Action (Delivers Gives)

------------------------------------------------------------
-- Answers
------------------------------------------------------------

/- The status that tells whether something has been found. -/
inductive IsAnswer (found : Prop) : Http.Status → Prop
  | ok (hFound : found) : IsAnswer found .ok
  | notFound (hMissing : ¬ found) : IsAnswer found .notFound

theorem IsAnswer.of_iff
    {found found' : Prop} {status : Http.Status}
    (hAnswer : IsAnswer found status)
    (hSame : found ↔ found') :
    IsAnswer found' status := by
  rw [← hSame]
  exact hAnswer

theorem IsAnswer.eq_ok_iff
    {found : Prop} {status : Http.Status}
    (hAnswer : IsAnswer found status) :
    status = .ok ↔ found := by
  cases hAnswer with
  | ok hFound => exact ⟨fun _ => hFound, fun _ => rfl⟩
  | notFound hMissing =>
      exact ⟨fun hStatus => absurd hStatus (by decide), (absurd · hMissing)⟩

theorem IsAnswer.eq_notFound_iff
    {found : Prop} {status : Http.Status}
    (hAnswer : IsAnswer found status) :
    status = .notFound ↔ ¬ found := by
  cases hAnswer with
  | ok hFound =>
      exact ⟨fun hStatus => absurd hStatus (by decide), (absurd hFound ·)⟩
  | notFound hMissing => exact ⟨fun _ => hMissing, fun _ => rfl⟩

/- The states tell of each id, and of no other, whether it has been found. -/
structure AreStates
    (finds : String → Prop)
    (eventIds : List String)
    (states : Dict Bool) : Prop where
  keys : ∀ id, states.contains id = true ↔ id ∈ eventIds
  value : ∀ id value, states.get? id = some value → (value = true ↔ finds id)

theorem areStates_nil
    (finds : String → Prop) :
    AreStates finds [] .empty where
  keys id := by
    rw [Dict.contains, Dict.get?_empty]
    exact ⟨nofun, nofun⟩
  value id value := nofun

/- States that are read off the ids. -/
theorem areStates_ofList
    {finds : String → Prop} {found : String → Bool}
    (eventIds : List String)
    (hFound : ∀ id, found id = true ↔ finds id) :
    AreStates finds eventIds
      (.ofList (eventIds.map fun id => (id, found id))) where
  keys id := by
    rw [Dict.contains, Dict.get?_ofList, Option.isSome_map, List.find?_isSome]
    constructor
    · rintro ⟨e, hMem, hKey⟩
      rcases List.mem_map.mp (List.mem_reverse.mp hMem) with ⟨id', hListed, rfl⟩
      rw [← beq_iff_eq.mp hKey]
      exact hListed
    · intro hListed
      exact ⟨(id, found id),
        List.mem_reverse.mpr (List.mem_map.mpr ⟨id, hListed, rfl⟩),
        beq_self_eq_true id⟩
  value id value hValue := by
    rw [Dict.get?_ofList, Option.map_eq_some_iff] at hValue
    rcases hValue with ⟨e, hFind, rfl⟩
    have hKey : e.1 = id := by simpa using List.find?_some hFind
    have hMem := List.mem_reverse.mp (List.mem_of_find?_eq_some hFind)
    rcases List.mem_map.mp hMem with ⟨id', -, rfl⟩
    cases hKey
    exact hFound id'

/- While the condition holds, either query tells what the handler finds. -/
structure EventHandler.Tells
    (k : EventHandler σ)
    (p : σ → Prop)
    (token : String)
    (finds : String → Prop) : Prop where
  checkEvent : ∀ id, Delivers p (IsAnswer (finds id)) (k.checkEvent token id)
  eventStates :
    ∀ ids, Delivers p (AreStates finds ids) (k.eventStates token ids)

------------------------------------------------------------
-- The handlers
------------------------------------------------------------

theorem Action.Gives.delivers
    {ε α : Type} {a : Action σ ε α} {x : α}
    (hGives : Gives p a x) :
    Delivers p (· = x) a := by
  intro s hBefore
  rcases hGives s hBefore with ⟨s', hRun, hAfter⟩
  exact ⟨x, s', hRun, rfl, hAfter⟩

/- One of the pipelines is for the event. -/
def Pipeline.ServeEvent
    (listed : List Pipeline)
    (eventId : String) : Prop :=
  ∃ q ∈ listed.filterMap EventPipeline.ofPipeline?,
    q.description.eventId = eventId

theorem FlowEngine.eventPipelines_delivers
    {engine : FlowEngine σ} {userId : String} {listed : List Pipeline}
    (hList : Gives p (engine.list userId) listed) :
    Delivers p (· = listed.filterMap EventPipeline.ofPipeline?)
      (engine.eventPipelines userId) := by
  rw [eventPipelines, map_eq_pure_bind]
  apply hList.delivers.bind
  rintro _ rfl
  exact Delivers.pure rfl

theorem AnalyticsHandler.tells
    {h : AnalyticsHandler σ} {token : String} {claims : Claims}
    {listed : List Pipeline}
    (hClaims : Claims.parse token = .ok claims)
    (hList : Gives p (h.engine.list claims.subject) listed) :
    h.handler.Tells p token (Pipeline.ServeEvent listed) where
  checkEvent id := by
    change Delivers p _ (h.checkEvent token id)
    unfold AnalyticsHandler.checkEvent
    rw [hClaims]
    apply (FlowEngine.eventPipelines_delivers hList).attempt.bind
    rintro _ ⟨pipelines, rfl, rfl⟩
    dsimp only
    split
    · rename_i hAny
      rcases List.any_eq_true.mp hAny with ⟨q, hMem, hEvent⟩
      exact Delivers.pure (.ok ⟨q, hMem, of_decide_eq_true hEvent⟩)
    · rename_i hAny
      apply Delivers.pure
      refine .notFound fun hFound => hAny ?_
      rcases hFound with ⟨q, hMem, hEvent⟩
      exact List.any_eq_true.mpr ⟨q, hMem, decide_eq_true hEvent⟩
  eventStates ids := by
    change Delivers p _ (h.eventStates token ids)
    unfold AnalyticsHandler.eventStates
    rw [hClaims]
    dsimp only
    split
    · rename_i hEmpty
      rw [List.isEmpty_iff.mp hEmpty]
      exact Delivers.pure (areStates_nil _)
    · apply ((FlowEngine.eventPipelines_delivers hList).mapError _).bind
      rintro _ rfl
      apply Delivers.pure
      apply areStates_ofList
      intro id
      rw [List.contains_iff_mem, List.mem_map]
      rfl

theorem ConditionalHandler.tells
    {h : ConditionalHandler σ} {token : String}
    {descriptions : String → List EventDescription}
    (hEvents : ∀ id, Gives p (h.events.byEvent id) (descriptions id)) :
    h.handler.Tells p token fun id => descriptions id ≠ [] where
  checkEvent id := by
    change Delivers p _ (h.checkEvent id)
    unfold ConditionalHandler.checkEvent
    apply (hEvents id).delivers.attempt.bind
    rintro _ ⟨_, rfl, rfl⟩
    cases hStored : descriptions id with
    | nil => exact Delivers.pure (.notFound fun hFound => hFound rfl)
    | cons d ds => exact Delivers.pure (.ok (List.cons_ne_nil d ds))
  eventStates ids := by
    change Delivers p _ (h.eventStates ids)
    unfold ConditionalHandler.eventStates
    have hCollect :
        Delivers p (· = ids.map fun id => (id, !(descriptions id).isEmpty))
          (Action.collect h.eventState ids) := by
      induction ids with
      | nil => exact Delivers.pure rfl
      | cons id ids ih =>
          have hState :
              Delivers p (· = [(id, !(descriptions id).isEmpty)])
                (h.eventState id) := by
            unfold ConditionalHandler.eventState
            apply ((hEvents id).delivers.mapError _).bind
            rintro _ rfl
            exact Delivers.pure rfl
          apply hState.bind
          rintro _ rfl
          apply ih.bind
          rintro _ rfl
          exact Delivers.pure rfl
    apply hCollect.bind
    rintro _ rfl
    apply Delivers.pure
    apply areStates_ofList
    intro id
    rw [Bool.not_eq_true', List.isEmpty_eq_false_iff]

------------------------------------------------------------
-- Merged answers
------------------------------------------------------------

namespace Dispatcher

variable
  {token : String} {finds : EventHandler σ → String → Prop}
  {handlers : List (EventHandler σ)}

/- A key that is not merged keeps its state. -/
theorem get?_foldl_update_of_notMem
    {k : String} {l : List (String × Bool)} {a : Dict Bool}
    (hNone : k ∉ l.map (·.1)) :
    (l.foldl (fun states e => states.update e.1 false (· || e.2)) a).get? k =
      a.get? k := by
  induction l generalizing a with
  | nil => rfl
  | cons e l ih =>
      rw [List.map_cons, List.mem_cons, not_or] at hNone
      rw [List.foldl_cons, ih hNone.2, Dict.update,
        Dict.get?_insert, if_neg hNone.1]

/- Of keys that are merged once, the state holds if it does on either side. -/
theorem get?_foldl_update_of_mem
    {k : String} {v : Bool} {l : List (String × Bool)} {a : Dict Bool}
    (hKeys : (l.map (·.1)).Nodup)
    (hMem : (k, v) ∈ l) :
    (l.foldl (fun states e => states.update e.1 false (· || e.2)) a).get? k =
      some (a.getD k false || v) := by
  induction l generalizing a with
  | nil => cases hMem
  | cons e l ih =>
      rw [List.map_cons, List.nodup_cons] at hKeys
      rw [List.foldl_cons]
      rcases List.mem_cons.mp hMem with rfl | hRest
      · rw [get?_foldl_update_of_notMem hKeys.1,
          Dict.update, Dict.get?_insert, if_pos rfl]
      · have hOther : k ≠ e.1 := by
          rintro rfl
          exact hKeys.1 (List.mem_map.mpr ⟨_, hRest, rfl⟩)
        rw [ih hKeys.2 hRest, Dict.getD_update, if_neg hOther]

theorem get?_mergeStates_eq
    (a b : Dict Bool) (k : String) :
    (mergeStates a b).get? k =
      match b.get? k with
      | none => a.get? k
      | some v => some (a.getD k false || v) := by
  unfold mergeStates
  cases hRight : b.get? k with
  | none =>
      apply get?_foldl_update_of_notMem
      intro hMem
      have hSome := (b.mem_keys_iff k).mp hMem
      rw [hRight] at hSome
      cases hSome
  | some v =>
      exact get?_foldl_update_of_mem b.nodup_keys
        ((b.mem_entries_iff k v).mpr hRight)

/- Merged with none at all, states are left as they are. -/
theorem mergeStates_empty
    (b : Dict Bool) :
    mergeStates .empty b = b := by
  apply Dict.ext_get?
  intro k
  rw [get?_mergeStates_eq]
  cases b.get? k with
  | none => rfl
  | some v => rfl

end Dispatcher

/- What has been found by either is found. -/
theorem AreStates.merge
    {f g : String → Prop} {ids : List String} {a b : Dict Bool}
    (hLeft : AreStates f ids a)
    (hRight : AreStates g ids b) :
    AreStates (fun id => f id ∨ g id) ids (Dispatcher.mergeStates a b) where
  keys id := by
    rw [Dict.contains, Dispatcher.get?_mergeStates_eq]
    cases hValue : b.get? id with
    | none => exact hLeft.keys id
    | some v =>
        rw [← hRight.keys id, Dict.contains, hValue]
        exact ⟨fun _ => rfl, fun _ => rfl⟩
  value id value hMerged := by
    rw [Dispatcher.get?_mergeStates_eq] at hMerged
    cases hValue : b.get? id with
    | none =>
        rw [hValue] at hMerged
        have hListed := (hLeft.keys id).mp (Option.isSome_of_eq_some hMerged)
        have hSome := (hRight.keys id).mpr hListed
        rw [Dict.contains, hValue] at hSome
        cases hSome
    | some v =>
        rw [hValue] at hMerged
        have hListed := (hRight.keys id).mp (Option.isSome_of_eq_some hValue)
        rcases Option.isSome_iff_exists.mp ((hLeft.keys id).mpr hListed) with
          ⟨u, hLeftValue⟩
        rw [Dict.getD, hLeftValue] at hMerged
        cases hMerged
        rw [Option.getD_some, Bool.or_eq_true, hLeft.value id u hLeftValue,
          hRight.value id v hValue]

theorem AreStates.of_iff
    {f g : String → Prop} {ids : List String} {states : Dict Bool}
    (hStates : AreStates f ids states)
    (hSame : ∀ id, f id ↔ g id) :
    AreStates g ids states where
  keys := hStates.keys
  value id value hValue := (hStates.value id value hValue).trans (hSame id)

namespace Dispatcher

variable
  {d : Dispatcher σ} {token : String}
  {finds : EventHandler σ → String → Prop} {handlers : List (EventHandler σ)}

/- By induction over the handlers: the first that finds the event decides. -/
theorem checkWith_tells
    (hEach : ∀ k ∈ handlers, k.Tells p token (finds k))
    (id : String) :
    Delivers p (IsAnswer (∃ k ∈ handlers, finds k id))
      (checkWith token id handlers) := by
  induction handlers with
  | nil => exact Delivers.pure (.notFound nofun)
  | cons k handlers ih =>
      rcases List.forall_mem_cons.mp hEach with ⟨hFirst, hRest⟩
      apply (hFirst.checkEvent id).bind
      rintro status (hFound | hMissing)
      · exact Delivers.pure (.ok ⟨k, List.mem_cons_self, hFound⟩)
      · intro s hBefore
        rcases ih hRest s hBefore with ⟨status, s', hRun, hAnswer, hAfter⟩
        refine ⟨status, s', hRun, hAnswer.of_iff ?_, hAfter⟩
        rw [List.exists_mem_cons_iff]
        exact (or_iff_right hMissing).symm

/-
  By induction over the handlers, whose states are merged
  with those known so far.
-/
theorem statesWith_tells
    {known : String → Prop} {states : Dict Bool} {ids : List String}
    (hEach : ∀ k ∈ handlers, k.Tells p token (finds k))
    (hKnown : AreStates known ids states) :
    Delivers p (AreStates (fun id => known id ∨ ∃ k ∈ handlers, finds k id) ids)
      (statesWith token ids states handlers) := by
  induction handlers generalizing known states with
  | nil =>
      apply Delivers.pure
      apply hKnown.of_iff
      intro id
      rw [or_iff_left nofun]
  | cons k handlers ih =>
      rcases List.forall_mem_cons.mp hEach with ⟨hFirst, hRest⟩
      apply (hFirst.eventStates ids).bind
      intro more hMore s hBefore
      rcases ih hRest (hKnown.merge hMore) s hBefore with
        ⟨all, s', hRun, hAll, hAfter⟩
      refine ⟨all, s', hRun, hAll.of_iff fun id => ?_, hAfter⟩
      rw [List.exists_mem_cons_iff, or_assoc]

/- Without handlers there are no states, as nobody is asked. -/
theorem eventStates_tells
    (hEach : ∀ k ∈ d.handlers, k.Tells p token (finds k))
    (ids : List String) :
    Delivers p
      (fun states =>
        AreStates (fun id => ∃ k ∈ d.handlers, finds k id)
          (if d.handlers = [] then [] else ids) states)
      (d.eventStates token ids) := by
  unfold eventStates
  cases hHandlers : d.handlers with
  | nil => exact Delivers.pure (areStates_nil _)
  | cons k handlers =>
      rw [hHandlers] at hEach
      rcases List.forall_mem_cons.mp hEach with ⟨hFirst, hRest⟩
      apply (hFirst.eventStates ids).bind
      intro states hStates s hBefore
      rw [mergeStates_empty]
      rcases statesWith_tells hRest hStates s hBefore with
        ⟨all, s', hRun, hAll, hAfter⟩
      refine ⟨all, s', hRun, ?_, hAfter⟩
      rw [if_neg (List.cons_ne_nil k handlers)]
      apply hAll.of_iff
      intro id
      rw [List.exists_mem_cons_iff]

end Dispatcher

------------------------------------------------------------
-- Tokens that cannot be read
------------------------------------------------------------

theorem AnalyticsHandler.checkEvent_of_badToken
    (h : AnalyticsHandler σ)
    {token : String} {fault : TokenFault}
    (hFault : Claims.parse token = .error fault)
    (id : String) :
    h.checkEvent token id = pure .badRequest := by
  rw [checkEvent, hFault]

theorem AnalyticsHandler.eventStates_of_badToken
    (h : AnalyticsHandler σ)
    {token : String} {fault : TokenFault}
    (hFault : Claims.parse token = .error fault)
    (ids : List String) :
    h.eventStates token ids = .fail (.invalidToken fault) := by
  rw [eventStates, hFault]

/- The two kinds of handlers have different names. -/
theorem AnalyticsHandler.handler_ne
    (a : AnalyticsHandler σ)
    (c : ConditionalHandler σ) :
    a.handler ≠ c.handler := by
  intro hSame
  have hName : "analytics" = "conditional" := congrArg EventHandler.name hSame
  exact absurd hName (by decide)

namespace Dispatcher

variable
  {d : Dispatcher σ} {a : AnalyticsHandler σ} {c : ConditionalHandler σ}
  {token : String} {listed : List Pipeline}
  {descriptions : String → List EventDescription}
  {handlers : List (EventHandler σ)} {fault : TokenFault}

/- The first handler does not look at tokens, and finds the event. -/
def FindsFirst
    (handlers : List (EventHandler σ))
    (c : ConditionalHandler σ)
    (descriptions : String → List EventDescription)
    (eventId : String) : Prop :=
  handlers.head? = some c.handler ∧ descriptions eventId ≠ []

/-
  By induction over the handlers in front of the first that
  looks at the token.
-/
theorem checkWith_of_badToken
    (hHandlers : ∀ k ∈ handlers, k = a.handler ∨ k = c.handler)
    (hEvents : c.handler ∈ handlers →
      ∀ id, Gives p (c.events.byEvent id) (descriptions id))
    (hFault : Claims.parse token = .error fault)
    (hMem : a.handler ∈ handlers)
    (id : String) :
    Delivers p
      (fun status =>
        (FindsFirst handlers c descriptions id → status = .ok) ∧
          (¬ FindsFirst handlers c descriptions id → status = .badRequest))
      (checkWith token id handlers) := by
  induction handlers with
  | nil => cases hMem
  | cons k handlers ih =>
      rcases List.forall_mem_cons.mp hHandlers with ⟨hFirst, hRest⟩
      rcases hFirst with rfl | rfl
      · have hCheck : a.handler.checkEvent token id = pure .badRequest :=
          a.checkEvent_of_badToken hFault id
        rw [checkWith, hCheck]
        apply Delivers.pure
        refine ⟨fun hFinds => ?_, fun _ => rfl⟩
        exact absurd (Option.some.inj hFinds.1) (a.handler_ne c)
      · have hTells : c.handler.Tells p token fun id => descriptions id ≠ [] :=
          ConditionalHandler.tells (hEvents List.mem_cons_self)
        apply (hTells.checkEvent id).bind
        rintro status (hFound | hMissing)
        · apply Delivers.pure
          exact ⟨fun _ => rfl, fun hNot => absurd ⟨rfl, hFound⟩ hNot⟩
        · have hLater : a.handler ∈ handlers :=
            (List.mem_cons.mp hMem).resolve_left (a.handler_ne c)
          intro s hBefore
          rcases ih hRest (fun hIn => hEvents (List.mem_cons_of_mem _ hIn))
            hLater s hBefore with
            ⟨status, s', hRun, ⟨-, hRejected⟩, hAfter⟩
          refine ⟨status, s', hRun,
            ⟨fun hFinds => absurd hFinds.2 hMissing, fun _ => ?_⟩, hAfter⟩
          exact hRejected fun hFinds => hMissing hFinds.2

/- One after the other is asked, up to the first that looks at the token. -/
theorem statesWith_of_badToken
    (hHandlers : ∀ k ∈ handlers, k = a.handler ∨ k = c.handler)
    (hEvents : c.handler ∈ handlers →
      ∀ id, Gives p (c.events.byEvent id) (descriptions id))
    (hFault : Claims.parse token = .error fault)
    (hMem : a.handler ∈ handlers)
    (ids : List String)
    (known : Dict Bool)
    {s : σ}
    (hBefore : p s) :
    ∃ s', statesWith token ids known handlers s =
      (.error (.invalidToken fault), s') := by
  induction handlers generalizing known s with
  | nil => cases hMem
  | cons k handlers ih =>
      rcases List.forall_mem_cons.mp hHandlers with ⟨hFirst, hRest⟩
      rcases hFirst with rfl | rfl
      · have hStates :
            a.handler.eventStates token ids = .fail (.invalidToken fault) :=
          a.eventStates_of_badToken hFault ids
        rw [statesWith, hStates]
        exact ⟨s, rfl⟩
      · have hTells : c.handler.Tells p token fun id => descriptions id ≠ [] :=
          ConditionalHandler.tells (hEvents List.mem_cons_self)
        have hLater : a.handler ∈ handlers :=
          (List.mem_cons.mp hMem).resolve_left (a.handler_ne c)
        rcases hTells.eventStates ids s hBefore with
          ⟨states, s', hRun, -, hAfter⟩
        rcases ih hRest (fun hIn => hEvents (List.mem_cons_of_mem _ hIn)) hLater
          (mergeStates known states) hAfter with ⟨s'', hLast⟩
        exact ⟨s'', (Action.bind_of_ok hRun).trans hLast⟩

------------------------------------------------------------
-- Both queries
------------------------------------------------------------

/-
  The handlers are of the two kinds, and while the condition
  holds they find what they look up.
-/
structure LooksUp
    (d : Dispatcher σ)
    (a : AnalyticsHandler σ)
    (c : ConditionalHandler σ)
    (p : σ → Prop)
    (token : String)
    (listed : List Pipeline)
    (descriptions : String → List EventDescription) : Prop where
  handlers : ∀ k ∈ d.handlers, k = a.handler ∨ k = c.handler
  list :
    a.handler ∈ d.handlers →
      ∀ claims, Claims.parse token = .ok claims →
        Gives p (a.engine.list claims.subject) listed
  byEvent : c.handler ∈ d.handlers →
    ∀ id, Gives p (c.events.byEvent id) (descriptions id)

/- What a handler of either kind finds. -/
def Finds
    (a : AnalyticsHandler σ)
    (c : ConditionalHandler σ)
    (listed : List Pipeline)
    (descriptions : String → List EventDescription)
    (k : EventHandler σ)
    (eventId : String) : Prop :=
  (k = a.handler ∧ Pipeline.ServeEvent listed eventId) ∨
    (k = c.handler ∧ descriptions eventId ≠ [])

theorem LooksUp.tells
    (hLooksUp : d.LooksUp a c p token listed descriptions)
    {claims : Claims}
    (hClaims : Claims.parse token = .ok claims) :
    ∀ k ∈ d.handlers, k.Tells p token (Finds a c listed descriptions k) := by
  intro k hMem
  rcases hLooksUp.handlers k hMem with rfl | rfl
  · have hSame :
        Finds a c listed descriptions a.handler =
          Pipeline.ServeEvent listed := by
      funext id
      rw [Finds, eq_self, true_and, eq_iff_iff,
        or_iff_left fun hOther => a.handler_ne c hOther.1]
    rw [hSame]
    exact AnalyticsHandler.tells hClaims (hLooksUp.list hMem claims hClaims)
  · have hSame :
        Finds a c listed descriptions c.handler =
          fun id => descriptions id ≠ [] := by
      funext id
      rw [Finds, eq_self, true_and, eq_iff_iff,
        or_iff_right fun hOther => a.handler_ne c hOther.1.symm]
    rw [hSame]
    exact ConditionalHandler.tells (hLooksUp.byEvent hMem)

/-
  For every token that can be read, the states are those of
  the ids that have been asked for, if there is a handler at
  all, and each of them is the answer to the other query. If
  a token cannot be read, and one of the handlers looks at
  it, the states cannot be told. The other query rejects the
  token, too, unless the first of the handlers does not look
  at it and finds the event.
-/
theorem queries_agree
    (hLooksUp : d.LooksUp a c p token listed descriptions)
    {s : σ}
    (hState : p s) :
    (∀ claims, Claims.parse token = .ok claims →
        ∀ ids,
          ∃ states s',
            d.eventStates token ids s = (.ok states, s') ∧
              (d.handlers ≠ [] → ∀ id, states.contains id = true ↔ id ∈ ids) ∧
              ∀ id value, states.get? id = some value →
                (value = true ↔
                  ∃ k ∈ d.handlers, Finds a c listed descriptions k id) ∧
                  ∃ status s'',
                    d.checkEvent token id s = (.ok status, s'') ∧
                      (status = .ok ↔ value = true) ∧
                      (status = .notFound ↔ value = false)) ∧
      ∀ fault, Claims.parse token = .error fault →
        a.handler ∈ d.handlers →
          (∀ ids,
              ∃ e s',
                d.eventStates token ids s = (.error e, s') ∧
                  e.status = .badRequest) ∧
            ∀ id,
              ∃ status s',
                d.checkEvent token id s = (.ok status, s') ∧
                  (FindsFirst d.handlers c descriptions id → status = .ok) ∧
                  (¬ FindsFirst d.handlers c descriptions id →
                    status = .badRequest) := by
  constructor
  · intro claims hClaims ids
    have hEach := hLooksUp.tells hClaims
    rcases eventStates_tells hEach ids s hState with
      ⟨states, s', hRun, hStates, -⟩
    refine ⟨states, s', hRun, fun hSome id => ?_, fun id value hValue => ?_⟩
    · rw [hStates.keys id, if_neg hSome]
    · have hFound := hStates.value id value hValue
      rcases checkWith_tells hEach id s hState with
        ⟨status, s'', hCheck, hAnswer, -⟩
      exact ⟨hFound, status, s'', hCheck, hAnswer.eq_ok_iff.trans hFound.symm,
        hAnswer.eq_notFound_iff.trans
          (not_congr hFound.symm |>.trans (by simp))⟩
  · intro fault hFault hMem
    constructor
    · intro ids
      rcases statesWith_of_badToken hLooksUp.handlers
        hLooksUp.byEvent hFault hMem ids .empty
        hState with ⟨s', hRun⟩
      exact ⟨_, s', hRun, rfl⟩
    · intro id
      rcases checkWith_of_badToken hLooksUp.handlers
        hLooksUp.byEvent hFault hMem id s hState with
        ⟨status, s', hRun, hStatus, -⟩
      exact ⟨status, s', hRun, hStatus⟩

/- Both handlers on a backend, where the one that looks at tokens comes last. -/
def lateAnalytics : Dispatcher Backend where
  handlers :=
    [(Backend.conditional (.ok ⟨"Bearer"⟩)).handler,
      (Backend.analytics (.ok ⟨"Bearer"⟩)).handler]
  done := none
  doneHandler := "events"
  counters := .none

/-
  Whatever is held, both handlers find it, and looking it up
  changes nothing.
-/
theorem lateAnalytics_looksUp
    {token subject : String}
    (hToken :
      ∀ claims, Claims.parse token = .ok claims → claims.subject = subject)
    (s : Backend) :
    lateAnalytics.LooksUp
      (Backend.analytics (.ok ⟨"Bearer"⟩))
      (Backend.conditional (.ok ⟨"Bearer"⟩)) (· = s) token
      ((s.running.rows.filter fun r => r.owner = subject).map
        PipelineRow.listed)
      (fun id => s.tables.descriptions.rows.filter fun d => d.eventId =
        id) where
  handlers k hMem := by
    rcases List.mem_pair.mp hMem with rfl | rfl
    · exact .inr rfl
    · exact .inl rfl
  list _ claims hClaims := by
    rw [hToken claims hClaims]
    rintro _ rfl
    exact ⟨_, rfl, rfl⟩
  byEvent _ id := by
    rintro _ rfl
    exact ⟨_, rfl, rfl⟩

/- An event that is found, one that is not, and a token that cannot be read. -/
theorem queries_agree_lateAnalytics :
    (∃ s', lateAnalytics.checkEvent Deployer.ownerToken "e0" Deployer.occupied =
      (.ok .ok, s')) ∧
      (∃ s',
        lateAnalytics.checkEvent Deployer.ownerToken "e5" Deployer.occupied =
          (.ok .notFound, s')) ∧
      ∃ s', lateAnalytics.checkEvent "token" "e5" Deployer.occupied =
        (.ok .badRequest, s') := by
  have hClaims :
      Claims.parse Deployer.ownerToken = .ok { subject := "u1" } := by
    decide +kernel
  have hFault : Claims.parse "token" = .error .notJwt := by
    decide +kernel
  have hOwner :
      ∀ claims, Claims.parse Deployer.ownerToken = .ok claims →
        claims.subject = "u1" := by
    intro claims hOther
    rw [hClaims] at hOther
    cases hOther
    rfl
  have hNobody :
      ∀ claims, Claims.parse "token" = .ok claims → claims.subject = "" := by
    intro claims hOther
    rw [hFault] at hOther
    cases hOther
  have hFound :
      (lateAnalytics.eventStates Deployer.ownerToken ["e0", "e5", "e0"]
          Deployer.occupied).1.toOption.map (·.entries) =
        some [("e0", true), ("e5", false)] := by
    decide +kernel
  rcases (queries_agree (lateAnalytics_looksUp hOwner Deployer.occupied) rfl).1
    _ hClaims
    ["e0", "e5", "e0"] with ⟨states, s', hRun, -, hCheck⟩
  rw [hRun] at hFound
  have hEntries : states.entries = [("e0", true), ("e5", false)] :=
    Option.some.inj hFound
  have hTrue : states.get? "e0" = some true := by
    rw [Dict.get?, hEntries]
    rfl
  have hFalse : states.get? "e5" = some false := by
    rw [Dict.get?, hEntries]
    rfl
  rcases hCheck "e0" true hTrue with ⟨-, status, t, hCheckTrue, hOk, -⟩
  rcases hCheck "e5" false hFalse with
    ⟨-, status', t', hCheckFalse, -, hNotFound⟩
  rcases ((queries_agree
    (lateAnalytics_looksUp hNobody Deployer.occupied) rfl).2 _ hFault
    (List.mem_cons_of_mem _ List.mem_cons_self)).2 "e5" with
      ⟨status'', t'', hReject, -, hBad⟩
  have hUnknown :
      ¬ FindsFirst lateAnalytics.handlers (Backend.conditional (.ok ⟨"Bearer"⟩))
        (fun id => Deployer.occupied.tables.descriptions.rows.filter fun d =>
          d.eventId = id)
        "e5" :=
    fun hFinds => hFinds.2 (by decide +kernel)
  refine ⟨⟨t, ?_⟩, ⟨t', ?_⟩, ⟨t'', ?_⟩⟩
  · rw [hCheckTrue, hOk.mpr rfl]
  · rw [hCheckFalse, hNotFound.mpr rfl]
  · rw [hReject, hBad hUnknown]

/-
  The other handler answers first, so that the event is found
  with a token that cannot be read.
-/
theorem checkEvent_lateAnalytics_badToken :
    (Backend.analytics (.ok ⟨"Bearer"⟩)).handler ∈ lateAnalytics.handlers ∧
      Claims.parse "token" = .error .notJwt ∧
      (lateAnalytics.checkEvent "token" "e0" Deployer.occupied).1 = .ok .ok ∧
      Http.Status.ok ≠ Http.Status.badRequest := by
  refine ⟨List.mem_cons_of_mem _ List.mem_cons_self, ?_, ?_, ?_⟩
  · decide +kernel
  · decide +kernel
  · decide

end Dispatcher

end ProcessEvents
