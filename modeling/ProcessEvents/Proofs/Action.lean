import ProcessEvents.Action

/-
  This file relates actions to views of their state: parts
  of the state that an action leaves alone, and parts that
  decide how it ends. Both are properties that a sequence
  has as soon as its steps have them, so that they are
  established of what an action consists of.

  Key definitions include:
    * `Action.Property`
    * `Action.Sequential`, `Action.Closed`
    * `Action.Preserves`
    * `Action.Keeps`
    * `Action.AnswersFrom`
    * `Action.Succeeds`, `Action.Fixed`
    * `Action.Gives`, `Action.Delivers`
    * `Action.FixedWhere`
    * `Action.Yields`, `Action.Raises`

  Key theorems include:
    * `Action.forEach_cons_eq_ok_iff`
    * `Action.forEach_eq_error_iff`
    * `Action.forEach_append`
    * `Action.Preserves.closed`
    * `Action.Keeps.closed`
    * `Action.AnswersFrom.closed`
    * `Action.Succeeds.sequential`
    * `Action.FixedWhere.sequential`
    * `Action.Fixed.sequential`
-/

namespace ProcessEvents

namespace Action

variable {σ ε ε' α β γ ω : Type}

------------------------------------------------------------
-- How sequences end
------------------------------------------------------------

/- A sequence fails in its first part or in its second. -/
theorem bind_eq_error_iff
    {a : Action σ ε α} {f : α → Action σ ε β} {s t : σ} {e : ε} :
    (a >>= f) s = (.error e, t) ↔
      a s = (.error e, t) ∨
        ∃ x s', a s = (.ok x, s') ∧ f x s' = (.error e, t) := by
  rw [bind_apply]
  rcases hRun : a s with ⟨_ | x, s'⟩
  · simp
  · constructor
    · exact fun h => Or.inr ⟨x, s', rfl, h⟩
    · rintro (h | ⟨x', t', h, h'⟩)
      · cases h
      · cases h
        exact h'

theorem map_eq_ok_iff
    {a : Action σ ε α} {f : α → β} {s t : σ} {y : β} :
    (f <$> a) s = (.ok y, t) ↔
      ∃ x, a s = (.ok x, t) ∧ f x = y := by
  rw [map_eq_pure_bind, bind_eq_ok_iff]
  constructor
  · rintro ⟨x, s', hRun, hEnd⟩
    cases hEnd
    exact ⟨x, hRun, rfl⟩
  · rintro ⟨x, hRun, rfl⟩
    exact ⟨x, t, hRun, rfl⟩

theorem mapError_eq_ok_iff
    {f : ε → ε'} {a : Action σ ε α} {s t : σ} {x : α} :
    a.mapError f s = (.ok x, t) ↔ a s = (.ok x, t) := by
  unfold mapError
  rcases a s with ⟨e | y, s'⟩
  · change (Except.error (f e), s') = (.ok x, t) ↔
      (Except.error e, s') = (.ok x, t)
    simp
  · change (Except.ok y, s') = (Except.ok x, t) ↔
      (Except.ok y, s') = (Except.ok x, t)
    simp

theorem mapError_eq_error_iff
    {f : ε → ε'} {a : Action σ ε α} {s t : σ} {e : ε'} :
    a.mapError f s = (.error e, t) ↔
      ∃ e', a s = (.error e', t) ∧ f e' = e := by
  unfold mapError
  rcases a s with ⟨e' | y, s'⟩
  · change (Except.error (f e'), s') = (Except.error e, t) ↔ _
    simp only [Prod.mk.injEq, Except.error.injEq]
    constructor
    · rintro ⟨h, rfl⟩
      exact ⟨e', ⟨rfl, rfl⟩, h⟩
    · rintro ⟨_, ⟨rfl, rfl⟩, h⟩
      exact ⟨h, rfl⟩
  · change (Except.ok y, s') = (Except.error e, t) ↔ _
    simp

theorem eq_ok_of_isOk
    {a : Action σ ε Unit} {s : σ}
    (hOk : (a s).1.isOk = true) :
    a s = (.ok (), (a s).2) := by
  rcases hRun : a s with ⟨_ | _, s'⟩
  · rw [hRun] at hOk
    cases hOk
  · rfl

theorem eq_error_of_isOk
    {a : Action σ ε Unit} {s : σ}
    (hError : (a s).1.isOk = false) :
    ∃ e, a s = (.error e, (a s).2) := by
  rcases hRun : a s with ⟨e | _, s'⟩
  · exact ⟨e, rfl⟩
  · rw [hRun] at hError
    cases hError

/- An attempt ends well, with what the action ends in. -/
theorem attempt_apply
    (a : Action σ ε α) (s : σ) :
    (a.attempt : Action σ ε' (Except ε α)) s =
      (.ok (a s).1, (a s).2) := rfl

theorem forEach_cons_eq_ok_iff
    {f : α → Action σ ε Unit} {x : α} {l : List α} {s t : σ} :
    forEach f (x :: l) s = (.ok (), t) ↔
      ∃ s', f x s = (.ok (), s') ∧ forEach f l s' = (.ok (), t) := by
  change (f x >>= fun _ => forEach f l) s = (.ok (), t) ↔ _
  rw [bind_eq_ok_iff]
  constructor
  · rintro ⟨_, s', hHead, hTail⟩
    exact ⟨s', hHead, hTail⟩
  · rintro ⟨s', hHead, hTail⟩
    exact ⟨(), s', hHead, hTail⟩

theorem forEach_singleton_eq_ok_iff
    {f : α → Action σ ε Unit} {x : α} {s t : σ} :
    forEach f [x] s = (.ok (), t) ↔ f x s = (.ok (), t) := by
  rw [forEach_cons_eq_ok_iff]
  constructor
  · rintro ⟨s', hRun, hNil⟩
    cases hNil
    exact hRun
  · intro hRun
    exact ⟨t, hRun, rfl⟩

theorem forEach_pair_eq_ok_iff
    {f : α → Action σ ε Unit} {x y : α} {s t : σ} :
    forEach f [x, y] s = (.ok (), t) ↔
      ∃ s', f x s = (.ok (), s') ∧ f y s' = (.ok (), t) := by
  simp only [forEach_cons_eq_ok_iff (l := [y]), forEach_singleton_eq_ok_iff]

/- Of two elements, the first fails, or the second after it. -/
theorem forEach_pair_eq_error_iff
    {f : α → Action σ ε Unit} {x y : α} {s t : σ} {e : ε} :
    forEach f [x, y] s = (.error e, t) ↔
      f x s = (.error e, t) ∨
        ∃ s', f x s = (.ok (), s') ∧ f y s' = (.error e, t) := by
  change (f x >>= fun _ => f y >>= fun _ => Pure.pure ()) s = (.error e, t) ↔ _
  rw [bind_pure_unit, bind_eq_error_iff]
  constructor
  · rintro (hFirst | ⟨_, s', hFirst, hSecond⟩)
    · exact Or.inl hFirst
    · exact Or.inr ⟨s', hFirst, hSecond⟩
  · rintro (hFirst | ⟨s', hFirst, hSecond⟩)
    · exact Or.inl hFirst
    · exact Or.inr ⟨(), s', hFirst, hSecond⟩

/-
  Of the elements of a list, those before the first that
  fails have all been served.
-/
theorem forEach_eq_error_iff
    {f : α → Action σ ε Unit} {l : List α} {s t : σ} {e : ε} :
    forEach f l s = (.error e, t) ↔
      ∃ before x after s',
        l = before ++ x :: after ∧
          forEach f before s = (.ok (), s') ∧
          f x s' = (.error e, t) := by
  induction l generalizing s with
  | nil =>
      constructor
      · intro h
        cases h
      · rintro ⟨before, x, after, s', hList, -, -⟩
        simp at hList
  | cons y l ih =>
      change (f y >>= fun _ => forEach f l) s = (.error e, t) ↔ _
      rw [bind_eq_error_iff]
      constructor
      · rintro (hHead | ⟨_, s', hHead, hTail⟩)
        · exact ⟨[], y, l, s, rfl, rfl, hHead⟩
        · rcases ih.mp hTail with
            ⟨before, x, after, s'', rfl, hBefore, hFail⟩
          exact
            ⟨y :: before, x, after, s'', rfl,
              forEach_cons_eq_ok_iff.mpr ⟨s', hHead, hBefore⟩,
              hFail⟩
      · rintro ⟨before, x, after, s', hList, hBefore, hFail⟩
        cases before with
        | nil =>
            cases hList
            cases hBefore
            exact Or.inl hFail
        | cons z before =>
            cases hList
            rcases forEach_cons_eq_ok_iff.mp hBefore with
              ⟨s'', hHead, hRest⟩
            exact
              Or.inr ⟨(), s'', hHead,
                ih.mpr ⟨before, x, after, s', rfl, hRest, hFail⟩⟩

/- A list in two parts is served one part after the other. -/
theorem forEach_append
    (f : α → Action σ ε Unit) (l l' : List α) :
    forEach f (l ++ l') = forEach f l >>= fun _ => forEach f l' := by
  induction l with
  | nil => rfl
  | cons x l ih =>
      change (f x >>= fun _ => forEach f (l ++ l')) =
        (f x >>= fun _ => forEach f l) >>= _
      rw [ih, bind_assoc]

/- Where one element always fails, the list never succeeds. -/
theorem forEach_error_of_mem
    {f : α → Action σ ε Unit} {x : α} {l : List α}
    (hMem : x ∈ l)
    (hFails : ∀ s, ∃ e s', f x s = (.error e, s'))
    (s : σ) :
    ∃ e s', forEach f l s = (.error e, s') := by
  rcases List.append_of_mem hMem with ⟨before, after, rfl⟩
  rw [forEach_append]
  rcases hBefore : forEach f before s with ⟨e | _, s'⟩
  · exact ⟨e, s', bind_of_error hBefore⟩
  · rcases hFails s' with ⟨e, s'', hFail⟩
    exact ⟨e, s'', (bind_of_ok hBefore).trans (bind_of_error hFail)⟩

------------------------------------------------------------
-- Properties of actions
------------------------------------------------------------

/- A property that actions may have, whatever they end in. -/
def Property (σ : Type) : Type 1 :=
  ∀ ⦃ε α : Type⦄, Action σ ε α → Prop

/- A sequence has the property if its parts have it. -/
structure Sequential
    (P : Property σ) : Prop where
  pure : ∀ {ε α : Type} (x : α), P (Pure.pure x : Action σ ε α)
  bind :
    ∀ {ε α β : Type} {a : Action σ ε α} {f : α → Action σ ε β},
      P a → (∀ x, P (f x)) → P (a >>= f)

/- Errors and what is made of them do not matter either. -/
structure Closed
    (P : Property σ) : Prop extends Sequential P where
  fail : ∀ {ε α : Type} (e : ε), P (Action.fail e : Action σ ε α)
  mapError :
    ∀ {ε ε' α : Type} {a : Action σ ε α} (f : ε → ε'),
      P a → P (a.mapError f)
  attempt :
    ∀ {ε ε' α : Type} {a : Action σ ε α},
      P a → P (a.attempt : Action σ ε' (Except ε α))

namespace Sequential

variable {P : Property σ}

theorem map
    (hP : Sequential P)
    {a : Action σ ε α} (f : α → β)
    (hAction : P a) :
    P (f <$> a) := by
  rw [map_eq_pure_bind]
  exact hP.bind hAction fun x => hP.pure (f x)

theorem forEach
    (hP : Sequential P)
    {f : α → Action σ ε Unit}
    (l : List α)
    (hEach : ∀ x ∈ l, P (f x)) :
    P (Action.forEach f l) := by
  induction l with
  | nil => exact hP.pure ()
  | cons x l ih =>
      apply hP.bind (hEach x List.mem_cons_self)
      intro _
      exact ih fun y hy => hEach y (List.mem_cons_of_mem _ hy)

theorem collect
    (hP : Sequential P)
    {f : α → Action σ ε (List β)}
    (l : List α)
    (hEach : ∀ x ∈ l, P (f x)) :
    P (Action.collect f l) := by
  induction l with
  | nil => exact hP.pure []
  | cons x l ih =>
      apply hP.bind (hEach x List.mem_cons_self)
      intro ys
      apply hP.bind (ih fun y hy => hEach y (List.mem_cons_of_mem _ hy))
      intro more
      exact hP.pure (ys ++ more)

end Sequential

theorem Closed.ofExcept
    {P : Property σ}
    (hP : Closed P)
    (r : Except ε α) :
    P (Action.ofExcept r) := by
  cases r with
  | error e => exact hP.fail e
  | ok x => exact hP.pure x

/- What follows a known result matters only for its value. -/
theorem Closed.bind_ofExcept
    {P : Property σ}
    (hP : Closed P)
    {r : Except ε α} {f : α → Action σ ε β}
    (hThen : ∀ x, r = .ok x → P (f x)) :
    P (Action.ofExcept r >>= f) := by
  cases r with
  | error e => exact hP.fail e
  | ok x => exact hThen x rfl

------------------------------------------------------------
-- What an action leaves alone
------------------------------------------------------------

/- What holds before the action still holds when it has ended. -/
def Preserves (p : σ → Prop) : Property σ :=
  fun _ _ a => ∀ s, p s → p (a s).2

theorem Preserves.closed
    {p : σ → Prop} :
    Closed (Preserves p) where
  pure _ _ hBefore := hBefore
  bind {_ _ _ a f} hFirst hThen s hBefore := by
    rw [bind_apply]
    have hMiddle := hFirst s hBefore
    rcases hRun : a s with ⟨e | x, s'⟩
    · rw [hRun] at hMiddle
      exact hMiddle
    · rw [hRun] at hMiddle
      exact hThen x s' hMiddle
  fail _ _ hBefore := hBefore
  mapError _ hAction := hAction
  attempt hAction := hAction

/- However the action ends, the view stays as it is. -/
def Keeps (view : σ → β) : Property σ :=
  fun _ _ a => ∀ s, view (a s).2 = view s

namespace Keeps

variable {view : σ → β}

/- Whatever holds of the view is preserved. -/
theorem preserves
    {a : Action σ ε α}
    (hKeeps : Keeps view a)
    (p : β → Prop) :
    Preserves (fun s => p (view s)) a := by
  intro s hBefore
  rw [hKeeps s]
  exact hBefore

/- What depends on the view only stays as it is, too. -/
theorem comp
    {a : Action σ ε α}
    (hKeeps : Keeps view a)
    (f : β → γ) :
    Keeps (fun s => f (view s)) a :=
  fun s => congrArg f (hKeeps s)

theorem iff_preserves
    {a : Action σ ε α} :
    Keeps view a ↔ ∀ v, Preserves (fun s => view s = v) a := by
  constructor
  · intro hKeeps v
    exact hKeeps.preserves (· = v)
  · intro hPreserves s
    exact hPreserves (view s) s rfl

theorem closed : Closed (Keeps view) where
  pure _ _ := rfl
  bind hFirst hThen := by
    rw [iff_preserves] at hFirst ⊢
    intro v
    exact Preserves.closed.bind (hFirst v) fun x => iff_preserves.mp (hThen x) v
  fail _ _ := rfl
  mapError _ hAction := hAction
  attempt hAction := hAction

theorem of_eq
    {a : Action σ ε α} {s s' : σ} {r : Except ε α}
    (hKeeps : Keeps view a)
    (hRun : a s = (r, s')) :
    view s' = view s := by
  have hView := hKeeps s
  rw [hRun] at hView
  exact hView

end Keeps

------------------------------------------------------------
-- What decides how an action ends
------------------------------------------------------------

/-
  From states with the same view, the action ends in the
  same way, and the views are the same again.
-/
def AnswersFrom (world : σ → ω) : Property σ :=
  fun _ _ a =>
    ∀ s t, world s = world t →
      (a s).1 = (a t).1 ∧ world (a s).2 = world (a t).2

namespace AnswersFrom

variable {world : σ → ω}

theorem closed : Closed (AnswersFrom world) where
  pure _ _ _ h := ⟨rfl, h⟩
  bind {_ _ _ a f} hFirst hThen s t hWorld := by
    rcases hFirst s t hWorld with ⟨hResult, hMiddle⟩
    rw [bind_apply, bind_apply]
    rcases hLeft : a s with ⟨r, s'⟩
    rcases hRight : a t with ⟨r', t'⟩
    rw [hLeft, hRight] at hResult hMiddle
    cases hResult
    cases r with
    | error e => exact ⟨rfl, hMiddle⟩
    | ok x => exact hThen x s' t' hMiddle
  fail _ _ _ h := ⟨rfl, h⟩
  mapError f hAction s t hWorld := by
    rcases hAction s t hWorld with ⟨hResult, hEnd⟩
    exact ⟨congrArg (Except.mapError f) hResult, hEnd⟩
  attempt hAction s t hWorld := by
    rcases hAction s t hWorld with ⟨hResult, hEnd⟩
    exact ⟨congrArg Except.ok hResult, hEnd⟩

/- What has been answered once is answered again. -/
theorem of_eq
    {a : Action σ ε α} {s s' t : σ} {r : Except ε α}
    (hAnswers : AnswersFrom world a)
    (hRun : a s = (r, s'))
    (hWorld : world t = world s) :
    ∃ t', a t = (r, t') ∧ world t' = world s' := by
  rcases hAnswers t s hWorld with ⟨hResult, hEnd⟩
  rw [hRun] at hResult hEnd
  exact ⟨(a t).2, Prod.ext hResult rfl, hEnd⟩

end AnswersFrom

------------------------------------------------------------
-- Actions that do not fail
------------------------------------------------------------

/- The action has a value in every state. -/
def Succeeds : Property σ :=
  fun _ _ a => ∀ s, ∃ x s', a s = (.ok x, s')

/- The action has one value, the same in every state. -/
def Fixed : Property σ :=
  fun _ _ a => ∃ x, ∀ s, ∃ s', a s = (.ok x, s')

theorem Succeeds.sequential :
    Sequential (Succeeds : Property σ) where
  pure x s := ⟨x, s, rfl⟩
  bind hFirst hThen s := by
    rcases hFirst s with ⟨x, s', hRun⟩
    rcases hThen x s' with ⟨y, t, hEnd⟩
    exact ⟨y, t, bind_eq_ok_iff.mpr ⟨x, s', hRun, hEnd⟩⟩

theorem Succeeds.mapError
    {a : Action σ ε α} (f : ε → ε')
    (hAction : Succeeds a) :
    Succeeds (a.mapError f) := by
  intro s
  rcases hAction s with ⟨x, s', hRun⟩
  exact ⟨x, s', mapError_eq_ok_iff.mpr hRun⟩

theorem Fixed.succeeds
    {a : Action σ ε α}
    (hAction : Fixed a) :
    Succeeds a := by
  intro s
  rcases hAction with ⟨x, hRun⟩
  rcases hRun s with ⟨s', hEnd⟩
  exact ⟨x, s', hEnd⟩

/- What is the same in every state is answered whatever the state is. -/
theorem Fixed.answersFrom
    {a : Action σ ε α}
    (hAction : Fixed a) :
    AnswersFrom (fun _ => ()) a := by
  intro s t _
  rcases hAction with ⟨x, hRun⟩
  rcases hRun s with ⟨s', hLeft⟩
  rcases hRun t with ⟨t', hRight⟩
  rw [hLeft, hRight]
  exact ⟨rfl, rfl⟩

------------------------------------------------------------
-- Actions with a known value
------------------------------------------------------------

/-
  Where the condition holds, the action has this value, and
  the condition still holds when it has ended.
-/
def Gives
    (p : σ → Prop)
    (a : Action σ ε α)
    (x : α) : Prop :=
  ∀ s, p s → ∃ s', a s = (.ok x, s') ∧ p s'

namespace Gives

variable {p : σ → Prop}

theorem pure
    (x : α) :
    Gives p (Pure.pure x : Action σ ε α) x :=
  fun s hBefore => ⟨s, rfl, hBefore⟩

theorem bind
    {a : Action σ ε α} {f : α → Action σ ε β} {x : α} {y : β}
    (hFirst : Gives p a x)
    (hThen : Gives p (f x) y) :
    Gives p (a >>= f) y := by
  intro s hBefore
  rcases hFirst s hBefore with ⟨s', hRun, hMiddle⟩
  rcases hThen s' hMiddle with ⟨t, hEnd, hAfter⟩
  exact ⟨t, (bind_of_ok hRun).trans hEnd, hAfter⟩

theorem attempt
    {a : Action σ ε α} {x : α}
    (hAction : Gives p a x) :
    Gives p (a.attempt : Action σ ε' (Except ε α)) (.ok x) := by
  intro s hBefore
  rcases hAction s hBefore with ⟨s', hRun, hAfter⟩
  exact ⟨s', by rw [attempt_apply, hRun], hAfter⟩

/- As long as the condition holds somewhere, there is only one value. -/
theorem unique
    {a : Action σ ε α} {x y : α} {s : σ}
    (hSomewhere : p s)
    (hLeft : Gives p a x)
    (hRight : Gives p a y) :
    x = y := by
  rcases hLeft s hSomewhere with ⟨s', hRun, -⟩
  rcases hRight s hSomewhere with ⟨t, hRun', -⟩
  rw [hRun] at hRun'
  cases hRun'
  rfl

end Gives

/-
  Where the condition holds, the action has some value with a
  property, and the condition still holds when it has ended.
-/
def Delivers
    (p : σ → Prop)
    (Q : α → Prop)
    (a : Action σ ε α) : Prop :=
  ∀ s, p s → ∃ x s', a s = (.ok x, s') ∧ Q x ∧ p s'

namespace Delivers

variable {p : σ → Prop}

theorem pure
    {Q : α → Prop} {x : α}
    (hValue : Q x) :
    Delivers p Q (Pure.pure x : Action σ ε α) :=
  fun s hBefore => ⟨x, s, rfl, hValue, hBefore⟩

theorem bind
    {Q : α → Prop} {R : β → Prop} {a : Action σ ε α} {f : α → Action σ ε β}
    (hFirst : Delivers p Q a)
    (hThen : ∀ x, Q x → Delivers p R (f x)) :
    Delivers p R (a >>= f) := by
  intro s hBefore
  rcases hFirst s hBefore with ⟨x, s', hRun, hValue, hMiddle⟩
  rcases hThen x hValue s' hMiddle with ⟨y, t, hEnd, hResult, hAfter⟩
  exact ⟨y, t, (bind_of_ok hRun).trans hEnd, hResult, hAfter⟩

theorem attempt
    {Q : α → Prop} {a : Action σ ε α}
    (hAction : Delivers p Q a) :
    Delivers p (fun r => ∃ x, r = .ok x ∧ Q x)
      (a.attempt : Action σ ε' (Except ε α)) := by
  intro s hBefore
  rcases hAction s hBefore with ⟨x, s', hRun, hValue, hAfter⟩
  exact ⟨.ok x, s', by rw [attempt_apply, hRun], ⟨x, rfl, hValue⟩, hAfter⟩

theorem mapError
    {Q : α → Prop} {a : Action σ ε α} (f : ε → ε')
    (hAction : Delivers p Q a) :
    Delivers p Q (a.mapError f) := by
  intro s hBefore
  rcases hAction s hBefore with ⟨x, s', hRun, hValue, hAfter⟩
  exact ⟨x, s', mapError_eq_ok_iff.mpr hRun, hValue, hAfter⟩

end Delivers

/- The action has one value wherever the condition holds. -/
def FixedWhere (p : σ → Prop) : Property σ :=
  fun _ _ a => ∃ x, Gives p a x

theorem FixedWhere.sequential
    {p : σ → Prop} :
    Sequential (FixedWhere p) where
  pure x := ⟨x, Gives.pure x⟩
  bind hFirst hThen := by
    rcases hFirst with ⟨x, hFirst⟩
    rcases hThen x with ⟨y, hThen⟩
    exact ⟨y, hFirst.bind hThen⟩

/- What comes after an attempt that succeeds is told what to go on with. -/
theorem FixedWhere.bind_attempt
    {p : σ → Prop} {a : Action σ ε α} {f : Except ε α → Action σ ε' β}
    (hAction : FixedWhere p a)
    (hThen : ∀ x, FixedWhere p (f (.ok x))) :
    FixedWhere p (a.attempt >>= f) := by
  rcases hAction with ⟨x, hAction⟩
  rcases hThen x with ⟨y, hThen⟩
  exact ⟨y, hAction.attempt.bind hThen⟩

theorem Fixed.iff_fixedWhere
    {a : Action σ ε α} :
    Fixed a ↔ FixedWhere (fun _ => True) a := by
  simp only [Fixed, FixedWhere, Gives, and_true, forall_const]

theorem Fixed.sequential :
    Sequential (Fixed : Property σ) where
  pure x := ⟨x, fun s => ⟨s, rfl⟩⟩
  bind hFirst hThen := by
    simp only [iff_fixedWhere] at hFirst hThen ⊢
    exact FixedWhere.sequential.bind hFirst hThen

------------------------------------------------------------
-- What an action ends in
------------------------------------------------------------

/- Whatever value the action ends in satisfies a condition. -/
def Yields
    (Q : α → Prop)
    (a : Action σ ε α) : Prop :=
  ∀ s x s', a s = (.ok x, s') → Q x

namespace Yields

variable {Q : β → Prop}

theorem pure
    {x : β}
    (hValue : Q x) :
    Yields Q (Pure.pure x : Action σ ε β) := by
  intro s y s' hRun
  cases hRun
  exact hValue

theorem fail
    (e : ε) :
    Yields Q (Action.fail e : Action σ ε β) := by
  intro s y s' hRun
  cases hRun

/- The value of a sequence is the value of its last part. -/
theorem bind
    {a : Action σ ε α} {f : α → Action σ ε β}
    (hThen : ∀ x, Yields Q (f x)) :
    Yields Q (a >>= f) := by
  intro s y s' hRun
  rcases bind_eq_ok_iff.mp hRun with ⟨x, s₁, -, hEnd⟩
  exact hThen x s₁ y s' hEnd

theorem collect
    {f : α → Action σ ε (List β)}
    (l : List α)
    (hEach : ∀ x ∈ l, Yields (fun ys => ∀ y ∈ ys, Q y) (f x)) :
    Yields (fun ys => ∀ y ∈ ys, Q y) (Action.collect f l) := by
  induction l with
  | nil => exact pure (fun _ hMem => by cases hMem)
  | cons x l ih =>
      intro s ys s' hRun
      change (f x >>=
        fun ys => Action.collect f l >>= fun more => Pure.pure (ys ++ more)) s =
        (.ok ys, s') at hRun
      rcases bind_eq_ok_iff.mp hRun with ⟨first, s₁, hHead, hTail⟩
      rcases bind_eq_ok_iff.mp hTail with ⟨more, s₂, hMore, hEnd⟩
      cases hEnd
      have hFirst := hEach x List.mem_cons_self s first s₁ hHead
      have hRest :=
        ih (fun y hy => hEach y (List.mem_cons_of_mem _ hy)) s₁ more s' hMore
      exact List.forall_mem_append.mpr ⟨hFirst, hRest⟩

end Yields

/- Whatever error the action ends in satisfies a condition. -/
def Raises
    (Q : ε → Prop)
    (a : Action σ ε α) : Prop :=
  ∀ s e s', a s = (.error e, s') → Q e

namespace Raises

variable {Q : ε → Prop}

theorem pure
    (x : α) :
    Raises Q (Pure.pure x : Action σ ε α) := by
  intro s e s' hRun
  cases hRun

theorem fail
    {e : ε}
    (hError : Q e) :
    Raises Q (Action.fail e : Action σ ε α) := by
  intro s e' s' hRun
  cases hRun
  exact hError

theorem bind
    {a : Action σ ε α} {f : α → Action σ ε β}
    (hFirst : Raises Q a)
    (hThen : ∀ x, Raises Q (f x)) :
    Raises Q (a >>= f) := by
  intro s e s' hRun
  rcases bind_eq_error_iff.mp hRun with hFail | ⟨x, s₁, -, hFail⟩
  · exact hFirst s e s' hFail
  · exact hThen x s₁ e s' hFail

theorem mapError
    {f : ε' → ε}
    (hErrors : ∀ e, Q (f e))
    (a : Action σ ε' α) :
    Raises Q (a.mapError f) := by
  intro s e s' hRun
  rcases mapError_eq_error_iff.mp hRun with ⟨e', -, rfl⟩
  exact hErrors e'

theorem attempt
    (a : Action σ ε' α) :
    Raises Q (a.attempt : Action σ ε (Except ε' α)) := by
  intro s e s' hRun
  cases hRun

theorem forEach
    {f : α → Action σ ε Unit}
    (l : List α)
    (hEach : ∀ x ∈ l, Raises Q (f x)) :
    Raises Q (Action.forEach f l) := by
  intro s e s' hRun
  rcases forEach_eq_error_iff.mp hRun with
    ⟨before, x, after, s₁, hList, -, hFail⟩
  have hMem : x ∈ l := by
    rw [hList]
    exact List.mem_append_right _ List.mem_cons_self
  exact hEach x hMem s₁ e s' hFail

end Raises

theorem Succeeds.raises
    {Q : ε → Prop} {a : Action σ ε α}
    (hAction : Succeeds a) :
    Raises Q a := by
  intro s e s' hRun
  rcases hAction s with ⟨x, t, hOk⟩
  rw [hOk] at hRun
  cases hRun

/- What comes next matters only for values that the first part has. -/
theorem Keeps.bind_of_yields
    {view : σ → ω} {Q : α → Prop} {a : Action σ ε α} {f : α → Action σ ε β}
    (hFirst : Keeps view a)
    (hYields : Yields Q a)
    (hThen : ∀ x, Q x → Keeps view (f x)) :
    Keeps view (a >>= f) := by
  intro s
  rcases hRun : a s with ⟨e | x, s'⟩
  · rw [bind_of_error hRun]
    exact hFirst.of_eq hRun
  · rw [bind_of_ok hRun, hThen x (hYields s x s' hRun) s']
    exact hFirst.of_eq hRun

end Action

end ProcessEvents
