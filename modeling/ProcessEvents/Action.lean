/-
  This file defines actions: steps on a state that end in a
  value or in an error. Either way the state that has been
  reached is kept, so that the effects of a failed action
  stay visible.

  Key definitions include:
    * `Action`
    * `Action.fail`, `Action.ofExcept`, `Action.modify`
    * `Action.mapError`, `Action.attempt`
    * `Action.forEach`, `Action.collect`
-/

namespace ProcessEvents

/- A step on a state, with a value or an error as its result. -/
def Action (σ ε α : Type) : Type :=
  σ → Except ε α × σ

namespace Action

variable {σ ε ε' α β : Type}

------------------------------------------------------------
-- Sequences
------------------------------------------------------------

/- Do nothing, with a value as the result. -/
protected def pure
    (x : α) : Action σ ε α :=
  fun s => (.ok x, s)

/- Go on with the value of an action, unless it has failed. -/
protected def bind
    (a : Action σ ε α)
    (f : α → Action σ ε β) : Action σ ε β :=
  fun s =>
    match a s with
    | (.ok x, s') => f x s'
    | (.error e, s') => (.error e, s')

instance : Monad (Action σ ε) where
  pure := Action.pure
  bind := Action.bind

theorem bind_apply
    (a : Action σ ε α) (f : α → Action σ ε β) (s : σ) :
    (a >>= f) s =
      match a s with
      | (.ok x, s') => f x s'
      | (.error e, s') => (.error e, s') := rfl

/- An action that succeeds is followed by what comes next. -/
theorem bind_of_ok
    {a : Action σ ε α} {f : α → Action σ ε β} {s s' : σ} {x : α}
    (h : a s = (.ok x, s')) :
    (a >>= f) s = f x s' := by
  rw [bind_apply, h]

/- An action that fails ends the sequence. -/
theorem bind_of_error
    {a : Action σ ε α} {f : α → Action σ ε β} {s s' : σ} {e : ε}
    (h : a s = (.error e, s')) :
    (a >>= f) s = (.error e, s') := by
  rw [bind_apply, h]

/- A sequence succeeds exactly if both of its parts do. -/
theorem bind_eq_ok_iff
    {a : Action σ ε α} {f : α → Action σ ε β} {s t : σ} {y : β} :
    (a >>= f) s = (.ok y, t) ↔
      ∃ x s', a s = (.ok x, s') ∧ f x s' = (.ok y, t) := by
  rw [bind_apply]
  rcases a s with ⟨_ | x, s'⟩
  · simp
  · constructor
    · exact fun h => ⟨x, s', rfl, h⟩
    · rintro ⟨x', t', h, h'⟩
      cases h
      exact h'

private theorem id_map_action
    (a : Action σ ε α) :
    id <$> a = a := by
  funext s
  change Action.bind a (fun x => Action.pure (id x)) s = a s
  rw [Action.bind]
  rcases a s with ⟨_ | _, _⟩ <;> rfl

private theorem bind_assoc_action
    {γ : Type} (a : Action σ ε α) (f : α → Action σ ε β)
    (g : β → Action σ ε γ) :
    a >>= f >>= g = a >>= fun x => f x >>= g := by
  funext s
  rw [bind_apply, bind_apply, bind_apply]
  rcases a s with ⟨_ | _, _⟩ <;> rfl

instance : LawfulMonad (Action σ ε) :=
  LawfulMonad.mk' (Action σ ε) id_map_action (fun _ _ => rfl) bind_assoc_action

------------------------------------------------------------
-- Errors and state
------------------------------------------------------------

/- End with an error. -/
def fail
    (e : ε) : Action σ ε α :=
  fun s => (.error e, s)

/- A result that is known already. -/
def ofExcept
    (r : Except ε α) : Action σ ε α :=
  fun s => (r, s)

/- Change the state. -/
def modify
    (f : σ → σ) : Action σ ε Unit :=
  fun s => (.ok (), f s)

/- Read from the state. -/
def read
    (f : σ → α) : Action σ ε α :=
  fun s => (.ok (f s), s)

/- Change the error. -/
def mapError
    (f : ε → ε')
    (a : Action σ ε α) : Action σ ε' α :=
  fun s => ((a s).1.mapError f, (a s).2)

/- An action that succeeds with whatever the given one ends in. -/
def attempt
    (a : Action σ ε α) : Action σ ε' (Except ε α) :=
  fun s => (.ok (a s).1, (a s).2)

/- An action that cannot fail, as part of one that can. -/
def infallible
    (a : Action σ Empty α) : Action σ ε α :=
  a.mapError nofun

/- The value of an action that cannot fail. -/
def value
    (r : Except Empty α × σ) : α :=
  match r.1 with
  | .ok x => x

------------------------------------------------------------
-- Lists
------------------------------------------------------------

/- One action for each element, up to the first that fails. -/
def forEach
    (f : α → Action σ ε Unit) : List α → Action σ ε Unit
  | [] => pure ()
  | x :: rest => do
    f x
    forEach f rest

/- The results for all elements, one after the other. -/
def collect
    (f : α → Action σ ε (List β)) : List α → Action σ ε (List β)
  | [] => pure []
  | x :: rest => do
    let ys ← f x
    let more ← collect f rest
    return ys ++ more

end Action

end ProcessEvents
