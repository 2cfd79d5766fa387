/-
  This file defines slots: places within a state that hold a
  value of their own.

  Key definitions include:
    * `Slot`
    * `Slot.update`
-/

namespace ProcessEvents

/- A place within a state. -/
structure Slot (σ α : Type) where
  get : σ → α
  set : α → σ → σ

/- Change the value of a slot. -/
def Slot.update
    {σ α : Type}
    (slot : Slot σ α)
    (f : α → α)
    (s : σ) : σ :=
  slot.set (f (slot.get s)) s

end ProcessEvents
