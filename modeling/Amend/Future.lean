/-
# Amend.Future — answers that are waited for

A future is polled until it is ready.  What is asked of the network is a future,
and so is a computation that waits for one in the middle.  `Future.wait` polls a
future to its end, as a caller does who has nothing else to do.
-/
set_option autoImplicit false

namespace Amend

/-- An answer, or the rest of a future that was polled too early. -/
inductive Future (α : Type) where
  | ready (a : α)
  | pending (rest : Future α)
  deriving Repr

namespace Future

variable {α β : Type}

/-- Go on when a future is ready. -/
def bind : Future α → (α → Future β) → Future β
  | ready a, f => f a
  | pending rest, f => pending (rest.bind f)

instance : Monad Future where
  pure := ready
  bind := bind

/-- Poll a future until it is ready. -/
def wait : Future α → α
  | ready a => a
  | pending rest => rest.wait

/-- A future that is polled in vain some times. -/
def after (a : α) : Nat → Future α
  | 0 => ready a
  | polls + 1 => pending (after a polls)

@[simp] theorem wait_pure (a : α) : (pure a : Future α).wait = a := rfl

@[simp] theorem wait_after (a : α) (polls : Nat) : (after a polls).wait = a := by
  induction polls with
  | zero => rfl
  | succ polls ih => exact ih

/-- To wait for a whole is to wait for its parts. -/
@[simp] theorem wait_bind (x : Future α) (f : α → Future β) :
    (x >>= f).wait = (f x.wait).wait := by
  induction x with
  | ready a => rfl
  | pending rest ih => exact ih

end Future

end Amend
