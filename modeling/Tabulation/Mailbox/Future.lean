/-
Futures: values that are set once.
-/

namespace Tabulation.Mailbox

/-- What a future was completed with: a value, and an error if there was one. -/
structure Completion (α : Type) where
  value : α
  error : Option String := none
deriving Repr, DecidableEq

/-- A value that is set once. -/
structure Future (α : Type) where
  completion : Option (Completion α) := none
deriving Repr, DecidableEq

namespace Future

variable {α : Type}

def isDone (f : Future α) : Bool := f.completion.isSome

/-- Sets the value. Only the first time counts; the result tells whether this was it. -/
def complete (f : Future α) (c : Completion α) : Bool × Future α :=
  if f.isDone then (false, f) else (true, { completion := some c })

/-- A future keeps what it was completed with first. -/
theorem complete_complete (f : Future α) (c d : Completion α) :
    ((f.complete c).2.complete d).2 = (f.complete c).2 := by
  rcases f with ⟨_ | first⟩
  · rfl
  · rfl

end Future

end Tabulation.Mailbox
