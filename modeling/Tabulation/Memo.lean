/-
Answers that are kept. A question is worked out when it is asked for the first time; from then on its
answer is looked up.
-/

namespace Tabulation

/-- The answers that are known, the latest first. -/
structure Memo (K V : Type) where
  answers : List (K × V) := []
deriving Repr, DecidableEq

namespace Memo

variable {K V : Type} [DecidableEq K]

/-- The answer to a question, and what is known after it. -/
def ask (memo : Memo K V) (work : K → V) (question : K) : V × Memo K V :=
  match memo.answers.lookup question with
  | some known => (known, memo)
  | none => (work question, ⟨(question, work question) :: memo.answers⟩)

def Tells (memo : Memo K V) (work : K → V) : Prop :=
  ∀ question known, memo.answers.lookup question = some known → known = work question

theorem tells_empty (work : K → V) : ({} : Memo K V).Tells work := by
  intro question known found
  cases found

theorem Tells.ask_fst {memo : Memo K V} {work : K → V} (tells : memo.Tells work) (question : K) :
    (memo.ask work question).1 = work question := by
  unfold ask
  split
  next known found => exact tells question known found
  next => rfl

theorem Tells.ask_snd {memo : Memo K V} {work : K → V} (tells : memo.Tells work) (question : K) :
    (memo.ask work question).2.Tells work := by
  unfold ask
  split
  next => exact tells
  next =>
    intro other known found
    rw [List.lookup_cons] at found
    split at found
    next same =>
      rw [eq_of_beq same]
      exact (Option.some.inj found).symm
    next => exact tells other known found

end Memo

end Tabulation
