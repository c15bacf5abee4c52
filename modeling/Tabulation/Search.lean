/-
Breadth-first search over any relation given by a successor function. The elements are listed in the
order in which they are discovered, each once.
-/

import Tabulation.Text.Order

namespace Tabulation.Search

variable {α : Type} [DecidableEq α]

/-- Expands the frontier. `found` lists what was discovered so far; `fuel` bounds the number of
expansions, and every discovered element is expanded once. -/
def expand (next : α → List α) : Nat → List α → List α → List α
  | 0, found, _ => found
  | _ + 1, found, [] => found
  | fuel + 1, found, item :: frontier =>
    let new := (Text.distinct (next item)).filter fun b => !found.contains b
    expand next fuel (found ++ new) (frontier ++ new)

/-- All elements that can be reached from `starts` in any number of steps, when there are at most
`bound` of them. -/
def reach (bound : Nat) (next : α → List α) (starts : List α) : List α :=
  let distinctStarts := Text.distinct starts
  expand next bound distinctStarts distinctStarts

end Tabulation.Search
