/-
Tables over code points, written as runs: each run gives its first code point and a label, and
lasts until the next run starts.
-/

namespace Tabulation.Text

def hexDigit? (c : Char) : Option Nat :=
  if '0' ≤ c ∧ c ≤ '9' then some (c.toNat - '0'.toNat)
  else if 'a' ≤ c ∧ c ≤ 'f' then some (c.toNat - 'a'.toNat + 10)
  else if 'A' ≤ c ∧ c ≤ 'F' then some (c.toNat - 'A'.toNat + 10)
  else none

/-- The value of a hexadecimal numeral, `none` when a character is no digit. -/
def hexValue? (digits : List Char) : Option Nat :=
  digits.foldl (fun acc c => acc.bind fun n => (hexDigit? c).map fun d => 16 * n + d) (some 0)

/-- The maximal pieces of a text without blanks and line ends. -/
def words (text : String) : List String :=
  let (word, found) := text.toList.foldr
    (fun c (acc : List Char × List String) =>
      if c == ' ' || c == '\n' then
        ([], if acc.1.isEmpty then acc.2 else String.ofList acc.1 :: acc.2)
      else (c :: acc.1, acc.2))
    ([], [])
  if word.isEmpty then found else String.ofList word :: found

/-- Bisects for the last place from `low` up to `high` where a test holds that fails from some place
on. It gives `low` when there is none. -/
def lastWhere (test : Nat → Bool) (low high : Nat) : Nat :=
  if low < high then
    let middle := (low + high + 1) / 2
    if test middle then lastWhere test middle high else lastWhere test low (middle - 1)
  else low
termination_by high - low

/-- A run of code points with one label. -/
structure Run where
  first : Nat
  label : String
deriving Repr, DecidableEq, Inhabited

namespace Run

/-- Reads a table written as `first:label` items between blanks, `first` in hexadecimal. -/
def table (text : String) : Array Run :=
  ((words text).filterMap fun item =>
    match item.splitOn ":" with
    | [digits, label] => (hexValue? digits.toList).map fun first => ⟨first, label⟩
    | _ => none).toArray

/-- The label of the run that holds `code`. -/
def labelAt (runs : Array Run) (code : Nat) : String :=
  let place := lastWhere (fun i => runs[i]?.any fun run => run.first ≤ code) 0 (runs.size - 1)
  (runs[place]?.map Run.label).getD ""

/-- The ranges of code points whose label is one of `labels`, in increasing order. The last run
only says where the one before it ends. -/
def ranges (runs : Array Run) (labels : List String) : List (Nat × Nat) :=
  (List.range (runs.size - 1)).filterMap fun i => do
    let run ← runs[i]?
    let next ← runs[i + 1]?
    if labels.contains run.label then some (run.first, next.first - 1) else none

end Run

end Tabulation.Text
