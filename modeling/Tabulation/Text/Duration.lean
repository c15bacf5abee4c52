/-
Durations in nanoseconds, signed and 64 bits wide: reading a text such as `1h30m` or `.5s`, and
writing the largest units that fit.
-/

namespace Tabulation.Text

/-- A length of time in nanoseconds. -/
structure Duration where
  nanoseconds : Int
deriving Repr, DecidableEq, Inhabited

namespace Duration

def unit? (name : String) : Option Nat :=
  match name with
  | "ns" => some 1
  | "us" => some 1000
  | "µs" => some 1000
  | "μs" => some 1000
  | "ms" => some 1000000
  | "s" => some 1000000000
  | "m" => some 60000000000
  | "h" => some 3600000000000
  | _ => none

/-- Half the range of a 64-bit word: the size of the most negative duration. -/
def bound : Nat := 9223372036854775808

/-- The whole number that digits denote; `none` beyond the range of a duration. -/
def whole? (digits : List Char) : Option Nat :=
  digits.foldl
    (fun acc c => acc.bind fun n =>
      let next := 10 * n + (c.toNat - '0'.toNat)
      if n > bound / 10 || next > bound then none else some next)
    (some 0)

/-- The digits after the point as a numerator, with its power of ten. Digits past the range are
ignored. -/
def fraction (digits : List Char) : Nat × Float :=
  let (numerator, scale, _) := digits.foldl
    (fun (acc : Nat × Float × Bool) c =>
      let (n, scale, full) := acc
      let next := 10 * n + (c.toNat - '0'.toNat)
      if full || n > (bound - 1) / 10 || next > bound then (n, scale, true)
      else (next, scale * 10.0, false))
    (0, 1.0, false)
  (numerator, scale)

/-- Reads one number with its unit: the nanoseconds and what follows. -/
def component? (text : List Char) : Option (Nat × List Char) := do
  let digits := text.takeWhile Char.isDigit
  let afterDigits := text.dropWhile Char.isDigit
  let whole ← whole? digits
  let (decimals, afterNumber) :=
    match afterDigits with
    | '.' :: more => (more.takeWhile Char.isDigit, more.dropWhile Char.isDigit)
    | _ => ([], afterDigits)
  if digits.isEmpty && decimals.isEmpty then none
  let isUnit := fun (c : Char) => c != '.' && !c.isDigit
  let unit ← unit? (String.ofList (afterNumber.takeWhile isUnit))
  if whole > bound / unit then none
  let (numerator, scale) := fraction decimals
  let part :=
    if numerator == 0 then 0
    else (numerator.toFloat * (unit.toFloat / scale)).toUInt64.toNat
  let total := whole * unit + part
  if total > bound then none
  some (total, afterNumber.dropWhile isUnit)

/-- Adds up the components of a text. `fuel` bounds their number. -/
def sum? : Nat → Nat → List Char → Option Nat
  | _, total, [] => some total
  | 0, _, _ :: _ => none
  | fuel + 1, total, text => do
    let (amount, rest) ← component? text
    if total + amount > bound then none
    sum? fuel (total + amount) rest

/-- Reads a duration: an optional sign, then numbers with units. A bare `0` needs no unit. -/
def parse? (text : String) : Option Duration :=
  let chars := text.toList
  let (negative, body) :=
    match chars with
    | '-' :: rest => (true, rest)
    | '+' :: rest => (false, rest)
    | _ => (false, chars)
  if body == ['0'] then some ⟨0⟩
  else if body.isEmpty then none
  else
    match sum? body.length 0 body with
    | none => none
    | some total =>
      if negative then some ⟨-(total : Int)⟩
      else if total > bound - 1 then none
      else some ⟨total⟩

/-- `value` over ten to the power `places`, without trailing zeros after the point. -/
def decimal (value places : Nat) : String :=
  let whole := value / Nat.pow 10 places
  let rest := value % Nat.pow 10 places
  let digits := Nat.toDigits 10 rest
  let filled := List.replicate (places - digits.length) '0' ++ digits
  let kept := (filled.reverse.dropWhile (· == '0')).reverse
  if rest == 0 then toString whole else toString whole ++ "." ++ String.ofList kept

/-- Writes a duration. Below a second the unit is the largest that leaves a whole number before the
point; from a second on, hours, minutes and seconds. -/
def render (duration : Duration) : String :=
  let amount := duration.nanoseconds.natAbs
  let body :=
    if amount == 0 then "0s"
    else if amount < 1000 then decimal amount 0 ++ "ns"
    else if amount < 1000000 then decimal amount 3 ++ "µs"
    else if amount < 1000000000 then decimal amount 6 ++ "ms"
    else
      let seconds := decimal (amount % 60000000000) 9 ++ "s"
      let minutes := amount / 60000000000
      if minutes == 0 then seconds
      else
        let withMinutes := toString (minutes % 60) ++ "m" ++ seconds
        if minutes < 60 then withMinutes else toString (minutes / 60) ++ "h" ++ withMinutes
  if duration.nanoseconds < 0 then "-" ++ body else body

end Duration

end Tabulation.Text
