/-
The written forms of scalars: plain, quoted and block. Each reader starts where the form starts and
gives its text; a malformed one fails.
-/

import Tabulation.Yaml.Cursor
import Tabulation.Text.Runs

namespace Tabulation.Yaml

inductive ScalarStyle where
  | plain
  | quoted
deriving Repr, DecidableEq

/-- Line ends and blanks that were read but not yet put into the text: whether a line end was seen,
the first line end, the further ones, and the blanks of the line. -/
structure Gap where
  broken : Bool := false
  firstBreak : List Char := []
  breaks : List Char := []
  blanks : List Char := []
deriving Repr

/-- What a gap between two parts of a scalar reads as: a single line end folds into a blank, further
ones are kept. -/
def Gap.folded (gap : Gap) : List Char :=
  if gap.broken then
    match gap.firstBreak with
    | '\n' :: _ => if gap.breaks.isEmpty then [' '] else gap.breaks
    | _ => gap.firstBreak ++ gap.breaks
  else gap.blanks

namespace Scan

/-- Reads blanks and line ends. `least` is the column below which a tab in a fresh line is
malformed. -/
def readGap (least : Option Nat) : Nat → Gap → Scan Gap
  | 0, _ => fail
  | fuel + 1, gap => do
    match ← next with
    | none => return gap
    | some c =>
      if isBlank c then
        let column := (← get).column
        if c == '\t' && gap.broken && least.any (fun least => column < least) then fail
        else
          skipAndNeed 1
          readGap least fuel (if gap.broken then gap else { gap with blanks := gap.blanks ++ [c] })
      else if isBreak c then
        let text ← readBreak
        need 1
        readGap least fuel
          (if gap.broken then { gap with breaks := gap.breaks ++ text }
          else { gap with broken := true, firstBreak := text, blanks := [] })
      else return gap

/-! ### Plain scalars -/

/-- Whether the rest of a text cannot go on with a plain scalar: a blank, a line end, a colon before
one of them, or a sign of the collection around it. -/
def endsPlain (inFlow : Bool) : List Char → Bool
  | [] => true
  | c :: rest =>
    isBlank c || isBreak c || (c == ':' && startsBlankOrEnds rest) ||
      (inFlow && (c == ',' || c == '?' || c == '[' || c == ']' || c == '\x7b' || c == '\x7d'))

/-- Reads the part of a plain scalar up to the next blank or to a sign that ends the scalar, last
character first. -/
def plainRun (inFlow : Bool) : Nat → List Char → Scan (List Char)
  | 0, _ => fail
  | fuel + 1, run => do
    match ← ahead with
    | [] => return run
    | c :: rest =>
      if endsPlain inFlow (c :: rest) then return run
      else
        skipAndNeed 2
        plainRun inFlow fuel (c :: run)

/-- Reads a plain scalar; its text so far is listed last first. `least` is the column at which its
further lines have to start. The result also says whether the place after it is in a fresh line. -/
def plainFrom (inFlow : Bool) (least : Nat) : Nat → List Char → Gap → Scan (List Char × Bool)
  | 0, _, _ => fail
  | fuel + 1, text, gap => do
    need 4
    if (← get).atMarker || (← nextIs (· == '#')) then return (text, gap.broken)
    let run ← plainRun inFlow (fuel + 1) []
    let (text, gap) :=
      if run.isEmpty then (text, gap) else (run ++ gap.folded.reverse ++ text, {})
    if !(← nextIs fun c => isBlank c || isBreak c) then return (text, gap.broken)
    let gap ← readGap (some least) (fuel + 1) gap
    if !inFlow && (← get).column < least then return (text, gap.broken)
    else plainFrom inFlow least fuel text gap

/-- Reads a plain scalar, and says whether the place after it is in a fresh line. -/
def plain (inFlow : Bool) (least : Nat) : Scan (List Char × Bool) := do
  let (text, fresh) ← plainFrom inFlow least (← get).limit [] {}
  return (text.reverse, fresh)

/-! ### Quoted scalars -/

/-- What a single-character escape stands for. -/
def escapeCode? (c : Char) : Option Nat :=
  match c with
  | '0' => some 0x00
  | 'a' => some 0x07
  | 'b' => some 0x08
  | 't' => some 0x09
  | '\t' => some 0x09
  | 'n' => some 0x0A
  | 'v' => some 0x0B
  | 'f' => some 0x0C
  | 'r' => some 0x0D
  | 'e' => some 0x1B
  | ' ' => some 0x20
  | '"' => some 0x22
  | '\'' => some 0x27
  | '\\' => some 0x5C
  | 'N' => some 0x85
  | '_' => some 0xA0
  | 'L' => some 0x2028
  | 'P' => some 0x2029
  | _ => none

/-- The number of hexadecimal digits after an escape letter. -/
def escapeWidth? (c : Char) : Option Nat :=
  match c with
  | 'x' => some 2
  | 'u' => some 4
  | 'U' => some 8
  | _ => none

/-- Steps over `count` characters that were asked for. -/
def skipMany : Nat → Scan Unit
  | 0 => return ()
  | count + 1 => do
    skip
    skipMany count

/-- Reads an escape, of which the backslash and the sign after it were asked for. -/
def escape : Scan Char := do
  match ((← ahead).drop 1).head? with
  | none => fail
  | some c =>
    match escapeCode? c with
    | some code => do
      skipMany 2
      return Char.ofNat code
    | none =>
      match escapeWidth? c with
      | none => fail
      | some width => do
        skipMany 2
        need width
        let digits := (← ahead).take width
        match if digits.length < width then none else Text.hexValue? digits with
        | none => fail
        | some code =>
          if (0xD800 ≤ code && code ≤ 0xDFFF) || 0x10FFFF < code then fail
          else do
            skipMany width
            return Char.ofNat code

/-- Reads inside quotes up to the closing quote, an escaped line end, a blank or a line end. The
text so far is listed last first. The result says whether the run ends with an escaped line end. -/
def quotedRun (single : Bool) : Nat → List Char → Scan (List Char × Bool)
  | 0, _ => fail
  | fuel + 1, text => do
    match ← ahead with
    | [] => return (text, false)
    | c :: rest =>
      if isBlank c || isBreak c then return (text, false)
      else if single && c == '\'' then
        if rest.head? == some '\'' then
          skip
          skipAndNeed 2
          quotedRun single fuel ('\'' :: text)
        else return (text, false)
      else if !single && c == '"' then return (text, false)
      else if !single && c == '\\' then
        if rest.head?.any isBreak then
          need 3
          skip
          skipBreak
          return (text, true)
        else
          let char ← escape
          need 2
          quotedRun single fuel (char :: text)
      else
        skipAndNeed 2
        quotedRun single fuel (c :: text)

/-- Reads a quoted scalar after its opening quote, with its closing quote; the text so far is listed
last first. -/
def quotedFrom (single : Bool) : Nat → List Char → Scan (List Char)
  | 0, _ => fail
  | fuel + 1, text => do
    need 4
    let cursor ← get
    if cursor.atMarker || cursor.ahead.isEmpty then fail
    let (text, joined) ← quotedRun single (fuel + 1) text
    need 1
    if ← nextIs (· == (if single then '\'' else '"')) then
      skip
      return text
    let gap ← readGap none (fuel + 1) { broken := joined }
    quotedFrom single fuel (gap.folded.reverse ++ text)

def quoted (single : Bool) : Scan (List Char) := do
  skip
  return (← quotedFrom single (← get).limit []).reverse

/-! ### Block scalars -/

/-- What happens to the line ends after the last line of a block scalar. -/
inductive Chomping where
  | strip
  | clip
  | keep
deriving Repr, DecidableEq

/-- Reads a chomping sign, if there is one. -/
def chomping? : Scan (Option Chomping) := do
  match ← next with
  | some '+' => do
    skipAndNeed 1
    return some .keep
  | some '-' => do
    skipAndNeed 1
    return some .strip
  | _ => return none

/-- Reads a number of columns, if there is one; it cannot be zero. -/
def columns? : Scan (Option Nat) := do
  match ← next with
  | some c =>
    if c == '0' then fail
    else if c.isDigit then do
      skipAndNeed 1
      return some (c.toNat - 48)
    else return none
  | none => return none

/-- Reads the signs after `|` or `>`, in either order: the chomping and the number of columns to
indent, zero when it is not given. -/
def blockHeader : Scan (Chomping × Nat) := do
  need 1
  match ← chomping? with
  | some chomping => return (chomping, (← columns?).getD 0)
  | none =>
    match ← columns? with
    | some columns => return ((← chomping?).getD .clip, columns)
    | none => return (.clip, 0)

/-- Steps over the blanks at the start of a line, at most up to column `indent` unless it is zero. -/
def skipIndent (indent : Nat) : Nat → Scan Unit
  | 0 => fail
  | fuel + 1 => do
    let column := (← get).column
    if (indent == 0 || column < indent) && (← nextIs (· == ' ')) then do
      skipAndNeed 1
      skipIndent indent fuel
    else return ()

/-- Reads the indentation of the next line and the empty lines before it. `indent` is zero while it
is not known; `widest` is the widest indentation so far. -/
def readIndent (indent : Nat) : Nat → Nat → List Char → Scan (Nat × List Char)
  | 0, _, _ => fail
  | fuel + 1, widest, breaks => do
    need 1
    skipIndent indent (fuel + 1)
    let column := (← get).column
    let widest := Nat.max widest column
    if (indent == 0 || column < indent) && (← nextIs (· == '\t')) then fail
    if ← nextIs isBreak then do
      let text ← readBreak
      readIndent indent fuel widest (breaks ++ text)
    else return (widest, breaks)

/-- The lines of a block scalar so far: the text, last character first, the line end of the last
line, the empty lines after it, and whether the last line starts with a blank. -/
structure BlockText where
  text : List Char := []
  lastBreak : List Char := []
  breaks : List Char := []
  startsBlank : Bool := false
deriving Repr

/-- Adds a line to a block scalar. In folded style, a line end between two lines that do not start
with a blank folds into a blank, or into nothing before empty lines. -/
def BlockText.addLine (folded : Bool) (block : BlockText) (line lineBreak breaks : List Char) :
    BlockText :=
  let blank := line.head?.any isBlank
  let joint :=
    match block.lastBreak with
    | '\n' :: _ =>
      if folded && !block.startsBlank && !blank then (if block.breaks.isEmpty then [' '] else [])
      else block.lastBreak
    | _ => block.lastBreak
  { text := line.reverse ++ block.breaks.reverse ++ joint.reverse ++ block.text
    lastBreak := lineBreak
    breaks := breaks
    startsBlank := blank }

/-- Reads the lines of a block scalar that are indented by `indent`. -/
def blockLines (folded : Bool) (indent : Nat) : Nat → BlockText → Scan BlockText
  | 0, _ => fail
  | fuel + 1, block => do
    let cursor ← get
    if cursor.column == indent && !cursor.ahead.isEmpty then do
      let line ← readWhile fun c => !isBreak c
      let lineBreak ← readBreak
      let (_, breaks) ← readIndent indent (fuel + 1) 0 []
      blockLines folded indent fuel (block.addLine folded line lineBreak breaks)
    else return block

/-- Reads a block scalar. `outer` is the indentation around it, `none` at the top. -/
def block (folded : Bool) (outer : Option Nat) : Scan (List Char) := do
  skip
  let (chomping, columns) ← blockHeader
  skipWhile isBlank
  if ← nextIs (· == '#') then skipLine
  check (startsBreakOrEnds (← ahead))
  if ← nextIs isBreak then skipBreak
  let limit := (← get).limit
  let given := if columns == 0 then 0 else outer.getD 0 + columns
  let (widest, breaks) ← readIndent given limit 0 []
  let least := (outer.map (· + 1)).getD 0
  let indent := if given == 0 then Nat.max (Nat.max widest least) 1 else given
  let block ← blockLines folded indent limit { breaks := breaks }
  let tail :=
    match chomping with
    | .strip => []
    | .clip => block.lastBreak
    | .keep => block.lastBreak ++ block.breaks
  return block.text.reverse ++ tail

end Scan

end Tabulation.Yaml
