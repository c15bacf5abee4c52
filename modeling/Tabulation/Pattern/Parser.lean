/-
Reading patterns. The text is read from the left, and what is read is put together as it comes. A
fault names the part of the text that shows it; a pattern that is too large or too deep is refused as
a whole.
-/

import Tabulation.Pattern.Builder
import Tabulation.Pattern.Machine

namespace Tabulation.Pattern

def Fault.text : Fault → String
  | .charRange => "invalid character class range"
  | .escape => "invalid escape sequence"
  | .namedGroup => "invalid named capture"
  | .groupFlags => "invalid or unsupported Perl syntax"
  | .nestedRepeat => "invalid nested repetition operator"
  | .repeatCount => "invalid repeat count"
  | .missingBracket => "missing closing ]"
  | .missingParen => "missing closing )"
  | .missingOperand => "missing argument to repetition operator"
  | .trailingBackslash => "trailing backslash at end of expression"
  | .unexpectedParen => "unexpected )"
  | .strayByte => "invalid UTF-8"
  | .tooDeep => "expression nests too deeply"
  | .tooLarge => "expression too large"

/-- A fault with the part of the text that shows it. -/
structure Error where
  fault : Fault
  excerpt : String
deriving Repr, DecidableEq

def Error.message (error : Error) : String :=
  "error parsing regexp: " ++ error.fault.text ++ ": `" ++ error.excerpt ++ "`"

/-- The state of the reader: the whole text and its length, what was put together so far, and the text
of the last repetition operator when it was just read. -/
structure Reader where
  whole : List Char
  length : Nat
  builder : Builder := {}
  lastRepeat : List Char := []

namespace Reader

def flags (reader : Reader) : Flags := reader.builder.flags

/-- Builds something; a fault is one of the whole text. -/
def build {α : Type} (reader : Reader) (action : Build α) : Except Error (α × Reader) :=
  let { whole, length, builder, lastRepeat } := reader
  match action.run builder with
  | .ok (result, builder) => .ok (result, { whole, length, builder, lastRepeat })
  | .error fault => .error ⟨fault, String.ofList whole⟩

def change (reader : Reader) (action : Build Unit) : Except Error Reader :=
  (reader.build action).map Prod.snd

def pushCode (reader : Reader) (code : Nat) : Except Error Reader :=
  reader.change (Build.pushCode code)

def pushAnchor (reader : Reader) (condition : Anchor) : Except Error Reader :=
  reader.change (Build.pushNode (.anchor condition))

def pushSet (reader : Reader) (members : CharSet) : Except Error Reader :=
  reader.change (Build.pushNode (.set [members]))

def pushNamed (reader : Reader) (named : NamedSet) : Except Error Reader :=
  reader.pushSet (named.resolve reader.flags.ignoreCase)

def withFlags (reader : Reader) (flags : Flags) : Reader :=
  { reader with builder := { reader.builder with flags } }

end Reader

/-- The part of `text` before its end part `rest`. -/
def before (text rest : List Char) : String := String.ofList (text.take (text.length - rest.length))

/-- The fault of a stray byte; `rest` starts with it. -/
def strayError {α : Type} (rest : List Char) : Except Error α :=
  .error ⟨.strayByte, String.ofList rest⟩

/-- The next code point and the number of characters that it takes. -/
def firstCode (text : List Char) : Except Error (Nat × Nat) :=
  match text with
  | [] => .ok (replacementCode, 0)
  | c :: rest =>
    if Text.isStray c then
      match Text.TextUnit.first? (Text.strayByte c)
        (((rest.take 3).takeWhile Text.isStray).map Text.strayByte) with
      | some (decoded, width) => .ok (decoded.toNat, width + 1)
      | none => strayError text
    else .ok (c.toNat, 1)

def nextCode (text : List Char) : Except Error (Nat × List Char) :=
  (firstCode text).map fun (code, width) => (code, text.drop width)

/-- Refuses a text with a stray byte. Every code point takes at least one character, so `fuel` bounds
their number. -/
def checkCodes : Nat → List Char → Except Error Unit
  | _, [] => .ok ()
  | 0, _ => .ok ()
  | fuel + 1, text => do
    let (_, rest) ← nextCode text
    checkCodes fuel rest

def octalDigit? (c : Char) : Option Nat :=
  if '0' ≤ c ∧ c ≤ '7' then some (c.toNat - '0'.toNat) else none

/-- The digits between braces after `\x`: the value and what follows the closing brace. `text` is the
whole escape. -/
def bracedHex (text : List Char) : List Char → Nat → Bool → Except Error (Nat × List Char)
  | [], _, _ => .error ⟨.escape, String.ofList text⟩
  | c :: rest, value, some? =>
    let fail := fun (rest : List Char) =>
      (.error ⟨.escape, before text rest⟩ : Except Error (Nat × List Char))
    if c == '\x7d' then (if some? then .ok (value, rest) else fail rest)
    else
      match Text.hexDigit? c with
      | none => do
        let (_, rest) ← nextCode (c :: rest)
        fail rest
      | some digit =>
        let next := 16 * value + digit
        if next > lastCode then fail rest else bracedHex text rest next true

/-- Reads up to `count` octal digits. -/
def octalDigits : Nat → Nat → List Char → Nat × List Char
  | 0, value, rest => (value, rest)
  | _, value, [] => (value, [])
  | count + 1, value, c :: rest =>
    match octalDigit? c with
    | some digit => octalDigits count (8 * value + digit) rest
    | none => (value, c :: rest)

/-- Reads an escape of a single character; `text` starts with the backslash. -/
def readEscape (text : List Char) : Except Error (Nat × List Char) := do
  let fail := fun (rest : List Char) =>
    (.error ⟨.escape, before text rest⟩ : Except Error (Nat × List Char))
  match text.drop 1 with
  | [] => .error ⟨.trailingBackslash, ""⟩
  | c :: rest =>
    match c with
    | 'a' => .ok (0x07, rest)
    | 'f' => .ok (0x0C, rest)
    | 'n' => .ok (0x0A, rest)
    | 'r' => .ok (0x0D, rest)
    | 't' => .ok (0x09, rest)
    | 'v' => .ok (0x0B, rest)
    | '0' => .ok (octalDigits 2 0 rest)
    | 'x' =>
      match rest with
      | [] => fail rest
      | '\x7b' :: more => bracedHex text more 0 false
      | h :: _ =>
        let (_, more) ← nextCode rest
        let (_, after) ← nextCode more
        match Text.hexDigit? h, more.head?.bind Text.hexDigit? with
        | some high, some low => .ok (16 * high + low, after)
        | _, _ => fail after
    | _ =>
      match octalDigit? c, rest.head?.bind octalDigit? with
      | some digit, some _ => .ok (octalDigits 2 digit rest)
      | _, _ =>
        let (_, rest) ← nextCode (c :: rest)
        if c.toNat < 0x80 && !c.isAlphanum then .ok (c.toNat, rest) else fail rest

/-- Reads a set with a Unicode name after `\p` or `\P`; `none` when the text is no such set. -/
def readUnicodeSet (text : List Char) : Except Error (Option (NamedSet × List Char)) := do
  match text with
  | '\\' :: p :: rest =>
    if p != 'p' && p != 'P' then .ok none
    else
      let (name, written, after) ← readName text rest
      let (inverse, plain) :=
        match name with
        | '^' :: more => (true, more)
        | _ => (false, name)
      match unicodeSet? (String.ofList plain) with
      | none => .error ⟨.charRange, String.ofList written⟩
      | some named =>
        .ok (some ({ named with negated := named.negated != ((p == 'P') != inverse) }, after))
  | _ => .ok none
where
  /-- The name after the letter, one character or a text in braces; the whole set as it is written;
  and what follows it. -/
  readName (text rest : List Char) : Except Error (List Char × List Char × List Char) := do
    match rest with
    | '\x7b' :: more =>
      let name := more.takeWhile (· != '\x7d')
      match more.drop name.length with
      | [] =>
        checkCodes text.length text
        .error ⟨.charRange, String.ofList text⟩
      | _ :: after =>
        checkCodes name.length name
        .ok (name, text.take (name.length + 4), after)
    | _ =>
      let (_, width) ← firstCode rest
      .ok (rest.take width, text.take (2 + width), rest.drop width)

def readLetterSet? : List Char → Option (NamedSet × List Char)
  | '\\' :: letter :: rest => (letterSet? letter).map fun named => (named, rest)
  | _ => none

/-- The text before the first `:]` and the text after it. -/
def splitAtColon : List Char → Option (List Char × List Char)
  | ':' :: ']' :: rest => some ([], rest)
  | c :: rest => (splitAtColon rest).map fun (name, after) => (c :: name, after)
  | [] => none

/-- Reads one character inside brackets; `whole` is the text from the opening bracket on. -/
def readSetChar (whole text : List Char) : Except Error (Nat × List Char) :=
  match text with
  | [] => .error ⟨.missingBracket, String.ofList whole⟩
  | '\\' :: _ => readEscape text
  | _ => nextCode text

/-- Reads a character or a range inside brackets. -/
def readSetRange (whole text : List Char) : Except Error (CharSet × List Char) := do
  let (low, rest) ← readSetChar whole text
  match rest with
  | '-' :: c :: more =>
    if c == ']' then .ok (.single low, rest)
    else
      let (high, after) ← readSetChar whole (c :: more)
      if high < low then .error ⟨.charRange, before text after⟩
      else .ok (⟨#[(low, high)]⟩, after)
  | _ => .ok (.single low, rest)

def readSetName (text : List Char) : Except Error (Option (NamedSet × List Char)) := do
  let bracketed : Except Error (Option (NamedSet × List Char)) :=
    match text with
    | '[' :: ':' :: rest =>
      match splitAtColon rest with
      | none => .ok none
      | some (name, after) =>
        match bracketNamed? name with
        | some named => .ok (some (named, after))
        | none => .error ⟨.charRange, before text after⟩
    | _ => .ok none
  match ← bracketed with
  | some result => .ok (some result)
  | none =>
    match ← readUnicodeSet text with
    | some result => .ok (some result)
    | none => .ok (readLetterSet? text)

def readSetItem (ignoreCase : Bool) (whole text : List Char) : Except Error (CharSet × List Char) := do
  match ← readSetName text with
  | some (named, rest) => .ok (named.resolve ignoreCase, rest)
  | none =>
    let (set, rest) ← readSetRange whole text
    .ok (set.foldedIf ignoreCase, rest)

/-- Reads the members of a set up to the closing bracket; a bracket that comes first is a member.
Every member takes at least one character, so `fuel` bounds their number. -/
def readSetItems (ignoreCase : Bool) (whole : List Char) :
    Nat → Bool → List CharSet → List Char → Except Error (List CharSet × List Char)
  | 0, _, _, _ => .error ⟨.missingBracket, String.ofList whole⟩
  | fuel + 1, isFirst, items, text =>
    match text with
    | ']' :: rest => if isFirst then more fuel items text else .ok (items, rest)
    | _ => more fuel items text
where
  /-- Reads one member, then the rest. -/
  more (fuel : Nat) (items : List CharSet) (text : List Char) :
      Except Error (List CharSet × List Char) := do
    let (item, rest) ← readSetItem ignoreCase whole text
    readSetItems ignoreCase whole fuel false (item :: items) rest

/-- Reads a set in brackets; `text` starts with the opening bracket, and `limit` bounds its length. -/
def readSet (ignoreCase : Bool) (limit : Nat) (text : List Char) :
    Except Error (CharSet × List Char) := do
  let (negated, body) :=
    match text.drop 1 with
    | '^' :: rest => (true, rest)
    | rest => (false, rest)
  let (items, rest) ← readSetItems ignoreCase text (limit + 1) true [] body
  .ok ((CharSet.union items).negatedIf negated, rest)

/-- A count between braces. It stops growing when it is far out of range. -/
inductive Count where
  | number (value : Nat)
  | huge
deriving Repr, DecidableEq

/-- Reads a count without leading zeros. -/
def readCount? (text : List Char) : Option (Count × List Char) :=
  let digits := text.takeWhile Char.isDigit
  let rest := text.dropWhile Char.isDigit
  match digits with
  | [] => none
  | '0' :: _ :: _ => none
  | _ =>
    let value := digits.foldl
      (fun acc c =>
        match acc with
        | .huge => .huge
        | .number n => if n ≥ 100000000 then .huge else .number (10 * n + (c.toNat - 48)))
      (.number 0)
    some (value, rest)

def readBounds? (text : List Char) : Option (Count × Option Count × List Char) := do
  let (least, rest) ← readCount? text
  let (most, after) ←
    match rest with
    | ',' :: '\x7d' :: _ => some (none, rest.drop 1)
    | ',' :: more => (readCount? more).map fun (count, after) => (some count, after)
    | _ => some (some least, rest)
  match after with
  | '\x7d' :: after => some (least, most, after)
  | _ => none

def maxCount : Nat := 1000

/-- The counts of a repetition that is within the limits. -/
def bounds? (least : Count) (most : Option Count) : Option (Nat × Option Nat) :=
  match least, most with
  | .number low, none => if low ≤ maxCount then some (low, none) else none
  | .number low, some (.number high) =>
    if low ≤ maxCount && high ≤ maxCount && low ≤ high then some (low, some high) else none
  | _, _ => none

/-- Whether the counts of a repetition are large enough to be limited together. -/
def countsMatter : Form → Bool
  | .counted least most => Nat.ble 2 least || most.any (Nat.ble 2)
  | _ => false

/-- Applies a repetition operator to the last item. `text` starts with the operator and `rest`
follows it; a question mark after an operator belongs to it. -/
def applyRepeat (reader : Reader) (operator : Form) (text rest : List Char) :
    Except Error (Reader × List Char) := do
  let (swapped, after) :=
    match rest with
    | '?' :: more => (true, more)
    | _ => (false, rest)
  if !reader.lastRepeat.isEmpty then .error ⟨.nestedRepeat, before reader.lastRepeat after⟩
  else
    let (repeated, reader) ← reader.build (Build.repeatTop operator (reader.flags.lazy != swapped))
    match repeated with
    | none => .error ⟨.missingOperand, before text after⟩
    | some draft =>
      if countsMatter operator && !draft.repeatsWithin maxCount then
        .error ⟨.repeatCount, before text after⟩
      else .ok ({ reader with lastRepeat := text }, after)

/-- Flags that are read between `(?` and `:` or `)`. -/
structure FlagReading where
  flags : Flags
  clearing : Bool := false
  sawFlag : Bool := false

/-- Reads the flags of a group; `whole` is the text from the opening parenthesis on. -/
def readFlags (whole : List Char) (reader : Reader) :
    FlagReading → List Char → Except Error (Reader × List Char)
  | _, [] => .error ⟨.groupFlags, String.ofList whole⟩
  | reading, c :: rest =>
    let fail := fun (rest : List Char) =>
      (.error ⟨.groupFlags, before whole rest⟩ : Except Error (Reader × List Char))
    let on := !reading.clearing
    match c with
    | 'i' => readFlags whole reader
        { reading with flags := { reading.flags with ignoreCase := on }, sawFlag := true } rest
    | 'm' => readFlags whole reader
        { reading with flags := { reading.flags with manyLines := on }, sawFlag := true } rest
    | 's' => readFlags whole reader
        { reading with flags := { reading.flags with dotAll := on }, sawFlag := true } rest
    | 'U' => readFlags whole reader
        { reading with flags := { reading.flags with lazy := on }, sawFlag := true } rest
    | '-' =>
      if reading.clearing then fail rest
      else readFlags whole reader { reading with clearing := true, sawFlag := false } rest
    | ':' =>
      if reading.clearing && !reading.sawFlag then fail rest
      else do
        let reader ← reader.change (Build.openGroup false)
        .ok (reader.withFlags reading.flags, rest)
    | ')' =>
      if reading.clearing && !reading.sawFlag then fail rest
      else .ok (reader.withFlags reading.flags, rest)
    | _ => do
      let (_, rest) ← nextCode (c :: rest)
      fail rest

def isGroupName (name : List Char) : Bool :=
  !name.isEmpty && name.all fun c => c == '_' || c.isAlphanum

/-- Reads a named group: `skip` characters stand before the name. -/
def readNamedGroup (reader : Reader) (skip : Nat) (text : List Char) :
    Except Error (Reader × List Char) := do
  let head := text.takeWhile (· != '>')
  match text.drop head.length with
  | [] =>
    checkCodes text.length text
    .error ⟨.namedGroup, String.ofList text⟩
  | _ :: rest =>
    let name := head.drop skip
    checkCodes name.length name
    if isGroupName name then .ok (← reader.change (Build.openGroup true), rest)
    else .error ⟨.namedGroup, before text rest⟩

/-- Reads what follows `(?`; `text` starts with the parenthesis. -/
def readSpecialGroup (reader : Reader) (text : List Char) : Except Error (Reader × List Char) :=
  match text.drop 2 with
  | 'P' :: '<' :: _ :: _ => readNamedGroup reader 4 text
  | '<' :: _ :: _ => readNamedGroup reader 3 text
  | rest => readFlags text reader { flags := reader.flags } rest

/-- The text before the first `\E` and the text after it. The text so far is kept last first. -/
def splitQuoted (text : List Char) (found : List Char := []) : List Char × List Char :=
  match text with
  | '\\' :: 'E' :: rest => (found.reverse, rest)
  | c :: rest => splitQuoted rest (c :: found)
  | [] => (found.reverse, [])

/-- Adds the characters of a text. Every code point takes at least one character, so `fuel` bounds
their number. -/
def pushCodes : Nat → Reader → List Char → Except Error Reader
  | _, reader, [] => .ok reader
  | 0, reader, _ => .ok reader
  | fuel + 1, reader, text => do
    let (code, rest) ← nextCode text
    pushCodes fuel (← reader.pushCode code) rest

def readBackslash (reader : Reader) (text : List Char) : Except Error (Reader × List Char) := do
  match text with
  | '\\' :: 'A' :: rest => .ok (← reader.pushAnchor .textStart, rest)
  | '\\' :: 'b' :: rest => .ok (← reader.pushAnchor .wordBoundary, rest)
  | '\\' :: 'B' :: rest => .ok (← reader.pushAnchor .insideWord, rest)
  | '\\' :: 'C' :: _ => .error ⟨.escape, "\\C"⟩
  | '\\' :: 'Q' :: rest =>
    let (quotedPart, after) := splitQuoted rest
    .ok (← pushCodes quotedPart.length reader quotedPart, after)
  | '\\' :: 'z' :: rest => .ok (← reader.pushAnchor .textEnd, rest)
  | _ =>
    match ← readUnicodeSet text with
    | some (named, rest) => .ok (← reader.pushNamed named, rest)
    | none =>
      match readLetterSet? text with
      | some (named, rest) => .ok (← reader.pushNamed named, rest)
      | none =>
        let (code, rest) ← readEscape text
        .ok (← reader.pushCode code, rest)

/-- Reads one construct at the start of a text that is not empty. -/
def readConstruct (reader : Reader) (c : Char) (rest : List Char) :
    Except Error (Reader × List Char) := do
  let text := c :: rest
  let plain := { reader with lastRepeat := [] }
  match c with
  | '(' =>
    match rest with
    | '?' :: _ => readSpecialGroup plain text
    | _ => .ok (← plain.change (Build.openGroup true), rest)
  | '|' => .ok (← plain.change Build.endAlternative, rest)
  | ')' => .ok (← plain.change (Build.closeGroup reader.length), rest)
  | '^' => .ok (← plain.pushAnchor (if reader.flags.manyLines then .lineStart else .textStart), rest)
  | '$' => .ok (← plain.pushAnchor (if reader.flags.manyLines then .lineEnd else .textEnd), rest)
  | '.' =>
    .ok (← plain.change (Build.pushNode (if reader.flags.dotAll then .anyChar else .notLineEnd)), rest)
  | '[' =>
    let (set, after) ← readSet reader.flags.ignoreCase reader.length text
    .ok (← plain.pushSet set, after)
  | '*' => applyRepeat reader (.loop .star) text rest
  | '+' => applyRepeat reader (.loop .plus) text rest
  | '?' => applyRepeat reader (.loop .optional) text rest
  | '\x7b' =>
    match readBounds? rest with
    | none => .ok (← plain.pushCode c.toNat, rest)
    | some (least, most, after) =>
      match bounds? least most with
      | none => .error ⟨.repeatCount, before text after⟩
      | some (low, high) => applyRepeat reader (.counted low high) text after
  | '\\' => readBackslash plain text
  | _ =>
    let (code, after) ← nextCode text
    .ok (← plain.pushCode code, after)

/-- Reads construct after construct. Each takes at least one character, so `fuel` bounds their
number. -/
def readAll : Nat → Reader → List Char → Except Error Reader
  | _, reader, [] => .ok reader
  | 0, reader, _ :: _ => .ok reader
  | fuel + 1, reader, c :: rest => do
    let (next, after) ← readConstruct reader c rest
    readAll fuel next after

def parse (text : String) : Except Error Pattern := do
  let whole := text.toList
  let reader ← readAll whole.length { whole, length := whole.length } whole
  let (draft, _) ← reader.build (Build.finish whole.length)
  .ok draft.pattern

def Machine.ofText (text : String) : Except Error Machine := (parse text).map Machine.ofPattern

/-- Whether a text is a pattern that matches some part of `subject`. -/
def matchesText (text subject : String) : Bool :=
  match Machine.ofText text with
  | .ok machine => machine.isMatch subject
  | .error _ => false

end Tabulation.Pattern
