/-
The tokens of a text. Indentation becomes explicit: a collection in block style starts and ends with
a token. A key without a sign of its own is recognised when its colon is found, and its token is put
in before it.

Tokens are read on demand: two more than the one that is wanted, and further ones as long as that
one may still turn out to start a key.
-/

import Tabulation.Yaml.Scalar

namespace Tabulation.Yaml

inductive Token where
  | streamStart
  | version (major minor : Nat)
  | tagHandle (handle target : String)
  | documentStart
  | documentEnd
  | blockSequenceStart
  | blockMappingStart
  | blockEnd
  | flowSequenceStart
  | flowSequenceEnd
  | flowMappingStart
  | flowMappingEnd
  | blockEntry
  | flowEntry
  | key
  | value
  | alias (name : String)
  | anchor (name : String)
  | tag (handle suffix : String)
  | scalar (text : String) (style : ScalarStyle)
  | streamEnd
deriving Repr, DecidableEq, Inhabited

/-- A place where a key may have started, at the token with the given number. A required key has to
be one. -/
structure PossibleKey where
  isPossible : Bool := false
  isRequired : Bool := false
  tokenNumber : Nat := 0
  index : Nat := 0
  line : Nat := 0
  column : Nat := 0
deriving Repr

/-- The state of the scanner. `taken` counts the tokens that are done with. `indent` is the column of
the innermost block collection, `none` at the top; `outerIndents` those around it. There is one slot
for a possible key on every level of flow collections: `key` on this level and `outerKeys` on those
around it. `keyLevels` tells for a token the level whose key may start there. -/
structure Scanner where
  cursor : Cursor
  tokens : Array Token := #[.streamStart]
  taken : Nat := 0
  indent : Option Nat := none
  outerIndents : List (Option Nat) := []
  flowLevel : Nat := 0
  keyAllowed : Bool := true
  key : PossibleKey := {}
  outerKeys : List PossibleKey := []
  keyLevels : List (Nat × Nat) := []

/-- Reading tokens; malformed text fails. -/
abbrev Tokens := StateT Scanner Option

namespace Scanner

def maxDepth : Nat := 10000

def emit (s : Scanner) (token : Token) : Scanner := { s with tokens := s.tokens.push token }

/-- Puts a token in at a place, or at the end when the token there is done with. -/
def insert (s : Scanner) (place : Nat) (token : Token) : Scanner :=
  if place < s.taken then s.emit token
  else { s with tokens := s.tokens.insertIdxIfInBounds place token }

/-- Whether a column is right of the innermost block collection. -/
def isDeeper (s : Scanner) (column : Nat) : Bool := s.indent.all fun indent => indent < column

def forgetLevel (s : Scanner) (tokenNumber : Nat) : Scanner :=
  { s with keyLevels := s.keyLevels.filter fun entry => entry.1 != tokenNumber }

def keyOfLevel? (s : Scanner) (level : Nat) : Option PossibleKey :=
  if level == s.flowLevel then some s.key
  else if level < s.flowLevel then s.outerKeys[s.flowLevel - 1 - level]?
  else none

def setKeyOfLevel (s : Scanner) (level : Nat) (key : PossibleKey) : Scanner :=
  if level == s.flowLevel then { s with key }
  else { s with outerKeys := s.outerKeys.set (s.flowLevel - 1 - level) key }

/-- Closes the block collections that are indented deeper than `column`, all for `none`. The number
of open collections bounds the steps. -/
def unrollTo (column : Option Nat) : Nat → Scanner → Scanner
  | 0, s => s
  | fuel + 1, s =>
    match s.indent with
    | none => s
    | some indent =>
      if column.any (indent ≤ ·) then s
      else
        unrollTo column fuel
          { s.emit .blockEnd with
            indent := (s.outerIndents.head?).getD none
            outerIndents := s.outerIndents.drop 1 }

/-- Closes block collections outside of flow collections. -/
def unroll (s : Scanner) (column : Option Nat) : Scanner :=
  if s.flowLevel > 0 then s else unrollTo column (s.outerIndents.length + 1) s

end Scanner

namespace Tokens

def fail {α : Type} : Tokens α := fun _ => none

/-- Fails unless a condition holds. -/
def check (condition : Bool) : Tokens Unit := if condition then pure () else fail

def scan {α : Type} (read : Scan α) : Tokens α := fun s =>
  let cursor := s.cursor
  let s := { s with cursor := {} }
  (read cursor).map fun (result, cursor) => (result, { s with cursor })

def emit (token : Token) : Tokens Unit := modify fun s => s.emit token

/-- Says whether a key may start at the next token. -/
def allowKey (allowed : Bool) : Tokens Unit := modify fun s => { s with keyAllowed := allowed }

/-! ### Possible keys -/

/-- Forgets the possible key of this level; a required one is missing its colon. -/
def dropKey : Tokens Unit := do
  let s ← get
  if s.key.isPossible then
    if s.key.isRequired then fail
    else set { s.forgetLevel s.key.tokenNumber with key := { s.key with isPossible := false } }

/-- Remembers that a key may start here. -/
def noteKey : Tokens Unit := do
  if (← get).keyAllowed then
    let s ← get
    let key : PossibleKey :=
      { isPossible := true
        isRequired := s.flowLevel == 0 && s.indent == some s.cursor.column
        tokenNumber := s.tokens.size
        index := s.cursor.index
        line := s.cursor.line
        column := s.cursor.column }
    dropKey
    modify fun s => { s with
      key
      keyLevels := (key.tokenNumber, s.flowLevel) ::
        s.keyLevels.filter fun entry => Nat.ble s.taken entry.1 && entry.1 != key.tokenNumber }

/-- Whether the possible key of a level can still get its colon: in the same line and close by. A
required key must be able to. -/
def isKeyValid (level : Nat) : Tokens Bool := do
  let s ← get
  match s.keyOfLevel? level with
  | none => fail
  | some key =>
    if !key.isPossible then return false
    else if key.line < s.cursor.line || key.index + 1024 < s.cursor.index then
      if key.isRequired then fail
      else do
        set (s.setKeyOfLevel level { key with isPossible := false })
        return false
    else return true

/-- Opens a block collection when the column is deeper than the innermost one; its token goes to the
given place. -/
def roll (column place : Nat) (token : Token) : Tokens Unit := do
  let s ← get
  if s.flowLevel == 0 && s.isDeeper column then
    check (Nat.blt s.outerIndents.length Scanner.maxDepth)
    set { s.insert place token with outerIndents := s.indent :: s.outerIndents, indent := some column }

/-- Opens a block collection here, where a key has to be allowed. -/
def rollHere (token : Token) : Tokens Unit := do
  let s ← get
  if s.flowLevel == 0 then
    check s.keyAllowed
    roll s.cursor.column s.tokens.size token

/-! ### The way to the next token -/

/-- Steps over blanks, comments and line ends up to the next token. Tabs do not indent. -/
def toNextToken : Nat → Tokens Unit
  | 0 => fail
  | fuel + 1 => do
    scan (Scan.need 1)
    let s ← get
    if s.cursor.column == 0 && s.cursor.markFirst then scan Scan.skip
    scan (Scan.need 1)
    let tabs := s.flowLevel > 0 || !s.keyAllowed
    scan (Scan.skipWhile fun c => c == ' ' || (tabs && c == '\t'))
    if ← scan (Scan.nextIs (· == '#')) then scan (Scan.skipComments s.cursor.limit)
    if ← scan (Scan.nextIs isBreak) then do
      scan Scan.skipBreak
      if s.flowLevel == 0 then allowKey true
      toNextToken fuel
    else return ()

/-! ### Signs -/

def fetchMarker (token : Token) : Tokens Unit := do
  modify fun s => s.unroll none
  dropKey
  allowKey false
  scan (Scan.skipMany 3)
  emit token

/-- The start of a flow collection. The slot of the new level is first named after this token. -/
def fetchFlowStart (token : Token) : Tokens Unit := do
  noteKey
  modify fun s => { s with
    outerKeys := s.key :: s.outerKeys
    key := { tokenNumber := s.tokens.size }
    flowLevel := s.flowLevel + 1 }
  check (Nat.ble (← get).flowLevel Scanner.maxDepth)
  allowKey true
  scan Scan.skip
  emit token

/-- The end of a flow collection. The token that the slot of its level names starts no key any
more. -/
def fetchFlowEnd (token : Token) : Tokens Unit := do
  dropKey
  modify fun s =>
    match s.outerKeys with
    | outer :: others =>
      { s.forgetLevel s.key.tokenNumber with
        flowLevel := s.flowLevel - 1
        key := outer
        outerKeys := others }
    | [] => s
  allowKey false
  scan Scan.skip
  emit token

def fetchFlowEntry : Tokens Unit := do
  dropKey
  allowKey true
  scan Scan.skip
  emit .flowEntry

def fetchBlockEntry : Tokens Unit := do
  rollHere .blockSequenceStart
  dropKey
  allowKey true
  scan Scan.skip
  emit .blockEntry

def fetchKey : Tokens Unit := do
  rollHere .blockMappingStart
  dropKey
  allowKey ((← get).flowLevel == 0)
  scan Scan.skip
  emit .key

def fetchValue : Tokens Unit := do
  if ← isKeyValid (← get).flowLevel then do
    let key := (← get).key
    modify fun s => s.insert key.tokenNumber .key
    roll key.column key.tokenNumber .blockMappingStart
    modify fun s =>
      { s.forgetLevel key.tokenNumber with key := { key with isPossible := false } }
    allowKey false
  else do
    rollHere .blockMappingStart
    allowKey ((← get).flowLevel == 0)
  scan Scan.skip
  emit .value

/-! ### Anchors and tags -/

def anchorName : Scan String := do
  Scan.skip
  Scan.need 1
  let name ← Scan.readWhile isWordChar
  let rest ← Scan.ahead
  let ends := startsBlankOrEnds rest || rest.head?.any fun c => "?:,]\x7d%@`".toList.contains c
  Scan.check (!name.isEmpty && ends)
  return String.ofList name

def fetchAnchor (token : String → Token) : Tokens Unit := do
  noteKey
  allowKey false
  let name ← scan anchorName
  emit (token name)

/-- Whether a character may occur in the name of a tag. -/
def isTagChar (c : Char) : Bool := isWordChar c || ";/?:@&=+$,.!~*'()[]%".toList.contains c

/-- Reads a byte that is written as a percent sign and two hexadecimal digits. -/
def escapedByte : Scan UInt8 := do
  Scan.need 3
  match ← Scan.ahead with
  | '%' :: a :: b :: _ =>
    match Text.hexValue? [a, b] with
    | some code => do
      Scan.skipMany 3
      return code.toUInt8
    | none => Scan.fail
  | _ => Scan.fail

/-- Reads a number of escaped bytes that continue a character. -/
def escapedBytes : Nat → List UInt8 → Scan (List UInt8)
  | 0, bytes => return bytes.reverse
  | count + 1, bytes => do
    let byte ← escapedByte
    Scan.check (Nat.ble 0x80 byte.toNat && Nat.blt byte.toNat 0xC0)
    escapedBytes count (byte :: bytes)

/-- Reads a character that is written as escaped bytes. -/
def escapedChar : Scan (List UInt8) := do
  let lead ← escapedByte
  let width := sequenceWidth lead
  Scan.check (width != 0)
  escapedBytes (width - 1) [lead]

/-- Reads the name of a tag after some bytes of it, which are listed last first. -/
def tagNameFrom : Nat → List UInt8 → Scan (List UInt8)
  | 0, _ => Scan.fail
  | fuel + 1, name => do
    match ← Scan.next with
    | some c =>
      if c == '%' then do
        let bytes ← escapedChar
        Scan.need 1
        tagNameFrom fuel (bytes.reverse ++ name)
      else if isTagChar c then do
        Scan.skipAndNeed 1
        tagNameFrom fuel (c.toNat.toUInt8 :: name)
      else return name.reverse
    | none => return name.reverse

/-- Reads the name of a tag whose first characters were read. -/
def tagName (start : List Char) : Scan String := do
  Scan.need 1
  let bytes ← tagNameFrom (← get).limit (start.map fun c => c.toNat.toUInt8).reverse
  return Text.ofBytes bytes

/-- Reads a handle of tags: an exclamation mark, word characters, and perhaps another mark. -/
def tagHandle : Scan (List Char) := do
  Scan.need 1
  Scan.check (← Scan.nextIs (· == '!'))
  Scan.skipAndNeed 1
  let word ← Scan.readWhile isWordChar
  if ← Scan.nextIs (· == '!') then do
    Scan.skip
    return '!' :: word ++ ['!']
  else return '!' :: word

def isClosedHandle (handle : List Char) : Bool :=
  Nat.blt 1 handle.length && handle.getLast? == some '!'

/-- Reads a tag: its handle and the rest of it. -/
def tagParts : Scan (String × String) := do
  Scan.need 2
  let parts ←
    match ← Scan.ahead with
    | '!' :: '<' :: _ => do
      Scan.skipMany 2
      let name ← tagName []
      Scan.check (name != "" && (← Scan.nextIs (· == '>')))
      Scan.skip
      pure ("", name)
    | _ => do
      let handle ← tagHandle
      if isClosedHandle handle then do
        let name ← tagName []
        Scan.check (name != "")
        pure (String.ofList handle, name)
      else do
        let name ← tagName (handle.drop 1)
        pure (if name == "" then ("", "!") else ("!", name))
  Scan.need 1
  Scan.check (startsBlankOrEnds (← Scan.ahead))
  return parts

def fetchTag : Tokens Unit := do
  noteKey
  allowKey false
  let (handle, suffix) ← scan tagParts
  emit (.tag handle suffix)

/-! ### Directives -/

/-- Reads a part of a version number: one or two digits. -/
def versionPart : Scan Nat := do
  Scan.need 1
  let digits ← Scan.readWhile Char.isDigit
  Scan.check (!digits.isEmpty && Nat.ble digits.length 2)
  return digits.foldl (fun n c => 10 * n + (c.toNat - 48)) 0

/-- Reads the version after its directive's name. -/
def versionToken : Scan Token := do
  Scan.skipWhile isBlank
  let major ← versionPart
  Scan.check (← Scan.nextIs (· == '.'))
  Scan.skip
  let minor ← versionPart
  return .version major minor

/-- Reads a handle and what it stands for after the name of the directive. -/
def tagHandleToken : Scan Token := do
  Scan.skipWhile isBlank
  let handle ← tagHandle
  Scan.check (handle == ['!'] || isClosedHandle handle)
  Scan.need 1
  Scan.check (← Scan.nextIs isBlank)
  Scan.skipWhile isBlank
  let target ← tagName []
  Scan.check (target != "" && startsBlankOrEnds (← Scan.ahead))
  return .tagHandle (String.ofList handle) target

def directive : Scan Token := do
  Scan.skip
  Scan.need 1
  let name ← Scan.readWhile isWordChar
  Scan.check (!name.isEmpty && startsBlankOrEnds (← Scan.ahead))
  let token ←
    match String.ofList name with
    | "YAML" => versionToken
    | "TAG" => tagHandleToken
    | _ => Scan.fail
  Scan.need 1
  Scan.skipWhile isBlank
  if ← Scan.nextIs (· == '#') then Scan.skipLine
  Scan.check (startsBreakOrEnds (← Scan.ahead))
  if ← Scan.nextIs isBreak then Scan.skipBreak
  return token

def fetchDirective : Tokens Unit := do
  modify fun s => s.unroll none
  dropKey
  allowKey false
  let token ← scan directive
  emit token

/-! ### Scalars -/

def fetchBlockScalar (folded : Bool) : Tokens Unit := do
  dropKey
  allowKey true
  let text ← scan (Scan.block folded (← get).indent)
  emit (.scalar (Text.ofScalars (String.ofList text)) .quoted)

def fetchQuoted (single : Bool) : Tokens Unit := do
  noteKey
  allowKey false
  let text ← scan (Scan.quoted single)
  emit (.scalar (Text.ofScalars (String.ofList text)) .quoted)

/-- A plain scalar. A key may start after one that ends in a fresh line. -/
def fetchPlain : Tokens Unit := do
  noteKey
  let s ← get
  let least := (s.indent.map (· + 1)).getD 0
  let (text, fresh) ← scan (Scan.plain (s.flowLevel > 0) least)
  allowKey fresh
  emit (.scalar (Text.ofScalars (String.ofList text)) .plain)

/-- The end of the text, which ends the last line too. -/
def fetchEnd : Tokens Unit := do
  modify fun s =>
    if s.cursor.column == 0 then s
    else { s with cursor := { s.cursor with column := 0, line := s.cursor.line + 1 } }
  modify fun s => s.unroll none
  dropKey
  allowKey false
  emit .streamEnd

/-- The signs that cannot start a plain scalar. -/
def indicators : List Char := "-?:,[]\x7b\x7d#&*!|>'\"%@`".toList

/-- Reads a token inside a document, which starts with `c`. -/
def fetchContent (c : Char) (rest : List Char) : Tokens Unit := do
  let inFlow := (← get).flowLevel > 0
  let blankNext := startsBlankOrEnds rest
  if c == '[' then fetchFlowStart .flowSequenceStart
  else if c == '\x7b' then fetchFlowStart .flowMappingStart
  else if c == ']' then fetchFlowEnd .flowSequenceEnd
  else if c == '\x7d' then fetchFlowEnd .flowMappingEnd
  else if c == ',' then fetchFlowEntry
  else if c == '-' && blankNext then fetchBlockEntry
  else if c == '?' && (inFlow || blankNext) then fetchKey
  else if c == ':' && (inFlow || blankNext) then fetchValue
  else if c == '*' then fetchAnchor .alias
  else if c == '&' then fetchAnchor .anchor
  else if c == '!' then fetchTag
  else if c == '|' && !inFlow then fetchBlockScalar false
  else if c == '>' && !inFlow then fetchBlockScalar true
  else if c == '\'' then fetchQuoted true
  else if c == '"' then fetchQuoted false
  else if (!(isBlank c || indicators.contains c)) || c == '-' ||
      (!inFlow && (c == '?' || c == ':')) then fetchPlain
  else fail

/-- Reads the next token, and a comment in the same line unless the token is the dash of an entry. -/
def fetch : Tokens Unit := do
  scan (Scan.need 1)
  toNextToken (← get).cursor.limit
  modify fun s => s.unroll (some s.cursor.column)
  scan (Scan.need 4)
  let cursor := (← get).cursor
  match cursor.ahead with
  | [] => fetchEnd
  | c :: rest =>
    if cursor.column == 0 && c == '%' then fetchDirective
    else if cursor.atMarker then fetchMarker (if c == '-' then .documentStart else .documentEnd)
    else do
      fetchContent c rest
      if (← get).tokens.back? != some .blockEntry then scan Scan.skipLineComment

/-- Whether a further token has to be read before the next one can be taken. -/
def isShort : Tokens Bool := do
  let s ← get
  if s.tokens.size < s.taken + 3 then return true
  else
    match s.keyLevels.lookup s.taken with
    | some level => isKeyValid level
    | none => return false

/-- Reads tokens until the next one can be taken. Every token but a few takes a character, so `fuel`
bounds their number. -/
def fetchMore : Nat → Tokens Unit
  | 0 => fail
  | fuel + 1 => do
    if ← isShort then do
      fetch
      fetchMore fuel
    else return ()

def peek : Tokens Token := do
  fetchMore (← get).cursor.limit
  let s ← get
  return (s.tokens[s.taken]?).getD .streamEnd

/-- Takes the next token away. -/
def advance : Tokens Unit := modify fun s => { s with taken := s.taken + 1 }

end Tokens

end Tabulation.Yaml
