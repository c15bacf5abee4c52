/-
Documents as trees. The first document of a text is read into a node; an alias names the node of an
anchor, which may be one of the nodes around it.

The reader keeps the collections that are open on a stack. Each open collection says what it needs
next: a node, nothing, or to be closed.
-/

import Tabulation.Yaml.Token

namespace Tabulation.Yaml

/-- A node of a document. A scalar that is plain and has no tag has the empty tag. An alias has a
number of its own, the name of its anchor, and the place of the anchor's node in the document. -/
inductive Node where
  | scalar (tag text : String)
  | sequence (items : List Node)
  | mapping (pairs : List (Node × Node))
  | alias (number : Nat) (name : String) (place : Nat)
deriving Repr, Inhabited

/-- A document: its root, and the nodes that have anchors. `size` is more than the number of its
nodes. -/
structure Document where
  root : Node
  anchored : Array Node := #[]
  size : Nat := 0
deriving Repr

namespace Node

def stringTag : String := "!!str"

/-- The tag of the key that merges mappings. -/
def mergeTag : String := "!!merge"

/-- The scalar that stands where nothing is written. -/
def blank : Node := .scalar "" ""

def isMerge : Node → Bool
  | .scalar tag text => text == "<<" && (tag == "" || tag == "!" || tag == mergeTag)
  | _ => false

/-- Whether two keys count as the same key: scalars by their text, aliases by their name, other nodes
by their kind. -/
def sameKey : Node → Node → Bool
  | .scalar _ a, .scalar _ b => a == b
  | .sequence _, .sequence _ => true
  | .mapping _, .mapping _ => true
  | .alias _ a _, .alias _ b _ => a == b
  | _, _ => false

def isMapping : Node → Bool
  | .mapping _ => true
  | _ => false

end Node

/-- The common start of the long forms of tags. -/
def tagBase : String := "tag:yaml.org,2002:"

def shortTag (tag : String) : String :=
  if tag.startsWith tagBase then "!!" ++ String.ofList (tag.toList.drop tagBase.length) else tag

/-- A collection that is open. Its items are listed last first, and `place` is where its node is kept
when it has an anchor. A mapping may have a key that still lacks its value; a flow collection starts
as `fresh`. A key that is `alone` has no value at all. -/
inductive Frame where
  | blockSequence (place : Option Nat) (items : List Node)
  | plainSequence (place : Option Nat) (items : List Node)
  | blockMapping (place : Option Nat) (pairs : List (Node × Node)) (key : Option Node)
  | flowSequence (place : Option Nat) (items : List Node) (fresh : Bool)
  | flowPair (key value : Option Node)
  | flowMapping (place : Option Nat) (pairs : List (Node × Node)) (key : Option Node)
      (fresh alone : Bool)

/-- What an open collection needs next. -/
inductive Demand where
  /-- A node, which may be a block collection, or a sequence that is not indented. -/
  | child (block indentless : Bool)
  /-- A key that has no value. -/
  | loneKey
  | given (node : Node)
  | inner (frame : Frame)
  | close (place : Option Nat) (node : Node)

/-- The state of the reader: the scanner, the nodes with anchors, where the names of the anchors lead,
the number of aliases so far, and the handles of tags. -/
structure Composer where
  scanner : Scanner
  anchored : Array Node := #[]
  anchors : List (String × Nat) := []
  aliases : Nat := 0
  handles : List (String × String) := []

/-- Reading that may fail on malformed text. -/
abbrev Compose := StateT Composer Option

namespace Compose

def tokens {α : Type} (read : Tokens α) : Compose α := fun state =>
  let scanner := state.scanner
  let state := { state with scanner := { cursor := {} } }
  (read scanner).map fun (result, scanner) => (result, { state with scanner })

def peek : Compose Token := tokens Tokens.peek

def advance : Compose Unit := tokens Tokens.advance

def fail {α : Type} : Compose α := fun _ => none

/-! ### The start of a node -/

/-- Reads an anchor, if there is one. -/
def anchor? : Compose (Option String) := do
  match ← peek with
  | .anchor name => do
    advance
    return some name
  | _ => return none

/-- Reads a tag, if there is one. -/
def tag? : Compose (Option (String × String)) := do
  match ← peek with
  | .tag handle suffix => do
    advance
    return some (handle, suffix)
  | _ => return none

/-- Reads the properties of a node, its anchor and its tag, in either order. -/
def properties : Compose (Option String × Option (String × String)) := do
  match ← anchor? with
  | some name => return (some name, ← tag?)
  | none =>
    match ← tag? with
    | some tag => return (← anchor?, some tag)
    | none => return (none, none)

/-- The full form of a tag; a handle has to be known. -/
def fullTag : Option (String × String) → Compose String
  | none => return ""
  | some (handle, suffix) => do
    if handle == "" then return suffix
    else
      match (← get).handles.lookup handle with
      | some target => if target ++ suffix == "" then fail else return target ++ suffix
      | none => fail

/-- Makes room for the node of an anchor, whose name leads there from now on. -/
def place (anchor : Option String) : Compose (Option Nat) := do
  match anchor with
  | none => return none
  | some name => do
    let place := (← get).anchored.size
    modify fun state => { state with
      anchored := state.anchored.push Node.blank
      anchors := (name, place) :: state.anchors.filter (·.1 != name) }
    return some place

def keep (place : Option Nat) (node : Node) : Compose Node := do
  match place with
  | none => return node
  | some place => do
    modify fun state => { state with anchored := state.anchored.setIfInBounds place node }
    return node

/-- The alias of an anchor, which has to be known. -/
def aliasOf (name : String) : Compose Node := do
  let state ← get
  match state.anchors.lookup name with
  | some place => do
    set { state with aliases := state.aliases + 1 }
    return .alias state.aliases name place
  | none => fail

def scalarNode (tag text : String) (style : ScalarStyle) : Node :=
  if tag != "" && tag != "!" then .scalar (shortTag tag) text
  else
    match style with
    | .quoted => .scalar Node.stringTag text
    | .plain => .scalar (if text == "<<" then Node.mergeTag else "") text

/-- Reads the start of a node: all of it, or the collection that it opens. -/
def start (block indentless : Bool) : Compose Demand := do
  match ← peek with
  | .alias name => do
    let node ← aliasOf name
    advance
    return .given node
  | _ => do
    let (anchor, tag) ← properties
    let tag ← fullTag tag
    let token ← peek
    let opened := fun (frame : Option Nat → Frame) (takes : Bool) => do
      let place ← place anchor
      if takes then advance
      return Demand.inner (frame place)
    match token with
    | .scalar text style => do
      let place ← place anchor
      advance
      return .given (← keep place (scalarNode tag text style))
    | .flowSequenceStart => opened (.flowSequence · [] true) true
    | .flowMappingStart => opened (.flowMapping · [] none true false) true
    | _ =>
      if token == .blockEntry && indentless then opened (.plainSequence · []) false
      else if token == .blockSequenceStart && block then opened (.blockSequence · []) true
      else if token == .blockMappingStart && block then opened (.blockMapping · [] none) true
      else if anchor.isSome || tag != "" then do
        let place ← place anchor
        return .given (← keep place (scalarNode tag "" .plain))
      else fail

/-! ### Open collections -/

def endsBlockItem : Token → Bool
  | .key | .value | .blockEnd => true
  | _ => false

def endsSequenceItem : Token → Bool
  | .flowEntry | .flowSequenceEnd => true
  | _ => false

def endsMappingItem : Token → Bool
  | .flowEntry | .flowMappingEnd => true
  | _ => false

/-- A node, unless the next token shows that nothing is written. -/
def childUnless (ends : Token → Bool) (block indentless : Bool) : Compose Demand := do
  if ends (← peek) then return .given Node.blank else return .child block indentless

/-- The value after a colon, or nothing without one. -/
def valueUnless (ends : Token → Bool) (block : Bool) : Compose Demand := do
  match ← peek with
  | .value => do
    advance
    childUnless ends block block
  | _ => return .given Node.blank

/-- Steps over the comma between two items of a flow collection; there is none before the first. -/
def separator (fresh : Bool) : Compose Unit := do
  if !fresh then
    match ← peek with
    | .flowEntry => advance
    | _ => fail

/-- What an open collection needs next. -/
def demand : Frame → Compose Demand
  | .blockSequence place items => do
    match ← peek with
    | .blockEntry => do
      advance
      childUnless (fun token => token == .blockEntry || token == .blockEnd) true false
    | .blockEnd => do
      advance
      return .close place (.sequence items.reverse)
    | _ => fail
  | .plainSequence place items => do
    match ← peek with
    | .blockEntry => do
      advance
      childUnless (fun token => token == .blockEntry || endsBlockItem token) true false
    | _ => return .close place (.sequence items.reverse)
  | .blockMapping place pairs none => do
    match ← peek with
    | .key => do
      advance
      childUnless endsBlockItem true true
    | .blockEnd => do
      advance
      return .close place (.mapping pairs.reverse)
    | _ => fail
  | .blockMapping _ _ (some _) => valueUnless endsBlockItem true
  | .flowSequence place items fresh => do
    let close := do
      advance
      return Demand.close place (.sequence items.reverse)
    if (← peek) == .flowSequenceEnd then close
    else do
      separator fresh
      match ← peek with
      | .flowSequenceEnd => close
      | .key => do
        advance
        return .inner (.flowPair none none)
      | _ => return .child false false
  | .flowPair none _ => do
    let token ← peek
    if token == .value || endsSequenceItem token then do
      advance
      return .given Node.blank
    else return .child false false
  | .flowPair (some _) none => valueUnless endsSequenceItem false
  | .flowPair (some key) (some value) => do
    let _ ← peek
    return .close none (.mapping [(key, value)])
  | .flowMapping place pairs none fresh _ => do
    let close := do
      advance
      return Demand.close place (.mapping pairs.reverse)
    if (← peek) == .flowMappingEnd then close
    else do
      separator fresh
      match ← peek with
      | .flowMappingEnd => close
      | .key => do
        advance
        childUnless (fun token => token == .value || endsMappingItem token) false false
      | _ => return .loneKey
  | .flowMapping _ _ (some _) _ alone => do
    if alone then return .given Node.blank else valueUnless endsMappingItem false

/-- Notes that the key which comes next has no value. -/
def withLoneKey : Frame → Frame
  | .flowMapping place pairs key fresh _ => .flowMapping place pairs key fresh true
  | frame => frame

/-- Puts a node into the innermost open collection. -/
def put (node : Node) : Frame → Frame
  | .blockSequence place items => .blockSequence place (node :: items)
  | .plainSequence place items => .plainSequence place (node :: items)
  | .blockMapping place pairs none => .blockMapping place pairs (some node)
  | .blockMapping place pairs (some key) => .blockMapping place ((key, node) :: pairs) none
  | .flowSequence place items _ => .flowSequence place (node :: items) false
  | .flowPair none value => .flowPair (some node) value
  | .flowPair (some key) _ => .flowPair (some key) (some node)
  | .flowMapping place pairs none fresh alone => .flowMapping place pairs (some node) fresh alone
  | .flowMapping place pairs (some key) _ _ =>
    .flowMapping place ((key, node) :: pairs) none false false

/-- Reads until the outermost collection is complete. Every token is taken at most once, and few
steps take none, so `fuel` bounds the steps. -/
def run : Nat → List Frame → Demand → Compose Node
  | 0, _, _ => fail
  | fuel + 1, frames, next =>
    match next, frames with
    | .child block indentless, _ => do
      let next ← start block indentless
      run fuel frames next
    | .loneKey, frame :: outer => do
      let next ← start false false
      run fuel (withLoneKey frame :: outer) next
    | .given node, [] => return node
    | .given node, frame :: outer => do
      let frame := put node frame
      let next ← demand frame
      run fuel (frame :: outer) next
    | .inner frame, _ => do
      let next ← demand frame
      run fuel (frame :: frames) next
    | .close place node, _ :: outer => do
      let node ← keep place node
      run fuel outer (.given node)
    | _, [] => fail

/-! ### Documents -/

/-- Reads the directives before a document. `fuel` bounds their number. -/
def directives : Nat → Bool → Compose Unit
  | 0, _ => fail
  | fuel + 1, versionSeen => do
    match ← peek with
    | .version major minor => do
      if versionSeen || major != 1 || minor != 1 then fail
      advance
      directives fuel true
    | .tagHandle handle target => do
      if ((← get).handles.lookup handle).isSome then fail
      modify fun state => { state with handles := (handle, target) :: state.handles }
      advance
      directives fuel versionSeen
    | _ => return ()

/-- Gives the handles that need no directive their meaning, unless a directive did. -/
def defaultHandles : Compose Unit :=
  modify fun state => { state with handles := state.handles ++ [("!", "!"), ("!!", tagBase)] }

def startsNoContent : Token → Bool
  | .version _ _ | .tagHandle _ _ | .documentStart | .documentEnd | .streamEnd => true
  | _ => false

def startsExplicitly : Token → Bool
  | .version _ _ | .tagHandle _ _ | .documentStart => true
  | _ => false

/-- Reads the first document up to its end; there is none in an empty text. -/
def document : Compose (Option Node) := do
  let limit := (← get).scanner.cursor.limit
  let fuel := 16 * limit + 64
  let _ ← peek
  advance
  let token ← peek
  if token == .streamEnd then return none
  else do
    if startsExplicitly token then
      directives limit false
      if (← peek) != .documentStart then fail
      advance
    defaultHandles
    let root ←
      if startsExplicitly token && startsNoContent (← peek) then pure Node.blank
      else run fuel [] (.child true false)
    let _ ← peek
    return some root

end Compose

/-- The first document of a text: `none` when the text is malformed, and no document when it is
empty. -/
def parse (text : Text.Bytes) : Option (Option Document) := do
  let cursor := Cursor.ofBytes text
  let (root, state) ← Compose.document { scanner := { cursor } }
  return root.map fun root => { root, anchored := state.anchored, size := 4 * cursor.limit }

end Tabulation.Yaml
