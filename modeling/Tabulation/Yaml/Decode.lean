/-
Reading documents into typed values. A node of the wrong kind is a mismatch: it is noted, and the
value stays as it was. Reading fails at once on a tag that cannot be met.
-/

import Tabulation.Yaml.Value
import Tabulation.Text.Bytes
import Tabulation.Text.Duration

namespace Tabulation.Yaml

open Tabulation.Text (Duration)

/-- Why a text could not be read. -/
inductive ReadError where
  | malformed
  | mismatch
deriving Repr, DecidableEq

/-- The state of reading: the nodes with anchors, a bound of the number of nodes in the document,
whether a mismatch was met, how many nodes were read, how many of them inside aliases, and the aliases
that are being read. -/
structure Progress where
  anchored : Array Node := #[]
  size : Nat := 0
  mismatched : Bool := false
  nodes : Nat := 0
  aliasedNodes : Nat := 0
  active : List Nat := []

abbrev Decode := StateT Progress Option

namespace Progress

/-- Whether too many of the nodes that were read come from aliases: of a small document nearly all
may, of a large one a tenth. -/
def isExcessive (progress : Progress) : Bool :=
  let n := progress.nodes
  let aliased := progress.aliasedNodes
  Nat.blt 100 aliased && Nat.blt 1000 n &&
    if n ≤ 400000 then Nat.blt (99 * n) (100 * aliased)
    else if 4000000 ≤ n then Nat.blt n (10 * aliased)
    else Nat.blt (n * (356400000 - 89 * (n - 400000))) (360000000 * aliased)

def count (progress : Progress) : Progress :=
  { progress with
    nodes := progress.nodes + 1
    aliasedNodes := progress.aliasedNodes + (if progress.active.isEmpty then 0 else 1) }

end Progress

namespace Decode

def fail {α : Type} : Decode α := fun _ => none

def mismatch : Decode Unit := modify fun progress => { progress with mismatched := true }

/-- Notes a mismatch, and gives no value. -/
def missed {α : Type} : Decode (Option α) := do
  mismatch
  return none

/-- Counts a node, and gives up when there is too much aliasing. -/
def count : Decode Unit := do
  modify Progress.count
  if (← get).isExcessive then fail

def scalarValue (tag text : String) : Decode Value :=
  if tag == Node.stringTag then return .text text
  else if tag == "!!binary" then
    match base64? text.toList with
    | some bytes => return .text (Text.ofBytes bytes)
    | none => fail
  else if !asksForValue tag then return .text text
  else if tag == timestampTag then (if isTimestamp text.toList then return .text text else fail)
  else
    let value := plainValue text
    if tag == "" || value.tag == tag then return value
    else
      match value with
      | .int number =>
        if tag == "!!float" && number < 9223372036854775808 then return .float (Float.ofInt number)
        else fail
      | _ => fail

/-- How a value of a type is read from a node: `none` leaves the old value. -/
abbrev Reader (α : Type) := Node → Decode (Option α)

/-- Reads a node, or the node that an alias names. An alias must not be met again while its node is
being read. -/
def visit {α : Type} (read : Reader α) : Reader α := fun node => do
  count
  match node with
  | .alias number _ place => do
    let progress ← get
    if progress.active.contains number then fail
    set { progress with active := number :: progress.active }
    count
    let result ← read ((progress.anchored[place]?).getD Node.blank)
    modify fun after => { after with active := progress.active }
    return result
  | node => read node

/-- Reads a scalar; other nodes are mismatches. -/
def scalar {α : Type} (read : String → String → Value → Decode (Option α)) : Reader α :=
  visit fun node =>
    match node with
    | .scalar tag text => do
      match ← scalarValue tag text with
      | .null => return none
      | value => read tag text value
    | _ => missed

/-- Reads a string: the text of any scalar. -/
def string : Reader String :=
  scalar fun tag text value =>
    match value with
    | .text decoded => return some (if tag == "!!binary" then decoded else text)
    | _ => return some text

/-- The whole number next to zero from a float; far negative numbers stop at the least one. -/
def truncated? (value : Float) : Option Int :=
  if value ≤ 9223372036854775808.0 then
    if value < 9223372036854775808.0 && value > -9223372036854775808.0 then
      let amount : Int := value.abs.toUInt64.toNat
      some (if value < 0.0 then -amount else amount)
    else some (-9223372036854775808)
  else none

/-- Reads an integer of 64 bits; a float loses its fraction. -/
def int : Reader Int :=
  scalar fun _ _ value =>
    match value with
    | .int number => if number < 9223372036854775808 then return some number else missed
    | .float number =>
      match truncated? number with
      | some whole => return some whole
      | none => missed
    | _ => missed

/-- Reads a truth value; the words of older versions of the format count too. -/
def bool : Reader Bool :=
  scalar fun _ _ value =>
    match value with
    | .bool truth => return some truth
    | .text text =>
      if ["y", "Y", "yes", "Yes", "YES", "on", "On", "ON"].contains text then return some true
      else if ["n", "N", "no", "No", "NO", "off", "Off", "OFF"].contains text then return some false
      else missed
    | _ => missed

def duration : Reader Duration :=
  scalar fun _ _ value =>
    match value with
    | .text text =>
      match Duration.parse? text with
      | some duration => return some duration
      | none => missed
    | _ => missed

/-- Reads a list; items that leave no value are dropped, and null is the empty list. -/
def list {α : Type} (item : Reader α) : Reader (List α) :=
  visit fun node =>
    match node with
    | .sequence items => do
      let values ← items.mapM item
      return some (values.filterMap id)
    | .scalar tag text => do
      match ← scalarValue tag text with
      | .null => return some []
      | _ => missed
    | _ => missed

/-- How the fields of a record are read: the effect of a key with its value on the record; `none`
for a key without a field. -/
abbrev Fields (ρ : Type) := String → Option (Node → ρ → Decode ρ)

def field {ρ α : Type} (read : Reader α) (set : ρ → α → ρ) (node : Node) (record : ρ) : Decode ρ := do
  match ← read node with
  | some value => return set record value
  | none => return record

def hasDuplicate : List (Node × Node) → Bool
  | [] => false
  | (key, _) :: rest => rest.any (fun pair => key.sameKey pair.1) || hasDuplicate rest

/-- The names of the keys of a mapping that are scalars. A collection cannot be among the keys of a
mapping into which others are merged. -/
def keyNames (entries : List (Node × Node)) : Decode (List String) := do
  let names ← entries.mapM fun entry => do
    visit (fun node =>
      match node with
      | .scalar tag text => do
        match ← scalarValue tag text with
        | .text name => return some name
        | _ => return none
      | _ => fail) entry.1
  return names.filterMap id

/-- The state while the pairs of a mapping are read: the record, the keys already taken while
mappings are merged, the fields that were set, and the merge key's value. -/
structure Entries (ρ : Type) where
  record : ρ
  taken : Option (List String)
  done : List String := []
  source : Option Node := none

/-- Reads one pair of a mapping into a record. A field can be set only once. -/
def pair {ρ : Type} (fields : Fields ρ) (state : Entries ρ) (entry : Node × Node) :
    Decode (Entries ρ) := do
  if entry.1.isMerge then return { state with source := some entry.2 }
  match ← string entry.1 with
  | none => return state
  | some name =>
    if state.taken.any (·.contains name) then return state
    let state := { state with taken := state.taken.map (name :: ·) }
    match fields name with
    | none => return state
    | some read =>
      if state.done.contains name then
        mismatch
        return state
      let record ← read entry.2 state.record
      return { state with record, done := name :: state.done }

/-- The nodes that a merge key brings in. -/
def mergeSources : Node → List Node
  | .sequence items => items
  | node => [node]

/-- Whether a node that is merged is a mapping, perhaps behind an alias. -/
def isMergeable (node : Node) : Decode Bool := do
  match node with
  | .alias _ _ place => return ((← get).anchored[place]?).any Node.isMapping
  | node => return node.isMapping

/-- Reads the pairs of a mapping into a record, then those of the mappings merged into it. A key
that was taken before does not count again. `fuel` bounds the depth of merging. -/
def pairs {ρ : Type} (fields : Fields ρ) :
    Nat → Option (List String) → List (Node × Node) → ρ → Decode (ρ × Option (List String))
  | 0, _, _, _ => fail
  | fuel + 1, taken, entries, record => do
    if hasDuplicate entries then
      mismatch
      return (record, taken)
    let state ← entries.foldlM (pair fields) { record, taken }
    match state.source with
    | none => return (state.record, state.taken)
    | some source =>
      let keys ←
        match state.taken with
        | some keys => pure keys
        | none => keyNames entries
      let (merged, keys) ← (mergeSources source).foldlM
        (fun (acc : ρ × List String) node => do
          if !(← isMergeable node) then fail
          let result ← visit (fun node =>
            match node with
            | .mapping inner => do
              let (record, taken) ← pairs fields fuel (some acc.2) inner acc.1
              return some (record, taken.getD acc.2)
            | _ => fail) node
          return result.getD acc)
        (state.record, keys)
      return (merged, taken.map fun _ => keys)

/-- Reads a record, starting from a given one. Null leaves it as it is. -/
def record {ρ : Type} (fields : Fields ρ) (start : ρ) : Reader ρ :=
  visit fun node =>
    match node with
    | .mapping entries => do
      if hasDuplicate entries then missed
      else
        let size := (← get).size + 2
        return some (← pairs fields (size * size) none entries start).1
    | .scalar tag text => do
      match ← scalarValue tag text with
      | .null => return none
      | _ => missed
    | _ => missed

end Decode

/-- Reads a document as a record, starting from a given one. -/
def Document.decode {ρ : Type} (fields : Decode.Fields ρ) (start : ρ) (document : Document) :
    Except ReadError ρ :=
  let progress : Progress := { anchored := document.anchored, size := document.size, nodes := 1 }
  match Decode.record fields start document.root progress with
  | none => .error .malformed
  | some (value, progress) =>
    if progress.mismatched then .error .mismatch else .ok (value.getD start)

/-- Reads the first document of a text as a record; an empty text leaves the record as it is. -/
def read {ρ : Type} (fields : Decode.Fields ρ) (start : ρ) (text : Text.Bytes) :
    Except ReadError ρ :=
  match parse text with
  | none => .error .malformed
  | some none => .ok start
  | some (some document) => document.decode fields start

end Tabulation.Yaml
