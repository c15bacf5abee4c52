/-
Putting drafts together. The drafts that are not yet joined wait on a stack, with markers for open
groups and for the bars between alternatives. Alternatives that start alike are joined behind their
common start.

A node that is no longer needed is used again for the next one. How many nodes were made decides when
sizes and heights begin to be noted, and a pattern that is too large or too deep is refused.
-/

import Tabulation.Pattern.Draft

namespace Tabulation.Pattern

/-- What can be wrong with the text of a pattern. -/
inductive Fault where
  | charRange
  | escape
  | namedGroup
  | groupFlags
  | nestedRepeat
  | repeatCount
  | missingBracket
  | missingParen
  | missingOperand
  | trailingBackslash
  | unexpectedParen
  | strayByte
  | tooDeep
  | tooLarge
deriving Repr, DecidableEq

def maxSize : Nat := 3355443

def maxHeight : Nat := 1000

/-- The largest number of bounds of all sets together. -/
def maxBounds : Nat := 33554432

/-- The drafts that wait, the last one first, and the current options. `spare` has one entry for
every node that can be used again: the size that is still noted of it. `made` counts the nodes and
`bounds` the bounds of all that were pushed; `repeats` is the product of all counts. -/
structure Builder where
  stack : List Draft := []
  flags : Flags := {}
  spare : List (Option Nat) := []
  made : Nat := 0
  bounds : Nat := 0
  repeats : Nat := 1
  notesSizes : Bool := false
  notesHeights : Bool := false

abbrev Build := StateT Builder (Except Fault)

namespace Build

/-! ### Nodes -/

def node (form : Form) (flags : Flags := {}) (parts : List Draft := []) : Build Draft := do
  let builder ← get
  match builder.spare with
  | size? :: spare => do
    set { builder with spare }
    return { form, flags, parts, size? }
  | [] => do
    set { builder with made := builder.made + 1 }
    return { form, flags, parts }

/-- Gives a node back to be used again. -/
def giveBack (draft : Draft) : Build Unit :=
  modify fun builder => { builder with spare := draft.size? :: builder.spare }

/-! ### Limits -/

def refuseLarge (draft : Draft) : Build Unit :=
  if maxSize < draft.size?.getD 0 then throw .tooLarge else return ()

def refuseDeep (draft : Draft) : Build Unit :=
  if maxHeight < draft.height?.getD 0 then throw .tooDeep else return ()

def countFactor (draft : Draft) : Nat :=
  match draft.form with
  | .counted least most => max 1 (most.getD least)
  | _ => 1

/-- Whether sizes have to be noted from now on: not as long as few nodes and small counts cannot
make a large pattern. -/
def beginSizes (draft : Draft) : Build Bool := do
  let builder ← get
  let factor := countFactor draft
  let repeats :=
    if factor == 1 then builder.repeats
    else if maxSize / builder.repeats < factor then maxSize
    else builder.repeats * factor
  set { builder with repeats }
  return Nat.ble (maxSize / repeats) builder.made

/-- Notes the size of a node, when sizes are noted. -/
def sized (draft : Draft) : Build Draft := do
  if !(← get).notesSizes then
    if ← beginSizes draft then do
      let builder ← get
      let stack := builder.stack.map Draft.noteSize
      set { builder with stack, notesSizes := true }
      stack.forM refuseLarge
  if (← get).notesSizes then do
    let draft := draft.noteSize
    refuseLarge draft
    return draft
  else return draft

/-- Notes the height of a node, when heights are noted. -/
def heighted (draft : Draft) : Build Draft := do
  if (← get).made < maxHeight then return draft
  else do
    if !(← get).notesHeights then do
      let builder ← get
      let stack := builder.stack.map Draft.noteHeight
      set { builder with stack, notesHeights := true }
      stack.forM refuseDeep
    let draft := draft.noteHeight
    refuseDeep draft
    return draft

/-- Refuses a node that goes beyond a limit. -/
def limited (draft : Draft) : Build Draft := do
  if maxBounds < (← get).bounds then throw .tooLarge
  heighted (← sized draft)

/-! ### The stack -/

/-- Joins the two topmost drafts when both are literals. The node of the upper one becomes a literal
for `next`, and stays on the stack, if there is one. Says whether `next` is on the stack. -/
def joinLiterals (next : Option (Nat × Flags)) : Build Bool := do
  let builder ← get
  match builder.stack with
  | upper :: lower :: rest =>
    match upper.form, lower.form with
    | .literal new, .literal old =>
      if upper.flags.ignoreCase != lower.flags.ignoreCase then return false
      else
        let lower := { lower with form := .literal (new ++ old) }
        match next with
        | some (code, flags) => do
          set { builder with stack := { upper with form := .literal [code], flags } :: lower :: rest }
          return true
        | none => do
          set { builder with stack := lower :: rest }
          giveBack upper
          return false
    | _, _ => return false
  | _ => return false

def place (draft : Draft) : Build Unit := do
  let draft ← limited draft
  modify fun builder => { builder with stack := draft :: builder.stack }

/-- Puts a set on the stack as the literal of one code, after the literals before it. -/
def placeCode (draft : Draft) (code : Nat) (ignoreCase : Bool) : Build Unit := do
  let flags := { (← get).flags with ignoreCase }
  if ← joinLiterals (some (code, flags)) then return ()
  else place { draft with form := .literal [code], flags }

/-- Puts a draft on the stack. A set of one character, or of the two cases of one, is a literal. -/
def push (draft : Draft) : Build Unit := do
  modify fun builder => { builder with bounds := builder.bounds + draft.form.bounds }
  match draft.form with
  | .set [members] =>
    match members.only?, members.casePair? with
    | some code, _ => placeCode draft code false
    | none, some code => placeCode draft code true
    | none, none => do
      let _ ← joinLiterals none
      place draft
  | _ => do
    let _ ← joinLiterals none
    place draft

def pushNode (form : Form) : Build Unit := do
  push (← node form (← get).flags)

/-- Puts the literal of one character on the stack. When case is ignored, the least of the
characters that are equal to it stands for all of them. -/
def pushCode (code : Nat) : Build Unit := do
  let least := if (← get).flags.ignoreCase then (Text.Fold.orbit code).foldl min code else code
  pushNode (.literal [least])

/-- Takes the drafts above the topmost marker from the stack, the first one first. -/
def takeAbove : Build (List Draft) := do
  let builder ← get
  let above := builder.stack.takeWhile fun draft => !draft.form.isMarker
  set { builder with stack := builder.stack.drop above.length }
  return above.reverse

/-! ### Joining -/

/-- The parts of some drafts as the parts of one node: nodes of the same form give theirs. -/
def flattened (form : Form) : List Draft → Build (List Draft)
  | [] => return []
  | draft :: rest => do
    if draft.form == form then do
      giveBack draft
      return draft.parts ++ (← flattened form rest)
    else return draft :: (← flattened form rest)

def inSequence (drafts : List Draft) : Build Draft := do
  match drafts with
  | [draft] => return draft
  | _ => do
    let joined ← node .sequence
    return { joined with parts := ← flattened .sequence drafts }

/-! ### Alternatives that start alike -/

/-- Groups a list into runs: an element goes on with a run if `extend` says how. -/
def runsBy {α ρ : Type} (start : α → ρ) (extend : ρ → α → Option ρ) : List α → List ρ
  | [] => []
  | first :: rest => go (start first) rest
where
  /-- Goes on with a run. -/
  go (run : ρ) : List α → List ρ
    | [] => [run]
    | next :: rest =>
      match extend run next with
      | some run => go run rest
      | none => run :: go (start next) rest

def commonStart : List Nat → List Nat → List Nat
  | a :: as, b :: bs => if a = b then a :: commonStart as bs else []
  | _, _ => []

/-- Alternatives that start with the same codes, the last one first. -/
structure LiteralRun where
  codes : List Nat
  ignoreCase : Bool
  members : List Draft

def LiteralRun.start (draft : Draft) : LiteralRun :=
  ⟨draft.leadingCodes.1, draft.leadingCodes.2, [draft]⟩

/-- The run with a further alternative, if at least one code is common to all. -/
def LiteralRun.extend (run : LiteralRun) (draft : Draft) : Option LiteralRun :=
  let (codes, ignoreCase) := draft.leadingCodes
  let common := commonStart run.codes codes
  if ignoreCase == run.ignoreCase && !common.isEmpty then
    some { run with codes := common, members := draft :: run.members }
  else none

/-- Takes the first codes away from a draft that starts with them. -/
def removeCodes (count : Nat) (draft : Draft) : Build Draft := do
  match draft.form, draft.parts with
  | .sequence, first :: rest =>
    let first := first.withoutCodes count
    if first.form == .empty then do
      giveBack first
      match rest with
      | [last] => do
        giveBack draft
        return last
      | _ => return { draft with parts := rest }
    else return { draft with parts := first :: rest }
  | _, _ => return draft.withoutCodes count

/-- A run as one alternative. `choose` joins what follows the common codes. -/
def joinLiteralRun (choose : List Draft → Build Draft) (run : LiteralRun) : Build Draft := do
  match run.members with
  | [draft] => return draft
  | members => do
    let first ← node (.literal run.codes.reverse) { ignoreCase := run.ignoreCase }
    let rests ← members.reverse.mapM fun draft => do
      limited (← removeCodes run.codes.length draft)
    let rest ← choose rests
    node .sequence {} [first, rest]

/-- Alternatives that start with the same node, the last one first. -/
structure NodeRun where
  leading? : Option Draft
  members : List Draft

def NodeRun.start (draft : Draft) : NodeRun := ⟨draft.leading?, [draft]⟩

/-- The run with a further alternative, if it starts with the same characters. -/
def NodeRun.extend (run : NodeRun) (draft : Draft) : Option NodeRun :=
  match run.leading?, draft.leading? with
  | some first, some other =>
    if first.isSameStart other then some { run with members := draft :: run.members } else none
  | _, _ => none

/-- Takes the first node away from a draft, and gives it back if it is not kept. -/
def removeLeading (kept : Bool) (draft : Draft) : Build Draft := do
  match draft.form, draft.parts with
  | .sequence, first :: rest => do
    if !kept then giveBack first
    match rest with
    | [] => return { draft with form := .empty, parts := [] }
    | [last] => do
      giveBack draft
      return last
    | _ => return { draft with parts := rest }
  | _, _ => do
    if !kept then giveBack draft
    node .empty

/-- A run as one alternative. `choose` joins what follows the common node. -/
def joinNodeRun (choose : List Draft → Build Draft) (run : NodeRun) : Build Draft := do
  match run.members.reverse, run.leading? with
  | first :: second :: others, some leading => do
    let firstRest ← limited (← removeLeading true first)
    let rests ← (second :: others).mapM fun draft => do
      limited (← removeLeading false draft)
    let rest ← choose (firstRest :: rests)
    node .sequence {} [leading, rest]
  | draft :: _, _ => return draft
  | [], _ => node .empty

/-- Whether one node takes in another when both take one character. -/
def isBelow (a b : Draft) : Bool :=
  Nat.blt a.form.rank b.form.rank ||
    (a.form.rank == b.form.rank && Nat.blt a.form.bounds b.form.bounds)

/-- Takes the first of the highest nodes to the front, in exchange with the one there. -/
def highestFirst (drafts : List Draft) : List Draft :=
  match drafts with
  | [] => []
  | first :: rest =>
    let best := rest.zipIdx.foldl
      (fun (best : Draft × Nat) (entry : Draft × Nat) =>
        if isBelow best.1 entry.1 then (entry.1, entry.2 + 1) else best)
      (first, 0)
    if best.2 == 0 then drafts else best.1 :: rest.set (best.2 - 1) first

/-- Alternatives next to each other that take one character are one set. -/
def joinChars (run : List Draft) : Build Draft := do
  match highestFirst run.reverse with
  | [] => node .empty
  | [draft] => return draft
  | draft :: others => do
    others.forM giveBack
    return (draft.absorbing others).cleaned

/-- The run with a further alternative, if both it and the last one take one character. -/
def extendChars (run : List Draft) (draft : Draft) : Option (List Draft) :=
  if draft.form.isOneChar && run.head?.any fun last => last.form.isOneChar then some (draft :: run)
  else none

/-- Alternatives without empty ones before empty ones. -/
def withoutDoubleEmpty : List Draft → List Draft
  | a :: b :: rest =>
    if a.form == .empty && b.form == .empty then withoutDoubleEmpty (b :: rest)
    else a :: withoutDoubleEmpty (b :: rest)
  | drafts => drafts

/-- Alternatives with their common starts taken out. -/
def factored (choose : List Draft → Build Draft) (drafts : List Draft) : Build (List Draft) := do
  match drafts with
  | _ :: _ :: _ => do
    let drafts ← (runsBy LiteralRun.start LiteralRun.extend drafts).mapM (joinLiteralRun choose)
    let drafts ← (runsBy NodeRun.start NodeRun.extend drafts).mapM (joinNodeRun choose)
    let drafts ← (runsBy (fun draft => [draft]) extendChars drafts).mapM joinChars
    return withoutDoubleEmpty drafts
  | _ => return drafts

/-- A choice between drafts. Taking out a common start leaves less to take out, so the size of the
pattern bounds the depth `fuel`. -/
def choiceOf : Nat → List Draft → Build Draft
  | _, [draft] => return draft
  | 0, drafts => node .choice {} drafts
  | fuel + 1, drafts => do
    let joined ← node .choice
    let parts ← factored (choiceOf fuel) (← flattened .choice drafts)
    match parts with
    | [draft] => do
      giveBack joined
      return draft
    | _ => return { joined with parts }

/-! ### Constructs -/

def closeSequence : Build Unit := do
  let _ ← joinLiterals none
  match ← takeAbove with
  | [] => do push (← node .empty)
  | drafts => do push (← inSequence drafts)

def closeChoice (limit : Nat) : Build Unit := do
  let drafts ← takeAbove
  let drafts := drafts.dropLast ++ (drafts.getLast?.map Draft.cleaned).toList
  push (← choiceOf limit drafts)

/-- Puts the topmost draft below the bar under it, and says whether there is a bar. Two alternatives
that take one character are one. -/
def passBar : Build Bool := do
  let builder ← get
  match builder.stack with
  | top :: bar :: rest =>
    if bar.form != .bar then return false
    else
      match rest with
      | last :: others =>
        if top.form.isOneChar && last.form.isOneChar then do
          let (low, high) :=
            if last.form.rank < top.form.rank then (last, top) else (top, last)
          set { builder with stack := bar :: high.absorbing [low] :: others }
          giveBack low
          return true
        else do
          set { builder with stack := bar :: top :: last.cleaned :: others }
          return true
      | [] => do
        set { builder with stack := [bar, top] }
        return true
  | _ => return false

def endAlternative : Build Unit := do
  closeSequence
  if !(← passBar) then pushNode .bar

/-- Ends the last alternative of a group. -/
def endAlternatives (limit : Nat) : Build Unit := do
  closeSequence
  if ← passBar then modify fun builder => { builder with stack := builder.stack.drop 1 }
  closeChoice limit

def openGroup (captures : Bool) : Build Unit := pushNode (.opening captures)

/-- Closes the innermost group, and goes back to the options before it. -/
def closeGroup (limit : Nat) : Build Unit := do
  endAlternatives limit
  let builder ← get
  match builder.stack with
  | body :: opening :: rest =>
    match opening.form with
    | .opening captures => do
      set { builder with stack := rest, flags := opening.flags }
      if captures then push { opening with form := .group, parts := [body] } else push body
    | _ => throw .unexpectedParen
  | _ => throw .unexpectedParen

/-- Repeats the topmost draft, if there is one, and gives the result. -/
def repeatTop (form : Form) (lazy : Bool) : Build (Option Draft) := do
  match (← get).stack with
  | top :: rest =>
    if top.form.isMarker then return none
    else do
      let flags := { (← get).flags with lazy }
      let draft ← node form flags [top]
      modify fun builder => { builder with stack := rest }
      let draft ← limited draft
      modify fun builder => { builder with stack := draft :: builder.stack }
      return some draft
  | [] => return none

/-- The draft of the whole pattern; a group that is still open is a fault. -/
def finish (limit : Nat) : Build Draft := do
  endAlternatives limit
  match (← get).stack with
  | [draft] => return draft
  | _ => throw .missingParen

end Build

end Tabulation.Pattern
