/-
The commands of the tool. The command is the first argument that is neither a flag nor the value of
one; at this point a flag that is not known counts as one with a value.
-/

import Tabulation.Cli.Flags
import Tabulation.Text.Lower

namespace Tabulation.Cli

inductive Command where
  | taint
  | deadStore
  | nullness
  /-- Taint analysis of packages. -/
  | packages
  | stats
  | help
  | completion
deriving Repr, DecidableEq

namespace Command

def name : Command → String
  | .taint => "taint"
  | .deadStore => "deadstore"
  | .nullness => "nullness"
  | .packages => "go"
  | .stats => "stats"
  | .help => "help"
  | .completion => "completion"

def aliases : Command → List String
  | .deadStore => ["dead-store"]
  | .nullness => ["npe"]
  | _ => []

def all : List Command := [.taint, .deadStore, .nullness, .packages, .stats, .help, .completion]

def named? (name : String) : Option Command :=
  all.find? fun command => command.name == name || command.aliases.contains name

def flags : Command → List Flag
  | .taint | .deadStore | .nullness => Flag.common ++ [.entry, .help]
  | .packages => Flag.common ++ [.entry, .platform, .tests, .help]
  | .stats | .help | .completion => Flag.common ++ [.help]

/-- The flags of the tool without a command. -/
def rootFlags : List Flag := Flag.common ++ [.help, .version]

/-! ### Finding the command -/

def takesNext (known : List Flag) (argument : String) : Bool :=
  let isSwitch := fun (flag : Option Flag) => flag.any Flag.isSwitch
  argument.startsWith "-" && !argument.toList.contains '=' &&
    match argument.toList with
    | '-' :: '-' :: name => !isSwitch (Flag.named? known (String.ofList name))
    | ['-', c] => Nat.blt c.toNat 128 && !isSwitch (Flag.shortNamed? known c)
    | _ => false

/-- The arguments that are neither flags nor values of flags. A flag with a value ends them if at
most one argument follows it. -/
def operands (known : List Flag) : List String → List String
  | [] => []
  | argument :: rest =>
    if argument == "--" then []
    else if takesNext known argument then
      match rest with
      | _ :: next :: more => operands known (next :: more)
      | _ => []
    else if argument != "" && !argument.startsWith "-" then argument :: operands known rest
    else operands known rest

/-- The arguments without the first operand that is a given text. -/
def without (known : List Flag) (text : String) : List String → List String
  | [] => []
  | argument :: rest =>
    if argument == "--" then argument :: rest
    else if takesNext known argument then
      match rest with
      | value :: more => argument :: value :: without known text more
      | [] => [argument]
    else if argument == text then rest
    else argument :: without known text rest

/-! ### Suggestions -/

/-- One more row of the table of distances: from the texts so far with one more element `a`. `left`
is the entry to the left of the new one, `row` the rest of the row above from there on. -/
def distanceRow {α : Type} [DecidableEq α] (a : α) : (left : Nat) → List α → (row : List Nat) → List Nat
  | left, b :: text, diagonal :: above :: row =>
    let entry := if a = b then diagonal else 1 + min left (min above diagonal)
    entry :: distanceRow a entry text (above :: row)
  | _, _, _ => []

/-- The number of elements to insert, delete or replace to turn one list into another. -/
def distance {α : Type} [DecidableEq α] (from_ to_ : List α) : Nat :=
  let rows := from_.foldl
    (fun (row : List Nat) a =>
      let first := row.head?.getD 0 + 1
      first :: distanceRow a first to_ row)
    (List.range (to_.length + 1))
  rows.getLast?.getD 0

/-- The names of commands that are close to a text: with at most two changes, or with the text as their
start. The case of letters does not matter. -/
def suggestions (text : String) : List String :=
  let typed := Text.lower text
  ([taint, deadStore, nullness, packages, stats, completion].map Command.name).filter fun name =>
    Nat.ble (distance (Text.bytesOf typed) (Text.bytesOf name)) 2 || name.startsWith typed

/-- The command of some arguments, if there is one, and the arguments without it. -/
def find (arguments : List String) : Except UsageError (Option Command × List String) :=
  match operands Flag.common arguments with
  | [] => .ok (none, arguments)
  | first :: _ =>
    match named? first with
    | some command => .ok (some command, without Flag.common first arguments)
    | none => .error (.unknownCommand first (suggestions first))

end Command

end Tabulation.Cli
