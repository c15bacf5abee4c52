/-
The flags of the command line. A flag has a long name and maybe a short one of one character; a
switch needs no value. Flags and other arguments may be mixed; two dashes end the flags.
-/

import Tabulation.Text.Fields
import Tabulation.Text.Quoted

namespace Tabulation.Cli

inductive Flag where
  | config
  | verbose
  | noColor
  | out
  | failOnFindings
  | entry
  | platform
  | tests
  | help
  | version
deriving Repr, DecidableEq

namespace Flag

def name : Flag → String
  | .config => "config"
  | .verbose => "verbose"
  | .noColor => "no-color"
  | .out => "out"
  | .failOnFindings => "fail-on-findings"
  | .entry => "entry"
  | .platform => "platform"
  | .tests => "tests"
  | .help => "help"
  | .version => "version"

def short? : Flag → Option Char
  | .config => some 'c'
  | .verbose => some 'v'
  | .out => some 'o'
  | .entry => some 'e'
  | .help => some 'h'
  | _ => none

/-- Whether the flag can stand without a value. -/
def isSwitch : Flag → Bool
  | .verbose | .noColor | .failOnFindings | .tests | .help | .version => true
  | .config | .out | .entry | .platform => false

/-- The flag with its names, as messages show it. -/
def shown (flag : Flag) : String :=
  match flag.short? with
  | some c => "-" ++ String.singleton c ++ ", --" ++ flag.name
  | none => "--" ++ flag.name

def common : List Flag := [.config, .verbose, .noColor, .out, .failOnFindings]

def named? (known : List Flag) (name : String) : Option Flag :=
  known.find? fun flag => flag.name == name

def shortNamed? (known : List Flag) (c : Char) : Option Flag :=
  known.find? fun flag => flag.short? == some c

end Flag

/-- What can be wrong with the value of a flag. -/
inductive ValueFault where
  | notBool (text : String)
  | notFields (cause : Text.FieldsError)
deriving Repr, DecidableEq

def ValueFault.message : ValueFault → String
  | .notBool text => "strconv.ParseBool: parsing " ++ Text.quoted text ++ ": invalid syntax"
  | .notFields cause => cause.message

/-- What can be wrong with a command line. -/
inductive UsageError where
  | unknownCommand (name : String) (suggestions : List String)
  | unknownFlag (name : String)
  /-- A character that is no short name, with the characters from there on. -/
  | unknownShort (c : Char) (characters : String)
  | badSyntax (argument : String)
  | missingValue (name : String)
  | missingShortValue (c : Char) (characters : String)
  | invalidValue (value : String) (flag : Flag) (fault : ValueFault)
  | argumentCount (count : Nat)
  | tooFewArguments (count : Nat)
deriving Repr, DecidableEq

def quotedShort (c : Char) : String :=
  let shown := if c == '\'' then "\\'" else if c == '"' then "\"" else Text.quotedChar c
  "'" ++ shown ++ "'"

/-- The character that stands for one that is no short name. What is beyond the first code page
shows as the lead byte of its written form does. -/
def shownShort (c : Char) : Char := if Nat.blt c.toNat 128 then c else Char.ofNat 0xC3

def UsageError.message : UsageError → String
  | .unknownCommand name suggestions =>
    "unknown command " ++ Text.quoted name ++ " for \"ifds\"" ++
      (if suggestions.isEmpty then ""
        else "\n\nDid you mean this?\n" ++ String.join (suggestions.map fun s => "\t" ++ s ++ "\n"))
  | .unknownFlag name => "unknown flag: --" ++ name
  | .unknownShort c characters =>
    "unknown shorthand flag: " ++ quotedShort (shownShort c) ++ " in -" ++ characters
  | .badSyntax argument => "bad flag syntax: " ++ argument
  | .missingValue name => "flag needs an argument: --" ++ name
  | .missingShortValue c characters => "flag needs an argument: " ++ quotedShort c ++ " in -" ++ characters
  | .invalidValue value flag fault =>
    "invalid argument " ++ Text.quoted value ++ " for " ++ Text.quoted flag.shown ++ " flag: " ++ fault.message
  | .argumentCount count => "accepts 1 arg(s), received " ++ toString count
  | .tooFewArguments count => "requires at least 1 arg(s), only received " ++ toString count

/-- What the flags were set to. -/
structure Settings where
  config : String := ""
  verbose : Bool := false
  noColor : Bool := false
  out : String := ""
  failOnFindings : Bool := false
  entries : List String := []
  platform : String := ""
  tests : Bool := false
  help : Bool := false
  version : Bool := false
deriving Repr, DecidableEq

def truth? (text : String) : Option Bool :=
  if ["1", "t", "T", "TRUE", "true", "True"].contains text then some true
  else if ["0", "f", "F", "FALSE", "false", "False"].contains text then some false
  else none

namespace Settings

/-- Turns a switch on or off. Flags with other values are not changed. -/
def turn (s : Settings) (flag : Flag) (value : Bool) : Settings :=
  match flag with
  | .verbose => { s with verbose := value }
  | .noColor => { s with noColor := value }
  | .failOnFindings => { s with failOnFindings := value }
  | .tests => { s with tests := value }
  | .help => { s with help := value }
  | .version => { s with version := value }
  | .config | .out | .entry | .platform => s

/-- Adds entries, which are separated by commas. -/
def addEntries (s : Settings) (value : String) : Except UsageError Settings :=
  if value == "" then .ok s
  else
    match Text.firstRecord (Text.bytesOf value) with
    | .ok fields => .ok { s with entries := s.entries ++ fields.map Text.ofBytes }
    | .error cause => .error (.invalidValue value .entry (.notFields cause))

def set (s : Settings) (flag : Flag) (value : String) : Except UsageError Settings :=
  match flag with
  | .config => .ok { s with config := value }
  | .out => .ok { s with out := value }
  | .platform => .ok { s with platform := value }
  | .entry => s.addEntries value
  | switch =>
    match truth? value with
    | some on => .ok (s.turn switch on)
    | none => .error (.invalidValue value switch (.notBool value))

end Settings

/-! ### One argument -/

/-- What comes of an argument with flags: it is all said, or the next argument is the value of a
flag. The error is the one to report if there is no next argument. -/
inductive FlagReading where
  | complete (settings : Settings)
  | needsValue (settings : Settings) (flag : Flag) (otherwise : UsageError)

/-- A text up to the first equals sign, and what follows the sign if there is one. -/
def splitAtEquals (text : String) : String × Option String :=
  match text.splitOn "=" with
  | name :: value :: more => (name, some ("=".intercalate (value :: more)))
  | _ => (text, none)

def readLong (known : List Flag) (s : Settings) (argument : String) : Except UsageError FlagReading :=
  let body := (argument.drop 2).toString
  if body.startsWith "-" || body.startsWith "=" then .error (.badSyntax argument)
  else
    let (name, value?) := splitAtEquals body
    match Flag.named? known name, value? with
    | none, _ => .error (.unknownFlag name)
    | some flag, some value => (s.set flag value).map .complete
    | some flag, none =>
      if flag.isSwitch then .ok (.complete (s.turn flag true))
      else .ok (.needsValue s flag (.missingValue name))

/-- The value that stands behind a short name: after an equals sign, or right away if the flag is no
switch. -/
def shortValue? (flag : Flag) (behind : List Char) : Option String :=
  match behind with
  | '=' :: c :: more => some (String.ofList (c :: more))
  | c :: more => if flag.isSwitch then none else some (String.ofList (c :: more))
  | [] => none

/-- Whether short names belong to a test tool, which takes care of them. -/
def isForTests (characters : List Char) : Bool := (String.ofList characters).startsWith "test."

def readShort (known : List Flag) : Settings → List Char → Except UsageError FlagReading
  | s, [] => .ok (.complete s)
  | s, c :: behind =>
    if isForTests (c :: behind) then .ok (.complete s)
    else
      match Flag.shortNamed? known c with
      | none => .error (.unknownShort c (String.ofList (c :: behind)))
      | some flag =>
        match shortValue? flag behind with
        | some value => (s.set flag value).map .complete
        | none =>
          if flag.isSwitch then readShort known (s.turn flag true) behind
          else .ok (.needsValue s flag (.missingShortValue c (String.ofList (c :: behind))))

/-! ### All arguments -/

/-- Whether an argument is no flag. -/
def isOperand (argument : String) : Bool := !argument.startsWith "-" || argument == "-"

def readFlags (known : List Flag) (s : Settings) (argument : String) : Except UsageError FlagReading :=
  if argument.startsWith "--" then readLong known s argument
  else readShort known s (argument.drop 1).toString.toList

/-- Reads all arguments. The result has those that are no flags. -/
def readArguments (known : List Flag) :
    Settings → List String → Except UsageError (Settings × List String)
  | s, [] => .ok (s, [])
  | s, "--" :: rest => .ok (s, rest)
  | s, argument :: rest =>
    if isOperand argument then do
      let (s, operands) ← readArguments known s rest
      return (s, argument :: operands)
    else
      match readFlags known s argument, rest with
      | .error error, _ => .error error
      | .ok (.complete s), rest => readArguments known s rest
      | .ok (.needsValue _ _ otherwise), [] => .error otherwise
      | .ok (.needsValue s flag _), value :: rest => do readArguments known (← s.set flag value) rest

end Tabulation.Cli
