/-
How to use the tool, as it tells its user: a description of the command, the ways to write it, and tables of
commands and flags.
-/

import Tabulation.Cli.Command
import Tabulation.Text.Order

namespace Tabulation.Cli

/-! ### Tables -/

def padded (width : Nat) (text : String) : String :=
  text ++ String.ofList (List.replicate (width - text.length) ' ')

/-- A table of two columns, with the second one three blanks behind the widest text of the first. -/
def table (rows : List (String × String)) : String :=
  let width := rows.foldl (fun widest row => max widest row.1.length) 0
  "\n".intercalate (rows.map fun row => padded (width + 3) row.1 ++ row.2)

def titled (title body : String) : String := "\n\n" ++ title ++ ":\n" ++ body

/-! ### Flags -/

namespace Flag

/-- What the value of a flag is called; a switch has none. -/
def valueName : Flag → String
  | .config | .out | .platform => " string"
  | .entry => " strings"
  | _ => ""

/-- What a flag is for, on a command with the given name. -/
def purpose (command : String) : Flag → String
  | .config => "config file (default config if empty)"
  | .verbose => "verbose logging (overrides the log level of the config)"
  | .noColor => "disable colors in the output"
  | .out => "write the report to this file in the msgpack format"
  | .failOnFindings => "exit with an error if the analysis reports findings"
  | .entry =>
    if command == Command.packages.name then "full names of the entry functions, e.g. main.main"
    else "qualified names of the entry methods"
  | .platform => "GOOS of the analyzed program (the host's if empty)"
  | .tests => "also load the test packages"
  | .help => "help for " ++ command
  | .version => "version for " ++ command

def column (flag : Flag) : String :=
  (if flag.short?.isSome then "  " else "      ") ++ flag.shown ++ flag.valueName

def describe (command : String) (flags : List Flag) : String :=
  table ((Text.sortBy (fun a b => Text.textBefore a.name b.name) flags).map fun flag =>
    (flag.column, flag.purpose command))

end Flag

/-! ### Commands -/

def toolName : String := "ifds"

namespace Command

/-- What a command does, in a few words. -/
def summary : Command → String
  | .taint => "Runs the taint analysis on a program file"
  | .deadStore => "Reports the assignments whose value is never read"
  | .nullness => "Reports the calls whose receiver may be null"
  | .packages => "Runs the taint analysis on Go packages"
  | .stats => "Prints statistics about a program file"
  | .help => "Help about any command"
  | .completion => "Generate the autocompletion script for the specified shell"

def description : Command → String
  | .taint =>
    "Runs the taint analysis on a program file, or on a program file downloaded from a URL.\n" ++
      "The sources, sinks and sanitizers are the taint tracking problems of the config. Every method named\n" ++
      "main is an entry point unless --entry is set."
  | .deadStore =>
    "Runs the reaching-definitions analysis from the entry points, and reports the definitions\n" ++
      "that reach no statement reading their variable in the reachable methods."
  | .nullness =>
    "Runs the nullness analysis from the entry points. A variable assigned the \"null\" constant may be\n" ++
      "null until it is overwritten; it flows through assignments, arguments and returned values. A call on a\n" ++
      "receiver that may be null is reported."
  | .packages =>
    "Loads the Go packages matching the patterns, builds their SSA form and runs the taint analysis on\n" ++
      "the functions of those packages. The entry points are the main functions and the source functions,\n" ++
      "unless --entry is set. Calls on interfaces are resolved to every implementation in the program.\n" ++
      "A line commented with //ifds:ignore reports no finding."
  | .stats =>
    "Prints the sizes of a program file, the methods with loops, the recursive methods and the\n" ++
      "cycles of its call graph."
  | .help =>
    "Help provides help for any command in the application.\n" ++
      "Simply type " ++ toolName ++ " help [path to command] for full details."
  | .completion =>
    "Generate the autocompletion script for " ++ toolName ++ " for the specified shell.\n" ++
      "See each sub-command's help for details on how to use the generated script."

/-- What follows the name of the tool when a command is written. -/
def form : Command → String
  | .taint => "taint [flags] <program.yaml | url>"
  | .deadStore => "deadstore [flags] <program.yaml | url>"
  | .nullness => "nullness [flags] <program.yaml | url>"
  | .packages => "go [flags] <packages...>"
  | .stats => "stats [flags] <program.yaml | url>"
  | .help => "help [command] [flags]"
  | .completion => "completion [command]"

def example? : Command → Option String
  | .taint => some "  ifds taint -c config.yaml --entry app.Main.main program.yaml"
  | .packages => some "  ifds go -c config.yaml ./cmd/server"
  | _ => none

/-- The commands below a command, with what they do. -/
def below : Command → List (String × String)
  | .completion =>
    ["bash", "fish", "powershell", "zsh"].map fun shell =>
      (shell, "Generate the autocompletion script for " ++ shell)
  | _ => []

end Command

/-! ### Descriptions -/

def commandTable (commands : List (String × String)) : String :=
  "\n\nAvailable Commands:" ++
    String.join (commands.map fun row => "\n  " ++ padded 11 row.1 ++ " " ++ row.2)

/-- Where to read on about the commands below the tool or a command. -/
def readOn (path : String) : String :=
  "\n\nUse \"" ++ path ++ " [command] --help\" for more information about a command."

/-- How to use the tool, with some of its flags. -/
def usage (flags : List Flag) : String :=
  let commands := Text.sortBy (fun a b => Text.textBefore a.name b.name) Command.all
  "Usage:\n  " ++ toolName ++ " [command]" ++
    commandTable (commands.map fun command => (command.name, command.summary)) ++
    titled "Flags" (Flag.describe toolName flags) ++ readOn toolName ++ "\n"

def Command.usage (command : Command) : String :=
  let path := toolName ++ " " ++ command.name
  let own := command.flags.filter fun flag => !Flag.common.contains flag
  "Usage:\n  " ++ toolName ++ " " ++ command.form ++
    (if command.aliases.isEmpty then ""
      else titled "Aliases" ("  " ++ ", ".intercalate (command.name :: command.aliases))) ++
    (command.example?.elim "" (titled "Examples")) ++
    (if command.below.isEmpty then "" else commandTable command.below) ++
    titled "Flags" (Flag.describe command.name own) ++
    titled "Global Flags" (Flag.describe command.name Flag.common) ++
    (if command.below.isEmpty then "" else readOn path) ++ "\n"

def toolHelp : String :=
  "ifds runs interprocedural, finite, distributive, subset (IFDS) dataflow analyses.\n" ++
    "The analyses are solved by actors: each chunk of the program is owned by one actor, and the\n" ++
    "path edges of the analysis are exchanged as messages between them.\n\n" ++
    usage Command.rootFlags

def Command.helpText (command : Command) : String := command.description ++ "\n\n" ++ command.usage

/-- A text between backquotes, or quoted if it holds a backquote or what cannot be seen. -/
def backquoted (text : String) : String :=
  let isPlain := fun (c : Char) =>
    c == '\t' || !(c.toNat < 0x20 || c.toNat == 0x7F || c == '`' || c.toNat == 0xFEFF || Text.isStray c)
  if text.all isPlain then "`" ++ text ++ "`" else Text.quoted text

/-- The help for what some operands name: a command, or the tool if there are none. -/
def helpFor (operands : List String) : String :=
  match Command.operands Flag.common operands with
  | [] => toolHelp
  | name :: _ =>
    match Command.named? name with
    | some command => command.helpText
    | none =>
      "Unknown help topic [" ++ " ".intercalate (operands.map backquoted) ++ "]\n" ++ usage Flag.common

end Tabulation.Cli
