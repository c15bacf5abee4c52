/-
Running the tool: the command line is read, the configuration and the program are loaded, the
analysis runs and its report is written.
-/

import Tabulation.Analysis.DeadStore
import Tabulation.Analysis.Nullness
import Tabulation.Analysis.Taint
import Tabulation.Cli.Usage
import Tabulation.Report.File
import Tabulation.Solver.Trace

namespace Tabulation.Cli

open Tabulation.Text (Bytes bytesOf)

/-- Why the tool failed. -/
inductive CliError where
  | usage (cause : UsageError)
  | config (path : String) (cause : ConfigError)
  | program (cause : ProgramError)
  | entry (cause : Program.UnknownMethod)
  | noEntry
  | analysis (cause : AnalysisError)
  /-- The file for the report could not be made. -/
  | output (cause : FileError)
  | report (cause : ReportError)
  /-- There are findings, and this was to count as a failure. -/
  | findings (count : Nat)
  /-- The command cannot be run here. -/
  | unsupported (command : Command)
deriving Repr, DecidableEq

def CliError.message : CliError → String
  | .usage cause => cause.message
  | .config path cause => "could not load config " ++ Text.quoted path ++ ": " ++ cause.message
  | .program cause => "could not load program: " ++ cause.message
  | .entry cause => cause.message
  | .noEntry => "no entry point to analyze"
  | .analysis cause => cause.message
  | .output cause => "could not create report file: " ++ cause.message
  | .report cause => cause.message
  | .findings count => "the analysis reported findings: " ++ toString count ++ " findings"
  | .unsupported command => "the command " ++ command.name ++ " is not supported"

/-- What was written so far. -/
structure Console where
  output : Bytes := []
  log : Log := { level := 0 }
deriving Repr

/-- Running the tool over some access to files. -/
abbrev Run (m : Type → Type) := ExceptT CliError (StateT Console m)

namespace Run

variable {m : Type → Type} [Monad m]

def print (bytes : Bytes) : Run m Unit :=
  modify fun console => { console with output := console.output ++ bytes }

def log (severity : Severity) (text : String) : Run m Unit :=
  modify fun console => { console with log := console.log.write severity text }

/-- The result of an action, with its error as an error of the tool. -/
def attempt {ε α : Type} (error : ε → CliError) (action : m (Except ε α)) : Run m α := do
  match ← (action : m _) with
  | .ok value => return value
  | .error cause => throw (error cause)

/-- A result, with its error as an error of the tool. -/
def check {ε α : Type} (error : ε → CliError) (result : Except ε α) : Run m α :=
  attempt error (pure result)

end Run

variable {m : Type → Type} [Monad m]

/-- Loads the configuration and sets up the log. Warnings are shown even if the configuration silences
them. -/
def setup (files : Files m) (s : Settings) : Run m Config := do
  let config ←
    if s.config == "" then pure {}
    else Run.attempt (CliError.config s.config) (Config.load files s.config)
  let level := if s.verbose && !config.isVerbose then Severity.debug.rank else config.options.logLevel
  modify fun console => { console with log := { level } }
  return config

def loadProgram (files : Files m) (name : String) : Run m Program := do
  let p ← Run.attempt CliError.program (Program.load files name)
  Run.log .debug ("loaded " ++ toString p.classes.length ++ " classes from " ++ name)
  return p

def entries (p : Program) (s : Settings) : Run m (List MethodName) := do
  let methods ← Run.check CliError.entry (p.entryMethods s.entries)
  if methods.isEmpty then throw .noEntry
  return methods.map Method.id

def describe (v : Vertex Statement String) : String :=
  if v.fact == "" then v.statement.text else v.statement.text ++ " " ++ v.fact

/-- The report of an analysis of variables, with the traces of its findings in the order of their
steps. -/
def tracedReport (runner : String) (result : AnalysisResult String) : Report :=
  let data := result.data.sorted
  result.report runner fun finding =>
    finding.forReport ""
      (Text.sortBy Text.textsBefore ((data.tracesOf finding.vertex "").map fun trace => trace.map describe))

/-- Writes a report: to the output, to the file that was asked for, and to the directory of reports. -/
def emit (files : Files m) (s : Settings) (config : Config) (styles : Bool) (report : Report) :
    Run m Unit := do
  Run.print (report.text styles)
  if s.out != "" then
    Run.attempt CliError.output (files.write s.out report.pack)
    Run.log .info ("report written to " ++ s.out)
  if config.options.reportData then
    let path ← Run.attempt CliError.report (report.save files config.options.reportsDir)
    Run.log .info ("report saved in " ++ path)
  let count := (report.findings.getD []).length
  if s.failOnFindings && count != 0 then throw (.findings count)

def onlyOperand : List String → Run m String
  | [operand] => return operand
  | operands => throw (.usage (.argumentCount operands.length))

def runTaint (files : Files m) (s : Settings) (styles : Bool) (name : String) : Run m Unit := do
  let config ← setup files s
  if config.problems.isEmpty then
    Run.log .warn "no taint tracking problem in the config, the analysis cannot report findings"
  let p ← loadProgram files name
  let starts ← entries p s
  Run.log .info ("starting taint analysis from " ++ toString starts.length ++ " entry points")
  let result ← Run.check CliError.analysis (Taint.analyze p config starts)
  emit files s config styles (tracedReport Taint.runner result)

def runNullness (files : Files m) (s : Settings) (styles : Bool) (name : String) : Run m Unit := do
  let config ← setup files s
  let p ← loadProgram files name
  let result ← Run.check CliError.analysis (Nullness.analyze p config (← entries p s))
  emit files s config styles (tracedReport Nullness.runner result)

/-- Runs the analysis of stores that are never read on a program. -/
def runDeadStore (files : Files m) (s : Settings) (styles : Bool) (name : String) : Run m Unit := do
  let config ← setup files s
  let p ← loadProgram files name
  let result ← Run.check CliError.analysis (DeadStore.analyze p config (← entries p s))
  emit files s config styles (result.report DeadStore.runner fun finding => finding.forReport "" [])

def runStats (files : Files m) (s : Settings) (styles : Bool) (name : String) : Run m Unit := do
  let _ ← setup files s
  let p ← loadProgram files name
  Run.print (Report.statsText styles p.stats.forReport)

def version : String := "ifds version v0.1.0\n"

def runCommand (files : Files m) (colors : Bool) (command : Command) (s : Settings)
    (operands : List String) : Run m Unit := do
  let styles := colors && !s.noColor
  match command with
  | .taint => runTaint files s styles (← onlyOperand operands)
  | .nullness => runNullness files s styles (← onlyOperand operands)
  | .deadStore => runDeadStore files s styles (← onlyOperand operands)
  | .stats => runStats files s styles (← onlyOperand operands)
  | .packages =>
    if operands.isEmpty then throw (.usage (.tooFewArguments 0))
    let _ ← setup files s
    throw (.unsupported .packages)
  | .help => Run.print (bytesOf (helpFor operands))
  | .completion =>
    if operands.head?.any fun name => Command.completion.below.any fun row => row.1 == name then
      throw (.unsupported .completion)
    Run.print (bytesOf Command.completion.helpText)

def runArguments (files : Files m) (colors : Bool) (arguments : List String) : Run m Unit := do
  let (command?, rest) ← Run.check CliError.usage (Command.find arguments)
  let known := command?.elim Command.rootFlags Command.flags
  let (s, operands) ← Run.check CliError.usage (readArguments known {} rest)
  match command? with
  | some command =>
    if s.help then Run.print (bytesOf command.helpText)
    else runCommand files colors command s operands
  | none => Run.print (bytesOf (if s.version && !s.help then version else toolHelp))

/-- Runs the tool with arguments: how it ended, and what was written. -/
def run (files : Files m) (colors : Bool) (arguments : List String) :
    m (Except CliError Unit × Console) :=
  (runArguments files colors arguments).run.run {}

end Tabulation.Cli
