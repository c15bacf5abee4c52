/-
Reading a configuration: its document, the defaults of what is left out, the checks, the directory of
the reports, and the patterns of the taint problems, in this order.
-/

import Tabulation.Config.Basic
import Tabulation.Yaml.Decode
import Tabulation.Files

namespace Tabulation

open Tabulation.Yaml (Decode Node ReadError)
open Tabulation.Text (Bytes Duration quoted)

/-- Why a configuration could not be read. -/
inductive ConfigError where
  | file (cause : FileError)
  | unreadable (cause : ReadError)
  | workerStrategy (name : String)
  | chunkStrategy (name : String)
  | chunkBuckets (count : Int)
  | timeout (duration : Duration)
  | logLevel (level : Int)
  | reportsDir (path : String)
  | freshDir
  | pattern (cause : PatternError)
deriving Repr, DecidableEq

namespace ConfigError

def invalidOption : String := "invalid config option"

def isInvalidOption : ConfigError → Bool
  | .file _ | .unreadable _ | .reportsDir _ | .freshDir => false
  | _ => true

def message : ConfigError → String
  | .file cause => "could not read config file: " ++ cause.message
  | .unreadable _ => "could not unmarshal config file: yaml"
  | .workerStrategy name => "worker-pool-strategy " ++ quoted name ++ ": " ++ invalidOption
  | .chunkStrategy name => "chunk-strategy " ++ quoted name ++ ": " ++ invalidOption
  | .chunkBuckets count =>
    "chunk-buckets must be positive for the hashed strategy, got " ++ toString count ++ ": " ++
      invalidOption
  | .timeout duration => "timeout " ++ duration.render ++ ": " ++ invalidOption
  | .logLevel level => "log-level " ++ toString level ++ ": " ++ invalidOption
  | .reportsDir path => "could not create directory " ++ path
  | .freshDir => "could not create temp dir for reports"
  | .pattern cause =>
    invalidOption ++ ": code identifier " ++ quoted cause.field ++ ": " ++ cause.cause.message

end ConfigError

namespace Config

/-! ### The document -/

def idFields : Decode.Fields CodeSpec
  | "package" => some (Decode.field Decode.string fun spec v =>
      { spec with id := { spec.id with package := v } })
  | "type" => some (Decode.field Decode.string fun spec v =>
      { spec with id := { spec.id with type := v } })
  | "method" => some (Decode.field Decode.string fun spec v =>
      { spec with id := { spec.id with method := v } })
  | _ => none

def idList : Decode.Reader (List CodeSpec) := Decode.list (Decode.record idFields {})

def problemFields : Decode.Fields TaintProblem
  | "sanitizers" => some (Decode.field idList fun problem v => { problem with sanitizers := v })
  | "sinks" => some (Decode.field idList fun problem v => { problem with sinks := v })
  | "sources" => some (Decode.field idList fun problem v => { problem with sources := v })
  | _ => none

def optionFields : Decode.Fields Options
  | "log-level" => some (Decode.field Decode.int fun o v => { o with logLevel := v })
  | "timeout" => some (Decode.field Decode.duration fun o v => { o with timeout := v })
  | "worker-pool-size" => some (Decode.field Decode.int fun o v => { o with workers := v })
  | "worker-pool-strategy" =>
    some (Decode.field Decode.string fun o v => { o with workerStrategy := v })
  | "banned-package-prefixes" =>
    some (Decode.field (Decode.list Decode.string) fun o v => { o with banned := v })
  | "chunk-strategy" => some (Decode.field Decode.string fun o v => { o with chunkStrategy := v })
  | "chunk-buckets" => some (Decode.field Decode.int fun o v => { o with chunkBuckets := v })
  | "reports-dir" => some (Decode.field Decode.string fun o v => { o with reportsDir := v })
  | "report-data" => some (Decode.field Decode.bool fun o v => { o with reportData := v })
  | "silence-warn" => some (Decode.field Decode.bool fun o v => { o with silenceWarnings := v })
  | _ => none

def fields : Decode.Fields Config
  | "options" => some fun node config =>
      Decode.field (Decode.record optionFields config.options)
        (fun c v => { c with options := v }) node config
  | "taint-tracking-problems" => some
      (Decode.field (Decode.list (Decode.record problemFields {})) fun c v => { c with problems := v })
  | _ => none

/-! ### Defaults and checks -/

/-- Puts the defaults where an option is zero, empty or not positive. -/
def withDefaults (options : Options) : Options :=
  { options with
    logLevel := if options.logLevel == 0 then 3 else options.logLevel
    workers := if options.workers ≤ 0 then 4 else options.workers
    workerStrategy :=
      if options.workerStrategy == "" then "round-robin" else options.workerStrategy
    chunkStrategy := if options.chunkStrategy == "" then "class" else options.chunkStrategy }

def check (options : Options) : Except ConfigError Unit := do
  if !(["round-robin", "first-ready"].contains options.workerStrategy) then
    throw (.workerStrategy options.workerStrategy)
  if options.chunkStrategy == "hashed" then
    if options.chunkBuckets ≤ 0 then throw (.chunkBuckets options.chunkBuckets)
  else if !(["class", "package", "method"].contains options.chunkStrategy) then
    throw (.chunkStrategy options.chunkStrategy)
  if options.timeout.nanoseconds < 0 then throw (.timeout options.timeout)
  if options.logLevel < 1 || 5 < options.logLevel then throw (.logLevel options.logLevel)

def compileAll (specs : List CodeSpec) : Except ConfigError (List CodeSpec) :=
  specs.mapM fun spec => (CodeSpec.compile spec.id).mapError ConfigError.pattern

/-- Compiles the patterns of a problem: sanitizers first, then sinks, then sources. -/
def compileProblem (problem : TaintProblem) : Except ConfigError TaintProblem := do
  let sanitizers ← compileAll problem.sanitizers
  let sinks ← compileAll problem.sinks
  let sources ← compileAll problem.sources
  return { sanitizers, sinks, sources }

/-! ### Loading -/

variable {m : Type → Type} [Monad m]

/-- The directory of the reports, made if it is not there. Without a name it is a fresh one next to
the configuration. -/
def reportsDir (files : Files m) (path : String) (options : Options) :
    m (Except ConfigError String) := do
  if options.reportsDir == "" then
    match ← files.makeFreshDir (Text.Path.dir path) "-report" with
    | some dir => return .ok dir
    | none => return .error .freshDir
  else
    match ← files.makeDir options.reportsDir with
    | .ok () => return .ok options.reportsDir
    | .error error =>
      return if error.fault == .exists then .ok options.reportsDir
        else .error (.reportsDir options.reportsDir)

def loadContent (files : Files m) (path : String) (content : Bytes) :
    m (Except ConfigError Config) := do
  match Yaml.read fields {} content with
  | .error cause => return .error (.unreadable cause)
  | .ok read =>
    let options := withDefaults read.options
    match check options with
    | .error error => return .error error
    | .ok () =>
      let dir : Except ConfigError String ←
        if options.reportData then reportsDir files path options
        else pure (.ok options.reportsDir)
      return do
        let dir ← dir
        let problems ← read.problems.mapM compileProblem
        return { options := { options with reportsDir := dir }, problems, source := path }

def load (files : Files m) (path : String) : m (Except ConfigError Config) := do
  match ← files.read path with
  | .error error => return .error (.file error)
  | .ok content => loadContent files path content

end Config

end Tabulation
