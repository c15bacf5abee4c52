/-
The configuration of the tool: the options of the solver and the taint problems.
-/

import Tabulation.Config.Identifier
import Tabulation.Log
import Tabulation.Text.Duration
import Tabulation.Text.Path

namespace Tabulation

open Tabulation.Text (Duration)

/-- Whether a type name starts with one of the banned starts; the empty one bans nothing. -/
def isBanned (banned : List String) (typeName : String) : Bool :=
  banned.any fun start => start != "" && Text.hasStart typeName start

structure Options where
  logLevel : Int := 3
  timeout : Duration := ⟨60000000000⟩
  workers : Int := 4
  workerStrategy : String := "round-robin"
  banned : List String := ["java.", "javax.", "jdk.", "sun.", "kotlin.", "runtime", "internal/"]
  chunkStrategy : String := "class"
  chunkBuckets : Int := 16
  reportsDir : String := ""
  reportData : Bool := false
  silenceWarnings : Bool := false
deriving Repr, DecidableEq, Inhabited

/-- A configuration. `source` is the file it was read from. -/
structure Config where
  options : Options := {}
  problems : List TaintProblem := []
  source : String := ""
deriving Repr, DecidableEq, Inhabited

namespace Config

def isSource (config : Config) (id : CodeId) : Bool := config.problems.any (·.isSource id)

def isSink (config : Config) (id : CodeId) : Bool := config.problems.any (·.isSink id)

def isSanitizer (config : Config) (id : CodeId) : Bool := config.problems.any (·.isSanitizer id)

def bans (config : Config) (typeName : String) : Bool := isBanned config.options.banned typeName

def relativePath (config : Config) (path : String) : String :=
  Text.Path.join [Text.Path.dir config.source, path]

def isVerbose (config : Config) : Bool := decide (4 ≤ config.options.logLevel)

def log (config : Config) : Log :=
  { level := config.options.logLevel, silent := config.options.silenceWarnings }

end Config

end Tabulation
