/-
Log lines. A line is written when the level of the log reaches its severity; warnings can be
silenced.
-/

namespace Tabulation

/-- The severity of a log line. -/
inductive Severity where
  | error
  | warn
  | info
  | debug
  | trace
deriving Repr, DecidableEq

/-- The least level that shows a severity. -/
def Severity.rank : Severity → Int
  | .error => 1
  | .warn => 2
  | .info => 3
  | .debug => 4
  | .trace => 5

def Severity.label : Severity → String
  | .error => "[ERROR] "
  | .warn => "[WARN] "
  | .info => "[INFO] "
  | .debug => "[DEBUG] "
  | .trace => "[TRACE] "

/-- A log: its level, whether warnings are silenced, and what was written. -/
structure Log where
  level : Int
  silent : Bool := false
  output : String := ""
deriving Repr, DecidableEq

namespace Log

def shows (log : Log) (severity : Severity) : Bool :=
  decide (severity.rank ≤ log.level) && !(severity == .warn && log.silent)

/-- The written form of a line; it ends with one line end. -/
def line (severity : Severity) (text : String) : String :=
  let body := severity.label ++ text
  if text.endsWith "\n" then body else body ++ "\n"

def write (log : Log) (severity : Severity) (text : String) : Log :=
  if log.shows severity then { log with output := log.output ++ line severity text } else log

def setLevel (log : Log) (level : Int) : Log := { log with level }

end Log

end Tabulation
