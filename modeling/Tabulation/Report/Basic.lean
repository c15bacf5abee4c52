/-
Reports: the result of one analysis for a reader or for another tool. Texts are plain bytes, since a
report may come from elsewhere; lists that can be absent are absent or there.
-/

import Tabulation.Analysis.Basic
import Tabulation.Program.Stats
import Tabulation.Text.Quoted
import Tabulation.Text.Styled

namespace Tabulation

open Tabulation.Text (Bytes bytesOf Style)

structure ReportFinding where
  rule : Bytes := []
  message : Bytes := []
  statement : Bytes := []
  fact : Bytes := []
  /-- Where the finding is in a source file; empty if that is not known. -/
  position : Bytes := []
  traces : Option (List (Option (List Bytes))) := none
deriving Repr, DecidableEq, Inhabited

/-- The statistics of a program in a report. -/
structure ReportStats where
  classes : Int := 0
  methods : Int := 0
  instructions : Int := 0
  calls : Int := 0
  callEdges : Int := 0
  loops : Option (List Bytes) := none
  recursive : Option (List Bytes) := none
  cycles : Option (List (Option (List Bytes))) := none
deriving Repr, DecidableEq, Inhabited

/-- The result of one analysis. -/
structure Report where
  analysis : Bytes := []
  status : Bytes := []
  findings : Option (List ReportFinding) := none
  data : SolutionStats := {}
  program : Option ReportStats := none
deriving Repr, DecidableEq, Inhabited

def presentList {α : Type} (items : List α) : Option (List α) :=
  if items.isEmpty then none else some items

def ProgramStats.forReport (s : ProgramStats) : ReportStats where
  classes := s.classes
  methods := s.methods
  instructions := s.instructions
  calls := s.calls
  callEdges := s.callEdges
  loops := presentList (s.loops.map bytesOf)
  recursive := presentList (s.recursive.map bytesOf)
  cycles := presentList (s.cycles.map fun cycle => some (cycle.map bytesOf))

/-- A finding for a report, with traces whose steps are written out. -/
def Finding.forReport {S F : Type} [Shown S] [Shown F] (f : Finding S F) (position : String)
    (traces : List (List String)) : ReportFinding where
  rule := bytesOf f.rule
  message := bytesOf f.message
  statement := bytesOf (Shown.text f.vertex.statement)
  fact := bytesOf (Shown.text f.vertex.fact)
  position := bytesOf position
  traces := presentList (traces.map fun trace => some (trace.map bytesOf))

namespace Report

def joined (separator : String) (texts : List Bytes) : Bytes :=
  List.intercalate (bytesOf separator) texts

def styled (on : Bool) (style : Style) (text : String) : String := style.apply on text

def line (parts : List Bytes) : Bytes := parts.flatten ++ bytesOf "\n"

/-- A line with a list, if the list has items. -/
def listLine (title : String) (items : List Bytes) : Bytes :=
  if items.isEmpty then [] else line [bytesOf ("  " ++ title ++ ": "), joined ", " items]

def styledBytes (on : Bool) (style : Style) (bytes : Bytes) : Bytes :=
  if on then bytesOf style.code ++ bytes ++ bytesOf "\x1b[0m" else bytes

def statsText (styles : Bool) (s : ReportStats) : Bytes :=
  line [bytesOf (styled styles .faint "program:" ++ " " ++ toString s.classes ++ " classes, " ++
      toString s.methods ++ " methods, " ++ toString s.instructions ++ " instructions, " ++
      toString s.calls ++ " calls, " ++ toString s.callEdges ++ " call edges")] ++
    listLine "methods with loops" (s.loops.getD []) ++
    listLine "recursive methods" (s.recursive.getD []) ++
    (s.cycles.getD []).flatMap fun cycle =>
      line [bytesOf "  call cycle: ", styledBytes styles .cyan (joined " -> " (cycle.getD []))]

def traceText (styles : Bool) (number : Nat) (trace : Option (List Bytes)) : Bytes :=
  line [bytesOf ("  " ++ styled styles .faint ("trace " ++ toString number ++ ":"))] ++
    (trace.getD []).flatMap fun step => line [bytesOf "    ", step]

/-- A finding for a reader. The position stands in front if it is known, and the statement otherwise. -/
def findingText (styles : Bool) (number : Nat) (f : ReportFinding) : Bytes :=
  line [styledBytes styles .red (bytesOf "[" ++ f.rule ++ bytesOf (" #" ++ toString number ++ "]")),
      bytesOf " ", if f.position.isEmpty then f.statement else f.position, bytesOf ": ",
      bytesOf (Text.escapedBytes f.message)] ++
    ((f.traces.getD []).zipIdx 1).flatMap fun (trace, number) => traceText styles number trace

def text (styles : Bool) (r : Report) : Bytes :=
  let statusStyle := if r.status == bytesOf Status.quiesced.text then Style.green else Style.yellow
  let findings := r.findings.getD []
  line [bytesOf (styled styles .bold "Analysis" ++ " "), r.analysis, bytesOf " (",
      styledBytes styles statusStyle r.status, bytesOf ")"] ++
    (match r.program with
      | some s => statsText styles s
      | none => []) ++
    line [bytesOf (styled styles .faint "data:" ++ " " ++ toString r.data.edges ++ " edges, " ++
      toString r.data.facts ++ " facts at " ++ toString r.data.statements ++ " statements, " ++
      toString r.data.summaries ++ " summary edges")] ++
    (if findings.isEmpty then line [bytesOf (styled styles .green "no findings")] else []) ++
    (findings.zipIdx 1).flatMap fun (f, number) => findingText styles number f

end Report

def AnalysisResult.report {F : Type} [DecidableEq F] (r : AnalysisResult F) (analysis : String)
    (finding : Finding Statement F → ReportFinding) : Report where
  analysis := bytesOf analysis
  status := bytesOf r.status.text
  findings := some (r.findings.map finding)
  data := r.data.stats

end Tabulation
