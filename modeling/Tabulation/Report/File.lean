/-
Report files: the written form of a report, and saving and loading it.
-/

import Tabulation.Files
import Tabulation.Report.Basic
import Tabulation.Report.Packed

namespace Tabulation

open Tabulation.Text (Bytes bytesOf)

namespace Report

/-! ### The written form -/

section Writing

variable (codec : Packed.Codec)

/-- A finding. What is empty is left out where a reader can tell. -/
def packFinding (f : ReportFinding) : Bytes :=
  codec.record
    ([("rule", codec.text f.rule), ("message", codec.text f.message),
        ("statement", codec.text f.statement), ("fact", codec.text f.fact)] ++
      (if f.position.isEmpty then [] else [("position", codec.text f.position)]) ++
      (if (f.traces.getD []).isEmpty then []
        else [("traces", codec.list (codec.list codec.text) f.traces)]))

def packData (s : SolutionStats) : Bytes :=
  codec.record
    [("edges", codec.int s.edges), ("statements", codec.int s.statements),
      ("facts", codec.int s.facts), ("summaries", codec.int s.summaries),
      ("findings", codec.int s.findings)]

def packStats (s : ReportStats) : Bytes :=
  codec.record
    [("Classes", codec.int s.classes), ("Methods", codec.int s.methods),
      ("Instructions", codec.int s.instructions), ("Calls", codec.int s.calls),
      ("CallEdges", codec.int s.callEdges), ("MethodsWithLoops", codec.list codec.text s.loops),
      ("RecursiveMethods", codec.list codec.text s.recursive),
      ("CallCycles", codec.list (codec.list codec.text) s.cycles)]

end Writing

def pack (r : Report) (codec : Packed.Codec := .compact) : Bytes :=
  codec.record
    ([("analysis", codec.text r.analysis), ("status", codec.text r.status),
        ("findings", codec.list (packFinding codec) r.findings), ("data", packData codec r.data)] ++
      match r.program with
      | some s => [("program", packStats codec s)]
      | none => [])

/-! ### Reading it -/

open Packed (Read Fields Slots)

abbrev TextListSlots := Slots (Option (List Bytes))

def readTextLists (codec : Packed.Codec) (before : TextListSlots) : Read TextListSlots :=
  codec.readList codec.readTexts none before

/-- A finding while it is read. -/
structure FindingDraft where
  plain : ReportFinding := {}
  traces : TextListSlots := {}

/-- The finding as it was read last. -/
def FindingDraft.finding (draft : FindingDraft) : ReportFinding :=
  { draft.plain with traces := draft.traces.toList? }

/-- The statistics of a program while they are read. -/
structure StatsDraft where
  plain : ReportStats := {}
  cycles : TextListSlots := {}

/-- The statistics as they were read last. -/
def StatsDraft.stats (draft : StatsDraft) : ReportStats :=
  { draft.plain with cycles := draft.cycles.toList? }

/-- A report while it is read. -/
structure Draft where
  plain : Report := {}
  findings : Slots FindingDraft := {}
  program : Option StatsDraft := none

/-- The report as it was read last. -/
def Draft.report (draft : Draft) : Report :=
  { draft.plain with
    findings := draft.findings.toList?.map fun findings => findings.map FindingDraft.finding
    program := draft.program.map StatsDraft.stats }

section Reading

variable (codec : Packed.Codec)

def readFindingText (set : ReportFinding → Bytes → ReportFinding) : FindingDraft → Read FindingDraft :=
  fun draft => do return { draft with plain := set draft.plain (← codec.readText) }

def findingFields : Fields FindingDraft :=
  [("rule", readFindingText codec fun f rule => { f with rule := rule }),
    ("message", readFindingText codec fun f message => { f with message := message }),
    ("statement", readFindingText codec fun f statement => { f with statement := statement }),
    ("fact", readFindingText codec fun f fact => { f with fact := fact }),
    ("position", readFindingText codec fun f position => { f with position := position }),
    ("traces", fun draft => do return { draft with traces := ← readTextLists codec draft.traces })]

def dataFields : Fields SolutionStats :=
  [("edges", fun s => do return { s with edges := ← codec.readInt }),
    ("statements", fun s => do return { s with statements := ← codec.readInt }),
    ("facts", fun s => do return { s with facts := ← codec.readInt }),
    ("summaries", fun s => do return { s with summaries := ← codec.readInt }),
    ("findings", fun s => do return { s with findings := ← codec.readInt })]

def readStatsNumber (set : ReportStats → Int → ReportStats) : StatsDraft → Read StatsDraft :=
  fun draft => do return { draft with plain := set draft.plain (← codec.readInt) }

def statsFields : Fields StatsDraft :=
  [("Classes", readStatsNumber codec fun s classes => { s with classes := classes }),
    ("Methods", readStatsNumber codec fun s methods => { s with methods := methods }),
    ("Instructions", readStatsNumber codec fun s instructions => { s with instructions := instructions }),
    ("Calls", readStatsNumber codec fun s calls => { s with calls := calls }),
    ("CallEdges", readStatsNumber codec fun s callEdges => { s with callEdges := callEdges }),
    ("MethodsWithLoops", fun draft => do
      let loops ← codec.readTexts draft.plain.loops
      return { draft with plain := { draft.plain with loops } }),
    ("RecursiveMethods", fun draft => do
      let recursive ← codec.readTexts draft.plain.recursive
      return { draft with plain := { draft.plain with recursive } }),
    ("CallCycles", fun draft => do return { draft with cycles := ← readTextLists codec draft.cycles })]

def readReportText (set : Report → Bytes → Report) : Draft → Read Draft :=
  fun draft => do return { draft with plain := set draft.plain (← codec.readText) }

def reportFields : Fields Draft :=
  [("analysis", readReportText codec fun r analysis => { r with analysis := analysis }),
    ("status", readReportText codec fun r status => { r with status := status }),
    ("findings", fun draft => do
      let readFinding := codec.readRecord (findingFields codec) {}
      return { draft with findings := ← codec.readList readFinding {} draft.findings }),
    ("data", fun draft => do
      let data ← codec.readRecord (dataFields codec) {} draft.plain.data
      return { draft with plain := { draft.plain with data } }),
    ("program", fun draft => do
      let readStats := codec.readRecord (statsFields codec) {}
      return { draft with program := ← codec.readOptional readStats {} draft.program })]

end Reading

/-- The report at the front of some bytes. What follows it does not matter. -/
def unpack? (bytes : Bytes) (codec : Packed.Codec := .compact) : Option Report :=
  (codec.readRecord (reportFields codec) {} {} bytes).map fun (draft, _) => draft.report

end Report

/-! ### Files -/

/-- Why a report could not be saved or loaded. -/
inductive ReportError where
  | directory (cause : FileError)
  | create (cause : FileError)
  | open (cause : FileError)
  /-- The content is no report. -/
  | malformed
deriving Repr, DecidableEq

def ReportError.message : ReportError → String
  | .directory cause => "failed to create reports directory: " ++ cause.message
  | .create cause => "failed to create report file: " ++ cause.message
  | .open cause => "failed to open report file: " ++ cause.message
  | .malformed => "failed to decode report"

namespace Report

variable {m : Type → Type} [Monad m]

/-- Saves a report in a directory, under the name of its analysis. The result is the name of the
file. -/
def save (files : Files m) (dir : String) (r : Report) : m (Except ReportError String) := do
  match ← files.makeDirs dir with
  | .error cause => return .error (.directory cause)
  | .ok () =>
    let path := Text.Path.join [dir, Text.ofBytes r.analysis ++ ".msgpack"]
    match ← files.write path r.pack with
    | .error cause => return .error (.create cause)
    | .ok () => return .ok path

def load (files : Files m) (path : String) : m (Except ReportError Report) := do
  match ← files.read path with
  | .error cause =>
    -- a directory can be opened and has no content
    return .error (if cause.fault == .isDirectory then .malformed else .open cause)
  | .ok content =>
    match unpack? content with
    | some r => return .ok r
    | none => return .error .malformed

end Report

end Tabulation
