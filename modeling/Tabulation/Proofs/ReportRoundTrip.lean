/-
Reports are read as they were written.

The bytes of a report give the report back, whatever bytes follow them.  Only a list of traces that
is there and empty is not told from one that is absent, since neither is written.
-/

import Mathlib.Tactic.MkIffOfInductiveProp
import Tabulation.Proofs.PackedValues
import Tabulation.Report.File

namespace Tabulation

open Tabulation.Text (Bytes)
open Packed (Reads Named Slots)

/-! ### What can be written -/

/-- A text whose length can be written. -/
def FitsText (text : Bytes) : Prop := text.length < 0x100000000
deriving Decidable

/-- An integer of 64 bits. -/
def FitsInt (n : Int) : Prop := -0x8000000000000000 ≤ n ∧ n < 0x8000000000000000
deriving Decidable

/-- A list that may be absent, whose length can be written and whose items fit. -/
def FitsList {α : Type} (fits : α → Prop) (list : Option (List α)) : Prop :=
  ∀ items ∈ list, items.length < 0x100000000 ∧ ∀ item ∈ items, fits item

@[mk_iff] structure ReportFinding.Fits (finding : ReportFinding) : Prop where
  rule : FitsText finding.rule
  message : FitsText finding.message
  statement : FitsText finding.statement
  fact : FitsText finding.fact
  position : FitsText finding.position
  traces : FitsList (FitsList FitsText) finding.traces

@[mk_iff] structure SolutionStats.Fits (stats : SolutionStats) : Prop where
  edges : FitsInt stats.edges
  statements : FitsInt stats.statements
  facts : FitsInt stats.facts
  summaries : FitsInt stats.summaries
  findings : FitsInt stats.findings

@[mk_iff] structure ReportStats.Fits (stats : ReportStats) : Prop where
  classes : FitsInt stats.classes
  methods : FitsInt stats.methods
  instructions : FitsInt stats.instructions
  calls : FitsInt stats.calls
  callEdges : FitsInt stats.callEdges
  loops : FitsList FitsText stats.loops
  recursive : FitsList FitsText stats.recursive
  cycles : FitsList (FitsList FitsText) stats.cycles

/-- A report of texts and lists whose lengths have four bytes at most, and integers of 64 bits. -/
@[mk_iff] structure Report.Fits (report : Report) : Prop where
  analysis : FitsText report.analysis
  status : FitsText report.status
  findings : FitsList ReportFinding.Fits report.findings
  data : report.data.Fits
  program : ∀ stats ∈ report.program, stats.Fits

section

variable {α : Type} (fits : α → Prop) [DecidablePred fits] (list : Option (List α))

instance : Decidable (FitsList fits list) :=
  inferInstanceAs (Decidable (∀ items ∈ list,
    items.length < 0x100000000 ∧ ∀ item ∈ items, fits item))

end

instance (finding : ReportFinding) : Decidable finding.Fits :=
  decidable_of_iff _ (ReportFinding.fits_iff finding).symm

instance (stats : SolutionStats) : Decidable stats.Fits :=
  decidable_of_iff _ (SolutionStats.fits_iff stats).symm

instance (stats : ReportStats) : Decidable stats.Fits :=
  decidable_of_iff _ (ReportStats.fits_iff stats).symm

instance (report : Report) : Decidable report.Fits :=
  decidable_of_iff _ (Report.fits_iff report).symm

/-! ### What is read -/

/-- The finding without a list of traces that has none. -/
def ReportFinding.withoutEmptyTraces (finding : ReportFinding) : ReportFinding :=
  { finding with traces := if (finding.traces.getD []).isEmpty then none else finding.traces }

/-- The report without lists of traces that have none. -/
def Report.withoutEmptyTraces (report : Report) : Report :=
  { report with
    findings := report.findings.map (List.map ReportFinding.withoutEmptyTraces) }

namespace Report

/-! ### Drafts -/

/-- A finding as it is drafted from what was written of it. -/
def FindingDraft.of (finding : ReportFinding) : FindingDraft where
  plain := { finding with traces := none }
  traces := .of (if (finding.traces.getD []).isEmpty then none else finding.traces)

theorem FindingDraft.finding_of (finding : ReportFinding) :
    (FindingDraft.of finding).finding = finding.withoutEmptyTraces := by
  unfold FindingDraft.finding
  rw [FindingDraft.of, Slots.toList?_of]
  rfl

/-- The statistics of a program as they are drafted from what was written of them. -/
def StatsDraft.of (stats : ReportStats) : StatsDraft where
  plain := { stats with cycles := none }
  cycles := .of stats.cycles

theorem StatsDraft.stats_of (stats : ReportStats) : (StatsDraft.of stats).stats = stats := by
  unfold StatsDraft.stats
  rw [StatsDraft.of, Slots.toList?_of]

/-- A report as it is drafted from what was written of it. -/
def Draft.of (report : Report) : Draft where
  plain := { report with findings := none, program := none }
  findings := .of (report.findings.map (List.map .of))
  program := report.program.map .of

theorem Draft.report_of (report : Report) :
    (Draft.of report).report = report.withoutEmptyTraces := by
  unfold Draft.report
  rw [Draft.of, Slots.toList?_of]
  simp only [Option.map_map, Function.comp_def, List.map_map, FindingDraft.finding_of,
    StatsDraft.stats_of, Option.map_id_fun', id]
  rfl

section Reading

variable {codec : Packed.Codec}

theorem named_findingFields : Named (findingFields codec) :=
  .of_plain ["rule", "message", "statement", "fact", "position", "traces"] rfl (by decide) (by decide)

theorem named_dataFields : Named (dataFields codec) :=
  .of_plain ["edges", "statements", "facts", "summaries", "findings"] rfl (by decide) (by decide)

theorem named_statsFields : Named (statsFields codec) :=
  .of_plain ["Classes", "Methods", "Instructions", "Calls", "CallEdges", "MethodsWithLoops",
    "RecursiveMethods", "CallCycles"] rfl (by decide) (by decide)

theorem named_reportFields : Named (reportFields codec) :=
  .of_plain ["analysis", "status", "findings", "data", "program"] rfl (by decide) (by decide)

variable (sound : codec.IsSound)

include sound

/-! ### Findings -/

theorem reads_textLists {lists : Option (List (Option (List Bytes)))}
    (fits : FitsList (FitsList FitsText) lists) :
    Reads (readTextLists codec {}) (codec.list (codec.list codec.text) lists) (.of lists) := by
  have reads : Reads (readTextLists codec {}) (codec.list (codec.list codec.text) lists)
      (.of (lists.map (List.map id))) :=
    sound.list (fun items member => (fits items member).1)
      fun items member list inside => sound.texts ((fits items member).2 list inside)
  have same : lists.map (List.map id) = lists := by simp
  rwa [same] at reads

theorem reads_findingText {text : Bytes} (fits : FitsText text)
    (set : ReportFinding → Bytes → ReportFinding) (draft : FindingDraft) :
    Reads (readFindingText codec set draft) (codec.text text)
      { draft with plain := set draft.plain text } :=
  (sound.text fits).map fun text => ({ draft with plain := set draft.plain text } : FindingDraft)

theorem reads_finding {finding : ReportFinding} (fits : finding.Fits) :
    Reads (codec.readRecord (findingFields codec) {} {}) (packFinding codec finding) (.of finding) := by
  refine sound.record named_findingFields ?_ ?_
  · split <;> split <;> exact of_decide_eq_true rfl
  · simp only [List.cons_append, List.nil_append]
    refine .entry 0 rfl (reads_findingText sound fits.rule _ _) ?_
    refine .entry 1 rfl (reads_findingText sound fits.message _ _) ?_
    refine .entry 2 rfl (reads_findingText sound fits.statement _ _) ?_
    refine .entry 3 rfl (reads_findingText sound fits.fact _ _) ?_
    refine .unless 4 rfl ?_ (fun _ => reads_findingText sound fits.position _ _) ?_
    · intro empty
      rw [List.isEmpty_iff.mp empty]
    · rw [← List.append_nil (ite _ _ _)]
      refine .unless 5 rfl ?_ ?_ (.done _)
      · intro empty
        unfold FindingDraft.of
        rw [if_pos empty]
        rfl
      · intro filled
        unfold FindingDraft.of
        rw [if_neg filled]
        exact (reads_textLists sound fits.traces).map fun traces =>
          ({ plain := { finding with traces := none }, traces } : FindingDraft)

/-! ### Sizes and statistics -/

theorem reads_data {stats : SolutionStats} (fits : stats.Fits) (before : SolutionStats) :
    Reads (codec.readRecord (dataFields codec) {} before) (packData codec stats) stats := by
  have reads {n : Int} (fits : FitsInt n) (set : SolutionStats → Int → SolutionStats)
      (draft : SolutionStats) :
      Reads (do return set draft (← codec.readInt)) (codec.int n) (set draft n) :=
    (sound.int fits.1 fits.2).map (set draft)
  refine sound.record named_dataFields (of_decide_eq_true rfl) ?_
  refine .entry 0 rfl (reads fits.edges (fun s n => { s with edges := n }) _) ?_
  refine .entry 1 rfl (reads fits.statements (fun s n => { s with statements := n }) _) ?_
  refine .entry 2 rfl (reads fits.facts (fun s n => { s with facts := n }) _) ?_
  refine .entry 3 rfl (reads fits.summaries (fun s n => { s with summaries := n }) _) ?_
  refine .entry 4 rfl (reads fits.findings (fun s n => { s with findings := n }) _) ?_
  exact .done stats

theorem reads_statsNumber {n : Int} (fits : FitsInt n) (set : ReportStats → Int → ReportStats)
    (draft : StatsDraft) :
    Reads (readStatsNumber codec set draft) (codec.int n) { draft with plain := set draft.plain n } :=
  (sound.int fits.1 fits.2).map fun n => ({ draft with plain := set draft.plain n } : StatsDraft)

theorem reads_stats {stats : ReportStats} (fits : stats.Fits) :
    Reads (codec.readRecord (statsFields codec) {} {}) (packStats codec stats) (.of stats) := by
  refine sound.record named_statsFields (of_decide_eq_true rfl) ?_
  refine .entry 0 rfl (reads_statsNumber sound fits.classes _ _) ?_
  refine .entry 1 rfl (reads_statsNumber sound fits.methods _ _) ?_
  refine .entry 2 rfl (reads_statsNumber sound fits.instructions _ _) ?_
  refine .entry 3 rfl (reads_statsNumber sound fits.calls _ _) ?_
  refine .entry 4 rfl (reads_statsNumber sound fits.callEdges _ _) ?_
  refine .entry 5 rfl ((sound.texts fits.loops).map fun loops =>
    ({ plain := { stats with loops, recursive := none, cycles := none } } : StatsDraft)) ?_
  refine .entry 6 rfl ((sound.texts fits.recursive).map fun recursive =>
    ({ plain := { stats with recursive, cycles := none } } : StatsDraft)) ?_
  refine .entry 7 rfl ((reads_textLists sound fits.cycles).map fun cycles =>
    ({ plain := { stats with cycles := none }, cycles } : StatsDraft)) ?_
  exact .done _

/-! ### The report -/

theorem reads_reportText {text : Bytes} (fits : FitsText text) (set : Report → Bytes → Report)
    (draft : Draft) :
    Reads (readReportText codec set draft) (codec.text text)
      { draft with plain := set draft.plain text } :=
  (sound.text fits).map fun text => ({ draft with plain := set draft.plain text } : Draft)

theorem reads_report {report : Report} (fits : report.Fits) :
    Reads (codec.readRecord (reportFields codec) {} {}) (report.pack codec) (.of report) := by
  have findings : Reads (codec.readList (codec.readRecord (findingFields codec) {}) {} {})
      (codec.list (packFinding codec) report.findings) (.of (report.findings.map (List.map .of))) :=
    sound.list (fun items member => (fits.findings items member).1)
      fun items member finding inside =>
        reads_finding sound ((fits.findings items member).2 finding inside)
  refine sound.record named_reportFields ?_ ?_
  · split <;> exact of_decide_eq_true rfl
  · simp only [List.cons_append, List.nil_append]
    refine .entry 0 rfl (reads_reportText sound fits.analysis _ _) ?_
    refine .entry 1 rfl (reads_reportText sound fits.status _ _) ?_
    refine .entry 2 rfl (findings.map fun findings =>
      ({ plain := { analysis := report.analysis, status := report.status }, findings } : Draft)) ?_
    refine .entry 3 rfl ((reads_data sound fits.data _).map fun data =>
      ({ plain := { analysis := report.analysis, status := report.status, data },
         findings := .of (report.findings.map (List.map .of)) } : Draft)) ?_
    unfold Draft.of
    cases program : report.program with
    | none => exact .done _
    | some stats =>
        have reads := reads_stats sound (fits.program stats program)
        refine .entry 4 rfl ((sound.present (of_decide_eq_true rfl) reads).map fun program =>
          ({ plain := { report with findings := none, program := none },
             findings := .of (report.findings.map (List.map .of)), program } : Draft)) ?_
        exact .done _

/-- What was written of a report is read as the same report, whatever follows it; only an empty list
of traces is read as an absent one. -/
theorem unpack_pack {report : Report} (fits : report.Fits) (rest : Bytes) :
    unpack? (report.pack codec ++ rest) codec = some report.withoutEmptyTraces := by
  unfold unpack?
  rw [reads_report sound fits rest, Option.map_some]
  exact congrArg some (Draft.report_of report)

end Reading

/-- A report with texts, lists and numbers of several written forms. -/
def sample : Report where
  analysis := [(0x74 : UInt8)]
  status := List.replicate 40 (0xff : UInt8)
  findings := some
    [{ message := List.replicate 300 (0x41 : UInt8)
       traces := some [some [[], [(0xc0 : UInt8)]], none, some []] },
      { position := [(0x3a : UInt8)], traces := some [] }]
  data :=
    { edges := 0x7fffffffffffffff
      statements := -0x8000000000000000
      facts := 0x80000000
      summaries := -129 }
  program := some { classes := -33, methods := 128, loops := some [], cycles := some [none] }

theorem unpack_pack_sample :
    sample.Fits ∧ unpack? (sample.pack ++ [(0xc1 : UInt8)]) = some sample.withoutEmptyTraces := by
  have fits : sample.Fits := by decide +kernel
  exact ⟨fits, unpack_pack Packed.Codec.isSound_compact fits _⟩

end Report

end Tabulation
