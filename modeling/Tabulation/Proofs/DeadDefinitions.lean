/-
Dead stores are the reachable definitions of variables that are not live behind them.

The solver runs forwards: it carries each definition along the control flow up to the
next definition of its variable.  Liveness is read backwards, from the statements that
read a variable.  Both speak of the same paths, so that a definition that meets no
reading statement is one whose variable is live at no successor.
-/

import Tabulation.Proofs.ControlFlow
import Tabulation.Proofs.Outcomes
import Tabulation.Proofs.TextOrder

namespace Tabulation

namespace Program

/-- The statements to which control may come: the first ones of entry methods, successors,
and the first ones of the callees of calls. -/
inductive Reachable (p : Program) (banned : List String) (entries : List MethodName) :
    Statement → Prop
  | entry {id : MethodName} {s : Statement} (isEntry : id ∈ entries)
      (first : s ∈ p.flowGraph.entries id) : Reachable p banned entries s
  | next {s next : Statement} (reachable : Reachable p banned entries s)
      (successor : next ∈ p.successors s) : Reachable p banned entries next
  | callee {s start : Statement} {id : MethodName} (reachable : Reachable p banned entries s)
      (resolved : id ∈ ((p.dispatch banned).resolve s).methods)
      (first : start ∈ p.flowGraph.entries id) : Reachable p banned entries start

/-- A statement reads a variable. -/
def Reads (p : Program) (s : Statement) (name : String) : Prop :=
  ∃ instruction, p.instruction? s = some instruction ∧ name ∈ instruction.uses

instance (p : Program) (s : Statement) (name : String) : Decidable (p.Reads s name) :=
  match here : p.instruction? s with
  | none => .isFalse fun ⟨_, found, _⟩ => by rw [here] at found; cases found
  | some instruction =>
    if used : name ∈ instruction.uses then .isTrue ⟨instruction, here, used⟩
    else .isFalse fun ⟨_, found, reads⟩ => by
      rw [here] at found
      cases found
      exact used reads

/-- A variable is live in front of a statement that reads it, and in front of one that
does not write it if it is live in front of a successor. -/
inductive IsLive (p : Program) (name : String) : Statement → Prop
  | read {s : Statement} (reads : p.Reads s name) : IsLive p name s
  | later {s next : Statement} (kept : DeadStore.definedAt p s ≠ name)
      (successor : next ∈ p.successors s) (live : IsLive p name next) : IsLive p name s

/-- Control may go from one statement to another, and no statement before the latter
writes the variable. -/
def Carries (p : Program) (name : String) : Statement → Statement → Prop :=
  Relation.ReflTransGen fun s next =>
    next ∈ p.successors s ∧ DeadStore.definedAt p s ≠ name

variable {p : Program}

/-- A variable is live if control may go on to a statement that reads its value. -/
theorem isLive_iff {name : String} {s : Statement} :
    p.IsLive name s ↔ ∃ last, p.Carries name s last ∧ p.Reads last name := by
  constructor
  · intro live
    induction live with
    | read reads => exact ⟨_, Relation.ReflTransGen.refl, reads⟩
    | later kept successor _ inductionHypothesis =>
        obtain ⟨last, path, reads⟩ := inductionHypothesis
        exact ⟨last, Relation.ReflTransGen.head ⟨successor, kept⟩ path, reads⟩
  · rintro ⟨last, path, reads⟩
    induction path using Relation.ReflTransGen.head_induction_on with
    | refl => exact IsLive.read reads
    | head step _ inductionHypothesis =>
        obtain ⟨successor, kept⟩ := step
        exact IsLive.later kept successor inductionHypothesis

end Program

namespace DeadStore

variable {p : Program} {banned : List String} {entries : List MethodName}

/-- The value that a reachable statement gives to a variable is not read. -/
structure IsDead (p : Program) (banned : List String) (entries : List MethodName)
    (name : String) (site : Statement) : Prop where
  reachable : p.Reachable banned entries site
  defined : definedAt p site = name
  named : name ≠ ""
  unread : ∀ next ∈ p.successors site, ¬p.IsLive name next

/-! ### The flow of definitions -/

private theorem mem_sequent_reachable {s next : Statement} {found : Definition} :
    found ∈ sequent p s next .reachable ↔
      found = .reachable ∨ (definedAt p s ≠ "" ∧ found = .of (definedAt p s) s) := by
  unfold sequent definitionAt
  by_cases none : definedAt p s = "" <;> simp [none]

private theorem mem_sequent_of {s next site : Statement} {name : String}
    {found : Definition} :
    found ∈ sequent p s next (.of name site) ↔
      definedAt p s ≠ name ∧ found = .of name site := by
  unfold sequent
  by_cases same : name = definedAt p s
  · simp [same]
  · simp [same, Ne.symm same]

/-- Control goes on behind a statement that writes a variable. -/
private theorem exists_successor {s : Statement} (writes : definedAt p s ≠ "") :
    ∃ next, next ∈ p.successors s := by
  unfold definedAt at writes
  cases here : p.instruction? s with
  | none => simp [here] at writes
  | some instruction =>
      refine ⟨⟨s.method, s.position + 1⟩,
        Program.mem_successors.mpr ⟨instruction, here, rfl, ?_⟩⟩
      rw [here] at writes
      cases instruction with
      | assign | const | call => exact List.mem_singleton_self _
      | _ => exact absurd rfl writes

/-- What it means that a fact holds at a statement. -/
def Holds (p : Program) (banned : List String) (entries : List MethodName)
    (s : Statement) : Definition → Prop
  | .reachable => p.Reachable banned entries s
  | .of name site => p.Reachable banned entries site ∧ definedAt p site = name ∧ name ≠ "" ∧
      ∃ first ∈ p.successors site, p.Carries name first s

private theorem Holds.sequent {s next : Statement} {fact found : Definition}
    (holds : Holds p banned entries s fact) (successor : next ∈ p.successors s)
    (flows : found ∈ sequent p s next fact) : Holds p banned entries next found := by
  cases fact with
  | reachable =>
      rcases mem_sequent_reachable.mp flows with rfl | ⟨named, rfl⟩
      · exact Program.Reachable.next holds successor
      · exact ⟨holds, rfl, named, next, successor, Relation.ReflTransGen.refl⟩
  | of name site =>
      obtain ⟨kept, rfl⟩ := mem_sequent_of.mp flows
      obtain ⟨reachable, defined, named, first, isFirst, path⟩ := holds
      exact ⟨reachable, defined, named, first, isFirst, path.tail ⟨successor, kept⟩⟩

/-- A configuration means what it says, and its calls are reachable. -/
private def Sound (p : Program) (banned : List String) (entries : List MethodName)
    (configuration : Configuration Statement Definition) : Prop :=
  Holds p banned entries configuration.vertex.statement configuration.vertex.fact ∧
    ∀ call ∈ configuration.stack, p.Reachable banned entries call

private theorem Sound.move {before after : Configuration Statement Definition}
    (sound : Sound p banned entries before)
    (move : (rules p).Moves (p.dispatch banned) before after) :
    Sound p banned entries after := by
  obtain ⟨holds, calls⟩ := sound
  cases move with
  | flow flows => exact ⟨holds.sequent flows.2.2.1 flows.2.2.2, calls⟩
  | bypass bypasses =>
      exact ⟨holds.sequent bypasses.2.1 (toReturn_mem_call.mp bypasses.2.2), calls⟩
  | @enter vertex start passed stack enters =>
      obtain ⟨⟨_, next, _, passes⟩, id, resolved, first, starts⟩ := enters
      obtain ⟨s, fact⟩ := vertex
      obtain ⟨entry, found⟩ := start
      obtain ⟨rfl, rfl⟩ := toCallees_mem_call.mp passes
      change found ∈ across .reachable at starts
      obtain ⟨_, rfl⟩ := mem_across.mp starts
      refine ⟨Program.Reachable.callee holds resolved first, ?_⟩
      intro call member
      rcases List.mem_cons.mp member with rfl | older
      · exact holds
      · exact calls call older
  | @leave call vertex next stack exit reenters =>
      obtain ⟨successor, flows⟩ := reenters
      obtain ⟨s, fact⟩ := next
      obtain ⟨_, rfl⟩ := mem_across.mp flows
      exact ⟨Program.Reachable.next (calls call (List.mem_cons_self ..)) successor,
        fun older member => calls older (List.mem_cons_of_mem _ member)⟩

private theorem Sound.run {before after : Configuration Statement Definition}
    (sound : Sound p banned entries before)
    (run : Relation.ReflTransGen ((rules p).Moves (p.dispatch banned)) before after) :
    Sound p banned entries after := by
  induction run with
  | refl => exact sound
  | tail _ move inductionHypothesis => exact inductionHypothesis.move move

/-- Calls and other statements treat definitions alike. -/
private theorem moves_of_sequent (loaded : p.Loaded) {s next : Statement}
    {fact found : Definition} {stack : List Statement} (successor : next ∈ p.successors s)
    (flows : found ∈ sequent p s next fact) :
    (rules p).Moves (p.dispatch banned) ⟨⟨s, fact⟩, stack⟩ ⟨⟨next, found⟩, stack⟩ := by
  obtain ⟨instruction, here, _⟩ := Program.mem_successors.mp successor
  by_cases isCall : ∃ call, instruction = .call call
  · obtain ⟨call, rfl⟩ := isCall
    exact Program.moves_over rfl here successor (toReturn_mem_call.mpr flows)
  · refine loaded.moves_inside rfl here ?_ successor flows
    cases instruction with
    | call call => exact absurd ⟨call, rfl⟩ isCall
    | _ => rfl

private theorem realizable_of_reachable (loaded : p.Loaded) {s : Statement}
    (reachable : p.Reachable banned entries s) :
    (rules p).Realizable (p.dispatch banned) (p.startVertices entries (rules p))
      ⟨s, .reachable⟩ := by
  induction reachable with
  | @entry id s isEntry first =>
      exact ⟨⟨s, .reachable⟩, ⟨⟨id, isEntry, first⟩, List.mem_singleton_self _⟩, [],
        Relation.ReflTransGen.refl⟩
  | next _ successor inductionHypothesis =>
      obtain ⟨start, isStart, stack, run⟩ := inductionHypothesis
      exact ⟨start, isStart, stack, run.tail
        (moves_of_sequent loaded successor (mem_sequent_reachable.mpr (Or.inl rfl)))⟩
  | @callee s entry id _ resolved first inductionHypothesis =>
      obtain ⟨start, isStart, stack, run⟩ := inductionHypothesis
      obtain ⟨call, _, here, _⟩ := Program.mem_resolve.mp resolved
      obtain ⟨m, known, isEntry⟩ := Program.mem_entries_iff.mp first
      obtain ⟨rfl, _⟩ := loaded.method?_eq_some known
      exact ⟨start, isStart, s :: stack, run.tail
        (Program.moves_into rfl here (fun _ => toCallees_mem_call.mpr ⟨rfl, rfl⟩) resolved
          known isEntry (mem_across.mpr ⟨rfl, rfl⟩))⟩

private theorem realizable_of_carries (loaded : p.Loaded) {name : String}
    {site first s : Statement}
    (reached : (rules p).Realizable (p.dispatch banned) (p.startVertices entries (rules p))
      ⟨first, .of name site⟩)
    (path : p.Carries name first s) :
    (rules p).Realizable (p.dispatch banned) (p.startVertices entries (rules p))
      ⟨s, .of name site⟩ := by
  induction path with
  | refl => exact reached
  | tail _ step inductionHypothesis =>
      obtain ⟨start, isStart, stack, run⟩ := inductionHypothesis
      exact ⟨start, isStart, stack, run.tail
        (moves_of_sequent loaded step.1 (mem_sequent_of.mpr ⟨step.2, rfl⟩))⟩

theorem realizable_iff_holds (loaded : p.Loaded) {s : Statement} {fact : Definition} :
    (rules p).Realizable (p.dispatch banned) (p.startVertices entries (rules p)) ⟨s, fact⟩ ↔
      Holds p banned entries s fact := by
  constructor
  · rintro ⟨⟨start, zero⟩, ⟨⟨id, isEntry, first⟩, isStart⟩, stack, run⟩
    have begins : Sound p banned entries ⟨⟨start, zero⟩, []⟩ := by
      obtain rfl := List.mem_singleton.mp isStart
      refine ⟨Program.Reachable.entry isEntry first, ?_⟩
      intro call member
      cases member
    exact (begins.run run).1
  · intro holds
    cases fact with
    | reachable => exact realizable_of_reachable loaded holds
    | of name site =>
        obtain ⟨reachable, rfl, named, first, isFirst, path⟩ := holds
        refine realizable_of_carries loaded ?_ path
        obtain ⟨start, isStart, stack, run⟩ := realizable_of_reachable loaded reachable
        exact ⟨start, isStart, stack, run.tail (moves_of_sequent loaded isFirst
          (mem_sequent_reachable.mpr (Or.inr ⟨named, rfl⟩)))⟩

/-! ### The report -/

section Report

variable {data : Solution Statement Definition}

private theorem mem_definitions {name : String} {site : Statement} :
    (name, site) ∈ definitions data ↔ ∃ s, ⟨s, .of name site⟩ ∈ data.facts := by
  unfold definitions
  rw [Text.mem_distinct, List.mem_filterMap]
  constructor
  · rintro ⟨⟨s, fact⟩, member, same⟩
    cases fact with
    | reachable => cases same
    | of other place =>
        cases same
        exact ⟨s, member⟩
  · rintro ⟨s, member⟩
    exact ⟨_, member, rfl⟩

private theorem isRead_iff {name : String} {site : Statement} :
    isRead p data name site = true ↔
      ∃ s, ⟨s, .of name site⟩ ∈ data.facts ∧ p.Reads s name := by
  unfold isRead Program.Reads
  rw [List.any_eq_true]
  constructor
  · rintro ⟨⟨s, fact⟩, member, reads⟩
    simp only [Bool.and_eq_true, beq_iff_eq, Option.any_eq_true, Option.map_eq_some_iff,
      List.contains_iff_mem] at reads
    obtain ⟨rfl, _, ⟨instruction, here, rfl⟩, used⟩ := reads
    exact ⟨s, member, instruction, here, used⟩
  · rintro ⟨s, member, instruction, here, used⟩
    refine ⟨_, member, ?_⟩
    simp [here, used]

/-- The order of the report: by the method, the position in it and the variable. -/
def definitionKey (definition : String × Statement) : List ℕ ×ₗ ℕ ×ₗ List ℕ :=
  toLex (Text.codes definition.2.method.text,
    toLex (definition.2.position, Text.codes definition.1))

private theorem definitionBefore_iff (a b : String × Statement) :
    definitionBefore a b = true ↔ definitionKey a < definitionKey b := by
  unfold definitionBefore definitionKey
  rw [Prod.Lex.toLex_lt_toLex, Prod.Lex.toLex_lt_toLex]
  simp only [Text.textBefore_iff]
  rcases lt_trichotomy (Text.codes a.2.method.text) (Text.codes b.2.method.text) with
    before | same | after
  · simp [before]
  · -- Methods with one name leave the order to the positions.
    rcases Nat.lt_trichotomy a.2.position b.2.position with before | equal | after
    · simp [same, before, before.ne]
    · simp [same, equal, Text.textBefore_iff]
    · simp [same, after.ne', after.not_gt]
  · simp [after, after.not_gt, after.ne']

private theorem mem_dead
    (facts : ∀ s fact, ⟨s, fact⟩ ∈ data.facts ↔ Holds p banned entries s fact)
    {name : String} {site : Statement} :
    (name, site) ∈ definitions data ∧ isRead p data name site = false ↔
      IsDead p banned entries name site := by
  rw [mem_definitions, Bool.eq_false_iff, ne_eq, isRead_iff]
  simp only [facts]
  constructor
  · rintro ⟨⟨s, reachable, defined, named, _⟩, unread⟩
    refine ⟨reachable, defined, named, fun next successor live => ?_⟩
    obtain ⟨last, path, reads⟩ := Program.isLive_iff.mp live
    exact unread ⟨last, ⟨reachable, defined, named, next, successor, path⟩, reads⟩
  · rintro ⟨reachable, defined, named, unread⟩
    obtain ⟨next, successor⟩ := exists_successor (defined ▸ named)
    refine ⟨⟨next, reachable, defined, named, next, successor, Relation.ReflTransGen.refl⟩, ?_⟩
    rintro ⟨last, ⟨_, _, _, first, isFirst, path⟩, reads⟩
    exact unread first isFirst (Program.isLive_iff.mpr ⟨last, path, reads⟩)

def findingOf (definition : String × Statement) : Finding Statement Definition :=
  ⟨⟨definition.2, .of definition.1 definition.2⟩, rule,
    "value assigned to " ++ definition.1 ++ " is never used"⟩

theorem findingOf_injective : Function.Injective findingOf := by
  rintro ⟨name, site⟩ ⟨other, place⟩ same
  cases same
  rfl

end Report

/-- A finished run reports the dead definitions and nothing else. -/
theorem mem_deadStores_iff (loaded : p.Loaded) {config : Config}
    (outcome : p.IsOutcome config entries (rules p) data)
    (finding : Finding Statement Definition) :
    finding ∈ deadStores p data ↔ ∃ definition : String × Statement,
      IsDead p config.options.banned entries definition.1 definition.2 ∧
        findingOf definition = finding := by
  have facts : ∀ s fact, ⟨s, fact⟩ ∈ data.facts ↔
      Holds p config.options.banned entries s fact := by
    intro s fact
    rw [outcome.mem_facts (onlyFindings p), realizable_iff_holds loaded]
  change finding ∈ List.map findingOf _ ↔ _
  rw [List.mem_map]
  apply exists_congr
  rintro ⟨name, site⟩
  apply and_congr_left
  intro _
  have sorted := List.mergeSort_perm ((definitions data).filter fun definition =>
    !isRead p data definition.1 definition.2) fun a b => !definitionBefore b a
  rw [Text.sortBy, sorted.mem_iff, List.mem_filter, Bool.not_eq_true']
  exact mem_dead facts

/-- A finished run knows which statements are reachable, and it reports the dead
definitions, each once and in their order. -/
theorem deadStores_exact (p : Program) (loaded : p.Loaded) (config : Config)
    (entries : List MethodName) (data : Solution Statement Definition)
    (outcome : p.IsOutcome config entries (rules p) data) :
    (∀ s, .reachable ∈ data.factsAt s ↔ p.Reachable config.options.banned entries s) ∧
    ∃ dead : List (String × Statement), deadStores p data = dead.map findingOf ∧
      dead.Nodup ∧
      (∀ name site, (name, site) ∈ dead ↔
        IsDead p config.options.banned entries name site) ∧
      dead.Pairwise fun a b => definitionKey a ≤ definitionKey b := by
  have facts : ∀ s fact, ⟨s, fact⟩ ∈ data.facts ↔
      Holds p config.options.banned entries s fact := by
    intro s fact
    rw [outcome.mem_facts (onlyFindings p), realizable_iff_holds loaded]
  have sorted : ∀ items, (Text.sortBy definitionBefore items).Perm items :=
    fun items => List.mergeSort_perm items _
  refine ⟨fun s => by rw [data.mem_factsAt, facts]; rfl, _, rfl, ?_, fun name site => ?_,
    Text.pairwise_sortBy definitionKey definitionBefore_iff _⟩
  · exact (sorted _).nodup_iff.mpr ((Text.nodup_distinct _).filter _)
  · rw [(sorted _).mem_iff, List.mem_filter, Bool.not_eq_true', mem_dead facts]

private theorem relay_isDead :
    IsDead Sample.relay [] [Sample.relayMain] "n" ⟨Sample.relayMain, 3⟩ where
  reachable := by
    have first : Sample.relay.Reachable [] [Sample.relayMain] ⟨Sample.relayMain, 0⟩ :=
      .entry (List.mem_singleton_self _) (by decide)
    have second : Sample.relay.Reachable [] [Sample.relayMain] ⟨Sample.relayMain, 1⟩ :=
      first.next (by decide)
    have third : Sample.relay.Reachable [] [Sample.relayMain] ⟨Sample.relayMain, 2⟩ :=
      second.next (by decide)
    exact third.next (by decide)
  defined := by decide
  named := by decide
  unread := by
    intro next successor live
    have last : Sample.relay.successors ⟨Sample.relayMain, 3⟩ = [⟨Sample.relayMain, 4⟩] := by
      decide
    rw [last, List.mem_singleton] at successor
    subst successor
    have ends : Sample.relay.successors ⟨Sample.relayMain, 4⟩ = [] := by decide
    cases live with
    | read reads => exact absurd reads (by decide)
    | later _ successor _ =>
        rw [ends] at successor
        cases successor

private theorem relay_isLive : Sample.relay.IsLive "x" ⟨Sample.relayMain, 1⟩ := by
  have used : Sample.relay.IsLive "x" ⟨Sample.relayMain, 2⟩ := .read (by decide)
  exact .later (by decide) (by decide +kernel) used

/-- What comes back from the last call is not read, and what the first one reads is. -/
theorem deadStores_exact_relay : ∃ data,
    Sample.relay.IsOutcome Sample.relayConfig [Sample.relayMain] (rules Sample.relay) data ∧
    findingOf ("n", ⟨Sample.relayMain, 3⟩) ∈ deadStores Sample.relay data ∧
    findingOf ("x", ⟨Sample.relayMain, 0⟩) ∉ deadStores Sample.relay data := by
  obtain ⟨data, outcome, _⟩ := Program.exists_isOutcome_of_run Sample.relay
    Sample.relayConfig [Sample.relayMain] (rules Sample.relay) .byClass 100 (by decide +kernel)
  obtain ⟨_, dead, report, _, isDead, _⟩ := deadStores_exact Sample.relay
    Sample.relay_loaded Sample.relayConfig [Sample.relayMain] data outcome
  refine ⟨data, outcome, ?_⟩
  rw [report, List.mem_map_of_injective findingOf_injective,
    List.mem_map_of_injective findingOf_injective, isDead, isDead]
  exact ⟨relay_isDead, fun dead => dead.unread _ (by decide) relay_isLive⟩

end DeadStore

end Tabulation
