/-
Every order of handling messages leads to the same end.

What a run has handled is bounded by what any finished run with the same messages from outside has
handled: the next message of the one was sent, is due or is part of a reply, and the other has
handled all of these. So two finished runs have handled the same messages, and no run goes on for
ever if one comes to an end.
-/

import Tabulation.Proofs.Schedule

namespace Tabulation

variable {S F M : Type}

/-- Two stores hold the same items, in whatever order. -/
structure Store.SameContent [DecidableEq S] [DecidableEq F] (left right : Store S F) : Prop where
  runner : left.runner = right.runner
  edges : ∀ edge, left.hasEdge edge = right.hasEdge edge
  reasons : left.reasons.Perm right.reasons
  summaries : left.summaries.Perm right.summaries
  onStart : left.onStart.Perm right.onStart
  onEnd : left.onEnd.Perm right.onEnd
  findings : left.findings.Perm right.findings

theorem Store.Records.sameContent [DecidableEq S] [DecidableEq F] {left right : Store S F}
    {handled : Set (Message S F M)} (first : left.Records handled) (second : right.Records handled)
    (runner : left.runner = right.runner) : left.SameContent right where
  runner := runner
  edges := fun edge => Bool.eq_iff_iff.mpr <| by
    simp only [Store.hasEdge_iff, first.reasons, second.reasons]
  reasons := (List.perm_ext_iff_of_nodup first.reasonsNodup second.reasonsNodup).mpr
    fun pair => (first.reasons pair.1 pair.2).trans (second.reasons pair.1 pair.2).symm
  summaries := (List.perm_ext_iff_of_nodup first.summariesNodup second.summariesNodup).mpr
    fun edge => (first.summaries edge).trans (second.summaries edge).symm
  onStart := (List.perm_ext_iff_of_nodup first.onStartNodup second.onStartNodup).mpr
    fun wish => (first.onStart _ _ _).trans (second.onStart wish.vertex wish.subscriber wish.edge).symm
  onEnd := (List.perm_ext_iff_of_nodup first.onEndNodup second.onEndNodup).mpr
    fun wish => (first.onEnd _ _ _).trans (second.onEnd wish.vertex wish.subscriber wish.edge).symm
  findings := (List.perm_ext_iff_of_nodup first.findingsNodup second.findingsNodup).mpr
    fun finding => (first.findings finding).trans (second.findings finding).symm

namespace Engine

theorem reply_congr {engine other : Engine S F M} (same : other.registry = engine.registry) :
    other.reply = engine.reply := by
  funext barrierOpen message
  unfold reply
  rw [same]

private theorem flatMap_le {α β : Type} {few many : List α}
    (le : (few : Multiset α) ≤ many) (f : α → List β) :
    (few.flatMap f : Multiset β) ≤ (many.flatMap f : List β) := by
  obtain ⟨rest, split⟩ := Multiset.le_iff_exists_add.mp le
  rw [← Multiset.coe_bind, ← Multiset.coe_bind, split, Multiset.add_bind]
  exact Multiset.le_add_right _ _

variable {engine other : Engine S F M} {final run first second : History S F M}

theorem Accounts.handled_eq (accounts : engine.Accounts final) (finished : final.pending = []) :
    ∃ answered : List (Message S F M), answered.Nodup ∧
      (∀ answer, answer ∈ answered ↔
        Due engine.strategy {message | message ∈ final.handled} answer) ∧
      (final.handled : Multiset (Message S F M)) =
        final.sent + answered + final.handled.flatMap (engine.reply false) := by
  obtain ⟨answered, nodup, due, balance⟩ := accounts.balance
  rw [finished, Multiset.coe_nil, zero_add] at balance
  exact ⟨answered, nodup, due, balance⟩

theorem Accounts.cons_handled_le (done : engine.Accounts final) (finished : final.pending = [])
    (accounts : other.Accounts run) (registry : other.registry = engine.registry)
    (covers : ∀ answer, Due other.strategy {message | message ∈ final.handled} answer →
      Due engine.strategy {message | message ∈ final.handled} answer)
    (sent : (run.sent : Multiset (Message S F M)) ≤ final.sent)
    (within : (run.handled : Multiset (Message S F M)) ≤ final.handled)
    {message : Message S F M} (waiting : message ∈ run.pending) :
    ((message :: run.handled : List (Message S F M)) : Multiset (Message S F M)) ≤ final.handled := by
  obtain ⟨answered, nodup, due, balance⟩ := accounts.balance
  obtain ⟨allAnswered, _, allDue, total⟩ := done.handled_eq finished
  have answers : (answered : Multiset (Message S F M)) ≤ allAnswered := by
    refine (Multiset.le_iff_subset (Multiset.coe_nodup.mpr nodup)).mpr fun answer member => ?_
    have made := (due answer).mp member
    have subset : {message | message ∈ run.handled} ⊆ {message | message ∈ final.handled} :=
      fun _ known => Multiset.mem_of_le within known
    exact (allDue answer).mpr (covers answer (made.mono subset))
  have replies := flatMap_le within (engine.reply false)
  rw [reply_congr registry] at balance
  calc ((message :: run.handled : List (Message S F M)) : Multiset (Message S F M))
      = {message} + (run.handled : Multiset (Message S F M)) := by
        rw [← Multiset.cons_coe, Multiset.singleton_add]
    _ ≤ run.pending + run.handled := by
        exact add_le_add_left (Multiset.singleton_le.mpr waiting) _
    _ = run.sent + answered + run.handled.flatMap (engine.reply false) := balance
    _ ≤ final.sent + allAnswered + final.handled.flatMap (engine.reply false) :=
        add_le_add (add_le_add sent answers) replies
    _ = final.handled := total.symm

/-! ### Messages that are sent again -/

/-- A message asks for an edge that was recorded before. -/
def Repeats (handled : List (Message S F M)) (message : Message S F M) : Prop :=
  message ∈ handled ∧ ∃ runner edge reason, message = .newEdge runner edge reason

private theorem flatMap_reply_of_repeats {handled taken : List (Message S F M)}
    (repeats : ∀ message ∈ taken, Repeats handled message) :
      taken.flatMap (engine.reply false) = [] := by
  rw [List.flatMap_eq_nil_iff]
  intro message member
  obtain ⟨_, runner, edge, reason, rfl⟩ := repeats message member
  rfl

theorem mem_append_of_repeats {handled taken : List (Message S F M)}
    (repeats : ∀ message ∈ taken, Repeats handled message) (message : Message S F M) :
    message ∈ taken ++ handled ↔ message ∈ handled := by
  rw [List.mem_append]
  constructor
  · rintro (new | old)
    · exact (repeats message new).1
    · exact old
  · exact Or.inr

private theorem Accounts.pending_of_repeats (done : engine.Accounts final)
    (finished : final.pending = []) (accounts : engine.Accounts run)
    {again taken : List (Message S F M)} (sent : run.sent = again ++ final.sent)
    (handled : run.handled = taken ++ final.handled)
    (repeats : ∀ message ∈ taken, Repeats final.handled message) :
    (run.pending ++ taken).Perm again := by
  obtain ⟨answered, nodup, due, balance⟩ := accounts.balance
  obtain ⟨before, beforeNodup, beforeDue, total⟩ := done.handled_eq finished
  have same : (answered : Multiset (Message S F M)) = before := by
    refine Multiset.coe_eq_coe.mpr ((List.perm_ext_iff_of_nodup nodup beforeNodup).mpr ?_)
    intro answer
    have sets : {message | message ∈ run.handled} = {message | message ∈ final.handled} := by
      ext message
      rw [handled]
      exact mem_append_of_repeats repeats message
    rw [due, beforeDue, sets]
  rw [handled, sent, List.flatMap_append, flatMap_reply_of_repeats repeats, List.nil_append,
    same] at balance
  rw [← Multiset.coe_add, ← Multiset.coe_add] at balance
  have shifted : (run.pending + taken : Multiset (Message S F M)) + final.handled =
      again + final.handled := by
    calc (run.pending + taken : Multiset (Message S F M)) + final.handled
        = run.pending + (taken + final.handled) := by abel
      _ = again + final.sent + before + final.handled.flatMap (engine.reply false) := balance
      _ = again + (final.sent + before + final.handled.flatMap (engine.reply false)) := by abel
      _ = again + final.handled := by rw [← total]
  rw [Multiset.coe_add] at shifted
  exact Multiset.coe_eq_coe.mp (add_right_cancel shifted)

variable [DecidableEq S] [DecidableEq F]

theorem Accounts.sameContent (left : engine.Accounts first) (right : engine.Accounts second)
    (same : ∀ message, message ∈ first.handled ↔ message ∈ second.handled) (chunk runner : String) :
    (first.state.storeOf chunk runner).SameContent (second.state.storeOf chunk runner) := by
  have sets : {message | message ∈ first.handled} = {message | message ∈ second.handled} :=
    Set.ext same
  have records := left.records chunk runner
  rw [sets] at records
  exact records.sameContent (right.records chunk runner)
    ((left.owner chunk runner).trans (right.owner chunk runner).symm)

variable [Shown S] [Shown F] [Shown M]

/-- No run gets beyond a finished one. The two engines may divide the program differently, as long
as the finished one gives the answers that the other owes. -/
theorem Accounts.handled_le (done : engine.Accounts final) (finished : final.pending = [])
    (registry : other.registry = engine.registry)
    (covers : ∀ answer, Due other.strategy {message | message ∈ final.handled} answer →
      Due engine.strategy {message | message ∈ final.handled} answer)
    {log : Log} (reaches : other.Reaches log run)
    (sent : (run.sent : Multiset (Message S F M)) ≤ final.sent) :
    (run.handled : Multiset (Message S F M)) ≤ final.handled := by
  induction reaches with
  | refl => exact Multiset.zero_le _
  | tail before move ih =>
      cases move with
      | send accepted =>
          refine ih (le_trans ?_ sent)
          rw [← Multiset.cons_coe]
          exact Multiset.le_cons_self _ _
      | handle waiting =>
          exact done.cons_handled_le finished (Reaches.accounts before) registry covers sent
            (ih sent) (History.mem_pending waiting)

variable {log : Log}

theorem Reaches.handled_perm (left : engine.Reaches log first) (right : engine.Reaches log second)
    (sent : first.sent.Perm second.sent) (leftDone : first.pending = [])
    (rightDone : second.pending = []) : first.handled.Perm second.handled := by
  have same := Multiset.coe_eq_coe.mpr sent
  have up := (Reaches.accounts right).handled_le rightDone rfl (fun _ => id) left same.le
  have down := (Reaches.accounts left).handled_le leftDone rfl (fun _ => id) right same.ge
  exact Multiset.coe_eq_coe.mp (le_antisymm up down)

/-! ### Going on after the end -/

private theorem Accounts.storeOf_take_of_repeats (accounts : engine.Accounts run)
    {handled taken : List (Message S F M)} (records : run.handled = taken ++ handled)
    {message : Message S F M} (repeated : Repeats handled message)
    (rest : List (Place × Message S F M)) (place : Place) (chunk runner : String) :
    (engine.take run.state rest place message).storeOf chunk runner =
      run.state.storeOf chunk runner := by
  obtain ⟨known, sender, edge, reason, rfl⟩ := repeated
  rw [engine.storeOf_take accounts.running]
  split
  · rename_i owned
    refine Store.react_of_mem (((accounts.records chunk runner).reasons edge reason).mpr ?_) sender
    refine ⟨sender, ?_, owned⟩
    rw [Set.mem_ofPred_eq, records]
    exact List.mem_append_right taken known
  · rfl

/-- A run that goes on from its end with edges that were recorded before handles these edges only,
and no store changes. -/
theorem Reaches.repeated (reaches : engine.Reaches log final) (finished : final.pending = [])
    {later : History S F M} (goesOn : Relation.ReflTransGen engine.Move final later) :
    ∃ again taken, later.sent = again ++ final.sent ∧ later.handled = taken ++ final.handled ∧
      ((∀ message ∈ again, Repeats final.handled message) →
        (later.pending ++ taken).Perm again ∧
          ∀ chunk runner, later.state.storeOf chunk runner = final.state.storeOf chunk runner) := by
  have done := Reaches.accounts reaches
  induction goesOn with
  | refl => exact ⟨[], [], rfl, rfl, fun _ => ⟨by rw [finished]; rfl, fun _ _ => rfl⟩⟩
  | @tail middle last before move ih =>
      have accounts := Reaches.accounts (reaches.trans before)
      have moved := Reaches.accounts ((reaches.trans before).tail move)
      obtain ⟨again, taken, sent, handled, follows⟩ := ih
      cases move with
      | @send message next accepted =>
          have sentAfter : message :: middle.sent = (message :: again) ++ final.sent := by
            rw [sent]
            rfl
          refine ⟨message :: again, taken, sentAfter, handled, fun repeats => ?_⟩
          have earlier := fun message member => repeats message (List.mem_cons_of_mem _ member)
          obtain ⟨perm, stores⟩ := follows earlier
          refine ⟨?_, ?_⟩
          · refine done.pending_of_repeats finished moved sentAfter handled fun message member => ?_
            exact earlier message (perm.subset (List.mem_append_right _ member))
          · intro chunk runner
            rw [← stores]
            unfold Engine.send at accepted
            split at accepted <;> cases accepted
            rfl
      | @handle front back place message waiting =>
          have handledAfter : message :: middle.handled = (message :: taken) ++ final.handled := by
            rw [handled]
            rfl
          refine ⟨again, message :: taken, sent, handledAfter, fun repeats => ?_⟩
          obtain ⟨perm, stores⟩ := follows repeats
          have repeated := repeats message
            (perm.subset (List.mem_append_left _ (History.mem_pending waiting)))
          refine ⟨?_, ?_⟩
          · refine done.pending_of_repeats finished moved sent handledAfter fun other member => ?_
            rcases List.mem_cons.mp member with rfl | old
            · exact repeated
            · exact repeats other (perm.subset (List.mem_append_right _ old))
          · intro chunk runner
            rw [← stores]
            exact accounts.storeOf_take_of_repeats handled repeated _ _ chunk runner

/-! ### Runs that go on for ever -/

theorem length_of_moves {run : ℕ → History S F M}
    (moves : ∀ n, engine.Move (run n) (run (n + 1))) (n : ℕ) :
      (run 0).sent.length + (run 0).handled.length + n =
      (run n).sent.length + (run n).handled.length := by
  induction n with
  | zero => rfl
  | succ n ih =>
      have move := moves n
      generalize run (n + 1) = next at move ⊢
      cases move with
      | send accepted =>
          simp only [List.length_cons]
          omega
      | handle waiting =>
          simp only [List.length_cons]
          omega

theorem reaches_of_moves {run : ℕ → History S F M} (begins : run 0 = .initial log)
    (moves : ∀ n, engine.Move (run n) (run (n + 1))) (n : ℕ) : engine.Reaches log (run n) := by
  induction n with
  | zero =>
      rw [begins]
      exact Relation.ReflTransGen.refl
  | succ n ih => exact Relation.ReflTransGen.tail ih (moves n)

theorem Reaches.no_infinite_run (reaches : engine.Reaches log final) (finished : final.pending = [])
    (run : ℕ → History S F M) (begins : run 0 = .initial log)
    (moves : ∀ n, engine.Move (run n) (run (n + 1))) :
    ¬∀ n, (run n).sent.Subperm final.sent := by
  intro bounded
  let steps := final.sent.length + final.handled.length + 1
  have within := (Reaches.accounts reaches).handled_le finished rfl (fun _ => id)
    (reaches_of_moves begins moves steps) (Multiset.coe_le.mpr (bounded steps))
  have handled := Multiset.card_le_card within
  have sent := (bounded steps).length_le
  have total := length_of_moves moves steps
  simp only [Multiset.coe_card] at handled
  rw [begins] at total
  simp only [History.initial, List.length_nil, steps] at total handled sent
  omega

/-- Let some run come to its end. Any other run with the same messages from outside, sent at
whatever moments, that comes to its end has handled the same messages, each as often, and its stores
have the same content. No run goes on for ever with messages from outside that are among these. And
where the finished run goes on with start edges that were sent before, these are handled, nothing
follows from them and no store changes. -/
theorem runs_confluent (engine : Engine S F M) (log : Log) (final : History S F M)
    (reaches : engine.Reaches log final) (finished : final.pending = []) :
    (∀ other, engine.Reaches log other → other.sent.Perm final.sent → other.pending = [] →
      other.handled.Perm final.handled ∧
        ∀ chunk runner, (other.state.storeOf chunk runner).SameContent
          (final.state.storeOf chunk runner)) ∧
    (∀ run : ℕ → History S F M, run 0 = .initial log →
      (∀ n, engine.Move (run n) (run (n + 1))) → ¬∀ n, (run n).sent.Subperm final.sent) ∧
    (∀ later again, Relation.ReflTransGen engine.Move final later →
      later.sent = again ++ final.sent →
      (∀ message ∈ again, message ∈ final.sent ∧
        ∃ runner edge reason, message = .newEdge runner edge reason) →
      (∀ chunk runner, later.state.storeOf chunk runner = final.state.storeOf chunk runner) ∧
        ∃ taken, later.handled = taken ++ final.handled ∧ (later.pending ++ taken).Perm again) := by
  have done := Reaches.accounts reaches
  refine ⟨?_, ?_, ?_⟩
  · intro other otherReaches sent otherFinished
    have handled := Reaches.handled_perm otherReaches reaches sent otherFinished finished
    refine ⟨handled, fun chunk runner => ?_⟩
    exact (Reaches.accounts otherReaches).sameContent done (fun _ => handled.mem_iff) chunk runner
  · intro run begins moves
    exact Reaches.no_infinite_run reaches finished run begins moves
  · intro later again goesOn sent known
    obtain ⟨more, taken, sentMore, handled, follows⟩ := Reaches.repeated reaches finished goesOn
    have same : more = again := List.append_cancel_right (sentMore.symm.trans sent)
    subst same
    have repeats : ∀ message ∈ more, Repeats final.handled message := by
      intro message member
      obtain ⟨old, seeded⟩ := known message member
      exact ⟨done.mem_of_sent finished old, seeded⟩
    obtain ⟨perm, stores⟩ := follows repeats
    exact ⟨stores, taken, handled, perm⟩

theorem runs_confluent_sample : ∃ final, (Sample.engine Sample.graph.methodOf).Reaches
    Sample.log final ∧
    final.pending = [] ∧
    ∀ other, (Sample.engine Sample.graph.methodOf).Reaches Sample.log other →
      other.sent.Perm [Sample.seed] → other.pending = [] → other.handled.Perm final.handled := by
  obtain ⟨final, reaches, finished, sent⟩ := Sample.finishes_by_method
  refine ⟨final, reaches, finished, fun other otherReaches same otherFinished => ?_⟩
  have confluent := runs_confluent (Sample.engine Sample.graph.methodOf) Sample.log final
      reaches finished
  exact (confluent.1 other otherReaches (sent ▸ same) otherFinished).1

end Engine

end Tabulation
