/-
All elementary cycles, each once.

The cycles through an id whose other ids come later are those of the strongly connected component of
this id among the later ones, since all ids of a cycle reach each other.  So each cycle is found at its
smallest id, and nowhere else.
-/

import Mathlib.Data.List.Cycle
import Tabulation.Proofs.BlockedSearch
import Tabulation.Proofs.ConnectedComponents

namespace Tabulation.Digraph

variable {α : Type} {g : Digraph α}

/-! ### Subgraphs -/

section Subgraph

variable {included : List Nat}

theorem links_subgraph {source target : Nat} : (g.subgraph included).Links source target ↔
    source ∈ included ∧ target ∈ included ∧ g.Links source target := by
  unfold Links successors subgraph
  rw [Array.getElem?_mapIdx]
  cases g.rows[source]? with
  | none => simp
  | some row =>
      by_cases isIncluded : source ∈ included <;> simp [isIncluded, and_comm]

theorem IsNumbered.subgraph (isNumbered : g.IsNumbered) : (g.subgraph included).IsNumbered where
  bounded := fun link => isNumbered.bounded (links_subgraph.mp link).2.2
  nodup := fun source => by
    have row := isNumbered.nodup source
    unfold successors Digraph.subgraph at *
    rw [Array.getElem?_mapIdx]
    cases found : g.rows[source]? with
    | none => exact List.nodup_nil
    | some ids =>
        rw [found] at row
        rw [Option.map_some, Option.getD_some]
        split
        · exact row.filter _
        · exact List.nodup_nil

end Subgraph

/-! ### Walks around -/

/-- Edges lead from an id along others and back to it, and no id comes twice. -/
structure GoesAround (g : Digraph α) (start : Nat) (inner : List Nat) : Prop where
  nodup : (start :: inner).Nodup
  chain : List.IsChain g.Links (start :: inner ++ [start])

namespace GoesAround

variable {start : Nat} {inner included : List Nat}

/-- All ids of a walk around reach each other. -/
theorem reaches (around : g.GoesAround start inner) {id : Nat} (member : id ∈ inner) :
    Relation.ReflTransGen g.Links start id ∧ Relation.ReflTransGen g.Links id start := by
  have walked : id ∈ start :: inner ++ [start] :=
    List.mem_append_left _ (List.mem_cons_of_mem start member)
  constructor
  · exact List.IsChain.induction (Relation.ReflTransGen g.Links start) _ around.chain
      (fun _ _ link path => path.tail link) (fun _ => .refl) id walked
  · exact List.IsChain.backwards_induction (Relation.ReflTransGen g.Links · start) _ around.chain
      (fun _ _ link path => path.head link) (fun _ => by rw [List.getLast_append_singleton]) id walked

theorem reaches_itself (around : g.GoesAround start inner) {id : Nat}
    (member : id ∈ start :: inner) : Relation.TransGen g.Links id id := by
  -- The last edge leads to the start.
  have last := around.chain.rel_getLast_head_of_append (List.cons_ne_nil _ _) (List.cons_ne_nil _ _)
  have ofLast : ∀ a ∈ start :: inner, Relation.ReflTransGen g.Links start a ∧
      Relation.ReflTransGen g.Links a start := by
    refine List.forall_mem_cons.mpr ⟨⟨.refl, .refl⟩, fun a isInner => around.reaches isInner⟩
  obtain ⟨toLast, _⟩ := ofLast _ (List.getLast_mem (List.cons_ne_nil start inner))
  obtain ⟨path, back⟩ := ofLast id member
  have loop : Relation.TransGen g.Links start start := Relation.TransGen.tail' toLast last
  exact Relation.TransGen.trans_left (Relation.TransGen.trans_right back loop) path

theorem lt_order (around : g.GoesAround start inner) (isNumbered : g.IsNumbered) {id : Nat}
    (member : id ∈ start :: inner) : id < g.order := by
  obtain ⟨_, _, link⟩ := Relation.TransGen.tail'_iff.mp (around.reaches_itself member)
  exact isNumbered.bounded link

/-- A walk around is one in a subgraph if all of its ids are included. -/
theorem subgraph_iff (isIncluded : start ∈ included) :
    (g.subgraph included).GoesAround start inner ↔
      g.GoesAround start inner ∧ ∀ id ∈ inner, id ∈ included := by
  constructor
  · intro around
    refine ⟨⟨around.nodup, around.chain.imp fun _ _ link => (links_subgraph.mp link).2.2⟩,
      fun id member => ?_⟩
    exact List.IsChain.induction (· ∈ included) _ around.chain
      (fun _ _ link _ => (links_subgraph.mp link).2.1) (fun _ => isIncluded) id
      (List.mem_append_left _ (List.mem_cons_of_mem start member))
  · rintro ⟨around, inside⟩
    have all : ∀ id ∈ start :: inner ++ [start], id ∈ included := by
      intro id member
      rcases List.mem_append.mp member with before | last
      · exact (List.mem_cons.mp before).elim (fun same => same ▸ isIncluded) (inside id)
      · exact List.mem_singleton.mp last ▸ isIncluded
    refine ⟨around.nodup, around.chain.imp_of_mem_imp fun source target isSource isTarget link => ?_⟩
    exact links_subgraph.mpr ⟨all source isSource, all target isTarget, link⟩

end GoesAround

/-- The cycles that complete a path are those that go around through it. -/
theorem completes_iff_inner {start : Nat} {path cycle : List Nat} {id : Nat} :
    g.Completes start (id :: path) cycle ↔ ∃ inner, cycle = (id :: path).reverse ++ inner ++ [start] ∧
      List.IsChain g.Links (id :: inner ++ [start]) ∧ inner.Nodup ∧
      ∀ next ∈ inner, next ≠ start ∧ next ∉ id :: path := by
  constructor
  · have around : ∀ {whole cycle : List Nat}, g.Completes start whole cycle → ∀ {id : Nat}
        {path : List Nat}, whole = id :: path → ∃ inner,
        cycle = whole.reverse ++ inner ++ [start] ∧ List.IsChain g.Links (id :: inner ++ [start]) ∧
        inner.Nodup ∧ ∀ next ∈ inner, next ≠ start ∧ next ∉ whole := by
      intro whole cycle completes
      induction completes with
      | close link =>
          rintro _ _ ⟨⟩
          exact ⟨[], by simp, List.isChain_pair.mpr link, List.nodup_nil, List.forall_mem_nil _⟩
      | @extend _ next _ _ link differs unknown _ inductionHypothesis =>
          rintro _ _ ⟨⟩
          obtain ⟨inner, rfl, chain, nodup, apart⟩ := inductionHypothesis rfl
          refine ⟨next :: inner, by simp, chain.cons_cons link, ?_, ?_⟩
          · exact List.nodup_cons.mpr
              ⟨fun member => (apart next member).2 List.mem_cons_self, nodup⟩
          · refine List.forall_mem_cons.mpr ⟨⟨differs, unknown⟩, fun other member => ?_⟩
            exact (apart other member).imp_right fun off onPath =>
              off (List.mem_cons_of_mem next onPath)
    exact fun completes => around completes rfl
  · rintro ⟨inner, rfl, chain, nodup, apart⟩
    induction inner generalizing id path with
    | nil =>
        have close : g.Completes start (id :: path) (start :: id :: path).reverse :=
          .close (List.isChain_pair.mp chain)
        simpa using close
    | cons next inner inductionHypothesis =>
        obtain ⟨link, chain⟩ := List.isChain_cons_cons.mp chain
        obtain ⟨isNew, nodup⟩ := List.nodup_cons.mp nodup
        obtain ⟨⟨differs, unknown⟩, apart⟩ := List.forall_mem_cons.mp apart
        have extended : g.Completes start (next :: id :: path) _ := inductionHypothesis chain nodup
          fun other member => ⟨(apart other member).1, fun onPath =>
            (List.mem_cons.mp onPath).elim (fun same => isNew (same ▸ member)) (apart other member).2⟩
        have extend := Completes.extend link differs unknown extended
        simpa using extend

theorem completes_singleton_iff {start : Nat} {cycle : List Nat} :
    g.Completes start [start] cycle ↔
      ∃ inner, cycle = start :: inner ++ [start] ∧ g.GoesAround start inner := by
  rw [completes_iff_inner]
  refine exists_congr fun inner => and_congr_right fun _ => ?_
  constructor
  · rintro ⟨chain, nodup, apart⟩
    exact ⟨List.nodup_cons.mpr ⟨fun member => (apart start member).1 rfl, nodup⟩, chain⟩
  · rintro ⟨nodup, chain⟩
    obtain ⟨absent, nodup⟩ := List.nodup_cons.mp nodup
    have differs : ∀ next ∈ inner, next ≠ start := fun next member same => absent (same ▸ member)
    exact ⟨chain, nodup, fun next member =>
      ⟨differs next member, fun onPath => differs next member (List.mem_singleton.mp onPath)⟩⟩

/-! ### The cycles of a component -/

section Enumeration

variable {find : Digraph α → List (List Nat)} (finds : FindsComponents find)

include finds

/-- The component of an id holds it once, and all that it reaches and that reach it. -/
theorem mem_componentOf (isNumbered : g.IsNumbered) {start id : Nat} (inside : start < g.order)
    (path : Relation.ReflTransGen g.Links start id)
    (back : Relation.ReflTransGen g.Links id start) : id ∈ g.componentOf find start := by
  have components := finds g isNumbered
  have listed : ∀ a, Relation.ReflTransGen g.Links start a → a ∈ (find g).flatten := fun a path =>
    (components.mem a).mpr ⟨start, List.mem_range.mpr inside, path⟩
  obtain ⟨component, member, hasStart, hasId⟩ :=
    (components.together start (listed start .refl) id (listed id path)).mpr ⟨path, back⟩
  unfold componentOf
  cases found : (find g).find? (·.contains start) with
  | none =>
      have without := List.find?_eq_none.mp found component member
      exact absurd (List.contains_iff_mem.mpr hasStart) without
  | some first =>
      have firstHasStart : first.contains start = true :=
        List.find?_some (p := fun (ids : List Nat) => ids.contains start) found
      have same := components.eq_of_mem (List.mem_of_find?_eq_some found) member
        (List.contains_iff_mem.mp firstHasStart) hasStart
      rw [Option.getD_some, same]
      exact hasId

/-- The cycles from an id through others, each once. -/
theorem cyclesFrom_eq_some (isNumbered : g.IsNumbered) {start : Nat} (inside : start < g.order)
    (others : List Nat) : ∃ cycles, g.cyclesFrom find start others = some cycles ∧ cycles.Nodup ∧
      ∀ cycle, cycle ∈ cycles ↔ ∃ inner, cycle = start :: inner ++ [start] ∧
        g.GoesAround start inner ∧ ∀ id ∈ inner, id ∈ others := by
  have isNumberedRest : (g.subgraph (start :: others)).IsNumbered := isNumbered.subgraph
  have among : ∀ inner, (g.subgraph (start :: others)).GoesAround start inner ↔
      g.GoesAround start inner ∧ ∀ id ∈ inner, id ∈ others := by
    intro inner
    rw [GoesAround.subgraph_iff List.mem_cons_self]
    refine and_congr_right fun around => forall₂_congr fun id member => ?_
    have differs : id ≠ start := fun same => (List.nodup_cons.mp around.nodup).1 (same ▸ member)
    exact ⟨fun isListed => (List.mem_cons.mp isListed).resolve_left differs,
      List.mem_cons_of_mem start⟩
  have hasStart := mem_componentOf finds isNumberedRest inside .refl .refl
  have inComponent : ∀ inner, (g.subgraph (start :: others)).GoesAround start inner →
      ∀ id ∈ inner, id ∈ (g.subgraph (start :: others)).componentOf find start :=
    fun inner around id member =>
      mem_componentOf finds isNumberedRest inside (around.reaches member).1 (around.reaches member).2
  unfold cyclesFrom
  dsimp only
  generalize (g.subgraph (start :: others)).componentOf find start = component at hasStart inComponent ⊢
  split
  case isTrue single =>
    -- No cycle goes through an id that is alone in its component and has no edge to itself.
    obtain ⟨alone, noLoop⟩ := Bool.and_eq_true_iff.mp single
    refine ⟨[], rfl, List.nodup_nil, fun cycle => ⟨(nomatch ·), ?_⟩⟩
    rintro ⟨inner, _, around⟩
    rw [← among] at around
    obtain ⟨only, rfl⟩ := List.length_eq_one_iff.mp (beq_iff_eq.mp alone)
    obtain rfl := List.mem_singleton.mp hasStart
    have none : inner = [] := List.eq_nil_iff_forall_not_mem.mpr fun id member =>
      (List.nodup_cons.mp around.nodup).1
        (List.mem_singleton.mp (inComponent inner around id member) ▸ member)
    subst none
    have loop := (links_subgraph.mp (List.isChain_pair.mp around.chain)).2.2
    rw [hasEdge_iff.mpr loop] at noLoop
    cases noLoop
  case isFalse =>
    -- All cycles through the id stay in its component, so the search there misses none.
    have isNumberedComponent : ((g.subgraph (start :: others)).subgraph component).IsNumbered :=
      isNumberedRest.subgraph
    have begins : ((g.subgraph (start :: others)).subgraph component).Searches start [] {} :=
      { nodup := List.nodup_nil, bounded := List.forall_mem_nil _, onPath := List.forall_mem_nil _,
        waits := List.forall_mem_nil _, awaited := List.forall_mem_nil _ }
    obtain ⟨closes, after, ran, circles⟩ := circles_circuit isNumberedComponent (g.order + 1) [] {}
      start begins List.not_mem_nil inside (Nat.le_succ _)
    obtain ⟨found, foundCycles, nodup, mem⟩ := circles.advances.cycles
    refine ⟨found.reverse, ?_, List.nodup_reverse.mpr nodup, fun cycle => ?_⟩
    · rw [ran, Option.map_some, foundCycles, List.append_nil]
    · rw [List.mem_reverse, mem, completes_singleton_iff]
      refine exists_congr fun inner => and_congr_right fun _ => ?_
      rw [GoesAround.subgraph_iff hasStart, ← among]
      exact and_iff_left_of_imp (inComponent inner)

/-- The cycles between listed ids: each goes from an id through others that come later in the list. -/
theorem cyclesBetween_eq_some (isNumbered : g.IsNumbered) : ∀ (ids : List Nat), ids.Nodup →
    (∀ id ∈ ids, id < g.order) →
    ∃ cycles, g.cyclesBetween find ids = some cycles ∧ cycles.Nodup ∧
      ∀ cycle, cycle ∈ cycles ↔ ∃ before start others inner, ids = before ++ start :: others ∧
        cycle = start :: inner ++ [start] ∧ g.GoesAround start inner ∧ ∀ id ∈ inner, id ∈ others := by
  intro ids
  induction ids with
  | nil =>
      refine fun _ _ => ⟨[], rfl, List.nodup_nil, fun cycle => ⟨(nomatch ·), ?_⟩⟩
      rintro ⟨before, start, others, inner, impossible, _⟩
      exact absurd impossible (List.append_ne_nil_of_right_ne_nil before (List.cons_ne_nil _ _)).symm
  | cons start others inductionHypothesis =>
      intro nodup inside
      obtain ⟨isNew, nodupOthers⟩ := List.nodup_cons.mp nodup
      obtain ⟨insideStart, insideOthers⟩ := List.forall_mem_cons.mp inside
      obtain ⟨cycles, found, nodupCycles, mem⟩ :=
        cyclesFrom_eq_some finds isNumbered insideStart others
      obtain ⟨more, foundMore, nodupMore, memMore⟩ := inductionHypothesis nodupOthers insideOthers
      refine ⟨cycles ++ more, ?_, List.nodup_append.mpr ⟨nodupCycles, nodupMore, ?_⟩, ?_⟩
      · rw [cyclesBetween, found, foundMore]
        rfl
      · rintro cycle isHere _ isLater rfl
        obtain ⟨inner, rfl, _⟩ := (mem cycle).mp isHere
        obtain ⟨before, other, later, otherInner, rfl, same, _⟩ := (memMore _).mp isLater
        have sameStart : start = other := (List.cons.inj same).1
        exact isNew (sameStart ▸ List.mem_append_right before List.mem_cons_self)
      · intro cycle
        rw [List.mem_append, mem, memMore]
        constructor
        · rintro (⟨inner, around⟩ | ⟨before, other, later, inner, rfl, around⟩)
          · exact ⟨[], start, others, inner, rfl, around⟩
          · exact ⟨start :: before, other, later, inner, rfl, around⟩
        · rintro ⟨before, other, later, inner, parts, around⟩
          cases before with
          | nil =>
              obtain ⟨rfl, rfl⟩ := List.cons.inj parts
              exact Or.inl ⟨inner, around⟩
          | cons first before =>
              exact Or.inr ⟨before, other, later, inner, (List.cons.inj parts).2, around⟩

/-- The elementary cycles of a graph that lists all of its ids: each once, from its smallest id. -/
theorem elementaryCycles?_eq_some (isNumbered : g.IsNumbered)
    (keys : g.keys = List.range g.order) :
    ∃ cycles, g.elementaryCycles? find = some cycles ∧ cycles.Nodup ∧
      ∀ cycle, cycle ∈ cycles ↔ ∃ start inner, cycle = start :: inner ++ [start] ∧
        g.GoesAround start inner ∧ ∀ id ∈ inner, start < id := by
  obtain ⟨cycles, found, nodup, mem⟩ := cyclesBetween_eq_some finds isNumbered
    (List.range g.order) List.nodup_range fun _ => List.mem_range.mp
  refine ⟨cycles, ?_, nodup, fun cycle => ?_⟩
  · rw [elementaryCycles?, keys]
    exact found
  rw [mem]
  constructor
  · rintro ⟨before, start, others, inner, parts, written, around, among⟩
    have sorted : (List.range g.order).Pairwise (· < ·) := List.pairwise_lt_range
    rw [parts] at sorted
    exact ⟨start, inner, written, around, fun id member =>
      (List.pairwise_cons.mp (List.pairwise_append.mp sorted).2.1).1 id (among id member)⟩
  · rintro ⟨start, inner, written, around, more⟩
    have inside : start ∈ List.range g.order :=
      List.mem_range.mpr (around.lt_order isNumbered List.mem_cons_self)
    obtain ⟨before, others, parts⟩ := List.append_of_mem inside
    refine ⟨before, start, others, inner, parts, written, around, fun id member => ?_⟩
    have isId := around.lt_order isNumbered (List.mem_cons_of_mem start member)
    have sorted : (List.range g.order).Pairwise (· < ·) := List.pairwise_lt_range
    rw [parts] at sorted
    have listed := List.mem_range.mpr isId
    rw [parts] at listed
    rcases List.mem_append.mp listed with isBefore | isFrom
    · have less := (List.pairwise_append.mp sorted).2.2 id isBefore start List.mem_cons_self
      exact absurd (more id member) (Nat.lt_asymm less)
    · exact (List.mem_cons.mp isFrom).resolve_left (Nat.ne_of_gt (more id member))

theorem mem_elementaryCycles (isNumbered : g.IsNumbered) (keys : g.keys = List.range g.order)
    {cycle : List Nat} : cycle ∈ g.elementaryCycles find ↔ ∃ start inner,
      cycle = start :: inner ++ [start] ∧ g.GoesAround start inner ∧ ∀ id ∈ inner, start < id := by
  obtain ⟨cycles, found, _, mem⟩ := elementaryCycles?_eq_some finds isNumbered keys
  rw [elementaryCycles, found, Option.getD_some]
  exact mem cycle

end Enumeration

/-! ### Cycles without a start -/

/-- A cycle of ids is elementary in a graph: edges lead around, and no id comes twice. -/
def IsElementary (g : Digraph α) (cycle : Cycle Nat) : Prop :=
  cycle ≠ Cycle.nil ∧ cycle.Nodup ∧ cycle.Chain g.Links

theorem isElementary_cons_iff {start : Nat} {inner : List Nat} :
    g.IsElementary (start :: inner : List Nat) ↔ g.GoesAround start inner := by
  unfold IsElementary
  rw [Cycle.nodup_coe_iff, Cycle.chain_coe_cons, Ne, Cycle.coe_eq_nil]
  exact ⟨fun elementary => ⟨elementary.2.1, elementary.2.2⟩,
    fun around => ⟨List.cons_ne_nil _ _, around.nodup, around.chain⟩⟩

private theorem exists_smallest_first {cycle : Cycle Nat} (nonempty : cycle ≠ Cycle.nil)
    (nodup : cycle.Nodup) : ∃ start inner, cycle = (start :: inner : List Nat) ∧
      ∀ id ∈ inner, start < id := by
  induction cycle using Quotient.inductionOn' with
  | h ids =>
    rw [Cycle.mk''_eq_coe] at nonempty nodup ⊢
    have someId : ids ≠ [] := mt (Cycle.coe_eq_nil ids).mpr nonempty
    have least : ∀ id ∈ ids, ids.min someId ≤ id := fun _ => List.min_le_of_mem
    obtain ⟨before, after, parts⟩ := List.append_of_mem (List.min_mem someId)
    generalize ids.min someId = start at least parts
    subst parts
    have turned : (before ++ start :: after).IsRotated (start :: (after ++ before)) :=
      List.isRotated_append
    refine ⟨start, after ++ before, Cycle.coe_eq_coe.mpr turned, fun id member => ?_⟩
    have nodupTurned := turned.nodup_iff.mp (Cycle.nodup_coe_iff.mp nodup)
    have differs : id ≠ start := fun same => (List.nodup_cons.mp nodupTurned).1 (same ▸ member)
    have listed := turned.mem_iff.mpr (List.mem_cons_of_mem start member)
    exact Nat.lt_of_le_of_ne (least id listed) differs.symm

/-- There is one way to write a cycle from its smallest id. -/
private theorem smallest_first_eq {start other : Nat} {inner otherInner : List Nat}
    (same : ((start :: inner : List Nat) : Cycle Nat) = (other :: otherInner : List Nat))
    (nodup : (start :: inner).Nodup) (least : ∀ id ∈ inner, start < id)
    (otherLeast : ∀ id ∈ otherInner, other < id) : start :: inner = other :: otherInner := by
  have turned := Cycle.coe_eq_coe.mp same
  have sameStart : start = other := by
    rcases List.mem_cons.mp (turned.mem_iff.mp List.mem_cons_self) with equal | greater
    · exact equal
    · rcases List.mem_cons.mp (turned.mem_iff.mpr List.mem_cons_self) with equal | less
      · exact equal.symm
      · exact absurd (least other less) (Nat.lt_asymm (otherLeast start greater))
  subst sameStart
  -- A rotation that keeps the first id, which comes once, moves nothing.
  obtain ⟨places, moved⟩ := turned
  rw [← List.rotate_mod] at moved
  have few := Nat.mod_lt places (List.length_pos_of_ne_nil (List.cons_ne_nil start inner))
  generalize places % (start :: inner).length = places at moved few
  have first : (start :: inner)[places]? = (start :: inner)[0]? := by
    rw [← List.head?_rotate few, moved]
    rfl
  have none : places = 0 := (List.getElem?_inj few nodup).mp first
  rw [← moved, none, List.rotate_zero]

/-! ### Cycles through an id -/

/-- What can be reached can be reached without coming to an id twice. -/
private theorem exists_nodup_chain {links : Nat → Nat → Prop} {a b : Nat}
    (path : Relation.ReflTransGen links a b) : ∃ rest, (a :: rest).Nodup ∧
      List.IsChain links (a :: rest) ∧ (a :: rest).getLast? = some b := by
  induction path using Relation.ReflTransGen.head_induction_on with
  | refl => exact ⟨[], List.nodup_singleton b, List.isChain_singleton b, rfl⟩
  | @head a c link _ inductionHypothesis =>
      obtain ⟨rest, nodup, chain, last⟩ := inductionHypothesis
      by_cases again : a ∈ c :: rest
      · -- The way comes to `a` later on: what is between is left out.
        obtain ⟨before, after, parts⟩ := List.append_of_mem again
        rw [parts] at nodup chain last
        refine ⟨after, (List.nodup_append.mp nodup).2.1, chain.right_of_append, ?_⟩
        rw [← last, List.getLast?_append_of_ne_nil _ (List.cons_ne_nil a after)]
      · exact ⟨c :: rest, List.nodup_cons.mpr ⟨again, nodup⟩, chain.cons_cons link,
          by rw [List.getLast?_cons_cons, last]⟩

private theorem exists_goesAround {id : Nat} (path : Relation.TransGen g.Links id id) :
    ∃ inner, g.GoesAround id inner := by
  obtain ⟨next, link, back⟩ := Relation.TransGen.head'_iff.mp path
  obtain ⟨rest, nodup, chain, last⟩ := exists_nodup_chain back
  obtain ⟨inner, parts⟩ : ∃ inner, next :: rest = inner ++ [id] :=
    ⟨_, (List.dropLast_append_getLast? id last).symm⟩
  refine ⟨inner, ?_, ?_⟩
  · rw [parts] at nodup
    exact (List.perm_append_singleton id inner).nodup_iff.mp nodup
  · rw [List.cons_append, ← parts]
    exact chain.cons_cons link

/-- The cycles that are listed go through every id that reaches itself, and through no other. -/
theorem mem_flatten_elementaryCycles {find : Digraph α → List (List Nat)}
    (finds : FindsComponents find) (isNumbered : g.IsNumbered)
    (keys : g.keys = List.range g.order) {id : Nat} :
    id ∈ (g.elementaryCycles find).flatten ↔ Relation.TransGen g.Links id id := by
  rw [List.mem_flatten]
  constructor
  · rintro ⟨cycle, listed, member⟩
    obtain ⟨start, inner, rfl, around, _⟩ := (mem_elementaryCycles finds isNumbered keys).mp listed
    refine around.reaches_itself ?_
    rcases List.mem_append.mp member with isInner | last
    · exact isInner
    · exact List.mem_singleton.mp last ▸ List.mem_cons_self
  · intro path
    obtain ⟨inner, around⟩ := exists_goesAround path
    have elementary := isElementary_cons_iff.mpr around
    obtain ⟨start, others, same, least⟩ := exists_smallest_first elementary.1 elementary.2.1
    rw [same] at elementary
    have turned := isElementary_cons_iff.mp elementary
    refine ⟨_, (mem_elementaryCycles finds isNumbered keys).mpr ⟨start, others, rfl, turned, least⟩, ?_⟩
    exact List.mem_append_left _ ((Cycle.coe_eq_coe.mp same).mem_iff.mp List.mem_cons_self)

section Exploring

variable [DecidableEq α] {nodes : List α} {successors : α → List α} {closure : List α} {bound : Nat}
  {find : Digraph α → List (List Nat)}

/-- The search ends with every elementary cycle of the graph written once, from its smallest id and
back to it, and with nothing else. -/
theorem every_elementary_cycle_once (isClosure : IsClosure nodes successors closure)
    (enough : closure.length ≤ bound) (finds : FindsComponents find) :
    ∃ cycles, (explore bound nodes successors).elementaryCycles? find = some cycles ∧
      cycles.Nodup ∧
      (∀ written ∈ cycles, ∃ start inner, written = start :: inner ++ [start] ∧
        (∀ id ∈ inner, start < id) ∧
        (explore bound nodes successors).IsElementary (start :: inner : List Nat)) ∧
      ∀ cycle, (explore bound nodes successors).IsElementary cycle →
        ∃! written, written ∈ cycles ∧ (written.dropLast : Cycle Nat) = cycle := by
  obtain ⟨cycles, found, nodup, mem⟩ := elementaryCycles?_eq_some finds
    (isNumbered_explore isClosure enough) keys_explore
  refine ⟨cycles, found, nodup, fun written listed => ?_, fun cycle elementary => ?_⟩
  · obtain ⟨start, inner, same, around, least⟩ := (mem written).mp listed
    exact ⟨start, inner, same, least, isElementary_cons_iff.mpr around⟩
  · obtain ⟨start, inner, rfl, least⟩ := exists_smallest_first elementary.1 elementary.2.1
    have around := isElementary_cons_iff.mp elementary
    refine ⟨start :: inner ++ [start],
      ⟨(mem _).mpr ⟨start, inner, rfl, around, least⟩, by rw [List.dropLast_concat]⟩, ?_⟩
    rintro other ⟨listed, same⟩
    obtain ⟨otherStart, otherInner, rfl, otherAround, otherLeast⟩ := (mem other).mp listed
    rw [List.dropLast_concat] at same
    have written := smallest_first_eq same otherAround.nodup otherLeast least
    rw [written, (List.cons.inj written).1]

end Exploring

private def entangled : Nat → List Nat
  | 0 => [1, 0]
  | _ => [0]

theorem every_elementary_cycle_once_entangled :
    (explore 2 [0] entangled).elementaryCycles? strongComponents = some [[0, 0], [0, 1, 0]] ∧
    ∃ cycles, (explore 2 [0] entangled).elementaryCycles? strongComponents = some cycles ∧
      cycles.Nodup ∧
      (∀ written ∈ cycles, ∃ start inner, written = start :: inner ++ [start] ∧
        (∀ id ∈ inner, start < id) ∧
        (explore 2 [0] entangled).IsElementary (start :: inner : List Nat)) ∧
      ∀ cycle, (explore 2 [0] entangled).IsElementary cycle →
        ∃! written, written ∈ cycles ∧ (written.dropLast : Cycle Nat) = cycle :=
  have isClosure : IsClosure [0] entangled [0, 1] :=
    { nodes := by decide, successors := by decide }
  ⟨by cbv, every_elementary_cycle_once isClosure (by decide) findsComponents_strongComponents⟩

end Tabulation.Digraph
