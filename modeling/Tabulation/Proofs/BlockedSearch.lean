/-
The search for cycles blocks no id in vain.

While a search is at the ids of a path, every blocked id off the path waits for each of its
successors, and these are blocked as well and none of them is the start.  So nothing leads from such an
id to the start but through the path, and no cycle is missed by not entering it.  Letting an id in
again keeps this, since whatever waits for it is let in with it; and it lets in only what was blocked
after the id, since nothing that was blocked before waits for it.
-/

import Tabulation.Proofs.NumberedGraphs

namespace Tabulation.Digraph

/-! ### Letting in -/

/-- What is left of the blocked ids and of the pairs that wait after ids were let in. -/
structure LetsIn (ids blocked : List Nat) (waiting : List (Nat × Nat))
    (left : List Nat × List (Nat × Nat)) : Prop where
  wasBlocked : ∀ id ∈ left.1, id ∈ blocked
  wasWaiting : ∀ pair ∈ left.2, pair ∈ waiting
  free : ∀ id ∈ ids, id ∉ left.1
  woken : ∀ pair ∈ waiting, pair.1 ∈ blocked → pair.1 ∉ left.1 → pair.2 ∉ left.1
  waits : ∀ pair ∈ waiting, pair.1 ∈ left.1 → pair ∈ left.2
  awaited : (∀ pair ∈ waiting, pair.1 ∈ blocked) → ∀ pair ∈ left.2, pair.1 ∈ left.1
  /-- Ids stay blocked that wait for each other only. -/
  stays : ∀ keep : List Nat, (∀ id ∈ ids, id ∉ keep) →
    (∀ pair ∈ waiting, pair.2 ∈ keep → pair.1 ∈ keep) → ∀ id ∈ blocked, id ∈ keep → id ∈ left.1

private theorem mem_others {id other : Nat} {blocked : List Nat} :
    other ∈ blocked.filter (· != id) ↔ other ∈ blocked ∧ other ≠ id := by
  rw [List.mem_filter, bne_iff_ne]

private theorem mem_other_pairs {id : Nat} {pair : Nat × Nat} {waiting : List (Nat × Nat)} :
    pair ∈ waiting.filter (fun pair => pair.1 != id) ↔ pair ∈ waiting ∧ pair.1 ≠ id := by
  rw [List.mem_filter, bne_iff_ne]

/-- Letting in one id that is blocked, then all that wait for it and the others. -/
private theorem LetsIn.cons {id : Nat} {ids blocked : List Nat} {waiting : List (Nat × Nat)}
    {left : List Nat × List (Nat × Nat)}
    (letsIn : LetsIn ((waiting.filter fun pair => pair.1 == id).map (·.2) ++ ids)
      (blocked.filter (· != id)) (waiting.filter fun pair => pair.1 != id) left) :
    LetsIn (id :: ids) blocked waiting left := by
  have absent : id ∉ left.1 := fun member => (mem_others.mp (letsIn.wasBlocked id member)).2 rfl
  have isWoken : ∀ pair ∈ waiting, pair.1 = id →
      pair.2 ∈ (waiting.filter fun pair => pair.1 == id).map (·.2) ++ ids := fun pair member same =>
    List.mem_append_left _ (List.mem_map.mpr
      ⟨pair, List.mem_filter.mpr ⟨member, beq_iff_eq.mpr same⟩, rfl⟩)
  constructor
  case wasBlocked => exact fun other member => (mem_others.mp (letsIn.wasBlocked other member)).1
  case wasWaiting => exact fun pair member => (mem_other_pairs.mp (letsIn.wasWaiting pair member)).1
  case free =>
    exact List.forall_mem_cons.mpr ⟨absent, fun other member =>
      letsIn.free other (List.mem_append_right _ member)⟩
  case woken =>
    intro pair member isBlocked isFree
    by_cases same : pair.1 = id
    · exact letsIn.free pair.2 (isWoken pair member same)
    · exact letsIn.woken pair (mem_other_pairs.mpr ⟨member, same⟩)
        (mem_others.mpr ⟨isBlocked, same⟩) isFree
  case waits =>
    intro pair member stays
    exact letsIn.waits pair
      (mem_other_pairs.mpr ⟨member, fun same => absent (same ▸ stays)⟩) stays
  case awaited =>
    intro awaited
    refine letsIn.awaited fun pair member => ?_
    obtain ⟨isWaiting, differs⟩ := mem_other_pairs.mp member
    exact mem_others.mpr ⟨awaited pair isWaiting, differs⟩
  case stays =>
    intro keep apart closed other isBlocked kept
    obtain ⟨idApart, idsApart⟩ := List.forall_mem_cons.mp apart
    refine letsIn.stays keep ?_ ?_ other
      (mem_others.mpr ⟨isBlocked, fun same => idApart (same ▸ kept)⟩) kept
    · intro next member isKept
      rcases List.mem_append.mp member with isWoken | isNext
      · obtain ⟨pair, waits, rfl⟩ := List.mem_map.mp isWoken
        obtain ⟨isWaiting, same⟩ := List.mem_filter.mp waits
        exact idApart (beq_iff_eq.mp same ▸ closed pair isWaiting isKept)
      · exact idsApart next isNext isKept
    · exact fun pair member => closed pair (mem_other_pairs.mp member).1

theorem letsIn_unblock (ids blocked : List Nat) (waiting : List (Nat × Nat)) :
    LetsIn ids blocked waiting (unblock ids blocked waiting) := by
  induction ids, blocked, waiting using unblock.induct with
  | case1 blocked waiting =>
      rw [unblock]
      constructor
      case wasBlocked => exact fun _ member => member
      case wasWaiting => exact fun _ member => member
      case free => exact List.forall_mem_nil _
      case woken => exact fun _ _ isBlocked isFree => absurd isBlocked isFree
      case waits => exact fun _ member _ => member
      case awaited => exact id
      case stays => exact fun _ _ _ _ isBlocked _ => isBlocked
  | case2 id ids blocked waiting isBlocked woken inductionHypothesis =>
      rw [unblock, if_pos isBlocked]
      simp only [woken, List.unattach_filter, List.unattach_attach] at inductionHypothesis
      exact inductionHypothesis.cons
  | case3 id ids blocked waiting isFree inductionHypothesis =>
      rw [unblock, if_neg isFree]
      refine { inductionHypothesis with free := ?_, stays := ?_ }
      · exact List.forall_mem_cons.mpr
          ⟨fun member => isFree (inductionHypothesis.wasBlocked id member), inductionHypothesis.free⟩
      · exact fun keep apart =>
          inductionHypothesis.stays keep (List.forall_mem_cons.mp apart).2

/-! ### Cycles along a path -/

variable {α : Type} {g : Digraph α} {start : Nat}

/-- A cycle goes along a path, given last first, and on to `start` without coming to an id twice. -/
inductive Completes (g : Digraph α) (start : Nat) : (path cycle : List Nat) → Prop
  | close {id : Nat} {path : List Nat} : g.Links id start →
      Completes g start (id :: path) (start :: id :: path).reverse
  | extend {id next : Nat} {path cycle : List Nat} : g.Links id next → next ≠ start →
      next ∉ id :: path → Completes g start (next :: id :: path) cycle →
      Completes g start (id :: path) cycle

/-- A cycle goes along a path and on to `next`. -/
def CompletesBy (g : Digraph α) (start : Nat) (path : List Nat) (next : Nat) (cycle : List Nat) :
    Prop :=
  (next = start ∧ cycle = (start :: path).reverse) ∨
    next ≠ start ∧ next ∉ path ∧ g.Completes start (next :: path) cycle

theorem completes_iff {id : Nat} {path cycle : List Nat} :
    g.Completes start (id :: path) cycle ↔
      ∃ next ∈ g.successors id, g.CompletesBy start (id :: path) next cycle := by
  constructor
  · intro completes
    cases completes with
    | close link => exact ⟨start, link, Or.inl ⟨rfl, rfl⟩⟩
    | @extend _ next _ _ link differs unknown completes =>
        exact ⟨next, link, Or.inr ⟨differs, unknown, completes⟩⟩
  · rintro ⟨next, link, ⟨rfl, rfl⟩ | ⟨differs, unknown, completes⟩⟩
    · exact .close link
    · exact .extend link differs unknown completes

theorem Completes.along {path cycle : List Nat} (completes : g.Completes start path cycle) :
    path.reverse <+: cycle := by
  induction completes with
  | @close id path _ => exact ⟨[start], List.reverse_cons.symm⟩
  | extend _ _ _ _ inductionHypothesis =>
      rw [List.reverse_cons] at inductionHypothesis
      exact (List.prefix_append _ _).trans inductionHypothesis

theorem CompletesBy.along {path cycle : List Nat} {next : Nat}
    (completes : g.CompletesBy start path next cycle) : (next :: path).reverse <+: cycle := by
  rcases completes with ⟨rfl, rfl⟩ | ⟨_, _, completes⟩
  · exact List.prefix_rfl
  · exact completes.along

/-- A cycle goes on from a path in one way. -/
theorem CompletesBy.next_eq {path cycle : List Nat} {next other : Nat}
    (first : g.CompletesBy start path next cycle) (second : g.CompletesBy start path other cycle) :
    next = other := by
  have same := (List.prefix_of_prefix_length_le first.along second.along
    (by simp)).eq_of_length (by simp)
  exact (List.cons.inj (List.reverse_injective same)).1

/-! ### Searches in progress -/

/-- A search that is at the ids of a path. -/
structure Searches (g : Digraph α) (start : Nat) (path : List Nat) (search : CycleSearch) :
    Prop where
  nodup : path.Nodup
  bounded : ∀ id ∈ path, id < g.order
  onPath : ∀ id ∈ path, id ∈ search.blocked
  waits : ∀ id ∈ search.blocked, id ∉ path → ∀ next, g.Links id next →
    next ≠ start ∧ next ∈ search.blocked ∧ (next, id) ∈ search.waiting
  awaited : ∀ pair ∈ search.waiting, pair.1 ∈ search.blocked

/-- A search that went on without leaving its path, and found the cycles that `new` says. -/
structure Advances (g : Digraph α) (start : Nat) (path : List Nat) (before after : CycleSearch)
    (new : List Nat → Prop) : Prop where
  searches : g.Searches start path after
  blocked : ∀ id ∈ before.blocked, id ∈ after.blocked
  waiting : ∀ pair ∈ after.waiting, pair ∈ before.waiting ∨ pair.2 ∉ before.blocked
  cycles : ∃ found : List (List Nat), after.cycles = found ++ before.cycles ∧ found.Nodup ∧
    ∀ cycle, cycle ∈ found ↔ new cycle

namespace Searches

variable {path : List Nat} {search : CycleSearch}

/-- No cycle goes on to a blocked id. -/
theorem not_completes (searches : g.Searches start path search) {id : Nat}
    (isBlocked : id ∈ search.blocked) (offPath : id ∉ path) (cycle : List Nat) :
    ¬g.Completes start (id :: path) cycle := by
  have blind : ∀ {whole cycle : List Nat}, g.Completes start whole cycle → ∀ {id : Nat}
      {walked : List Nat}, whole = id :: walked → (∀ a ∈ path, a ∈ walked) →
      id ∈ search.blocked → id ∉ path → False := by
    intro whole cycle completes
    -- By induction on the rest of the cycle: all that it comes to is blocked and off the path.
    induction completes with
    | close link =>
        rintro _ _ ⟨⟩ _ isBlocked offPath
        exact (searches.waits _ isBlocked offPath _ link).1 rfl
    | extend link _ unknown _ inductionHypothesis =>
        rintro _ _ ⟨⟩ longer isBlocked offPath
        refine inductionHypothesis rfl (fun a onPath => List.mem_cons_of_mem _ (longer a onPath))
          (searches.waits _ isBlocked offPath _ link).2.1 fun onPath => ?_
        exact unknown (List.mem_cons_of_mem _ (longer _ onPath))
  exact fun completes => blind completes rfl (fun _ onPath => onPath) isBlocked offPath

theorem not_completesBy (searches : g.Searches start path search) {next : Nat}
    (differs : next ≠ start) (isBlocked : next ∈ search.blocked) (cycle : List Nat) :
    ¬g.CompletesBy start path next cycle := by
  rintro (⟨same, _⟩ | ⟨_, offPath, completes⟩)
  · exact differs same
  · exact searches.not_completes isBlocked offPath cycle completes

theorem block (searches : g.Searches start path search) {id : Nat} (isFree : id ∉ search.blocked)
    (inside : id < g.order) : g.Searches start (id :: path) (search.block id) where
  nodup := List.nodup_cons.mpr ⟨fun onPath => isFree (searches.onPath id onPath), searches.nodup⟩
  bounded := List.forall_mem_cons.mpr ⟨inside, searches.bounded⟩
  onPath := List.forall_mem_cons.mpr
    ⟨List.mem_cons_self, fun a onPath => List.mem_cons_of_mem id (searches.onPath a onPath)⟩
  waits := fun a isBlocked offPath next link => by
    obtain ⟨differs, offRest⟩ := not_or.mp (mt List.mem_cons.mpr offPath)
    have before := (List.mem_cons.mp isBlocked).resolve_left differs
    obtain ⟨isNotStart, nextBlocked, waits⟩ := searches.waits a before offRest next link
    exact ⟨isNotStart, List.mem_cons_of_mem id nextBlocked, waits⟩
  awaited := fun pair waits => List.mem_cons_of_mem id (searches.awaited pair waits)

end Searches

namespace Advances

variable {path : List Nat} {before after : CycleSearch} {new : List Nat → Prop}

theorem refl (searches : g.Searches start path before) (none : ∀ cycle, ¬new cycle) :
    g.Advances start path before before new where
  searches := searches
  blocked := fun _ isBlocked => isBlocked
  waiting := fun _ waits => Or.inl waits
  cycles := ⟨[], rfl, List.nodup_nil, fun cycle =>
    ⟨(nomatch ·), fun isNew => absurd isNew (none cycle)⟩⟩

theorem note (searches : g.Searches start path before)
    (same : ∀ cycle, new cycle ↔ cycle = (start :: path).reverse) :
    g.Advances start path before (before.note start path) new where
  searches :=
    { nodup := searches.nodup, bounded := searches.bounded, onPath := searches.onPath,
      waits := searches.waits, awaited := searches.awaited }
  blocked := fun _ isBlocked => isBlocked
  waiting := fun _ waits => Or.inl waits
  cycles := ⟨[(start :: path).reverse], rfl, List.nodup_singleton _, fun cycle => by
    rw [List.mem_singleton, same]⟩

theorem trans {middle : CycleSearch} {more all : List Nat → Prop}
    (first : g.Advances start path before middle new)
    (second : g.Advances start path middle after more)
    (apart : ∀ cycle, new cycle → ¬more cycle) (both : ∀ cycle, all cycle ↔ new cycle ∨ more cycle) :
    g.Advances start path before after all where
  searches := second.searches
  blocked := fun id isBlocked => second.blocked id (first.blocked id isBlocked)
  waiting := fun pair waits => by
    rcases second.waiting pair waits with old | isFree
    · exact first.waiting pair old
    · exact Or.inr fun isBlocked => isFree (first.blocked _ isBlocked)
  cycles := by
    obtain ⟨found, foundFirst, nodup, mem⟩ := first.cycles
    obtain ⟨later, foundSecond, nodupLater, memLater⟩ := second.cycles
    refine ⟨later ++ found, ?_, ?_, fun cycle => ?_⟩
    · rw [foundSecond, foundFirst, List.append_assoc]
    · refine List.nodup_append.mpr ⟨nodupLater, nodup, ?_⟩
      rintro cycle isLater _ isFound rfl
      exact apart cycle ((mem cycle).mp isFound) ((memLater cycle).mp isLater)
    · rw [List.mem_append, mem, memLater, both, or_comm]

/-! ### Leaving an id -/

section Leaving

variable {id : Nat} (advances : g.Advances start (id :: path) (before.block id) after new)
  (searches : g.Searches start path before) (isFree : id ∉ before.blocked)

include advances searches isFree

/-- A cycle was found: the id is let in again. -/
theorem release :
    g.Advances start path before (after.release id) new := by
  have letsIn := letsIn_unblock [id] after.blocked after.waiting
  have idFree := List.forall_mem_singleton.mp letsIn.free
  -- What waits for an id that was blocked before was itself blocked before.
  have stays : ∀ a ∈ before.blocked, a ∈ (after.release id).blocked := by
    intro a isBlocked
    refine letsIn.stays before.blocked (List.forall_mem_singleton.mpr isFree) ?_ a
      (advances.blocked a (List.mem_cons_of_mem id isBlocked)) isBlocked
    intro pair waits isOld
    rcases advances.waiting pair waits with old | new
    · exact searches.awaited pair old
    · exact absurd (List.mem_cons_of_mem id isOld) new
  constructor
  case blocked => exact stays
  case cycles => exact advances.cycles
  case waiting =>
    intro pair waits
    exact (advances.waiting pair (letsIn.wasWaiting pair waits)).imp_right fun isFree isBlocked =>
      isFree (List.mem_cons_of_mem id isBlocked)
  case searches =>
    constructor
    case nodup => exact searches.nodup
    case bounded => exact searches.bounded
    case onPath => exact fun a onPath => stays a (searches.onPath a onPath)
    case awaited => exact letsIn.awaited advances.searches.awaited
    case waits =>
      intro a isBlocked offPath next link
      have off : a ∉ id :: path := fun onPath =>
        (List.mem_cons.mp onPath).elim (fun same => idFree (same ▸ isBlocked)) offPath
      obtain ⟨differs, nextBlocked, waits⟩ :=
        advances.searches.waits a (letsIn.wasBlocked a isBlocked) off next link
      have nextStays : next ∈ (after.release id).blocked := by
        by_contra nextFree
        exact letsIn.woken (next, a) waits nextBlocked nextFree isBlocked
      exact ⟨differs, nextStays, letsIn.waits (next, a) waits nextStays⟩

/-- No cycle was found: the id waits for its successors. -/
theorem await
    (stuck : ∀ next ∈ g.successors id, next ≠ start ∧ next ∈ after.blocked) :
    g.Advances start path before (after.await id (g.successors id)) new := by
  have mem_waiting : ∀ pair, pair ∈ (after.await id (g.successors id)).waiting ↔
      (pair.1 ∈ g.successors id ∧ pair.2 = id) ∨ pair ∈ after.waiting := by
    intro pair
    unfold CycleSearch.await
    simp only [List.mem_append, List.mem_filter, List.mem_map, Bool.not_eq_true',
      List.contains_eq_mem, decide_eq_false_iff_not]
    grind
  constructor
  case blocked =>
    exact fun a isBlocked => advances.blocked a (List.mem_cons_of_mem id isBlocked)
  case cycles => exact advances.cycles
  case waiting =>
    intro pair waits
    rcases (mem_waiting pair).mp waits with ⟨_, same⟩ | old
    · exact Or.inr (same ▸ isFree)
    · exact (advances.waiting pair old).imp_right fun isFree isBlocked =>
        isFree (List.mem_cons_of_mem id isBlocked)
  case searches =>
    constructor
    case nodup => exact searches.nodup
    case bounded => exact searches.bounded
    case onPath =>
      exact fun a onPath => advances.searches.onPath a (List.mem_cons_of_mem id onPath)
    case awaited =>
      intro pair waits
      rcases (mem_waiting pair).mp waits with ⟨isNext, _⟩ | old
      · exact (stuck pair.1 isNext).2
      · exact advances.searches.awaited pair old
    case waits =>
      intro a isBlocked offPath next link
      by_cases same : a = id
      · subst same
        exact ⟨(stuck next link).1, (stuck next link).2, (mem_waiting _).mpr (Or.inl ⟨link, rfl⟩)⟩
      · have off : a ∉ id :: path := fun onPath => (List.mem_cons.mp onPath).elim same offPath
        obtain ⟨differs, nextBlocked, waits⟩ := advances.searches.waits a isBlocked off next link
        exact ⟨differs, nextBlocked, (mem_waiting _).mpr (Or.inr waits)⟩

end Leaving

end Advances

/-! ### Whole searches -/

/-- The result of going on from a path to each of some ids. -/
structure Tries (g : Digraph α) (start : Nat) (path : List Nat) (before : CycleSearch)
    (ids : List Nat) (closes : Bool) (after : CycleSearch) : Prop where
  advances : g.Advances start path before after fun cycle =>
    ∃ next ∈ ids, g.CompletesBy start path next cycle
  stuck : closes = false → ∀ next ∈ ids, next ≠ start ∧ next ∈ after.blocked

/-- The result of a search from an id that a path comes to. -/
structure Circles (g : Digraph α) (start : Nat) (path : List Nat) (before : CycleSearch) (id : Nat)
    (closes : Bool) (after : CycleSearch) : Prop where
  advances : g.Advances start path before after (g.Completes start (id :: path))
  stuck : closes = false → id ∈ after.blocked

namespace Tries

variable {path ids : List Nat} {before after : CycleSearch} {next : Nat} {closes : Bool}

theorem nil (searches : g.Searches start path before) :
    g.Tries start path before [] closes before where
  advances := .refl searches fun _ ⟨_, impossible, _⟩ => List.not_mem_nil impossible
  stuck := fun _ => List.forall_mem_nil _

/-- Going on to one id more. -/
theorem cons {middle : CycleSearch} {closesNow : Bool} (isNew : next ∉ ids)
    (now : g.Tries start path before [next] closesNow middle)
    (later : g.Tries start path middle ids closes after) (keeps : closes = false → closesNow = false) :
    g.Tries start path before (next :: ids) closes after where
  advances := by
    refine now.advances.trans later.advances ?_ fun cycle => ?_
    · rintro cycle ⟨one, isNext, first⟩ ⟨other, member, second⟩
      obtain rfl := List.mem_singleton.mp isNext
      exact isNew (first.next_eq second ▸ member)
    · simp only [List.exists_mem_cons_iff, List.mem_singleton, exists_eq_left]
  stuck := fun none => by
    obtain ⟨differs, isBlocked⟩ := now.stuck (keeps none) next (List.mem_singleton_self next)
    exact List.forall_mem_cons.mpr
      ⟨⟨differs, later.advances.blocked next isBlocked⟩, later.stuck none⟩

end Tries

section Searching

variable {path : List Nat} {search : CycleSearch}

/-- Going on to one id, when what searches from the ids that are not blocked does as it should. -/
private theorem tries_extend (searchFrom : CycleSearch → Nat → Option (Bool × CycleSearch))
    (closes : Bool) {next : Nat} (searches : g.Searches start path search)
    (circles : next ∉ search.blocked → ∃ closes after, searchFrom search next = some (closes, after) ∧
      g.Circles start path search next closes after) :
    ∃ closesNow after,
      CycleSearch.extend start path searchFrom (closes, search) next = some (closesNow, after) ∧
      g.Tries start path search [next] closesNow after ∧ (closesNow = false → closes = false) := by
  have single : ∀ cycle, (∃ id ∈ [next], g.CompletesBy start path id cycle) ↔
      g.CompletesBy start path next cycle := fun cycle => by
    simp only [List.mem_singleton, exists_eq_left]
  unfold CycleSearch.extend
  by_cases same : next = start
  · -- A cycle is complete.
    refine ⟨true, search.note start path, if_pos (beq_iff_eq.mpr same), ⟨?_, nofun⟩, nofun⟩
    refine .note searches fun cycle => ?_
    rw [single]
    exact ⟨fun completes => (completes.resolve_right fun more => more.1 same).2,
      fun closed => Or.inl ⟨same, closed⟩⟩
  · by_cases isBlocked : next ∈ search.blocked
    · refine ⟨closes, search, ?_, ⟨.refl searches fun cycle => ?_, fun _ => ?_⟩, id⟩
      · simp only [beq_iff_eq, same, List.contains_iff_mem, isBlocked, if_true, if_false]
      · rw [single]
        exact searches.not_completesBy same isBlocked cycle
      · exact List.forall_mem_singleton.mpr ⟨same, isBlocked⟩
    · obtain ⟨closesNow, after, found, circles⟩ := circles isBlocked
      refine ⟨closes || closesNow, after, ?_, ⟨?_, fun none => ?_⟩, fun none => ?_⟩
      · simp only [beq_iff_eq, same, List.contains_iff_mem, isBlocked, if_false, found,
          Option.map_some]
      · have offPath : next ∉ path := fun onPath => isBlocked (searches.onPath next onPath)
        refine { circles.advances with cycles := ?_ }
        obtain ⟨cycles, foundCycles, nodup, mem⟩ := circles.advances.cycles
        refine ⟨cycles, foundCycles, nodup, fun cycle => ?_⟩
        rw [mem, single]
        exact ⟨fun completes => Or.inr ⟨same, offPath, completes⟩,
          fun completes => (completes.resolve_left fun closed => same closed.1).2.2⟩
      · exact List.forall_mem_singleton.mpr ⟨same, circles.stuck (Bool.or_eq_false_iff.mp none).2⟩
      · exact (Bool.or_eq_false_iff.mp none).1

/-- Going on to all of some ids. -/
private theorem tries_foldlM (searchFrom : CycleSearch → Nat → Option (Bool × CycleSearch)) :
    ∀ (ids : List Nat) (search : CycleSearch) (closes : Bool), ids.Nodup →
    g.Searches start path search →
    (∀ search next, next ∈ ids → g.Searches start path search → next ∉ search.blocked →
      ∃ closes after, searchFrom search next = some (closes, after) ∧
        g.Circles start path search next closes after) →
    ∃ closesAny after,
      ids.foldlM (CycleSearch.extend start path searchFrom) (closes, search) =
        some (closesAny, after) ∧
      g.Tries start path search ids closesAny after ∧ (closesAny = false → closes = false) := by
  intro ids
  induction ids with
  | nil => exact fun search closes _ searches _ => ⟨closes, search, rfl, .nil searches, id⟩
  | cons next ids inductionHypothesis =>
      intro search closes nodup searches circles
      obtain ⟨isNew, nodupRest⟩ := List.nodup_cons.mp nodup
      obtain ⟨closesNow, middle, stepped, now, keeps⟩ := tries_extend searchFrom closes
        searches (circles search next List.mem_cons_self searches)
      obtain ⟨closesAny, after, ran, later, keepsLater⟩ :=
        inductionHypothesis middle closesNow nodupRest now.advances.searches
          fun search next member => circles search next (List.mem_cons_of_mem _ member)
      refine ⟨closesAny, after, ?_, now.cons isNew later keepsLater,
        fun none => keeps (keepsLater none)⟩
      rw [List.foldlM_cons, stepped]
      exact ran

/-- A search whose depth suffices for the ids off its path has a result, and it finds the cycles that
go along the path and on through the id. -/
theorem circles_circuit (isNumbered : g.IsNumbered) : ∀ (depth : Nat) (path : List Nat)
    (search : CycleSearch) (id : Nat), g.Searches start path search → id ∉ search.blocked →
    id < g.order → g.order ≤ depth + path.length →
    ∃ closes after, g.circuit start depth path search id = some (closes, after) ∧
      g.Circles start path search id closes after := by
  intro depth
  induction depth with
  | zero =>
      intro path search id searches isFree inside enough
      -- The path has all ids, and this one is not on it.
      have entered := searches.block isFree inside
      have fewer := length_le_order entered.nodup entered.bounded
      rw [List.length_cons] at fewer
      omega
  | succ depth inductionHypothesis =>
      intro path search id searches isFree inside enough
      obtain ⟨closes, after, ran, tries, _⟩ := tries_foldlM (g.circuit start depth (id :: path))
        (g.successors id) (search.block id) false (isNumbered.nodup id)
        (searches.block isFree inside) fun search next link searches isFree =>
          inductionHypothesis (id :: path) search next searches isFree (isNumbered.bounded link)
            (by rw [List.length_cons]; omega)
      have advances : g.Advances start (id :: path) (search.block id) after
          (g.Completes start (id :: path)) := by
        refine { tries.advances with cycles := ?_ }
        obtain ⟨found, foundCycles, nodup, mem⟩ := tries.advances.cycles
        exact ⟨found, foundCycles, nodup, fun cycle => (mem cycle).trans completes_iff.symm⟩
      unfold circuit
      rw [ran, Option.map_some]
      cases closes with
      | true => exact ⟨_, _, rfl, advances.release searches isFree, nofun⟩
      | false =>
          refine ⟨_, _, rfl, advances.await searches isFree (tries.stuck rfl), fun _ => ?_⟩
          exact advances.blocked id List.mem_cons_self

end Searching

end Tabulation.Digraph
