/-
Graphs whose ids are given out while they are gone through.

A value has the id of the place at which it was met.  Going through the ids from the front is a
breadth-first search in which what waits stands behind what was gone through, so the list of ids
stops to grow once everything that can be reached is in it.  The edges that were added by then stand
between places that stay what they are.
-/

import Tabulation.Digraph.Tables
import Tabulation.Proofs.ElementaryCycles
import Tabulation.Proofs.Grouping

namespace Tabulation

namespace Digraph

/-! ### The order in which values are met -/

section Meeting

variable {α : Type} [DecidableEq α]

/-- The values met so far and one more, which comes last if it is new. -/
def meet (values : List α) (value : α) : List α :=
  if value ∈ values then values else values ++ [value]

theorem foldl_meet_nil (items : List α) : items.foldl meet [] = Text.distinct items := by
  have reversed : ∀ (items kept : List α), items.foldl meet kept.reverse =
      (items.foldl (fun kept item => if kept.contains item then kept else item :: kept)
        kept).reverse := by
    intro items
    induction items with
    | nil => exact fun _ => rfl
    | cons item rest inductionHypothesis =>
        intro kept
        rw [List.foldl_cons, List.foldl_cons, ← inductionHypothesis]
        congr 1
        simp only [meet, List.mem_reverse]
        by_cases known : item ∈ kept
        · rw [if_pos known, if_pos (List.contains_iff_mem.mpr known)]
        · rw [if_neg known, if_neg fun found => known (List.contains_iff_mem.mp found),
            List.reverse_cons]
  exact reversed items []

/-- Meeting some values adds those that are new, each once. -/
theorem foldl_meet (known items : List α) :
    items.foldl meet known = known ++ (Text.distinct items).filter fun b => !known.contains b := by
  induction items using List.reverseRecOn with
  | nil => exact (List.append_nil known).symm
  | append_singleton items item inductionHypothesis =>
      rw [List.foldl_append, inductionHypothesis, ← foldl_meet_nil, ← foldl_meet_nil,
        List.foldl_append, foldl_meet_nil]
      simp only [List.foldl_cons, List.foldl_nil, meet, Text.mem_distinct, List.mem_append,
        List.mem_filter]
      by_cases old : item ∈ known <;> by_cases before : item ∈ items <;>
        simp [old, before, List.filter_append]

theorem prefix_meet (values : List α) (value : α) : values <+: meet values value := by
  unfold meet
  split
  · exact List.prefix_rfl
  · exact List.prefix_append _ _

theorem prefix_foldl_meet (values items : List α) : values <+: items.foldl meet values := by
  rw [foldl_meet]
  exact List.prefix_append _ _

/-- Leaving a value out where it comes again changes nothing in the order in which values come first. -/
theorem idxOf_lt_iff_of_mem {before after : List α} {again : α} (known : again ∈ before) (a b : α) :
    (before ++ again :: after).idxOf a < (before ++ again :: after).idxOf b ↔
      (before ++ after).idxOf a < (before ++ after).idxOf b := by
  have place : ∀ x, x ∉ before → (again :: after).idxOf x = after.idxOf x + 1 := by
    intro x new
    exact List.idxOf_cons_ne _ fun same => new (same ▸ known)
  have inside : ∀ x, x ∈ before → before.idxOf x < before.length := fun x => List.idxOf_lt_length_of_mem
  by_cases first : a ∈ before <;> by_cases second : b ∈ before
  · simp [List.idxOf_append, first, second]
  · have := inside a first
    simp [List.idxOf_append, first, second, place]
    omega
  · have := inside b second
    simp [List.idxOf_append, first, second, place]
    omega
  · simp [List.idxOf_append, first, second, place]

/-- Values are met in the order in which they come first. -/
theorem idxOf_foldl_meet_lt_iff (known items : List α) (a b : α) :
    (items.foldl meet known).idxOf a < (items.foldl meet known).idxOf b ↔
      (known ++ items).idxOf a < (known ++ items).idxOf b := by
  induction items generalizing known with
  | nil => rw [List.foldl_nil, List.append_nil]
  | cons item rest inductionHypothesis =>
      rw [List.foldl_cons, inductionHypothesis]
      unfold meet
      split
      next old => exact (idxOf_lt_iff_of_mem old a b).symm
      next => rw [List.append_assoc, List.singleton_append]

end Meeting

/-! ### Ids as places -/

section Places

variable {α : Type} {values all : List α} {a b : α} {i j : Int}

/-- The id of a value is its place in the order in which values were met. -/
def IsId (values : List α) (a : α) (i : Int) : Prop :=
  ∃ place : Nat, values[place]? = some a ∧ i = place

theorem IsId.mem (isId : IsId values a i) : a ∈ values := by
  obtain ⟨place, here, -⟩ := isId
  exact List.mem_of_getElem? here

theorem exists_isId (known : a ∈ values) : ∃ i, IsId values a i := by
  obtain ⟨place, here⟩ := List.mem_iff_getElem?.mp known
  exact ⟨place, place, here, rfl⟩

theorem IsId.unique (nodup : values.Nodup) (first : IsId values a i) (second : IsId values a j) :
    i = j := by
  obtain ⟨place, here, rfl⟩ := first
  obtain ⟨other, there, rfl⟩ := second
  obtain ⟨inside, same⟩ := List.getElem?_eq_some_iff.mp here
  obtain ⟨also, equal⟩ := List.getElem?_eq_some_iff.mp there
  rw [(nodup.getElem_inj_iff).mp (same.trans equal.symm)]

theorem IsId.of_prefix (isId : IsId values a i) (front : values <+: all) : IsId all a i := by
  obtain ⟨place, here, rfl⟩ := isId
  obtain ⟨more, rfl⟩ := front
  obtain ⟨inside, -⟩ := List.getElem?_eq_some_iff.mp here
  exact ⟨place, by rw [List.getElem?_append_left inside, here], rfl⟩

theorem not_isId_nil : ¬IsId [] a i := fun isId => List.not_mem_nil isId.mem

theorem isId_append_singleton : IsId (values ++ [b]) a i ↔
    IsId values a i ∨ (i = values.length ∧ a = b) := by
  constructor
  · rintro ⟨place, here, rfl⟩
    obtain ⟨inside, -⟩ := List.getElem?_eq_some_iff.mp here
    rw [List.length_append, List.length_singleton] at inside
    rcases Nat.lt_succ_iff_lt_or_eq.mp inside with before | rfl
    · rw [List.getElem?_append_left before] at here
      exact .inl ⟨place, here, rfl⟩
    · rw [List.getElem?_concat_length] at here
      exact .inr ⟨rfl, (Option.some.inj here).symm⟩
  · rintro (isId | ⟨rfl, rfl⟩)
    · exact isId.of_prefix (List.prefix_append _ _)
    · exact ⟨values.length, List.getElem?_concat_length, rfl⟩

variable [DecidableEq α]

theorem isId_iff_idxOf (nodup : values.Nodup) : IsId values a i ↔ a ∈ values ∧ i = values.idxOf a := by
  constructor
  · intro isId
    exact ⟨isId.mem, isId.unique nodup ⟨_, List.getElem?_idxOf isId.mem, rfl⟩⟩
  · rintro ⟨known, rfl⟩
    exact ⟨_, List.getElem?_idxOf known, rfl⟩

end Places

namespace Tables

variable {α : Type} [DecidableEq α] {g : Tables α} {values all : List α} {edge : Int → Int → Prop}

/-! ### Giving out ids -/

/-- The tables number some values in order, and have some edges between their ids. -/
structure Numbers (g : Tables α) (values : List α) (edge : Int → Int → Prop) : Prop where
  nodup : values.Nodup
  keys : g.keys = (List.range values.length).map Int.ofNat
  ids : ∀ a i, g.ids.lookup a = some i ↔ IsId values a i
  nodes : ∀ i node, g.nodes.lookup i = some node ↔ IsId values node.value i ∧ node.id = i
  edges : g.edges.Lists (fun i => ∃ a, IsId values a i) edge

theorem numbers_empty : ({} : Tables α).Numbers [] fun _ _ => False where
  nodup := List.nodup_nil
  keys := rfl
  ids := fun _ _ => ⟨nofun, fun isId => (not_isId_nil isId).elim⟩
  nodes := fun _ _ => ⟨nofun, fun isNode => (not_isId_nil isNode.1).elim⟩
  edges := Groups.Lists.empty.congr (fun _ => ⟨False.elim, fun ⟨_, isId⟩ => not_isId_nil isId⟩)
    fun _ _ => Iff.rfl

theorem Numbers.congr (numbers : g.Numbers values edge) {other : Int → Int → Prop}
    (same : ∀ i j, edge i j ↔ other i j) : g.Numbers values other :=
  { numbers with edges := numbers.edges.congr (fun _ => Iff.rfl) same }

theorem Numbers.length_keys (numbers : g.Numbers values edge) : g.keys.length = values.length := by
  rw [numbers.keys, List.length_map, List.length_range]

private theorem lookup_cons_eq_some {K V : Type} [DecidableEq K] {key other : K} {value item : V}
    {rest : List (K × V)} : List.lookup other ((key, value) :: rest) = some item ↔
      if other = key then value = item else rest.lookup other = some item := by
  rw [List.lookup_cons]
  by_cases same : other = key
  · simp [same]
  · simp [same, beq_eq_false_iff_ne.mpr same]

/-- A value that is met has an id from then on. -/
theorem Numbers.add (numbers : g.Numbers values edge) (a : α) :
    (g.add a).2.Numbers (meet values a) edge ∧ IsId (meet values a) a (g.add a).1 := by
  unfold Tables.add meet
  split
  next id found =>
    have isId := (numbers.ids a id).mp found
    rw [if_pos isId.mem]
    exact ⟨numbers, isId⟩
  next absent =>
    have new : a ∉ values := by
      intro known
      obtain ⟨i, isId⟩ := exists_isId known
      exact nomatch ((numbers.ids a i).mpr isId).symm.trans absent
    rw [if_neg new]
    dsimp only
    rw [numbers.length_keys]
    refine ⟨⟨?_, ?_, fun b i => ?_, fun i node => ?_, ?_⟩, isId_append_singleton.mpr (.inr ⟨rfl, rfl⟩)⟩
    · rw [← List.concat_eq_append]
      exact (List.nodup_concat values a).mpr ⟨new, numbers.nodup⟩
    · rw [List.length_append, List.length_singleton, List.range_succ, List.map_append, numbers.keys]
      rfl
    · rw [lookup_cons_eq_some, isId_append_singleton]
      split
      next same =>
        subst same
        exact ⟨fun same => .inr ⟨same.symm, rfl⟩, fun either => either.elim
          (fun isId => (new isId.mem).elim) fun same => same.1.symm⟩
      next other =>
        rw [numbers.ids]
        exact ⟨.inl, fun either => either.resolve_right fun same => other same.2⟩
    · rw [lookup_cons_eq_some, isId_append_singleton]
      split
      next last =>
        subst last
        constructor
        · rintro rfl
          exact ⟨.inr ⟨rfl, rfl⟩, rfl⟩
        · rintro ⟨isId | ⟨-, same⟩, isNumber⟩
          · obtain ⟨place, here, same⟩ := isId
            obtain rfl := Int.ofNat.inj same
            exact absurd (List.getElem?_eq_some_iff.mp here).1 (Nat.lt_irrefl _)
          · cases node
            cases isNumber
            cases same
            rfl
      next earlier =>
        rw [numbers.nodes]
        exact and_congr_left' ⟨.inl, fun either => either.resolve_right fun same => earlier same.1⟩
    · refine (numbers.edges.withKey (values.length : Int)).congr (fun i => ?_) fun _ _ => Iff.rfl
      constructor
      · rintro (⟨b, isId⟩ | rfl)
        · exact ⟨b, isId_append_singleton.mpr (.inl isId)⟩
        · exact ⟨a, isId_append_singleton.mpr (.inr ⟨rfl, rfl⟩)⟩
      · rintro ⟨b, isId⟩
        rcases isId_append_singleton.mp isId with old | ⟨last, -⟩
        · exact .inl ⟨b, old⟩
        · exact .inr last

theorem Numbers.foldl_add (numbers : g.Numbers values edge) (nodes : List α) :
    (nodes.foldl (fun g value => (g.add value).2) g).Numbers (nodes.foldl meet values) edge := by
  induction nodes generalizing g values with
  | nil => exact numbers
  | cons a rest inductionHypothesis => exact inductionHypothesis (numbers.add a).1

/-! ### Adding edges -/

/-- An edge from an id to a value, whose id in the end is the one that it has or gets here. -/
theorem Numbers.link (numbers : g.Numbers values edge) {source : Int}
    (known : ∃ a, IsId values a source)
    {target : α} (nodup : all.Nodup) (front : meet values target <+: all) :
    (g.link source target).Numbers (meet values target) fun i j =>
      edge i j ∨ (i = source ∧ IsId all target j) := by
  obtain ⟨added, isId⟩ := numbers.add target
  have inAll := isId.of_prefix front
  refine { added with edges := (added.edges.add source _).congr (fun i => ?_) fun i j => ?_ }
  · refine or_iff_left_of_imp ?_
    rintro rfl
    obtain ⟨a, isSource⟩ := known
    exact ⟨a, isSource.of_prefix (prefix_meet values target)⟩
  · refine or_congr_right (and_congr_right fun _ => ?_)
    exact ⟨fun same => same ▸ inAll, fun other => other.unique nodup inAll⟩

theorem Numbers.foldl_link (numbers : g.Numbers values edge) {source : Int}
    (known : ∃ a, IsId values a source) {targets : List α} (nodup : all.Nodup)
    (front : targets.foldl meet values <+: all) :
    (targets.foldl (fun g target => g.link source target) g).Numbers (targets.foldl meet values)
      fun i j => edge i j ∨ (i = source ∧ ∃ b ∈ targets, IsId all b j) := by
  induction targets generalizing g values edge with
  | nil => exact numbers.congr fun i j => by simp
  | cons target rest inductionHypothesis =>
      have here := numbers.link known nodup ((prefix_foldl_meet _ rest).trans front)
      obtain ⟨a, isSource⟩ := known
      refine (inductionHypothesis here ⟨a, isSource.of_prefix (prefix_meet _ _)⟩ front).congr
        fun i j => ?_
      rw [or_assoc, ← and_or_left, List.exists_mem_cons_iff]

/-! ### Going through the ids -/

/-- An edge from a value that was gone through to one of its successors. -/
def Linked (successors : α → List α) (all : List α) (done : Nat) (i j : Int) : Prop :=
  ∃ a b, IsId (all.take done) a i ∧ IsId all b j ∧ b ∈ successors a

variable [Inhabited α] {successors : α → List α}

theorem Numbers.value_eq (numbers : g.Numbers values edge) {a : α} {i : Int} (isId : IsId values a i) :
    g.value i = a := by
  unfold Tables.value node
  rw [(numbers.nodes i ⟨i, a⟩).mpr ⟨isId, rfl⟩]
  rfl

omit [Inhabited α] in
theorem prefix_expand (next : α → List α) (fuel : Nat) (found frontier : List α) :
    found <+: Search.expand next fuel found frontier := by
  induction fuel generalizing found frontier with
  | zero => exact List.prefix_rfl
  | succ fuel inductionHypothesis =>
      cases frontier with
      | nil => exact List.prefix_rfl
      | cons item rest => exact (List.prefix_append _ _).trans (inductionHypothesis _ _)

/-- The ids behind a position are what waits in a search, so everything that the search finds gets
an id, and the edges of all of it are added. -/
theorem Numbers.grow {position fuel rounds : Nat} (nodup : all.Nodup)
    (numbers : g.Numbers values (Linked successors all position)) (inside : position ≤ values.length)
    (finds : Search.expand successors fuel values (values.drop position) = all)
    (bounded : all.length ≤ fuel + position) (enough : all.length < position + rounds) :
    ∃ after, grow successors rounds position g = some after ∧
      after.Numbers all (Linked successors all all.length) ∧ after.order = all.length := by
  have front : values <+: all := finds ▸ prefix_expand successors fuel values _
  induction rounds generalizing g values position fuel with
  | zero =>
      have short := front.length_le
      omega
  | succ rounds inductionHypothesis =>
      unfold Tables.grow
      by_cases atEnd : position = values.length
      · -- Nothing waits, so the search is at its end.
        rw [atEnd, List.drop_length] at finds
        obtain rfl : values = all := by
          rw [← finds]
          cases fuel <;> rfl
        subst atEnd
        rw [List.getElem?_eq_none (Nat.le_of_eq numbers.length_keys)]
        exact ⟨_, rfl, { numbers with }, numbers.length_keys⟩
      · have further : position < values.length := Nat.lt_of_le_of_ne inside atEnd
        have isId : IsId values values[position] position :=
          ⟨position, List.getElem?_eq_getElem further, rfl⟩
        have key : g.keys[position]? = some (position : Int) := by
          rw [numbers.keys, List.getElem?_map, List.getElem?_range further]
          rfl
        rw [key]
        dsimp only
        rw [numbers.value_eq isId]
        obtain ⟨fuel, rfl⟩ : ∃ fewer, fuel = fewer + 1 := by
          refine Nat.exists_eq_succ_of_ne_zero ?_
          have short := front.length_le
          omega
        have waits : values.drop position = values[position] :: values.drop (position + 1) :=
          List.drop_eq_getElem_cons further
        have met := foldl_meet values (successors values[position])
        -- What the search adds to both lists is what is met among the successors.
        have findsOn : Search.expand successors fuel
            ((successors values[position]).foldl meet values)
            (((successors values[position]).foldl meet values).drop (position + 1)) = all := by
          rw [met, List.drop_append_of_le_length further]
          rw [waits] at finds
          exact finds
        have frontOn : (successors values[position]).foldl meet values <+: all :=
          findsOn ▸ prefix_expand successors fuel _ _
        have linked := numbers.foldl_link ⟨_, isId⟩ nodup frontOn
        refine inductionHypothesis (linked.congr fun i j => ?_) ?_ findsOn (by omega) (by omega) frontOn
        · obtain ⟨place, here, -⟩ := isId.of_prefix front
          have takes : all.take (position + 1) = all.take position ++ [values[position]] := by
            obtain ⟨more, rfl⟩ := front
            rw [List.take_append_of_le_length further, List.take_append_of_le_length inside,
              List.take_succ_eq_append_getElem further]
          have length : (all.take position).length = position :=
            List.length_take_of_le (inside.trans front.length_le)
          unfold Linked
          simp only [takes, isId_append_singleton, length]
          constructor
          · rintro (⟨a, b, isSource, isTarget, next⟩ | ⟨same, b, next, isTarget⟩)
            · exact ⟨a, b, .inl isSource, isTarget, next⟩
            · exact ⟨_, b, .inr ⟨same, rfl⟩, isTarget, next⟩
          · rintro ⟨a, b, isSource | ⟨same, rfl⟩, isTarget, next⟩
            · exact .inl ⟨a, b, isSource, isTarget, next⟩
            · exact .inr ⟨same, b, next, isTarget⟩
        · exact Nat.le_trans further (prefix_foldl_meet _ _).length_le

/-- More rounds than are needed change nothing. -/
theorem grow_of_le {position rounds more : Nat} {after : Tables α} (atMost : rounds ≤ more)
    (grown : grow successors rounds position g = some after) :
    grow successors more position g = some after := by
  induction rounds generalizing g position more with
  | zero => exact nomatch grown
  | succ rounds inductionHypothesis =>
      obtain ⟨fewer, rfl⟩ := Nat.exists_eq_succ_of_ne_zero (Nat.ne_zero_of_lt atMost)
      unfold grow at grown ⊢
      split at grown
      · exact inductionHypothesis (Nat.le_of_succ_le_succ atMost) grown
      · exact grown

end Tables

end Digraph

end Tabulation
