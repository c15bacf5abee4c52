/-
Depth-first walks find strongly connected components.

What a walk completes first leads to nothing that it completes later, and all that the roots reach is
complete in the end.  So the components that it gives are those of the graph, each after all that it
reaches.
-/

import Tabulation.Proofs.Condensation
import Tabulation.Proofs.DepthFirst

namespace Tabulation

namespace Digraph

section Numbered

variable {α : Type} {g : Digraph α}

/-! ### Complete components -/

namespace Completed

variable {components : List (List Nat)} (completed : g.Completed components)

include completed

/-- What was completed first leads to nothing that was completed later. -/
theorem front_closed {front back : List (List Nat)} (parts : components = front ++ back) {a b : Nat}
    (inFront : a ∈ front.flatten) (path : Relation.ReflTransGen g.Links a b) :
    b ∈ front.flatten := by
  induction path with
  | refl => exact inFront
  | @tail c d _ link inductionHypothesis =>
      have known : d ∈ components.flatten := by
        refine completed.closed c ?_ d link
        rw [parts, List.flatten_append]
        exact List.mem_append_left _ inductionHypothesis
      rw [parts, List.flatten_append] at known
      refine (List.mem_append.mp known).resolve_right fun inBack => ?_
      obtain ⟨earlier, isEarlier, source⟩ := List.mem_flatten.mp inductionHypothesis
      obtain ⟨later, isLater, target⟩ := List.mem_flatten.mp inBack
      have apart := (List.pairwise_append.mp (parts ▸ completed.ordered)).2.2
      exact apart earlier isEarlier later isLater c source d target link

theorem not_reaches_later (nodup : components.flatten.Nodup) :
    components.Pairwise fun earlier later =>
      ∀ a ∈ earlier, ∀ b ∈ later, ¬Relation.ReflTransGen g.Links a b := by
  rw [List.pairwise_iff_getElem]
  intro i j insideI insideJ less a first b second path
  have parts : components = components.take j ++ components.drop j := (List.take_append_drop ..).symm
  have isEarlier : a ∈ (components.take j).flatten :=
    List.mem_flatten.mpr ⟨components[i], List.mem_take_iff_getElem.mpr ⟨i, by omega, rfl⟩, first⟩
  have isLater : b ∈ (components.drop j).flatten :=
    List.mem_flatten.mpr ⟨components[j], List.mem_drop_iff_getElem.mpr ⟨0, by omega, rfl⟩, second⟩
  rw [parts, List.flatten_append] at nodup
  exact List.disjoint_of_nodup_append nodup (completed.front_closed parts isEarlier path) isLater

/-- Two ids that reach each other are in one component. -/
theorem together (nodup : components.flatten.Nodup) {a b : Nat} (first : a ∈ components.flatten)
    (second : b ∈ components.flatten) :
    (∃ component ∈ components, a ∈ component ∧ b ∈ component) ↔
      Relation.ReflTransGen g.Links a b ∧ Relation.ReflTransGen g.Links b a := by
  constructor
  · rintro ⟨component, member, isFirst, isSecond⟩
    exact ⟨completed.connected component member a isFirst b isSecond,
      completed.connected component member b isSecond a isFirst⟩
  · rintro ⟨path, back⟩
    obtain ⟨one, isOne, inOne⟩ := List.mem_flatten.mp first
    obtain ⟨other, isOther, inOther⟩ := List.mem_flatten.mp second
    have apart := List.pairwise_iff_getElem.mp (completed.not_reaches_later nodup)
    obtain ⟨i, insideI, rfl⟩ := List.getElem_of_mem isOne
    obtain ⟨j, insideJ, rfl⟩ := List.getElem_of_mem isOther
    rcases Nat.lt_trichotomy i j with less | rfl | more
    · exact absurd path (apart i j insideI insideJ less a inOne b inOther)
    · exact ⟨components[i], isOne, inOne, inOther⟩
    · exact absurd back (apart j i insideJ insideI more b inOther a inOne)

end Completed

/-! ### Walks from roots -/

/-- A walk that went on to all that some roots reach. -/
private structure Visited (g : Digraph α) (before : Walk) (roots : List Nat) (after : Walk) :
    Prop where
  walks : g.Walks [] after
  grows : before.found <:+ after.found
  found : ∀ root ∈ roots, root ∈ after.found
  reached : ∀ a ∈ after.found, a ∉ before.found →
    ∃ root ∈ roots, Relation.ReflTransGen g.Links root a

private theorem visited_visitRoot (isNumbered : g.IsNumbered) {walk : Walk}
    (walks : g.Walks [] walk) {root : Nat} (inside : root < g.order) :
    Visited g walk [root] (g.visitRoot walk root) := by
  unfold visitRoot
  split
  case isTrue found =>
    constructor
    case walks => exact walks
    case grows => exact List.suffix_rfl
    case found => exact List.forall_mem_singleton.mpr (List.contains_iff_mem.mp found)
    case reached => exact fun a found isNew => absurd found isNew
  case isFalse unknown =>
    have connects := connects_connect isNumbered (g.order + 1) [] walk root walks
      (fun found => unknown (List.contains_iff_mem.mpr found)) inside
      (fun _ impossible => nomatch impossible) (by omega)
    constructor
    case walks => exact connects.walks
    case grows => exact connects.grows
    case found => exact List.forall_mem_singleton.mpr connects.found
    case reached =>
      exact fun a found isNew => ⟨root, List.mem_singleton_self root, connects.reached a found isNew⟩

private theorem visited_foldl (isNumbered : g.IsNumbered) : ∀ (roots : List Nat) (walk : Walk),
    g.Walks [] walk → (∀ root ∈ roots, root < g.order) →
    Visited g walk roots (roots.foldl g.visitRoot walk) := by
  intro roots
  induction roots with
  | nil =>
      intro walk walks _
      exact ⟨walks, List.suffix_rfl, List.forall_mem_nil _, fun a found isNew => absurd found isNew⟩
  | cons root roots inductionHypothesis =>
      intro walk walks inside
      obtain ⟨insideRoot, insideRoots⟩ := List.forall_mem_cons.mp inside
      have first := visited_visitRoot isNumbered walks insideRoot
      have more := inductionHypothesis _ first.walks insideRoots
      rw [List.foldl_cons]
      constructor
      case walks => exact more.walks
      case grows => exact first.grows.trans more.grows
      case found =>
        refine List.forall_mem_cons.mpr ⟨?_, more.found⟩
        exact more.grows.subset (first.found root (List.mem_singleton_self root))
      case reached =>
        intro a found isNew
        by_cases early : a ∈ (g.visitRoot walk root).found
        · obtain ⟨start, isRoot, path⟩ := first.reached a early isNew
          exact ⟨root, List.mem_cons_self, List.mem_singleton.mp isRoot ▸ path⟩
        · obtain ⟨start, isRoot, path⟩ := more.reached a found early
          exact ⟨start, List.mem_cons_of_mem _ isRoot, path⟩

private theorem walks_empty : g.Walks [] {} where
  nodup := List.nodup_nil
  bounded := fun _ impossible => nomatch impossible
  sublist := List.Sublist.refl []
  perm := List.Perm.refl []
  opened := fun _ impossible => nomatch impossible
  followed := fun _ impossible => nomatch impossible
  chained := List.Pairwise.nil
  returns := fun _ impossible => nomatch impossible
  completed :=
    { nonempty := fun _ impossible => nomatch impossible
      connected := fun _ impossible => nomatch impossible
      closed := fun _ impossible => nomatch impossible
      ordered := List.Pairwise.nil }

/-- The components of what can be reached from ids. -/
theorem isCondensation_componentsFrom (isNumbered : g.IsNumbered) {roots : List Nat}
    (inside : ∀ root ∈ roots, root < g.order) :
    IsCondensation g.Links roots (g.componentsFrom roots) := by
  have visited := visited_foldl isNumbered roots {} walks_empty inside
  unfold componentsFrom
  generalize roots.foldl g.visitRoot {} = walk at visited
  have walks := visited.walks
  -- Nothing stays open, since what is open returns to the path, and the path is empty.
  have closed : walk.opened = [] := List.eq_nil_iff_forall_not_mem.mpr fun a isOpen => by
    obtain ⟨_, impossible, _⟩ := walks.returns a isOpen
    cases impossible
  have mem_found : ∀ a, a ∈ walk.complete.flatten ↔ a ∈ walk.found := by
    intro a
    rw [walks.mem_found, closed]
    simp
  have nodup : walk.complete.flatten.Nodup := (List.nodup_append.mp walks.nodup_parts).2.1
  refine { nodup := ?nodup, mem := ?mem, nonempty := ?nonempty, together := ?together,
           ordered := ?ordered }
  case nodup => exact nodup
  case nonempty => exact walks.completed.nonempty
  case ordered => exact walks.completed.not_reaches_later nodup
  case together => exact fun a first b second => walks.completed.together nodup first second
  case mem =>
    intro a
    rw [mem_found]
    constructor
    · exact fun found => visited.reached a found (List.not_mem_nil)
    · rintro ⟨root, isRoot, path⟩
      induction path with
      | refl => exact visited.found root isRoot
      | tail _ link found => exact walks.followed _ found List.not_mem_nil _ link

end Numbered

theorem findsCondensation_components {α : Type} : FindsCondensation (α := α) components :=
  fun _ isNumbered inside => isCondensation_componentsFrom isNumbered inside

theorem findsComponents_strongComponents {α : Type} : FindsComponents (α := α) strongComponents :=
  fun _ isNumbered => (isCondensation_componentsFrom isNumbered fun _ member =>
    List.mem_range.mp member).toAreComponents

/-! ### Components of values -/

section Exploring

variable {α : Type} [DecidableEq α] {nodes : List α} {successors : α → List α} {closure : List α}
  {find : Digraph α → List (List Nat)}

/-- For listed nodes and successors with a finite closure, every bound that suffices gives the same
list of components: it holds what can be reached from the nodes, each once and no component empty, two
nodes are together if and only if each reaches the other, and no component reaches a later one. -/
theorem components_of_closure (finds : FindsCondensation find)
    (isClosure : IsClosure nodes successors closure) :
    ∃ components : List (List α),
      (∀ bound, closure.length ≤ bound → componentsOf bound nodes successors find = components) ∧
      IsCondensation (fun a b => b ∈ successors a) nodes components := by
  refine ⟨_, fun bound enough => ?_, finds.componentsOf isClosure le_rfl⟩
  unfold componentsOf explore
  rw [Search.reach_eq closure isClosure.nodes isClosure.successors enough]

end Exploring

private def crossing : Nat → List Nat
  | 0 => [1, 3]
  | 1 => [2]
  | 2 => [0, 4]
  | 3 => [3]
  | _ => []

theorem components_of_closure_crossing :
    componentsOf 6 [2, 5, 2] crossing = [[3], [4], [1, 0, 2], [5]] ∧
    ∃ components : List (List Nat),
      (∀ bound, 6 ≤ bound → componentsOf bound [2, 5, 2] crossing = components) ∧
      IsCondensation (fun a b => b ∈ crossing a) [2, 5, 2] components :=
  have isClosure : IsClosure [2, 5, 2] crossing [0, 1, 2, 3, 4, 5] :=
    { nodes := by decide, successors := by decide }
  ⟨by cbv, components_of_closure findsCondensation_components isClosure⟩

end Digraph

end Tabulation
