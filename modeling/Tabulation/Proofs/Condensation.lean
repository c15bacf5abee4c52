/-
Strongly connected components, whatever finds them.

The components of what can be reached from some nodes hold each of these nodes once.  Two nodes are in
one component if and only if each reaches the other, and a component comes after all that it reaches.
Who finds the components of the ids of a graph finds those of its values.
-/

import Mathlib.Data.List.Permutation
import Tabulation.Proofs.NumberedGraphs

namespace Tabulation

/-- The strongly connected components of what the roots reach. -/
structure AreComponents {α : Type} (links : α → α → Prop) (roots : List α)
    (components : List (List α)) : Prop where
  nodup : components.flatten.Nodup
  mem : ∀ a, a ∈ components.flatten ↔ ∃ root ∈ roots, Relation.ReflTransGen links root a
  nonempty : ∀ component ∈ components, component ≠ []
  together : ∀ a ∈ components.flatten, ∀ b ∈ components.flatten,
    (∃ component ∈ components, a ∈ component ∧ b ∈ component) ↔
      Relation.ReflTransGen links a b ∧ Relation.ReflTransGen links b a

/-- No two components share a member. -/
theorem AreComponents.eq_of_mem {α : Type} {links : α → α → Prop} {roots : List α}
    {components : List (List α)} (areComponents : AreComponents links roots components)
    {one other : List α} (isOne : one ∈ components) (isOther : other ∈ components) {a : α}
    (inOne : a ∈ one) (inOther : a ∈ other) : one = other := by
  by_contra differs
  have disjoint := (List.nodup_flatten.mp areComponents.nodup).2
  have symmetric : Std.Symm (List.Disjoint (α := α)) := ⟨fun _ _ apart => apart.symm⟩
  exact disjoint.forall isOne isOther differs inOne inOther

/-- What reaches itself is together with others, or alone and next to itself. -/
theorem AreComponents.reaches_itself_iff {α : Type} {links : α → α → Prop} {roots : List α}
    {components : List (List α)} (areComponents : AreComponents links roots components)
    {component : List α} (isComponent : component ∈ components) {a : α} (member : a ∈ component) :
    Relation.TransGen links a a ↔
      1 < component.length ∨ ∃ first, component.head? = some first ∧ links first first := by
  have listed : ∀ b ∈ component, b ∈ components.flatten := fun b isMember =>
    List.mem_flatten.mpr ⟨component, isComponent, isMember⟩
  have nodup := (List.nodup_flatten.mp areComponents.nodup).1 component isComponent
  constructor
  · intro path
    obtain ⟨b, link, back⟩ := Relation.TransGen.head'_iff.mp path
    have bListed : b ∈ components.flatten := by
      obtain ⟨root, isRoot, before⟩ := (areComponents.mem a).mp (listed a member)
      exact (areComponents.mem b).mpr ⟨root, isRoot, before.tail link⟩
    obtain ⟨other, isOther, inOther, bInOther⟩ :=
      (areComponents.together a (listed a member) b bListed).mpr ⟨.single link, back⟩
    obtain rfl := areComponents.eq_of_mem isComponent isOther member inOther
    cases component with
    | nil => cases member
    | cons first rest =>
        cases rest with
        | nil =>
            obtain rfl := List.mem_singleton.mp member
            exact Or.inr ⟨a, rfl, List.mem_singleton.mp bInOther ▸ link⟩
        | cons second rest => exact Or.inl (by simp)
  · rintro (several | ⟨first, isFirst, loop⟩)
    · obtain ⟨b, isMember, differs⟩ : ∃ b ∈ component, b ≠ a := by
        by_contra none
        have all : ∀ b ∈ component, b ∈ [a] := fun b isMember =>
          List.mem_singleton.mpr (by_contra fun differs => none ⟨b, isMember, differs⟩)
        have few := nodup.length_le_of_subset all
        rw [List.length_singleton] at few
        omega
      obtain ⟨path, back⟩ := (areComponents.together a (listed a member) b (listed b isMember)).mp
        ⟨component, isComponent, member, isMember⟩
      have onward := (Relation.reflTransGen_iff_eq_or_transGen.mp path).resolve_left differs
      exact onward.trans_left back
    · have isMember := List.mem_of_head? isFirst
      obtain ⟨path, back⟩ := (areComponents.together a (listed a member) first
        (listed first isMember)).mp ⟨component, isComponent, member, isMember⟩
      exact (Relation.TransGen.tail' path loop).trans_left back

/-- The components stand in reverse topological order: none of them reaches a later one. -/
structure IsCondensation {α : Type} (links : α → α → Prop) (roots : List α)
    (components : List (List α)) : Prop extends AreComponents links roots components where
  ordered : components.Pairwise fun earlier later =>
    ∀ a ∈ earlier, ∀ b ∈ later, ¬Relation.ReflTransGen links a b

/-- The components of some ids are components of their values, when the values reach each other as
the ids do. -/
theorem IsCondensation.values {α β : Type} {links : β → β → Prop} {linksOfValues : α → α → Prop}
    {ids : List β} {nodes : List α} {components : List (List β)} {value? : β → Option α}
    (isCondensation : IsCondensation links ids components)
    (total : ∀ i ∈ components.flatten, ∃ a, value? i = some a)
    (injective : ∀ {i j a}, value? i = some a → value? j = some a → i = j)
    (reaches : ∀ {i j a b}, value? i = some a → value? j = some b →
      (Relation.ReflTransGen links i j ↔ Relation.ReflTransGen linksOfValues a b))
    (covers : ∀ a, (∃ i ∈ components.flatten, value? i = some a) ↔
      ∃ node ∈ nodes, Relation.ReflTransGen linksOfValues node a) :
    IsCondensation linksOfValues nodes (components.map fun ids => ids.filterMap value?) := by
  have flatten_eq : (components.map fun ids => ids.filterMap value?).flatten =
      components.flatten.filterMap value? := List.filterMap_flatten.symm
  refine { nodup := ?nodup, mem := ?mem, nonempty := ?nonempty, together := ?together,
           ordered := ?ordered }
  case nodup =>
    rw [flatten_eq]
    exact isCondensation.nodup.filterMap fun i j a first second => injective first second
  case mem =>
    intro a
    rw [flatten_eq, List.mem_filterMap, covers]
  case nonempty =>
    intro component member empty
    obtain ⟨ids, isComponent, rfl⟩ := List.mem_map.mp member
    obtain ⟨i, isId⟩ := List.exists_mem_of_ne_nil ids (isCondensation.nonempty ids isComponent)
    obtain ⟨a, value⟩ := total i (List.mem_flatten.mpr ⟨ids, isComponent, isId⟩)
    exact List.not_mem_nil (empty ▸ List.mem_filterMap.mpr ⟨i, isId, value⟩)
  case together =>
    intro a first b second
    rw [flatten_eq] at first second
    obtain ⟨i, isFirst, valueOfFirst⟩ := List.mem_filterMap.mp first
    obtain ⟨j, isSecond, valueOfSecond⟩ := List.mem_filterMap.mp second
    rw [← reaches valueOfFirst valueOfSecond, ← reaches valueOfSecond valueOfFirst,
      ← isCondensation.together i isFirst j isSecond]
    constructor
    · rintro ⟨component, member, inFirst, inSecond⟩
      obtain ⟨ids, isComponent, rfl⟩ := List.mem_map.mp member
      obtain ⟨k, isId, same⟩ := List.mem_filterMap.mp inFirst
      obtain ⟨l, isOther, sameOther⟩ := List.mem_filterMap.mp inSecond
      exact ⟨ids, isComponent, injective same valueOfFirst ▸ isId,
        injective sameOther valueOfSecond ▸ isOther⟩
    · rintro ⟨ids, isComponent, inFirst, inSecond⟩
      exact ⟨_, List.mem_map.mpr ⟨ids, isComponent, rfl⟩,
        List.mem_filterMap.mpr ⟨i, inFirst, valueOfFirst⟩,
        List.mem_filterMap.mpr ⟨j, inSecond, valueOfSecond⟩⟩
  case ordered =>
    refine isCondensation.ordered.map _ fun earlier later apart a first b second path => ?_
    obtain ⟨i, isFirst, valueOfFirst⟩ := List.mem_filterMap.mp first
    obtain ⟨j, isSecond, valueOfSecond⟩ := List.mem_filterMap.mp second
    exact apart i isFirst j isSecond ((reaches valueOfFirst valueOfSecond).mpr path)

namespace Digraph

variable {α : Type}

/-- What is asked of a function that finds strongly connected components. -/
def FindsComponents (find : Digraph α → List (List Nat)) : Prop :=
  ∀ g : Digraph α, g.IsNumbered → AreComponents g.Links (List.range g.order) (find g)

/-- What is asked of a function that finds the components of what the listed ids reach, each of them
after those that it reaches. -/
def FindsCondensation (find : Digraph α → List (List Nat)) : Prop :=
  ∀ g : Digraph α, g.IsNumbered → (∀ key ∈ g.keys, key < g.order) →
    IsCondensation g.Links g.keys (find g)

section Exploring

variable [DecidableEq α] {nodes : List α} {successors : α → List α} {closure : List α}
  {bound : Nat} {find : Digraph α → List (List Nat)}

/-- The components of listed nodes and all that their successors lead to, when this is finite. -/
theorem FindsCondensation.componentsOf (finds : FindsCondensation find)
    (isClosure : IsClosure nodes successors closure) (enough : closure.length ≤ bound) :
    IsCondensation (fun a b => b ∈ successors a) nodes
      (Digraph.componentsOf bound nodes successors find) := by
  have keys : (explore bound nodes successors).keys =
      List.range (explore bound nodes successors).order := keys_explore
  have onIds := finds (explore bound nodes successors) (isNumbered_explore isClosure enough)
    fun key listed => List.mem_range.mp (keys ▸ listed)
  rw [keys] at onIds
  have total : ∀ i ∈ (find (explore bound nodes successors)).flatten,
      ∃ a, (explore bound nodes successors).value? i = some a := by
    intro i member
    obtain ⟨root, isRoot, path⟩ := (onIds.mem i).mp member
    have value := List.getElem?_eq_getElem (List.mem_range.mp isRoot)
    obtain ⟨a, same, _⟩ := (reaches_explore isClosure enough value).mp path
    exact ⟨a, same⟩
  refine onIds.values total value?_explore_injective ?_ fun a => ?_
  · intro i j a b first second
    rw [reaches_explore isClosure enough first]
    constructor
    · rintro ⟨c, same, path⟩
      exact Option.some.inj (same.symm.trans second) ▸ path
    · exact fun path => ⟨b, second, path⟩
  · -- Every id is listed, so every value is in a component.
    refine Iff.trans ?_ (mem_values_explore isClosure enough)
    constructor
    · rintro ⟨i, _, value⟩
      exact (value?_explore.mp value).1
    · intro known
      have value := value?_explore.mpr ⟨known, rfl⟩
      have inside := (List.getElem?_eq_some_iff.mp value).1
      exact ⟨_, (onIds.mem _).mpr ⟨_, List.mem_range.mpr inside, .refl⟩, value⟩

end Exploring

end Digraph

end Tabulation
