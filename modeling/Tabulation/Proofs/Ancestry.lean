/-
The super types of the classes of a loaded program.

A hierarchy passes its check exactly if no type is above itself.  Then every link leads to a type with
fewer declared classes at or above it, so there is no end to the steps that links allow only where there
is no end to the classes.
-/

import Mathlib.Data.Set.Card
import Tabulation.Proofs.Loading
import Tabulation.Proofs.Subtypes

namespace Tabulation

namespace Hierarchy

variable {h : Hierarchy}

/-- No chain of links leads from a type back to it. -/
def Acyclic (h : Hierarchy) : Prop :=
  ∀ type, ¬Relation.TransGen (fun sub super => (sub, super) ∈ h.links) type type

private theorem isClosure_supers (closed : h.Closed) : IsClosure h.types h.supers h.types where
  nodes := fun _ member => member
  successors := fun sub _ super member => by
    have known := (closed (sub, super) (mem_supers.mp member)).2
    exact (List.mergeSort_perm h.names _).mem_iff.mpr known

/-- No type is its own super type, so a component of one type is no cycle. -/
theorem cycle?_eq_none_iff {find : Digraph String → List (List Nat)}
    (finds : Digraph.FindsCondensation find) (closed : h.Closed)
    (proper : ∀ type, (type, type) ∉ h.links) : Program.cycle? h find = none ↔ h.Acyclic := by
  have length : h.types.length ≤ h.names.length + 1 := by
    rw [show h.types.length = h.names.length from (List.mergeSort_perm h.names _).length_eq]
    exact Nat.le_succ _
  have isCondensation := finds.componentsOf (isClosure_supers closed) length
  simp only [mem_supers] at isCondensation
  unfold Program.cycle? Acyclic
  rw [List.find?_eq_none]
  constructor
  · intro alone type path
    obtain ⟨super, link, _⟩ := Relation.TransGen.head'_iff.mp path
    have known : type ∈ h.types :=
      (List.mergeSort_perm h.names _).mem_iff.mpr (closed (type, super) link).1
    obtain ⟨component, isComponent, member⟩ :=
      List.mem_flatten.mp ((isCondensation.mem type).mpr ⟨type, known, .refl⟩)
    rcases (isCondensation.reaches_itself_iff isComponent member).mp path with several | ⟨_, _, loop⟩
    · exact alone component isComponent (Nat.blt_eq.mpr several)
    · exact proper _ loop
  · intro acyclic component isComponent several
    obtain ⟨type, member⟩ :=
      List.exists_mem_of_ne_nil component (isCondensation.nonempty component isComponent)
    exact acyclic type
      ((isCondensation.reaches_itself_iff isComponent member).mpr (Or.inl (Nat.blt_eq.mp several)))

end Hierarchy

namespace Program

variable {p : Program}

theorem Loaded.acyclic (loaded : p.Loaded) : p.hierarchy.Acyclic := by
  obtain ⟨find, finds, noCycle⟩ := loaded.cycle?_eq_none
  refine (Hierarchy.cycle?_eq_none_iff finds p.closed_hierarchy fun type link => ?_).mp noCycle
  obtain ⟨_, _, _, _, _, proper⟩ := mem_links_hierarchy.mp link
  exact proper rfl

/-- How many declared classes a type is or has above it. -/
noncomputable def rank (p : Program) (type : String) : Nat :=
  {c | c ∈ p.classes ∧ p.hierarchy.Below type c.name}.ncard

theorem rank_le (p : Program) (type : String) : p.rank type ≤ p.classes.length := by
  have all : {c | c ∈ p.classes ∧ p.hierarchy.Below type c.name} ⊆ ↑p.classes.toFinset :=
    fun c counted => List.mem_toFinset.mpr counted.1
  calc p.rank type ≤ (↑p.classes.toFinset : Set Class).ncard :=
        Set.ncard_le_ncard all (Finset.finite_toSet _)
    _ = p.classes.toFinset.card := Set.ncard_coe_finset _
    _ ≤ p.classes.length := List.toFinset_card_le _

theorem Loaded.length_classes_le (loaded : p.Loaded) : p.classes.length ≤ p.hierarchy.names.length := by
  have known : ∀ name ∈ p.classes.map Class.name, name ∈ p.hierarchy.names := by
    intro name member
    obtain ⟨c, isClass, rfl⟩ := List.mem_map.mp member
    exact mem_names_hierarchy.mpr ⟨c, isClass, Or.inl rfl⟩
  simpa using (loaded.nodup_classes.subperm known).length_le

section SuperTypes

variable (loaded : p.Loaded) {c : Class} (isClass : c ∈ p.classes) {super : String}
  (isSuper : super ∈ c.super :: c.interfaces) (proper : super ≠ c.name)

include loaded isClass isSuper proper

/-- Declared classes above a super type of a class are above the class. The empty name, which is no
type, has none above it. -/
theorem Loaded.transGen_of_super {d : Class} (isOther : d ∈ p.classes)
    (below : p.hierarchy.Below super d.name) :
    Relation.TransGen (fun sub super => (sub, super) ∈ p.hierarchy.links) c.name d.name := by
  by_cases empty : super = ""
  · subst empty
    exfalso
    rcases Relation.ReflTransGen.cases_head below with same | ⟨_, link, _⟩
    · exact (loaded.wellFormed d isOther).named same.symm
    · obtain ⟨other, isClass, nameless, _⟩ := mem_links_hierarchy.mp link
      exact (loaded.wellFormed other isClass).named nameless
  · exact .head' (mem_links_hierarchy.mpr ⟨c, isClass, rfl, isSuper, empty, proper⟩) below

/-- A class is counted for itself, and not for any of its super types. -/
theorem Loaded.rank_lt : p.rank super < p.rank c.name := by
  have finite : {d | d ∈ p.classes ∧ p.hierarchy.Below c.name d.name}.Finite :=
    p.classes.finite_toSet.subset fun d counted => counted.1
  refine Set.ncard_lt_ncard (Set.ssubset_iff_of_subset ?_ |>.mpr ?_) finite
  · exact fun d counted => ⟨counted.1,
      (loaded.transGen_of_super isClass isSuper proper counted.1 counted.2).to_reflTransGen⟩
  · exact ⟨c, ⟨isClass, .refl⟩, fun counted =>
      loaded.acyclic c.name (loaded.transGen_of_super isClass isSuper proper isClass counted.2)⟩

end SuperTypes

/-- A class names a type as its super class or as one of its interfaces. -/
def Extends (p : Program) (sub super : String) : Prop :=
  ∃ c ∈ p.classes, c.name = sub ∧ super ∈ c.super :: c.interfaces

/-- From class to class, the names that a hierarchy leaves out lead nowhere else. -/
theorem Loaded.extends_iff (loaded : p.Loaded) {start : String} {c : Class} (isClass : c ∈ p.classes) :
    Relation.ReflTransGen p.Extends start c.name ↔ p.hierarchy.Below start c.name := by
  constructor
  · intro path
    induction path using Relation.ReflTransGen.head_induction_on with
    | refl => exact .refl
    | @head sub super extended _ below =>
        obtain ⟨d, isOther, rfl, isSuper⟩ := extended
        by_cases own : super = d.name
        · exact own ▸ below
        · exact (loaded.transGen_of_super isOther isSuper own isClass below).to_reflTransGen
  · refine Relation.ReflTransGen.mono (fun sub super link => ?_) _ _
    obtain ⟨d, isOther, named, isSuper, _⟩ := mem_links_hierarchy.mp link
    exact ⟨d, isOther, named, isSuper⟩

end Program

end Tabulation
