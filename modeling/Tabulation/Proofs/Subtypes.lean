/-
Subtypes are found by going down the links of a hierarchy.

Whatever leads to what is below a type and visits it once makes the subtype test hold exactly for chains
of links.  A breadth-first search does.  A method that a look-up finds belongs to a super type of where
it started.
-/

import Tabulation.Program.Calls
import Tabulation.Proofs.Loading
import Tabulation.Proofs.Searching

namespace Tabulation

namespace Hierarchy

variable {h : Hierarchy}

/-- Links are between known names. -/
def Closed (h : Hierarchy) : Prop := ∀ link ∈ h.links, link.1 ∈ h.names ∧ link.2 ∈ h.names

/-- A chain of links leads from a type to a super type. -/
def Below (h : Hierarchy) : (sub super : String) → Prop :=
  Relation.ReflTransGen fun sub super => (sub, super) ∈ h.links

private theorem mem_directSubtypes {sub super : String} :
    sub ∈ h.directSubtypes super ↔ (sub, super) ∈ h.links := by
  unfold directSubtypes
  simp only [List.mem_map, List.mem_filter, beq_iff_eq]
  constructor
  · rintro ⟨⟨a, b⟩, ⟨member, rfl⟩, rfl⟩
    exact member
  · intro member
    exact ⟨(sub, super), ⟨member, rfl⟩, rfl⟩

theorem mem_descendants (closed : h.Closed) {super : String} (known : super ∈ h.names)
    (sub : String) : sub ∈ h.descendants super ↔ h.Below sub super := by
  unfold descendants
  rw [Search.mem_reach h.names (by simpa using known)
    (fun a _ b member => (closed _ (mem_directSubtypes.mp member)).1) (Nat.le_succ _)]
  simp only [List.mem_singleton, exists_eq_left, mem_directSubtypes]
  exact Relation.reflTransGen_swap

theorem Below.known {sub super : String} (below : h.Below sub super) (closed : h.Closed)
    (differ : sub ≠ super) : sub ∈ h.names ∧ super ∈ h.names := by
  rcases Relation.ReflTransGen.cases_head below with same | ⟨_, first, _⟩
  · exact absurd same differ
  rcases Relation.ReflTransGen.cases_tail below with same | ⟨_, _, last⟩
  · exact absurd same.symm differ
  exact ⟨(closed _ first).1, (closed _ last).2⟩

/-- What is asked of a way to go down: it leads to what is below a known type and to nothing else,
and visits each of these types once. -/
structure Descent.IsSound (descent : Descent) : Prop where
  leads_iff : ∀ {h : Hierarchy}, h.Closed → ∀ {super sub : String}, super ∈ h.names → sub ∈ h.names →
    (descent.leads h super sub = true ↔ h.Below sub super)
  mem_visits : ∀ {h : Hierarchy}, h.Closed → ∀ {name : String}, name ∈ h.names →
    ∀ sub, sub ∈ descent.visits h name ↔ h.Below sub name
  nodup_visits : ∀ {h : Hierarchy}, h.Closed → ∀ {name : String}, name ∈ h.names →
    (descent.visits h name).Nodup

theorem Descent.isSound_breadthFirst : breadthFirst.IsSound where
  leads_iff := fun closed _ _ known _ => List.contains_iff_mem.trans (mem_descendants closed known _)
  mem_visits := fun closed _ known => mem_descendants closed known
  nodup_visits := fun _ _ _ => Search.nodup_reach _ _ _

section Descending

variable {descent : Descent} (sound : descent.IsSound) (closed : h.Closed)

include sound closed

/-- The subtype test finds the chains of links. -/
theorem isSubtype_iff {sub super : String} :
    h.isSubtype sub super descent = true ↔ h.Below sub super := by
  unfold isSubtype has
  simp only [Bool.or_eq_true, beq_iff_eq, Bool.and_eq_true, List.contains_iff_mem]
  constructor
  · rintro (rfl | ⟨⟨knownSub, known⟩, leads⟩)
    · exact Relation.ReflTransGen.refl
    · exact (sound.leads_iff closed known knownSub).mp leads
  · intro below
    by_cases same : sub = super
    · exact Or.inl same
    · have known := below.known closed same
      exact Or.inr ⟨known, (sound.leads_iff closed known.2 known.1).mpr below⟩

theorem mem_subtypes {sub super : String} :
    sub ∈ h.subtypes super descent ↔ h.Below sub super ∧ sub ≠ super := by
  unfold subtypes has
  by_cases known : super ∈ h.names
  · simp [known, sound.mem_visits closed known]
  · simp only [List.contains_iff_mem, known, if_false, List.not_mem_nil, false_iff, not_and]
    intro below differ
    exact known (below.known closed differ).2

theorem nodup_subtypes (name : String) : (h.subtypes name descent).Nodup := by
  unfold subtypes has
  split
  next known => exact (sound.nodup_visits closed (List.contains_iff_mem.mp known)).filter _
  next => exact List.nodup_nil

end Descending

theorem mem_supers {sub super : String} : super ∈ h.supers sub ↔ (sub, super) ∈ h.links := by
  unfold supers Text.sortTexts Text.sortBy
  rw [(List.mergeSort_perm _ _).mem_iff]
  simp only [List.mem_map, List.mem_filter, beq_iff_eq]
  constructor
  · rintro ⟨⟨a, b⟩, ⟨member, rfl⟩, rfl⟩
    exact member
  · intro member
    exact ⟨(sub, super), ⟨member, rfl⟩, rfl⟩

/-! ### Adding types -/

private theorem links_addName (h : Hierarchy) (name : String) :
    (h.addName name).links = h.links := by
  unfold addName
  split <;> rfl

private theorem mem_names_addName (h : Hierarchy) (name other : String) :
    other ∈ (h.addName name).names ↔ other ∈ h.names ∨ other = name := by
  unfold addName
  split
  next known =>
    have isKnown : name ∈ h.names := List.contains_iff_mem.mp known
    exact ⟨Or.inl, fun either => either.elim id fun same => same ▸ isKnown⟩
  next => simp

private theorem mem_links_addLink (name : String) (h : Hierarchy) (super : String)
    (link : String × String) :
    link ∈ (addLink name h super).links ↔
      link ∈ h.links ∨ (link = (name, super) ∧ super ≠ "" ∧ super ≠ name) := by
  unfold addLink
  by_cases excluded : super = "" ∨ super = name
  · have none : ¬(super ≠ "" ∧ super ≠ name) := by tauto
    simp [excluded, none]
  · have kept := not_or.mp excluded
    simp only [Bool.or_eq_true, beq_iff_eq, excluded, if_false]
    split
    next known =>
      have isKnown := List.contains_iff_mem.mp known
      rw [links_addName] at isKnown ⊢
      exact ⟨Or.inl, fun either => either.elim id fun new => new.1 ▸ isKnown⟩
    next => simp [links_addName, kept]

private theorem mem_names_addLink (name : String) (h : Hierarchy) (super : String)
    (other : String) :
    other ∈ (addLink name h super).names ↔
      other ∈ h.names ∨ (other = super ∧ super ≠ "" ∧ super ≠ name) := by
  unfold addLink
  by_cases excluded : super = "" ∨ super = name
  · have none : ¬(super ≠ "" ∧ super ≠ name) := by tauto
    simp [excluded, none]
  · have kept := not_or.mp excluded
    simp only [Bool.or_eq_true, beq_iff_eq, excluded, if_false]
    split <;> simp [mem_names_addName, kept]

private theorem Closed.addLink {name : String} (closed : h.Closed) (known : name ∈ h.names)
    (super : String) : (addLink name h super).Closed := by
  intro link member
  rw [mem_names_addLink, mem_names_addLink]
  rcases (mem_links_addLink name h super link).mp member with old | ⟨rfl, kept⟩
  · exact ⟨Or.inl (closed link old).1, Or.inl (closed link old).2⟩
  · exact ⟨Or.inl known, Or.inr ⟨rfl, kept⟩⟩

private theorem Closed.foldl_addLink {name : String} (supers : List String) (closed : h.Closed)
    (known : name ∈ h.names) : (supers.foldl (Hierarchy.addLink name) h).Closed := by
  induction supers generalizing h with
  | nil => exact closed
  | cons super rest inductionHypothesis =>
      exact inductionHypothesis (closed.addLink known super)
        ((mem_names_addLink name h super name).mpr (Or.inl known))

theorem Closed.addType (closed : h.Closed) (name : String) (supers : List String) :
    (h.addType name supers).Closed := by
  refine foldl_addLink supers (fun link member => ?_)
    ((mem_names_addName h name name).mpr (Or.inr rfl))
  rw [links_addName] at member
  rw [mem_names_addName, mem_names_addName]
  exact ⟨Or.inl (closed link member).1, Or.inl (closed link member).2⟩

private theorem mem_links_foldl_addLink (name : String) (supers : List String) (h : Hierarchy)
    (link : String × String) :
    link ∈ (supers.foldl (addLink name) h).links ↔
      link ∈ h.links ∨ (link.1 = name ∧ link.2 ∈ supers ∧ link.2 ≠ "" ∧ link.2 ≠ name) := by
  obtain ⟨sub, super⟩ := link
  induction supers generalizing h with
  | nil => simp
  | cons first rest inductionHypothesis =>
      rw [List.foldl_cons, inductionHypothesis, mem_links_addLink]
      simp only [Prod.mk.injEq, List.mem_cons]
      constructor
      · rintro ((old | ⟨⟨rfl, rfl⟩, kept⟩) | ⟨same, member, kept⟩)
        · exact Or.inl old
        · exact Or.inr ⟨rfl, Or.inl rfl, kept⟩
        · exact Or.inr ⟨same, Or.inr member, kept⟩
      · rintro (old | ⟨same, rfl | member, kept⟩)
        · exact Or.inl (Or.inl old)
        · exact Or.inl (Or.inr ⟨⟨same, rfl⟩, kept⟩)
        · exact Or.inr ⟨same, member, kept⟩

theorem mem_links_addType (h : Hierarchy) (name : String) (supers : List String)
    (link : String × String) :
    link ∈ (h.addType name supers).links ↔
      link ∈ h.links ∨ (link.1 = name ∧ link.2 ∈ supers ∧ link.2 ≠ "" ∧ link.2 ≠ name) := by
  unfold addType
  rw [mem_links_foldl_addLink, links_addName]

private theorem mem_names_foldl_addLink (name : String) (supers : List String) (h : Hierarchy)
    (known : name ∈ h.names) (other : String) :
    other ∈ (supers.foldl (addLink name) h).names ↔
      other ∈ h.names ∨ (other ∈ supers ∧ other ≠ "") := by
  induction supers generalizing h with
  | nil => simp
  | cons first rest inductionHypothesis =>
      rw [List.foldl_cons, inductionHypothesis _
        ((mem_names_addLink name h first name).mpr (Or.inl known)),
        mem_names_addLink, List.mem_cons]
      constructor
      · rintro ((old | ⟨rfl, named, _⟩) | ⟨member, named⟩)
        · exact Or.inl old
        · exact Or.inr ⟨Or.inl rfl, named⟩
        · exact Or.inr ⟨Or.inr member, named⟩
      · rintro (old | ⟨rfl | member, named⟩)
        · exact Or.inl (Or.inl old)
        · by_cases own : other = name
          · exact Or.inl (Or.inl (own ▸ known))
          · exact Or.inl (Or.inr ⟨rfl, named, own⟩)
        · exact Or.inr ⟨member, named⟩

/-- A type becomes known with those of its super types that have a name. -/
theorem mem_names_addType (h : Hierarchy) (name : String) (supers : List String) (other : String) :
    other ∈ (h.addType name supers).names ↔
      other ∈ h.names ∨ other = name ∨ (other ∈ supers ∧ other ≠ "") := by
  unfold addType
  rw [mem_names_foldl_addLink name supers _ ((mem_names_addName h name name).mpr (Or.inr rfl)),
    mem_names_addName, or_assoc]

end Hierarchy

namespace Program

variable {p : Program}

theorem closed_hierarchy (p : Program) : p.hierarchy.Closed := by
  have folded : ∀ (classes : List Class) (h : Hierarchy), h.Closed →
      (classes.foldl (fun h c => h.addType c.name (c.super :: c.interfaces)) h).Closed := by
    intro classes
    induction classes with
    | nil => exact fun h closed => closed
    | cons c rest inductionHypothesis =>
        exact fun h closed => inductionHypothesis _ (closed.addType _ _)
  refine folded p.classes .empty fun link member => ?_
  cases member

/-- The types are the declared classes and whatever type a class names above it. -/
theorem mem_names_hierarchy {name : String} :
    name ∈ p.hierarchy.names ↔
      ∃ c ∈ p.classes, name = c.name ∨ (name ∈ c.super :: c.interfaces ∧ name ≠ "") := by
  have folded : ∀ (classes : List Class) (h : Hierarchy),
      name ∈ (classes.foldl (fun h c => h.addType c.name (c.super :: c.interfaces)) h).names ↔
        name ∈ h.names ∨
          ∃ c ∈ classes, name = c.name ∨ (name ∈ c.super :: c.interfaces ∧ name ≠ "") := by
    intro classes
    induction classes with
    | nil => simp
    | cons c rest inductionHypothesis =>
        intro h
        rw [List.foldl_cons, inductionHypothesis, Hierarchy.mem_names_addType,
          List.exists_mem_cons_iff, or_assoc]
  exact (folded p.classes .empty).trans (by simp [Hierarchy.empty])

/-- The direct super types of a class are its super class and its interfaces. -/
theorem mem_links_hierarchy {sub super : String} :
    (sub, super) ∈ p.hierarchy.links ↔ ∃ c ∈ p.classes, c.name = sub ∧
      super ∈ c.super :: c.interfaces ∧ super ≠ "" ∧ super ≠ sub := by
  have folded : ∀ (classes : List Class) (h : Hierarchy),
      (sub, super) ∈
          (classes.foldl (fun h c => h.addType c.name (c.super :: c.interfaces)) h).links ↔
        (sub, super) ∈ h.links ∨ ∃ c ∈ classes, c.name = sub ∧
          super ∈ c.super :: c.interfaces ∧ super ≠ "" ∧ super ≠ sub := by
    intro classes
    induction classes with
    | nil => simp
    | cons c rest inductionHypothesis =>
        intro h
        rw [List.foldl_cons, inductionHypothesis, Hierarchy.mem_links_addType,
          List.exists_mem_cons_iff, or_assoc]
        refine or_congr Iff.rfl (or_congr ?_ Iff.rfl)
        constructor
        · rintro ⟨rfl, rest⟩
          exact ⟨rfl, rest⟩
        · rintro ⟨rfl, rest⟩
          exact ⟨rfl, rest⟩
  exact (folded p.classes .empty).trans (by simp [Hierarchy.empty])

/-! ### Looking methods up -/

/-- A method that is found from a class is declared there or in a super type. -/
structure Inherits (p : Program) (start name : String) (m : Method) : Prop where
  declared : p.method? m.id = some m
  name_eq : m.id.name = name
  below : p.hierarchy.Below start m.id.owner

private theorem Loaded.inherits_own (loaded : p.Loaded) {start name : String} {c : Class}
    (known : p.class? start = some c) {m : Method} (own : c.method? name = some m) :
    p.Inherits start name m := by
  have direct : p.method? ⟨start, name⟩ = some m := by
    simp only [method?, known, Option.bind_some, own]
  obtain ⟨same, _⟩ := loaded.method?_eq_some direct
  refine ⟨same ▸ direct, congrArg MethodName.name same, ?_⟩
  rw [same]
  exact Relation.ReflTransGen.refl

private theorem Inherits.of_link {sub super name : String} {m : Method}
    (inherits : p.Inherits super name m) (link : (sub, super) ∈ p.hierarchy.links) :
    p.Inherits sub name m :=
  ⟨inherits.declared, inherits.name_eq, inherits.below.head link⟩

/-- No class has the empty name, so nothing is found from there. -/
private theorem Loaded.lookupInSupers_empty (loaded : p.Loaded) (name : String) (fuel : Nat) :
    p.lookupInSupers name fuel "" = none := by
  have missing : p.class? "" = none := by
    rw [Option.eq_none_iff_forall_ne_some]
    intro c found
    obtain ⟨isClass, nameless⟩ := class?_eq_some found
    exact (loaded.wellFormed c isClass).named nameless
  cases fuel with
  | zero => rfl
  | succ fuel => simp [lookupInSupers, missing]

private theorem Loaded.inherits_of_lookupInSupers (loaded : p.Loaded) {name start : String}
    {fuel : Nat} {m : Method} (found : p.lookupInSupers name fuel start = some m) :
    p.Inherits start name m := by
  induction fuel generalizing start with
  | zero => cases found
  | succ fuel inductionHypothesis =>
      unfold lookupInSupers at found
      split at found
      · cases found
      next c known =>
        split at found
        next own =>
          cases found
          exact loaded.inherits_own known own
        next =>
          have inherits := inductionHypothesis found
          obtain ⟨isClass, named⟩ := class?_eq_some known
          by_cases same : c.super = start
          · exact same ▸ inherits
          · refine inherits.of_link (mem_links_hierarchy.mpr
              ⟨c, isClass, named, List.mem_cons_self, ?_, same⟩)
            intro empty
            rw [empty, loaded.lookupInSupers_empty] at found
            cases found

private theorem Loaded.inherits_of_lookupFrom (loaded : p.Loaded) {name start : String}
    {fuel : Nat} {m : Method} (found : p.lookupFrom p.hierarchy name fuel start = some m) :
    p.Inherits start name m := by
  induction fuel generalizing start with
  | zero => cases found
  | succ fuel inductionHypothesis =>
      unfold lookupFrom at found
      split at found
      next inSupers =>
        cases found
        exact loaded.inherits_of_lookupInSupers inSupers
      next =>
        obtain ⟨super, member, foundThere⟩ := List.exists_of_findSome?_eq_some found
        exact (inductionHypothesis foundThere).of_link (Hierarchy.mem_supers.mp member)

theorem Loaded.inherits_of_lookup (loaded : p.Loaded) {name start : String} {m : Method}
    (found : p.lookup start name = some m) : p.Inherits start name m :=
  loaded.inherits_of_lookupFrom found

end Program

end Tabulation
