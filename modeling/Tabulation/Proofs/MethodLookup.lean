/-
The method that a class declares or inherits.

Neither the walk along the super classes nor the search through the super types has a bound of its
own.  Both go up a hierarchy without cycles, so both come to an end, and a look-up ends as they do.
What it finds is declared at or above the class; it finds nothing only where nothing is declared;
and a super class comes before all interfaces, the nearest one first.
-/

import Tabulation.Proofs.Ancestry
import Tabulation.Proofs.Declarations
import Tabulation.Proofs.DynamicDispatch

namespace Tabulation.Program

variable {p : Program} {name start : String}

/-! ### The search -/

/-- How the walk along the super classes ends: with a method, or at a class that is not declared or that
the walk has passed. -/
inductive Climbs (p : Program) (name : String) :
    (passed : List String) → (start : String) → Option Method → Prop
  | undeclared {passed : List String} {start : String} (missing : p.class? start = none) :
      Climbs p name passed start none
  | again {passed : List String} {start : String} {c : Class} (known : p.class? start = some c)
      (old : c.name ∈ passed) : Climbs p name passed start none
  | declares {passed : List String} {start : String} {c : Class} {m : Method}
      (known : p.class? start = some c) (new : c.name ∉ passed) (own : c.method? name = some m) :
      Climbs p name passed start (some m)
  | up {passed : List String} {start : String} {c : Class} {result : Option Method}
      (known : p.class? start = some c) (new : c.name ∉ passed) (lacks : c.method? name = none)
      (above : Climbs p name (c.name :: passed) c.super result) : Climbs p name passed start result

/-- How the search from some classes ends, one after the other until there is a method: first along the
super classes, then from all direct super types in turn. -/
inductive Looks (p : Program) (name : String) : (starts : List String) → Option Method → Prop
  | nowhere : Looks p name [] none
  | inSupers {start : String} {rest : List String} {m : Method}
      (climbs : Climbs p name [] start (some m)) : Looks p name (start :: rest) (some m)
  | above {start : String} {rest : List String} {m : Method} (climbs : Climbs p name [] start none)
      (found : Looks p name (p.hierarchy.supers start) (some m)) :
      Looks p name (start :: rest) (some m)
  | goesOn {start : String} {rest : List String} {result : Option Method}
      (climbs : Climbs p name [] start none) (nothing : Looks p name (p.hierarchy.supers start) none)
      (others : Looks p name rest result) : Looks p name (start :: rest) result

/-- At a declared class the walk ends, or goes on to the super class. -/
private theorem Climbs.cases_known {passed : List String} {c : Class} {result : Option Method}
    (climbs : Climbs p name passed start result) (known : p.class? start = some c) :
    (c.name ∈ passed ∧ result = none) ∨
      c.name ∉ passed ∧ ((∃ m, c.method? name = some m ∧ result = some m) ∨
        c.method? name = none ∧ Climbs p name (c.name :: passed) c.super result) := by
  cases climbs with
  | undeclared missing => exact absurd (missing.symm.trans known) nofun
  | again same old =>
      cases known.symm.trans same
      exact Or.inl ⟨old, rfl⟩
  | declares same new own =>
      cases known.symm.trans same
      exact Or.inr ⟨new, Or.inl ⟨_, own, rfl⟩⟩
  | up same new lacks above =>
      cases known.symm.trans same
      exact Or.inr ⟨new, Or.inr ⟨lacks, above⟩⟩

theorem Climbs.unique {passed : List String} {first second : Option Method}
    (climbs : Climbs p name passed start first) (other : Climbs p name passed start second) :
    first = second := by
  induction climbs with
  | undeclared missing =>
      cases other with
      | undeclared _ | again _ _ => rfl
      | declares known _ _ | up known _ _ _ => exact absurd (missing.symm.trans known) nofun
  | again known old =>
      rcases other.cases_known known with ⟨_, nothing⟩ | ⟨new, _⟩
      · exact nothing.symm
      · exact absurd old new
  | declares known new own =>
      rcases other.cases_known known with ⟨old, _⟩ | ⟨_, ⟨m, same, rfl⟩ | ⟨lacks, _⟩⟩
      · exact absurd old new
      · exact own.symm.trans same
      · exact absurd (own.symm.trans lacks) nofun
  | up known new lacks _ inductionHypothesis =>
      rcases other.cases_known known with ⟨old, _⟩ | ⟨_, ⟨m, own, _⟩ | ⟨_, above⟩⟩
      · exact absurd old new
      · exact absurd (own.symm.trans lacks) nofun
      · exact inductionHypothesis above

theorem Looks.unique {starts : List String} {first second : Option Method}
    (looks : Looks p name starts first) (other : Looks p name starts second) : first = second := by
  induction looks generalizing second with
  | nowhere =>
      cases other
      rfl
  | inSupers climbs =>
      cases other with
      | inSupers same => exact climbs.unique same
      | above same _ | goesOn same _ _ => exact absurd (climbs.unique same) nofun
  | above climbs _ inductionHypothesis =>
      cases other with
      | inSupers same => exact absurd (climbs.unique same) nofun
      | above _ found => exact inductionHypothesis found
      | goesOn _ nothing _ => exact absurd (inductionHypothesis nothing) nofun
  | goesOn climbs _ _ nothing inductionHypothesis =>
      cases other with
      | inSupers same => exact absurd (climbs.unique same) nofun
      | above _ found => exact absurd (nothing found) nofun
      | goesOn _ _ others => exact inductionHypothesis others

/-! ### Its end -/

/-- None of the classes at or above a type was passed. -/
def Unpassed (p : Program) (passed : List String) (start : String) : Prop :=
  ∀ c ∈ p.classes, p.hierarchy.Below start c.name → c.name ∉ passed

namespace Loaded

variable (loaded : p.Loaded)

include loaded

private theorem unpassed_super {passed : List String} {c : Class} (isClass : c ∈ p.classes)
    (unpassed : p.Unpassed passed c.name) : p.Unpassed (c.name :: passed) c.super := by
  intro d isOther below
  have path := loaded.transGen_of_super isClass List.mem_cons_self
    (loaded.wellFormed c isClass).super_ne isOther below
  have differs : d.name ≠ c.name := fun same => loaded.acyclic c.name (same ▸ path)
  exact List.not_mem_cons_of_ne_of_not_mem differs (unpassed d isOther path.to_reflTransGen)

private theorem climbs_lookupInSupers {fuel : Nat} {passed : List String}
    (enough : p.rank start < fuel) (unpassed : p.Unpassed passed start) :
    Climbs p name passed start (p.lookupInSupers name fuel start) := by
  induction fuel generalizing passed start with
  | zero => exact absurd enough (Nat.not_lt_zero _)
  | succ fuel inductionHypothesis =>
      unfold lookupInSupers
      split
      next missing => exact .undeclared missing
      next c known =>
        obtain ⟨isClass, rfl⟩ := class?_eq_some known
        have new : c.name ∉ passed := unpassed c isClass .refl
        split
        next m own => exact .declares known new own
        next lacks =>
          have lower := loaded.rank_lt isClass List.mem_cons_self
            (loaded.wellFormed c isClass).super_ne
          exact .up known new lacks
            (inductionHypothesis (by omega) (loaded.unpassed_super isClass unpassed))

private theorem looks_lookupFrom {fuel : Nat} {starts : List String}
    (enough : ∀ start ∈ starts, p.rank start < fuel) :
    Looks p name starts (starts.findSome? (p.lookupFrom p.hierarchy name fuel)) := by
  induction fuel generalizing starts with
  | zero =>
      cases starts with
      | nil => exact .nowhere
      | cons start _ => exact absurd (enough start List.mem_cons_self) (Nat.not_lt_zero _)
  | succ fuel inductionHypothesis =>
      induction starts with
      | nil => exact .nowhere
      | cons start rest others =>
          obtain ⟨first, later⟩ := List.forall_mem_cons.mp enough
          have climbs : Climbs p name [] start
              (p.lookupInSupers name (p.classes.length + 1) start) :=
            loaded.climbs_lookupInSupers (Nat.lt_succ_of_le (p.rank_le start))
              fun _ _ _ => List.not_mem_nil
          have above : Looks p name (p.hierarchy.supers start)
              ((p.hierarchy.supers start).findSome? (p.lookupFrom p.hierarchy name fuel)) := by
            refine inductionHypothesis fun super isSuper => ?_
            obtain ⟨c, isClass, rfl, isDirect, _, proper⟩ :=
              mem_links_hierarchy.mp (Hierarchy.mem_supers.mp isSuper)
            have lower := loaded.rank_lt isClass isDirect proper
            omega
          rw [List.findSome?_cons, lookupFrom]
          cases inSupers : p.lookupInSupers name (p.classes.length + 1) start with
          | some m => exact .inSupers (inSupers ▸ climbs)
          | none =>
              dsimp only
              cases found : (p.hierarchy.supers start).findSome?
                  (p.lookupFrom p.hierarchy name fuel) with
              | some m => exact .above (inSupers ▸ climbs) (found ▸ above)
              | none => exact .goesOn (inSupers ▸ climbs) (found ▸ above) (others later)

/-- The search ends, with what a look-up gives and with nothing else. -/
private theorem looks_iff {result : Option Method} :
    Looks p name [start] result ↔ p.lookup start name = result := by
  have enough : p.rank start < p.hierarchy.names.length + 1 :=
    Nat.lt_succ_of_le ((p.rank_le start).trans loaded.length_classes_le)
  have looks : Looks p name [start] (p.lookup start name) := by
    have looks : Looks p name [start] ([start].findSome?
        (p.lookupFrom p.hierarchy name (p.hierarchy.names.length + 1))) :=
      loaded.looks_lookupFrom (List.forall_mem_singleton.mpr enough)
    rw [List.findSome?_singleton] at looks
    exact looks
  constructor
  · exact looks.unique
  · rintro rfl
    exact looks

end Loaded

/-! ### Where methods come from -/

/-- A declared class is the type itself, or a super class or interface of it, or of one of those. -/
def IsAtOrAbove (p : Program) (start : String) (c : Class) : Prop :=
  c ∈ p.classes ∧ Relation.ReflTransGen p.Extends start c.name

/-- The declared class that is a number of steps up the super classes. -/
def superClass? (p : Program) (start : String) : (steps : Nat) → Option Class
  | 0 => p.class? start
  | steps + 1 => (p.class? start).bind fun c => p.superClass? c.super steps

/-- A method is declared by the nearest of the super classes, the class itself first, that declare the
name. -/
def IsNearest (p : Program) (start name : String) (m : Method) : Prop :=
  ∃ steps c, p.superClass? start steps = some c ∧ c.method? name = some m ∧
    ∀ fewer < steps, ∀ nearer, p.superClass? start fewer = some nearer → nearer.method? name = none

namespace Loaded

variable (loaded : p.Loaded)

include loaded

private theorem isAtOrAbove_iff {c : Class} :
    p.IsAtOrAbove start c ↔ c ∈ p.classes ∧ p.hierarchy.Below start c.name :=
  and_congr_right loaded.extends_iff

private theorem declared_of_lookup {m : Method} (found : p.lookup start name = some m) :
    ∃ c, p.IsAtOrAbove start c ∧ c.method? name = some m := by
  have inherits := loaded.inherits_of_lookup found
  obtain ⟨c, known, own⟩ := Option.bind_eq_some_iff.mp inherits.declared
  obtain ⟨isClass, owner⟩ := class?_eq_some known
  exact ⟨c, loaded.isAtOrAbove_iff.mpr ⟨isClass, owner ▸ inherits.below⟩, inherits.name_eq ▸ own⟩

private theorem lacks_of_climbs {c : Class} (isClass : c ∈ p.classes)
    (climbs : Climbs p name [] c.name none) : c.method? name = none := by
  rcases climbs.cases_known (loaded.class?_iff.mpr ⟨isClass, rfl⟩) with
    ⟨old, _⟩ | ⟨_, ⟨_, _, impossible⟩ | ⟨lacks, _⟩⟩
  · cases old
  · cases impossible
  · exact lacks

/-- Where the search finds nothing, nothing is declared. -/
private theorem lacks_of_looks {starts : List String} {result : Option Method}
    (looks : Looks p name starts result) (nothing : result = none) {c : Class}
    (isClass : c ∈ p.classes) :
    ∀ start ∈ starts, p.hierarchy.Below start c.name → c.method? name = none := by
  induction looks with
  | nowhere => exact fun _ impossible => nomatch impossible
  | inSupers _ | above _ _ _ => cases nothing
  | goesOn climbs _ _ above others =>
      refine List.forall_mem_cons.mpr ⟨fun below => ?_, others nothing⟩
      rcases Relation.ReflTransGen.cases_head below with rfl | ⟨super, link, below⟩
      · exact loaded.lacks_of_climbs isClass climbs
      · exact above rfl super (Hierarchy.mem_supers.mpr link) below

private theorem climbs_of_superClass? {steps : Nat} {passed : List String} {c : Class} {m : Method}
    (unpassed : p.Unpassed passed start) (reaches : p.superClass? start steps = some c)
    (own : c.method? name = some m)
    (nearest : ∀ fewer < steps, ∀ nearer, p.superClass? start fewer = some nearer →
      nearer.method? name = none) : Climbs p name passed start (some m) := by
  induction steps generalizing passed start with
  | zero =>
      obtain ⟨isClass, rfl⟩ := class?_eq_some reaches
      exact .declares reaches (unpassed c isClass .refl) own
  | succ steps inductionHypothesis =>
      obtain ⟨d, known, reachesAbove⟩ := Option.bind_eq_some_iff.mp reaches
      obtain ⟨isClass, rfl⟩ := class?_eq_some known
      refine .up known (unpassed d isClass .refl) (nearest 0 (Nat.succ_pos _) d known)
        (inductionHypothesis (loaded.unpassed_super isClass unpassed) reachesAbove ?_)
      intro fewer less nearer reachesNearer
      refine nearest (fewer + 1) (Nat.succ_lt_succ less) nearer ?_
      rw [superClass?, known]
      exact reachesNearer

private theorem lookup_of_isNearest {m : Method} (nearest : p.IsNearest start name m) :
    p.lookup start name = some m := by
  obtain ⟨steps, c, reaches, own, nearest⟩ := nearest
  exact loaded.looks_iff.mp
    (.inSupers (loaded.climbs_of_superClass? (fun _ _ _ => List.not_mem_nil) reaches own nearest))

end Loaded

private theorem exists_isNearest {steps : Nat} {c : Class}
    (reaches : p.superClass? start steps = some c)
    (declares : (c.method? name).isSome = true) : ∃ m, p.IsNearest start name m := by
  induction steps using Nat.strong_induction_on generalizing c with
  | _ steps inductionHypothesis =>
      by_cases nearer : ∃ fewer < steps, ∃ d, p.superClass? start fewer = some d ∧
          (d.method? name).isSome = true
      · obtain ⟨fewer, less, d, reachesNearer, declaresNearer⟩ := nearer
        exact inductionHypothesis fewer less reachesNearer declaresNearer
      · obtain ⟨m, own⟩ := Option.isSome_iff_exists.mp declares
        refine ⟨m, steps, c, reaches, own, fun fewer less d reachesNearer => ?_⟩
        by_contra found
        exact nearer ⟨fewer, less, d, reachesNearer, Option.isSome_iff_ne_none.mpr found⟩

/-- In a loaded program the search for a method ends, and a look-up gives what it ends with: a method if
and only if a declared class at or above the class declares the name, and then one that such a class
declares; of the super classes it is the nearest that decides, before any interface. -/
theorem lookup_decides_inheritance (p : Program) (loaded : p.Loaded) (start name : String) :
    (∀ result, Looks p name [start] result ↔ p.lookup start name = result) ∧
    ((p.lookup start name).isSome = true ↔
      ∃ c, p.IsAtOrAbove start c ∧ (c.method? name).isSome = true) ∧
    (∀ m, p.lookup start name = some m → ∃ c, p.IsAtOrAbove start c ∧ c.method? name = some m) ∧
    ((∃ steps c, p.superClass? start steps = some c ∧ (c.method? name).isSome = true) →
      ∃ m, p.IsNearest start name m ∧ p.lookup start name = some m) := by
  refine ⟨fun _ => loaded.looks_iff, ⟨fun found => ?_, ?_⟩, fun _ => loaded.declared_of_lookup, ?_⟩
  · obtain ⟨m, found⟩ := Option.isSome_iff_exists.mp found
    obtain ⟨c, isAtOrAbove, own⟩ := loaded.declared_of_lookup found
    exact ⟨c, isAtOrAbove, Option.isSome_iff_exists.mpr ⟨m, own⟩⟩
  · rintro ⟨c, isAtOrAbove, declares⟩
    obtain ⟨isClass, below⟩ := loaded.isAtOrAbove_iff.mp isAtOrAbove
    rw [Option.isSome_iff_ne_none] at declares ⊢
    intro nothing
    exact declares (loaded.lacks_of_looks (loaded.looks_iff.mpr nothing) rfl isClass start
      List.mem_cons_self below)
  · rintro ⟨steps, c, reaches, declares⟩
    obtain ⟨m, nearest⟩ := exists_isNearest reaches declares
    exact ⟨m, nearest, loaded.lookup_of_isNearest nearest⟩

open Sample in
/-- A worker runs as its super class does, although it is for tasks as well. -/
theorem lookup_decides_inheritance_crew :
    crew.Loaded ∧ Looks crew "run" ["Worker"] (some (runMethod "Base" [.ret ""])) ∧
    ∃ m, crew.IsNearest "Worker" "run" m ∧ crew.lookup "Worker" "run" = some m := by
  obtain ⟨ends, _, _, nearest⟩ := lookup_decides_inheritance crew crew_loaded "Worker" "run"
  exact ⟨crew_loaded, (ends _).mpr (by decide +kernel),
    nearest ⟨1, ⟨"Base", "", [], [runMethod "Base" [.ret ""]]⟩, by decide, by decide⟩⟩

end Tabulation.Program
