/-
The methods that a loaded program declares.

No two classes have one name and no two methods of a class do, and the name of a method has no dot.
So a method can be told from its qualified name, and a look-up finds exactly what is declared.
Calls lead to declared methods only, and jumps stay inside their method.
-/

import Tabulation.Proofs.ControlFlow
import Tabulation.Proofs.NumberedGraphs
import Tabulation.Proofs.Subtypes
import Tabulation.Proofs.TextOrder

namespace Tabulation

/-- A qualified name is split into the class and the name of the method. -/
theorem MethodName.splitAtLastDot_text {id : MethodName} (undotted : '.' ∉ id.name.toList) :
    splitAtLastDot id.text = (id.owner, id.name) := by
  have letters : id.text.toList.reverse =
      id.name.toList.reverse ++ '.' :: id.owner.toList.reverse := by
    unfold MethodName.text
    simp
  have noDots : ∀ letter ∈ id.name.toList.reverse, (letter != '.') = true := by
    intro letter member
    refine bne_iff_ne.mpr fun isDot => undotted ?_
    exact isDot ▸ List.mem_reverse.mp member
  have last : id.text.toList.reverse.takeWhile (· != '.') = id.name.toList.reverse := by
    rw [letters, List.takeWhile_append_of_pos noDots]
    simp
  unfold splitAtLastDot
  rw [last, letters]
  dsimp only
  rw [List.drop_left]
  simp

private theorem MethodName.eq_of_parts {id other : MethodName} (owner : id.owner = other.owner)
    (name : id.name = other.name) : id = other := by
  cases id
  cases other
  cases owner
  cases name
  rfl

namespace Program

variable {p : Program}

theorem mem_methods {m : Method} : m ∈ p.methods ↔ ∃ c ∈ p.classes, m ∈ c.methods := by
  unfold methods Text.sortBy
  rw [(List.mergeSort_perm _ _).mem_iff, List.mem_flatMap]

/-- The methods stand in the order of their qualified names. -/
theorem pairwise_methods (p : Program) :
    p.methods.Pairwise fun a b => Text.codes a.id.text ≤ Text.codes b.id.text :=
  Text.pairwise_sortBy (fun m : Method => Text.codes m.id.text) (fun _ _ => Text.textBefore_iff _ _) _

/-- What has a key of its own is found by its key. -/
private theorem find?_of_nodup {α β : Type} [DecidableEq β] {key : α → β} {items : List α}
    (nodup : (items.map key).Nodup) {item : α} (member : item ∈ items) :
    items.find? (fun other => key other == key item) = some item := by
  cases found : items.find? (fun other => key other == key item) with
  | none => exact absurd (beq_self_eq_true (key item)) (List.find?_eq_none.mp found item member)
  | some other =>
      have same : key other = key item := by
        have same := List.find?_some found
        exact beq_iff_eq.mp same
      rw [List.inj_on_of_nodup_map nodup (List.mem_of_find?_eq_some found) member same]

namespace Loaded

variable (loaded : p.Loaded)

include loaded

theorem nodup_ids : (p.methods.map Method.id).Nodup := by
  have sorted : p.methods.Perm (p.classes.flatMap Class.methods) := List.mergeSort_perm _ _
  rw [(sorted.map Method.id).nodup_iff, List.map_flatMap, List.nodup_flatMap]
  refine ⟨fun c isClass => (loaded.wellFormed c isClass).distinct, ?_⟩
  refine (List.pairwise_map.mp loaded.nodup_classes).imp_of_mem fun {c d} isClass isOther differ => ?_
  rintro id inClass inOther
  obtain ⟨m, declared, rfl⟩ := List.mem_map.mp inClass
  obtain ⟨other, declaredThere, same⟩ := List.mem_map.mp inOther
  have owner := ((loaded.wellFormed c isClass).methods m declared).owner_eq
  have otherOwner := ((loaded.wellFormed d isOther).methods other declaredThere).owner_eq
  exact differ (owner.symm.trans ((congrArg MethodName.owner same).symm.trans otherOwner))

theorem wellFormed_of_mem {m : Method} (member : m ∈ p.methods) : m.WellFormed m.id.owner := by
  obtain ⟨c, isClass, declared⟩ := mem_methods.mp member
  have formed := (loaded.wellFormed c isClass).methods m declared
  rw [formed.owner_eq]
  exact formed

theorem class?_iff {name : String} {c : Class} :
    p.class? name = some c ↔ c ∈ p.classes ∧ c.name = name := by
  constructor
  · exact class?_eq_some
  · rintro ⟨isClass, rfl⟩
    exact find?_of_nodup loaded.nodup_classes isClass

/-- A look-up finds what is declared. -/
theorem method?_iff {id : MethodName} {m : Method} :
    p.method? id = some m ↔ m ∈ p.methods ∧ m.id = id := by
  constructor
  · intro found
    refine ⟨?_, (loaded.method?_eq_some found).1⟩
    unfold method? at found
    obtain ⟨c, foundClass, foundMethod⟩ := Option.bind_eq_some_iff.mp found
    exact mem_methods.mpr
      ⟨c, (class?_eq_some foundClass).1, List.mem_of_find?_eq_some foundMethod⟩
  · rintro ⟨member, rfl⟩
    obtain ⟨c, isClass, declared⟩ := mem_methods.mp member
    have formed := loaded.wellFormed c isClass
    have inClass : p.class? m.id.owner = some c :=
      loaded.class?_iff.mpr ⟨isClass, (formed.methods m declared).owner_eq.symm⟩
    have names : (c.methods.map fun m => m.id.name).Nodup := by
      refine (List.Nodup.of_map _ formed.distinct).map_on fun first isFirst second isSecond same => ?_
      refine List.inj_on_of_nodup_map formed.distinct isFirst isSecond
        (MethodName.eq_of_parts ?_ same)
      rw [(formed.methods first isFirst).owner_eq, (formed.methods second isSecond).owner_eq]
    unfold method?
    rw [inClass, Option.bind_some]
    exact find?_of_nodup names declared

/-- A method is told from its qualified name. -/
theorem eq_of_text_eq {m other : Method} (isMethod : m ∈ p.methods) (isOther : other ∈ p.methods)
    (same : m.id.text = other.id.text) : m = other := by
  have parts := congrArg splitAtLastDot same
  rw [MethodName.splitAtLastDot_text (loaded.wellFormed_of_mem isMethod).undotted,
    MethodName.splitAtLastDot_text (loaded.wellFormed_of_mem isOther).undotted] at parts
  obtain ⟨owner, name⟩ := Prod.mk.inj parts
  exact List.inj_on_of_nodup_map loaded.nodup_ids isMethod isOther
    (MethodName.eq_of_parts owner name)

/-! ### Calls -/

private theorem declared_of_callSite {s : Statement} {site : CallSite MethodName}
    (here : p.callSite? s = some site) {id : MethodName} (member : id ∈ site.callees) :
    ∃ m, p.method? id = some m := by
  unfold callSite? at here
  split at here
  next call _ =>
    cases here
    obtain ⟨m, found, rfl⟩ := Option.map_eq_some_iff.mp (Option.mem_toList.mp member)
    exact ⟨m, (loaded.inherits_of_lookup found).declared⟩
  next => cases here

private theorem declared_of_overridesIn {h : Hierarchy} {descent : Hierarchy.Descent}
    {id override : MethodName} (member : override ∈ p.overridesIn h id descent) :
      ∃ m, p.method? override = some m := by
  unfold overridesIn at member
  split at member
  · cases member
  obtain ⟨sub, _, found⟩ := List.mem_filterMap.mp member
  split at found
  next other own =>
    split at found
    · cases found
      have here : p.method? ⟨sub, id.name⟩ = some other := own
      exact ⟨other, (loaded.method?_eq_some here).1 ▸ here⟩
    · cases found
  next => cases found

/-- Calls lead to declared methods. -/
theorem isClosure_callees (descent : Hierarchy.Descent) :
    IsClosure (p.methods.map Method.id) (p.callees · descent) (p.methods.map Method.id) where
  nodes := fun _ member => member
  successors := fun id _ callee member => by
    have declared : ∃ m, p.method? callee = some m := by
      unfold callees at member
      split at member
      · cases member
      rw [Text.mem_distinct, List.mem_flatMap] at member
      obtain ⟨s, _, member⟩ := member
      split at member
      · cases member
      next site here =>
        obtain ⟨target, isCallee, member⟩ := List.mem_flatMap.mp member
        rcases List.mem_cons.mp member with rfl | overrides
        · exact loaded.declared_of_callSite here isCallee
        · split at overrides
          · exact loaded.declared_of_overridesIn overrides
          · cases overrides
    obtain ⟨m, found⟩ := declared
    obtain ⟨isMethod, same⟩ := loaded.method?_iff.mp found
    exact List.mem_map.mpr ⟨m, isMethod, same⟩

/-! ### Control flow -/

/-- What stands in the body of a method is what the program has there. -/
theorem instruction?_of_mem {m : Method} (member : m ∈ p.methods) (position : Nat) :
    p.instruction? ⟨m.id, position⟩ = m.body[position]? := by
  unfold instruction?
  rw [loaded.method?_iff.mpr ⟨member, rfl⟩, Option.bind_some]

/-- The statements of a method lead to each other only. -/
theorem isClosure_successors {m : Method} (member : m ∈ p.methods) :
    IsClosure m.statements p.successors m.statements where
  nodes := fun _ isStatement => isStatement
  successors := fun s isStatement next successor => by
    obtain ⟨position, _, rfl⟩ := List.mem_map.mp isStatement
    obtain ⟨instruction, here, method, goesOn⟩ := mem_successors.mp successor
    rw [loaded.instruction?_of_mem member] at here
    have inside := (loaded.wellFormed_of_mem member).inside position instruction here _ goesOn
    refine List.mem_map.mpr ⟨next.position, List.mem_range.mpr inside, ?_⟩
    rw [← show next.method = m.id from method]

end Loaded

end Program

end Tabulation
