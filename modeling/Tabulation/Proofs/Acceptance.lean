/-
What the loader accepts.

A program that is accepted has every method that its text declares, each under a qualified name of
its own.  Control stays inside the method in which it is, ends exactly at the returns, and enters at
the first instruction.  No class is above itself, for what the hierarchy check stops are the cycles.
-/

import Tabulation.Proofs.Ancestry
import Tabulation.Proofs.Declarations
import Tabulation.Proofs.DynamicDispatch

namespace Tabulation

namespace Program

variable {p : Program} {texts : List ClassText} {find : Digraph String → List (List Nat)}

/-- A text puts a type directly above its class, as the super class or as an interface. The empty
name is no type, and to list a class among its own interfaces says nothing. -/
def PutsAbove (texts : List ClassText) (sub super : String) : Prop :=
  ∃ c ∈ texts, c.name = sub ∧ super ≠ "" ∧ (super = c.super ∨ (super ∈ c.interfaces ∧ super ≠ sub))

/-- Some type is above itself. -/
def IsCyclic (texts : List ClassText) : Prop := ∃ type, Relation.TransGen (PutsAbove texts) type type

/-- A program is what texts declare, and fit to be run. -/
structure Realizes (p : Program) (texts : List ClassText) : Prop where
  /-- A declared method is found under its qualified name, so that none is lost or hidden. -/
  declared : ∀ c ∈ texts, ∀ text ∈ c.methods,
    ∃ m, p.method (c.name ++ "." ++ text.name) = .ok m ∧ text.Declares c.name m
  origin : ∀ m ∈ p.methods, ∃ c ∈ texts, ∃ text ∈ c.methods, text.Declares c.name m
  found : ∀ m ∈ p.methods, p.method m.id.text = .ok m
  named : (p.methods.map fun m => m.id.text).Nodup
  /-- What comes next is an instruction of the same method: no position is behind the body. -/
  inside : ∀ m ∈ p.methods, ∀ s ∈ m.statements, ∀ next ∈ p.flowGraph.successors s, next ∈ m.statements
  ends : ∀ m ∈ p.methods, ∀ s ∈ m.statements,
    p.flowGraph.successors s = [] ↔ s ∈ p.flowGraph.exits m.id
  enters : ∀ m ∈ p.methods, m.isAbstract = false →
    ∃ s ∈ m.statements, p.flowGraph.entries m.id = [s]
  isAbstract : ∀ m ∈ p.methods, m.isAbstract = true → p.flowGraph.entries m.id = []
  acyclic : ¬IsCyclic texts

/-! ### Names -/

namespace Loaded

variable (loaded : p.Loaded)

include loaded

private theorem method_text {m : Method} (member : m ∈ p.methods) : p.method m.id.text = .ok m := by
  have named : m.id.owner ≠ "" := by
    obtain ⟨c, isClass, declared⟩ := mem_methods.mp member
    have formed := loaded.wellFormed c isClass
    rw [(formed.methods m declared).owner_eq]
    exact formed.named
  have found : p.find? m.id.text = some m := by
    unfold find?
    rw [MethodName.splitAtLastDot_text (loaded.wellFormed_of_mem member).undotted]
    dsimp only
    rw [if_neg (by simpa using named)]
    exact loaded.method?_iff.mpr ⟨member, rfl⟩
  unfold method
  rw [found]

private theorem nodup_texts : (p.methods.map fun m => m.id.text).Nodup :=
  (List.Nodup.of_map _ loaded.nodup_ids).map_on fun _ isMethod _ isOther same =>
    loaded.eq_of_text_eq isMethod isOther same

/-! ### Control -/

private theorem successors_eq_nil_iff {m : Method} (member : m ∈ p.methods) {s : Statement}
    (isStatement : s ∈ m.statements) : p.successors s = [] ↔ s ∈ m.exits := by
  obtain ⟨position, inside, rfl⟩ := List.mem_map.mp isStatement
  obtain ⟨instruction, here⟩ : ∃ instruction, m.body[position]? = some instruction :=
    ⟨_, List.getElem?_eq_getElem (List.mem_range.mp inside)⟩
  have known : p.instruction? ⟨m.id, position⟩ = some instruction :=
    (loaded.instruction?_of_mem member position).trans here
  unfold successors
  rw [known]
  dsimp only
  rw [List.map_eq_nil_iff, (loaded.wellFormed_of_mem member).ends_iff position instruction here,
    Method.mem_exits]
  simp only [here, Option.some.injEq, true_and]
  cases instruction <;> simp [Instruction.isReturn]

private theorem exits_eq {m : Method} (member : m ∈ p.methods) : p.flowGraph.exits m.id = m.exits := by
  change ((p.method? m.id).map Method.exits).getD [] = _
  rw [loaded.method?_iff.mpr ⟨member, rfl⟩, Option.map_some, Option.getD_some]

private theorem entries_eq {m : Method} (member : m ∈ p.methods) :
    p.flowGraph.entries m.id = m.entries := by
  change ((p.method? m.id).map Method.entries).getD [] = _
  rw [loaded.method?_iff.mpr ⟨member, rfl⟩, Option.map_some, Option.getD_some]

private theorem enters {m : Method} (member : m ∈ p.methods) (concrete : m.isAbstract = false) :
    ∃ s ∈ m.statements, p.flowGraph.entries m.id = [s] := by
  rw [loaded.entries_eq member]
  have filled : m.body ≠ [] := by
    rw [ne_eq, ← (loaded.wellFormed_of_mem member).isAbstract_iff, concrete]
    exact Bool.false_ne_true
  unfold Method.entries Method.statements
  cases same : m.body with
  | nil => exact absurd same filled
  | cons first rest => simp [List.range_succ_eq_map]

private theorem isAbstract {m : Method} (member : m ∈ p.methods) (isAbstract : m.isAbstract = true) :
    p.flowGraph.entries m.id = [] := by
  rw [loaded.entries_eq member]
  unfold Method.entries Method.statements
  rw [(loaded.wellFormed_of_mem member).isAbstract_iff.mp isAbstract]
  rfl

end Loaded

/-! ### Texts -/

section Texts

variable (declares : List.Forall₂ ClassText.Declares texts p.classes)

include declares

private theorem exists_class {text : ClassText} (member : text ∈ texts) :
    ∃ c ∈ p.classes, text.Declares c :=
  Check.exists_of_mem_forall₂ (List.Forall₂.flip (R := flip ClassText.Declares) declares) member

private theorem exists_method {text : ClassText} (member : text ∈ texts) {method : MethodText}
    (isMethod : method ∈ text.methods) : ∃ m ∈ p.methods, method.Declares text.name m := by
  obtain ⟨c, isClass, declared⟩ := exists_class declares member
  obtain ⟨m, inClass, same⟩ := Check.exists_of_mem_forall₂
    (List.Forall₂.flip (R := flip (MethodText.Declares text.name)) declared.methods) isMethod
  exact ⟨m, mem_methods.mpr ⟨c, isClass, inClass⟩, same⟩

private theorem exists_text {m : Method} (member : m ∈ p.methods) :
    ∃ c ∈ texts, ∃ text ∈ c.methods, text.Declares c.name m := by
  obtain ⟨c, isClass, inClass⟩ := mem_methods.mp member
  obtain ⟨text, isText, declared⟩ := Check.exists_of_mem_forall₂ declares isClass
  exact ⟨text, isText, Check.exists_of_mem_forall₂ declared.methods inClass⟩

private theorem putsAbove_iff (proper : ∀ c ∈ p.classes, c.super ≠ c.name) {sub super : String} :
    PutsAbove texts sub super ↔ (sub, super) ∈ p.hierarchy.links := by
  rw [mem_links_hierarchy]
  constructor
  · rintro ⟨text, isText, rfl, isType, isSuper⟩
    obtain ⟨c, isClass, declared⟩ := exists_class declares isText
    refine ⟨c, isClass, declared.name_eq, ?_, isType, ?_⟩
    · rw [declared.super_eq, declared.interfaces_eq, List.mem_cons]
      exact isSuper.imp_right And.left
    · rcases isSuper with rfl | ⟨_, differs⟩
      · rw [← declared.super_eq, ← declared.name_eq]
        exact proper c isClass
      · exact differs
  · rintro ⟨c, isClass, rfl, isSuper, isType, differs⟩
    obtain ⟨text, isText, declared⟩ := Check.exists_of_mem_forall₂ declares isClass
    refine ⟨text, isText, declared.name_eq.symm, isType, ?_⟩
    rw [declared.super_eq, declared.interfaces_eq, List.mem_cons] at isSuper
    exact isSuper.imp_right fun member => ⟨member, differs⟩

private theorem isCyclic_iff (finds : Digraph.FindsCondensation find)
    (proper : ∀ c ∈ p.classes, c.super ≠ c.name) :
    IsCyclic texts ↔ cycle? p.hierarchy find ≠ none := by
  have same : PutsAbove texts = fun sub super => (sub, super) ∈ p.hierarchy.links := by
    funext sub super
    exact propext (putsAbove_iff declares proper)
  have irreflexive : ∀ type, (type, type) ∉ p.hierarchy.links := fun type link => by
    obtain ⟨_, _, _, _, _, differs⟩ := mem_links_hierarchy.mp link
    exact differs rfl
  rw [ne_eq, Hierarchy.cycle?_eq_none_iff finds p.closed_hierarchy irreflexive]
  unfold IsCyclic Hierarchy.Acyclic
  rw [same, not_forall_not]

end Texts

section Checks

variable (finds : Digraph.FindsCondensation find)

include finds

private theorem realizes_of_ofText {name : String} (checked : ofText name texts find = .ok p) :
    p.Realizes texts := by
  obtain ⟨checkedClasses, noCycle, _⟩ := ofText_eq_ok.mp checked
  have loaded : p.Loaded := ⟨find, finds, name, texts, checked⟩
  have declares := declares_of_checkClasses checkedClasses
  refine { declared := ?declared, origin := ?origin, found := ?found, named := ?named,
           inside := ?inside, ends := ?ends, enters := ?enters, isAbstract := ?isAbstract,
           acyclic := ?acyclic }
  case declared =>
    intro c isClass text isText
    obtain ⟨m, isMethod, declared⟩ := exists_method declares isClass isText
    have found := loaded.method_text isMethod
    unfold MethodName.text at found
    rw [declared.id_eq] at found
    exact ⟨m, found, declared⟩
  case origin => exact fun m isMethod => exists_text declares isMethod
  case found => exact fun m isMethod => loaded.method_text isMethod
  case named => exact loaded.nodup_texts
  case inside =>
    exact fun m isMethod s isStatement next successor =>
      (loaded.isClosure_successors isMethod).successors s isStatement next successor
  case ends =>
    intro m isMethod s isStatement
    rw [loaded.exits_eq isMethod]
    exact loaded.successors_eq_nil_iff isMethod isStatement
  case enters => exact fun m isMethod => loaded.enters isMethod
  case isAbstract => exact fun m isMethod => loaded.isAbstract isMethod
  case acyclic =>
    rw [isCyclic_iff declares finds fun c isClass => (loaded.wellFormed c isClass).super_ne]
    exact not_not.mpr noCycle

/-- The hierarchy check stops exactly the cyclic ones among the programs whose classes pass. -/
private theorem isCyclic_iff_fault {name : String} {classes : List Class}
    (checked : checkClasses [] texts = .ok classes) :
    IsCyclic texts ↔ ∃ component, ofText name texts find = .error (.cycle component) := by
  have proper : ∀ c ∈ classes, c.super ≠ c.name := fun c isClass =>
    (wellFormed_of_checkClasses checked c isClass).super_ne
  have declares : List.Forall₂ ClassText.Declares texts (Program.mk name classes).classes :=
    declares_of_checkClasses checked
  rw [isCyclic_iff declares finds proper]
  constructor
  · intro cyclic
    obtain ⟨component, found⟩ := Option.ne_none_iff_exists'.mp cyclic
    refine ⟨component, ?_⟩
    simp only [ofText, checked, bind, Except.bind, found]
    rfl
  · rintro ⟨component, stopped⟩ noCycle
    have passed : ofText name texts find = .ok ⟨name, classes⟩ :=
      ofText_eq_ok.mpr ⟨checked, noCycle, rfl⟩
    cases passed.symm.trans stopped

/-- An accepted program realizes what its texts declare. A cyclic one is invalid, and the hierarchy
check names a cycle exactly if there is one; once a file is decoded, nothing else decides. -/
theorem accepted_realizes_texts (name : String) (texts : List ClassText) :
    (∀ p, ofText name texts find = .ok p → p.Realizes texts) ∧
    (IsCyclic texts → ∃ fault, ofText name texts find = .error fault) ∧
    (∀ classes, checkClasses [] texts = .ok classes →
      (IsCyclic texts ↔ ∃ component, ofText name texts find = .error (.cycle component))) ∧
    ∀ content, Yaml.read programFields [] content = .ok texts →
      loadContent name content find = (ofText name texts find).mapError (.invalid name) := by
  refine ⟨fun p => realizes_of_ofText finds, fun cyclic => ?_, fun _ => isCyclic_iff_fault finds,
    fun content decoded => ?_⟩
  · cases checked : ofText name texts find with
    | ok p => exact absurd cyclic (realizes_of_ofText finds checked).acyclic
    | error fault => exact ⟨fault, rfl⟩
  · unfold loadContent
    rw [decoded]
    rfl

end Checks

end Program

namespace Sample

open Program

/-- Two classes, each of which names the other as its super class. -/
def circleTexts : List ClassText := [
  { name := "Left", super := "Right" },
  { name := "Right", super := "Left" }]

private theorem circle_cyclic : IsCyclic circleTexts := by
  have up : PutsAbove circleTexts "Left" "Right" :=
    ⟨{ name := "Left", super := "Right" }, by decide⟩
  have down : PutsAbove circleTexts "Right" "Left" :=
    ⟨{ name := "Right", super := "Left" }, by decide⟩
  exact ⟨"Left", .tail (.single up) down⟩

end Sample

namespace Program

open Sample in
/-- The crew is accepted, and the circle is stopped by the hierarchy check. -/
theorem accepted_realizes_texts_crew :
    (ofText "crew" crewTexts = .ok crew ∧ crew.Realizes crewTexts) ∧
    IsCyclic circleTexts ∧ ∃ component, ofText "circle" circleTexts = .error (.cycle component) := by
  obtain ⟨accepted, _⟩ := accepted_realizes_texts Digraph.findsCondensation_components "crew" crewTexts
  obtain ⟨_, _, stopped, _⟩ := accepted_realizes_texts Digraph.findsCondensation_components "circle" circleTexts
  exact ⟨⟨crew_checked, accepted crew crew_checked⟩, circle_cyclic,
    (stopped [⟨"Left", "Right", [], []⟩, ⟨"Right", "Left", [], []⟩] (by decide)).mp circle_cyclic⟩

end Program

end Tabulation
