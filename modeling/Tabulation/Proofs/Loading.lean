/-
What the checks of a document guarantee of its program.

A check either gives what it checked or stops with a fault.  Each guarantee is read off
the check that makes it, and is carried from the methods of a class to the classes of
the program.
-/

import Mathlib.Data.List.Nodup
import Tabulation.Program.Document
import Tabulation.Proofs.Condensation

namespace Tabulation

namespace Check

variable {ε ε' α β : Type}

theorem bind_eq_ok {first : Except ε α} {next : α → Except ε β} {result : β} :
    (first >>= next) = .ok result ↔ ∃ value, first = .ok value ∧ next value = .ok result := by
  cases first <;> simp [bind, Except.bind]

theorem mapError_eq_ok {checked : Except ε α} {change : ε → ε'} {value : α} :
    checked.mapError change = .ok value ↔ checked = .ok value := by
  cases checked with
  | error cause => exact ⟨nofun, nofun⟩
  | ok found =>
      constructor
      · intro same
        cases same
        rfl
      · intro same
        cases same
        rfl

/-- A guard is passed if it does not stop and what comes next succeeds. -/
theorem guard_eq_ok {stops : Prop} [Decidable stops] {fault : ε} {after : β → Except ε α}
    {next : Except ε α} {value : α} :
    (if stops then throw fault >>= after else next) = .ok value ↔
      ¬stops ∧ next = .ok value := by
  by_cases stopped : stops
  · simp [stopped, throw, throwThe, MonadExceptOf.throw, bind, Except.bind]
  · simp [stopped]

theorem exists_of_mem_forall₂ {related : α → β → Prop} {texts : List α} {results : List β}
    (checked : List.Forall₂ related texts results) {result : β} (member : result ∈ results) :
    ∃ text ∈ texts, related text result := by
  induction checked with
  | nil => cases member
  | cons first _ inductionHypothesis =>
      rcases List.mem_cons.mp member with rfl | inRest
      · exact ⟨_, List.mem_cons_self, first⟩
      · obtain ⟨text, isText, checked⟩ := inductionHypothesis inRest
        exact ⟨text, List.mem_cons_of_mem _ isText, checked⟩

end Check

/-- What every method of a checked class has. -/
structure Method.WellFormed (owner : String) (m : Method) : Prop where
  owner_eq : m.id.owner = owner
  undotted : '.' ∉ m.id.name.toList
  isAbstract_iff : m.isAbstract = true ↔ m.body = []
  /-- What may come next stands in the body. -/
  inside : ∀ (position : Nat) (instruction : Instruction), m.body[position]? = some instruction →
    ∀ next ∈ instruction.next position, next < m.body.length
  /-- Nothing but a return ends the method. -/
  ends_iff : ∀ (position : Nat) (instruction : Instruction), m.body[position]? = some instruction →
    (instruction.next position = [] ↔ instruction.isReturn = true)

/-- What every checked class has. -/
structure Class.WellFormed (c : Class) : Prop where
  named : c.name ≠ ""
  super_ne : c.super ≠ c.name
  methods : ∀ m ∈ c.methods, m.WellFormed c.name
  distinct : (c.methods.map Method.id).Nodup

namespace Program

/-- A method is the one that a text in a class declares. -/
structure MethodText.Declares (owner : String) (text : MethodText) (m : Method) : Prop where
  id_eq : m.id = ⟨owner, text.name⟩
  params_eq : m.params = text.params
  isStatic_eq : m.isStatic = text.isStatic
  isAbstract_eq : m.isAbstract = text.isAbstract
  body : List.Forall₂ (fun text instruction => instructionOf text = .ok instruction) text.body m.body

/-- A class is the one that a text declares. -/
structure ClassText.Declares (text : ClassText) (c : Class) : Prop where
  name_eq : c.name = text.name
  super_eq : c.super = text.super
  interfaces_eq : c.interfaces = text.interfaces
  methods : List.Forall₂ (MethodText.Declares text.name) text.methods c.methods

/-! ### Instructions -/

/-- What may come next is a target that is written down, or the next position. -/
private theorem next_of_instructionOf {text : InstructionText} {instruction : Instruction}
    (meant : instructionOf text = .ok instruction) {position next : Nat}
    (member : next ∈ instruction.next position) :
    (next = position + 1 ∧ mayEnd instruction = false) ∨ next ∈ text.targets.map Int.toNat := by
  unfold instructionOf at meant
  -- One case for every operation, and in it one for every check of its operands.
  split at meant
  all_goals dsimp only at meant
  all_goals repeat' split at meant
  all_goals cases meant
  all_goals simp only [Instruction.next, List.mem_cons, List.mem_filter, List.not_mem_nil] at member
  all_goals grind [mayEnd]

private theorem ends_of_instructionOf {text : InstructionText} {instruction : Instruction}
    (meant : instructionOf text = .ok instruction) (position : Nat) :
    instruction.next position = [] ↔ instruction.isReturn = true := by
  unfold instructionOf at meant
  split at meant
  all_goals dsimp only at meant
  all_goals repeat' split at meant
  all_goals cases meant
  all_goals simp_all [Instruction.next, Instruction.isReturn]

/-- An instruction passes if it is one, and its targets are in the body. -/
private theorem checkInstruction_eq_ok {size : Nat} {text : InstructionText}
    {instruction : Instruction} (checked : checkInstruction size text = .ok instruction) :
    instructionOf text = .ok instruction ∧ ∀ target ∈ text.targets.map Int.toNat, target < size := by
  unfold checkInstruction at checked
  rw [Check.bind_eq_ok] at checked
  obtain ⟨found, meant, checked⟩ := checked
  rw [Check.guard_eq_ok] at checked
  obtain ⟨_, checked⟩ := checked
  split at checked
  · cases checked
  next inRange =>
    cases checked
    refine ⟨meant, fun position isTarget => ?_⟩
    obtain ⟨target, listed, rfl⟩ := List.mem_map.mp isTarget
    have bounds := List.find?_eq_none.mp inRange target listed
    simp only [Bool.or_eq_true, decide_eq_true_eq] at bounds
    omega

private theorem checkBody_eq_ok {id : MethodName} {size position : Nat}
    {texts : List InstructionText} {body : List Instruction}
    (checked : checkBody id size position texts = .ok body) :
    List.Forall₂ (fun text instruction => checkInstruction size text = .ok instruction)
      texts body := by
  induction texts generalizing position body with
  | nil =>
      cases checked
      exact .nil
  | cons text rest inductionHypothesis =>
      rw [checkBody, Check.bind_eq_ok] at checked
      obtain ⟨first, checkedFirst, checked⟩ := checked
      rw [Check.bind_eq_ok] at checked
      obtain ⟨others, checkedOthers, same⟩ := checked
      cases same
      exact .cons (Check.mapError_eq_ok.mp checkedFirst) (inductionHypothesis checkedOthers)

/-! ### Methods -/

/-- What the check of a method sees to. -/
private theorem checkMethod_eq_ok {owner : String} {text : MethodText} {m : Method}
    (checked : checkMethod owner text = .ok m) :
    '.' ∉ text.name.toList ∧ (text.isAbstract = true ↔ text.body = []) ∧
    ∃ body, checkBody ⟨owner, text.name⟩ text.body.length 0 text.body = .ok body ∧
      (∀ last, body.getLast? = some last → mayEnd last = true) ∧
      m = ⟨⟨owner, text.name⟩, text.params, text.isStatic, text.isAbstract, body⟩ := by
  unfold checkMethod at checked
  simp only [Check.guard_eq_ok] at checked
  obtain ⟨nameOk, checked⟩ := checked
  have undotted : '.' ∉ text.name.toList := by
    simp only [Bool.or_eq_true, beq_iff_eq, not_or, List.contains_iff_mem] at nameOk
    exact nameOk.2
  refine ⟨undotted, ?_⟩
  -- Abstract methods and others differ in the guard before the body only.
  split at checked
  all_goals
    next isAbstract =>
      rw [Check.guard_eq_ok, Check.bind_eq_ok] at checked
      obtain ⟨bodyOk, body, checkedBody, checked⟩ := checked
      refine ⟨by simpa [isAbstract] using bodyOk, body, checkedBody, ?_⟩
      split at checked
      next last isLast =>
        rw [Check.guard_eq_ok] at checked
        obtain ⟨mayEnd, same⟩ := checked
        cases same
        refine ⟨fun other isOther => ?_, rfl⟩
        cases isLast.symm.trans isOther
        simpa using mayEnd
      next none =>
        cases checked
        refine ⟨fun other isOther => ?_, rfl⟩
        cases none.symm.trans isOther

private theorem declares_of_checkMethod {owner : String} {text : MethodText} {m : Method}
    (checked : checkMethod owner text = .ok m) : text.Declares owner m := by
  obtain ⟨_, _, body, checkedBody, _, rfl⟩ := checkMethod_eq_ok checked
  exact ⟨rfl, rfl, rfl, rfl,
    (checkBody_eq_ok checkedBody).imp fun _ _ checked => (checkInstruction_eq_ok checked).1⟩

private theorem wellFormed_of_checkMethod {owner : String} {text : MethodText} {m : Method}
    (checked : checkMethod owner text = .ok m) : m.WellFormed owner := by
  obtain ⟨undotted, isAbstract, body, checkedBody, ends, rfl⟩ := checkMethod_eq_ok checked
  have forall₂ := checkBody_eq_ok checkedBody
  have length := forall₂.length_eq
  have accepted : ∀ (position : Nat) instruction, body[position]? = some instruction →
      ∃ text', checkInstruction text.body.length text' = .ok instruction := by
    intro position instruction here
    obtain ⟨inBody, rfl⟩ := List.getElem?_eq_some_iff.mp here
    exact ⟨_, forall₂.get (length ▸ inBody) inBody⟩
  refine ⟨rfl, undotted, ?_, ?_, ?_⟩
  · rw [isAbstract, ← List.length_eq_zero_iff, length, List.length_eq_zero_iff]
  · intro position instruction here next member
    obtain ⟨text', checked⟩ := accepted position instruction here
    obtain ⟨meant, inRange⟩ := checkInstruction_eq_ok checked
    rcases next_of_instructionOf meant member with ⟨rfl, goesOn⟩ | isTarget
    · -- The last instruction of a body does not go on to the next position.
      obtain ⟨inBody, _⟩ := List.getElem?_eq_some_iff.mp here
      by_contra outside
      have last : body.length - 1 = position := by
        dsimp only at inBody outside
        omega
      have isLast : body.getLast? = some instruction := by
        rw [List.getLast?_eq_getElem?, last]
        exact here
      rw [ends instruction isLast] at goesOn
      cases goesOn
    · exact length ▸ inRange next isTarget
  · intro position instruction here
    obtain ⟨_, checked⟩ := accepted position instruction here
    exact ends_of_instructionOf (checkInstruction_eq_ok checked).1 position

private theorem checkMethods_eq_ok {owner : String} {known methods : List Method}
    {texts : List MethodText} (checked : checkMethods owner known texts = .ok methods)
    (distinct : (known.map Method.id).Nodup) :
    (methods.map Method.id).Nodup ∧ ∃ new, methods = known ++ new ∧
      List.Forall₂ (fun text m => checkMethod owner text = .ok m) texts new := by
  induction texts generalizing known with
  | nil =>
      cases checked
      exact ⟨distinct, [], (List.append_nil _).symm, .nil⟩
  | cons text rest inductionHypothesis =>
      rw [checkMethods, Check.bind_eq_ok] at checked
      obtain ⟨m, checkedMethod, checked⟩ := checked
      simp only [Check.guard_eq_ok] at checked
      obtain ⟨isNew, checked⟩ := checked
      have unknown : m.id ∉ known.map Method.id := by
        intro old
        obtain ⟨other, member, same⟩ := List.mem_map.mp old
        exact isNew (List.any_eq_true.mpr ⟨other, member, beq_iff_eq.mpr same⟩)
      have distinctAfter : ((known ++ [m]).map Method.id).Nodup := by
        rw [List.map_append, List.map_singleton, ← List.concat_eq_append]
        exact distinct.concat unknown
      obtain ⟨nodup, new, rfl, others⟩ := inductionHypothesis checked distinctAfter
      exact ⟨nodup, m :: new, by simp, .cons checkedMethod others⟩

/-! ### Classes -/

/-- What the check of a class sees to. -/
private theorem checkClass_eq_ok {known : List Class} {text : ClassText} {c : Class}
    (checked : checkClass known text = .ok c) :
    text.name ≠ "" ∧ text.name ∉ known.map Class.name ∧ text.super ≠ text.name ∧
    ∃ methods, checkMethods text.name [] text.methods = .ok methods ∧
      c = ⟨text.name, text.super, text.interfaces, methods⟩ := by
  unfold checkClass at checked
  simp only [Check.guard_eq_ok] at checked
  obtain ⟨named, isNew, super, checked⟩ := checked
  rw [Check.bind_eq_ok] at checked
  obtain ⟨methods, checkedMethods, same⟩ := checked
  cases same
  refine ⟨fun empty => named (beq_iff_eq.mpr empty), fun member => ?_,
    fun same => super (beq_iff_eq.mpr same), methods, checkedMethods, rfl⟩
  obtain ⟨other, isKnown, same⟩ := List.mem_map.mp member
  exact isNew (List.any_eq_true.mpr ⟨other, isKnown, beq_iff_eq.mpr same⟩)

private theorem declares_of_checkClass {known : List Class} {text : ClassText} {c : Class}
    (checked : checkClass known text = .ok c) : text.Declares c := by
  obtain ⟨_, _, _, methods, checkedMethods, rfl⟩ := checkClass_eq_ok checked
  obtain ⟨_, new, rfl, forall₂⟩ := checkMethods_eq_ok checkedMethods List.nodup_nil
  exact ⟨rfl, rfl, rfl, forall₂.imp fun _ _ => declares_of_checkMethod⟩

private theorem wellFormed_of_checkClass {known : List Class} {text : ClassText} {c : Class}
    (checked : checkClass known text = .ok c) : c.WellFormed := by
  obtain ⟨named, _, super, methods, checkedMethods, rfl⟩ := checkClass_eq_ok checked
  obtain ⟨distinct, new, rfl, forall₂⟩ := checkMethods_eq_ok checkedMethods List.nodup_nil
  refine ⟨named, super, fun m member => ?_, distinct⟩
  obtain ⟨_, _, checked⟩ := Check.exists_of_mem_forall₂ forall₂ member
  exact wellFormed_of_checkMethod checked

private theorem checkClasses_eq_ok {known classes : List Class} {texts : List ClassText}
    (checked : checkClasses known texts = .ok classes)
    (distinct : (known.map Class.name).Nodup) :
    (classes.map Class.name).Nodup ∧ ∃ new, classes = known ++ new ∧
      List.Forall₂ (fun text c => ∃ known, checkClass known text = .ok c) texts new := by
  induction texts generalizing known with
  | nil =>
      cases checked
      exact ⟨distinct, [], (List.append_nil _).symm, .nil⟩
  | cons text rest inductionHypothesis =>
      rw [checkClasses, Check.bind_eq_ok] at checked
      obtain ⟨c, checkedClass, checked⟩ := checked
      obtain ⟨_, isNew, _, _, _, same⟩ := checkClass_eq_ok checkedClass
      have unknown : c.name ∉ known.map Class.name := same ▸ isNew
      have distinctAfter : ((known ++ [c]).map Class.name).Nodup := by
        rw [List.map_append, List.map_singleton, ← List.concat_eq_append]
        exact distinct.concat unknown
      obtain ⟨nodup, new, rfl, others⟩ := inductionHypothesis checked distinctAfter
      exact ⟨nodup, c :: new, by simp, .cons ⟨known, checkedClass⟩ others⟩

theorem declares_of_checkClasses {texts : List ClassText} {classes : List Class}
    (checked : checkClasses [] texts = .ok classes) :
    List.Forall₂ ClassText.Declares texts classes := by
  obtain ⟨_, new, rfl, forall₂⟩ := checkClasses_eq_ok checked List.nodup_nil
  exact forall₂.imp fun _ _ ⟨_, checked⟩ => declares_of_checkClass checked

theorem wellFormed_of_checkClasses {texts : List ClassText} {classes : List Class}
    (checked : checkClasses [] texts = .ok classes) : ∀ c ∈ classes, c.WellFormed := by
  obtain ⟨_, new, rfl, forall₂⟩ := checkClasses_eq_ok checked List.nodup_nil
  intro c member
  obtain ⟨_, _, _, checked⟩ := Check.exists_of_mem_forall₂ forall₂ member
  exact wellFormed_of_checkClass checked

/-! ### Programs -/

/-- A program passes if its classes do, one after the other, and its hierarchy has no cycle. -/
theorem ofText_eq_ok {name : String} {texts : List ClassText} {p : Program}
    {find : Digraph String → List (List Nat)} :
    ofText name texts find = .ok p ↔
      checkClasses [] texts = .ok p.classes ∧ cycle? p.hierarchy find = none ∧ p.name = name := by
  rw [ofText, Check.bind_eq_ok]
  constructor
  · rintro ⟨classes, checkedClasses, checked⟩
    dsimp only at checked
    split at checked
    · cases checked
    next acyclic =>
      cases checked
      exact ⟨checkedClasses, acyclic, rfl⟩
  · rintro ⟨checkedClasses, acyclic, rfl⟩
    refine ⟨p.classes, checkedClasses, ?_⟩
    dsimp only
    rw [acyclic]
    rfl

/-- A program that passed all checks, whatever finds the components of its hierarchy. -/
def Loaded (p : Program) : Prop :=
  ∃ find, Digraph.FindsCondensation find ∧ ∃ name classes, ofText name classes find = .ok p

theorem loaded_of_loadContent {name : String} {content : Text.Bytes} {p : Program}
    {find : Digraph String → List (List Nat)} (finds : Digraph.FindsCondensation find)
    (read : loadContent name content find = .ok p) : p.Loaded := by
  unfold loadContent at read
  rw [Check.bind_eq_ok] at read
  obtain ⟨classes, _, checked⟩ := read
  rw [Check.mapError_eq_ok] at checked
  exact ⟨find, finds, name, classes, checked⟩

theorem class?_eq_some {p : Program} {name : String} {c : Class}
    (found : p.class? name = some c) : c ∈ p.classes ∧ c.name = name := by
  unfold class? at found
  have same := List.find?_some found
  exact ⟨List.mem_of_find?_eq_some found, eq_of_beq same⟩

namespace Loaded

variable {p : Program}

theorem wellFormed (loaded : p.Loaded) : ∀ c ∈ p.classes, c.WellFormed := by
  obtain ⟨_, _, _, _, checked⟩ := loaded
  exact wellFormed_of_checkClasses (ofText_eq_ok.mp checked).1

theorem nodup_classes (loaded : p.Loaded) : (p.classes.map Class.name).Nodup := by
  obtain ⟨_, _, _, _, checked⟩ := loaded
  exact (checkClasses_eq_ok (ofText_eq_ok.mp checked).1 List.nodup_nil).1

theorem cycle?_eq_none (loaded : p.Loaded) :
    ∃ find, Digraph.FindsCondensation find ∧ cycle? p.hierarchy find = none := by
  obtain ⟨find, finds, _, _, checked⟩ := loaded
  exact ⟨find, finds, (ofText_eq_ok.mp checked).2.1⟩

/-- What a look-up of a method finds was declared under that name in that class. -/
theorem method?_eq_some (loaded : p.Loaded) {id : MethodName} {m : Method}
    (found : p.method? id = some m) : m.id = id ∧ m.WellFormed id.owner := by
  unfold method? at found
  obtain ⟨c, foundClass, foundMethod⟩ := Option.bind_eq_some_iff.mp found
  obtain ⟨isClass, owner⟩ := class?_eq_some foundClass
  unfold Class.method? at foundMethod
  have name : m.id.name = id.name := by
    have same := List.find?_some foundMethod
    exact eq_of_beq same
  have formed := (loaded.wellFormed c isClass).methods m
    (List.mem_of_find?_eq_some foundMethod)
  rw [owner] at formed
  refine ⟨?_, formed⟩
  calc m.id = ⟨m.id.owner, m.id.name⟩ := rfl
    _ = ⟨id.owner, id.name⟩ := by rw [formed.owner_eq, name]

end Loaded

end Program

end Tabulation
