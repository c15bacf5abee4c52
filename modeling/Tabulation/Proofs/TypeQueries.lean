/-
The answers of a hierarchy in use are those of its current links.

What a session keeps is what a search finds now: a question changes no type, and a new type makes the
session forget.  So the answer to a question does not depend on the questions before it, but only on the
types that were added.
-/

import Tabulation.Hierarchy.Session
import Tabulation.Proofs.Subtypes

namespace Tabulation.Hierarchy

variable {requests : List Request} {session : Session} {descent : Descent}

/-- A request made a type a direct super type of another. The empty name is no type, and no type is its
own super type. -/
def Linked (requests : List Request) (sub super : String) : Prop :=
  ∃ supers, .addType sub supers ∈ requests ∧ super ∈ supers ∧ super ≠ "" ∧ super ≠ sub

/-- A request added a type, or named it as a super type. -/
def Mentioned (requests : List Request) (type : String) : Prop :=
  ∃ name supers, .addType name supers ∈ requests ∧ (type = name ∨ (type ∈ supers ∧ type ≠ ""))

private theorem linked_append_addType {name : String} {supers : List String} {sub super : String} :
    Linked (requests ++ [.addType name supers]) sub super ↔
      Linked requests sub super ∨ (sub = name ∧ super ∈ supers ∧ super ≠ "" ∧ super ≠ name) := by
  simp only [Linked, List.mem_append, List.mem_singleton, Request.addType.injEq, or_and_right,
    exists_or]
  refine or_congr Iff.rfl ⟨?_, ?_⟩
  · rintro ⟨_, ⟨rfl, rfl⟩, member⟩
    exact ⟨rfl, member⟩
  · rintro ⟨rfl, member⟩
    exact ⟨supers, ⟨rfl, rfl⟩, member⟩

private theorem mentioned_append_addType {name : String} {supers : List String} {type : String} :
    Mentioned (requests ++ [.addType name supers]) type ↔
      Mentioned requests type ∨ type = name ∨ (type ∈ supers ∧ type ≠ "") := by
  simp only [Mentioned, List.mem_append, List.mem_singleton, Request.addType.injEq, or_and_right,
    exists_or]
  refine or_congr Iff.rfl ⟨?_, ?_⟩
  · rintro ⟨_, _, ⟨rfl, rfl⟩, either⟩
    exact either
  · exact fun either => ⟨name, supers, ⟨rfl, rfl⟩, either⟩

namespace Session

/-- A session after some requests: its types are those that were added, and all that it keeps is what a
search finds in them. -/
structure Follows (descent : Descent) (requests : List Request) (session : Session) : Prop where
  links : ∀ sub super, (sub, super) ∈ session.types.links ↔ Linked requests sub super
  names : ∀ type, type ∈ session.types.names ↔ Mentioned requests type
  closed : session.types.Closed
  listed : session.listed.Tells (descent.below session.types)
  related : session.related.Tells (descent.leadsUp session.types)

private theorem follows_empty : Follows descent [] {} where
  links := by simp [Linked, Hierarchy.empty]
  names := by simp [Mentioned, Hierarchy.empty]
  closed := fun _ impossible => nomatch impossible
  listed := Memo.tells_empty _
  related := Memo.tells_empty _

/-! ### One request -/

private theorem Follows.addType (follows : Follows descent requests session) (name : String)
    (supers : List String) :
    Follows descent (requests ++ [.addType name supers]) (session.addType name supers) where
  links := fun sub super => by
    rw [linked_append_addType, ← follows.links]
    exact mem_links_addType session.types name supers (sub, super)
  names := fun type => by
    rw [mentioned_append_addType, ← follows.names]
    exact mem_names_addType session.types name supers type
  closed := follows.closed.addType name supers
  listed := Memo.tells_empty _
  related := Memo.tells_empty _

/-- A question changes nothing but what is kept. -/
private theorem Follows.of_question (follows : Follows descent requests session) {request : Request}
    (asks : ∀ name supers, request ≠ .addType name supers) {after : Session}
    (types : after.types = session.types) (listed : after.listed.Tells (descent.below session.types))
    (related : after.related.Tells (descent.leadsUp session.types)) :
    Follows descent (requests ++ [request]) after where
  links := fun sub super => by
    have same : ∀ supers, Request.addType sub supers ∈ requests ++ [request] ↔
        Request.addType sub supers ∈ requests := fun supers => by
      simp [(asks sub supers).symm]
    simp only [types, follows.links, Linked, same]
  names := fun type => by
    have same : ∀ name supers, Request.addType name supers ∈ requests ++ [request] ↔
        Request.addType name supers ∈ requests := fun name supers => by
      simp [(asks name supers).symm]
    simp only [types, follows.names, Mentioned, same]
  closed := types ▸ follows.closed
  listed := types ▸ listed
  related := types ▸ related

private theorem Follows.isSubtype (follows : Follows descent requests session) (sub super : String) :
    Follows descent (requests ++ [.isSubtype sub super]) (session.isSubtype sub super descent).2 := by
  unfold Session.isSubtype
  split
  · exact follows.of_question (by simp) rfl follows.listed follows.related
  split
  · exact follows.of_question (by simp) rfl follows.listed follows.related
  · exact follows.of_question (by simp) rfl follows.listed (follows.related.ask_snd _)

private theorem Follows.subtypes (follows : Follows descent requests session) (name : String) :
    Follows descent (requests ++ [.subtypes name]) (session.subtypes name descent).2 := by
  unfold Session.subtypes
  split
  · exact follows.of_question (by simp) rfl (follows.listed.ask_snd _) follows.related
  · exact follows.of_question (by simp) rfl follows.listed follows.related

private theorem Follows.handle (follows : Follows descent requests session) (request : Request) :
    Follows descent (requests ++ [request]) (session.handle descent request).2 := by
  cases request with
  | addType name supers => exact follows.addType name supers
  | isSubtype sub super => exact follows.isSubtype sub super
  | subtypes name => exact follows.subtypes name

/-! ### A run -/

private theorem Follows.serve (follows : Follows descent requests session) (more : List Request) :
    Follows descent (requests ++ more) (session.serve descent more).2 := by
  induction more generalizing requests session with
  | nil => simpa [Session.serve] using follows
  | cons request rest inductionHypothesis =>
      have later := inductionHypothesis (follows.handle request)
      rw [List.append_assoc, List.singleton_append] at later
      exact later

private theorem length_serve (session : Session) (requests : List Request) :
    (session.serve descent requests).1.length = requests.length := by
  induction requests generalizing session with
  | nil => rfl
  | cons request rest inductionHypothesis =>
      exact congrArg Nat.succ (inductionHypothesis (session.handle descent request).2)

private theorem serve_append (session : Session) (before after : List Request) :
    (session.serve descent (before ++ after)).1 =
      (session.serve descent before).1 ++ ((session.serve descent before).2.serve descent after).1 := by
  induction before generalizing session with
  | nil => rfl
  | cons request rest inductionHypothesis =>
      exact congrArg ((session.handle descent request).1 :: ·)
        (inductionHypothesis (session.handle descent request).2)

/-! ### Answers -/

/-- The kept answers are those of the types. -/
private theorem Follows.isSubtype_eq (follows : Follows descent requests session) (sub super : String) :
    (session.isSubtype sub super descent).1 = session.types.isSubtype sub super descent := by
  unfold Session.isSubtype Hierarchy.isSubtype
  split
  next same => simp [same]
  next differ =>
    split
    next unknown => grind
    next known =>
      dsimp only
      rw [follows.related.ask_fst]
      unfold Descent.leadsUp
      grind

private theorem Follows.subtypes_eq (follows : Follows descent requests session) (name : String) :
    (session.subtypes name descent).1 = session.types.subtypes name descent := by
  unfold Session.subtypes Hierarchy.subtypes
  split
  · exact follows.listed.ask_fst name
  · rfl

private theorem Follows.below_iff (follows : Follows descent requests session) {sub super : String} :
    session.types.Below sub super ↔ sub = super ∨ Relation.TransGen (Linked requests) sub super := by
  have same : (fun sub super => (sub, super) ∈ session.types.links) = Linked requests := by
    funext sub super
    exact propext (follows.links sub super)
  unfold Below
  rw [same, Relation.reflTransGen_iff_eq_or_transGen, eq_comm]

/-- The answers of a session are those of all types that some requests added. -/
structure IsCurrent (descent : Descent) (requests : List Request) (session : Session) : Prop where
  isSubtype_iff : ∀ sub super, (session.isSubtype sub super descent).1 = true ↔
    sub = super ∨ Relation.TransGen (Linked requests) sub super
  mem_subtypes_iff : ∀ name type, type ∈ (session.subtypes name descent).1 ↔
    Mentioned requests type ∧ type ≠ name ∧ (session.isSubtype type name descent).1 = true
  nodup_subtypes : ∀ name, (session.subtypes name descent).1.Nodup
  refl : ∀ type, (session.isSubtype type type descent).1 = true
  trans : ∀ first second third, (session.isSubtype first second descent).1 = true →
    (session.isSubtype second third descent).1 = true → (session.isSubtype first third descent).1 = true

section Answers

variable (sound : descent.IsSound)

include sound

private theorem Follows.mem_subtypes_iff (follows : Follows descent requests session)
    (name type : String) :
    type ∈ (session.subtypes name descent).1 ↔
      Mentioned requests type ∧ type ≠ name ∧ (session.isSubtype type name descent).1 = true := by
  rw [follows.subtypes_eq, mem_subtypes sound follows.closed, follows.isSubtype_eq,
    Hierarchy.isSubtype_iff sound follows.closed, ← follows.names]
  constructor
  · rintro ⟨below, differ⟩
    exact ⟨(below.known follows.closed differ).1, differ, below⟩
  · rintro ⟨_, differ, below⟩
    exact ⟨below, differ⟩

private theorem Follows.isCurrent (follows : Follows descent requests session) :
    IsCurrent descent requests session where
  isSubtype_iff := fun sub super => by
    rw [follows.isSubtype_eq, Hierarchy.isSubtype_iff sound follows.closed, follows.below_iff]
  mem_subtypes_iff := follows.mem_subtypes_iff sound
  nodup_subtypes := fun name => by
    rw [follows.subtypes_eq]
    exact nodup_subtypes sound follows.closed name
  refl := fun type => by
    rw [follows.isSubtype_eq, Hierarchy.isSubtype_iff sound follows.closed]
    exact .refl
  trans := fun first second third => by
    simp only [follows.isSubtype_eq, Hierarchy.isSubtype_iff sound follows.closed]
    exact Relation.ReflTransGen.trans

/-- However additions of types and questions are mixed, every request is answered by a session whose
answers are those of all types added before it. -/
theorem answers_are_current (before after : List Request) (request : Request) :
    (({} : Session).serve descent (before ++ request :: after)).1[before.length]? =
      some ((({} : Session).serve descent before).2.handle descent request).1 ∧
    IsCurrent descent before (({} : Session).serve descent before).2 := by
  refine ⟨?_, (follows_empty.serve before).isCurrent sound⟩
  rw [serve_append, List.getElem?_append_right (Nat.le_of_eq (length_serve _ _)), length_serve,
    Nat.sub_self]
  rfl

end Answers

/-- A type is asked for before it is added, and then a link closes a circle. -/
private def circling : List Request :=
  [.addType "B" ["A"], .isSubtype "C" "A", .subtypes "A", .addType "C" ["B", "C", ""], .addType "A" ["C"]]

theorem answers_are_current_circling :
    Descent.breadthFirst.IsSound ∧
    (({} : Session).serve .breadthFirst circling).1[1]? = some (.isSubtype false) ∧
    (({} : Session).serve .breadthFirst (circling ++ [.isSubtype "C" "A"])).1[5]? =
      some (.isSubtype true) ∧
    IsCurrent .breadthFirst circling (({} : Session).serve .breadthFirst circling).2 := by
  obtain ⟨answered, current⟩ := answers_are_current Descent.isSound_breadthFirst circling [] (.isSubtype "C" "A")
  exact ⟨Descent.isSound_breadthFirst, by decide +kernel, answered.trans (by decide +kernel), current⟩

end Session

end Tabulation.Hierarchy
