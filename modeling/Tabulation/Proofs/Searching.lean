/-
What a breadth-first search finds.

A search whose bound is the size of a finite domain finds everything that can be reached: what was
found is what was expanded followed by what waits, nothing is listed twice, and so nothing waits
when the bound is used up.
-/

import Mathlib.Data.List.Perm.Subperm
import Tabulation.Proofs.Collection
import Tabulation.Search

namespace Tabulation

namespace Search

variable {α : Type} [DecidableEq α] {next : α → List α} {domain : List α}

/-- What the expansion of an element adds to what was found. -/
private def discovered (next : α → List α) (found : List α) (item : α) : List α :=
  (Text.distinct (next item)).filter fun b => !found.contains b

private theorem mem_discovered {found : List α} {item b : α} :
    b ∈ discovered next found item ↔ b ∈ next item ∧ b ∉ found := by
  simp [discovered, Text.mem_distinct]

private theorem expand_cons (fuel : Nat) (found frontier : List α) (item : α) :
    expand next (fuel + 1) found (item :: frontier) =
      expand next fuel (found ++ discovered next found item)
        (frontier ++ discovered next found item) := rfl

/-- A search in progress: some elements were expanded, others wait for it. -/
structure Explores (next : α → List α) (domain expanded frontier : List α) : Prop where
  nodup : (expanded ++ frontier).Nodup
  inside : ∀ a ∈ expanded ++ frontier, a ∈ domain
  followed : ∀ a ∈ expanded, ∀ b ∈ next a, b ∈ expanded ++ frontier

private theorem append_expanded {β : Type} (expanded frontier new : List β) (item : β) :
    (expanded ++ [item]) ++ (frontier ++ new) = (expanded ++ item :: frontier) ++ new := by
  simp

private theorem Explores.step {expanded frontier : List α} {item : α}
    (explores : Explores next domain expanded (item :: frontier))
    (closed : ∀ a ∈ domain, ∀ b ∈ next a, b ∈ domain) :
    Explores next domain (expanded ++ [item])
      (frontier ++ discovered next (expanded ++ item :: frontier) item) := by
  constructor
  · rw [append_expanded, List.nodup_append]
    refine ⟨explores.nodup, (Text.nodup_distinct _).filter _, ?_⟩
    rintro a old b new rfl
    exact (mem_discovered.mp new).2 old
  · rw [append_expanded]
    intro a member
    rcases List.mem_append.mp member with old | new
    · exact explores.inside a old
    · exact closed item (explores.inside item (by simp)) a (mem_discovered.mp new).1
  · rw [append_expanded]
    intro a member b isNext
    rcases List.mem_append.mp member with old | isItem
    · exact List.mem_append_left _ (explores.followed a old b isNext)
    · obtain rfl := List.mem_singleton.mp isItem
      by_cases known : b ∈ expanded ++ a :: frontier
      · exact List.mem_append_left _ known
      · exact List.mem_append_right _ (mem_discovered.mpr ⟨isNext, known⟩)

/-- With enough fuel, what is found is closed under the successors. -/
private theorem Explores.run {expanded frontier : List α} {fuel : Nat}
    (explores : Explores next domain expanded frontier)
    (closed : ∀ a ∈ domain, ∀ b ∈ next a, b ∈ domain)
    (enough : domain.length ≤ expanded.length + fuel) :
    (∀ a ∈ expanded ++ frontier, a ∈ expand next fuel (expanded ++ frontier) frontier) ∧
    ∀ a ∈ expand next fuel (expanded ++ frontier) frontier, ∀ b ∈ next a,
      b ∈ expand next fuel (expanded ++ frontier) frontier := by
  induction fuel generalizing expanded frontier with
  | zero =>
      -- All of the domain was expanded, so that nothing waits.
      have short := (explores.nodup.subperm explores.inside).length_le
      rw [List.length_append] at short
      have none : frontier = [] := List.length_eq_zero_iff.mp (by omega)
      subst none
      exact ⟨fun _ member => member, by simpa [expand] using explores.followed⟩
  | succ fuel inductionHypothesis =>
      cases frontier with
      | nil => exact ⟨fun _ member => member, by simpa [expand] using explores.followed⟩
      | cons item rest =>
          have later := inductionHypothesis (explores.step closed)
            (by rw [List.length_append, List.length_singleton]; omega)
          rw [append_expanded] at later
          rw [expand_cons]
          exact ⟨fun a member => later.1 a (List.mem_append_left _ member), later.2⟩

/-- Fuel beyond what suffices changes nothing. -/
private theorem Explores.expand_add {expanded frontier : List α} {fuel : Nat} (more : Nat)
    (explores : Explores next domain expanded frontier)
    (closed : ∀ a ∈ domain, ∀ b ∈ next a, b ∈ domain)
    (enough : domain.length ≤ expanded.length + fuel) :
    expand next (fuel + more) (expanded ++ frontier) frontier =
      expand next fuel (expanded ++ frontier) frontier := by
  induction fuel generalizing expanded frontier with
  | zero =>
      have short := (explores.nodup.subperm explores.inside).length_le
      rw [List.length_append] at short
      have none : frontier = [] := List.length_eq_zero_iff.mp (by omega)
      subst none
      cases more <;> simp [expand]
  | succ fuel inductionHypothesis =>
      rw [Nat.succ_add]
      cases frontier with
      | nil => rfl
      | cons item rest =>
          have later := inductionHypothesis (explores.step closed)
            (by rw [List.length_append, List.length_singleton]; omega)
          rw [append_expanded] at later
          rw [expand_cons, expand_cons]
          exact later

private theorem reachable_of_mem_expand {fuel : Nat} {found frontier : List α}
    (waits : ∀ a ∈ frontier, a ∈ found) :
    ∀ a ∈ expand next fuel found frontier,
      ∃ start ∈ found, Relation.ReflTransGen (fun a b => b ∈ next a) start a := by
  induction fuel generalizing found frontier with
  | zero => exact fun a member => ⟨a, member, .refl⟩
  | succ fuel inductionHypothesis =>
      cases frontier with
      | nil => exact fun a member => ⟨a, member, .refl⟩
      | cons item rest =>
          intro a member
          have kept : ∀ b ∈ rest ++ discovered next found item,
              b ∈ found ++ discovered next found item := by
            intro b waiting
            rcases List.mem_append.mp waiting with old | new
            · exact List.mem_append_left _ (waits b (List.mem_cons_of_mem _ old))
            · exact List.mem_append_right _ new
          rw [expand_cons] at member
          obtain ⟨start, isStart, path⟩ := inductionHypothesis kept a member
          rcases List.mem_append.mp isStart with old | new
          · exact ⟨start, old, path⟩
          · exact ⟨item, waits item List.mem_cons_self,
              path.head (mem_discovered.mp new).1⟩

private theorem Explores.start {starts : List α} (inside : ∀ a ∈ starts, a ∈ domain) :
    Explores next domain [] (Text.distinct starts) where
  nodup := Text.nodup_distinct _
  inside := fun a member => inside a ((Text.mem_distinct a _).mp member)
  followed := fun _ impossible => nomatch impossible

/-- A search finds the same with every bound that suffices. -/
theorem reach_eq (domain : List α) {bound : Nat} {starts : List α}
    (inside : ∀ a ∈ starts, a ∈ domain)
    (closed : ∀ a ∈ domain, ∀ b ∈ next a, b ∈ domain) (enough : domain.length ≤ bound) :
    reach bound next starts = reach domain.length next starts := by
  have same := (Explores.start inside).expand_add (bound - domain.length) closed
    (Nat.le_of_eq (Nat.zero_add domain.length).symm)
  rw [Nat.add_sub_cancel' enough] at same
  exact same

/-- A search that is bounded by the size of its domain finds what can be reached. -/
theorem mem_reach (domain : List α) {bound : Nat} {starts : List α}
    (inside : ∀ a ∈ starts, a ∈ domain)
    (closed : ∀ a ∈ domain, ∀ b ∈ next a, b ∈ domain) (enough : domain.length ≤ bound) (a : α) :
    a ∈ reach bound next starts ↔
      ∃ start ∈ starts, Relation.ReflTransGen (fun a b => b ∈ next a) start a := by
  obtain ⟨kept, followed⟩ := (Explores.start inside).run closed (by simpa using enough)
  unfold reach
  constructor
  · intro member
    obtain ⟨start, isStart, path⟩ := reachable_of_mem_expand (fun _ found => found) a member
    exact ⟨start, (Text.mem_distinct _ _).mp isStart, path⟩
  · rintro ⟨start, isStart, path⟩
    induction path with
    | refl => exact kept start ((Text.mem_distinct _ _).mpr isStart)
    | tail _ step inductionHypothesis => exact followed _ inductionHypothesis _ step

theorem nodup_reach (bound : Nat) (next : α → List α) (starts : List α) :
    (reach bound next starts).Nodup := by
  have expanded : ∀ (fuel : Nat) (found frontier : List α), found.Nodup →
      (expand next fuel found frontier).Nodup := by
    intro fuel
    induction fuel with
    | zero => exact fun found frontier nodup => nodup
    | succ fuel inductionHypothesis =>
        intro found frontier nodup
        cases frontier with
        | nil => exact nodup
        | cons item rest =>
            rw [expand_cons]
            refine inductionHypothesis _ _ (List.nodup_append.mpr
              ⟨nodup, (Text.nodup_distinct _).filter _, ?_⟩)
            rintro a old _ new rfl
            exact (mem_discovered.mp new).2 old
  exact expanded bound _ _ (Text.nodup_distinct _)

end Search

end Tabulation
