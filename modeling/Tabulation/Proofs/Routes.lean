/-
The way of a message through the managers.

Every manager decides on its own what to do with a message, from the message, the chunk strategy
and the units of its chunk.  The decisions fit together: a message goes up until a manager knows
the way down, and it passes no manager twice, whatever units come into being while it is on its
way.  It ends in the part of the unit that owns it, or at the project; only the question for the
data of a runner that is not in its chunk ends on the way down.
-/

import Mathlib.Data.List.Nodup
import Tabulation.Engine.Routing

namespace Tabulation

variable {S F M : Type}

/-! ### The single hops -/

section Hops

variable {strategy : S → String} {message : Message S F M} {chunk : String}

/-- The messages of the project itself. -/
def Message.IsForProject (message : Message S F M) : Prop :=
  (∃ chunk, message = .newChunk chunk) ∨ ∃ runner, message = .collectAll runner

/-- The part of the unit of a message that handles it. -/
def Message.destinationIn (chunk : String) (message : Message S F M) : Destination :=
  match message.category with
  | .storage => .storage chunk message.runner
  | .analyzer => .workers chunk message.runner
  | _ => .indirection chunk message.runner

theorem Message.isOwnedBy_iff (strategy : S → String) (chunk runner : String)
    (message : Message S F M) :
    message.isOwnedBy strategy chunk runner = true ↔
      message.chunkOf strategy = some chunk ∧ message.runner = runner := by
  simp [isOwnedBy]

/-- What a chunk owns is handled by a part of its units. -/
theorem Message.category_of_chunkOf (owned : message.chunkOf strategy = some chunk) :
    message.category = .storage ∨ message.category = .analyzer ∨
      message.category = .indirection := by
  cases message <;> simp_all [chunkOf, home?, category]

theorem projectHop_of_chunkOf (owned : message.chunkOf strategy = some chunk) :
    projectHop strategy message = .forward (.chunk chunk) := by
  cases message <;> simp_all [projectHop, Message.chunkOf, Message.home?]

theorem projectHop_of_isForProject (own : message.IsForProject) :
    projectHop strategy message = .arrive .project := by
  obtain ⟨chunk, rfl⟩ | ⟨runner, rfl⟩ := own <;> rfl

theorem projectHop_of_ownerless (ownerless : message.chunkOf strategy = none)
    (foreign : ¬message.IsForProject) : projectHop strategy message = .arrive .dropped := by
  cases message with
  | newChunk chunk => exact absurd (Or.inl ⟨chunk, rfl⟩) foreign
  | collectAll runner => exact absurd (Or.inr ⟨runner, rfl⟩) foreign
  | _ => simp_all [projectHop, Message.chunkOf, Message.home?]

theorem Message.chunkOf_of_isForProject (own : message.IsForProject) :
    message.chunkOf strategy = none := by
  obtain ⟨chunk, rfl⟩ | ⟨runner, rfl⟩ := own <;> rfl

variable (hasUnit : String → String → Bool)

theorem chunkHop_of_ne (other : message.chunkOf strategy ≠ some chunk) :
    chunkHop strategy hasUnit chunk message = .forward .project := by
  unfold chunkHop
  rw [if_neg (fun same => other (eq_of_beq same))]

theorem chunkHop_collectData (runner : String) :
    chunkHop strategy hasUnit chunk (.collectData runner chunk : Message S F M) =
      if hasUnit chunk runner then .forward (.unit chunk runner)
      else .arrive (.noData chunk) := by
  unfold chunkHop
  rw [if_pos (by simp [Message.chunkOf])]

theorem chunkHop_of_owned (owned : message.chunkOf strategy = some chunk)
    (noQuestion : ∀ runner, message ≠ .collectData runner chunk) :
    chunkHop strategy hasUnit chunk message = .forward (.unit chunk message.runner) := by
  unfold chunkHop
  rw [if_pos (beq_iff_eq.mpr owned)]
  cases message with
  | collectData runner home =>
      obtain rfl : home = chunk := Option.some.inj owned
      exact absurd rfl (noQuestion runner)
  | _ => rfl

theorem unitHop_of_owned (owned : message.chunkOf strategy = some chunk) :
    unitHop strategy chunk message.runner message = .arrive (message.destinationIn chunk) := by
  unfold unitHop Message.destinationIn
  rw [if_pos ((message.isOwnedBy_iff strategy chunk message.runner).mpr ⟨owned, rfl⟩)]
  rcases message.category_of_chunkOf owned with category | category | category <;>
    rw [category]

theorem unitHop_of_not_owned {runner : String}
    (foreign : ¬(message.chunkOf strategy = some chunk ∧ message.runner = runner)) :
    unitHop strategy chunk runner message = .forward (.chunk chunk) := by
  unfold unitHop
  rw [if_neg ((message.isOwnedBy_iff strategy chunk runner).not.mpr foreign)]

end Hops

/-! ### The whole way -/

/-- The way of a message from a manager: the managers that it comes to, and where it ends.  The
units that there are may change on the way, `units n` are those at the hop with number `n`. -/
inductive Travels (strategy : S → String) (message : Message S F M) :
    (units : ℕ → String → String → Bool) → Place → List Place → Destination → Prop
  | arrive {units : ℕ → String → String → Bool} {place : Place} {destination : Destination}
      (hop : place.hop strategy (units 0) message = .arrive destination) :
      Travels strategy message units place [place] destination
  | forward {units : ℕ → String → String → Bool} {place next : Place} {path : List Place}
      {destination : Destination} (hop : place.hop strategy (units 0) message = .forward next)
      (rest : Travels strategy message (fun n => units (n + 1)) next path destination) :
      Travels strategy message units place (place :: path) destination

/-- Where a message rightly ends: in the part of the unit that owns it, which is the one for its
category; at the project, which keeps its own messages and drops the others that no chunk
owns; or, if it asks for the data of a runner, at the manager of its chunk.  Which of the two the
question comes to, is decided by whether there is a unit of the runner when the manager of the
chunk looks. -/
def Message.Ends (strategy : S → String) (units : ℕ → String → String → Bool) (path : List Place)
    (message : Message S F M) : Destination → Prop
  | .storage chunk runner => message.isOwnedBy strategy chunk runner = true ∧
      message.category = .storage ∧ path.getLast? = some (.unit chunk runner) ∧
      (message = .collectData runner chunk → ∀ n, path[n]? = some (.chunk chunk) →
        units n chunk runner = true)
  | .workers chunk runner => message.isOwnedBy strategy chunk runner = true ∧
      message.category = .analyzer ∧ path.getLast? = some (.unit chunk runner)
  | .indirection chunk runner => message.isOwnedBy strategy chunk runner = true ∧
      message.category = .indirection ∧ path.getLast? = some (.unit chunk runner)
  | .project => message.IsForProject ∧ path.getLast? = some .project
  | .dropped => message.chunkOf strategy = none ∧ ¬message.IsForProject ∧
      path.getLast? = some .project
  | .noData chunk => path.getLast? = some (.chunk chunk) ∧ ∃ runner,
      message = .collectData runner chunk ∧ ∃ n, path[n]? = some (.chunk chunk) ∧
        units n chunk runner = false

variable {strategy : S → String} {message : Message S F M}
variable {units : ℕ → String → String → Bool} {start : Place} {path other : List Place}
variable {destination last : Destination}

/-- A manager does one thing with a message, so there is one way. -/
theorem Travels.unique (travels : Travels strategy message units start path destination)
    (again : Travels strategy message units start other last) :
    other = path ∧ last = destination := by
  induction travels generalizing other with
  | arrive hop =>
      cases again with
      | arrive same =>
          rw [hop] at same
          cases same
          exact ⟨rfl, rfl⟩
      | forward same =>
          rw [hop] at same
          cases same
  | forward hop _ inductionHypothesis =>
      cases again with
      | arrive same =>
          rw [hop] at same
          cases same
      | forward same rest =>
          rw [hop] at same
          cases same
          obtain ⟨rfl, rfl⟩ := inductionHypothesis rest
          exact ⟨rfl, rfl⟩

/-- While the units stay the same, following the hops finds the end of the way. -/
theorem Travels.follow_eq {hasUnit : String → String → Bool}
    (travels : Travels strategy message (fun _ => hasUnit) start path destination) {limit : ℕ}
    (enough : path.length ≤ limit) :
    start.follow strategy hasUnit limit message = some destination := by
  generalize same : (fun _ => hasUnit : ℕ → String → String → Bool) = units at travels
  induction travels generalizing limit with
  | arrive hop =>
      subst same
      obtain ⟨limit, rfl⟩ := Nat.exists_eq_add_of_le' enough
      simp only [Place.follow, List.length_singleton, hop]
  | forward hop _ inductionHypothesis =>
      subst same
      rw [List.length_cons] at enough
      obtain ⟨limit, rfl⟩ := Nat.exists_eq_add_of_le' (Nat.le_trans (Nat.le_add_left 1 _) enough)
      rw [Place.follow, hop]
      exact inductionHypothesis (Nat.le_of_succ_le_succ enough) rfl

/-- A longer way ends where its rest ends. -/
private theorem Message.Ends.cons {place : Place}
    (asked : ∀ chunk runner, place = .chunk chunk → message = .collectData runner chunk →
      units 0 chunk runner = true)
    (ends : message.Ends strategy (fun n => units (n + 1)) path destination) :
    message.Ends strategy units (place :: path) destination := by
  have longer {last : Place} (ending : path.getLast? = some last) :
      (place :: path).getLast? = some last := by
    rw [List.getLast?_cons, ending, Option.getD_some]
  cases destination with
  | storage chunk runner =>
      obtain ⟨owned, category, ending, found⟩ := ends
      refine ⟨owned, category, longer ending, fun question n here => ?_⟩
      cases n with
      | zero => exact asked chunk runner (Option.some.inj here) question
      | succ n => exact found question n here
  | workers chunk runner => exact ⟨ends.1, ends.2.1, longer ends.2.2⟩
  | indirection chunk runner => exact ⟨ends.1, ends.2.1, longer ends.2.2⟩
  | project => exact ⟨ends.1, longer ends.2⟩
  | dropped => exact ⟨ends.1, ends.2.1, longer ends.2.2⟩
  | noData chunk =>
      obtain ⟨ending, runner, question, n, here, absent⟩ := ends
      exact ⟨longer ending, runner, question, n + 1, here, absent⟩

/-- A message comes from a manager to its end, and to no manager twice. -/
structure Delivers (strategy : S → String) (units : ℕ → String → String → Bool)
    (message : Message S F M) (start : Place) (path : List Place) (destination : Destination) :
    Prop where
  travels : Travels strategy message units start path destination
  nodup : path.Nodup
  ends : message.Ends strategy units path destination

private theorem Delivers.forward {next : Place}
    (hop : start.hop strategy (units 0) message = .forward next) (new : start ∉ path)
    (rest : Delivers strategy (fun n => units (n + 1)) message next path destination) :
    Delivers strategy units message start (start :: path) destination where
  travels := .forward hop rest.travels
  nodup := List.nodup_cons.mpr ⟨new, rest.nodup⟩
  ends := by
    refine rest.ends.cons fun chunk runner here question => ?_
    subst here question
    -- the manager of the chunk only passes the question down if there is a unit
    rw [Place.hop, chunkHop_collectData] at hop
    by_contra absent
    rw [if_neg absent] at hop
    cases hop

/-- The managers on the way down from the project. -/
private def Message.Descends (strategy : S → String) (message : Message S F M) (place : Place) :
    Prop :=
  place = .project ∨ ∃ chunk, message.chunkOf strategy = some chunk ∧
    (place = .chunk chunk ∨ place = .unit chunk message.runner)

private theorem delivers_unit (units : ℕ → String → String → Bool) {chunk : String}
    (owned : message.chunkOf strategy = some chunk) :
    Delivers strategy units message (.unit chunk message.runner) [.unit chunk message.runner]
      (message.destinationIn chunk) where
  travels := .arrive (unitHop_of_owned owned)
  nodup := List.nodup_singleton _
  ends := by
    have mine := (message.isOwnedBy_iff strategy chunk message.runner).mpr ⟨owned, rfl⟩
    unfold Message.destinationIn
    rcases message.category_of_chunkOf owned with category | category | category <;> rw [category]
    · refine ⟨mine, category, rfl, fun _ n here => ?_⟩
      cases n <;> cases here
    · exact ⟨mine, category, rfl⟩
    · exact ⟨mine, category, rfl⟩

/-- The manager of the chunk that owns a message passes it down, or answers that there is no
data. -/
private theorem delivers_chunk (units : ℕ → String → String → Bool) {chunk : String}
    (owned : message.chunkOf strategy = some chunk) :
    ∃ path destination, Delivers strategy units message (.chunk chunk) path destination ∧
      path.length ≤ 2 ∧
      ∀ place ∈ path, place = .chunk chunk ∨ place = .unit chunk message.runner := by
  have down (hop : chunkHop strategy (units 0) chunk message =
      .forward (.unit chunk message.runner)) :
      Delivers strategy units message (.chunk chunk) [.chunk chunk, .unit chunk message.runner]
        (message.destinationIn chunk) :=
    .forward hop (by simp) (delivers_unit _ owned)
  by_cases question : ∃ runner, message = .collectData runner chunk
  · obtain ⟨runner, rfl⟩ := question
    have hop : chunkHop strategy (units 0) chunk (.collectData runner chunk : Message S F M) =
        if units 0 chunk runner then .forward (.unit chunk runner) else .arrive (.noData chunk) :=
      chunkHop_collectData (units 0) runner
    cases present : units 0 chunk runner with
    | true =>
        rw [present, if_pos rfl] at hop
        exact ⟨_, _, down hop, Nat.le_refl 2, by simp⟩
    | false =>
        rw [present, if_neg Bool.false_ne_true] at hop
        refine ⟨[.chunk chunk], .noData chunk, ⟨.arrive hop, List.nodup_singleton _, rfl, ?_⟩,
          Nat.le_succ 1, by simp⟩
        exact ⟨runner, rfl, 0, rfl, present⟩
  · have noQuestion (runner : String) : message ≠ .collectData runner chunk :=
      fun same => question ⟨runner, same⟩
    exact ⟨_, _, down (chunkHop_of_owned (units 0) owned noQuestion), Nat.le_refl 2, by simp⟩

private theorem delivers_project (strategy : S → String) (message : Message S F M)
    (units : ℕ → String → String → Bool) :
    ∃ path destination, Delivers strategy units message .project path destination ∧
      path.length ≤ 3 ∧ ∀ place ∈ path, message.Descends strategy place := by
  have atRoot : ∀ place ∈ [Place.project], message.Descends strategy place :=
    fun place member => Or.inl (List.mem_singleton.mp member)
  cases owner : message.chunkOf strategy with
  | some chunk =>
      obtain ⟨path, destination, delivers, short, below⟩ :=
        delivers_chunk (fun n => units (n + 1)) owner
      have new : Place.project ∉ path := fun member => by
        rcases below _ member with same | same <;> cases same
      refine ⟨.project :: path, destination, .forward (projectHop_of_chunkOf owner) new delivers,
        Nat.succ_le_succ short, fun place member => ?_⟩
      rcases List.mem_cons.mp member with root | further
      · exact Or.inl root
      · exact Or.inr ⟨chunk, owner, below place further⟩
  | none =>
      by_cases own : message.IsForProject
      · exact ⟨[.project], .project, ⟨.arrive (projectHop_of_isForProject own),
          List.nodup_singleton _, own, rfl⟩, by simp, atRoot⟩
      · exact ⟨[.project], .dropped, ⟨.arrive (projectHop_of_ownerless owner own),
          List.nodup_singleton _, owner, own, rfl⟩, by simp, atRoot⟩

private theorem delivers_anyChunk (strategy : S → String) (message : Message S F M)
    (units : ℕ → String → String → Bool) (chunk : String) :
    ∃ path destination, Delivers strategy units message (.chunk chunk) path destination ∧
      path.length ≤ 4 ∧
      ∀ place ∈ path, place = .chunk chunk ∨ message.Descends strategy place := by
  by_cases owned : message.chunkOf strategy = some chunk
  · obtain ⟨path, destination, delivers, short, below⟩ := delivers_chunk units owned
    exact ⟨path, destination, delivers, by omega,
      fun place member => Or.inr (Or.inr ⟨chunk, owned, below place member⟩)⟩
  · obtain ⟨path, destination, delivers, short, below⟩ :=
      delivers_project strategy message (fun n => units (n + 1))
    have new : Place.chunk chunk ∉ path := fun member => by
      obtain same | ⟨owner, mine, same | same⟩ := below _ member
      · cases same
      · cases same
        exact owned mine
      · cases same
    refine ⟨.chunk chunk :: path, destination,
      .forward (chunkHop_of_ne (units 0) owned) new delivers, Nat.succ_le_succ short,
      fun place member => ?_⟩
    rcases List.mem_cons.mp member with here | further
    · exact Or.inl here
    · exact Or.inr (below place further)

/-- Every message comes from every manager to its end, over each manager at most once. -/
theorem Place.delivers (strategy : S → String) (units : ℕ → String → String → Bool)
    (message : Message S F M) (start : Place) :
    ∃ path destination, Delivers strategy units message start path destination ∧
      path.length ≤ 5 := by
  cases start with
  | project =>
      obtain ⟨path, destination, delivers, short, _⟩ :=
        delivers_project strategy message units
      exact ⟨path, destination, delivers, by omega⟩
  | chunk chunk =>
      obtain ⟨path, destination, delivers, short, _⟩ :=
        delivers_anyChunk strategy message units chunk
      exact ⟨path, destination, delivers, by omega⟩
  | unit chunk runner =>
      by_cases owned : message.chunkOf strategy = some chunk ∧ message.runner = runner
      · obtain ⟨owner, rfl⟩ := owned
        exact ⟨_, _, delivers_unit units owner, by simp⟩
      · obtain ⟨path, destination, delivers, short, below⟩ :=
          delivers_anyChunk strategy message (fun n => units (n + 1)) chunk
        have new : Place.unit chunk runner ∉ path := fun member => by
          obtain same | same | ⟨owner, mine, same | same⟩ := below _ member
          · cases same
          · cases same
          · cases same
          · cases same
            exact owned ⟨mine, rfl⟩
        exact ⟨_, _, .forward (unitHop_of_not_owned owned) new delivers, Nat.succ_le_succ short⟩

/-- What a manager ends itself, ends rightly there. -/
theorem Place.ends_of_arrive {hasUnit : String → String → Bool} {place : Place}
    (hop : place.hop strategy hasUnit message = .arrive destination) :
    message.Ends strategy (fun _ => hasUnit) [place] destination := by
  obtain ⟨path, last, delivers, _⟩ := place.delivers strategy (fun _ => hasUnit) message
  have arrived : Travels strategy message (fun _ => hasUnit) place [place] destination :=
    .arrive hop
  obtain ⟨rfl, rfl⟩ := delivers.travels.unique arrived
  exact delivers.ends

/-- Only the manager of its chunk passes a message to a unit. -/
theorem Place.eq_chunk_of_forward {hasUnit : String → String → Bool} {place : Place}
    {chunk runner : String}
    (hop : place.hop strategy hasUnit message = .forward (.unit chunk runner)) :
    place = .chunk chunk := by
  cases place with
  | project =>
      simp only [Place.hop, projectHop] at hop
      split at hop
      · cases hop
      · cases hop
      · split at hop <;> cases hop
  | chunk other =>
      simp only [Place.hop, chunkHop] at hop
      split at hop
      · split at hop
        · split at hop <;> cases hop
          rfl
        · cases hop
          rfl
      · cases hop
  | unit other name =>
      simp only [Place.hop, unitHop] at hop
      split at hop
      · split at hop <;> cases hop
      · cases hop

/-- The end of the way, if no unit comes into being during it. -/
theorem Delivers.destination_eq {hasUnit : String → String → Bool}
    (delivers : Delivers strategy (fun _ => hasUnit) message start path destination) :
    start.destination strategy hasUnit message = destination := by
  obtain ⟨other, last, again, short⟩ := start.delivers strategy (fun _ => hasUnit) message
  obtain ⟨rfl, rfl⟩ := delivers.travels.unique again.travels
  unfold Place.destination
  rw [delivers.travels.follow_eq short, Option.getD_some]

end Tabulation
