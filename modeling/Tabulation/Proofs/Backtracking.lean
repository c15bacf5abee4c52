/-
The search on one path spoils nothing that it found.

While the search is at a path, it writes only behind the path in its array and into arrays that are
made later.  A trace that was found stands in an array of its own, which lies on no path, so it is
there in the end as it was found.  And when the search comes back to a path, the path is as it was
left, and so are the marks.
-/

import Mathlib.Data.List.GetD
import Mathlib.Data.Nat.Basic
import Mathlib.Order.Basic
import Tabulation.Solver.Backtrack

namespace Tabulation

/-- Where every outcome of one step is one of another, so it is with many steps. -/
theorem foldlM_of_refines {σ α : Type} {f f' : σ → α → Option σ} {items : List α} {start after : σ}
    (refines : ∀ state item next, f state item = some next → f' state item = some next)
    (folded : items.foldlM f start = some after) : items.foldlM f' start = some after := by
  induction items generalizing start with
  | nil => exact folded
  | cons item rest ih =>
      rw [List.foldlM_cons] at folded ⊢
      obtain ⟨between, taken, further⟩ := Option.bind_eq_some_iff.mp folded
      exact Option.bind_eq_some_iff.mpr ⟨between, refines _ _ _ taken, ih further⟩

/-! ### Slices of the memory -/

namespace Memory

variable {α : Type} {memory start between after : Memory α} {slice other : Slice}
  {values : List α}

/-- A slice lies in the memory and holds some values. -/
structure Holds (memory : Memory α) (slice : Slice) (values : List α) : Prop where
  inside : slice.array < memory.arrays.length
  length : slice.length = values.length
  cells : (memory.cells slice.array).take slice.length = values.map some

theorem Holds.read (holds : memory.Holds slice values) : memory.read slice = values := by
  unfold Memory.read
  rw [holds.cells, List.filterMap_map]
  exact List.filterMap_some

/-- At most what lies behind a slice in its array was overwritten. -/
structure Keeps (slice : Slice) (start after : Memory α) : Prop where
  grows : start.arrays.length ≤ after.arrays.length
  agrees : ∀ array < start.arrays.length, ∀ count,
    (array = slice.array → count ≤ slice.length) →
      (after.cells array).take count = (start.cells array).take count

theorem Keeps.refl (slice : Slice) (memory : Memory α) : Keeps slice memory memory :=
  ⟨Nat.le_refl _, fun _ _ _ _ => rfl⟩

theorem Keeps.trans (first : Keeps slice start between) (second : Keeps slice between after) :
    Keeps slice start after where
  grows := first.grows.trans second.grows
  agrees array old count short :=
    (second.agrees array (old.trans_le first.grows) count short).trans
      (first.agrees array old count short)

/-- A slice of another array is kept, and so is what comes before the end of the slice. -/
theorem Keeps.holds (keeps : Keeps slice start after) (holds : start.Holds other values)
    (short : other.array = slice.array → other.length ≤ slice.length) :
    after.Holds other values where
  inside := holds.inside.trans_le keeps.grows
  length := holds.length
  cells := (keeps.agrees other.array holds.inside other.length short).trans holds.cells

theorem Keeps.read (keeps : Keeps slice start after) (inside : other.array < start.arrays.length)
    (short : other.array = slice.array → other.length ≤ slice.length) :
    after.read other = start.read other := by
  unfold Memory.read
  rw [keeps.agrees other.array inside other.length short]

theorem cells_allocate {array spare : ℕ} (old : array < memory.arrays.length) :
    (memory.allocate values spare).2.cells array = memory.cells array := by
  simp only [allocate, cells]
  exact List.getD_append _ _ _ _ old

theorem keeps_allocate (slice : Slice) (memory : Memory α) (values : List α) (spare : ℕ) :
    Keeps slice memory (memory.allocate values spare).2 where
  grows := by
    simp only [allocate, List.length_append]
    omega
  agrees _ old _ _ := by rw [cells_allocate old]

theorem holds_allocate (memory : Memory α) (values : List α) (spare : ℕ) :
    (memory.allocate values spare).2.Holds (memory.allocate values spare).1 values where
  inside := by
    simp only [allocate, List.length_append, List.length_singleton]
    omega
  length := rfl
  cells := by
    simp only [allocate, cells]
    rw [List.getD_append_right _ _ _ _ (Nat.le_refl _), Nat.sub_self, List.getD_cons_zero,
      List.take_left' (List.length_map some)]

/-- Writing into the next cell of a slice. -/
private theorem cells_set {array : ℕ} {value : α} (inside : slice.array < memory.arrays.length) :
    Memory.cells ⟨memory.arrays.set slice.array
        ((memory.cells slice.array).set slice.length (some value))⟩ array =
      if array = slice.array then (memory.cells slice.array).set slice.length (some value)
      else memory.cells array := by
  simp only [cells, List.getD_eq_getElem?_getD]
  by_cases same : array = slice.array
  · rw [if_pos same, same, List.getElem?_set_self inside]
    rfl
  · rw [if_neg same, List.getElem?_set_ne (Ne.symm same)]

theorem Holds.append (holds : memory.Holds slice values) (spare : ℕ → ℕ) (value : α) :
    (memory.append spare slice value).2.Holds (memory.append spare slice value).1
      (values ++ [value]) := by
  unfold Memory.append
  split
  next room =>
    constructor
    case inside =>
      simp only [List.length_set]
      exact holds.inside
    case length => rw [List.length_append, List.length_singleton, holds.length]
    case cells =>
      have next : slice.length < ((memory.cells slice.array).set slice.length (some value)).length :=
        by rwa [List.length_set]
      rw [cells_set holds.inside, if_pos rfl, List.take_succ_eq_append_getElem next,
        List.getElem_set_self, List.take_set_of_le (Nat.le_refl _), holds.cells, List.map_append]
      rfl
  next full =>
    rw [holds.read]
    exact holds_allocate memory (values ++ [value]) _

/-- Where a slice grew and only what lies behind it was overwritten then, only what lies behind the
shorter slice was overwritten. -/
theorem Holds.keeps_append {spare : ℕ → ℕ} {value : α} (holds : memory.Holds slice values)
    (keeps : Keeps (memory.append spare slice value).1 (memory.append spare slice value).2 after) :
    Keeps slice memory after := by
  unfold Memory.append at keeps
  split at keeps
  next room =>
    constructor
    case grows =>
      have grows := keeps.grows
      rwa [List.length_set] at grows
    case agrees =>
      intro array old count short
      have shorter : array = slice.array → count ≤ slice.length + 1 := fun same =>
        (short same).trans (Nat.le_succ _)
      rw [keeps.agrees array (by rwa [List.length_set]) count shorter, cells_set holds.inside]
      split
      next same => rw [List.take_set_of_le (short same), same]
      next other => rfl
  next full =>
    have allocated := keeps_allocate slice memory (memory.read slice ++ [value])
      (spare (slice.length + 1))
    constructor
    case grows => exact allocated.grows.trans keeps.grows
    case agrees =>
      intro array old count short
      -- the longer slice lies in the new array
      have apart : array ≠ memory.arrays.length := Nat.ne_of_lt old
      rw [keeps.agrees array (old.trans_le allocated.grows) count fun same => absurd same apart]
      exact allocated.agrees array old count short

/-- A slice that grew lies where it was or in a new array. -/
theorem array_append (memory : Memory α) (spare : ℕ → ℕ) (slice : Slice) (value : α) :
    (memory.append spare slice value).1.array = slice.array ∨
      (memory.append spare slice value).1.array = memory.arrays.length := by
  unfold Memory.append
  split
  next room => exact .inl rfl
  next full => exact .inr rfl

end Memory

/-! ### Going on and coming back -/

namespace Backtrack

variable {V : Type} {trace : Slice} {path : List V} {state between after : Backtrack V}

/-- The search is at a path: exactly what is on it is marked, and no trace that was found lies in its
array. -/
structure IsAt (state : Backtrack V) (trace : Slice) (path : List V) : Prop where
  holds : state.memory.Holds trace path
  marked : ∀ u, u ∈ state.onTrace ↔ u ∈ path
  inside : ∀ copy ∈ state.traces, copy.array < state.memory.arrays.length
  apart : ∀ copy ∈ state.traces, copy.array ≠ trace.array

/-- A part of the search at a path found some traces, each in an array that was made meanwhile, and came
back to the path. -/
structure Finds (trace : Slice) (state after : Backtrack V) (found : List (List V)) : Prop where
  marks : after.onTrace = state.onTrace
  memory : Memory.Keeps trace state.memory after.memory
  emitted : ∃ copies, after.traces = state.traces ++ copies ∧
    copies.map after.memory.read = found ∧
    ∀ copy ∈ copies, state.memory.arrays.length ≤ copy.array ∧
      copy.array < after.memory.arrays.length

/-- A search that has not begun is at the empty path. -/
theorem isAt_start : ({} : Backtrack V).IsAt .empty [] where
  holds := ⟨Nat.zero_lt_one, rfl, rfl⟩
  marked _ := Iff.rfl
  inside := nofun
  apart := nofun

theorem Finds.isAt {found : List (List V)} (finds : Finds trace state after found)
    (isAt : state.IsAt trace path) : after.IsAt trace path := by
  obtain ⟨copies, traces, -, fresh⟩ := finds.emitted
  constructor
  case holds => exact finds.memory.holds isAt.holds fun _ => Nat.le_refl _
  case marked =>
    intro u
    rw [finds.marks, isAt.marked]
  case inside =>
    intro copy member
    rcases List.mem_append.mp (traces ▸ member) with old | new
    · exact (isAt.inside copy old).trans_le finds.memory.grows
    · exact (fresh copy new).2
  case apart =>
    intro copy member
    rcases List.mem_append.mp (traces ▸ member) with old | new
    · exact isAt.apart copy old
    · exact (isAt.holds.inside.trans_le (fresh copy new).1).ne'

/-- The traces that were found before stay as they were. -/
theorem Finds.found_eq {found : List (List V)} (finds : Finds trace state after found)
    (isAt : state.IsAt trace path) : after.found = state.found ++ found := by
  obtain ⟨copies, traces, rfl, -⟩ := finds.emitted
  have same : state.traces.map after.memory.read = state.traces.map state.memory.read :=
    List.map_congr_left fun copy member =>
      finds.memory.read (isAt.inside copy member) fun within => absurd within (isAt.apart copy member)
  unfold Backtrack.found
  rw [traces, List.map_append, same]

theorem Finds.nothing (trace : Slice) (state : Backtrack V) : Finds trace state state [] :=
  ⟨rfl, .refl trace state.memory, [], (List.append_nil _).symm, rfl, nofun⟩

theorem Finds.trans {first second : List (List V)} (finds : Finds trace state between first)
    (further : Finds trace between after second) (isAt : state.IsAt trace path) :
    Finds trace state after (first ++ second) := by
  obtain ⟨copies, traces, rfl, fresh⟩ := finds.emitted
  obtain ⟨others, moreTraces, rfl, moreFresh⟩ := further.emitted
  refine ⟨further.marks.trans finds.marks, finds.memory.trans further.memory,
    copies ++ others, ?_, ?_, ?_⟩
  · rw [moreTraces, traces, List.append_assoc]
  · rw [List.map_append]
    refine congrArg (· ++ _) (List.map_congr_left fun copy member => ?_)
    have elsewhere : copy.array ≠ trace.array :=
      (isAt.holds.inside.trans_le (fresh copy member).1).ne'
    exact further.memory.read (fresh copy member).2 fun within => absurd within elsewhere
  · intro copy member
    rcases List.mem_append.mp member with old | new
    · exact ⟨(fresh copy old).1, (fresh copy old).2.trans_le further.memory.grows⟩
    · exact ⟨finds.memory.grows.trans (moreFresh copy new).1, (moreFresh copy new).2⟩

theorem IsAt.emit {spare : ℕ → ℕ} (isAt : state.IsAt trace path) :
    Finds trace state (state.emit spare trace) [path] := by
  unfold Backtrack.emit
  rw [isAt.holds.read]
  have holds := Memory.holds_allocate state.memory path (spare path.length)
  refine ⟨rfl, Memory.keeps_allocate trace state.memory path _, [_], rfl, ?_, ?_⟩
  · exact congrArg ([·]) holds.read
  · intro copy member
    obtain rfl := List.mem_singleton.mp member
    exact ⟨Nat.le_refl _, holds.inside⟩

/-- Going on to a vertex off the path, the search is at a longer path. -/
theorem IsAt.longer (isAt : state.IsAt trace path) (spare : ℕ → ℕ) (u : V) :
    IsAt { state with memory := (state.memory.append spare trace u).2, onTrace := u :: state.onTrace }
      (state.memory.append spare trace u).1 (path ++ [u]) where
  holds := isAt.holds.append spare u
  marked w := by rw [List.mem_cons, isAt.marked, List.mem_append, List.mem_singleton, or_comm]
  inside copy member :=
    (isAt.inside copy member).trans_le (isAt.holds.keeps_append (.refl _ _)).grows
  apart copy member := by
    rcases state.memory.array_append spare trace u with same | new
    · exact same ▸ isAt.apart copy member
    · exact new ▸ (isAt.inside copy member).ne

variable [DecidableEq V] (spare : ℕ → ℕ) {walk : Slice → Backtrack V → Option (Backtrack V)}

/-- If the search from a longer path comes back to it, going on to a vertex comes back to the path. -/
theorem IsAt.enter {u : V} {found : List (List V)} (isAt : state.IsAt trace path)
    (walks : u ∉ path → ∀ longer start, start.IsAt longer (path ++ [u]) →
      ∃ after, walk longer start = some after ∧ Finds longer start after found) :
    ∃ after, enter spare walk trace state u = some after ∧
      Finds trace state after (if u ∈ path then [] else found) := by
  unfold Backtrack.enter
  by_cases onPath : u ∈ path
  · rw [if_pos ((isAt.marked u).mpr onPath), if_pos onPath]
    exact ⟨state, rfl, .nothing trace state⟩
  · have unmarked : u ∉ state.onTrace := mt (isAt.marked u).mp onPath
    rw [if_neg unmarked, if_neg onPath]
    obtain ⟨after, walked, finds⟩ := walks onPath _ _ (isAt.longer spare u)
    obtain ⟨copies, traces, copied, fresh⟩ := finds.emitted
    have keeps : Memory.Keeps trace state.memory (state.memory.append spare trace u).2 :=
      isAt.holds.keeps_append (.refl _ _)
    refine ⟨{ after with onTrace := after.onTrace.filter (· ≠ u) }, ?_, ?_, ?_, copies, traces,
      copied, ?_⟩
    · simp only [walked, Option.bind_eq_bind, Option.bind_some, Option.pure_def]
    · have others : state.onTrace.filter (· ≠ u) = state.onTrace :=
        List.filter_eq_self.mpr fun w member => decide_eq_true fun same => unmarked (same ▸ member)
      rw [finds.marks, List.filter_cons_of_neg (by simp), others]
    · exact isAt.holds.keeps_append finds.memory
    · exact fun copy member => ⟨keeps.grows.trans (fresh copy member).1, (fresh copy member).2⟩

/-- And so does going on to one vertex after the other. -/
theorem IsAt.foldlM_enter {us : List V} {found : V → List (List V)} (isAt : state.IsAt trace path)
    (walks : ∀ u ∈ us, u ∉ path → ∀ longer start, start.IsAt longer (path ++ [u]) →
      ∃ after, walk longer start = some after ∧ Finds longer start after (found u)) :
    ∃ after, us.foldlM (Backtrack.enter spare walk trace) state = some after ∧
      Finds trace state after ((us.filter fun u => u ∉ path).flatMap found) := by
  induction us generalizing state with
  | nil => exact ⟨state, rfl, .nothing trace state⟩
  | cons u rest ih =>
      obtain ⟨between, entered, finds⟩ := isAt.enter spare (walks u List.mem_cons_self)
      obtain ⟨after, folded, further⟩ := ih (finds.isAt isAt) fun w member =>
        walks w (List.mem_cons_of_mem u member)
      refine ⟨after, ?_, ?_⟩
      · rw [List.foldlM_cons, entered]
        exact folded
      · have all := finds.trans further isAt
        by_cases onPath : u ∈ path
        · rw [if_pos onPath, List.nil_append] at all
          rwa [List.filter_cons_of_neg (by simpa using onPath)]
        · rw [if_neg onPath] at all
          rwa [List.filter_cons_of_pos (by simpa using onPath), List.flatMap_cons]

/-! ### Going deeper -/

/-- Every outcome of one search is one of another. -/
def Refines (walk walk' : Slice → Backtrack V → Option (Backtrack V)) : Prop :=
  ∀ trace state after, walk trace state = some after → walk' trace state = some after

variable {spare : ℕ → ℕ} {walk' : Slice → Backtrack V → Option (Backtrack V)}

theorem Refines.enter (refines : Refines walk walk') {u : V}
    (entered : enter spare walk trace state u = some after) :
    Backtrack.enter spare walk' trace state u = some after := by
  unfold Backtrack.enter at entered ⊢
  split at entered
  next marked => rwa [if_pos marked]
  next unmarked =>
    obtain ⟨next, walked, isOutcome⟩ := Option.bind_eq_some_iff.mp entered
    rw [if_neg unmarked]
    exact Option.bind_eq_some_iff.mpr ⟨next, refines _ _ _ walked, isOutcome⟩

theorem Refines.foldlM_enter (refines : Refines walk walk') {us : List V}
    (folded : us.foldlM (Backtrack.enter spare walk trace) state = some after) :
    us.foldlM (Backtrack.enter spare walk' trace) state = some after :=
  foldlM_of_refines (fun _ _ _ => refines.enter) folded

/-- A search that may go deeper has the same outcome. -/
theorem refines_walk (spare : ℕ → ℕ) (order : List V → List V) (sink : V) {depth depth' : ℕ}
    (deeper : depth ≤ depth') :
    Refines (Backtrack.walk spare order sink depth) (Backtrack.walk spare order sink depth') := by
  induction depth generalizing depth' with
  | zero => exact fun _ _ _ walked => nomatch walked
  | succ depth ih =>
      obtain ⟨depth', rfl⟩ := Nat.exists_eq_add_of_le' (Nat.zero_lt_of_lt deeper)
      intro trace state after walked
      unfold Backtrack.walk at walked ⊢
      obtain ⟨v, last, walked⟩ := Option.bind_eq_some_iff.mp walked
      refine Option.bind_eq_some_iff.mpr ⟨v, last, ?_⟩
      split at walked
      next atSink => rwa [if_pos atSink]
      next further =>
        rw [if_neg further]
        exact (ih (Nat.le_of_succ_le_succ deeper)).foldlM_enter walked

end Backtrack

end Tabulation
