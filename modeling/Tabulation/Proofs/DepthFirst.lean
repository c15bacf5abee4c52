/-
Depth-first walks complete strongly connected components.

While a walk is at some ids, its path, the open ids form a chain: each reaches all that were opened
after it, and each reaches an id of the path that was found no later than itself.  A number that is
smaller than the one of the last id of the path shows that this id reaches back behind itself.  If
there is none, then what was opened since then is strongly connected, and no edge leads out of it but
to components that are complete.
-/

import Tabulation.Proofs.NumberedGraphs

namespace Tabulation.Digraph

variable {α : Type} {g : Digraph α}

/-! ### Numbers -/

namespace Walk

theorem number_le (walk : Walk) (id : Nat) : walk.number id ≤ walk.found.length :=
  Nat.sub_le _ _

variable {before after : Walk} (grows : before.found <:+ after.found)

include grows

theorem number_eq_of_suffix (nodup : after.found.Nodup) {id : Nat} (known : id ∈ before.found) :
    after.number id = before.number id := by
  obtain ⟨new, same⟩ := grows
  have absent : id ∉ new := fun member =>
    List.disjoint_of_nodup_append (same ▸ nodup) member known
  unfold number
  rw [← same, List.idxOf_append_of_notMem absent, List.length_append]
  omega

/-- What is found later has a greater number. -/
theorem length_lt_number {id : Nat} (unknown : id ∉ before.found) (found : id ∈ after.found) :
    before.found.length < after.number id := by
  obtain ⟨new, same⟩ := grows
  have isNew : id ∈ new := by
    rw [← same] at found
    exact (List.mem_append.mp found).resolve_right unknown
  have position := List.idxOf_lt_length_of_mem isNew
  unfold number
  rw [← same, List.idxOf_append_of_mem isNew, List.length_append]
  omega

end Walk

/-- Numbers fall along the list of what was found. -/
private theorem pairwise_number {walk : Walk} (nodup : walk.found.Nodup) :
    walk.found.Pairwise fun later earlier => walk.number earlier < walk.number later := by
  rw [List.pairwise_iff_getElem]
  intro i j insideI insideJ less
  unfold Walk.number
  rw [nodup.idxOf_getElem, nodup.idxOf_getElem]
  omega

theorem Walk.follow_of_mem {connect : Walk → Nat → Walk × Nat} {walk : Walk} {low next : Nat}
    (found : next ∈ walk.found) :
    Walk.follow connect (walk, low) next =
      (walk, if walk.opened.contains next then min low (walk.number next) else low) := by
  unfold Walk.follow
  simp only [List.contains_iff_mem, found, if_true]
  split <;> rfl

theorem Walk.follow_of_notMem {connect : Walk → Nat → Walk × Nat} {walk : Walk} {low next : Nat}
    (unknown : next ∉ walk.found) :
    Walk.follow connect (walk, low) next =
      ((connect walk next).1, min low (connect walk next).2) := by
  unfold Walk.follow
  simp only [List.contains_iff_mem, unknown, if_false]

/-! ### Walks in progress -/

/-- Complete components: each is strongly connected, and no edge leads out of one of them but to
those that were completed before. -/
structure Completed (g : Digraph α) (components : List (List Nat)) : Prop where
  nonempty : ∀ component ∈ components, component ≠ []
  connected : ∀ component ∈ components, ∀ a ∈ component, ∀ b ∈ component,
    Relation.ReflTransGen g.Links a b
  closed : ∀ a ∈ components.flatten, ∀ b, g.Links a b → b ∈ components.flatten
  ordered : components.Pairwise fun earlier later => ∀ a ∈ earlier, ∀ b ∈ later, ¬g.Links a b

/-- A walk that is at the ids of a path. -/
structure Walks (g : Digraph α) (path : List Nat) (walk : Walk) : Prop where
  nodup : walk.found.Nodup
  bounded : ∀ id ∈ walk.found, id < g.order
  sublist : walk.opened.Sublist walk.found
  perm : (walk.opened ++ walk.complete.flatten).Perm walk.found
  opened : ∀ id ∈ path, id ∈ walk.opened
  followed : ∀ a ∈ walk.found, a ∉ path → ∀ b, g.Links a b → b ∈ walk.found
  chained : walk.opened.Pairwise fun later earlier => Relation.ReflTransGen g.Links earlier later
  returns : ∀ a ∈ walk.opened, ∃ b ∈ path, walk.number b ≤ walk.number a ∧
    Relation.ReflTransGen g.Links a b
  completed : g.Completed walk.complete

namespace Walks

variable {path : List Nat} {walk : Walk}

theorem mem_found (walks : g.Walks path walk) {id : Nat} :
    id ∈ walk.found ↔ id ∈ walk.opened ∨ id ∈ walk.complete.flatten := by
  rw [← walks.perm.mem_iff, List.mem_append]

theorem nodup_parts (walks : g.Walks path walk) :
    (walk.opened ++ walk.complete.flatten).Nodup :=
  walks.perm.nodup_iff.mpr walks.nodup

theorem numbers (walks : g.Walks path walk) :
    walk.opened.Pairwise fun later earlier => walk.number earlier < walk.number later :=
  (pairwise_number walks.nodup).sublist walks.sublist

/-- An open id with a smaller number than one in the lower part is in the lower part. -/
theorem mem_lower (walks : g.Walks path walk) {upper lower : List Nat}
    (parts : walk.opened = upper ++ lower) {a b : Nat} (isOpen : a ∈ walk.opened)
    (isLower : b ∈ lower) (less : walk.number a < walk.number b) : a ∈ lower := by
  have numbers := walks.numbers
  rw [parts] at isOpen numbers
  refine (List.mem_append.mp isOpen).resolve_left fun isUpper => ?_
  have more := (List.pairwise_append.mp numbers).2.2 a isUpper b isLower
  omega

/-- The walk finds an id that can be reached from all of the path. -/
theorem enter (walks : g.Walks path walk) {id : Nat} (unknown : id ∉ walk.found)
    (inside : id < g.order) (leads : ∀ a ∈ path, Relation.ReflTransGen g.Links a id) :
    g.Walks (id :: path) (walk.enter id) := by
  have nodup : (walk.enter id).found.Nodup := List.nodup_cons.mpr ⟨unknown, walks.nodup⟩
  have number_eq : ∀ a ∈ walk.found, (walk.enter id).number a = walk.number a := fun a known =>
    Walk.number_eq_of_suffix (List.suffix_cons id walk.found) nodup known
  constructor
  case nodup => exact nodup
  case bounded =>
    intro a found
    rcases List.mem_cons.mp found with rfl | known
    · exact inside
    · exact walks.bounded a known
  case sublist => exact walks.sublist.cons_cons id
  case perm => exact walks.perm.cons id
  case opened =>
    intro a onPath
    rcases List.mem_cons.mp onPath with rfl | before
    · exact List.mem_cons_self
    · exact List.mem_cons_of_mem _ (walks.opened a before)
  case followed =>
    intro a found offPath b link
    obtain ⟨differs, offBefore⟩ := not_or.mp (mt List.mem_cons.mpr offPath)
    have known := (List.mem_cons.mp found).resolve_left differs
    exact List.mem_cons_of_mem _ (walks.followed a known offBefore b link)
  case chained =>
    refine List.pairwise_cons.mpr ⟨fun a isOpen => ?_, walks.chained⟩
    obtain ⟨b, onPath, _, back⟩ := walks.returns a isOpen
    exact back.trans (leads b onPath)
  case returns =>
    intro a isOpen
    rcases List.mem_cons.mp isOpen with rfl | before
    · exact ⟨a, List.mem_cons_self, le_rfl, .refl⟩
    · obtain ⟨b, onPath, less, back⟩ := walks.returns a before
      refine ⟨b, List.mem_cons_of_mem _ onPath, ?_, back⟩
      rw [number_eq a (walks.sublist.subset before),
        number_eq b (walks.sublist.subset (walks.opened b onPath))]
      exact less
  case completed => exact walks.completed

end Walks

/-! ### Following the edges of an id -/

/-- A walk that came to an id and followed some of its edges. `since` was opened after the id, and
`low` is the smallest number known of an open id that the id reaches. -/
structure Follows (g : Digraph α) (path : List Nat) (before : Walk) (id : Nat) (done : List Nat)
    (walk : Walk) (low : Nat) (since : List Nat) : Prop where
  walks : g.Walks (id :: path) walk
  grows : (before.enter id).found <:+ walk.found
  reached : ∀ a ∈ walk.found, a ∉ before.found → Relation.ReflTransGen g.Links id a
  followed : ∀ b ∈ done, b ∈ walk.found
  opened : walk.opened = since ++ id :: before.opened
  low_le_since : ∀ a ∈ since, ∀ b ∈ before.opened, g.Links a b → low ≤ walk.number b
  low_le_done : ∀ b ∈ done, b ∈ before.opened → low ≤ walk.number b
  low_eq : ∃ b ∈ id :: before.opened, low = walk.number b ∧ Relation.ReflTransGen g.Links id b

/-- What a walk from an id does: if it does not complete the component of the id, then `low` is the
number of an id that was open before. -/
structure Connects (g : Digraph α) (path : List Nat) (before : Walk) (id : Nat) (after : Walk)
    (low : Nat) : Prop where
  walks : g.Walks path after
  grows : before.found <:+ after.found
  found : id ∈ after.found
  reached : ∀ a ∈ after.found, a ∉ before.found → Relation.ReflTransGen g.Links id a
  opened : ∃ since, after.opened = since ++ before.opened ∧
    ∀ a ∈ since, ∀ b ∈ before.opened, g.Links a b → low ≤ after.number b
  low_eq : low = after.number id ∨
    ∃ b ∈ before.opened, low = after.number b ∧ Relation.ReflTransGen g.Links id b

namespace Follows

variable {path done since : List Nat} {before walk : Walk} {id low : Nat}

theorem lower_found (follows : g.Follows path before id done walk low since)
    (walks : g.Walks path before) {b : Nat} (isLower : b ∈ id :: before.opened) :
    b ∈ walk.found :=
  follows.grows.subset ((walks.sublist.cons_cons id).subset isLower)

theorem opened_of_lower (follows : g.Follows path before id done walk low since) {b : Nat}
    (isLower : b ∈ id :: before.opened) : b ∈ walk.opened := by
  rw [follows.opened]
  exact List.mem_append_right _ isLower

/-- An open id with a smaller number than `low` was open before. -/
theorem mem_of_lt_low (follows : g.Follows path before id done walk low since) {a : Nat}
    (isOpen : a ∈ walk.opened) (less : walk.number a < low) : a ∈ id :: before.opened := by
  obtain ⟨b, isLower, rfl, _⟩ := follows.low_eq
  exact follows.walks.mem_lower follows.opened isOpen isLower less

theorem low_le_length (follows : g.Follows path before id done walk low since) :
    low ≤ walk.found.length := by
  obtain ⟨b, _, rfl, _⟩ := follows.low_eq
  exact walk.number_le b

/-- The edge leads to an id that was found before. -/
theorem known (follows : g.Follows path before id done walk low since) {next : Nat}
    (link : g.Links id next) (found : next ∈ walk.found) :
    g.Follows path before id (done ++ [next]) walk
      (if walk.opened.contains next then min low (walk.number next) else low) since := by
  have followed : ∀ b ∈ done ++ [next], b ∈ walk.found := by
    intro b member
    rcases List.mem_append.mp member with old | new
    · exact follows.followed b old
    · exact List.mem_singleton.mp new ▸ found
  by_cases isOpen : next ∈ walk.opened
  · rw [if_pos (List.contains_iff_mem.mpr isOpen)]
    refine { follows with followed, low_le_since := ?_, low_le_done := ?_, low_eq := ?_ }
    · exact fun a isSince b isBefore edge =>
        (Nat.min_le_left _ _).trans (follows.low_le_since a isSince b isBefore edge)
    · intro b member isBefore
      rcases List.mem_append.mp member with old | new
      · exact (Nat.min_le_left _ _).trans (follows.low_le_done b old isBefore)
      · exact List.mem_singleton.mp new ▸ Nat.min_le_right _ _
    · rcases Nat.lt_or_ge (walk.number next) low with less | more
      · exact ⟨next, follows.mem_of_lt_low isOpen less, Nat.min_eq_right less.le, .single link⟩
      · rw [Nat.min_eq_left more]
        exact follows.low_eq
  · rw [if_neg fun contained => isOpen (List.contains_iff_mem.mp contained)]
    refine { follows with followed, low_le_done := ?_ }
    intro b member isBefore
    rcases List.mem_append.mp member with old | new
    · exact follows.low_le_done b old isBefore
    · have isLower := List.mem_cons_of_mem id isBefore
      exact absurd (List.mem_singleton.mp new ▸ follows.opened_of_lower isLower) isOpen

/-- The edge leads to an id that is walked from. -/
theorem connected (follows : g.Follows path before id done walk low since)
    (walks : g.Walks path before) {next lowOfNext : Nat} {after : Walk} (link : g.Links id next)
    (unknown : next ∉ walk.found)
    (connects : g.Connects (id :: path) walk next after lowOfNext) :
    ∃ since, g.Follows path before id (done ++ [next]) after (min low lowOfNext) since := by
  obtain ⟨new, opened, low_le_new⟩ := connects.opened
  have number_eq : ∀ a ∈ walk.found, after.number a = walk.number a := fun a known =>
    Walk.number_eq_of_suffix connects.grows connects.walks.nodup known
  refine ⟨new ++ since, ?_⟩
  constructor
  case walks => exact connects.walks
  case grows => exact follows.grows.trans connects.grows
  case reached =>
    intro a found isNew
    by_cases old : a ∈ walk.found
    · exact follows.reached a old isNew
    · exact (connects.reached a found old).head link
  case followed =>
    intro b member
    rcases List.mem_append.mp member with old | isNext
    · exact connects.grows.subset (follows.followed b old)
    · exact List.mem_singleton.mp isNext ▸ connects.found
  case opened => rw [opened, follows.opened, List.append_assoc]
  case low_le_since =>
    intro a member b isBefore edge
    rcases List.mem_append.mp member with isNew | isSince
    · have isOpen := follows.opened_of_lower (List.mem_cons_of_mem id isBefore)
      exact (Nat.min_le_right _ _).trans (low_le_new a isNew b isOpen edge)
    · rw [number_eq b (follows.lower_found walks (List.mem_cons_of_mem _ isBefore))]
      exact (Nat.min_le_left _ _).trans (follows.low_le_since a isSince b isBefore edge)
  case low_le_done =>
    intro b member isBefore
    have found := follows.lower_found walks (List.mem_cons_of_mem _ isBefore)
    rcases List.mem_append.mp member with old | isNext
    · rw [number_eq b found]
      exact (Nat.min_le_left _ _).trans (follows.low_le_done b old isBefore)
    · exact absurd (List.mem_singleton.mp isNext ▸ found) unknown
  case low_eq =>
    -- A number that is not above `low` belongs to an id that was open when `id` was entered.
    rcases Nat.lt_or_ge lowOfNext low with less | more
    · rw [Nat.min_eq_right less.le]
      rcases connects.low_eq with same | ⟨b, isOpen, same, path⟩
      · have greater := Walk.length_lt_number connects.grows unknown connects.found
        have bound := follows.low_le_length
        omega
      · rw [number_eq b (follows.walks.sublist.subset isOpen)] at same
        refine ⟨b, follows.mem_of_lt_low isOpen (same ▸ less), ?_, path.head link⟩
        rw [number_eq b (follows.walks.sublist.subset isOpen), same]
    · rw [Nat.min_eq_left more]
      obtain ⟨b, isLower, same, path⟩ := follows.low_eq
      exact ⟨b, isLower, by rw [number_eq b (follows.lower_found walks isLower), same], path⟩

/-! ### Leaving an id -/

section Leaving

variable (follows : g.Follows path before id done walk low since)

include follows

theorem opened_eq : walk.opened = (since ++ [id]) ++ before.opened := by
  rw [follows.opened, List.append_assoc, List.singleton_append]

theorem nodup_opened : ((since ++ [id]) ++ before.opened).Nodup :=
  follows.opened_eq ▸ follows.walks.sublist.nodup follows.walks.nodup

theorem number_lt {b : Nat} (isBefore : b ∈ before.opened) :
    walk.number b < walk.number id := by
  have numbers := follows.walks.numbers
  rw [follows.opened] at numbers
  exact (List.pairwise_cons.mp (List.pairwise_append.mp numbers).2.1).1 b isBefore

theorem number_before {a : Nat} (known : a ∈ before.found) : walk.number a = before.number a :=
  Walk.number_eq_of_suffix ((List.suffix_cons id before.found).trans follows.grows)
    follows.walks.nodup known

variable (walks : g.Walks path before)

include walks

theorem returns_before {a : Nat} (isOpen : a ∈ before.opened) :
    ∃ b ∈ path, walk.number b ≤ walk.number a ∧ Relation.ReflTransGen g.Links a b := by
  obtain ⟨b, onPath, less, back⟩ := walks.returns a isOpen
  refine ⟨b, onPath, ?_, back⟩
  rw [follows.number_before (walks.sublist.subset isOpen),
    follows.number_before (walks.sublist.subset (walks.opened b onPath))]
  exact less

theorem not_mem_path {a : Nat} (member : a ∈ since ++ [id]) : a ∉ path := fun onPath =>
  (List.nodup_append.mp follows.nodup_opened).2.2 a member a (walks.opened a onPath) rfl

variable (all : ∀ b, g.Links id b → b ∈ done)

include all

omit walks in
theorem found_of_links {a : Nat} (found : a ∈ walk.found) (offPath : a ∉ path) {b : Nat}
    (link : g.Links a b) : b ∈ walk.found := by
  by_cases same : a = id
  · exact follows.followed b (all b (same ▸ link))
  · exact follows.walks.followed a found
      (fun member => (List.mem_cons.mp member).elim same offPath) b link

omit walks in
theorem low_le_number {a b : Nat} (member : a ∈ since ++ [id]) (isBefore : b ∈ before.opened)
    (link : g.Links a b) : low ≤ walk.number b := by
  rcases List.mem_append.mp member with isSince | isId
  · exact follows.low_le_since a isSince b isBefore link
  · exact follows.low_le_done b (all b (List.mem_singleton.mp isId ▸ link)) isBefore

/-- The id reaches back behind itself: its component stays open. -/
theorem stay (back : low ≠ walk.number id) : g.Connects path before id walk low := by
  obtain ⟨b, isLower, low_eq, reached⟩ := follows.low_eq
  have isBefore : b ∈ before.opened := (List.mem_cons.mp isLower).resolve_left
    fun same => back (same ▸ low_eq)
  constructor
  case grows => exact (List.suffix_cons id before.found).trans follows.grows
  case found => exact follows.lower_found walks List.mem_cons_self
  case reached => exact follows.reached
  case low_eq => exact Or.inr ⟨b, isBefore, low_eq, reached⟩
  case opened =>
    exact ⟨since ++ [id], follows.opened_eq, fun a member c isOld link =>
      follows.low_le_number all member isOld link⟩
  case walks =>
    refine { follows.walks with opened := ?_, followed := ?_, returns := ?_ }
    · exact fun a onPath => follows.walks.opened a (List.mem_cons_of_mem _ onPath)
    · exact fun a found offPath c link => follows.found_of_links all found offPath link
    · intro a isOpen
      obtain ⟨c, onPath, less, path⟩ := follows.walks.returns a isOpen
      rcases List.mem_cons.mp onPath with rfl | isPath
      · -- The way back goes on from the id to `b`, and from there as it did before.
        obtain ⟨d, isPath, fewer, onward⟩ := follows.returns_before walks isBefore
        have lower := follows.number_lt isBefore
        exact ⟨d, isPath, by omega, path.trans (reached.trans onward)⟩
      · exact ⟨c, isPath, less, path⟩

/-- The id does not reach back behind itself, so no edge leads from what was opened since to what
was open before. -/
private theorem stays_inside (own : low = walk.number id) {a b : Nat}
    (member : a ∈ since ++ [id]) (link : g.Links a b) :
    b ∈ since ++ [id] ∨ b ∈ walk.complete.flatten := by
  have isOpen : a ∈ walk.opened := by
    rw [follows.opened_eq]
    exact List.mem_append_left _ member
  have found := follows.found_of_links all (follows.walks.sublist.subset isOpen)
    (follows.not_mem_path walks member) link
  refine (follows.walks.mem_found.mp found).imp_left fun isOpen => ?_
  rw [follows.opened_eq] at isOpen
  refine (List.mem_append.mp isOpen).resolve_right fun isBefore => ?_
  have low_le := follows.low_le_number all member isBefore link
  have lower := follows.number_lt isBefore
  omega

omit all in
/-- What was opened since the id is strongly connected: the way back from each leads to the path,
and the path leads to the id. -/
private theorem connected_since {a b : Nat} (first : a ∈ since ++ [id])
    (second : b ∈ since ++ [id]) : Relation.ReflTransGen g.Links a b := by
  have chained := follows.walks.chained
  rw [follows.opened] at chained
  obtain ⟨_, fromId, across⟩ := List.pairwise_append.mp chained
  have toEach : ∀ c ∈ since ++ [id], Relation.ReflTransGen g.Links id c := by
    intro c member
    rcases List.mem_append.mp member with isSince | isId
    · exact across c isSince id List.mem_cons_self
    · exact List.mem_singleton.mp isId ▸ .refl
  have isOpen : a ∈ walk.opened := by
    rw [follows.opened_eq]
    exact List.mem_append_left _ first
  obtain ⟨c, onPath, _, back⟩ := follows.walks.returns a isOpen
  refine back.trans (Relation.ReflTransGen.trans ?_ (toEach b second))
  rcases List.mem_cons.mp onPath with rfl | isPath
  · exact .refl
  · exact (List.pairwise_cons.mp fromId).1 c (walks.opened c isPath)

private theorem completed_since (own : low = walk.number id) :
    g.Completed (walk.complete ++ [since ++ [id]]) := by
  have apart : ∀ a ∈ walk.complete.flatten, a ∉ since ++ [id] := by
    intro a isComplete member
    have nodup := follows.walks.nodup_parts
    rw [follows.opened_eq] at nodup
    exact (List.nodup_append.mp nodup).2.2 a (List.mem_append_left _ member) a isComplete rfl
  constructor
  case nonempty =>
    intro component member
    rcases List.mem_append.mp member with old | new
    · exact follows.walks.completed.nonempty component old
    · rw [List.mem_singleton.mp new]
      exact List.append_ne_nil_of_right_ne_nil _ (List.cons_ne_nil _ _)
  case connected =>
    intro component member a first b second
    rcases List.mem_append.mp member with old | new
    · exact follows.walks.completed.connected component old a first b second
    · rw [List.mem_singleton.mp new] at first second
      exact follows.connected_since walks first second
  case closed =>
    intro a member b link
    rw [List.flatten_append, List.flatten_singleton, List.mem_append] at member ⊢
    rcases member with old | new
    · exact Or.inl (follows.walks.completed.closed a old b link)
    · exact (follows.stays_inside walks all own new link).symm
  case ordered =>
    refine List.pairwise_append.mpr ⟨follows.walks.completed.ordered,
      List.pairwise_singleton _ _, fun component old last isLast a first b second link => ?_⟩
    rw [List.mem_singleton.mp isLast] at second
    have isComplete := List.mem_flatten.mpr ⟨component, old, first⟩
    exact apart b (follows.walks.completed.closed a isComplete b link) second

omit walks all in
private theorem close_eq : walk.close id =
    { found := walk.found, opened := before.opened,
      complete := walk.complete ++ [since ++ [id]] } := by
  have absent : ∀ a ∈ since, (a != id) = true := by
    intro a isSince
    have nodup := (List.nodup_append.mp follows.nodup_opened).1
    exact bne_iff_ne.mpr ((List.nodup_append.mp nodup).2.2 a isSince id List.mem_cons_self)
  have taken : walk.opened.takeWhile (· != id) = since := by
    rw [follows.opened, List.takeWhile_append_of_pos absent]
    simp
  unfold Walk.close
  rw [taken]
  simp [follows.opened_eq]

/-- The id does not reach back behind itself: its component is complete. -/
theorem complete (own : low = walk.number id) :
    g.Connects path before id (walk.close id) low := by
  rw [follows.close_eq]
  constructor
  case grows => exact (List.suffix_cons id before.found).trans follows.grows
  case found => exact follows.lower_found walks List.mem_cons_self
  case reached => exact follows.reached
  case opened => exact ⟨[], rfl, fun _ impossible => nomatch impossible⟩
  case low_eq => exact Or.inl own
  case walks =>
    constructor
    case nodup => exact follows.walks.nodup
    case bounded => exact follows.walks.bounded
    case sublist =>
      exact walks.sublist.trans
        ((List.suffix_cons id before.found).trans follows.grows).sublist
    case perm =>
      refine List.Perm.trans ?_ follows.walks.perm
      rw [follows.opened_eq, List.flatten_append, List.flatten_singleton]
      grind
    case opened => exact walks.opened
    case followed =>
      exact fun a found offPath b link => follows.found_of_links all found offPath link
    case chained =>
      have chained := follows.walks.chained
      rw [follows.opened_eq] at chained
      exact (List.pairwise_append.mp chained).2.1
    case returns => exact fun a isOpen => follows.returns_before walks isOpen
    case completed => exact follows.completed_since walks all own

end Leaving

/-- Before any edge is followed. -/
theorem start {path : List Nat} {before : Walk} {id : Nat} (walks : g.Walks path before)
    (unknown : id ∉ before.found) (inside : id < g.order)
    (leads : ∀ a ∈ path, Relation.ReflTransGen g.Links a id) :
    g.Follows path before id [] (before.enter id) ((before.enter id).number id) [] where
  walks := walks.enter unknown inside leads
  grows := List.suffix_rfl
  reached := fun a found isNew => by
    rw [(List.mem_cons.mp found).resolve_right isNew]
  followed := fun _ impossible => nomatch impossible
  opened := rfl
  low_le_since := fun _ impossible => nomatch impossible
  low_le_done := fun _ impossible => nomatch impossible
  low_eq := ⟨id, List.mem_cons_self, rfl, .refl⟩

/-- Following all edges, when what walks from the ids that are not found yet does as it should. -/
theorem foldl {path : List Nat} {before : Walk} {id : Nat} (walks : g.Walks path before)
    (connect : Walk → Nat → Walk × Nat)
    (connects : ∀ walk next, g.Walks (id :: path) walk →
      (before.enter id).found <:+ walk.found → g.Links id next → next ∉ walk.found →
      g.Connects (id :: path) walk next (connect walk next).1 (connect walk next).2) :
    ∀ (edges done since : List Nat) (walk : Walk) (low : Nat), (∀ b ∈ edges, g.Links id b) →
      g.Follows path before id done walk low since →
      ∃ since, g.Follows path before id (done ++ edges)
        (edges.foldl (Walk.follow connect) (walk, low)).1
        (edges.foldl (Walk.follow connect) (walk, low)).2 since := by
  intro edges
  induction edges with
  | nil =>
      intro done since walk low _ follows
      rw [List.append_nil]
      exact ⟨since, follows⟩
  | cons next edges inductionHypothesis =>
      intro done since walk low links follows
      have link := links next List.mem_cons_self
      have more := fun b member => links b (List.mem_cons_of_mem next member)
      have step : ∃ since, g.Follows path before id (done ++ [next])
          (Walk.follow connect (walk, low) next).1 (Walk.follow connect (walk, low) next).2
          since := by
        by_cases found : next ∈ walk.found
        · rw [Walk.follow_of_mem found]
          exact ⟨since, follows.known link found⟩
        · rw [Walk.follow_of_notMem found]
          exact follows.connected walks link found
            (connects walk next follows.walks follows.grows link found)
      obtain ⟨_, stepped⟩ := step
      rw [List.foldl_cons, ← List.singleton_append, ← List.append_assoc]
      exact inductionHypothesis _ _ _ _ more stepped

end Follows

/-! ### Whole walks -/

/-- A walk from an id does what it should as long as its depth suffices for the ids that were not
found before. -/
theorem connects_connect (isNumbered : g.IsNumbered) : ∀ (depth : Nat) (path : List Nat)
    (before : Walk) (id : Nat), g.Walks path before → id ∉ before.found → id < g.order →
    (∀ a ∈ path, Relation.ReflTransGen g.Links a id) →
    g.order ≤ depth + before.found.length →
    g.Connects path before id (g.connect depth before id).1 (g.connect depth before id).2 := by
  intro depth
  induction depth with
  | zero =>
      intro path before id walks unknown inside _ enough
      -- All ids were found, so this one is none.
      have fewer := length_le_order (List.nodup_cons.mpr ⟨unknown, walks.nodup⟩)
        (List.forall_mem_cons.mpr ⟨inside, walks.bounded⟩)
      rw [List.length_cons] at fewer
      omega
  | succ depth inductionHypothesis =>
      intro path before id walks unknown inside leads enough
      have started := Follows.start walks unknown inside leads
      obtain ⟨since, follows⟩ := Follows.foldl walks (g.connect depth)
        (fun walk next walksOn grows link isNew => by
          -- The id was found when it was entered, so one depth less suffices for the others.
          refine inductionHypothesis _ _ _ walksOn isNew (isNumbered.bounded link) ?_ ?_
          · intro a onPath
            rcases List.mem_cons.mp onPath with rfl | isPath
            · exact .single link
            · exact (leads a isPath).tail link
          · have longer := grows.length_le
            rw [show (before.enter id).found.length = before.found.length + 1 from rfl] at longer
            omega)
        (g.successors id) [] [] _ _ (fun _ link => link) started
      rw [List.nil_append] at follows
      unfold connect
      dsimp only
      split
      case isTrue own =>
        exact follows.complete walks (fun _ link => link) (beq_iff_eq.mp own)
      case isFalse back =>
        exact follows.stay walks (fun _ link => link) fun own => back (beq_iff_eq.mpr own)

end Tabulation.Digraph
