/-
Groups as relations between keys and values.

Groups hold a relation if every key that has values is there once, with each of its values once.
Putting a value in adds a pair to the relation, and the relation determines all counts.
-/

import Mathlib.Data.List.Nodup
import Mathlib.Data.List.Perm.Basic
import Tabulation.Solver.Ledger

namespace Tabulation.Groups

variable {K V : Type}

theorem length_keys (groups : Groups K V) : groups.keys.length = groups.length :=
  List.length_map _

theorem map_snd_pairs (groups : Groups K V) : groups.pairs.map Prod.snd = groups.flatMap (·.2) := by
  unfold pairs
  rw [List.map_flatMap]
  simp only [List.map_map, Function.comp_def, List.map_id']

private theorem pairs_cons (first : K) (values : List V) (rest : Groups K V) :
    Groups.pairs ((first, values) :: rest) = values.map (first, ·) ++ rest.pairs :=
  List.flatMap_cons

theorem length_pairs (groups : Groups K V) : groups.pairs.length = groups.size := by
  induction groups with
  | nil => rfl
  | cons group rest inductionHypothesis =>
      rw [pairs_cons, List.length_append, List.length_map, inductionHypothesis]
      rfl

theorem mem_keys_flatMap {ι : Type} {items : List ι} {groups : ι → Groups K V} (key : K) :
    key ∈ Groups.keys (items.flatMap groups) ↔ ∃ item ∈ items, key ∈ (groups item).keys := by
  unfold keys
  rw [List.map_flatMap, List.mem_flatMap]

theorem mem_pairs_flatMap {ι : Type} {items : List ι} {groups : ι → Groups K V}
    (pair : K × V) :
    pair ∈ Groups.pairs (items.flatMap groups) ↔ ∃ item ∈ items, pair ∈ (groups item).pairs := by
  unfold pairs
  rw [List.flatMap_assoc, List.mem_flatMap]

variable [DecidableEq K]

theorem values_cons (other key : K) (values : List V) (rest : Groups K V) :
    Groups.values ((other, values) :: rest) key =
      if key = other then values else rest.values key := by
  unfold Groups.values
  rw [List.lookup_cons]
  by_cases same : key = other
  · simp [same]
  · simp [same, beq_eq_false_iff_ne.mpr same]

theorem values_push (groups : Groups K V) (key other : K) (value : V) :
    (groups.push key value).values other =
      if other = key then groups.values key ++ [value] else groups.values other := by
  induction groups with
  | nil =>
      rw [push, values_cons]
      rfl
  | cons group rest inductionHypothesis =>
      obtain ⟨first, values⟩ := group
      by_cases here : first = key
      · subst here
        rw [push, if_pos rfl, values_cons, values_cons, values_cons, if_pos rfl]
        by_cases same : other = first
        · rw [if_pos same, if_pos same]
        · rw [if_neg same, if_neg same, if_neg same]
      · rw [push, if_neg here, values_cons, inductionHypothesis, values_cons, values_cons,
          if_neg (Ne.symm here)]
        by_cases same : other = first
        · subst same
          rw [if_pos rfl, if_neg here, if_pos rfl]
        · rw [if_neg same, if_neg same]

/-- Under a key are the values of the items that were pushed there, in their order. -/
theorem values_foldl_push {α : Type} (key : α → K) (value : α → V) (items : List α)
    (groups : Groups K V) (other : K) :
    (items.foldl (fun groups item => groups.push (key item) (value item)) groups).values other =
      groups.values other ++ (items.filter fun item => key item == other).map value := by
  induction items generalizing groups with
  | nil => exact (List.append_nil _).symm
  | cons item rest inductionHypothesis =>
      rw [List.foldl_cons, inductionHypothesis, values_push]
      by_cases same : key item = other
      · rw [if_pos same.symm, List.filter_cons, if_pos (beq_iff_eq.mpr same), List.map_cons, same,
          List.append_assoc, List.singleton_append]
      · rw [if_neg (Ne.symm same), List.filter_cons, if_neg (mt beq_iff_eq.mp same)]

theorem keys_push (groups : Groups K V) (key : K) (value : V) :
    (groups.push key value).keys =
      if key ∈ groups.keys then groups.keys else groups.keys ++ [key] := by
  induction groups with
  | nil => rfl
  | cons group rest inductionHypothesis =>
      obtain ⟨first, values⟩ := group
      unfold keys at inductionHypothesis ⊢
      by_cases here : first = key
      · subst here
        simp [push]
      · simp only [push, if_neg here, List.map_cons, inductionHypothesis, List.mem_cons,
          Ne.symm here, false_or]
        split <;> simp

theorem values_eq_nil {groups : Groups K V} {key : K} (absent : key ∉ groups.keys) :
    groups.values key = [] := by
  induction groups with
  | nil => rfl
  | cons group rest inductionHypothesis =>
      obtain ⟨first, values⟩ := group
      unfold keys at absent inductionHypothesis
      rw [List.map_cons, List.mem_cons, not_or] at absent
      rw [values_cons, if_neg absent.1]
      exact inductionHypothesis absent.2

theorem mem_pairs {groups : Groups K V} (nodup : groups.keys.Nodup) (key : K) (value : V) :
    (key, value) ∈ groups.pairs ↔ value ∈ groups.values key := by
  induction groups with
  | nil => simp [pairs, values]
  | cons group rest inductionHypothesis =>
      obtain ⟨first, values⟩ := group
      obtain ⟨absent, distinct⟩ := List.nodup_cons.mp nodup
      rw [pairs_cons, List.mem_append, inductionHypothesis distinct, values_cons, List.mem_map]
      by_cases here : key = first
      · subst here
        rw [values_eq_nil absent]
        simp
      · simp [here, Ne.symm here]

/-- What is found under a key is there with its key, even where a key comes again. -/
theorem mem_pairs_of_mem_values {groups : Groups K V} {key : K} {value : V}
    (member : value ∈ groups.values key) : (key, value) ∈ groups.pairs := by
  induction groups with
  | nil => exact absurd member List.not_mem_nil
  | cons group rest inductionHypothesis =>
      obtain ⟨first, values⟩ := group
      rw [values_cons] at member
      rw [pairs_cons]
      split at member
      next same => exact List.mem_append_left _ (List.mem_map.mpr ⟨value, member, same ▸ rfl⟩)
      next other => exact List.mem_append_right _ (inductionHypothesis member)

theorem nodup_pairs {groups : Groups K V} (nodup : groups.keys.Nodup)
    (each : ∀ key, (groups.values key).Nodup) : groups.pairs.Nodup := by
  induction groups with
  | nil => exact List.nodup_nil
  | cons group rest inductionHypothesis =>
      obtain ⟨first, values⟩ := group
      obtain ⟨absent, distinct⟩ := List.nodup_cons.mp nodup
      have here := each first
      rw [values_cons, if_pos rfl] at here
      have later : (Groups.pairs rest).Nodup := by
        refine inductionHypothesis distinct fun key => ?_
        by_cases same : key = first
        · subst same
          rw [values_eq_nil absent]
          exact List.nodup_nil
        · have known := each key
          rwa [values_cons, if_neg same] at known
      rw [pairs_cons, List.nodup_append]
      refine ⟨here.map fun left right same => congrArg Prod.snd same, later, ?_⟩
      rintro pair own _ behind rfl
      obtain ⟨value, _, rfl⟩ := List.mem_map.mp own
      have member := (mem_pairs distinct first value).mp behind
      rw [values_eq_nil absent] at member
      cases member

theorem add_of_mem [DecidableEq V] {groups : Groups K V} {key : K} {value : V}
    (present : value ∈ groups.values key) : groups.add key value = groups :=
  if_pos (List.contains_iff_mem.mpr present)

theorem keys_withKey (groups : Groups K V) (key : K) :
    (groups.withKey key).keys =
      if key ∈ groups.keys then groups.keys else groups.keys ++ [key] := by
  unfold withKey
  by_cases present : key ∈ groups.keys
  · rw [if_pos (List.contains_iff_mem.mpr present), if_pos present]
  · rw [if_neg fun found => present (List.contains_iff_mem.mp found), if_neg present]
    exact List.map_append

/-- Without values a key is as good as unknown. -/
private theorem values_append_nil (groups : Groups K V) (key other : K) :
    Groups.values (groups ++ [(key, [])]) other = groups.values other := by
  induction groups with
  | nil => exact (values_cons key other [] []).trans (ite_self _)
  | cons group rest inductionHypothesis =>
      rw [List.cons_append, values_cons, values_cons, inductionHypothesis]

theorem values_withKey (groups : Groups K V) (key other : K) :
    (groups.withKey key).values other = groups.values other := by
  unfold withKey
  split
  · rfl
  · exact values_append_nil groups key other

private theorem nodup_append_singleton {α : Type} {items : List α} {item : α} (nodup : items.Nodup)
    (absent : item ∉ items) : (items ++ [item]).Nodup := by
  rw [← List.concat_eq_append]
  exact (List.nodup_concat items item).mpr ⟨absent, nodup⟩

/-- The keys of groups are the known ones, each once, and the values of a key are those related to
it, each once. -/
structure Lists (groups : Groups K V) (known : K → Prop) (related : K → V → Prop) : Prop where
  keysNodup : groups.keys.Nodup
  mem_keys : ∀ key, key ∈ groups.keys ↔ known key
  valuesNodup : ∀ key, (groups.values key).Nodup
  mem_values : ∀ key value, value ∈ groups.values key ↔ related key value

/-- The keys of groups are those with values, each once, and the values of a key are those related
to it, each once. -/
structure Holds (groups : Groups K V) (related : K → V → Prop) : Prop where
  keysNodup : groups.keys.Nodup
  mem_keys : ∀ key, key ∈ groups.keys ↔ ∃ value, related key value
  valuesNodup : ∀ key, (groups.values key).Nodup
  mem_values : ∀ key value, value ∈ groups.values key ↔ related key value

theorem Holds.lists {groups : Groups K V} {related : K → V → Prop} (holds : groups.Holds related) :
    groups.Lists (fun key => ∃ value, related key value) related :=
  { holds with }

/-! ### Putting values in -/

namespace Lists

variable {groups : Groups K V} {known : K → Prop} {related : K → V → Prop}

theorem empty : Groups.Lists ([] : Groups K V) (fun _ => False) fun _ _ => False where
  keysNodup := List.nodup_nil
  mem_keys := fun _ => List.mem_nil_iff _
  valuesNodup := fun _ => List.nodup_nil
  mem_values := fun _ _ => List.mem_nil_iff _

theorem congr (lists : groups.Lists known related) {among : K → Prop} {other : K → V → Prop}
    (sameKeys : ∀ key, known key ↔ among key)
    (same : ∀ key value, related key value ↔ other key value) : groups.Lists among other where
  keysNodup := lists.keysNodup
  mem_keys := fun key => (lists.mem_keys key).trans (sameKeys key)
  valuesNodup := lists.valuesNodup
  mem_values := fun key value => (lists.mem_values key value).trans (same key value)

theorem holds (lists : groups.Lists known related)
    (used : ∀ key, known key ↔ ∃ value, related key value) : groups.Holds related :=
  { lists with mem_keys := fun key => (lists.mem_keys key).trans (used key) }

theorem known_of_related (lists : groups.Lists known related) {key : K} {value : V}
    (isRelated : related key value) : known key := by
  rw [← lists.mem_keys]
  by_contra absent
  have member := (lists.mem_values key value).mpr isRelated
  rw [values_eq_nil absent] at member
  cases member

theorem mem_pairs (lists : groups.Lists known related) (key : K) (value : V) :
    (key, value) ∈ groups.pairs ↔ related key value :=
  (Groups.mem_pairs lists.keysNodup key value).trans (lists.mem_values key value)

theorem push (lists : groups.Lists known related) {key : K} {value : V}
    (new : ¬related key value) :
    (groups.push key value).Lists (fun other => known other ∨ other = key)
      fun other item => related other item ∨ (other = key ∧ item = value) where
  keysNodup := by
    rw [keys_push]
    split
    · exact lists.keysNodup
    next absent => exact nodup_append_singleton lists.keysNodup absent
  mem_keys := fun other => by
    rw [keys_push, ← lists.mem_keys]
    split
    next present => exact ⟨.inl, fun either => either.elim id fun same => same ▸ present⟩
    next => rw [List.mem_append, List.mem_singleton]
  valuesNodup := fun other => by
    rw [values_push]
    split
    · exact nodup_append_singleton (lists.valuesNodup key) fun present =>
        new ((lists.mem_values key value).mp present)
    · exact lists.valuesNodup other
  mem_values := fun other item => by
    rw [values_push]
    split
    next same =>
      subst same
      rw [List.mem_append, List.mem_singleton, lists.mem_values]
      simp
    next different =>
      rw [lists.mem_values]
      simp [different]

theorem add [DecidableEq V] (lists : groups.Lists known related) (key : K) (value : V) :
    (groups.add key value).Lists (fun other => known other ∨ other = key)
      fun other item => related other item ∨ (other = key ∧ item = value) := by
  by_cases present : value ∈ groups.values key
  · have isRelated := (lists.mem_values key value).mp present
    rw [add_of_mem present]
    refine lists.congr (fun other => ⟨.inl, ?_⟩) fun other item => ⟨.inl, ?_⟩
    · rintro (old | rfl)
      · exact old
      · exact lists.known_of_related isRelated
    · rintro (old | ⟨rfl, rfl⟩)
      · exact old
      · exact isRelated
  · rw [Groups.add, if_neg fun found => present (List.contains_iff_mem.mp found)]
    exact lists.push fun old => present ((lists.mem_values key value).mpr old)

theorem withKey (lists : groups.Lists known related) (key : K) :
    (groups.withKey key).Lists (fun other => known other ∨ other = key) related where
  keysNodup := by
    rw [keys_withKey]
    split
    · exact lists.keysNodup
    next absent => exact nodup_append_singleton lists.keysNodup absent
  mem_keys := fun other => by
    rw [keys_withKey, ← lists.mem_keys]
    split
    next present => exact ⟨.inl, fun either => either.elim id fun same => same ▸ present⟩
    next => rw [List.mem_append, List.mem_singleton]
  valuesNodup := fun other => by
    rw [values_withKey]
    exact lists.valuesNodup other
  mem_values := fun other item => by
    rw [values_withKey]
    exact lists.mem_values other item

theorem addAll [DecidableEq V] (lists : groups.Lists known related) (group : K × List V) :
    (groups.addAll group).Lists (fun key => known key ∨ key = group.1)
      fun key value => related key value ∨ (key = group.1 ∧ value ∈ group.2) := by
  obtain ⟨key, values⟩ := group
  have added : ∀ (values : List V) (groups : Groups K V) (related : K → V → Prop),
      groups.Lists (fun other => known other ∨ other = key) related →
      (values.foldl (fun groups value => groups.add key value) groups).Lists
        (fun other => known other ∨ other = key)
        fun other item => related other item ∨ (other = key ∧ item ∈ values) := by
    intro values
    induction values with
    | nil => exact fun groups related lists => lists.congr (fun _ => Iff.rfl) fun _ _ => by simp
    | cons value rest inductionHypothesis =>
        intro groups related lists
        rw [List.foldl_cons]
        refine (inductionHypothesis _ _ ((lists.add key value).congr ?_ fun _ _ => Iff.rfl)).congr
          (fun _ => Iff.rfl) fun other item => ?_
        · exact fun other => or_iff_left_of_imp .inr
        · rw [List.mem_cons, or_assoc, ← and_or_left]
  exact added values _ _ (lists.withKey key)

/-- All groups of several parts, put into others. -/
theorem foldl_addAll [DecidableEq V] (lists : groups.Lists known related) (parts : Groups K V) :
    Groups.Lists (parts.foldl Groups.addAll groups) (fun key => known key ∨ key ∈ parts.keys)
      fun key value => related key value ∨ (key, value) ∈ parts.pairs := by
  induction parts generalizing groups known related with
  | nil => exact lists.congr (fun key => by simp [keys]) fun key value => by simp [pairs]
  | cons part rest inductionHypothesis =>
      obtain ⟨first, values⟩ := part
      rw [List.foldl_cons]
      refine (inductionHypothesis (lists.addAll (first, values))).congr (fun key => ?_)
        fun key value => ?_
      · simp only [keys, List.map_cons, List.mem_cons, or_assoc]
      · rw [pairs_cons, List.mem_append, List.mem_map, or_assoc]
        refine or_congr Iff.rfl (or_congr ?_ Iff.rfl)
        constructor
        · rintro ⟨rfl, member⟩
          exact ⟨value, member, rfl⟩
        · rintro ⟨item, member, same⟩
          cases same
          exact ⟨rfl, member⟩

end Lists

namespace Holds

theorem empty : Groups.Holds ([] : Groups K V) fun _ _ => False where
  keysNodup := List.nodup_nil
  mem_keys := fun key => by simp [keys]
  valuesNodup := fun _ => List.nodup_nil
  mem_values := fun _ _ => List.mem_nil_iff _

variable {groups : Groups K V} {related other : K → V → Prop}

theorem congr (holds : groups.Holds related)
    (same : ∀ key value, related key value ↔ other key value) : groups.Holds other where
  keysNodup := holds.keysNodup
  mem_keys := fun key => (holds.mem_keys key).trans (exists_congr (same key))
  valuesNodup := holds.valuesNodup
  mem_values := fun key value => (holds.mem_values key value).trans (same key value)

omit [DecidableEq K] in
private theorem known_or_eq_iff {key : K} {value : V} (other : K) :
    ((∃ item, related other item) ∨ other = key) ↔
      ∃ item, related other item ∨ (other = key ∧ item = value) := by
  rw [exists_or]
  exact or_congr Iff.rfl ⟨fun same => ⟨value, same, rfl⟩, fun ⟨_, same, _⟩ => same⟩

theorem push (holds : groups.Holds related) {key : K} {value : V} (new : ¬related key value) :
    (groups.push key value).Holds fun other item =>
      related other item ∨ (other = key ∧ item = value) :=
  (holds.lists.push new).holds known_or_eq_iff

theorem add [DecidableEq V] (holds : groups.Holds related) (key : K) (value : V) :
    (groups.add key value).Holds fun other item =>
      related other item ∨ (other = key ∧ item = value) :=
  (holds.lists.add key value).holds known_or_eq_iff

theorem foldl_push (holds : groups.Holds related) {pairs : List (K × V)} (nodup : pairs.Nodup)
    (new : ∀ pair ∈ pairs, ¬related pair.1 pair.2) :
    (pairs.foldl (fun groups pair => groups.push pair.1 pair.2) groups).Holds
      fun key value => related key value ∨ (key, value) ∈ pairs := by
  induction pairs generalizing groups related with
  | nil => exact holds.congr fun key value => by simp
  | cons pair rest inductionHypothesis =>
      obtain ⟨absent, distinct⟩ := List.nodup_cons.mp nodup
      rw [List.foldl_cons]
      have pushed := holds.push (new pair List.mem_cons_self)
      refine (inductionHypothesis pushed distinct ?_).congr fun key value => ?_
      · rintro other member (known | ⟨sameKey, sameValue⟩)
        · exact new other (List.mem_cons_of_mem pair member) known
        · exact absent (Prod.ext sameKey sameValue ▸ member)
      · rw [List.mem_cons, or_assoc, Prod.ext_iff]

theorem foldl_add [DecidableEq V] (holds : groups.Holds related) (pairs : List (K × V)) :
    (pairs.foldl (fun groups pair => groups.add pair.1 pair.2) groups).Holds
      fun key value => related key value ∨ (key, value) ∈ pairs := by
  induction pairs generalizing groups related with
  | nil => exact holds.congr fun key value => by simp
  | cons pair rest inductionHypothesis =>
      rw [List.foldl_cons]
      refine (inductionHypothesis (holds.add pair.1 pair.2)).congr fun key value => ?_
      rw [List.mem_cons, or_assoc, Prod.ext_iff]

/-! ### Counting -/

theorem mem_pairs (holds : groups.Holds related) (key : K) (value : V) :
    (key, value) ∈ groups.pairs ↔ related key value :=
  holds.lists.mem_pairs key value

theorem mem_flatMap (holds : groups.Holds related) (value : V) :
    value ∈ groups.flatMap (·.2) ↔ ∃ key, related key value := by
  rw [← map_snd_pairs, List.mem_map]
  constructor
  · rintro ⟨⟨key, item⟩, member, rfl⟩
    exact ⟨key, (holds.mem_pairs key item).mp member⟩
  · rintro ⟨key, known⟩
    exact ⟨(key, value), (holds.mem_pairs key value).mpr known, rfl⟩

theorem nodup_pairs (holds : groups.Holds related) : groups.pairs.Nodup :=
  Groups.nodup_pairs holds.keysNodup holds.valuesNodup

/-- The values under a key are what a search through all items for the key finds. -/
theorem perm_filter (holds : groups.Holds related) {α : Type} {items : List α} (nodup : items.Nodup)
    {keyOf : α → K} {valueOf : α → V}
    (injective : Function.Injective fun item => (keyOf item, valueOf item))
    (members : ∀ key value,
      related key value ↔ ∃ item ∈ items, (keyOf item, valueOf item) = (key, value)) (key : K) :
    (groups.values key).Perm ((items.filter fun item => keyOf item == key).map valueOf) := by
  have distinct : ((items.filter fun item => keyOf item == key).map valueOf).Nodup := by
    refine List.Nodup.map_on ?_ (nodup.filter _)
    intro left leftMember right rightMember same
    have leftHere := beq_iff_eq.mp (List.mem_filter.mp leftMember).2
    have rightHere := beq_iff_eq.mp (List.mem_filter.mp rightMember).2
    exact injective (Prod.ext (leftHere.trans rightHere.symm) same)
  refine (List.perm_ext_iff_of_nodup (holds.valuesNodup key) distinct).mpr fun value => ?_
  rw [holds.mem_values, members, List.mem_map]
  refine exists_congr fun item => ?_
  rw [List.mem_filter, beq_iff_eq, Prod.mk.injEq, and_assoc]

/-- Values that determine their key stand under it as a search through all values finds them. -/
theorem perm_filter_self {keyOf : V → K} {found : V → Prop}
    (holds : groups.Holds fun key value => keyOf value = key ∧ found value) {items : List V}
    (nodup : items.Nodup) (members : ∀ value, value ∈ items ↔ found value) (key : K) :
    (groups.values key).Perm (items.filter fun value => keyOf value == key) := by
  refine (List.perm_ext_iff_of_nodup (holds.valuesNodup key) (nodup.filter _)).mpr fun value => ?_
  rw [holds.mem_values, List.mem_filter, members, beq_iff_eq, and_comm]

/-- There are as many keys as there are things with values. -/
theorem length_eq (holds : groups.Holds related) {keys : List K} (nodup : keys.Nodup)
    (members : ∀ key, key ∈ keys ↔ ∃ value, related key value) : groups.length = keys.length := by
  rw [← length_keys]
  exact ((List.perm_ext_iff_of_nodup holds.keysNodup nodup).mpr fun key =>
    (holds.mem_keys key).trans (members key).symm).length_eq

/-- There are as many values as there are pairs in the relation. -/
theorem size_eq (holds : groups.Holds related) {α : Type} {items : List α} (pair : α → K × V)
    (nodup : (items.map pair).Nodup)
    (members : ∀ key value, (key, value) ∈ items.map pair ↔ related key value) :
    groups.size = items.length := by
  rw [← length_pairs, ← List.length_map (f := pair)]
  exact ((List.perm_ext_iff_of_nodup holds.nodup_pairs nodup).mpr fun item =>
    (holds.mem_pairs item.1 item.2).trans (members item.1 item.2).symm).length_eq

/-- No key is without values. -/
theorem length_le_size (holds : groups.Holds related) : groups.length ≤ groups.size := by
  rw [← length_keys, ← length_pairs, ← List.length_map (f := Prod.fst)]
  refine (List.subperm_of_subset holds.keysNodup fun key member => ?_).length_le
  obtain ⟨value, known⟩ := (holds.mem_keys key).mp member
  exact List.mem_map.mpr ⟨(key, value), (holds.mem_pairs key value).mpr known, rfl⟩

end Holds

end Tabulation.Groups
