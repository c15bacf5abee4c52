/-
Reading back what was written.

A reader takes a written value from whatever bytes start with it and leaves the rest.  This law is
kept when readers run one after the other, so that it holds of lists and records if it holds of what
is in them.
-/

import Mathlib.Data.List.Nodup
import Tabulation.Proofs.TextOrder
import Tabulation.Report.Packed

namespace Tabulation.Packed

open Tabulation.Text (Bytes)

variable {α β : Type}

/-- A reader takes a value from the front of any bytes that start with the given ones. -/
def Reads (read : Read α) (bytes : Bytes) (value : α) : Prop :=
  ∀ rest, read (bytes ++ rest) = some (value, rest)

namespace Reads

theorem pure (value : α) : Reads (Pure.pure value) [] value := fun _ => rfl

theorem bind {read : Read α} {next : α → Read β} {front back : Bytes} {first : α} {second : β}
    (begins : Reads read front first) (goesOn : Reads (next first) back second) :
    Reads (read >>= next) (front ++ back) second := by
  intro rest
  rw [List.append_assoc]
  exact (congrArg (Option.bind · _) (begins (back ++ rest))).trans (goesOn rest)

theorem map {read : Read α} {bytes : Bytes} {value : α} (reads : Reads read bytes value)
    (f : α → β) : Reads (f <$> read) bytes (f value) := fun rest =>
  congrArg (Option.bind · _) (reads rest)

/-- A value that starts with a code. -/
theorem code {next : Nat → Read α} (b : UInt8) {bytes : Bytes} {value : α}
    (goesOn : Reads (next b.toNat) bytes value) : Reads (Packed.code >>= next) (b :: bytes) value :=
  goesOn

theorem take (bytes : Bytes) : Reads (Packed.take bytes.length) bytes bytes := by
  intro rest
  unfold Packed.take
  simp

/-! ### Numbers -/

private theorem length_bigEndian (width n : Nat) : (bigEndian width n).length = width := by
  induction width generalizing n with
  | zero => rfl
  | succ width inductionHypothesis =>
      rw [bigEndian, List.length_append, inductionHypothesis]
      rfl

private theorem foldl_bigEndian {width n : Nat} (bound : n < Nat.pow 256 width) :
    (bigEndian width n).foldl (fun n b => n * 256 + b.toNat) 0 = n := by
  induction width generalizing n with
  | zero => exact (Nat.lt_one_iff.mp bound).symm
  | succ width inductionHypothesis =>
      have high : n / 256 < Nat.pow 256 width := by
        rw [Nat.div_lt_iff_lt_mul (by decide)]
        exact bound
      have low : n.toUInt8.toNat = n % 256 := rfl
      rw [bigEndian, List.foldl_append, inductionHypothesis high, List.foldl_cons, List.foldl_nil,
        low, Nat.div_add_mod']

theorem readNat {width n : Nat} (bound : n < Nat.pow 256 width) :
    Reads (Packed.readNat width) (bigEndian width n) n := by
  have number := (Reads.take (bigEndian width n)).map
    fun bytes => bytes.foldl (fun n b => n * 256 + b.toNat) 0
  rw [length_bigEndian, foldl_bigEndian bound] at number
  exact number

/-- A number that stands for a signed one. -/
theorem readSigned {width m : Nat} {n : Int} (bound : m < Nat.pow 256 width)
    (same : Int.bmod m (Nat.pow 256 width) = n) :
    Reads (Packed.readSigned width) (bigEndian width m) n := by
  have number := (readNat bound).map fun m => Int.bmod m (Nat.pow 256 width)
  rwa [same] at number

/-- A negative number, moved above the others. -/
private theorem readBelow {width size : Nat} (all : Nat.pow 256 width = size) {n : Int}
    (negative : n < 0) (low : -size ≤ n * 2) :
    Reads (Packed.readSigned width) (bigEndian width (n + Nat.pow 256 width).toNat) n := by
  have positive : 0 ≤ n + Nat.pow 256 width := by omega
  refine readSigned (by omega) ?_
  rw [Int.toNat_of_nonneg positive, Int.add_bmod_right]
  exact Int.bmod_eq_of_le_mul_two (by omega) (by omega)

private theorem toNat_toUInt8 {n : Nat} (small : n < 256) : n.toUInt8.toNat = n :=
  Nat.mod_eq_of_lt small

private theorem readInt_short {b : UInt8} (short : b.toNat ≤ 0x7f) :
    Reads readInt [b] b.toNat := by
  refine code b ?_
  rw [if_pos (Nat.ble_eq.mpr short)]
  exact pure (b.toNat : Int)

private theorem readInt_shortNegative {b : UInt8} (high : 0xe0 ≤ b.toNat) :
    Reads readInt [b] (b.toNat - 256) := by
  refine code b ?_
  rw [if_neg (by rw [Nat.ble_eq]; omega), if_pos (Nat.ble_eq.mpr high)]
  exact pure (b.toNat - 256 : Int)

private theorem readInt_ofNat {m : Nat} (bound : m < 0x8000000000000000) :
    Reads readInt (int m) m := by
  have natural : (0 : Int) ≤ m := Int.natCast_nonneg m
  unfold int
  rw [if_pos natural, Int.toNat_natCast]
  simp only [Nat.blt_eq]
  split_ifs with oneByte small twoBytes fourBytes
  · have same : m.toUInt8.toNat = m := toNat_toUInt8 (by omega)
    have short := readInt_short (b := m.toUInt8) (by omega)
    rwa [same] at short
  · exact code 0xcc ((readNat small).map Int.ofNat)
  · exact code 0xcd ((readNat twoBytes).map Int.ofNat)
  · exact code 0xce ((readNat fourBytes).map Int.ofNat)
  · have all : Nat.pow 256 8 = 0x10000000000000000 := rfl
    refine code 0xcf (readSigned (by omega) ?_)
    exact Int.bmod_eq_of_le_mul_two (by omega) (by omega)

private theorem readInt_negative {n : Int} (negative : n < 0) (low : -0x8000000000000000 ≤ n) :
    Reads readInt (int n) n := by
  unfold int
  rw [if_neg (Int.not_le.mpr negative)]
  split_ifs with oneByte small twoBytes fourBytes
  · have same : (n + 256).toNat.toUInt8.toNat = (n + 256).toNat := toNat_toUInt8 (by omega)
    have short := readInt_shortNegative (b := (n + 256).toNat.toUInt8) (by omega)
    rwa [same, show ((n + 256).toNat : Int) - 256 = n by omega] at short
  · exact code 0xd0 (readBelow (by rfl : Nat.pow 256 1 = 0x100) negative (by omega))
  · exact code 0xd1 (readBelow (by rfl : Nat.pow 256 2 = 0x10000) negative (by omega))
  · exact code 0xd2 (readBelow (by rfl : Nat.pow 256 4 = 0x100000000) negative (by omega))
  · exact code 0xd3 (readBelow (by rfl : Nat.pow 256 8 = 0x10000000000000000) negative (by omega))

/-- An integer of 64 bits. -/
theorem int {n : Int} (low : -0x8000000000000000 ≤ n) (high : n < 0x8000000000000000) :
    Reads readInt (int n) n := by
  by_cases negative : n < 0
  · exact readInt_negative negative low
  · obtain ⟨m, rfl⟩ := Int.eq_ofNat_of_zero_le (Int.not_lt.mp negative)
    exact readInt_ofNat (by omega)

/-! ### Texts and lists -/

private theorem toNat_add (start : UInt8) {n : Nat} (small : start.toNat + n < 256) :
    (start + n.toUInt8).toNat = start.toNat + n := by
  rw [UInt8.toNat_add, toNat_toUInt8 (by omega)]
  exact Nat.mod_eq_of_lt small

private theorem between_of {low high n : Nat} (least : low ≤ n) (most : n ≤ high) :
    between low high n = true := by
  simp [between, least, most]

theorem text {bytes : Bytes} (bound : bytes.length < 0x100000000) :
    Reads readText (text bytes) bytes := by
  -- whatever form the length has, the text follows
  have content {b : UInt8} {more : Bytes}
      (length : Reads (textLength b.toNat) more (some bytes.length)) :
      Reads readText ((b :: more) ++ bytes) bytes := by
    refine code b (length.bind ?_)
    exact take bytes
  unfold Packed.text
  simp only [Nat.blt_eq]
  split_ifs with short small twoBytes
  · refine content ?_
    have same : ((0xa0 : UInt8) + bytes.length.toUInt8).toNat = 0xa0 + bytes.length :=
      toNat_add 0xa0 (by change 0xa0 + bytes.length < 256; omega)
    unfold textLength
    rw [same, if_pos (between_of (by omega) (by omega)), Nat.add_sub_cancel_left]
    exact pure (some bytes.length)
  · exact content (b := 0xd9) ((readNat small).map some)
  · exact content (b := 0xda) ((readNat twoBytes).map some)
  · exact content (b := 0xdb) ((readNat bound).map some)

/-- The length of a list, if it has four bytes at most. -/
theorem listHeader {n : Nat} (bound : n < 0x100000000) :
    Reads readListLength (listHeader n) (some n) := by
  unfold Packed.listHeader
  simp only [Nat.blt_eq]
  split_ifs with short twoBytes
  · refine code _ ?_
    have same : ((0x90 : UInt8) + n.toUInt8).toNat = 0x90 + n :=
      toNat_add 0x90 (by change 0x90 + n < 256; omega)
    unfold listLength?
    rw [same, if_neg (by rw [beq_iff_eq]; omega), if_pos (between_of (by omega) (by omega)),
      Nat.add_sub_cancel_left]
    exact (pure n).map some
  · exact code 0xdc ((readNat twoBytes).map some)
  · exact code 0xdd ((readNat bound).map some)

/-- Items that are read where no items were before. -/
theorem items {item : α → Read α} {fresh : α} {write : β → Bytes} {value : β → α}
    {values : List β} (each : ∀ one ∈ values, Reads (item fresh) (write one) (value one)) :
    Reads (readItems item fresh values.length []) (values.flatMap write) (values.map value) := by
  induction values with
  | nil => exact pure []
  | cons first rest inductionHypothesis =>
      have later := inductionHypothesis fun one member =>
        each one (List.mem_cons_of_mem first member)
      exact (each first List.mem_cons_self).bind (later.map (value first :: ·))

/-- A list of texts that may be absent. -/
theorem texts {list : Option (List Bytes)}
    (fits : ∀ texts ∈ list,
      texts.length < 0x100000000 ∧ ∀ text ∈ texts, text.length < 0x100000000) :
    Reads (readTexts none) (Packed.list Packed.text list) list := by
  cases list with
  | none => exact fun _ => rfl
  | some texts =>
      obtain ⟨length, each⟩ := fits texts rfl
      have all : Reads (readItems (fun _ => readText) [] texts.length [])
          (texts.flatMap Packed.text) (texts.map id) :=
        items fun text member => Reads.text (each text member)
      rw [List.map_id] at all
      exact (listHeader length).bind (all.map some)

end Reads

/-- A list as a single reading leaves it. -/
def Slots.of (list : Option (List α)) : Slots α where
  items := list.getD []
  size? := list.map List.length

@[simp] theorem Slots.toList?_of (list : Option (List α)) : (Slots.of list).toList? = list := by
  cases list with
  | none => rfl
  | some items => exact congrArg some (List.take_length)

namespace Reads

/-- A list that may be absent. -/
theorem list {item : α → Read α} {fresh : α} {write : β → Bytes} {value : β → α}
    {list : Option (List β)} (length : ∀ items ∈ list, items.length < 0x100000000)
    (each : ∀ items ∈ list, ∀ one ∈ items, Reads (item fresh) (write one) (value one)) :
    Reads (readList item fresh {}) (Packed.list write list) (.of (list.map (List.map value))) := by
  cases list with
  | none => exact fun _ => rfl
  | some values =>
      have all := items (each values rfl)
      have slots (items : List α) (same : items.length = values.length) :
          Slots.of (some items) =
            { items := items ++ [].drop values.length, size? := some values.length } := by
        rw [List.drop_nil, List.append_nil, ← same]
        rfl
      rw [Option.map_some, slots _ (List.length_map _)]
      refine (listHeader (length values rfl)).bind ?_
      exact all.map fun items =>
        ({ items := items ++ [].drop values.length, size? := some values.length } : Slots α)

end Reads

/-! ### Records -/

variable {ρ : Type}

/-- The entries of a record fill its fields one after the other, where each stands under the name of
its field. -/
inductive Fills (fields : Fields ρ) : ρ → List (String × Bytes) → ρ → Prop where
  | done (record : ρ) : Fills fields record [] record
  | entry {name : String} {read : ρ → Read ρ} {bytes : Bytes} {before next after : ρ}
      {rest : List (String × Bytes)} (index : Nat) (field : fields[index]? = some (name, read))
      (reads : Reads (read before) bytes next) (fills : Fills fields next rest after) :
      Fills fields before ((name, bytes) :: rest) after

/-- An entry that is left out where it would change nothing. -/
theorem Fills.unless {fields : Fields ρ} {condition : Prop} [Decidable condition] {name : String}
    {read : ρ → Read ρ} {bytes : Bytes} {before next after : ρ} {rest : List (String × Bytes)}
    (index : Nat) (field : fields[index]? = some (name, read)) (same : condition → before = next)
    (reads : ¬condition → Reads (read before) bytes next) (fills : Fills fields next rest after) :
    Fills fields before ((if condition then [] else [(name, bytes)]) ++ rest) after := by
  split
  · rename_i empty
    rw [same empty]
    exact fills
  · rename_i filled
    exact .entry index field (reads filled) fills

/-- Fields with short names, no two of them the same. -/
structure Named (fields : Fields ρ) : Prop where
  nodup : (fields.map fun field => Text.bytesOf field.1).Nodup
  short : ∀ field ∈ fields, (Text.bytesOf field.1).length < 0x100000000

/-- Plain names are told apart by their bytes. -/
theorem Named.of_plain {fields : Fields ρ} (names : List String)
    (same : fields.map (·.1) = names) (distinct : names.Nodup)
    (isPlain : ∀ name ∈ names, name.toList.length < 0x100000000 ∧ Text.isPlain name = true) :
    Named fields where
  nodup := by
    have separate : ((fields.map (·.1)).map Text.bytesOf).Nodup := by
      rw [same]
      refine distinct.map_on fun left leftMember right rightMember equal => ?_
      have chars := congrArg (List.map fun byte => Char.ofNat byte.toNat) equal
      rw [Text.map_bytesOf_of_plain (isPlain left leftMember).2,
        Text.map_bytesOf_of_plain (isPlain right rightMember).2] at chars
      exact String.toList_inj.mp chars
    rwa [List.map_map] at separate
  short := fun field member => by
    obtain ⟨short, chars⟩ := isPlain field.1 (same ▸ List.mem_map_of_mem member)
    rwa [← Text.map_bytesOf_of_plain chars, List.length_map] at short

private theorem find_of_nodup {K : Type} [BEq K] [LawfulBEq K] {key : α → K} {items : List α}
    (nodup : (items.map key).Nodup) {item : α} (member : item ∈ items) :
    items.find? (fun other => key other == key item) = some item := by
  induction items with
  | nil => cases member
  | cons first rest inductionHypothesis =>
      obtain ⟨absent, distinct⟩ := List.nodup_cons.mp nodup
      rcases List.mem_cons.mp member with rfl | later
      · exact List.find?_cons_of_pos (beq_self_eq_true _)
      · have other : key first ≠ key item := fun same =>
          absent (same ▸ List.mem_map_of_mem later)
        rw [List.find?_cons_of_neg (by simpa using other)]
        exact inductionHypothesis distinct later

theorem Fills.readNamed {fields : Fields ρ} (named : Named fields) {before after : ρ}
    {entries : List (String × Bytes)} (fills : Fills fields before entries after) :
    Reads (Packed.readNamed fields entries.length before)
      (entries.flatMap fun field => Packed.text (Text.bytesOf field.1) ++ field.2) after := by
  induction fills with
  | done record => exact .pure record
  | entry index field reads _ inductionHypothesis =>
      have member := List.mem_of_getElem? field
      rw [List.flatMap_cons, List.append_assoc]
      refine (Reads.text (named.short _ member)).bind ?_
      rw [find_of_nodup named.nodup member]
      exact reads.bind inductionHypothesis

private theorem toNat_code {entries : List (String × Bytes)} (few : entries.length < 0x10) :
    ((0x80 : UInt8) + entries.length.toUInt8).toNat = 0x80 + entries.length :=
  Reads.toNat_add 0x80 (by change 0x80 + entries.length < 256; omega)

/-- A record that is read over another one. -/
theorem Reads.record {fields : Fields ρ} (named : Named fields) {fresh before after : ρ}
    {entries : List (String × Bytes)} (few : entries.length < 0x10)
    (fills : Fills fields before entries after) :
    Reads (readRecord fields fresh before) (Packed.record entries) after := by
  refine Reads.code _ ?_
  unfold recordLength?
  rw [toNat_code few, if_neg (by rw [beq_iff_eq]; omega),
    if_pos (Reads.between_of (by omega) (by omega)), Nat.add_sub_cancel_left]
  exact (Reads.pure entries.length).bind (fills.readNamed named)

/-- A record that could be absent. -/
theorem Reads.present {read : ρ → Read ρ} {fresh after : ρ} {entries : List (String × Bytes)}
    (few : entries.length < 0x10) (reads : Reads (read fresh) (Packed.record entries) after) :
    Reads (readOptional read fresh none) (Packed.record entries) (some after) := by
  have first : (0x80 : UInt8) + entries.length.toUInt8 ≠ 0xc0 := by
    intro same
    have equal := congrArg UInt8.toNat same
    rw [toNat_code few] at equal
    change 0x80 + entries.length = 0xc0 at equal
    omega
  intro rest
  refine (if_neg fun absent => first ?_).trans (reads.map some rest)
  exact Option.some.inj (eq_of_beq absent)

/-! ### Codecs -/

/-- What is asked of a codec: it reads what it wrote, and leaves what follows.  Integers have 64 bits,
lengths four bytes at most, and records fewer than sixteen fields. -/
structure Codec.IsSound (codec : Codec) : Prop where
  int : ∀ {n : Int}, -0x8000000000000000 ≤ n → n < 0x8000000000000000 →
    Reads codec.readInt (codec.int n) n
  text : ∀ {bytes : Bytes}, bytes.length < 0x100000000 →
    Reads codec.readText (codec.text bytes) bytes
  texts : ∀ {list : Option (List Bytes)}, (∀ texts ∈ list,
      texts.length < 0x100000000 ∧ ∀ text ∈ texts, text.length < 0x100000000) →
    Reads (codec.readTexts none) (codec.list codec.text list) list
  list : ∀ {α β : Type} {item : α → Read α} {fresh : α} {write : β → Bytes} {value : β → α}
      {list : Option (List β)}, (∀ items ∈ list, items.length < 0x100000000) →
      (∀ items ∈ list, ∀ one ∈ items, Reads (item fresh) (write one) (value one)) →
    Reads (codec.readList item fresh {}) (codec.list write list) (.of (list.map (List.map value)))
  record : ∀ {ρ : Type} {fields : Fields ρ} {fresh before after : ρ}
      {entries : List (String × Bytes)}, Named fields → entries.length < 0x10 →
      Fills fields before entries after →
    Reads (codec.readRecord fields fresh before) (codec.record entries) after
  present : ∀ {ρ : Type} {read : ρ → Read ρ} {fresh after : ρ} {entries : List (String × Bytes)},
      entries.length < 0x10 → Reads (read fresh) (codec.record entries) after →
    Reads (codec.readOptional read fresh none) (codec.record entries) (some after)

theorem Codec.isSound_compact : Codec.compact.IsSound where
  int := .int
  text := .text
  texts := .texts
  list := .list
  record := fun named few fills => .record named few fills
  present := .present

end Tabulation.Packed
