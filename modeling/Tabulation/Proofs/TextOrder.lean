/-
The order of texts is the order of their bytes.

Texts are compared character by character, and only where a stray byte stands are bytes
compared.  That is the same because of how scalar values are written as bytes: at their
first difference the greater one has the greater byte, and neither starts the other.  So
the order is linear up to equal bytes, and sorting by it sorts.
-/

import Mathlib.Data.List.Lex
import Mathlib.Data.Prod.Lex
import Tabulation.Text.Order

namespace Tabulation.Text

/-! ### Bytes of characters -/

private theorem toList_loop (bytes : ByteArray) (position : Nat) (done : Bytes) :
    ByteArray.toList.loop bytes position done =
      done.reverse ++ bytes.data.toList.drop position := by
  fun_induction ByteArray.toList.loop bytes position done with
  | case1 position done inside inductionHypothesis =>
      have bound : position < bytes.data.toList.length := by simpa using inside
      rw [inductionHypothesis, List.drop_eq_getElem_cons bound]
      simp [ByteArray.get!, inside]
  | case2 position done outside =>
      rw [List.drop_eq_nil_of_le (by simpa using Nat.le_of_not_lt outside)]
      simp

private theorem toList_toByteArray (bytes : Bytes) : bytes.toByteArray.toList = bytes := by
  rw [ByteArray.toList, toList_loop, List.toList_data_toByteArray]
  simp

private theorem charBytes_eq (char : Char) : charBytes char = String.utf8EncodeChar char := by
  unfold charBytes
  rw [String.toUTF8_eq_toByteArray, String.toByteArray_singleton, List.utf8Encode_singleton,
    toList_toByteArray]

theorem bytesOf_eq_flatMap (text : String) : bytesOf text = text.toList.flatMap bytesOfChar := by
  unfold bytesOf
  split
  · rfl
  next plain =>
    have encoded : text.toByteArray = text.toList.utf8Encode := by
      rw [← String.toByteArray_ofList, String.ofList_toList]
    rw [String.toUTF8_eq_toByteArray, encoded, List.utf8Encode, toList_toByteArray]
    refine List.flatMap_congr fun char member => ?_
    have scalar : isStray char = false := by
      unfold String.any at plain
      rw [String.contains_bool_eq, List.any_eq_true] at plain
      exact Bool.eq_false_iff.mpr fun stray => plain ⟨char, member, stray⟩
    simp [bytesOfChar, scalar, charBytes_eq]

private theorem bytesOfChar_of_plain {char : Char} (plain : char.toNat < 0x80) :
    bytesOfChar char = [char.toNat.toUInt8] := by
  have scalar : isStray char = false := by
    refine Bool.eq_false_iff.mpr fun stray => ?_
    have high := Nat.ble_eq.mp stray
    omega
  rw [bytesOfChar, scalar, if_neg Bool.false_ne_true, charBytes_eq]
  exact if_pos (Nat.le_of_lt_succ plain)

/-- Whether all characters of a text have one byte. -/
def isPlain (text : String) : Bool := text.toList.all fun char => Nat.blt char.toNat 0x80

theorem map_bytesOf_of_plain {text : String} (plain : isPlain text = true) :
    (bytesOf text).map (fun byte => Char.ofNat byte.toNat) = text.toList := by
  unfold isPlain at plain
  rw [bytesOf_eq_flatMap]
  generalize text.toList = chars at plain
  induction chars with
  | nil => rfl
  | cons char rest inductionHypothesis =>
      rw [List.all_cons, Bool.and_eq_true, Nat.blt_eq] at plain
      obtain ⟨small, others⟩ := plain
      have same : char.toNat.toUInt8.toNat = char.toNat := Nat.mod_eq_of_lt (by omega)
      rw [List.flatMap_cons, bytesOfChar_of_plain small, List.map_append,
        inductionHypothesis others, List.map_singleton, same, Char.ofNat_toNat]
      rfl

/-- The bytes of a list of characters as numbers. -/
private def codesOfChars (chars : List Char) : List ℕ :=
  (chars.flatMap bytesOfChar).map UInt8.toNat

/-- The bytes of a text as numbers.  Their order is the order of texts. -/
def codes (text : String) : List ℕ := (bytesOf text).map UInt8.toNat

/-! ### The order of bytes -/

private theorem bytesBefore_iff (as bs : Bytes) :
    bytesBefore as bs = true ↔ as.map UInt8.toNat < bs.map UInt8.toNat := by
  unfold bytesBefore
  fun_induction lexBefore with
  | case1 as => simp
  | case2 b bs => simp
  | case3 a as b bs inductionHypothesis =>
      simp [List.cons_lt_cons_iff, inductionHypothesis, UInt8.toNat_inj]

/-- At the first difference of two scalar values, the greater has the greater byte. -/
private theorem utf8EncodeChar_append_lt {a b : Char} (less : a.toNat < b.toNat)
    (as bs : List ℕ) :
    (String.utf8EncodeChar a).map UInt8.toNat ++ as <
      (String.utf8EncodeChar b).map UInt8.toNat ++ bs := by
  have bound : b.val.toNat < 0x110000 := by
    rcases b.valid with low | ⟨_, high⟩
    · exact low.trans (by decide)
    · exact high
  have digits : ∀ code : ℕ,
      code / 4096 = code / 64 / 64 ∧ code / 262144 = code / 64 / 64 / 64 := by
    intro code
    simp [Nat.div_div_eq_div_mul]
  change a.val.toNat < b.val.toNat at less
  unfold String.utf8EncodeChar
  generalize a.val.toNat = first at *
  generalize b.val.toNat = second at *
  simp only [(digits _).1, (digits _).2]
  clear digits
  split_ifs <;> simp [List.cons_lt_cons_iff] <;> omega

private theorem append_lt_append_left (common as bs : List ℕ) :
    common ++ as < common ++ bs ↔ as < bs := by
  induction common with
  | nil => rfl
  | cons code rest inductionHypothesis =>
      rw [List.cons_append, List.cons_append, List.cons_lt_cons_iff, inductionHypothesis]
      simp

private theorem bytesOfChar_ne_nil (char : Char) : bytesOfChar char ≠ [] := by
  unfold bytesOfChar
  split
  · exact List.cons_ne_nil _ _
  · rw [charBytes_eq]
    exact String.utf8EncodeChar_ne_nil

private theorem codesOfChars_cons (char : Char) (rest : List Char) :
    codesOfChars (char :: rest) = (bytesOfChar char).map UInt8.toNat ++ codesOfChars rest := by
  simp [codesOfChars]

private theorem codesOfChars_cons_lt {a b : Char} (scalars : isStray a = false ∧ isStray b = false)
    (less : a.toNat < b.toNat) (as bs : List Char) :
    codesOfChars (a :: as) < codesOfChars (b :: bs) := by
  rw [codesOfChars_cons, codesOfChars_cons, bytesOfChar, bytesOfChar, scalars.1, scalars.2,
    charBytes_eq, charBytes_eq]
  exact utf8EncodeChar_append_lt less _ _

private theorem charsBefore_iff (as bs : List Char) :
    charsBefore as bs = true ↔ codesOfChars as < codesOfChars bs := by
  fun_induction charsBefore as bs with
  | case1 as => simp [codesOfChars]
  | case2 b bs =>
      have starts : (bytesOfChar b).map UInt8.toNat ≠ [] := by
        simpa using bytesOfChar_ne_nil b
      obtain ⟨code, rest, same⟩ := List.exists_cons_of_ne_nil starts
      rw [codesOfChars_cons, same]
      simp [codesOfChars]
  | case3 a as b bs same inductionHypothesis =>
      rw [eq_of_beq same, inductionHypothesis, codesOfChars_cons, codesOfChars_cons,
        append_lt_append_left]
  | case4 a as b bs _ _ => exact bytesBefore_iff _ _
  | case5 a as b bs differ plain =>
      have scalars : isStray a = false ∧ isStray b = false := by simpa using plain
      rw [Nat.blt_eq]
      constructor
      · intro less
        exact codesOfChars_cons_lt scalars less as bs
      · intro before
        by_contra more
        rcases Nat.lt_or_eq_of_le (Nat.le_of_not_lt more) with less | same
        · exact lt_asymm before (codesOfChars_cons_lt scalars.symm less bs as)
        · exact differ (beq_iff_eq.mpr (Char.toNat_inj.mp same.symm))

/-- A text stands before another one if its bytes do. -/
theorem textBefore_iff (a b : String) : textBefore a b = true ↔ codes a < codes b := by
  rw [codes, codes, bytesOf_eq_flatMap, bytesOf_eq_flatMap]
  exact charsBefore_iff a.toList b.toList

/-- Sorting by the strict order of keys puts the keys in their order. -/
theorem pairwise_sortBy {α β : Type} [LinearOrder β] {before : α → α → Bool} (key : α → β)
    (ordered : ∀ a b, before a b = true ↔ key a < key b) (items : List α) :
    (sortBy before items).Pairwise fun a b => key a ≤ key b := by
  have keeps : ∀ a b, (!before b a) = true ↔ key a ≤ key b := by
    intro a b
    rw [Bool.not_eq_true', Bool.eq_false_iff, ne_eq, ordered, not_lt]
  have sorted := @List.pairwise_mergeSort α (fun a b => !before b a)
    (fun a b c => by simpa only [keeps] using le_trans)
    (fun a b => by simpa only [Bool.or_eq_true, keeps] using le_total (key a) (key b)) items
  simp only [keeps] at sorted
  exact sorted

theorem textBefore_eq_false_iff (a b : String) : textBefore b a = false ↔ codes a ≤ codes b := by
  rw [Bool.eq_false_iff, ne_eq, textBefore_iff, not_lt]

/-- Sorted texts stand in their order. -/
theorem pairwise_sortTexts (texts : List String) :
    (sortTexts texts).Pairwise fun a b => textBefore b a = false :=
  (pairwise_sortBy codes textBefore_iff texts).imp fun {a b} => (textBefore_eq_false_iff a b).mpr

end Tabulation.Text
