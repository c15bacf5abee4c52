/-
The order of texts: by their bytes from the left, a proper initial part first. For texts without
stray bytes it is also the order of their code points.
-/

import Std.Data.HashSet.Lemmas
import Tabulation.Text.Bytes

namespace Tabulation.Text

/-- Lexicographic order of lists by a key, a proper initial part first. -/
def lexBefore {α : Type} (before same : α → α → Bool) : List α → List α → Bool
  | _, [] => false
  | [], _ :: _ => true
  | a :: as, b :: bs => before a b || (same a b && lexBefore before same as bs)

def bytesBefore : Bytes → Bytes → Bool :=
  lexBefore (fun x y => Nat.blt x.toNat y.toNat) (fun x y => x == y)

/-- The strict order of texts as lists of characters. The first difference decides by the code
points, or by the bytes from there on when a stray byte stands there. -/
def charsBefore : List Char → List Char → Bool
  | _, [] => false
  | [], _ :: _ => true
  | a :: as, b :: bs =>
    if a == b then charsBefore as bs
    else if isStray a || isStray b then
      bytesBefore ((a :: as).flatMap bytesOfChar) ((b :: bs).flatMap bytesOfChar)
    else Nat.blt a.toNat b.toNat

def textBefore (a b : String) : Bool := charsBefore a.toList b.toList

/-- The strict order of lists of texts, element by element. -/
def textsBefore (a b : List String) : Bool :=
  lexBefore textBefore (fun x y => x == y) a b

/-- Sorts a list stably by a strict order. -/
def sortBy {α : Type} (before : α → α → Bool) (items : List α) : List α :=
  items.mergeSort fun a b => !before b a

def sortTexts (texts : List String) : List String := sortBy textBefore texts

def distinct {α : Type} [DecidableEq α] (items : List α) : List α :=
  (items.foldl (fun kept item => if kept.contains item then kept else item :: kept) []).reverse

/-- Drops every element that occurred earlier in the list, looked up by its hash. -/
def distinctByHash {α : Type} [DecidableEq α] [Hashable α] (items : List α) : List α :=
  (items.foldl
    (fun (state : Std.HashSet α × List α) item =>
      if state.1.contains item then state else (state.1.insert item, item :: state.2))
    (∅, [])).2.reverse

/-- Looking up by hash changes nothing. -/
theorem distinctByHash_eq_distinct {α : Type} [DecidableEq α] [Hashable α] (items : List α) :
    distinctByHash items = distinct items := by
  have folded : ∀ (items : List α) (seen : Std.HashSet α) (kept : List α),
      (∀ item, seen.contains item = kept.contains item) →
      (items.foldl
        (fun (state : Std.HashSet α × List α) item =>
          if state.1.contains item then state else (state.1.insert item, item :: state.2))
        (seen, kept)).2 =
      items.foldl (fun kept item => if kept.contains item then kept else item :: kept) kept := by
    intro items
    induction items with
    | nil => intro seen kept _; rfl
    | cons item rest ih =>
      intro seen kept same
      simp only [List.foldl_cons, same item]
      split
      · exact ih seen kept same
      · refine ih _ _ fun other => ?_
        rw [Std.HashSet.contains_insert, same other, List.contains_cons, BEq.comm]
  unfold distinctByHash distinct
  rw [folded items ∅ [] (by simp)]

end Tabulation.Text
