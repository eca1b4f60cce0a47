import Mathlib.Algebra.Order.Ring.Int
import SubjectMerge.Proofs.Store.Cells
import SubjectMerge.Store.Database

/-! Cells in order. Whatever they hold, any two can be compared, and equal numbers stand level whether they are
integers or reals; so rows can be sorted by any content, and texts come in the order of their bytes. -/

namespace SubjectMerge

open Std

theorem compareBytes_eq_compare (a b : List UInt8) : compareBytes a b = Ord.compare a b := by
  induction a generalizing b with
  | nil => cases b <;> rfl
  | cons x a ih =>
    cases b with
    | nil => rfl
    | cons y b => rw [compareBytes, List.compare_cons_cons, ih, UInt8.compare_eq_toNat_compare_toNat]

namespace Cell

/-- What a text or a blob holds. -/
def bytes : Cell → List UInt8
  | .text bytes | .blob bytes => bytes
  | .null | .integer _ | .real _ => []

theorem compare_units (m n : Int) : Ord.compare (integer m).units (integer n).units = Ord.compare m n := by
  have hone : (0 : Int) < Real64.unitsPerOne := by decide +kernel
  simp only [units]
  rcases Int.lt_trichotomy m n with h | rfl | h
  · rw [Int.compare_eq_lt.2 h, Int.compare_eq_lt.2 (Int.mul_lt_mul_of_pos_right h hone)]
  · rw [Int.compare_eq_eq.2 rfl, Int.compare_eq_eq.2 rfl]
  · rw [Int.compare_eq_gt.2 h, Int.compare_eq_gt.2 (Int.mul_lt_mul_of_pos_right h hone)]

/-- Cells are compared by their kinds first, then as numbers, then byte by byte. -/
theorem compare_eq_compareLex :
    Cell.compare = compareLex (compareOn rank) (compareLex (compareOn units) (compareOn bytes)) := by
  funext a b
  have hsame (n : Nat) : Ord.compare n n = .eq := Nat.compare_eq_eq.2 rfl
  have hnone : Ord.compare ([] : List UInt8) [] = .eq := rfl
  cases a <;> cases b <;>
    simp only [Cell.compare, compareLex, compareOn, rank, bytes, compareBytes_eq_compare, compare_units,
      hsame, hnone, Ordering.then_eq, Ordering.eq_then]
  -- what is left are texts and blobs, which have the same number or stand apart by their kinds
  all_goals rfl

instance : TransCmp Cell.compare := by
  rw [compare_eq_compareLex]
  infer_instance

instance : Ord Cell := ⟨Cell.compare⟩

instance : TransOrd Cell := inferInstanceAs (TransCmp Cell.compare)

theorem le_iff {a b : Cell} : a.le b = true ↔ (a.compare b).isLE = true := by
  rw [le, bne_iff_ne, ne_eq, Ordering.ne_gt_iff_isLE]

theorem le_trans (a b c : Cell) (hab : a.le b = true) (hbc : b.le c = true) : a.le c = true :=
  le_iff.2 (TransCmp.isLE_trans (le_iff.1 hab) (le_iff.1 hbc))

theorem le_total (a b : Cell) : (a.le b || b.le a) = true := by
  rw [Bool.or_eq_true, le_iff, le_iff]
  have hswap : a.compare b = (b.compare a).swap := OrientedCmp.eq_swap
  rw [hswap]
  cases b.compare a <;> simp

theorem le_refl (a : Cell) : a.le a = true := by
  simpa using le_total a a

theorem le_integer {m n : Int} : (integer m).le (.integer n) = true ↔ m ≤ n := by
  have hcompare : (integer m).compare (.integer n) = Ord.compare m n := rfl
  rw [le_iff, hcompare, Int.isLE_compare]

/-- Texts come in the order of their bytes. -/
theorem le_ofString {s t : String} : (ofString s).le (.ofString t) = true ↔
    compareBytes (Text.encodeUtf8 s) (Text.encodeUtf8 t) ≠ .gt :=
  bne_iff_ne

end Cell

/-- In the directory an attribute comes before another by its place in the list, and of two in one place the one
with the lower id. -/
def AttributeRow.Precedes (a b : AttributeRow) : Prop :=
  a.listOrder.compare b.listOrder = .lt ∨
    a.listOrder.compare b.listOrder = .eq ∧ a.id.compare b.id = .lt

namespace Tables

/-- Attributes by their places, then by their ids. -/
def comparePlaces : AttributeRow → AttributeRow → Ordering :=
  compareLex (compareOn AttributeRow.listOrder) (compareOn AttributeRow.id)

instance : TransCmp comparePlaces := inferInstanceAs (TransCmp (compareLex _ _))

theorem directoryOrder_iff {a b : AttributeRow} :
    directoryOrder a b = true ↔ (comparePlaces a b).isLE = true := by
  have hplaces : comparePlaces a b = (a.listOrder.compare b.listOrder).then (a.id.compare b.id) := rfl
  rw [hplaces, directoryOrder]
  cases a.listOrder.compare b.listOrder with
  | lt => exact Iff.rfl
  | gt => exact Iff.rfl
  | eq => exact Cell.le_iff

theorem directoryOrder_trans (a b c : AttributeRow) (hab : directoryOrder a b = true)
    (hbc : directoryOrder b c = true) : directoryOrder a c = true := by
  exact directoryOrder_iff.2 (TransCmp.isLE_trans (directoryOrder_iff.1 hab) (directoryOrder_iff.1 hbc))

theorem directoryOrder_total (a b : AttributeRow) : (directoryOrder a b || directoryOrder b a) = true := by
  have hswap : comparePlaces a b = (comparePlaces b a).swap := OrientedCmp.eq_swap
  rw [Bool.or_eq_true, directoryOrder_iff, directoryOrder_iff, hswap]
  cases comparePlaces b a <;> simp

theorem precedes_of_directoryOrder {a b : AttributeRow} (h : directoryOrder a b = true)
    (apart : a.id.compare b.id ≠ .eq) : a.Precedes b := by
  have hplaces : comparePlaces a b = (a.listOrder.compare b.listOrder).then (a.id.compare b.id) := rfl
  rw [directoryOrder_iff, hplaces, Ordering.isLE_then_iff_or, Ordering.isLE_iff_eq_lt_or_eq_eq] at h
  rcases h with h | ⟨h, h' | h'⟩
  · exact Or.inl h
  · exact Or.inr ⟨h, h'⟩
  · exact absurd h' apart

end Tables

end SubjectMerge
