/-
  File:      DovecotCeph/Lib/OrderedSet.lean
  Subject:   Sets that are gone through in the order of their elements. Nothing here names the
             plugin.

  * `setInsert`, `orderedSet`: a set as the list of its elements in order;
  * `mem_orderedSet`, `sorted_orderedSet`: it has the elements it is built from, in order, once
    each; `orderedSet_eq_self`: such a list is its own set.
-/
import Mathlib.Data.List.Sort

namespace DovecotCeph.Lib

variable {α : Type*} [LinearOrder α] {a b : α} {s l : List α}

/-- `std::set::insert`. -/
def setInsert (a : α) (s : List α) : List α :=
  if a ∈ s then s else s.orderedInsert (· ≤ ·) a

/-- The set of the elements of a list. -/
def orderedSet (l : List α) : List α := l.foldr setInsert []

theorem mem_setInsert : b ∈ setInsert a s ↔ b = a ∨ b ∈ s := by
  unfold setInsert
  split
  case isTrue h =>
    constructor
    · exact .inr
    · rintro (rfl | hb)
      · exact h
      · exact hb
  case isFalse => exact List.mem_orderedInsert _

theorem sorted_setInsert (h : s.Pairwise (· < ·)) : (setInsert a s).Pairwise (· < ·) := by
  unfold setInsert
  split
  case isTrue => exact h
  case isFalse hnot =>
    have hle : (s.orderedInsert (· ≤ ·) a).Pairwise (· ≤ ·) := (h.imp le_of_lt).orderedInsert a s
    have hnodup : (s.orderedInsert (· ≤ ·) a).Nodup :=
      (List.perm_orderedInsert (· ≤ ·) a s).nodup_iff.mpr
        (List.nodup_cons.mpr ⟨hnot, h.imp ne_of_lt⟩)
    exact (hle.and hnodup).imp fun h => lt_of_le_of_ne h.1 h.2

theorem mem_orderedSet : a ∈ orderedSet l ↔ a ∈ l := by
  induction l with
  | nil => exact Iff.rfl
  | cons b l ih =>
      show a ∈ setInsert b (orderedSet l) ↔ _
      rw [mem_setInsert, ih, List.mem_cons]

theorem sorted_orderedSet (l : List α) : (orderedSet l).Pairwise (· < ·) := by
  induction l with
  | nil => exact List.Pairwise.nil
  | cons b l ih => exact sorted_setInsert ih

theorem nodup_orderedSet (l : List α) : (orderedSet l).Nodup := (sorted_orderedSet l).imp ne_of_lt

/-- **A list in order is its own set.** -/
theorem orderedSet_eq_self (h : l.Pairwise (· < ·)) : orderedSet l = l := by
  induction l with
  | nil => rfl
  | cons a l ih =>
      obtain ⟨hfirst, hrest⟩ := List.pairwise_cons.mp h
      have hnot : a ∉ l := fun ha => lt_irrefl a (hfirst a ha)
      show setInsert a (orderedSet l) = a :: l
      rw [ih hrest, setInsert, if_neg hnot]
      cases l with
      | nil => rfl
      | cons b l => exact List.orderedInsert_cons_of_le _ l (hfirst b List.mem_cons_self).le

end DovecotCeph.Lib
