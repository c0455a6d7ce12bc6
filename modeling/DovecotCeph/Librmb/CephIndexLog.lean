/-
  File:      DovecotCeph/Librmb/CephIndexLog.lean
  Subject:   The ceph index object over a history of appends, overwrites and deletions
             (rados-storage-impl.cpp).

  * `cephIndexContent_eq`: the text of the object is the last overwrite and all appends after it;
  * **`ceph_index_is_set_log`**: so is the set that is read.
-/
import DovecotCeph.Librmb.CephIndex
import DovecotCeph.Librmb.RadosUtil
import DovecotCeph.Lib.Run
import Mathlib.Data.List.DropRight
import Mathlib.Data.Finset.Basic

namespace DovecotCeph

/-! ## 1. The operations on the object -/

/-- The operations that change the object; a set is given in its order. -/
inductive CephIndexOp where
  | append (oid : String)
  | appendSet (oids : List String)
  | overwrite (oids : List String)
  | delete
  deriving DecidableEq, Repr

/-- The oids an operation brings. -/
def CephIndexOp.oids : CephIndexOp → List String
  | .append oid => [oid]
  | .appendSet oids => oids
  | .overwrite oids => oids
  | .delete => []

/-- Nothing of what the object held before is left. -/
def CephIndexOp.resets : CephIndexOp → Bool
  | .append _ => false
  | .appendSet _ => false
  | .overwrite _ => true
  | .delete => true

/-- The object after a successful operation, `none` where there is none. -/
def cephIndexStep (obj : Option CephIndex) : CephIndexOp → Option CephIndex
  | .append oid => some (cephIndexAppend (obj.getD []) oid)
  | .appendSet oids => some (obj.getD [] ++ convertToCephIndex oids)
  | .overwrite oids => some (cephIndexOverwrite oids)
  | .delete => none

/-- `RadosStorageImpl::ceph_index_read`. Without an object `psize` keeps what it held before, and
    the read fails; otherwise it gives at most `INT_MAX` bytes. -/
def cephIndexReadObject (psize : Int) (obj : Option CephIndex) : List String :=
  let psize : Int := match obj with
    | none => psize
    | some text => text.length
  if psize ≤ 0 then []
  else match obj with
    | none => []
    | some text => cephIndexRead (text.take intMax)

/-! ## 2. What a history leaves -/

/-- The set of the last overwrite; empty if a deletion came later, or if there was none. -/
def lastOverwrite (ops : List CephIndexOp) : List String :=
  match (ops.rdropWhile fun op => !op.resets).getLast? with
  | none => []
  | some op => op.oids

/-- All oids that were appended after the last overwrite or deletion. -/
def appendedSince (ops : List CephIndexOp) : List String :=
  (ops.rtakeWhile fun op => !op.resets).flatMap CephIndexOp.oids

section History

variable {ops : List CephIndexOp} {op : CephIndexOp}

theorem lastOverwrite_snoc_reset (h : op.resets = true) :
    lastOverwrite (ops ++ [op]) = op.oids ∧ appendedSince (ops ++ [op]) = [] := by
  constructor
  · unfold lastOverwrite
    rw [List.rdropWhile_concat_neg _ _ _ (by simp [h]), List.getLast?_concat]
  · unfold appendedSince
    rw [List.rtakeWhile_concat_neg _ _ _ (by simp [h]), List.flatMap_nil]

theorem lastOverwrite_snoc_append (h : op.resets = false) :
    lastOverwrite (ops ++ [op]) = lastOverwrite ops ∧
      appendedSince (ops ++ [op]) = appendedSince ops ++ op.oids := by
  constructor
  · unfold lastOverwrite
    rw [List.rdropWhile_concat_pos _ _ _ (by simp [h])]
  · unfold appendedSince
    rw [List.rtakeWhile_concat_pos _ _ _ (by simp [h]), List.flatMap_append,
      List.flatMap_singleton]

/-- **The text of the object**, by induction on the history from its end. -/
theorem cephIndexContent_eq (ops : List CephIndexOp) :
    (Lib.run cephIndexStep none ops).getD [] =
      convertToCephIndex (lastOverwrite ops ++ appendedSince ops) := by
  induction ops using List.reverseRecOn with
  | nil => rfl
  | append_singleton ops op ih =>
      rw [Lib.run_append, Lib.run_cons, Lib.run_nil]
      cases hr : op.resets with
      | true =>
          obtain ⟨hlast, hsince⟩ := @lastOverwrite_snoc_reset ops op hr
          rw [hlast, hsince, List.append_nil]
          cases op with
          | append oid => cases hr
          | appendSet oids => cases hr
          | overwrite oids => rfl
          | delete => rfl
      | false =>
          obtain ⟨hlast, hsince⟩ := @lastOverwrite_snoc_append ops op hr
          have hconcat : convertToCephIndex (lastOverwrite ops ++ (appendedSince ops ++ op.oids)) =
              (Lib.run cephIndexStep none ops).getD [] ++ convertToCephIndex op.oids := by
            rw [ih, ← List.append_assoc]
            exact List.flatMap_append
          rw [hlast, hsince, hconcat]
          cases op with
          | append oid => rfl
          | appendSet oids => rfl
          | overwrite oids => cases hr
          | delete => cases hr

theorem lastOverwrite_subset {oid : String} (h : oid ∈ lastOverwrite ops) :
    ∃ op ∈ ops, oid ∈ op.oids := by
  unfold lastOverwrite at h
  split at h
  case h_1 => cases h
  case h_2 op hop =>
    exact ⟨op, (List.rdropWhile_prefix _ _).subset (List.mem_of_getLast? hop), h⟩

theorem appendedSince_subset {oid : String} (h : oid ∈ appendedSince ops) :
    ∃ op ∈ ops, oid ∈ op.oids := by
  obtain ⟨op, hop, ho⟩ := List.mem_flatMap.mp h
  exact ⟨op, (List.rtakeWhile_suffix _ _).subset hop, ho⟩

/-- An object of at most `INT_MAX` bytes is read as a whole. -/
theorem cephIndexReadObject_eq (psize : Int) {obj : Option CephIndex}
    (hsize : (obj.getD []).length ≤ intMax) :
    cephIndexReadObject psize obj = cephIndexRead (obj.getD []) := by
  have hnil : cephIndexRead [] = [] := rfl
  unfold cephIndexReadObject
  cases obj with
  | none =>
      dsimp only [Option.getD_none]
      rw [hnil, ite_self]
  | some text =>
      dsimp only [Option.getD_some] at hsize ⊢
      rw [List.take_of_length_le hsize]
      split
      case isTrue h0 =>
        have hlen : text.length = 0 := by omega
        rw [List.length_eq_zero_iff.mp hlen, hnil]
      case isFalse => rfl

end History

/-- **The index object is a set log**: after any history of successful operations, beginning
    without an object, the set of the last overwrite or deletion and all oids appended after it are
    read, and no object reads as the empty set. -/
theorem ceph_index_is_set_log (ops : List CephIndexOp) (psize : Int)
    (hoids : ∀ op ∈ ops, ∀ oid ∈ op.oids, IndexOid oid)
    (hsize : ((Lib.run cephIndexStep none ops).getD []).length ≤ intMax) :
    (cephIndexReadObject psize (Lib.run cephIndexStep none ops)).toFinset =
        (lastOverwrite ops).toFinset ∪ (appendedSince ops).toFinset ∧
      (cephIndexReadObject psize (Lib.run cephIndexStep none ops)).Nodup ∧
      cephIndexReadObject psize none = [] := by
  have hall : ∀ oid ∈ lastOverwrite ops ++ appendedSince ops, IndexOid oid := by
    intro oid hmem
    obtain ⟨op, hop, ho⟩ : ∃ op ∈ ops, oid ∈ op.oids := by
      rcases List.mem_append.mp hmem with h | h
      · exact lastOverwrite_subset h
      · exact appendedSince_subset h
    exact hoids op hop oid ho
  rw [cephIndexReadObject_eq psize hsize, cephIndexContent_eq]
  refine ⟨?_, nodup_read _, ite_self _⟩
  ext oid
  have hread : oid ∈ cephIndexRead (cephIndexOverwrite (lastOverwrite ops ++ appendedSince ops)) ↔
      oid ∈ lastOverwrite ops ++ appendedSince ops := mem_read_overwrite hall
  rw [List.mem_toFinset, Finset.mem_union, List.mem_toFinset, List.mem_toFinset,
    ← List.mem_append]
  exact hread

/-- Two overwrites, a deletion, and appends in between and after. -/
theorem index_after_deletion :
    (cephIndexReadObject (-1) (Lib.run cephIndexStep none [.append "a", .overwrite ["b", "c"],
      .append "a", .delete, .appendSet ["c", "d"], .appendSet [], .append "c"])).toFinset =
      {"c", "d"} := by
  have h := (ceph_index_is_set_log [.append "a", .overwrite ["b", "c"], .append "a", .delete,
    .appendSet ["c", "d"], .appendSet [], .append "c"] (-1)
    (by
      intro op hop oid ho
      have hmem : oid ∈ ["a", "b", "c", "d"] := by
        have hsub : ∀ op ∈ [CephIndexOp.append "a", .overwrite ["b", "c"], .append "a", .delete,
            .appendSet ["c", "d"], .appendSet [], .append "c"],
            ∀ oid ∈ op.oids, oid ∈ ["a", "b", "c", "d"] := by decide
        exact hsub op hop oid ho
      have hone : ∀ oid ∈ ["a", "b", "c", "d"],
          oid ≠ "" ∧ ',' ∉ oid.toList ∧ '\x00' ∉ oid.toList := by decide
      obtain ⟨h1, h2, h3⟩ := hone oid hmem
      exact ⟨h1, h2, h3⟩)
    (by decide +kernel)).1
  rw [h]
  decide +kernel

end DovecotCeph
