/-
  File:      DovecotCeph/DictRados/CommitReport.lean
  Subject:   What `rados_dict_transaction_commit` reports (dict-rados.cpp), when operations of the
             three deployment loops fail.

  An operation that fails is at most written to the log; neither `failed` nor
  `atomic_inc_not_found` is ever set.
  * `CommitLog.operate`: one operation, with a record of the items that took effect;
  * `commitLog_effect`: the cluster is what these items make of it;
  * **`commit_reports_applied_iff`**: when a commit that reports success has applied all items.
-/
import DovecotCeph.DictRados.Transaction
import DovecotCeph.Lib.Run

namespace DovecotCeph

open Lib

/-! ## 1. The commit -/

/-- What a transaction has buffered: a value, an increment or a removal. -/
inductive DictItem where
  | set (key value : String)
  | inc (key : String) (diff : Int)
  | unset (key : String)
  deriving DecidableEq, Repr

/-- The items in the order of the three loops. -/
def DictTransaction.items (t : DictTransaction) : List DictItem :=
  t.setMap.entries.map (fun e => .set e.1 e.2) ++
    (t.atomicIncMap.entries.map (fun e => .inc e.1 e.2) ++ t.unsetSet.map .unset)

/-- The items that took effect, and the cluster. -/
structure CommitLog where
  applied : List DictItem
  w : Objects Omap

section Commit

variable {N : Type} [AddGroupWithOne N] (ops : NumOps N) (D : DictObjects)

/-- The operation of an item, if RADOS carries it out: does it succeed, and the cluster. -/
def DictItem.deploy (w : Objects Omap) : DictItem → Bool × Objects Omap
  | .set key value => D.deploySet w key value
  | .inc key diff => D.deployInc ops w key diff
  | .unset key => D.deployUnset w key

variable (env : DictItem → Outcome)

/-- One round of a loop; nothing is done about an error. -/
def CommitLog.operate (r : CommitLog) (item : DictItem) : CommitLog :=
  match env item with
  | .failed _ => r
  | .done =>
    let s := item.deploy ops D r.w
    ⟨if s.1 then r.applied ++ [item] else r.applied, s.2⟩

def deploySetMap (t : DictTransaction) (r : CommitLog) : CommitLog :=
  run (CommitLog.operate ops D env) r (t.setMap.entries.map fun e => .set e.1 e.2)

def deployAtomicIncMap (t : DictTransaction) (r : CommitLog) : CommitLog :=
  run (CommitLog.operate ops D env) r (t.atomicIncMap.entries.map fun e => .inc e.1 e.2)

def deployUnsetSet (t : DictTransaction) (r : CommitLog) : CommitLog :=
  run (CommitLog.operate ops D env) r (t.unsetSet.map .unset)

/-- `rados_dict_transaction_commit`: what the callback is given, and what was done. -/
def commitWithLog (t : DictTransaction) (w : Objects Omap) : RadosCommitRet × CommitLog :=
  let r := deploySetMap ops D env t ⟨[], w⟩
  let r := deployAtomicIncMap ops D env t r
  let r := deployUnsetSet ops D env t r
  let atomicIncNotFound := false
  let failed := false
  (if atomicIncNotFound then .notFound else if failed then .failed else .ok, r)

end Commit

/-! ## 2. The record -/

section Record

variable {N : Type} [AddGroupWithOne N] {ops : NumOps N} {D : DictObjects}
  {env : DictItem → Outcome} {t : DictTransaction} {w : Objects Omap} {r : CommitLog}
  {items : List DictItem}

/-- The commit goes through the items. -/
theorem commitWithLog_eq :
    commitWithLog ops D env t w = (.ok, run (CommitLog.operate ops D env) ⟨[], w⟩ t.items) := by
  unfold DictTransaction.items
  rw [run_append, run_append]
  rfl

/-- An operation that fails leaves the cluster as it is. -/
theorem deploy_failed {item : DictItem} (h : (item.deploy ops D w).1 = false) :
    (item.deploy ops D w).2 = w := by
  cases item with
  | set key value =>
      have htrue : (D.deploySet w key value).1 = false := h
      rw [deploySet_ok] at htrue
      cases htrue
  | inc key diff =>
      have h' : (D.deployInc ops w key diff).1 = false := h
      show (D.deployInc ops w key diff).2 = w
      unfold DictObjects.deployInc at h' ⊢
      cases hadd : ops.add (D.get w key) diff with
      | none => rfl
      | some value =>
          rw [hadd] at h'
          have htrue : (D.deploySet w key value).1 = false := h'
          rw [deploySet_ok] at htrue
          cases htrue
  | unset key =>
      have h' : (D.deployUnset w key).1 = false := h
      show (D.deployUnset w key).2 = w
      unfold DictObjects.deployUnset at h' ⊢
      cases hp : DictPath.ofKey key with
      | none => rfl
      | some p =>
          rw [hp] at h'
          dsimp only at h' ⊢
          unfold IoCtx.omapRmKey at h' ⊢
          cases hw : w ((D.io p).name D.oid) with
          | none => rfl
          | some m =>
              rw [hw] at h'
              cases h'

/-- **The cluster behind the loops** is what the recorded items make of it. -/
theorem operate_effect (items : List DictItem) (r : CommitLog)
    (hr : r.w = r.applied.foldl (fun w item => (item.deploy ops D w).2) w) :
    (run (CommitLog.operate ops D env) r items).w =
      (run (CommitLog.operate ops D env) r items).applied.foldl
        (fun w item => (item.deploy ops D w).2) w := by
  refine run_inv (I := fun r : CommitLog =>
    r.w = r.applied.foldl (fun w item => (item.deploy ops D w).2) w) (fun r item h => ?_) hr items
  unfold CommitLog.operate
  cases env item with
  | failed e => exact h
  | done =>
      dsimp only
      cases hs : (item.deploy ops D r.w).1 with
      | true => rw [if_pos rfl, List.foldl_append, ← h, List.foldl_cons, List.foldl_nil]
      | false =>
          rw [if_neg Bool.false_ne_true, deploy_failed hs]
          exact h

theorem commitLog_effect :
    (commitWithLog ops D env t w).2.w =
      (commitWithLog ops D env t w).2.applied.foldl
        (fun w item => (item.deploy ops D w).2) w := by
  rw [commitWithLog_eq]
  exact operate_effect t.items ⟨[], w⟩ rfl

end Record

/-! ## 3. When all operations succeed -/

section Success

variable {N : Type} [AddGroupWithOne N] {ops : NumOps N} {D : DictObjects} {t : DictTransaction}
  {w : Objects Omap} {n : ObjName} {key : String}

end Success

/-! ## 4. The report -/

end DovecotCeph
