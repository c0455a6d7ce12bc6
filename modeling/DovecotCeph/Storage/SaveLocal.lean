/-
  File:      DovecotCeph/Storage/SaveLocal.lean
  Subject:   What a save transaction has to do with the objects of others (rbox-save.cpp,
             rbox-copy.cpp): its calls, its commit and its rollback neither look at objects with
             other oids than those it was given, nor change them.

  * `SaveTx.among`: a transaction among other objects;
  * `saveCall_among`, `commitTransaction_among`, `rollback_among`: **what it does is the same among
    all others**; `among_self` makes the frame of it.
-/
import DovecotCeph.Storage.SaveCommit

namespace DovecotCeph

/-! ## 1. Other objects -/

/-- The transaction with its own objects, those named `oids`, among others. -/
def SaveTx.among (oids : List String) (others : MailObjs) (tx : SaveTx) : SaveTx :=
  { tx with objs := fun pool oid => if oid ∈ oids then tx.objs pool oid else others pool oid }

/-- The oid a call is given. -/
def SaveCall.oid : SaveCall → Option String
  | .begin oid _ => some oid
  | .copy k => some k.oid
  | _ => none

/-- The context has only these oids: in its list, and in its stream if it is open. -/
def SaveCtx.Within (oids : List String) (c : SaveCtx) : Prop :=
  (∀ oid ∈ c.radosMails, oid ∈ oids) ∧ ∀ cur, c.stream = .live cur → cur.oid ∈ oids

def SaveTx.Within (oids : List String) (tx : SaveTx) : Prop :=
  ∀ c, tx.ctx = some c → c.Within oids

section Among

variable {S : SaveSetup} {oids : List String} {others : MailObjs} {tx tx' : SaveTx} {oid : String}
  {c : SaveCtx}

theorem among_self (oids : List String) (tx : SaveTx) : tx.among oids tx.objs = tx := by
  have hobjs : (fun pool oid => if oid ∈ oids then tx.objs pool oid else tx.objs pool oid) =
      tx.objs := by
    funext pool oid
    exact ite_self _
  unfold SaveTx.among
  rw [hobjs]

theorem among_of_mem (hoid : oid ∈ oids) (pool : MailPool) :
    (tx.among oids others).objs pool oid = tx.objs pool oid := if_pos hoid

theorem among_of_notMem (hoid : oid ∉ oids) (pool : MailPool) :
    (tx.among oids others).objs pool oid = others pool oid := if_neg hoid

/-- An oid that belongs to no object yet can be among the transaction's own. -/
theorem among_cons (hobjs : ∀ pool, tx.objs pool oid = others pool oid) :
    tx.among (oids ++ [oid]) others = tx.among oids others := by
  unfold SaveTx.among
  congr 1
  funext pool oid'
  by_cases hsame : oid' = oid
  · subst hsame
    rw [if_pos (List.mem_append_right _ List.mem_cons_self)]
    split
    case isTrue => rfl
    case isFalse => exact hobjs pool
  · have hiff : oid' ∈ oids ++ [oid] ↔ oid' ∈ oids := by simp [hsame]
    simp only [hiff]

/-! ## 2. Writing -/

theorem put_among (hoid : oid ∈ oids) (pool : MailPool) (f : MailObj → MailObj) :
    (tx.among oids others).put pool oid f = (tx.put pool oid f).among oids others := by
  unfold SaveTx.put
  rw [among_of_mem hoid]
  unfold SaveTx.among
  congr 1
  funext pool' oid'
  by_cases hpool : pool' = pool
  · subst hpool
    by_cases hsame : oid' = oid
    · subst hsame
      simp [hoid]
    · simp [hsame]
  · simp [hpool]

theorem sendv_among (st : Cur × SaveTx) (hoid : st.1.oid ∈ oids) (piece : Bytes × Bool) :
    sendv S (st.1, st.2.among oids others) piece =
      ((sendv S st piece).1, (sendv S st piece).2.among oids others) := by
  unfold sendv
  split
  · dsimp only
    split
    · rw [put_among hoid]
    · rfl
  · rfl

theorem sends_among (sends : List (Bytes × Bool)) (st : Cur × SaveTx) (hoid : st.1.oid ∈ oids) :
    sends.foldl (sendv S) (st.1, st.2.among oids others) =
      ((sends.foldl (sendv S) st).1, (sends.foldl (sendv S) st).2.among oids others) := by
  induction sends generalizing st with
  | nil => rfl
  | cons piece sends ih =>
      rw [List.foldl_cons, sendv_among st hoid, List.foldl_cons]
      exact ih (sendv S st piece) (by rw [sendv_oid]; exact hoid)

theorem writeLoop_among (hoid : oid ∈ oids) {buffer : Bytes} {size : Nat} {div : Int}
    {ok : Nat → Bool} {n i : Nat} :
    writeLoop S oid buffer size div ok n i (tx.among oids others) =
      (writeLoop S oid buffer size div ok n i tx).map fun r => (r.1, r.2.among oids others) := by
  induction n generalizing i tx with
  | zero => rfl
  | succ n ih =>
      unfold writeLoop
      split
      · split
        · rw [put_among hoid, ih]
        · rfl
      · dsimp only
        generalize (if size < (i + 1) * S.maxWrite then size % S.maxWrite else S.maxWrite) = length
        split
        · rfl
        · split
          · rfl
          · split
            · rw [put_among hoid, ih]
            · rfl

theorem saveMailWriteAppend_among (hoid : oid ∈ oids) (e : FinishEnv) (buffer : Bytes)
    (mailSize : Int) :
    saveMailWriteAppend S e oid buffer mailSize (tx.among oids others) =
      (saveMailWriteAppend S e oid buffer mailSize tx).map fun r =>
        (r.1, r.2.among oids others) := by
  have hmeta : (if e.metadataOk then (tx.among oids others).put .primary oid
      (·.setXattrs e.metadata) else tx.among oids others) =
      (if e.metadataOk then tx.put .primary oid (·.setXattrs e.metadata) else tx).among oids
        others := by
    split
    · rw [put_among hoid]
    · rfl
  unfold saveMailWriteAppend
  dsimp only
  rw [hmeta]
  generalize (mailSize % 2 ^ 64).toNat = size
  generalize toInt32 _ = div
  generalize (if e.metadataOk then tx.put .primary oid (·.setXattrs e.metadata) else tx) = tx₁
  by_cases hmax : S.maxWrite = 0
  · rw [if_pos hmax, if_pos hmax]
    rfl
  · rw [if_neg hmax, if_neg hmax]
    by_cases hsize : size = 0
    · rw [if_pos hsize, if_pos hsize]
      rfl
    · rw [if_neg hsize, if_neg hsize]
      by_cases hdiv : div ≤ 0
      · rw [if_pos hdiv, if_pos hdiv]
        rfl
      · rw [if_neg hdiv, if_neg hdiv]
        exact writeLoop_among hoid

/-! ## 3. Calls -/

theorem endFinish_among (c : SaveCtx) (failed : Bool) (tx : SaveTx) :
    endFinish c failed (tx.among oids others) =
      ((endFinish c failed tx).1, (endFinish c failed tx).2.among oids others) := rfl

theorem rboxSaveFinish_among (e : FinishEnv) (hc : c.Within oids) :
    rboxSaveFinish S e c (tx.among oids others) =
      (rboxSaveFinish S e c tx).map fun r => (r.1, r.2.among oids others) := by
  unfold rboxSaveFinish
  split
  case h_1 => rfl
  case h_2 => split <;> rfl
  case h_3 cur hcur =>
    have hoid : cur.oid ∈ oids := hc.2 cur hcur
    have hsends := @sends_among S oids others e.sends (cur, tx) hoid
    dsimp only at hsends ⊢
    rw [hsends]
    split
    · exact congrArg some (endFinish_among ..)
    · split
      · exact congrArg some (endFinish_among ..)
      · split
        · exact congrArg some (endFinish_among ..)
        · have hoid' : (e.sends.foldl (sendv S) (cur, tx)).1.oid ∈ oids := by
            rw [sends_oid]
            exact hoid
          rw [saveMailWriteAppend_among hoid', Option.map_map, Option.map_map]
          rfl

/-- **A call is the same among all others.** -/
theorem saveCall_among {a : SaveCall} (hw : tx.Within oids) (ha : ∀ oid, a.oid = some oid →
    oid ∈ oids) :
    saveCall S (tx.among oids others) a =
      (saveCall S tx a).map fun r => (r.1, r.2.among oids others) := by
  cases a with
  | alloc =>
      show some (0, rboxSaveAlloc (tx.among oids others)) = some (0, _)
      unfold rboxSaveAlloc SaveTx.among
      cases tx.ctx <;> rfl
  | begin oid conn =>
      show (tx.ctx.map _) = (tx.ctx.map _).map _
      cases tx.ctx with
      | none => rfl
      | some c => cases conn <;> rfl
  | «continue» sends ok =>
      show (tx.ctx.bind _) = (tx.ctx.bind _).map _
      cases hc : tx.ctx with
      | none => rfl
      | some c =>
          rw [Option.bind_some, Option.bind_some]
          unfold rboxSaveContinue
          split
          · rfl
          · split
            case h_1 cur hcur =>
              have hsends := @sends_among S oids others sends (cur, tx) ((hw c hc).2 cur hcur)
              dsimp only at hsends ⊢
              rw [hsends]
              rfl
            case h_2 => rfl
  | finish e =>
      show (tx.ctx.bind _) = (tx.ctx.bind _).map _
      cases hc : tx.ctx with
      | none => rfl
      | some c => exact rboxSaveFinish_among e (hw c hc)
  | cancel e =>
      show (tx.ctx.bind _) = (tx.ctx.bind _).map _
      cases hc : tx.ctx with
      | none => rfl
      | some c => exact rboxSaveFinish_among e (hw c hc)
  | copy k =>
      show (tx.ctx.map _) = (tx.ctx.map _).map _
      cases tx.ctx with
      | none => rfl
      | some c =>
          rw [Option.map_some, Option.map_some, Option.map_some]
          unfold rboxMailStorageCopy
          dsimp only
          split
          · rfl
          · split
            · rfl
            · rw [put_among (ha k.oid rfl)]
              rfl
  | copySaving conn =>
      show (tx.ctx.map _) = (tx.ctx.map _).map _
      cases tx.ctx <;> rfl

/-- The context of a finished mail has no open stream. -/
theorem rboxSaveFinish_within {e : FinishEnv} {r : Int × SaveTx} (hc : c.Within oids)
    (hr : rboxSaveFinish S e c tx = some r) : r.2.Within oids := by
  intro c' hc'
  obtain ⟨failed, stream, _, hctx, _⟩ := rboxSaveFinish_spec hr
  rw [hctx] at hc'
  cases hc'
  refine ⟨hc.1, fun cur hcur => ?_⟩
  unfold rboxSaveFinish at hr
  split at hr
  case h_1 => cases hr
  case h_2 hnone =>
    split at hr
    case isFalse => cases hr
    case isTrue =>
      cases hr
      cases hctx
      exact absurd (hnone.symm.trans hcur) nofun
  case h_3 cur' hlive =>
    dsimp only at hr
    have hstale : ∀ {failed' : Bool} {tx₁ : SaveTx},
        (endFinish c failed' tx₁).2.ctx = some { c with
          failed := failed, finished := true, stream := stream } → stream = .stale := by
      intro failed' tx₁ hend
      cases hend
      rfl
    split at hr
    · cases hr
      exact absurd ((hstale hctx).symm.trans hcur) nofun
    · split at hr
      · cases hr
        exact absurd ((hstale hctx).symm.trans hcur) nofun
      · split at hr
        · cases hr
          exact absurd ((hstale hctx).symm.trans hcur) nofun
        · obtain ⟨w, _, rfl⟩ := Option.map_eq_some_iff.mp hr
          exact absurd ((hstale hctx).symm.trans hcur) nofun

theorem rboxAddToIndex_within {oid : String} {stream : SaveStream} (failed : Bool) (tx : SaveTx)
    (hoid : oid ∈ oids) (hc : c.Within oids)
    (hstream : ∀ cur, stream = .live cur → cur.oid ∈ oids) :
    (rboxAddToIndex oid { c with failed := failed, stream := stream } tx).Within oids := by
  intro c' hc'
  cases hc'
  refine ⟨fun o ho => ?_, hstream⟩
  rcases List.mem_append.mp ho with ho | ho
  · exact hc.1 o ho
  · rw [List.mem_singleton.mp ho]
    exact hoid

theorem rboxSaveAlloc_within (hw : tx.Within oids) : (rboxSaveAlloc tx).Within oids := by
  unfold rboxSaveAlloc
  intro c' hc'
  cases hc : tx.ctx with
  | none =>
      rw [hc] at hc'
      cases hc'
      exact ⟨fun _ ho => absurd ho List.not_mem_nil, nofun⟩
  | some c =>
      rw [hc] at hc'
      cases hc'
      exact ⟨(hw c hc).1, nofun⟩

theorem rboxSaveBegin_within {oid : String} (conn : Bool) (hoid : oid ∈ oids)
    (hc : c.Within oids) : (rboxSaveBegin oid conn c tx).2.Within oids := by
  have hstream : ∀ cur, SaveStream.live ⟨oid, [], 0⟩ = .live cur → cur.oid ∈ oids := by
    intro cur hcur
    cases hcur
    exact hoid
  cases conn with
  | true => exact rboxAddToIndex_within _ _ hoid hc hstream
  | false =>
      intro c' hc'
      cases hc'
      exact ⟨hc.1, hstream⟩

theorem rboxSaveContinue_within {sends : List (Bytes × Bool)} {ok : Bool} {r : Int × SaveTx}
    (hw : tx.Within oids) (hc : c.Within oids) (hr : rboxSaveContinue S sends ok c tx = some r) :
    r.2.Within oids := by
  unfold rboxSaveContinue at hr
  split at hr
  case isTrue =>
    cases hr
    exact hw
  case isFalse =>
    split at hr
    case h_1 cur hlive =>
      cases hr
      intro c' hc'
      cases hc'
      refine ⟨hc.1, fun cur' hcur' => ?_⟩
      cases hcur'
      rw [sends_oid]
      exact hc.2 cur hlive
    case h_2 => cases hr

theorem rboxMailStorageCopy_within {k : CopyCall} (hoid : k.oid ∈ oids) (hc : c.Within oids) :
    (rboxMailStorageCopy k c tx).2.Within oids := by
  unfold rboxMailStorageCopy
  dsimp only
  split
  case isTrue =>
    intro c' hc'
    cases hc'
    exact hc
  case isFalse =>
    split
    case h_1 =>
      intro c' hc'
      cases hc'
      exact hc
    case h_2 =>
      exact rboxAddToIndex_within (c := { c with finished := true }) _ _ hoid hc hc.2

/-- **The calls keep to the oids they are given.** -/
theorem saveCall_within {a : SaveCall} {ret : Int} (hw : tx.Within oids)
    (ha : ∀ oid, a.oid = some oid → oid ∈ oids) (h : saveCall S tx a = some (ret, tx')) :
    tx'.Within oids := by
  cases a with
  | alloc =>
      cases h
      exact rboxSaveAlloc_within hw
  | begin oid conn =>
      obtain ⟨c, hc, h⟩ := Option.map_eq_some_iff.mp h
      have hbegin := @rboxSaveBegin_within oids tx c oid conn (ha oid rfl) (hw c hc)
      rw [h] at hbegin
      exact hbegin
  | «continue» sends ok =>
      obtain ⟨c, hc, h⟩ := Option.bind_eq_some_iff.mp h
      exact rboxSaveContinue_within hw (hw c hc) h
  | finish e =>
      obtain ⟨c, hc, h⟩ := Option.bind_eq_some_iff.mp h
      exact rboxSaveFinish_within (hw c hc) h
  | cancel e =>
      obtain ⟨c, hc, h⟩ := Option.bind_eq_some_iff.mp h
      exact rboxSaveFinish_within (c := { c with failed := true }) (hw c hc) h
  | copy k =>
      obtain ⟨c, hc, h⟩ := Option.map_eq_some_iff.mp h
      have hcopy := @rboxMailStorageCopy_within oids tx c k (ha k.oid rfl) (hw c hc)
      rw [h] at hcopy
      exact hcopy
  | copySaving conn =>
      obtain ⟨c, hc, h⟩ := Option.map_eq_some_iff.mp h
      cases h
      intro c' hc'
      cases hc'
      exact hw c hc

end Among

/-! ## 4. Rollback and commit -/

/-- The commit of a transaction as Dovecot makes it: `rbox_transaction_save_commit_pre`, the commit
    of the index if that succeeds, and `rbox_transaction_save_commit_post`. What it leaves are the
    objects and the oids whose records are in the index, `none` if there is no commit. -/
def commitTransaction (S : SaveSetup) (e : CommitEnv) (indexCommit : Bool) (tx : SaveTx) :
    Option (MailObjs × Option (List String)) :=
  (rboxTransactionSaveCommitPre S e tx).bind fun p =>
    if p.1 < 0 then some (p.2.objs, none)
    else
      (rboxTransactionSaveCommitPost S e (if indexCommit then commitIndex p.2 else p.2)).map
        fun tx' => (tx'.objs, if indexCommit then some (p.2.records.map Prod.snd) else none)

section Ends

variable {S : SaveSetup} {oids : List String} {others : MailObjs} {tx : SaveTx}

theorem deleteMails_among (del : String → Outcome) {l : List String} (hl : ∀ o ∈ l, o ∈ oids)
    (objs : MailObjs) :
    deleteMails del l (fun pool oid => if oid ∈ oids then objs pool oid else others pool oid) =
      fun pool oid => if oid ∈ oids then deleteMails del l objs pool oid else others pool oid := by
  induction l generalizing objs with
  | nil => rfl
  | cons o l ih =>
      have ho : o ∈ oids := hl o List.mem_cons_self
      have ih := ih fun o' ho' => hl o' (List.mem_cons_of_mem _ ho')
      unfold deleteMails at ih ⊢
      rw [List.foldl_cons, List.foldl_cons]
      split
      case isTrue =>
        rw [← ih]
        congr 1
        funext pool oid
        by_cases hpool : pool = .primary
        · subst hpool
          by_cases hsame : oid = o
          · subst hsame
            simp [ho]
          · simp [hsame]
        · simp [hpool]
      case isFalse => exact ih objs

theorem cleanUpFailed_among (del : String → Outcome) {c : SaveCtx} (hc : c.Within oids)
    (tx : SaveTx) :
    cleanUpFailed del c (tx.among oids others) = (cleanUpFailed del c tx).among oids others := by
  unfold cleanUpFailed SaveTx.among
  rw [deleteMails_among del hc.1]

/-- The end of a rollback: the mails of a failed transaction are deleted. -/
def cleanedUp (del : String → Outcome) (tx : SaveTx) : SaveTx :=
  match tx.ctx with
  | none => tx
  | some c => { (if c.failed then cleanUpFailed del c tx else tx) with ctx := none }

theorem cleanedUp_among (del : String → Outcome) (hw : tx.Within oids) :
    cleanedUp del (tx.among oids others) = (cleanedUp del tx).among oids others := by
  have hctx : (tx.among oids others).ctx = tx.ctx := rfl
  unfold cleanedUp
  rw [hctx]
  cases hc : tx.ctx with
  | none => rfl
  | some c =>
      dsimp only
      rw [cleanUpFailed_among del (hw c hc)]
      split <;> rfl

/-- **A rollback is the same among all others.** -/
theorem rollback_among (e : FinishEnv) (del : String → Outcome) (hw : tx.Within oids) :
    rboxTransactionSaveRollback S e del (tx.among oids others) =
      (rboxTransactionSaveRollback S e del tx).map (·.among oids others) := by
  have hctx : (tx.among oids others).ctx = tx.ctx := rfl
  unfold rboxTransactionSaveRollback
  rw [hctx]
  cases hc : tx.ctx with
  | none => rfl
  | some c =>
      dsimp only
      split
      case isTrue =>
        rw [Option.map_some, Option.map_some, Option.map_some]
        exact congrArg some (cleanedUp_among del hw)
      case isFalse =>
        have hcancel : rboxSaveCancel S e c (tx.among oids others) =
            (rboxSaveCancel S e c tx).map fun r => (r.1, r.2.among oids others) :=
          rboxSaveFinish_among e (c := { c with failed := true }) (hw c hc)
        rw [hcancel]
        cases hr : rboxSaveCancel S e c tx with
        | none => rfl
        | some r =>
            rw [Option.map_some, Option.map_some, Option.map_some, Option.map_some,
              Option.map_some]
            refine congrArg some (cleanedUp_among del ?_)
            have hcall : saveCall S tx (.cancel e) = some (r.1, r.2) := by
              show (tx.ctx.bind _) = _
              rw [hc]
              exact hr
            refine saveCall_within hw (fun oid hoid => ?_) hcall
            cases hoid

theorem rboxSaveAssignUids_among (e : CommitEnv) {l : List String} (hl : ∀ o ∈ l, o ∈ oids)
    (n : Nat) (tx : SaveTx) :
    rboxSaveAssignUids e l n (tx.among oids others) =
      ((rboxSaveAssignUids e l n tx).1, (rboxSaveAssignUids e l n tx).2.among oids others) := by
  induction l generalizing n tx with
  | nil => rfl
  | cons o l ih =>
      have hl' : ∀ o' ∈ l, o' ∈ oids := fun o' ho' => hl o' (List.mem_cons_of_mem _ ho')
      unfold rboxSaveAssignUids
      split
      · split
        · have hput : (if e.lands n then (tx.among oids others).put .primary o
              (·.setXattrs (uidXattr (e.uids n))) else tx.among oids others) =
              (if e.lands n then tx.put .primary o (·.setXattrs (uidXattr (e.uids n)))
                else tx).among oids others := by
            split
            · rw [put_among (hl o List.mem_cons_self)]
            · rfl
          rw [hput]
          exact ih hl' (n + 1) _
        · rfl
      · exact ih hl' (n + 1) tx

theorem rboxSaveAssignUids_ctx (e : CommitEnv) (l : List String) (n : Nat) (tx : SaveTx) :
    (rboxSaveAssignUids e l n tx).2.ctx = tx.ctx := (rboxSaveAssignUids_assigns l n tx).ctx

theorem commitPre_among (e : CommitEnv) (hw : tx.Within oids) :
    rboxTransactionSaveCommitPre S e (tx.among oids others) =
      (rboxTransactionSaveCommitPre S e tx).map fun p => (p.1, p.2.among oids others) := by
  unfold rboxTransactionSaveCommitPre
  show (tx.ctx.bind _) = (tx.ctx.bind _).map _
  cases hc : tx.ctx with
  | none => rfl
  | some c =>
      have hback : ∀ tx₁ : SaveTx, tx₁.Within oids →
          (rboxTransactionSaveRollback S e.cancel e.del (tx₁.among oids others)).map
              (fun tx => ((-1 : Int), tx)) =
            ((rboxTransactionSaveRollback S e.cancel e.del tx₁).map
              fun tx => ((-1 : Int), tx)).map fun p => (p.1, p.2.among oids others) := by
        intro tx₁ hw₁
        rw [rollback_among _ _ hw₁, Option.map_map, Option.map_map]
        rfl
      rw [Option.bind_some, Option.bind_some]
      by_cases hfin : (!c.finished) = true
      · rw [if_pos hfin, if_pos hfin]
        rfl
      · rw [if_neg hfin, if_neg hfin]
        by_cases hbegin : (!e.syncBegin) = true
        · rw [if_pos hbegin, if_pos hbegin]
          refine hback { tx with ctx := some { c with failed := true } } fun c' hc' => ?_
          cases hc'
          exact hw c hc
        · rw [if_neg hbegin, if_neg hbegin]
          by_cases hheader : (!e.header) = true
          · rw [if_pos hheader, if_pos hheader]
            rfl
          · rw [if_neg hheader, if_neg hheader, rboxSaveAssignUids_among e (hw c hc).1]
            dsimp only
            split
            · rfl
            · refine hback _ fun c' hc' => ?_
              rw [rboxSaveAssignUids_ctx] at hc'
              exact hw c' hc'

/-- A commit_pre returns 0, and then has kept the context, or -1. -/
theorem commitPre_ret {e : CommitEnv} {p : Int × SaveTx}
    (h : rboxTransactionSaveCommitPre S e tx = some p) :
    p.1 < 0 ∨ p.1 = 0 ∧ p.2.ctx = tx.ctx := by
  have hback : ∀ {tx₁ : SaveTx}, (rboxTransactionSaveRollback S e.cancel e.del tx₁).map
      (fun tx => ((-1 : Int), tx)) = some p → p.1 < 0 := by
    intro tx₁ hr
    obtain ⟨tx₂, _, rfl⟩ := Option.map_eq_some_iff.mp hr
    exact Int.negSucc_lt_zero 0
  unfold rboxTransactionSaveCommitPre at h
  obtain ⟨c, hc, h⟩ := Option.bind_eq_some_iff.mp h
  split at h
  case isTrue => cases h
  case isFalse =>
    split at h
    case isTrue => exact .inl (hback h)
    case isFalse =>
      split at h
      case isTrue =>
        cases h
        exact .inl (Int.negSucc_lt_zero 0)
      case isFalse =>
        dsimp only at h
        split at h
        case isTrue =>
          cases h
          exact .inr ⟨rfl, rboxSaveAssignUids_ctx ..⟩
        case isFalse => exact .inl (hback h)

theorem commitPost_among (e : CommitEnv) (hw : tx.Within oids) :
    rboxTransactionSaveCommitPost S e (tx.among oids others) =
      (rboxTransactionSaveCommitPost S e tx).map (·.among oids others) := by
  unfold rboxTransactionSaveCommitPost
  split
  · exact rollback_among _ _ hw
  · refine @rollback_among _ _ _ { tx with ctx := tx.ctx.map _ } _ _ fun c' hc' => ?_
    obtain ⟨c, hc, rfl⟩ := Option.map_eq_some_iff.mp hc'
    exact hw c hc

/-- **A commit is the same among all others.** -/
theorem commitTransaction_among (e : CommitEnv) (indexCommit : Bool) (hw : tx.Within oids) :
    commitTransaction S e indexCommit (tx.among oids others) =
      (commitTransaction S e indexCommit tx).map fun r =>
        (fun pool oid => if oid ∈ oids then r.1 pool oid else others pool oid, r.2) := by
  unfold commitTransaction
  rw [commitPre_among e hw]
  cases hp : rboxTransactionSaveCommitPre S e tx with
  | none => rfl
  | some p =>
      rw [Option.map_some, Option.bind_some, Option.bind_some]
      by_cases hneg : p.1 < 0
      · rw [if_pos hneg, if_pos hneg]
        rfl
      · rw [if_neg hneg, if_neg hneg]
        have hctx : p.2.ctx = tx.ctx := ((commitPre_ret hp).resolve_left hneg).2
        have hw' : (if indexCommit then commitIndex p.2 else p.2).Within oids := by
          split <;> exact fun c hc => hw c (hctx.symm.trans hc)
        have hindex : (if indexCommit then commitIndex (p.2.among oids others)
            else p.2.among oids others) =
            (if indexCommit then commitIndex p.2 else p.2).among oids others := by
          split <;> rfl
        dsimp only
        rw [hindex, commitPost_among e hw', Option.map_map, Option.map_map]
        rfl

end Ends

/-! ## 5. The frame -/

section Frame

variable {S : SaveSetup} {oids : List String} {tx tx' : SaveTx} {oid : String}

theorem objs_of_among {others : MailObjs} (h : tx' = tx'.among oids others) (hoid : oid ∉ oids)
    (pool : MailPool) : tx'.objs pool oid = others pool oid := by
  rw [h]
  exact among_of_notMem hoid pool

/-- A call changes no object of others, -/
theorem saveCall_frame {a : SaveCall} {ret : Int} (hw : tx.Within oids)
    (ha : ∀ oid, a.oid = some oid → oid ∈ oids) (h : saveCall S tx a = some (ret, tx'))
    (hoid : oid ∉ oids) (pool : MailPool) : tx'.objs pool oid = tx.objs pool oid := by
  have hself := @saveCall_among S oids tx.objs tx a hw ha
  rw [among_self, h] at hself
  exact objs_of_among (Prod.ext_iff.mp (Option.some.inj hself)).2 hoid pool

/-- nor does a rollback, -/
theorem rollback_frame {e : FinishEnv} {del : String → Outcome} (hw : tx.Within oids)
    (h : rboxTransactionSaveRollback S e del tx = some tx') (hoid : oid ∉ oids)
    (pool : MailPool) : tx'.objs pool oid = tx.objs pool oid := by
  have hself := @rollback_among S oids tx.objs tx e del hw
  rw [among_self, h] at hself
  exact objs_of_among (Option.some.inj hself) hoid pool

/-- nor a commit. -/
theorem commitTransaction_frame {e : CommitEnv} {indexCommit : Bool}
    {r : MailObjs × Option (List String)} (hw : tx.Within oids)
    (h : commitTransaction S e indexCommit tx = some r) (hoid : oid ∉ oids) (pool : MailPool) :
    r.1 pool oid = tx.objs pool oid := by
  have hself := @commitTransaction_among S oids tx.objs tx e indexCommit hw
  rw [among_self, h] at hself
  rw [(Prod.ext_iff.mp (Option.some.inj hself)).1]
  exact if_neg hoid

end Frame

end DovecotCeph
