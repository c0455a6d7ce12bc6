/-
  File:      DovecotCeph/Storage/SyncEnd.lean
  Subject:   Who ends an index sync: `rbox_sync`, and the end of a save transaction --
             `rbox_transaction_save_commit_pre`, `_commit_post` and `_rollback` (rbox-save.cpp).

  * `commitPreSync`, `commitPostSync`, `rollbackSync`: what they do with `sync_ctx`;
    `commitPreSync_agrees`: they are the functions of `SaveCommit`, with the sync in place of its
    outcome;
  * `EndedOnce`: the index sync an operation begins is committed or rolled back once, and none is
    touched again;
  * **`index_syncs_ended_once_iff`**: in which runs this holds of every operation.
-/
import DovecotCeph.Storage.Sync
import DovecotCeph.Storage.SaveCommit

namespace DovecotCeph

/-! ## 1. The end of a save transaction -/

/-- What the end of a save transaction meets: the sync, the uids, the transaction, and whether
    Dovecot commits it to the index. -/
structure SaveEnd where
  sync : SyncEnv
  env : CommitEnv
  tx : SaveTx
  indexCommit : Bool := true

/-- `r_ctx->rados_mails`. -/
def SaveEnd.mails (t : SaveEnd) : List String := (t.tx.ctx.map (·.radosMails)).getD []

/-- `rbox_transaction_save_rollback`. -/
def rollbackSync (e : SyncEnv) : Option SyncContext → SyncWorld → Option Int × SyncWorld
  | none, w => (some (-1), w)
  | some ctx, w => rboxSyncFinish e false ctx w

/-- Return code, `none` where the process ends, `r_ctx->sync_ctx`, and the world. -/
structure PreResult where
  ret : Option Int
  ctx : Option SyncContext
  w : SyncWorld

/-- `rbox_transaction_save_commit_pre`. Without a context it reads through a null pointer; a view
    that is gone is read as before. -/
def commitPreSync (S : SyncSetup) (t : SaveEnd) (w : SyncWorld) : PreResult :=
  let b := rboxSyncBegin S t.sync w
  if b.1 < 0 then ⟨some (-1), none, b.2.2⟩
  else match b.2.1 with
    | none => ⟨none, none, b.2.2⟩
    | some ctx =>
      -- no rollback on this path
      if t.sync.header.isNone then ⟨some (-1), some ctx, b.2.2⟩
      else if (rboxSaveAssignUids t.env t.mails 0 t.tx).1 then ⟨some 0, some ctx, b.2.2⟩
      else
        let r := rollbackSync t.sync (some ctx) b.2.2
        ⟨r.1, none, r.2⟩

/-- `rbox_transaction_save_commit_post`: `mail_index_sync_set_commit_result` needs the index
    sync. -/
def commitPostSync (e : SyncEnv) : Option SyncContext → SyncWorld → Option Int × SyncWorld
  | none, w => (none, w)
  | some ctx, w => if ctx.live then rboxSyncFinish e true ctx w else (none, w)

/-- **The end of a save transaction**: after a `commit_pre` that fails Dovecot drops the save
    context; after one that succeeds it calls `commit_post`, or the rollback if the index
    transaction cannot be committed. -/
def saveTransaction (S : SyncSetup) (t : SaveEnd) (w : SyncWorld) : Option Int × SyncWorld :=
  let p := commitPreSync S t w
  match p.ret with
  | none => (none, p.w)
  | some ret =>
    if ret < 0 then (some ret, p.w)
    else if t.indexCommit then commitPostSync t.sync p.ctx p.w
    else rollbackSync t.sync p.ctx p.w

/-- The operations: a sync, a save transaction that is committed, and one that is rolled back. -/
inductive SyncOp where
  | sync (e : SyncEnv)
  | save (t : SaveEnd)
  | rollback (t : SaveEnd)

def SyncOp.run (S : SyncSetup) (w : SyncWorld) : SyncOp → Option Int × SyncWorld
  | .sync e => rboxSync e S w
  | .save t => saveTransaction S t w
  | .rollback t => rollbackSync t.sync none w

/-- The operations that are carried out, until the process ends, each with its events. -/
def history (S : SyncSetup) : List SyncOp → SyncWorld → List (SyncOp × List SyncEvent)
  | [], _ => []
  | op :: ops, w =>
    let r := op.run S { w with log := [] }
    (op, r.2.log) :: if r.1.isNone then [] else history S ops r.2

section Agrees

variable {S : SyncSetup} {t : SaveEnd} {w : SyncWorld}

/-- The commit environment of `SaveCommit`, with the outcome of this sync. -/
def SaveEnd.commitEnv (S : SyncSetup) (t : SaveEnd) (w : SyncWorld) : CommitEnv :=
  { t.env with
    syncBegin := 0 ≤ (rboxSyncBegin S t.sync w).1
    header := t.sync.header.isSome }

theorem assignUids_commitEnv (oids : List String) (n : Nat) (tx : SaveTx) :
    rboxSaveAssignUids (t.commitEnv S w) oids n tx = rboxSaveAssignUids t.env oids n tx := by
  induction oids generalizing n tx with
  | nil => rfl
  | cons oid oids ih =>
      unfold rboxSaveAssignUids
      rw [ih, ih]
      rfl

theorem saveRollback_isSome {SS : SaveSetup} {e : FinishEnv} {del : String → Outcome} {tx : SaveTx}
    {c : SaveCtx} (hctx : tx.ctx = some c) (hfin : c.finished = true) :
    ∃ tx', rboxTransactionSaveRollback SS e del tx = some tx' := by
  unfold rboxTransactionSaveRollback
  rw [hctx]
  dsimp only
  rw [if_pos hfin]
  exact ⟨_, rfl⟩

theorem finish_false_ret (e : SyncEnv) (ctx : SyncContext) (w : SyncWorld) :
    (rboxSyncFinish e false ctx w).1 = none ∨ (rboxSyncFinish e false ctx w).1 = some (-1) := by
  unfold rboxSyncFinish
  cases ctx.live with
  | false => exact .inl rfl
  | true => exact .inr rfl

/-- **The two models of `rbox_transaction_save_commit_pre` agree** on what it returns. -/
theorem commitPreSync_agrees (SS : SaveSetup) {c : SaveCtx} {ret : Int}
    (hctx : t.tx.ctx = some c) (hfin : c.finished = true)
    (h : (commitPreSync S t w).ret = some ret) :
    (rboxTransactionSaveCommitPre SS (t.commitEnv S w) t.tx).map Prod.fst = some ret := by
  have hmails : t.mails = c.radosMails := by rw [SaveEnd.mails, hctx]; rfl
  have hassign : rboxSaveAssignUids (t.commitEnv S w) c.radosMails 0 t.tx =
      rboxSaveAssignUids t.env t.mails 0 t.tx := by rw [assignUids_commitEnv, hmails]
  have hctx' : (rboxSaveAssignUids t.env t.mails 0 t.tx).2.ctx = some c :=
    (rboxSaveAssignUids_assigns _ _ _).ctx.trans hctx
  unfold rboxTransactionSaveCommitPre
  rw [hctx, Option.bind_some, hfin, hassign]
  unfold commitPreSync at h
  dsimp only at h
  split at h
  case isTrue hneg =>
    cases h
    have hbegin : (t.commitEnv S w).syncBegin = false := decide_eq_false (by omega)
    simp only [hbegin, Bool.not_true, Bool.not_false, Bool.false_eq_true, if_false, if_true]
    rw [Option.map_map]
    refine Option.map_eq_some_iff.mpr ?_
    exact (saveRollback_isSome rfl rfl).imp fun tx' htx' => ⟨htx', rfl⟩
  case isFalse hneg =>
    have hbegin : (t.commitEnv S w).syncBegin = true := decide_eq_true (by omega)
    split at h
    case h_1 => cases h
    case h_2 ctx _ =>
      cases hh : t.sync.header with
      | none =>
          rw [hh] at h
          have hheader : (t.commitEnv S w).header = false := by rw [SaveEnd.commitEnv, hh]; rfl
          simp [hbegin, hheader]
          exact Option.some.inj h
      | some hdr =>
          rw [hh, Option.isNone_some, if_neg Bool.false_ne_true] at h
          have hheader : (t.commitEnv S w).header = true := by rw [SaveEnd.commitEnv, hh]; rfl
          split at h
          case isTrue hok =>
            simp [hbegin, hheader, hok]
            exact Option.some.inj h
          case isFalse hno =>
            obtain ⟨tx', htx'⟩ := @saveRollback_isSome SS (t.commitEnv S w).cancel
              (t.commitEnv S w).del _ _ hctx' hfin
            have hret : ret = -1 := by
              rcases finish_false_ret t.sync ctx (rboxSyncBegin S t.sync w).2.2 with hr | hr
              · cases hr.symm.trans h
              · exact Option.some.inj (h.symm.trans hr)
            simp [hbegin, hheader, hno, htx', hret]

end Agrees

/-! ## 2. Ended once -/

def SyncEvent.isEnd : SyncEvent → Bool
  | .commit _ | .rollback => true
  | _ => false

def SyncEvent.isSync (ev : SyncEvent) : Bool := ev.isEnd || ev = .begun

/-- **The index sync that was begun is ended once**, by a commit or a rollback, and neither is
    called without one. -/
def EndedOnce (log : List SyncEvent) : Prop :=
  log.filter SyncEvent.isSync = [] ∨
    ∃ ev, ev.isEnd = true ∧ log.filter SyncEvent.isSync = [.begun, ev]

/-- Every uid can be written. -/
def SaveEnd.AssignsUids (t : SaveEnd) : Prop :=
  t.env.uidAttribute = true → ∀ n < t.mails.length, t.env.issued n = true

/-- **The operations that end their index sync once.** A sync must not meet an index without uid
    validity. A save transaction may, if it gets to `commit_post`, where the process ends; after a
    rebuild the header of its view must be there. -/
def SyncOp.Ok : SyncOp → Prop
  | .sync e => e.Begun → ¬ e.Broken
  | .save t => t.sync.Begun →
      (t.sync.Broken → t.AssignsUids ∧ t.indexCommit = true) ∧
        (t.sync.rebuild = true → t.sync.header.isSome = true)
  | .rollback _ => True

section Ended

variable {S : SyncSetup} {e : SyncEnv} {t : SaveEnd} {ctx : SyncContext} {w : SyncWorld}

theorem filter_isSync_removals (items : List ExpungedItem) :
    (items.flatMap (removalEvents e)).filter SyncEvent.isSync = [] := by
  refine List.filter_eq_nil_iff.mpr fun ev hev => ?_
  obtain ⟨item, _, hev⟩ := List.mem_flatMap.mp hev
  rcases (mem_removalEvents hev).2 with rfl | ⟨rfl, _⟩ <;>
    simp [SyncEvent.isSync, SyncEvent.isEnd]

/-- A finish adds one end. -/
theorem finish_isSync (success : Bool) (ctx : SyncContext) (w : SyncWorld) :
    ∃ ev, ev.isEnd = true ∧ (rboxSyncFinish e success ctx w).2.log.filter SyncEvent.isSync =
      w.log.filter SyncEvent.isSync ++ [ev] := by
  by_cases h : success = true ∧ ctx.live = true ∧ e.commit = true
  · obtain ⟨rfl, hl, hc⟩ := h
    refine ⟨.commit true, rfl, ?_⟩
    rw [rboxSyncFinish_commit hl hc, (expungeObjects_frame _ _).1, List.filter_append,
      List.filter_append, filter_isSync_removals, List.append_nil]
    rfl
  · refine ⟨if success then .commit false else .rollback, by cases success <;> rfl, ?_⟩
    rw [rboxSyncFinish_idle h, SyncWorld.emit, List.filter_append]
    cases success <;> rfl

/-- The end of an index sync that is going on. -/
theorem endedOnce_finish (success : Bool) (hlog : w.log = [.begun]) :
    EndedOnce (rboxSyncFinish e success ctx w).2.log := by
  obtain ⟨ev, hev, hfilter⟩ := @finish_isSync e success ctx w
  refine .inr ⟨ev, hev, ?_⟩
  rw [hfilter, hlog]
  rfl

/-- A second end. -/
theorem not_endedOnce_finish (success : Bool) (hlog : w.log = [.begun, .rollback]) :
    ¬ EndedOnce (rboxSyncFinish e success ctx w).2.log := by
  obtain ⟨ev, hev, hfilter⟩ := @finish_isSync e success ctx w
  rw [hlog] at hfilter
  rintro (h | ⟨ev', _, h⟩) <;> rw [hfilter] at h <;> cases h

theorem endedOnce_rolledBack (hlog : w.log = [.begun, .rollback]) : EndedOnce w.log :=
  .inr ⟨.rollback, rfl, by rw [hlog]; rfl⟩

/-- An index sync that is not ended. -/
theorem not_endedOnce_begun (hlog : w.log = [.begun]) : ¬ EndedOnce w.log := by
  rw [hlog]
  rintro (h | ⟨ev', _, h⟩) <;> cases h

theorem rboxSync_ended_iff (hlog : w.log = []) :
    EndedOnce (rboxSync e S w).2.log ↔ (SyncOp.sync e).Ok := by
  unfold rboxSync syncBeginFinish
  have hout := @rboxSyncBegin_outcome S e w
  generalize rboxSyncBegin S e w = b at hout
  cases hout with
  | idle ret hret hnot =>
      refine ⟨fun _ h => absurd h hnot, fun _ => .inl ?_⟩
      rw [hlog]
      rfl
  | failed w' hbegun hrebuild hsound hlog' hexp hobjs =>
      rw [hlog] at hlog'
      exact ⟨fun _ _ => hsound, fun _ => endedOnce_rolledBack hlog'⟩
  | dead ctx w' hbegun hbroken hlive hlog' hexp hobjs =>
      rw [hlog] at hlog'
      exact ⟨fun h => absurd h (not_endedOnce_finish true hlog'),
        fun h => absurd hbroken (h hbegun)⟩
  | live ctx w' hbegun hsound hlive hlog' hexp hobjs hview hinv hheader hreq =>
      rw [hlog] at hlog'
      exact ⟨fun _ _ => hsound, fun _ => endedOnce_finish true hlog'⟩

/-- When `rbox_save_assign_uids` succeeds. -/
theorem assignUids_iff (c : CommitEnv) (oids : List String) (n : Nat) (tx : SaveTx) :
    (rboxSaveAssignUids c oids n tx).1 = true ↔
      (c.uidAttribute = true → ∀ i < oids.length, c.issued (n + i) = true) := by
  induction oids generalizing n tx with
  | nil => exact ⟨fun _ _ i hi => absurd hi (Nat.not_lt_zero i), fun _ => rfl⟩
  | cons oid oids ih =>
      unfold rboxSaveAssignUids
      cases hu : c.uidAttribute with
      | false =>
          rw [if_neg Bool.false_ne_true, ih, hu]
          exact ⟨fun _ h => (Bool.false_ne_true h).elim, fun _ h => (Bool.false_ne_true h).elim⟩
      | true =>
          rw [if_pos rfl]
          split
          case isTrue hn =>
            rw [ih, hu]
            constructor
            · intro h _ i hi
              cases i with
              | zero => exact hn
              | succ i =>
                  rw [show n + (i + 1) = n + 1 + i by omega]
                  exact h rfl i (Nat.lt_of_succ_lt_succ hi)
            · intro h _ i hi
              rw [show n + 1 + i = n + (i + 1) by omega]
              exact h rfl (i + 1) (Nat.succ_lt_succ hi)
          case isFalse hn =>
            refine ⟨fun h => (Bool.false_ne_true h).elim, fun h => absurd ?_ hn⟩
            exact h rfl 0 (Nat.zero_lt_succ _)

theorem assigned_iff : (rboxSaveAssignUids t.env t.mails 0 t.tx).1 = true ↔ t.AssignsUids := by
  rw [assignUids_iff, SaveEnd.AssignsUids]
  simp only [Nat.zero_add]

/-- What a save transaction does with the context it has got. -/
theorem saveTransaction_of_ctx {w' : SyncWorld}
    (hb : rboxSyncBegin S t.sync w = (0, some ctx, w')) :
    (saveTransaction S t w).2 =
      if t.sync.header.isNone then w'
      else if (rboxSaveAssignUids t.env t.mails 0 t.tx).1 && t.indexCommit then
        (if ctx.live then (rboxSyncFinish t.sync true ctx w').2 else w')
      else (rboxSyncFinish t.sync false ctx w').2 := by
  unfold saveTransaction commitPreSync
  rw [hb]
  dsimp only
  rw [if_neg (by decide)]
  cases t.sync.header.isNone with
  | true => rfl
  | false =>
      rw [if_neg Bool.false_ne_true, if_neg Bool.false_ne_true]
      cases (rboxSaveAssignUids t.env t.mails 0 t.tx).1 with
      | false =>
          rcases finish_false_ret t.sync ctx w' with h | h <;> simp [rollbackSync, h]
      | true =>
          cases t.indexCommit with
          | false => rfl
          | true =>
              cases hl : ctx.live with
              | false => simp [commitPostSync, hl]
              | true => simp [commitPostSync, hl]

theorem saveTransaction_of_none {ret : Int} {w' : SyncWorld}
    (hb : rboxSyncBegin S t.sync w = (ret, none, w')) : (saveTransaction S t w).2 = w' := by
  unfold saveTransaction commitPreSync
  rw [hb]
  by_cases h : ret < 0 <;> simp [h]

theorem saveTransaction_ended_iff (hlog : w.log = []) :
    EndedOnce (saveTransaction S t w).2.log ↔ (SyncOp.save t).Ok := by
  have hout := @rboxSyncBegin_outcome S t.sync w
  generalize hb : rboxSyncBegin S t.sync w = b at hout
  cases hout with
  | idle ret hret hnot =>
      refine ⟨fun _ h => absurd h hnot, fun _ => .inl ?_⟩
      rw [saveTransaction_of_none hb, hlog]
      rfl
  | failed w' hbegun hrebuild hsound hlog' hexp hobjs =>
      rw [hlog] at hlog'
      rw [saveTransaction_of_none hb]
      refine ⟨fun _ _ => ⟨fun h => absurd h hsound, fun h => ?_⟩,
        fun _ => endedOnce_rolledBack hlog'⟩
      exact absurd (hrebuild.symm.trans h) (by decide)
  | dead ctx w' hbegun hbroken hlive hlog' hexp hobjs =>
      rw [hlog] at hlog'
      obtain ⟨hrebuild, hdr, hhdr, _⟩ := hbroken
      rw [saveTransaction_of_ctx hb, hhdr, Option.isNone_some, if_neg Bool.false_ne_true, hlive]
      split
      case isTrue hdone =>
        -- the process ends in `rbox_transaction_save_commit_post`
        rw [if_neg Bool.false_ne_true]
        rw [Bool.and_eq_true, assigned_iff] at hdone
        refine ⟨fun _ _ => ⟨fun _ => hdone, fun h => ?_⟩, fun _ => endedOnce_rolledBack hlog'⟩
        exact absurd (hrebuild.symm.trans h) (by decide)
      case isFalse hdone =>
        rw [Bool.and_eq_true, assigned_iff] at hdone
        exact ⟨fun h => absurd h (not_endedOnce_finish false hlog'),
          fun h => absurd ((h hbegun).1 ⟨hrebuild, hdr, hhdr, ‹_›⟩) hdone⟩
  | live ctx w' hbegun hsound hlive hlog' hexp hobjs hview hinv hheader hreq =>
      rw [hlog] at hlog'
      rw [saveTransaction_of_ctx hb, hlive, if_pos rfl]
      cases hh : t.sync.header with
      | none =>
          have hrebuild : t.sync.rebuild = true := by
            cases hr : t.sync.rebuild with
            | true => rfl
            | false =>
                have hsome := hheader hr
                rw [hh] at hsome
                cases hsome
          refine ⟨fun h => absurd h (not_endedOnce_begun hlog'), fun h => ?_⟩
          have hsome := (h hbegun).2 hrebuild
          rw [hh] at hsome
          cases hsome
      | some hdr =>
          rw [Option.isNone_some, if_neg Bool.false_ne_true]
          refine ⟨fun _ _ => ⟨fun h => absurd h hsound, fun _ => by rw [hh]; rfl⟩, fun _ => ?_⟩
          split
          · exact endedOnce_finish true hlog'
          · exact endedOnce_finish false hlog'

theorem syncOp_ended_iff (op : SyncOp) (hlog : w.log = []) :
    EndedOnce (op.run S w).2.log ↔ op.Ok := by
  cases op with
  | sync e => exact rboxSync_ended_iff hlog
  | save t => exact saveTransaction_ended_iff hlog
  | rollback t =>
      refine ⟨fun _ => trivial, fun _ => .inl ?_⟩
      rw [SyncOp.run, rollbackSync, hlog]
      rfl

end Ended

/-! ## 3. Runs -/

/-- **Which runs end every index sync once.** Over all sequences of syncs and save transactions,
    all headers, records and failures: the operations that are carried out each end the index sync
    they begin exactly once, and touch none that is over, exactly if each of them is `Ok`. -/
theorem index_syncs_ended_once_iff (S : SyncSetup) (ops : List SyncOp) (w : SyncWorld) :
    (∀ h ∈ history S ops w, EndedOnce h.2) ↔ ∀ h ∈ history S ops w, h.1.Ok := by
  induction ops generalizing w with
  | nil => exact ⟨fun _ _ h => absurd h List.not_mem_nil, fun _ _ h => absurd h List.not_mem_nil⟩
  | cons op ops ih =>
      have hop := @syncOp_ended_iff S { w with log := [] } op rfl
      unfold history
      dsimp only
      rw [List.forall_mem_cons, List.forall_mem_cons, hop]
      split
      case isTrue => simp
      case isFalse => rw [ih]

/-- A sync of a mailbox with mails whose index has lost its uid validity. -/
def brokenSync : SyncEnv where
  view := ⟨[], List.Pairwise.nil⟩
  header := some ⟨0, 5⟩
  recs := []
  remove := fun _ _ => ⟨0, true⟩

/-- The index sync is rolled back by `rbox_sync_begin`, and committed by `rbox_sync_finish`. -/
theorem broken_index_committed_after_rollback :
    ¬ ∀ h ∈ history ⟨⟨true, false⟩, false, false⟩ [.sync brokenSync]
      { objs := fun _ _ => none, ms := .primary }, EndedOnce h.2 := by
  intro h
  have hlog := h (.sync brokenSync, [.begun, .rollback, .commit false]) List.mem_cons_self
  rcases hlog with hnil | ⟨ev, _, hev⟩
  · cases hnil
  · cases hev

end DovecotCeph
