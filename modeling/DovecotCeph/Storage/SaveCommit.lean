/-
  File:      DovecotCeph/Storage/SaveCommit.lean
  Subject:   Committing a save transaction (rbox-save.cpp): `rbox_transaction_save_commit_pre`, the
             commit of the index transaction, and `rbox_transaction_save_commit_post`, which ends
             in the rollback function and so, with `failed` set, in `clean_up_failed`.

  * `MailRun`: what becomes of one mail -- saved, cancelled, copied -- as a sequence of calls;
  * `TransactionOk`: the transactions the shared `failed` flag and record list cope with;
  * **`commit_saves_exactly`**: such a transaction commits the mails that were saved, each with its
    whole object, and no other.
-/
import DovecotCeph.Storage.SaveWrite

namespace DovecotCeph

/-! ## 1. Commit -/

/-- What `rbox_transaction_save_commit_pre` and `_post` meet: the outcome of `rbox_sync_begin`,
    whether the index header is there, whether `U` is a configured mail attribute, the uids, and
    for each mail whether its `U` operation can be issued and whether it takes effect. -/
structure CommitEnv where
  syncBegin : Bool := true
  header : Bool := true
  uidAttribute : Bool := true
  uids : Nat → String
  issued : Nat → Bool := fun _ => true
  lands : Nat → Bool := fun _ => true
  syncFinish : Bool := true
  cancel : FinishEnv := {}
  del : String → Outcome := fun _ => .done

/-- The `U` attribute. -/
def uidXattr (uid : String) : String → Option String := fun k => if k = "U" then some uid else none

/-- `rbox_save_assign_uids`. -/
def rboxSaveAssignUids (e : CommitEnv) : List String → Nat → SaveTx → Bool × SaveTx
  | [], _, tx => (true, tx)
  | oid :: oids, n, tx =>
    if e.uidAttribute then
      if e.issued n then
        rboxSaveAssignUids e oids (n + 1)
          (if e.lands n then tx.put .primary oid (·.setXattrs (uidXattr (e.uids n))) else tx)
      else (false, tx)
    else rboxSaveAssignUids e oids (n + 1) tx

/-- `rbox_transaction_save_commit_pre`. -/
def rboxTransactionSaveCommitPre (S : SaveSetup) (e : CommitEnv) (tx : SaveTx) :
    Option (Int × SaveTx) :=
  tx.ctx.bind fun c =>
    if !c.finished then none
    else if !e.syncBegin then
      (rboxTransactionSaveRollback S e.cancel e.del
        { tx with ctx := some { c with failed := true } }).map fun tx => (-1, tx)
    else if !e.header then some (-1, tx)
    else
      let r := rboxSaveAssignUids e c.radosMails 0 tx
      if r.1 then some (0, r.2)
      else (rboxTransactionSaveRollback S e.cancel e.del r.2).map fun tx => (-1, tx)

/-- `mail_index_transaction_commit`: the records of the open transaction go to the index. -/
def commitIndex (tx : SaveTx) : SaveTx :=
  { tx with index := tx.index ++ tx.records.map Prod.snd, records := [] }

/-- `rbox_transaction_save_commit_post`. -/
def rboxTransactionSaveCommitPost (S : SaveSetup) (e : CommitEnv) (tx : SaveTx) : Option SaveTx :=
  rboxTransactionSaveRollback S e.cancel e.del
    (if e.syncFinish then tx
      else { tx with ctx := tx.ctx.map fun c => { c with failed := true } })

/-! ## 2. Mails -/

/-- A mail that goes through begin, continue and finish or cancel; `viaCopy` when a copy falls
    back to saving. -/
structure SavedMail where
  oid : String
  conn : Bool := true
  viaCopy : Bool := false
  conts : List (List (Bytes × Bool) × Bool)
  fin : FinishEnv := {}

/-- What happens to one mail of a transaction. `copyAborted` is a copy by saving that ends before
    its begin: the connection fails, or `mail_storage_copy` cancels. -/
inductive MailRun where
  | saved (m : SavedMail)
  | cancelled (m : SavedMail)
  | copied (k : CopyCall)
  | copyAborted (conn : Bool) (e : FinishEnv)

namespace SavedMail

def prologue (m : SavedMail) : List SaveCall :=
  .alloc :: ((if m.viaCopy then [.copySaving true] else []) ++
    .begin m.oid m.conn :: m.conts.map fun c => .continue c.1 c.2)

/-- The pieces the stream gets, in order. -/
def pieces (m : SavedMail) : List (Bytes × Bool) := m.conts.flatMap (·.1) ++ m.fin.sends

/-- The mail's bytes. -/
def bytes (m : SavedMail) : Bytes := m.pieces.flatMap (·.1)

end SavedMail

namespace MailRun

/-- The calls but the last, the last call, and whether that one can report a success. -/
def before : MailRun → List SaveCall
  | .saved m => m.prologue
  | .cancelled m => m.prologue
  | .copied _ => [.alloc]
  | .copyAborted conn _ => if conn then [.alloc, .copySaving true] else [.alloc]

def last : MailRun → SaveCall
  | .saved m => .finish m.fin
  | .cancelled m => .cancel m.fin
  | .copied k => .copy k
  | .copyAborted conn e => if conn then .cancel e else .copySaving false

def reports : MailRun → Bool
  | .saved _ => true
  | .cancelled _ => false
  | .copied _ => true
  | .copyAborted .. => false

/-- The oid the mail got, the pool and the content its object should have. -/
def oid : MailRun → Option String
  | .saved m => some m.oid
  | .cancelled m => some m.oid
  | .copied k => some k.oid
  | .copyAborted .. => none

def pool : MailRun → MailPool
  | .copied k => k.pool
  | _ => .primary

def data : MailRun → Bytes
  | .saved m => m.bytes
  | .cancelled m => m.bytes
  | .copied k => (k.src.map (·.data)).getD []
  | .copyAborted .. => []

def metadata : MailRun → String → Option String
  | .saved m => m.fin.metadata
  | .cancelled m => m.fin.metadata
  | .copied k => k.update
  | .copyAborted .. => fun _ => none

end MailRun

/-- One mail: did its finish (or copy) return success, and the transaction after it. -/
def runMail (S : SaveSetup) (tx : SaveTx) (m : MailRun) : Option (Bool × SaveTx) :=
  (saveCalls S tx m.before).bind fun tx =>
    (saveCall S tx m.last).map fun r => (m.reports && decide (0 ≤ r.1), r.2)

/-- The mails of a transaction in order, each with its result. -/
def runMails (S : SaveSetup) : SaveTx → List MailRun → Option (SaveTx × List (MailRun × Bool))
  | tx, [] => some (tx, [])
  | tx, m :: ms => (runMail S tx m).bind fun r =>
      (runMails S r.2 ms).map fun q => (q.1, (m, r.1) :: q.2)

/-! ## 3. Right outcomes -/

/-- **Exactly the mails that were saved are committed**, each with its whole object. -/
def SavesExactly (results : List (MailRun × Bool)) (tx : SaveTx) : Prop :=
  ∀ m ok oid, (m, ok) ∈ results → m.oid = some oid →
    (ok = true → oid ∈ tx.index ∧ Complete tx.objs m.pool oid m.data m.metadata) ∧
    (ok = false → oid ∉ tx.index)

/-- A save without trouble: the streams and every RADOS operation succeed, the size is neither
    zero nor too large, and with `rbox_ceph_write_chunks` the mail is one piece of one chunk. -/
structure SaveOk (S : SaveSetup) (m : SavedMail) : Prop where
  conts : ∀ c ∈ m.conts, c.2 = true
  flush : m.fin.flushOk = true
  nonempty : m.bytes.length ≠ 0
  objectSize : (m.bytes.length : Int) ≤ S.maxObjectSize
  intSize : m.bytes.length < 2 ^ 31
  metadata : m.fin.metadataOk = true
  dataOk : ∀ i < rounds S m.bytes.length, m.fin.dataOk i = true
  chunks : S.writeChunks = true → m.pieces.length = 1 ∧ m.bytes.length ≤ S.maxWrite

/-- A mail that either succeeds or gets no index record. -/
def MailOk (S : SaveSetup) : MailRun → Prop
  | .saved m => m.conn = true → SaveOk S m
  | .cancelled m => m.conn = false
  | .copied _ => True
  | .copyAborted .. => True

/-- The mail is saved or copied. -/
def Succeeds : MailRun → Prop
  | .saved m => m.conn = true
  | .copied k => k.conn = true ∧ k.ready = true ∧ k.ok = true ∧ k.src.isSome = true
  | _ => False

/-- The mail is one of a save that leaves the `failed` flag set. -/
def LeavesFailed : MailRun → Prop
  | .saved m => m.conn = false
  | .cancelled _ => True
  | .copied _ => False
  | .copyAborted conn _ => conn = true

/-- **The transactions that are committed right**: no mail with an index record fails, and the
    last mail does not leave `failed` set unless none was saved. -/
def TransactionOk (S : SaveSetup) (ms : List MailRun) : Prop :=
  (∀ m ∈ ms, MailOk S m) ∧
    ((∃ m ∈ ms, Succeeds m) → ∀ m, ms.getLast? = some m → ¬ LeavesFailed m)

/-- The oids of the mails are new (`guid_128_generate`): pairwise different, neither in the index
    nor in RADOS. -/
structure NewOids (objs : MailObjs) (index : List String) (ms : List MailRun) : Prop where
  distinct : (ms.filterMap MailRun.oid).Nodup
  index : ∀ oid ∈ ms.filterMap MailRun.oid, oid ∉ index
  objs : ∀ oid ∈ ms.filterMap MailRun.oid, ∀ pool, objs pool oid = none

/-! ## 4. One mail -/

section Calls

variable {S : SaveSetup} {tx : SaveTx} {c : SaveCtx}

/-- `rbox_save_alloc` keeps the list; only the first one leaves `failed` set. -/
theorem rboxSaveAlloc_spec (tx : SaveTx) :
    ∃ c, rboxSaveAlloc tx = { tx with ctx := some c } ∧ c.radosMails = tx.mails ∧
      c.stream = .none ∧ (c.failed = true → tx.ctx = none) := by
  unfold rboxSaveAlloc SaveTx.mails
  cases tx.ctx with
  | none => exact ⟨_, rfl, rfl, rfl, fun _ => rfl⟩
  | some c => exact ⟨_, rfl, rfl, rfl, nofun⟩

/-- After a failed begin the continue calls do nothing. -/
theorem continues_failed (hc : tx.ctx = some c) (hf : c.failed = true)
    (conts : List (List (Bytes × Bool) × Bool)) :
    saveCalls S tx (conts.map fun k => .continue k.1 k.2) = some tx := by
  induction conts with
  | nil => rfl
  | cons k conts ih =>
      have hstep : saveCall S tx (.continue k.1 k.2) = some (-1, tx) := by
        simp [saveCall, hc, rboxSaveContinue, hf]
      rw [List.map_cons, saveCalls, hstep]
      exact ih

/-- Successful continue calls feed the stream. -/
theorem continues_ok {cur : Cur} {conts : List (List (Bytes × Bool) × Bool)}
    (hok : ∀ k ∈ conts, k.2 = true) (tx : SaveTx) (hf : c.failed = false) :
    saveCalls S { tx with ctx := some { c with stream := .live cur } }
        (conts.map fun k => .continue k.1 k.2) =
      some { ((conts.flatMap (·.1)).foldl (sendv S) (cur, tx)).2 with
        ctx := some { c with
          stream := .live ((conts.flatMap (·.1)).foldl (sendv S) (cur, tx)).1 } } := by
  induction conts generalizing cur tx with
  | nil => rfl
  | cons k conts ih =>
      have hk : k.2 = true := hok k List.mem_cons_self
      have hstep : saveCall S { tx with ctx := some { c with stream := .live cur } }
          (.continue k.1 k.2) = some (0, { (k.1.foldl (sendv S) (cur, tx)).2 with
            ctx := some { c with stream := .live (k.1.foldl (sendv S) (cur, tx)).1 } }) := by
        simp [saveCall, rboxSaveContinue, hf, hk, sends_ctx]
      rw [List.map_cons, saveCalls, hstep]
      show saveCalls S _ _ = _
      rw [ih (fun k' hk' => hok k' (List.mem_cons_of_mem _ hk')), List.flatMap_cons,
        List.foldl_append]

/-- A mail up to its begin. -/
theorem prologue_begin (m : SavedMail) (tx : SaveTx) :
    ∃ c : SaveCtx, c.radosMails = tx.mails ∧
      saveCalls S tx m.prologue = saveCalls S (rboxSaveBegin m.oid m.conn c tx).2
        (m.conts.map fun k => .continue k.1 k.2) := by
  obtain ⟨c, halloc, hmails, _, _⟩ := rboxSaveAlloc_spec tx
  unfold SavedMail.prologue
  cases m.viaCopy with
  | false =>
      refine ⟨c, hmails, ?_⟩
      show saveCalls S (rboxSaveAlloc tx) (.begin m.oid m.conn :: _) = _
      rw [halloc]
      cases m.conn <;> rfl
  | true =>
      refine ⟨{ c with finished := true }, hmails, ?_⟩
      show saveCalls S (rboxSaveAlloc tx) (.copySaving true :: .begin m.oid m.conn :: _) = _
      rw [halloc]
      cases m.conn <;> rfl

/-- The finish of a mail that has failed before. -/
theorem rboxSaveFinish_failed (e : FinishEnv) {cur : Cur} (hf : c.failed = true)
    (hs : c.stream = .live cur) (tx : SaveTx) :
    rboxSaveFinish S e c tx = some (endFinish c true (e.sends.foldl (sendv S) (cur, tx)).2) := by
  simp [rboxSaveFinish, hs, hf]

/-- The finish of a mail of acceptable size is decided by the writing. -/
theorem rboxSaveFinish_writes {e : FinishEnv} {cur : Cur} {r : Cur × SaveTx}
    (hf : c.failed = false) (hs : c.stream = .live cur) (hflush : e.flushOk = true)
    (hr : e.sends.foldl (sendv S) (cur, tx) = r) (hpos : r.1.offset ≠ 0)
    (hint : r.1.offset < 2 ^ 31) (hsize : (r.1.offset : Int) ≤ S.maxObjectSize) :
    rboxSaveFinish S e c tx =
      (saveMailWriteAppend S e r.1.oid r.1.buffer r.1.offset r.2).map fun w =>
        endFinish c (decide (w.1 < 0)) w.2 := by
  have hle : ¬ S.maxObjectSize < (r.1.offset : Int) := Int.not_lt.mpr hsize
  simp only [rboxSaveFinish, hs, hr, hf, hflush, toInt32_of_lt hint, Bool.not_true, Bool.or_self,
    Bool.false_eq_true, if_false, if_neg hpos, if_neg hle]

end Calls

/-- What one mail does to the transaction: a mail that succeeds adds its oid to the list and to the
    records and writes its object, the others leave list and records alone. -/
structure MailEffect (tx : SaveTx) (m : MailRun) (ok : Bool) (tx' : SaveTx) : Prop where
  index : tx'.index = tx.index
  frame : ∀ pool oid, m.oid ≠ some oid → tx'.objs pool oid = tx.objs pool oid
  finished : ∀ c, tx'.ctx = some c → c.finished = true
  failed : ∀ c, tx'.ctx = some c → c.failed = true → LeavesFailed m ∨ tx.ctx = none ∧ ok = false
  mails : tx'.mails = tx.mails ++ if ok then m.oid.toList else []
  records : tx'.records.map Prod.snd = tx.records.map Prod.snd ++ if ok then m.oid.toList else []
  succeeds : ok = true → Succeeds m
  complete : ok = true → ∀ oid, m.oid = some oid → (∀ pool, tx.objs pool oid = none) →
    Complete tx'.objs m.pool oid m.data m.metadata

section Mail

variable {S : SaveSetup} {tx tx' : SaveTx} {m : SavedMail} {k : CopyCall} {ok : Bool}

/-- A mail that only leaves its marks in the context. -/
theorem mailEffect_idle {run : MailRun} {c : SaveCtx} (hmails : c.radosMails = tx.mails)
    (hfinished : c.finished = true) (hfailed : c.failed = true → LeavesFailed run ∨ tx.ctx = none) :
    MailEffect tx run false { tx with ctx := some c } := by
  refine ⟨rfl, fun _ _ _ => rfl, ?_, ?_, ?_, (List.append_nil _).symm,
    fun h => (Bool.false_ne_true h).elim, fun h => (Bool.false_ne_true h).elim⟩
  · intro c' hc'
    cases hc'
    exact hfinished
  · intro c' hc' hf
    cases hc'
    exact (hfailed hf).imp_right fun hn => ⟨hn, rfl⟩
  · show c.radosMails = tx.mails ++ []
    rw [List.append_nil, hmails]

/-- A mail whose begin failed, whatever ends it: only its own object may have been touched, by the
    stream. -/
theorem runMail_begin_failed (hconn : m.conn = false) {run : MailRun} (hoid : run.oid = some m.oid)
    (hleaves : LeavesFailed run) (hbefore : run.before = m.prologue)
    (hlast : run.last = .finish m.fin ∨ run.last = .cancel m.fin)
    (h : runMail S tx run = some (ok, tx')) : MailEffect tx run ok tx' := by
  obtain ⟨c, hmails, hpro⟩ := prologue_begin (S := S) m tx
  let c₁ : SaveCtx := { c with failed := true, stream := .live ⟨m.oid, [], 0⟩ }
  let tx₁ : SaveTx := { tx with ctx := some c₁ }
  have hbegin : (rboxSaveBegin m.oid m.conn c tx).2 = tx₁ := by
    rw [hconn]
    rfl
  have hbefore' : saveCalls S tx run.before = some tx₁ := by
    rw [hbefore, hpro, hbegin]
    exact continues_failed rfl rfl m.conts
  -- finish and cancel do the same to a mail that has failed
  have hend : saveCall S tx₁ run.last =
      some (endFinish c₁ true (m.fin.sends.foldl (sendv S) (⟨m.oid, [], 0⟩, tx₁)).2) := by
    have hfin := @rboxSaveFinish_failed S c₁ m.fin ⟨m.oid, [], 0⟩ rfl rfl tx₁
    rcases hlast with hl | hl
    · rw [hl]
      exact hfin
    · rw [hl]
      exact hfin
  have htouch := sends_touches (S := S) m.fin.sends (⟨m.oid, [], 0⟩, tx₁)
  rw [runMail, hbefore', Option.bind_some, hend] at h
  cases h
  have hneg : (run.reports && decide (0 ≤ (endFinish c₁ true
      (m.fin.sends.foldl (sendv S) (⟨m.oid, [], 0⟩, tx₁)).2).1)) = false := by
    rw [Bool.and_eq_false_iff]
    exact .inr rfl
  rw [hneg]
  refine ⟨htouch.index, fun pool oid ho => htouch.objs pool oid ?_, ?_, fun _ _ _ => .inl hleaves,
    ?_, ?_, fun h => (Bool.false_ne_true h).elim, fun h => (Bool.false_ne_true h).elim⟩
  · intro heq
    exact ho (heq ▸ hoid)
  · intro c' hc'
    cases hc'
    rfl
  · show c.radosMails = _
    simpa using hmails
  · show List.map Prod.snd (m.fin.sends.foldl (sendv S) (⟨m.oid, [], 0⟩, tx₁)).2.records = _
    rw [htouch.records]
    simp [tx₁]

/-- The continue calls and the finish feed all pieces to one stream. -/
theorem feed_pieces (m : SavedMail) (c : Option SaveCtx) {tx₁ : SaveTx} {r₀ : Cur × SaveTx}
    (hr₀ : (m.conts.flatMap (·.1)).foldl (sendv S) (⟨m.oid, [], 0⟩, tx₁) = r₀) :
    ∃ r, m.pieces.foldl (sendv S) (⟨m.oid, [], 0⟩, tx₁) = r ∧
      m.fin.sends.foldl (sendv S) (r₀.1, { r₀.2 with ctx := c }) =
        (r.1, { r.2 with ctx := c }) ∧
      r.1.offset = m.bytes.length ∧ r.1.oid = m.oid := by
  refine ⟨_, rfl, ?_, ?_, ?_⟩
  · have happ : m.fin.sends.foldl (sendv S) r₀ =
        m.pieces.foldl (sendv S) (⟨m.oid, [], 0⟩, tx₁) := by
      rw [← hr₀, ← List.foldl_append]
      rfl
    rw [sends_ctx, happ]
  · exact (sends_offset m.pieces _).trans (Nat.zero_add _)
  · exact sends_oid m.pieces _

/-- The finish of a mail that is saved without trouble, once its continue calls have fed the
    stream. -/
theorem rboxSaveFinish_saved (hm : SaveOk S m) {c : SaveCtx} {tx₁ : SaveTx}
    (hnew : tx₁.objs .primary m.oid = none) (hf : c.failed = false) {r₀ : Cur × SaveTx}
    (hr₀ : (m.conts.flatMap (·.1)).foldl (sendv S) (⟨m.oid, [], 0⟩, tx₁) = r₀)
    {q : Int × SaveTx}
    (h : rboxSaveFinish S m.fin { c with stream := .live r₀.1 }
      { r₀.2 with ctx := some { c with stream := .live r₀.1 } } = some q) :
    q.1 = 0 ∧ Touches m.oid tx₁ { q.2 with ctx := tx₁.ctx } ∧
      q.2.ctx = some { c with failed := false, finished := true, stream := .stale } ∧
      Complete q.2.objs .primary m.oid m.bytes m.fin.metadata := by
  obtain ⟨r, hr, hfeed, hoff, hroid⟩ := feed_pieces m (some { c with stream := .live r₀.1 }) hr₀
  have htouch : Touches m.oid tx₁ r.2 := by
    rw [← hr]
    exact sends_touches m.pieces (⟨m.oid, [], 0⟩, tx₁)
  have hready := sends_ready hnew fun hw => (hm.chunks hw).1
  rw [hr] at hready
  obtain ⟨hbuf, hempty, hlen⟩ := hready
  replace hbuf : r.1.buffer = m.bytes := hbuf
  have hfin := @rboxSaveFinish_writes S { r₀.2 with ctx := some { c with stream := .live r₀.1 } }
    { c with stream := .live r₀.1 } m.fin r₀.1 _ hf rfl hm.flush hfeed
    (by rw [hoff]; exact hm.nonempty) (by rw [hoff]; exact hm.intSize)
    (by rw [hoff]; exact hm.objectSize)
  rw [hfin, hoff, hroid, hbuf] at h
  have hmax : 0 < S.maxWrite := by
    rcases Nat.eq_zero_or_pos S.maxWrite with h0 | h0
    · simp [saveMailWriteAppend, h0] at h
    · exact h0
  obtain ⟨tx₂, hwrite, htouch₂, hcomplete⟩ := @saveMailWriteAppend_complete S
    { r.2 with ctx := some { c with stream := .live r₀.1 } } m.oid m.bytes m.fin hmax
    (Nat.pos_iff_ne_zero.mpr hm.nonempty) hm.intSize hm.metadata hm.dataOk hempty hlen
    (fun hw => (hm.chunks hw).2)
  rw [hwrite] at h
  cases h
  refine ⟨rfl, ⟨fun pool oid ho => ?_, rfl, ?_, ?_, ?_⟩, rfl, hcomplete⟩
  · exact (htouch₂.objs pool oid ho).trans (htouch.objs pool oid ho)
  · exact htouch₂.nextSeq.trans htouch.nextSeq
  · exact htouch₂.records.trans htouch.records
  · exact htouch₂.index.trans htouch.index

/-- The transaction with an index record for the object. -/
def SaveTx.withRecord (tx : SaveTx) (oid : String) : SaveTx :=
  { tx with nextSeq := tx.nextSeq + 1, records := tx.records ++ [(tx.nextSeq, oid)] }

/-- A mail whose begin and continue calls succeed ends with its finish. -/
theorem runMail_begun (hconn : m.conn = true) (hconts : ∀ k ∈ m.conts, k.2 = true)
    (h : runMail S tx (.saved m) = some (ok, tx')) {r₀ : Cur × SaveTx}
    (hr₀ : (m.conts.flatMap (·.1)).foldl (sendv S) (⟨m.oid, [], 0⟩, tx.withRecord m.oid) = r₀) :
    ∃ (c₁ : SaveCtx) (q : Int × SaveTx), c₁.failed = false ∧
      c₁.radosMails = tx.mails ++ [m.oid] ∧
      rboxSaveFinish S m.fin { c₁ with stream := .live r₀.1 }
        { r₀.2 with ctx := some { c₁ with stream := .live r₀.1 } } = some q ∧
      (decide (0 ≤ q.1), q.2) = (ok, tx') := by
  obtain ⟨c, hmails, hpro⟩ := prologue_begin (S := S) m tx
  let c₁ : SaveCtx :=
    { c with failed := false, seq := tx.nextSeq, radosMails := c.radosMails ++ [m.oid] }
  have hbegin : (rboxSaveBegin m.oid m.conn c tx).2 =
      { tx.withRecord m.oid with ctx := some { c₁ with stream := .live ⟨m.oid, [], 0⟩ } } := by
    rw [hconn]
    rfl
  have hbefore := hpro.trans ((congrArg (saveCalls S · _) hbegin).trans
    (continues_ok hconts (tx.withRecord m.oid) rfl))
  replace h : ((saveCalls S tx m.prologue).bind fun tx =>
    (saveCall S tx (.finish m.fin)).map fun r => (decide (0 ≤ r.1), r.2)) = some (ok, tx') := h
  rw [hbefore, hr₀, Option.bind_some] at h
  obtain ⟨q, hq, hok⟩ := Option.map_eq_some_iff.mp h
  have hradosMails : c.radosMails ++ [m.oid] = tx.mails ++ [m.oid] := by rw [hmails]
  exact ⟨c₁, q, rfl, hradosMails, hq, hok⟩

/-- A mail that is saved without trouble. -/
theorem runMail_saved (hconn : m.conn = true) (hm : SaveOk S m)
    (h : runMail S tx (.saved m) = some (ok, tx')) (hnew : ∀ pool, tx.objs pool m.oid = none) :
    MailEffect tx (.saved m) ok tx' := by
  obtain ⟨c₁, q, hf, hmails, hq, hok⟩ := runMail_begun hconn hm.conts h rfl
  obtain ⟨hcode, htouch, hctx, hcomplete⟩ := @rboxSaveFinish_saved S m hm c₁ (tx.withRecord m.oid)
    (hnew .primary) hf _ rfl q hq
  rw [hcode] at hok
  cases hok
  refine ⟨htouch.index, fun pool oid ho => htouch.objs pool oid fun heq => ho (heq ▸ rfl), ?_, ?_,
    ?_, ?_, fun _ => hconn, fun _ oid ho _ => ?_⟩
  · intro c' hc'
    rw [hctx] at hc'
    cases hc'
    rfl
  · intro c' hc' hf'
    rw [hctx] at hc'
    cases hc'
    cases hf'
  · rw [SaveTx.mails_eq hctx]
    exact hmails
  · have hrec : q.2.records = (tx.withRecord m.oid).records := htouch.records
    rw [hrec]
    simp [SaveTx.withRecord, MailRun.oid]
  · cases ho
    exact hcomplete

/-- A copy. -/
theorem runMail_copied (h : runMail S tx (.copied k) = some (ok, tx')) :
    MailEffect tx (.copied k) ok tx' := by
  obtain ⟨c, halloc, hmails, _, hfailed⟩ := rboxSaveAlloc_spec tx
  replace h : some (decide (0 ≤ (rboxMailStorageCopy k c { tx with ctx := some c }).1),
      (rboxMailStorageCopy k c { tx with ctx := some c }).2) = some (ok, tx') := by
    rw [runMail] at h
    change ((some (rboxSaveAlloc tx)).bind fun tx => (saveCall S tx (.copy k)).map _) = _ at h
    rw [halloc] at h
    exact h
  have hfails : MailEffect tx (.copied k) false
      { tx with ctx := some { c with finished := true } } :=
    mailEffect_idle hmails rfl fun hf => .inr (hfailed hf)
  unfold rboxMailStorageCopy at h
  dsimp only at h
  split at h
  case isTrue =>
    cases h
    exact hfails
  case isFalse hgo =>
    split at h
    case h_1 =>
      cases h
      exact hfails
    case h_2 src hsrc =>
      cases h
      refine ⟨rfl, fun pool oid ho => ?_, ?_, ?_, ?_, ?_, fun _ => ?_, fun _ oid ho _ => ?_⟩
      · exact (put_touches k.pool k.oid (fun _ => src.setXattrs k.update) _).objs pool oid
          fun heq => ho (heq ▸ rfl)
      · intro c' hc'
        cases hc'
        rfl
      · intro c' hc' hf
        cases hc'
        cases hf
      · show c.radosMails ++ [k.oid] = tx.mails ++ [k.oid]
        rw [hmails]
      · show (tx.records ++ [(tx.nextSeq, k.oid)]).map Prod.snd = _
        simp [MailRun.oid]
      · simp at hgo
        exact ⟨hgo.1.1, hgo.1.2, hgo.2, by rw [hsrc]; rfl⟩
      · cases ho
        refine ⟨src.setXattrs k.update,
          put_objs_self k.pool k.oid (fun _ => src.setXattrs k.update) _, ?_, ?_⟩
        · simp [MailRun.data, hsrc, MailObj.setXattrs]
        · intro key v hv _
          have hv' : k.update key = some v := hv
          simp [MailObj.setXattrs, hv']

/-- A copy by saving that ends before its begin. -/
theorem runMail_copyAborted {conn : Bool} {e : FinishEnv}
    (h : runMail S tx (.copyAborted conn e) = some (ok, tx')) :
    MailEffect tx (.copyAborted conn e) ok tx' := by
  obtain ⟨c, halloc, hmails, hstream, hfailed⟩ := rboxSaveAlloc_spec tx
  cases conn with
  | false =>
      change ((some (rboxSaveAlloc tx)).bind fun tx =>
        (saveCall S tx (.copySaving false)).map _) = _ at h
      rw [halloc] at h
      cases h
      exact mailEffect_idle hmails rfl fun hf => .inr (hfailed hf)
  | true =>
      change ((saveCall S (rboxSaveAlloc tx) (.copySaving true)).bind fun r => some r.2).bind
        (fun tx => (saveCall S tx (.cancel e)).map _) = _ at h
      have hcancel : rboxSaveCancel S e { c with finished := true }
          { tx with ctx := some { c with finished := true } } =
            some (-1, { tx with ctx := some { c with failed := true, finished := true } }) := by
        simp [rboxSaveCancel, rboxSaveFinish, hstream]
      rw [halloc] at h
      change (rboxSaveCancel S e _ _).map _ = _ at h
      rw [hcancel] at h
      cases h
      exact mailEffect_idle hmails rfl fun _ => .inl rfl

/-- **The effect of one mail.** -/
theorem runMail_effect {run : MailRun} (hm : MailOk S run)
    (hnew : ∀ oid, run.oid = some oid → ∀ pool, tx.objs pool oid = none)
    (h : runMail S tx run = some (ok, tx')) : MailEffect tx run ok tx' := by
  cases run with
  | saved m =>
      cases hc : m.conn with
      | false => exact runMail_begin_failed hc rfl hc rfl (.inl rfl) h
      | true => exact runMail_saved hc (hm hc) h (hnew m.oid rfl)
  | cancelled m => exact runMail_begin_failed hm rfl trivial rfl (.inr rfl) h
  | copied k => exact runMail_copied h
  | copyAborted conn e => exact runMail_copyAborted h

end Mail

/-! ## 5. The mails of a transaction -/

/-- The oids of the mails that were saved. -/
def savedOids (results : List (MailRun × Bool)) : List String :=
  (results.filter (·.2)).filterMap (·.1.oid)

/-- A transaction after the mails `done`, started on `objs` and `index`: list and records hold the
    mails that were saved, their objects are complete, and `failed` is set only by the last mail. -/
structure CommitInv (objs : MailObjs) (index : List String) (done : List (MailRun × Bool))
    (tx : SaveTx) : Prop where
  index : tx.index = index
  mails : tx.mails = savedOids done
  records : tx.records.map Prod.snd = savedOids done
  finished : ∀ c, tx.ctx = some c → c.finished = true
  succeeds : ∀ r ∈ done, r.2 = true → Succeeds r.1
  failed : ∀ c, tx.ctx = some c → c.failed = true →
    (∃ r, done.getLast? = some r ∧ LeavesFailed r.1) ∨ savedOids done = []
  complete : ∀ r ∈ done, r.2 = true → ∀ oid, r.1.oid = some oid →
    Complete tx.objs r.1.pool oid r.1.data r.1.metadata
  untouched : ∀ oid, (∀ r ∈ done, r.1.oid ≠ some oid) → ∀ pool, tx.objs pool oid = objs pool oid
  unused : tx.ctx = none → savedOids done = []
  notSaved : ∀ r ∈ done, r.2 = false → ∀ oid, r.1.oid = some oid → oid ∉ savedOids done

section Run

variable {S : SaveSetup} {tx tx' : SaveTx} {objs : MailObjs} {index : List String}
  {done : List (MailRun × Bool)} {m : MailRun} {ok : Bool}

theorem savedOids_append (m : MailRun) (ok : Bool) :
    savedOids (done ++ [(m, ok)]) = savedOids done ++ if ok then m.oid.toList else [] := by
  cases ok with
  | false => simp [savedOids]
  | true => cases ho : m.oid <;> simp [savedOids, ho]

theorem mem_savedOids {oid : String} :
    oid ∈ savedOids done ↔ ∃ r ∈ done, r.2 = true ∧ r.1.oid = some oid := by
  simp [savedOids, List.mem_filterMap, List.mem_filter, and_assoc]

/-- One mail keeps the invariant. -/
theorem commitInv_step (hi : CommitInv objs index done tx) (he : MailEffect tx m ok tx')
    (hnew : ∀ oid, m.oid = some oid → ∀ pool, objs pool oid = none)
    (hdistinct : ∀ oid, m.oid = some oid → ∀ r ∈ done, r.1.oid ≠ some oid) :
    CommitInv objs index (done ++ [(m, ok)]) tx' := by
  have hsaved := @savedOids_append done m ok
  refine ⟨he.index.trans hi.index, ?_, ?_, he.finished, ?_, ?_, ?_, ?_, ?_, ?_⟩
  · rw [hsaved, he.mails, hi.mails]
  · rw [hsaved, he.records, hi.records]
  · intro r hr hok
    rcases List.mem_append.mp hr with hr | hr
    · exact hi.succeeds r hr hok
    · obtain rfl := List.mem_singleton.mp hr
      exact he.succeeds hok
  · intro c hc hf
    rcases he.failed c hc hf with hl | ⟨hn, hok⟩
    · exact .inl ⟨(m, ok), List.getLast?_concat, hl⟩
    · right
      rw [hsaved, hi.unused hn, hok]
      rfl
  · intro r hr hok oid ho
    rcases List.mem_append.mp hr with hr | hr
    · -- the new mail has another oid
      have hne : m.oid ≠ some oid := fun heq => hdistinct oid heq r hr ho
      obtain ⟨o, hobj, hdata⟩ := hi.complete r hr hok oid ho
      exact ⟨o, (he.frame _ oid hne).trans hobj, hdata⟩
    · obtain rfl := List.mem_singleton.mp hr
      refine he.complete hok oid ho fun pool => ?_
      rw [hi.untouched oid (hdistinct oid ho) pool]
      exact hnew oid ho pool
  · intro oid ho pool
    have hm : m.oid ≠ some oid := ho (m, ok) (List.mem_append_right _ (List.mem_singleton.mpr rfl))
    exact (he.frame pool oid hm).trans
      (hi.untouched oid (fun r hr => ho r (List.mem_append_left _ hr)) pool)
  · intro hn
    have hmails : tx'.mails = [] := by simp [SaveTx.mails, hn]
    rw [hsaved, ← hi.mails, ← he.mails, hmails]
  · intro r hr hok oid ho
    rw [hsaved]
    rcases List.mem_append.mp hr with hr | hr
    · have hm : oid ∉ if ok then m.oid.toList else [] := by
        intro hmem
        have heq : m.oid = some oid := by
          cases ok with
          | false => exact absurd hmem List.not_mem_nil
          | true => simpa using hmem
        exact hdistinct oid heq r hr ho
      exact fun hmem => (List.mem_append.mp hmem).elim (hi.notSaved r hr hok oid ho) hm
    · obtain rfl := List.mem_singleton.mp hr
      obtain rfl : ok = false := hok
      intro hmem
      rw [if_neg Bool.false_ne_true, List.append_nil] at hmem
      obtain ⟨r', hr', _, ho'⟩ := mem_savedOids.mp hmem
      exact hdistinct oid ho r' hr' ho'

/-- **All mails of a transaction keep the invariant.** -/
theorem commitInv_run {ms : List MailRun} {results : List (MailRun × Bool)}
    (hi : CommitInv objs index done tx) (hok : ∀ m ∈ ms, MailOk S m)
    (hnew : ∀ oid ∈ ms.filterMap MailRun.oid, ∀ pool, objs pool oid = none)
    (hnodup : (ms.filterMap MailRun.oid).Nodup)
    (hdone : ∀ oid ∈ ms.filterMap MailRun.oid, ∀ r ∈ done, r.1.oid ≠ some oid)
    (h : runMails S tx ms = some (tx', results)) : CommitInv objs index (done ++ results) tx' := by
  induction ms generalizing tx done results with
  | nil =>
      cases h
      rw [List.append_nil]
      exact hi
  | cons m ms ih =>
      obtain ⟨r, hr, h⟩ := Option.bind_eq_some_iff.mp h
      obtain ⟨q, hq, h⟩ := Option.map_eq_some_iff.mp h
      cases h
      have hhead : ∀ oid, m.oid = some oid → oid ∈ (m :: ms).filterMap MailRun.oid :=
        fun oid ho => List.mem_filterMap.mpr ⟨m, List.mem_cons_self, ho⟩
      have htail : ∀ oid ∈ ms.filterMap MailRun.oid, oid ∈ (m :: ms).filterMap MailRun.oid := by
        intro oid ho
        obtain ⟨m', hm', ho⟩ := List.mem_filterMap.mp ho
        exact List.mem_filterMap.mpr ⟨m', List.mem_cons_of_mem _ hm', ho⟩
      have he : MailEffect tx m r.1 r.2 := by
        refine runMail_effect (hok m List.mem_cons_self) (fun oid ho pool => ?_) hr
        rw [hi.untouched oid (hdone oid (hhead oid ho)) pool]
        exact hnew oid (hhead oid ho) pool
      have hi' := commitInv_step hi he (fun oid ho => hnew oid (hhead oid ho))
        (fun oid ho => hdone oid (hhead oid ho))
      have hdone' : ∀ oid ∈ ms.filterMap MailRun.oid, ∀ r' ∈ done ++ [(m, r.1)],
          r'.1.oid ≠ some oid := by
        intro oid ho r' hr'
        rcases List.mem_append.mp hr' with hr' | hr'
        · exact hdone oid (htail oid ho) r' hr'
        · obtain rfl := List.mem_singleton.mp hr'
          intro hm
          rw [List.filterMap_cons_some hm] at hnodup
          exact (List.nodup_cons.mp hnodup).1 ho
      have hnodup' : (ms.filterMap MailRun.oid).Nodup := by
        cases ho : m.oid with
        | none => rwa [List.filterMap_cons_none ho] at hnodup
        | some oid =>
            rw [List.filterMap_cons_some ho] at hnodup
            exact (List.nodup_cons.mp hnodup).2
      have := ih hi' (fun m' hm' => hok m' (List.mem_cons_of_mem _ hm'))
        (fun oid ho => hnew oid (htail oid ho)) hnodup' hdone' hq
      rwa [List.append_assoc, List.singleton_append] at this

theorem commitInv_start (objs : MailObjs) (nextSeq : Nat) (index : List String) :
    CommitInv objs index [] (SaveTx.start objs nextSeq index) :=
  ⟨rfl, rfl, rfl, nofun, nofun, nofun, nofun, fun _ _ _ => rfl, fun _ => rfl, nofun⟩

theorem runMails_mails {ms : List MailRun} {results : List (MailRun × Bool)}
    (h : runMails S tx ms = some (tx', results)) : results.map Prod.fst = ms := by
  induction ms generalizing tx results with
  | nil =>
      cases h
      rfl
  | cons m ms ih =>
      obtain ⟨r, hr, h⟩ := Option.bind_eq_some_iff.mp h
      obtain ⟨q, hq, h⟩ := Option.map_eq_some_iff.mp h
      cases h
      rw [List.map_cons, ih hq]

end Run

/-! ## 6. The commit -/

/-- The `U` operations of the commit keep what matters. -/
structure Assigns (tx tx' : SaveTx) : Prop where
  complete : ∀ {pool oid data metadata}, Complete tx.objs pool oid data metadata →
    Complete tx'.objs pool oid data metadata
  ctx : tx'.ctx = tx.ctx
  records : tx'.records = tx.records
  index : tx'.index = tx.index

section Commit

variable {S : SaveSetup} {e : CommitEnv} {tx tx' : SaveTx}

theorem Assigns.refl (tx : SaveTx) : Assigns tx tx := ⟨fun h => h, rfl, rfl, rfl⟩

theorem put_uid_assigns (oid uid : String) (tx : SaveTx) :
    Assigns tx (tx.put .primary oid (·.setXattrs (uidXattr uid))) := by
  refine ⟨?_, rfl, rfl, rfl⟩
  intro pool oid' data metadata hc
  obtain ⟨o, hobj, hdata, hmeta⟩ := hc
  by_cases hsame : pool = .primary ∧ oid' = oid
  · obtain ⟨rfl, rfl⟩ := hsame
    refine ⟨o.setXattrs (uidXattr uid), ?_, hdata, ?_⟩
    · rw [put_objs_self, hobj]
      rfl
    · intro k v hk hU
      have hother : uidXattr uid k = none := if_neg hU
      simp [MailObj.setXattrs, hother, hmeta k v hk hU]
  · exact ⟨o, (put_objs_ne hsame _ _).trans hobj, hdata, hmeta⟩

theorem rboxSaveAssignUids_assigns (oids : List String) (n : Nat) (tx : SaveTx) :
    Assigns tx (rboxSaveAssignUids e oids n tx).2 := by
  induction oids generalizing n tx with
  | nil => exact Assigns.refl tx
  | cons oid oids ih =>
      unfold rboxSaveAssignUids
      split
      case isTrue =>
        split
        case isTrue =>
          have hput : Assigns tx (if e.lands n then
              tx.put .primary oid (·.setXattrs (uidXattr (e.uids n))) else tx) := by
            split
            · exact put_uid_assigns ..
            · exact Assigns.refl tx
          have hrest := ih (n + 1) (if e.lands n then
              tx.put .primary oid (·.setXattrs (uidXattr (e.uids n))) else tx)
          exact ⟨fun h => hrest.complete (hput.complete h), hrest.ctx.trans hput.ctx,
            hrest.records.trans hput.records, hrest.index.trans hput.index⟩
        case isFalse => exact Assigns.refl tx
      case isFalse => exact ih (n + 1) tx

/-- A commit_pre that succeeds has only assigned the uids. -/
theorem commitPre_assigns (h : rboxTransactionSaveCommitPre S e tx = some (0, tx')) :
    (∃ c, tx.ctx = some c) ∧ Assigns tx tx' := by
  unfold rboxTransactionSaveCommitPre at h
  obtain ⟨c, hc, h⟩ := Option.bind_eq_some_iff.mp h
  refine ⟨⟨c, hc⟩, ?_⟩
  split at h
  case isTrue => cases h
  case isFalse =>
    split at h
    case isTrue =>
      obtain ⟨_, _, h⟩ := Option.map_eq_some_iff.mp h
      cases h
    case isFalse =>
      split at h
      case isTrue => cases h
      case isFalse =>
        dsimp only at h
        split at h
        case isTrue =>
          cases h
          exact rboxSaveAssignUids_assigns ..
        case isFalse =>
          obtain ⟨_, _, h⟩ := Option.map_eq_some_iff.mp h
          cases h

/-- The rollback inside a commit_post leaves the objects and the index alone if `failed` is not
    set or the list is empty. -/
theorem commitPost_keeps {c : SaveCtx} (hc : tx.ctx = some c) (hfin : c.finished = true)
    (hsync : e.syncFinish = true) (hkeep : c.failed = true → c.radosMails = []) :
    ∃ tx', rboxTransactionSaveCommitPost S e tx = some tx' ∧ tx'.objs = tx.objs ∧
      tx'.index = tx.index := by
  unfold rboxTransactionSaveCommitPost rboxTransactionSaveRollback
  rw [if_pos hsync]
  simp only [hc, hfin, if_true, Option.map_some]
  refine ⟨_, rfl, ?_, ?_⟩
  · cases hf : c.failed with
    | false => rfl
    | true => simp [cleanUpFailed, hkeep hf, deleteMails]
  · cases c.failed <;> rfl

/-- **A transaction that meets `TransactionOk` commits exactly the mails that were saved**: after a
    successful commit_pre, the commit of the index and commit_post, each mail whose finish or copy
    returned success has its index record and its complete object, and no other has a record. -/
theorem commit_saves_exactly (S : SaveSetup) (objs : MailObjs) (nextSeq : Nat)
    (index : List String) {ms : List MailRun} (hms : TransactionOk S ms)
    (hnew : NewOids objs index ms) {results : List (MailRun × Bool)} {tx₁ : SaveTx}
    (hrun : runMails S (SaveTx.start objs nextSeq index) ms = some (tx, results))
    (hpre : rboxTransactionSaveCommitPre S e tx = some (0, tx₁)) (hsync : e.syncFinish = true) :
    ∃ tx₂, rboxTransactionSaveCommitPost S e (commitIndex tx₁) = some tx₂ ∧
      SavesExactly results tx₂ := by
  have hi := commitInv_run (commitInv_start objs nextSeq index) hms.1 hnew.objs hnew.distinct
    nofun hrun
  rw [List.nil_append] at hi
  have hmails := runMails_mails hrun
  obtain ⟨⟨c, hc⟩, ha⟩ := commitPre_assigns hpre
  have hlist : c.radosMails = savedOids results := by
    have := hi.mails
    rwa [SaveTx.mails, hc] at this
  -- `failed` can only be left over by the last mail, and then nothing was saved
  have hkeep : c.failed = true → c.radosMails = [] := by
    intro hf
    rw [hlist]
    rcases hi.failed c hc hf with ⟨r, hr, hl⟩ | hnone
    · rw [List.eq_nil_iff_forall_not_mem]
      intro oid hoid
      obtain ⟨r', hr', hok, _⟩ := mem_savedOids.mp hoid
      have hlast : ms.getLast? = some r.1 := by
        rw [← hmails, List.getLast?_map, hr]
        rfl
      have hsome : ∃ m ∈ ms, Succeeds m := by
        refine ⟨r'.1, ?_, hi.succeeds r' hr' hok⟩
        rw [← hmails]
        exact List.mem_map_of_mem hr'
      exact hms.2 hsome r.1 hlast hl
    · exact hnone
  obtain ⟨tx₂, hpost, hobjs, hindex⟩ := @commitPost_keeps S e (commitIndex tx₁) c
    (ha.ctx.trans hc) (hi.finished c hc) hsync hkeep
  refine ⟨tx₂, hpost, ?_⟩
  have hidx : tx₂.index = index ++ savedOids results := by
    rw [hindex]
    show tx₁.index ++ tx₁.records.map Prod.snd = _
    rw [ha.index, ha.records, hi.index, hi.records]
  intro m ok oid hmem ho
  constructor
  · intro hok
    refine ⟨?_, ?_⟩
    · rw [hidx]
      exact List.mem_append_right _ (mem_savedOids.mpr ⟨(m, ok), hmem, hok, ho⟩)
    · rw [hobjs]
      exact ha.complete (hi.complete (m, ok) hmem hok oid ho)
  · intro hok
    rw [hidx, List.mem_append, not_or]
    refine ⟨hnew.index oid ?_, hi.notSaved (m, ok) hmem hok oid ho⟩
    refine List.mem_filterMap.mpr ⟨m, ?_, ho⟩
    rw [← hmails]
    exact List.mem_map_of_mem hmem

end Commit

/-- A mail of two bytes with a metadata attribute. -/
def twoByteMail (oid : String) (dataOk : Nat → Bool) : SavedMail where
  oid := oid
  conts := [([([72, 105], true)], true)]
  fin := { metadata := fun k => if k = "M" then some "inbox" else none, dataOk := dataOk }

/-- A copy of a mail of one byte. -/
def oneByteCopy (oid : String) : CopyCall where
  oid := oid
  src := some ⟨[72], fun _ => none⟩

theorem saveOk_twoByteMail (oid : String) : SaveOk plainSave (twoByteMail oid fun _ => true) where
  conts := by
    intro c hc
    obtain rfl := List.mem_singleton.mp hc
    rfl
  flush := rfl
  nonempty := (by decide : 2 ≠ 0)
  objectSize := (by decide : (2 : Int) ≤ 134217728)
  intSize := (by decide : 2 < 2 ^ 31)
  metadata := rfl
  dataOk := fun _ _ => rfl
  chunks := nofun

/-- A saved mail and a copied one are committed. -/
theorem save_and_copy_committed :
    ∃ tx tx₁ tx₂ results,
      runMails plainSave (SaveTx.start (fun _ _ => none) 1 [])
        [.saved (twoByteMail "a1" fun _ => true), .copied (oneByteCopy "a2")] =
          some (tx, results) ∧
      results = [(.saved (twoByteMail "a1" fun _ => true), true),
        (.copied (oneByteCopy "a2"), true)] ∧
      rboxTransactionSaveCommitPre plainSave { uids := toString } tx = some (0, tx₁) ∧
      rboxTransactionSaveCommitPost plainSave { uids := toString } (commitIndex tx₁) = some tx₂ ∧
      SavesExactly results tx₂ := by
  have hms : TransactionOk plainSave
      [.saved (twoByteMail "a1" fun _ => true), .copied (oneByteCopy "a2")] := by
    constructor
    · intro m hm
      rcases List.mem_cons.mp hm with rfl | hm
      · exact fun _ => saveOk_twoByteMail "a1"
      · obtain rfl := List.mem_singleton.mp hm
        trivial
    · intro _ m hm
      cases hm
      exact id
  obtain ⟨tx₂, hpost, hsaves⟩ := @commit_saves_exactly { uids := toString } _ plainSave
    (fun _ _ => none) 1 [] _ hms ⟨by decide, fun _ _ => List.not_mem_nil, fun _ _ _ => rfl⟩ _ _
    rfl rfl rfl
  exact ⟨_, _, tx₂, _, rfl, rfl, rfl, hpost, hsaves⟩

/-- A saved mail and one whose data cannot be written: commit_pre succeeds, the index gets both
    records, and commit_post deletes both objects. -/
theorem failed_save_committed :
    ∃ tx tx₁ tx₂ results,
      NewOids (fun _ _ => none) [] [.saved (twoByteMail "a1" fun _ => true),
        .saved (twoByteMail "a2" fun _ => false)] ∧
      runMails plainSave (SaveTx.start (fun _ _ => none) 1 [])
        [.saved (twoByteMail "a1" fun _ => true), .saved (twoByteMail "a2" fun _ => false)] =
          some (tx, results) ∧
      rboxTransactionSaveCommitPre plainSave { uids := toString } tx = some (0, tx₁) ∧
      rboxTransactionSaveCommitPost plainSave { uids := toString } (commitIndex tx₁) = some tx₂ ∧
      ¬ SavesExactly results tx₂ := by
  refine ⟨_, _, _, _, ⟨by decide, fun _ _ => List.not_mem_nil, fun _ _ _ => rfl⟩, rfl, rfl, rfl,
    fun h => ?_⟩
  have hbad := (h (.saved (twoByteMail "a2" fun _ => false)) false "a2"
    (List.mem_cons_of_mem _ List.mem_cons_self) rfl).2 rfl
  exact hbad (by decide)

end DovecotCeph
