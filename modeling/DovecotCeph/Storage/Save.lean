/-
  File:      DovecotCeph/Storage/Save.lean
  Subject:   The save context of a mailbox transaction (rbox-save.cpp, rbox-copy.cpp,
             ostream-bufferlist.cpp): one context with one `failed` flag, one `seq` and one list of
             objects for all mails of the transaction.

  * `saveCall`: alloc, begin, continue, finish, cancel and copy, each with what the streams, the
    connection and RADOS answer meanwhile. Objects are written by `finish`, through
    `saveMailWriteAppend`, or already by the stream when `rbox_ceph_write_chunks` is set.
  * `rboxTransactionSaveRollback`: deletes the objects of the list if `failed` says so.
  * **`rollback_removes_created_iff`**: after which call sequences a rollback leaves no object.
-/
import DovecotCeph.Rados
import Mathlib.Algebra.Group.Int.Defs
import Mathlib.Algebra.Group.Nat.Defs
import Mathlib.Data.List.Basic

namespace DovecotCeph

/-! ## 1. Mail objects -/

abbrev Bytes := List UInt8

/-- The pools of the primary and of the alternative storage. -/
inductive MailPool where
  | primary
  | alt
  deriving DecidableEq, Repr

/-- The content and the xattrs of an object. -/
structure MailObj where
  data : Bytes
  xattrs : String → Option String

def MailObj.empty : MailObj := ⟨[], fun _ => none⟩

/-- `ObjectWriteOperation::write` at an offset, zero filled where the object is shorter. -/
def MailObj.write (off : Nat) (bs : Bytes) (o : MailObj) : MailObj :=
  { o with data := (o.data ++ List.replicate (off - o.data.length) 0).take off ++ bs ++
      o.data.drop (off + bs.length) }

def MailObj.append (bs : Bytes) (o : MailObj) : MailObj := { o with data := o.data ++ bs }

def MailObj.setXattrs (new : String → Option String) (o : MailObj) : MailObj :=
  { o with xattrs := fun k => (new k).or (o.xattrs k) }

/-- The objects of the mailbox owner's namespace, pool by pool. -/
abbrev MailObjs := MailPool → String → Option MailObj

/-! ## 2. Context and transaction -/

/-- The mail being written: its oid, `mail_buffer`, and the offset of the output stream. -/
structure Cur where
  oid : String
  buffer : Bytes
  offset : Nat

/-- The context's output stream: none since `rbox_save_alloc`, open since `rbox_save_begin`, or
    unreferenced by `clean_up_write_finish` with the context still pointing at it. -/
inductive SaveStream where
  | none
  | live (cur : Cur)
  | stale

/-- `class rbox_save_context` with the values of its constructor. -/
structure SaveCtx where
  failed : Bool := true
  finished : Bool := true
  seq : Nat := 0
  radosMails : List String := []
  stream : SaveStream := .none

/-- A transaction: objects, save context, the next sequence number and the records of the open
    index transaction, the oids in the committed index, and which objects it has created. -/
structure SaveTx where
  objs : MailObjs
  ctx : Option SaveCtx
  nextSeq : Nat
  records : List (Nat × String)
  index : List String
  created : List (MailPool × String)

/-- A transaction that has not called the plugin yet. -/
def SaveTx.start (objs : MailObjs) (nextSeq : Nat) (index : List String) : SaveTx :=
  ⟨objs, none, nextSeq, [], index, []⟩

/-- A write operation on an object that took effect; it creates the object where there is none. -/
def SaveTx.put (pool : MailPool) (oid : String) (f : MailObj → MailObj) (tx : SaveTx) : SaveTx :=
  { tx with
    objs := Function.update tx.objs pool
      (Function.update (tx.objs pool) oid (some (f ((tx.objs pool oid).getD .empty))))
    created := (pool, oid) :: tx.created }

/-- `rbox_ceph_write_chunks`, the chunk size of `rbox_save_finish`, and `osd_max_object_size`. -/
structure SaveSetup where
  writeChunks : Bool
  maxWrite : Nat
  maxObjectSize : Int

/-! ## 3. Writing -/

/-- Conversion to a C `int`. -/
def toInt32 (n : Nat) : Int := Int.bmod n (2 ^ 32)

/-- `o_stream_buffer_sendv`: a piece, and whether its asynchronous write, if any, takes effect. -/
def sendv (S : SaveSetup) (st : Cur × SaveTx) (piece : Bytes × Bool) : Cur × SaveTx :=
  if S.writeChunks then
    (⟨st.1.oid, piece.1, st.1.offset + piece.1.length⟩,
      if piece.2 then st.2.put .primary st.1.oid (·.write st.1.offset piece.1) else st.2)
  else (⟨st.1.oid, st.1.buffer ++ piece.1, st.1.offset + piece.1.length⟩, st.2)

/-- What `rbox_save_finish` meets: the pieces the flush or the trailer sends, whether that
    succeeds, the mail's metadata, and the outcomes of the metadata operation and of the data
    operations. -/
structure FinishEnv where
  sends : List (Bytes × Bool) := []
  flushOk : Bool := true
  metadata : String → Option String := fun _ => none
  metadataOk : Bool := true
  dataOk : Nat → Bool := fun _ => true

/-- The loop of `save_mail_write_append`, from round `i` with `n` rounds to go: code and
    transaction, `none` where a buffer is asked for more bytes than it has and throws. -/
def writeLoop (S : SaveSetup) (oid : String) (buffer : Bytes) (size : Nat) (div : Int)
    (ok : Nat → Bool) : Nat → Nat → SaveTx → Option (Int × SaveTx)
  | 0, _, tx => some (0, tx)
  | n + 1, i, tx =>
    if div = 1 then
      if ok i then
        writeLoop S oid buffer size div ok n (i + 1) (tx.put .primary oid (·.write 0 buffer))
      else some (-1, tx)
    else
      let offset := i * S.maxWrite
      let length := if size < (i + 1) * S.maxWrite then size % S.maxWrite else S.maxWrite
      if size < offset + length then some (-1, tx)
      else if buffer.length < offset + length then none
      else if ok i then
        writeLoop S oid buffer size div ok n (i + 1)
          (tx.put .primary oid (·.append ((buffer.drop offset).take length)))
      else some (-1, tx)

/-- `save_mail_write_append`. The result of the metadata operation is a bool that is compared with
    zero, so its failure goes unnoticed. -/
def saveMailWriteAppend (S : SaveSetup) (e : FinishEnv) (oid : String) (buffer : Bytes)
    (mailSize : Int) (tx : SaveTx) : Option (Int × SaveTx) :=
  let size := (mailSize % 2 ^ 64).toNat
  if S.maxWrite = 0 then none
  else if size = 0 then some (-1, tx)
  else
    let tx := if e.metadataOk then tx.put .primary oid (·.setXattrs e.metadata) else tx
    let div := toInt32 (size / S.maxWrite + if size % S.maxWrite > 0 then 1 else 0)
    -- without a round the code is still that bool
    if div ≤ 0 then some (if e.metadataOk then 1 else 0, tx)
    else writeLoop S oid buffer size div e.dataOk div.toNat 0 tx

/-! ## 4. The calls -/

/-- A copy: whether the connection opens, whether namespaces, index record and metadata of the
    source are found, the pool, the new oid, the source object as RADOS finds it, the updated
    metadata, and the outcome of the copy operation. -/
structure CopyCall where
  conn : Bool := true
  ready : Bool := true
  alt : Bool := false
  oid : String
  src : Option MailObj
  update : String → Option String := fun _ => none
  ok : Bool := true

def CopyCall.pool (k : CopyCall) : MailPool := if k.alt then .alt else .primary

/-- The calls Dovecot makes on the save context. `copySaving` is the part of
    `rbox_mail_storage_copy` before `mail_storage_copy`, whose begin, continue and finish (or
    cancel) then follow. -/
inductive SaveCall where
  | alloc
  | begin (oid : String) (conn : Bool)
  | continue (sends : List (Bytes × Bool)) (ok : Bool)
  | finish (e : FinishEnv)
  | cancel (e : FinishEnv)
  | copy (k : CopyCall)
  | copySaving (conn : Bool)

/-- `rbox_save_alloc`. -/
def rboxSaveAlloc (tx : SaveTx) : SaveTx :=
  match tx.ctx with
  | none => { tx with ctx := some {} }
  | some c => { tx with ctx := some { c with failed := false, finished := false, stream := .none } }

/-- `rbox_add_to_index`. -/
def rboxAddToIndex (oid : String) (c : SaveCtx) (tx : SaveTx) : SaveTx :=
  { tx with
    ctx := some { c with seq := tx.nextSeq, radosMails := c.radosMails ++ [oid] }
    nextSeq := tx.nextSeq + 1
    records := tx.records ++ [(tx.nextSeq, oid)] }

/-- `rbox_save_begin`. -/
def rboxSaveBegin (oid : String) (conn : Bool) (c : SaveCtx) (tx : SaveTx) : Int × SaveTx :=
  let c := { c with failed := !conn, stream := .live ⟨oid, [], 0⟩ }
  if conn then (0, rboxAddToIndex oid c tx) else (0, { tx with ctx := some c })

/-- `rbox_save_continue`. -/
def rboxSaveContinue (S : SaveSetup) (sends : List (Bytes × Bool)) (ok : Bool) (c : SaveCtx)
    (tx : SaveTx) : Option (Int × SaveTx) :=
  if c.failed then some (-1, tx)
  else match c.stream with
    | .live cur =>
      let r := sends.foldl (sendv S) (cur, tx)
      some (if ok then 0 else -1,
        { r.2 with ctx := some { c with failed := !ok, stream := .live r.1 } })
    | _ => none

/-- The end of `rbox_save_finish`: `clean_up_write_finish` and the return code. -/
def endFinish (c : SaveCtx) (failed : Bool) (tx : SaveTx) : Int × SaveTx :=
  (if failed then -1 else 0,
    { tx with ctx := some { c with failed := failed, finished := true, stream := .stale } })

/-- `rbox_save_finish`. -/
def rboxSaveFinish (S : SaveSetup) (e : FinishEnv) (c : SaveCtx) (tx : SaveTx) :
    Option (Int × SaveTx) :=
  match c.stream with
  | .stale => none
  | .none =>
    if c.failed then some (-1, { tx with ctx := some { c with finished := true } }) else none
  | .live cur =>
    let r := e.sends.foldl (sendv S) (cur, tx)
    if c.failed || !e.flushOk then some (endFinish c true r.2)
    else if r.1.offset = 0 then some (endFinish c true r.2)
    else if S.maxObjectSize < toInt32 r.1.offset then some (endFinish c true r.2)
    else
      (saveMailWriteAppend S e r.1.oid r.1.buffer (toInt32 r.1.offset) r.2).map fun w =>
        endFinish c (decide (w.1 < 0)) w.2

/-- `rbox_save_cancel`. -/
def rboxSaveCancel (S : SaveSetup) (e : FinishEnv) (c : SaveCtx) (tx : SaveTx) :
    Option (Int × SaveTx) :=
  rboxSaveFinish S e { c with failed := true } tx

/-- `rbox_mail_storage_copy` with a copy in RADOS (`rbox_mail_storage_try_copy`, `copy_mail`). A
    copy that fails leaves the `failed` flag as it is. -/
def rboxMailStorageCopy (k : CopyCall) (c : SaveCtx) (tx : SaveTx) : Int × SaveTx :=
  let c := { c with finished := true }
  let fails := (-1, { tx with ctx := some c })
  if !k.conn || !k.ready || !k.ok then fails
  else match k.src with
    | none => fails
    | some src =>
      (0, rboxAddToIndex k.oid { c with failed := false }
        (tx.put k.pool k.oid fun _ => src.setXattrs k.update))

/-- One call: return code and transaction; `none` where the process ends. -/
def saveCall (S : SaveSetup) (tx : SaveTx) : SaveCall → Option (Int × SaveTx)
  | .alloc => some (0, rboxSaveAlloc tx)
  | .begin oid conn => tx.ctx.map fun c => rboxSaveBegin oid conn c tx
  | .continue sends ok => tx.ctx.bind fun c => rboxSaveContinue S sends ok c tx
  | .finish e => tx.ctx.bind fun c => rboxSaveFinish S e c tx
  | .cancel e => tx.ctx.bind fun c => rboxSaveCancel S e c tx
  | .copy k => tx.ctx.map fun c => rboxMailStorageCopy k c tx
  | .copySaving conn => tx.ctx.map fun c =>
      (if conn then 0 else -1, { tx with ctx := some { c with finished := true } })

/-- The transaction after a sequence of calls. -/
def saveCalls (S : SaveSetup) : SaveTx → List SaveCall → Option SaveTx
  | tx, [] => some tx
  | tx, a :: as => (saveCall S tx a).bind fun r => saveCalls S r.2 as

/-! ## 5. Rollback -/

/-- `delete_mail` for each object of the list, in the primary pool. -/
def deleteMails (del : String → Outcome) (oids : List String) (objs : MailObjs) : MailObjs :=
  oids.foldl (fun objs oid =>
    if del oid = .done then
      Function.update objs .primary (Function.update (objs .primary) oid none)
    else objs) objs

/-- `clean_up_failed`: all objects of the list, and the record with the last sequence number. -/
def cleanUpFailed (del : String → Outcome) (c : SaveCtx) (tx : SaveTx) : SaveTx :=
  { tx with
    objs := deleteMails del c.radosMails tx.objs
    records := if 0 < c.seq then tx.records.filter (fun r => r.1 ≠ c.seq) else tx.records }

/-- `rbox_transaction_save_rollback`; `e` serves the cancel of an unfinished mail. No copy is in
    progress here, so that `copying` is not set. -/
def rboxTransactionSaveRollback (S : SaveSetup) (e : FinishEnv) (del : String → Outcome)
    (tx : SaveTx) : Option SaveTx :=
  match tx.ctx with
  | none => some tx
  | some c =>
    (if c.finished then some tx else (rboxSaveCancel S e c tx).map Prod.snd).map fun tx =>
      match tx.ctx with
      | none => tx
      | some c => { (if c.failed then cleanUpFailed del c tx else tx) with ctx := none }

/-- `mailbox_transaction_rollback`: Dovecot lets the plugin roll back and drops the index
    transaction. -/
def mailboxTransactionRollback (S : SaveSetup) (e : FinishEnv) (del : String → Outcome)
    (tx : SaveTx) : Option SaveTx :=
  (rboxTransactionSaveRollback S e del tx).map fun tx => { tx with records := [] }

/-! ## 6. What the calls keep -/

/-- Every object the transaction created is there. -/
def Existing (tx : SaveTx) : Prop := ∀ c ∈ tx.created, tx.objs c.1 c.2 ≠ none

/-- A part of a call that only writes objects: what was created stays, and so does the index. -/
structure Writes (tx tx' : SaveTx) : Prop where
  existing : Existing tx → Existing tx'
  index : tx'.index = tx.index

/-- What holds of a transaction after any calls. -/
structure TxInv (index : List String) (tx : SaveTx) : Prop where
  existing : Existing tx
  index : tx.index = index
  unused : tx.ctx = none → tx.created = []
  stream : ∀ c, tx.ctx = some c → c.finished = false → c.stream ≠ .stale

section Writes

variable {S : SaveSetup} {tx tx' tx₂ : SaveTx} {e : FinishEnv} {oid : String}

theorem Writes.refl (tx : SaveTx) : Writes tx tx := ⟨fun h => h, rfl⟩

theorem Writes.trans (h : Writes tx tx') (h' : Writes tx' tx₂) : Writes tx tx₂ :=
  ⟨fun he => h'.existing (h.existing he), h'.index.trans h.index⟩

@[simp] theorem put_objs_self (pool : MailPool) (oid : String) (f : MailObj → MailObj)
    (tx : SaveTx) :
    (tx.put pool oid f).objs pool oid = some (f ((tx.objs pool oid).getD .empty)) := by
  simp [SaveTx.put]

theorem put_objs_ne {pool pool' : MailPool} {oid oid' : String} (h : ¬ (pool' = pool ∧ oid' = oid))
    (f : MailObj → MailObj) (tx : SaveTx) :
    (tx.put pool oid f).objs pool' oid' = tx.objs pool' oid' := by
  by_cases hp : pool' = pool
  · subst hp
    have ho : oid' ≠ oid := fun ho => h ⟨rfl, ho⟩
    simp [SaveTx.put, Function.update_of_ne ho]
  · simp [SaveTx.put, Function.update_of_ne hp]

theorem put_writes (pool : MailPool) (oid : String) (f : MailObj → MailObj) (tx : SaveTx) :
    Writes tx (tx.put pool oid f) := by
  refine ⟨fun he c hc => ?_, rfl⟩
  by_cases hcp : c.1 = pool ∧ c.2 = oid
  · rw [hcp.1, hcp.2, put_objs_self]
    exact Option.some_ne_none _
  · rw [put_objs_ne hcp]
    refine he c ?_
    rcases List.mem_cons.mp hc with rfl | hc
    · exact absurd ⟨rfl, rfl⟩ hcp
    · exact hc

theorem sendv_writes (st : Cur × SaveTx) (piece : Bytes × Bool) :
    Writes st.2 (sendv S st piece).2 := by
  unfold sendv
  split
  · dsimp only
    split
    · exact put_writes ..
    · exact Writes.refl _
  · exact Writes.refl _

theorem sends_writes (sends : List (Bytes × Bool)) (st : Cur × SaveTx) :
    Writes st.2 (sends.foldl (sendv S) st).2 := by
  induction sends generalizing st with
  | nil => exact Writes.refl _
  | cons piece sends ih => exact (sendv_writes st piece).trans (ih _)

theorem writeLoop_writes {buffer : Bytes} {size : Nat} {div : Int} {ok : Nat → Bool} {n i : Nat}
    {r : Int × SaveTx} (h : writeLoop S oid buffer size div ok n i tx = some r) :
    Writes tx r.2 := by
  induction n generalizing i tx with
  | zero =>
      cases h
      exact Writes.refl _
  | succ n ih =>
      unfold writeLoop at h
      split at h
      · split at h
        · exact (put_writes ..).trans (ih h)
        · cases h
          exact Writes.refl _
      · dsimp only at h
        generalize (if size < (i + 1) * S.maxWrite then size % S.maxWrite else S.maxWrite) =
          length at h
        split at h
        · cases h
          exact Writes.refl _
        · split at h
          · cases h
          · split at h
            · exact (put_writes ..).trans (ih h)
            · cases h
              exact Writes.refl _

theorem saveMailWriteAppend_writes {buffer : Bytes} {mailSize : Int} {r : Int × SaveTx}
    (h : saveMailWriteAppend S e oid buffer mailSize tx = some r) : Writes tx r.2 := by
  unfold saveMailWriteAppend at h
  dsimp only at h
  split at h
  · cases h
  · split at h
    · cases h
      exact Writes.refl _
    · have hmeta : Writes tx (if e.metadataOk then tx.put .primary oid (·.setXattrs e.metadata)
          else tx) := by
        split
        · exact put_writes ..
        · exact Writes.refl _
      generalize (if e.metadataOk then tx.put .primary oid (·.setXattrs e.metadata) else tx) =
        tx₁ at h hmeta
      generalize toInt32 _ = div at h
      split at h
      · cases h
        exact hmeta
      · exact hmeta.trans (writeLoop_writes h)

/-- `rbox_save_finish` writes objects and ends with the mail finished; the list and the sequence
    number stay. -/
theorem rboxSaveFinish_spec {c : SaveCtx} {r : Int × SaveTx}
    (h : rboxSaveFinish S e c tx = some r) :
    ∃ failed stream, Writes tx { r.2 with ctx := tx.ctx } ∧
      r.2.ctx = some { c with failed := failed, finished := true, stream := stream } ∧
      (c.failed = true → failed = true) := by
  unfold rboxSaveFinish at h
  split at h
  case h_1 => cases h
  case h_2 hs =>
    split at h
    case isFalse => cases h
    case isTrue hf =>
      cases h
      exact ⟨c.failed, c.stream, Writes.refl _, rfl, fun h => h⟩
  case h_3 cur hs =>
    dsimp only at h
    have hw := @sends_writes S e.sends (cur, tx)
    split at h
    case isTrue =>
      cases h
      exact ⟨true, .stale, ⟨hw.existing, hw.index⟩, rfl, fun _ => rfl⟩
    case isFalse hnf =>
      have hcf : c.failed = true → False := by
        intro hf
        rw [hf] at hnf
        exact hnf rfl
      split at h
      case isTrue =>
        cases h
        exact ⟨true, .stale, ⟨hw.existing, hw.index⟩, rfl, fun _ => rfl⟩
      case isFalse =>
        split at h
        case isTrue =>
          cases h
          exact ⟨true, .stale, ⟨hw.existing, hw.index⟩, rfl, fun _ => rfl⟩
        case isFalse =>
          obtain ⟨w, hsave, rfl⟩ := Option.map_eq_some_iff.mp h
          have hw' := hw.trans (saveMailWriteAppend_writes hsave)
          exact ⟨decide (w.1 < 0), .stale, ⟨hw'.existing, hw'.index⟩, rfl,
            fun hf => absurd hf hcf⟩

/-- A cancel always returns, unless the stream is gone, and leaves `failed` set. -/
theorem rboxSaveCancel_some (S : SaveSetup) (e : FinishEnv) {c : SaveCtx} (hs : c.stream ≠ .stale)
    (tx : SaveTx) : ∃ r, rboxSaveCancel S e c tx = some r := by
  unfold rboxSaveCancel rboxSaveFinish
  dsimp only
  cases hc : c.stream with
  | none => exact ⟨_, rfl⟩
  | live cur => exact ⟨_, rfl⟩
  | stale => exact absurd hc hs

end Writes

section Invariant

variable {S : SaveSetup} {tx tx' : SaveTx} {index : List String}

/-- With a context the invariant is about the objects, the index and the stream. -/
theorem txInv_of_ctx {c : SaveCtx} (hex : Existing tx) (hindex : tx.index = index)
    (hctx : tx.ctx = some c) (hs : c.finished = false → c.stream ≠ .stale) : TxInv index tx := by
  refine ⟨hex, hindex, fun hn => ?_, fun c' hc' hf => ?_⟩
  · rw [hctx] at hn
    cases hn
  · rw [hctx] at hc'
    cases hc'
    exact hs hf

theorem rboxSaveFinish_inv (hi : TxInv index tx) {e : FinishEnv} {c : SaveCtx} {r : Int × SaveTx}
    (h : rboxSaveFinish S e c tx = some r) : TxInv index r.2 := by
  obtain ⟨failed, stream, hw, hctx, _⟩ := rboxSaveFinish_spec h
  exact txInv_of_ctx (hw.existing hi.existing) (hw.index.trans hi.index) hctx nofun

/-- **Every call keeps the invariant.** -/
theorem saveCall_inv (hi : TxInv index tx) {a : SaveCall} {r : Int × SaveTx}
    (h : saveCall S tx a = some r) : TxInv index r.2 := by
  cases a with
  | alloc =>
      cases h
      show TxInv index (rboxSaveAlloc tx)
      unfold rboxSaveAlloc
      cases tx.ctx with
      | none => exact txInv_of_ctx hi.existing hi.index rfl nofun
      | some c => exact txInv_of_ctx hi.existing hi.index rfl fun _ => nofun
  | begin oid conn =>
      obtain ⟨c, hc, rfl⟩ := Option.map_eq_some_iff.mp h
      cases conn with
      | true => exact txInv_of_ctx hi.existing hi.index rfl fun _ => nofun
      | false => exact txInv_of_ctx hi.existing hi.index rfl fun _ => nofun
  | «continue» sends ok =>
      obtain ⟨c, hc, h⟩ := Option.bind_eq_some_iff.mp h
      unfold rboxSaveContinue at h
      split at h
      case isTrue =>
        cases h
        exact hi
      case isFalse =>
        split at h
        case h_1 cur hs =>
          cases h
          have hw := @sends_writes S sends (cur, tx)
          exact txInv_of_ctx (hw.existing hi.existing) (hw.index.trans hi.index) rfl fun _ => nofun
        case h_2 => cases h
  | finish e =>
      obtain ⟨c, hc, h⟩ := Option.bind_eq_some_iff.mp h
      exact rboxSaveFinish_inv hi h
  | cancel e =>
      obtain ⟨c, hc, h⟩ := Option.bind_eq_some_iff.mp h
      exact rboxSaveFinish_inv hi h
  | copy k =>
      obtain ⟨c, hc, rfl⟩ := Option.map_eq_some_iff.mp h
      unfold rboxMailStorageCopy
      dsimp only
      split
      case isTrue => exact txInv_of_ctx hi.existing hi.index rfl nofun
      case isFalse =>
        split
        case h_1 => exact txInv_of_ctx hi.existing hi.index rfl nofun
        case h_2 src hsrc =>
          have hw := put_writes k.pool k.oid (fun _ => src.setXattrs k.update) tx
          exact txInv_of_ctx (hw.existing hi.existing) hi.index rfl nofun
  | copySaving conn =>
      obtain ⟨c, hc, rfl⟩ := Option.map_eq_some_iff.mp h
      exact txInv_of_ctx hi.existing hi.index rfl nofun

theorem saveCalls_inv (hi : TxInv index tx) {as : List SaveCall}
    (h : saveCalls S tx as = some tx') : TxInv index tx' := by
  induction as generalizing tx with
  | nil =>
      cases h
      exact hi
  | cons a as ih =>
      obtain ⟨r, hr, h⟩ := Option.bind_eq_some_iff.mp h
      exact ih (saveCall_inv hi hr) h

theorem txInv_start (objs : MailObjs) (nextSeq : Nat) (index : List String) :
    TxInv index (SaveTx.start objs nextSeq index) :=
  ⟨fun _ hc => absurd hc List.not_mem_nil, rfl, fun _ => rfl, nofun⟩

end Invariant

/-! ## 7. Rollback -/

/-- The rollback will find `failed` set: the last mail is unfinished, and then cancelled, or its
    last call left the flag set. -/
def CleansUp (tx : SaveTx) : Prop :=
  ∃ c, tx.ctx = some c ∧ (c.finished = false ∨ c.failed = true)

/-- The oids of the mails that got an index record. -/
def SaveTx.mails (tx : SaveTx) : List String :=
  match tx.ctx with
  | none => []
  | some c => c.radosMails

theorem SaveTx.mails_eq {tx : SaveTx} {c : SaveCtx} (hc : tx.ctx = some c) :
    tx.mails = c.radosMails := by
  rw [SaveTx.mails, hc]

section Rollback

variable {S : SaveSetup} {e : FinishEnv} {del : String → Outcome} {tx tx' : SaveTx}
  {index : List String}

theorem deleteMails_apply (hdel : ∀ o, del o = .done) (oids : List String) (objs : MailObjs)
    (pool : MailPool) (oid : String) :
    deleteMails del oids objs pool oid =
      if pool = .primary ∧ oid ∈ oids then none else objs pool oid := by
  induction oids generalizing objs with
  | nil => simp [deleteMails]
  | cons o oids ih =>
      have hstep : deleteMails del (o :: oids) objs = deleteMails del oids
          (Function.update objs .primary (Function.update (objs .primary) o none)) := by
        unfold deleteMails
        rw [List.foldl_cons, if_pos (hdel o)]
      rw [hstep, ih]
      by_cases hp : pool = .primary
      · subst hp
        by_cases ho : oid = o
        · subst ho
          simp
        · simp [ho]
      · simp [hp]

/-- The state a rollback cleans up: the one it finds, or the one its cancel leaves. -/
theorem rollback_cancelled (hi : TxInv index tx) {c : SaveCtx} (hc : tx.ctx = some c) :
    ∃ tx₁ c₁, (if c.finished then some tx else (rboxSaveCancel S e c tx).map Prod.snd) = some tx₁ ∧
      tx₁.ctx = some c₁ ∧ c₁.radosMails = c.radosMails ∧
      (c₁.failed = true ↔ c.finished = false ∨ c.failed = true) ∧
      Existing tx₁ ∧ tx₁.index = index := by
  cases hf : c.finished with
  | true =>
      exact ⟨tx, c, rfl, hc, rfl, ⟨Or.inr, fun h => h.resolve_left nofun⟩, hi.existing, hi.index⟩
  | false =>
      obtain ⟨r, hr⟩ := rboxSaveCancel_some S e (hi.stream c hc hf) tx
      obtain ⟨failed, stream, hw, hctx, hfailed⟩ := rboxSaveFinish_spec hr
      refine ⟨r.2, _, by rw [hr]; rfl, hctx, rfl, ?_, hw.existing hi.existing,
        hw.index.trans hi.index⟩
      exact ⟨fun _ => Or.inl rfl, fun _ => hfailed rfl⟩

/-- **A rollback always returns. It leaves no object and no index record of the transaction --
    exactly if every object created is in the primary pool and belongs to a mail with an index
    record, and the rollback finds `failed` set unless nothing was created.** -/
theorem rollback_removes_created_iff (S : SaveSetup) (objs : MailObjs) (nextSeq : Nat)
    (index : List String) {as : List SaveCall}
    (hrun : saveCalls S (SaveTx.start objs nextSeq index) as = some tx) (e : FinishEnv)
    (hdel : ∀ o, del o = .done) :
    ∃ tx', mailboxTransactionRollback S e del tx = some tx' ∧
      (((∀ c ∈ tx'.created, tx'.objs c.1 c.2 = none) ∧ tx'.records = [] ∧ tx'.index = index) ↔
        ∀ c ∈ tx'.created, CleansUp tx ∧ c.1 = .primary ∧ c.2 ∈ tx.mails) := by
  have hi := saveCalls_inv (txInv_start objs nextSeq index) hrun
  unfold mailboxTransactionRollback rboxTransactionSaveRollback
  cases hc : tx.ctx with
  | none =>
      refine ⟨_, rfl, ?_⟩
      have hcr : tx.created = [] := hi.unused hc
      simp [hcr, hi.index]
  | some c =>
      obtain ⟨tx₁, c₁, hcan, hctx, hmails, hfailed, hex, hidx⟩ :=
        @rollback_cancelled S e tx index hi c hc
      dsimp only
      rw [hcan]
      refine ⟨_, rfl, ?_⟩
      have hclean : CleansUp tx ↔ c₁.failed = true := by
        rw [hfailed]
        constructor
        · intro h
          obtain ⟨c', hc', h⟩ := h
          rw [hc] at hc'
          cases hc'
          exact h
        · intro h
          exact ⟨c, hc, h⟩
      have hml : tx.mails = c₁.radosMails := by
        rw [SaveTx.mails_eq hc, hmails]
      rw [hml]
      dsimp only
      rw [hctx]
      dsimp only
      cases hf : c₁.failed with
      | false =>
          -- nothing is deleted, and what was created is still there
          rw [hf] at hclean
          constructor
          · intro h c' hc'
            exact absurd (h.1 c' hc') (hex c' hc')
          · intro h
            refine ⟨fun c' hc' => ?_, rfl, hidx⟩
            have := hclean.mp (h c' hc').1
            cases this
      | true =>
          constructor
          · intro h c' hc'
            refine ⟨hclean.mpr hf, ?_⟩
            have hn : deleteMails del c₁.radosMails tx₁.objs c'.1 c'.2 = none := h.1 c' hc'
            rw [deleteMails_apply hdel] at hn
            split at hn
            case isTrue hin => exact hin
            case isFalse => exact absurd hn (hex c' hc')
          · intro h
            refine ⟨fun c' hc' => ?_, rfl, hidx⟩
            show deleteMails del c₁.radosMails tx₁.objs c'.1 c'.2 = none
            rw [deleteMails_apply hdel, if_pos (h c' hc').2]

end Rollback

/-- The default settings. -/
def plainSave : SaveSetup := ⟨false, 10240, 134217728⟩

/-- The calls for a mail that is saved without trouble. -/
def goodSave (oid : String) : List SaveCall :=
  [.alloc, .begin oid true, .continue [([72, 105], true)] true, .finish {}]

/-- A saved mail followed by a cancelled one: the cancel sets `failed`, and the rollback deletes
    both mails' objects. -/
theorem rollback_after_cancel_removes :
    ∃ tx tx', saveCalls plainSave (SaveTx.start (fun _ _ => none) 1 [])
        (goodSave "a1" ++ [.alloc, .begin "a2" true, .cancel {}]) = some tx ∧
      mailboxTransactionRollback plainSave {} (fun _ => .done) tx = some tx' ∧
      (∀ c ∈ tx'.created, tx'.objs c.1 c.2 = none) ∧ tx'.records = [] ∧ tx'.index = [] := by
  obtain ⟨tx', h, hiff⟩ := @rollback_removes_created_iff (fun _ => .done) _ plainSave
    (fun _ _ => none) 1 [] (goodSave "a1" ++ [.alloc, .begin "a2" true, .cancel {}]) rfl {}
    (fun _ => rfl)
  refine ⟨_, tx', rfl, h, hiff.mpr ?_⟩
  obtain rfl := Option.some.inj h
  intro c hc
  have hcs : c = (.primary, "a1") := by
    rcases List.mem_cons.mp hc with hc | hc
    · exact hc
    · exact List.mem_singleton.mp hc
  subst hcs
  exact ⟨⟨_, rfl, Or.inr rfl⟩, rfl, by decide⟩

/-- A mail that was saved without trouble stays in RADOS after the rollback. -/
theorem rollback_leaves_saved_object :
    ∃ tx tx', saveCalls plainSave (SaveTx.start (fun _ _ => none) 1 []) (goodSave "a1") = some tx ∧
      mailboxTransactionRollback plainSave {} (fun _ => .done) tx = some tx' ∧
      ¬ ((∀ c ∈ tx'.created, tx'.objs c.1 c.2 = none) ∧ tx'.records = [] ∧ tx'.index = []) := by
  refine ⟨_, _, rfl, rfl, fun h => ?_⟩
  have hn := h.1 (.primary, "a1") (by decide)
  cases hn

end DovecotCeph
