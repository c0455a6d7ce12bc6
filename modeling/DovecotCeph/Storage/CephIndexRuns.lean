/-
  File:      DovecotCeph/Storage/CephIndexRuns.lean
  Subject:   The ceph index over whole runs of a user with object search method 2: saves and copies
             in open transactions, their commits and rollbacks, expunges and rebuilds.

  * `rbox_save_finish` appends the oid of a saved mail, `copy_mail` does not append, and a rebuild
    overwrites the index with the mails it could load and found valid;
  * `mailOp`: one operation on a user's mailboxes, objects, ceph index and open transactions;
  * **`committed_mails_indexed`**: in a run that commits no copied mail and no failed one, and whose
    rebuilds load what they keep, the ceph index has every committed mail.
-/
import DovecotCeph.Librmb.CephIndex
import DovecotCeph.Storage.RebuildKept
import DovecotCeph.Storage.RebuildOrphans
import DovecotCeph.Storage.SaveCommit
import DovecotCeph.Lib.Run

namespace DovecotCeph

/-! ## 1. Which mails get a record -/

/-- The copy is made. -/
def CopyCall.succeeds (k : CopyCall) : Bool := k.conn && k.ready && k.ok && k.src.isSome

/-- The oids whose records a call adds to the index transaction. -/
def SaveCall.adds : SaveCall → List String
  | .begin oid conn => if conn then [oid] else []
  | .copy k => if k.succeeds then [k.oid] else []
  | _ => []

/-- A finish that returns success: no stream failed, the size is neither zero nor too large, and
    the data was written. -/
structure FinishOk (S : SaveSetup) (m : SavedMail) : Prop where
  conts : ∀ c ∈ m.conts, c.2 = true
  flush : m.fin.flushOk = true
  nonempty : m.bytes.length ≠ 0
  objectSize : (m.bytes.length : Int) ≤ S.maxObjectSize
  intSize : m.bytes.length < 2 ^ 31
  dataOk : ∀ i < rounds S m.bytes.length, m.fin.dataOk i = true

section Records

variable {S : SaveSetup} {tx : SaveTx}

theorem writeLoop_records {oid : String} {buffer : Bytes} {size : Nat} {div : Int}
    {ok : Nat → Bool} {n i : Nat} {w : Int × SaveTx}
    (h : writeLoop S oid buffer size div ok n i tx = some w) : w.2.records = tx.records := by
  induction n generalizing i tx with
  | zero =>
      cases h
      rfl
  | succ n ih =>
      rw [writeLoop] at h
      split at h
      case isTrue =>
        split at h
        case isTrue =>
          have hrest := ih h
          exact hrest
        case isFalse =>
          cases h
          rfl
      case isFalse =>
        dsimp only at h
        generalize (if size < (i + 1) * S.maxWrite then size % S.maxWrite else S.maxWrite) = length
          at h
        split at h
        case isTrue =>
          cases h
          rfl
        case isFalse =>
          split at h
          case isTrue => cases h
          case isFalse =>
            split at h
            case isTrue =>
              have hrest := ih h
              exact hrest
            case isFalse =>
              cases h
              rfl

theorem saveMailWriteAppend_records {e : FinishEnv} {oid : String} {buffer : Bytes} {size : Int}
    {w : Int × SaveTx} (h : saveMailWriteAppend S e oid buffer size tx = some w) :
    w.2.records = tx.records := by
  unfold saveMailWriteAppend at h
  dsimp only at h
  split at h
  case isTrue => cases h
  case isFalse =>
    split at h
    case isTrue =>
      cases h
      rfl
    case isFalse =>
      generalize toInt32 _ = div at h
      split at h
      case isTrue =>
        cases h
        dsimp only
        split <;> rfl
      case isFalse =>
        rw [writeLoop_records h]
        split <;> rfl

theorem rboxSaveFinish_records {e : FinishEnv} {c : SaveCtx} {q : Int × SaveTx}
    (h : rboxSaveFinish S e c tx = some q) : q.2.records = tx.records := by
  unfold rboxSaveFinish at h
  split at h
  case h_1 => cases h
  case h_2 =>
    split at h
    · cases h
      rfl
    · cases h
  case h_3 cur _ =>
    have hsends : (e.sends.foldl (sendv S) (cur, tx)).2.records = tx.records :=
      (sends_touches e.sends (cur, tx)).records
    dsimp only at h
    split at h
    case isTrue =>
      cases h
      exact hsends
    case isFalse =>
      split at h
      case isTrue =>
        cases h
        exact hsends
      case isFalse =>
        split at h
        case isTrue =>
          cases h
          exact hsends
        case isFalse =>
          obtain ⟨w, hw, rfl⟩ := Option.map_eq_some_iff.mp h
          exact (saveMailWriteAppend_records hw).trans hsends

/-- Only begin and copy add records. -/
theorem saveCall_records {a : SaveCall} {r : Int × SaveTx} (h : saveCall S tx a = some r) :
    r.2.records.map Prod.snd = tx.records.map Prod.snd ++ a.adds := by
  cases a with
  | alloc =>
      cases h
      unfold rboxSaveAlloc
      split <;> exact (List.append_nil _).symm
  | begin oid conn =>
      obtain ⟨c, _, rfl⟩ := Option.map_eq_some_iff.mp h
      cases conn with
      | false => exact (List.append_nil _).symm
      | true => simp [rboxSaveBegin, rboxAddToIndex, SaveCall.adds]
  | «continue» sends ok =>
      obtain ⟨c, _, h⟩ := Option.bind_eq_some_iff.mp h
      unfold rboxSaveContinue at h
      show _ = _ ++ []
      rw [List.append_nil]
      split at h
      case isTrue =>
        cases h
        rfl
      case isFalse =>
        split at h
        case h_1 cur _ =>
          cases h
          exact congrArg _ (sends_touches sends (cur, tx)).records
        case h_2 => cases h
  | finish e =>
      obtain ⟨c, _, h⟩ := Option.bind_eq_some_iff.mp h
      show _ = _ ++ []
      rw [List.append_nil, rboxSaveFinish_records h]
  | cancel e =>
      obtain ⟨c, _, h⟩ := Option.bind_eq_some_iff.mp h
      show _ = _ ++ []
      rw [List.append_nil, rboxSaveFinish_records h]
  | copy k =>
      obtain ⟨c, _, rfl⟩ := Option.map_eq_some_iff.mp h
      obtain ⟨conn, ready, alt, oid, src, update, ok⟩ := k
      cases conn <;> cases ready <;> cases ok <;> cases src <;>
        simp [rboxMailStorageCopy, SaveCall.adds, CopyCall.succeeds, rboxAddToIndex, SaveTx.put]
  | copySaving conn =>
      obtain ⟨c, _, rfl⟩ := Option.map_eq_some_iff.mp h
      exact (List.append_nil _).symm

theorem saveCalls_records {as : List SaveCall} {tx' : SaveTx}
    (h : saveCalls S tx as = some tx') :
    tx'.records.map Prod.snd = tx.records.map Prod.snd ++ as.flatMap SaveCall.adds := by
  induction as generalizing tx with
  | nil =>
      cases h
      exact (List.append_nil _).symm
  | cons a as ih =>
      obtain ⟨r, hr, h⟩ := Option.bind_eq_some_iff.mp h
      rw [ih h, saveCall_records hr, List.flatMap_cons, List.append_assoc]

/-- The records a mail of a transaction adds. -/
theorem runMail_records {m : MailRun} {ok : Bool} {tx' : SaveTx}
    (h : runMail S tx m = some (ok, tx')) :
    tx'.records.map Prod.snd =
      tx.records.map Prod.snd ++ m.before.flatMap SaveCall.adds ++ m.last.adds := by
  obtain ⟨tx₁, hbefore, h⟩ := Option.bind_eq_some_iff.mp h
  obtain ⟨r, hr, h⟩ := Option.map_eq_some_iff.mp h
  cases h
  rw [saveCall_records hr, saveCalls_records hbefore]

theorem prologue_adds (m : SavedMail) :
    m.prologue.flatMap SaveCall.adds = if m.conn then [m.oid] else [] := by
  have hconts : (m.conts.map fun c => SaveCall.continue c.1 c.2).flatMap SaveCall.adds = [] := by
    rw [List.flatMap_map]
    exact List.flatMap_eq_nil_iff.mpr fun _ _ => rfl
  unfold SavedMail.prologue
  cases m.viaCopy <;> simp [SaveCall.adds, hconts]

theorem writeLoop_code {oid : String} {buffer : Bytes} {size : Nat} {ok : Nat → Bool} {n i : Nat}
    {w : Int × SaveTx} (hmax : 0 < S.maxWrite) (hok : ∀ i < rounds S size, ok i = true)
    (hn : i + n = rounds S size)
    (h : writeLoop S oid buffer size (rounds S size) ok n i tx = some w) : w.1 = 0 := by
  induction n generalizing i tx with
  | zero =>
      cases h
      rfl
  | succ n ih =>
      have hi : i < rounds S size := by omega
      have hin : i * S.maxWrite + chunkLength S size i ≤ size := by
        rw [chunk_end hmax hi]
        exact Nat.min_le_left ..
      have hn' : i + 1 + n = rounds S size := by omega
      rw [writeLoop] at h
      split at h
      case isTrue =>
        rw [if_pos (hok i hi)] at h
        exact ih hn' h
      case isFalse =>
        have hlength : (if size < (i + 1) * S.maxWrite then size % S.maxWrite else S.maxWrite) =
            chunkLength S size i := rfl
        dsimp only at h
        rw [hlength, if_neg (Nat.not_lt.mpr hin)] at h
        split at h
        case isTrue => cases h
        case isFalse =>
          rw [if_pos (hok i hi)] at h
          exact ih hn' h

/-- A mail whose finish meets no trouble is reported as saved. -/
theorem runMail_finishOk {m : SavedMail} (hconn : m.conn = true) (hm : FinishOk S m) {ok : Bool}
    {tx' : SaveTx} (h : runMail S tx (.saved m) = some (ok, tx')) : ok = true := by
  generalize hr₀ : (m.conts.flatMap (·.1)).foldl (sendv S)
    (⟨m.oid, [], 0⟩, tx.withRecord m.oid) = r₀
  obtain ⟨c₁, q, hf, _, hq, hok⟩ := runMail_begun hconn hm.conts h hr₀
  -- the finish writes all bytes of the mail
  obtain ⟨r, _, hfeed, hoff, _⟩ := feed_pieces m (some { c₁ with stream := .live r₀.1 }) hr₀
  have hfin := @rboxSaveFinish_writes S { r₀.2 with ctx := some { c₁ with stream := .live r₀.1 } }
    { c₁ with stream := .live r₀.1 } m.fin r₀.1 _ hf rfl hm.flush hfeed
    (by rw [hoff]; exact hm.nonempty) (by rw [hoff]; exact hm.intSize)
    (by rw [hoff]; exact hm.objectSize)
  rw [hfin, hoff] at hq
  obtain ⟨w, hw, rfl⟩ := Option.map_eq_some_iff.mp hq
  have hcode : w.1 = 0 := by
    have hmax : 0 < S.maxWrite := by
      rcases Nat.eq_zero_or_pos S.maxWrite with h0 | h0
      · simp [saveMailWriteAppend, h0] at hw
      · exact h0
    rw [saveMailWriteAppend_rounds hmax (Nat.pos_iff_ne_zero.mpr hm.nonempty) hm.intSize] at hw
    exact writeLoop_code hmax hm.dataOk (Nat.zero_add _) hw
  have hret : (endFinish { c₁ with stream := .live r₀.1 } (decide (w.1 < 0)) w.2).1 = 0 := by
    rw [hcode]
    rfl
  rw [hret] at hok
  cases hok
  rfl

end Records

/-! ## 2. A user and the operations on his mails -/

/-- Dovecot's `guid_128` and its texts: `guid_128_to_string` writes 32 hex digits, which
    `guid_128_from_string` reads back. -/
structure Guid128 (γ : Type) where
  toString : γ → String
  ofString : String → Option γ
  ofUuidString : String → Option γ
  ofString_toString : ∀ g, ofString (toString g) = some g
  indexOid : ∀ g, IndexOid (toString g)

/-- A transaction and its mails so far. -/
structure OpenTx where
  tx : SaveTx
  mails : List MailRun

/-- No mail saved or copied yet. -/
def OpenTx.fresh : OpenTx := ⟨SaveTx.start (fun _ _ => none) 1 [], []⟩

/-- The mailboxes of a user, his objects, the ceph index, `corrupted_rebuild_count`, and the
    transactions in which his mails are saved. -/
structure UserState (γ : Type) where
  namespaces : List (MailNamespace (RebuildBox γ))
  objs : MailObjs
  cephIndex : CephIndex
  corrupted : Nat
  txs : Nat → OpenTx

/-- A rebuild: which metadata can be loaded, how the mailboxes are listed, and what Dovecot answers
    for them meanwhile. All other RADOS operations succeed. -/
structure RebuildRun where
  force : Bool
  loads : Pass → String → Bool := fun _ _ => true
  answers : BoxInfo → BoxInfo := id
  handedOut : Nat → Option Nat := fun _ => none

/-- What happens to the user's mails. A commit goes to the mailbox with the guid; `expunge` is
    the sync of that mailbox after the mails with these uids were expunged. -/
inductive MailOp (γ : Type) where
  | mail (t : Nat) (oid : γ) (m : MailRun)
  | commit (t : Nat) (guid : String) (e : CommitEnv) (mailGuid : String → γ)
  | rollback (t : Nat) (e : FinishEnv) (del : String → Outcome)
  | expunge (guid : String) (uids : List Nat) (alt : Nat → Bool)
  | rebuild (o : RebuildRun)

/-- `setup_mail_object`: the mail gets a generated oid. -/
def MailRun.withOid (oid : String) : MailRun → MailRun
  | .saved m => .saved { m with oid := oid }
  | .cancelled m => .cancelled { m with oid := oid }
  | .copied k => .copied { k with oid := oid }
  | .copyAborted conn e => .copyAborted conn e

/-- The ceph index after a mail: only a finish that succeeds appends. -/
def MailRun.indexed (ok : Bool) (index : CephIndex) : MailRun → CephIndex
  | .saved m => if ok then cephIndexAppend index m.oid else index
  | _ => index

/-- The xattrs of the objects in the primary pool. -/
def MailObjs.xattrs (objs : MailObjs) : MailXattrs := fun oid => (objs .primary oid).map (·.xattrs)

/-- The objects with other xattrs in the primary pool. -/
def MailObjs.withXattrs (objs : MailObjs) (x : MailXattrs) : MailObjs
  | .primary => fun oid => (x oid).map fun a => ⟨((objs .primary oid).map (·.data)).getD [], a⟩
  | .alt => objs .alt

section Model

variable {γ : Type} (G : Guid128 γ) (S : SaveSetup)

/-- The environment of a rebuild. -/
def Guid128.env (o : RebuildRun) : RebuildEnv γ where
  guidFromString := G.ofString
  guidFromUuidString := G.ofUuidString
  searchMethod := 2
  loads := o.loads

/-- The records of a commit. -/
def newRecords (mailGuid : String → γ) : Nat → List String → List (IndexRecord γ)
  | _, [] => []
  | uid, oid :: oids => match G.ofString oid with
    | some g => ⟨uid, g, mailGuid oid⟩ :: newRecords mailGuid (uid + 1) oids
    | none => newRecords mailGuid (uid + 1) oids

namespace UserState

/-- A transaction on the user's objects. -/
def tx (u : UserState γ) (t : Nat) : SaveTx := { (u.txs t).tx with objs := u.objs }

/-- The transaction is over. -/
def close (u : UserState γ) (t : Nat) : UserState γ :=
  { u with txs := Function.update u.txs t .fresh }

@[simp] theorem close_txs (u : UserState γ) (t : Nat) :
    (u.close t).txs = Function.update u.txs t .fresh := rfl

/-- The index of a mailbox is changed. -/
def editBox (u : UserState γ) (guid : String) (f : BoxIndex γ → BoxIndex γ) : UserState γ :=
  { u with namespaces := u.namespaces.map (·.map fun b =>
      if b.info.guid = guid then { b with index := f b.index } else b) }

/-- The first uid of a commit. -/
def nextUid (u : UserState γ) (guid : String) : Nat :=
  (((u.namespaces.flatMap (·.boxes)).find? fun b => b.info.guid = guid).map
    (·.index.firstUid)).getD 1

/-- The user as a rebuild finds him. -/
def rebuildState (u : UserState γ) (o : RebuildRun) : RebuildState γ where
  namespaces := u.namespaces.mapIdx fun i ns =>
    { ns.map fun b => { b with info := o.answers b.info } with handedOut := o.handedOut i }
  store := ⟨u.objs.xattrs, [], cephIndexRead u.cephIndex, u.corrupted, []⟩

/-- The user after a rebuild. Without an overwrite the text of the ceph index stays. -/
def rebuilt (u : UserState γ) (st : RebuildState γ) : UserState γ :=
  { u with
    namespaces := st.namespaces
    objs := u.objs.withXattrs st.store.objs
    corrupted := st.store.corrupted
    cephIndex := if st.store.cephIndex = cephIndexRead u.cephIndex then u.cephIndex
      else cephIndexOverwrite st.store.cephIndex }

/-- The objects of the expunged records are removed, each from the pool its ALT flag names. -/
def removeExpunged (alt : Nat → Bool) (records : List (IndexRecord γ)) (objs : MailObjs) :
    MailObjs := fun pool oid =>
  if records.any fun r => G.toString r.oid = oid && pool = if alt r.uid then .alt else .primary
  then none else objs pool oid

end UserState

/-- The commit of a transaction that has saved mails: `commit_pre`, the index records,
    `commit_post`. -/
def commitTx (u : UserState γ) (t : Nat) (guid : String) (e : CommitEnv) (mailGuid : String → γ) :
    Option (UserState γ) :=
  (rboxTransactionSaveCommitPre S e (u.tx t)).bind fun r =>
    if r.1 < 0 then some ({ u with objs := r.2.objs }.close t)
    else
      (rboxTransactionSaveCommitPost S e (commitIndex r.2)).map fun tx =>
        { u with objs := tx.objs }.close t |>.editBox guid fun b =>
          { b with
            records := b.records ++ newRecords G mailGuid b.firstUid (r.2.records.map Prod.snd)
            nextUid := b.firstUid + r.2.records.length }

/-- **One operation**; `none` where a process ends. -/
def mailOp (u : UserState γ) : MailOp γ → Option (UserState γ)
  | .mail t oid m =>
    let m := m.withOid (G.toString oid)
    (runMail S (u.tx t) m).map fun r =>
      { u with
        objs := r.2.objs
        cephIndex := m.indexed r.1 u.cephIndex
        txs := Function.update u.txs t ⟨r.2, (u.txs t).mails ++ [m]⟩ }
  | .commit t guid e mailGuid =>
    if (u.tx t).ctx.isNone then some (u.close t)
    else commitTx G S u t guid { e with uids := fun n => toString (u.nextUid guid + n) } mailGuid
  | .rollback t e del =>
    (mailboxTransactionRollback S e del (u.tx t)).map fun tx => { u with objs := tx.objs }.close t
  | .expunge guid uids alt =>
    let expunged := (u.namespaces.flatMap (·.boxes)).flatMap fun b =>
      if b.info.guid = guid then b.index.records.filter (·.uid ∈ uids) else []
    some ({ u with objs := UserState.removeExpunged G alt expunged u.objs }.editBox guid fun b =>
      { b with records := b.records.filter (·.uid ∉ uids) })
  | .rebuild o =>
    (rboxStorageRebuildInContext (G.env o) o.force (u.rebuildState o)).2.map fun r => u.rebuilt r.2

/-- A run goes on as long as no process ends. -/
def mailOps (u : Option (UserState γ)) (op : MailOp γ) : Option (UserState γ) :=
  u.bind fun u => mailOp G S u op

end Model

/-! ## 3. The property and its condition -/

section Property

variable {γ : Type} (G : Guid128 γ) (S : SaveSetup)

/-- **The ceph index covers the mails**: `ceph_index_read` returns the oid of every committed index
    record. -/
def Covered (u : UserState γ) : Prop :=
  ∀ ns ∈ u.namespaces, ∀ b ∈ ns.boxes, ∀ r ∈ b.index.records,
    G.toString r.oid ∈ cephIndexRead u.cephIndex

instance (u : UserState γ) : Decidable (Covered G u) :=
  inferInstanceAs (Decidable (∀ ns ∈ u.namespaces, ∀ b ∈ ns.boxes, ∀ r ∈ b.index.records,
    G.toString r.oid ∈ cephIndexRead u.cephIndex))

/-- The mail gets no index record, or its oid is appended to the ceph index. -/
def Appended : MailRun → Prop
  | .saved m => m.conn = true → FinishOk S m
  | .cancelled m => m.conn = false
  | .copied k => k.succeeds = false
  | .copyAborted .. => True

/-- All mails of the transaction are. -/
def OpenTx.Appended (x : OpenTx) : Prop := ∀ m ∈ x.mails, DovecotCeph.Appended S m

/-- The oids with a record in such a transaction. -/
def UserState.pending (u : UserState γ) (oid : String) : Prop :=
  ∃ t, (u.txs t).Appended S ∧ oid ∈ (u.txs t).tx.records.map Prod.snd

/-- The metadata of the object can be loaded and is valid. -/
def Loads (E : RebuildEnv γ) (p : Pass) (objs : MailXattrs) (oid : String) : Prop :=
  E.loads p oid = true ∧ ∃ x, objs oid = some x ∧ validateMetadata x = true

/-- A call of the rebuild that visits a mailbox loads the mails of all mailboxes it keeps and the
    pending ones. -/
def PassLoads (E : RebuildEnv γ) (p : Pass) (force : Bool) (pending : String → Prop)
    (st : RebuildState γ) : Prop :=
  visited p st.namespaces ≠ [] →
    (∀ b ∈ st.kept E p force, ∀ r ∈ b.index.records, Loads E p st.store.objs (G.toString r.oid)) ∧
    ∀ oid, pending oid → Loads E p st.store.objs oid

/-- Both calls of a rebuild do, the second one if it is made. -/
def RebuildLoads (E : RebuildEnv γ) (force : Bool) (pending : String → Prop) (st : RebuildState γ) :
    Prop :=
  PassLoads G E .first force pending st ∧
    ∀ st₁ guid, rebuildPass E .first force st = some st₁ →
      st₁.store.mails.all (·.restored) = false →
      findDefaultMailboxGuid .first (findInbox st₁.infos) = some guid →
      PassLoads G E .second force pending (st₁.reassigned E .first guid)

/-- **The condition on an operation**: a committed transaction has only mails whose oids were
    appended, and a rebuild loads what stays. -/
def OpOk (u : UserState γ) : MailOp γ → Prop
  | .commit t .. => (u.txs t).Appended S
  | .rebuild o => RebuildLoads G (G.env o) o.force (u.pending S) (u.rebuildState o)
  | _ => True

/-- It holds in the state in which the operation starts. -/
def OpsOk (u : Option (UserState γ)) (op : MailOp γ) : Prop := ∀ v, u = some v → OpOk G S v op

/-- A user with no transaction open whose ceph index covers his mails, for example one who has no
    mails yet. -/
structure UserStart (u : UserState γ) : Prop where
  text : IndexText u.cephIndex
  guids : ∀ oid ∈ cephIndexRead u.cephIndex, ∃ g, oid = G.toString g
  covered : Covered G u
  closed : ∀ t, u.txs t = .fresh

/-- What every state of a run has. -/
structure IndexedInv (u : UserState γ) : Prop where
  text : IndexText u.cephIndex
  guids : ∀ oid ∈ cephIndexRead u.cephIndex, ∃ g, oid = G.toString g
  covered : Covered G u
  pending : ∀ oid, u.pending S oid → oid ∈ cephIndexRead u.cephIndex

end Property

/-! ## 4. Rebuilds -/

section Rebuilds

variable {γ : Type} {G : Guid128 γ} {E : RebuildEnv γ} {p : Pass} {force : Bool}
  {pending : String → Prop} {st st' : RebuildState γ}

/-- The ceph index of a rebuild has the mails of all mailboxes and the pending ones, and holds
    nothing but oids. -/
structure StoreCovered (G : Guid128 γ) (pending : String → Prop) (st : RebuildState γ) : Prop where
  guids : ∀ oid ∈ st.store.cephIndex, ∃ g, oid = G.toString g
  records : ∀ b ∈ st.allBoxes, ∀ r ∈ b.index.records, G.toString r.oid ∈ st.store.cephIndex
  pending : ∀ oid, pending oid → oid ∈ st.store.cephIndex

theorem mem_mailList_ceph {s : RebuildStore} (h2 : E.searchMethod = 2) {oid : String} :
    oid ∈ s.mailList E ↔ oid ∈ s.cephIndex := by
  rw [RebuildStore.mailList, if_pos h2, Lib.mem_orderedSet]

/-- An object of the ceph index that loads is among the loaded mails. -/
theorem mem_loaded_of_loads (h2 : E.searchMethod = 2) {oid : String}
    (hmem : oid ∈ st.store.cephIndex) (h : Loads E p st.store.objs oid) :
    oid ∈ (loaded E p st.fresh).map (·.oid) := by
  obtain ⟨hload, x, hobj, hvalid⟩ := h
  have hobj' : st.fresh.objs oid = some x := hobj
  refine List.mem_map.mpr ⟨⟨oid, x, false⟩, List.mem_filterMap.mpr ⟨oid, ?_, ?_⟩, rfl⟩
  · exact (mem_mailList_ceph h2).mpr hmem
  · rw [if_pos hload, hobj', Option.bind_some, if_pos hvalid]

/-- **One call keeps the ceph index complete**, if it loads what stays. -/
theorem rebuildPass_covered (h2 : E.searchMethod = 2) (hw : E.overwrites p = true)
    (hguid : E.guidFromString = G.ofString) (hi : StoreCovered G pending st)
    (hok : PassLoads G E p force pending st) (h : rebuildPass E p force st = some st') :
    StoreCovered G pending st' := by
  obtain ⟨hboxes, hindex⟩ := rebuildPass_index h2 hw h
  by_cases hvis : visited p st.namespaces = []
  · rw [if_pos hvis] at hindex
    refine ⟨?_, ?_, ?_⟩
    · rw [hindex]
      exact hi.guids
    · intro b hb r hr
      rw [hindex]
      rcases hboxes b hb with hkept | ⟨hne, _⟩
      · exact hi.records b (mem_of_kept hkept) r hr
      · exact absurd hvis hne
    · rw [hindex]
      exact hi.pending
  · rw [if_neg hvis] at hindex
    obtain ⟨hkeptOk, hpendOk⟩ := hok hvis
    have hloaded : ∀ m ∈ loaded E p st.fresh, ∃ g, m.oid = G.toString g := fun m hm =>
      hi.guids m.oid ((mem_mailList_ceph h2).mp (mem_loaded hm).1)
    refine ⟨?_, ?_, ?_⟩
    · rw [hindex]
      intro oid hoid
      obtain ⟨m, hm, rfl⟩ := List.mem_map.mp hoid
      exact hloaded m hm
    · intro b hb r hr
      rw [hindex]
      rcases hboxes b hb with hkept | ⟨_, hrec⟩
      · exact mem_loaded_of_loads h2 (hi.records b (mem_of_kept hkept) r hr) (hkeptOk b hkept r hr)
      · -- the record was made from the text of the oid
        obtain ⟨m, hm, hoid⟩ := hrec r hr
        obtain ⟨g, hg⟩ := hloaded m hm
        rw [hguid, hg, G.ofString_toString] at hoid
        rw [← Option.some.inj hoid, ← hg]
        exact List.mem_map_of_mem hm
    · intro oid hoid
      rw [hindex]
      exact mem_loaded_of_loads h2 (hi.pending oid hoid) (hpendOk oid hoid)

/-- **A rebuild keeps the ceph index complete**, if its calls load what stays. -/
theorem rebuild_covered (h2 : E.searchMethod = 2) (hw : ∀ p, E.overwrites p = true)
    (hguid : E.guidFromString = G.ofString) (hi : StoreCovered G pending st)
    (hok : RebuildLoads G E force pending st) {code : Int}
    (h : (rboxStorageRebuildInContext E force st).2 = some (code, st')) :
    StoreCovered G pending st' := by
  unfold rboxStorageRebuildInContext at h
  split at h
  case h_1 => cases h
  case h_2 st₁ hfirst =>
    have hi₁ := rebuildPass_covered h2 (hw .first) hguid hi hok.1 hfirst
    cases hall : st₁.store.mails.all (·.restored) with
    | true =>
        rw [assignUnassigned_restored hall] at h
        cases h
        exact hi₁
    | false =>
        cases hfind : findDefaultMailboxGuid .first (findInbox st₁.infos) with
        | none =>
            rw [assignUnassigned_notFound hfind] at h
            cases h
            exact hi₁
        | some guid =>
            rw [assignUnassigned_found (by rw [hall]; exact Bool.false_ne_true) hfind] at h
            -- giving mails to INBOX changes neither the ceph index nor a record
            have hi₂ : StoreCovered G pending (st₁.reassigned E .first guid) :=
              ⟨hi₁.guids, hi₁.records, hi₁.pending⟩
            have hok₂ := hok.2 st₁ guid hfirst hall hfind
            unfold rebuildAgain at h
            split at h
            case h_1 => cases h
            case h_2 st₂ hsecond =>
              have hi₃ := rebuildPass_covered h2 (hw .second) hguid hi₂ hok₂ hsecond
              have hend : ∃ guid', st' = st₂ ∨ st' = st₂.reassigned E .second guid' := by
                unfold assignUnassigned at h
                split at h
                case isTrue =>
                  cases h
                  exact ⟨guid, .inl rfl⟩
                case isFalse =>
                  split at h
                  case h_1 =>
                    cases h
                    exact ⟨guid, .inl rfl⟩
                  case h_2 guid' _ =>
                    cases h
                    exact ⟨guid', .inr rfl⟩
              obtain ⟨guid', rfl | rfl⟩ := hend
              · exact hi₃
              · exact ⟨hi₃.guids, hi₃.records, hi₃.pending⟩

end Rebuilds

/-! ## 5. Runs -/

section Runs

variable {γ : Type} {G : Guid128 γ} {S : SaveSetup} {u u' : UserState γ}

/-- A new record is that of a mail whose oid was appended. -/
theorem runMail_adds {tx tx' : SaveTx} {m : MailRun} {ok : Bool} (hm : Appended S m)
    (h : runMail S tx m = some (ok, tx')) {oid : String} (hoid : oid ∈ tx'.records.map Prod.snd) :
    oid ∈ tx.records.map Prod.snd ∨ ∃ k, m = .saved k ∧ ok = true ∧ oid = k.oid := by
  have hrecords := runMail_records h
  cases m with
  | saved k =>
      replace hrecords : tx'.records.map Prod.snd =
        tx.records.map Prod.snd ++ k.prologue.flatMap SaveCall.adds ++ [] := hrecords
      rw [prologue_adds, List.append_nil] at hrecords
      rw [hrecords] at hoid
      cases hconn : k.conn with
      | false =>
          rw [hconn] at hoid
          exact .inl ((List.mem_append.mp hoid).resolve_right List.not_mem_nil)
      | true =>
          rw [hconn] at hoid
          refine (List.mem_append.mp hoid).imp_right fun hnew => ⟨k, rfl, ?_, ?_⟩
          · exact runMail_finishOk hconn (hm hconn) h
          · exact List.mem_singleton.mp hnew
  | cancelled k =>
      replace hrecords : tx'.records.map Prod.snd =
        tx.records.map Prod.snd ++ k.prologue.flatMap SaveCall.adds ++ [] := hrecords
      have hconn : k.conn = false := hm
      rw [prologue_adds, hconn, if_neg Bool.false_ne_true, List.append_nil,
        List.append_nil] at hrecords
      rw [hrecords] at hoid
      exact .inl hoid
  | copied k =>
      have hk : k.succeeds = false := hm
      replace hrecords : tx'.records.map Prod.snd =
        tx.records.map Prod.snd ++ [] ++ if k.succeeds then [k.oid] else [] := hrecords
      rw [hk, if_neg Bool.false_ne_true, List.append_nil, List.append_nil] at hrecords
      rw [hrecords] at hoid
      exact .inl hoid
  | copyAborted conn e =>
      replace hrecords : tx'.records.map Prod.snd = tx.records.map Prod.snd ++ [] ++ [] := by
        rw [hrecords]
        cases conn <;> rfl
      rw [List.append_nil, List.append_nil] at hrecords
      rw [hrecords] at hoid
      exact .inl hoid

theorem withOid_saved {oid : String} {m : MailRun} {k : SavedMail}
    (h : m.withOid oid = .saved k) : k.oid = oid := by
  cases m with
  | saved k' =>
      cases h
      rfl
  | cancelled _ => cases h
  | copied _ => cases h
  | copyAborted _ _ => cases h

/-- The ceph index after a mail. -/
theorem indexed_spec (htext : IndexText u.cephIndex) (g : γ) (m : MailRun) (ok : Bool) :
    IndexText ((m.withOid (G.toString g)).indexed ok u.cephIndex) ∧
      ∀ oid, oid ∈ cephIndexRead ((m.withOid (G.toString g)).indexed ok u.cephIndex) ↔
        oid ∈ cephIndexRead u.cephIndex ∨
          ∃ k, m.withOid (G.toString g) = .saved k ∧ ok = true ∧ oid = k.oid := by
  cases hm : m.withOid (G.toString g) with
  | saved k =>
      have hk : IndexOid k.oid := by
        rw [withOid_saved hm]
        exact G.indexOid g
      cases ok with
      | false => exact ⟨htext, fun oid => by simp [MailRun.indexed]⟩
      | true =>
          refine ⟨htext.append hk, fun oid => ?_⟩
          refine (mem_read_append htext hk).trans (or_congr_right ?_)
          exact ⟨fun h => ⟨k, rfl, rfl, h⟩, fun ⟨_, he, _, h⟩ => by cases he; exact h⟩
  | cancelled _ => exact ⟨htext, fun oid => by simp [MailRun.indexed]⟩
  | copied _ => exact ⟨htext, fun oid => by simp [MailRun.indexed]⟩
  | copyAborted _ _ => exact ⟨htext, fun oid => by simp [MailRun.indexed]⟩

theorem indexedInv_mail (hi : IndexedInv G S u) {t : Nat} {g : γ} {m : MailRun}
    (h : mailOp G S u (.mail t g m) = some u') : IndexedInv G S u' := by
  obtain ⟨⟨ok, tx'⟩, hrun, rfl⟩ := Option.map_eq_some_iff.mp h
  obtain ⟨htext, hmem⟩ := @indexed_spec γ G u hi.text g m ok
  refine ⟨htext, fun oid hoid => ?_, fun ns hns b hb r hr => ?_, fun oid hoid => ?_⟩
  · rcases (hmem oid).mp hoid with hold | ⟨k, hk, _, rfl⟩
    · exact hi.guids oid hold
    · exact ⟨g, withOid_saved hk⟩
  · exact (hmem _).mpr (.inl (hi.covered ns hns b hb r hr))
  · obtain ⟨t', happ, hrec⟩ := hoid
    dsimp only at happ hrec
    refine (hmem oid).mpr ?_
    by_cases ht : t' = t
    · subst ht
      rw [Function.update_self] at happ hrec
      have hold : (u.txs t').Appended S := fun m' hm' => happ m' (List.mem_append_left _ hm')
      have hnew := happ _ (List.mem_append_right _ (List.mem_singleton_self _))
      refine (runMail_adds hnew hrun hrec).imp_left fun hrec => ?_
      exact hi.pending oid ⟨t', hold, hrec⟩
    · rw [Function.update_of_ne ht] at happ hrec
      exact .inl (hi.pending oid ⟨t', happ, hrec⟩)

theorem pending_close {t : Nat} {oid : String} (h : (u.close t).pending S oid) :
    u.pending S oid := by
  obtain ⟨t', happ, hrec⟩ := h
  by_cases ht : t' = t
  · subst ht
    rw [UserState.close_txs, Function.update_self] at hrec
    exact absurd hrec List.not_mem_nil
  · rw [UserState.close_txs, Function.update_of_ne ht] at happ hrec
    exact ⟨t', happ, hrec⟩

theorem IndexedInv.close (hi : IndexedInv G S u) (objs : MailObjs) (t : Nat) :
    IndexedInv G S ({ u with objs := objs }.close t) :=
  ⟨hi.text, hi.guids, hi.covered, fun oid hoid => hi.pending oid (pending_close hoid)⟩

/-- The index of a mailbox gets only records of the ceph index. -/
theorem IndexedInv.editBox (hi : IndexedInv G S u) {guid : String} {f : BoxIndex γ → BoxIndex γ}
    (hf : ∀ b, ∀ r ∈ (f b).records, r ∈ b.records ∨ G.toString r.oid ∈ cephIndexRead u.cephIndex) :
    IndexedInv G S (u.editBox guid f) := by
  refine ⟨hi.text, hi.guids, fun ns hns b hb r hr => ?_, hi.pending⟩
  obtain ⟨ns₀, hns₀, rfl⟩ := List.mem_map.mp hns
  obtain ⟨b₀, hb₀, rfl⟩ := List.mem_map.mp hb
  split at hr
  case isTrue => exact (hf b₀.index r hr).elim (hi.covered ns₀ hns₀ b₀ hb₀ r) id
  case isFalse => exact hi.covered ns₀ hns₀ b₀ hb₀ r hr

theorem mem_newRecords {mailGuid : String → γ} {uid : Nat} {oids : List String}
    {r : IndexRecord γ} (h : r ∈ newRecords G mailGuid uid oids) :
    ∃ oid ∈ oids, G.ofString oid = some r.oid := by
  induction oids generalizing uid with
  | nil => exact absurd h List.not_mem_nil
  | cons oid oids ih =>
      rw [newRecords] at h
      split at h
      case h_1 g hg =>
        rcases List.mem_cons.mp h with rfl | h
        · exact ⟨oid, List.mem_cons_self, hg⟩
        · obtain ⟨oid', hoid', ho⟩ := ih h
          exact ⟨oid', List.mem_cons_of_mem _ hoid', ho⟩
      case h_2 =>
        obtain ⟨oid', hoid', ho⟩ := ih h
        exact ⟨oid', List.mem_cons_of_mem _ hoid', ho⟩

/-- `commit_pre` returns 0 or -1. -/
theorem commitPre_code {e : CommitEnv} {tx : SaveTx} {r : Int × SaveTx}
    (h : rboxTransactionSaveCommitPre S e tx = some r) (hr : ¬ r.1 < 0) : r.1 = 0 := by
  unfold rboxTransactionSaveCommitPre at h
  obtain ⟨c, _, h⟩ := Option.bind_eq_some_iff.mp h
  split at h
  case isTrue => cases h
  case isFalse =>
    split at h
    case isTrue =>
      obtain ⟨_, _, rfl⟩ := Option.map_eq_some_iff.mp h
      exact absurd (show (-1 : Int) < 0 by decide) hr
    case isFalse =>
      split at h
      case isTrue =>
        cases h
        exact absurd (show (-1 : Int) < 0 by decide) hr
      case isFalse =>
        dsimp only at h
        split at h
        case isTrue =>
          cases h
          rfl
        case isFalse =>
          obtain ⟨_, _, rfl⟩ := Option.map_eq_some_iff.mp h
          exact absurd (show (-1 : Int) < 0 by decide) hr

theorem indexedInv_commit (hi : IndexedInv G S u) {t : Nat} {guid : String} {e : CommitEnv}
    {mailGuid : String → γ} (hok : (u.txs t).Appended S)
    (h : commitTx G S u t guid e mailGuid = some u') : IndexedInv G S u' := by
  obtain ⟨r, hpre, h⟩ := Option.bind_eq_some_iff.mp h
  split at h
  case isTrue =>
    cases h
    exact hi.close _ t
  case isFalse hr =>
    obtain ⟨tx, _, rfl⟩ := Option.map_eq_some_iff.mp h
    refine (hi.close tx.objs t).editBox fun b record hrecord => ?_
    refine (List.mem_append.mp hrecord).imp_right fun hnew => ?_
    obtain ⟨oid, hoid, hg⟩ := mem_newRecords hnew
    -- the records are those of the transaction, which are in the ceph index
    obtain ⟨code, tx₁⟩ := r
    obtain rfl : code = 0 := commitPre_code hpre hr
    rw [(commitPre_assigns hpre).2.records] at hoid
    have hread : oid ∈ cephIndexRead u.cephIndex := hi.pending oid ⟨t, hok, hoid⟩
    obtain ⟨g, rfl⟩ := hi.guids oid hread
    rw [G.ofString_toString] at hg
    rw [← Option.some.inj hg]
    exact hread

theorem indexedInv_rebuild {o : RebuildRun} (hi : IndexedInv G S u)
    (hok : RebuildLoads G (G.env o) o.force (u.pending S) (u.rebuildState o))
    (h : mailOp G S u (.rebuild o) = some u') : IndexedInv G S u' := by
  obtain ⟨⟨code, st'⟩, hrun, rfl⟩ := Option.map_eq_some_iff.mp h
  have hstart : StoreCovered G (u.pending S) (u.rebuildState o) := by
    refine ⟨hi.guids, fun b hb r hr => ?_, hi.pending⟩
    obtain ⟨ns, hns, hb⟩ := List.mem_flatMap.mp hb
    obtain ⟨i, hi', rfl⟩ := List.mem_mapIdx.mp hns
    obtain ⟨b₀, hb₀, rfl⟩ := List.mem_map.mp hb
    exact hi.covered _ (List.getElem_mem hi') b₀ hb₀ r hr
  have hend := rebuild_covered rfl (fun _ => rfl) rfl hstart hok hrun
  have hoids : ∀ oid ∈ st'.store.cephIndex, IndexOid oid := by
    intro oid hoid
    obtain ⟨g, rfl⟩ := hend.guids oid hoid
    exact G.indexOid g
  -- the text of the ceph index stands for the list of the rebuild
  have htext : IndexText (u.rebuilt st').cephIndex ∧
      ∀ oid, oid ∈ cephIndexRead (u.rebuilt st').cephIndex ↔ oid ∈ st'.store.cephIndex := by
    by_cases hsame : st'.store.cephIndex = cephIndexRead u.cephIndex
    · have hkeep : (u.rebuilt st').cephIndex = u.cephIndex := if_pos hsame
      rw [hkeep, hsame]
      exact ⟨hi.text, fun _ => Iff.rfl⟩
    · have hwrite : (u.rebuilt st').cephIndex = cephIndexOverwrite st'.store.cephIndex :=
        if_neg hsame
      rw [hwrite]
      exact ⟨indexText_overwrite hoids, fun oid => mem_read_overwrite hoids⟩
  refine ⟨htext.1, fun oid hoid => ?_, fun ns hns b hb r hr => ?_, fun oid hoid => ?_⟩
  · exact hend.guids oid ((htext.2 oid).mp hoid)
  · exact (htext.2 _).mpr (hend.records b (List.mem_flatMap.mpr ⟨ns, hns, hb⟩) r hr)
  · exact (htext.2 oid).mpr (hend.pending oid hoid)

/-- **Every operation that meets the condition keeps the invariant.** -/
theorem indexedInv_step (hi : IndexedInv G S u) {op : MailOp γ} (hok : OpOk G S u op)
    (h : mailOp G S u op = some u') : IndexedInv G S u' := by
  cases op with
  | mail t oid m => exact indexedInv_mail hi h
  | commit t guid e mailGuid =>
      rw [mailOp] at h
      split at h
      case isTrue =>
        cases h
        exact hi.close u.objs t
      case isFalse => exact indexedInv_commit hi hok h
  | rollback t e del =>
      obtain ⟨tx, _, rfl⟩ := Option.map_eq_some_iff.mp h
      exact hi.close tx.objs t
  | expunge guid uids alt =>
      cases h
      have hobjs : ∀ objs, IndexedInv G S { u with objs := objs } := fun _ =>
        ⟨hi.text, hi.guids, hi.covered, hi.pending⟩
      exact (hobjs _).editBox fun b r hr => .inl (List.mem_of_mem_filter hr)
  | rebuild o => exact indexedInv_rebuild hi hok h

/-- **The ceph index covers all committed mails** in every state of a run that commits only mails
    whose oids were appended and whose rebuilds load what stays: every record of a mailbox a call
    keeps, and every mail of an open transaction. -/
theorem committed_mails_indexed (G : Guid128 γ) (S : SaveSetup) {u : UserState γ}
    (hstart : UserStart G u) {ops : List (MailOp γ)}
    (hok : Lib.Along (mailOps G S) (OpsOk G S) (some u) ops) {u' : UserState γ}
    (hrun : Lib.run (mailOps G S) (some u) ops = some u') : Covered G u' := by
  have hinv : ∀ v, Lib.run (mailOps G S) (some u) ops = some v → IndexedInv G S v := by
    refine Lib.along_inv (I := fun w => ∀ v, w = some v → IndexedInv G S v)
      (fun w op hw hop v hv => ?_) ?_ hok
    · obtain ⟨v₀, rfl, hv⟩ := Option.bind_eq_some_iff.mp hv
      exact indexedInv_step (hw v₀ rfl) (hop v₀ rfl) hv
    · intro v hv
      cases hv
      refine ⟨hstart.text, hstart.guids, hstart.covered, fun oid hoid => ?_⟩
      obtain ⟨t, _, hrec⟩ := hoid
      rw [hstart.closed t] at hrec
      exact absurd hrec List.not_mem_nil
  exact (hinv u' hrun).covered

end Runs

/-! ## 6. Two runs -/

/-- Guids by their hex digits. -/
abbrev HexGuid := { s : String // hexGuid s = some s }

/-- A text of hex digits can stand in the ceph index. -/
theorem indexOid_of_hexGuid {s : String} (h : hexGuid s = some s) : IndexOid s := by
  unfold hexGuid at h
  split at h
  case isFalse => cases h
  case isTrue hs =>
    have hall := List.all_eq_true.mp hs.2
    refine ⟨?_, fun hc => absurd (hall _ hc) (by decide), fun hc => absurd (hall _ hc) (by decide)⟩
    rintro rfl
    exact absurd hs.1 (by decide)

def readHexGuid (s : String) : Option HexGuid :=
  if h : hexGuid s = some s then some ⟨s, h⟩ else none

def hexGuids : Guid128 HexGuid where
  toString := Subtype.val
  ofString := readHexGuid
  ofUuidString := readHexGuid
  ofString_toString := fun g => dif_pos g.2
  indexOid := fun g => indexOid_of_hexGuid g.2

def firstGuid : HexGuid := ⟨"a0000000000000000000000000000000", by decide⟩

def secondGuid : HexGuid := ⟨"b0000000000000000000000000000000", by decide⟩

/-- A mail of two bytes for INBOX; the commit writes its uid. -/
def inboxMail : SavedMail where
  oid := ""
  conts := [([([72, 105], true)], true)]
  fin := { metadata := fun k => if k = "U" then none else mailXattrs inboxGuid "0" k }

theorem finishOk_inboxMail (oid : String) : FinishOk plainSave { inboxMail with oid := oid } where
  conts := by
    intro c hc
    obtain rfl := List.mem_singleton.mp hc
    rfl
  flush := rfl
  nonempty := (by decide : 2 ≠ 0)
  objectSize := (by decide : (2 : Int) ≤ 134217728)
  intSize := (by decide : 2 < 2 ^ 31)
  dataOk := fun _ _ => rfl

/-- A user with an empty INBOX. -/
def newUser : UserState HexGuid where
  namespaces := [⟨true, none, [⟨{ vname := "INBOX", guid := inboxGuid }, ⟨[], 1, 1⟩⟩], none⟩]
  objs := fun _ _ => none
  cephIndex := []
  corrupted := 0
  txs := fun _ => .fresh

theorem userStart_newUser : UserStart hexGuids newUser where
  text := indexText_nil
  guids := nofun
  covered := by
    intro ns hns b hb r hr
    obtain rfl := List.mem_singleton.mp hns
    obtain rfl := List.mem_singleton.mp hb
    exact absurd hr List.not_mem_nil
  closed := fun _ => rfl

/-- Two mails are delivered to INBOX in one transaction. -/
def delivery : List (MailOp HexGuid) :=
  [.mail 0 firstGuid (.saved inboxMail), .mail 0 secondGuid (.saved inboxMail),
    .commit 0 inboxGuid { uids := toString } fun _ => firstGuid]

/-- A forced rebuild that cannot load the second one. -/
def lossyRebuild : RebuildRun where
  force := true
  loads := fun _ oid => oid ≠ secondGuid.1

/-- The user after the delivery. -/
def delivered : Option (UserState HexGuid) :=
  Lib.run (mailOps hexGuids plainSave) (some newUser) delivery

theorem delivered_closed {u : UserState HexGuid} (h : delivered = some u) (t : Nat) :
    u.txs t = .fresh := by
  obtain ⟨x, y, htxs⟩ : ∃ x y, delivered.map (·.txs) = some (Function.update (Function.update
      (Function.update newUser.txs 0 x) 0 y) 0 .fresh) := ⟨_, _, rfl⟩
  rw [h, Option.map_some] at htxs
  rw [Option.some.inj htxs]
  by_cases ht : t = 0
  · rw [ht, Function.update_self]
  · rw [Function.update_of_ne ht, Function.update_of_ne ht, Function.update_of_ne ht]
    rfl

/-- The forced rebuild keeps no mailbox and makes one call. -/
theorem lossyRebuild_loads {u : UserState HexGuid} (h : delivered = some u) :
    RebuildLoads hexGuids (hexGuids.env lossyRebuild) true (u.pending plainSave)
      (u.rebuildState lossyRebuild) := by
  have hkept : delivered.map (fun u => (u.rebuildState lossyRebuild).kept
      (hexGuids.env lossyRebuild) .first true) = some [] := rfl
  have hall : (delivered.bind fun u => (rebuildPass (hexGuids.env lossyRebuild) .first true
      (u.rebuildState lossyRebuild)).map fun st => st.store.mails.all (·.restored)) =
        some true := by
    decide
  rw [h, Option.map_some] at hkept
  rw [h, Option.bind_some] at hall
  refine ⟨fun _ => ⟨fun b hb => ?_, fun oid hoid => ?_⟩, fun st₁ guid hfirst hrest => ?_⟩
  · rw [Option.some.inj hkept] at hb
    exact absurd hb List.not_mem_nil
  · obtain ⟨t, _, hrec⟩ := hoid
    rw [delivered_closed h t] at hrec
    exact absurd hrec List.not_mem_nil
  · rw [hfirst] at hall
    have htrue : st₁.store.mails.all (·.restored) = true := Option.some.inj hall
    rw [hrest] at htrue
    cases htrue

/-- The rebuild drops the record of the mail it cannot load, and the ceph index has the other. -/
theorem lossy_rebuild_covered :
    ∃ u', Lib.run (mailOps hexGuids plainSave) (some newUser)
        (delivery ++ [.rebuild lossyRebuild]) = some u' ∧
      Covered hexGuids u' ∧ cephIndexRead u'.cephIndex = [firstGuid.1] := by
  have hread : (Lib.run (mailOps hexGuids plainSave) (some newUser)
      (delivery ++ [.rebuild lossyRebuild])).map (fun u => cephIndexRead u.cephIndex) =
        some [firstGuid.1] := by
    decide
  obtain ⟨u', hrun, hindex⟩ := Option.map_eq_some_iff.mp hread
  refine ⟨u', hrun, committed_mails_indexed hexGuids plainSave userStart_newUser ?_ hrun, hindex⟩
  refine ⟨fun _ _ => trivial, fun _ _ => trivial, fun v hv => ?_, fun v hv => ?_, trivial⟩
  · have hmails : (Lib.run (mailOps hexGuids plainSave) (some newUser) (delivery.take 2)).map
        (fun u => (u.txs 0).mails) = some [.saved { inboxMail with oid := firstGuid.1 },
          .saved { inboxMail with oid := secondGuid.1 }] := rfl
    have hv' : Lib.run (mailOps hexGuids plainSave) (some newUser) (delivery.take 2) = some v := hv
    rw [hv', Option.map_some] at hmails
    intro m hm
    rw [Option.some.inj hmails] at hm
    rcases List.mem_cons.mp hm with rfl | hm
    · exact fun _ => finishOk_inboxMail _
    · obtain rfl := List.mem_singleton.mp hm
      exact fun _ => finishOk_inboxMail _
  · exact lossyRebuild_loads hv

/-- The first mail is copied to INBOX once more. -/
def copyToInbox : List (MailOp HexGuid) :=
  [.mail 0 secondGuid (.copied { oid := "", src := some ⟨[72, 105], mailXattrs inboxGuid "1"⟩ }),
    .commit 0 inboxGuid { uids := toString } fun _ => firstGuid]

/-- A mail is saved, and the oid of its copy is not appended to the ceph index. -/
theorem copy_not_indexed :
    UserStart hexGuids newUser ∧ ∃ u',
      Lib.run (mailOps hexGuids plainSave) (some newUser)
        ([.mail 0 firstGuid (.saved inboxMail),
          .commit 0 inboxGuid { uids := toString } fun _ => firstGuid] ++ copyToInbox) = some u' ∧
      ¬ Covered hexGuids u' := by
  refine ⟨userStart_newUser, ?_⟩
  have hbad : (Lib.run (mailOps hexGuids plainSave) (some newUser)
      ([.mail 0 firstGuid (.saved inboxMail),
        .commit 0 inboxGuid { uids := toString } fun _ => firstGuid] ++ copyToInbox)).map
        (fun u => decide (Covered hexGuids u)) = some false := by
    decide
  obtain ⟨u', hrun, hno⟩ := Option.map_eq_some_iff.mp hbad
  exact ⟨u', hrun, of_decide_eq_false hno⟩

end DovecotCeph
