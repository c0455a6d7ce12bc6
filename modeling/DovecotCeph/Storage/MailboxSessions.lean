/-
  File:      DovecotCeph/Storage/MailboxSessions.lean
  Subject:   A mailbox that several sessions use at the same time (rbox-save.cpp, rbox-copy.cpp,
             rbox-sync.cpp). Each saves and copies mails in a transaction of its own, which it
             commits or rolls back; syncs update and expunge mails. The calls of all of them come
             in any order.

  * `SharedBox`, `BoxOp`: the objects, the index and the open transactions, and what changes them;
  * `Mailbox`: what the users know of it -- mails with their uids and their bytes;
  * `rboxSync_effect`: what a sync leaves of the objects;
  * `OwnRun`: an open transaction is what the session's calls alone would have made of it;
  * **`sessions_refine`**: whatever the order of the calls, the mailbox holds the mails that were
    reported as saved by the transactions that were committed, without the expunged ones;
  * **`mails_never_change`**: a uid names one mail for ever.
-/
import DovecotCeph.Storage.SaveLocal
import DovecotCeph.Storage.Sync

namespace DovecotCeph

open Lib

/-! ## 1. The index -/

/-- The index of a mailbox: `next_uid` is above all uids. -/
structure MailIndex where
  view : SyncView
  nextUid : Nat
  below : ∀ r ∈ view.mails, r.uid < nextUid

/-- The records of new mails, numbered from `uid` on. -/
def appendedRecords (uid : Nat) (oids : List String) : List ViewRecord :=
  (oids.zipIdx uid).map fun p => ⟨⟨some p.1, false⟩, p.2⟩

theorem mem_appendedRecords {uid : Nat} {oids : List String} {r : ViewRecord}
    (h : r ∈ appendedRecords uid oids) :
    uid ≤ r.uid ∧ r.uid < uid + oids.length ∧ ∃ oid ∈ oids, r.oid = some oid := by
  obtain ⟨p, hp, rfl⟩ := List.mem_map.mp h
  have hlt := List.snd_lt_of_mem_zipIdx hp
  refine ⟨List.le_snd_of_mem_zipIdx hp, ?_, p.1, List.fst_mem_of_mem_zipIdx hp, rfl⟩
  show p.2 < uid + oids.length
  omega

namespace MailIndex

theorem append_sorted (x : MailIndex) (oids : List String) :
    ((x.view.mails ++ appendedRecords x.nextUid oids).map (·.uid)).Pairwise (· < ·) := by
  rw [List.map_append, List.pairwise_append]
  refine ⟨x.view.sorted, ?_, ?_⟩
  · have hrange : (appendedRecords x.nextUid oids).map (·.uid) =
        List.range' x.nextUid oids.length := by
      rw [appendedRecords, List.map_map]
      exact List.zipIdx_map_snd x.nextUid oids
    rw [hrange]
    exact List.pairwise_lt_range'
  · intro uid huid uid' huid'
    obtain ⟨r, hr, rfl⟩ := List.mem_map.mp huid
    obtain ⟨r', hr', rfl⟩ := List.mem_map.mp huid'
    exact Nat.lt_of_lt_of_le (x.below r hr) (mem_appendedRecords hr').1

theorem append_below (x : MailIndex) (oids : List String) :
    ∀ r ∈ x.view.mails ++ appendedRecords x.nextUid oids, r.uid < x.nextUid + oids.length := by
  intro r hr
  rcases List.mem_append.mp hr with hr | hr
  · exact Nat.lt_of_lt_of_le (x.below r hr) (Nat.le_add_right _ _)
  · exact (mem_appendedRecords hr).2.1

/-- `mail_index_append_finish_uids` and the commit of the index transaction. -/
def append (x : MailIndex) (oids : List String) : MailIndex where
  view := ⟨x.view.mails ++ appendedRecords x.nextUid oids, x.append_sorted oids⟩
  nextUid := x.nextUid + oids.length
  below := x.append_below oids

theorem expunge_sorted (x : MailIndex) (uids : List Nat) :
    ((x.view.mails.filter fun r => decide (r.uid ∉ uids)).map (·.uid)).Pairwise (· < ·) :=
  x.view.sorted.sublist (List.filter_sublist.map _)

/-- The commit of a sync's expunges. -/
def expunge (x : MailIndex) (uids : List Nat) : MailIndex where
  view := ⟨x.view.mails.filter fun r => decide (r.uid ∉ uids), x.expunge_sorted uids⟩
  nextUid := x.nextUid
  below := fun r hr => x.below r (List.mem_of_mem_filter hr)

theorem sorted_nil : (([] : List ViewRecord).map (·.uid)).Pairwise (· < ·) := List.Pairwise.nil

/-- A mailbox without mails. -/
def empty : MailIndex := ⟨⟨[], sorted_nil⟩, 1, fun _ hr => absurd hr List.not_mem_nil⟩

end MailIndex

/-! ## 2. Sessions and syncs -/

/-- The open transaction of a session, and its calls so far with their return codes. The objects are
    those of the mailbox. -/
structure SaveSession where
  tx : SaveTx
  log : List (SaveCall × Int)

/-- The oids the session was given. -/
def SaveSession.oids (s : SaveSession) : List String := s.log.filterMap (·.1.oid)

/-- The objects, the io context of the metadata module, the index, and the sessions with an open
    transaction. -/
structure SharedBox (ι : Type) where
  objs : StoredMails
  ms : MailPool
  index : MailIndex
  session : ι → Option SaveSession

/-- The settings of saves and syncs. -/
structure BoxSetup where
  save : SaveSetup
  sync : SyncSetup

/-- The objects as a save transaction sees them, without the extended metadata, -/
def plainObjs (objs : StoredMails) : MailObjs :=
  fun pool oid => (objs pool oid).map (·.toMailObj)

/-- and what it has made of them. -/
def writtenObjs (objs : StoredMails) (new : MailObjs) : StoredMails :=
  fun pool oid => (new pool oid).map fun o =>
    ⟨o, ((objs pool oid).map (·.omap)).getD fun _ => none⟩

/-- What sessions and syncs do. Without a transaction the first call opens one. `commit` has the
    outcome of the commit of the index. -/
inductive BoxOp (ι : Type) where
  | call (i : ι) (a : SaveCall)
  | commit (i : ι) (e : CommitEnv) (indexCommit : Bool)
  | rollback (i : ι) (e : FinishEnv) (del : String → Outcome)
  | sync (e : SyncEnv)

section Box

variable {ι : Type} [DecidableEq ι] (S : BoxSetup)

namespace SharedBox

/-- The transaction of a session. -/
def tx (b : SharedBox ι) (s : SaveSession) : SaveTx := { s.tx with objs := plainObjs b.objs }

def opened (b : SharedBox ι) (i : ι) : SaveSession :=
  (b.session i).getD ⟨SaveTx.start (plainObjs b.objs) (b.index.view.mails.length + 1) [], []⟩

/-- The session is over. -/
def close (b : SharedBox ι) (i : ι) (objs : MailObjs) : SharedBox ι :=
  { b with objs := writtenObjs b.objs objs, session := Function.update b.session i none }

/-- The result of a call on the context. -/
def callResult (b : SharedBox ι) (i : ι) (a : SaveCall) : Option (Int × SaveTx) :=
  saveCall S.save (b.tx (b.opened i)) a

/-- A commit gives the new mails the next uids. -/
def commitResult (b : SharedBox ι) (s : SaveSession) (e : CommitEnv) (indexCommit : Bool) :
    Option (MailObjs × Option (List String)) :=
  commitTransaction S.save { e with uids := fun n => toString (b.index.nextUid + n) } indexCommit
    (b.tx s)

def syncResult (b : SharedBox ι) (e : SyncEnv) : SyncWorld :=
  (rboxSync { e with view := b.index.view } S.sync { objs := b.objs, ms := b.ms }).2

end SharedBox

/-- One step of a session, or a sync. Where a call ends its process, its transaction is gone. -/
def BoxOp.step (b : SharedBox ι) : BoxOp ι → SharedBox ι
  | .call i a => match b.callResult S i a with
    | none => { b with session := Function.update b.session i none }
    | some (ret, tx) =>
      { b with
        objs := writtenObjs b.objs tx.objs
        session := Function.update b.session i (some ⟨tx, (b.opened i).log ++ [(a, ret)]⟩) }
  | .commit i e indexCommit => match b.session i with
    | none => b
    | some s => match b.commitResult S s e indexCommit with
      | none => b.close i (plainObjs b.objs)
      | some (objs, none) => b.close i objs
      | some (objs, some oids) => { b.close i objs with index := b.index.append oids }
  | .rollback i e del => match b.session i with
    | none => b
    | some s => match mailboxTransactionRollback S.save e del (b.tx s) with
      | none => b.close i (plainObjs b.objs)
      | some tx => b.close i tx.objs
  | .sync e =>
    let w := b.syncResult S e
    { b with objs := w.objs, ms := w.ms, index := b.index.expunge w.expunged }

end Box

/-! ## 3. What the users know -/

/-- A mailbox as its users see it: the bytes of its mails with their uids, in order. -/
structure Mailbox where
  mails : List (Bytes × Nat) := []
  nextUid : Nat := 1

/-- What can happen to it. -/
inductive MailboxEvent where
  | nothing
  | append (mails : List Bytes)
  | expunge (uids : List Nat)

def Mailbox.apply (m : Mailbox) : MailboxEvent → Mailbox
  | .nothing => m
  | .append mails => ⟨m.mails ++ mails.zipIdx m.nextUid, m.nextUid + mails.length⟩
  | .expunge uids => { m with mails := m.mails.filter fun p => decide (p.2 ∉ uids) }

/-- What a session has sent since the last begin, -/
def SaveCall.sent (sent : Bytes) : SaveCall → Bytes
  | .begin .. => []
  | .continue sends _ => sent ++ sends.flatMap (·.1)
  | _ => sent

/-- and the mail that a call saves if it succeeds. -/
def SaveCall.saves (sent : Bytes) : SaveCall → Option Bytes
  | .finish e => some (sent ++ e.sends.flatMap (·.1))
  | .copy k => some ((k.src.map (·.data)).getD [])
  | _ => none

/-- What a session knows of its transaction: what it has sent, and the mails that were reported as
    saved. -/
def acknowledge (k : Bytes × List Bytes) (r : SaveCall × Int) : Bytes × List Bytes :=
  (r.1.sent k.1, if 0 ≤ r.2 then k.2 ++ (r.1.saves k.1).toList else k.2)

/-- The mails a session was told are saved. -/
def SaveSession.acknowledged (s : SaveSession) : List Bytes := (run acknowledge ([], []) s.log).2

section Events

variable {ι : Type} [DecidableEq ι] (S : BoxSetup)

/-- What a step is for the users. -/
def BoxOp.event (b : SharedBox ι) : BoxOp ι → MailboxEvent
  | .call .. => .nothing
  | .commit i e indexCommit => match b.session i with
    | none => .nothing
    | some s => match b.commitResult S s e indexCommit with
      | some (_, some _) => .append s.acknowledged
      | _ => .nothing
  | .rollback .. => .nothing
  | .sync e => .expunge (b.syncResult S e).expunged

/-- The events of a run. -/
def boxEvents (b : SharedBox ι) : List (BoxOp ι) → List MailboxEvent
  | [] => []
  | op :: ops => op.event S b :: boxEvents (op.step S b) ops

/-- The bytes of an object, -/
def SharedBox.bytes (b : SharedBox ι) (oid : String) : Option Bytes :=
  (b.objs .primary oid).map (·.data)

/-- and what reads of the records find. -/
def SharedBox.contents (b : SharedBox ι) : List (Option Bytes × Nat) :=
  b.index.view.mails.map fun r => (r.oid.bind b.bytes, r.uid)

/-- **The mailbox is the one the users know**: it has a record for each of its mails, in order, and
    the object of each record has the bytes of the mail. -/
structure Refines (b : SharedBox ι) (m : Mailbox) : Prop where
  mails : b.contents = m.mails.map fun p => (some p.1, p.2)
  nextUid : b.index.nextUid = m.nextUid

end Events

/-! ## 4. Syncs -/

/-- Objects that were there are there with the same bytes, and those that are not `P` are the
    same. -/
def BytesKept (P : String → Prop) (objs objs' : StoredMails) : Prop :=
  ∀ pool oid, (¬ P oid → objs' pool oid = objs pool oid) ∧
    ∀ o, objs pool oid = some o → ∃ o', objs' pool oid = some o' ∧ o'.data = o.data

section Kept

variable {P : String → Prop} {objs objs' objs'' : StoredMails} {S : SyncSetup} {st : AltState}

theorem BytesKept.refl (objs : StoredMails) : BytesKept P objs objs :=
  fun _ _ => ⟨fun _ => rfl, fun o ho => ⟨o, ho, rfl⟩⟩

theorem BytesKept.trans (h : BytesKept P objs objs') (h' : BytesKept P objs' objs'') :
    BytesKept P objs objs'' := by
  intro pool oid
  refine ⟨fun hP => ((h' pool oid).1 hP).trans ((h pool oid).1 hP), fun o ho => ?_⟩
  obtain ⟨o', ho', hdata⟩ := (h pool oid).2 o ho
  obtain ⟨o'', ho'', hdata'⟩ := (h' pool oid).2 o' ho'
  exact ⟨o'', ho'', hdata'.trans hdata⟩

theorem change_bytesKept {oid : String} (hP : P oid) (pool : MailPool)
    {f : StoredMail → StoredMail} (hf : ∀ o, (f o).data = o.data) :
    BytesKept P st.objs (st.change pool oid f).objs := by
  intro pool' oid'
  by_cases hsame : pool' = pool ∧ oid' = oid
  · obtain ⟨rfl, rfl⟩ := hsame
    refine ⟨fun hnot => absurd hP hnot, fun o ho => ?_⟩
    refine ⟨f o, ?_, hf o⟩
    rw [AltState.change, put_self, ho]
    rfl
  · rw [AltState.change, put_ne hsame]
    exact ⟨fun _ => rfl, fun o ho => ⟨o, ho, rfl⟩⟩

/-- One mail of an update: its bytes stay. -/
theorem updateFlagsBody_bytesKept (newFlags : Option String → Option String) (e : UpdateEnv)
    {oid : String} (hP : P oid) (st : AltState) :
    BytesKept P st.objs (updateFlagsBody newFlags e oid st).st.objs := by
  unfold updateFlagsBody
  split
  case h_1 => exact .refl _
  case h_2 o ho =>
    split
    case isTrue => exact .refl _
    case isFalse =>
      split
      case h_1 => exact .refl _
      case h_2 v hv =>
        dsimp only
        split
        · exact change_bytesKept hP st.ms fun _ => rfl
        · exact .refl _

theorem updateKeywordBody_bytesKept (key : String) (value : Option String) (e : UpdateEnv)
    {oid : String} (hP : P oid) (st : AltState) :
    BytesKept P st.objs (updateKeywordBody key value e oid st).st.objs := by
  unfold updateKeywordBody
  split
  · exact .refl _
  · split
    · exact change_bytesKept hP st.ms fun _ => rfl
    · exact .refl _

/-- All mails of an update. -/
theorem updateMails_bytesKept {A : AltSetup} {body : UpdateEnv → String → AltState → UpdateStep}
    (hframe : UpdateFrame body)
    (hbody : ∀ e oid, P oid → ∀ st : AltState, BytesKept P st.objs (body e oid st).st.objs)
    (mails : List (Nat × UpdateEnv)) (st : AltState)
    (hP : ∀ r ∈ st.index, ∀ oid, r.oid = some oid → P oid) :
    BytesKept P st.objs (updateMails A body mails st).2.objs := by
  induction mails generalizing st with
  | nil => exact .refl _
  | cons m mails ih =>
      unfold updateMails
      cases hrec : st.record m.1 with
      | none => exact ih st hP
      | some r =>
          dsimp only
          split
          case isTrue => exact .refl _
          case isFalse =>
            have hr : r ∈ st.index := by
              unfold AltState.record at hrec
              split at hrec
              · cases hrec
              · exact List.mem_of_getElem? hrec
            cases hoid : r.oid with
            | none => exact ih { st with ms := designated A r } hP
            | some oid =>
                dsimp only
                have hone := hbody m.2 oid (hP r hr oid hoid) { st with ms := designated A r }
                split
                case isTrue => exact hone
                case isFalse =>
                  refine hone.trans (ih _ ?_)
                  rw [hframe.index]
                  exact hP

/-- Without an alternative pool a FLAGS record only updates the flags. -/
theorem syncFlags_bytesKept (halt : S.alt.altPool = false) (r : FlagRec)
    (newFlags : Option String → Option String) (mails : List (Nat × UpdateEnv))
    (hP : ∀ r ∈ st.index, ∀ oid, r.oid = some oid → P oid) :
    BytesKept P st.objs (syncFlags S r newFlags mails st).objs := by
  unfold syncFlags
  rw [halt, Bool.and_false, Bool.and_false, if_neg Bool.false_ne_true, if_neg Bool.false_ne_true]
  split
  · exact updateMails_bytesKept (updateFlagsBody_frame newFlags)
      (fun e oid hoid st => updateFlagsBody_bytesKept newFlags e hoid st) mails st hP
  · exact .refl _

end Kept

/-- The oid of a record of the view. -/
def SyncView.Names (v : SyncView) (oid : String) : Prop := ∃ r ∈ v.mails, r.oid = some oid

section Syncs

variable {S : SyncSetup} {e : SyncEnv} {ctx : SyncContext} {w : SyncWorld}

theorem altState_names (ctx : SyncContext) (w : SyncWorld) :
    ∀ r ∈ (ctx.altState w).index, ∀ oid, r.oid = some oid → ctx.view.Names oid := by
  intro r hr oid hoid
  obtain ⟨v, hv, rfl⟩ := List.mem_map.mp hr
  exact ⟨v, hv, hoid⟩

theorem syncRecord_bytesKept (halt : S.alt.altPool = false) (r : SyncRec) (ctx : SyncContext)
    (w : SyncWorld) : BytesKept ctx.view.Names w.objs (syncRecord S r ctx w).2.2.objs := by
  have hkeywords : ∀ key value mails, BytesKept ctx.view.Names w.objs
      (updateExtendedMetadata S key value mails ctx w).2.2.objs := by
    intro key value mails
    unfold updateExtendedMetadata
    split
    · exact updateMails_bytesKept (updateKeywordBody_frame key value)
        (fun e oid hoid st => updateKeywordBody_bytesKept key value e hoid st) mails
        (ctx.altState w) (altState_names ctx w)
    · exact .refl _
  unfold syncRecord
  split
  case h_1 => exact .refl _
  case h_2 seq1 seq2 hsome =>
    dsimp only
    cases r.type with
    | expunge => exact .refl _
    | flags addAlt removeAlt newFlags =>
        exact syncFlags_bytesKept halt _ newFlags _ (altState_names ctx w)
    | keywordAdd idx name => exact hkeywords _ _ _
    | keywordRemove idx => exact hkeywords _ _ _
    | other => exact .refl _

theorem syncRecords_bytesKept (halt : S.alt.altPool = false) (recs : List SyncRec)
    (hi : ExpungeInv S ctx) :
    BytesKept ctx.view.Names w.objs (syncRecords S recs ctx w).2.2.objs := by
  induction recs generalizing ctx w with
  | nil => exact .refl _
  | cons r recs ih =>
      obtain ⟨hinv, hframe, _⟩ := @syncRecord_spec S ctx w r hi
      have hone := syncRecord_bytesKept halt r ctx w
      unfold syncRecords
      dsimp only
      split
      case isTrue =>
        have hrest := @ih _ (syncRecord S r ctx w).2.2 hinv
        rw [hframe.view] at hrest
        exact hone.trans hrest
      case isFalse => exact hone

theorem rboxSyncBegin_bytesKept (halt : S.alt.altPool = false) (w : SyncWorld) :
    BytesKept e.view.Names w.objs (rboxSyncBegin S e w).2.2.objs := by
  have hindex : BytesKept e.view.Names w.objs
      (rboxSyncIndex S e { view := e.view } (w.emit .begun)).2.2.objs := by
    unfold rboxSyncIndex
    cases e.header with
    | none => exact .refl _
    | some hdr =>
        dsimp only
        split
        case isTrue => exact .refl _
        case isFalse =>
          exact @syncRecords_bytesKept S { view := e.view } (w.emit .begun) halt e.recs
            (expungeInv_start e.view)
  unfold rboxSyncBegin
  split
  · exact .refl _
  · split
    · exact .refl _
    · dsimp only
      cases e.rebuild with
      | true =>
          rw [if_pos rfl]
          split
          · split <;> exact .refl _
          · exact .refl _
      | false =>
          rw [if_neg Bool.false_ne_true]
          split
          · split <;> exact hindex
          · exact hindex

/-- **What a sync leaves of the objects**: those without a record are the same, and those whose
    record is not expunged have the same bytes. -/
structure SyncEffect (e : SyncEnv) (objs : StoredMails) (w : SyncWorld) : Prop where
  others : ∀ pool oid, ¬ e.view.Names oid → w.objs pool oid = objs pool oid
  kept : ∀ r ∈ e.view.mails, r.uid ∉ w.expunged → ∀ oid, r.oid = some oid → ∀ o,
    objs .primary oid = some o → ∃ o', w.objs .primary oid = some o' ∧ o'.data = o.data

/-- Where the oids are different, mails with the same oid are the same. -/
theorem mail_of_oid {mails : List ViewRecord} {r r' : ViewRecord} {oid : String}
    (hdistinct : (mails.filterMap (·.oid)).Nodup) (hr : r ∈ mails) (hr' : r' ∈ mails)
    (hoid : r.oid = some oid) (hoid' : r'.oid = some oid) : r = r' := by
  by_contra hne
  have hsymm : Std.Symm fun x y : ViewRecord =>
      ∀ o, x.oid = some o → ∀ o', y.oid = some o' → o ≠ o' :=
    ⟨fun _ _ h o ho o' ho' => (h o' ho' o ho).symm⟩
  exact (List.pairwise_filterMap.mp hdistinct).forall hr hr' hne oid hoid oid hoid' rfl

theorem syncEffect_of_bytesKept {objs : StoredMails}
    (h : BytesKept e.view.Names objs w.objs) : SyncEffect e objs w :=
  ⟨fun pool oid => (h pool oid).1, fun _ _ _ oid _ o ho => (h .primary oid).2 o ho⟩

/-- **The effect of a sync**, without an alternative pool and with different oids in the index. -/
theorem rboxSync_effect (halt : S.alt.altPool = false)
    (hdistinct : (e.view.mails.filterMap (·.oid)).Nodup) (objs : StoredMails) (ms : MailPool) :
    SyncEffect e objs (rboxSync e S { objs := objs, ms := ms }).2 := by
  have hbegin := rboxSyncBegin_bytesKept (e := e) halt { objs := objs, ms := ms }
  have hout := @rboxSyncBegin_outcome S e { objs := objs, ms := ms }
  unfold rboxSync syncBeginFinish
  generalize rboxSyncBegin S e { objs := objs, ms := ms } = b at hout hbegin
  cases hout with
  | idle ret hret hnot => exact syncEffect_of_bytesKept hbegin
  | failed w' hbegun hrebuild hsound hlog hexp hobjs => exact syncEffect_of_bytesKept hbegin
  | dead ctx w' hbegun hbroken hlive hlog hexp hobjs =>
      dsimp only
      rw [rboxSyncFinish_idle fun h => absurd (hlive.symm.trans h.2.1) Bool.false_ne_true]
      exact syncEffect_of_bytesKept hbegin
  | live ctx w' hbegun hsound hlive hlog hexp hobjs hview hinv hheader hreq =>
      dsimp only
      by_cases hcommit : e.commit = true
      · rw [rboxSyncFinish_commit hlive hcommit]
        obtain ⟨_, hframe⟩ := @expungeObjects_frame e ctx.items
          { w' with expunged := w'.expunged ++ ctx.expungedUids, log := w'.log ++ [.commit true] }
        have hitem : ∀ item ∈ ctx.items, ∃ r ∈ e.view.mails, r.uid ∈ ctx.expungedUids ∧
            r.oid = some item.oid := by
          intro item hmem
          obtain ⟨r, hr, huid, hof⟩ := hinv.mem_items.mp hmem
          rw [hview] at hr
          exact ⟨r, hr, huid, (itemOf_eq_some hof).2.1⟩
        refine ⟨fun pool oid hnot => ?_, fun r hr huid oid hoid o ho => ?_⟩
        · rcases hframe.objs pool oid with heq | ⟨item, hmem, _, rfl⟩
          · exact heq.trans ((hbegin pool oid).1 hnot)
          · obtain ⟨r, hr, _, hoid⟩ := hitem item (List.mem_of_mem_filter hmem)
            exact absurd ⟨r, hr, hoid⟩ hnot
        · rcases hframe.objs .primary oid with heq | ⟨item, hmem, _, hsame⟩
          · dsimp only at heq
            rw [heq]
            exact (hbegin .primary oid).2 o ho
          · -- the mail with that object is expunged
            obtain ⟨r', hr', huid', hoid'⟩ := hitem item (List.mem_of_mem_filter hmem)
            have hrr : r = r' := by
              rw [← hsame] at hoid
              exact mail_of_oid hdistinct hr hr' hoid hoid'
            refine absurd ?_ huid
            rw [hframe.expunged, hrr]
            exact List.mem_append_right _ huid'
      · rw [rboxSyncFinish_idle fun h => hcommit h.2.2]
        exact syncEffect_of_bytesKept hbegin

end Syncs

/-! ## 5. A session alone -/

/-- The calls of a log, made one after the other, return what they returned and lead to `tx'`. -/
def CallsTo (S : SaveSetup) : SaveTx → List (SaveCall × Int) → SaveTx → Prop
  | tx, [], tx' => tx = tx'
  | tx, r :: log, tx' => ∃ tx₁, saveCall S tx r.1 = some (r.2, tx₁) ∧ CallsTo S tx₁ log tx'

/-- All calls on a mail. -/
def MailRun.calls (m : MailRun) : List SaveCall := m.before ++ [m.last]

section Alone

variable {S : SaveSetup} {tx tx' : SaveTx} {log log' : List (SaveCall × Int)}

theorem callsTo_append : CallsTo S tx (log ++ log') tx' ↔
    ∃ tx₁, CallsTo S tx log tx₁ ∧ CallsTo S tx₁ log' tx' := by
  induction log generalizing tx with
  | nil => exact ⟨fun h => ⟨tx, rfl, h⟩, fun ⟨_, h, h'⟩ => h ▸ h'⟩
  | cons r log ih =>
      constructor
      · rintro ⟨tx₁, hr, h⟩
        obtain ⟨tx₂, h, h'⟩ := ih.mp h
        exact ⟨tx₂, ⟨tx₁, hr, h⟩, h'⟩
      · rintro ⟨tx₂, ⟨tx₁, hr, h⟩, h'⟩
        exact ⟨tx₁, hr, ih.mpr ⟨tx₂, h, h'⟩⟩

theorem saveCalls_of_callsTo (h : CallsTo S tx log tx') :
    saveCalls S tx (log.map Prod.fst) = some tx' := by
  induction log generalizing tx with
  | nil => exact congrArg some h
  | cons r log ih =>
      obtain ⟨tx₁, hr, h⟩ := h
      rw [List.map_cons, saveCalls, hr]
      exact ih h

theorem acknowledge_sent (k : Bytes × List Bytes) :
    (run acknowledge k log).1 = run SaveCall.sent k.1 (log.map Prod.fst) := by
  induction log generalizing k with
  | nil => rfl
  | cons r log ih => exact ih (acknowledge k r)

/-- Calls that save nothing. -/
theorem acknowledge_quiet (k : Bytes × List Bytes)
    (h : ∀ a ∈ log.map Prod.fst, ∀ sent, a.saves sent = none) :
    (run acknowledge k log).2 = k.2 := by
  induction log generalizing k with
  | nil => rfl
  | cons r log ih =>
      have hr : (acknowledge k r).2 = k.2 := by
        have hnone : r.1.saves k.1 = none := h r.1 List.mem_cons_self k.1
        unfold acknowledge
        dsimp only
        rw [hnone, Option.toList_none, List.append_nil, ite_self]
      rw [run_cons, ih _ fun a ha => h a (List.mem_cons_of_mem _ ha), hr]

theorem sent_continues (sent : Bytes) (conts : List (List (Bytes × Bool) × Bool)) :
    run SaveCall.sent sent (conts.map fun c => .continue c.1 c.2) =
      sent ++ (conts.flatMap (·.1)).flatMap (·.1) := by
  induction conts generalizing sent with
  | nil => exact (List.append_nil sent).symm
  | cons c conts ih =>
      rw [List.map_cons, run_cons, ih, List.flatMap_cons, List.flatMap_append]
      exact List.append_assoc ..

theorem sent_prologue (sent : Bytes) (m : SavedMail) :
    run SaveCall.sent sent m.prologue = (m.conts.flatMap (·.1)).flatMap (·.1) := by
  unfold SavedMail.prologue
  cases m.viaCopy <;> exact sent_continues [] m.conts

theorem quiet_prologue (m : SavedMail) : ∀ a ∈ m.prologue, ∀ sent, a.saves sent = none := by
  have hconts : ∀ a ∈ m.conts.map fun c => SaveCall.continue c.1 c.2,
      ∀ sent, a.saves sent = none := by
    intro a ha sent
    obtain ⟨c, _, rfl⟩ := List.mem_map.mp ha
    rfl
  unfold SavedMail.prologue
  cases m.viaCopy with
  | false => exact List.forall_mem_cons.mpr ⟨fun _ => rfl, List.forall_mem_cons.mpr
      ⟨fun _ => rfl, hconts⟩⟩
  | true => exact List.forall_mem_cons.mpr ⟨fun _ => rfl, List.forall_mem_cons.mpr
      ⟨fun _ => rfl, List.forall_mem_cons.mpr ⟨fun _ => rfl, hconts⟩⟩⟩

theorem quiet_before (m : MailRun) : ∀ a ∈ m.before, ∀ sent, a.saves sent = none := by
  cases m with
  | saved m => exact quiet_prologue m
  | cancelled m => exact quiet_prologue m
  | copied k => exact List.forall_mem_singleton.mpr fun _ => rfl
  | copyAborted conn e =>
      cases conn with
      | false => exact List.forall_mem_singleton.mpr fun _ => rfl
      | true => exact List.forall_mem_cons.mpr ⟨fun _ => rfl,
          List.forall_mem_singleton.mpr fun _ => rfl⟩

/-- The last call on a mail saves its bytes, if it can save anything. -/
theorem last_saves (m : MailRun) (sent : Bytes) :
    m.last.saves (run SaveCall.sent sent m.before) = if m.reports then some m.data else none := by
  cases m with
  | saved m =>
      show some (run SaveCall.sent sent m.prologue ++ _) = some m.bytes
      rw [sent_prologue, ← List.flatMap_append]
      rfl
  | cancelled m => rfl
  | copied k => rfl
  | copyAborted conn e => cases conn <;> rfl

/-- **The calls on one mail**, as a session makes them: the result it is told, and what it then
    knows. -/
theorem runMail_of_callsTo {m : MailRun} (h : CallsTo S tx log tx')
    (hcalls : log.map Prod.fst = m.calls) :
    ∃ ok, runMail S tx m = some (ok, tx') ∧ ∀ k, (run acknowledge k log).2 =
      k.2 ++ if ok then [m.data] else [] := by
  obtain ⟨l, l', rfl, hl, hl'⟩ := List.map_eq_append_iff.mp hcalls
  obtain ⟨r, rfl, hr⟩ := List.map_eq_singleton_iff.mp hl'
  obtain ⟨tx₁, hbefore, tx₂, hlast, rfl⟩ := callsTo_append.mp h
  have hbefore := saveCalls_of_callsTo hbefore
  rw [hl] at hbefore
  rw [hr] at hlast
  refine ⟨m.reports && decide (0 ≤ r.2), ?_, fun k => ?_⟩
  · rw [runMail, hbefore, Option.bind_some, hlast]
    rfl
  · rw [run_append, run_cons, run_nil]
    show (if 0 ≤ r.2 then (run acknowledge k l).2 ++ (r.1.saves (run acknowledge k l).1).toList
      else (run acknowledge k l).2) = _
    rw [acknowledge_sent, hl, hr, last_saves,
      acknowledge_quiet k (by rw [hl]; exact quiet_before m)]
    cases m.reports with
    | false => simp
    | true => by_cases hret : 0 ≤ r.2 <;> simp [hret]

/-- **The calls of a transaction.** -/
theorem runMails_of_callsTo {ms : List MailRun} (h : CallsTo S tx log tx')
    (hcalls : log.map Prod.fst = ms.flatMap MailRun.calls) :
    ∃ results, runMails S tx ms = some (tx', results) ∧ ∀ k, (run acknowledge k log).2 =
      k.2 ++ (results.filter (·.2)).map (·.1.data) := by
  induction ms generalizing tx log with
  | nil =>
      obtain rfl := List.map_eq_nil_iff.mp hcalls
      obtain rfl := h
      exact ⟨[], rfl, fun k => (List.append_nil _).symm⟩
  | cons m ms ih =>
      rw [List.flatMap_cons] at hcalls
      obtain ⟨l, l', rfl, hl, hl'⟩ := List.map_eq_append_iff.mp hcalls
      obtain ⟨tx₁, hm, hrest⟩ := callsTo_append.mp h
      obtain ⟨ok, hrun, hack⟩ := runMail_of_callsTo hm hl
      obtain ⟨results, hruns, hacks⟩ := ih hrest hl'
      refine ⟨(m, ok) :: results, ?_, fun k => ?_⟩
      · rw [runMails, hrun, Option.bind_some, hruns]
        rfl
      · rw [run_append, hacks, hack, List.append_assoc]
        cases ok <;> rfl

theorem oid_calls (m : MailRun) : m.calls.filterMap SaveCall.oid = m.oid.toList := by
  have hconts : ∀ conts : List (List (Bytes × Bool) × Bool),
      (conts.map fun c => SaveCall.continue c.1 c.2).filterMap SaveCall.oid = [] := by
    intro conts
    rw [List.filterMap_map]
    exact List.filterMap_eq_nil_iff.mpr fun _ _ => rfl
  have hprologue : ∀ m : SavedMail, m.prologue.filterMap SaveCall.oid = [m.oid] := by
    intro m
    unfold SavedMail.prologue
    cases m.viaCopy <;> exact congrArg (m.oid :: ·) (hconts m.conts)
  unfold MailRun.calls
  rw [List.filterMap_append]
  cases m with
  | saved m => exact congrArg (· ++ []) (hprologue m)
  | cancelled m => exact congrArg (· ++ []) (hprologue m)
  | copied k => rfl
  | copyAborted conn e => cases conn <;> rfl

/-- The oids of the calls are those of the mails. -/
theorem oids_of_calls {ms : List MailRun} (hcalls : log.map Prod.fst = ms.flatMap MailRun.calls) :
    log.filterMap (·.1.oid) = ms.filterMap MailRun.oid := by
  have hlog : log.filterMap (·.1.oid) = (log.map Prod.fst).filterMap SaveCall.oid := by
    rw [List.filterMap_map]
    rfl
  rw [hlog, hcalls]
  clear hlog hcalls
  induction ms with
  | nil => rfl
  | cons m ms ih =>
      rw [List.flatMap_cons, List.filterMap_append, oid_calls, ih]
      cases hm : m.oid with
      | none => rw [List.filterMap_cons_none hm, Option.toList_none, List.nil_append]
      | some oid => rw [List.filterMap_cons_some hm]; rfl

/-- **What a session commits**, alone: the records of its saved mails, whose objects are whole. -/
theorem commit_alone {ms : List MailRun} {results : List (MailRun × Bool)} {e : CommitEnv}
    {objs : MailObjs} {oids : List String} (hi : CommitInv (fun _ _ => none) [] results tx)
    (hms : TransactionOk S ms) (hresults : results.map Prod.fst = ms)
    (hsync : e.syncFinish = true)
    (h : commitTransaction S e true tx = some (objs, some oids)) :
    oids = savedOids results ∧ ∀ r ∈ results, r.2 = true → ∀ oid, r.1.oid = some oid →
      Complete objs r.1.pool oid r.1.data r.1.metadata := by
  unfold commitTransaction at h
  obtain ⟨p, hpre, h⟩ := Option.bind_eq_some_iff.mp h
  split at h
  case isTrue => cases h
  case isFalse hret =>
    obtain ⟨hzero, _⟩ := (commitPre_ret hpre).resolve_left hret
    have hpre : rboxTransactionSaveCommitPre S e tx = some (0, p.2) := by rw [hpre, ← hzero]
    obtain ⟨⟨c, hc⟩, ha⟩ := commitPre_assigns hpre
    -- `failed` can only be left over by the last mail, and then nothing was saved
    have hkeep : c.failed = true → c.radosMails = [] := by
      intro hf
      rw [← SaveTx.mails_eq hc, hi.mails]
      rcases hi.failed c hc hf with ⟨r, hr, hl⟩ | hnone
      · rw [List.eq_nil_iff_forall_not_mem]
        intro oid hoid
        obtain ⟨r', hr', hok, _⟩ := mem_savedOids.mp hoid
        have hlast : ms.getLast? = some r.1 := by
          rw [← hresults, List.getLast?_map, hr]
          rfl
        have hsome : ∃ m ∈ ms, Succeeds m := by
          refine ⟨r'.1, ?_, hi.succeeds r' hr' hok⟩
          rw [← hresults]
          exact List.mem_map_of_mem hr'
        exact hms.2 hsome r.1 hlast hl
      · exact hnone
    obtain ⟨tx₂, hpost, hobjs, _⟩ := @commitPost_keeps S e (commitIndex p.2) c
      (ha.ctx.trans hc) (hi.finished c hc) hsync hkeep
    rw [if_pos rfl, if_pos rfl, hpost] at h
    obtain ⟨rfl, hoids⟩ := Prod.mk.inj (Option.some.inj h)
    have hoids : p.2.records.map Prod.snd = oids := Option.some.inj hoids
    refine ⟨?_, fun r hr hok oid hoid => ?_⟩
    · rw [← hoids, ha.records, hi.records]
    · rw [hobjs]
      exact ha.complete (hi.complete r hr hok oid hoid)

end Alone

/-! ## 6. Sessions among others -/

section Sessions

variable {ι : Type} [DecidableEq ι] (S : BoxSetup)

/-- **An open transaction is what the session's calls alone would have made of it**, on a mailbox
    without objects, as far as its own objects go. -/
structure OwnRun (b : SharedBox ι) (s : SaveSession) : Prop where
  calls : ∃ n, CallsTo S.save (SaveTx.start (fun _ _ => none) n []) s.log
    ((b.tx s).among s.oids fun _ _ => none)
  within : s.tx.Within s.oids
  nodup : s.oids.Nodup
  primary : ∀ r ∈ s.log, ∀ k, r.1 = .copy k → k.alt = false

/-- **What holds of a mailbox after any steps**: the sessions and the index share no oid. -/
structure Sound (b : SharedBox ι) : Prop where
  own : ∀ i s, b.session i = some s → OwnRun S b s
  apart : ∀ i j s s', i ≠ j → b.session i = some s → b.session j = some s' →
    ∀ oid ∈ s.oids, oid ∉ s'.oids
  index : ∀ r ∈ b.index.view.mails, ∃ oid, r.oid = some oid ∧
    ∀ i s, b.session i = some s → oid ∉ s.oids
  distinct : (b.index.view.mails.filterMap (·.oid)).Nodup

/-- A generated oid: it belongs to no object, record or session. -/
structure SharedBox.Fresh (b : SharedBox ι) (oid : String) : Prop where
  objs : ∀ pool, b.objs pool oid = none
  index : ∀ r ∈ b.index.view.mails, r.oid ≠ some oid
  session : ∀ i s, b.session i = some s → oid ∉ s.oids

/-- What the steps of a run have to meet: a call returns, its oid is generated, and it copies from
    the primary pool; a transaction is only committed if it may be; no mailbox is marked for a
    rebuild. -/
def BoxOp.Allowed (b : SharedBox ι) : BoxOp ι → Prop
  | .call i a => (b.callResult S i a).isSome = true ∧ (∀ oid, a.oid = some oid → b.Fresh oid) ∧
      ∀ k, a = .copy k → k.alt = false
  | .commit i e _ => ∀ s, b.session i = some s → e.syncFinish = true ∧
      ∃ ms, s.log.map Prod.fst = ms.flatMap MailRun.calls ∧ TransactionOk S.save ms
  | .rollback .. => True
  | .sync e => e.rebuild = false

end Sessions

section Frames

variable {ι : Type} {S : BoxSetup} {b b' : SharedBox ι} {s : SaveSession} {i : ι} {a : SaveCall}
  {ret : Int}

@[simp] theorem plainObjs_writtenObjs (objs : StoredMails) (new : MailObjs) :
    plainObjs (writtenObjs objs new) = new := by
  funext pool oid
  unfold plainObjs writtenObjs
  rw [Option.map_map]
  exact Option.map_id'

theorem bytes_eq (b : SharedBox ι) (oid : String) :
    b.bytes oid = (plainObjs b.objs .primary oid).map (·.data) := by
  unfold SharedBox.bytes plainObjs
  rw [Option.map_map]
  rfl

/-- A transaction does not depend on the objects of others. -/
theorem OwnRun.of_objs (h : OwnRun S b s) (hobjs : ∀ pool, ∀ oid ∈ s.oids,
    plainObjs b'.objs pool oid = plainObjs b.objs pool oid) : OwnRun S b' s := by
  have htx : (b'.tx s).among s.oids (fun _ _ => none) =
      (b.tx s).among s.oids fun _ _ => none := by
    unfold SaveTx.among SharedBox.tx
    congr 1
    funext pool oid
    split
    case isTrue hoid => exact hobjs pool oid hoid
    case isFalse => rfl
  refine ⟨?_, h.within, h.nodup, h.primary⟩
  rw [htx]
  exact h.calls

/-- A session without a transaction. -/
theorem ownRun_start (b : SharedBox ι) (n : Nat) :
    OwnRun S b ⟨SaveTx.start (plainObjs b.objs) n [], []⟩ := by
  refine ⟨⟨n, ?_⟩, nofun, List.nodup_nil, fun r hr => absurd hr List.not_mem_nil⟩
  show SaveTx.start _ n [] = (SharedBox.tx b _).among [] _
  unfold SaveTx.among
  congr 1

theorem opened_of_none (h : b.session i = none) :
    b.opened i = ⟨SaveTx.start (plainObjs b.objs) (b.index.view.mails.length + 1) [], []⟩ := by
  rw [SharedBox.opened, h]
  rfl

theorem opened_of_some (h : b.session i = some s) : b.opened i = s := by
  rw [SharedBox.opened, h]
  rfl

/-- The opened session is as sound as the others. -/
theorem Sound.opened (h : Sound S b) (i : ι) : OwnRun S b (b.opened i) ∧
    (∀ j s, j ≠ i → b.session j = some s → ∀ oid ∈ (b.opened i).oids, oid ∉ s.oids) ∧
    ∀ r ∈ b.index.view.mails, ∀ oid, r.oid = some oid → oid ∉ (b.opened i).oids := by
  cases hs : b.session i with
  | none =>
      rw [opened_of_none hs]
      exact ⟨ownRun_start .., fun _ _ _ _ _ hoid => absurd hoid List.not_mem_nil,
        fun _ _ _ _ hoid => List.not_mem_nil hoid⟩
  | some s =>
      rw [opened_of_some hs]
      refine ⟨h.own i s hs, fun j s' hji hs' => h.apart i j s s' (Ne.symm hji) hs hs',
        fun r hr oid hoid => ?_⟩
      obtain ⟨oid', hoid', hfree⟩ := h.index r hr
      obtain rfl := Option.some.inj (hoid.symm.trans hoid')
      exact hfree i s hs

theorem SharedBox.Fresh.opened {oid : String} (h : b.Fresh oid) (i : ι) :
    oid ∉ (b.opened i).oids := by
  cases hs : b.session i with
  | none =>
      rw [opened_of_none hs]
      exact List.not_mem_nil
  | some s =>
      rw [opened_of_some hs]
      exact h.session i s hs

/-- A record whose object keeps its bytes is read as before. -/
theorem contents_congr {mails : List ViewRecord}
    (h : ∀ r ∈ mails, ∀ oid, r.oid = some oid → b'.bytes oid = b.bytes oid) :
    mails.map (fun r => (r.oid.bind b'.bytes, r.uid)) =
      mails.map fun r => (r.oid.bind b.bytes, r.uid) := by
  refine List.map_congr_left fun r hr => ?_
  cases hoid : r.oid with
  | none => rfl
  | some oid => exact congrArg (·, r.uid) (h r hr oid hoid)

/-- The mails of the users have their objects. -/
theorem Refines.bytes {m : Mailbox} (h : Refines b m) {r : ViewRecord}
    (hr : r ∈ b.index.view.mails) {oid : String} (hoid : r.oid = some oid) :
    ∃ o, b.objs .primary oid = some o := by
  have hmem : (r.oid.bind b.bytes, r.uid) ∈ b.contents := List.mem_map_of_mem hr
  rw [h.mails] at hmem
  obtain ⟨p, _, hp⟩ := List.mem_map.mp hmem
  have hsome : b.bytes oid = some p.1 := by
    rw [hoid] at hp
    exact (Prod.mk.inj hp).1.symm
  obtain ⟨o, ho, _⟩ := Option.map_eq_some_iff.mp hsome
  exact ⟨o, ho⟩

/-- A mailbox that was just created. -/
def SharedBox.init (ι : Type) : SharedBox ι :=
  ⟨fun _ _ => none, .primary, MailIndex.empty, fun _ => none⟩

theorem sound_init : Sound S (SharedBox.init ι) :=
  ⟨nofun, nofun, fun _ hr => absurd hr List.not_mem_nil, List.nodup_nil⟩

theorem refines_init : Refines (SharedBox.init ι) {} := ⟨rfl, rfl⟩

theorem oids_concat (s : SaveSession) (tx : SaveTx) (r : SaveCall × Int) :
    SaveSession.oids ⟨tx, s.log ++ [r]⟩ = s.oids ++ r.1.oid.toList := by
  have hone : [r].filterMap (·.1.oid) = r.1.oid.toList := by
    cases hr : r.1.oid <;> simp [hr]
  unfold SaveSession.oids
  rw [List.filterMap_append, hone]

/-- A call of a session: the oids it has, and what the call returns. -/
structure Called (S : BoxSetup) (b : SharedBox ι) (i : ι) (a : SaveCall) (ret : Int)
    (s : SaveSession) : Prop where
  oids : s.oids = (b.opened i).oids ++ a.oid.toList
  log : s.log = (b.opened i).log ++ [(a, ret)]
  within : (b.tx (b.opened i)).Within s.oids
  given : ∀ oid, a.oid = some oid → oid ∈ s.oids
  call : saveCall S.save (b.tx (b.opened i)) a = some (ret, s.tx)

theorem Called.mem (hc : Called S b i a ret s) {oid : String} (hoid : oid ∈ s.oids) :
    oid ∈ (b.opened i).oids ∨ a.oid = some oid := by
  rw [hc.oids] at hoid
  exact (List.mem_append.mp hoid).imp_right fun h => Option.mem_toList.mp h

theorem called_of_call (hown : OwnRun S b (b.opened i)) {tx : SaveTx}
    (hcall : saveCall S.save (b.tx (b.opened i)) a = some (ret, tx)) :
    Called S b i a ret ⟨tx, (b.opened i).log ++ [(a, ret)]⟩ := by
  have hoids := oids_concat (b.opened i) tx (a, ret)
  refine ⟨hoids, rfl, fun c hc => ?_, fun oid hoid => ?_, hcall⟩
  · obtain ⟨hlist, hlive⟩ := hown.within c hc
    rw [hoids]
    exact ⟨fun oid hoid => List.mem_append_left _ (hlist oid hoid),
      fun cur hcur => List.mem_append_left _ (hlive cur hcur)⟩
  · rw [hoids]
    exact List.mem_append_right _ (Option.mem_toList.mpr hoid)

end Frames

section Steps

variable {ι : Type} [DecidableEq ι] {S : BoxSetup} {b : SharedBox ι} {s : SaveSession} {i : ι}
  {m : Mailbox} {a : SaveCall} {ret : Int}

theorem session_close {objs : MailObjs} {j : ι} (hs : (b.close i objs).session j = some s) :
    j ≠ i ∧ b.session j = some s := by
  by_cases hji : j = i
  · subst hji
    exact absurd ((Function.update_self ..).symm.trans hs) nofun
  · exact ⟨hji, (Function.update_of_ne hji ..).symm.trans hs⟩

/-- The end of a session that changed its own objects. -/
theorem sound_close (h : Sound S b) (hs : b.session i = some s) {objs : MailObjs}
    (hframe : ∀ oid, oid ∉ s.oids → ∀ pool, objs pool oid = plainObjs b.objs pool oid) :
    Sound S (b.close i objs) ∧ (b.close i objs).contents = b.contents := by
  have hobjs : ∀ oid, oid ∉ s.oids → ∀ pool,
      plainObjs (b.close i objs).objs pool oid = plainObjs b.objs pool oid := by
    intro oid hoid pool
    show plainObjs (writtenObjs b.objs objs) pool oid = _
    rw [plainObjs_writtenObjs]
    exact hframe oid hoid pool
  refine ⟨⟨fun j s' hs' => ?_, fun j k s₁ s₂ hjk hs₁ hs₂ => ?_, fun r hr => ?_, h.distinct⟩, ?_⟩
  · obtain ⟨hji, hs'⟩ := session_close hs'
    exact (h.own j s' hs').of_objs fun pool oid hoid =>
      hobjs oid (h.apart j i s' s hji hs' hs oid hoid) pool
  · exact h.apart j k s₁ s₂ hjk (session_close hs₁).2 (session_close hs₂).2
  · obtain ⟨oid, hoid, hfree⟩ := h.index r hr
    exact ⟨oid, hoid, fun j s' hs' => hfree j s' (session_close hs').2⟩
  · refine contents_congr fun r hr oid hoid => ?_
    obtain ⟨oid', hoid', hfree⟩ := h.index r hr
    obtain rfl := Option.some.inj (hoid.symm.trans hoid')
    rw [bytes_eq, bytes_eq, hobjs oid (hfree i s hs)]

/-- The mailbox with another session of `i`, which has changed objects. -/
def SharedBox.advance (b : SharedBox ι) (i : ι) (s : SaveSession) : SharedBox ι :=
  { b with objs := writtenObjs b.objs s.tx.objs, session := Function.update b.session i s }

theorem session_advance {s₁ : SaveSession} {j : ι} (hs₁ : (b.advance i s).session j = some s₁) :
    j = i ∧ s₁ = s ∨ j ≠ i ∧ b.session j = some s₁ := by
  replace hs₁ : Function.update b.session i (some s) j = some s₁ := hs₁
  by_cases hji : j = i
  · rw [hji, Function.update_self] at hs₁
    exact .inl ⟨hji, (Option.some.inj hs₁).symm⟩
  · rw [Function.update_of_ne hji] at hs₁
    exact .inr ⟨hji, hs₁⟩

/-- A session whose objects nobody else has, and that has changed no others. -/
theorem sound_advance (h : Sound S b) (hown : OwnRun S (b.advance i s) s)
    (hframe : ∀ oid, oid ∉ s.oids → ∀ pool, s.tx.objs pool oid = plainObjs b.objs pool oid)
    (hapart : ∀ j s₁, j ≠ i → b.session j = some s₁ → ∀ oid ∈ s.oids, oid ∉ s₁.oids)
    (hindex : ∀ r ∈ b.index.view.mails, ∀ oid, r.oid = some oid → oid ∉ s.oids) :
    Sound S (b.advance i s) ∧ (b.advance i s).contents = b.contents := by
  have hobjs : plainObjs (b.advance i s).objs = s.tx.objs := plainObjs_writtenObjs ..
  refine ⟨⟨fun j s₁ hs₁ => ?own, fun j k s₁ s₂ hjk hs₁ hs₂ => ?apart, fun r hr => ?index,
    h.distinct⟩, ?contents⟩
  case own =>
    rcases session_advance hs₁ with ⟨_, rfl⟩ | ⟨hji, hs₁⟩
    · exact hown
    · refine (h.own j s₁ hs₁).of_objs fun pool oid hoid => ?_
      rw [hobjs]
      exact hframe oid (fun hmem => hapart j s₁ hji hs₁ oid hmem hoid) pool
  case apart =>
    intro oid hoid
    rcases session_advance hs₁ with ⟨hj, heq₁⟩ | ⟨hji, hold₁⟩
    · rcases session_advance hs₂ with ⟨hk, _⟩ | ⟨hki, hold₂⟩
      · exact absurd (hj.trans hk.symm) hjk
      · exact hapart k s₂ hki hold₂ oid (heq₁ ▸ hoid)
    · rcases session_advance hs₂ with ⟨_, heq₂⟩ | ⟨hki, hold₂⟩
      · exact fun hmem => hapart j s₁ hji hold₁ oid (heq₂ ▸ hmem) hoid
      · exact h.apart j k s₁ s₂ hjk hold₁ hold₂ oid hoid
  case index =>
    obtain ⟨oid, hoid, hfree⟩ := h.index r hr
    refine ⟨oid, hoid, fun j s₁ hs₁ => ?_⟩
    rcases session_advance hs₁ with ⟨_, rfl⟩ | ⟨_, hs₁⟩
    · exact hindex r hr oid hoid
    · exact hfree j s₁ hs₁
  case contents =>
    refine contents_congr fun r hr oid hoid => ?_
    rw [bytes_eq, bytes_eq, hobjs, hframe oid (hindex r hr oid hoid)]

/-- The run of a session goes on with the call. -/
theorem ownRun_call (hown : OwnRun S b (b.opened i)) (hc : Called S b i a ret s)
    (hfresh : ∀ oid, a.oid = some oid → b.Fresh oid)
    (hcopy : ∀ k, a = .copy k → k.alt = false) : OwnRun S (b.advance i s) s := by
  obtain ⟨n, hcalls⟩ := hown.calls
  have hmade : (b.advance i s).tx s = s.tx := by
    rw [SharedBox.tx, show plainObjs (b.advance i s).objs = s.tx.objs from
      plainObjs_writtenObjs ..]
  have hamong : (b.tx (b.opened i)).among s.oids (fun _ _ => none) =
      (b.tx (b.opened i)).among (b.opened i).oids fun _ _ => none := by
    rw [hc.oids]
    cases hoid : a.oid with
    | none => rw [Option.toList_none, List.append_nil]
    | some oid =>
        refine among_cons fun pool => ?_
        show plainObjs b.objs pool oid = none
        rw [plainObjs, (hfresh oid hoid).objs pool]
        rfl
  have hone := @saveCall_among S.save s.oids (fun _ _ => none) _ a hc.within hc.given
  rw [hc.call, hamong] at hone
  refine ⟨⟨n, ?_⟩, saveCall_within hc.within hc.given hc.call, ?_, fun r hr k hk => ?_⟩
  · rw [hmade, hc.log]
    exact callsTo_append.mpr ⟨_, hcalls, _, hone, rfl⟩
  · rw [hc.oids]
    cases hoid : a.oid with
    | none =>
        rw [Option.toList_none, List.append_nil]
        exact hown.nodup
    | some oid =>
        refine List.nodup_append.mpr ⟨hown.nodup, List.nodup_singleton _, ?_⟩
        intro x hx y hy hxy
        rw [hxy, List.mem_singleton.mp hy] at hx
        exact (hfresh oid hoid).opened i hx
  · rw [hc.log] at hr
    rcases List.mem_append.mp hr with hr | hr
    · exact hown.primary r hr k hk
    · obtain rfl := List.mem_singleton.mp hr
      exact hcopy k hk

/-- **A call** changes its session, and objects that no one else has. -/
theorem step_call (h : Sound S b) (hr : Refines b m) (ha : (BoxOp.call i a).Allowed S b) :
    Sound S ((BoxOp.call i a).step S b) ∧ Refines ((BoxOp.call i a).step S b) m := by
  obtain ⟨hsome, hfresh, hcopy⟩ := ha
  obtain ⟨⟨ret, tx⟩, hcall⟩ := Option.isSome_iff_exists.mp hsome
  obtain ⟨hown, hapart, hindex⟩ := h.opened i
  have hc := called_of_call hown hcall
  have hstep : (BoxOp.call i a).step S b = b.advance i ⟨tx, (b.opened i).log ++ [(a, ret)]⟩ := by
    rw [BoxOp.step, hcall]
    rfl
  obtain ⟨hsound, hcontents⟩ := sound_advance h (ownRun_call hown hc hfresh hcopy)
    (fun oid hoid pool => saveCall_frame hc.within hc.given hcall hoid pool)
    (fun j s₁ hji hs₁ oid hoid => (hc.mem hoid).elim (hapart j s₁ hji hs₁ oid)
      fun hnew => (hfresh oid hnew).session j s₁ hs₁)
    (fun r hr oid hoid hmem => (hc.mem hmem).elim (hindex r hr oid hoid)
      fun hnew => (hfresh oid hnew).index r hr hoid)
  rw [hstep]
  exact ⟨hsound, hcontents.trans hr.mails, hr.nextUid⟩

/-- **A rollback** ends its session. -/
theorem step_rollback (h : Sound S b) (hr : Refines b m) (e : FinishEnv)
    (del : String → Outcome) :
    Sound S ((BoxOp.rollback i e del).step S b) ∧
      Refines ((BoxOp.rollback i e del).step S b) m := by
  have hend : ∀ {s : SaveSession} {objs : MailObjs}, b.session i = some s →
      (∀ oid, oid ∉ s.oids → ∀ pool, objs pool oid = plainObjs b.objs pool oid) →
      Sound S (b.close i objs) ∧ Refines (b.close i objs) m := by
    intro s objs hs hframe
    obtain ⟨hsound, hcontents⟩ := sound_close h hs hframe
    exact ⟨hsound, hcontents.trans hr.mails, hr.nextUid⟩
  cases hs : b.session i with
  | none =>
      simp only [BoxOp.step, hs]
      exact ⟨h, hr⟩
  | some s =>
      cases hback : mailboxTransactionRollback S.save e del (b.tx s) with
      | none =>
          simp only [BoxOp.step, hs, hback]
          exact hend hs fun _ _ _ => rfl
      | some tx =>
          simp only [BoxOp.step, hs, hback]
          obtain ⟨tx', hdone, rfl⟩ := Option.map_eq_some_iff.mp hback
          refine hend hs fun oid hoid pool => ?_
          exact @rollback_frame S.save s.oids (b.tx s) tx' oid e del (h.own i s hs).within hdone
            hoid pool

end Steps

section Told

variable {ι : Type} {S : BoxSetup} {b : SharedBox ι} {s : SaveSession}

/-- The copies of a session are in the primary pool. -/
theorem pool_of_calls (h : ∀ r ∈ s.log, ∀ k, r.1 = .copy k → k.alt = false) {ms : List MailRun}
    (hcalls : s.log.map Prod.fst = ms.flatMap MailRun.calls) {run : MailRun} (hrun : run ∈ ms) :
    run.pool = .primary := by
  cases run with
  | saved m => rfl
  | cancelled m => rfl
  | copied k =>
      have hcall : .copy k ∈ s.log.map Prod.fst := by
        rw [hcalls]
        exact List.mem_flatMap.mpr ⟨_, hrun, List.mem_cons_of_mem _ List.mem_cons_self⟩
      obtain ⟨r, hr, hk⟩ := List.mem_map.mp hcall
      show k.pool = .primary
      rw [CopyCall.pool, h r hr k hk]
      rfl
  | copyAborted conn e => rfl

/-- Mails with an oid, each of which has the right bytes. -/
theorem map_savedOids {l : List (MailRun × Bool)} {bytes : String → Option Bytes}
    (h : ∀ r ∈ l, ∃ oid, r.1.oid = some oid ∧ bytes oid = some r.1.data) :
    (l.filterMap (·.1.oid)).map bytes = l.map fun r => some r.1.data := by
  induction l with
  | nil => rfl
  | cons r l ih =>
      obtain ⟨oid, hoid, hbytes⟩ := h r List.mem_cons_self
      rw [List.filterMap_cons_some (f := fun r : MailRun × Bool => r.1.oid) hoid, List.map_cons,
        List.map_cons, hbytes, ih fun r' hr' => h r' (List.mem_cons_of_mem _ hr')]

theorem oid_of_succeeds {run : MailRun} (h : Succeeds run) : ∃ oid, run.oid = some oid := by
  cases run with
  | saved m => exact ⟨m.oid, rfl⟩
  | cancelled m => exact ⟨m.oid, rfl⟩
  | copied k => exact ⟨k.oid, rfl⟩
  | copyAborted conn e => exact h.elim

/-- Oids are only committed if the index is. -/
theorem indexCommit_of_oids {T : SaveSetup} {e : CommitEnv} {indexCommit : Bool} {tx : SaveTx}
    {objs : MailObjs} {oids : List String}
    (h : commitTransaction T e indexCommit tx = some (objs, some oids)) : indexCommit = true := by
  cases indexCommit with
  | true => rfl
  | false =>
      obtain ⟨p, _, hp⟩ := Option.bind_eq_some_iff.mp h
      split at hp
      · cases hp
      · obtain ⟨tx', _, hp⟩ := Option.map_eq_some_iff.mp hp
        cases hp

/-- What a session commits, and what it was told. -/
theorem commit_acknowledged (h : OwnRun S b s) {e : CommitEnv} {indexCommit : Bool}
    (hsync : e.syncFinish = true) {ms : List MailRun}
    (hcalls : s.log.map Prod.fst = ms.flatMap MailRun.calls) (hms : TransactionOk S.save ms)
    {objs : MailObjs} {oids : List String}
    (hcommit : b.commitResult S s e indexCommit = some (objs, some oids)) :
    (∀ oid ∈ oids, oid ∈ s.oids) ∧ oids.Nodup ∧
      oids.map (fun oid => (objs .primary oid).map (·.data)) = s.acknowledged.map some := by
  obtain ⟨n, hrun⟩ := h.calls
  obtain ⟨results, hresults, hacks⟩ := runMails_of_callsTo hrun hcalls
  have hack : s.acknowledged = (results.filter (·.2)).map (·.1.data) := hacks ([], [])
  have hfst : results.map Prod.fst = ms := runMails_mails hresults
  have hoids : s.oids = ms.filterMap MailRun.oid := oids_of_calls hcalls
  have hinv := commitInv_run (commitInv_start (fun _ _ => none) n []) hms.1 (fun _ _ _ => rfl)
    (by rw [← hoids]; exact h.nodup) nofun hresults
  rw [List.nil_append] at hinv
  -- the commit of the session's own objects
  replace hcommit : commitTransaction S.save
    { e with uids := fun n => toString (b.index.nextUid + n) } indexCommit (b.tx s) =
      some (objs, some oids) := hcommit
  obtain rfl := indexCommit_of_oids hcommit
  have hown := @commitTransaction_among S.save s.oids (fun _ _ => none) (b.tx s)
    { e with uids := fun n => toString (b.index.nextUid + n) } true h.within
  rw [hcommit] at hown
  obtain ⟨hsaved, hcomplete⟩ := commit_alone
    (e := { e with uids := fun n => toString (b.index.nextUid + n) }) hinv hms hfst hsync hown
  have hsub : List.Sublist (savedOids results) s.oids := by
    rw [hoids, ← hfst, List.filterMap_map]
    exact List.filter_sublist.filterMap _
  refine ⟨?_, ?_, ?_⟩
  · rw [hsaved]
    exact hsub.subset
  · rw [hsaved]
    exact hsub.nodup h.nodup
  · rw [hsaved, hack, List.map_map]
    have hmails : ∀ r ∈ results.filter (·.2), ∃ oid, r.1.oid = some oid ∧
        (objs .primary oid).map (·.data) = some r.1.data := by
      intro r hr
      obtain ⟨hr, hok⟩ := List.mem_filter.mp hr
      obtain ⟨oid, hoid⟩ := oid_of_succeeds (hinv.succeeds r hr hok)
      have hpool : r.1.pool = .primary := by
        refine pool_of_calls h.primary hcalls ?_
        rw [← hfst]
        exact List.mem_map_of_mem hr
      obtain ⟨o, ho, hdata, _⟩ := hcomplete r hr hok oid hoid
      have hmem : oid ∈ s.oids := hsub.subset (mem_savedOids.mpr ⟨r, hr, hok, hoid⟩)
      rw [hpool] at ho
      dsimp only at ho
      rw [if_pos hmem] at ho
      exact ⟨oid, hoid, by rw [ho, Option.map_some, hdata]⟩
    exact map_savedOids hmails

end Told

section Refinement

variable {ι : Type} [DecidableEq ι] {S : BoxSetup} {b : SharedBox ι} {i : ι} {m : Mailbox}

/-- New records for objects of a session that ends. -/
theorem append_refines {s : SaveSession} {objs : MailObjs} {oids : List String} {mails : List Bytes}
    (h : Sound S b) (hsound : Sound S (b.close i objs)) (hs : b.session i = some s)
    (hsub : ∀ oid ∈ oids, oid ∈ s.oids) (hnodup : oids.Nodup)
    (hbytes : oids.map (fun oid => (objs .primary oid).map (·.data)) = mails.map some)
    (hcontents : (b.close i objs).contents = m.mails.map fun p => (some p.1, p.2))
    (hnext : b.index.nextUid = m.nextUid) :
    Sound S { b.close i objs with index := b.index.append oids } ∧
      Refines { b.close i objs with index := b.index.append oids } (m.apply (.append mails)) := by
  have hnew : (appendedRecords b.index.nextUid oids).filterMap (·.oid) = oids := by
    unfold appendedRecords
    rw [List.filterMap_map]
    exact (congrFun (List.filterMap_eq_map' (f := Prod.fst)) _).trans (List.zipIdx_map_fst ..)
  refine ⟨⟨fun j s' hs' => (hsound.own j s' hs').of_objs fun _ _ _ => rfl, hsound.apart, ?_, ?_⟩,
    ?_, ?_⟩
  · intro r hr
    rcases List.mem_append.mp hr with hr | hr
    · exact hsound.index r hr
    · obtain ⟨_, _, oid, hoid, hname⟩ := mem_appendedRecords hr
      refine ⟨oid, hname, fun j s' hs' => ?_⟩
      obtain ⟨hji, hs'⟩ := @session_close _ _ b s' i objs j hs'
      exact h.apart i j s s' (Ne.symm hji) hs hs' oid (hsub oid hoid)
  · show ((b.index.view.mails ++ appendedRecords b.index.nextUid oids).filterMap (·.oid)).Nodup
    rw [List.filterMap_append, hnew]
    refine List.nodup_append.mpr ⟨h.distinct, hnodup, fun x hx y hy hxy => ?_⟩
    -- the objects of the session have no record yet
    obtain ⟨r, hr, hname⟩ := List.mem_filterMap.mp hx
    obtain ⟨oid, hoid, hfree⟩ := h.index r hr
    rw [hxy] at hname
    rw [Option.some.inj (hoid.symm.trans hname)] at hfree
    exact hfree i s hs (hsub y hy)
  · show (b.index.view.mails ++ appendedRecords b.index.nextUid oids).map _ =
      (m.mails ++ mails.zipIdx m.nextUid).map _
    rw [List.map_append, List.map_append, ← hnext]
    refine congrArg₂ (· ++ ·) hcontents ?_
    have hread : ∀ oid, (b.close i objs).bytes oid = (objs .primary oid).map (·.data) := by
      intro oid
      rw [bytes_eq]
      show (plainObjs (writtenObjs b.objs objs) .primary oid).map _ = _
      rw [plainObjs_writtenObjs]
    have hzip : (oids.zipIdx b.index.nextUid).map
        (Prod.map (fun oid => (objs .primary oid).map (·.data)) id) =
          (mails.zipIdx b.index.nextUid).map (Prod.map some id) := by
      rw [← List.zipIdx_map, ← List.zipIdx_map, hbytes]
    unfold appendedRecords
    rw [List.map_map]
    refine Eq.trans (List.map_congr_left fun p _ => ?_) hzip
    exact congrArg (·, p.2) (hread p.1)
  · show b.index.nextUid + oids.length = m.nextUid + mails.length
    have hlen := congrArg List.length hbytes
    rw [List.length_map, List.length_map] at hlen
    rw [hnext, hlen]

/-- **A commit** appends the mails that its session was told are saved. -/
theorem step_commit (h : Sound S b) (hr : Refines b m) {e : CommitEnv} {indexCommit : Bool}
    (ha : (BoxOp.commit i e indexCommit).Allowed S b) :
    Sound S ((BoxOp.commit i e indexCommit).step S b) ∧
      Refines ((BoxOp.commit i e indexCommit).step S b)
        (m.apply ((BoxOp.commit i e indexCommit).event S b)) := by
  cases hs : b.session i with
  | none =>
      simp only [BoxOp.step, BoxOp.event, hs]
      exact ⟨h, hr⟩
  | some s =>
      have hown := h.own i s hs
      have hframe : ∀ {objs : MailObjs} {oids : Option (List String)},
          b.commitResult S s e indexCommit = some (objs, oids) →
          ∀ oid, oid ∉ s.oids → ∀ pool, objs pool oid = plainObjs b.objs pool oid :=
        fun hcommit oid hoid pool =>
          @commitTransaction_frame _ _ (b.tx s) _ _ _ _ hown.within hcommit hoid pool
      cases hcommit : b.commitResult S s e indexCommit with
      | none =>
          simp only [BoxOp.step, BoxOp.event, hs, hcommit]
          obtain ⟨hsound, hcontents⟩ :=
            @sound_close _ _ S b s i h hs (plainObjs b.objs) fun _ _ _ => rfl
          exact ⟨hsound, hcontents.trans hr.mails, hr.nextUid⟩
      | some r =>
          obtain ⟨objs, oids⟩ := r
          obtain ⟨hsound, hcontents⟩ := sound_close h hs (hframe hcommit)
          cases oids with
          | none =>
              simp only [BoxOp.step, BoxOp.event, hs, hcommit]
              exact ⟨hsound, hcontents.trans hr.mails, hr.nextUid⟩
          | some oids =>
              simp only [BoxOp.step, BoxOp.event, hs, hcommit]
              obtain ⟨hsync, ms, hcalls, hms⟩ := ha s hs
              obtain ⟨hsub, hnodup, hbytes⟩ := commit_acknowledged hown hsync hcalls hms hcommit
              exact append_refines h hsound hs hsub hnodup hbytes (hcontents.trans hr.mails)
                hr.nextUid

/-- **A sync** takes away the mails that are expunged. -/
theorem step_sync (halt : S.sync.alt.altPool = false) (h : Sound S b) (hr : Refines b m)
    (e : SyncEnv) :
    Sound S ((BoxOp.sync e).step S b) ∧
      Refines ((BoxOp.sync e).step S b) (m.apply ((BoxOp.sync e).event S b)) := by
  have heff : SyncEffect { e with view := b.index.view } b.objs (b.syncResult S e) :=
    rboxSync_effect halt h.distinct b.objs b.ms
  have hobjs : ∀ j s, b.session j = some s → ∀ pool, ∀ oid ∈ s.oids,
      plainObjs (b.syncResult S e).objs pool oid = plainObjs b.objs pool oid := by
    intro j s hs pool oid hoid
    unfold plainObjs
    rw [heff.others pool oid]
    rintro ⟨r, hr, hname⟩
    obtain ⟨oid', hoid', hfree⟩ := h.index r hr
    rw [Option.some.inj (hname.symm.trans hoid')] at hoid
    exact hfree j s hs hoid
  refine ⟨⟨fun j s hs => ?_, h.apart, fun r hr => h.index r (List.mem_of_mem_filter hr), ?_⟩, ?_,
    hr.nextUid⟩
  · exact (h.own j s hs).of_objs (hobjs j s hs)
  · exact h.distinct.sublist (List.filter_sublist.filterMap _)
  · generalize hw : b.syncResult S e = w at heff
    have hread : ((b.index.expunge w.expunged).view.mails.map fun r =>
        (r.oid.bind (fun oid => (w.objs .primary oid).map (·.data)), r.uid)) =
        (b.index.expunge w.expunged).view.mails.map fun r => (r.oid.bind b.bytes, r.uid) := by
      refine List.map_congr_left fun r hmem => ?_
      obtain ⟨hmem, huid⟩ := List.mem_filter.mp hmem
      cases hoid : r.oid with
      | none => rfl
      | some oid =>
          obtain ⟨o, ho⟩ := hr.bytes hmem hoid
          obtain ⟨o', ho', hdata⟩ := heff.kept r hmem (of_decide_eq_true huid) oid hoid o ho
          refine congrArg (·, r.uid) ?_
          show (w.objs .primary oid).map (·.data) = (b.objs .primary oid).map (·.data)
          rw [ho, ho', Option.map_some, Option.map_some, hdata]
    have hstep : ((BoxOp.sync e).step S b).contents =
        (b.index.expunge w.expunged).view.mails.map fun r =>
          (r.oid.bind (fun oid => (w.objs .primary oid).map (·.data)), r.uid) := by
      rw [← hw]
      rfl
    have hevent : m.apply ((BoxOp.sync e).event S b) = m.apply (.expunge w.expunged) := by
      rw [← hw]
      rfl
    rw [hstep, hread, hevent]
    -- what is left of the mails on both sides
    have hleft := congrArg (List.filter fun p => decide (p.2 ∉ w.expunged)) hr.mails
    rw [SharedBox.contents, List.filter_map, List.filter_map] at hleft
    exact hleft

/-- **Every step.** -/
theorem step_refines (halt : S.sync.alt.altPool = false) (h : Sound S b) (hr : Refines b m)
    {op : BoxOp ι} (ha : op.Allowed S b) :
    Sound S (op.step S b) ∧ Refines (op.step S b) (m.apply (op.event S b)) := by
  cases op with
  | call i a => exact step_call h hr ha
  | commit i e indexCommit => exact step_commit h hr ha
  | rollback i e del => exact step_rollback h hr e del
  | sync e => exact step_sync halt h hr e

/-- All steps of a run. -/
theorem run_refines (halt : S.sync.alt.altPool = false) (h : Sound S b) (hr : Refines b m)
    {ops : List (BoxOp ι)} (ha : Along (BoxOp.step S) (fun b op => op.Allowed S b) b ops) :
    Sound S (run (BoxOp.step S) b ops) ∧
      Refines (run (BoxOp.step S) b ops) (run Mailbox.apply m (boxEvents S b ops)) := by
  induction ops generalizing b m with
  | nil => exact ⟨h, hr⟩
  | cons op ops ih =>
      obtain ⟨hop, hops⟩ := ha
      obtain ⟨hsound, hrefines⟩ := step_refines halt h hr hop
      exact ih hsound hrefines hops

/-- **Sessions on one mailbox**: whatever the order in which sessions save, copy, commit and roll
    back and syncs update and expunge mails, the mailbox has a record, with its whole object, for
    each mail that was reported as saved by a transaction that was committed, and is not expunged;
    and no other record. -/
theorem sessions_refine (halt : S.sync.alt.altPool = false) {ops : List (BoxOp ι)}
    (ha : Along (BoxOp.step S) (fun b op => op.Allowed S b) (.init ι) ops) :
    Refines (run (BoxOp.step S) (.init ι) ops)
      (run Mailbox.apply {} (boxEvents S (.init ι) ops)) :=
  (run_refines halt sound_init refines_init ha).2

/-- What a user finds later, he has found before, or it got a new uid. -/
theorem mem_apply {ev : MailboxEvent} {p : Bytes × Nat} (h : p ∈ (m.apply ev).mails) :
    p ∈ m.mails ∨ m.nextUid ≤ p.2 := by
  cases ev with
  | nothing => exact .inl h
  | append mails => exact (List.mem_append.mp h).imp_right List.le_snd_of_mem_zipIdx
  | expunge uids => exact .inl (List.mem_of_mem_filter h)

theorem mem_run {evs : List MailboxEvent} {p : Bytes × Nat}
    (h : p ∈ (run Mailbox.apply m evs).mails) : p ∈ m.mails ∨ m.nextUid ≤ p.2 := by
  induction evs generalizing m with
  | nil => exact .inl h
  | cons ev evs ih =>
      have hnext : m.nextUid ≤ (m.apply ev).nextUid := by
        cases ev with
        | nothing => exact le_refl _
        | append mails => exact Nat.le_add_right _ _
        | expunge uids => exact le_refl _
      rcases ih h with h | h
      · exact mem_apply h
      · exact .inr (le_trans hnext h)

/-- **A uid names one mail for ever**: under the uids that were given so far there is never anything
    else than there was -- no other bytes, no other mail, and no mail that was expunged. -/
theorem mails_never_change (halt : S.sync.alt.altPool = false) {pre ops : List (BoxOp ι)}
    (ha : Along (BoxOp.step S) (fun b op => op.Allowed S b) (.init ι) pre)
    (ha' : Along (BoxOp.step S) (fun b op => op.Allowed S b)
      (run (BoxOp.step S) (.init ι) pre) ops) :
    ∀ p ∈ (run (BoxOp.step S) (run (BoxOp.step S) (.init ι) pre) ops).contents,
      p.2 < (run (BoxOp.step S) (.init ι) pre).index.nextUid →
        p ∈ (run (BoxOp.step S) (.init ι) pre).contents := by
  intro p hp hlt
  obtain ⟨hsound, hrefines⟩ := run_refines halt sound_init refines_init ha
  obtain ⟨_, hrefines'⟩ := run_refines halt hsound hrefines ha'
  rw [hrefines'.mails] at hp
  obtain ⟨q, hq, rfl⟩ := List.mem_map.mp hp
  rw [hrefines.nextUid] at hlt
  rw [hrefines.mails]
  exact List.mem_map_of_mem ((mem_run hq).resolve_right (Nat.not_le.mpr hlt))

end Refinement

section Example

variable {ι : Type} {S : BoxSetup} {b : SharedBox ι} {i : ι}

theorem allowed_of_oid_none {a : SaveCall} (hret : (b.callResult S i a).isSome = true)
    (hoid : a.oid = none) : (BoxOp.call i a).Allowed S b := by
  refine ⟨hret, fun oid h => absurd (hoid.symm.trans h) nofun, fun k hk => ?_⟩
  rw [hk] at hoid
  cases hoid

theorem allowed_begin {oid : String} {conn : Bool}
    (hret : (b.callResult S i (.begin oid conn)).isSome = true) (hfresh : b.Fresh oid) :
    (BoxOp.call i (.begin oid conn)).Allowed S b := by
  refine ⟨hret, fun oid' h => ?_, nofun⟩
  cases h
  exact hfresh

end Example

/-- No alternative pool, the default chunks. -/
def plainBox : BoxSetup := ⟨plainSave, ⟨⟨false, true⟩, false, false⟩⟩

/-- A session saves a mail while another one has begun to. -/
def twoSessions : List (BoxOp Bool) :=
  [.call true .alloc, .call true (.begin "01010101010101010101010101010101" true),
    .call false .alloc, .call true (.continue [([72, 105], true)] true),
    .call false (.begin "b1" true),
    .call true (.finish (twoByteMail "01010101010101010101010101010101" fun _ => true).fin),
    .commit true { uids := toString } true]

theorem twoSessions_allowed : Along (BoxOp.step plainBox) (fun b op => op.Allowed plainBox b)
    (.init Bool) twoSessions := by
  refine ⟨allowed_of_oid_none rfl rfl, allowed_begin rfl ⟨fun _ => rfl, nofun, ?a1⟩,
    allowed_of_oid_none rfl rfl, allowed_of_oid_none rfl rfl,
    allowed_begin rfl ⟨fun _ => rfl, nofun, ?b1⟩, allowed_of_oid_none rfl rfl, ?commit, trivial⟩
  case a1 =>
    rintro (_ | _) s hs
    · cases hs
    · obtain rfl := Option.some.inj hs
      decide
  case b1 =>
    rintro (_ | _) s hs
    · obtain rfl := Option.some.inj hs
      decide
    · obtain rfl := Option.some.inj hs
      decide
  case commit =>
    intro s hs
    obtain rfl := Option.some.inj hs
    refine ⟨rfl, [.saved (twoByteMail "01010101010101010101010101010101" fun _ => true)], rfl,
      ?_, ?_⟩
    · intro m hm
      obtain rfl := List.mem_singleton.mp hm
      exact fun _ => saveOk_twoByteMail "01010101010101010101010101010101"
    · intro _ m hm
      cases hm
      exact Bool.noConfusion

theorem twoSessions_committed :
    (run (BoxOp.step plainBox) (.init Bool) twoSessions).contents = [(some [72, 105], 1)] :=
  (sessions_refine rfl twoSessions_allowed).mails

/-- The other session goes on. -/
theorem twoSessions_kept : ((some [72, 105], 1) : Option Bytes × Nat) ∈
    (run (BoxOp.step plainBox) (.init Bool) twoSessions).contents :=
  @mails_never_change _ _ plainBox rfl twoSessions [.call false (.continue [([98], true)] true)]
    twoSessions_allowed ⟨allowed_of_oid_none rfl rfl, trivial⟩ (some [72, 105], 1)
    (List.mem_singleton.mpr rfl) (Nat.lt_succ_self 1)

end DovecotCeph
