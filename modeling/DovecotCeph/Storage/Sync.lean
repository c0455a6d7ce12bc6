/-
  File:      DovecotCeph/Storage/Sync.lean
  Subject:   A sync of a mailbox (rbox-sync.cpp): `rbox_sync_begin` goes through Dovecot's sync
             records and collects the expunged mails, `rbox_sync_finish` commits the index and then
             removes their objects.

  * `rboxSyncIndex`, `rboxSyncBegin`, `rboxSyncFinish`, `rboxSync`: the functions, with a log of
    what they do to the index sync and which removals they issue;
  * `ExpungeInv`: the expunged items are those of the transaction's expunges, one for each mail
    with an extension record;
  * **`expunges_removed_after_commit`**: only mails whose expunge was committed lose their object,
    and each of them in its own pool, once.
-/
import DovecotCeph.Storage.MetadataContext
import Mathlib.Data.List.Nodup

namespace DovecotCeph

open Lib

/-! ## 1. The sync view and the records -/

/-- A record of the sync view. -/
structure ViewRecord extends AltRecord where
  uid : Nat
  deriving DecidableEq, Repr

/-- The sync view: the uids grow with the sequence numbers. -/
structure SyncView where
  mails : List ViewRecord
  sorted : (mails.map (·.uid)).Pairwise (· < ·)

namespace SyncView

/-- `mail_index_lookup` and `mail_index_lookup_uid`. -/
def lookup (v : SyncView) (seq : Nat) : Option ViewRecord :=
  if seq = 0 then none else v.mails[seq - 1]?

/-- `mail_index_lookup_seq_range`: the sequence numbers of the mails with uids in a range. -/
def lookupSeqRange (v : SyncView) (uid1 uid2 : Nat) : Option (Nat × Nat) :=
  let seq1 := v.mails.countP (·.uid < uid1) + 1
  let seq2 := v.mails.countP (·.uid ≤ uid2)
  if seq1 ≤ seq2 then some (seq1, seq2) else none

end SyncView

/-- `enum mail_index_sync_type` with the fields of a record that go with it: the ALT bits of
    `add_flags` and `remove_flags` and what they make of the text of the flags, and the keyword. -/
inductive SyncType where
  | expunge
  | flags (addAlt removeAlt : Bool) (newFlags : Option String → Option String)
  | keywordAdd (idx : Nat) (name : String)
  | keywordRemove (idx : Nat)
  | other

/-- `struct mail_index_sync_rec`, and what RADOS answers while it is handled. -/
structure SyncRec where
  uid1 : Nat
  uid2 : Nat
  type : SyncType
  conn : Bool := true
  move : Nat → MoveEnv := fun _ => {}
  update : Nat → UpdateEnv := fun _ => {}

/-- The alternative pool, and whether flags and keywords are mail attributes that are updated. -/
structure SyncSetup where
  alt : AltSetup
  updatesFlags : Bool := false
  updatesKeywords : Bool := false

/-! ## 2. Contexts and events -/

/-- `struct expunged_item`. -/
structure ExpungedItem where
  uid : Nat
  oid : String
  altStorage : Bool
  deriving DecidableEq, Repr

def ExpungedItem.pool (item : ExpungedItem) : MailPool :=
  if item.altStorage then .alt else .primary

/-- What a sync does: the index sync begins, is committed (with what result) or rolled back, and an
    object is removed, or removed again after `-ETIMEDOUT`. -/
inductive SyncEvent where
  | begun
  | commit (ok : Bool)
  | rollback
  | remove (item : ExpungedItem)
  | retry (item : ExpungedItem)
  deriving DecidableEq, Repr

/-- `struct rbox_sync_context`: the view, the flag updates and the expunges of the transaction, the
    items, and whether `index_sync_ctx` is still there. -/
structure SyncContext where
  view : SyncView
  flags : List (Nat × Bool) := []
  expunges : List Nat := []
  items : List ExpungedItem := []
  live : Bool := true

/-- The objects, the io context of the metadata module, the uids whose expunge was committed, and
    the events. -/
structure SyncWorld where
  objs : StoredMails
  ms : MailPool
  expunged : List Nat := []
  log : List SyncEvent := []

def SyncWorld.emit (ev : SyncEvent) (w : SyncWorld) : SyncWorld := { w with log := w.log ++ [ev] }

/-- What moves and updates see. -/
def SyncContext.altState (ctx : SyncContext) (w : SyncWorld) : AltState :=
  ⟨w.objs, ctx.view.mails.map ViewRecord.toAltRecord, ctx.flags, w.ms⟩

/-- `ETIMEDOUT` of errno.h. -/
def ETIMEDOUT : Int := 110

/-- What comes back from one `IoCtx::remove`: its return code, and whether the object is gone. -/
structure RemoveAnswer where
  ret : Int
  gone : Bool

/-- `hdr->uid_validity` and `hdr->next_uid` of the sync view. -/
structure ViewHeader where
  uidValidity : Nat
  nextUid : Nat

/-- What a sync meets: is there a rebuild and what does it return; what
    `index_storage_expunged_sync_begin` returns, with the view, its header and its records; does
    `mail_index_sync_commit` succeed; and what RADOS does when objects are removed. -/
structure SyncEnv where
  rebuild : Bool := false
  rebuildRet : Int := 0
  syncBegin : Int := 1
  view : SyncView
  header : Option ViewHeader
  recs : List SyncRec
  commit : Bool := true
  conn : ExpungedItem → Bool := fun _ => true
  remove : ExpungedItem → Nat → RemoveAnswer

/-! ## 3. `rbox_sync_begin` -/

section Begin

variable (S : SyncSetup)

/-- One mail of `rbox_sync_expunge`. -/
def expungeMail (ctx : SyncContext) (seq : Nat) : SyncContext :=
  match ctx.view.lookup seq with
  | none => ctx
  | some r =>
    if seq ∈ ctx.expunges then ctx
    else
      let ctx := { ctx with expunges := ctx.expunges ++ [seq] }
      match r.oid with
      | none => ctx
      | some oid =>
        { ctx with items := ctx.items ++ [⟨r.uid, oid, r.alt && S.alt.altPool⟩] }

/-- `rbox_sync_expunge`. -/
def rboxSyncExpunge (seqs : List Nat) (ctx : SyncContext) : SyncContext :=
  run (expungeMail S) ctx seqs

/-- Does the loop of `update_extended_metadata` get to its end? -/
def updatesAll (body : UpdateEnv → String → AltState → UpdateStep) :
    List (Nat × UpdateEnv) → AltState → Bool
  | [], _ => true
  | m :: mails, st => match st.record m.1 with
    | none => updatesAll body mails st
    | some r =>
      if !m.2.conn then false
      else
        let st := { st with ms := designated S.alt r }
        match r.oid with
        | none => updatesAll body mails st
        | some oid =>
          let u := body m.2 oid st
          if u.stop then false else updatesAll body mails u.st

/-- The context and the world with what moves and updates have made of them. -/
def SyncContext.setAlt (ctx : SyncContext) (w : SyncWorld) (st : AltState) :
    SyncContext × SyncWorld :=
  ({ ctx with flags := st.trans }, { w with objs := st.objs, ms := st.ms })

/-- `update_extended_metadata`: does it return 0, context and world. -/
def updateExtendedMetadata (key : String) (value : Option String)
    (mails : List (Nat × UpdateEnv)) (ctx : SyncContext) (w : SyncWorld) :
    Bool × SyncContext × SyncWorld :=
  if S.updatesKeywords then
    (updatesAll S (updateKeywordBody key value) mails (ctx.altState w),
      ctx.setAlt w (updateMails S.alt (updateKeywordBody key value) mails (ctx.altState w)).2)
  else (true, ctx, w)

/-- The FLAGS case: a move, or an update of the flags attribute. -/
def syncFlags (r : FlagRec) (newFlags : Option String → Option String)
    (mails : List (Nat × UpdateEnv)) (st : AltState) : AltState :=
  if r.addAlt && S.alt.altPool then moveToAlt false r st
  else if r.removeAlt && S.alt.altPool then moveToAlt true r st
  else if S.updatesFlags then (updateMails S.alt (updateFlagsBody newFlags) mails st).2
  else st

/-- One round of the loop of `rbox_sync_index`; `false` where it returns -1. -/
def syncRecord (r : SyncRec) (ctx : SyncContext) (w : SyncWorld) :
    Bool × SyncContext × SyncWorld :=
  match ctx.view.lookupSeqRange r.uid1 r.uid2 with
  | none => (true, ctx, w)
  | some (seq1, seq2) =>
    let seqs := List.range' seq1 (seq2 + 1 - seq1)
    let mails := seqs.map fun seq => (seq, r.update seq)
    match r.type with
    | .expunge => (true, rboxSyncExpunge S seqs ctx, w)
    | .flags addAlt removeAlt newFlags =>
        (true, ctx.setAlt w (syncFlags S ⟨seq1, seq2, addAlt, removeAlt, r.conn, r.move⟩ newFlags
          mails (ctx.altState w)))
    | .keywordAdd idx name => updateExtendedMetadata S (toString idx) (some name) mails ctx w
    | .keywordRemove idx => updateExtendedMetadata S (toString idx) none mails ctx w
    | .other => (true, ctx, w)

/-- The loop of `rbox_sync_index`. -/
def syncRecords : List SyncRec → SyncContext → SyncWorld → Bool × SyncContext × SyncWorld
  | [], ctx, w => (true, ctx, w)
  | r :: recs, ctx, w =>
    let q := syncRecord S r ctx w
    if q.1 then syncRecords recs q.2.1 q.2.2 else q

/-- `rbox_sync_index`. With a transaction given, `rbox_mailbox_create_indexes` returns 0. -/
def rboxSyncIndex (e : SyncEnv) (ctx : SyncContext) (w : SyncWorld) :
    Int × SyncContext × SyncWorld :=
  match e.header with
  | none => (-1, ctx, w)
  | some hdr =>
    if hdr.uidValidity = 0 then (if hdr.nextUid = 1 then 1 else 0, ctx, w)
    else
      let q := syncRecords S e.recs ctx w
      (if q.1 then 1 else -1, q.2)

/-- `rbox_sync_begin`: return code, the context it hands out, and the world. -/
def rboxSyncBegin (e : SyncEnv) (w : SyncWorld) : Int × Option SyncContext × SyncWorld :=
  if e.rebuild ∧ e.rebuildRet < 0 then (-1, none, w)
  else if e.syncBegin ≤ 0 then (e.syncBegin, none, w)
  else
    let ctx : SyncContext := { view := e.view }
    let w := w.emit .begun
    let q := if e.rebuild then (e.syncBegin, ctx, w) else rboxSyncIndex S e ctx w
    if q.1 ≤ 0 then
      let w := q.2.2.emit .rollback
      -- the context is handed out although its index sync is over
      if q.1 < 0 then (-1, none, w) else (0, some { q.2.1 with live := false }, w)
    else (0, some q.2.1, q.2.2)

end Begin

/-! ## 4. `rbox_sync_finish` -/

section Finish

variable (e : SyncEnv)

/-- One `IoCtx::remove`. -/
def issueRemove (ev : SyncEvent) (item : ExpungedItem) (a : RemoveAnswer) (w : SyncWorld) :
    SyncWorld :=
  let w := w.emit ev
  if a.gone then
    { w with
      objs := Function.update w.objs item.pool
        (Function.update (w.objs item.pool) item.oid none) }
  else w

/-- The retries of `rbox_sync_object_expunge`, from the `i`-th on. -/
def retryRemove (item : ExpungedItem) : Nat → Nat → SyncWorld → SyncWorld
  | 0, _, w => w
  | n + 1, i, w =>
    let a := e.remove item i
    let w := issueRemove (.retry item) item a w
    if 0 ≤ a.ret then w else retryRemove item n (i + 1) w

/-- `rbox_sync_object_expunge`. -/
def rboxSyncObjectExpunge (w : SyncWorld) (item : ExpungedItem) : SyncWorld :=
  if !e.conn item then w
  else
    let a := e.remove item 0
    let w := issueRemove (.remove item) item a w
    if a.ret = -ETIMEDOUT then retryRemove e item 10 1 w else w

/-- `rbox_sync_expunge_rbox_objects`. -/
def rboxSyncExpungeRboxObjects (items : List ExpungedItem) (w : SyncWorld) : SyncWorld :=
  run (rboxSyncObjectExpunge e) w items

/-- The uids of the expunges of a transaction. -/
def SyncContext.expungedUids (ctx : SyncContext) : List Nat :=
  ctx.expunges.filterMap fun seq => (ctx.view.lookup seq).map (·.uid)

/-- `rbox_sync_finish`: the return code, `none` where the process ends -- Dovecot reads through the
    null pointer that the end of an index sync leaves. -/
def rboxSyncFinish (success : Bool) (ctx : SyncContext) (w : SyncWorld) : Option Int × SyncWorld :=
  if success then
    let w := w.emit (.commit (ctx.live && e.commit))
    if !ctx.live then (none, w)
    else if !e.commit then (some (-1), w)
    else
      (some 0, rboxSyncExpungeRboxObjects e ctx.items
        { w with expunged := w.expunged ++ ctx.expungedUids })
  else
    let w := w.emit .rollback
    if !ctx.live then (none, w) else (some (-1), w)

/-- `rbox_sync_begin`, and `rbox_sync_finish` if there is a context. -/
def syncBeginFinish (S : SyncSetup) (success : Bool) (w : SyncWorld) : Option Int × SyncWorld :=
  let b := rboxSyncBegin S e w
  match b.2.1 with
  | none => (some b.1, b.2.2)
  | some ctx => rboxSyncFinish e success ctx b.2.2

/-- **`rbox_sync`.** -/
def rboxSync (S : SyncSetup) (w : SyncWorld) : Option Int × SyncWorld := syncBeginFinish e S true w

end Finish

/-! ## 5. Moves and updates remove nothing -/

/-- The objects that were there are there. -/
def ObjsKept (objs objs' : StoredMails) : Prop :=
  ∀ pool oid, (objs pool oid).isSome = true → (objs' pool oid).isSome = true

section Kept

variable {A : AltSetup} {st : AltState} {inverse : Bool}

theorem ObjsKept.refl (objs : StoredMails) : ObjsKept objs objs := fun _ _ h => h

theorem ObjsKept.trans {objs objs' objs'' : StoredMails} (h : ObjsKept objs objs')
    (h' : ObjsKept objs' objs'') : ObjsKept objs objs'' := fun pool oid ho =>
  h' pool oid (h pool oid ho)

theorem saveMail_isSome (e : MoveEnv) (data : Bytes) (m : StoredMail) {dest : Option StoredMail}
    (h : dest.isSome = true) : (saveMail e data m dest).2.isSome = true := by
  unfold saveMail
  split
  · exact h
  · split
    · exact h
    · rfl

theorem moveMail_kept (st : AltState) (m : Nat × MoveEnv) :
    ObjsKept st.objs (moveMail inverse st m).objs := by
  cases hoid : st.oidOf m.1 with
  | none =>
      rw [moveMail_idle hoid]
      exact ObjsKept.refl _
  | some oid =>
      rcases @moveMail_cases inverse oid st m hoid with ⟨_, ms, hst⟩ | ⟨_, o, k, ms, _, _, hst⟩
      · rw [hst]
        exact ObjsKept.refl _
      · have hst : moveMail inverse st m = st.moved ms (srcPool inverse).other oid
            (saveMail m.2 o.data k (st.objs (srcPool inverse).other oid)).2 (m.1, !inverse) := hst
        rw [hst]
        intro pool oid' ho
        rw [moved_objs]
        split
        case isTrue heq =>
          obtain ⟨rfl, rfl⟩ := heq
          exact saveMail_isSome _ _ _ ho
        case isFalse => exact ho

theorem moveToAlt_kept (r : FlagRec) : ObjsKept st.objs (moveToAlt inverse r st).objs := by
  unfold moveToAlt
  split
  case isTrue =>
    exact @run_inv _ _ _ (fun st' => ObjsKept st.objs st'.objs)
      (fun st' m h => h.trans (moveMail_kept st' m)) st (ObjsKept.refl _) r.mails
  case isFalse => exact ObjsKept.refl _

theorem updateMails_kept {body : UpdateEnv → String → AltState → UpdateStep}
    (hframe : UpdateFrame body) (mails : List (Nat × UpdateEnv)) (st : AltState) :
    ObjsKept st.objs (updateMails A body mails st).2.objs := by
  induction mails generalizing st with
  | nil => exact ObjsKept.refl _
  | cons m mails ih =>
      unfold updateMails
      cases st.record m.1 with
      | none => exact ih st
      | some r =>
          dsimp only
          split
          case isTrue => exact ObjsKept.refl _
          case isFalse =>
            cases r.oid with
            | none => exact ih { st with ms := designated A r }
            | some oid =>
                dsimp only
                have hbody : ObjsKept st.objs
                    (body m.2 oid { st with ms := designated A r }).st.objs :=
                  hframe.keeps m.2 oid { st with ms := designated A r }
                split
                case isTrue => exact hbody
                case isFalse => exact hbody.trans (ih _)

theorem syncFlags_kept (S : SyncSetup) (r : FlagRec) (newFlags : Option String → Option String)
    (mails : List (Nat × UpdateEnv)) : ObjsKept st.objs (syncFlags S r newFlags mails st).objs := by
  unfold syncFlags
  split
  · exact moveToAlt_kept r
  · split
    · exact moveToAlt_kept r
    · split
      · exact updateMails_kept (updateFlagsBody_frame newFlags) mails st
      · exact ObjsKept.refl _

end Kept

/-! ## 6. Uids and sequence numbers -/

section View

variable {v : SyncView} {seq seq' seq1 seq2 uid1 uid2 : Nat} {r r' : ViewRecord}

/-- In a list where `p` can only be lost, the elements with `p` come first. -/
theorem lt_countP_iff {α : Type} {l : List α} {p : α → Bool} {i : Nat} {x : α}
    (hl : l.Pairwise fun x y => p y = true → p x = true) (hx : l[i]? = some x) :
    i < l.countP p ↔ p x = true := by
  induction l generalizing i with
  | nil => cases hx
  | cons y l ih =>
      obtain ⟨hy, hl⟩ := List.pairwise_cons.mp hl
      by_cases hp : p y = true
      · rw [List.countP_cons_of_pos hp]
        cases i with
        | zero =>
            cases hx
            exact ⟨fun _ => hp, fun _ => Nat.zero_lt_succ _⟩
        | succ i => rw [Nat.add_lt_add_iff_right, ih hl hx]
      · have hnone : ∀ z ∈ l, ¬ p z = true := fun z hz hpz => hp (hy z hz hpz)
        rw [List.countP_cons_of_neg hp, List.countP_eq_zero.mpr hnone]
        refine ⟨fun h => absurd h (Nat.not_lt_zero _), fun hpx => absurd hpx ?_⟩
        rcases List.mem_cons.mp (List.mem_of_getElem? hx) with rfl | hmem
        · exact hp
        · exact hnone x hmem

theorem SyncView.pairwise (v : SyncView) : v.mails.Pairwise fun x y => x.uid < y.uid :=
  List.pairwise_map.mp v.sorted

theorem lookup_eq_some : v.lookup seq = some r ↔ seq ≠ 0 ∧ v.mails[seq - 1]? = some r := by
  unfold SyncView.lookup
  split
  case isTrue h => exact ⟨nofun, fun hr => absurd h hr.1⟩
  case isFalse h => exact ⟨fun hr => ⟨h, hr⟩, fun hr => hr.2⟩

theorem mem_mails_iff : r ∈ v.mails ↔ ∃ seq, v.lookup seq = some r := by
  constructor
  · intro h
    obtain ⟨i, hi⟩ := List.mem_iff_getElem?.mp h
    exact ⟨i + 1, lookup_eq_some.mpr ⟨Nat.succ_ne_zero i, hi⟩⟩
  · rintro ⟨seq, h⟩
    exact List.mem_of_getElem? (lookup_eq_some.mp h).2

/-- Each uid has one sequence number. -/
theorem seq_of_uid (h : v.lookup seq = some r) (h' : v.lookup seq' = some r')
    (huid : r.uid = r'.uid) : seq = seq' := by
  obtain ⟨hne, hr⟩ := lookup_eq_some.mp h
  obtain ⟨hne', hr'⟩ := lookup_eq_some.mp h'
  have hnodup : (v.mails.map (·.uid)).Nodup := v.sorted.imp fun hlt => Nat.ne_of_lt hlt
  have hlen : seq - 1 < (v.mails.map (·.uid)).length := by
    rw [List.length_map]
    exact (List.getElem?_eq_some_iff.mp hr).1
  have heq : seq - 1 = seq' - 1 := by
    refine (List.getElem?_inj hlen hnodup).mp ?_
    rw [List.getElem?_map, List.getElem?_map, hr, hr', Option.map_some, Option.map_some, huid]
  omega

/-- The place of a mail among those with a smaller uid, or one that is not greater. -/
theorem lookup_countP (hr : v.lookup seq = some r) (uid : Nat) :
    (seq ≤ v.mails.countP (·.uid < uid) ↔ r.uid < uid) ∧
      (seq ≤ v.mails.countP (·.uid ≤ uid) ↔ r.uid ≤ uid) := by
  obtain ⟨hne, hr⟩ := lookup_eq_some.mp hr
  have hlt : v.mails.Pairwise fun x y => decide (y.uid < uid) = true →
      decide (x.uid < uid) = true := by
    refine v.pairwise.imp fun hxy hy => ?_
    rw [decide_eq_true_eq] at hy ⊢
    omega
  have hle : v.mails.Pairwise fun x y => decide (y.uid ≤ uid) = true →
      decide (x.uid ≤ uid) = true := by
    refine v.pairwise.imp fun hxy hy => ?_
    rw [decide_eq_true_eq] at hy ⊢
    omega
  have h1 := lt_countP_iff hlt hr
  have h2 := lt_countP_iff hle hr
  rw [decide_eq_true_eq] at h1 h2
  omega

/-- **The sequence numbers of a range are those of the mails with uids in it.** -/
theorem lookupSeqRange_some (h : v.lookupSeqRange uid1 uid2 = some (seq1, seq2))
    (hr : v.lookup seq = some r) : seq1 ≤ seq ∧ seq ≤ seq2 ↔ uid1 ≤ r.uid ∧ r.uid ≤ uid2 := by
  have h1 := (lookup_countP hr uid1).1
  have h2 := (lookup_countP hr uid2).2
  unfold SyncView.lookupSeqRange at h
  dsimp only at h
  split at h
  case isTrue =>
    cases h
    omega
  case isFalse => cases h

theorem lookupSeqRange_none (h : v.lookupSeqRange uid1 uid2 = none)
    (hr : v.lookup seq = some r) : ¬ (uid1 ≤ r.uid ∧ r.uid ≤ uid2) := by
  have h1 := (lookup_countP hr uid1).1
  have h2 := (lookup_countP hr uid2).2
  unfold SyncView.lookupSeqRange at h
  dsimp only at h
  split at h
  case isTrue => cases h
  case isFalse => omega

end View

/-! ## 7. The expunges and the items -/

/-- The item of a mail, if it has an extension record. -/
def itemOf (S : SyncSetup) (r : ViewRecord) : Option ExpungedItem :=
  r.oid.map fun oid => ⟨r.uid, oid, r.alt && S.alt.altPool⟩

/-- **The items of a context are those of the expunges of its transaction.** -/
structure ExpungeInv (S : SyncSetup) (ctx : SyncContext) : Prop where
  nodup : ctx.expunges.Nodup
  known : ∀ seq ∈ ctx.expunges, (ctx.view.lookup seq).isSome = true
  items : ctx.items = ctx.expunges.filterMap fun seq => (ctx.view.lookup seq).bind (itemOf S)

/-- The record asks for the expunge of the mail with this uid. -/
def SyncRec.Expunges (r : SyncRec) (uid : Nat) : Prop :=
  r.type = .expunge ∧ r.uid1 ≤ uid ∧ uid ≤ r.uid2

/-- What a record leaves as it is. -/
structure SyncFrame (ctx ctx' : SyncContext) (w w' : SyncWorld) : Prop where
  view : ctx'.view = ctx.view
  live : ctx'.live = ctx.live
  log : w'.log = w.log
  expunged : w'.expunged = w.expunged
  objs : ObjsKept w.objs w'.objs

section Expunges

variable {S : SyncSetup} {e : SyncEnv} {ctx : SyncContext} {w : SyncWorld} {r : SyncRec}
  {recs : List SyncRec} {seq : Nat} {seqs : List Nat}

theorem SyncFrame.refl (ctx : SyncContext) (w : SyncWorld) : SyncFrame ctx ctx w w :=
  ⟨rfl, rfl, rfl, rfl, ObjsKept.refl _⟩

theorem SyncFrame.trans {ctx' ctx'' : SyncContext} {w' w'' : SyncWorld}
    (h : SyncFrame ctx ctx' w w') (h' : SyncFrame ctx' ctx'' w' w'') :
    SyncFrame ctx ctx'' w w'' :=
  ⟨h'.view.trans h.view, h'.live.trans h.live, h'.log.trans h.log, h'.expunged.trans h.expunged,
    h.objs.trans h'.objs⟩

theorem expungeMail_frame (ctx : SyncContext) (seq : Nat) :
    (expungeMail S ctx seq).view = ctx.view ∧ (expungeMail S ctx seq).live = ctx.live := by
  unfold expungeMail
  split
  · exact ⟨rfl, rfl⟩
  · split
    · exact ⟨rfl, rfl⟩
    · dsimp only
      split <;> exact ⟨rfl, rfl⟩

theorem mem_expungeMail {seq' : Nat} : seq' ∈ (expungeMail S ctx seq).expunges ↔
    seq' ∈ ctx.expunges ∨ seq' = seq ∧ (ctx.view.lookup seq).isSome = true := by
  unfold expungeMail
  split
  case h_1 h => simp [h]
  case h_2 r h =>
    split
    case isTrue hmem =>
      rw [h]
      refine ⟨.inl, fun hor => hor.elim id fun hs => ?_⟩
      rw [hs.1]
      exact hmem
    case isFalse =>
      dsimp only
      split <;> simp [h]

theorem expungeMail_inv (hi : ExpungeInv S ctx) (seq : Nat) :
    ExpungeInv S (expungeMail S ctx seq) := by
  unfold expungeMail
  split
  case h_1 => exact hi
  case h_2 r h =>
    split
    case isTrue => exact hi
    case isFalse hmem =>
      have hnodup : (ctx.expunges ++ [seq]).Nodup := by
        rw [List.nodup_append]
        refine ⟨hi.nodup, List.pairwise_singleton _ _, fun a ha b hb => ?_⟩
        rw [List.mem_singleton.mp hb]
        exact fun hab => hmem (hab ▸ ha)
      have hknown : ∀ seq' ∈ ctx.expunges ++ [seq], (ctx.view.lookup seq').isSome = true := by
        intro seq' hseq'
        rcases List.mem_append.mp hseq' with hseq' | hseq'
        · exact hi.known seq' hseq'
        · rw [List.mem_singleton.mp hseq', h]
          rfl
      cases hoid : r.oid with
      | none =>
          refine ⟨hnodup, hknown, ?_⟩
          have hnone : itemOf S r = none := by rw [itemOf, hoid, Option.map_none]
          simp [hi.items, h, hnone]
      | some oid =>
          refine ⟨hnodup, hknown, ?_⟩
          have hitem : itemOf S r = some ⟨r.uid, oid, r.alt && S.alt.altPool⟩ := by
            rw [itemOf, hoid, Option.map_some]
          simp [hi.items, h, hitem]

/-- What `rbox_sync_expunge` adds. -/
theorem rboxSyncExpunge_spec (seqs : List Nat) (hi : ExpungeInv S ctx) :
    ExpungeInv S (rboxSyncExpunge S seqs ctx) ∧
      (rboxSyncExpunge S seqs ctx).view = ctx.view ∧
      (rboxSyncExpunge S seqs ctx).live = ctx.live ∧
      ∀ seq, seq ∈ (rboxSyncExpunge S seqs ctx).expunges ↔
        seq ∈ ctx.expunges ∨ seq ∈ seqs ∧ (ctx.view.lookup seq).isSome = true := by
  induction seqs generalizing ctx with
  | nil => exact ⟨hi, rfl, rfl, fun seq => by simp [rboxSyncExpunge]⟩
  | cons seq seqs ih =>
      obtain ⟨hview, hlive⟩ := @expungeMail_frame S ctx seq
      obtain ⟨hinv, hview', hlive', hmem⟩ := ih (expungeMail_inv hi seq)
      rw [rboxSyncExpunge, run_cons]
      refine ⟨hinv, hview'.trans hview, hlive'.trans hlive, fun seq' => ?_⟩
      have hmem' := hmem seq'
      rw [rboxSyncExpunge] at hmem'
      rw [hmem', mem_expungeMail, hview, List.mem_cons]
      constructor
      · rintro ((h | ⟨rfl, h⟩) | h)
        · exact .inl h
        · exact .inr ⟨.inl rfl, h⟩
        · exact .inr ⟨.inr h.1, h.2⟩
      · rintro (h | ⟨rfl | hs, h⟩)
        · exact .inl (.inl h)
        · exact .inl (.inr ⟨rfl, h⟩)
        · exact .inr ⟨hs, h⟩

theorem expungeInv_setAlt (hi : ExpungeInv S ctx) (w : SyncWorld) (st : AltState) :
    ExpungeInv S (ctx.setAlt w st).1 :=
  ⟨hi.nodup, hi.known, hi.items⟩

theorem syncFrame_setAlt {st : AltState} (h : ObjsKept w.objs st.objs) :
    SyncFrame ctx (ctx.setAlt w st).1 w (ctx.setAlt w st).2 :=
  ⟨rfl, rfl, rfl, rfl, h⟩

theorem updateExtendedMetadata_spec (key : String) (value : Option String)
    (mails : List (Nat × UpdateEnv)) (hi : ExpungeInv S ctx) :
    ExpungeInv S (updateExtendedMetadata S key value mails ctx w).2.1 ∧
      SyncFrame ctx (updateExtendedMetadata S key value mails ctx w).2.1 w
        (updateExtendedMetadata S key value mails ctx w).2.2 ∧
      (updateExtendedMetadata S key value mails ctx w).2.1.expunges = ctx.expunges := by
  unfold updateExtendedMetadata
  split
  case isTrue =>
    refine ⟨expungeInv_setAlt hi w _, syncFrame_setAlt ?_, rfl⟩
    exact updateMails_kept (updateKeywordBody_frame key value) mails (ctx.altState w)
  case isFalse => exact ⟨hi, SyncFrame.refl _ _, rfl⟩

/-- **What one record does**: the mails it is for are expunged, if it says so. -/
theorem syncRecord_spec (r : SyncRec) (hi : ExpungeInv S ctx) :
    ExpungeInv S (syncRecord S r ctx w).2.1 ∧
      SyncFrame ctx (syncRecord S r ctx w).2.1 w (syncRecord S r ctx w).2.2 ∧
      ∀ seq mail, ctx.view.lookup seq = some mail →
        (seq ∈ (syncRecord S r ctx w).2.1.expunges ↔
          seq ∈ ctx.expunges ∨ r.Expunges mail.uid) := by
  unfold syncRecord
  split
  case h_1 hnone =>
    refine ⟨hi, SyncFrame.refl _ _, fun seq mail hmail => ?_⟩
    have hout := lookupSeqRange_none hnone hmail
    exact ⟨.inl, fun h => h.resolve_right fun hr => hout hr.2⟩
  case h_2 seq1 seq2 hsome =>
    -- a record of another type expunges nothing
    have hother : ∀ ctx' : SyncContext, ctx'.expunges = ctx.expunges → r.type ≠ .expunge →
        ∀ seq mail, ctx.view.lookup seq = some mail →
          (seq ∈ ctx'.expunges ↔ seq ∈ ctx.expunges ∨ r.Expunges mail.uid) := by
      intro ctx' heq htype seq mail _
      rw [heq]
      exact ⟨.inl, fun h => h.resolve_right fun hr => htype hr.1⟩
    dsimp only
    cases htype : r.type with
    | expunge =>
        obtain ⟨hinv, hview, hlive, hmem⟩ := rboxSyncExpunge_spec
          (List.range' seq1 (seq2 + 1 - seq1)) hi
        refine ⟨hinv, ⟨hview, hlive, rfl, rfl, ObjsKept.refl _⟩, fun seq mail hmail => ?_⟩
        have hrange := lookupSeqRange_some hsome hmail
        rw [hmem seq, hmail, SyncRec.Expunges, htype, ← hrange, List.mem_range'_1]
        have hin : seq1 ≤ seq ∧ seq < seq1 + (seq2 + 1 - seq1) ↔ seq1 ≤ seq ∧ seq ≤ seq2 := by
          omega
        rw [hin]
        simp
    | flags addAlt removeAlt newFlags =>
        refine ⟨expungeInv_setAlt hi w _, syncFrame_setAlt ?_,
          hother _ rfl (by rw [htype]; exact nofun)⟩
        exact @syncFlags_kept (ctx.altState w) S _ newFlags _
    | keywordAdd idx name =>
        obtain ⟨hinv, hframe, hexp⟩ := @updateExtendedMetadata_spec S ctx w (toString idx)
          (some name) ((List.range' seq1 (seq2 + 1 - seq1)).map fun seq => (seq, r.update seq)) hi
        exact ⟨hinv, hframe, hother _ hexp (by rw [htype]; exact nofun)⟩
    | keywordRemove idx =>
        obtain ⟨hinv, hframe, hexp⟩ := @updateExtendedMetadata_spec S ctx w (toString idx) none
          ((List.range' seq1 (seq2 + 1 - seq1)).map fun seq => (seq, r.update seq)) hi
        exact ⟨hinv, hframe, hother _ hexp (by rw [htype]; exact nofun)⟩
    | other => exact ⟨hi, SyncFrame.refl _ _, hother _ rfl (by rw [htype]; exact nofun)⟩

/-- **What all records do.** -/
theorem syncRecords_spec (recs : List SyncRec) (hi : ExpungeInv S ctx) :
    ExpungeInv S (syncRecords S recs ctx w).2.1 ∧
      SyncFrame ctx (syncRecords S recs ctx w).2.1 w (syncRecords S recs ctx w).2.2 ∧
      ((syncRecords S recs ctx w).1 = true → ∀ seq mail, ctx.view.lookup seq = some mail →
        (seq ∈ (syncRecords S recs ctx w).2.1.expunges ↔
          seq ∈ ctx.expunges ∨ ∃ r ∈ recs, r.Expunges mail.uid)) := by
  induction recs generalizing ctx w with
  | nil =>
      refine ⟨hi, SyncFrame.refl _ _, fun _ seq mail _ => ?_⟩
      simp [syncRecords]
  | cons r recs ih =>
      obtain ⟨hinv, hframe, hmem⟩ := @syncRecord_spec S ctx w r hi
      unfold syncRecords
      dsimp only
      split
      case isTrue hok =>
        obtain ⟨hinv', hframe', hmem'⟩ := @ih _ (syncRecord S r ctx w).2.2 hinv
        refine ⟨hinv', hframe.trans hframe', fun hall seq mail hmail => ?_⟩
        rw [hmem' hall seq mail (by rw [hframe.view]; exact hmail), hmem seq mail hmail,
          List.exists_mem_cons_iff, or_assoc]
      case isFalse hstop => exact ⟨hinv, hframe, fun hok => absurd hok hstop⟩

end Expunges

/-! ## 8. All that `rbox_sync_begin` can do -/

namespace SyncEnv

/-- The index sync is begun. -/
def Begun (e : SyncEnv) : Prop := ¬ (e.rebuild = true ∧ e.rebuildRet < 0) ∧ 0 < e.syncBegin

/-- The uid validity is missing although there were mails, and nothing was rebuilt. -/
def Broken (e : SyncEnv) : Prop :=
  e.rebuild = false ∧ ∃ hdr, e.header = some hdr ∧ hdr.uidValidity = 0 ∧ hdr.nextUid ≠ 1

/-- The sync goes through the records, and one asks for the expunge of the mail. -/
def Requests (e : SyncEnv) (uid : Nat) : Prop :=
  e.rebuild = false ∧ (∃ hdr, e.header = some hdr ∧ hdr.uidValidity ≠ 0) ∧
    ∃ r ∈ e.recs, r.Expunges uid

end SyncEnv

/-- The outcomes of `rbox_sync_begin`: nothing begun; begun, rolled back and no context; begun,
    rolled back and a context without index sync; or a context with the requested expunges. -/
inductive BeginOutcome (S : SyncSetup) (e : SyncEnv) (w : SyncWorld) :
    Int × Option SyncContext × SyncWorld → Prop where
  | idle (ret : Int) (hret : ret ≤ 0) (hnot : ¬ e.Begun) : BeginOutcome S e w (ret, none, w)
  | failed (w' : SyncWorld) (hbegun : e.Begun) (hrebuild : e.rebuild = false) (hsound : ¬ e.Broken)
      (hlog : w'.log = w.log ++ [.begun, .rollback]) (hexp : w'.expunged = w.expunged)
      (hobjs : ObjsKept w.objs w'.objs) : BeginOutcome S e w (-1, none, w')
  | dead (ctx : SyncContext) (w' : SyncWorld) (hbegun : e.Begun) (hbroken : e.Broken)
      (hlive : ctx.live = false) (hlog : w'.log = w.log ++ [.begun, .rollback])
      (hexp : w'.expunged = w.expunged) (hobjs : ObjsKept w.objs w'.objs) :
      BeginOutcome S e w (0, some ctx, w')
  | live (ctx : SyncContext) (w' : SyncWorld) (hbegun : e.Begun) (hsound : ¬ e.Broken)
      (hlive : ctx.live = true) (hlog : w'.log = w.log ++ [.begun])
      (hexp : w'.expunged = w.expunged) (hobjs : ObjsKept w.objs w'.objs)
      (hview : ctx.view = e.view) (hinv : ExpungeInv S ctx)
      (hheader : e.rebuild = false → e.header.isSome = true)
      (hreq : ∀ seq mail, e.view.lookup seq = some mail →
        (seq ∈ ctx.expunges ↔ e.Requests mail.uid)) :
      BeginOutcome S e w (0, some ctx, w')

section Outcome

variable {S : SyncSetup} {e : SyncEnv} {w : SyncWorld}

theorem expungeInv_start (v : SyncView) : ExpungeInv S { view := v } :=
  ⟨List.nodup_nil, nofun, rfl⟩

/-- What `rbox_sync_index` returns, and when. -/
theorem rboxSyncIndex_spec (hr : e.rebuild = false) (w : SyncWorld) :
    SyncFrame { view := e.view } (rboxSyncIndex S e { view := e.view } w).2.1 w
        (rboxSyncIndex S e { view := e.view } w).2.2 ∧
      ExpungeInv S (rboxSyncIndex S e { view := e.view } w).2.1 ∧
      ((rboxSyncIndex S e { view := e.view } w).1 = -1 ∧ ¬ e.Broken ∨
        (rboxSyncIndex S e { view := e.view } w).1 = 0 ∧ e.Broken ∨
        (rboxSyncIndex S e { view := e.view } w).1 = 1 ∧ ¬ e.Broken ∧ e.header.isSome = true ∧
          ∀ seq mail, e.view.lookup seq = some mail →
            (seq ∈ (rboxSyncIndex S e { view := e.view } w).2.1.expunges ↔
              e.Requests mail.uid)) := by
  unfold rboxSyncIndex SyncEnv.Broken SyncEnv.Requests
  cases hh : e.header with
  | none =>
      refine ⟨SyncFrame.refl _ _, expungeInv_start _, .inl ⟨rfl, ?_⟩⟩
      rintro ⟨_, hdr, hhdr, _⟩
      cases hhdr
  | some hdr =>
      dsimp only
      split
      case isTrue hvalid =>
        refine ⟨SyncFrame.refl _ _, expungeInv_start _, .inr ?_⟩
        by_cases hnext : hdr.nextUid = 1
        · rw [if_pos hnext]
          refine .inr ⟨rfl, ?_, rfl, fun seq mail _ => ⟨nofun, ?_⟩⟩
          · rintro ⟨_, hdr', hh', _, hne⟩
            exact hne (Option.some.inj hh' ▸ hnext)
          · rintro ⟨_, ⟨hdr', hh', hne⟩, _⟩
            exact absurd (Option.some.inj hh' ▸ hvalid) hne
        · rw [if_neg hnext]
          exact .inl ⟨rfl, hr, hdr, rfl, hvalid, hnext⟩
      case isFalse hvalid =>
        have hsound : ¬ (e.rebuild = false ∧
            ∃ hdr', some hdr = some hdr' ∧ hdr'.uidValidity = 0 ∧ hdr'.nextUid ≠ 1) := by
          rintro ⟨_, hdr', hh', hzero, _⟩
          exact hvalid (Option.some.inj hh' ▸ hzero)
        obtain ⟨hinv, hframe, hmem⟩ := @syncRecords_spec S { view := e.view } w e.recs
          (expungeInv_start _)
        refine ⟨hframe, hinv, ?_⟩
        cases hall : (syncRecords S e.recs { view := e.view } w).1 with
        | false => exact .inl ⟨rfl, hsound⟩
        | true =>
            refine .inr (.inr ⟨rfl, hsound, rfl, fun seq mail hmail => ?_⟩)
            rw [hmem hall seq mail hmail]
            constructor
            · exact fun h => ⟨hr, ⟨hdr, rfl, hvalid⟩, h.resolve_left nofun⟩
            · exact fun h => .inr h.2.2

theorem rboxSyncBegin_outcome : BeginOutcome S e w (rboxSyncBegin S e w) := by
  unfold rboxSyncBegin
  split
  case isTrue hrebuild => exact .idle (-1) (by omega) fun h => h.1 hrebuild
  case isFalse hrebuild =>
    split
    case isTrue hret => exact .idle e.syncBegin hret fun h => absurd h.2 (by omega)
    case isFalse hret =>
      have hbegun : e.Begun := ⟨hrebuild, by omega⟩
      dsimp only
      cases hr : e.rebuild with
      | true =>
          have hnot : e.rebuild ≠ false := by rw [hr]; decide
          rw [if_pos rfl, if_neg hret]
          refine .live _ _ hbegun (fun h => hnot h.1) rfl rfl rfl (ObjsKept.refl _) rfl
            (expungeInv_start _) (fun h => absurd h hnot) fun seq mail _ => ?_
          exact ⟨nofun, fun h => absurd h.1 hnot⟩
      | false =>
          obtain ⟨hframe, hinv, hcases⟩ := @rboxSyncIndex_spec S e hr (w.emit .begun)
          have hlog : (((rboxSyncIndex S e { view := e.view } (w.emit .begun)).2.2).emit
              .rollback).log = w.log ++ [.begun, .rollback] := by
            rw [SyncWorld.emit, hframe.log]
            exact List.append_assoc _ _ _
          rw [if_neg Bool.false_ne_true]
          rcases hcases with ⟨hq, hsound⟩ | ⟨hq, hbroken⟩ | ⟨hq, hsound, hheader, hreq⟩
          · rw [hq]
            exact .failed _ hbegun hr hsound hlog hframe.expunged hframe.objs
          · rw [hq]
            exact .dead _ _ hbegun hbroken rfl hlog hframe.expunged hframe.objs
          · rw [hq]
            exact .live _ _ hbegun hsound hframe.live hframe.log hframe.expunged hframe.objs
              hframe.view hinv (fun _ => hheader) hreq

end Outcome

/-! ## 9. The removals -/

/-- The retries of one removal, and its events. -/
def retryEvents (e : SyncEnv) (item : ExpungedItem) : Nat → Nat → List SyncEvent
  | 0, _ => []
  | n + 1, i =>
    .retry item :: if 0 ≤ (e.remove item i).ret then [] else retryEvents e item n (i + 1)

def removalEvents (e : SyncEnv) (item : ExpungedItem) : List SyncEvent :=
  if !e.conn item then []
  else .remove item ::
    if (e.remove item 0).ret = -ETIMEDOUT then retryEvents e item 10 1 else []

/-- The event is the removal of the object of the mail with this uid; a retry is none. -/
def SyncEvent.removesMail (uid : Nat) : SyncEvent → Bool
  | .remove item => item.uid = uid
  | _ => false

/-- What removing objects leaves: the committed expunges, and all objects but those of `items`. -/
structure RemovalFrame (items : List ExpungedItem) (w w' : SyncWorld) : Prop where
  expunged : w'.expunged = w.expunged
  objs : ∀ pool oid, w'.objs pool oid = w.objs pool oid ∨
    ∃ item ∈ items, item.pool = pool ∧ item.oid = oid

section Removals

variable {e : SyncEnv} {item : ExpungedItem} {items : List ExpungedItem} {w w' w'' : SyncWorld}

theorem RemovalFrame.refl (w : SyncWorld) : RemovalFrame items w w := ⟨rfl, fun _ _ => .inl rfl⟩

theorem RemovalFrame.trans (h : RemovalFrame items w w') (h' : RemovalFrame items w' w'') :
    RemovalFrame items w w'' := by
  refine ⟨h'.expunged.trans h.expunged, fun pool oid => ?_⟩
  rcases h'.objs pool oid with heq | hitem
  · rw [heq]
    exact h.objs pool oid
  · exact .inr hitem

theorem RemovalFrame.mono {items' : List ExpungedItem} (h : RemovalFrame items w w')
    (hsub : ∀ item ∈ items, item ∈ items') : RemovalFrame items' w w' := by
  refine ⟨h.expunged, fun pool oid => (h.objs pool oid).imp_right ?_⟩
  rintro ⟨item, hitem, hpool⟩
  exact ⟨item, hsub item hitem, hpool⟩

theorem issueRemove_frame (ev : SyncEvent) (a : RemoveAnswer) (w : SyncWorld) :
    (issueRemove ev item a w).log = w.log ++ [ev] ∧
      RemovalFrame [item] w (issueRemove ev item a w) := by
  unfold issueRemove
  dsimp only
  split
  case isTrue =>
    refine ⟨rfl, rfl, fun pool oid => ?_⟩
    by_cases hpool : pool = item.pool
    · by_cases hoid : oid = item.oid
      · exact .inr ⟨item, List.mem_singleton_self _, hpool.symm, hoid.symm⟩
      · left
        subst hpool
        simp [SyncWorld.emit, Function.update_of_ne hoid]
    · left
      simp [SyncWorld.emit, Function.update_of_ne hpool]
  case isFalse => exact ⟨rfl, rfl, fun _ _ => .inl rfl⟩

theorem retryRemove_frame (n i : Nat) (w : SyncWorld) :
    (retryRemove e item n i w).log = w.log ++ retryEvents e item n i ∧
      RemovalFrame [item] w (retryRemove e item n i w) := by
  induction n generalizing i w with
  | zero => exact ⟨(List.append_nil _).symm, RemovalFrame.refl _⟩
  | succ n ih =>
      obtain ⟨hlog, hframe⟩ := @issueRemove_frame item (.retry item) (e.remove item i) w
      unfold retryRemove retryEvents
      dsimp only
      split
      case isTrue => exact ⟨hlog, hframe⟩
      case isFalse =>
        obtain ⟨hlog', hframe'⟩ := ih (i + 1)
          (issueRemove (.retry item) item (e.remove item i) w)
        refine ⟨?_, hframe.trans hframe'⟩
        rw [hlog', hlog, List.append_assoc]
        rfl

theorem objectExpunge_frame (item : ExpungedItem) (w : SyncWorld) :
    (rboxSyncObjectExpunge e w item).log = w.log ++ removalEvents e item ∧
      RemovalFrame (if e.conn item then [item] else []) w (rboxSyncObjectExpunge e w item) := by
  unfold rboxSyncObjectExpunge removalEvents
  cases hconn : e.conn item with
  | false => exact ⟨(List.append_nil _).symm, RemovalFrame.refl _⟩
  | true =>
      obtain ⟨hlog, hframe⟩ := @issueRemove_frame item (.remove item) (e.remove item 0) w
      simp only [Bool.not_true, Bool.false_eq_true, if_false, if_true]
      split
      case isTrue =>
        obtain ⟨hlog', hframe'⟩ := @retryRemove_frame e item 10 1
          (issueRemove (.remove item) item (e.remove item 0) w)
        refine ⟨?_, hframe.trans hframe'⟩
        rw [hlog', hlog, List.append_assoc]
        rfl
      case isFalse => exact ⟨hlog, hframe⟩

/-- **What `rbox_sync_expunge_rbox_objects` does.** -/
theorem expungeObjects_frame (items : List ExpungedItem) (w : SyncWorld) :
    (rboxSyncExpungeRboxObjects e items w).log = w.log ++ items.flatMap (removalEvents e) ∧
      RemovalFrame (items.filter e.conn) w (rboxSyncExpungeRboxObjects e items w) := by
  induction items generalizing w with
  | nil => exact ⟨(List.append_nil _).symm, RemovalFrame.refl _⟩
  | cons item items ih =>
      obtain ⟨hlog, hframe⟩ := @objectExpunge_frame e item w
      obtain ⟨hlog', hframe'⟩ := ih (rboxSyncObjectExpunge e w item)
      rw [rboxSyncExpungeRboxObjects] at hlog' hframe' ⊢
      rw [run_cons, List.flatMap_cons, hlog', hlog, List.append_assoc]
      refine ⟨rfl, (hframe.mono ?_).trans (hframe'.mono ?_)⟩
      · intro item' hitem'
        split at hitem'
        case isTrue hconn =>
          rw [List.mem_singleton.mp hitem']
          exact List.mem_filter.mpr ⟨List.mem_cons_self, hconn⟩
        case isFalse => cases hitem'
      · intro item' hitem'
        obtain ⟨hmem, hconn⟩ := List.mem_filter.mp hitem'
        exact List.mem_filter.mpr ⟨List.mem_cons_of_mem _ hmem, hconn⟩

theorem mem_retryEvents {n i : Nat} {ev : SyncEvent} (h : ev ∈ retryEvents e item n i) :
    ev = .retry item := by
  induction n generalizing i with
  | zero => cases h
  | succ n ih =>
      rcases List.mem_cons.mp h with h | h
      · exact h
      · split at h
        · cases h
        · exact ih h

theorem mem_removalEvents {ev : SyncEvent} (h : ev ∈ removalEvents e item) :
    e.conn item = true ∧
      (ev = .remove item ∨ ev = .retry item ∧ (e.remove item 0).ret = -ETIMEDOUT) := by
  unfold removalEvents at h
  cases hconn : e.conn item with
  | false =>
      rw [hconn] at h
      cases h
  | true =>
      rw [hconn] at h
      refine ⟨rfl, ?_⟩
      rcases List.mem_cons.mp h with h | h
      · exact .inl h
      · split at h
        case isTrue htime => exact .inr ⟨mem_retryEvents h, htime⟩
        case isFalse => cases h

/-- Of the events of a removal, the retries aside, one is for the mail. -/
theorem filter_removalEvents (uid : Nat) :
    (removalEvents e item).filter (SyncEvent.removesMail uid) =
      if e.conn item = true ∧ item.uid = uid then [.remove item] else [] := by
  have hretry : ∀ n i, (retryEvents e item n i).filter (SyncEvent.removesMail uid) = [] := by
    intro n i
    refine List.filter_eq_nil_iff.mpr fun ev hev => ?_
    rw [mem_retryEvents hev]
    exact Bool.false_ne_true
  unfold removalEvents
  cases e.conn item with
  | false => rfl
  | true =>
      rw [Bool.not_true, if_neg Bool.false_ne_true]
      have hrest : (if (e.remove item 0).ret = -ETIMEDOUT then retryEvents e item 10 1
          else []).filter (SyncEvent.removesMail uid) = [] := by
        split
        · exact hretry 10 1
        · rfl
      rw [List.filter_cons, hrest]
      by_cases huid : item.uid = uid <;> simp [SyncEvent.removesMail, huid]

/-- The removals for one mail among those of all items. -/
theorem filter_removals (uid : Nat) (items : List ExpungedItem) :
    (items.flatMap (removalEvents e)).filter (SyncEvent.removesMail uid) =
      (items.filter fun item => e.conn item && item.uid = uid).map .remove := by
  induction items with
  | nil => rfl
  | cons item items ih =>
      rw [List.flatMap_cons, List.filter_append, filter_removalEvents, ih, List.filter_cons]
      cases e.conn item with
      | false => simp
      | true => by_cases huid : item.uid = uid <;> simp [huid]

/-- Among items with different uids one has the uid of a given one. -/
theorem filter_uid_eq (hnodup : (items.map (·.uid)).Nodup) (hmem : item ∈ items) :
    items.filter (fun item' => item'.uid = item.uid) = [item] := by
  induction items with
  | nil => cases hmem
  | cons item' items ih =>
      rw [List.map_cons, List.nodup_cons] at hnodup
      rcases List.mem_cons.mp hmem with rfl | hmem
      · have hrest : items.filter (fun item' => item'.uid = item.uid) = [] := by
          refine List.filter_eq_nil_iff.mpr fun item' hitem' heq => hnodup.1 ?_
          rw [← of_decide_eq_true heq]
          exact List.mem_map_of_mem hitem'
        rw [List.filter_cons, if_pos (decide_eq_true rfl), hrest]
      · have hne : ¬ decide (item'.uid = item.uid) = true := by
          intro heq
          refine hnodup.1 ?_
          rw [of_decide_eq_true heq]
          exact List.mem_map_of_mem hmem
        rw [List.filter_cons, if_neg hne, ih hnodup.2 hmem]

end Removals

/-! ## 10. Expunges and their commit -/

/-- **Only committed expunges remove objects**, in the order of the log; each mail of the view whose
    expunge was committed loses its object in its own pool, and no mail without extension record
    does. `begun`: the context that was handed out, if any. -/
structure ExpungesRemoved (S : SyncSetup) (e : SyncEnv) (success : Bool)
    (begun : Option SyncContext) (objs : StoredMails) (w : SyncWorld) : Prop where
  commits : .commit true ∈ w.log ↔
    success = true ∧ e.commit = true ∧ ∃ ctx, begun = some ctx ∧ ctx.live = true
  committed : ∀ pre ev post item, w.log = pre ++ ev :: post → ev = .remove item ∨ ev = .retry item →
    .commit true ∈ pre ∧ ∃ mail ∈ e.view.mails, mail.uid ∈ w.expunged ∧ item.uid = mail.uid ∧
      mail.oid = some item.oid ∧ item.pool = designated S.alt mail.toAltRecord
  lost : ∀ pool oid, (objs pool oid).isSome = true → w.objs pool oid = none →
    ∃ item, .remove item ∈ w.log ∧ item.pool = pool ∧ item.oid = oid
  requested : .commit true ∈ w.log → ∀ mail ∈ e.view.mails,
    (mail.uid ∈ w.expunged ↔ e.Requests mail.uid)
  uncommitted : .commit true ∉ w.log → w.expunged = []
  once : .commit true ∈ w.log → (∀ item, e.conn item = true) → ∀ mail ∈ e.view.mails,
    mail.uid ∈ w.expunged → ∀ oid, mail.oid = some oid →
      w.log.filter (SyncEvent.removesMail mail.uid) =
        [.remove ⟨mail.uid, oid, mail.alt && S.alt.altPool⟩]
  noRecord : ∀ mail ∈ e.view.mails, mail.oid = none →
    w.log.filter (SyncEvent.removesMail mail.uid) = []
  retries : ∀ item, .retry item ∈ w.log → (e.remove item 0).ret = -ETIMEDOUT

section Committed

variable {S : SyncSetup} {e : SyncEnv} {ctx : SyncContext} {objs : StoredMails} {w : SyncWorld}
  {success : Bool} {begun : Option SyncContext}

theorem itemOf_eq_some {mail : ViewRecord} {item : ExpungedItem} (h : itemOf S mail = some item) :
    item.uid = mail.uid ∧ mail.oid = some item.oid ∧
      item.pool = designated S.alt mail.toAltRecord := by
  obtain ⟨oid, hoid, rfl⟩ := Option.map_eq_some_iff.mp h
  exact ⟨rfl, hoid, rfl⟩

/-- A log without removals. -/
theorem expungesRemoved_idle
    (hnot : ¬ (success = true ∧ e.commit = true ∧ ∃ ctx, begun = some ctx ∧ ctx.live = true))
    (hlog : ∀ ev ∈ w.log, ev = .begun ∨ ev = .commit false ∨ ev = .rollback)
    (hexp : w.expunged = []) (hobjs : ObjsKept objs w.objs) :
    ExpungesRemoved S e success begun objs w := by
  have hno : ∀ item, .remove item ∉ w.log ∧ .retry item ∉ w.log := by
    intro item
    constructor <;> intro h <;> rcases hlog _ h with h | h | h <;> cases h
  have hcommit : SyncEvent.commit true ∉ w.log := by
    intro h
    rcases hlog _ h with h | h | h <;> cases h
  have hfilter : ∀ uid, w.log.filter (SyncEvent.removesMail uid) = [] := by
    intro uid
    refine List.filter_eq_nil_iff.mpr fun ev hev => ?_
    rcases hlog ev hev with rfl | rfl | rfl <;> exact Bool.false_ne_true
  refine ⟨iff_of_false hcommit hnot, ?_, ?_, fun h => absurd h hcommit, fun _ => hexp,
    fun h => absurd h hcommit, fun mail _ _ => hfilter mail.uid,
    fun item h => absurd h (hno item).2⟩
  · intro pre ev post item hsplit hev
    have hmem : ev ∈ w.log := by
      rw [hsplit]
      exact List.mem_append_right _ List.mem_cons_self
    rcases hev with rfl | rfl
    · exact absurd hmem (hno item).1
    · exact absurd hmem (hno item).2
  · intro pool oid hsome hnone
    have hkept := hobjs pool oid hsome
    rw [hnone] at hkept
    cases hkept

/-- Uids and the expunges of a context. -/
theorem mem_expungedUids {seq : Nat} {mail : ViewRecord} (h : ctx.view.lookup seq = some mail) :
    mail.uid ∈ ctx.expungedUids ↔ seq ∈ ctx.expunges := by
  unfold SyncContext.expungedUids
  rw [List.mem_filterMap]
  constructor
  · rintro ⟨seq', hmem, huid⟩
    obtain ⟨mail', hmail', huid⟩ := Option.map_eq_some_iff.mp huid
    rw [seq_of_uid h hmail' huid.symm]
    exact hmem
  · exact fun hmem => ⟨seq, hmem, by rw [h]; rfl⟩

/-- The items have different uids. -/
theorem ExpungeInv.items_nodup (hi : ExpungeInv S ctx) : (ctx.items.map (·.uid)).Nodup := by
  rw [hi.items, List.map_filterMap]
  refine List.Nodup.filterMap (fun seq seq' uid h h' => ?_) hi.nodup
  obtain ⟨item, hitem, rfl⟩ := Option.map_eq_some_iff.mp h
  obtain ⟨item', hitem', huid⟩ := Option.map_eq_some_iff.mp h'
  obtain ⟨mail, hmail, hitem⟩ := Option.bind_eq_some_iff.mp hitem
  obtain ⟨mail', hmail', hitem'⟩ := Option.bind_eq_some_iff.mp hitem'
  refine seq_of_uid hmail hmail' ?_
  rw [← (itemOf_eq_some hitem).1, ← (itemOf_eq_some hitem').1, huid]

theorem ExpungeInv.mem_items (hi : ExpungeInv S ctx) {item : ExpungedItem} :
    item ∈ ctx.items ↔ ∃ mail ∈ ctx.view.mails, mail.uid ∈ ctx.expungedUids ∧
      itemOf S mail = some item := by
  rw [hi.items, List.mem_filterMap]
  constructor
  · rintro ⟨seq, hmem, h⟩
    obtain ⟨mail, hmail, hitem⟩ := Option.bind_eq_some_iff.mp h
    exact ⟨mail, mem_mails_iff.mpr ⟨seq, hmail⟩, (mem_expungedUids hmail).mpr hmem, hitem⟩
  · rintro ⟨mail, hmail, huid, hitem⟩
    obtain ⟨seq, hseq⟩ := mem_mails_iff.mp hmail
    exact ⟨seq, (mem_expungedUids hseq).mp huid, by rw [hseq]; exact hitem⟩

/-- What stands behind a part of a list it is not in has that part before it. -/
theorem mem_before_split {α : Type} {l₁ l₂ pre post : List α} {x y : α}
    (h : l₁ ++ l₂ = pre ++ y :: post) (hx : x ∈ l₁) (hy : y ∉ l₁) : x ∈ pre ∧ y ∈ l₂ := by
  rcases List.append_eq_append_iff.mp h with ⟨mid, rfl, rfl⟩ | ⟨mid, rfl, hmid⟩
  · exact ⟨List.mem_append_left _ hx, List.mem_append_right _ List.mem_cons_self⟩
  · cases mid with
    | nil =>
        rw [List.append_nil] at hx
        rw [List.nil_append] at hmid
        exact ⟨hx, by rw [← hmid]; exact List.mem_cons_self⟩
    | cons z mid =>
        rw [(List.cons.inj hmid).1] at hy
        exact absurd (List.mem_append_right _ List.mem_cons_self) hy

/-- Mails with the same uid are the same. -/
theorem mail_of_uid {v : SyncView} {mail mail' : ViewRecord} (h : mail ∈ v.mails)
    (h' : mail' ∈ v.mails) (huid : mail.uid = mail'.uid) : mail = mail' := by
  obtain ⟨seq, hseq⟩ := mem_mails_iff.mp h
  obtain ⟨seq', hseq'⟩ := mem_mails_iff.mp h'
  rw [← seq_of_uid hseq hseq' huid, hseq] at hseq'
  exact Option.some.inj hseq'

/-- The events of a sync that is committed. -/
def commitLog (e : SyncEnv) (items : List ExpungedItem) : List SyncEvent :=
  [.begun, .commit true] ++ items.flatMap (removalEvents e)

theorem commit_mem_commitLog {items : List ExpungedItem} : .commit true ∈ commitLog e items :=
  List.mem_append_left _ (List.mem_cons_of_mem _ List.mem_cons_self)

theorem filter_commitLog (uid : Nat) (items : List ExpungedItem) :
    (commitLog e items).filter (SyncEvent.removesMail uid) =
      (items.filter fun item => e.conn item && item.uid = uid).map .remove := by
  rw [commitLog, List.filter_append, filter_removals]
  rfl

/-- A removal or a retry in the log is one of an item, and comes after the commit. -/
theorem removal_of_commitLog {items : List ExpungedItem} {item : ExpungedItem} {ev : SyncEvent}
    {pre post : List SyncEvent} (hlog : commitLog e items = pre ++ ev :: post)
    (hev : ev = .remove item ∨ ev = .retry item) :
    .commit true ∈ pre ∧ item ∈ items ∧ ev ∈ removalEvents e item := by
  have hnot : ev ∉ [SyncEvent.begun, .commit true] := by
    rcases hev with rfl | rfl <;> simp
  obtain ⟨hcommit, hmem⟩ := mem_before_split hlog
    (List.mem_cons_of_mem _ List.mem_cons_self : SyncEvent.commit true ∈ _) hnot
  obtain ⟨item', hitem', hmem⟩ := List.mem_flatMap.mp hmem
  have heq : item' = item := by
    rcases (mem_removalEvents hmem).2 with h | ⟨h, _⟩ <;> rcases hev with h' | h' <;>
      cases h.symm.trans h' <;> rfl
  rw [← heq]
  exact ⟨hcommit, hitem', hmem⟩

/-- **The finish of a live context whose commit succeeds.** -/
theorem expungesRemoved_commit (hi : ExpungeInv S ctx) (hlive : ctx.live = true)
    (hc : e.commit = true) (hview : ctx.view = e.view)
    (hreq : ∀ seq mail, e.view.lookup seq = some mail →
      (seq ∈ ctx.expunges ↔ e.Requests mail.uid))
    (hlog : w.log = [.begun, .commit true]) (hexp : w.expunged = ctx.expungedUids)
    (hobjs : ObjsKept objs w.objs) :
    ExpungesRemoved S e true (some ctx) objs (rboxSyncExpungeRboxObjects e ctx.items w) := by
  obtain ⟨hlog', hframe⟩ := @expungeObjects_frame e ctx.items w
  have hlog' : (rboxSyncExpungeRboxObjects e ctx.items w).log = commitLog e ctx.items := by
    rw [hlog', hlog]
    rfl
  have hexp' := hframe.expunged.trans hexp
  have hitem : ∀ item ∈ ctx.items, ∃ mail ∈ e.view.mails, mail.uid ∈ ctx.expungedUids ∧
      itemOf S mail = some item := by
    intro item hmem
    rw [← hview]
    exact hi.mem_items.mp hmem
  refine ⟨?commits, ?committed, ?lost, ?requested, ?uncommitted, ?once, ?noRecord, ?retries⟩
  case commits =>
    rw [hlog']
    exact iff_of_true commit_mem_commitLog ⟨rfl, hc, ctx, rfl, hlive⟩
  case committed =>
    intro pre ev post item hsplit hev
    rw [hlog'] at hsplit
    obtain ⟨hcommit, hmem, _⟩ := removal_of_commitLog hsplit hev
    obtain ⟨mail, hmail, huid, hof⟩ := hitem item hmem
    refine ⟨hcommit, mail, hmail, ?_, itemOf_eq_some hof⟩
    rw [hexp']
    exact huid
  case lost =>
    intro pool oid hsome hnone
    rcases hframe.objs pool oid with heq | ⟨item, hmem, hpool⟩
    · have hkept := hobjs pool oid hsome
      rw [← heq, hnone] at hkept
      cases hkept
    · obtain ⟨hmem, hconn⟩ := List.mem_filter.mp hmem
      refine ⟨item, ?_, hpool⟩
      rw [hlog']
      refine List.mem_append_right _ (List.mem_flatMap.mpr ⟨item, hmem, ?_⟩)
      rw [removalEvents, hconn]
      exact List.mem_cons_self
  case requested =>
    intro _ mail hmail
    obtain ⟨seq, hseq⟩ := mem_mails_iff.mp hmail
    rw [hexp', ← hreq seq mail hseq]
    rw [← hview] at hseq
    exact mem_expungedUids hseq
  case uncommitted =>
    intro h
    rw [hlog'] at h
    exact absurd commit_mem_commitLog h
  case once =>
    intro _ hconn mail hmail huid oid hoid
    have hof : itemOf S mail = some ⟨mail.uid, oid, mail.alt && S.alt.altPool⟩ := by
      rw [itemOf, hoid, Option.map_some]
    have hmem : ⟨mail.uid, oid, mail.alt && S.alt.altPool⟩ ∈ ctx.items := by
      rw [hexp'] at huid
      rw [← hview] at hmail
      exact hi.mem_items.mpr ⟨mail, hmail, huid, hof⟩
    have hone := filter_uid_eq hi.items_nodup hmem
    rw [hlog', filter_commitLog]
    simp only [hconn, Bool.true_and]
    rw [hone]
    rfl
  case noRecord =>
    intro mail hmail hoid
    rw [hlog', filter_commitLog, List.map_eq_nil_iff]
    refine List.filter_eq_nil_iff.mpr fun item hmem huid => ?_
    obtain ⟨mail', hmail', _, hof⟩ := hitem item hmem
    obtain ⟨huid', hoid', _⟩ := itemOf_eq_some hof
    have huid := of_decide_eq_true (Bool.and_eq_true_iff.mp huid).2
    rw [← mail_of_uid hmail hmail' (huid.symm.trans huid'), hoid] at hoid'
    cases hoid'
  case retries =>
    intro item hmem
    obtain ⟨pre, post, hsplit⟩ := List.append_of_mem hmem
    rw [hlog'] at hsplit
    obtain ⟨_, _, hev⟩ := removal_of_commitLog hsplit (.inr rfl)
    rcases (mem_removalEvents hev).2 with h | h
    · cases h
    · exact h.2

/-- A finish that does not commit. -/
theorem rboxSyncFinish_idle
    (h : ¬ (success = true ∧ ctx.live = true ∧ e.commit = true)) :
    (rboxSyncFinish e success ctx w).2 =
      w.emit (if success then .commit false else .rollback) := by
  unfold rboxSyncFinish
  cases success with
  | false => cases ctx.live <;> rfl
  | true =>
      cases hl : ctx.live with
      | false => rfl
      | true =>
          cases hc : e.commit with
          | false => rfl
          | true => exact absurd ⟨rfl, hl, hc⟩ h

/-- One that does. -/
theorem rboxSyncFinish_commit (hl : ctx.live = true) (hc : e.commit = true) :
    rboxSyncFinish e true ctx w = (some 0, rboxSyncExpungeRboxObjects e ctx.items
      { w with expunged := w.expunged ++ ctx.expungedUids, log := w.log ++ [.commit true] }) := by
  unfold rboxSyncFinish
  rw [hl, hc]
  rfl

theorem expungesRemoved_finish_idle
    (h : ¬ (success = true ∧ ctx.live = true ∧ e.commit = true))
    (hlog : ∀ ev ∈ w.log, ev = .begun ∨ ev = .commit false ∨ ev = .rollback)
    (hexp : w.expunged = []) (hobjs : ObjsKept objs w.objs) :
    ExpungesRemoved S e success (some ctx) objs (rboxSyncFinish e success ctx w).2 := by
  rw [rboxSyncFinish_idle h]
  refine expungesRemoved_idle ?_ (fun ev hev => ?_) hexp hobjs
  · rintro ⟨hs, hc, ctx', hctx, hlive⟩
    obtain rfl := Option.some.inj hctx
    exact h ⟨hs, hlive, hc⟩
  rcases List.mem_append.mp hev with hev | hev
  · exact hlog ev hev
  · rw [List.mem_singleton.mp hev]
    cases success <;> simp

/-- **Expunges and removals.** For all sync records, whatever fails: `rbox_sync_begin` followed by
    `rbox_sync_finish` removes the objects of the mails whose expunge was committed, and no
    other. -/
theorem expunges_removed_after_commit (S : SyncSetup) (e : SyncEnv) (success : Bool)
    (objs : StoredMails) (ms : MailPool) :
    ExpungesRemoved S e success (rboxSyncBegin S e { objs := objs, ms := ms }).2.1 objs
      (syncBeginFinish e S success { objs := objs, ms := ms }).2 := by
  unfold syncBeginFinish
  have hout := @rboxSyncBegin_outcome S e { objs := objs, ms := ms }
  generalize rboxSyncBegin S e { objs := objs, ms := ms } = b at hout
  cases hout with
  | idle ret hret hnot =>
      exact expungesRemoved_idle (fun ⟨_, _, _, hnone, _⟩ => nomatch hnone) nofun rfl
        (ObjsKept.refl _)
  | failed w' hbegun hrebuild hsound hlog hexp hobjs =>
      refine expungesRemoved_idle (fun ⟨_, _, _, hnone, _⟩ => nomatch hnone) ?_ hexp hobjs
      rw [hlog]
      simp
  | dead ctx w' hbegun hbroken hlive hlog hexp hobjs =>
      refine expungesRemoved_finish_idle (fun h => ?_) ?_ hexp hobjs
      · exact absurd (hlive.symm.trans h.2.1) (by decide)
      · rw [hlog]
        simp
  | live ctx w' hbegun hsound hlive hlog hexp hobjs hview hinv hheader hreq =>
      by_cases hcommit : success = true ∧ ctx.live = true ∧ e.commit = true
      · obtain ⟨rfl, _, hc⟩ := hcommit
        dsimp only
        rw [rboxSyncFinish_commit hlive hc]
        refine expungesRemoved_commit hinv hlive hc hview hreq ?_ ?_ hobjs
        · rw [hlog]
          rfl
        · rw [hexp]
          rfl
      · refine expungesRemoved_finish_idle hcommit ?_ hexp hobjs
        rw [hlog]
        simp

/-- Three mails, the second without extension record, and two overlapping expunge records. -/
def overlappingExpunges : SyncEnv where
  view := ⟨[⟨⟨some "a", true⟩, 3⟩, ⟨⟨none, false⟩, 4⟩, ⟨⟨some "b", false⟩, 6⟩], by decide⟩
  header := some ⟨1, 7⟩
  recs := [⟨3, 4, .expunge, true, fun _ => {}, fun _ => {}⟩,
    ⟨1, 5, .expunge, true, fun _ => {}, fun _ => {}⟩]
  remove := fun _ _ => ⟨0, true⟩

example : (rboxSync overlappingExpunges ⟨⟨true, false⟩, false, false⟩
    { objs := fun _ _ => none, ms := .primary }).2.log =
      [.begun, .commit true, .remove ⟨3, "a", true⟩] := by decide

end Committed

end DovecotCeph
