/-
  File:      DovecotCeph/Storage/AssignUids.lean
  Subject:   The uids of saved mails (rbox-save.cpp, rbox-save.h): `rbox_save_assign_uids` pairs the
             list of objects with the uids Dovecot gave the appended mails, writes the attribute
             `U`, and raises the POP3 UIDL high-water mark.

  * `rboxSaveAssignUidsCalls`: the function with the calls it makes and its two assertions;
    `rboxSaveAssignUidsCalls_erase`: without them it is `rboxSaveAssignUids`;
  * `saveCalls_aligned`: the list of objects and the records of the index transaction stay aligned;
  * **`saved_uids_assigned`**: after any mails the uids go to the objects they belong to;
  * **`max_uid_set_iff`**: `highest_pop3_uidl_seq` has one bit, and the mark is never raised.
-/
import DovecotCeph.Storage.CephIndexRuns
import DovecotCeph.Storage.SaveMetadata

namespace DovecotCeph

/-! ## 1. The function with its calls -/

/-- What `rbox_save_assign_uids` calls: `set_metadata` with the attribute `U`, and
    `index_pop3_uidl_set_max_uid`. -/
inductive AssignCall where
  | setMetadata (oid : String) (uid : Nat)
  | setMaxUid (uid : Nat)
  deriving DecidableEq, Repr

/-- The object and the uid of a `set_metadata`. -/
def AssignCall.uidSet : AssignCall → Option (String × Nat)
  | setMetadata oid uid => some (oid, uid)
  | setMaxUid _ => none

def AssignCall.maxUid : AssignCall → Option Nat
  | setMetadata .. => none
  | setMaxUid uid => some uid

/-- A run of `rbox_save_assign_uids`: whether it returns 0, the transaction and the calls. -/
structure AssignRun where
  ok : Bool
  tx : SaveTx
  calls : List AssignCall

def AssignRun.after (calls : List AssignCall) (r : AssignRun) : AssignRun :=
  { r with calls := calls ++ r.calls }

/-- The loop of `rbox_save_assign_uids` and the assertion behind it, `none` where an assertion
    fails. `savedUids` are the uids the iterator goes through; `n` counts mails of different uids,
    so that it does not wrap. -/
def assignUidsLoop (e : CommitEnv) (highest : Fin 2) (savedUids : List Nat) :
    List String → Nat → SaveTx → Option AssignRun
  | [], n, tx => if savedUids[n]?.isSome then none else some ⟨true, tx, []⟩
  | oid :: oids, n, tx =>
    savedUids[n]?.bind fun uid =>
      -- `n++` comes before the comparison with `n + 1`
      let max := if highest.val = n + 1 + 1 then [AssignCall.setMaxUid uid] else []
      if e.uidAttribute then
        if e.issued n then
          (assignUidsLoop e highest savedUids oids (n + 1)
            (if e.lands n then tx.put .primary oid (·.setXattrs (uidXattr (toString uid)))
              else tx)).map (AssignRun.after (.setMetadata oid uid :: max))
        else some ⟨false, tx, [.setMetadata oid uid]⟩
      else (assignUidsLoop e highest savedUids oids (n + 1) tx).map (AssignRun.after max)

/-- `rbox_save_assign_uids`. -/
def rboxSaveAssignUidsCalls (e : CommitEnv) (highest : Fin 2) (savedUids : List Nat)
    (radosMails : List String) (tx : SaveTx) : Option AssignRun :=
  if 0 < radosMails.length then assignUidsLoop e highest savedUids radosMails 0 tx
  else some ⟨true, tx, []⟩

/-- `rbox_transaction_save_commit_pre`, with the calls of `rbox_save_assign_uids`. -/
def rboxTransactionSaveCommitPreCalls (S : SaveSetup) (e : CommitEnv) (highest : Fin 2)
    (savedUids : List Nat) (tx : SaveTx) : Option (Int × SaveTx × List AssignCall) :=
  tx.ctx.bind fun c =>
    if !c.finished then none
    else if !e.syncBegin then
      (rboxTransactionSaveRollback S e.cancel e.del
        { tx with ctx := some { c with failed := true } }).map fun tx => (-1, tx, [])
    else if !e.header then some (-1, tx, [])
    else
      (rboxSaveAssignUidsCalls e highest savedUids c.radosMails tx).bind fun r =>
        if r.ok then some (0, r.tx, r.calls)
        else (rboxTransactionSaveRollback S e.cancel e.del r.tx).map fun tx => (-1, tx, r.calls)

/-- The environment with these uids. -/
def CommitEnv.withUids (e : CommitEnv) (savedUids : List Nat) : CommitEnv :=
  { e with uids := fun n => toString (savedUids.getD n 0) }

section Erase

variable {S : SaveSetup} {e : CommitEnv} {highest : Fin 2} {savedUids : List Nat} {tx : SaveTx}

theorem assignUidsLoop_erase {oids : List String} {n : Nat} {r : AssignRun}
    (h : assignUidsLoop e highest savedUids oids n tx = some r) :
    rboxSaveAssignUids (e.withUids savedUids) oids n tx = (r.ok, r.tx) := by
  induction oids generalizing n tx r with
  | nil =>
      rw [assignUidsLoop] at h
      split at h
      · cases h
      · cases h
        rfl
  | cons oid oids ih =>
      obtain ⟨uid, huid, h⟩ := Option.bind_eq_some_iff.mp h
      have hget : (e.withUids savedUids).uids n = toString uid := by
        show toString (savedUids.getD n 0) = _
        rw [List.getD_eq_getElem?_getD, huid]
        rfl
      rw [rboxSaveAssignUids, hget]
      show (if e.uidAttribute then
        if e.issued n then rboxSaveAssignUids (e.withUids savedUids) oids (n + 1)
          (if e.lands n then tx.put .primary oid (·.setXattrs (uidXattr (toString uid))) else tx)
        else (false, tx)
        else rboxSaveAssignUids (e.withUids savedUids) oids (n + 1) tx) = _
      dsimp only at h
      split at h
      case isTrue hattr =>
        rw [if_pos hattr]
        split at h
        case isTrue hissued =>
          obtain ⟨r', hr', rfl⟩ := Option.map_eq_some_iff.mp h
          rw [if_pos hissued]
          have hrest := ih hr'
          exact hrest
        case isFalse hissued =>
          cases h
          rw [if_neg hissued]
      case isFalse hattr =>
        obtain ⟨r', hr', rfl⟩ := Option.map_eq_some_iff.mp h
        rw [if_neg hattr]
        have hrest := ih hr'
        exact hrest

theorem rboxSaveAssignUidsCalls_erase {oids : List String} {r : AssignRun}
    (h : rboxSaveAssignUidsCalls e highest savedUids oids tx = some r) :
    rboxSaveAssignUids (e.withUids savedUids) oids 0 tx = (r.ok, r.tx) := by
  unfold rboxSaveAssignUidsCalls at h
  split at h
  case isTrue => exact assignUidsLoop_erase h
  case isFalse hempty =>
    cases h
    have hnil : oids = [] := List.length_eq_zero_iff.mp (by omega)
    rw [hnil]
    rfl

/-- **Without the calls it is `rboxTransactionSaveCommitPre`**, where no assertion fails. -/
theorem commitPreCalls_erase {r : Int × SaveTx × List AssignCall}
    (h : rboxTransactionSaveCommitPreCalls S e highest savedUids tx = some r) :
    rboxTransactionSaveCommitPre S (e.withUids savedUids) tx = some (r.1, r.2.1) := by
  obtain ⟨c, hc, h⟩ := Option.bind_eq_some_iff.mp h
  show (tx.ctx.bind fun c =>
    if !c.finished then none
    else if !e.syncBegin then
      (rboxTransactionSaveRollback S e.cancel e.del
        { tx with ctx := some { c with failed := true } }).map fun tx => (-1, tx)
    else if !e.header then some (-1, tx)
    else if (rboxSaveAssignUids (e.withUids savedUids) c.radosMails 0 tx).1 then
      some (0, (rboxSaveAssignUids (e.withUids savedUids) c.radosMails 0 tx).2)
    else (rboxTransactionSaveRollback S e.cancel e.del
      (rboxSaveAssignUids (e.withUids savedUids) c.radosMails 0 tx).2).map fun tx => (-1, tx)) = _
  rw [hc, Option.bind_some]
  split at h
  case isTrue => cases h
  case isFalse hfin =>
    rw [if_neg hfin]
    split at h
    case isTrue hsync =>
      obtain ⟨tx', htx', rfl⟩ := Option.map_eq_some_iff.mp h
      rw [if_pos hsync, htx']
      rfl
    case isFalse hsync =>
      rw [if_neg hsync]
      split at h
      case isTrue hheader =>
        cases h
        rw [if_pos hheader]
      case isFalse hheader =>
        obtain ⟨run, hrun, h⟩ := Option.bind_eq_some_iff.mp h
        rw [if_neg hheader, rboxSaveAssignUidsCalls_erase hrun]
        split at h
        case isTrue hok =>
          cases h
          rw [if_pos hok]
        case isFalse hok =>
          obtain ⟨tx', htx', rfl⟩ := Option.map_eq_some_iff.mp h
          rw [if_neg hok, htx']
          rfl

end Erase

/-! ## 2. Objects and records -/

/-- The mails appended to the index transaction are, in order, the list of objects. -/
def Aligned (tx : SaveTx) : Prop := tx.records.map Prod.snd = tx.mails

section Aligned

variable {S : SaveSetup} {tx tx' : SaveTx}

/-- The end of a mail leaves the list of objects. -/
theorem rboxSaveFinish_mails {e : FinishEnv} {c : SaveCtx} {r : Int × SaveTx}
    (h : rboxSaveFinish S e c tx = some r) : r.2.mails = c.radosMails := by
  obtain ⟨_, _, _, hctx, _⟩ := rboxSaveFinish_spec h
  exact (SaveTx.mails_eq hctx).trans rfl

/-- What a call puts on the list of objects is what it adds to the index. -/
theorem saveCall_mails {a : SaveCall} {r : Int × SaveTx} (h : saveCall S tx a = some r) :
    r.2.mails = tx.mails ++ a.adds := by
  cases a with
  | alloc =>
      cases h
      obtain ⟨c, halloc, hmails, _⟩ := rboxSaveAlloc_spec tx
      show (rboxSaveAlloc tx).mails = tx.mails ++ []
      rw [halloc, List.append_nil]
      exact hmails
  | begin oid conn =>
      obtain ⟨c, hc, rfl⟩ := Option.map_eq_some_iff.mp h
      rw [SaveTx.mails_eq hc]
      cases conn with
      | false => exact (List.append_nil _).symm
      | true => rfl
  | «continue» sends ok =>
      obtain ⟨c, hc, h⟩ := Option.bind_eq_some_iff.mp h
      unfold rboxSaveContinue at h
      show _ = _ ++ []
      rw [List.append_nil]
      split at h
      case isTrue =>
        cases h
        rfl
      case isFalse =>
        split at h
        case h_1 =>
          cases h
          exact (SaveTx.mails_eq hc).symm
        case h_2 => cases h
  | finish e =>
      obtain ⟨c, hc, h⟩ := Option.bind_eq_some_iff.mp h
      rw [SaveTx.mails_eq hc, rboxSaveFinish_mails h]
      exact (List.append_nil _).symm
  | cancel e =>
      obtain ⟨c, hc, h⟩ := Option.bind_eq_some_iff.mp h
      rw [SaveTx.mails_eq hc, rboxSaveFinish_mails h]
      exact (List.append_nil _).symm
  | copy k =>
      obtain ⟨c, hc, rfl⟩ := Option.map_eq_some_iff.mp h
      obtain ⟨conn, ready, alt, oid, src, update, ok⟩ := k
      cases conn <;> cases ready <;> cases ok <;> cases src <;>
        simp [rboxMailStorageCopy, SaveCall.adds, CopyCall.succeeds, rboxAddToIndex, SaveTx.mails,
          hc]
  | copySaving conn =>
      obtain ⟨c, hc, rfl⟩ := Option.map_eq_some_iff.mp h
      rw [SaveTx.mails_eq hc]
      exact (List.append_nil _).symm

/-- **Every call keeps the alignment.** -/
theorem saveCall_aligned (hi : Aligned tx) {a : SaveCall} {r : Int × SaveTx}
    (h : saveCall S tx a = some r) : Aligned r.2 := by
  unfold Aligned at hi ⊢
  rw [saveCall_records h, saveCall_mails h, hi]

theorem saveCalls_aligned (hi : Aligned tx) {as : List SaveCall}
    (h : saveCalls S tx as = some tx') : Aligned tx' := by
  induction as generalizing tx with
  | nil =>
      cases h
      exact hi
  | cons a as ih =>
      obtain ⟨r, hr, h⟩ := Option.bind_eq_some_iff.mp h
      exact ih (saveCall_aligned hi hr) h

/-- The last call of a mail leaves it finished. -/
theorem last_finished {m : MailRun} {r : Int × SaveTx} (h : saveCall S tx m.last = some r)
    {c : SaveCtx} (hc : r.2.ctx = some c) : c.finished = true := by
  have hfinish : ∀ {e : FinishEnv} {c₀ : SaveCtx}, rboxSaveFinish S e c₀ tx = some r →
      c.finished = true := by
    intro e c₀ h
    obtain ⟨_, _, _, hctx, _⟩ := rboxSaveFinish_spec h
    rw [hctx] at hc
    cases hc
    rfl
  have hcopySaving : ∀ {conn : Bool}, saveCall S tx (.copySaving conn) = some r →
      c.finished = true := by
    intro conn h
    obtain ⟨c₀, _, rfl⟩ := Option.map_eq_some_iff.mp h
    cases hc
    rfl
  cases m with
  | saved m =>
      obtain ⟨c₀, _, h⟩ := Option.bind_eq_some_iff.mp h
      exact hfinish h
  | cancelled m =>
      obtain ⟨c₀, _, h⟩ := Option.bind_eq_some_iff.mp h
      exact hfinish h
  | copied k =>
      obtain ⟨c₀, _, rfl⟩ := Option.map_eq_some_iff.mp h
      unfold rboxMailStorageCopy at hc
      dsimp only at hc
      split at hc
      case isTrue =>
        cases hc
        rfl
      case isFalse =>
        split at hc
        case h_1 =>
          cases hc
          rfl
        case h_2 =>
          cases hc
          rfl
  | copyAborted conn e =>
      cases conn with
      | false => exact hcopySaving h
      | true =>
          obtain ⟨c₀, _, h⟩ := Option.bind_eq_some_iff.mp h
          exact hfinish h

/-- After any mails objects and records are aligned, and the last mail is finished. -/
theorem runMails_aligned {ms : List MailRun} {results : List (MailRun × Bool)} (hi : Aligned tx)
    (hfin : ∀ c, tx.ctx = some c → c.finished = true)
    (h : runMails S tx ms = some (tx', results)) :
    Aligned tx' ∧ ∀ c, tx'.ctx = some c → c.finished = true := by
  induction ms generalizing tx results with
  | nil =>
      cases h
      exact ⟨hi, hfin⟩
  | cons m ms ih =>
      obtain ⟨r, hr, h⟩ := Option.bind_eq_some_iff.mp h
      obtain ⟨q, hq, h⟩ := Option.map_eq_some_iff.mp h
      cases h
      obtain ⟨tx₁, hbefore, hr⟩ := Option.bind_eq_some_iff.mp hr
      obtain ⟨last, hlast, rfl⟩ := Option.map_eq_some_iff.mp hr
      exact ih (saveCall_aligned (saveCalls_aligned hi hbefore) hlast)
        (fun c hc => last_finished hlast hc) hq

end Aligned

/-! ## 3. The uids -/

section Assign

variable {S : SaveSetup} {e : CommitEnv} {highest : Fin 2} {tx : SaveTx}

/-- The loop from the mail after `done` on: with one uid for each mail the assertions hold, and if
    all operations are issued, the uids go to the objects in order. -/
theorem assignUidsLoop_zip {oids : List String} {done uids : List Nat}
    (hlen : uids.length = oids.length) (tx : SaveTx) :
    ∃ r, assignUidsLoop e highest (done ++ uids) oids done.length tx = some r ∧
      ((∀ n < (done ++ uids).length, e.issued n = true) → r.ok = true ∧
        r.calls.filterMap AssignCall.uidSet = if e.uidAttribute then oids.zip uids else []) := by
  induction oids generalizing done uids tx with
  | nil =>
      obtain rfl := List.length_eq_zero_iff.mp hlen
      refine ⟨⟨true, tx, []⟩, ?_, fun _ => ⟨rfl, ?_⟩⟩
      · rw [assignUidsLoop, List.append_nil, List.getElem?_eq_none (Nat.le_refl _)]
        rfl
      · cases e.uidAttribute <;> rfl
  | cons oid oids ih =>
      obtain ⟨uid, uids, rfl⟩ := List.exists_cons_of_length_eq_add_one hlen
      have hget : (done ++ uid :: uids)[done.length]? = some uid := by
        rw [List.getElem?_append_right (Nat.le_refl _), Nat.sub_self]
        rfl
      have hsplit : done ++ uid :: uids = (done ++ [uid]) ++ uids := by simp
      have hn : done.length + 1 = (done ++ [uid]).length := by simp
      have hrest := @ih (done ++ [uid]) uids (Nat.succ.inj hlen)
      have hmax : ∀ k, (if highest.val = k then [AssignCall.setMaxUid uid] else []).filterMap
          AssignCall.uidSet = [] := by
        intro k
        split <;> rfl
      rw [assignUidsLoop, hget, Option.bind_some]
      dsimp only
      cases hattr : e.uidAttribute with
      | false =>
          obtain ⟨r, hr, hcalls⟩ := hrest tx
          rw [if_neg Bool.false_ne_true, hsplit, hn, hr]
          refine ⟨_, rfl, fun hissued => ⟨(hcalls hissued).1, ?_⟩⟩
          have hzip := (hcalls hissued).2
          rw [hattr] at hzip
          show List.filterMap AssignCall.uidSet (_ ++ r.calls) = _
          rw [List.filterMap_append, hmax, hzip]
          rfl
      | true =>
          rw [if_pos rfl]
          cases hiss : e.issued done.length with
          | false =>
              refine ⟨_, rfl, fun hissued => ?_⟩
              rw [hissued done.length (by simp)] at hiss
              cases hiss
          | true =>
              obtain ⟨r, hr, hcalls⟩ := hrest (if e.lands done.length then
                tx.put .primary oid (·.setXattrs (uidXattr (toString uid))) else tx)
              rw [if_pos rfl, hsplit, hn, hr]
              refine ⟨_, rfl, fun hissued => ⟨(hcalls hissued).1, ?_⟩⟩
              have hzip := (hcalls hissued).2
              rw [hattr] at hzip
              show (oid, uid) :: List.filterMap AssignCall.uidSet (_ ++ r.calls) = _
              rw [List.filterMap_append, hmax, hzip]
              rfl

theorem rboxSaveAssignUidsCalls_zip {oids : List String} {uids : List Nat}
    (hlen : uids.length = oids.length) (tx : SaveTx) :
    ∃ r, rboxSaveAssignUidsCalls e highest uids oids tx = some r ∧
      ((∀ n < uids.length, e.issued n = true) → r.ok = true ∧
        r.calls.filterMap AssignCall.uidSet = if e.uidAttribute then oids.zip uids else []) := by
  unfold rboxSaveAssignUidsCalls
  by_cases hpos : 0 < oids.length
  · rw [if_pos hpos]
    exact @assignUidsLoop_zip e highest oids [] uids hlen tx
  · have hnil : oids = [] := List.length_eq_zero_iff.mp (by omega)
    rw [if_neg hpos, hnil]
    refine ⟨_, rfl, fun _ => ⟨rfl, ?_⟩⟩
    cases e.uidAttribute <;> rfl

/-- **The uids go to the right mails**: after any mails the records and the objects are aligned,
    no assertion of the commit fails, and if `U` is a configured attribute, the k-th mail appended
    gets the k-th uid. -/
theorem saved_uids_assigned (S : SaveSetup) (objs : MailObjs) (nextSeq : Nat) (index : List String)
    {ms : List MailRun} {results : List (MailRun × Bool)} {c : SaveCtx}
    (hrun : runMails S (SaveTx.start objs nextSeq index) ms = some (tx, results))
    (hctx : tx.ctx = some c) (e : CommitEnv) (highest : Fin 2) {savedUids : List Nat}
    (huids : savedUids.length = tx.records.length)
    (hissued : ∀ n < savedUids.length, e.issued n = true) :
    tx.records.map Prod.snd = c.radosMails ∧
      ∃ r, rboxTransactionSaveCommitPreCalls S e highest savedUids tx = some r ∧
        r.2.2.filterMap AssignCall.uidSet =
          if e.syncBegin && e.header && e.uidAttribute then c.radosMails.zip savedUids else [] := by
  have hstart : Aligned (SaveTx.start objs nextSeq index) := rfl
  have hnone : ∀ c, (SaveTx.start objs nextSeq index).ctx = some c → c.finished = true := nofun
  obtain ⟨haligned, hfin⟩ := runMails_aligned hstart hnone hrun
  have hmails : tx.records.map Prod.snd = c.radosMails := by
    unfold Aligned SaveTx.mails at haligned
    rwa [hctx] at haligned
  refine ⟨hmails, ?_⟩
  have hlen : savedUids.length = c.radosMails.length := by
    rw [huids, ← hmails, List.length_map]
  have hfinished : c.finished = true := hfin c hctx
  unfold rboxTransactionSaveCommitPreCalls
  rw [hctx, Option.bind_some, hfinished, if_neg (by decide)]
  cases e.syncBegin with
  | false =>
      -- the rollback finds the mail finished
      unfold rboxTransactionSaveRollback
      exact ⟨_, rfl, rfl⟩
  | true =>
      cases e.header with
      | false => exact ⟨_, rfl, rfl⟩
      | true =>
          obtain ⟨r, hr, hall⟩ :=
            @rboxSaveAssignUidsCalls_zip e highest c.radosMails savedUids hlen tx
          obtain ⟨hok, hcalls⟩ := hall hissued
          refine ⟨(0, r.tx, r.calls), ?_, hcalls⟩
          rw [hr, if_neg (by decide), if_neg (by decide), Option.bind_some, if_pos hok]

end Assign

/-- A copied mail and two saved ones, the second of which fails: each object gets its uid. -/
theorem failed_save_gets_uid :
    ∃ tx results c r,
      runMails plainSave (SaveTx.start (fun _ _ => none) 1 [])
        [.copied (oneByteCopy "a1"), .saved (twoByteMail "a2" fun _ => false),
          .saved (twoByteMail "a3" fun _ => true)] = some (tx, results) ∧
      tx.ctx = some c ∧
      rboxTransactionSaveCommitPreCalls plainSave { uids := toString } 0 [7, 8, 9] tx = some r ∧
      r.2.2.filterMap AssignCall.uidSet = [("a1", 7), ("a2", 8), ("a3", 9)] := by
  obtain ⟨_, r, hr, hcalls⟩ := @saved_uids_assigned _ plainSave (fun _ _ => none) 1 []
    [.copied (oneByteCopy "a1"), .saved (twoByteMail "a2" fun _ => false),
      .saved (twoByteMail "a3" fun _ => true)] _ _ rfl rfl { uids := toString } 0 [7, 8, 9] rfl
    (fun _ _ => rfl)
  exact ⟨_, _, _, r, rfl, rfl, hr, hcalls⟩

/-- If `U` is not among the mail attributes, no uid is written. -/
theorem no_uid_without_attribute :
    ∃ tx results c r,
      runMails plainSave (SaveTx.start (fun _ _ => none) 1 []) [.copied (oneByteCopy "a1")] =
        some (tx, results) ∧
      tx.ctx = some c ∧ tx.records.length = 1 ∧
      rboxTransactionSaveCommitPreCalls plainSave { uids := toString, uidAttribute := false } 0 [7]
        tx = some r ∧
      r.2.2.filterMap AssignCall.uidSet ≠ c.radosMails.zip [7] :=
  ⟨_, _, _, _, rfl, rfl, rfl, rfl, by decide⟩

/-! ## 4. The POP3 UIDL high-water mark -/

/-- A mail of the transaction: its object, the uid it gets, whether its save gets as far as
    `rbox_save_mail_set_metadata` (a copy does not), and what that reads. -/
structure Pop3Mail where
  oid : String
  uid : Nat
  written : Bool := true
  data : MailToSave

/-- A transaction on a mailbox of `messages` messages. -/
structure Pop3Save where
  mailAttributes : String
  messages : Nat
  mails : List Pop3Mail

/-- `I_MAX` of `highest_pop3_uidl_seq` and the sequence number, stored in the field of one bit. -/
def raisePop3Seq (seq : Nat) (highest : Fin 2) : Fin 2 := Fin.ofNat 2 (max highest.val seq)

/-- The part of `rbox_save_mail_set_metadata` that sets `highest_pop3_uidl_seq`. -/
def setPop3Seq (mailAttributes : String) (d : MailToSave) (seq : Nat) (highest : Fin 2) : Fin 2 :=
  let highest :=
    if isMailAttribute mailAttributes 'P' then
      if d.pop3Uidl.isSome then raisePop3Seq seq highest else highest
    else highest
  if isMailAttribute mailAttributes 'O' then
    if d.pop3Order ≠ 0 then raisePop3Seq seq highest else highest
  else highest

namespace Pop3Save

/-- `highest_pop3_uidl_seq` after the mails, the first of which is appended as `seq`. -/
def highestSeq (mailAttributes : String) : Nat → List Pop3Mail → Fin 2 → Fin 2
  | _, [], highest => highest
  | seq, m :: mails, highest =>
    highestSeq mailAttributes (seq + 1) mails
      (if m.written then setPop3Seq mailAttributes m.data seq highest else highest)

variable (s : Pop3Save)

/-- `rbox_save_assign_uids` at the end of the transaction. -/
def assignUids (e : CommitEnv) (tx : SaveTx) : Option AssignRun :=
  rboxSaveAssignUidsCalls e (highestSeq s.mailAttributes (s.messages + 1) s.mails 0)
    (s.mails.map Pop3Mail.uid) (s.mails.map Pop3Mail.oid) tx

/-- The object of the mail gets a UIDL or an order. -/
def carries (m : Pop3Mail) : Bool :=
  m.written && (isMailAttribute s.mailAttributes 'P' && m.data.pop3Uidl.isSome ||
    isMailAttribute s.mailAttributes 'O' && decide (m.data.pop3Order ≠ 0))

/-- The uid of the last mail that carries one. -/
def lastUid : Option Nat := (s.mails.filter s.carries).getLast?.map Pop3Mail.uid

end Pop3Save

section HighWater

variable {e : CommitEnv} {highest : Fin 2} {tx : SaveTx}

/-- A bit is never the number of a mail plus one: the mark is not raised. -/
theorem assignUidsLoop_maxUid {savedUids : List Nat} {oids : List String} {n : Nat} {r : AssignRun}
    (h : assignUidsLoop e highest savedUids oids n tx = some r) :
    r.calls.filterMap AssignCall.maxUid = [] := by
  induction oids generalizing n tx r with
  | nil =>
      rw [assignUidsLoop] at h
      split at h
      · cases h
      · cases h
        rfl
  | cons oid oids ih =>
      obtain ⟨uid, _, h⟩ := Option.bind_eq_some_iff.mp h
      have hne : ¬ highest.val = n + 1 + 1 := by omega
      dsimp only at h
      rw [if_neg hne] at h
      split at h
      case isTrue =>
        split at h
        case isTrue =>
          obtain ⟨r', hr', rfl⟩ := Option.map_eq_some_iff.mp h
          have hrest := ih hr'
          exact hrest
        case isFalse =>
          cases h
          rfl
      case isFalse =>
        obtain ⟨r', hr', rfl⟩ := Option.map_eq_some_iff.mp h
        have hrest := ih hr'
        exact hrest

theorem rboxSaveAssignUidsCalls_maxUid {savedUids : List Nat} {oids : List String} {r : AssignRun}
    (h : rboxSaveAssignUidsCalls e highest savedUids oids tx = some r) :
    r.calls.filterMap AssignCall.maxUid = [] := by
  unfold rboxSaveAssignUidsCalls at h
  split at h
  case isTrue => exact assignUidsLoop_maxUid h
  case isFalse =>
    cases h
    rfl

/-- No mail carries a UIDL or an order exactly if there is no last one. -/
theorem lastUid_none_iff (s : Pop3Save) :
    s.lastUid = none ↔ ∀ m ∈ s.mails, s.carries m = false := by
  unfold Pop3Save.lastUid
  rw [Option.map_eq_none_iff, List.getLast?_eq_none_iff, List.filter_eq_nil_iff]
  simp only [Bool.not_eq_true]

/-- **When the high-water mark is right**: only if no mail of the transaction carries a UIDL or an
    order. -/
theorem max_uid_set_iff (s : Pop3Save) (e : CommitEnv) (tx : SaveTx) :
    (∃ r, s.assignUids e tx = some r ∧
      r.calls.filterMap AssignCall.maxUid = s.lastUid.toList) ↔
      ∀ m ∈ s.mails, s.carries m = false := by
  have hlen : (s.mails.map Pop3Mail.uid).length = (s.mails.map Pop3Mail.oid).length := by
    rw [List.length_map, List.length_map]
  obtain ⟨r, hr, _⟩ := rboxSaveAssignUidsCalls_zip (e := e) hlen tx
  have hcalls := rboxSaveAssignUidsCalls_maxUid hr
  rw [← lastUid_none_iff, ← Option.toList_eq_nil_iff]
  constructor
  · intro h
    obtain ⟨r', hr', hlast⟩ := h
    obtain rfl := Option.some.inj (hr.symm.trans hr')
    rw [← hlast, hcalls]
  · intro hnone
    exact ⟨r, hr, hcalls.trans hnone.symm⟩

end HighWater

/-- A mail of an empty mailbox with the UIDL `x1`, and one without. -/
def uidlMails : Pop3Save where
  mailAttributes := "UMGPO"
  messages := 0
  mails := [⟨"a1", 1, true, { newMail 0 with pop3Uidl := some "x1" }⟩, ⟨"a2", 2, true, newMail 0⟩]

theorem uidl_not_marked :
    uidlMails.lastUid = some 1 ∧
      ¬ ∃ r, uidlMails.assignUids { uids := toString }
          (SaveTx.start (fun _ _ => none) 1 []) = some r ∧
        r.calls.filterMap AssignCall.maxUid = uidlMails.lastUid.toList := by
  refine ⟨by decide, fun h => ?_⟩
  obtain ⟨r, hr, hlast⟩ := h
  rw [rboxSaveAssignUidsCalls_maxUid hr] at hlast
  exact absurd hlast (by decide)

end DovecotCeph
