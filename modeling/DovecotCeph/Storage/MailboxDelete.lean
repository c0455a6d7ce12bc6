/-
  File:      DovecotCeph/Storage/MailboxDelete.lean
  Subject:   `check_users_mailbox_delete_ns_object` (rbox-storage.cpp): after a mailbox was deleted,
             count the user's mails and delete his namespace mapping object when none is left.

  The count `total_mails` starts anew in every namespace and is compared inside the loop, so one
  empty namespace is enough. **`mapping_deleted_only_when_empty_iff`** says on which users the
  object survives as long as there is mail.
-/
import DovecotCeph.Storage.MailUser
import Mathlib.Algebra.GroupWithZero.Nat

namespace DovecotCeph

/-- A mailbox as `mailbox_get_status(STATUS_MESSAGES)` answers for it; `none` is a failure. -/
structure StatusBox where
  selectable : Bool
  status : Option UInt32

/-- What a mailbox adds to `total_mails`: a failing status query counts one mail. The sum is a
    32 bit integer. -/
def StatusBox.count (b : StatusBox) : UInt32 :=
  if b.selectable then b.status.getD 1 else 0

/-- `total_mails` at the end of the inner loop. -/
def totalMails (bs : List StatusBox) : UInt32 := bs.foldl (fun t b => t + b.count) 0

/-- The RADOS outcomes of one round of the outer loop: reading the mapping, removing it. -/
structure DeleteEnv where
  rd : Nat → Outcome
  rm : Outcome

/-- One round of the outer loop for a namespace whose mailboxes add up to nothing. -/
def deleteNsObject (c : RadosDovecotCephCfg) (owner : String) (e : DeleteEnv) (st : NsStore) :
    Int × NsStore × List ObjName :=
  let uid := owner ++ c.json.userSuffix
  let l := lookupKey (some c) e.rd uid "" st.mgr
  let st := st.setMgr l.2.2
  let st := { st with s := st.s.setNamespace c.json.userNs }
  st.deleteMail uid e.rm

/-- The loop of `check_users_mailbox_delete_ns_object` over the namespaces; `env i` serves its
    `i`th round. A namespace without an owner has no user name to read: the process ends there. -/
def checkNamespaces (c : RadosDovecotCephCfg) (env : Nat → DeleteEnv) :
    Nat → List (MailNamespace StatusBox) → Int → NsStore → Int × NsStore × List ObjName
  | _, [], ret, st => (ret, st, [])
  | i, ns :: nss, ret, st =>
    let ret := if ns.iterDeinit < 0 then -1 else ret
    if totalMails ns.listed = 0 then
      match ns.owner with
      | none => (ret, st, [])
      | some owner =>
        let d := deleteNsObject c owner (env i) st
        let r := checkNamespaces c env (i + 1) nss d.1 d.2.1
        (r.1, r.2.1, d.2.2 ++ r.2.2)
    else checkNamespaces c env (i + 1) nss ret st

/-- `check_users_mailbox_delete_ns_object`: return code, store afterwards, and the objects whose
    removal was issued. -/
def checkUsersMailboxDeleteNsObject (c : RadosDovecotCephCfg) (env : Nat → DeleteEnv)
    (namespaces : List (MailNamespace StatusBox)) (st : NsStore) :
    Int × NsStore × List ObjName :=
  checkNamespaces c env 0 (findInbox namespaces) 0 st

/-! ## What is deleted -/

/-- The user's mails over all mailboxes of all his namespaces, a failed status query counting as
    one. -/
def userMails (namespaces : List (MailNamespace StatusBox)) : Nat :=
  (namespaces.map fun ns => (ns.boxes.map fun b => b.count.toNat).sum).sum

/-- A namespace the loop reaches in which the count comes out as zero. -/
def SomeNamespaceCountsZero (namespaces : List (MailNamespace StatusBox)) : Prop :=
  ∃ ns ∈ findInbox namespaces, totalMails ns.listed = 0

section Deleted

variable {c : RadosDovecotCephCfg} {env : Nat → DeleteEnv} {user : String}

/-- The manager's lookup leaves the cluster, the connection and the pool alone. -/
theorem lookupKey_frame (c : Option RadosDovecotCephCfg) (rd : Nat → Outcome) (uid value : String)
    (st : NsState) : (lookupKey c rd uid value st).2.2.w = st.w ∧
      (lookupKey c rd uid value st).2.2.io.pool = st.io.pool := by
  unfold lookupKey
  split
  · exact ⟨rfl, rfl⟩
  · split
    · exact ⟨rfl, rfl⟩
    · split
      · exact ⟨rfl, rfl⟩
      · split
        · exact ⟨rfl, rfl⟩
        · split
          · exact ⟨rfl, rfl⟩
          · dsimp only
            split <;> exact ⟨rfl, rfl⟩

/-- The round on an empty namespace issues the removal of the owner's mapping object, if the
    connection is open and the id is not empty, and keeps connection and pool. -/
theorem deleteNsObject_spec (c : RadosDovecotCephCfg) (owner : String) (e : DeleteEnv)
    (st : NsStore) :
    (deleteNsObject c owner e st).2.2 =
        (if !st.connected || owner ++ c.json.userSuffix = "" || !st.s.ioCtxCreated then []
          else [mappingName c st.s.io.pool (owner ++ c.json.userSuffix)]) ∧
      (deleteNsObject c owner e st).2.1.connected = st.connected ∧
      (deleteNsObject c owner e st).2.1.s.ioCtxCreated = st.s.ioCtxCreated ∧
      (deleteNsObject c owner e st).2.1.s.io.pool = st.s.io.pool := by
  have hf := (lookupKey_frame (some c) e.rd (owner ++ c.json.userSuffix) "" st.mgr).2
  unfold deleteNsObject NsStore.deleteMail NsStore.setMgr
  dsimp only [RadosStorage.setNamespace]
  by_cases h : (!st.connected || decide (owner ++ c.json.userSuffix = "") ||
      !st.s.ioCtxCreated) = true
  · rw [if_pos h, if_pos h]
    exact ⟨rfl, rfl, rfl, hf⟩
  · rw [if_neg h, if_neg h]
    refine ⟨?_, rfl, rfl, hf⟩
    show [_] = [_]
    rw [IoCtx.name, IoCtx.setNamespace_pool, hf]
    rfl

/-- **What the loop deletes**: nothing but the owner's mapping object, and that exactly if some
    namespace counts zero. -/
theorem checkNamespaces_deleted {nss : List (MailNamespace StatusBox)}
    (hown : ∀ ns ∈ nss, ns.owner = some user) (i : Nat) (ret : Int) (st : NsStore) :
    (∀ n ∈ (checkNamespaces c env i nss ret st).2.2,
        n = mappingName c st.s.io.pool (user ++ c.json.userSuffix)) ∧
      ((checkNamespaces c env i nss ret st).2.2 ≠ [] ↔
        (st.connected = true ∧ user ++ c.json.userSuffix ≠ "" ∧ st.s.ioCtxCreated = true) ∧
          ∃ ns ∈ nss, totalMails ns.listed = 0) := by
  induction nss generalizing i ret st with
  | nil => simp [checkNamespaces]
  | cons ns nss ih =>
      have hown' : ∀ m ∈ nss, m.owner = some user := fun m hm => hown m (List.mem_cons_of_mem _ hm)
      by_cases h0 : totalMails ns.listed = 0
      · obtain ⟨hd, hc, hcr, hp⟩ := deleteNsObject_spec c user (env i) st
        have hrest := ih hown' (i + 1) (deleteNsObject c user (env i) st).1
          (deleteNsObject c user (env i) st).2.1
        rw [hc, hcr, hp] at hrest
        simp only [checkNamespaces, h0, if_true, hown ns List.mem_cons_self]
        refine ⟨fun n hn => ?_, ?_⟩
        · rcases List.mem_append.mp hn with hn | hn
          · rw [hd] at hn
            split at hn
            · cases hn
            · exact List.mem_singleton.mp hn
          · exact hrest.1 n hn
        · have hex : ∃ m ∈ ns :: nss, totalMails m.listed = 0 := ⟨ns, List.mem_cons_self, h0⟩
          rw [hd]
          by_cases hg : st.connected = true ∧ user ++ c.json.userSuffix ≠ "" ∧
              st.s.ioCtxCreated = true
          · have hn : ¬ ((!st.connected || decide (user ++ c.json.userSuffix = "") ||
                !st.s.ioCtxCreated) = true) := by
              simp [hg.1, hg.2.1, hg.2.2]
            rw [if_neg hn]
            exact ⟨fun _ => ⟨hg, hex⟩, fun _ => by simp⟩
          · have hpos : (!st.connected || decide (user ++ c.json.userSuffix = "") ||
                !st.s.ioCtxCreated) = true := by
              by_contra hne
              apply hg
              simpa [and_assoc] using hne
            rw [if_pos hpos, List.nil_append]
            exact ⟨fun h => ⟨(hrest.2.mp h).1, hex⟩, fun h => absurd h.1 hg⟩
      · have hrest := ih hown' (i + 1) (if ns.iterDeinit < 0 then -1 else ret) st
        simp only [checkNamespaces, h0, if_false]
        refine ⟨hrest.1, hrest.2.trans (and_congr_right fun _ => ?_)⟩
        simp [h0]

/-- Without a namespace that counts zero the loop leaves the store alone. -/
theorem checkNamespaces_idle {nss : List (MailNamespace StatusBox)}
    (h : ∀ ns ∈ nss, totalMails ns.listed ≠ 0) (i : Nat) (ret : Int) (st : NsStore) :
    (checkNamespaces c env i nss ret st).2.1 = st := by
  induction nss generalizing i ret with
  | nil => rfl
  | cons ns nss ih =>
      have hne := h ns List.mem_cons_self
      simp only [checkNamespaces, hne, if_false]
      exact ih (fun m hm => h m (List.mem_cons_of_mem _ hm)) _ _

/-- **The mapping object is deleted only from a user without mail -- exactly if, on an open
    connection, no namespace from the inbox one on counts zero while the user has mail
    elsewhere.** -/
theorem mapping_deleted_only_when_empty_iff {namespaces : List (MailNamespace StatusBox)}
    (hown : ∀ ns ∈ namespaces, ns.owner = some user) (st : NsStore) :
    (mappingName c st.s.io.pool (user ++ c.json.userSuffix) ∈
        (checkUsersMailboxDeleteNsObject c env namespaces st).2.2 → userMails namespaces = 0) ↔
      (st.connected = true ∧ user ++ c.json.userSuffix ≠ "" ∧ st.s.ioCtxCreated = true →
        SomeNamespaceCountsZero namespaces → userMails namespaces = 0) := by
  obtain ⟨h1, h2⟩ := @checkNamespaces_deleted c env user (findInbox namespaces)
    (fun ns hns => hown ns (mem_of_findInbox hns)) 0 0 st
  have hiff : mappingName c st.s.io.pool (user ++ c.json.userSuffix) ∈
      (checkUsersMailboxDeleteNsObject c env namespaces st).2.2 ↔
        (st.connected = true ∧ user ++ c.json.userSuffix ≠ "" ∧ st.s.ioCtxCreated = true) ∧
          SomeNamespaceCountsZero namespaces := by
    constructor
    · intro hm
      exact h2.mp (List.ne_nil_of_mem hm)
    · intro hz
      obtain ⟨n, hn⟩ := List.exists_mem_of_ne_nil _ (h2.mpr hz)
      have := h1 n hn
      rw [← this]
      exact hn
  rw [hiff, and_imp]

end Deleted

/-- An open storage in a pool that holds the mapping of `alice_u`. -/
def aliceStore : NsStore :=
  ⟨fun n => if n = ⟨"mail_storage", "users", "alice_u"⟩ then some "0011" else none, true,
    ⟨⟨"mail_storage", "0011"⟩, true, "0011"⟩, fun _ => none⟩

/-- RADOS answers every call. -/
def calmDelete : Nat → DeleteEnv := fun _ => ⟨fun _ => .done, .done⟩

/-- The mapping of a user with mail in both of his namespaces stays. -/
theorem mapping_stays_with_mail_everywhere :
    userMails [⟨true, some "alice", [⟨true, some 5⟩], none⟩,
        ⟨false, some "alice", [⟨true, none⟩], none⟩] = 6 ∧
      mappingName mappedCfg "mail_storage" ("alice" ++ "_u") ∉
        (checkUsersMailboxDeleteNsObject mappedCfg calmDelete
          [⟨true, some "alice", [⟨true, some 5⟩], none⟩,
            ⟨false, some "alice", [⟨true, none⟩], none⟩] aliceStore).2.2 := by
  have h := (@mapping_deleted_only_when_empty_iff mappedCfg calmDelete "alice"
    [⟨true, some "alice", [⟨true, some 5⟩], none⟩, ⟨false, some "alice", [⟨true, none⟩], none⟩]
    (by simp) aliceStore).mpr
  refine ⟨by decide, fun hm => absurd (h (fun _ hz => ?_) hm) (by decide)⟩
  obtain ⟨ns, hns, h0⟩ := hz
  simp only [findInbox, List.dropWhile, Bool.not_true, List.mem_cons, List.not_mem_nil,
    or_false] at hns
  rcases hns with rfl | rfl
  · exact absurd h0 (by decide)
  · exact absurd h0 (by decide)

/-- Five mails in the inbox and an archive namespace whose only mailbox is empty: the round on
    the archive removes the mapping. -/
theorem mapping_deleted_with_mail_left :
    ¬ (mappingName mappedCfg "mail_storage" ("alice" ++ "_u") ∈
      (checkUsersMailboxDeleteNsObject mappedCfg calmDelete
        [⟨true, some "alice", [⟨true, some 5⟩], none⟩,
          ⟨false, some "alice", [⟨true, some 0⟩], none⟩] aliceStore).2.2 →
      userMails [⟨true, some "alice", [⟨true, some 5⟩], none⟩,
        ⟨false, some "alice", [⟨true, some 0⟩], none⟩] = 0) := by
  decide

end DovecotCeph
