/-
  File:      DovecotCeph/Storage/UidAttribute.lean
  Subject:   The attribute `U` of the mail objects and the uids of the index records, over saves,
             copies and the rebuilds of single mailboxes.

  A rebuild writes `U` mail by mail before its index transaction is committed, and nothing takes it
  back. The ima module writes it where it is not read.
  * `addedMails`, `entry_numbered`: the mails a rebuild adds, and their uids;
  * `rebuild_objects_shown`, `assign_objects_shown`: the objects of the two modules and those of
    the rebuild;
  * **`uids_track_iff`**: in which runs every object has the uid of its record.
-/
import DovecotCeph.Storage.MailIdentity
import DovecotCeph.Storage.RebuildPass

namespace DovecotCeph

open Lib

/-! ## 1. The mails a rebuild adds -/

section Added

variable {γ : Type} (E : RebuildEnv γ)

/-- The mails of the mailbox that are not restored yet. -/
def unrestoredMails (guid : String) (ms : List RadosMail) : List RadosMail :=
  ms.filter fun m => m.mailboxGuid = guid && !m.restored

/-- The uid of the mail can be read, and its guids can be converted. -/
def RadosMail.addable (m : RadosMail) : Bool := m.uidReadable && m.converts E

/-- Those `rbox_sync_rebuild_entry` adds: up to the first one that cannot be. -/
def addedMails (guid : String) (ms : List RadosMail) : List RadosMail :=
  (unrestoredMails guid ms).takeWhile (·.addable E)

/-- The mails with the uids they are given. -/
def numbered : Nat → List RadosMail → List (RadosMail × Nat)
  | _, [] => []
  | uid, m :: ms => (m, uid) :: numbered ((uid + 1) % 2 ^ 32) ms

/-- The record of a mail. -/
def IsRecordOf (e : RadosMail × Nat) (r : IndexRecord γ) : Prop :=
  E.guidFromString e.1.oid = some r.oid ∧ r.uid = e.2

variable {E} {p : Pass} {guid : String} {ms : List RadosMail} {uid : Nat} {objs : MailXattrs}
  {r : EntryResult γ}

theorem numbered_fst (uid : Nat) (ms : List RadosMail) : (numbered uid ms).map Prod.fst = ms := by
  induction ms generalizing uid with
  | nil => rfl
  | cons m ms ih => rw [numbered, List.map_cons, ih]

theorem unrestoredMails_skip {m : RadosMail} (h : m.mailboxGuid ≠ guid ∨ m.restored = true) :
    unrestoredMails guid (m :: ms) = unrestoredMails guid ms := by
  refine List.filter_cons_of_neg ?_
  simp only [Bool.and_eq_true, decide_eq_true_eq, Bool.not_eq_true', not_and]
  rcases h with hne | hres
  · exact fun heq => absurd heq hne
  · exact fun _ => by rw [hres]; exact fun hf => by cases hf

theorem unrestoredMails_cons {m : RadosMail}
    (h : ¬ (m.mailboxGuid ≠ guid ∨ m.restored = true)) :
    unrestoredMails guid (m :: ms) = m :: unrestoredMails guid ms := by
  obtain ⟨hguid, hres⟩ := not_or.mp h
  refine List.filter_cons_of_pos ?_
  simp only [Bool.and_eq_true, decide_eq_true_eq, Bool.not_eq_true']
  exact ⟨not_not.mp hguid, Bool.eq_false_iff.mpr hres⟩

/-- The rebuild of a mailbox ends where all its mails can be added. -/
theorem entry_some (h : (unrestoredMails guid ms).all (·.addable E) = true) :
    ∃ r, rboxSyncRebuildEntry E p guid ms uid objs = some r := by
  induction ms generalizing uid objs with
  | nil => exact ⟨_, rfl⟩
  | cons m ms ih =>
      rw [rboxSyncRebuildEntry]
      by_cases hskip : m.mailboxGuid ≠ guid ∨ m.restored = true
      · rw [unrestoredMails_skip hskip] at h
        obtain ⟨r, hr⟩ := @ih uid objs h
        rw [if_pos hskip, hr]
        exact ⟨_, rfl⟩
      · rw [unrestoredMails_cons hskip, List.all_cons, Bool.and_eq_true] at h
        obtain ⟨hm, hms⟩ := h
        obtain ⟨hu, hc⟩ := Bool.and_eq_true_iff.mp hm
        obtain ⟨record, _, _, _, hadd⟩ := @addObject_adds γ E p m objs hu hc uid
        obtain ⟨r, hr⟩ := @ih ((uid + 1) % 2 ^ 32)
          (if E.updates p m.oid then setXattr "U" (toString uid) m.oid objs else objs) hms
        rw [if_neg hskip, hadd, Option.bind_some]
        dsimp only
        rw [hr]
        exact ⟨_, rfl⟩

/-- **What `rbox_sync_rebuild_entry` does**, in terms of the mails it adds. -/
theorem entry_numbered (h : rboxSyncRebuildEntry E p guid ms uid objs = some r) :
    List.Forall₂ (IsRecordOf E) (numbered uid (addedMails E guid ms)) r.records ∧
      r.ok = (unrestoredMails guid ms).all (·.addable E) ∧
      r.mails.map (·.oid) = ms.map (·.oid) ∧
      r.objs = (numbered uid (addedMails E guid ms)).foldl (fun objs e =>
        if E.updates p e.1.oid then setXattr "U" (toString e.2) e.1.oid objs else objs) objs := by
  induction ms generalizing uid objs r with
  | nil =>
      cases h
      exact ⟨.nil, rfl, rfl, rfl⟩
  | cons m ms ih =>
      rw [rboxSyncRebuildEntry] at h
      by_cases hskip : m.mailboxGuid ≠ guid ∨ m.restored = true
      · rw [if_pos hskip] at h
        obtain ⟨r', hr', rfl⟩ := Option.map_eq_some_iff.mp h
        obtain ⟨hrec, hok, hoids, hobjs⟩ := ih hr'
        rw [addedMails, unrestoredMails_skip hskip]
        exact ⟨hrec, hok, by rw [List.map_cons, List.map_cons, hoids], hobjs⟩
      · rw [if_neg hskip] at h
        have hun := @unrestoredMails_cons guid ms m hskip
        cases hu : m.uidReadable with
        | false =>
            rw [addObject_unreadable hu, Option.bind_none] at h
            cases h
        | true =>
            cases hc : m.converts E with
            | false =>
                rw [addObject_fails hu hc, Option.bind_some] at h
                cases h
                have hno : m.addable E = false := by rw [RadosMail.addable, hu, hc]; rfl
                have hstop : ¬ m.addable E = true := by rw [hno]; exact Bool.false_ne_true
                rw [addedMails, hun, List.takeWhile_cons_of_neg hstop, List.all_cons, hno]
                exact ⟨.nil, rfl, rfl, rfl⟩
            | true =>
                obtain ⟨record, huid, hoid, _, hadd⟩ := @addObject_adds γ E p m objs hu hc uid
                rw [hadd, Option.bind_some] at h
                obtain ⟨r', hr', rfl⟩ := Option.map_eq_some_iff.mp h
                have hyes : m.addable E = true := by rw [RadosMail.addable, hu, hc]; rfl
                obtain ⟨hrec, hok, hoids, hobjs⟩ := ih hr'
                rw [addedMails, hun, List.takeWhile_cons_of_pos hyes, numbered, List.all_cons, hyes]
                refine ⟨.cons ⟨hoid, huid⟩ hrec, hok, ?_, hobjs⟩
                rw [List.map_cons, List.map_cons, hoids]

end Added

/-! ## 2. Mailboxes and objects -/

/-- A mail that is copied within the primary storage: the oids in the record of its source and in
    its own. -/
structure CopiedMail (γ : Type) where
  src : γ
  oid : γ
  guid : γ
  receivedDate : Int64
  boxName : String
  uid : UInt32

/-- The mailboxes of a user, his objects, the mails a rebuild has loaded, `corrupted_rebuild_count`,
    and the objects that are marked lost. -/
structure UidStore (γ : Type) where
  boxes : List (RebuildBox γ)
  objs : String → Option AttrObject
  mails : List RadosMail := []
  corrupted : Nat := 0
  lost : List String := []

/-- A mail is saved or copied to a mailbox and committed; of a transaction with several mails, one
    after the other. `start`, `load`, `rebuild` and `assign` are the parts of
    `rbox_storage_rebuild_in_context`: a call starts, loads the mails of the listing, rebuilds a
    mailbox, whose transaction is committed or not, and gives the unassigned mails to INBOX. -/
inductive UidOp (γ : Type) where
  | save (i : Nat) (a : SavedGuid γ)
  | copy (i : Nat) (a : CopiedMail γ)
  | start
  | load (mailList : List String)
  | rebuild (i : Nat) (force commits : Bool)
  | assign (guid : String)

namespace IdentitySetup

variable {γ : Type} (S : IdentitySetup γ)

/-- What is loaded of an object, a listing, and the attribute `U`. -/
def shownMail (o : AttrObject) : Xattrs := fun key => S.storage.shown S.json S.cfg o key

def shownMails (objs : String → Option AttrObject) : MailXattrs :=
  fun oid => (objs oid).map S.shownMail

def uidOf (objs : String → Option AttrObject) (oid : String) : Option String :=
  (S.shownMails objs).attr oid "U"

/-- All RADOS operations succeed. What `update_metadata` of the ima module writes is not loaded. -/
def rebuildEnv : RebuildEnv γ where
  guidFromString := S.guids.ofString
  guidFromUuidString := S.guids.ofUuidString
  updates := fun _ _ => S.storage = .default

/-- The store as a rebuild finds it. -/
def store (u : UidStore γ) (mailList : List String) : RebuildStore where
  objs := S.shownMails u.objs
  oids := mailList
  cephIndex := []
  corrupted := u.corrupted
  mails := u.mails

/-- The uid of a mail at commit, if it is configured. -/
def withUid (mail : MailAttrs) (uid : UInt32) (o : AttrObject) : AttrObject :=
  if isMailAttribute S.mailAttributes 'U' then S.writeUid mail uid o else o

/-- The object of a mail that is saved to a mailbox. -/
def savedObject (b : RebuildBox γ) (a : SavedGuid γ) : AttrObject :=
  let mail := S.savedMetadataOf { a with mail := { a.mail with mailboxGuid := b.info.guid } }
  S.withUid mail a.uid (S.storage.save S.json S.cfg mail .new)

/-- That of a mail that is copied, from an object. -/
def copyOf (b : RebuildBox γ) (a : CopiedMail γ) (o : AttrObject) : AttrObject :=
  S.withUid .new a.uid (S.copiedObject ⟨b.info.guid, a.receivedDate, a.boxName⟩ o)

/-- The index after a commit with one mail. -/
def appended (b : RebuildBox γ) (uid : UInt32) (oid guid : γ) : RebuildBox γ :=
  { b with index := { b.index with
      records := b.index.records ++ [⟨uid.toNat, oid, guid⟩]
      nextUid := (uid.toNat + 1) % 2 ^ 32 } }

/-- A mail is added to a mailbox, with its object. -/
def commit (i : Nat) (b : RebuildBox γ) (uid : UInt32) (oid guid : γ) (o : AttrObject)
    (u : UidStore γ) : UidStore γ :=
  { u with
    boxes := u.boxes.set i (appended b uid oid guid)
    objs := Function.update u.objs (S.guids.toString oid) (some o) }

def saveTo (i : Nat) (a : SavedGuid γ) (u : UidStore γ) : UidStore γ :=
  match u.boxes[i]? with
  | none => u
  | some b => S.commit i b a.uid a.oid (S.guids.setupMailObject a.dataGuid a.generated).1
      (S.savedObject b a) u

def copyTo (i : Nat) (a : CopiedMail γ) (u : UidStore γ) : UidStore γ :=
  match u.boxes[i]?, u.objs (S.guids.toString a.src) with
  | some b, some o => S.commit i b a.uid a.oid a.guid (S.copyOf b a o) u
  | _, _ => u

/-- `update_metadata` with the uid of a mail that is added. -/
def updateUid (objs : String → Option AttrObject) (e : RadosMail × Nat) :
    String → Option AttrObject :=
  Function.update objs e.1.oid (some (S.storage.update S.json S.cfg
    [("U", toString e.2 ++ "\x00")] ((objs e.1.oid).getD .new)))

/-- The mails that are added when a mailbox is rebuilt, with their uids. -/
def added (force : Bool) (u : UidStore γ) (b : RebuildBox γ) : List (RadosMail × Nat) :=
  if alreadyRebuilt force u.corrupted b then []
  else numbered b.index.firstUid (addedMails S.rebuildEnv b.info.guid u.mails)

/-- The new records are committed. -/
def Succeeds (force commits : Bool) (u : UidStore γ) (b : RebuildBox γ) : Prop :=
  alreadyRebuilt force u.corrupted b = false ∧ commits = true ∧
    (unrestoredMails b.info.guid u.mails).all (·.addable S.rebuildEnv) = true

instance (force commits : Bool) (u : UidStore γ) (b : RebuildBox γ) :
    Decidable (S.Succeeds force commits u b) := inferInstanceAs (Decidable (_ ∧ _ ∧ _))

/-- The marks: the default module gives the added mails their uids. -/
def lostAfter (force : Bool) (u : UidStore γ) (b : RebuildBox γ) : List String :=
  if S.storage = .default then u.lost.filter (· ∉ (S.added force u b).map (·.1.oid)) else u.lost

/-- `rbox_sync_index_rebuild`, where the commit succeeds or not. -/
def indexRebuild (force commits : Bool) (u : UidStore γ) (b : RebuildBox γ) :
    Option (RebuildBox γ × RebuildStore) :=
  rboxSyncIndexRebuild S.rebuildEnv .first force
    { b with info := { b.info with commits := fun _ => commits } } (S.store u [])

/-- One mailbox is rebuilt. Where `std::stoi` throws, the process is gone, with what it had
    loaded. -/
def rebuildBox (i : Nat) (force commits : Bool) (u : UidStore γ) : UidStore γ :=
  match u.boxes[i]? with
  | none => u
  | some b =>
    let objs := (S.added force u b).foldl S.updateUid u.objs
    let lost := S.lostAfter force u b
    match S.indexRebuild force commits u b with
    | none => { u with objs := objs, lost := lost, mails := [], corrupted := 0 }
    | some v =>
      { boxes := u.boxes.set i { v.1 with info := b.info }
        objs := objs
        mails := v.2.mails
        corrupted := v.2.corrupted
        lost := lost }

/-- The unassigned mails, for INBOX. -/
def assignMail (guid : String) (objs : String → Option AttrObject) (m : RadosMail) :
    String → Option AttrObject :=
  if m.restored then objs
  else Function.update objs m.oid (some ((((objs m.oid).getD .new).setxattr
    "U" (toString intMax ++ "\x00")).setxattr "M" (guid ++ "\x00")))

/-- **One operation.** -/
def uidStep (u : UidStore γ) : UidOp γ → UidStore γ
  | .save i a => S.saveTo i a u
  | .copy i a => S.copyTo i a u
  | .start => { u with mails := [] }
  | .load mailList => { u with mails := (loadMails S.rebuildEnv .first (S.store u mailList)).mails }
  | .rebuild i force commits => S.rebuildBox i force commits u
  | .assign guid =>
    { u with
      objs := u.mails.foldl (assignMail guid) u.objs
      lost := u.lost ++ (u.mails.filter fun m => !m.restored).map (·.oid) }

/-- The object has the uid of the record, or `INT32_MAX` where it is marked lost. -/
def Tracked (u : UidStore γ) (r : IndexRecord γ) : Prop :=
  S.uidOf u.objs (S.guids.toString r.oid) = some (toString r.uid) ∨
    S.uidOf u.objs (S.guids.toString r.oid) = some (toString intMax) ∧
      S.guids.toString r.oid ∈ u.lost

/-- **The attribute tracks the index.** -/
def UidsTrack (u : UidStore γ) : Prop := ∀ b ∈ u.boxes, ∀ r ∈ b.index.records, S.Tracked u r

instance (u : UidStore γ) (r : IndexRecord γ) : Decidable (S.Tracked u r) :=
  inferInstanceAs (Decidable (_ ∨ _))

instance (u : UidStore γ) : Decidable (S.UidsTrack u) :=
  inferInstanceAs (Decidable (∀ b ∈ u.boxes, ∀ r ∈ b.index.records, S.Tracked u r))

/-- `guid_128_generate`. -/
def NewOid (u : UidStore γ) : UidOp γ → Prop
  | .save _ a => u.objs (S.guids.toString a.oid) = none
  | .copy _ a => u.objs (S.guids.toString a.oid) = none
  | _ => True

/-- **The condition on an operation**: `U` is configured, and where the document takes it, no
    attribute of the source hides it; a mail that is added in a rebuild keeps the uid of each record
    that stays, and under the ima module the one it is given. -/
def UidOk (u : UidStore γ) : UidOp γ → Prop
  | .save i _ => ∀ b, u.boxes[i]? = some b → isMailAttribute S.mailAttributes 'U' = true
  | .copy i a => ∀ b o, u.boxes[i]? = some b → u.objs (S.guids.toString a.src) = some o →
      (isMailAttribute S.mailAttributes 'U' = false →
        S.uidOf u.objs (S.guids.toString a.src) = some (toString a.uid.toNat)) ∧
      (S.UidInDocument → ∀ v, o.xattrs.lookup "U" = some v → cStr v = toString a.uid.toNat)
  | .rebuild i force commits => ∀ b, u.boxes[i]? = some b → ∀ e ∈ S.added force u b,
      match S.storage with
      | .default => ∀ j b' r, u.boxes[j]? = some b' → r ∈ b'.index.records →
          S.guids.toString r.oid = e.1.oid →
            (j = i ∧ S.Succeeds force commits u b) ∨ r.uid = e.2
      | .ima => S.Succeeds force commits u b →
          S.uidOf u.objs e.1.oid = some (toString e.2) ∨
            S.uidOf u.objs e.1.oid = some (toString intMax) ∧ e.1.oid ∈ u.lost
  | _ => True

/-- The objects show what the rebuild has, but for the attribute of the document. -/
def ShowSame (objs : String → Option AttrObject) (x : MailXattrs) : Prop :=
  ∀ oid key, key ≠ S.cfg.metadataStorageAttribute →
    (S.shownMails objs).attr oid key = x.attr oid key

end IdentitySetup

/-! ## 3. Objects of the two modules -/

section Objects

variable {γ : Type} {S : IdentitySetup γ} {objs : String → Option AttrObject} {x : MailXattrs}
  {oid key : String} {o : AttrObject} {uid : UInt32}

theorem cStr_uid (n : Nat) : cStr (toString n ++ "\x00") = toString n := by
  rw [cStr_append_nul, cStr_toString_nat]

theorem shownMails_attr (oid key : String) : (S.shownMails objs).attr oid key =
    (objs oid).bind fun o => S.storage.shown S.json S.cfg o key := by
  unfold MailXattrs.attr IdentitySetup.shownMails
  cases objs oid <;> rfl

theorem shownMails_update (oid' : String) :
    (S.shownMails (Function.update objs oid' (some o))).attr oid key =
      if oid = oid' then S.storage.shown S.json S.cfg o key
      else (S.shownMails objs).attr oid key := by
  rw [shownMails_attr, shownMails_attr]
  by_cases h : oid = oid'
  · rw [if_pos h, h, Function.update_self, Option.bind_some]
  · rw [if_neg h, Function.update_of_ne h]

theorem shown_new (hkey : key ≠ S.cfg.metadataStorageAttribute) :
    S.storage.shown S.json S.cfg .new key = none := by
  cases S.storage with
  | default => rfl
  | ima =>
      rw [shown_ima, if_neg hkey]
      unfold RadosMetadataStorageIma.blobText
      split <;> rfl

/-- What is shown of an object, which may have to be created. -/
theorem shown_getD (hkey : key ≠ S.cfg.metadataStorageAttribute) :
    S.storage.shown S.json S.cfg ((objs oid).getD .new) key =
      (S.shownMails objs).attr oid key := by
  rw [shownMails_attr]
  cases objs oid with
  | none => exact shown_new hkey
  | some o => rfl

/-- **`update_metadata` with a uid, as it is loaded**: only the default module changes anything. -/
theorem showSame_updateUid (h : S.ShowSame objs x) (e : RadosMail × Nat) :
    S.ShowSame (S.updateUid objs e) (if S.rebuildEnv.updates .first e.1.oid then
      setXattr "U" (toString e.2) e.1.oid x else x) := by
  intro oid key hkey
  unfold IdentitySetup.updateUid
  rw [shownMails_update]
  have hold := @shown_getD γ S objs e.1.oid key hkey
  cases hS : S.storage with
  | default =>
      have hupd : S.rebuildEnv.updates .first e.1.oid = true := by
        simp [IdentitySetup.rebuildEnv, hS]
      rw [if_pos hupd, attr_setXattr, ← h oid key hkey]
      by_cases hoid : oid = e.1.oid
      · rw [if_pos hoid]
        refine (shown_setxattr (uidKey_ne S) key).trans ?_
        rw [cStr_uid]
        by_cases hU : key = "U"
        · rw [if_pos hU, if_pos ⟨hoid, hU⟩]
        · rw [if_neg hU, if_neg fun h => hU h.2, hoid, ← hold, hS]
      · rw [if_neg hoid, if_neg fun h => hoid h.1]
  | ima =>
      have hupd : S.rebuildEnv.updates .first e.1.oid = false := by
        simp [IdentitySetup.rebuildEnv, hS]
      rw [hupd, if_neg Bool.false_ne_true, ← h oid key hkey]
      by_cases hoid : oid = e.1.oid
      · rw [if_pos hoid, hoid, ← hold, hS]
        exact update_shown S.lawful _ hkey
      · rw [if_neg hoid]

theorem showSame_updateUids (h : S.ShowSame objs x) (es : List (RadosMail × Nat)) :
    S.ShowSame (es.foldl S.updateUid objs) (es.foldl (fun x e =>
      if S.rebuildEnv.updates .first e.1.oid then setXattr "U" (toString e.2) e.1.oid x
      else x) x) := by
  induction es generalizing objs x with
  | nil => exact h
  | cons e es ih => exact ih (showSame_updateUid h e)

/-- **The objects after a mailbox has been rebuilt show what the rebuild has.** -/
theorem rebuild_objects_shown {u : UidStore γ} {b : RebuildBox γ} {force commits : Bool}
    {v : RebuildBox γ × RebuildStore} (h : S.indexRebuild force commits u b = some v) :
    S.ShowSame ((S.added force u b).foldl S.updateUid u.objs) v.2.objs := by
  have hsame : S.ShowSame u.objs (S.shownMails u.objs) := fun _ _ _ => rfl
  unfold IdentitySetup.indexRebuild rboxSyncIndexRebuild at h
  unfold IdentitySetup.added
  split at h
  case isTrue halready =>
    cases h
    have hnone : alreadyRebuilt force u.corrupted b = true := halready
    rw [if_pos hnone]
    exact hsame
  case isFalse halready =>
    obtain ⟨r, hr, rfl⟩ := Option.map_eq_some_iff.mp h
    obtain ⟨_, _, _, hobjs⟩ := entry_numbered hr
    have hrebuild : ¬ alreadyRebuilt force u.corrupted b = true := halready
    rw [if_neg hrebuild]
    show S.ShowSame _ r.objs
    rw [hobjs]
    exact showSame_updateUids hsame _

/-- **So do those of the mails that are given to INBOX.** -/
theorem assign_objects_shown (h : S.ShowSame objs x) {guid : String}
    (hguid : '\x00' ∉ guid.toList) (ms : List RadosMail) :
    S.ShowSame (ms.foldl (IdentitySetup.assignMail guid) objs)
      (reassign S.rebuildEnv .first guid ms x).2 := by
  induction ms generalizing objs x with
  | nil => exact h
  | cons m ms ih =>
      rw [List.foldl_cons, IdentitySetup.assignMail, reassign]
      cases hres : m.restored with
      | true => exact ih h
      | false =>
          refine ih fun oid key hkey => ?_
          rw [if_neg Bool.false_ne_true, shownMails_update, attr_setXattr, attr_setXattr,
            ← h oid key hkey]
          by_cases hoid : oid = m.oid
          · have hM : "M" ≠ S.cfg.metadataStorageAttribute := S.ownAttribute 'M'
            rw [if_pos hoid, shown_setxattr hM, shown_setxattr (uidKey_ne S), shown_getD hkey,
              cStr_append_nul, cStr_of_noNul hguid, cStr_uid, hoid]
            simp only [true_and]
          · rw [if_neg hoid, if_neg fun h => hoid h.1, if_neg fun h => hoid h.1]

end Objects

/-! ## 4. The attribute `U` -/

section Uid

variable {γ : Type} {S : IdentitySetup γ} {objs : String → Option AttrObject} {oid : String}
  {o : AttrObject} {mail : MailAttrs} {uid : UInt32}

theorem uidOf_update (oid' : String) :
    S.uidOf (Function.update objs oid' (some o)) oid =
      if oid = oid' then S.storage.shown S.json S.cfg o "U" else S.uidOf objs oid :=
  shownMails_update oid'

/-- **Rebuilding, under the default module**: each mail that is added has its uid. -/
theorem updateUids_default (hS : S.storage = .default) {es : List (RadosMail × Nat)}
    (hnodup : (es.map (·.1.oid)).Nodup) :
    (∀ e ∈ es, S.uidOf (es.foldl S.updateUid objs) e.1.oid = some (toString e.2)) ∧
      ∀ oid, oid ∉ es.map (·.1.oid) →
        S.uidOf (es.foldl S.updateUid objs) oid = S.uidOf objs oid := by
  induction es generalizing objs with
  | nil => exact ⟨nofun, fun _ _ => rfl⟩
  | cons e es ih =>
      rw [List.map_cons, List.nodup_cons] at hnodup
      obtain ⟨hin, hout⟩ := @ih (S.updateUid objs e) hnodup.2
      have hself : S.uidOf (S.updateUid objs e) e.1.oid = some (toString e.2) := by
        unfold IdentitySetup.updateUid
        rw [uidOf_update, if_pos rfl, hS]
        exact ((shown_setxattr (uidKey_ne S) "U").trans (if_pos rfl)).trans
          (congrArg some (cStr_uid e.2))
      refine ⟨fun e' he' => ?_, fun oid hoid => ?_⟩
      · rcases List.mem_cons.mp he' with rfl | he'
        · exact (hout e'.1.oid hnodup.1).trans hself
        · exact hin e' he'
      · rw [List.map_cons, List.mem_cons, not_or] at hoid
        refine (hout oid hoid.2).trans ?_
        unfold IdentitySetup.updateUid
        rw [uidOf_update, if_neg hoid.1]

/-- Under the ima module no uid changes. -/
theorem updateUids_ima (hS : S.storage = .ima) (es : List (RadosMail × Nat)) :
    S.uidOf (es.foldl S.updateUid objs) oid = S.uidOf objs oid := by
  have hsame : S.ShowSame objs (S.shownMails objs) := fun _ _ _ => rfl
  have hfold : ∀ (es : List (RadosMail × Nat)) (x : MailXattrs), es.foldl (fun x e =>
      if S.rebuildEnv.updates .first e.1.oid then setXattr "U" (toString e.2) e.1.oid x else x) x =
        x := by
    intro es
    have hno : ∀ oid, S.rebuildEnv.updates .first oid = false := by
      simp [IdentitySetup.rebuildEnv, hS]
    induction es with
    | nil => exact fun _ => rfl
    | cons e es ih =>
        intro x
        rw [List.foldl_cons, hno, if_neg Bool.false_ne_true]
        exact ih x
  have hall := showSame_updateUids hsame es oid "U" (uidKey_ne S)
  rw [hfold] at hall
  exact hall

/-- The uid when it is set: under the ima module it may be in the document, where an attribute
    hides it. -/
theorem writeUid_uid :
    S.storage.shown S.json S.cfg (S.writeUid mail uid o) "U" =
      if S.storage = .ima ∧ S.cfg.isUpdateableAttribute "U" = false then
        ((o.xattrs.lookup "U").map cStr).or (some (toString uid.toNat))
      else some (toString uid.toNat) := by
  by_cases hdoc : S.storage = .ima ∧ S.cfg.isUpdateableAttribute "U" = false
  · rw [if_pos hdoc]
    have hset : S.writeUid mail uid o = RadosMetadataStorageIma.saveMetadata S.json S.cfg
        (mail.addMetadata "U" (toString uid.toNat ++ "\x00")) o := writeUid_save hdoc.1 hdoc.2
    have hlookup : (mail.addMetadata "U" (toString uid.toNat ++ "\x00")).metadata.lookup "U" =
        some (toString uid.toNat ++ "\x00") := AList.lookup_insert _
    have hblob : S.cfg.inBlob "U" = true := inBlob_of_not_updateable hdoc.2
    rw [hset, hdoc.1, shown_rewrite S.lawful (uidKey_ne S), if_pos hblob,
      if_neg (by decide : ¬ "U" = "K"), hlookup]
    cases o.xattrs.lookup "U" with
    | none => exact congrArg some (cStr_uid _)
    | some v => rfl
  · rw [if_neg hdoc, writeUid_setxattr hdoc, shown_setxattr (uidKey_ne S), if_pos rfl, cStr_uid]

/-- The object of a mail that is saved. -/
theorem savedObject_uid (b : RebuildBox γ) (a : SavedGuid γ) :
    S.storage.shown S.json S.cfg (S.savedObject b a) "U" =
      if isMailAttribute S.mailAttributes 'U' then some (toString a.uid.toNat) else none := by
  obtain ⟨mail, hsaved, hmail⟩ : ∃ mail : MailAttrs, S.savedObject b a =
      S.withUid mail a.uid (S.storage.save S.json S.cfg mail .new) ∧
        mail.metadata.lookup "U" = none := by
    refine ⟨_, rfl, ?_⟩
    rw [IdentitySetup.savedMetadataOf, savedAttrs_lookup, if_neg (by decide)]
  rw [hsaved, IdentitySetup.withUid]
  split
  case isTrue =>
    rw [writeUid_uid]
    split
    case isFalse => rfl
    case isTrue hdoc =>
      have hblob : S.cfg.inBlob "U" = true := inBlob_of_not_updateable hdoc.2
      have hxattr : (S.storage.save S.json S.cfg mail .new).xattrs.lookup "U" = none := by
        rw [hdoc.1]
        refine (RadosMetadataStorageIma.save_xattrs (uidKey_ne S)).trans ?_
        rw [if_pos hblob]
        rfl
      rw [hxattr]
      rfl
  case isFalse =>
    cases S.storage with
    | default =>
        have hxattr : (RadosMetadataStorageDefault.saveMetadata mail .new).xattrs.lookup "U" =
            none := by
          rw [RadosMetadataStorageDefault.saveMetadata_xattrs, hmail]
          rfl
        exact congrArg (Option.map cStr) hxattr
    | ima =>
        refine (shown_rewrite S.lawful (uidKey_ne S)).trans ?_
        rw [hmail]
        split <;> rfl

/-- That of a mail that is copied. -/
theorem copyOf_uid (b : RebuildBox γ) (a : CopiedMail γ) (o : AttrObject) :
    S.storage.shown S.json S.cfg (S.copyOf b a o) "U" =
      if isMailAttribute S.mailAttributes 'U' = false then S.storage.shown S.json S.cfg o "U"
      else if S.UidInDocument then
        ((o.xattrs.lookup "U").map cStr).or (some (toString a.uid.toNat))
      else some (toString a.uid.toNat) := by
  obtain ⟨hshown, hxattr⟩ := @copiedObject_other γ S ⟨b.info.guid, a.receivedDate, a.boxName⟩ o "U"
    (by decide)
  unfold IdentitySetup.copyOf IdentitySetup.withUid
  cases hU : isMailAttribute S.mailAttributes 'U' with
  | false =>
      rw [if_neg Bool.false_ne_true, if_pos rfl]
      exact hshown
  | true =>
      have hdoc : (S.storage = .ima ∧ S.cfg.isUpdateableAttribute "U" = false) ↔
          S.UidInDocument := ⟨fun h => ⟨h.1, hU, h.2⟩, fun h => ⟨h.1, h.2.2⟩⟩
      rw [if_pos rfl, if_neg Bool.true_eq_false_eq_False, writeUid_uid, hxattr]
      simp only [hdoc]

end Uid

/-! ## 5. One mailbox is rebuilt -/

section Rebuilt

variable {γ : Type} {S : IdentitySetup γ} {u : UidStore γ} {i : Nat} {b : RebuildBox γ}
  {force commits : Bool}

theorem added_sublist :
    ((S.added force u b).map (·.1.oid)).Sublist (u.mails.map (·.oid)) := by
  unfold IdentitySetup.added
  split
  · exact List.nil_sublist _
  · have hmap : (numbered b.index.firstUid (addedMails S.rebuildEnv b.info.guid u.mails)).map
        (·.1.oid) = (addedMails S.rebuildEnv b.info.guid u.mails).map (·.oid) := by
      rw [← numbered_fst b.index.firstUid (addedMails S.rebuildEnv b.info.guid u.mails),
        List.map_map, numbered_fst]
      rfl
    rw [hmap]
    exact ((List.takeWhile_sublist _).trans List.filter_sublist).map _

/-- An exception leaves no new records. -/
theorem not_succeeds_of_none (h : S.indexRebuild force commits u b = none) :
    ¬ S.Succeeds force commits u b := by
  intro hsucc
  obtain ⟨_, _, hall⟩ := hsucc
  unfold IdentitySetup.indexRebuild rboxSyncIndexRebuild at h
  split at h
  case isTrue => cases h
  case isFalse =>
    obtain ⟨r, hr⟩ := @entry_some γ S.rebuildEnv .first b.info.guid u.mails b.index.firstUid
      (S.shownMails u.objs) hall
    have hentry := Option.map_eq_none_iff.mp h
    exact absurd (hr.symm.trans hentry) (Option.some_ne_none r)

/-- **The records after a rebuild**, and the mails it leaves. -/
theorem indexRebuild_spec {v : RebuildBox γ × RebuildStore}
    (h : S.indexRebuild force commits u b = some v) :
    v.2.mails.map (·.oid) = u.mails.map (·.oid) ∧
      (S.Succeeds force commits u b →
        List.Forall₂ (IsRecordOf S.rebuildEnv) (S.added force u b) v.1.index.records) ∧
      (¬ S.Succeeds force commits u b → v.1.index.records = b.index.records) := by
  unfold IdentitySetup.indexRebuild rboxSyncIndexRebuild at h
  split at h
  case isTrue hskip =>
    cases h
    have hskip' : alreadyRebuilt force u.corrupted b = true := hskip
    refine ⟨rfl, fun hsucc => ?_, fun _ => rfl⟩
    have hgo := hsucc.1
    rw [hskip'] at hgo
    cases hgo
  case isFalse hgo =>
    have hgo' : alreadyRebuilt force u.corrupted b = false := Bool.eq_false_iff.mpr hgo
    obtain ⟨r, hr, rfl⟩ := Option.map_eq_some_iff.mp h
    obtain ⟨hrec, hok, hoids, _⟩ := entry_numbered hr
    have hadded : S.added force u b =
        numbered b.index.firstUid (addedMails S.rebuildEnv b.info.guid u.mails) := by
      unfold IdentitySetup.added
      rw [hgo', if_neg Bool.false_ne_true]
    refine ⟨hoids, fun hsucc => ?_, fun hfail => ?_⟩
    · obtain ⟨_, hcommits, hall⟩ := hsucc
      have hboth : (r.ok && commits) = true := by
        rw [hok, hcommits, Bool.and_true]
        exact hall
      dsimp only
      rw [if_pos hboth, hadded]
      exact hrec
    · have hboth : ¬ (r.ok && commits) = true := by
        intro hboth
        obtain ⟨hrok, hcommits⟩ := Bool.and_eq_true_iff.mp hboth
        exact hfail ⟨hgo', hcommits, hok.symm.trans hrok⟩
      dsimp only
      rw [if_neg hboth]

/-- **What the rebuild of a mailbox does**: the objects and the marks whatever becomes of it, the
    records only where it succeeds. -/
theorem rebuildBox_spec (hb : u.boxes[i]? = some b) :
    ∃ b' mails corrupted, S.rebuildBox i force commits u =
        ⟨u.boxes.set i b', (S.added force u b).foldl S.updateUid u.objs, mails, corrupted,
          S.lostAfter force u b⟩ ∧
      (mails = [] ∨ mails.map (·.oid) = u.mails.map (·.oid)) ∧
      (S.Succeeds force commits u b →
        List.Forall₂ (IsRecordOf S.rebuildEnv) (S.added force u b) b'.index.records) ∧
      (¬ S.Succeeds force commits u b → b'.index.records = b.index.records) := by
  unfold IdentitySetup.rebuildBox
  rw [hb]
  dsimp only
  cases h : S.indexRebuild force commits u b with
  | none =>
      have hself : u.boxes.set i b = u.boxes := by
        obtain ⟨hlt, hget⟩ := List.getElem?_eq_some_iff.mp hb
        rw [← hget]
        exact List.set_getElem_self hlt
      exact ⟨b, [], 0, by rw [hself], .inl rfl, fun hsucc => absurd hsucc (not_succeeds_of_none h),
        fun _ => rfl⟩
  | some v =>
      obtain ⟨hoids, hnew, hold⟩ := indexRebuild_spec h
      exact ⟨{ v.1 with info := b.info }, v.2.mails, v.2.corrupted, rfl, .inr hoids, hnew, hold⟩

end Rebuilt

/-! ## 6. The invariant -/

/-- **The invariant**: objects are named by guids, and those of the loaded mails and of the marks
    are there. -/
structure IdentitySetup.UidInv {γ : Type} (S : IdentitySetup γ) (u : UidStore γ) : Prop where
  track : S.UidsTrack u
  named : ∀ oid, u.objs oid ≠ none → ∃ g, S.guids.toString g = oid
  loaded : ∀ oid ∈ u.mails.map (·.oid), u.objs oid ≠ none
  nodup : (u.mails.map (·.oid)).Nodup
  lost : ∀ oid ∈ u.lost, u.objs oid ≠ none

section Invariant

variable {γ : Type} {S : IdentitySetup γ} {u u' : UidStore γ} {i : Nat} {b : RebuildBox γ}
  {r : IndexRecord γ} {objs : String → Option AttrObject} {oid : String} {o : AttrObject}

theorem exists_of_uidOf {v : String} (h : S.uidOf objs oid = some v) : objs oid ≠ none := by
  intro hnone
  have hattr := @shownMails_attr γ S objs oid "U"
  rw [hnone, Option.bind_none] at hattr
  exact Option.some_ne_none v (h.symm.trans hattr)

theorem exists_of_tracked (h : S.Tracked u r) : u.objs (S.guids.toString r.oid) ≠ none :=
  h.elim exists_of_uidOf fun h => exists_of_uidOf h.1

theorem tracked_of_same
    (huid : S.uidOf u'.objs (S.guids.toString r.oid) = S.uidOf u.objs (S.guids.toString r.oid))
    (hlost : S.guids.toString r.oid ∈ u.lost → S.guids.toString r.oid ∈ u'.lost)
    (h : S.Tracked u r) : S.Tracked u' r := by
  rcases h with h | ⟨h, hmark⟩
  · exact .inl (huid.trans h)
  · exact .inr ⟨huid.trans h, hlost hmark⟩

/-- Mailboxes after one has changed. -/
theorem mem_set_boxes {bs : List (RebuildBox γ)} {b' c : RebuildBox γ} (hb : bs[i]? = some b) :
    c ∈ bs.set i b' ↔ c = b' ∨ ∃ j, j ≠ i ∧ bs[j]? = some c := by
  obtain ⟨hlt, _⟩ := List.getElem?_eq_some_iff.mp hb
  rw [List.mem_iff_getElem?]
  constructor
  · intro h
    obtain ⟨j, hj⟩ := h
    by_cases hij : i = j
    · rw [← hij, List.getElem?_set_self hlt] at hj
      exact .inl (Option.some.inj hj).symm
    · rw [List.getElem?_set_ne hij] at hj
      exact .inr ⟨j, fun h => hij h.symm, hj⟩
  · intro h
    rcases h with rfl | ⟨j, hj, hc⟩
    · exact ⟨i, List.getElem?_set_self hlt⟩
    · exact ⟨j, (List.getElem?_set_ne fun h => hj h.symm).trans hc⟩

theorem update_ne_none (h : objs oid ≠ none) (o : AttrObject) (oid' : String) :
    Function.update objs oid (some o) oid' ≠ none ↔ objs oid' ≠ none := by
  by_cases hoid : oid' = oid
  · rw [hoid, Function.update_self]
    exact ⟨fun _ => h, fun _ => Option.some_ne_none o⟩
  · rw [Function.update_of_ne hoid]

theorem updateUids_ne_none {es : List (RadosMail × Nat)}
    (h : ∀ oid ∈ es.map (·.1.oid), objs oid ≠ none) (oid : String) :
    (es.foldl S.updateUid objs) oid ≠ none ↔ objs oid ≠ none := by
  induction es generalizing objs with
  | nil => exact Iff.rfl
  | cons e es ih =>
      rw [List.map_cons, List.forall_mem_cons] at h
      have hstep : ∀ oid', S.updateUid objs e oid' ≠ none ↔ objs oid' ≠ none :=
        update_ne_none h.1 _
      rw [List.foldl_cons, ih fun oid' hoid' => (hstep oid').mpr (h.2 oid' hoid')]
      exact hstep oid

/-- **What giving the unassigned mails to INBOX does**: they are marked, the others stay. -/
theorem assignMails_spec (guid : String) {ms : List RadosMail}
    (h : ∀ oid ∈ ms.map (·.oid), objs oid ≠ none) (oid : String) :
    ((ms.foldl (IdentitySetup.assignMail guid) objs) oid ≠ none ↔ objs oid ≠ none) ∧
      S.uidOf (ms.foldl (IdentitySetup.assignMail guid) objs) oid =
        if oid ∈ (ms.filter fun m => !m.restored).map (·.oid) then some (toString intMax)
        else S.uidOf objs oid := by
  induction ms generalizing objs with
  | nil => exact ⟨Iff.rfl, rfl⟩
  | cons m ms ih =>
      rw [List.map_cons, List.forall_mem_cons] at h
      rw [List.foldl_cons]
      cases hres : m.restored with
      | true =>
          have hskip : IdentitySetup.assignMail guid objs m = objs := by
            rw [IdentitySetup.assignMail, hres, if_pos rfl]
          rw [hskip, List.filter_cons_of_neg (by rw [hres]; exact Bool.false_ne_true)]
          exact ih h.2
      | false =>
          obtain ⟨o, ho, hshown⟩ : ∃ o, IdentitySetup.assignMail guid objs m =
              Function.update objs m.oid (some o) ∧
                S.storage.shown S.json S.cfg o "U" = some (toString intMax) := by
            refine ⟨_, by rw [IdentitySetup.assignMail, hres, if_neg Bool.false_ne_true], ?_⟩
            have hM : "M" ≠ S.cfg.metadataStorageAttribute := S.ownAttribute 'M'
            rw [shown_setxattr hM, if_neg (by decide), shown_setxattr (uidKey_ne S), if_pos rfl,
              cStr_uid]
          rw [ho]
          have hstep := update_ne_none h.1 o
          obtain ⟨hobj, huid⟩ := ih fun oid' hoid' => (hstep oid').mpr (h.2 oid' hoid')
          refine ⟨hobj.trans (hstep oid), ?_⟩
          rw [huid, uidOf_update, hshown, List.filter_cons_of_pos (by rw [hres]; rfl),
            List.map_cons]
          simp only [List.mem_cons]
          by_cases hin : oid ∈ (ms.filter fun m => !m.restored).map (·.oid)
          · rw [if_pos hin, if_pos (.inr hin)]
          · by_cases hoid : oid = m.oid
            · rw [if_neg hin, if_pos hoid, if_pos (.inl hoid)]
            · rw [if_neg hin, if_neg hoid, if_neg fun h => h.elim hoid hin]

end Invariant

/-! ## 7. One operation -/

section Step

variable {γ : Type} {S : IdentitySetup γ} {u : UidStore γ} {i : Nat} {b : RebuildBox γ}
  {uid : UInt32} {oid guid : γ} {o : AttrObject} {force commits : Bool}

/-- **A new mail keeps the invariant if its object has its uid.** -/
theorem commit_keep (hi : S.UidInv u) (hb : u.boxes[i]? = some b)
    (hnew : u.objs (S.guids.toString oid) = none)
    (huid : S.storage.shown S.json S.cfg o "U" = some (toString uid.toNat)) :
    S.UidInv (S.commit i b uid oid guid o u) := by
  have hold : ∀ x, u.objs x ≠ none → (S.commit i b uid oid guid o u).objs x ≠ none := by
    intro x hx
    by_cases hxoid : x = S.guids.toString oid
    · exact absurd (hxoid ▸ hnew) hx
    · show Function.update u.objs _ _ x ≠ none
      rw [Function.update_of_ne hxoid]
      exact hx
  have htracked : ∀ c ∈ u.boxes, ∀ r ∈ c.index.records,
      S.Tracked (S.commit i b uid oid guid o u) r := by
    intro c hc r hr
    have h := hi.track c hc r hr
    have hother : S.guids.toString r.oid ≠ S.guids.toString oid :=
      fun hoid => exists_of_tracked h (hoid ▸ hnew)
    exact @tracked_of_same γ S u _ r ((uidOf_update _).trans (if_neg hother)) id h
  refine ⟨fun c hc r hr => ?_, fun x hx => ?_, fun x hx => hold x (hi.loaded x hx), hi.nodup,
    fun x hx => hold x (hi.lost x hx)⟩
  · rcases (mem_set_boxes hb).mp hc with rfl | ⟨j, _, hc⟩
    · rcases List.mem_append.mp hr with hr | hr
      · exact htracked b (List.mem_of_getElem? hb) r hr
      · rw [List.mem_singleton.mp hr]
        exact .inl ((uidOf_update _).trans ((if_pos rfl).trans huid))
    · exact htracked c (List.mem_of_getElem? hc) r hr
  · by_cases hxoid : x = S.guids.toString oid
    · exact ⟨oid, hxoid.symm⟩
    · have hx' : Function.update u.objs (S.guids.toString oid) (some o) x ≠ none := hx
      rw [Function.update_of_ne hxoid] at hx'
      exact hi.named x hx'

/-- The mark cannot stand for it. -/
theorem commit_need (hi : S.UidInv u) (hb : u.boxes[i]? = some b)
    (hnew : u.objs (S.guids.toString oid) = none)
    (h : S.UidsTrack (S.commit i b uid oid guid o u)) :
    S.storage.shown S.json S.cfg o "U" = some (toString uid.toNat) := by
  have hbox : IdentitySetup.appended b uid oid guid ∈ (S.commit i b uid oid guid o u).boxes :=
    (mem_set_boxes hb).mpr (.inl rfl)
  have hrecord : (⟨uid.toNat, oid, guid⟩ : IndexRecord γ) ∈
      (IdentitySetup.appended b uid oid guid).index.records :=
    List.mem_append_right _ (List.mem_singleton.mpr rfl)
  rcases h _ hbox _ hrecord with huid | ⟨_, hlost⟩
  · exact ((uidOf_update _).trans (if_pos rfl)).symm.trans huid
  · exact absurd hnew (hi.lost _ hlost)

theorem saveTo_eq (hb : u.boxes[i]? = some b) (a : SavedGuid γ) :
    S.saveTo i a u = S.commit i b a.uid a.oid (S.guids.setupMailObject a.dataGuid a.generated).1
      (S.savedObject b a) u := by
  unfold IdentitySetup.saveTo
  rw [hb]

theorem copyTo_eq {a : CopiedMail γ} (hb : u.boxes[i]? = some b)
    (ho : u.objs (S.guids.toString a.src) = some o) :
    S.copyTo i a u = S.commit i b a.uid a.oid a.guid (S.copyOf b a o) u := by
  unfold IdentitySetup.copyTo
  rw [hb, ho]

/-- The copy has its uid exactly under the condition on it. -/
theorem copyOf_uid_iff {a : CopiedMail γ} (ho : u.objs (S.guids.toString a.src) = some o) :
    S.storage.shown S.json S.cfg (S.copyOf b a o) "U" = some (toString a.uid.toNat) ↔
      (isMailAttribute S.mailAttributes 'U' = false →
        S.uidOf u.objs (S.guids.toString a.src) = some (toString a.uid.toNat)) ∧
      (S.UidInDocument → ∀ v, o.xattrs.lookup "U" = some v →
        cStr v = toString a.uid.toNat) := by
  have hsrc : S.uidOf u.objs (S.guids.toString a.src) = S.storage.shown S.json S.cfg o "U" := by
    refine (shownMails_attr _ _).trans ?_
    rw [ho, Option.bind_some]
  rw [copyOf_uid, hsrc]
  cases hU : isMailAttribute S.mailAttributes 'U' with
  | false =>
      have hdoc : ¬ S.UidInDocument := fun h => by
        have hyes := h.2.1
        rw [hU] at hyes
        cases hyes
      rw [if_pos rfl]
      exact ⟨fun h => ⟨fun _ => h, fun h => absurd h hdoc⟩, fun h => h.1 rfl⟩
  | true =>
      rw [if_neg Bool.true_eq_false_eq_False]
      by_cases hdoc : S.UidInDocument
      · rw [if_pos hdoc]
        cases hv : o.xattrs.lookup "U" with
        | none => exact ⟨fun _ => ⟨nofun, fun _ v h => nomatch h⟩, fun _ => rfl⟩
        | some v =>
            refine ⟨fun h => ⟨nofun, fun _ v' h' => ?_⟩, fun h => ?_⟩
            · rw [← Option.some.inj h']
              exact Option.some.inj h
            · exact congrArg some (h.2 hdoc v rfl)
      · rw [if_neg hdoc]
        exact ⟨fun _ => ⟨nofun, fun h => absurd h hdoc⟩, fun _ => rfl⟩

end Step

section RebuildStep

variable {γ : Type} {S : IdentitySetup γ} {u u' : UidStore γ} {i : Nat} {b : RebuildBox γ}
  {r : IndexRecord γ} {e : RadosMail × Nat} {force commits : Bool}

theorem added_exists (hi : S.UidInv u) :
    ∀ oid ∈ (S.added force u b).map (·.1.oid), u.objs oid ≠ none :=
  fun oid hoid => hi.loaded oid (added_sublist.subset hoid)

/-- The oid of a new record is that of the mail. -/
theorem recordOf_oid (hi : S.UidInv u) (he : e ∈ S.added force u b)
    (h : IsRecordOf S.rebuildEnv e r) : S.guids.toString r.oid = e.1.oid := by
  obtain ⟨g, hg⟩ := hi.named e.1.oid (added_exists hi _ (List.mem_map_of_mem he))
  have hoid : S.guids.ofString e.1.oid = some r.oid := h.1
  rw [← hg, S.guids.ofString_toString] at hoid
  rw [← Option.some.inj hoid, hg]

/-- The rebuild has written the objects. -/
structure Rewritten (S : IdentitySetup γ) (force : Bool) (u : UidStore γ) (b : RebuildBox γ)
    (u' : UidStore γ) : Prop where
  objs : u'.objs = (S.added force u b).foldl S.updateUid u.objs
  lost : u'.lost = S.lostAfter force u b

theorem Rewritten.uid_added (h : Rewritten S force u b u') (hi : S.UidInv u)
    (hS : S.storage = .default) (he : e ∈ S.added force u b) :
    S.uidOf u'.objs e.1.oid = some (toString e.2) ∧ e.1.oid ∉ u'.lost := by
  constructor
  · rw [h.objs]
    exact (updateUids_default hS (added_sublist.nodup hi.nodup)).1 e he
  · rw [h.lost, IdentitySetup.lostAfter, if_pos hS, List.mem_filter]
    intro hmem
    exact absurd (List.mem_map_of_mem he) (of_decide_eq_true hmem.2)

theorem Rewritten.uid_ima (h : Rewritten S force u b u') (hS : S.storage = .ima) (oid : String) :
    S.uidOf u'.objs oid = S.uidOf u.objs oid ∧ u'.lost = u.lost := by
  constructor
  · rw [h.objs]
    exact updateUids_ima hS _
  · rw [h.lost, IdentitySetup.lostAfter, hS, if_neg (by decide)]

/-- A record that stays. -/
theorem Rewritten.tracked_old (h : Rewritten S force u b u') (hi : S.UidInv u)
    (hr : S.Tracked u r) (hsame : S.storage = .default → ∀ e ∈ S.added force u b,
      S.guids.toString r.oid = e.1.oid → r.uid = e.2) : S.Tracked u' r := by
  cases hS : S.storage with
  | default =>
      by_cases hin : S.guids.toString r.oid ∈ (S.added force u b).map (·.1.oid)
      · obtain ⟨e, he, hoid⟩ := List.mem_map.mp hin
        refine .inl ?_
        rw [← hoid, (h.uid_added hi hS he).1, hsame hS e he hoid.symm]
      · refine tracked_of_same ?_ (fun hlost => ?_) hr
        · rw [h.objs]
          exact (updateUids_default hS (added_sublist.nodup hi.nodup)).2 _ hin
        · rw [h.lost, IdentitySetup.lostAfter, if_pos hS]
          exact List.mem_filter.mpr ⟨hlost, decide_eq_true hin⟩
  | ima =>
      obtain ⟨huid, hlost⟩ := h.uid_ima hS (S.guids.toString r.oid)
      exact tracked_of_same huid (fun hmem => by rwa [hlost]) hr

/-- One that is added. -/
theorem Rewritten.tracked_new (h : Rewritten S force u b u') (hi : S.UidInv u)
    (he : e ∈ S.added force u b) (hr : IsRecordOf S.rebuildEnv e r) :
    S.Tracked u' r ↔ (S.storage = .ima → S.uidOf u.objs e.1.oid = some (toString e.2) ∨
      S.uidOf u.objs e.1.oid = some (toString intMax) ∧ e.1.oid ∈ u.lost) := by
  rw [IdentitySetup.Tracked, recordOf_oid hi he hr, hr.2]
  cases hS : S.storage with
  | default => exact ⟨fun _ => nofun, fun _ => .inl (h.uid_added hi hS he).1⟩
  | ima =>
      obtain ⟨huid, hlost⟩ := h.uid_ima hS e.1.oid
      rw [huid, hlost]
      exact ⟨fun h _ => h, fun h => h rfl⟩

theorem exists_left_of_forall₂ {α β : Type} {R : α → β → Prop} {as : List α} {bs : List β}
    (h : List.Forall₂ R as bs) : ∀ y ∈ bs, ∃ x ∈ as, R x y := by
  induction h with
  | nil => exact nofun
  | cons hxy _ ih =>
      intro y hy
      rcases List.mem_cons.mp hy with rfl | hy
      · exact ⟨_, List.mem_cons_self, hxy⟩
      · obtain ⟨x, hx, hxy⟩ := ih y hy
        exact ⟨x, List.mem_cons_of_mem _ hx, hxy⟩

/-- **Rebuilding a mailbox keeps the invariant under the condition on it.** -/
theorem rebuild_keep (hi : S.UidInv u) (hok : S.UidOk u (.rebuild i force commits)) :
    S.UidInv (S.rebuildBox i force commits u) := by
  cases hb : u.boxes[i]? with
  | none =>
      have hsame : S.rebuildBox i force commits u = u := by
        unfold IdentitySetup.rebuildBox
        rw [hb]
      rw [hsame]
      exact hi
  | some b =>
      obtain ⟨b', mails, corrupted, heq, hmails, hnew, hold⟩ :=
        @rebuildBox_spec γ S u i b force commits hb
      have hcond := hok b hb
      rw [heq]
      have hobj := @updateUids_ne_none γ S u.objs _ (@added_exists γ S u b force hi)
      refine ⟨fun c hc r hr => ?_, fun oid hoid => hi.named oid ((hobj oid).mp hoid),
        fun oid hoid => ?_, ?_, fun oid hoid => (hobj oid).mpr (hi.lost oid ?_)⟩
      · -- a record stays unless it is of this mailbox and the rebuild succeeds
        have hstays : ∀ j c, u.boxes[j]? = some c → r ∈ c.index.records →
            ¬ (j = i ∧ S.Succeeds force commits u b) →
            S.Tracked ⟨u.boxes.set i b', (S.added force u b).foldl S.updateUid u.objs, mails,
              corrupted, S.lostAfter force u b⟩ r := by
          intro j c hc hr hnot
          refine Rewritten.tracked_old (b := b) ⟨rfl, rfl⟩ hi
            (hi.track c (List.mem_of_getElem? hc) r hr) fun hS e he hoid => ?_
          have h := hcond e he
          rw [hS] at h
          exact (h j c r hc hr hoid).resolve_left hnot
        rcases (mem_set_boxes hb).mp hc with rfl | ⟨j, hj, hc⟩
        · by_cases hsucc : S.Succeeds force commits u b
          · obtain ⟨e, he, hrec⟩ := exists_left_of_forall₂ (hnew hsucc) r hr
            refine (Rewritten.tracked_new (b := b) ⟨rfl, rfl⟩ hi he hrec).mpr fun hS => ?_
            have h := hcond e he
            rw [hS] at h
            exact h hsucc
          · rw [hold hsucc] at hr
            exact hstays i b hb hr fun h => hsucc h.2
        · exact hstays j c hc hr fun h => hj h.1
      · rcases hmails with rfl | hmails
        · exact absurd hoid List.not_mem_nil
        · exact (hobj oid).mpr (hi.loaded oid (hmails ▸ hoid))
      · rcases hmails with rfl | hmails
        · exact List.nodup_nil
        · exact hmails ▸ hi.nodup
      · have hoid' : oid ∈ S.lostAfter force u b := hoid
        unfold IdentitySetup.lostAfter at hoid'
        split at hoid'
        · exact List.mem_of_mem_filter hoid'
        · exact hoid'

/-- **And loses it without**: what the rebuild leaves to a record is its own uid. -/
theorem rebuild_need (hi : S.UidInv u) (h : S.UidsTrack (S.rebuildBox i force commits u)) :
    S.UidOk u (.rebuild i force commits) := by
  intro b hb e he
  obtain ⟨b', mails, corrupted, heq, _, hnew, hold⟩ :=
    @rebuildBox_spec γ S u i b force commits hb
  rw [heq] at h
  cases hS : S.storage with
  | default =>
      intro j c r hc hr hoid
      refine or_iff_not_imp_left.mpr fun hnot => ?_
      obtain ⟨c', hc', hr'⟩ : ∃ c' ∈ u.boxes.set i b', r ∈ c'.index.records := by
        by_cases hj : j = i
        · refine ⟨b', (mem_set_boxes hb).mpr (.inl rfl), ?_⟩
          rw [hj, hb] at hc
          rw [hold fun hsucc => hnot ⟨hj, hsucc⟩, Option.some.inj hc]
          exact hr
        · exact ⟨c, (mem_set_boxes hb).mpr (.inr ⟨j, hj, hc⟩), hr⟩
      obtain ⟨huid, hmark⟩ := @Rewritten.uid_added γ S u ⟨u.boxes.set i b',
        (S.added force u b).foldl S.updateUid u.objs, mails, corrupted, S.lostAfter force u b⟩ b e
        force ⟨rfl, rfl⟩ hi hS he
      rcases h c' hc' r hr' with htrack | ⟨_, hlost⟩
      · rw [hoid, huid] at htrack
        exact (toString_nat_injective (Option.some.inj htrack)).symm
      · rw [hoid] at hlost
        exact absurd hlost hmark
  | ima =>
      intro hsucc
      obtain ⟨r, hr, hrec⟩ := exists_left_of_forall₂ (hnew hsucc).flip e he
      have hmem : b' ∈ u.boxes.set i b' := (mem_set_boxes hb).mpr (.inl rfl)
      exact (Rewritten.tracked_new (b := b) ⟨rfl, rfl⟩ hi he hrec).mp (h b' hmem r hr) hS

end RebuildStep

/-! ## 8. Runs -/

section Runs

variable {γ : Type} {S : IdentitySetup γ} {u : UidStore γ}

/-- The mails that are loaded are objects of the listing, each once. -/
theorem loadMails_spec (hi : S.UidInv u) (mailList : List String) :
    (∀ oid ∈ (loadMails S.rebuildEnv .first (S.store u mailList)).mails.map (·.oid),
        u.objs oid ≠ none) ∧
      ((loadMails S.rebuildEnv .first (S.store u mailList)).mails.map (·.oid)).Nodup := by
  unfold loadMails
  split
  case isTrue =>
    refine ⟨fun oid hoid => ?_, @loaded_nodup γ S.rebuildEnv .first (S.store u mailList)⟩
    obtain ⟨m, hm, rfl⟩ := List.mem_map.mp hoid
    have hmem : m ∈ loaded S.rebuildEnv .first (S.store u mailList) := hm
    intro hnone
    have hshown : S.shownMails u.objs m.oid = some m.metadata := (mem_loaded hmem).2.1
    rw [IdentitySetup.shownMails, hnone] at hshown
    cases hshown
  case isFalse => exact ⟨hi.loaded, hi.nodup⟩

/-- **A step keeps the invariant under its condition.** -/
theorem uidStep_keep (op : UidOp γ) (hi : S.UidInv u) (hnew : S.NewOid u op)
    (hok : S.UidOk u op) : S.UidInv (S.uidStep u op) := by
  cases op with
  | save i a =>
      show S.UidInv (S.saveTo i a u)
      cases hb : u.boxes[i]? with
      | none =>
          unfold IdentitySetup.saveTo
          rw [hb]
          exact hi
      | some b =>
          rw [saveTo_eq hb]
          refine commit_keep hi hb hnew ?_
          rw [savedObject_uid, if_pos (hok b hb)]
  | copy i a =>
      show S.UidInv (S.copyTo i a u)
      cases hb : u.boxes[i]? with
      | none =>
          unfold IdentitySetup.copyTo
          rw [hb]
          exact hi
      | some b =>
          cases ho : u.objs (S.guids.toString a.src) with
          | none =>
              unfold IdentitySetup.copyTo
              rw [hb, ho]
              exact hi
          | some o =>
              rw [copyTo_eq hb ho]
              exact commit_keep hi hb hnew ((copyOf_uid_iff ho).mpr (hok b o hb ho))
  | start => exact ⟨hi.track, hi.named, fun _ hoid => absurd hoid List.not_mem_nil,
      List.nodup_nil, hi.lost⟩
  | load mailList =>
      obtain ⟨hloaded, hnodup⟩ := loadMails_spec hi mailList
      exact ⟨hi.track, hi.named, hloaded, hnodup, hi.lost⟩
  | rebuild i force commits => exact rebuild_keep hi hok
  | assign guid =>
      have hobj := fun oid => (@assignMails_spec γ S u.objs guid u.mails hi.loaded oid).1
      have huid := fun oid => (@assignMails_spec γ S u.objs guid u.mails hi.loaded oid).2
      refine ⟨fun c hc r hr => ?_, fun oid hoid => hi.named oid ((hobj oid).mp hoid),
        fun oid hoid => (hobj oid).mpr (hi.loaded oid hoid), hi.nodup, fun oid hoid => ?_⟩
      · by_cases hin : S.guids.toString r.oid ∈ (u.mails.filter fun m => !m.restored).map (·.oid)
        · exact .inr ⟨(huid _).trans (if_pos hin), List.mem_append_right _ hin⟩
        · exact tracked_of_same ((huid _).trans (if_neg hin)) (List.mem_append_left _)
            (hi.track c hc r hr)
      · refine (hobj oid).mpr ?_
        rcases List.mem_append.mp hoid with hoid | hoid
        · exact hi.lost oid hoid
        · exact hi.loaded oid ((List.filter_sublist.map _).subset hoid)

/-- **The condition is also necessary.** -/
theorem uidStep_need (op : UidOp γ) (hi : S.UidInv u) (hnew : S.NewOid u op)
    (h : S.UidsTrack (S.uidStep u op)) : S.UidOk u op := by
  cases op with
  | save i a =>
      intro b hb
      have htrack : S.UidsTrack (S.saveTo i a u) := h
      rw [saveTo_eq hb] at htrack
      have huid := commit_need hi hb hnew htrack
      rw [savedObject_uid] at huid
      split at huid
      case isTrue hU => exact hU
      case isFalse => cases huid
  | copy i a =>
      intro b o hb ho
      have htrack : S.UidsTrack (S.copyTo i a u) := h
      rw [copyTo_eq hb ho] at htrack
      exact (copyOf_uid_iff ho).mp (commit_need hi hb hnew htrack)
  | rebuild i force commits => exact rebuild_need hi h
  | start => trivial
  | load mailList => trivial
  | assign guid => trivial

/-- The mailboxes when they are created: no mails. -/
def UidStore.created (boxes : List (RebuildBox γ)) : UidStore γ where
  boxes := boxes.map fun b => { b with index := { b.index with records := [] } }
  objs := fun _ => none

theorem created_inv (boxes : List (RebuildBox γ)) : S.UidInv (UidStore.created boxes) where
  track := by
    intro c hc r hr
    obtain ⟨b, _, rfl⟩ := List.mem_map.mp hc
    exact absurd hr List.not_mem_nil
  named := fun _ h => absurd rfl h
  loaded := fun _ hoid => absurd hoid List.not_mem_nil
  nodup := List.nodup_nil
  lost := fun _ hoid => absurd hoid List.not_mem_nil

/-- **In every state of a run each object has the uid of its record, exactly if every operation
    meets the condition.** -/
theorem uids_track_iff {boxes : List (RebuildBox γ)} {ops : List (UidOp γ)}
    (hnew : Along S.uidStep S.NewOid (UidStore.created boxes) ops) :
    (∀ pre, pre <+: ops → S.UidsTrack (run S.uidStep (UidStore.created boxes) pre)) ↔
      Along S.uidStep S.UidOk (UidStore.created boxes) ops :=
  prefixes_iff_along (I := S.UidInv) (D := S.NewOid) (fun _ hi => hi.track)
    (fun _ op hi hn hok => uidStep_keep op hi hn hok)
    (fun _ op hi hn h => uidStep_need op hi hn h) (created_inv boxes) hnew

end Runs

/-- With the attributes a rebuild asks for. -/
def uidSetup (storage : MetadataModule) : IdentitySetup HexGuid :=
  { identitySetup storage with mailAttributes := "MGRZVU" }

/-- A mail is saved to INBOX, which is rebuilt then. -/
def saveAndRebuild (commits : Bool) : List (UidOp HexGuid) :=
  [.save 0 { oid := firstGuid, generated := firstGuid, uid := 1
             mail := { newMail 0 with receivedDate := 1700000000 } },
   .start, .load [firstGuid.1], .rebuild 0 true commits]

def createdInbox : UidStore HexGuid :=
  UidStore.created [⟨{ vname := "INBOX", guid := "m1" }, ⟨[], 1, 1⟩⟩]

/-- The mail is loaded. -/
def inboxLoaded : UidStore HexGuid :=
  run (uidSetup .default).uidStep createdInbox ((saveAndRebuild true).take 3)

theorem committed_rebuild_tracks :
    (uidSetup .default).UidsTrack
      (run (uidSetup .default).uidStep createdInbox (saveAndRebuild true)) := by
  have hnew : Along (uidSetup .default).uidStep (uidSetup .default).NewOid createdInbox
      (saveAndRebuild true) :=
    ⟨rfl, trivial, trivial, trivial, trivial⟩
  refine (uids_track_iff hnew).mpr ?_ _ List.prefix_rfl
  refine ⟨fun _ _ => (by decide : isMailAttribute "MGRZVU" 'U' = true), trivial, trivial,
    fun b hb e _ j c r hc _ _ => .inl ⟨?_, ?_⟩, trivial⟩
  · have hlt : j < inboxLoaded.boxes.length := (List.getElem?_eq_some_iff.mp hc).1
    exact Nat.lt_one_iff.mp hlt
  · have hsucceeds : inboxLoaded.boxes[0]?.map
        (fun b => decide ((uidSetup .default).Succeeds true true inboxLoaded b)) = some true := by
      decide +kernel
    have hb' : inboxLoaded.boxes[0]? = some b := hb
    rw [hb', Option.map_some] at hsucceeds
    exact of_decide_eq_true (Option.some.inj hsucceeds)

/-- A rebuild that is not committed gives the object the uid 2. Under the ima module one that is
    committed leaves it the uid 1. -/
theorem rebuild_loses_track :
    ¬ (uidSetup .default).UidsTrack
        (run (uidSetup .default).uidStep createdInbox (saveAndRebuild false)) ∧
      ¬ (uidSetup .ima).UidsTrack
        (run (uidSetup .ima).uidStep createdInbox (saveAndRebuild true)) := by
  constructor <;> decide +kernel

end DovecotCeph
