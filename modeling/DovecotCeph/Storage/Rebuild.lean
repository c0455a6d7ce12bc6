/-
  File:      DovecotCeph/Storage/Rebuild.lean
  Subject:   Rebuilding the indexes of a user from his mail objects (rbox-sync-rebuild.cpp).

  * `rboxSyncIndexRebuild`: one mailbox, from the loaded objects with its guid;
  * `repairNamespace`: the mailboxes of a namespace in list order, left at the first one that is
    virtual, of another storage, or cannot be opened;
  * `rboxStorageRebuildInContext`: all namespaces from the inbox one on; what no mailbox has taken
    is given to INBOX, and then everything is done once more.

  An exception of `std::stoi` goes through Dovecot's C code and ends the process.
  **`validated_uid_converts_iff`**: of the uids `validate_metadata` lets through it is thrown for
  the empty one and for those beyond `INT_MAX`.
-/
import DovecotCeph.Lib.OrderedSet
import DovecotCeph.Librmb.RadosUtil
import DovecotCeph.Storage.MailUser
import Mathlib.Algebra.Group.Nat.Defs
import Mathlib.Data.String.Basic

namespace DovecotCeph

/-! ## 1. Mail objects and mailboxes -/

/-- The two calls of `rbox_storage_rebuild_in_context`. -/
inductive Pass where
  | first
  | second
  deriving DecidableEq, Repr

/-- `RadosMail`, as far as a rebuild uses it. -/
structure RadosMail where
  oid : String
  metadata : Xattrs
  restored : Bool := false

/-- The key of `rados_mails`. -/
def RadosMail.mailboxGuid (m : RadosMail) : String := (m.metadata "M").getD ""

/-- The objects of the user's namespace. -/
abbrev MailXattrs := String → Option Xattrs

/-- `setxattr` on an object; it creates the object where there is none. -/
def setXattr (key value : String) (oid : String) (objs : MailXattrs) : MailXattrs :=
  Function.update objs oid
    (some (Function.update ((objs oid).getD fun _ => none) key (some value)))

/-- `struct obox_mail_index_record` with the uid of its mail. -/
structure IndexRecord (γ : Type) where
  uid : Nat
  oid : γ
  guid : γ

/-- A mailbox as it is listed: its name, flags and kind, the guid of its header, and what Dovecot
    answers when it is opened -- for the rebuild, together with the connection that is opened while
    nothing is loaded, and in the search for INBOX -- and when its index is committed. -/
structure BoxInfo where
  vname : String
  selectable : Bool := true
  isVirtual : Bool := false
  ownStorage : Bool := true
  guid : String
  opens : Pass → Bool := fun _ => true
  opensInSearch : Pass → Bool := fun _ => true
  commits : Pass → Bool := fun _ => true

/-- The index of a mailbox: records, `next_uid`, and the `rebuild_count` of the plugin's header,
    which can be read since the mailbox could be opened. -/
structure BoxIndex (γ : Type) where
  records : List (IndexRecord γ)
  nextUid : Nat
  rebuildCount : Nat

structure RebuildBox (γ : Type) where
  info : BoxInfo
  index : BoxIndex γ

/-- Dovecot's guid parsers, the configured search method, and the outcomes of the RADOS operations
    of a pass. -/
structure RebuildEnv (γ : Type) where
  guidFromString : String → Option γ
  guidFromUuidString : String → Option γ
  searchMethod : Nat := 0
  loads : Pass → String → Bool := fun _ _ => true
  updates : Pass → String → Bool := fun _ _ => true
  operates : Pass → String → Bool := fun _ _ => true
  overwrites : Pass → Bool := fun _ => true

/-- The objects with their listing, the ceph index, `corrupted_rebuild_count`, and `rados_mails`,
    which is empty until a mailbox is opened. -/
structure RebuildStore where
  objs : MailXattrs
  oids : List String
  cephIndex : List String
  corrupted : Nat
  mails : List RadosMail := []

section Model

variable {γ : Type} (E : RebuildEnv γ) (p : Pass)

/-! ## 2. One mailbox -/

/-- `rbox_sync_add_object`: the record, if oid and guid can be converted; `none` where `std::stoi`
    throws. -/
def rboxSyncAddObject (m : RadosMail) (nextUid : Nat) (objs : MailXattrs) :
    Option (Option (IndexRecord γ) × MailXattrs) :=
  ((m.metadata "U").bind stoi).bind fun _ =>
    match E.guidFromString m.oid, (m.metadata "G").bind E.guidFromUuidString with
    | some oid, some guid =>
      some (some ⟨nextUid, oid, guid⟩,
        if E.updates p m.oid then setXattr "U" (toString nextUid) m.oid objs else objs)
    | _, _ => some (none, objs)

/-- What `rbox_sync_rebuild_entry` has done: whether it succeeded, the marked mails, the appended
    records and the objects. -/
structure EntryResult (γ : Type) where
  ok : Bool
  mails : List RadosMail
  records : List (IndexRecord γ)
  objs : MailXattrs

/-- The loop of `rbox_sync_rebuild_entry` over `rados_mails[guid]`: mails that are not restored yet
    are added, until one cannot be. -/
def rboxSyncRebuildEntry (guid : String) :
    List RadosMail → Nat → MailXattrs → Option (EntryResult γ)
  | [], _, objs => some ⟨true, [], [], objs⟩
  | m :: ms, uid, objs =>
    if m.mailboxGuid ≠ guid ∨ m.restored then
      (rboxSyncRebuildEntry guid ms uid objs).map fun r => { r with mails := m :: r.mails }
    else
      (rboxSyncAddObject E p m uid objs).bind fun a =>
        match a.1 with
        | none => some ⟨false, m :: ms, [], a.2⟩
        | some record =>
          (rboxSyncRebuildEntry guid ms ((uid + 1) % 2 ^ 32) a.2).map fun r =>
            { r with
              mails := { m with restored := true } :: r.mails
              records := record :: r.records }

/-- The uid of the first mail. -/
def BoxIndex.firstUid (b : BoxIndex γ) : Nat := if b.nextUid ≠ 0 then b.nextUid else 1

/-- `rbox_sync_update_header`. -/
def nextRebuildCount (n : Nat) : Nat := if (n + 1) % 2 ^ 32 = 0 then 1 else (n + 1) % 2 ^ 32

/-- The condition for `already rebuilt by someone else`. -/
def alreadyRebuilt (force : Bool) (corrupted : Nat) (b : RebuildBox γ) : Bool :=
  !force && b.index.rebuildCount ≠ corrupted && b.index.rebuildCount ≠ 0

/-- `rbox_sync_index_rebuild` with `rbox_sync_index_rebuild_objects`. A rebuild that fails is
    rolled back; the marks of the mails it has added stay. -/
def rboxSyncIndexRebuild (force : Bool) (b : RebuildBox γ) (s : RebuildStore) :
    Option (RebuildBox γ × RebuildStore) :=
  if alreadyRebuilt force s.corrupted b then some (b, { s with corrupted := 0 })
  else
    (rboxSyncRebuildEntry E p b.info.guid s.mails b.index.firstUid s.objs).map fun r =>
      (if r.ok && b.info.commits p then
        { b with index := ⟨r.records, (b.index.firstUid + r.records.length) % 2 ^ 32,
            nextRebuildCount b.index.rebuildCount⟩ }
        else b,
        { s with corrupted := 0, mails := r.mails, objs := r.objs })

/-! ## 3. The namespaces -/

/-- `load_rados_mail_metadata`. -/
def loadRadosMailMetadata (objs : MailXattrs) (mailList : List String) : List RadosMail :=
  mailList.filterMap fun oid =>
    if E.loads p oid then
      (objs oid).bind fun x =>
        if validateMetadata x then some { oid := oid, metadata := x } else none
    else none

/-- The set of objects the configured search finds, in its order: a listing of the namespace, or the
    ceph index. -/
def RebuildStore.mailList (s : RebuildStore) : List String :=
  Lib.orderedSet (if E.searchMethod = 2 then s.cephIndex else s.oids)

/-- The part of `repair_namespace` that loads the mails, if none are loaded. -/
def loadMails (s : RebuildStore) : RebuildStore :=
  if s.mails.isEmpty then
    let mails := loadRadosMailMetadata E p s.objs (s.mailList E)
    { s with
      mails := mails
      cephIndex := if E.searchMethod = 2 ∧ E.overwrites p then mails.map (·.oid) else s.cephIndex }
  else s

/-- The mailbox is not what ends the loop of `repair_namespace`. -/
def BoxInfo.enters (b : BoxInfo) : Bool := b.ownStorage && !b.isVirtual && b.opens p

/-- The loop of `repair_namespace` over the listed mailboxes. Its return code is not looked at. -/
def repairBoxes (force : Bool) :
    List (RebuildBox γ) → RebuildStore → Option (List (RebuildBox γ) × RebuildStore)
  | [], s => some ([], s)
  | b :: bs, s =>
    if !b.info.selectable then (repairBoxes force bs s).map fun r => (b :: r.1, r.2)
    else if !b.info.enters p then some (b :: bs, s)
    else
      (rboxSyncIndexRebuild E p force b (loadMails E p s)).bind fun v =>
        (repairBoxes force bs v.2).map fun r => (v.1 :: r.1, r.2)

/-- `repair_namespace`; mailboxes that a failing iteration does not hand out stay as they are. -/
def repairNamespace (force : Bool) (ns : MailNamespace (RebuildBox γ)) (s : RebuildStore) :
    Option (MailNamespace (RebuildBox γ) × RebuildStore) :=
  (repairBoxes E p force ns.listed s).map fun r =>
    ({ ns with boxes := r.1 ++ ns.unlisted }, r.2)

/-- The loop of `rbox_storage_rebuild_in_context` over the namespaces. -/
def repairNamespaces (force : Bool) :
    List (MailNamespace (RebuildBox γ)) → RebuildStore →
      Option (List (MailNamespace (RebuildBox γ)) × RebuildStore)
  | [], s => some ([], s)
  | ns :: nss, s =>
    (repairNamespace E p force ns s).bind fun v =>
      (repairNamespaces force nss v.2).map fun r => (v.1 :: r.1, r.2)

/-- The loop of `find_inbox_mailbox_guid`: `none` where it returns -1, and then whether INBOX was
    met. -/
def findInboxBoxes : List BoxInfo → Option String → Option (Option String)
  | [], found => some found
  | b :: bs, found =>
    if !b.selectable then findInboxBoxes bs found
    else if b.isVirtual then none
    else if !b.opensInSearch p then none
    else findInboxBoxes bs (if b.vname = "INBOX" then some b.guid else found)

/-- `find_inbox_mailbox_guid`. -/
def findInboxMailboxGuid (ns : MailNamespace BoxInfo) : Option String :=
  if ns.iterDeinit < 0 then none else (findInboxBoxes p ns.listed none).join

/-- `find_default_mailbox_guid`. -/
def findDefaultMailboxGuid (nss : List (MailNamespace BoxInfo)) : Option String :=
  nss.findSome? (findInboxMailboxGuid p)

/-! ## 4. The rebuild -/

/-- A rewritten object: its oid, and its mailbox guid before. -/
structure Rewrite where
  oid : String
  before : Option String
  deriving DecidableEq, Repr

/-- The loop that gives the unassigned mails to INBOX. -/
def reassign (guid : String) : List RadosMail → MailXattrs → List Rewrite × MailXattrs
  | [], objs => ([], objs)
  | m :: ms, objs =>
    if m.restored || !E.operates p m.oid then reassign guid ms objs
    else
      let r := reassign guid ms
        (setXattr "M" guid m.oid (setXattr "U" (toString intMax) m.oid objs))
      (⟨m.oid, (objs m.oid).bind (· "M")⟩ :: r.1, r.2)

/-- The user's namespaces and the store. -/
structure RebuildState (γ : Type) where
  namespaces : List (MailNamespace (RebuildBox γ))
  store : RebuildStore

/-- The namespaces without the indexes. -/
def RebuildState.infos (st : RebuildState γ) : List (MailNamespace BoxInfo) :=
  st.namespaces.map (·.map (·.info))

/-- The first half of `rbox_storage_rebuild_in_context`: `none` where the process ends. -/
def rebuildPass (force : Bool) (st : RebuildState γ) : Option (RebuildState γ) :=
  if (findInbox st.namespaces).isEmpty then none
  else
    (repairNamespaces E p force (findInbox st.namespaces) { st.store with mails := [] }).map
      fun r => ⟨st.namespaces.takeWhile (fun ns => !ns.inboxUser) ++ r.1, r.2⟩

/-- The second half: the rewritten objects and the result, which is `again`'s once something is
    unassigned and INBOX is found. -/
def assignUnassigned (again : RebuildState γ → List Rewrite × Option (Int × RebuildState γ))
    (st : RebuildState γ) : List Rewrite × Option (Int × RebuildState γ) :=
  if st.store.mails.all (·.restored) then ([], some (0, st))
  else match findDefaultMailboxGuid p (findInbox st.infos) with
    | none => ([], some (0, st))
    | some guid =>
      let r := reassign E p guid st.store.mails st.store.objs
      let q := again { st with store := { st.store with objs := r.2 } }
      (r.1 ++ q.1, q.2)

/-- `rbox_storage_rebuild_in_context(r_storage, force, false)`. -/
def rebuildAgain (force : Bool) (st : RebuildState γ) :
    List Rewrite × Option (Int × RebuildState γ) :=
  match rebuildPass E .second force st with
  | none => ([], none)
  | some st => assignUnassigned E .second (fun st => ([], some (-1, st))) st

/-- **`rbox_storage_rebuild_in_context(r_storage, force, true)`**: the objects it has rewritten, and
    the return code with the state, `none` where the process ends. -/
def rboxStorageRebuildInContext (force : Bool) (st : RebuildState γ) :
    List Rewrite × Option (Int × RebuildState γ) :=
  match rebuildPass E .first force st with
  | none => ([], none)
  | some st => assignUnassigned E .first (rebuildAgain E force) st

end Model

/-! ## 5. The uid of validated metadata -/

section Uid

variable {γ : Type}

theorem uid_digits_of_valid {x : Xattrs} (h : validateMetadata x = true) :
    ∃ u, x "U" = some u ∧ ∀ c ∈ u.toList, c.isDigit = true := by
  simp only [validateMetadata, Bool.and_eq_true] at h
  have hu : isNumeric (x "U") = true := h.1.1.1.1.1.1.1
  cases hx : x "U" with
  | none =>
      rw [hx] at hu
      cases hu
  | some u =>
      rw [hx] at hu
      exact ⟨u, rfl, List.all_eq_true.mp hu⟩

/-- **Which uids of validated metadata `rbox_sync_add_object` converts.** -/
theorem validated_uid_converts_iff (E : RebuildEnv γ) (p : Pass) (m : RadosMail) (nextUid : Nat)
    (objs : MailXattrs) (h : validateMetadata m.metadata = true) :
    ((rboxSyncAddObject E p m nextUid objs).isSome = true ∧
        ∃ u, m.metadata "U" = some u ∧ stoi u = some (digitsValue u : Int)) ↔
      ∀ u, m.metadata "U" = some u → u ≠ "" ∧ digitsValue u ≤ intMax := by
  obtain ⟨u, hu, hdigits⟩ := uid_digits_of_valid h
  have hstoi := stoi_digits hdigits
  constructor
  · rintro ⟨_, u', hu', hconv⟩ u'' hu''
    rw [hu] at hu' hu''
    cases hu'
    cases hu''
    rw [hstoi] at hconv
    split at hconv
    case isTrue => cases hconv
    case isFalse hne =>
      split at hconv
      case isTrue hle => exact ⟨hne, hle⟩
      case isFalse => cases hconv
  · intro hfits
    obtain ⟨hne, hle⟩ := hfits u hu
    rw [if_neg hne, if_pos hle] at hstoi
    refine ⟨?_, u, hu, hstoi⟩
    rw [rboxSyncAddObject, hu, Option.bind_some, hstoi, Option.bind_some]
    split <;> rfl

end Uid

/-- Metadata with everything `validate_metadata` asks for. -/
def xattrsWithUid (uid : String) : Xattrs
  | "U" => some uid
  | "R" => some "1500000000"
  | "Z" => some "2"
  | "V" => some "4"
  | "M" => some "ababababababababababababababab01"
  | "G" => some "cdcdcdcdcdcdcdcdcdcdcdcdcdcdcd01"
  | _ => none

/-- Guid parsers that take every text. -/
def textGuids : RebuildEnv String where
  guidFromString := some
  guidFromUuidString := some

theorem uid_seven_converts :
    validateMetadata (xattrsWithUid "7") = true ∧
      (rboxSyncAddObject textGuids .first { oid := "a1", metadata := xattrsWithUid "7" } 12
          fun _ => none).isSome = true ∧
      ∃ u, xattrsWithUid "7" "U" = some u ∧ stoi u = some (digitsValue u : Int) :=
  ⟨by decide, (validated_uid_converts_iff textGuids .first
    { oid := "a1", metadata := xattrsWithUid "7" } 12 (fun _ => none) (by decide)).mpr
    fun u hu => by
      cases hu
      decide⟩

/-- The empty uid is valid, and ends the process. -/
theorem empty_uid_ends_rebuild :
    validateMetadata (xattrsWithUid "") = true ∧
      rboxSyncAddObject textGuids .first { oid := "a1", metadata := xattrsWithUid "" } 12
          (fun _ => none) = none ∧
      validateMetadata (xattrsWithUid "2147483648") = true ∧
      rboxSyncAddObject textGuids .first { oid := "a1", metadata := xattrsWithUid "2147483648" } 12
          (fun _ => none) = none := by
  have hbig : stoi "2147483648" = none := by decide
  refine ⟨by decide, rfl, by decide, ?_⟩
  show (stoi "2147483648").bind _ = none
  rw [hbig]
  rfl

end DovecotCeph
