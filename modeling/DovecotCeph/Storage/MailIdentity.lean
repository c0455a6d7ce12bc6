/-
  File:      DovecotCeph/Storage/MailIdentity.lean
  Subject:   The guid of a mail: what saving (rbox-save.cpp) and copying (rbox-copy.cpp) write into
             the index record and leave in the attribute `G`, and what a rebuild makes of it.

  A saved mail has the guid of its record in `G`. A copied one inherits `G` from its source; a guid
  the caller has preset goes to the record alone. Under the ima module the uid of a copied mail is
  written with the document of a mail that has no other metadata.
  * `setupMailObject`, `fetchGuid`: where the guid comes from;
  * `Identified`: what holds along the operations;
  * **`identities_restored_iff`**: in which runs a rebuild restores all mails.
-/
import DovecotCeph.Librmb.MetadataStorage
import DovecotCeph.Storage.CephIndexRuns
import DovecotCeph.Storage.SaveMetadata

namespace DovecotCeph

open Lib

/-! ## 1. Guids -/

/-- `find_and_replace(&str, "-", "")`, by `findAndReplace_hyphen`. -/
def removeHyphens (s : String) : String := String.ofList (s.toList.filter (· ≠ '-'))

/-- Guids with their hyphenated texts (`guid_128_to_uuid_string` in the record format), and the
    digest that stands for a text that is no guid. -/
structure MailGuids (γ : Type) extends Guid128 γ where
  toUuidString : γ → String
  digest : String → γ
  isEmpty : γ → Bool
  noHyphen : ∀ g, '-' ∉ (toString g).toList
  ofUuidString_toString : ∀ g, ofUuidString (toString g) = some g
  ofUuidString_toUuidString : ∀ g, ofUuidString (toUuidString g) = some g
  removeHyphens_toUuidString : ∀ g, removeHyphens (toUuidString g) = toString g

namespace MailGuids

variable {γ : Type} (G : MailGuids γ)

/-- `mail_generate_guid_128_hash`. -/
def generateHash (s : String) : γ := (G.ofString s).getD (G.digest s)

/-- `setup_mail_object`: the guid, and whether it is kept in the hyphenated format. -/
def setupMailObject (dataGuid : Option String) (generated : γ) : γ × Bool :=
  match dataGuid with
  | some text => (G.generateHash (removeHyphens text), text.toList.contains '-')
  | none => (generated, false)

end MailGuids

/-! ## 2. Objects and records -/

/-- The pools, with the attributes of the objects. -/
abbrev AttrObjects := MailPool → String → Option AttrObject

def AttrObjects.put (objs : AttrObjects) (pool : MailPool) (oid : String) (o : AttrObject) :
    AttrObjects := fun p x => if p = pool ∧ x = oid then some o else objs p x

/-- A mail of an index: its record, the guid in the cache file, and the pool its object was written
    to. -/
structure IndexedMail (γ : Type) where
  oid : γ
  guid : γ
  pool : MailPool
  cachedGuid : Option String := none

structure IdentityStore (γ : Type) where
  objs : AttrObjects
  records : List (IndexedMail γ)

/-- What saving and copying read of the configuration. The attribute of the ima module is none of
    the metadata keys. -/
structure IdentitySetup (γ : Type) where
  guids : MailGuids γ
  json : Jansson
  cfg : MetadataCfg
  storage : MetadataModule
  mailAttributes : String
  lawful : json.Lawful
  ownAttribute : ∀ c, String.singleton c ≠ cfg.metadataStorageAttribute

/-- How a guid is fetched: whether the cache file still has it, whether the metadata can be loaded,
    at the first and at the second attempt, and whether the guid is put into the cache. -/
structure FetchEnv where
  pool : MailPool := .primary
  hit : Bool := true
  loads : Bool := true
  reloads : Bool := true
  caches : Bool := true

/-- A mail that is saved; `ms` is the pool the metadata storage is at when the uid is written. -/
structure SavedGuid (γ : Type) where
  oid : γ
  generated : γ
  dataGuid : Option String := none
  mail : MailToSave
  keywords : Attrs := ∅
  ioloopTime : Int64 := 0
  uid : UInt32
  ms : MailPool := .primary

/-- The mailbox a mail is copied to, and `data.received_date`. -/
structure CopyTarget where
  mailboxGuid : String
  receivedDate : Int64
  boxName : String

/-- A mail that is copied, from the pool the flags of its source name. -/
structure CopiedGuid (γ : Type) extends CopyTarget where
  src : Nat
  oid : γ
  generated : γ
  dataGuid : Option String := none
  fetch : FetchEnv := {}
  copiesCache : Bool := true
  uid : UInt32
  ms : MailPool := .primary

/-- A mail is saved or copied, or its guid is fetched. -/
inductive IdentityOp (γ : Type) where
  | save (a : SavedGuid γ)
  | copy (a : CopiedGuid γ)
  | fetch (i : Nat) (e : FetchEnv)

/-- `attrset` of a mail that is saved. -/
def savedAttrs (x : Xattrs) : Attrs :=
  "IMGRPOAVZFCB".toList.foldl (fun m key => match x (String.singleton key) with
    | some v => m.insert (String.singleton key) (v ++ "\x00")
    | none => m) ∅

namespace IdentitySetup

variable {γ : Type} (S : IdentitySetup γ)

/-- `G` of an object, as `load_metadata` and `get_metadata` find it. -/
def shownGuid (o : AttrObject) : Option String := S.storage.shown S.json S.cfg o "G"

/-- Guid and oid as `rbox_sync_add_object` derives them. -/
def derivedIdentity (oid : String) (o : AttrObject) : Option (γ × γ) :=
  (S.guids.ofString oid).bind fun oid =>
    ((S.shownGuid o).bind S.guids.ofUuidString).map fun guid => (guid, oid)

/-- `set_metadata` with the uid. -/
def writeUid (mail : MailAttrs) (uid : UInt32) (o : AttrObject) : AttrObject :=
  (S.storage.set S.json S.cfg mail "U" (toString uid.toNat ++ "\x00") o).2

/-- `rbox_save_assign_uids` for one mail. -/
def assignUid (mail : MailAttrs) (uid : UInt32) (ms : MailPool) (oid : String)
    (objs : AttrObjects) : AttrObjects :=
  if isMailAttribute S.mailAttributes 'U' then
    objs.put ms oid (S.writeUid mail uid ((objs ms oid).getD .new))
  else objs

/-- The text a guid is saved as. -/
def guidText (g : γ × Bool) : String :=
  if g.2 then S.guids.toUuidString g.1 else S.guids.toString g.1

/-- The metadata of a mail that is saved. -/
def savedMetadataOf (a : SavedGuid γ) : MailAttrs where
  metadata := savedAttrs (rboxSaveMailSetMetadata S.mailAttributes a.ioloopTime
    { a.mail with mailGuid := S.guidText (S.guids.setupMailObject a.dataGuid a.generated) })
  extended := a.keywords

/-- A mail is saved, to the primary pool, and committed. -/
def save (a : SavedGuid γ) (s : IdentityStore γ) : IdentityStore γ where
  objs := S.assignUid (S.savedMetadataOf a) a.uid a.ms (S.guids.toString a.oid)
    (s.objs.put .primary (S.guids.toString a.oid)
      (S.storage.save S.json S.cfg (S.savedMetadataOf a) .new))
  records := s.records ++
    [⟨a.oid, (S.guids.setupMailObject a.dataGuid a.generated).1, .primary, none⟩]

/-- `G` of a mail's object, if it can be loaded. -/
def loadedGuid (loads : Bool) (pool : MailPool) (objs : AttrObjects) (r : IndexedMail γ) :
    Option String :=
  if loads then (objs pool (S.guids.toString r.oid)).bind S.shownGuid else none

/-- `rbox_get_guid_metadata`: the guid of the record; an empty one is restored from `G`. -/
def recordGuid (e : FetchEnv) (objs : AttrObjects) (r : IndexedMail γ) :
    Option String × IndexedMail γ :=
  if S.guids.isEmpty r.guid then
    match S.loadedGuid e.reloads e.pool objs r with
    | none => (none, r)
    | some text =>
      match S.guids.ofUuidString text with
      | none => (none, r)
      | some guid => (some text, { r with guid := guid })
  else (some (S.guids.toString r.guid), r)

/-- `rbox_mail_get_special` for the guid. -/
def fetchGuid (e : FetchEnv) (objs : AttrObjects) (r : IndexedMail γ) :
    Option String × IndexedMail γ :=
  match if e.hit then r.cachedGuid else none with
  | some text => (some text, r)
  | none =>
    match S.loadedGuid e.loads e.pool objs r with
    | some text => (some text, if e.caches then { r with cachedGuid := some text } else r)
    | none => S.recordGuid e objs r

/-- `data.guid` of a copy, after `rbox_mail_save_copy_default_metadata`; `none` where that fails. -/
def copyGuid (a : CopiedGuid γ) (objs : AttrObjects) (r : IndexedMail γ) :
    Option (Option String) × IndexedMail γ :=
  match a.dataGuid with
  | some text => (some (some text), r)
  | none =>
    let f := S.fetchGuid a.fetch objs r
    (f.1.map fun text => if text = "" then none else some text, f.2)

/-- `set_mailbox_metadata`. -/
def setMailboxMetadata (a : CopyTarget) : List (String × String) :=
  [("M", a.mailboxGuid ++ "\x00"), ("R", toString a.receivedDate.toInt ++ "\x00")] ++
    if S.cfg.isUpdateAttributes && S.cfg.isUpdateableAttribute "B" then
      [("B", a.boxName ++ "\x00")] else []

/-- The object of a copy. -/
def copiedObject (a : CopyTarget) (o : AttrObject) : AttrObject :=
  (S.setMailboxMetadata a).foldl (fun o e => o.setxattr e.1 e.2) o

/-- A mail is copied, in the pool of its source, and committed. The uid is written with a new
    `RadosMail`. -/
def copy (a : CopiedGuid γ) (s : IdentityStore γ) : IdentityStore γ :=
  match s.records[a.src]? with
  | none => s
  | some r =>
    let c := S.copyGuid a s.objs r
    let records := s.records.set a.src c.2
    match c.1, s.objs a.fetch.pool (S.guids.toString r.oid) with
    | some dataGuid, some o =>
      { objs := S.assignUid .new a.uid a.ms (S.guids.toString a.oid)
          (s.objs.put a.fetch.pool (S.guids.toString a.oid) (S.copiedObject a.toCopyTarget o))
        records := records ++
          [⟨a.oid, (S.guids.setupMailObject dataGuid a.generated).1, a.fetch.pool,
            if a.copiesCache then c.2.cachedGuid else none⟩] }
    | _, _ => { s with records := records }

/-- **One operation.** -/
def step (s : IdentityStore γ) : IdentityOp γ → IdentityStore γ
  | .save a => S.save a s
  | .copy a => S.copy a s
  | .fetch i e =>
    match s.records[i]? with
    | none => s
    | some r => { s with records := s.records.set i (S.fetchGuid e s.objs r).2 }

/-- **A rebuild restores all mails.** -/
def Restores (s : IdentityStore γ) : Prop :=
  ∀ r ∈ s.records, (s.objs r.pool (S.guids.toString r.oid)).bind
    (S.derivedIdentity (S.guids.toString r.oid)) = some (r.guid, r.oid)

instance [DecidableEq γ] (s : IdentityStore γ) : Decidable (S.Restores s) :=
  inferInstanceAs (Decidable (∀ r ∈ s.records, _))

/-- `guid_128_generate`: an oid that no object has. -/
def Fresh (s : IdentityStore γ) : IdentityOp γ → Prop
  | .save a => ∀ pool, s.objs pool (S.guids.toString a.oid) = none
  | .copy a => ∀ pool, s.objs pool (S.guids.toString a.oid) = none
  | .fetch .. => True

/-- The ima module writes its document when a uid is set. -/
def UidInDocument : Prop :=
  S.storage = .ima ∧ isMailAttribute S.mailAttributes 'U' = true ∧
    S.cfg.isUpdateableAttribute "U" = false

instance : Decidable S.UidInDocument := inferInstanceAs (Decidable (_ ∧ _ ∧ _))

/-- **The condition on an operation**: `G` is configured; the object that is copied has it, a preset
    guid is that of the source, and the document with the uid does not take the place of `G`. -/
def IdentityOk (s : IdentityStore γ) : IdentityOp γ → Prop
  | .save _ => isMailAttribute S.mailAttributes 'G' = true
  | .copy a => ∀ r o, s.records[a.src]? = some r →
      s.objs a.fetch.pool (S.guids.toString r.oid) = some o →
      (S.copyGuid a s.objs r).1.isSome = true →
      S.shownGuid o ≠ none ∧
        (∀ text, a.dataGuid = some text → S.guids.generateHash (removeHyphens text) = r.guid) ∧
        (S.UidInDocument → a.ms = a.fetch.pool → o.xattrs.lookup "G" ≠ none)
  | .fetch .. => True

/-- A text of the guid. -/
structure TextOf (guid : γ) (text : String) : Prop where
  ofUuid : S.guids.ofUuidString text = some guid
  hash : S.guids.generateHash (removeHyphens text) = guid
  ne_empty : text ≠ ""

/-- **What holds along the operations**: the objects of a mail that have `G` have a text of its guid
    there, the one it was written to has it, and so has the cache. -/
structure Identified (s : IdentityStore γ) : Prop where
  object : ∀ r ∈ s.records, ∃ o, s.objs r.pool (S.guids.toString r.oid) = some o ∧
    S.shownGuid o ≠ none
  text : ∀ r ∈ s.records, ∀ pool o text, s.objs pool (S.guids.toString r.oid) = some o →
    S.shownGuid o = some text → S.TextOf r.guid text
  cached : ∀ r ∈ s.records, ∀ text, r.cachedGuid = some text → S.TextOf r.guid text

end IdentitySetup

/-! ## 3. Texts -/

section Texts

variable {γ : Type} {S : IdentitySetup γ}

theorem mem_removeHyphens {c : Char} {s : String} :
    c ∈ (removeHyphens s).toList ↔ c ∈ s.toList ∧ c ≠ '-' := by
  rw [removeHyphens, String.toList_ofList, List.mem_filter, decide_eq_true_eq]

theorem removeHyphens_of_not_mem {s : String} (h : '-' ∉ s.toList) : removeHyphens s = s := by
  have hall : ∀ c ∈ s.toList, decide (c ≠ '-') = true := by
    intro c hc
    refine decide_eq_true fun heq => h ?_
    rw [← heq]
    exact hc
  rw [removeHyphens, List.filter_eq_self.mpr hall, String.ofList_toList]

theorem noNul_toUuidString (G : MailGuids γ) (g : γ) : '\x00' ∉ (G.toUuidString g).toList := by
  intro h
  have hmem : '\x00' ∈ (removeHyphens (G.toUuidString g)).toList :=
    mem_removeHyphens.mpr ⟨h, by decide⟩
  rw [G.removeHyphens_toUuidString] at hmem
  exact (G.indexOid g).noNul hmem

/-- The compact text. -/
theorem textOf_toString (g : γ) : S.TextOf g (S.guids.toString g) where
  ofUuid := S.guids.ofUuidString_toString g
  hash := by
    rw [removeHyphens_of_not_mem (S.guids.noHyphen g), MailGuids.generateHash,
      S.guids.ofString_toString, Option.getD_some]
  ne_empty := (S.guids.indexOid g).ne_empty

/-- The text a mail is saved with, in either format. -/
theorem textOf_guidText (g : γ × Bool) : S.TextOf g.1 (S.guidText g) := by
  unfold IdentitySetup.guidText
  split
  case isFalse => exact textOf_toString g.1
  case isTrue =>
    have hcompact := @textOf_toString γ S g.1
    refine ⟨S.guids.ofUuidString_toUuidString g.1, ?_, fun hempty => ?_⟩
    · rw [S.guids.removeHyphens_toUuidString, MailGuids.generateHash, S.guids.ofString_toString,
        Option.getD_some]
    · have hremoved := S.guids.removeHyphens_toUuidString g.1
      rw [hempty] at hremoved
      exact hcompact.ne_empty hremoved.symm

theorem cStr_guidText (g : γ × Bool) : cStr (S.guidText g) = S.guidText g := by
  unfold IdentitySetup.guidText
  split
  case isFalse => exact cStr_of_noNul (S.guids.indexOid g.1).noNul
  case isTrue => exact cStr_of_noNul (noNul_toUuidString S.guids g.1)

theorem cStr_append_nul (s : String) : cStr (s ++ "\x00") = cStr s := by
  unfold cStr
  rw [String.toList_append]
  congr 1
  generalize s.toList = cs
  induction cs with
  | nil => rfl
  | cons c cs ih =>
      rw [List.cons_append, List.takeWhile_cons, List.takeWhile_cons, ih]

end Texts

/-! ## 4. The attribute `G` of one object -/

section Attribute

variable {γ : Type} {S : IdentitySetup γ} {o : AttrObject} {mail : MailAttrs} {uid : UInt32}

theorem savedAttrs_lookup (x : Xattrs) (key : String) :
    (savedAttrs x).lookup key =
      if key ∈ "IMGRPOAVZFCB".toList.map String.singleton then (x key).map (· ++ "\x00")
      else none := by
  have hloop : ∀ (keys : List Char) (m : Attrs),
      (keys.foldl (fun m key => match x (String.singleton key) with
        | some v => m.insert (String.singleton key) (v ++ "\x00")
        | none => m) m).lookup key =
        if key ∈ keys.map String.singleton then ((x key).map (· ++ "\x00")).or (m.lookup key)
        else m.lookup key := by
    intro keys
    induction keys with
    | nil => exact fun m => rfl
    | cons c keys ih =>
        intro m
        rw [List.foldl_cons, ih, List.map_cons]
        by_cases hkey : key = String.singleton c
        · simp only [← hkey, List.mem_cons, true_or, if_true]
          cases hx : x key with
          | none => simp
          | some v => simp
        · have hmem : key ∈ String.singleton c :: keys.map String.singleton ↔
              key ∈ keys.map String.singleton := by
            rw [List.mem_cons, or_iff_right hkey]
          simp only [hmem]
          cases x (String.singleton c) with
          | none => rfl
          | some v => rw [AList.lookup_insert_ne hkey]
  rw [savedAttrs, hloop]
  split
  case isTrue => exact Option.or_none
  case isFalse => rfl

theorem guidKey_ne (S : IdentitySetup γ) : "G" ≠ S.cfg.metadataStorageAttribute :=
  S.ownAttribute 'G'

theorem uidKey_ne (S : IdentitySetup γ) : "U" ≠ S.cfg.metadataStorageAttribute := S.ownAttribute 'U'

/-- `G` of the mail that is saved, if it is configured. -/
theorem savedMetadata_guid (a : SavedGuid γ) :
    (S.savedMetadataOf a).metadata.lookup "G" =
      if isMailAttribute S.mailAttributes 'G' then
        some (S.guidText (S.guids.setupMailObject a.dataGuid a.generated) ++ "\x00") else none := by
  rw [IdentitySetup.savedMetadataOf, savedAttrs_lookup, if_pos (by decide)]
  cases hG : isMailAttribute S.mailAttributes 'G' with
  | false => simp +decide [rboxSaveMailSetMetadata, addAttribute_apply, hG]
  | true => simp +decide [rboxSaveMailSetMetadata, addAttribute_apply, hG, cStr_guidText]

/-- The document is written when the uid is set. -/
theorem writeUid_save (h : S.storage = .ima) (hU : S.cfg.isUpdateableAttribute "U" = false) :
    S.writeUid mail uid o = RadosMetadataStorageIma.saveMetadata S.json S.cfg
      (mail.addMetadata "U" (toString uid.toNat ++ "\x00")) o := by
  rw [IdentitySetup.writeUid, h]
  show (RadosMetadataStorageIma.setMetadata _ _ _ _ _ _).2 = _
  rw [RadosMetadataStorageIma.setMetadata, if_neg (by rw [hU]; exact Bool.false_ne_true)]

theorem writeUid_document (h : S.storage = .ima)
    (hU : S.cfg.isUpdateableAttribute "U" = false) :
    S.shownGuid (S.writeUid mail uid o) =
      (if S.cfg.inBlob "G" then (o.xattrs.lookup "G").or (mail.metadata.lookup "G")
        else (mail.metadata.lookup "G").or (o.xattrs.lookup "G")).map cStr := by
  have hlookup : (mail.addMetadata "U" (toString uid.toNat ++ "\x00")).metadata.lookup "G" =
      mail.metadata.lookup "G" := AList.lookup_insert_ne (by decide)
  rw [IdentitySetup.shownGuid, writeUid_save h hU, h, shown_rewrite S.lawful (guidKey_ne S),
    if_neg (by decide : ¬ "G" = "K"), hlookup]
  split <;> rfl

/-- Otherwise the uid is an attribute of its own. -/
theorem writeUid_setxattr (h : ¬ (S.storage = .ima ∧ S.cfg.isUpdateableAttribute "U" = false)) :
    S.writeUid mail uid o = o.setxattr "U" (toString uid.toNat ++ "\x00") := by
  unfold IdentitySetup.writeUid
  cases hS : S.storage with
  | default => rfl
  | ima =>
      cases hU : S.cfg.isUpdateableAttribute "U" with
      | false => exact absurd ⟨hS, hU⟩ h
      | true =>
          show (RadosMetadataStorageIma.setMetadata _ _ _ _ _ _).2 = _
          rw [RadosMetadataStorageIma.setMetadata, if_pos hU]

theorem writeUid_attribute (h : ¬ (S.storage = .ima ∧ S.cfg.isUpdateableAttribute "U" = false)) :
    S.shownGuid (S.writeUid mail uid o) = S.shownGuid o := by
  rw [writeUid_setxattr h]
  exact (shown_setxattr (uidKey_ne S) "G").trans (if_neg (by decide))

/-- The object of a mail that is saved. -/
theorem saved_shown (a : SavedGuid γ) :
    S.shownGuid (S.storage.save S.json S.cfg (S.savedMetadataOf a) .new) =
      ((S.savedMetadataOf a).metadata.lookup "G").map cStr := by
  unfold IdentitySetup.shownGuid
  cases S.storage with
  | default =>
      refine congrArg (Option.map cStr) ?_
      exact RadosMetadataStorageDefault.saveMetadata_xattrs.trans Option.or_none
  | ima =>
      refine (shown_rewrite S.lawful (guidKey_ne S)).trans ?_
      rw [if_neg (by decide : ¬ "G" = "K")]
      split
      case isTrue => rfl
      case isFalse => exact congrArg (Option.map cStr) Option.or_none

/-- It still has `G` when the uid is written. -/
theorem saved_uid_shown (a : SavedGuid γ) (uid : UInt32) :
    S.shownGuid (S.writeUid (S.savedMetadataOf a) uid
        (S.storage.save S.json S.cfg (S.savedMetadataOf a) .new)) =
      ((S.savedMetadataOf a).metadata.lookup "G").map cStr := by
  by_cases hdoc : S.storage = .ima ∧ S.cfg.isUpdateableAttribute "U" = false
  · rw [writeUid_document hdoc.1 hdoc.2, hdoc.1]
    have hxattr : (RadosMetadataStorageIma.saveMetadata S.json S.cfg (S.savedMetadataOf a)
        .new).xattrs.lookup "G" =
          if S.cfg.inBlob "G" then none else (S.savedMetadataOf a).metadata.lookup "G" := by
      rw [RadosMetadataStorageIma.save_xattrs (guidKey_ne S)]
      split
      case isTrue => rfl
      case isFalse => exact Option.or_none
    show (if _ then ((RadosMetadataStorageIma.saveMetadata _ _ _ _).xattrs.lookup _).or _
      else Option.or _ ((RadosMetadataStorageIma.saveMetadata _ _ _ _).xattrs.lookup _)).map _ = _
    rw [hxattr]
    split
    case isTrue => rfl
    case isFalse => rw [Option.or_self]
  · rw [writeUid_attribute hdoc, saved_shown]

/-- The uid on an object that was not there: at most the `G` of the mail. -/
theorem writeUid_new :
    S.shownGuid (S.writeUid mail uid .new) = none ∨
      S.shownGuid (S.writeUid mail uid .new) = (mail.metadata.lookup "G").map cStr := by
  by_cases hdoc : S.storage = .ima ∧ S.cfg.isUpdateableAttribute "U" = false
  · refine Or.inr ?_
    rw [writeUid_document hdoc.1 hdoc.2]
    split
    case isTrue => rfl
    case isFalse => exact congrArg (Option.map cStr) Option.or_none
  · refine Or.inl ?_
    rw [writeUid_attribute hdoc]
    unfold IdentitySetup.shownGuid
    cases S.storage with
    | default => rfl
    | ima =>
        rw [shown_ima, if_neg (guidKey_ne S)]
        unfold RadosMetadataStorageIma.blobText
        rw [if_neg (by decide)]
        rfl

/-- A copy has the other metadata of its source, as attributes of their own or not. -/
theorem copiedObject_other (a : CopyTarget) (o : AttrObject) {key : String}
    (hkey : key ∉ ["M", "R", "B"]) :
    S.storage.shown S.json S.cfg (S.copiedObject a o) key =
        S.storage.shown S.json S.cfg o key ∧
      (S.copiedObject a o).xattrs.lookup key = o.xattrs.lookup key := by
  have hkeys : ∀ e ∈ S.setMailboxMetadata a,
      e.1 ∈ ["M", "R", "B"] ∧ e.1 ≠ S.cfg.metadataStorageAttribute := by
    intro e he
    have hsub : (S.setMailboxMetadata a).map Prod.fst ⊆ ["M", "R", "B"] := by
      unfold IdentitySetup.setMailboxMetadata
      split
      case isTrue => exact List.Subset.refl _
      case isFalse => exact fun x hx => List.mem_append_left ["B"] hx
    have hmem := hsub (List.mem_map_of_mem he)
    refine ⟨hmem, ?_⟩
    have hsingle : ∀ x ∈ ["M", "R", "B"], ∃ c, x = String.singleton c := by
      intro x hx
      simp only [List.mem_cons, List.not_mem_nil, or_false] at hx
      rcases hx with rfl | rfl | rfl
      · exact ⟨'M', rfl⟩
      · exact ⟨'R', rfl⟩
      · exact ⟨'B', rfl⟩
    obtain ⟨c, hc⟩ := hsingle e.1 hmem
    rw [hc]
    exact S.ownAttribute c
  unfold IdentitySetup.copiedObject
  generalize S.setMailboxMetadata a = attrs at hkeys
  induction attrs generalizing o with
  | nil => exact ⟨rfl, rfl⟩
  | cons e attrs ih =>
      obtain ⟨hmem, hattr⟩ := hkeys e List.mem_cons_self
      have hne : ¬ key = e.1 := fun heq => hkey (heq ▸ hmem)
      obtain ⟨hshown, hlookup⟩ := ih (o.setxattr e.1 e.2) fun e' he' =>
        hkeys e' (List.mem_cons_of_mem e he')
      refine ⟨hshown.trans ((shown_setxattr hattr key).trans (if_neg hne)), hlookup.trans ?_⟩
      exact AList.lookup_insert_ne hne

/-- What is shown of an object that has `G` as an attribute of its own. -/
theorem shown_of_xattr {v : String} (h : o.xattrs.lookup "G" = some v) :
    S.shownGuid o = some (cStr v) := by
  unfold IdentitySetup.shownGuid
  cases S.storage with
  | default => exact congrArg (Option.map cStr) h
  | ima =>
      rw [shown_ima, if_neg (guidKey_ne S), h]
      rfl

end Attribute

/-! ## 5. The operations -/

section Operations

variable {γ : Type} {S : IdentitySetup γ} {s : IdentityStore γ} {objs : AttrObjects}
  {pool : MailPool} {oid x : String} {o : AttrObject} {mail : MailAttrs} {uid : UInt32}
  {ms : MailPool} {r : IndexedMail γ}

theorem AttrObjects.put_self : objs.put pool oid o pool oid = some o := if_pos ⟨rfl, rfl⟩

theorem AttrObjects.put_ne {p : MailPool} (h : ¬ (p = pool ∧ x = oid)) :
    objs.put pool oid o p x = objs p x := if_neg h

theorem assignUid_other (h : x ≠ oid) : S.assignUid mail uid ms oid objs pool x = objs pool x := by
  unfold IdentitySetup.assignUid
  split
  case isTrue => exact AttrObjects.put_ne fun heq => h heq.2
  case isFalse => rfl

theorem assignUid_self :
    S.assignUid mail uid ms oid objs pool oid =
      if isMailAttribute S.mailAttributes 'U' = true ∧ pool = ms then
        some (S.writeUid mail uid ((objs ms oid).getD .new)) else objs pool oid := by
  unfold IdentitySetup.assignUid
  by_cases hU : isMailAttribute S.mailAttributes 'U' = true
  · rw [if_pos hU]
    by_cases hms : pool = ms
    · rw [if_pos ⟨hU, hms⟩, hms]
      exact AttrObjects.put_self
    · rw [if_neg fun h => hms h.2]
      exact AttrObjects.put_ne fun h => hms h.1
  · rw [if_neg hU, if_neg fun h => hU h.1]

/-- A rebuild restores what is identified. -/
theorem restores_of_identified (h : S.Identified s) : S.Restores s := by
  intro r hr
  obtain ⟨o, ho, hshown⟩ := h.object r hr
  obtain ⟨text, htext⟩ := Option.ne_none_iff_exists'.mp hshown
  rw [ho, Option.bind_some, IdentitySetup.derivedIdentity, S.guids.ofString_toString,
    Option.bind_some, htext, Option.bind_some, (h.text r hr r.pool o text ho htext).ofUuid]
  rfl

/-- **Fetching a guid**: only the cache of the mail changes, and what is fetched is its guid. -/
theorem fetchGuid_spec (h : S.Identified s) (hr : r ∈ s.records) (e : FetchEnv) :
    (∃ c, (S.fetchGuid e s.objs r).2 = { r with cachedGuid := c } ∧
        ∀ text, c = some text → S.TextOf r.guid text) ∧
      ∀ text, (S.fetchGuid e s.objs r).1 = some text → S.TextOf r.guid text := by
  have hcached := h.cached r hr
  have hsame : ∃ c, r = { r with cachedGuid := c } ∧ ∀ text, c = some text → S.TextOf r.guid text :=
    ⟨r.cachedGuid, rfl, hcached⟩
  have hloaded : ∀ loads text, S.loadedGuid loads e.pool s.objs r = some text →
      S.TextOf r.guid text := by
    intro loads text hload
    unfold IdentitySetup.loadedGuid at hload
    split at hload
    case isFalse => cases hload
    case isTrue =>
      obtain ⟨o, ho, htext⟩ := Option.bind_eq_some_iff.mp hload
      exact h.text r hr e.pool o text ho htext
  unfold IdentitySetup.fetchGuid
  split
  case h_1 text hhit =>
    have htext : r.cachedGuid = some text := by
      split at hhit
      case isTrue => exact hhit
      case isFalse => cases hhit
    refine ⟨hsame, fun text' heq => ?_⟩
    cases heq
    exact hcached text htext
  case h_2 =>
    cases hload : S.loadedGuid e.loads e.pool s.objs r with
    | some text =>
        have htext := hloaded e.loads text hload
        refine ⟨?_, fun text' heq => by cases heq; exact htext⟩
        dsimp only
        by_cases hcaches : e.caches = true
        · rw [if_pos hcaches]
          exact ⟨some text, rfl, fun text' heq => by cases heq; exact htext⟩
        · rw [if_neg hcaches]
          exact hsame
    | none =>
        dsimp only
        unfold IdentitySetup.recordGuid
        split
        case isFalse => exact ⟨hsame, fun text heq => by cases heq; exact textOf_toString r.guid⟩
        case isTrue =>
          cases hreload : S.loadedGuid e.reloads e.pool s.objs r with
          | none => exact ⟨hsame, fun text heq => by cases heq⟩
          | some text =>
              have htext := hloaded e.reloads text hreload
              dsimp only
              rw [htext.ofUuid]
              exact ⟨hsame, fun text' heq => by cases heq; exact htext⟩

/-- The cache of a mail changes. -/
theorem identified_set (h : S.Identified s) {i : Nat} (hi : s.records[i]? = some r)
    {c : Option String} (hc : ∀ text, c = some text → S.TextOf r.guid text) :
    S.Identified { s with records := s.records.set i { r with cachedGuid := c } } := by
  have hr := List.mem_of_getElem? hi
  constructor
  case object =>
    intro r' hr'
    rcases List.mem_or_eq_of_mem_set hr' with hr' | rfl
    · exact h.object r' hr'
    · exact h.object r hr
  case text =>
    intro r' hr'
    rcases List.mem_or_eq_of_mem_set hr' with hr' | rfl
    · exact h.text r' hr'
    · exact h.text r hr
  case cached =>
    intro r' hr'
    rcases List.mem_or_eq_of_mem_set hr' with hr' | rfl
    · exact h.cached r' hr'
    · exact hc

/-- A mail is added, with an oid no object has had. -/
theorem identified_new (h : S.Identified s)
    (hfresh : ∀ pool, s.objs pool (S.guids.toString r.oid) = none)
    (hother : ∀ pool x, x ≠ S.guids.toString r.oid → objs pool x = s.objs pool x)
    (hobject : ∃ o, objs r.pool (S.guids.toString r.oid) = some o ∧ S.shownGuid o ≠ none)
    (htext : ∀ pool o text, objs pool (S.guids.toString r.oid) = some o →
      S.shownGuid o = some text → S.TextOf r.guid text)
    (hcached : ∀ text, r.cachedGuid = some text → S.TextOf r.guid text) :
    S.Identified ⟨objs, s.records ++ [r]⟩ := by
  have hold : ∀ r' ∈ s.records, S.guids.toString r'.oid ≠ S.guids.toString r.oid := by
    intro r' hr' heq
    obtain ⟨o, ho, _⟩ := h.object r' hr'
    rw [heq, hfresh] at ho
    cases ho
  constructor
  case object =>
    intro r' hr'
    rcases List.mem_append.mp hr' with hr' | hr'
    · show ∃ o, objs r'.pool (S.guids.toString r'.oid) = some o ∧ S.shownGuid o ≠ none
      rw [hother _ _ (hold r' hr')]
      exact h.object r' hr'
    · rw [List.mem_singleton.mp hr']
      exact hobject
  case text =>
    intro r' hr' pool o text ho
    rcases List.mem_append.mp hr' with hr' | hr'
    · exact h.text r' hr' pool o text ((hother _ _ (hold r' hr')).symm.trans ho)
    · rw [List.mem_singleton.mp hr'] at ho ⊢
      exact htext pool o text ho
  case cached =>
    intro r' hr'
    rcases List.mem_append.mp hr' with hr' | hr'
    · exact h.cached r' hr'
    · rw [List.mem_singleton.mp hr']
      exact hcached

/-- The objects of a mail that is saved. -/
theorem save_objects {a : SavedGuid γ}
    (hfresh : ∀ pool, s.objs pool (S.guids.toString a.oid) = none) :
    (∃ o, (S.save a s).objs .primary (S.guids.toString a.oid) = some o ∧
      S.shownGuid o = ((S.savedMetadataOf a).metadata.lookup "G").map cStr) ∧
      ∀ pool o, (S.save a s).objs pool (S.guids.toString a.oid) = some o → S.shownGuid o = none ∨
        S.shownGuid o = ((S.savedMetadataOf a).metadata.lookup "G").map cStr := by
  have hprimary : ∃ o, (S.save a s).objs .primary (S.guids.toString a.oid) = some o ∧
      S.shownGuid o = ((S.savedMetadataOf a).metadata.lookup "G").map cStr := by
    show ∃ o, S.assignUid _ _ _ _ _ _ _ = some o ∧ _
    rw [assignUid_self]
    split
    case isTrue hU =>
      rw [← hU.2, AttrObjects.put_self]
      exact ⟨_, rfl, saved_uid_shown a a.uid⟩
    case isFalse =>
      rw [AttrObjects.put_self]
      exact ⟨_, rfl, saved_shown a⟩
  refine ⟨hprimary, fun pool o ho => ?_⟩
  cases pool with
  | primary =>
      obtain ⟨o', ho', hshown⟩ := hprimary
      rw [ho] at ho'
      cases ho'
      exact .inr hshown
  | alt =>
      have halt : ∀ o', (s.objs.put .primary (S.guids.toString a.oid) o') .alt
          (S.guids.toString a.oid) = none := by
        intro o'
        rw [AttrObjects.put_ne fun h => by cases h.1]
        exact hfresh .alt
      have ho' : S.assignUid (S.savedMetadataOf a) a.uid a.ms (S.guids.toString a.oid)
          (s.objs.put .primary (S.guids.toString a.oid) _) .alt (S.guids.toString a.oid) =
            some o := ho
      rw [assignUid_self] at ho'
      split at ho'
      case isTrue hU =>
        rw [← hU.2, halt, Option.getD_none] at ho'
        cases ho'
        exact writeUid_new
      case isFalse =>
        rw [halt] at ho'
        cases ho'

/-- The objects of a mail that is copied, from an object. -/
theorem copy_objects {a : CopiedGuid γ} (o : AttrObject)
    (hfresh : ∀ pool, s.objs pool (S.guids.toString a.oid) = none) :
    (∃ o', S.assignUid .new a.uid a.ms (S.guids.toString a.oid)
        (s.objs.put a.fetch.pool (S.guids.toString a.oid) (S.copiedObject a.toCopyTarget o))
        a.fetch.pool (S.guids.toString a.oid) = some o' ∧
      S.shownGuid o' = if S.UidInDocument ∧ a.ms = a.fetch.pool then
        (o.xattrs.lookup "G").map cStr else S.shownGuid o) ∧
      ∀ pool o', pool ≠ a.fetch.pool → S.assignUid .new a.uid a.ms (S.guids.toString a.oid)
        (s.objs.put a.fetch.pool (S.guids.toString a.oid) (S.copiedObject a.toCopyTarget o)) pool
        (S.guids.toString a.oid) = some o' → S.shownGuid o' = none := by
  obtain ⟨hshown, hxattr⟩ := @copiedObject_other γ S a.toCopyTarget o "G" (by decide)
  constructor
  · rw [assignUid_self]
    by_cases hU : isMailAttribute S.mailAttributes 'U' = true ∧ a.fetch.pool = a.ms
    · rw [if_pos hU, ← hU.2, AttrObjects.put_self]
      refine ⟨_, rfl, ?_⟩
      rw [Option.getD_some]
      by_cases hdoc : S.storage = .ima ∧ S.cfg.isUpdateableAttribute "U" = false
      · have hU' : S.UidInDocument ∧ a.fetch.pool = a.fetch.pool := ⟨⟨hdoc.1, hU.1, hdoc.2⟩, rfl⟩
        rw [writeUid_document hdoc.1 hdoc.2, if_pos hU', hxattr]
        split
        case isTrue => exact congrArg (Option.map cStr) Option.or_none
        case isFalse => rfl
      · rw [writeUid_attribute hdoc, if_neg fun h => hdoc ⟨h.1.1, h.1.2.2⟩]
        exact hshown
    · rw [if_neg hU, AttrObjects.put_self, if_neg fun h => hU ⟨h.1.2.1, h.2.symm⟩]
      exact ⟨_, rfl, hshown⟩
  · intro pool o' hpool ho'
    have hnone : (s.objs.put a.fetch.pool (S.guids.toString a.oid)
        (S.copiedObject a.toCopyTarget o)) pool (S.guids.toString a.oid) = none := by
      rw [AttrObjects.put_ne fun h => hpool h.1]
      exact hfresh pool
    rw [assignUid_self] at ho'
    split at ho'
    case isTrue hU =>
      rw [← hU.2, hnone, Option.getD_none] at ho'
      cases ho'
      rcases @writeUid_new γ S .new a.uid with h | h
      · exact h
      · exact h
    case isFalse =>
      rw [hnone] at ho'
      cases ho'

/-- `data.guid` of a copy: the preset guid, or a text of the guid of the source. -/
theorem copyGuid_spec (h : S.Identified s) (hr : r ∈ s.records) (a : CopiedGuid γ) :
    (∃ c, (S.copyGuid a s.objs r).2 = { r with cachedGuid := c } ∧
        ∀ text, c = some text → S.TextOf r.guid text) ∧
      ∀ dataGuid, (S.copyGuid a s.objs r).1 = some dataGuid →
        ∃ text, dataGuid = some text ∧
          (a.dataGuid = some text ∨ a.dataGuid = none ∧ S.TextOf r.guid text) := by
  unfold IdentitySetup.copyGuid
  cases hpreset : a.dataGuid with
  | some text =>
      refine ⟨⟨r.cachedGuid, rfl, h.cached r hr⟩, fun dataGuid heq => ?_⟩
      cases heq
      exact ⟨text, rfl, .inl rfl⟩
  | none =>
      obtain ⟨hrecord, hfetched⟩ := fetchGuid_spec h hr a.fetch
      refine ⟨hrecord, fun dataGuid heq => ?_⟩
      obtain ⟨text, htext, hdata⟩ := Option.map_eq_some_iff.mp heq
      have hgood := hfetched text htext
      rw [if_neg hgood.ne_empty] at hdata
      exact ⟨text, hdata.symm, .inr ⟨rfl, hgood⟩⟩

/-- A copy is made: the source has an object, and its guid is preset or could be fetched. -/
theorem copy_done {a : CopiedGuid γ} {dataGuid : Option String}
    (hsrc : s.records[a.src]? = some r) (hdata : (S.copyGuid a s.objs r).1 = some dataGuid)
    (ho : s.objs a.fetch.pool (S.guids.toString r.oid) = some o) :
    S.copy a s =
      { objs := S.assignUid .new a.uid a.ms (S.guids.toString a.oid)
          (s.objs.put a.fetch.pool (S.guids.toString a.oid) (S.copiedObject a.toCopyTarget o))
        records := s.records.set a.src (S.copyGuid a s.objs r).2 ++
          [⟨a.oid, (S.guids.setupMailObject dataGuid a.generated).1, a.fetch.pool,
            if a.copiesCache then (S.copyGuid a s.objs r).2.cachedGuid else none⟩] } := by
  unfold IdentitySetup.copy
  rw [hsrc]
  dsimp only
  rw [hdata, ho]

/-- Otherwise nothing is added. -/
theorem copy_idle {a : CopiedGuid γ} (hsrc : s.records[a.src]? = some r)
    (h : (S.copyGuid a s.objs r).1 = none ∨
      s.objs a.fetch.pool (S.guids.toString r.oid) = none) :
    S.copy a s = { s with records := s.records.set a.src (S.copyGuid a s.objs r).2 } := by
  unfold IdentitySetup.copy
  rw [hsrc]
  dsimp only
  rcases h with h | h
  · rw [h]
  · rw [h]
    cases (S.copyGuid a s.objs r).1 <;> rfl

/-- **A copy** keeps the mails identified under its condition. -/
theorem identified_copy (h : S.Identified s) {a : CopiedGuid γ} (hfresh : S.Fresh s (.copy a))
    (hok : S.IdentityOk s (.copy a)) : S.Identified (S.copy a s) := by
  cases hsrc : s.records[a.src]? with
  | none =>
      have hidle : S.copy a s = s := by
        unfold IdentitySetup.copy
        rw [hsrc]
      rw [hidle]
      exact h
  | some r =>
      have hr := List.mem_of_getElem? hsrc
      obtain ⟨⟨c, hc, hcached⟩, hdata⟩ := copyGuid_spec h hr a
      have hset := identified_set h hsrc hcached
      rw [← hc] at hset
      cases hdataGuid : (S.copyGuid a s.objs r).1 with
      | none =>
          rw [copy_idle hsrc (.inl hdataGuid)]
          exact hset
      | some dataGuid =>
          cases ho : s.objs a.fetch.pool (S.guids.toString r.oid) with
          | none =>
              rw [copy_idle hsrc (.inr ho)]
              exact hset
          | some o =>
              obtain ⟨hG, hpreset, hkept⟩ := hok r o hsrc ho (by rw [hdataGuid]; rfl)
              obtain ⟨text, rfl, htext⟩ := hdata dataGuid hdataGuid
              have hguid : (S.guids.setupMailObject (some text) a.generated).1 = r.guid := by
                rcases htext with htext | ⟨_, htext⟩
                · exact hpreset text htext
                · exact htext.hash
              obtain ⟨⟨o', ho', hshown⟩, hother⟩ := @copy_objects γ S s a o hfresh
              have hshown' : S.shownGuid o' = S.shownGuid o := by
                rw [hshown]
                split
                case isFalse => rfl
                case isTrue hdoc =>
                  obtain ⟨v, hv⟩ := Option.ne_none_iff_exists'.mp (hkept hdoc.1 hdoc.2)
                  rw [shown_of_xattr hv, hv]
                  rfl
              rw [copy_done hsrc hdataGuid ho, hguid]
              refine @identified_new γ S _ _ _ hset hfresh ?_ ⟨o', ho', ?_⟩ ?_ ?_
              · intro pool x hx
                exact (assignUid_other hx).trans (AttrObjects.put_ne fun heq => hx heq.2)
              · rw [hshown']
                exact hG
              · intro pool o₁ text₁ ho₁ htext₁
                by_cases hpool : pool = a.fetch.pool
                · subst hpool
                  have heq : o' = o₁ := Option.some.inj (ho'.symm.trans ho₁)
                  rw [← heq, hshown'] at htext₁
                  exact h.text r hr _ o text₁ ho htext₁
                · rw [hother pool o₁ hpool ho₁] at htext₁
                  cases htext₁
              · intro text₁ htext₁
                dsimp only at htext₁
                split at htext₁
                case isTrue =>
                  rw [hc] at htext₁
                  exact hcached text₁ htext₁
                case isFalse => cases htext₁

/-- **The condition is enough** for one operation. -/
theorem identified_step (h : S.Identified s) {op : IdentityOp γ} (hfresh : S.Fresh s op)
    (hok : S.IdentityOk s op) : S.Identified (S.step s op) := by
  cases op with
  | save a =>
      obtain ⟨hprimary, hall⟩ := @save_objects γ S s a hfresh
      have hguid : ((S.savedMetadataOf a).metadata.lookup "G").map cStr =
          some (S.guidText (S.guids.setupMailObject a.dataGuid a.generated)) := by
        have hG : isMailAttribute S.mailAttributes 'G' = true := hok
        rw [savedMetadata_guid, if_pos hG, Option.map_some, cStr_append_nul, cStr_guidText]
      rw [hguid] at hprimary hall
      refine @identified_new γ S s _ ⟨a.oid, (S.guids.setupMailObject a.dataGuid a.generated).1,
        .primary, none⟩ h hfresh ?_ ?_ ?_ ?_
      · intro pool x hx
        exact (assignUid_other hx).trans (AttrObjects.put_ne fun heq => hx heq.2)
      · obtain ⟨o, ho, hshown⟩ := hprimary
        refine ⟨o, ho, ?_⟩
        rw [hshown]
        exact Option.some_ne_none _
      · intro pool o text ho hshown
        rcases hall pool o ho with hnone | hsome
        · rw [hnone] at hshown
          cases hshown
        · rw [hsome] at hshown
          cases hshown
          exact textOf_guidText _
      · exact fun text heq => by cases heq
  | copy a => exact identified_copy h hfresh hok
  | fetch i e =>
      unfold IdentitySetup.step
      dsimp only
      cases hi : s.records[i]? with
      | none => exact h
      | some r =>
          obtain ⟨⟨c, hc, hcached⟩, _⟩ := fetchGuid_spec h (List.mem_of_getElem? hi) e
          dsimp only
          rw [hc]
          exact identified_set h hi hcached

/-- **It is necessary**, too. -/
theorem identityOk_of_restores (h : S.Identified s) {op : IdentityOp γ} (hfresh : S.Fresh s op)
    (hrestores : S.Restores (S.step s op)) : S.IdentityOk s op := by
  cases op with
  | save a =>
      obtain ⟨⟨o, ho, hshown⟩, _⟩ := @save_objects γ S s a hfresh
      have hnew := hrestores ⟨a.oid, (S.guids.setupMailObject a.dataGuid a.generated).1, .primary,
        none⟩ (List.mem_append_right _ List.mem_cons_self)
      have ho' : (S.step s (.save a)).objs .primary (S.guids.toString a.oid) = some o := ho
      rw [ho', Option.bind_some, IdentitySetup.derivedIdentity, hshown, savedMetadata_guid] at hnew
      by_contra hG
      have hG' : ¬ isMailAttribute S.mailAttributes 'G' = true := hG
      rw [if_neg hG', S.guids.ofString_toString] at hnew
      cases hnew
  | copy a =>
      intro r o hsrc ho hguid
      have hr := List.mem_of_getElem? hsrc
      obtain ⟨dataGuid, hdataGuid⟩ := Option.isSome_iff_exists.mp hguid
      obtain ⟨⟨o', ho', hshown⟩, _⟩ := @copy_objects γ S s a o hfresh
      have hstep : S.step s (.copy a) = S.copy a s := rfl
      rw [hstep, copy_done hsrc hdataGuid ho] at hrestores
      have hnew := hrestores _ (List.mem_append_right _ List.mem_cons_self)
      dsimp only at hnew
      rw [ho', Option.bind_some, IdentitySetup.derivedIdentity, S.guids.ofString_toString,
        Option.bind_some] at hnew
      obtain ⟨guid, hderived, heq⟩ := Option.map_eq_some_iff.mp hnew
      obtain ⟨text, htext, hofUuid⟩ := Option.bind_eq_some_iff.mp hderived
      have hsource : S.shownGuid o = some text ∧
          (S.UidInDocument → a.ms = a.fetch.pool → o.xattrs.lookup "G" ≠ none) := by
        rw [hshown] at htext
        split at htext
        case isTrue hdoc =>
          obtain ⟨v, hv, rfl⟩ := Option.map_eq_some_iff.mp htext
          refine ⟨shown_of_xattr hv, fun _ _ => ?_⟩
          rw [hv]
          exact Option.some_ne_none v
        case isFalse hdoc => exact ⟨htext, fun hU hms => absurd ⟨hU, hms⟩ hdoc⟩
      refine ⟨?_, fun preset hpreset => ?_, hsource.2⟩
      · rw [hsource.1]
        exact Option.some_ne_none text
      · have hdata : dataGuid = some preset := by
          unfold IdentitySetup.copyGuid at hdataGuid
          rw [hpreset] at hdataGuid
          exact (Option.some.inj hdataGuid).symm
        have hguid : guid = S.guids.generateHash (removeHyphens preset) := by
          rw [hdata] at heq
          exact congrArg Prod.fst heq
        have hgood := (h.text r hr _ o text ho hsource.1).ofUuid
        rw [hofUuid] at hgood
        rw [← hguid]
        exact Option.some.inj hgood
  | fetch i e => trivial

/-- **When a rebuild restores the mails**: after each operation exactly if all operations meet the
    condition. -/
theorem identities_restored_iff (h : S.Identified s) {ops : List (IdentityOp γ)}
    (hfresh : Along S.step S.Fresh s ops) :
    (∀ pre, pre <+: ops → S.Restores (run S.step s pre)) ↔ Along S.step S.IdentityOk s ops :=
  prefixes_iff_along (I := S.Identified) (D := S.Fresh) (fun _ => restores_of_identified)
    (fun _ _ hi hf hok => identified_step hi hf hok)
    (fun _ _ hi hf hr => identityOk_of_restores hi hf hr) h hfresh

end Operations

/-! ## 6. Two runs -/

/-- A hyphen after each of the lengths. -/
def hyphenate : List Nat → List Char → List Char
  | [], cs => cs
  | n :: ns, cs => cs.take n ++ '-' :: hyphenate ns (cs.drop n)

theorem filter_hyphenate (ns : List Nat) {cs : List Char} (h : '-' ∉ cs) :
    (hyphenate ns cs).filter (· ≠ '-') = cs := by
  have hself : ∀ ds : List Char, ds ⊆ cs → ds.filter (· ≠ '-') = ds := by
    intro ds hds
    refine List.filter_eq_self.mpr fun c hc => decide_eq_true ?_
    rintro rfl
    exact h (hds hc)
  induction ns generalizing cs with
  | nil => exact hself cs (List.Subset.refl cs)
  | cons n ns ih =>
      have hdrop : '-' ∉ cs.drop n := fun hmem => h (List.mem_of_mem_drop hmem)
      have hrest := ih hdrop fun ds hds => hself ds fun c hc => List.mem_of_mem_drop (hds hc)
      rw [hyphenate, List.filter_append, List.filter_cons_of_neg (by decide),
        hself _ (List.take_subset n cs), hrest, List.take_append_drop]

theorem noHyphen_hexGuid (g : HexGuid) : '-' ∉ g.1.toList := by
  intro hmem
  have hg := g.2
  unfold hexGuid at hg
  split at hg
  case isFalse => cases hg
  case isTrue hs => exact absurd (List.all_eq_true.mp hs.2 _ hmem) (by decide)

/-- The hyphenated text. -/
def hexUuidString (g : HexGuid) : String := String.ofList (hyphenate [8, 4, 4, 4] g.1.toList)

theorem removeHyphens_hexUuidString (g : HexGuid) : removeHyphens (hexUuidString g) = g.1 := by
  rw [hexUuidString, removeHyphens, String.toList_ofList, filter_hyphenate _ (noHyphen_hexGuid g)]
  exact String.ofList_toList

/-- Hyphens are skipped. -/
def readUuid (s : String) : Option HexGuid := readHexGuid (removeHyphens s)

theorem readHexGuid_val (g : HexGuid) : readHexGuid g.1 = some g := dif_pos g.2

theorem readUuid_val (g : HexGuid) : readUuid g.1 = some g := by
  rw [readUuid, removeHyphens_of_not_mem (noHyphen_hexGuid g)]
  exact readHexGuid_val g

theorem readUuid_hexUuidString (g : HexGuid) : readUuid (hexUuidString g) = some g := by
  rw [readUuid, removeHyphens_hexUuidString]
  exact readHexGuid_val g

theorem indexOid_val (g : HexGuid) : IndexOid g.1 := indexOid_of_hexGuid g.2

/-- Guids by their hex digits, with both formats. -/
def uuidHexGuids : MailGuids HexGuid where
  toString := Subtype.val
  ofString := readHexGuid
  ofUuidString := readUuid
  ofString_toString := readHexGuid_val
  indexOid := indexOid_val
  toUuidString := hexUuidString
  digest := fun _ => firstGuid
  isEmpty := fun g => g.1.toList.all (· = '0')
  noHyphen := noHyphen_hexGuid
  ofUuidString_toString := readUuid_val
  ofUuidString_toUuidString := readUuid_hexUuidString
  removeHyphens_toUuidString := removeHyphens_hexUuidString

/-- Guid and uid are attributes; the configuration is the default one. -/
def identitySetup (storage : MetadataModule) : IdentitySetup HexGuid where
  guids := uuidHexGuids
  json := jansson
  cfg := {}
  storage := storage
  mailAttributes := "GU"
  lawful := jansson_lawful
  ownAttribute := fun c h => by
    have hlist := congrArg String.toList h
    simp at hlist

/-- A mail is saved with a hyphenated guid. -/
def hyphenatedSave : IdentityOp HexGuid :=
  .save { oid := firstGuid, generated := firstGuid, mail := newMail 0, uid := 1
          dataGuid := some "c0000000-0000-0000-0000-000000000000" }

/-- The mail is copied; perhaps with a guid of its own. -/
def copyWith (dataGuid : Option String) : IdentityOp HexGuid :=
  .copy { src := 0, oid := secondGuid, generated := secondGuid, dataGuid := dataGuid
          mailboxGuid := "m2", receivedDate := 1700000000, boxName := "Sent", uid := 2 }

theorem noMails_identified (storage : MetadataModule) :
    (identitySetup storage).Identified ⟨fun _ _ => none, []⟩ where
  object := fun _ hr => absurd hr List.not_mem_nil
  text := fun _ hr => absurd hr List.not_mem_nil
  cached := fun _ hr => absurd hr List.not_mem_nil

/-- The mail after its guid has been fetched. -/
def hyphenatedSaved : IdentityStore HexGuid :=
  run (identitySetup .default).step ⟨fun _ _ => none, []⟩ [hyphenatedSave, .fetch 0 {}]

theorem copy_keeps_identity :
    (identitySetup .default).Restores (run (identitySetup .default).step ⟨fun _ _ => none, []⟩
      [hyphenatedSave, .fetch 0 {}, copyWith none]) := by
  refine (identities_restored_iff (noMails_identified .default) ?_).mpr ?_ _ List.prefix_rfl
  · refine ⟨fun _ => rfl, trivial, fun pool => ?_, trivial⟩
    cases pool with
    | primary => decide
    | alt => rfl
  · refine ⟨(by decide : isMailAttribute "GU" 'G' = true), trivial,
      fun r o hr ho _ => ⟨?_, fun _ h => (by cases h), fun h => ?_⟩, trivial⟩
    · have hshown : (hyphenatedSaved.records[0]?.bind fun r =>
          hyphenatedSaved.objs .primary r.oid.1).map (identitySetup .default).shownGuid =
            some (some "c0000000-0000-0000-0000-000000000000") := by
        decide
      have hr' : hyphenatedSaved.records[0]? = some r := hr
      have ho' : hyphenatedSaved.objs .primary r.oid.1 = some o := ho
      rw [hr', Option.bind_some, ho', Option.map_some] at hshown
      rw [Option.some.inj hshown]
      exact Option.some_ne_none _
    · cases h.1

/-- A copy with another guid is restored with that of its source, and under the ima module a copy
    is not restored at all. -/
theorem copy_loses_identity :
    ¬ (identitySetup .default).Restores (run (identitySetup .default).step ⟨fun _ _ => none, []⟩
        [hyphenatedSave, copyWith (some "d0000000000000000000000000000000")]) ∧
      ¬ (identitySetup .ima).Restores (run (identitySetup .ima).step ⟨fun _ _ => none, []⟩
        [hyphenatedSave, copyWith none]) := by
  constructor <;> decide +kernel

end DovecotCeph
