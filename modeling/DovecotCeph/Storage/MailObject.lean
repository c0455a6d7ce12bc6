/-
  File:      DovecotCeph/Storage/MailObject.lean
  Subject:   A mail that is opened (rbox-mail.cpp): `rbox_index_mail_set_seq`, `rbox_mail_close`,
             `rbox_get_index_record`, `rbox_mail_metadata_get`, `rbox_mail_get_stream` and what
             dates and copies do to an `rbox_mail`, which remembers the sequence number it has
             looked up last.

  Closing frees the object but not `last_seq`, so that setting the same number again finds nothing
  to look up, and the object stays without an oid.
  * `RboxMail`, `MailCall`: the state of a mail and the calls on it;
  * `readAttempts`: the read of an object, which is repeated after a timeout;
  * **`mail_object_follows_seq_iff`**: in which runs a mail is always that of its number;
  * **`mail_given_up_iff`**: when the read of a mail gives it up as lost;
  * **`saved_mail_read_back`**: what was saved is what is read, also after timeouts.
-/
import DovecotCeph.Storage.MailboxHeader
import DovecotCeph.Storage.MailboxSessions

namespace DovecotCeph

open Lib

/-! ## 1. The mail -/

/-- Two hexadecimal digits. -/
def hexByte (b : UInt8) : List Char :=
  [Nat.digitChar (b.toNat / 16), Nat.digitChar (b.toNat % 16)]

namespace MailGuid

/-- `guid_128_to_string`. -/
def toString (g : MailGuid) : String := String.ofList (g.bytes.flatMap hexByte)

/-- The bytes themselves, taken for a C string. -/
def cString (g : MailGuid) : String := String.ofList ((g.bytes.takeWhile (· ≠ 0)).map byteChar)

end MailGuid

/-- `struct rbox_mail`, with the sequence number and the stream that Dovecot keeps for the mail:
    `radosMail` is the oid of `rados_mail`, `stream` the object it was read from and the bytes. -/
structure RboxMail where
  seq : UInt32 := 0
  lastSeq : UInt32 := 0
  indexOid : MailGuid := .zero
  radosMail : Option String := none
  stream : Option (String × Bytes) := none

/-- A load of the metadata: the connection, the objects, the answer and the attribute asked for. -/
structure MailMetadataEnv where
  conn : Bool := true
  objs : String → Option MailObj
  load : Outcome := .done
  key : String

/-- A read of the object from some pool: whether the connection can be opened, the objects of the
    pool, what RADOS answers to each attempt, and what Dovecot makes of the stream. `sizes` has the
    physical size of the index and that of the metadata if they were loaded before; else `size` is
    their load, behind the read. -/
structure StreamEnv where
  conn : Bool := true
  objs : String → Option MailObj
  answers : Nat → Outcome := fun _ => .done
  sizes : SizeSources := {}
  size : MailMetadataEnv := { objs, key := "Z" }
  opened : Bool := true
  init : Int := 0

/-- What `rbox_mail_get_stream` returns, whether it calls `rbox_mail_set_expunged`, and the mail. -/
structure StreamResult where
  ret : Int
  lost : Bool
  mail : RboxMail

section Reads

variable (objs : String → Option MailObj) (answers : Nat → Outcome) (oid : String)

/-- `read_mail_from_storage`: the return code and the buffer. -/
def readMailFromStorage (o : Outcome) : Int × Bytes :=
  match o with
  | .failed e => (e.1, [])
  | .done => match objs oid with
    | none => (-ENOENT, [])
    | some obj => (0, obj.data)

/-- The read, and up to ten more if it times out. -/
def readAttempts : Int × Bytes :=
  let first := readMailFromStorage objs oid (answers 0)
  if first.1 = -ETIMEDOUT then
    retry (fun r => decide (0 ≤ r.1)) (fun i => readMailFromStorage objs oid (answers i)) 1 10 first
  else first

end Reads

/-- The object is neither empty nor too large, and `check_is_zlib` finds the mark of a compressed
    mail, so that its physical size is asked for. -/
def asksSize (object : Bytes) : Bool :=
  decide (toInt32 object.length ≠ 0) && decide (toInt32 object.length ≠ intMax) &&
    decide (checkIsZlib (object.take intMax) = some true)

/-- The index or the metadata loaded before know the physical size. -/
def SizeSources.Known (sizes : SizeSources) : Prop :=
  sizes.index.isSome = true ∨ sizes.zAttribute.isSome = true

instance (sizes : SizeSources) : Decidable sizes.Known := inferInstanceAs (Decidable (_ ∨ _))

/-- The load finds no object. -/
def MailMetadataEnv.missing (e : MailMetadataEnv) (oid : String) : Bool :=
  e.conn && match e.load with
    | .failed err => decide (err.1 = -ENOENT)
    | .done => (e.objs oid).isNone

/-- The attribute that is loaded. -/
def MailMetadataEnv.value (e : MailMetadataEnv) (oid : String) : Option String :=
  if e.conn ∧ e.load = .done then (e.objs oid).bind (·.xattrs e.key) else none

/-- What the physical size of an object is taken from. -/
def StreamEnv.sizesFound (e : StreamEnv) (oid : String) : SizeSources :=
  if e.sizes.Known then e.sizes else { e.sizes with zAttribute := e.size.value oid }

namespace RboxMail

section Calls

variable (record : UInt32 → Option MailGuid)

/-- `rbox_get_index_record`. -/
def getIndexRecord (m : RboxMail) : Int × RboxMail :=
  if m.lastSeq ≠ m.seq then
    match record m.seq with
    | none => (-1, m)
    | some g => (0, { m with indexOid := g, radosMail := some g.toString, lastSeq := m.seq })
  else (0, m)

/-- `rbox_mail_close`; Dovecot's part closes the stream. -/
def close (m : RboxMail) : RboxMail := { m with radosMail := none, stream := none }

/-- `rbox_index_mail_set_seq`: whether Dovecot's part closes the mail is given. -/
def setSeq (seq : UInt32) (closes : Bool) (m : RboxMail) : RboxMail :=
  let m := { if closes then m.close else m with seq }
  if m.radosMail = none then (getIndexRecord record { m with radosMail := some "" }).2 else m

/-- What several functions do for a mail without object: allocate one and forget the number. -/
def allocRadosMail (m : RboxMail) : RboxMail :=
  if m.radosMail = none then { m with radosMail := some "", lastSeq := -1 } else m

/-- The object, and its oid if it has none. -/
def loadOid (m : RboxMail) : Int × RboxMail :=
  let m := m.allocRadosMail
  if m.radosMail = some "" then getIndexRecord record m else (0, m)

/-- `rbox_mail_metadata_get`: the return code, whether the mail is marked as expunged, the mail. An
    object that has no oid yet gets the bytes of the index record. -/
def metadataGet (e : MailMetadataEnv) (m : RboxMail) : Int × Bool × RboxMail :=
  if !e.conn then (-1, false, m)
  else
    let r := m.loadOid record
    if r.1 < 0 then (-1, false, r.2)
    else
      let m := if r.2.radosMail = some "" then { r.2 with radosMail := some r.2.indexOid.cString }
        else r.2
      match e.load with
      | .failed err => (-1, decide (err.1 = -ENOENT), m)
      | .done => match e.objs (m.radosMail.getD "") with
        | none => (-1, true, m)
        | some obj => (if (obj.xattrs e.key).isSome then 0 else -1, false, m)

/-- What the functions for the dates do for a mail without object. -/
def objectForDate (m : RboxMail) : Int × RboxMail :=
  if m.radosMail = none then getIndexRecord record m.allocRadosMail else (0, m)

/-- `rbox_mail_get_received_date`, as far as it changes the mail: nothing where the index knows the
    date; else the metadata are loaded, or were before. -/
def getReceivedDate (cached loaded : Bool) (e : MailMetadataEnv) (m : RboxMail) : RboxMail :=
  if cached then m
  else
    let r := m.objectForDate record
    if r.1 < 0 ∨ loaded then r.2 else (r.2.metadataGet record e).2.2

/-- `rbox_mail_get_save_date`, as far as it changes the mail: it asks for the status of the object
    and not for metadata. -/
def getSaveDate (cached : Bool) (m : RboxMail) : RboxMail :=
  if cached then m else (m.objectForDate record).2

/-- The source of a copy in `rbox_mail_storage_try_copy`: the number is not forgotten here. -/
def copySource (m : RboxMail) : Int × RboxMail :=
  getIndexRecord record (if m.radosMail = none then { m with radosMail := some "" } else m)

/-- What `rbox_mail_get_physical_size` has to go by, whether the mail is marked as expunged, and
    the mail: if nobody knows the size the metadata are loaded. -/
def sizeSources (e : StreamEnv) (m : RboxMail) : SizeSources × Bool × RboxMail :=
  if e.sizes.Known then (e.sizes, false, m)
  else
    let r := m.metadataGet record e.size
    let z := if r.1 < 0 then none
      else (e.size.objs (r.2.2.radosMail.getD "")).bind (·.xattrs e.size.key)
    ({ e.sizes with zAttribute := z }, r.2.1, r.2.2)

/-- **`rbox_mail_get_stream`**; `none` where it reads outside of the buffer. A mail that is marked
    as expunged because its size cannot be loaded is handed out nevertheless. -/
def getStream (e : StreamEnv) (m : RboxMail) : Option StreamResult :=
  if m.stream.isSome then some ⟨e.init, false, m⟩
  else if !e.conn then some ⟨-1, false, m⟩
  else
    let r := m.loadOid record
    if r.1 < 0 then some ⟨-1, false, r.2⟩
    else
      let oid := r.2.radosMail.getD ""
      if (readMailFromStorage e.objs oid (e.answers 0)).1 = -ENOENT then some ⟨-1, true, r.2⟩
      else
        let read := readAttempts e.objs e.answers oid
        if read.1 < 0 then some ⟨-1, false, r.2⟩
        else
          let size := if asksSize read.2 then r.2.sizeSources record e else (e.sizes, false, r.2)
          (rboxMailGetStream read.2 size.1).map fun
            | .expunged => ⟨-1, true, size.2.2⟩
            | .error => ⟨-1, size.2.1, size.2.2⟩
            | .stream bytes =>
              if e.opened then ⟨e.init, size.2.1, { size.2.2 with stream := some (oid, bytes) }⟩
              else ⟨-1, size.2.1, size.2.2⟩

end Calls

end RboxMail

/-- A call on the mail. -/
inductive MailCall where
  | setSeq (seq : UInt32) (closes : Bool)
  | close
  | getStream (e : StreamEnv)
  | metadata (e : MailMetadataEnv)
  | receivedDate (cached loaded : Bool) (e : MailMetadataEnv)
  | saveDate (cached : Bool)
  | copy

section Runs

variable (record : UInt32 → Option MailGuid)

/-- What a call leaves. -/
def MailCall.step (m : RboxMail) : MailCall → RboxMail
  | .setSeq seq closes => m.setSeq record seq closes
  | .close => m.close
  | .getStream e => ((m.getStream record e).map (·.mail)).getD m
  | .metadata e => (m.metadataGet record e).2.2
  | .receivedDate cached loaded e => m.getReceivedDate record cached loaded e
  | .saveDate cached => m.getSaveDate record cached
  | .copy => (m.copySource record).2

/-- The calls there can be: the mails have index records, Dovecot closes a mail whose number
    changes, and no byte outside of a buffer is read. -/
def MailCall.Allowed (m : RboxMail) : MailCall → Prop
  | .setSeq seq closes => (record seq).isSome = true ∧ seq ≠ -1 ∧ (closes = false → seq = m.seq)
  | .close => True
  | .getStream e => (record m.seq).isSome = true ∧ m.seq ≠ -1 ∧ (m.getStream record e).isSome = true
  | .metadata _ | .receivedDate .. | .saveDate _ | .copy =>
    (record m.seq).isSome = true ∧ m.seq ≠ -1

/-- A mail without object is not set to the number it has looked up last, nor copied when it has
    that number. -/
def MailCall.NotReopened (m : RboxMail) : MailCall → Prop
  | .setSeq seq closes => closes = true ∨ m.radosMail = none → m.lastSeq ≠ seq
  | .copy => m.radosMail = none → m.lastSeq ≠ m.seq
  | .close | .getStream _ | .metadata _ | .receivedDate .. | .saveDate _ => True

/-- **The mail is that of its number**: the object and the stream belong to its index record. -/
structure RboxMail.Own (m : RboxMail) : Prop where
  object : ∀ oid, m.radosMail = some oid → ∃ g, record m.seq = some g ∧ oid = g.toString
  stream : ∀ oid bytes, m.stream = some (oid, bytes) →
    ∃ g, record m.seq = some g ∧ oid = g.toString

end Runs

/-! ## 2. The object of a number -/

section Object

variable {record : UInt32 → Option MailGuid} {m : RboxMail} {g : MailGuid} {oid : String}

theorem MailGuid.toString_length (g : MailGuid) : g.toString.toList.length = 32 := by
  have hlen : ∀ bs : Bytes, (bs.flatMap hexByte).length = 2 * bs.length := by
    intro bs
    induction bs with
    | nil => rfl
    | cons b bs ih =>
        rw [List.flatMap_cons, List.length_append, ih, List.length_cons]
        show 2 + 2 * bs.length = _
        omega
  rw [MailGuid.toString, String.toList_ofList, hlen, g.length_eq]

theorem MailGuid.toString_ne (g : MailGuid) : g.toString ≠ "" := by
  intro h
  have hlen := g.toString_length
  rw [h] at hlen
  exact absurd hlen (by decide)

/-- A look-up for a number that was not looked up last. -/
theorem getIndexRecord_of_ne (hne : m.lastSeq ≠ m.seq) (hg : record m.seq = some g) :
    m.getIndexRecord record =
      (0, { m with indexOid := g, radosMail := some g.toString, lastSeq := m.seq }) := by
  unfold RboxMail.getIndexRecord
  rw [if_pos hne, hg]

/-- **Functions that find no object allocate one and look it up again.** -/
theorem loadOid_of_own (h : m.Own record) (hg : record m.seq = some g) (hseq : m.seq ≠ -1) :
    (m.loadOid record).1 = 0 ∧ (m.loadOid record).2.radosMail = some g.toString ∧
      (m.loadOid record).2.seq = m.seq ∧ (m.loadOid record).2.stream = m.stream := by
  unfold RboxMail.loadOid RboxMail.allocRadosMail
  cases hm : m.radosMail with
  | none =>
      have hne : (-1 : UInt32) ≠ m.seq := fun e => hseq e.symm
      have hlook :=
        getIndexRecord_of_ne (m := { m with radosMail := some "", lastSeq := -1 }) hne hg
      simp [hlook]
  | some oid =>
      obtain ⟨g', hg', rfl⟩ := h.object oid hm
      obtain rfl := Option.some.inj (hg'.symm.trans hg)
      simp [hm, g'.toString_ne]

theorem own_loadOid (h : m.Own record) (hrec : (record m.seq).isSome = true) (hseq : m.seq ≠ -1) :
    (m.loadOid record).2.Own record := by
  obtain ⟨g, hg⟩ := Option.isSome_iff_exists.mp hrec
  obtain ⟨_, hobject, hs, hstream⟩ := loadOid_of_own h hg hseq
  constructor
  case object =>
    intro oid hoid
    rw [hobject] at hoid
    exact ⟨g, hs ▸ hg, (Option.some.inj hoid).symm⟩
  case stream =>
    intro oid bytes hbytes
    rw [hstream] at hbytes
    rw [hs]
    exact h.stream oid bytes hbytes

end Object

/-! ## 3. Runs of calls -/

section Runs

variable {record : UInt32 → Option MailGuid} {m : RboxMail} {g : MailGuid} {a : MailCall}

/-- A mail without object and stream. -/
theorem own_of_none (hobject : m.radosMail = none) (hstream : m.stream = none) : m.Own record := by
  constructor
  case object =>
    intro oid h
    rw [hobject] at h
    cases h
  case stream =>
    intro oid bytes h
    rw [hstream] at h
    cases h

/-- The metadata of a mail whose object has its oid. -/
theorem metadataGet_of_object (e : MailMetadataEnv) {oid : String}
    (hobject : m.radosMail = some oid) (hoid : oid ≠ "") :
    m.metadataGet record e = (if (e.value oid).isSome then 0 else -1, e.missing oid, m) := by
  have hne : ¬ m.radosMail = some "" := by
    rw [hobject]
    exact fun h => hoid (Option.some.inj h)
  have hload : m.loadOid record = (0, m) := by
    have halloc : m.allocRadosMail = m := if_neg (hobject ▸ Option.some_ne_none oid)
    unfold RboxMail.loadOid
    rw [halloc]
    exact if_neg hne
  unfold RboxMail.metadataGet MailMetadataEnv.value MailMetadataEnv.missing
  rw [hload]
  cases e.conn with
  | false => rfl
  | true =>
      dsimp only
      rw [Bool.not_true, if_neg Bool.false_ne_true, if_neg (lt_irrefl 0), if_neg hne, hobject,
        Bool.true_and]
      cases e.load with
      | failed err => rfl
      | done =>
          have hdone : true = true ∧ Outcome.done = .done := ⟨rfl, rfl⟩
          rw [if_pos hdone]
          cases hobj : e.objs oid with
          | none => simp [hobj]
          | some obj => simp [hobj]

/-- A load leaves the mail as the look-up of its object does. -/
theorem metadataGet_mail (e : MailMetadataEnv) (h : m.Own record)
    (hrec : (record m.seq).isSome = true) (hseq : m.seq ≠ -1) :
    (m.metadataGet record e).2.2 = if e.conn then (m.loadOid record).2 else m := by
  obtain ⟨g, hg⟩ := Option.isSome_iff_exists.mp hrec
  obtain ⟨hret, hobject, _, _⟩ := loadOid_of_own h hg hseq
  have hkept : (if (m.loadOid record).2.radosMail = some "" then
      { (m.loadOid record).2 with radosMail := some (m.loadOid record).2.indexOid.cString }
      else (m.loadOid record).2) = (m.loadOid record).2 := by
    rw [if_neg]
    rw [hobject]
    exact fun e => g.toString_ne (Option.some.inj e)
  unfold RboxMail.metadataGet
  cases e.conn with
  | false => rfl
  | true =>
      dsimp only
      rw [hret, Bool.not_true, if_neg Bool.false_ne_true, if_neg (by decide), hkept, if_pos rfl]
      cases e.load with
      | failed err => rfl
      | done =>
          dsimp only
          split
          case h_1 => rfl
          case h_2 => rfl

theorem own_metadataGet (e : MailMetadataEnv) (h : m.Own record)
    (hrec : (record m.seq).isSome = true) (hseq : m.seq ≠ -1) :
    (m.metadataGet record e).2.2.Own record := by
  rw [metadataGet_mail e h hrec hseq]
  split
  case isTrue => exact own_loadOid h hrec hseq
  case isFalse => exact h

/-- The physical size of a mail whose object has its oid. -/
theorem sizeSources_of_object (e : StreamEnv) {oid : String} (hobject : m.radosMail = some oid)
    (hoid : oid ≠ "") :
    m.sizeSources record e =
      (e.sizesFound oid, !decide e.sizes.Known && e.size.missing oid, m) := by
  unfold RboxMail.sizeSources StreamEnv.sizesFound
  by_cases hknown : e.sizes.Known
  · rw [if_pos hknown, if_pos hknown, decide_eq_true hknown]
    rfl
  · rw [if_neg hknown, if_neg hknown, decide_eq_false hknown,
      metadataGet_of_object e.size hobject hoid]
    have hvalue : (if (if (e.size.value oid).isSome then (0 : Int) else -1) < 0 then none
        else (e.size.objs (m.radosMail.getD "")).bind (·.xattrs e.size.key)) =
          e.size.value oid := by
      rw [hobject]
      unfold MailMetadataEnv.value
      by_cases hdone : e.size.conn = true ∧ e.size.load = .done
      · rw [if_pos hdone]
        cases hv : (e.size.objs oid).bind (·.xattrs e.size.key) with
        | none => rfl
        | some v => exact hv
      · rw [if_neg hdone]
        rfl
    dsimp only
    rw [hvalue]
    rfl

/-- **A read of the stream** of a mail that is that of its number and whose stream is not open. -/
theorem getStream_of_own (e : StreamEnv) (h : m.Own record) (hg : record m.seq = some g)
    (hseq : m.seq ≠ -1) (hclosed : m.stream = none) (hconn : e.conn = true) :
    m.getStream record e =
      if (readMailFromStorage e.objs g.toString (e.answers 0)).1 = -ENOENT then
        some ⟨-1, true, (m.loadOid record).2⟩
      else if (readAttempts e.objs e.answers g.toString).1 < 0 then
        some ⟨-1, false, (m.loadOid record).2⟩
      else
        let data := (readAttempts e.objs e.answers g.toString).2
        let lost := asksSize data && (!decide e.sizes.Known && e.size.missing g.toString)
        (rboxMailGetStream data
            (if asksSize data then e.sizesFound g.toString else e.sizes)).map fun
          | .expunged => ⟨-1, true, (m.loadOid record).2⟩
          | .error => ⟨-1, lost, (m.loadOid record).2⟩
          | .stream bytes =>
            if e.opened then
              ⟨e.init, lost, { (m.loadOid record).2 with stream := some (g.toString, bytes) }⟩
            else ⟨-1, lost, (m.loadOid record).2⟩ := by
  obtain ⟨hret, hobject, _, _⟩ := loadOid_of_own h hg hseq
  have hsize := @sizeSources_of_object record (m.loadOid record).2 e g.toString hobject
    g.toString_ne
  unfold RboxMail.getStream
  rw [hclosed, hconn]
  dsimp only [Option.isSome_none]
  rw [if_neg Bool.false_ne_true, Bool.not_true, if_neg Bool.false_ne_true, hret,
    if_neg (lt_irrefl 0), hsize]
  generalize m.loadOid record = loaded at hobject ⊢
  obtain ⟨_, seq, lastSeq, indexOid, radosMail, stream⟩ := loaded
  obtain rfl : radosMail = some g.toString := hobject
  rw [Option.getD_some]
  generalize readAttempts e.objs e.answers g.toString = read
  generalize asksSize read.2 = asks
  cases asks with
  | true => rfl
  | false => rfl

/-- A mail gets its stream from its own object, or keeps the one it has. -/
theorem own_getStream (e : StreamEnv) (h : m.Own record) (hrec : (record m.seq).isSome = true)
    (hseq : m.seq ≠ -1) {r : StreamResult} (hr : m.getStream record e = some r) :
    r.mail.Own record := by
  have hload := own_loadOid h hrec hseq
  obtain ⟨g, hg⟩ := Option.isSome_iff_exists.mp hrec
  obtain ⟨_, hobject, hs, _⟩ := loadOid_of_own h hg hseq
  by_cases hopen : m.stream.isSome = true
  · rw [RboxMail.getStream, if_pos hopen] at hr
    cases hr
    exact h
  by_cases hconn : e.conn = true
  · rw [getStream_of_own e h hg hseq (Option.not_isSome_iff_eq_none.mp hopen) hconn] at hr
    split at hr
    case isTrue =>
      cases hr
      exact hload
    case isFalse =>
      split at hr
      case isTrue =>
        cases hr
        exact hload
      case isFalse =>
        obtain ⟨stream, _, rfl⟩ := Option.map_eq_some_iff.mp hr
        cases stream with
        | expunged => exact hload
        | error => exact hload
        | stream bytes =>
            dsimp only
            split
            case isFalse => exact hload
            case isTrue =>
              refine ⟨hload.object, fun oid bytes' hbytes => ?_⟩
              cases hbytes
              refine ⟨g, ?_, rfl⟩
              show record (m.loadOid record).2.seq = some g
              rw [hs]
              exact hg
  · have hfails : (!e.conn) = true := by
      rw [Bool.eq_false_of_not_eq_true hconn]
      rfl
    rw [RboxMail.getStream, if_neg hopen, if_pos hfails] at hr
    cases hr
    exact h

theorem own_objectForDate (h : m.Own record) (hrec : (record m.seq).isSome = true)
    (hseq : m.seq ≠ -1) :
    (m.objectForDate record).2.Own record ∧ (m.objectForDate record).2.seq = m.seq := by
  unfold RboxMail.objectForDate
  obtain ⟨g, hg⟩ := Option.isSome_iff_exists.mp hrec
  by_cases hnone : m.radosMail = none
  · have hne : (-1 : UInt32) ≠ m.seq := fun e => hseq e.symm
    have hlook :=
      getIndexRecord_of_ne (m := { m with radosMail := some "", lastSeq := -1 }) hne hg
    rw [if_pos hnone, RboxMail.allocRadosMail, if_pos hnone, hlook]
    refine ⟨⟨fun oid hoid => ?_, h.stream⟩, rfl⟩
    exact ⟨g, hg, (Option.some.inj hoid).symm⟩
  · rw [if_neg hnone]
    exact ⟨h, rfl⟩

theorem own_getReceivedDate (cached loaded : Bool) (e : MailMetadataEnv) (h : m.Own record)
    (hrec : (record m.seq).isSome = true) (hseq : m.seq ≠ -1) :
    (m.getReceivedDate record cached loaded e).Own record := by
  obtain ⟨hr, hrs⟩ := own_objectForDate h hrec hseq
  unfold RboxMail.getReceivedDate
  split
  case isTrue => exact h
  case isFalse =>
    dsimp only
    split
    case isTrue => exact hr
    case isFalse => exact own_metadataGet e hr (hrs ▸ hrec) (hrs ▸ hseq)

theorem own_getSaveDate (cached : Bool) (h : m.Own record) (hrec : (record m.seq).isSome = true)
    (hseq : m.seq ≠ -1) : (m.getSaveDate record cached).Own record := by
  unfold RboxMail.getSaveDate
  split
  case isTrue => exact h
  case isFalse => exact (own_objectForDate h hrec hseq).1

/-- A copy starts from the object of the mail, unless there is none and the number was looked up. -/
theorem own_copySource (h : m.Own record) (hrec : (record m.seq).isSome = true)
    (hnew : m.radosMail = none → m.lastSeq ≠ m.seq) : (m.copySource record).2.Own record := by
  obtain ⟨g, hg⟩ := Option.isSome_iff_exists.mp hrec
  unfold RboxMail.copySource
  by_cases hnone : m.radosMail = none
  · have hlook := getIndexRecord_of_ne (m := { m with radosMail := some "" }) (hnew hnone) hg
    rw [if_pos hnone, hlook]
    exact ⟨fun oid hoid => ⟨g, hg, (Option.some.inj hoid).symm⟩, h.stream⟩
  · rw [if_neg hnone]
    by_cases hlast : m.lastSeq = m.seq
    · rw [RboxMail.getIndexRecord, if_neg fun hne => hne hlast]
      exact h
    · rw [getIndexRecord_of_ne hlast hg]
      exact ⟨fun oid hoid => ⟨g, hg, (Option.some.inj hoid).symm⟩, h.stream⟩

/-- A mail that is closed, or has no object, looks its number up. -/
theorem setSeq_empty {seq : UInt32} {closes : Bool} (h : closes = true ∨ m.radosMail = none) :
    m.setSeq record seq closes = (RboxMail.getIndexRecord record { m with
      seq, radosMail := some "", stream := if closes then none else m.stream }).2 := by
  unfold RboxMail.setSeq
  cases closes with
  | true => rfl
  | false =>
      have hnone : m.radosMail = none := h.resolve_left Bool.false_ne_true
      exact if_pos hnone

/-- One with an object that stays open keeps it. -/
theorem setSeq_open {seq : UInt32} (h : m.radosMail ≠ none) :
    m.setSeq record seq false = { m with seq } := if_neg h

/-- Setting a number that was not looked up last leaves the mail of that number. -/
theorem own_setSeq {seq : UInt32} {closes : Bool} (h : m.Own record)
    (hallowed : MailCall.Allowed record m (.setSeq seq closes))
    (hnew : MailCall.NotReopened m (.setSeq seq closes)) :
    (m.setSeq record seq closes).Own record := by
  obtain ⟨hrec, _, hsame⟩ := hallowed
  obtain ⟨g, hg⟩ := Option.isSome_iff_exists.mp hrec
  by_cases hempty : closes = true ∨ m.radosMail = none
  · rw [setSeq_empty hempty, getIndexRecord_of_ne (hnew hempty) hg]
    constructor
    case object =>
      intro oid hoid
      exact ⟨g, hg, (Option.some.inj hoid).symm⟩
    case stream =>
      intro oid bytes hbytes
      cases closes with
      | true => cases hbytes
      | false =>
          obtain ⟨g', hg', ho⟩ := h.stream oid bytes hbytes
          exact ⟨g', (hsame rfl).symm ▸ hg', ho⟩
  · obtain ⟨hopen, hsome⟩ := not_or.mp hempty
    obtain rfl : closes = false := Bool.eq_false_iff.mpr hopen
    rw [setSeq_open hsome, hsame rfl]
    exact h

/-- **What a call keeps**: the mail stays that of its number. -/
theorem own_step (h : m.Own record) (hallowed : a.Allowed record m) (hnew : a.NotReopened m) :
    (a.step record m).Own record := by
  cases a with
  | setSeq seq closes => exact own_setSeq h hallowed hnew
  | close => exact own_of_none rfl rfl
  | getStream e =>
      obtain ⟨hrec, hseq, hdefined⟩ := hallowed
      obtain ⟨r, hr⟩ := Option.isSome_iff_exists.mp hdefined
      show ((m.getStream record e).map (·.mail)).getD m |>.Own record
      rw [hr]
      exact own_getStream e h hrec hseq hr
  | metadata e => exact own_metadataGet e h hallowed.1 hallowed.2
  | receivedDate cached loaded e =>
      exact own_getReceivedDate cached loaded e h hallowed.1 hallowed.2
  | saveDate cached => exact own_getSaveDate cached h hallowed.1 hallowed.2
  | copy => exact own_copySource h hallowed.1 hnew

/-- With the number it has looked up last, a mail without object gets one without an oid. -/
theorem reopened_not_own (hne : ¬ a.NotReopened m) : ¬ (a.step record m).Own record := by
  cases a with
  | setSeq seq closes =>
      obtain ⟨hempty, hlast⟩ := Classical.not_imp.mp hne
      have hsame : m.lastSeq = seq := Classical.not_not.mp hlast
      have hobject : (m.setSeq record seq closes).radosMail = some "" := by
        rw [setSeq_empty hempty]
        unfold RboxMail.getIndexRecord
        rw [if_neg fun h => h hsame]
      intro hown
      obtain ⟨g, _, hempty⟩ := hown.object "" hobject
      exact g.toString_ne hempty.symm
  | close => exact absurd trivial hne
  | getStream e => exact absurd trivial hne
  | metadata e => exact absurd trivial hne
  | receivedDate cached loaded e => exact absurd trivial hne
  | saveDate cached => exact absurd trivial hne
  | copy =>
      obtain ⟨hnone, hlast⟩ := Classical.not_imp.mp hne
      have hobject : (m.copySource record).2.radosMail = some "" := by
        unfold RboxMail.copySource RboxMail.getIndexRecord
        rw [if_pos hnone, if_neg fun h => hlast h]
      intro hown
      obtain ⟨g, _, hempty⟩ := hown.object "" hobject
      exact g.toString_ne hempty.symm

/-- **Runs of calls on a mail**: all the time its object and its stream are those of its number,
    exactly if the mail, without an object, is never set to the number that was looked up last nor
    copied under it. -/
theorem mail_object_follows_seq_iff (record : UInt32 → Option MailGuid) {calls : List MailCall}
    (hallowed : Along (MailCall.step record) (MailCall.Allowed record) {} calls) :
    (∀ pre, pre <+: calls → (run (MailCall.step record) {} pre).Own record) ↔
      Along (MailCall.step record) MailCall.NotReopened {} calls := by
  have hneed : ∀ (m : RboxMail) (a : MailCall), m.Own record → a.Allowed record m →
      (a.step record m).Own record → a.NotReopened m := fun m a _ _ hnext =>
    Classical.byContradiction fun hn => reopened_not_own hn hnext
  exact prefixes_iff_along (fun _ h => h) (fun m a h ha hn => own_step h ha hn) hneed
    (own_of_none rfl rfl) hallowed

end Runs

/-- Index records whose oids are the bytes of the number. -/
def numberedRecords : UInt32 → Option MailGuid := fun seq =>
  some ⟨List.replicate 16 seq.toUInt8, List.length_replicate⟩

theorem allowed_setSeq_true {seq : UInt32} (hseq : seq ≠ -1) (m : RboxMail) :
    MailCall.Allowed numberedRecords m (.setSeq seq true) :=
  ⟨rfl, hseq, fun h => nomatch h⟩

/-- The mail of the number 1. -/
theorem allowed_first : Along (MailCall.step numberedRecords) (MailCall.Allowed numberedRecords) {}
    [.setSeq 1 true] := ⟨allowed_setSeq_true (by decide) _, trivial⟩

theorem notReopened_first :
    Along (MailCall.step numberedRecords) MailCall.NotReopened {} [.setSeq 1 true] :=
  ⟨fun _ => by decide, trivial⟩

/-- A mail that goes through two numbers, and one that is closed and set to its number again. -/
theorem closed_mail_loses_object :
    (∀ pre, pre <+: [MailCall.setSeq 1 true, .saveDate false, .setSeq 2 true, .close,
        .setSeq 1 true] →
      (run (MailCall.step numberedRecords) {} pre).Own numberedRecords) ∧
    ¬ ∀ pre, pre <+: [MailCall.setSeq 1 true, .close, .setSeq 1 true] →
      (run (MailCall.step numberedRecords) {} pre).Own numberedRecords := by
  have h1 := @allowed_setSeq_true 1 (by decide)
  have h2 := @allowed_setSeq_true 2 (by decide)
  constructor
  · refine (mail_object_follows_seq_iff numberedRecords ?_).mpr ?_
    · exact ⟨h1 _, ⟨rfl, by decide⟩, h2 _, trivial, h1 _, trivial⟩
    · exact ⟨fun _ => by decide, trivial, fun _ => by decide, trivial, fun _ => by decide, trivial⟩
  · have hallowed : Along (MailCall.step numberedRecords) (MailCall.Allowed numberedRecords) {}
        [.setSeq 1 true, .close, .setSeq 1 true] := ⟨h1 _, trivial, h1 _, trivial⟩
    rw [mail_object_follows_seq_iff numberedRecords hallowed]
    exact fun h => h.2.2.1 (.inl rfl) rfl

/-! ## 4. Mails that are given up -/

namespace StreamEnv

/-- A read that gets through: the first one, or one of the ten after a timeout. -/
def Answered (e : StreamEnv) : Prop :=
  e.answers 0 = .done ∨ (∃ err, e.answers 0 = .failed err ∧ err.1 = -ETIMEDOUT) ∧
    ∃ i, 1 ≤ i ∧ i ≤ 10 ∧ e.answers i = .done

/-- The object is not found by the first read, or a read gets through and finds it empty, or it is
    that of a compressed mail whose size nobody knows, and is gone when its metadata are loaded. -/
def Gone (e : StreamEnv) (oid : String) : Prop :=
  (readMailFromStorage e.objs oid (e.answers 0)).1 = -ENOENT ∨
    e.Answered ∧ ∃ obj, e.objs oid = some obj ∧ (toInt32 obj.data.length = 0 ∨
      asksSize obj.data = true ∧ ¬ e.sizes.Known ∧ e.size.missing oid = true)

end StreamEnv

section Attempts

variable {record : UInt32 → Option MailGuid} {m : RboxMail} {g : MailGuid} {oid : String}
  {e : StreamEnv} {r : StreamResult}

/-- A read succeeds if RADOS answers and the object is there. -/
theorem readMailFromStorage_nonneg {objs : String → Option MailObj} {o : Outcome} :
    0 ≤ (readMailFromStorage objs oid o).1 ↔ o = .done ∧ ∃ obj, objs oid = some obj := by
  cases o with
  | failed err =>
      have hneg : ¬ (0 : Int) ≤ err.1 := by
        have := err.2
        omega
      exact iff_of_false hneg fun h => nomatch h.1
  | done =>
      unfold readMailFromStorage
      cases objs oid with
      | none => exact iff_of_false (by decide) fun h => nomatch h.2
      | some obj => exact iff_of_true (le_refl _) ⟨rfl, obj, rfl⟩

theorem readMailFromStorage_some {objs : String → Option MailObj} {obj : MailObj}
    (h : objs oid = some obj) : readMailFromStorage objs oid .done = (0, obj.data) := by
  unfold readMailFromStorage
  rw [h]

theorem readMailFromStorage_timeout {objs : String → Option MailObj} {o : Outcome} :
    (readMailFromStorage objs oid o).1 = -ETIMEDOUT ↔
      ∃ err, o = .failed err ∧ err.1 = -ETIMEDOUT := by
  cases o with
  | failed err => exact ⟨fun h => ⟨err, rfl, h⟩, fun ⟨_, heq, h⟩ => by cases heq; exact h⟩
  | done =>
      unfold readMailFromStorage
      cases objs oid with
      | none => exact iff_of_false (by decide) fun ⟨_, h, _⟩ => nomatch h
      | some obj =>
          have hne : ¬ (0 : Int) = -ETIMEDOUT := by decide
          exact iff_of_false hne fun ⟨_, h, _⟩ => nomatch h

/-- **The attempts succeed** exactly if a read gets through and the object is there. -/
theorem readAttempts_nonneg :
    0 ≤ (readAttempts e.objs e.answers oid).1 ↔
      e.Answered ∧ ∃ obj, e.objs oid = some obj := by
  unfold readAttempts
  dsimp only
  split
  case isTrue htimeout =>
    have hfirst := readMailFromStorage_timeout.mp htimeout
    have hlast : decide (0 ≤ (readMailFromStorage e.objs oid (e.answers 0)).1) = false := by
      rw [htimeout]
      decide
    constructor
    · intro h
      obtain ⟨j, hj, hj', heq⟩ := @retry_attempt _
        (fun r : Int × Bytes => decide (0 ≤ r.1)) _ 1 10 _ hlast (decide_eq_true h)
      rw [heq] at h
      obtain ⟨hdone, hobj⟩ := readMailFromStorage_nonneg.mp h
      exact ⟨.inr ⟨hfirst, j, hj, by omega, hdone⟩, hobj⟩
    · rintro ⟨hfirst' | ⟨_, j, hj, hj', hdone⟩, hobj⟩
      · obtain ⟨err, herr, _⟩ := hfirst
        exact nomatch hfirst'.symm.trans herr
      · have hread := decide_eq_true (readMailFromStorage_nonneg.mpr ⟨hdone, hobj⟩)
        exact of_decide_eq_true (@retry_stops_of _ (fun r : Int × Bytes => decide (0 ≤ r.1))
          (fun i => readMailFromStorage e.objs oid (e.answers i)) 1 10 j _ hj (by omega) hread)
  case isFalse hother =>
    rw [readMailFromStorage_nonneg]
    refine and_congr_left fun _ => ?_
    refine ⟨.inl, fun h => h.resolve_right fun hretry => ?_⟩
    exact hother (readMailFromStorage_timeout.mpr hretry.1)

/-- They give the bytes of the object. -/
theorem readAttempts_eq {obj : MailObj} (hanswered : e.Answered) (hobj : e.objs oid = some obj) :
    readAttempts e.objs e.answers oid = (0, obj.data) := by
  have h := readAttempts_nonneg.mpr ⟨hanswered, obj, hobj⟩
  unfold readAttempts at h ⊢
  dsimp only at h ⊢
  split
  case isTrue htimeout =>
    have hlast : decide (0 ≤ (readMailFromStorage e.objs oid (e.answers 0)).1) = false := by
      rw [htimeout]
      decide
    rw [if_pos htimeout] at h
    obtain ⟨j, _, _, heq⟩ := @retry_attempt _
      (fun r : Int × Bytes => decide (0 ≤ r.1)) _ 1 10 _ hlast (decide_eq_true h)
    rw [heq] at h ⊢
    rw [(readMailFromStorage_nonneg.mp h).1, readMailFromStorage_some hobj]
  case isFalse hother =>
    rw [if_neg hother] at h
    rw [(readMailFromStorage_nonneg.mp h).1, readMailFromStorage_some hobj]

/-- Only an object without bytes, by its length as an `int`, is expunged. -/
theorem rboxMailGetStream_expunged {object : Bytes} {sizes : SizeSources} :
    rboxMailGetStream object sizes = some .expunged ↔ toInt32 object.length = 0 := by
  have hstream : ∀ (buffer : Bytes) (n : Int), getMailStream buffer n ≠ some .expunged := by
    intro buffer n h
    unfold getMailStream at h
    split at h
    case isTrue => cases h
    case isFalse => cases h
  unfold rboxMailGetStream
  dsimp only
  by_cases hzero : toInt32 object.length = 0
  · exact iff_of_true (if_pos hzero) hzero
  · rw [if_neg hzero]
    refine iff_of_false ?_ hzero
    split
    case isTrue => exact fun h => nomatch h
    case isFalse =>
      intro h
      obtain ⟨check, _, h⟩ := Option.bind_eq_some_iff.mp h
      split at h
      case h_1 => exact hstream _ _ h
      case h_2 =>
        split at h
        case isTrue => exact hstream _ _ h
        case isFalse => exact hstream _ _ h

/-- The stream is lost exactly if its object is gone. -/
theorem lost_iff_gone (h : m.Own record) (hg : record m.seq = some g) (hseq : m.seq ≠ -1)
    (hclosed : m.stream = none) (hconn : e.conn = true) (hr : m.getStream record e = some r) :
    r.lost = true ↔ e.Gone g.toString := by
  rw [getStream_of_own e h hg hseq hclosed hconn] at hr
  split at hr
  case isTrue hfirst =>
    cases hr
    exact iff_of_true rfl (.inl hfirst)
  case isFalse hfirst =>
    rw [StreamEnv.Gone, or_iff_right hfirst]
    split at hr
    case isTrue hneg =>
      cases hr
      refine iff_of_false Bool.false_ne_true fun ⟨hanswered, obj, hobj, _⟩ => ?_
      rw [readAttempts_eq hanswered hobj] at hneg
      exact absurd hneg (lt_irrefl 0)
    case isFalse hneg =>
      obtain ⟨hanswered, obj, hobj⟩ := readAttempts_nonneg.mp (not_lt.mp hneg)
      rw [readAttempts_eq hanswered hobj] at hr
      dsimp only at hr
      obtain ⟨stream, hstream, rfl⟩ := Option.map_eq_some_iff.mp hr
      have hempty : stream = .expunged ↔ toInt32 obj.data.length = 0 := by
        rw [← Option.some_inj, ← hstream]
        exact rboxMailGetStream_expunged
      have hgone : (e.Answered ∧ ∃ obj, e.objs g.toString = some obj ∧
          (toInt32 obj.data.length = 0 ∨
            asksSize obj.data = true ∧ ¬ e.sizes.Known ∧ e.size.missing g.toString = true)) ↔
          (stream = .expunged ∨
            asksSize obj.data = true ∧ ¬ e.sizes.Known ∧ e.size.missing g.toString = true) := by
        rw [hempty]
        constructor
        · rintro ⟨_, obj', hobj', hcase⟩
          obtain rfl := Option.some.inj (hobj.symm.trans hobj')
          exact hcase
        · exact fun hcase => ⟨hanswered, obj, hobj, hcase⟩
      have hlost : (asksSize obj.data && (!decide e.sizes.Known && e.size.missing g.toString)) =
          true ↔ asksSize obj.data = true ∧ ¬ e.sizes.Known ∧ e.size.missing g.toString = true := by
        simp
      rw [hgone, ← hlost]
      generalize asksSize obj.data = asks
      cases stream with
      | expunged => exact iff_of_true rfl (.inl rfl)
      | error => exact (or_iff_right MailStream.noConfusion).symm
      | stream bytes =>
          rw [or_iff_right MailStream.noConfusion]
          dsimp only
          split
          case isTrue => exact Iff.rfl
          case isFalse => exact Iff.rfl

/-- A run of calls that meets the condition. -/
theorem own_run {calls : List MailCall}
    (hallowed : Along (MailCall.step record) (MailCall.Allowed record) {} calls)
    (hnew : Along (MailCall.step record) MailCall.NotReopened {} calls) :
    (run (MailCall.step record) {} calls).Own record := by
  have hstep : ∀ (m : RboxMail) (a : MailCall), m.Own record →
      a.Allowed record m ∧ a.NotReopened m → (a.step record m).Own record := fun m a h ha =>
    own_step h ha.1 ha.2
  exact along_inv hstep (own_of_none rfl rfl) (along_and hallowed hnew)

/-- **When a mail is given up**: after any such run, a read of the stream reports the mail as lost
    exactly if the first read does not find the object of its number, or that object is empty when
    a read gets through, or gone when its size has to be loaded; a missing object whose first read
    times out is not given up. -/
theorem mail_given_up_iff (record : UInt32 → Option MailGuid) {calls : List MailCall}
    (hallowed : Along (MailCall.step record) (MailCall.Allowed record) {} calls)
    (hnew : Along (MailCall.step record) MailCall.NotReopened {} calls)
    (hg : record (run (MailCall.step record) {} calls).seq = some g)
    (hseq : (run (MailCall.step record) {} calls).seq ≠ -1)
    (hclosed : (run (MailCall.step record) {} calls).stream = none) (hconn : e.conn = true)
    (hr : (run (MailCall.step record) {} calls).getStream record e = some r) :
    r.lost = true ↔ e.Gone g.toString :=
  lost_iff_gone (own_run hallowed hnew) hg hseq hclosed hconn hr

end Attempts

/-- A compressed mail whose object is deleted between its read and the load of its size. -/
def deletedMail : StreamEnv where
  objs := fun _ => some ⟨[0x1f, 0x8b, 8, 0] ++ List.replicate 14 0, fun _ => none⟩
  size := { objs := fun _ => none, key := "Z" }

theorem deleted_mail_given_up :
    ∃ r, (run (MailCall.step numberedRecords) {} [.setSeq 1 true]).getStream numberedRecords
        deletedMail = some r ∧ r.lost = true := by
  have hread : ((run (MailCall.step numberedRecords) {} [.setSeq 1 true]).getStream
      numberedRecords deletedMail).isSome = true := by decide +kernel
  obtain ⟨r, hr⟩ := Option.isSome_iff_exists.mp hread
  refine ⟨r, hr, ?_⟩
  refine (mail_given_up_iff (e := deletedMail) numberedRecords allowed_first notReopened_first rfl
    (by decide) rfl rfl hr).mpr ?_
  exact .inr ⟨.inl rfl, _, rfl, .inr ⟨by decide +kernel, by decide, rfl⟩⟩

/-! ## 5. Saved mails -/

/-- The bytes pass the probes: no byte outside of them is read, and the trailer of a compressed mail
    agrees with its physical size but for the length of the header. -/
def PassesProbes (bytes : Bytes) (size : Option UInt64) : Prop :=
  bytes.length < intMax ∧ ∃ check, zlibCheck bytes bytes.length = some check ∧
    ∀ result header, check = some (result, header) →
      ∃ n, size = some n ∧ result.toUInt64 - n ≤ UInt64.ofNat header

section Saved

variable {record : UInt32 → Option MailGuid} {m : RboxMail} {g : MailGuid} {e : StreamEnv}

theorem check_of_gzip {bytes : Bytes} {n : Int} {check : Option (UInt32 × Nat)}
    (h : checkIsZlib bytes = some true) (hcheck : zlibCheck bytes n = some check) :
    ∃ result header, check = some (result, header) := by
  unfold zlibCheck at hcheck
  rw [h] at hcheck
  obtain ⟨_, hgzip, hcheck⟩ := Option.bind_eq_some_iff.mp hcheck
  obtain rfl := Option.some.inj hgzip
  obtain ⟨result, _, hcheck⟩ := Option.bind_eq_some_iff.mp hcheck
  obtain ⟨header, _, hcheck⟩ := Option.bind_eq_some_iff.mp hcheck
  exact ⟨result, header, (Option.some.inj hcheck).symm⟩

/-- The lengths of a mail that is neither empty nor too large. -/
theorem length_of_check {bytes : Bytes} {check : Option (UInt32 × Nat)}
    (hlt : bytes.length < intMax) (hcheck : zlibCheck bytes bytes.length = some check) :
    toInt32 bytes.length = bytes.length ∧ (bytes.length : Int) ≠ 0 ∧
      (bytes.length : Int) ≠ intMax := by
  refine ⟨toInt32_of_lt (Nat.lt_succ_of_lt hlt), fun hzero => ?_, by omega⟩
  have hnil : bytes = [] := List.length_eq_zero_iff.mp (by omega)
  rw [hnil] at hcheck
  exact nomatch hcheck

/-- The size of a compressed mail is asked for. -/
theorem asksSize_of_gzip {bytes : Bytes} {r : UInt32 × Nat} (hlt : bytes.length < intMax)
    (hcheck : zlibCheck bytes bytes.length = some (some r)) : asksSize bytes = true := by
  obtain ⟨hint, hpos, hmax⟩ := length_of_check hlt hcheck
  have hgzip : checkIsZlib bytes = some true := by
    unfold zlibCheck at hcheck
    obtain ⟨gzip, hgzip, hcheck⟩ := Option.bind_eq_some_iff.mp hcheck
    cases gzip with
    | true => exact hgzip
    | false => cases hcheck
  unfold asksSize
  rw [hint, List.take_of_length_le (Nat.le_of_lt hlt), hgzip, decide_eq_true hpos,
    decide_eq_true hmax]
  rfl

/-- Bytes that pass are handed out as they are. -/
theorem rboxMailGetStream_passes {bytes : Bytes} {sizes : SizeSources}
    (h : PassesProbes bytes (rboxMailGetPhysicalSize sizes)) :
    rboxMailGetStream bytes sizes = some (.stream bytes) := by
  obtain ⟨hlt, check, hcheck, hfits⟩ := h
  have htake : bytes.take intMax = bytes := List.take_of_length_le (Nat.le_of_lt hlt)
  obtain ⟨hint, hpos, hmax⟩ := length_of_check hlt hcheck
  have hstream : getMailStream bytes bytes.length = some (.stream bytes) := by
    unfold getMailStream
    rw [if_pos ⟨Int.natCast_nonneg _, le_refl _⟩, Int.toNat_natCast, List.take_length]
  unfold rboxMailGetStream
  dsimp only
  rw [htake, hint, if_neg hpos, if_neg hmax, hcheck]
  cases check with
  | none => exact hstream
  | some r =>
      obtain ⟨n, hn, hle⟩ := hfits r.1 r.2 rfl
      rw [hn, Option.bind_some]
      dsimp only
      rw [Option.getD_some, if_neg (UInt64.not_lt.mpr hle)]
      exact hstream

/-- Nor does the load of their size give the mail up. -/
theorem passes_not_lost {bytes : Bytes} {oid : String}
    (h : PassesProbes bytes (rboxMailGetPhysicalSize (e.sizesFound oid))) :
    (asksSize bytes && (!decide e.sizes.Known && e.size.missing oid)) = false := by
  obtain ⟨hlt, check, hcheck, hfits⟩ := h
  have htake : bytes.take intMax = bytes := List.take_of_length_le (Nat.le_of_lt hlt)
  by_contra hlost
  simp only [Bool.not_eq_false, Bool.and_eq_true, Bool.not_eq_true',
    decide_eq_false_iff_not] at hlost
  obtain ⟨hasks, hunknown, hmissing⟩ := hlost
  have hzlib : checkIsZlib bytes = some true := by
    unfold asksSize at hasks
    rw [htake] at hasks
    exact of_decide_eq_true (Bool.and_eq_true_iff.mp hasks).2
  obtain ⟨result, header, rfl⟩ := check_of_gzip hzlib hcheck
  obtain ⟨n, hn, _⟩ := hfits result header rfl
  -- a load that finds no object finds no size
  have hvalue : e.size.value oid = none := by
    unfold MailMetadataEnv.missing at hmissing
    unfold MailMetadataEnv.value
    split
    case isTrue hdone =>
      rw [hdone.1, hdone.2, Bool.true_and] at hmissing
      rw [Option.isNone_iff_eq_none.mp hmissing]
      rfl
    case isFalse => rfl
  unfold StreamEnv.sizesFound at hn
  rw [if_neg hunknown, hvalue] at hn
  unfold rboxMailGetPhysicalSize at hn
  cases hindex : e.sizes.index with
  | none =>
      rw [hindex] at hn
      cases hn
  | some size => exact hunknown (.inl (hindex ▸ rfl))

/-- A read that gets through to an object whose bytes pass. -/
theorem getStream_passes (h : m.Own record) (hg : record m.seq = some g) (hseq : m.seq ≠ -1)
    (hclosed : m.stream = none) (hconn : e.conn = true) (hopened : e.opened = true)
    (hanswered : e.Answered) {obj : MailObj} (hobj : e.objs g.toString = some obj)
    (hpasses : PassesProbes obj.data (rboxMailGetPhysicalSize (e.sizesFound g.toString))) :
    ∃ m', m.getStream record e = some ⟨e.init, false, m'⟩ ∧
      m'.stream = some (g.toString, obj.data) := by
  have hfirst : ¬ (readMailFromStorage e.objs g.toString (e.answers 0)).1 = -ENOENT := by
    rcases hanswered with hdone | ⟨⟨err, herr, htimeout⟩, _⟩
    · have hzero : ¬ (0 : Int) = -ENOENT := by decide
      rw [hdone, readMailFromStorage_some hobj]
      exact hzero
    · rw [herr]
      show ¬ err.1 = -ENOENT
      rw [htimeout]
      decide
  have hstream : rboxMailGetStream obj.data
      (if asksSize obj.data then e.sizesFound g.toString else e.sizes) =
        some (.stream obj.data) := by
    split
    case isTrue => exact rboxMailGetStream_passes hpasses
    case isFalse hasks =>
      -- a mail that is not compressed needs no size
      obtain ⟨hlt, check, hcheck, _⟩ := hpasses
      refine rboxMailGetStream_passes ⟨hlt, check, hcheck, fun result header hr => ?_⟩
      subst hr
      exact absurd (asksSize_of_gzip hlt hcheck) hasks
  rw [getStream_of_own e h hg hseq hclosed hconn, if_neg hfirst, readAttempts_eq hanswered hobj,
    if_neg (lt_irrefl 0)]
  dsimp only
  rw [hstream, passes_not_lost hpasses, Option.map_some, hopened]
  exact ⟨_, rfl, rfl⟩

/-- The bytes of a mail of the users are those of its record's object. -/
theorem Refines.mail {ι : Type} [DecidableEq ι] {b : SharedBox ι} {x : Mailbox} (h : Refines b x)
    {p : Bytes × Nat} (hp : p ∈ x.mails) {r : ViewRecord} (hr : r ∈ b.index.view.mails)
    (huid : r.uid = p.2) {oid : String} (hoid : r.oid = some oid) : b.bytes oid = some p.1 := by
  have hmem : (some p.1, p.2) ∈ b.contents := by
    rw [h.mails]
    exact List.mem_map_of_mem hp
  obtain ⟨r', hr', heq⟩ := List.mem_map.mp hmem
  have huid' : r'.uid = r.uid := (Prod.mk.inj heq).2.trans huid.symm
  have hnodup : (b.index.view.mails.map (·.uid)).Nodup :=
    b.index.view.sorted.imp fun hlt => Nat.ne_of_lt hlt
  obtain rfl := List.inj_on_of_nodup_map hnodup hr' hr huid'
  have hbytes := (Prod.mk.inj heq).1
  rw [hoid] at hbytes
  exact hbytes

/-- **What was saved is what is read**: whatever sessions and syncs have done to the mailbox, a mail
    that its users know is handed out with the bytes they sent, whatever was done to the
    `rbox_mail` before, as long as it follows its number, and also after timeouts. -/
theorem saved_mail_read_back {ι : Type} [DecidableEq ι] {S : BoxSetup}
    (halt : S.sync.alt.altPool = false) {ops : List (BoxOp ι)}
    (ha : Along (BoxOp.step S) (fun b op => op.Allowed S b) (.init ι) ops) {p : Bytes × Nat}
    (hp : p ∈ (run Mailbox.apply {} (boxEvents S (.init ι) ops)).mails)
    {seq : Nat} {r : ViewRecord}
    (hr : (run (BoxOp.step S) (.init ι) ops).index.view.lookup seq = some r) (huid : r.uid = p.2)
    (hoid : r.oid = some g.toString) (record : UInt32 → Option MailGuid) {calls : List MailCall}
    (hallowed : Along (MailCall.step record) (MailCall.Allowed record) {} calls)
    (hkept : Along (MailCall.step record) MailCall.NotReopened {} calls)
    (hg : record (run (MailCall.step record) {} calls).seq = some g)
    (hseq : (run (MailCall.step record) {} calls).seq ≠ -1)
    (hclosed : (run (MailCall.step record) {} calls).stream = none)
    (hobjs : e.objs = plainObjs (run (BoxOp.step S) (.init ι) ops).objs .primary)
    (hconn : e.conn = true) (hopened : e.opened = true) (hanswered : e.Answered)
    (hpasses : PassesProbes p.1 (rboxMailGetPhysicalSize (e.sizesFound g.toString))) :
    ∃ m', (run (MailCall.step record) {} calls).getStream record e = some ⟨e.init, false, m'⟩ ∧
      m'.stream = some (g.toString, p.1) := by
  have hmem : r ∈ (run (BoxOp.step S) (.init ι) ops).index.view.mails := by
    unfold SyncView.lookup at hr
    split at hr
    case isTrue => cases hr
    case isFalse => exact List.mem_of_getElem? hr
  have hbytes := (run_refines halt sound_init refines_init ha).2.mail hp hmem huid hoid
  obtain ⟨obj, hobj, hdata⟩ := Option.map_eq_some_iff.mp hbytes
  have hobj' : e.objs g.toString = some obj.toMailObj := by
    rw [hobjs]
    exact congrArg (Option.map (·.toMailObj)) hobj
  rw [← hdata] at hpasses ⊢
  exact getStream_passes (own_run hallowed hkept) hg hseq hclosed hconn hopened hanswered hobj'
    hpasses

end Saved

/-- Reads of the primary pool that time out three times. -/
def slowReads (objs : StoredMails) : StreamEnv where
  objs := plainObjs objs .primary
  answers := fun i => if i < 3 then .failed ⟨-ETIMEDOUT, by decide⟩ else .done

/-- The mail that one of two sessions has saved is read under the number 1. -/
theorem two_bytes_read_back :
    ∃ m', (run (MailCall.step numberedRecords) {} [.setSeq 1 true]).getStream numberedRecords
        (slowReads (run (BoxOp.step plainBox) (.init Bool) twoSessions).objs) =
          some ⟨0, false, m'⟩ ∧
      m'.stream = some ("01010101010101010101010101010101", [72, 105]) :=
  @saved_mail_read_back ⟨List.replicate 16 1, List.length_replicate⟩
    (slowReads (run (BoxOp.step plainBox) (.init Bool) twoSessions).objs) Bool _ plainBox rfl
    twoSessions twoSessions_allowed ([72, 105], 1) (List.mem_singleton.mpr rfl) 1 _ rfl rfl rfl
    numberedRecords [.setSeq 1 true] allowed_first notReopened_first rfl (by decide) rfl rfl rfl
    rfl (.inr ⟨⟨_, rfl, rfl⟩, 3, by decide, by decide, rfl⟩)
    ⟨by decide, none, rfl, fun _ _ h => nomatch h⟩

end DovecotCeph
