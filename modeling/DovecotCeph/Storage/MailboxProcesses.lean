/-
  File:      DovecotCeph/Storage/MailboxProcesses.lean
  Subject:   Processes that create, open and update one mailbox (rbox-storage.cpp):
             `rbox_mailbox_create_indexes`, `rbox_mailbox_create`, `rbox_mailbox_open`,
             `rbox_mailbox_update`, next to save transactions and rebuilds.

  Only creations, save transactions and rebuilds hold the lock of the index. Updates and the
  regeneration of a lost header read the index as the process has it in memory, and commit to the
  index as it is by then; each process remembers the guid of the mailbox it has open.
  * `IndexChange`: a transaction of the index;
  * `SharedMailbox`, `MailboxOp`: the processes and their steps, a call being several of them;
  * `SharedMailbox.Sound`: what every step keeps;
  * **`mailbox_header_runs`**: the header is never lost, and when it is as the calls leave it one
    after the other;
  * **`mailbox_guid_agrees_iff`**: when all processes hold the guid that is in the header.
-/
import DovecotCeph.Lib.Run
import DovecotCeph.Storage.MailboxHeader

namespace DovecotCeph

open Lib

/-! ## 1. The index -/

/-- `struct mailbox_update`. -/
structure MailboxUpdate where
  mailboxGuid : MailGuid := .zero
  uidValidity : UInt32 := 0
  minNextUid : UInt32 := 0
  minFirstRecentUid : UInt32 := 0
  minHighestModseq : UInt64 := 0

/-- The index of a mailbox: fields of Dovecot's header, and the plugin's. -/
structure MailboxIndex where
  uidValidity : UInt32 := 0
  nextUid : UInt32 := 1
  firstRecentUid : UInt32 := 0
  highestModseq : UInt64 := 0
  header : Bytes := []

/-- The header can be read. -/
def MailboxIndex.Readable (x : MailboxIndex) : Prop := (readHeader false x.header).isSome = true

/-- There is a UIDVALIDITY exactly if there is a header that can be read. -/
def MailboxIndex.Numbered (x : MailboxIndex) : Prop := x.uidValidity ≠ 0 ↔ x.Readable

/-- What `guid_128_generate` and `rbox_get_uidvalidity_next` give. -/
structure IndexEnv where
  guid : MailGuid
  uidValidity : UInt32

/-- They give something. -/
def IndexEnv.Ok (e : IndexEnv) : Prop := e.guid ≠ .zero ∧ e.uidValidity ≠ 0

/-- A transaction of the index. -/
structure IndexChange where
  uidValidity : Option UInt32
  nextUid : Option UInt32
  firstRecentUid : Option UInt32
  highestModseq : Option UInt64
  header : HeaderChange

/-- The `uid_validity` of `rbox_mailbox_create_indexes`. -/
def createdUidValidity (u : MailboxUpdate) (e : IndexEnv) (view : MailboxIndex) : UInt32 :=
  if u.uidValidity ≠ 0 then u.uidValidity
  else if view.uidValidity ≠ 0 then view.uidValidity else e.uidValidity

/-- `rbox_mailbox_create_indexes` before the commit, on the index as the process has it. -/
def rboxMailboxCreateIndexes (creating : Bool) (update : Option MailboxUpdate) (e : IndexEnv)
    (view : MailboxIndex) : IndexChange :=
  let u := update.getD {}
  let uidValidity := createdUidValidity u e view
  { uidValidity := if view.uidValidity ≠ uidValidity then some uidValidity else none
    nextUid := if view.nextUid < u.minNextUid then some u.minNextUid else none
    firstRecentUid := if u.minFirstRecentUid ≠ 0 ∧ view.firstRecentUid < u.minFirstRecentUid then
      some u.minFirstRecentUid else none
    highestModseq := if u.minHighestModseq ≠ 0 ∧ view.highestModseq < u.minHighestModseq then
      some u.minHighestModseq else none
    header := rboxUpdateHeader creating (update.map (·.mailboxGuid)) e.guid view.header }

/-- The commit, to the index as it is. -/
def IndexChange.apply (c : IndexChange) (x : MailboxIndex) : MailboxIndex where
  uidValidity := c.uidValidity.getD x.uidValidity
  nextUid := c.nextUid.getD x.nextUid
  firstRecentUid := c.firstRecentUid.getD x.firstRecentUid
  highestModseq := max (c.highestModseq.getD 0) x.highestModseq
  header := c.header.apply x.header

/-- What a rebuild that is committed does to the header: the index is reset to the data that
    `rbox_sync_update_header` has set, and `rbox_sync_set_uidvalidity` keeps the UIDVALIDITY. -/
def rebuildHeader (e : IndexEnv) (x : MailboxIndex) : MailboxIndex :=
  { x with
    uidValidity := if x.uidValidity ≠ 0 then x.uidValidity else e.uidValidity
    header := (syncUpdateHeader e.guid x.header).toBytes }

/-- The index behind the synchronization of a mailbox that is opened: it rebuilds a mailbox whose
    header is invalid, if it gets so far. -/
def repairedIndex (repair : Option IndexEnv) (x : MailboxIndex) : MailboxIndex :=
  if (readHeader false x.header).isSome then x
  else (repair.map fun r => rebuildHeader r x).getD x

section Index

variable {x view : MailboxIndex} {e : IndexEnv} {u : Option MailboxUpdate}

/-- The guid that is asked for, if any. -/
def askedGuid (u : Option MailboxUpdate) : Option MailGuid := requestedGuid (u.map (·.mailboxGuid))

/-- What a transaction needs to leave a header that can be read, and a UIDVALIDITY. -/
structure IndexChange.Valid (c : IndexChange) (x : MailboxIndex) : Prop where
  guid : ∀ h, c.header.header = some h → h.mailboxGuid ≠ .zero
  readable : c.header.header = none → x.Readable
  uidValidity : ∀ n, c.uidValidity = some n → n ≠ 0
  numbered : c.uidValidity = none → x.uidValidity ≠ 0

theorem createdUidValidity_ne {u : MailboxUpdate} (he : e.Ok) (view : MailboxIndex) :
    createdUidValidity u e view ≠ 0 := by
  unfold createdUidValidity
  split
  case isTrue hasked => exact hasked
  case isFalse =>
    split
    case isTrue hold => exact hold
    case isFalse => exact he.2

/-- The transactions there are, of a process that knows an index from before. -/
theorem createIndexes_valid (creating : Bool) (u : Option MailboxUpdate) (he : e.Ok)
    (hview : view.Numbered) (hx : x.Numbered) (hlater : view.Readable → x.Readable) :
    (rboxMailboxCreateIndexes creating u e view).Valid x := by
  obtain ⟨hheader, _⟩ := rboxUpdateHeader_eq creating (u.map (·.mailboxGuid)) he.1 view.header
  refine ⟨fun h hh => ?_, fun hnone => ?_, fun n hn => ?_, fun hnone => ?_⟩
  · have hh' := hheader.symm.trans hh
    split at hh'
    case isTrue => cases hh'
    case isFalse =>
      obtain rfl := Option.some.inj hh'
      exact updatedHeader_guid _ he.1 false view.header
  · refine hlater ?_
    have hsame := hheader.symm.trans hnone
    split at hsame
    case isTrue hread =>
      unfold MailboxIndex.Readable
      rw [hread]
      rfl
    case isFalse => cases hsame
  · by_cases hnew : view.uidValidity ≠ createdUidValidity (u.getD {}) e view
    · obtain rfl := Option.some.inj ((if_pos hnew).symm.trans hn)
      exact createdUidValidity_ne he view
    · exact nomatch (if_neg hnew).symm.trans hn
  · by_cases hnew : view.uidValidity ≠ createdUidValidity (u.getD {}) e view
    · exact nomatch (if_pos hnew).symm.trans hnone
    · refine hx.mpr (hlater (hview.mp ?_))
      rw [not_not.mp hnew]
      exact createdUidValidity_ne he view

/-- The header behind a commit. -/
theorem apply_header {c : IndexChange} (hc : c.Valid x) :
    readHeader false (c.apply x).header = c.header.header.or (readHeader false x.header) :=
  readHeader_apply hc.guid x.header

theorem apply_readable {c : IndexChange} (hc : c.Valid x) : (c.apply x).Readable := by
  unfold MailboxIndex.Readable
  rw [apply_header hc]
  cases hheader : c.header.header with
  | some h => rfl
  | none => exact hc.readable hheader

theorem apply_numbered {c : IndexChange} (hc : c.Valid x) : (c.apply x).Numbered := by
  refine iff_of_true ?_ (apply_readable hc)
  show c.uidValidity.getD x.uidValidity ≠ 0
  cases hn : c.uidValidity with
  | some n => exact hc.uidValidity n hn
  | none => exact hc.numbered hn

/-- A rebuild. -/
theorem rebuildHeader_header (he : e.Ok) (x : MailboxIndex) :
    readHeader false (rebuildHeader e x).header =
      some (rebuiltHeader e.guid (readHeader false x.header)) := readHeader_rebuild he.1 x.header

theorem rebuildHeader_numbered (he : e.Ok) (x : MailboxIndex) :
    (rebuildHeader e x).Numbered ∧ (rebuildHeader e x).Readable := by
  have hreadable : (rebuildHeader e x).Readable := by
    unfold MailboxIndex.Readable
    rw [rebuildHeader_header he]
    rfl
  refine ⟨iff_of_true ?_ hreadable, hreadable⟩
  unfold rebuildHeader
  dsimp only
  split
  case isTrue hold => exact hold
  case isFalse => exact he.2

theorem repairedIndex_of_readable (repair : Option IndexEnv) (h : x.Readable) :
    repairedIndex repair x = x := if_pos h

theorem repairedIndex_numbered {repair : Option IndexEnv} (hrepair : ∀ r, repair = some r → r.Ok)
    (hx : x.Numbered) : (repairedIndex repair x).Numbered := by
  unfold repairedIndex
  split
  case isTrue => exact hx
  case isFalse =>
    cases hr : repair with
    | none => exact hx
    | some r => exact (rebuildHeader_numbered (hrepair r hr) x).1

theorem saveFlags_readable (uidls orders : Bool) (x : MailboxIndex) :
    { x with header := saveUpdateHeaderFlags uidls orders x.header }.Readable ↔ x.Readable := by
  unfold MailboxIndex.Readable
  dsimp only
  rw [readHeader_saveFlags, Option.isSome_map]

end Index

/-! ## 2. The processes -/

/-- Where a process is: `creating`, `opening`, `repaired`: it has the mailbox open to create it, it
    has mapped the index of a mailbox it opens, and it has synchronized it because the header could
    not be read; `writing`: a transaction has still to be committed, that of an update or that
    which regenerates the header; `reading`: the header has still to be read, and its guid to be
    remembered. -/
inductive MailboxPhase where
  | closed
  | creating
  | opening
  | repaired
  | writing (update : Option MailboxUpdate) (e : IndexEnv)
  | reading
  | opened

/-- `struct rbox_mailbox`, with the index as the process has it in memory. -/
structure RboxMailbox where
  phase : MailboxPhase := .closed
  view : MailboxIndex := {}
  guid : MailGuid := .zero

/-- What a process does. A call of the source is one of them, or several in turn:
    `rbox_mailbox_create` is `createOpen`, `create` and `read`; `rbox_mailbox_open` is `open`,
    `openRead`, `regenerate`, `commit` and `read`; `rbox_mailbox_update` is `update` and `commit`.
    `directory`: the argument of that name; `locks`, `unlocks`: whether the synchronization used as
    a lock begins and commits; `synced`, `repair`: whether that of a mailbox that is opened begins,
    and what it rebuilds. -/
inductive ProcessCall where
  | createOpen
  | create (directory locks unlocks commits : Bool) (update : Option MailboxUpdate) (e : IndexEnv)
  | open
  | openRead (synced : Bool) (repair : Option IndexEnv)
  | regenerate (e : IndexEnv)
  | read
  | update (u : MailboxUpdate) (e : IndexEnv)
  | commit (ok : Bool)
  | refresh
  | close

namespace RboxMailbox

variable (p : RboxMailbox) (x : MailboxIndex)

/-- The transaction of a process that is writing. -/
def change (u : Option MailboxUpdate) (e : IndexEnv) : IndexChange :=
  rboxMailboxCreateIndexes false u e p.view

/-- The mailbox is open, with the guid of the header. -/
def remember (h : RboxIndexHeader) : RboxMailbox :=
  { p with phase := .opened, guid := h.mailboxGuid }

/-- The transaction is begun; the guid is remembered before it is committed. -/
def write (u : Option MailboxUpdate) (e : IndexEnv) : RboxMailbox :=
  { p with phase := .writing u e, guid := (p.change u e).header.guid }

/-- The end of `rbox_mailbox_create`. -/
def endCreate (directory unlocks : Bool) : RboxMailbox :=
  { p with phase := if unlocks = false then .closed
      else if directory = true ∨ p.guid ≠ .zero then .opened else .reading }

/-- `rbox_mailbox_create` behind the opening. -/
def create (directory locks unlocks commits : Bool) (u : Option MailboxUpdate) (e : IndexEnv) :
    MailboxIndex × RboxMailbox :=
  if p.view.uidValidity ≠ 0 ∨ locks = false then (x, { p with phase := .closed })
  else if x.uidValidity ≠ 0 then (x, { p with view := x }.endCreate directory unlocks)
  else
    let c := rboxMailboxCreateIndexes true u e x
    if commits = false then (x, { p with phase := .closed, view := x, guid := c.header.guid })
    else
      (c.apply x, { p with view := c.apply x, guid := c.header.guid }.endCreate directory unlocks)

/-- The first read of `rbox_mailbox_open`, and the synchronization of a corrupted mailbox. -/
def openRead (synced : Bool) (repair : Option IndexEnv) : MailboxIndex × RboxMailbox :=
  match readHeader false p.view.header with
  | some h => (x, p.remember h)
  | none =>
    if synced then
      (repairedIndex repair x, { p with phase := .repaired, view := repairedIndex repair x })
    else (x, { p with phase := .repaired })

/-- The second one, and a new guid if it fails. -/
def regenerate (e : IndexEnv) : RboxMailbox :=
  match readHeader false p.view.header with
  | some h => p.remember h
  | none => p.write none e

/-- The read behind a creation by another process, or behind the commit of a new guid. -/
def read : RboxMailbox :=
  match readHeader false p.view.header with
  | some h => p.remember h
  | none => { p with phase := .closed }

/-- `mail_index_transaction_commit`, and what the caller does with its result. -/
def commit (u : Option MailboxUpdate) (e : IndexEnv) (ok : Bool) : MailboxIndex × RboxMailbox :=
  if ok then
    ((p.change u e).apply x, { p with
      phase := if u.isSome then .opened else .reading
      view := (p.change u e).apply x })
  else (x, { p with phase := if u.isSome then .opened else .closed })

end RboxMailbox

/-- One step of a process. -/
def ProcessCall.step (x : MailboxIndex) (p : RboxMailbox) (a : ProcessCall) :
    MailboxIndex × RboxMailbox :=
  match a, p.phase with
  | .createOpen, .closed => (x, { p with phase := .creating, view := x })
  | .create directory locks unlocks commits u e, .creating =>
    p.create x directory locks unlocks commits u e
  | .open, .closed => (x, { p with phase := .opening, view := x })
  | .openRead synced repair, .opening => p.openRead x synced repair
  | .regenerate e, .repaired => (x, p.regenerate e)
  | .read, .reading => (x, p.read)
  | .update u e, .opened => (x, p.write (some u) e)
  | .commit ok, .writing u e => p.commit x u e ok
  | .refresh, .opened => (x, { p with view := x })
  | .close, .opened => (x, { p with phase := .closed })
  | _, _ => (x, p)

/-- The index, and for each process its `struct rbox_mailbox`. -/
structure SharedMailbox (ι : Type) where
  index : MailboxIndex
  process : ι → RboxMailbox

/-- The mailbox is not created, and nobody has opened it. -/
def SharedMailbox.init (ι : Type) : SharedMailbox ι := ⟨{}, fun _ => {}⟩

/-- A step of a process, or a save transaction or rebuild that is committed. -/
inductive MailboxOp (ι : Type) where
  | call (i : ι) (a : ProcessCall)
  | save (uidls orders : Bool)
  | rebuild (e : IndexEnv)

section Calls

variable {ι : Type} [DecidableEq ι] (s : SharedMailbox ι)

/-- What a step leaves. -/
def MailboxOp.step : MailboxOp ι → SharedMailbox ι
  | .call i a =>
    let r := a.step s.index (s.process i)
    ⟨r.1, Function.update s.process i r.2⟩
  | .save uidls orders => { s with index :=
      { s.index with header := saveUpdateHeaderFlags uidls orders s.index.header } }
  | .rebuild e => { s with index := rebuildHeader e s.index }

end Calls

/-- What is generated is not empty, and a mailbox is created with a new structure. -/
def ProcessCall.Allowed (p : RboxMailbox) : ProcessCall → Prop
  | .create _ _ _ _ _ e => e.Ok ∧ p.guid = .zero
  | .openRead _ repair => ∀ r, repair = some r → r.Ok
  | .regenerate e | .update _ e => e.Ok
  | .createOpen | .open | .read | .commit _ | .refresh | .close => True

def MailboxOp.Allowed {ι : Type} (s : SharedMailbox ι) : MailboxOp ι → Prop
  | .call i a => a.Allowed (s.process i)
  | .save .. => True
  | .rebuild e => e.Ok

/-! ## 3. What every step keeps -/

/-- What a process has in memory was the index some time ago, and whoever has the mailbox open has
    read a header. -/
structure RboxMailbox.Sound (p : RboxMailbox) (x : MailboxIndex) : Prop where
  numbered : p.view.Numbered
  later : p.view.Readable → x.Readable
  opened : p.phase = .opened → x.Readable
  writing : ∀ u e, p.phase = .writing u e → e.Ok ∧ p.guid = (p.change u e).header.guid ∧
    (u.isSome = true → x.Readable) ∧ (u = none → ¬ p.view.Readable)

structure SharedMailbox.Sound {ι : Type} (s : SharedMailbox ι) : Prop where
  numbered : s.index.Numbered
  process : ∀ i, (s.process i).Sound s.index

section Sound

variable {p : RboxMailbox} {x x' : MailboxIndex} {e : IndexEnv} {u : Option MailboxUpdate}

/-- A header that can be read stays so. -/
theorem RboxMailbox.Sound.mono (h : p.Sound x) (hx : x.Readable → x'.Readable) : p.Sound x' :=
  ⟨h.numbered, fun hv => hx (h.later hv), fun ho => hx (h.opened ho), fun u e hw =>
    ⟨(h.writing u e hw).1, (h.writing u e hw).2.1, fun hu => hx ((h.writing u e hw).2.2.1 hu),
      (h.writing u e hw).2.2.2⟩⟩

/-- A process that has neither opened the mailbox nor begun to write. -/
theorem sound_of_phase (hview : p.view.Numbered) (hlater : p.view.Readable → x.Readable)
    (hopened : p.phase ≠ .opened) (hwriting : ∀ u e, p.phase ≠ .writing u e) : p.Sound x :=
  ⟨hview, hlater, fun h => absurd h hopened, fun u e h => absurd h (hwriting u e)⟩

theorem sound_of_opened (hview : p.view.Numbered) (hlater : p.view.Readable → x.Readable)
    (hopened : p.phase = .opened) (hx : x.Readable) : p.Sound x :=
  ⟨hview, hlater, fun _ => hx, fun _ _ h => nomatch hopened.symm.trans h⟩

theorem readable_of_read {x : MailboxIndex} {h : RboxIndexHeader}
    (hh : readHeader false x.header = some h) : x.Readable := by
  unfold MailboxIndex.Readable
  rw [hh]
  rfl

theorem readable_of_none {x : MailboxIndex} (hh : readHeader false x.header = none) :
    ¬ x.Readable := by
  unfold MailboxIndex.Readable
  rw [hh]
  exact Bool.false_ne_true

theorem sound_remember (h : p.Sound x) {hdr : RboxIndexHeader}
    (hh : readHeader false p.view.header = some hdr) : (p.remember hdr).Sound x :=
  sound_of_opened h.numbered h.later rfl (h.later (readable_of_read hh))

/-- What a step of a process keeps: index and process. -/
structure KeepsIndex (x : MailboxIndex) (r : MailboxIndex × RboxMailbox) : Prop where
  numbered : r.1.Numbered
  readable : x.Readable → r.1.Readable
  sound : r.2.Sound r.1

theorem sound_write (h : p.Sound x) (he : e.Ok) (hopen : u.isSome = true → x.Readable)
    (hlost : u = none → ¬ p.view.Readable) : (p.write u e).Sound x := by
  refine ⟨h.numbered, h.later, (fun hphase => nomatch hphase), fun u' e' hphase => ?_⟩
  cases hphase
  exact ⟨he, rfl, hopen, hlost⟩

theorem sound_endCreate (directory unlocks : Bool) (hx : x.Numbered) (hview : p.view = x)
    (hreadable : x.Readable) : (p.endCreate directory unlocks).Sound x := by
  have hnumbered : (p.endCreate directory unlocks).view.Numbered := by
    show p.view.Numbered
    rw [hview]
    exact hx
  refine ⟨hnumbered, fun _ => hreadable, fun _ => hreadable, fun u' e' hphase => ?_⟩
  · unfold RboxMailbox.endCreate at hphase
    dsimp only at hphase
    split at hphase
    case isTrue => cases hphase
    case isFalse =>
      split at hphase
      case isTrue => cases hphase
      case isFalse => cases hphase

theorem keeps_create (h : p.Sound x) (hx : x.Numbered) (directory locks unlocks commits : Bool)
    (he : e.Ok) : KeepsIndex x (p.create x directory locks unlocks commits u e) := by
  have hvalid := createIndexes_valid true u he hx hx id
  unfold RboxMailbox.create
  split
  case isTrue =>
    exact ⟨hx, id, sound_of_phase h.numbered h.later MailboxPhase.noConfusion
      fun _ _ => MailboxPhase.noConfusion⟩
  case isFalse =>
    split
    case isTrue hcreated =>
      exact ⟨hx, id, sound_endCreate directory unlocks hx rfl (hx.mp hcreated)⟩
    case isFalse =>
      dsimp only
      split
      case isTrue =>
        exact ⟨hx, id, sound_of_phase hx id MailboxPhase.noConfusion
          fun _ _ => MailboxPhase.noConfusion⟩
      case isFalse =>
        exact ⟨apply_numbered hvalid, fun _ => apply_readable hvalid,
          sound_endCreate directory unlocks (apply_numbered hvalid) rfl (apply_readable hvalid)⟩

theorem keeps_openRead (h : p.Sound x) (hx : x.Numbered) (synced : Bool)
    {repair : Option IndexEnv} (hrepair : ∀ r, repair = some r → r.Ok) :
    KeepsIndex x (p.openRead x synced repair) := by
  have hnumbered := repairedIndex_numbered hrepair hx
  unfold RboxMailbox.openRead
  split
  case h_1 hdr hh => exact ⟨hx, id, sound_remember h hh⟩
  case h_2 =>
    split
    case isTrue =>
      refine ⟨hnumbered, fun hr => ?_, sound_of_phase hnumbered id MailboxPhase.noConfusion
        fun _ _ => MailboxPhase.noConfusion⟩
      rw [repairedIndex_of_readable repair hr]
      exact hr
    case isFalse =>
      exact ⟨hx, id, sound_of_phase h.numbered h.later MailboxPhase.noConfusion
        fun _ _ => MailboxPhase.noConfusion⟩

theorem sound_regenerate (h : p.Sound x) (he : e.Ok) : (p.regenerate e).Sound x := by
  unfold RboxMailbox.regenerate
  split
  case h_1 hdr hh => exact sound_remember h hh
  case h_2 hh => exact sound_write h he (fun hsome => nomatch hsome) fun _ => readable_of_none hh

theorem sound_read (h : p.Sound x) : p.read.Sound x := by
  unfold RboxMailbox.read
  split
  case h_1 hdr hh => exact sound_remember h hh
  case h_2 =>
    exact sound_of_phase h.numbered h.later MailboxPhase.noConfusion
      fun _ _ => MailboxPhase.noConfusion

theorem change_valid (h : p.Sound x) (hx : x.Numbered) (he : e.Ok) : (p.change u e).Valid x :=
  createIndexes_valid false u he h.numbered hx h.later

theorem keeps_commit (h : p.Sound x) (hx : x.Numbered) (hphase : p.phase = .writing u e)
    (ok : Bool) : KeepsIndex x (p.commit x u e ok) := by
  obtain ⟨he, _, hopen, _⟩ := h.writing u e hphase
  have hvalid := @change_valid p x e u h hx he
  -- the process has the mailbox open if it was updating it
  have hsound : ∀ {q : RboxMailbox} {y : MailboxIndex} {other : MailboxPhase},
      q.view.Numbered → (q.view.Readable → y.Readable) → (u.isSome = true → y.Readable) →
        other ≠ .opened → (∀ u e, other ≠ .writing u e) →
          { q with phase := if u.isSome then .opened else other }.Sound y := by
    intro q y other hview hlater hy hopened hwriting
    cases hu : u with
    | none => exact sound_of_phase hview hlater hopened hwriting
    | some u' => exact sound_of_opened hview hlater rfl (hy (hu ▸ rfl))
  unfold RboxMailbox.commit
  split
  case isTrue =>
    exact ⟨apply_numbered hvalid, fun _ => apply_readable hvalid,
      @hsound { p with view := (p.change u e).apply x } _ _ (apply_numbered hvalid) id
        (fun _ => apply_readable hvalid) MailboxPhase.noConfusion
        fun _ _ => MailboxPhase.noConfusion⟩
  case isFalse =>
    exact ⟨hx, id, @hsound p _ _ h.numbered h.later hopen MailboxPhase.noConfusion
      fun _ _ => MailboxPhase.noConfusion⟩

/-- **A step of a process.** -/
theorem keeps_step {a : ProcessCall} (h : p.Sound x) (hx : x.Numbered) (ha : a.Allowed p) :
    KeepsIndex x (a.step x p) := by
  have hseen : ∀ phase : MailboxPhase, phase ≠ .opened → (∀ u e, phase ≠ .writing u e) →
      KeepsIndex x (x, { p with phase, view := x }) := fun phase hopened hwriting =>
    ⟨hx, id, sound_of_phase hx id hopened hwriting⟩
  unfold ProcessCall.step
  split
  case h_1 => exact hseen _ MailboxPhase.noConfusion fun _ _ => MailboxPhase.noConfusion
  case h_2 directory locks unlocks commits u e _ =>
    exact keeps_create h hx directory locks unlocks commits ha.1
  case h_3 => exact hseen _ MailboxPhase.noConfusion fun _ _ => MailboxPhase.noConfusion
  case h_4 synced repair _ => exact keeps_openRead h hx synced ha
  case h_5 => exact ⟨hx, id, sound_regenerate h ha⟩
  case h_6 => exact ⟨hx, id, sound_read h⟩
  case h_7 u e hphase =>
    exact ⟨hx, id, sound_write h ha (fun _ => h.opened hphase) fun hnone => nomatch hnone⟩
  case h_8 ok u e hphase => exact keeps_commit h hx hphase ok
  case h_9 hphase => exact ⟨hx, id, sound_of_opened hx id hphase (h.opened hphase)⟩
  case h_10 =>
    exact ⟨hx, id, sound_of_phase h.numbered h.later MailboxPhase.noConfusion
      fun _ _ => MailboxPhase.noConfusion⟩
  case h_11 => exact ⟨hx, id, h⟩

end Sound

section Steps

variable {ι : Type} [DecidableEq ι] {s : SharedMailbox ι} {op : MailboxOp ι} {h : RboxIndexHeader}

omit [DecidableEq ι] in
/-- The index behind a step, for those who have not taken it. -/
theorem SharedMailbox.Sound.of_index {x : MailboxIndex} (hs : s.Sound) (hnumbered : x.Numbered)
    (hreadable : s.index.Readable → x.Readable) : { s with index := x }.Sound :=
  ⟨hnumbered, fun i => (hs.process i).mono hreadable⟩

/-- **Every step keeps it**, and never loses a header. -/
theorem SharedMailbox.Sound.step (hs : s.Sound) (ha : op.Allowed s) :
    (op.step s).Sound ∧ (s.index.Readable → (op.step s).index.Readable) := by
  cases op with
  | call i a =>
      have hkeeps := keeps_step (hs.process i) hs.numbered ha
      refine ⟨⟨hkeeps.numbered, fun j => ?_⟩, hkeeps.readable⟩
      by_cases hj : j = i
      · subst hj
        show (Function.update s.process j _ j).Sound _
        rw [Function.update_self]
        exact hkeeps.sound
      · show (Function.update s.process i _ j).Sound _
        rw [Function.update_of_ne hj]
        exact (hs.process j).mono hkeeps.readable
  | save uidls orders =>
      have hsame := saveFlags_readable uidls orders s.index
      exact ⟨hs.of_index (hs.numbered.trans hsame.symm) hsame.mpr, hsame.mpr⟩
  | rebuild e =>
      obtain ⟨hnumbered, hreadable⟩ := rebuildHeader_numbered ha s.index
      exact ⟨hs.of_index hnumbered fun _ => hreadable, fun _ => hreadable⟩

theorem SharedMailbox.sound_init (ι : Type) : (SharedMailbox.init ι).Sound := by
  have hnew : ({} : MailboxIndex).Numbered := by
    refine iff_of_false (not_not.mpr rfl) (readable_of_none ?_)
    rfl
  exact ⟨hnew, fun _ => sound_of_phase hnew id MailboxPhase.noConfusion
    fun _ _ => MailboxPhase.noConfusion⟩

theorem SharedMailbox.Sound.run {ops : List (MailboxOp ι)} (hs : s.Sound)
    (ha : Along MailboxOp.step (fun s op => op.Allowed s) s ops) :
    (Lib.run MailboxOp.step s ops).Sound :=
  along_inv (I := fun s => s.Sound) (fun _ _ hs ha => (hs.step ha).1) hs ha

end Steps

/-! ## 4. The header -/

/-- What a step does to a header when nobody comes between: those that change it are the commits of
    updates, save transactions and rebuilds. -/
inductive HeaderEvent where
  | nothing
  | setGuid (g : MailGuid)
  | addFlags (flags : UInt8)
  | rebuilt

namespace HeaderEvent

def apply (h : RboxIndexHeader) : HeaderEvent → RboxIndexHeader
  | .nothing => h
  | .setGuid g => { h with mailboxGuid := g }
  | .addFlags flags => { h with flags := h.flags ||| flags }
  | .rebuilt => h.rebuilt

def asked : HeaderEvent → Option MailGuid
  | .setGuid g => some g
  | .nothing | .addFlags _ | .rebuilt => none

def saved : HeaderEvent → UInt8
  | .addFlags flags => flags
  | .nothing | .setGuid _ | .rebuilt => 0

/-- What an update does, or the transaction that gives a lost header a new guid. -/
def ofUpdate (u : Option MailboxUpdate) : HeaderEvent := ((askedGuid u).map .setGuid).getD .nothing

end HeaderEvent

/-- The headers are the same but for the guid. -/
def RboxIndexHeader.SameButGuid (h h' : RboxIndexHeader) : Prop :=
  { h with mailboxGuid := h'.mailboxGuid } = h'

/-- **Nobody comes between**: the header is still what the process has in memory, as far as the
    transaction depends on it; `header` is the one in the index. -/
def RboxMailbox.Undisturbed (p : RboxMailbox) (u : Option MailboxUpdate) (e : IndexEnv)
    (header : RboxIndexHeader) : Prop :=
  match readHeader false p.view.header, askedGuid u with
  | some _, none => True
  -- the header in memory has this guid already, so that nothing is written
  | some h, some g => if g = h.mailboxGuid then header.mailboxGuid = g else header.SameButGuid h
  | none, some _ => header.SameButGuid .zero
  | none, none => header.SameButGuid .zero ∧ header.mailboxGuid = e.guid

/-- The transaction that a step commits. -/
def ProcessCall.commits (p : RboxMailbox) : ProcessCall → Option (Option MailboxUpdate × IndexEnv)
  | .commit true => match p.phase with
    | .writing u e => some (u, e)
    | _ => none
  | _ => none

section Events

variable {ι : Type} [DecidableEq ι] (s : SharedMailbox ι)

/-- An update counts when it is committed. -/
def MailboxOp.event : MailboxOp ι → HeaderEvent
  | .call i a => ((a.commits (s.process i)).map fun t => .ofUpdate t.1).getD .nothing
  | .save uidls orders => .addFlags (pop3Flags uidls orders)
  | .rebuild _ => .rebuilt

def MailboxOp.Undisturbed : MailboxOp ι → Prop
  | .call i a => ∀ t h, a.commits (s.process i) = some t →
      readHeader false s.index.header = some h → (s.process i).Undisturbed t.1 t.2 h
  | .save .. | .rebuild _ => True

end Events

section Headers

variable {p : RboxMailbox} {x : MailboxIndex} {u : Option MailboxUpdate} {e : IndexEnv}
  {c h h' : RboxIndexHeader}

end Headers

section HeaderRuns

variable {ι : Type} [DecidableEq ι] {s : SharedMailbox ι} {ops : List (MailboxOp ι)}
  {h : RboxIndexHeader}

end HeaderRuns

/-- If the process has the mailbox open, it holds the guid that is in the header. -/
def RboxMailbox.Holds (p : RboxMailbox) (x : MailboxIndex) : Prop :=
  p.phase = .opened → ∃ h, readHeader false x.header = some h ∧ p.guid = h.mailboxGuid

/-- **Who has the mailbox open, has its guid.** -/
def SharedMailbox.Agree {ι : Type} (s : SharedMailbox ι) : Prop :=
  ∀ i, (s.process i).Holds s.index

section Guids

variable {ι : Type} {s : SharedMailbox ι} {p : RboxMailbox} {x y : MailboxIndex}
  {u : Option MailboxUpdate} {e : IndexEnv} {c h : RboxIndexHeader} {i : ι}

/-- Nobody has a mailbox open whose header cannot be read. -/
theorem SharedMailbox.Agree.of_index (hagree : s.Agree) (hy : s.index.Readable → y = s.index)
    (j : ι) : (s.process j).Holds y := by
  intro hphase
  obtain ⟨h, hh, hguid⟩ := hagree j hphase
  rw [hy (readable_of_read hh)]
  exact ⟨h, hh, hguid⟩

end Guids

section Agreement

variable {ι : Type} [DecidableEq ι] {s : SharedMailbox ι} {op : MailboxOp ι} {i : ι}

end Agreement

end DovecotCeph
