/-
  File:      DovecotCeph/Storage/RebuildUids.lean
  Subject:   The uids a rebuild gives (rbox-sync-rebuild.cpp), and those of a mailbox over rebuilds
             and saves.

  `rebuild_ctx->next_uid` starts as `INT_MAX` and is set from the header by the first call; a mail
  that is skipped leaves it, and one that cannot be added ends the loop.
  * `rboxSyncRebuildEntryTrace`: the function with the uids it hands to `mail_index_append`;
    `entryTrace_erase`: without them it is `rboxSyncRebuildEntry`;
  * `entryTrace_uids`: they are consecutive;
  * `DovecotIndex`: what the plugin relies on in Dovecot's index; `plainIndex` is one;
    `rebuildIndex_eq`: with it a rebuild is `rboxSyncIndexRebuild`;
  * `UidInv`: what holds along the operations; **`rebuild_uids_fresh`**: no uid is given twice.
-/
import DovecotCeph.Lib.Run
import DovecotCeph.Storage.RebuildPass
import Mathlib.Data.List.Nodup

namespace DovecotCeph

open Lib

/-! ## 1. The traced function -/

section Trace

variable {γ : Type} (E : RebuildEnv γ) (p : Pass)

/-- The loop of `rbox_sync_rebuild_entry`: the uids handed to `mail_index_append`, and what the loop
    has done, `none` where `std::stoi` throws. -/
def entryLoopTrace (guid : String) :
    List RadosMail → Nat → MailXattrs → List Nat × Option (EntryResult γ)
  | [], _, objs => ([], some ⟨true, [], [], objs⟩)
  | m :: ms, uid, objs =>
    if m.mailboxGuid ≠ guid ∨ m.restored then
      let r := entryLoopTrace guid ms uid objs
      (r.1, r.2.map fun r => { r with mails := m :: r.mails })
    else
      match rboxSyncAddObject E p m uid objs with
      | none => ([uid], none)
      | some (none, objs) => ([uid], some ⟨false, m :: ms, [], objs⟩)
      | some (some record, objs) =>
        let r := entryLoopTrace guid ms ((uid + 1) % 2 ^ 32) objs
        (uid :: r.1, r.2.map fun r =>
          { r with
            mails := { m with restored := true } :: r.mails
            records := record :: r.records })

/-- `rbox_sync_rebuild_entry` for the `next_uid` of the rebuild and that of the header. -/
def rboxSyncRebuildEntryTrace (guid : String) (ms : List RadosMail) (ctxNextUid hdrNextUid : Nat)
    (objs : MailXattrs) : List Nat × Option (EntryResult γ) :=
  let nextUid :=
    if ctxNextUid = intMax then if hdrNextUid ≠ 0 then hdrNextUid else 1 else ctxNextUid
  entryLoopTrace E p guid ms nextUid objs

/-- `rbox_sync_index_rebuild_objects`. -/
def rebuildObjectsTrace (guid : String) (ms : List RadosMail) (hdrNextUid : Nat)
    (objs : MailXattrs) : List Nat × Option (EntryResult γ) :=
  rboxSyncRebuildEntryTrace E p guid ms intMax hdrNextUid objs

end Trace

section Uids

variable {γ : Type} {E : RebuildEnv γ} {p : Pass} {guid : String}

theorem entryLoopTrace_erase (ms : List RadosMail) (uid : Nat) (objs : MailXattrs) :
    (entryLoopTrace E p guid ms uid objs).2 = rboxSyncRebuildEntry E p guid ms uid objs := by
  induction ms generalizing uid objs with
  | nil => rfl
  | cons m ms ih =>
      rw [entryLoopTrace, rboxSyncRebuildEntry]
      by_cases hskip : m.mailboxGuid ≠ guid ∨ m.restored
      · rw [if_pos hskip, if_pos hskip, ← ih]
      · rw [if_neg hskip, if_neg hskip]
        cases rboxSyncAddObject E p m uid objs with
        | none => rfl
        | some a =>
            obtain ⟨record, objs'⟩ := a
            cases record with
            | none => rfl
            | some record =>
                rw [Option.bind_some]
                dsimp only
                rw [ih]

/-- **Without the uids it is `rbox_sync_rebuild_entry`**, from the uid of the header on. -/
theorem entryTrace_erase (ms : List RadosMail) (b : BoxIndex γ) (objs : MailXattrs) :
    (rebuildObjectsTrace E p guid ms b.nextUid objs).2 =
      rboxSyncRebuildEntry E p guid ms b.firstUid objs :=
  entryLoopTrace_erase ms b.firstUid objs

theorem entryLoopTrace_uids (ms : List RadosMail) (uid : Nat) (objs : MailXattrs)
    (hmax : ∀ u ∈ (entryLoopTrace E p guid ms uid objs).1, u < intMax) :
    (entryLoopTrace E p guid ms uid objs).1 =
      List.range' uid (entryLoopTrace E p guid ms uid objs).1.length := by
  induction ms generalizing uid objs with
  | nil => rfl
  | cons m ms ih =>
      rw [entryLoopTrace] at hmax ⊢
      split at hmax
      case isTrue hskip =>
        rw [if_pos hskip]
        exact ih uid objs hmax
      case isFalse hskip =>
        rw [if_neg hskip]
        cases hadd : rboxSyncAddObject E p m uid objs with
        | none => rfl
        | some a =>
            obtain ⟨record, objs'⟩ := a
            rw [hadd] at hmax
            cases record with
            | none => rfl
            | some record =>
                have huid : uid < intMax := hmax uid List.mem_cons_self
                have hnext : (uid + 1) % 2 ^ 32 = uid + 1 := by
                  unfold intMax at huid
                  omega
                dsimp only at hmax ⊢
                rw [hnext] at hmax ⊢
                rw [List.length_cons, List.range'_succ]
                exact congrArg (uid :: ·)
                  (ih (uid + 1) objs' fun u hu => hmax u (List.mem_cons_of_mem _ hu))

theorem addObject_uid {m : RadosMail} {uid : Nat} {objs objs' : MailXattrs} {record : IndexRecord γ}
    (h : rboxSyncAddObject E p m uid objs = some (some record, objs')) : record.uid = uid := by
  obtain ⟨_, _, h⟩ := Option.bind_eq_some_iff.mp h
  split at h
  case h_1 =>
    cases h
    rfl
  case h_2 => cases h

/-- The records of a rebuild that succeeds have the uids it has handed out. -/
theorem entryLoopTrace_records {ms : List RadosMail} {uid : Nat} {objs : MailXattrs}
    {r : EntryResult γ} (h : (entryLoopTrace E p guid ms uid objs).2 = some r) (hok : r.ok = true) :
    r.records.map (·.uid) = (entryLoopTrace E p guid ms uid objs).1 := by
  induction ms generalizing uid objs r with
  | nil =>
      cases h
      rfl
  | cons m ms ih =>
      rw [entryLoopTrace] at h ⊢
      split at h
      case isTrue hskip =>
        rw [if_pos hskip]
        obtain ⟨r', hr', rfl⟩ := Option.map_eq_some_iff.mp h
        have hrest : r'.records.map (·.uid) = _ := ih hr' hok
        exact hrest
      case isFalse hskip =>
        rw [if_neg hskip]
        cases hadd : rboxSyncAddObject E p m uid objs with
        | none =>
            rw [hadd] at h
            cases h
        | some a =>
            obtain ⟨record, objs'⟩ := a
            rw [hadd] at h
            cases record with
            | none =>
                cases h
                cases hok
            | some record =>
                obtain ⟨r', hr', rfl⟩ := Option.map_eq_some_iff.mp h
                show record.uid :: r'.records.map (·.uid) = _
                rw [addObject_uid hadd, ih hr' hok]

/-- **The uids of a rebuild are consecutive**, from the `next_uid` of the header on. -/
theorem entryTrace_uids (ms : List RadosMail) (hdrNextUid : Nat) (objs : MailXattrs)
    (hmax : ∀ u ∈ (rebuildObjectsTrace E p guid ms hdrNextUid objs).1, u < intMax) :
    (rebuildObjectsTrace E p guid ms hdrNextUid objs).1 =
      List.range' (if hdrNextUid ≠ 0 then hdrNextUid else 1)
        (rebuildObjectsTrace E p guid ms hdrNextUid objs).1.length :=
  entryLoopTrace_uids ms _ objs hmax

end Uids

/-! ## 2. Rebuilds and saves of a mailbox -/

/-- A mail of a transaction asks for a uid that it can have. -/
def Asks (first uid : Nat) : Prop := uid ≠ 0 ∧ first ≤ uid

instance (first uid : Nat) : Decidable (Asks first uid) := inferInstanceAs (Decidable (_ ∧ _))

/-- Dovecot's index: the uids `mail_index_append_finish_uids` gives to mails that ask for certain
    ones, zero for none, and the `next_uid` that a commit leaves. -/
structure DovecotIndex where
  finishUids : Nat → List Nat → List Nat
  nextUid : Nat → List Nat → Nat
  finish_length : ∀ (first : Nat) (asked : List Nat), (finishUids first asked).length = asked.length
  finish_kept : ∀ (first : Nat) (asked : List Nat), ∀ q ∈ asked.zip (finishUids first asked),
    Asks first q.1 → q.2 = q.1
  /-- New uids are not below the first one, and above all that are asked for. -/
  finish_new : ∀ (first : Nat) (asked : List Nat), ∀ q ∈ asked.zip (finishUids first asked),
    ¬ Asks first q.1 → first ≤ q.2 ∧ ∀ uid ∈ asked, uid < q.2
  finish_ascending : ∀ (first : Nat) (asked : List Nat),
    (asked.zip (finishUids first asked)).Pairwise fun q q' =>
      ¬ Asks first q.1 → ¬ Asks first q'.1 → q.2 < q'.2
  nextUid_ge : ∀ (n : Nat) (uids : List Nat), n ≤ nextUid n uids
  nextUid_above : ∀ (n : Nat) (uids : List Nat), ∀ uid ∈ uids, uid < nextUid n uids

/-! ### A plain index -/

/-- The first number from `n` on above all of `uids`. -/
def uidAbove (n : Nat) : List Nat → Nat
  | [] => n
  | uid :: uids => max (uid + 1) (uidAbove n uids)

/-- The second loop of `mail_index_append_finish_uids`: uids from `next` on for mails that have
    none to keep. -/
def finishFrom (first : Nat) : Nat → List Nat → List Nat
  | _, [] => []
  | next, uid :: asked =>
    if Asks first uid then uid :: finishFrom first next asked
    else next :: finishFrom first (next + 1) asked

section Plain

variable {n first next : Nat} {uids asked : List Nat}

theorem uidAbove_ge : n ≤ uidAbove n uids := by
  induction uids with
  | nil => exact Nat.le_refl n
  | cons uid uids ih =>
      show n ≤ max (uid + 1) (uidAbove n uids)
      omega

theorem lt_uidAbove {uid : Nat} (h : uid ∈ uids) : uid < uidAbove n uids := by
  induction uids with
  | nil => cases h
  | cons u uids ih =>
      show uid < max (u + 1) (uidAbove n uids)
      rcases List.mem_cons.mp h with rfl | h
      · omega
      · have hlt := ih h
        omega

theorem uidAbove_range' (len : Nat) : uidAbove n (List.range' n len) = n + len := by
  have hfrom : ∀ m len, n ≤ m →
      uidAbove n (List.range' m len) = if len = 0 then n else m + len := by
    intro m len
    induction len generalizing m with
    | zero => exact fun _ => rfl
    | succ len ih =>
        intro hm
        show max (m + 1) (uidAbove n (List.range' (m + 1) len)) = m + (len + 1)
        rw [ih (m + 1) (by omega)]
        split <;> omega
  rw [hfrom n len (Nat.le_refl n)]
  split <;> omega

theorem length_finishFrom : (finishFrom first next asked).length = asked.length := by
  induction asked generalizing next with
  | nil => rfl
  | cons uid asked ih =>
      rw [finishFrom]
      split
      · exact congrArg (· + 1) ih
      · exact congrArg (· + 1) ih

theorem finishFrom_kept {q : Nat × Nat} (hq : q ∈ asked.zip (finishFrom first next asked))
    (h : Asks first q.1) : q.2 = q.1 := by
  induction asked generalizing next with
  | nil => cases hq
  | cons uid asked ih =>
      rw [finishFrom] at hq
      split at hq
      case isTrue =>
        rcases List.mem_cons.mp hq with rfl | hq
        · rfl
        · exact ih hq
      case isFalse hasks =>
        rcases List.mem_cons.mp hq with rfl | hq
        · exact absurd h hasks
        · exact ih hq

theorem finishFrom_new {q : Nat × Nat} (hq : q ∈ asked.zip (finishFrom first next asked))
    (h : ¬ Asks first q.1) : next ≤ q.2 := by
  induction asked generalizing next with
  | nil => cases hq
  | cons uid asked ih =>
      rw [finishFrom] at hq
      split at hq
      case isTrue hasks =>
        rcases List.mem_cons.mp hq with rfl | hq
        · exact absurd hasks h
        · exact ih hq
      case isFalse =>
        rcases List.mem_cons.mp hq with rfl | hq
        · exact Nat.le_refl next
        · exact Nat.le_of_succ_le (ih hq)

theorem finishFrom_ascending : (asked.zip (finishFrom first next asked)).Pairwise fun q q' =>
    ¬ Asks first q.1 → ¬ Asks first q'.1 → q.2 < q'.2 := by
  induction asked generalizing next with
  | nil => exact List.Pairwise.nil
  | cons uid asked ih =>
      rw [finishFrom]
      split
      case isTrue hasks =>
        exact List.Pairwise.cons (fun q hq hnot => absurd hasks hnot) ih
      case isFalse =>
        exact List.Pairwise.cons (fun q hq _ hnew => finishFrom_new hq hnew) ih

end Plain

/-- An index that gives the least uids. -/
def plainIndex : DovecotIndex where
  finishUids first asked := finishFrom first (uidAbove first asked) asked
  nextUid n uids := uidAbove (max n 1) uids
  finish_length _ _ := length_finishFrom
  finish_kept _ _ _ hq h := finishFrom_kept hq h
  finish_new first asked q hq h := by
    have hge : uidAbove first asked ≤ q.2 := finishFrom_new hq h
    refine ⟨Nat.le_trans uidAbove_ge hge, fun uid huid => ?_⟩
    exact Nat.lt_of_lt_of_le (lt_uidAbove huid) hge
  finish_ascending _ _ := finishFrom_ascending
  nextUid_ge n _ := Nat.le_trans (Nat.le_max_left n 1) uidAbove_ge
  nextUid_above _ _ _ huid := lt_uidAbove huid

/-! ### The operations -/

/-- A call of `rbox_sync_index_rebuild`. -/
structure RebuildCall (γ : Type) where
  E : RebuildEnv γ
  pass : Pass
  force : Bool
  store : RebuildStore
  commits : Bool

/-- The operations of a mailbox: a rebuild, and the commit of mails with the uids they ask for. -/
inductive IndexOp (γ : Type) where
  | rebuild (c : RebuildCall γ)
  | save (mails : List (IndexRecord γ))

/-- The index of a mailbox, and all uids that committed operations have given. -/
structure IndexRun (γ : Type) where
  index : BoxIndex γ
  given : List Nat

/-- No uid is kept for two mails: of a transaction with such a uid Dovecot ends the process. -/
def Distinct (first : Nat) (asked : List Nat) : Prop :=
  asked.Pairwise fun uid uid' => Asks first uid → uid ≠ uid'

instance (first : Nat) (asked : List Nat) : Decidable (Distinct first asked) :=
  inferInstanceAs (Decidable (List.Pairwise _ asked))

section Step

variable {γ : Type} (D : DovecotIndex) (info : BoxInfo)

/-- A rebuild: of one that fails or is not committed nothing remains in the index. -/
def rebuildIndex (c : RebuildCall γ) (s : IndexRun γ) : IndexRun γ :=
  if alreadyRebuilt c.force c.store.corrupted ⟨info, s.index⟩ then s
  else
    match rebuildObjectsTrace c.E c.pass info.guid c.store.mails s.index.nextUid c.store.objs with
    | (_, none) => s
    | (uids, some r) =>
      if r.ok && c.commits then
        ⟨⟨r.records, D.nextUid s.index.nextUid uids, nextRebuildCount s.index.rebuildCount⟩,
          s.given ++ uids⟩
      else s

/-- `mail_index_append_finish_uids` and the commit of a save. -/
def saveIndex (mails : List (IndexRecord γ)) (s : IndexRun γ) : IndexRun γ :=
  let uids := D.finishUids s.index.nextUid (mails.map (·.uid))
  if Distinct s.index.nextUid (mails.map (·.uid)) then
    ⟨{ s.index with
        records := s.index.records ++ mails.zipWith (fun r uid => { r with uid := uid }) uids
        nextUid := D.nextUid s.index.nextUid uids }, s.given ++ uids⟩
  else s

def indexStep (s : IndexRun γ) : IndexOp γ → IndexRun γ
  | .rebuild c => rebuildIndex D info c s
  | .save mails => saveIndex D mails s

end Step

section Refines

variable {γ : Type} {info : BoxInfo} {c : RebuildCall γ} {s : IndexRun γ}

theorem plain_nextUid {n : Nat} {uids : List Nat}
    (h : uids = List.range' (if n ≠ 0 then n else 1) uids.length) :
    plainIndex.nextUid n uids = (if n ≠ 0 then n else 1) + uids.length := by
  have hfirst : max n 1 = if n ≠ 0 then n else 1 := by
    split <;> omega
  show uidAbove (max n 1) uids = _
  rw [hfirst]
  generalize (if n ≠ 0 then n else 1) = first at h ⊢
  rw [h, List.length_range']
  exact uidAbove_range' _

/-- The uid behind consecutive ones that are below `INT_MAX` does not wrap. -/
theorem uid_behind_lt {first : Nat} {uids : List Nat} (h : uids = List.range' first uids.length)
    (hfirst : first < 2 ^ 32) (hmax : ∀ uid ∈ uids, uid < intMax) :
    first + uids.length < 2 ^ 32 := by
  by_cases hnil : uids.length = 0
  · omega
  · have hmem : first + uids.length - 1 ∈ uids := by
      rw [h]
      exact List.mem_range'_1.mpr (by rw [List.length_range']; omega)
    have hlast := hmax _ hmem
    unfold intMax at hlast
    omega

/-- **With the plain index a rebuild is `rbox_sync_index_rebuild`**, where no uid reaches
    `INT_MAX`. -/
theorem rebuildIndex_eq {b : RebuildBox γ} {store : RebuildStore}
    (hcommits : c.commits = info.commits c.pass) (hnext : s.index.nextUid < 2 ^ 32)
    (hmax : ∀ uid ∈ (rebuildIndex plainIndex info c s).given, uid < intMax)
    (h : rboxSyncIndexRebuild c.E c.pass c.force ⟨info, s.index⟩ c.store = some (b, store)) :
    (rebuildIndex plainIndex info c s).index = b.index := by
  unfold rboxSyncIndexRebuild at h
  unfold rebuildIndex at hmax ⊢
  split at h
  case isTrue hdone =>
    rw [if_pos hdone]
    cases h
    rfl
  case isFalse hdone =>
    rw [if_neg hdone] at hmax ⊢
    obtain ⟨r, hr, hb⟩ := Option.map_eq_some_iff.mp h
    obtain ⟨rfl, -⟩ := Prod.mk.inj hb
    rw [← entryTrace_erase] at hr
    have hrange := @entryTrace_uids γ c.E c.pass info.guid c.store.mails s.index.nextUid
      c.store.objs
    have hrecords := entryLoopTrace_records hr
    generalize htrace : rebuildObjectsTrace c.E c.pass info.guid c.store.mails s.index.nextUid
      c.store.objs = t at hmax hr hrange ⊢
    obtain ⟨uids, r'⟩ := t
    cases hr
    dsimp only at hmax hrange ⊢
    rw [hcommits] at hmax ⊢
    split at hmax
    case isTrue hok =>
      rw [if_pos hok, if_pos hok]
      have huids : r.records.map (·.uid) = uids :=
        (hrecords (Bool.and_eq_true_iff.mp hok).1).trans (congrArg Prod.fst htrace)
      have hlength : r.records.length = uids.length := by
        rw [← huids, List.length_map]
      have hbelow : ∀ uid ∈ uids, uid < intMax := fun uid huid =>
        hmax uid (List.mem_append_right _ huid)
      have hfirst : (if s.index.nextUid ≠ 0 then s.index.nextUid else 1) < 2 ^ 32 := by
        split <;> omega
      have hconsecutive := hrange hbelow
      have hbehind := uid_behind_lt hconsecutive hfirst hbelow
      have hsame : plainIndex.nextUid s.index.nextUid uids =
          (s.index.firstUid + r.records.length) % 2 ^ 32 := by
        rw [plain_nextUid hconsecutive, hlength]
        exact (Nat.mod_eq_of_lt hbehind).symm
      rw [hsame]
    case isFalse hok => rw [if_neg hok, if_neg hok]

end Refines

/-! ## 3. The invariant -/

/-- The uids given are different, and below `next_uid`, which was `first` before. -/
structure UidInv {γ : Type} (first : Nat) (s : IndexRun γ) : Prop where
  above : ∀ uid ∈ s.given, first ≤ uid
  below : ∀ uid ∈ s.given, uid < s.index.nextUid
  nodup : s.given.Nodup
  next : first ≤ s.index.nextUid

section Fresh

variable {γ : Type} {D : DovecotIndex} {info : BoxInfo} {first : Nat} {s : IndexRun γ}

/-- Different uids from `next_uid` on keep the invariant. -/
theorem UidInv.give (hi : UidInv first s) {uids : List Nat} {index : BoxIndex γ}
    (hnext : index.nextUid = D.nextUid s.index.nextUid uids)
    (hge : ∀ uid ∈ uids, s.index.nextUid ≤ uid) (hnodup : uids.Nodup) :
    UidInv first ⟨index, s.given ++ uids⟩ where
  above := by
    intro uid huid
    rcases List.mem_append.mp huid with huid | huid
    · exact hi.above uid huid
    · exact Nat.le_trans hi.next (hge uid huid)
  below := by
    intro uid huid
    show uid < index.nextUid
    rw [hnext]
    rcases List.mem_append.mp huid with huid | huid
    · exact Nat.lt_of_lt_of_le (hi.below uid huid) (D.nextUid_ge _ _)
    · exact D.nextUid_above _ _ uid huid
  nodup := by
    refine List.nodup_append.mpr ⟨hi.nodup, hnodup, fun uid huid uid' huid' => ?_⟩
    have hlt := hi.below uid huid
    have hle := hge uid' huid'
    omega
  next := by
    show first ≤ index.nextUid
    rw [hnext]
    exact Nat.le_trans hi.next (D.nextUid_ge _ _)

/-- Operations only add uids. -/
theorem indexStep_given (D : DovecotIndex) (info : BoxInfo) (s : IndexRun γ) (op : IndexOp γ) :
    ∃ uids, (indexStep D info s op).given = s.given ++ uids := by
  have hsame : ∃ uids, s.given = s.given ++ uids := ⟨[], (List.append_nil _).symm⟩
  cases op with
  | rebuild c =>
      show ∃ uids, (rebuildIndex D info c s).given = _
      unfold rebuildIndex
      split
      case isTrue => exact hsame
      case isFalse =>
        split
        case h_1 => exact hsame
        case h_2 =>
          split
          case isTrue => exact ⟨_, rfl⟩
          case isFalse => exact hsame
  | save mails =>
      show ∃ uids, (saveIndex D mails s).given = _
      unfold saveIndex
      dsimp only
      split
      case isTrue => exact ⟨_, rfl⟩
      case isFalse => exact hsame

/-- **A rebuild gives new uids.** -/
theorem rebuildIndex_inv (hi : UidInv first s) (c : RebuildCall γ)
    (hmax : ∀ uid ∈ (rebuildIndex D info c s).given, uid < intMax) :
    UidInv first (rebuildIndex D info c s) := by
  unfold rebuildIndex at hmax ⊢
  split at hmax
  case isTrue hdone =>
    rw [if_pos hdone]
    exact hi
  case isFalse hdone =>
    rw [if_neg hdone]
    have huids := @entryTrace_uids γ c.E c.pass info.guid c.store.mails s.index.nextUid
      c.store.objs
    generalize rebuildObjectsTrace c.E c.pass info.guid c.store.mails s.index.nextUid
      c.store.objs = t at hmax huids ⊢
    obtain ⟨uids, r⟩ := t
    cases r with
    | none => exact hi
    | some r =>
        dsimp only at hmax huids ⊢
        split at hmax
        case isTrue hok =>
          rw [if_pos hok]
          have hrange := huids fun u hu => hmax u (List.mem_append_right _ hu)
          refine hi.give rfl (fun uid huid => ?_) ?_
          · rw [hrange] at huid
            have hle := (List.mem_range'_1.mp huid).1
            split at hle
            case isTrue => exact hle
            case isFalse hzero =>
              rw [not_not.mp hzero]
              exact Nat.zero_le _
          · rw [hrange]
            exact List.nodup_range'
        case isFalse hok =>
          rw [if_neg hok]
          exact hi

/-- The uids of a save are new, and different. -/
theorem finishUids_new {n : Nat} {asked : List Nat} (h : Distinct n asked) :
    (∀ uid ∈ D.finishUids n asked, n ≤ uid) ∧ (D.finishUids n asked).Nodup := by
  have hlen := D.finish_length n asked
  have hfst : (asked.zip (D.finishUids n asked)).map Prod.fst = asked :=
    List.map_fst_zip (Nat.le_of_eq hlen.symm)
  have hsnd : (asked.zip (D.finishUids n asked)).map Prod.snd = D.finishUids n asked :=
    List.map_snd_zip (Nat.le_of_eq hlen)
  have hasked :
      (asked.zip (D.finishUids n asked)).Pairwise fun q q' => Asks n q.1 → q.1 ≠ q'.1 := by
    unfold Distinct at h
    rw [← hfst] at h
    exact List.pairwise_map.mp h
  have hmem : ∀ q ∈ asked.zip (D.finishUids n asked), q.1 ∈ asked := fun q hq =>
    (List.of_mem_zip hq).1
  constructor
  · intro uid huid
    rw [← hsnd] at huid
    obtain ⟨q, hq, rfl⟩ := List.mem_map.mp huid
    by_cases hasks : Asks n q.1
    · rw [D.finish_kept n asked q hq hasks]
      exact hasks.2
    · exact (D.finish_new n asked q hq hasks).1
  · rw [← hsnd]
    refine List.pairwise_map.mpr ?_
    refine List.Pairwise.imp_of_mem ?_ ((D.finish_ascending n asked).and hasked)
    intro q q' hq hq' hboth heq
    -- two that are kept, one that is kept and a new one, or two new ones
    by_cases hasks : Asks n q.1
    · have hkept := D.finish_kept n asked q hq hasks
      by_cases hasks' : Asks n q'.1
      · have hkept' := D.finish_kept n asked q' hq' hasks'
        exact hboth.2 hasks (hkept.symm.trans (heq.trans hkept'))
      · have hlt := (D.finish_new n asked q' hq' hasks').2 q.1 (hmem q hq)
        omega
    · by_cases hasks' : Asks n q'.1
      · have hkept' := D.finish_kept n asked q' hq' hasks'
        have hlt := (D.finish_new n asked q hq hasks).2 q'.1 (hmem q' hq')
        omega
      · have hlt := hboth.1 hasks hasks'
        omega

/-- **A save gives new uids.** -/
theorem saveIndex_inv (hi : UidInv first s) (mails : List (IndexRecord γ)) :
    UidInv first (saveIndex D mails s) := by
  unfold saveIndex
  dsimp only
  split
  case isTrue hdistinct =>
    obtain ⟨hge, hnodup⟩ := finishUids_new (D := D) hdistinct
    exact hi.give rfl hge hnodup
  case isFalse => exact hi

theorem indexStep_inv (hi : UidInv first s) (op : IndexOp γ)
    (hmax : ∀ uid ∈ (indexStep D info s op).given, uid < intMax) :
    UidInv first (indexStep D info s op) := by
  cases op with
  | rebuild c => exact rebuildIndex_inv hi c hmax
  | save mails => exact saveIndex_inv hi mails

/-- The invariant holds along the operations. -/
theorem run_uidInv (hi : UidInv first s) {ops : List (IndexOp γ)}
    (hmax : ∀ uid ∈ (run (indexStep D info) s ops).given, uid < intMax) :
    UidInv first (run (indexStep D info) s ops) := by
  have hback : ∀ (s : IndexRun γ) (op : IndexOp γ),
      (∀ uid ∈ (indexStep D info s op).given, uid < intMax) → ∀ uid ∈ s.given, uid < intMax := by
    intro s op hbelow uid huid
    obtain ⟨uids, hgiven⟩ := indexStep_given D info s op
    refine hbelow uid ?_
    rw [hgiven]
    exact List.mem_append_left _ huid
  have halong := along_of_run (Q := fun s : IndexRun γ => ∀ uid ∈ s.given, uid < intMax) hback hmax
  refine along_inv ?_ hi halong
  intro s op hi hbelow
  exact indexStep_inv hi op hbelow

/-- **Rebuilds give new uids**: in one of them they are consecutive from `next_uid` on, and over
    rebuilds and saves none is given twice. -/
theorem rebuild_uids_fresh (D : DovecotIndex) :
    (∀ (E : RebuildEnv γ) (p : Pass) (guid : String) (ms : List RadosMail) (hdrNextUid : Nat)
        (objs : MailXattrs),
      (∀ uid ∈ (rebuildObjectsTrace E p guid ms hdrNextUid objs).1, uid < intMax) →
        (rebuildObjectsTrace E p guid ms hdrNextUid objs).1 =
          List.range' (if hdrNextUid ≠ 0 then hdrNextUid else 1)
            (rebuildObjectsTrace E p guid ms hdrNextUid objs).1.length) ∧
    ∀ (info : BoxInfo) (b : BoxIndex γ) (ops : List (IndexOp γ)),
      (∀ uid ∈ (run (indexStep D info) ⟨b, []⟩ ops).given, uid < intMax) →
        (run (indexStep D info) ⟨b, []⟩ ops).given.Nodup ∧
          ∀ uid ∈ (run (indexStep D info) ⟨b, []⟩ ops).given, b.nextUid ≤ uid := by
  refine ⟨fun _ _ _ ms hdrNextUid objs hmax => entryTrace_uids ms hdrNextUid objs hmax,
    fun info b ops hmax => ?_⟩
  have hstart : UidInv b.nextUid (⟨b, []⟩ : IndexRun γ) :=
    ⟨nofun, nofun, List.nodup_nil, Nat.le_refl _⟩
  have hi := run_uidInv hstart hmax
  exact ⟨hi.nodup, hi.above⟩

end Fresh

/-- A rebuild with two mails to add, and one between them that is restored already. -/
def twoMailsRebuild : RebuildCall String where
  E := textGuids
  pass := .first
  force := true
  store :=
    { objs := fun _ => none, oids := [], cephIndex := [], corrupted := 0
      mails := [{ oid := "a1", metadata := xattrsWithUid "7" },
        { oid := "a2", metadata := xattrsWithUid "7", restored := true },
        { oid := "a3", metadata := xattrsWithUid "7" }] }
  commits := true

def twoMailsBox : BoxInfo where
  vname := "INBOX"
  guid := "ababababababababababababababab01"

/-- Between two such rebuilds three mails are saved, of which the second asks for the uid 9. -/
def twoMailsOps : List (IndexOp String) :=
  [.rebuild twoMailsRebuild, .save [⟨0, "b1", "g1"⟩, ⟨9, "b2", "g2"⟩, ⟨0, "b3", "g3"⟩],
    .rebuild twoMailsRebuild]

theorem two_rebuilds_and_save :
    (run (indexStep plainIndex twoMailsBox) ⟨⟨[], 5, 0⟩, []⟩ twoMailsOps).given =
        [5, 6, 10, 9, 11, 12, 13] ∧
      (run (indexStep plainIndex twoMailsBox) ⟨⟨[], 5, 0⟩, []⟩ twoMailsOps).given.Nodup ∧
      (rebuildObjectsTrace textGuids .first twoMailsBox.guid twoMailsRebuild.store.mails 0
          fun _ => none).1 = List.range' 1 2 := by
  have hgiven : (run (indexStep plainIndex twoMailsBox) ⟨⟨[], 5, 0⟩, []⟩ twoMailsOps).given =
      [5, 6, 10, 9, 11, 12, 13] := by decide
  obtain ⟨hrebuild, hruns⟩ := rebuild_uids_fresh (γ := String) plainIndex
  refine ⟨hgiven, (hruns twoMailsBox ⟨[], 5, 0⟩ twoMailsOps ?_).1, ?_⟩
  · rw [hgiven]
    decide
  · exact hrebuild textGuids .first twoMailsBox.guid twoMailsRebuild.store.mails 0 (fun _ => none)
      (by decide)

end DovecotCeph
