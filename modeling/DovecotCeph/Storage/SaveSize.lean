/-
  File:      DovecotCeph/Storage/SaveSize.lean
  Subject:   The size of a mail in `rbox_save_finish` (rbox-save.cpp, rados-mail.h,
             rados-metadata.h): the limit `osd_max_object_size`, and the sizes in the metadata.

  `set_mail_size` takes an `int`, so that the length is compared with the limit modulo 2^32, and
  `RadosMetadata::convert` writes a `size_t` as an `int`.
  * `rboxSaveFinishTrace`: the function with the data operations it issues;
    `rboxSaveFinishTrace_erase`: for a mail of at most `INT_MAX` bytes it is `rboxSaveFinish`;
  * `sizeText_eq_iff`: which sizes are written as they are;
  * **`sizes_exact_iff`**: when the limit holds and the sizes are right.
-/
import DovecotCeph.Storage.SaveChunks
import DovecotCeph.Storage.SaveMetadata

namespace DovecotCeph

/-! ## 1. The traced function -/

/-- The data operations of the stream while pieces are sent from an offset on. -/
def sendEvents (S : SaveSetup) : Nat → List (Bytes × Bool) → List ChunkEvent
  | _, [] => []
  | offset, piece :: sends =>
    (if S.writeChunks then [.write offset piece.1] else []) ++
      sendEvents S (offset + piece.1.length) sends

/-- `rbox_save_finish` of an open stream: code, events and transaction. -/
def rboxSaveFinishTrace (S : SaveSetup) (chunk : UInt64) (e : FinishEnv) (c : SaveCtx) (cur : Cur)
    (tx : SaveTx) : Option ChunkRun :=
  let r := e.sends.foldl (sendv S) (cur, tx)
  let fails : ChunkRun := ⟨-1, [], (endFinish c true r.2).2⟩
  Option.map (ChunkRun.after (sendEvents S cur.offset e.sends))
    (if c.failed || !e.flushOk then some fails
    else if r.1.offset = 0 then some fails
    else if S.maxObjectSize < toInt32 r.1.offset then some fails
    else
      (saveMailWriteAppendTrace chunk e r.1.oid r.1.buffer (toInt32 r.1.offset) r.2).map fun w =>
        let f := endFinish c (decide (w.ret < 0)) w.tx
        ⟨f.1, w.log, f.2⟩)

/-- **For a mail of at most `INT_MAX` bytes in the buffer it is `rboxSaveFinish`.** -/
theorem rboxSaveFinishTrace_erase {S : SaveSetup} {chunk : UInt64} {e : FinishEnv} {c : SaveCtx}
    {cur : Cur} {tx : SaveTx} (hS : S.maxWrite = chunk.toNat) (hc : 0 < S.maxWrite)
    (hbuffer : (e.sends.foldl (sendv S) (cur, tx)).1.buffer.length =
      (e.sends.foldl (sendv S) (cur, tx)).1.offset)
    (hsize : (e.sends.foldl (sendv S) (cur, tx)).1.offset < 2 ^ 31) :
    ∃ log, rboxSaveFinishTrace S chunk e c cur tx =
      (rboxSaveFinish S e { c with stream := .live cur } tx).map fun r => ⟨r.1, log, r.2⟩ := by
  unfold rboxSaveFinishTrace rboxSaveFinish
  dsimp only
  generalize e.sends.foldl (sendv S) (cur, tx) = r at hbuffer hsize
  by_cases hfailed : (c.failed || !e.flushOk) = true
  · rw [if_pos hfailed, if_pos hfailed]
    exact ⟨_, rfl⟩
  · rw [if_neg hfailed, if_neg hfailed]
    by_cases hzero : r.1.offset = 0
    · rw [if_pos hzero, if_pos hzero]
      exact ⟨_, rfl⟩
    · rw [if_neg hzero, if_neg hzero]
      by_cases hlimit : S.maxObjectSize < toInt32 r.1.offset
      · rw [if_pos hlimit, if_pos hlimit]
        exact ⟨_, rfl⟩
      · have hpos : 0 < r.1.buffer.length := by omega
        obtain ⟨log, _, hrun⟩ := @saveMailWriteAppendTrace_erase S r.1.oid r.1.buffer e chunk hS hc
          hpos (by omega) r.2
        refine ⟨sendEvents S cur.offset e.sends ++ log, ?_⟩
        rw [if_neg hlimit, if_neg hlimit, toInt32_of_lt hsize, ← hbuffer, hrun, Option.map_map,
          Option.map_map, Option.map_map]
        rfl

/-- An operation on the data of the object. -/
def ChunkEvent.IsData : ChunkEvent → Prop
  | .write _ _ => True
  | .append _ => True
  | .tooBig _ _ => False
  | .overLength => False

/-- A call of `rbox_save_finish`: the configuration with the limit as an `int`, what is known of
    the mail, what the flush and RADOS answer, and the context with its stream. -/
structure SizedSave where
  writeChunks : Bool := false
  chunkSize : UInt32
  maxObjectSize : Int32
  mailAttributes : String
  ioloopTime : Int64
  mail : MailToSave
  e : FinishEnv := {}
  c : SaveCtx := { failed := false, finished := false }
  cur : Cur
  tx : SaveTx

namespace SizedSave

variable (s : SizedSave)

def setup : SaveSetup := ⟨s.writeChunks, s.chunkSize.toNat, s.maxObjectSize.toInt⟩

/-- What `rbox_save_mail_set_metadata` adds to the mail. -/
def metadata : Xattrs := rboxSaveMailSetMetadata s.mailAttributes s.ioloopTime s.mail

def run : Option ChunkRun :=
  rboxSaveFinishTrace s.setup s.chunkSize.toUInt64 { s.e with metadata := s.metadata } s.c s.cur
    s.tx

/-- Stream and transaction when the stream has been flushed. -/
def flushed : Cur × SaveTx := s.e.sends.foldl (sendv s.setup) (s.cur, s.tx)

/-- The length of the message, the offset of the output stream. -/
def length : Nat := s.flushed.1.offset

def physicalSize : Nat := s.mail.inputOffset.toNat

/-- The virtual size, or the physical size where it cannot be determined. -/
def virtualSize : Nat := (s.mail.virtualSize.getD s.mail.inputOffset).toNat

/-- The save is given up before a write operation is carried out. -/
def Rejected : Prop :=
  s.c.failed = true ∨ s.e.flushOk = false ∨ s.length = 0 ∨
    s.maxObjectSize.toInt < toInt32 s.length

instance : Decidable s.Rejected := inferInstanceAs (Decidable (_ ∨ _))

/-- The metadata that is written with the mail. -/
def stored : Option Xattrs := if s.Rejected then none else some s.metadata

/-- **Limit and sizes are exact**: a message that is too long fails, and no data operation is
    issued; the sizes that are stored are those of the mail. -/
structure Exact : Prop where
  tooLong : s.maxObjectSize.toInt < s.length →
    ∃ r, s.run = some r ∧ r.ret = -1 ∧ ∀ ev ∈ r.log, ¬ ev.IsData
  physical : s.length ≤ s.maxObjectSize.toInt → ∀ x text, s.stored = some x →
    x "Z" = some text → text = toString s.physicalSize
  virtual : s.length ≤ s.maxObjectSize.toInt → ∀ x text, s.stored = some x →
    x "V" = some text → text = toString s.virtualSize

/-- A message that is too long is recognised, and nothing was written before: the stream collects
    the mail, or has nothing left to flush; and the length modulo 2^32 is above the limit, too, or
    is zero, which `save_mail_write_append` refuses. -/
def LimitHolds : Prop :=
  (s.writeChunks = false ∨ s.e.sends = []) ∧
    (s.Rejected ∨ (toInt32 s.length = 0 ∧ s.chunkSize ≠ 0))

/-- The sizes that are attributes fit an `int`. -/
def SizesFit : Prop :=
  s.Rejected ∨
    ((isMailAttribute s.mailAttributes 'Z' = true → s.physicalSize < 2 ^ 31) ∧
      (isMailAttribute s.mailAttributes 'V' = true → s.virtualSize < 2 ^ 31))

end SizedSave

/-! ## 2. The text of a size -/

section Text

/-- A number that is written as a natural number is that number. -/
theorem toString_int_eq_nat {z : Int} {n : Nat} : toString z = toString n ↔ z = n := by
  constructor
  · intro h
    cases z with
    | ofNat m => exact congrArg Int.ofNat (toString_nat_injective h)
    | negSucc m =>
        have hminus : '-' ∈ (toString (Int.negSucc m)).toList := by
          rw [show toString (Int.negSucc m) = "-" ++ (m + 1).repr from rfl, String.toList_append]
          exact List.mem_append_left _ (by decide)
        rw [h, Nat.toString_eq_repr, Nat.toList_repr] at hminus
        exact absurd (isDigit_toDigits n _ hminus) (by decide)
  · rintro rfl
    rfl

theorem sizeText_eq (size : UInt64) : sizeText size = toString (toInt32 size.toNat) := by
  have hint : size.toUInt32.toInt32.toInt = toInt32 size.toNat := by
    unfold toInt32
    rw [← Int32.toInt_toBitVec, UInt32.toBitVec_toInt32, BitVec.toInt_eq_toNat_bmod]
    simp only [UInt32.toNat_toBitVec, UInt64.toNat_toUInt32, Int.natCast_emod]
    exact Int.emod_bmod _ _
  exact congrArg toString hint

theorem toInt32_eq_iff {n : Nat} : toInt32 n = n ↔ n < 2 ^ 31 := by
  unfold toInt32
  constructor
  · intro h
    have hlt := @Int.bmod_lt (n : Int) (2 ^ 32) (by decide)
    rw [h] at hlt
    omega
  · intro h
    exact Int.bmod_eq_of_le (by omega) (by omega)

/-- **A size is written as it is exactly if it fits an `int`.** -/
theorem sizeText_eq_iff (size : UInt64) :
    sizeText size = toString size.toNat ↔ size.toNat < 2 ^ 31 := by
  rw [sizeText_eq, toString_int_eq_nat, toInt32_eq_iff]

end Text

/-! ## 3. The data operations -/

section Rounds

variable {c : Nat} {oid : String} {buffer : Bytes} {size : Nat} {div : Int} {ok : Nat → Bool}
  {tx : SaveTx} {r : ChunkRun}

/-- The piece of the first round is not longer than the mail. -/
theorem chunkSize_zero_le (c size : Nat) (hc : c < 2 ^ 64) : chunkSize c size 0 ≤ size := by
  unfold chunkSize
  rw [Nat.zero_add, Nat.one_mul, Nat.mod_eq_of_lt hc]
  by_cases h : size < c
  · rw [if_pos h]
    exact Nat.mod_le _ _
  · rw [if_neg h]
    exact Nat.not_lt.mp h

/-- The events of the first round stand before the others. -/
theorem mem_log_after {ev : List ChunkEvent} {next : Option ChunkRun} {e : ChunkEvent}
    (he : e ∈ ev) (done : Bool)
    (h : (if done then next.map (ChunkRun.after ev) else some ⟨-1, ev, tx⟩) = some r) :
    e ∈ r.log := by
  cases done with
  | false =>
      rw [← Option.some.inj h]
      exact he
  | true =>
      obtain ⟨w, _, rfl⟩ := Option.map_eq_some_iff.mp h
      exact List.mem_append_left _ he

/-- **The first round issues a data operation**, if the process does not end there. -/
theorem chunkLoop_issues (hc : c < 2 ^ 64) {n : Nat}
    (h : chunkLoop c oid buffer size div ok (n + 1) 0 tx = some r) : ∃ ev ∈ r.log, ev.IsData := by
  rw [chunkLoop] at h
  by_cases hdiv : div = 1
  · rw [if_pos hdiv] at h
    exact ⟨.write 0 buffer, mem_log_after (List.mem_singleton_self _) _ h, trivial⟩
  · have hstop : ¬ size < toUInt64 (chunkOffset c 0 + chunkSize c size 0) := by
      have hle := chunkSize_zero_le c size hc
      unfold chunkOffset toUInt64
      rw [Nat.zero_mul, Nat.zero_mod, toInt32_eq_iff.mpr (by decide)]
      omega
    rw [if_neg hdiv] at h
    dsimp only at h
    rw [if_neg hstop] at h
    obtain ⟨tmp, _, h⟩ := Option.bind_eq_some_iff.mp h
    obtain ⟨bs, _, h⟩ := Option.bind_eq_some_iff.mp h
    exact ⟨.append bs, mem_log_after (List.mem_append_right _ (List.mem_singleton_self _)) _ h,
      trivial⟩

/-- **A size that is not zero is written, or nothing fails**: a data operation is issued, or the
    code is not negative. -/
theorem saveMailWriteAppendTrace_issues {chunk : UInt64} {e : FinishEnv} {mailSize : Int}
    (hsize : toUInt64 mailSize ≠ 0)
    (h : saveMailWriteAppendTrace chunk e oid buffer mailSize tx = some r) :
    0 ≤ r.ret ∨ ∃ ev ∈ r.log, ev.IsData := by
  unfold saveMailWriteAppendTrace at h
  dsimp only at h
  by_cases hchunk : chunk.toNat = 0
  · rw [if_pos hchunk] at h
    cases h
  · rw [if_neg hchunk, if_neg hsize] at h
    change (if chunkDiv chunk.toNat (toUInt64 mailSize) ≤ 0 then _ else _) = some r at h
    by_cases hdiv : chunkDiv chunk.toNat (toUInt64 mailSize) ≤ 0
    · -- no round: the code is that of the metadata operation
      rw [if_pos hdiv] at h
      left
      rw [← Option.some.inj h]
      dsimp only
      split <;> decide
    · obtain ⟨n, hn⟩ := Nat.exists_eq_succ_of_ne_zero
        (Nat.pos_iff_ne_zero.mp (Int.lt_toNat.mpr (Int.not_le.mp hdiv)))
      rw [if_neg hdiv] at h
      change chunkLoop _ _ _ _ _ _ (chunkDiv chunk.toNat (toUInt64 mailSize)).toNat 0 _ = some r
        at h
      rw [hn] at h
      exact .inr (chunkLoop_issues chunk.toNat_lt h)

end Rounds

/-! ## 4. Limit and sizes -/

namespace SizedSave

section Exactness

variable {s : SizedSave}

/-- A call that is given up. -/
def failedRun (s : SizedSave) : ChunkRun := ⟨-1, [], (endFinish s.c true s.flushed.2).2⟩

/-- What `rbox_save_finish` does when the stream has been flushed. -/
def checked (s : SizedSave) : Option ChunkRun :=
  if s.c.failed || !s.e.flushOk then some s.failedRun
  else if s.length = 0 then some s.failedRun
  else if s.maxObjectSize.toInt < toInt32 s.length then some s.failedRun
  else
    (saveMailWriteAppendTrace s.chunkSize.toUInt64 { s.e with metadata := s.metadata }
      s.flushed.1.oid s.flushed.1.buffer (toInt32 s.length) s.flushed.2).map fun w =>
        ⟨if w.ret < 0 then -1 else 0, w.log, (endFinish s.c (decide (w.ret < 0)) w.tx).2⟩

theorem run_eq (s : SizedSave) :
    s.run = s.checked.map (ChunkRun.after (sendEvents s.setup s.cur.offset s.e.sends)) := by
  unfold run rboxSaveFinishTrace checked
  simp only [endFinish, decide_eq_true_eq]
  rfl

theorem checked_rejected (h : s.Rejected) : s.checked = some s.failedRun := by
  unfold checked
  rcases h with h | h | h | h
  · rw [if_pos (by rw [h]; rfl)]
  · rw [if_pos (by rw [h]; exact Bool.or_true _)]
  · rw [if_pos h, ite_self]
  · rw [if_pos h, ite_self, ite_self]

/-- A save that is not rejected goes to `save_mail_write_append`. -/
theorem checked_accepted (h : ¬ s.Rejected) : s.checked =
    (saveMailWriteAppendTrace s.chunkSize.toUInt64 { s.e with metadata := s.metadata }
      s.flushed.1.oid s.flushed.1.buffer (toInt32 s.length) s.flushed.2).map fun w =>
        ⟨if w.ret < 0 then -1 else 0, w.log, (endFinish s.c (decide (w.ret < 0)) w.tx).2⟩ := by
  obtain ⟨hfailed, hflush, hzero, hlimit⟩ :
      ¬ s.c.failed = true ∧ ¬ s.e.flushOk = false ∧ ¬ s.length = 0 ∧
        ¬ s.maxObjectSize.toInt < toInt32 s.length := by
    simpa only [Rejected, not_or] using h
  have hgo : ¬ (s.c.failed || !s.e.flushOk) = true := by
    rw [Bool.or_eq_true, Bool.not_eq_true']
    exact not_or.mpr ⟨hfailed, hflush⟩
  unfold checked
  rw [if_neg hgo, if_neg hzero, if_neg hlimit]

theorem toUInt64_toInt32 (n : Nat) : toUInt64 (toInt32 n) = 0 ↔ toInt32 n = 0 := by
  have hlt := @Int.bmod_lt (n : Int) (2 ^ 32) (by decide)
  have hle := @Int.le_bmod (n : Int) (2 ^ 32) (by decide)
  unfold toUInt64 toInt32 at *
  omega

/-- When the function fails without any data once the stream has been flushed. -/
theorem checked_fails_iff (s : SizedSave) :
    (∃ r, s.checked = some r ∧ r.ret = -1 ∧ ∀ ev ∈ r.log, ¬ ev.IsData) ↔
      s.Rejected ∨ (toInt32 s.length = 0 ∧ s.chunkSize ≠ 0) := by
  by_cases hrej : s.Rejected
  · exact iff_of_true ⟨_, checked_rejected hrej, rfl, nofun⟩ (.inl hrej)
  · have hchunk : s.chunkSize.toUInt64.toNat = 0 ↔ s.chunkSize = 0 := by
      rw [UInt32.toNat_toUInt64, ← UInt32.toNat_inj]
      rfl
    rw [or_iff_right hrej, checked_accepted hrej]
    constructor
    · rintro ⟨r, hmap, hret, hlog⟩
      obtain ⟨w, hw, rfl⟩ := Option.map_eq_some_iff.mp hmap
      have hneg : w.ret < 0 := by
        by_contra hge
        rw [if_neg hge] at hret
        cases hret
      constructor
      · by_contra hne
        rcases saveMailWriteAppendTrace_issues (fun h => hne ((toUInt64_toInt32 _).mp h)) hw with
          hge | ⟨ev, hev, hdata⟩
        · exact absurd hneg (Int.not_lt.mpr hge)
        · exact hlog ev hev hdata
      · intro hzero
        unfold saveMailWriteAppendTrace at hw
        dsimp only at hw
        rw [if_pos (hchunk.mpr hzero)] at hw
        cases hw
    · rintro ⟨hsize, hne⟩
      unfold saveMailWriteAppendTrace
      dsimp only
      rw [if_neg fun h => hne (hchunk.mp h), if_pos ((toUInt64_toInt32 _).mpr hsize)]
      exact ⟨_, rfl, rfl, nofun⟩

/-- The stream writes no data exactly if it collects the mail, or has nothing to send. -/
theorem sendEvents_quiet {S : SaveSetup} {offset : Nat} {sends : List (Bytes × Bool)} :
    (∀ ev ∈ sendEvents S offset sends, ¬ ev.IsData) ↔ S.writeChunks = false ∨ sends = [] := by
  induction sends generalizing offset with
  | nil => exact iff_of_true nofun (.inr rfl)
  | cons piece sends ih =>
      rw [sendEvents, or_iff_left (List.cons_ne_nil _ _)]
      constructor
      · intro h
        by_contra hchunks
        rw [if_pos (Bool.not_eq_false _ ▸ hchunks)] at h
        exact h _ List.mem_cons_self trivial
      · intro hchunks
        rw [if_neg (by rw [hchunks]; exact Bool.false_ne_true)]
        exact ih.mpr (.inl hchunks)

/-- When a message that is too long fails without any data. -/
theorem fails_iff (s : SizedSave) :
    (∃ r, s.run = some r ∧ r.ret = -1 ∧ ∀ ev ∈ r.log, ¬ ev.IsData) ↔ s.LimitHolds := by
  have hsent : (∀ ev ∈ sendEvents s.setup s.cur.offset s.e.sends, ¬ ev.IsData) ↔
      s.writeChunks = false ∨ s.e.sends = [] := sendEvents_quiet
  unfold LimitHolds
  rw [← checked_fails_iff, run_eq, ← hsent]
  constructor
  · rintro ⟨r, hmap, hret, hlog⟩
    obtain ⟨w, hw, rfl⟩ := Option.map_eq_some_iff.mp hmap
    exact ⟨fun ev hev => hlog ev (List.mem_append_left _ hev),
      w, hw, hret, fun ev hev => hlog ev (List.mem_append_right _ hev)⟩
  · rintro ⟨hquiet, w, hw, hret, hlog⟩
    refine ⟨_, Option.map_eq_some_iff.mpr ⟨w, hw, rfl⟩, hret, fun ev hev => ?_⟩
    rcases List.mem_append.mp hev with hev | hev
    · exact hquiet ev hev
    · exact hlog ev hev

theorem metadata_physical (s : SizedSave) : s.metadata "Z" =
    if isMailAttribute s.mailAttributes 'Z' then some (sizeText s.mail.inputOffset) else none := by
  have hcstr : cStr (sizeText s.mail.inputOffset) = sizeText s.mail.inputOffset :=
    cStr_toString_int _
  simp +decide [metadata, rboxSaveMailSetMetadata, addAttribute_apply, hcstr]

theorem metadata_virtual (s : SizedSave) : s.metadata "V" =
    if isMailAttribute s.mailAttributes 'V' then
      some (sizeText (s.mail.virtualSize.getD s.mail.inputOffset)) else none := by
  have hcstr : cStr (sizeText (s.mail.virtualSize.getD s.mail.inputOffset)) =
      sizeText (s.mail.virtualSize.getD s.mail.inputOffset) := cStr_toString_int _
  simp +decide [metadata, rboxSaveMailSetMetadata, addAttribute_apply, hcstr]

/-- When a stored size is the size of the mail. -/
theorem stored_size_iff {key : String} {attr : Char} {size : UInt64}
    (hkey : s.metadata key =
      if isMailAttribute s.mailAttributes attr then some (sizeText size) else none) :
    (∀ x text, s.stored = some x → x key = some text → text = toString size.toNat) ↔
      s.Rejected ∨ (isMailAttribute s.mailAttributes attr = true → size.toNat < 2 ^ 31) := by
  unfold stored
  by_cases hrej : s.Rejected
  · rw [if_pos hrej]
    exact iff_of_true nofun (.inl hrej)
  · rw [if_neg hrej, or_iff_right hrej]
    constructor
    · intro h hattr
      rw [if_pos hattr] at hkey
      exact (sizeText_eq_iff size).mp (h _ _ rfl hkey)
    · rintro h x text hx htext
      rw [← Option.some.inj hx, hkey] at htext
      by_cases hattr : isMailAttribute s.mailAttributes attr = true
      · rw [if_pos hattr] at htext
        rw [← Option.some.inj htext]
        exact (sizeText_eq_iff size).mpr (h hattr)
      · rw [if_neg hattr] at htext
        cases htext

/-- **When the limit holds and the sizes are right**: above the limit, if the length modulo 2^32
    is recognised as too long; up to the limit, if the sizes fit an `int`. -/
theorem sizes_exact_iff (s : SizedSave) :
    s.Exact ↔
      (s.maxObjectSize.toInt < s.length → s.LimitHolds) ∧
        (s.length ≤ s.maxObjectSize.toInt → s.SizesFit) := by
  have hphysical := stored_size_iff (metadata_physical s)
  have hvirtual := stored_size_iff (metadata_virtual s)
  unfold SizesFit
  constructor
  · intro h
    refine ⟨fun hlong => (fails_iff s).mp (h.tooLong hlong), fun hle => ?_⟩
    rcases hphysical.mp (h.physical hle) with hrej | hZ
    · exact .inl hrej
    · exact (hvirtual.mp (h.virtual hle)).imp id fun hV => ⟨hZ, hV⟩
  · rintro ⟨hlimit, hsizes⟩
    refine ⟨fun hlong => (fails_iff s).mpr (hlimit hlong), fun hle => ?_, fun hle => ?_⟩
    · exact hphysical.mpr ((hsizes hle).imp id And.left)
    · exact hvirtual.mpr ((hsizes hle).imp id And.right)

end Exactness

end SizedSave

/-- A mail under the default limit, in a stream of `length` bytes. -/
def streamOf (length : Nat) (mail : MailToSave) : SizedSave where
  chunkSize := 10240
  maxObjectSize := 134217728
  mailAttributes := "ZV"
  ioloopTime := 1700000000
  mail := mail
  cur := ⟨"0a", List.replicate length 65, length⟩
  tx := .start (fun _ _ => none) 1 []

/-- A message of 2^32 + 5 bytes is written; one of two gigabytes that was compressed to four
    megabytes gets a negative size. -/
theorem sizes_wrong :
    ¬ (streamOf (2 ^ 32 + 5) { newMail 0 with inputOffset := 4294967301 }).Exact ∧
      ¬ (streamOf 4194304 { newMail 0 with inputOffset := 2147483648 }).Exact := by
  constructor
  · intro h
    have hlength : (streamOf (2 ^ 32 + 5) { newMail 0 with inputOffset := 4294967301 }).length =
        2 ^ 32 + 5 := rfl
    have hint : toInt32 (2 ^ 32 + 5) = 5 := by decide +kernel
    rcases ((SizedSave.fails_iff _).mp (h.tooLong (by rw [hlength]; decide +kernel))).2 with
      (hf | hf | hf | hf) | ⟨hf, _⟩
    · cases hf
    · cases hf
    · cases hf
    · rw [hlength, hint] at hf
      exact absurd hf (by decide +kernel)
    · rw [hlength, hint] at hf
      cases hf
  · intro h
    have hphysical := h.physical (by decide +kernel) _ _ (if_neg (by decide +kernel))
      ((SizedSave.metadata_physical _).trans (if_pos (by decide +kernel)))
    exact absurd ((sizeText_eq_iff _).mp hphysical) (by decide +kernel)

end DovecotCeph
