/-
  File:      DovecotCeph/Storage/ChunkWriters.lean
  Subject:   The two functions that write a mail in chunks, `split_buffer_and_exec_op` (at computed
             offsets) and `save_mail_write_append` (appending), and what the return code of the
             latter says about its operations.

  * **`no_silent_partial_save_iff`**: the code is an `int` that the metadata operation sets to a
    bool, so that a failure of this operation is seen only where something else goes wrong;
  * `splitBufferLoop_eq_writeLoop`: with one chunk size the two loops do the same, whatever RADOS
    answers;
  * **`chunked_writers_agree`**: with any two chunk sizes new objects end up with the same bytes.
-/
import DovecotCeph.Storage.SaveChunks

namespace DovecotCeph

/-! ## 1. When `save_mail_write_append` returns zero -/

/-- The bytes of a round, one of several; `none` where the round ends in the error branch, or where
    the buffer throws. -/
def roundBytes (c size : Nat) (buffer : Bytes) (i : Nat) : Option Bytes :=
  let offset := chunkOffset c i
  let length := chunkSize c size i
  let stop := toUInt64 (offset + length)
  if size < stop then none
  else
    let len := if buffer.length < stop then toUInt32 (buffer.length - offset) else toUInt32 length
    (substrOf buffer (toUInt32 offset) len).bind fun tmp =>
      substrOf tmp 0 (toUInt64 (toInt32 length))

/-- The data operation of round `i` is issued and done. -/
def RoundDone (c size : Nat) (buffer : Bytes) (ok : Nat → Bool) (i : Nat) : Prop :=
  ok i = true ∧ (chunkDiv c size ≠ 1 → roundBytes c size buffer i ≠ none)

instance (c size : Nat) (buffer : Bytes) (ok : Nat → Bool) (i : Nat) :
    Decidable (RoundDone c size buffer ok i) :=
  inferInstanceAs (Decidable (_ ∧ (_ → _)))

section Zero

variable {c size : Nat} {oid : String} {buffer : Bytes} {ok : Nat → Bool}

theorem after_ret {ev : List ChunkEvent} {next : Option ChunkRun} :
    (∃ r, next.map (ChunkRun.after ev) = some r ∧ r.ret = 0) ↔ ∃ r, next = some r ∧ r.ret = 0 := by
  cases next with
  | none => simp
  | some r => simp [ChunkRun.after]

/-- The loop returns zero if and only if no round is left that is not done. -/
theorem chunkLoop_zero_iff {n i : Nat} (tx : SaveTx) :
    (∃ r, chunkLoop c oid buffer size (chunkDiv c size) ok n i tx = some r ∧ r.ret = 0) ↔
      ∀ j, i ≤ j → j < i + n → RoundDone c size buffer ok j := by
  induction n generalizing i tx with
  | zero =>
      refine ⟨fun _ j hj hj' => absurd hj' (Nat.not_lt.mpr hj), fun _ => ⟨_, rfl, rfl⟩⟩
  | succ n ih =>
      -- the remaining rounds are this one and those of the induction hypothesis
      have hrest : (∀ j, i ≤ j → j < i + (n + 1) → RoundDone c size buffer ok j) ↔
          RoundDone c size buffer ok i ∧
            ∀ j, i + 1 ≤ j → j < i + 1 + n → RoundDone c size buffer ok j := by
        constructor
        · intro h
          exact ⟨h i (Nat.le_refl _) (by omega), fun j hj hj' => h j (by omega) (by omega)⟩
        · intro h j hj hj'
          rcases Nat.eq_or_lt_of_le hj with rfl | hlt
          · exact h.1
          · exact h.2 j hlt (by omega)
      have hfailed : ∀ ev tx, ¬ ∃ r, some (ChunkRun.mk (-1) ev tx) = some r ∧ r.ret = 0 := by
        intro ev tx h
        obtain ⟨r, hr, h0⟩ := h
        cases hr
        exact absurd (show (-1 : Int) = 0 from h0) (by decide)
      rw [hrest, chunkLoop]
      by_cases hdiv : chunkDiv c size = 1
      · rw [if_pos hdiv]
        by_cases hok : ok i = true
        · have hdone : RoundDone c size buffer ok i := ⟨hok, fun h => absurd hdiv h⟩
          dsimp only
          rw [if_pos hok, after_ret, ih, and_iff_right hdone]
        · dsimp only
          rw [if_neg hok, iff_false_right fun h => hok h.1.1]
          exact hfailed _ _
      · rw [if_neg hdiv]
        dsimp only
        have hround : RoundDone c size buffer ok i ↔
            ok i = true ∧ roundBytes c size buffer i ≠ none :=
          and_congr_right fun _ => ⟨fun h => h hdiv, fun h _ => h⟩
        rw [hround]
        unfold roundBytes
        dsimp only
        by_cases hbig : size < toUInt64 (chunkOffset c i + chunkSize c size i)
        · rw [if_pos hbig, if_pos hbig, iff_false_right fun h => h.1.2 rfl]
          exact hfailed _ _
        · rw [if_neg hbig, if_neg hbig]
          simp only [decide_eq_true_eq]
          generalize substrOf buffer (toUInt32 (chunkOffset c i)) _ = tmp
          cases tmp with
          | none => simp
          | some tmp =>
              rw [Option.bind_some, Option.bind_some]
              cases substrOf tmp 0 (toUInt64 (toInt32 (chunkSize c size i))) with
              | none => simp
              | some bs =>
                  rw [Option.bind_some]
                  by_cases hok : ok i = true
                  · rw [if_pos hok, after_ret, ih, and_iff_right ⟨hok, Option.some_ne_none _⟩]
                  · rw [if_neg hok, iff_false_right fun h => hok h.1.1]
                    exact hfailed _ _

end Zero

/-- What the function promises by returning zero: the metadata operation and the data operations
    of all rounds are done. -/
def NoSilentPartialSave (c : UInt64) (e : FinishEnv) (oid : String) (buffer : Bytes)
    (mailSize : Int) (tx : SaveTx) : Prop :=
  ∀ r, saveMailWriteAppendTrace c e oid buffer mailSize tx = some r → r.ret = 0 →
    e.metadataOk = true ∧
      ∀ i < (chunkDiv c.toNat (toUInt64 mailSize)).toNat, e.dataOk i = true

/-- The metadata operation is done; or there is nothing to write; or a round fails. -/
def FailureSurfaces (c : UInt64) (e : FinishEnv) (buffer : Bytes) (mailSize : Int) : Prop :=
  e.metadataOk = true ∨ c = 0 ∨ toUInt64 mailSize = 0 ∨
    ∃ i < (chunkDiv c.toNat (toUInt64 mailSize)).toNat,
      ¬ RoundDone c.toNat (toUInt64 mailSize) buffer e.dataOk i

section Report

variable {c : UInt64} {e : FinishEnv} {oid : String} {buffer : Bytes} {mailSize : Int}
  {tx : SaveTx}

theorem saveMailWriteAppendTrace_eq :
    saveMailWriteAppendTrace c e oid buffer mailSize tx =
      let size := toUInt64 mailSize
      let div := chunkDiv c.toNat size
      let tx' := if e.metadataOk then tx.put .primary oid (·.setXattrs e.metadata) else tx
      if c.toNat = 0 then none
      else if size = 0 then some ⟨-1, [], tx⟩
      else if div ≤ 0 then some ⟨if e.metadataOk then 1 else 0, [], tx'⟩
      else chunkLoop c.toNat oid buffer size div e.dataOk div.toNat 0 tx' := rfl

/-- **When the function returns zero**: all rounds are done, and where there is none, the metadata
    operation failed. -/
theorem saveMailWriteAppendTrace_zero_iff :
    (∃ r, saveMailWriteAppendTrace c e oid buffer mailSize tx = some r ∧ r.ret = 0) ↔
      c ≠ 0 ∧ toUInt64 mailSize ≠ 0 ∧
        (chunkDiv c.toNat (toUInt64 mailSize) ≤ 0 → e.metadataOk = false) ∧
        ∀ i < (chunkDiv c.toNat (toUInt64 mailSize)).toNat,
          RoundDone c.toNat (toUInt64 mailSize) buffer e.dataOk i := by
  have hc : c.toNat = 0 ↔ c = 0 := ⟨fun h => UInt64.toNat_inj.mp h, fun h => h ▸ rfl⟩
  rw [saveMailWriteAppendTrace_eq]
  by_cases h0 : c = 0
  · simp [h0]
  · rw [if_neg (fun h => h0 (hc.mp h)), and_iff_right h0]
    by_cases hz : toUInt64 mailSize = 0
    · simp [hz]
    · rw [if_neg hz, and_iff_right hz]
      by_cases hdiv : chunkDiv c.toNat (toUInt64 mailSize) ≤ 0
      · rw [if_pos hdiv, show (chunkDiv c.toNat (toUInt64 mailSize)).toNat = 0 by omega]
        cases e.metadataOk <;> simp [hdiv]
      · rw [if_neg hdiv]
        refine (chunkLoop_zero_iff _).trans ?_
        rw [and_iff_right fun h => absurd h hdiv, Nat.zero_add]
        exact ⟨fun h i hi => h i (Nat.zero_le _) hi, fun h i _ hi => h i hi⟩

/-- A mail whose rounds are all done and whose metadata is written is whole. -/
theorem trace_complete (hc : c ≠ 0) (hpos : 0 < buffer.length)
    (hmax : buffer.length ≤ 2147483647) (hempty : (tx.stored oid).data = [])
    (hmeta : e.metadataOk = true)
    (hdata : ∀ i < (chunkDiv c.toNat buffer.length).toNat, e.dataOk i = true) :
    ∃ r, saveMailWriteAppendTrace c e oid buffer buffer.length tx = some r ∧ r.ret = 0 ∧
      Complete r.tx.objs .primary oid buffer e.metadata := by
  let S : SaveSetup := ⟨false, c.toNat, 0⟩
  have hS : 0 < S.maxWrite :=
    Nat.pos_of_ne_zero fun h => hc (UInt64.toNat_inj.mp h)
  have hdiv := @chunkDiv_eq S buffer.length hS (by omega)
  obtain ⟨tx', hrun, _, hcomplete⟩ := saveMailWriteAppend_complete (S := S) (e := e) hS hpos
    (by omega) hmeta (fun i hi => hdata i (by rw [hdiv]; exact hi)) (fun _ => hempty)
    (by rw [hempty]; exact Nat.zero_le _) nofun
  obtain ⟨log, _, herase⟩ := @saveMailWriteAppendTrace_erase S oid buffer e c rfl hS hpos
    (by omega) tx
  rw [hrun, Option.map_some] at herase
  exact ⟨_, herase, rfl, hcomplete⟩

end Report

/-- **No silent partial save, if and only if the metadata operation is done or its failure is
    followed by another one**; then a mail that is reported as saved is whole. -/
theorem no_silent_partial_save_iff (c : UInt64) (e : FinishEnv) (oid : String) (buffer : Bytes)
    (mailSize : Int) (tx : SaveTx) :
    (NoSilentPartialSave c e oid buffer mailSize tx ↔ FailureSurfaces c e buffer mailSize) ∧
      (FailureSurfaces c e buffer mailSize → mailSize = buffer.length →
        buffer.length ≤ 2147483647 → (tx.stored oid).data = [] →
          ∀ r, saveMailWriteAppendTrace c e oid buffer mailSize tx = some r → r.ret = 0 →
            Complete r.tx.objs .primary oid buffer e.metadata) := by
  have hiff : NoSilentPartialSave c e oid buffer mailSize tx ↔
      FailureSurfaces c e buffer mailSize := by
    have hzero := @saveMailWriteAppendTrace_zero_iff c e oid buffer mailSize tx
    constructor
    · intro h
      by_contra hn
      obtain ⟨hmeta, hc, hsize, hdone⟩ : ¬ e.metadataOk = true ∧ c ≠ 0 ∧ toUInt64 mailSize ≠ 0 ∧
          ¬ ∃ i < (chunkDiv c.toNat (toUInt64 mailSize)).toNat,
            ¬ RoundDone c.toNat (toUInt64 mailSize) buffer e.dataOk i :=
        ⟨fun h => hn (.inl h), fun h => hn (.inr (.inl h)), fun h => hn (.inr (.inr (.inl h))),
          fun h => hn (.inr (.inr (.inr h)))⟩
      obtain ⟨r, hr, h0⟩ := hzero.mpr ⟨hc, hsize, fun _ => eq_false_of_ne_true hmeta,
        fun i hi => by_contra fun hi' => hdone ⟨i, hi, hi'⟩⟩
      exact hmeta (h r hr h0).1
    · intro h r hr h0
      obtain ⟨hc, hsize, _, hdone⟩ := hzero.mp ⟨r, hr, h0⟩
      refine ⟨?_, fun i hi => (hdone i hi).1⟩
      rcases h with hmeta | h | h | ⟨i, hi, hi'⟩
      · exact hmeta
      · exact absurd h hc
      · exact absurd h hsize
      · exact absurd (hdone i hi) hi'
  refine ⟨hiff, ?_⟩
  intro h hmail hmax hempty r hr h0
  subst hmail
  have hsz : toUInt64 (buffer.length : Int) = buffer.length := toUInt64_of_lt (by omega)
  obtain ⟨hmeta, hdata⟩ := hiff.mpr h r hr h0
  obtain ⟨hc, hsize, _⟩ := saveMailWriteAppendTrace_zero_iff.mp ⟨r, hr, h0⟩
  rw [hsz] at hdata hsize
  obtain ⟨r', hr', _, hcomplete⟩ := trace_complete hc (Nat.pos_of_ne_zero hsize) hmax hempty hmeta
    hdata
  rw [hr] at hr'
  cases hr'
  exact hcomplete

/-- A mail of three bytes whose metadata operation fails is reported as saved. -/
theorem failed_metadata_reported_saved :
    ¬ NoSilentPartialSave 2 { metadataOk := false } "0a" [1, 2, 3] 3
      (.start (fun _ _ => none) 1 []) := by
  intro h
  obtain ⟨r, hr, h0⟩ := (@saveMailWriteAppendTrace_zero_iff 2 { metadataOk := false } "0a" [1, 2, 3]
    3 (.start (fun _ _ => none) 1 [])).mpr ⟨by decide, by decide, fun _ => rfl, by decide +kernel⟩
  cases (h r hr h0).1

/-! ## 2. The writer at offsets -/

/-- The loop of `split_buffer_and_exec_op`, from round `i` with `n` rounds to go; `none` where the
    buffer throws. -/
def splitBufferLoop (c : Nat) (oid : String) (buffer : Bytes) (size : Nat) (div : Int)
    (ok : Nat → Bool) : Nat → Nat → SaveTx → Option (Int × SaveTx)
  | 0, _, tx => some (0, tx)
  | n + 1, i, tx =>
    let offset := chunkOffset c i
    let length := chunkSize c size i
    let op := if div = 1 then some (0, buffer)
      else (substrOf buffer (toUInt32 offset) (toUInt32 length)).map fun bs =>
        (toUInt64 offset, bs)
    op.bind fun w =>
      if ok i then
        splitBufferLoop c oid buffer size div ok n (i + 1)
          (tx.put .primary oid (·.write w.1 w.2))
      else some (-1, tx)

/-- `split_buffer_and_exec_op`: code and objects, `none` where the process ends. Unlike
    `save_mail_write_append` it compares the code of RADOS itself. -/
def splitBufferAndExecOp (c : UInt64) (conn : Bool) (e : FinishEnv) (oid : String) (buffer : Bytes)
    (mailSize : Int) (tx : SaveTx) : Option (Int × SaveTx) :=
  let size := toUInt64 mailSize
  let c := c.toNat
  if !conn then some (-1, tx)
  else if c = 0 then none
  else if size = 0 then some (-1, tx)
  else if !e.metadataOk then some (-1, tx)
  else
    let div := chunkDiv c size
    splitBufferLoop c oid buffer size div e.dataOk div.toNat 0
      (tx.put .primary oid (·.setXattrs e.metadata))

section Split

variable {S : SaveSetup} {oid : String} {buffer : Bytes} {ok : Nat → Bool}

theorem write_end (o : MailObj) (bs : Bytes) : o.write o.data.length bs = o.append bs := by
  simp [MailObj.write, MailObj.append]

/-- **Chunk for chunk the two loops do the same**, whatever RADOS answers, if the object holds what
    comes before the round: writing at the end is appending. -/
theorem splitBufferLoop_eq_writeLoop (hmax : 0 < S.maxWrite) (hmax' : S.maxWrite < 2 ^ 64)
    (hsize : buffer.length < 2 ^ 31) {n i : Nat} (hn : i + n = rounds S buffer.length)
    {tx : SaveTx} (hdata : (tx.stored oid).data = buffer.take (i * S.maxWrite)) :
    splitBufferLoop S.maxWrite oid buffer buffer.length (rounds S buffer.length) ok n i tx =
      writeLoop S oid buffer buffer.length (rounds S buffer.length) ok n i tx := by
  induction n generalizing i tx with
  | zero => rfl
  | succ n ih =>
      have hi : i < rounds S buffer.length := by omega
      have hn' : i + 1 + n = rounds S buffer.length := by omega
      rw [splitBufferLoop, writeLoop]
      dsimp only
      by_cases hdiv : (rounds S buffer.length : Int) = 1
      · -- the only round; none is left for the induction hypothesis to speak about
        obtain rfl : n = 0 := by omega
        rw [if_pos hdiv, if_pos hdiv, Option.bind_some]
        rfl
      · have hend := chunk_end hmax hi
        have hstart := round_start_lt hmax hsize hi
        have hin : ¬ buffer.length < i * S.maxWrite + chunkLength S buffer.length i := by omega
        have hlength : (if buffer.length < (i + 1) * S.maxWrite then buffer.length % S.maxWrite
            else S.maxWrite) = chunkLength S buffer.length i := rfl
        have hsub : substrOf buffer (i * S.maxWrite) (chunkLength S buffer.length i) =
            some ((buffer.drop (i * S.maxWrite)).take (chunkLength S buffer.length i)) :=
          if_neg hin
        have hoff : i * S.maxWrite = (tx.stored oid).data.length := by
          rw [hdata, List.length_take]
          omega
        have hput : ∀ bs : Bytes, tx.put .primary oid (·.write (i * S.maxWrite) bs) =
            tx.put .primary oid (·.append bs) := by
          intro bs
          have hw : ((tx.objs .primary oid).getD .empty).write (i * S.maxWrite) bs =
              ((tx.objs .primary oid).getD .empty).append bs := by
            rw [hoff]
            exact write_end _ bs
          unfold SaveTx.put
          dsimp only
          rw [hw]
        rw [if_neg hdiv, if_neg hdiv, hlength, if_neg hin, if_neg hin, chunkOffset_eq hmax hsize hi,
          chunkSize_eq hmax hmax' hsize hi, toUInt32_of_lt (by omega), toUInt32_of_lt (by omega),
          toUInt64_of_lt (by omega), hsub, Option.map_some, Option.bind_some]
        dsimp only
        rw [hput, ih hn' (stored_append_round hmax hi hdata)]

/-- Without a failing metadata operation the two functions agree on an empty object. -/
theorem splitBufferAndExecOp_eq {c : UInt64} {e : FinishEnv} {tx : SaveTx}
    (hS : S.maxWrite = c.toNat) (hc : 0 < S.maxWrite) (hpos : 0 < buffer.length)
    (hsize : buffer.length < 2 ^ 31)
    (hempty : (tx.stored oid).data = []) (hmeta : e.metadataOk = true) :
    splitBufferAndExecOp c true e oid buffer buffer.length tx =
      saveMailWriteAppend S e oid buffer buffer.length tx := by
  have hmax' : S.maxWrite < 2 ^ 64 := by
    rw [hS]
    exact c.toNat_lt
  have hdiv := @chunkDiv_eq S buffer.length hc hsize
  have hsz : toUInt64 (buffer.length : Int) = buffer.length := toUInt64_of_lt (by omega)
  rw [saveMailWriteAppend_rounds hc hpos hsize, if_pos hmeta]
  unfold splitBufferAndExecOp
  rw [hsz, ← hS]
  dsimp only
  rw [if_neg (by decide), if_neg (Nat.pos_iff_ne_zero.mp hc), if_neg (Nat.pos_iff_ne_zero.mp hpos),
    hmeta, if_neg (by decide), hdiv, Int.toNat_natCast]
  refine splitBufferLoop_eq_writeLoop hc hmax' hsize (Nat.zero_add _) ?_
  rw [stored_put, Nat.zero_mul, List.take_zero]
  exact hempty

end Split

/-- **The two chunked writers agree**: on new objects both return zero and leave the same bytes,
    those of the mail. -/
theorem chunked_writers_agree (c₁ c₂ : UInt64) (e₁ e₂ : FinishEnv) (oid₁ oid₂ : String)
    (buffer : Bytes) (tx₁ tx₂ : SaveTx) (hc₁ : 1 ≤ c₁) (hc₂ : 1 ≤ c₂) (hpos : 1 ≤ buffer.length)
    (hmax : buffer.length ≤ 2147483647) (hfresh₁ : tx₁.objs .primary oid₁ = none)
    (hfresh₂ : tx₂.objs .primary oid₂ = none) (hmeta₁ : e₁.metadataOk = true)
    (hmeta₂ : e₂.metadataOk = true) (hdata₁ : ∀ i, e₁.dataOk i = true)
    (hdata₂ : ∀ i, e₂.dataOk i = true) :
    ∃ tx r o₁ o₂,
      splitBufferAndExecOp c₁ true e₁ oid₁ buffer buffer.length tx₁ = some (0, tx) ∧
      saveMailWriteAppendTrace c₂ e₂ oid₂ buffer buffer.length tx₂ = some r ∧ r.ret = 0 ∧
      tx.objs .primary oid₁ = some o₁ ∧ r.tx.objs .primary oid₂ = some o₂ ∧
      o₁.data = o₂.data ∧ o₁.data = buffer := by
  let S : SaveSetup := ⟨false, c₁.toNat, 0⟩
  have hS : 0 < S.maxWrite := UInt64.le_iff_toNat_le.mp hc₁
  have hempty₁ : (tx₁.stored oid₁).data = [] := by rw [stored_none hfresh₁]; rfl
  have hempty₂ : (tx₂.stored oid₂).data = [] := by rw [stored_none hfresh₂]; rfl
  have hc₂' : c₂ ≠ 0 := by
    intro h
    rw [h] at hc₂
    exact absurd hc₂ (by decide)
  obtain ⟨tx, hrun, _, o₁, ho₁, hd₁, _⟩ := saveMailWriteAppend_complete (S := S) (e := e₁) hS hpos
    (by omega) hmeta₁ (fun i _ => hdata₁ i) (fun _ => hempty₁)
    (by rw [hempty₁]; exact Nat.zero_le _) nofun
  obtain ⟨r, hr, h0, o₂, ho₂, hd₂, _⟩ := @trace_complete c₂ e₂ oid₂ buffer tx₂ hc₂' hpos hmax
    hempty₂ hmeta₂ fun i _ => hdata₂ i
  exact ⟨tx, r, o₁, o₂,
    (splitBufferAndExecOp_eq rfl hS hpos (by omega) hempty₁ hmeta₁).trans hrun, hr, h0, ho₁, ho₂,
    hd₁.trans hd₂.symm, hd₁⟩

/-- Three bytes, in chunks of two at offsets, and byte by byte. -/
theorem three_bytes_by_both_writers :
    ∃ tx r o₁ o₂,
      splitBufferAndExecOp 2 true {} "0a" [1, 2, 3] 3 (.start (fun _ _ => none) 1 []) =
        some (0, tx) ∧
      saveMailWriteAppendTrace 1 {} "0b" [1, 2, 3] 3 (.start (fun _ _ => none) 1 []) = some r ∧
      r.ret = 0 ∧ tx.objs .primary "0a" = some o₁ ∧ r.tx.objs .primary "0b" = some o₂ ∧
      o₁.data = o₂.data ∧ o₁.data = [1, 2, 3] :=
  chunked_writers_agree 2 1 {} {} "0a" "0b" [1, 2, 3] (.start (fun _ _ => none) 1 [])
    (.start (fun _ _ => none) 1 []) (by decide) (by decide) (by decide) (by decide) rfl rfl rfl rfl
    (fun _ => rfl) fun _ => rfl

end DovecotCeph
