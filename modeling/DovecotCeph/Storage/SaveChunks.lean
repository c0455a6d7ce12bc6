/-
  File:      DovecotCeph/Storage/SaveChunks.lean
  Subject:   `save_mail_write_append` in the arithmetic of its C types, with a record of the data
             operations and of the two branches for offsets behind the end.

  The rounds mix `int` and `uint64_t`: the offset is an `int`, the length and the end of a round
  are `uint64_t`, and `substr_of` takes `unsigned`. For a mail of at most `INT_MAX` bytes none of
  the conversions loses anything (`chunkOffset_eq`, `chunkSize_eq`), so that the traced function
  does what `saveMailWriteAppend` does (**`saveMailWriteAppendTrace_erase`**).
  * **`chunked_save_stores_exactly`**: the object holds the mail, no operation is larger than a
    chunk, and neither branch is taken.
-/
import DovecotCeph.Storage.SaveWrite

namespace DovecotCeph

/-! ## 1. The traced function -/

/-- Conversion to `uint64_t` and to `unsigned`. -/
def toUInt64 (z : Int) : Nat := (z % 2 ^ 64).toNat

def toUInt32 (z : Int) : Nat := (z % 2 ^ 32).toNat

/-- `bufferlist::substr_of`; it throws when asked for more than there is. -/
def substrOf (buffer : Bytes) (off len : Nat) : Option Bytes :=
  if buffer.length < off + len then none else some ((buffer.drop off).take len)

/-- What the function does with the mail: a data operation, the error branch with the two numbers
    of its message, or the branch that cuts the last piece short. -/
inductive ChunkEvent where
  | write (off : Nat) (bs : Bytes)
  | append (bs : Bytes)
  | tooBig (stop size : Nat)
  | overLength
  deriving DecidableEq, Repr

/-- Return code, events and transaction. -/
structure ChunkRun where
  ret : Int
  log : List ChunkEvent
  tx : SaveTx

def ChunkRun.after (ev : List ChunkEvent) (r : ChunkRun) : ChunkRun := { r with log := ev ++ r.log }

/-- `int offset = i * max_write`. -/
def chunkOffset (c i : Nat) : Int := toInt32 (i * c % 2 ^ 64)

/-- `uint64_t length` of round `i`. -/
def chunkSize (c size i : Nat) : Nat := if size < (i + 1) * c % 2 ^ 64 then size % c else c

/-- The loop from round `i`, with `n` rounds to go. The length is handed to `append_to_object` as
    an `int` and from there to librados as a `size_t`. -/
def chunkLoop (c : Nat) (oid : String) (buffer : Bytes) (size : Nat) (div : Int)
    (ok : Nat → Bool) : Nat → Nat → SaveTx → Option ChunkRun
  | 0, _, tx => some ⟨0, [], tx⟩
  | n + 1, i, tx =>
    let offset := chunkOffset c i
    let length := chunkSize c size i
    if div = 1 then
      let ev := [ChunkEvent.write 0 buffer]
      if ok i then
        (chunkLoop c oid buffer size div ok n (i + 1)
          (tx.put .primary oid (·.write 0 buffer))).map (ChunkRun.after ev)
      else some ⟨-1, ev, tx⟩
    else
      let stop := toUInt64 (offset + length)
      if size < stop then some ⟨-1, [.tooBig stop size], tx⟩
      else
        let tooLong := decide (buffer.length < stop)
        let len := if tooLong then toUInt32 (buffer.length - offset) else toUInt32 length
        (substrOf buffer (toUInt32 offset) len).bind fun tmp =>
          (substrOf tmp 0 (toUInt64 (toInt32 length))).bind fun bs =>
            let ev := (if tooLong then [.overLength] else []) ++ [ChunkEvent.append bs]
            if ok i then
              (chunkLoop c oid buffer size div ok n (i + 1)
                (tx.put .primary oid (·.append bs))).map (ChunkRun.after ev)
            else some ⟨-1, ev, tx⟩

/-- `save_mail_write_append` for the chunk size `c`; `none` where the process ends. -/
def saveMailWriteAppendTrace (c : UInt64) (e : FinishEnv) (oid : String) (buffer : Bytes)
    (mailSize : Int) (tx : SaveTx) : Option ChunkRun :=
  let size := toUInt64 mailSize
  let c := c.toNat
  if c = 0 then none
  else if size = 0 then some ⟨-1, [], tx⟩
  else
    let tx := if e.metadataOk then tx.put .primary oid (·.setXattrs e.metadata) else tx
    let rest := size % c
    let div := toInt32 ((size / c + if rest > 0 then 1 else 0) % 2 ^ 64)
    -- without a round the code is the bool of the metadata operation
    if div ≤ 0 then some ⟨if e.metadataOk then 1 else 0, [], tx⟩
    else chunkLoop c oid buffer size div e.dataOk div.toNat 0 tx

/-- `int div`, the number of rounds. -/
def chunkDiv (c size : Nat) : Int :=
  toInt32 ((size / c + if size % c > 0 then 1 else 0) % 2 ^ 64)

/-! ## 2. Nothing is lost in the conversions -/

/-- An operation of at most `c` bytes; neither of the two branches. -/
def ChunkEvent.Fits (c : Nat) : ChunkEvent → Prop
  | .write _ bs => bs.length ≤ c
  | .append bs => bs.length ≤ c
  | .tooBig _ _ => False
  | .overLength => False

section Conversions

variable {S : SaveSetup} {size i : Nat}

theorem toUInt64_of_lt {n : Nat} (h : n < 2 ^ 64) : toUInt64 n = n := by
  unfold toUInt64
  omega

theorem toUInt32_of_lt {n : Nat} (h : n < 2 ^ 32) : toUInt32 n = n := by
  unfold toUInt32
  omega

/-- A round begins inside the mail. -/
theorem round_start_lt (hmax : 0 < S.maxWrite) (hsize : size < 2 ^ 31) (hi : i < rounds S size) :
    i * S.maxWrite < 2 ^ 31 := by
  have hend := chunk_end hmax hi
  omega

theorem chunkOffset_eq (hmax : 0 < S.maxWrite) (hsize : size < 2 ^ 31) (hi : i < rounds S size) :
    chunkOffset S.maxWrite i = (i * S.maxWrite : Nat) := by
  have hlt := round_start_lt hmax hsize hi
  unfold chunkOffset
  rw [Nat.mod_eq_of_lt (by omega), toInt32_of_lt hlt]

/-- The end of a round does not wrap around: in the first round it is the chunk size itself, in
    the others a chunk is smaller than the mail. -/
theorem round_stop_lt (hmax : 0 < S.maxWrite) (hmax' : S.maxWrite < 2 ^ 64)
    (hsize : size < 2 ^ 31) (hi : i < rounds S size) : (i + 1) * S.maxWrite < 2 ^ 64 := by
  have hlt := round_start_lt hmax hsize hi
  rw [Nat.succ_mul]
  cases i with
  | zero => omega
  | succ j =>
      have hle : S.maxWrite ≤ (j + 1) * S.maxWrite := Nat.le_mul_of_pos_left _ (Nat.succ_pos j)
      omega

theorem chunkSize_eq (hmax : 0 < S.maxWrite) (hmax' : S.maxWrite < 2 ^ 64)
    (hsize : size < 2 ^ 31) (hi : i < rounds S size) :
    chunkSize S.maxWrite size i = chunkLength S size i := by
  unfold chunkSize chunkLength
  rw [Nat.mod_eq_of_lt (round_stop_lt hmax hmax' hsize hi)]

theorem chunkDiv_eq (hmax : 0 < S.maxWrite) (hsize : size < 2 ^ 31) :
    chunkDiv S.maxWrite size = rounds S size := by
  have hR : rounds S size < 2 ^ 31 := Nat.lt_of_le_of_lt (rounds_le_size hmax) hsize
  show toInt32 (rounds S size % 2 ^ 64) = rounds S size
  rw [Nat.mod_eq_of_lt (by omega)]
  exact toInt32_of_lt hR

theorem chunkLength_le (hmax : 0 < S.maxWrite) : chunkLength S size i ≤ S.maxWrite := by
  unfold chunkLength
  split
  · exact Nat.le_of_lt (Nat.mod_lt size hmax)
  · exact Nat.le_refl _

end Conversions

section Loop

variable {S : SaveSetup} {oid : String} {buffer : Bytes} {ok : Nat → Bool}

/-- One of several rounds: the numbers are those of the mail, and the bytes between them are
    appended. -/
theorem chunkLoop_round (hmax : 0 < S.maxWrite) (hmax' : S.maxWrite < 2 ^ 64)
    (hsize : buffer.length < 2 ^ 31) (hdiv : (rounds S buffer.length : Int) ≠ 1) {n i : Nat}
    (hi : i < rounds S buffer.length) (tx : SaveTx) :
    let bs := (buffer.drop (i * S.maxWrite)).take (chunkLength S buffer.length i)
    chunkLoop S.maxWrite oid buffer buffer.length (rounds S buffer.length) ok (n + 1) i tx =
      if ok i then
        (chunkLoop S.maxWrite oid buffer buffer.length (rounds S buffer.length) ok n (i + 1)
          (tx.put .primary oid (·.append bs))).map (ChunkRun.after [.append bs])
      else some ⟨-1, [.append bs], tx⟩ := by
  intro bs
  have hend := chunk_end hmax hi
  have hstart := round_start_lt hmax hsize hi
  have hstop : toUInt64 (((i * S.maxWrite : Nat) : Int) + (chunkLength S buffer.length i : Nat)) =
      i * S.maxWrite + chunkLength S buffer.length i := by
    rw [← Int.natCast_add]
    exact toUInt64_of_lt (by omega)
  have hin : ¬ buffer.length < i * S.maxWrite + chunkLength S buffer.length i := by omega
  have hlen : bs.length = chunkLength S buffer.length i := by
    simp only [bs, List.length_take, List.length_drop]
    omega
  have hsub : substrOf buffer (i * S.maxWrite) (chunkLength S buffer.length i) = some bs :=
    if_neg hin
  have hsub' : substrOf bs 0 (chunkLength S buffer.length i) = some bs := by
    unfold substrOf
    rw [if_neg (by omega), List.drop_zero, ← hlen, List.take_length]
  rw [chunkLoop, if_neg hdiv, chunkOffset_eq hmax hsize hi, chunkSize_eq hmax hmax' hsize hi]
  simp only [hstop, hin, if_false, decide_false, Bool.false_eq_true]
  rw [toUInt32_of_lt (by omega), toUInt32_of_lt (by omega), toInt32_of_lt (by omega),
    toUInt64_of_lt (by omega), hsub, Option.bind_some, hsub', Option.bind_some]
  rfl

/-- The events of a round stand before those of the rounds that follow it. -/
theorem round_erase {c : Nat} {ev : ChunkEvent} (hev : ev.Fits c) {next : Option ChunkRun}
    {next' : Option (Int × SaveTx)} {log : List ChunkEvent}
    (hlog : ∀ ev ∈ log, ChunkEvent.Fits c ev)
    (hnext : next = next'.map fun r => ⟨r.1, log, r.2⟩) (done : Bool) (tx : SaveTx) :
    ∃ log, (∀ ev ∈ log, ChunkEvent.Fits c ev) ∧
      (if done then next.map (ChunkRun.after [ev]) else some ⟨-1, [ev], tx⟩) =
        (if done then next' else some (-1, tx)).map fun r => ⟨r.1, log, r.2⟩ := by
  cases done with
  | false =>
      refine ⟨[ev], fun ev' h => ?_, rfl⟩
      rw [List.mem_singleton.mp h]
      exact hev
  | true =>
      refine ⟨ev :: log, fun ev' h => ?_, ?_⟩
      · rcases List.mem_cons.mp h with rfl | h
        · exact hev
        · exact hlog ev' h
      · rw [if_pos rfl, if_pos rfl, hnext, Option.map_map]
        rfl

/-- **The loop does what `writeLoop` does, and every event is a chunk.** -/
theorem chunkLoop_erase (hmax : 0 < S.maxWrite) (hmax' : S.maxWrite < 2 ^ 64)
    (hsize : buffer.length < 2 ^ 31) {n i : Nat} (hn : i + n = rounds S buffer.length)
    (tx : SaveTx) :
    ∃ log, (∀ ev ∈ log, ChunkEvent.Fits S.maxWrite ev) ∧
      chunkLoop S.maxWrite oid buffer buffer.length (rounds S buffer.length) ok n i tx =
        (writeLoop S oid buffer buffer.length (rounds S buffer.length) ok n i tx).map
          fun r => ⟨r.1, log, r.2⟩ := by
  induction n generalizing i tx with
  | zero => exact ⟨[], nofun, rfl⟩
  | succ n ih =>
      have hi : i < rounds S buffer.length := by omega
      have hn' : i + 1 + n = rounds S buffer.length := by omega
      by_cases hdiv : (rounds S buffer.length : Int) = 1
      · -- the whole buffer in one operation, and the buffer is no longer than a chunk
        have hfit : ChunkEvent.Fits S.maxWrite (.write 0 buffer) := by
          have hle := @size_le_rounds S buffer.length hmax
          rw [show rounds S buffer.length = 1 by omega, Nat.one_mul] at hle
          exact hle
        obtain ⟨log, hlog, hrun⟩ := ih hn' (tx.put .primary oid (·.write 0 buffer))
        rw [chunkLoop, writeLoop, if_pos hdiv, if_pos hdiv]
        exact round_erase hfit hlog hrun (ok i) tx
      · have hend := chunk_end hmax hi
        have hin : ¬ buffer.length < i * S.maxWrite + chunkLength S buffer.length i := by omega
        have hlength : (if buffer.length < (i + 1) * S.maxWrite then buffer.length % S.maxWrite
            else S.maxWrite) = chunkLength S buffer.length i := rfl
        have hfit : ChunkEvent.Fits S.maxWrite (.append ((buffer.drop (i * S.maxWrite)).take
            (chunkLength S buffer.length i))) :=
          Nat.le_trans (List.length_take_le ..) (chunkLength_le hmax)
        obtain ⟨log, hlog, hrun⟩ := ih hn' (tx.put .primary oid (·.append
          ((buffer.drop (i * S.maxWrite)).take (chunkLength S buffer.length i))))
        rw [chunkLoop_round hmax hmax' hsize hdiv hi, writeLoop, if_neg hdiv]
        dsimp only
        rw [hlength, if_neg hin, if_neg hin]
        exact round_erase hfit hlog hrun (ok i) tx

end Loop

/-! ## 3. The whole function -/

section Whole

variable {S : SaveSetup} {oid : String} {buffer : Bytes} {e : FinishEnv} {c : UInt64}

/-- **Without its record the traced function is `saveMailWriteAppend`**, whatever RADOS answers. -/
theorem saveMailWriteAppendTrace_erase (hS : S.maxWrite = c.toNat) (hc : 0 < S.maxWrite)
    (hpos : 0 < buffer.length) (hsize : buffer.length < 2 ^ 31) (tx : SaveTx) :
    ∃ log, (∀ ev ∈ log, ChunkEvent.Fits S.maxWrite ev) ∧
      saveMailWriteAppendTrace c e oid buffer buffer.length tx =
        (saveMailWriteAppend S e oid buffer buffer.length tx).map fun r => ⟨r.1, log, r.2⟩ := by
  have hc' : S.maxWrite < 2 ^ 64 := by
    rw [hS]
    exact c.toNat_lt
  have hsz : toUInt64 (buffer.length : Int) = buffer.length := toUInt64_of_lt (by omega)
  let tx₁ := if e.metadataOk then tx.put .primary oid (·.setXattrs e.metadata) else tx
  obtain ⟨log, hlog, hrun⟩ := @chunkLoop_erase S oid buffer e.dataOk hc hc' hsize _ 0
    (Nat.zero_add _) tx₁
  have hRpos := @rounds_pos S _ hpos
  have hdiv : toInt32 ((buffer.length / S.maxWrite + if buffer.length % S.maxWrite > 0 then 1
      else 0) % 2 ^ 64) = rounds S buffer.length := chunkDiv_eq hc hsize
  refine ⟨log, hlog, ?_⟩
  rw [saveMailWriteAppend_rounds hc hpos hsize]
  unfold saveMailWriteAppendTrace
  rw [hsz, ← hS]
  dsimp only
  rw [if_neg (Nat.pos_iff_ne_zero.mp hc), if_neg (Nat.pos_iff_ne_zero.mp hpos), hdiv,
    if_neg (by omega), Int.toNat_natCast]
  exact hrun

end Whole

/-- **A chunked save stores the mail**: for every mail of at most `INT_MAX` bytes, every chunk
    size and a new object, if every operation succeeds. -/
theorem chunked_save_stores_exactly (c : UInt64) (e : FinishEnv) (oid : String) (buffer : Bytes)
    (tx : SaveTx) (hc : 1 ≤ c) (hpos : 1 ≤ buffer.length) (hmax : buffer.length ≤ 2147483647)
    (hfresh : tx.objs .primary oid = none) (hmeta : e.metadataOk = true)
    (hdata : ∀ i, e.dataOk i = true) :
    ∃ r, saveMailWriteAppendTrace c e oid buffer buffer.length tx = some r ∧ r.ret = 0 ∧
      (∃ o, r.tx.objs .primary oid = some o ∧ o.data = buffer) ∧
      (∀ off bs, .write off bs ∈ r.log → bs.length ≤ c.toNat) ∧
      (∀ bs, .append bs ∈ r.log → bs.length ≤ c.toNat) ∧
      (∀ stop size, .tooBig stop size ∉ r.log) ∧ .overLength ∉ r.log := by
  let S : SaveSetup := ⟨false, c.toNat, 0⟩
  have hS : 0 < S.maxWrite := by
    show 0 < c.toNat
    have := UInt64.le_iff_toNat_le.mp hc
    exact this
  have hempty : (tx.stored oid).data = [] := by rw [stored_none hfresh]; rfl
  obtain ⟨tx', hrun, _, o, ho, hdat, _⟩ := saveMailWriteAppend_complete (S := S) (e := e) hS hpos
    (by omega) hmeta (fun i _ => hdata i) (fun _ => hempty) (by rw [hempty]; exact Nat.zero_le _)
    nofun
  obtain ⟨log, hlog, herase⟩ := @saveMailWriteAppendTrace_erase S oid buffer e c rfl hS hpos
    (by omega) tx
  rw [hrun, Option.map_some] at herase
  exact ⟨_, herase, rfl, ⟨o, ho, hdat⟩, fun _ _ h => hlog _ h, fun _ h => hlog _ h,
    fun _ _ h => hlog _ h, fun h => hlog _ h⟩

/-- Three bytes in chunks of two. -/
theorem three_bytes_in_two_chunks :
    ∃ r, saveMailWriteAppendTrace 2 {} "0a" [1, 2, 3] 3 (.start (fun _ _ => none) 1 []) = some r ∧
      r.ret = 0 ∧ (∃ o, r.tx.objs .primary "0a" = some o ∧ o.data = [1, 2, 3]) ∧
      ∀ bs, .append bs ∈ r.log → bs.length ≤ 2 := by
  obtain ⟨r, hr, h0, ho, _, happend, _⟩ := chunked_save_stores_exactly 2 {} "0a" [1, 2, 3]
    (.start (fun _ _ => none) 1 []) (by decide) (by decide) (by decide) rfl rfl fun _ => rfl
  exact ⟨r, hr, h0, ho, happend⟩

end DovecotCeph
