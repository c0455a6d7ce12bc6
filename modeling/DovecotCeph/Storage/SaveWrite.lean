/-
  File:      DovecotCeph/Storage/SaveWrite.lean
  Subject:   The content of a mail object (`o_stream_buffer_sendv`, `save_mail_write_append`): what
             the stream collects, what the rounds of the write loop append, and that nothing but
             the mail's own object is touched.

  * `Touches`: the frame of all writing -- the other objects, the records and the index stay;
  * `rounds`: the rounds `save_mail_write_append` needs;
  * **`saveMailWriteAppend_complete`**: with every operation done the object holds the buffer and
    the metadata.
-/
import DovecotCeph.Storage.Save

namespace DovecotCeph

/-! ## 1. The frame -/

/-- Only the object `oid` differs. -/
structure Touches (oid : String) (tx tx' : SaveTx) : Prop where
  objs : ∀ pool oid', oid' ≠ oid → tx'.objs pool oid' = tx.objs pool oid'
  ctx : tx'.ctx = tx.ctx
  nextSeq : tx'.nextSeq = tx.nextSeq
  records : tx'.records = tx.records
  index : tx'.index = tx.index

section Frame

variable {S : SaveSetup} {tx tx' tx₂ : SaveTx} {oid : String}

theorem Touches.refl (oid : String) (tx : SaveTx) : Touches oid tx tx :=
  ⟨fun _ _ _ => rfl, rfl, rfl, rfl, rfl⟩

theorem Touches.trans (h : Touches oid tx tx') (h' : Touches oid tx' tx₂) : Touches oid tx tx₂ :=
  ⟨fun pool oid' ho => (h'.objs pool oid' ho).trans (h.objs pool oid' ho), h'.ctx.trans h.ctx,
    h'.nextSeq.trans h.nextSeq, h'.records.trans h.records, h'.index.trans h.index⟩

theorem put_touches (pool : MailPool) (oid : String) (f : MailObj → MailObj) (tx : SaveTx) :
    Touches oid tx (tx.put pool oid f) :=
  ⟨fun _ _ ho => put_objs_ne (fun h => ho h.2) f tx, rfl, rfl, rfl, rfl⟩

theorem sendv_oid (st : Cur × SaveTx) (piece : Bytes × Bool) :
    (sendv S st piece).1.oid = st.1.oid := by
  unfold sendv
  split <;> rfl

theorem sendv_touches (st : Cur × SaveTx) (piece : Bytes × Bool) :
    Touches st.1.oid st.2 (sendv S st piece).2 := by
  unfold sendv
  split
  · dsimp only
    split
    · exact put_touches ..
    · exact Touches.refl ..
  · exact Touches.refl ..

theorem sends_oid (sends : List (Bytes × Bool)) (st : Cur × SaveTx) :
    (sends.foldl (sendv S) st).1.oid = st.1.oid := by
  induction sends generalizing st with
  | nil => rfl
  | cons piece sends ih => exact (ih _).trans (sendv_oid st piece)

theorem sends_touches (sends : List (Bytes × Bool)) (st : Cur × SaveTx) :
    Touches st.1.oid st.2 (sends.foldl (sendv S) st).2 := by
  induction sends generalizing st with
  | nil => exact Touches.refl ..
  | cons piece sends ih =>
      have h := ih (sendv S st piece)
      rw [sendv_oid] at h
      exact (sendv_touches st piece).trans h

end Frame

/-! ## 2. The stream -/

section Stream

variable {S : SaveSetup}

/-- The stream does not look at the context. -/
theorem sendv_ctx (cur : Cur) (tx : SaveTx) (ctx : Option SaveCtx) (piece : Bytes × Bool) :
    sendv S (cur, { tx with ctx := ctx }) piece =
      ((sendv S (cur, tx) piece).1, { (sendv S (cur, tx) piece).2 with ctx := ctx }) := by
  unfold sendv
  split
  · dsimp only
    split <;> rfl
  · rfl

theorem sends_ctx (sends : List (Bytes × Bool)) (cur : Cur) (tx : SaveTx)
    (ctx : Option SaveCtx) :
    sends.foldl (sendv S) (cur, { tx with ctx := ctx }) =
      ((sends.foldl (sendv S) (cur, tx)).1,
        { (sends.foldl (sendv S) (cur, tx)).2 with ctx := ctx }) := by
  induction sends generalizing cur tx with
  | nil => rfl
  | cons piece sends ih =>
      rw [List.foldl_cons, sendv_ctx, ih, List.foldl_cons]

theorem sends_offset (sends : List (Bytes × Bool)) (st : Cur × SaveTx) :
    (sends.foldl (sendv S) st).1.offset = st.1.offset + (sends.flatMap (·.1)).length := by
  induction sends generalizing st with
  | nil => rfl
  | cons piece sends ih =>
      have hstep : (sendv S st piece).1.offset = st.1.offset + piece.1.length := by
        unfold sendv
        split <;> rfl
      rw [List.foldl_cons, ih, hstep, List.flatMap_cons, List.length_append, Nat.add_assoc]

/-- Without `rbox_ceph_write_chunks` the buffer collects the pieces. -/
theorem sends_buffer (hw : S.writeChunks = false) (sends : List (Bytes × Bool))
    (st : Cur × SaveTx) :
    (sends.foldl (sendv S) st).1.buffer = st.1.buffer ++ sends.flatMap (·.1) ∧
      (sends.foldl (sendv S) st).2 = st.2 := by
  induction sends generalizing st with
  | nil => exact ⟨(List.append_nil _).symm, rfl⟩
  | cons piece sends ih =>
      have hstep : sendv S st piece =
          (⟨st.1.oid, st.1.buffer ++ piece.1, st.1.offset + piece.1.length⟩, st.2) := by
        simp [sendv, hw]
      obtain ⟨hb, htx⟩ := ih (sendv S st piece)
      rw [List.foldl_cons, hb, htx, hstep, List.flatMap_cons, List.append_assoc]
      exact ⟨rfl, rfl⟩

/-- The bytes already in the object. -/
def SaveTx.stored (tx : SaveTx) (oid : String) : MailObj :=
  (tx.objs .primary oid).getD .empty

theorem stored_none {tx : SaveTx} {oid : String} (h : tx.objs .primary oid = none) :
    tx.stored oid = .empty := by
  simp [SaveTx.stored, h]

/-- What the stream leaves for `save_mail_write_append`: the buffer is the mail, and the object is
    still empty -- or, with `rbox_ceph_write_chunks` and a single piece, holds no more than that. -/
theorem sends_ready {pieces : List (Bytes × Bool)} {oid : String} {tx : SaveTx}
    (hnew : tx.objs .primary oid = none) (hchunks : S.writeChunks = true → pieces.length = 1) :
    (pieces.foldl (sendv S) (⟨oid, [], 0⟩, tx)).1.buffer = pieces.flatMap (·.1) ∧
      (S.writeChunks = false →
        ((pieces.foldl (sendv S) (⟨oid, [], 0⟩, tx)).2.stored oid).data = []) ∧
      ((pieces.foldl (sendv S) (⟨oid, [], 0⟩, tx)).2.stored oid).data.length ≤
        (pieces.flatMap (·.1)).length := by
  cases hw : S.writeChunks with
  | false =>
      obtain ⟨hb, htx⟩ := sends_buffer hw pieces (⟨oid, [], 0⟩, tx)
      have hdata : ((pieces.foldl (sendv S) (⟨oid, [], 0⟩, tx)).2.stored oid).data = [] := by
        rw [htx, stored_none hnew]
        rfl
      exact ⟨hb, fun _ => hdata, by rw [hdata]; exact Nat.zero_le _⟩
  | true =>
      obtain ⟨piece, rfl⟩ := List.length_eq_one_iff.mp (hchunks hw)
      have hbytes : [piece].flatMap (·.1) = piece.1 := by simp
      have hstep : [piece].foldl (sendv S) (⟨oid, [], 0⟩, tx) =
          (⟨oid, piece.1, 0 + piece.1.length⟩,
            if piece.2 then tx.put .primary oid (·.write 0 piece.1) else tx) := by
        simp [sendv, hw]
      rw [hstep, hbytes]
      refine ⟨rfl, nofun, ?_⟩
      dsimp only
      split
      · simp [SaveTx.stored, hnew, MailObj.write, MailObj.empty]
      · rw [stored_none hnew]
        exact Nat.zero_le _

end Stream

/-! ## 3. The rounds of the write loop -/

/-- The number of rounds `save_mail_write_append` needs. -/
def rounds (S : SaveSetup) (size : Nat) : Nat :=
  size / S.maxWrite + if size % S.maxWrite > 0 then 1 else 0

/-- The bytes of one round. -/
def chunkLength (S : SaveSetup) (size i : Nat) : Nat :=
  if size < (i + 1) * S.maxWrite then size % S.maxWrite else S.maxWrite

section Rounds

variable {S : SaveSetup} {size i : Nat}

theorem rounds_le_size (hmax : 0 < S.maxWrite) : rounds S size ≤ size := by
  unfold rounds
  have hdiv := Nat.div_add_mod size S.maxWrite
  have hmul : size / S.maxWrite ≤ S.maxWrite * (size / S.maxWrite) :=
    Nat.le_mul_of_pos_left _ hmax
  split <;> omega

theorem rounds_pos (hsize : 0 < size) : 0 < rounds S size := by
  unfold rounds
  have hdiv := Nat.div_add_mod size S.maxWrite
  split
  case isTrue => exact Nat.succ_pos _
  case isFalse hr =>
    rcases Nat.eq_zero_or_pos (size / S.maxWrite) with hq | hq
    · rw [hq, Nat.mul_zero] at hdiv
      omega
    · exact hq

theorem rounds_le_one (hle : size ≤ S.maxWrite) : rounds S size ≤ 1 := by
  unfold rounds
  rcases Nat.lt_or_ge size S.maxWrite with hlt | hge
  · rw [Nat.div_eq_of_lt hlt]
    split <;> omega
  · obtain rfl : S.maxWrite = size := Nat.le_antisymm hge hle
    have hq : S.maxWrite / S.maxWrite ≤ 1 :=
      Nat.div_le_of_le_mul (Nat.le_of_eq (Nat.mul_one _).symm)
    rw [Nat.mod_self]
    simpa using hq

theorem size_le_rounds (hmax : 0 < S.maxWrite) : size ≤ rounds S size * S.maxWrite := by
  unfold rounds
  have hdiv := Nat.div_add_mod' size S.maxWrite
  have hmod := Nat.mod_lt size hmax
  split
  · rw [Nat.add_mul]
    omega
  · rw [Nat.add_zero]
    omega

/-- Each round stays inside the mail, and after it all bytes up to its end are written. -/
theorem chunk_end (hmax : 0 < S.maxWrite) (hi : i < rounds S size) :
    i * S.maxWrite + chunkLength S size i = min size ((i + 1) * S.maxWrite) := by
  have hdiv := Nat.div_add_mod' size S.maxWrite
  have hmod := Nat.mod_lt size hmax
  have hsucc : (i + 1) * S.maxWrite = i * S.maxWrite + S.maxWrite := Nat.succ_mul ..
  unfold chunkLength
  split
  case isTrue hlt =>
    -- the last, short round: `i` is the quotient
    have hq : i = size / S.maxWrite := by
      have hle : size / S.maxWrite ≤ i := Nat.le_of_lt_succ ((Nat.div_lt_iff_lt_mul hmax).mpr hlt)
      unfold rounds at hi
      split at hi <;> omega
    rw [← hq] at hdiv
    omega
  case isFalse hge => omega

end Rounds

section Loop

variable {S : SaveSetup} {tx : SaveTx} {oid : String} {buffer : Bytes} {ok : Nat → Bool}

theorem stored_put (f : MailObj → MailObj) :
    (tx.put .primary oid f).stored oid = f (tx.stored oid) := by
  simp [SaveTx.stored]

/-- What the object holds after a round, if it held everything before it. -/
theorem stored_append_round (hmax : 0 < S.maxWrite) {i : Nat} (hi : i < rounds S buffer.length)
    (hdata : (tx.stored oid).data = buffer.take (i * S.maxWrite)) :
    ((tx.put .primary oid (·.append ((buffer.drop (i * S.maxWrite)).take
      (chunkLength S buffer.length i)))).stored oid).data = buffer.take ((i + 1) * S.maxWrite) := by
  have hend := chunk_end hmax hi
  rw [stored_put]
  show (tx.stored oid).data ++ _ = _
  rw [hdata, ← List.take_add, hend, Nat.min_comm, ← List.take_take, List.take_length]

/-- Several rounds: each appends the next bytes of the buffer. -/
theorem writeLoop_appends (hmax : 0 < S.maxWrite) (hdiv : (rounds S buffer.length : Int) ≠ 1)
    (hok : ∀ i < rounds S buffer.length, ok i = true) {n i : Nat}
    (hn : i + n = rounds S buffer.length)
    (hdata : (tx.stored oid).data = buffer.take (i * S.maxWrite))
    (hex : n = 0 → tx.objs .primary oid ≠ none) :
    ∃ tx', writeLoop S oid buffer buffer.length (rounds S buffer.length) ok n i tx = some (0, tx') ∧
      Touches oid tx tx' ∧
      tx'.objs .primary oid = some ⟨buffer, (tx.stored oid).xattrs⟩ := by
  induction n generalizing i tx with
  | zero =>
      refine ⟨tx, rfl, Touches.refl .., ?_⟩
      obtain ⟨o, ho⟩ := Option.ne_none_iff_exists'.mp (hex rfl)
      have hst : tx.stored oid = o := by simp [SaveTx.stored, ho]
      have hall : buffer.take (i * S.maxWrite) = buffer := by
        rw [Nat.add_zero] at hn
        rw [hn]
        exact List.take_of_length_le (size_le_rounds hmax)
      rw [hst, hall] at hdata
      rw [ho, hst, ← hdata]
  | succ n ih =>
      have hi : i < rounds S buffer.length := by omega
      have hend := chunk_end hmax hi
      have hin : i * S.maxWrite + chunkLength S buffer.length i ≤ buffer.length := by
        rw [hend]
        exact Nat.min_le_left ..
      -- the loop's guards hold, and the round appends
      have hstep : writeLoop S oid buffer buffer.length (rounds S buffer.length) ok (n + 1) i tx =
          writeLoop S oid buffer buffer.length (rounds S buffer.length) ok n (i + 1)
            (tx.put .primary oid (·.append ((buffer.drop (i * S.maxWrite)).take
              (chunkLength S buffer.length i)))) := by
        have hlength : (if buffer.length < (i + 1) * S.maxWrite then buffer.length % S.maxWrite
            else S.maxWrite) = chunkLength S buffer.length i := rfl
        rw [writeLoop, if_neg hdiv]
        dsimp only
        rw [hlength, if_neg (Nat.not_lt.mpr hin), if_neg (Nat.not_lt.mpr hin), if_pos (hok i hi)]
      have hdata' := stored_append_round hmax hi hdata
      have hn' : i + 1 + n = rounds S buffer.length := by omega
      obtain ⟨tx', hrun, htouch, hobj⟩ := ih hn' hdata'
        (fun _ => by rw [put_objs_self]; exact Option.some_ne_none _)
      refine ⟨tx', hstep.trans hrun, (put_touches ..).trans htouch, ?_⟩
      rw [hobj, stored_put]
      rfl

/-- One round: the object is overwritten from its start. -/
theorem writeLoop_single (hok : ok 0 = true)
    (hlen : (tx.stored oid).data.length ≤ buffer.length) :
    ∃ tx', writeLoop S oid buffer buffer.length 1 ok 1 0 tx = some (0, tx') ∧
      Touches oid tx tx' ∧
      tx'.objs .primary oid = some ⟨buffer, (tx.stored oid).xattrs⟩ := by
  refine ⟨tx.put .primary oid (·.write 0 buffer), ?_, put_touches .., ?_⟩
  · rw [writeLoop, if_pos rfl, if_pos hok]
    rfl
  · have hdrop : (tx.stored oid).data.drop buffer.length = [] := List.drop_eq_nil_of_le hlen
    rw [put_objs_self]
    show some ((tx.stored oid).write 0 buffer) = _
    simp [MailObj.write, hdrop]

end Loop

/-! ## 4. Complete objects -/

/-- The object is there with the mail's bytes and metadata; `U` is assigned by the commit. -/
def Complete (objs : MailObjs) (pool : MailPool) (oid : String) (data : Bytes)
    (metadata : String → Option String) : Prop :=
  ∃ o, objs pool oid = some o ∧ o.data = data ∧
    ∀ k v, metadata k = some v → k ≠ "U" → o.xattrs k = some v

theorem toInt32_of_lt {n : Nat} (h : n < 2 ^ 31) : toInt32 n = n := by
  unfold toInt32
  rw [Int.bmod_eq_of_le] <;> omega

section Append

variable {S : SaveSetup} {tx : SaveTx} {oid : String} {buffer : Bytes} {e : FinishEnv}

/-- For a mail of at most `INT_MAX` bytes the function is its loop. -/
theorem saveMailWriteAppend_rounds {size : Nat} (hmax : 0 < S.maxWrite) (hpos : 0 < size)
    (hint : size < 2 ^ 31) :
    saveMailWriteAppend S e oid buffer size tx =
      writeLoop S oid buffer size (rounds S size) e.dataOk (rounds S size) 0
        (if e.metadataOk then tx.put .primary oid (·.setXattrs e.metadata) else tx) := by
  have hR : rounds S size < 2 ^ 31 := Nat.lt_of_le_of_lt (rounds_le_size hmax) hint
  have hRpos := @rounds_pos S _ hpos
  have hsize : ((size : Int) % 2 ^ 64).toNat = size := by omega
  have hdiv : toInt32 (size / S.maxWrite + if size % S.maxWrite > 0 then 1 else 0) =
      rounds S size := toInt32_of_lt hR
  unfold saveMailWriteAppend
  rw [hsize]
  dsimp only
  rw [if_neg (Nat.pos_iff_ne_zero.mp hmax), if_neg (Nat.pos_iff_ne_zero.mp hpos), hdiv,
    if_neg (by omega), Int.toNat_natCast]

/-- **A mail whose operations are all done is in its object**, if the object was empty, or if the
    mail is one chunk and the object not longer. -/
theorem saveMailWriteAppend_complete (hmax : 0 < S.maxWrite) (hpos : 0 < buffer.length)
    (hint : buffer.length < 2 ^ 31) (hmeta : e.metadataOk = true)
    (hok : ∀ i < rounds S buffer.length, e.dataOk i = true)
    (hempty : S.writeChunks = false → (tx.stored oid).data = [])
    (hlen : (tx.stored oid).data.length ≤ buffer.length)
    (hchunk : S.writeChunks = true → buffer.length ≤ S.maxWrite) :
    ∃ tx', saveMailWriteAppend S e oid buffer buffer.length tx = some (0, tx') ∧
      Touches oid tx tx' ∧ Complete tx'.objs .primary oid buffer e.metadata := by
  let tx₁ := tx.put .primary oid (·.setXattrs e.metadata)
  have hst : tx₁.stored oid = (tx.stored oid).setXattrs e.metadata := by
    simp [tx₁, SaveTx.stored]
  have hRpos := @rounds_pos S _ hpos
  have hunfold : saveMailWriteAppend S e oid buffer buffer.length tx =
      writeLoop S oid buffer buffer.length (rounds S buffer.length) e.dataOk
        (rounds S buffer.length) 0 tx₁ := by
    rw [saveMailWriteAppend_rounds hmax hpos hint, if_pos hmeta]
  have hloop : ∃ tx', writeLoop S oid buffer buffer.length (rounds S buffer.length) e.dataOk
      (rounds S buffer.length) 0 tx₁ = some (0, tx') ∧ Touches oid tx₁ tx' ∧
      tx'.objs .primary oid = some ⟨buffer, (tx₁.stored oid).xattrs⟩ := by
    by_cases h1 : rounds S buffer.length = 1
    · rw [h1]
      exact writeLoop_single (hok 0 hRpos) (by rw [hst]; exact hlen)
    · have hw : S.writeChunks = false := by
        cases hw : S.writeChunks with
        | false => rfl
        | true =>
            have := rounds_le_one (hchunk hw)
            omega
      refine writeLoop_appends hmax (by omega) hok (by omega) ?_ (by omega)
      rw [hst, Nat.zero_mul, List.take_zero]
      exact hempty hw
  obtain ⟨tx', hrun, htouch, hobj⟩ := hloop
  refine ⟨tx', hunfold.trans hrun, (put_touches ..).trans htouch, _, hobj, rfl, ?_⟩
  intro k v hk _
  show (tx₁.stored oid).xattrs k = some v
  rw [hst]
  show (e.metadata k).or _ = some v
  rw [hk]
  rfl

end Append

end DovecotCeph
