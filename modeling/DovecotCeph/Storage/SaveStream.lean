/-
  File:      DovecotCeph/Storage/SaveStream.lean
  Subject:   The two ways to save a mail (`o_stream_buffer_sendv`, `rbox_save_finish`): collect it
             in the buffer, or write every `sendv` call at once (`rbox_ceph_write_chunks`).

  When the calls are written at once the buffer is cleared at each of them, and `rbox_save_finish`
  writes what is left of it, the bytes of the last call, once more: at the start of the object if
  the mail is one chunk, behind its end if it is more.
  * `oStreamBufferSendv_eq`: a call with several pieces is a call with their concatenation;
  * `savedData_streamed_chunk`, `savedData_streamed_long`: what streaming leaves in the object;
  * **`saves_agree_iff`**: when both ways store the mail.
-/
import DovecotCeph.Storage.SaveCommit

namespace DovecotCeph

/-! ## 1. A call with several pieces -/

/-- `o_stream_buffer_sendv` with the pieces of its io vector. -/
def oStreamBufferSendv (S : SaveSetup) (st : Cur × SaveTx) (iov : List Bytes) (aio : Bool) :
    Cur × SaveTx :=
  let val := st.1.offset
  let cur := if S.writeChunks then { st.1 with buffer := [] } else st.1
  let cur := iov.foldl
    (fun cur bs => { cur with buffer := cur.buffer ++ bs, offset := cur.offset + bs.length }) cur
  (cur, if S.writeChunks && aio then st.2.put .primary cur.oid (·.write val cur.buffer) else st.2)

theorem iov_foldl (iov : List Bytes) (cur : Cur) :
    iov.foldl (fun cur bs =>
        { cur with buffer := cur.buffer ++ bs, offset := cur.offset + bs.length }) cur =
      ⟨cur.oid, cur.buffer ++ iov.flatten, cur.offset + iov.flatten.length⟩ := by
  induction iov generalizing cur with
  | nil => simp
  | cons bs iov ih =>
      rw [List.foldl_cons, ih]
      simp [Nat.add_assoc]

/-- **The pieces of a call are written as one.** -/
theorem oStreamBufferSendv_eq (S : SaveSetup) (st : Cur × SaveTx) (iov : List Bytes) (aio : Bool) :
    oStreamBufferSendv S st iov aio = sendv S st (iov.flatten, aio) := by
  unfold oStreamBufferSendv sendv
  dsimp only
  rw [iov_foldl]
  cases S.writeChunks with
  | false => simp
  | true => cases aio <;> simp

/-! ## 2. The saved mail -/

/-- Nothing goes wrong while the mail is saved: the connection, the streams, and every RADOS
    operation, the asynchronous writes in the order of the calls. -/
structure AllDone (m : SavedMail) : Prop where
  conn : m.conn = true
  conts : ∀ c ∈ m.conts, c.2 = true
  flush : m.fin.flushOk = true
  aio : ∀ p ∈ m.pieces, p.2 = true
  metadata : m.fin.metadataOk = true
  data : ∀ i, m.fin.dataOk i = true

/-- The object's data after `rbox_save_finish`. -/
def savedData (S : SaveSetup) (tx : SaveTx) (m : SavedMail) : Option Bytes :=
  (runMail S tx (.saved m)).bind fun r => (r.2.objs .primary m.oid).map (·.data)

/-- What the stream leaves, from the begin of the mail on. -/
def streamed (S : SaveSetup) (tx : SaveTx) (m : SavedMail) : Cur × SaveTx :=
  m.pieces.foldl (sendv S) (⟨m.oid, [], 0⟩, tx)

section Saved

variable {S : SaveSetup} {tx : SaveTx} {m : SavedMail}

/-- **The object after the finish is what `save_mail_write_append` makes of the stream's buffer and
    of the object the stream left.** -/
theorem savedData_eq (hm : AllDone m) (hpos : m.bytes ≠ []) (hint : m.bytes.length < 2 ^ 31)
    (hsize : (m.bytes.length : Int) ≤ S.maxObjectSize) :
    ∃ tx₁ tx₂, tx₁.objs = tx.objs ∧ tx₂.objs = (streamed S tx₁ m).2.objs ∧
      savedData S tx m =
        (saveMailWriteAppend S m.fin m.oid (streamed S tx₁ m).1.buffer m.bytes.length tx₂).bind
          fun w => (w.2.objs .primary m.oid).map (·.data) := by
  obtain ⟨c, _, hpro⟩ := @prologue_begin S m tx
  let c₁ : SaveCtx :=
    { c with failed := false, seq := tx.nextSeq, radosMails := c.radosMails ++ [m.oid] }
  let tx₁ : SaveTx :=
    { tx with nextSeq := tx.nextSeq + 1, records := tx.records ++ [(tx.nextSeq, m.oid)] }
  have hbegin : (rboxSaveBegin m.oid m.conn c tx).2 =
      { tx₁ with ctx := some { c₁ with stream := .live ⟨m.oid, [], 0⟩ } } := by
    rw [hm.conn]
    rfl
  have hbefore := hpro.trans ((congrArg (saveCalls S · _) hbegin).trans
    (continues_ok hm.conts tx₁ rfl))
  obtain ⟨r₀, hr₀⟩ : ∃ r₀, (m.conts.flatMap (·.1)).foldl (sendv S) (⟨m.oid, [], 0⟩, tx₁) = r₀ :=
    ⟨_, rfl⟩
  rw [hr₀] at hbefore
  let ctx : Option SaveCtx := some { c₁ with stream := .live r₀.1 }
  -- the finish feeds the rest to the stream
  have hfeed : m.fin.sends.foldl (sendv S) (r₀.1, { r₀.2 with ctx := ctx }) =
      ((streamed S tx₁ m).1, { (streamed S tx₁ m).2 with ctx := ctx }) := by
    have happ : m.fin.sends.foldl (sendv S) r₀ = streamed S tx₁ m := by
      unfold streamed SavedMail.pieces
      rw [← hr₀, ← List.foldl_append]
    rw [sends_ctx, happ]
  have hoff : (streamed S tx₁ m).1.offset = m.bytes.length :=
    (sends_offset m.pieces _).trans (Nat.zero_add _)
  have hoid : (streamed S tx₁ m).1.oid = m.oid := sends_oid m.pieces _
  have hfin := @rboxSaveFinish_writes S { r₀.2 with ctx := ctx } { c₁ with stream := .live r₀.1 }
    m.fin r₀.1 _ rfl rfl hm.flush hfeed
    (by rw [hoff]; exact fun h => hpos (List.length_eq_zero_iff.mp h)) (by rw [hoff]; exact hint)
    (by rw [hoff]; exact hsize)
  refine ⟨tx₁, { (streamed S tx₁ m).2 with ctx := ctx }, rfl, rfl, ?_⟩
  show ((saveCalls S tx m.prologue).bind fun tx =>
    (saveCall S tx (.finish m.fin)).map fun r => (decide (0 ≤ r.1), r.2)).bind _ = _
  rw [hbefore, Option.bind_some]
  show ((rboxSaveFinish S m.fin { c₁ with stream := .live r₀.1 } { r₀.2 with ctx := ctx }).map
    _).bind _ = _
  rw [hfin, hoff, hoid]
  cases saveMailWriteAppend S m.fin m.oid (streamed S tx₁ m).1.buffer m.bytes.length
    { (streamed S tx₁ m).2 with ctx := ctx } with
  | none => rfl
  | some w => rfl

end Saved

/-! ## 3. Buffered -/

section Buffered

variable {S : SaveSetup} {tx : SaveTx} {m : SavedMail}

/-- **Without `rbox_ceph_write_chunks` the object holds the mail.** -/
theorem savedData_buffered (hw : S.writeChunks = false) (hmax : 0 < S.maxWrite) (hm : AllDone m)
    (hpos : m.bytes ≠ []) (hint : m.bytes.length < 2 ^ 31)
    (hsize : (m.bytes.length : Int) ≤ S.maxObjectSize) (hnew : tx.objs .primary m.oid = none) :
    savedData S tx m = some m.bytes := by
  obtain ⟨tx₁, tx₂, h₁, h₂, heq⟩ := @savedData_eq S tx m hm hpos hint hsize
  obtain ⟨hbuf, hstream⟩ := sends_buffer hw m.pieces (⟨m.oid, [], 0⟩, tx₁)
  have hbuf' : (streamed S tx₁ m).1.buffer = m.bytes := hbuf
  have hempty : (tx₂.stored m.oid).data = [] := by
    have hnone : tx₂.objs .primary m.oid = none := by
      rw [h₂, show (streamed S tx₁ m).2 = tx₁ from hstream, h₁]
      exact hnew
    rw [stored_none hnone]
    rfl
  obtain ⟨tx', hrun, _, o, ho, hdata, _⟩ := saveMailWriteAppend_complete (S := S) hmax
    (List.length_pos_iff.mpr hpos) hint hm.metadata (fun i _ => hm.data i) (fun _ => hempty)
    (by rw [hempty]; exact Nat.zero_le _) (fun h => by rw [hw] at h; cases h)
  rw [heq, hbuf', hrun, Option.bind_some, ho, Option.map_some, hdata]

end Buffered

/-! ## 4. Streamed -/

section Streamed

variable {S : SaveSetup} {tx : SaveTx} {m : SavedMail}

theorem MailObj.write_end (o : MailObj) (bs : Bytes) :
    (o.write o.data.length bs).data = o.data ++ bs := by
  have hdrop : o.data.drop (o.data.length + bs.length) = [] :=
    List.drop_eq_nil_of_le (Nat.le_add_right ..)
  simp [MailObj.write, hdrop]

/-- The calls write one behind the other. -/
theorem sends_stored (hw : S.writeChunks = true) (pieces : List (Bytes × Bool))
    (haio : ∀ p ∈ pieces, p.2 = true) (st : Cur × SaveTx)
    (hoff : st.1.offset = (st.2.stored st.1.oid).data.length) :
    ((pieces.foldl (sendv S) st).2.stored st.1.oid).data =
      (st.2.stored st.1.oid).data ++ pieces.flatMap (·.1) := by
  induction pieces generalizing st with
  | nil => simp
  | cons p pieces ih =>
      have hp : p.2 = true := haio p List.mem_cons_self
      have hstored : (((sendv S st p).2).stored st.1.oid).data =
          (st.2.stored st.1.oid).data ++ p.1 := by
        rw [← MailObj.write_end, ← hoff]
        simp [sendv, hw, hp, SaveTx.stored]
      have hoff' : (sendv S st p).1.offset =
          ((sendv S st p).2.stored (sendv S st p).1.oid).data.length := by
        rw [sendv_oid, hstored, List.length_append, ← hoff]
        simp [sendv, hw]
      have hrest := ih (fun q hq => haio q (List.mem_cons_of_mem _ hq)) (sendv S st p) hoff'
      rw [sendv_oid, hstored] at hrest
      rw [List.foldl_cons, hrest, List.flatMap_cons, List.append_assoc]

/-- The buffer holds the last call. -/
theorem sends_last (hw : S.writeChunks = true) (pieces : List (Bytes × Bool)) (st : Cur × SaveTx)
    {last : Bytes × Bool} (hlast : pieces.getLast? = some last) :
    (pieces.foldl (sendv S) st).1.buffer = last.1 := by
  obtain ⟨init, rfl⟩ := List.getLast?_eq_some_iff.mp hlast
  rw [List.foldl_append]
  simp [sendv, hw]

/-- What the stream leaves of a new mail: its bytes in the object, the last call in the buffer. -/
theorem streamed_chunks (hw : S.writeChunks = true) (hm : AllDone m)
    (hnew : tx.objs .primary m.oid = none) {last : Bytes × Bool}
    (hlast : m.pieces.getLast? = some last) :
    (streamed S tx m).1.buffer = last.1 ∧
      ((streamed S tx m).2.stored m.oid).data = m.bytes := by
  refine ⟨sends_last hw m.pieces _ hlast, ?_⟩
  have hempty : (tx.stored m.oid).data = [] := by rw [stored_none hnew]; rfl
  have h := sends_stored hw m.pieces hm.aio (⟨m.oid, [], 0⟩, tx) (by simp [hempty])
  rw [hempty, List.nil_append] at h
  exact h

/-- A mail of one chunk: the buffer goes to the start of the object. -/
theorem saveMailWriteAppend_one {e : FinishEnv} {oid : String} {buffer : Bytes} {size : Nat}
    (hpos : 0 < size) (hint : size < 2 ^ 31) (hle : size ≤ S.maxWrite)
    (hmeta : e.metadataOk = true) (hok : e.dataOk 0 = true) (tx : SaveTx) :
    ∃ tx', saveMailWriteAppend S e oid buffer size tx = some (0, tx') ∧
      (tx'.objs .primary oid).map (·.data) =
        some (buffer ++ (tx.stored oid).data.drop buffer.length) := by
  have hR : rounds S size = 1 := Nat.le_antisymm (rounds_le_one hle) (rounds_pos hpos)
  refine ⟨(tx.put .primary oid (·.setXattrs e.metadata)).put .primary oid (·.write 0 buffer),
    ?_, ?_⟩
  · rw [saveMailWriteAppend_rounds (by omega) hpos hint, if_pos hmeta, hR]
    show writeLoop S oid buffer size 1 e.dataOk 1 0 _ = _
    rw [writeLoop, if_pos rfl, if_pos hok]
    rfl
  · simp [MailObj.write, MailObj.setXattrs, SaveTx.stored]

/-- The rounds of a longer mail only append. -/
theorem writeLoop_grows {oid : String} {buffer : Bytes} {size : Nat} {div : Int} (hdiv : div ≠ 1)
    {ok : Nat → Bool} {n i : Nat} {r : Int × SaveTx}
    (h : writeLoop S oid buffer size div ok n i tx = some r) :
    (tx.stored oid).data.length ≤ (r.2.stored oid).data.length := by
  induction n generalizing i tx with
  | zero =>
      cases h
      exact Nat.le_refl _
  | succ n ih =>
      rw [writeLoop, if_neg hdiv] at h
      dsimp only at h
      generalize (if size < (i + 1) * S.maxWrite then size % S.maxWrite else S.maxWrite) =
        length at h
      split at h
      case isTrue =>
        cases h
        exact Nat.le_refl _
      case isFalse =>
        split at h
        case isTrue => cases h
        case isFalse =>
          split at h
          case isFalse =>
            cases h
            exact Nat.le_refl _
          case isTrue =>
            refine Nat.le_trans ?_ (ih h)
            simp [SaveTx.stored, MailObj.append]

/-- A mail of several chunks: the object grows, if the function returns at all. -/
theorem saveMailWriteAppend_many {e : FinishEnv} {oid : String} {buffer : Bytes} {size : Nat}
    (hmax : 0 < S.maxWrite) (hint : size < 2 ^ 31) (hlt : S.maxWrite < size)
    (hmeta : e.metadataOk = true) (hok : e.dataOk 0 = true) {r : Int × SaveTx}
    (h : saveMailWriteAppend S e oid buffer size tx = some r) :
    (tx.stored oid).data.length < (r.2.stored oid).data.length := by
  have hR2 : 2 ≤ rounds S size := by
    have hle := @size_le_rounds S size hmax
    rcases Nat.lt_or_ge (rounds S size) 2 with hr | hr
    · have hone := Nat.mul_le_mul_right S.maxWrite (show rounds S size ≤ 1 by omega)
      omega
    · exact hr
  have hne : ((rounds S size : Nat) : Int) ≠ 1 := by omega
  obtain ⟨n, hn⟩ : ∃ n, rounds S size = n + 1 := ⟨rounds S size - 1, by omega⟩
  let tx₁ := tx.put .primary oid (·.setXattrs e.metadata)
  have hloop : writeLoop S oid buffer size (rounds S size) e.dataOk (n + 1) 0 tx₁ = some r := by
    rw [saveMailWriteAppend_rounds hmax (by omega) hint, if_pos hmeta] at h
    rw [← hn]
    exact h
  -- the first round appends a whole chunk
  rw [writeLoop, if_neg hne] at hloop
  dsimp only at hloop
  rw [Nat.zero_add, Nat.one_mul, if_neg (show ¬ size < S.maxWrite by omega), Nat.zero_mul,
    Nat.zero_add, if_neg (show ¬ size < S.maxWrite by omega)] at hloop
  by_cases hbuf : buffer.length < S.maxWrite
  · rw [if_pos hbuf] at hloop
    cases hloop
  · rw [if_neg hbuf, if_pos hok] at hloop
    refine Nat.lt_of_lt_of_le ?_ (writeLoop_grows hne hloop)
    simp only [SaveTx.stored, put_objs_self, Option.getD_some, MailObj.append, MailObj.setXattrs,
      List.drop_zero, List.length_append, List.length_take, tx₁]
    omega

/-- **Streaming a mail of one chunk** leaves the last call before what it does not cover. -/
theorem savedData_streamed_chunk (hw : S.writeChunks = true) (hm : AllDone m)
    (hpos : m.bytes ≠ []) (hint : m.bytes.length < 2 ^ 31)
    (hsize : (m.bytes.length : Int) ≤ S.maxObjectSize) (hnew : tx.objs .primary m.oid = none)
    {last : Bytes × Bool} (hlast : m.pieces.getLast? = some last)
    (hle : m.bytes.length ≤ S.maxWrite) :
    savedData S tx m = some (last.1 ++ m.bytes.drop last.1.length) := by
  obtain ⟨tx₁, tx₂, h₁, h₂, heq⟩ := @savedData_eq S tx m hm hpos hint hsize
  obtain ⟨hbuf, hdata⟩ := @streamed_chunks S tx₁ m hw hm (by rw [h₁]; exact hnew) last hlast
  obtain ⟨tx', hrun, hobj⟩ := @saveMailWriteAppend_one S m.fin m.oid last.1 m.bytes.length
    (List.length_pos_iff.mpr hpos) hint hle hm.metadata (hm.data 0) tx₂
  have hstored : (tx₂.stored m.oid).data = m.bytes := by
    rw [← hdata]
    unfold SaveTx.stored
    rw [h₂]
  rw [heq, hbuf, hrun, Option.bind_some, hobj, hstored]

/-- **Streaming a longer mail** leaves an object that is too long, if the finish returns. -/
theorem savedData_streamed_long (hw : S.writeChunks = true) (hm : AllDone m)
    (hpos : m.bytes ≠ []) (hint : m.bytes.length < 2 ^ 31)
    (hsize : (m.bytes.length : Int) ≤ S.maxObjectSize) (hnew : tx.objs .primary m.oid = none)
    {last : Bytes × Bool} (hlast : m.pieces.getLast? = some last)
    (hlt : S.maxWrite < m.bytes.length) : savedData S tx m ≠ some m.bytes := by
  intro h
  obtain ⟨tx₁, tx₂, h₁, h₂, heq⟩ := @savedData_eq S tx m hm hpos hint hsize
  obtain ⟨hbuf, hdata⟩ := @streamed_chunks S tx₁ m hw hm (by rw [h₁]; exact hnew) last hlast
  have hstored : (tx₂.stored m.oid).data = m.bytes := by
    rw [← hdata]
    unfold SaveTx.stored
    rw [h₂]
  rw [heq] at h
  obtain ⟨r, hrun, hobj⟩ := Option.bind_eq_some_iff.mp h
  obtain ⟨o, ho, hod⟩ := Option.map_eq_some_iff.mp hobj
  have hmax : 0 < S.maxWrite := by
    rcases Nat.eq_zero_or_pos S.maxWrite with h0 | h0
    · simp [saveMailWriteAppend, h0] at hrun
    · exact h0
  have hgrows := saveMailWriteAppend_many hmax hint hlt hm.metadata (hm.data 0) hrun
  rw [hstored] at hgrows
  have hr : (r.2.stored m.oid).data = m.bytes := by
    simp [SaveTx.stored, ho, hod]
  rw [hr] at hgrows
  exact Nat.lt_irrefl _ hgrows

end Streamed

/-! ## 5. Agreement -/

/-- **Both ways store the mail just if it is at most one chunk and begins with the bytes of the
    last call.** -/
theorem saves_agree_iff (S : SaveSetup) (tx : SaveTx) (m : SavedMail) (hm : AllDone m)
    (hpos : m.bytes ≠ []) (hsize : (m.bytes.length : Int) ≤ S.maxObjectSize)
    (hint : S.maxObjectSize < 2 ^ 31) (hnew : tx.objs .primary m.oid = none) :
    (∀ b, savedData { S with writeChunks := b } tx m = some m.bytes) ↔
      m.bytes.length ≤ S.maxWrite ∧
        ∀ last, m.pieces.getLast? = some last → last.1 <+: m.bytes := by
  have hint' : m.bytes.length < 2 ^ 31 := by omega
  have hne : m.pieces ≠ [] := by
    intro h
    refine hpos ?_
    unfold SavedMail.bytes
    rw [h]
    rfl
  obtain ⟨last, hlast⟩ : ∃ last, m.pieces.getLast? = some last :=
    ⟨_, List.getLast?_eq_some_getLast hne⟩
  -- streaming a mail of one chunk
  have hchunk := fun hle => @savedData_streamed_chunk { S with writeChunks := true } tx m rfl hm
    hpos hint' hsize hnew last hlast hle
  constructor
  · intro h
    have hon := h true
    have hle : m.bytes.length ≤ S.maxWrite := by
      rcases Nat.lt_or_ge S.maxWrite m.bytes.length with hlt | hge
      · exact absurd hon (savedData_streamed_long rfl hm hpos hint' hsize hnew hlast hlt)
      · exact hge
    refine ⟨hle, fun last' hlast' => ?_⟩
    rw [hlast] at hlast'
    cases hlast'
    rw [hchunk hle] at hon
    exact ⟨_, Option.some.inj hon⟩
  · rintro ⟨hle, hprefix⟩ b
    cases b with
    | false =>
        have hmax : 0 < S.maxWrite := Nat.lt_of_lt_of_le (List.length_pos_iff.mpr hpos) hle
        exact savedData_buffered rfl hmax hm hpos hint' hsize hnew
    | true =>
        rw [hchunk hle]
        obtain ⟨rest, hrest⟩ := hprefix last hlast
        rw [← hrest, List.drop_left]

/-- A mail that comes in the given calls. -/
def mailInCalls (calls : List Bytes) : SavedMail where
  oid := "0a"
  conts := [(calls.map fun bs => (bs, true), true)]

theorem mailInCalls_done (calls : List Bytes) : AllDone (mailInCalls calls) := by
  refine ⟨rfl, ?_, rfl, ?_, rfl, fun _ => rfl⟩
  · intro c hc
    rw [List.mem_singleton.mp hc]
  · intro p hp
    simp only [mailInCalls, SavedMail.pieces, List.flatMap_singleton, List.append_nil,
      List.mem_map] at hp
    obtain ⟨bs, _, rfl⟩ := hp
    rfl

/-- A mail in one call is stored both ways. -/
theorem one_call_agrees :
    savedData { plainSave with writeChunks := true } (.start (fun _ _ => none) 1 [])
        (mailInCalls [[1, 2]]) = some [1, 2] ∧
      savedData { plainSave with writeChunks := false } (.start (fun _ _ => none) 1 [])
        (mailInCalls [[1, 2]]) = some [1, 2] := by
  have h := (saves_agree_iff plainSave (.start (fun _ _ => none) 1 []) (mailInCalls [[1, 2]])
    (mailInCalls_done _) (by decide) (by decide) (by decide) rfl).mpr ⟨by decide, fun last hl => by
      cases hl
      exact List.prefix_refl _⟩
  exact ⟨h true, h false⟩

/-- A mail of two calls: streaming stores the second one twice. -/
theorem two_calls_differ :
    (AllDone (mailInCalls [[1], [2]]) ∧ (mailInCalls [[1], [2]]).bytes = [1, 2]) ∧
      savedData { plainSave with writeChunks := true } (.start (fun _ _ => none) 1 [])
        (mailInCalls [[1], [2]]) = some [2, 2] ∧
      savedData { plainSave with writeChunks := false } (.start (fun _ _ => none) 1 [])
        (mailInCalls [[1], [2]]) = some [1, 2] := by
  refine ⟨⟨mailInCalls_done _, rfl⟩, ?_, ?_⟩
  · exact @savedData_streamed_chunk { plainSave with writeChunks := true } _
      (mailInCalls [[1], [2]]) rfl (mailInCalls_done _) (by decide) (by decide) (by decide) rfl
      ([2], true) rfl (by decide)
  · exact savedData_buffered rfl (by decide) (mailInCalls_done _) (by decide) (by decide)
      (by decide) rfl

end DovecotCeph
