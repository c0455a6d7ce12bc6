/-
  File:      DovecotCeph/Librmb/UnknownOps.lean
  Subject:   A round of `delete_with_save_log` (rmb-commands.cpp) on the objects of the cluster, and
             the lines whose operation the log does not know.

  Whatever is neither a save nor a copy is undone by a move, to wherever the parser got; that it
  has failed is not asked for.
  * `replayEntry_revert`: on connection, count and moved entries a round is that of the replay;
  * `request_keeps_iff`: which moves leave no trace;
  * `UnknownLine.entry_source`: to which object such a line moves;
  * **`unknown_op_harmless_iff`**: when a line with an unknown operation changes nothing.
-/
import DovecotCeph.Librmb.StorageMove

namespace DovecotCeph

/-! ## 1. A round -/

/-- What the cluster answers in a round. -/
structure ReplayEnv where
  conn : Conn := .opens
  delete : Outcome := .done
  move : MoveOutcomes := {}

/-- The storage of the function with the moved entries, and the objects. -/
structure ReplayState where
  rev : RevertState
  objs : ObjectStore

/-- The move an entry is undone by: the metadata are appended to the buffers without a NUL. -/
def SaveLogEntry.request (e : SaveLogEntry) : MoveRequest where
  srcOid := e.oid
  srcNs := cBytes e.ns
  destOid := e.srcOid
  destNs := cBytes e.srcNs
  toUpdate := e.metadata.map fun p => ⟨p.1, p.2⟩
  deleteSource := true

namespace ReplayState

/-- The storage as `move` sees it, with one io context. -/
def storage (st : ReplayState) : MoveStorage where
  ready := st.rev.ready
  ctxs := ⟨fun _ => ⟨st.rev.s.ioPool, st.rev.s.ioNspace⟩, 1⟩
  io := 0
  objs := st.objs
  created := Nat.one_pos

/-- `RadosStorageImpl::delete_mail`. -/
def deleteMail (env : ReplayEnv) (oid : ByteString) (st : ReplayState) : Int × ObjectStore :=
  if !st.rev.ready || oid.isEmpty then (-1, st.objs)
  else removeObject st.objs ⟨⟨st.rev.s.ioPool, st.rev.s.ioNspace⟩, oid⟩ env.delete

/-- One entry, with its pool open. -/
def replayEntry (env : ReplayEnv) (e : SaveLogEntry) (st : ReplayState) : ReplayState :=
  let st := { st with rev := st.rev.setNamespace e.ns }
  if e.deletes then
    let r := st.deleteMail env e.oid
    ⟨if r.1 < 0 then st.rev else { st.rev with count := st.rev.count + 1 }, r.2⟩
  else
    let r := st.storage.move e.request env.move
    let rev := { st.rev.setNamespace (r.2.ctxs.place r.2.io).ns with count := st.rev.count + 1 }
    ⟨if r.1 < 0 then rev
      else { rev with
        moved := Function.update rev.moved e.srcUser (rev.moved e.srcUser ++ [e]) }, r.2.objs⟩

end ReplayState

/-- How a round ends: the loop goes on, it breaks, the function returns, or an exception leaves
    it. -/
inductive RoundEnd where
  | next
  | breaks
  | returns
  | throws
  deriving DecidableEq

/-- **A round of the loop**: how it ends, the stream behind the line, and the state. -/
def replayRound (env : ReplayEnv) (is : Lib.InStream UInt8) (st : ReplayState) :
    RoundEnd × Lib.InStream UInt8 × ReplayState :=
  let r := readEntry is
  if r.2.eof || r.2.fail then (.breaks, r.2, st)
  else
    let o := st.rev.switchPool env.conn r.1.pool
    match o.1 with
    | none => (.throws, r.2, { st with rev := o.2 })
    | some code =>
      if code < 0 then
        (.returns, r.2, { st with rev := { o.2 with cluster := o.2.cluster.deinit } })
      else (.next, r.2, { st with rev := o.2 }.replayEntry env r.1)

/-! ## 2. Lines -/

/-- A move as the log writes it: namespace, oid and user on the left of the semicolon, pairs on the
    right. -/
def WellFormedMv (op : ByteString) : Prop :=
  ∃ pos, op.idxOf? ';'.toUInt8 = some pos ∧
    (∃ ns oid user more, itemsOf ':' (op.take pos) = bytesOf "mv" :: ns :: oid :: user :: more) ∧
    (fromStrings (itemsOf ':' (op.drop (pos + 1)))).1 = true

/-- A line of four fields with an operation that is none of the three. -/
structure UnknownLine where
  text : ByteString
  op : ByteString
  pool : ByteString
  ns : ByteString
  oid : ByteString
  oneLine : newline ∉ text
  fields : itemsOf ',' text = [op, pool, ns, oid]
  unknown : op ≠ SaveLogEntry.opSave ∧ op ≠ SaveLogEntry.opCpy ∧ ¬ WellFormedMv op

namespace UnknownLine

/-- What is read of the line. -/
def entry (u : UnknownLine) : SaveLogEntry :=
  (SaveLogEntry.parseMvOp { oid := u.oid, ns := u.ns, pool := u.pool, op := u.op }).2

/-- The round of the line: behind its newline comes `rest`, or it ends with the file. -/
def round (u : UnknownLine) (rest : Option ByteString) (env : ReplayEnv) (st : ReplayState) :
    ReplayState :=
  (replayRound env (.opened (u.text ++ rest.elim [] (newline :: ·))) st).2.2

/-- **The line is harmless**: objects and moved entries are as before. -/
def Harmless (u : UnknownLine) (rest : Option ByteString) (env : ReplayEnv) (st : ReplayState) :
    Prop :=
  (u.round rest env st).objs = st.objs ∧ (u.round rest env st).rev.moved = st.rev.moved

end UnknownLine

/-- A move that leaves no trace: it stops, or it ends with the copy, which was there before. -/
def MoveRequest.Keeps (m : MoveRequest) (env : MoveOutcomes) (st : MoveStorage) : Prop :=
  m.Stops env st ∨ (m.srcNs ≠ m.destNs ∧ env.remove ≠ .done ∧
    ∃ o, st.objs (st.source m) = some o ∧
      st.objs (st.dest m) = some (o.setxattrs m.xattrs))

/-! ## 3. The round and the replay -/

section Round

variable {env : ReplayEnv} {e : SaveLogEntry} {st : ReplayState}

/-- What the answers of the cluster come to in a state, call by call. -/
def ReplayState.answers (st : ReplayState) (env : ReplayEnv) (e : SaveLogEntry) : RevertEnv :=
  let st := { st with rev := st.rev.setNamespace e.ns }
  let m := e.request
  let s := st.storage
  let r := aioOperate env.move (m.writeOp (s.source m)) st.objs (s.dest m)
  { delete := (st.deleteMail env e.oid).1
    stat := statObject st.objs (s.source m) env.move.stat
    operate := r.1
    remove := (removeObject r.2 (s.source m) env.move.remove).1 }

/-- The namespace behind a move. -/
theorem move_namespace (m : MoveRequest) (env : MoveOutcomes) (st : MoveStorage) :
    ((st.move m env).2.ctxs.place (st.move m env).2.io).ns =
      if st.ready = true ∧ (m.srcNs ≠ m.destNs ∨ 0 ≤ statObject st.objs (st.source m) env.stat)
        then m.destNs else (st.ctxs.place st.io).ns := by
  obtain ⟨hsource, -⟩ := contexts_objects m st
  unfold MoveStorage.move
  dsimp only
  rw [hsource]
  cases st.ready with
  | false => simp
  | true =>
      rw [if_neg (by simp)]
      by_cases hd : m.srcNs ≠ m.destNs
      · simp [hd, IoContexts.setNamespace]
      · by_cases hstat : statObject st.objs (st.source m) env.stat < 0
        · simp [hd, hstat, Int.not_le.mpr hstat]
        · simp [hd, hstat, Int.not_lt.mp hstat, IoContexts.setNamespace]

/-- The two models of the move agree on code and namespace. -/
theorem move_revert (env : ReplayEnv) (e : SaveLogEntry) (st : ReplayState) {a : RevertEnv}
    (hstat : a.stat = statObject st.objs (st.storage.source e.request) env.move.stat)
    (hoperate : a.operate = (aioOperate env.move (e.request.writeOp (st.storage.source e.request))
      st.objs (st.storage.dest e.request)).1)
    (hremove : a.remove = (removeObject (aioOperate env.move
      (e.request.writeOp (st.storage.source e.request)) st.objs (st.storage.dest e.request)).2
      (st.storage.source e.request) env.move.remove).1) :
    (st.rev.move a e).1 = (st.storage.move e.request env.move).1 ∧
      (st.rev.move a e).2.2 = st.rev.setNamespace
        ((st.storage.move e.request env.move).2.ctxs.place
          (st.storage.move e.request env.move).2.io).ns := by
  have hsame : st.rev.setNamespace st.rev.s.ioNspace = st.rev := rfl
  have hnow : (st.storage.ctxs.place st.storage.io).ns = st.rev.s.ioNspace := rfl
  have hready' : st.storage.ready = st.rev.ready := rfl
  have hobjs : st.storage.objs = st.objs := rfl
  have hdest : e.request.destNs = cBytes e.srcNs := rfl
  rw [move_namespace, hnow, hready', hobjs, hdest]
  unfold RevertState.move
  cases hready : st.rev.ready with
  | false => simp [MoveStorage.move, hready', hready, hsame]
  | true =>
      have hcode := congrArg Prod.fst (@move_eq e.request env.move st.storage hready)
      dsimp only at hcode
      rw [hcode, hobjs, ← hstat, if_neg (by simp)]
      by_cases hd : e.request.srcNs ≠ e.request.destNs
      · have hns : true = true ∧ (e.request.srcNs ≠ cBytes e.srcNs ∨ 0 ≤ a.stat) := ⟨rfl, .inl hd⟩
        rw [if_pos hns, if_pos (show cBytes e.ns ≠ cBytes e.srcNs from hd), if_pos hd,
          if_neg (Int.lt_irrefl 0), ← hoperate]
        refine ⟨?_, rfl⟩
        by_cases hzero : a.operate = 0
        · rw [if_pos hzero, if_pos ⟨rfl, hd, hzero⟩, hremove]
        · rw [if_neg hzero, if_neg fun h => hzero h.2.2, hoperate]
      · have hns : (true = true ∧ (e.request.srcNs ≠ cBytes e.srcNs ∨ 0 ≤ a.stat)) ↔
            0 ≤ a.stat := by
          rw [eq_self_iff_true, true_and]
          exact or_iff_right hd
        rw [if_congr hns rfl rfl, if_neg (show ¬ cBytes e.ns ≠ cBytes e.srcNs from hd), if_neg hd]
        by_cases hneg : a.stat < 0
        · rw [if_pos hneg, if_pos hneg, if_neg (Int.not_le.mpr hneg)]
          exact ⟨rfl, hsame.symm⟩
        · rw [if_neg hneg, if_neg hneg, if_pos (Int.not_lt.mp hneg)]
          refine ⟨?_, rfl⟩
          rw [if_neg fun h => hd h.2.1, ← hoperate]

/-- **A round is one of the replay**: connection, count and moved entries are what they are there
    with these answers. -/
theorem replayEntry_revert (env : ReplayEnv) (e : SaveLogEntry) (st : ReplayState) :
    (st.replayEntry env e).rev = (st.rev.undo (st.answers env e) e).2 := by
  unfold ReplayState.replayEntry RevertState.undo
  dsimp only
  by_cases hdel : e.deletes = true
  · rw [if_pos hdel, if_pos hdel]
    dsimp only
    have hcode : ((st.rev.setNamespace e.ns).deleteMail (st.answers env e) e.oid).1 =
        (ReplayState.deleteMail env e.oid ⟨st.rev.setNamespace e.ns, st.objs⟩).1 := by
      unfold RevertState.deleteMail ReplayState.answers ReplayState.deleteMail
      dsimp only
      split
      · rfl
      · rfl
    rw [hcode]
  · rw [if_neg hdel, if_neg hdel]
    dsimp only
    obtain ⟨hcode, hstate⟩ := @move_revert env e ⟨st.rev.setNamespace e.ns, st.objs⟩
      (st.answers env e) rfl rfl rfl
    dsimp only at hcode hstate
    rw [hcode, hstate]

end Round

/-! ## 4. Moves that leave no trace -/

section Keeps

variable {m : MoveRequest} {env : MoveOutcomes} {st : MoveStorage}

/-- **A move that deletes its source** fails and leaves the objects as they are exactly if it keeps
    them. -/
theorem request_keeps_iff (hdelete : m.deleteSource = true) :
    ((st.move m env).1 < 0 ∧ (st.move m env).2.objs = st.objs) ↔ m.Keeps env st := by
  by_cases hstops : m.Stops env st
  · exact iff_of_true (move_stops hstops) (.inl hstops)
  · obtain ⟨-, ⟨o, ho⟩, -⟩ := not_stops hstops
    by_cases hd : m.srcNs = m.destNs
    · obtain ⟨hcode, -⟩ := @move_rewrites m env st hd hstops
      refine iff_of_false (fun h => by omega) fun h => ?_
      rcases h with h | h
      · exact hstops h
      · exact h.1 hd
    · have heq := @move_copies m env st o hd hstops ho
      dsimp only at heq
      rw [hdelete, if_pos rfl] at heq
      cases hremove : env.remove with
      | failed e =>
          rw [hremove, Prod.mk.injEq] at heq
          obtain ⟨hcode, hobjs⟩ := heq
          rw [hcode, hobjs, Function.update_eq_self_iff]
          constructor
          · intro h
            exact .inr ⟨hd, by rw [hremove]; nofun, o, ho, h.2.symm⟩
          · intro h
            obtain ⟨-, -, o', ho', hthere⟩ := h.resolve_left hstops
            obtain rfl : o = o' := Option.some_inj.mp (ho.symm.trans ho')
            exact ⟨e.2, hthere.symm⟩
      | done =>
          rw [hremove, Prod.mk.injEq] at heq
          refine iff_of_false (fun h => by omega) fun h => ?_
          rcases h with h | h
          · exact hstops h
          · exact h.2.1 hremove

variable {e : SaveLogEntry}

/-- The storage a move of an entry works on. -/
def ReplayState.moveStorage (st : ReplayState) (ns : ByteString) : MoveStorage :=
  ReplayState.storage ⟨st.rev.setNamespace ns, st.objs⟩

/-- A move is not even entered among the moved entries exactly if it leaves no trace. -/
theorem replayEntry_keeps_iff (hdel : e.deletes = false) (env : ReplayEnv) (st : ReplayState) :
    ((st.replayEntry env e).objs = st.objs ∧ (st.replayEntry env e).rev.moved = st.rev.moved) ↔
      e.request.Keeps env.move (st.moveStorage e.ns) := by
  rw [← request_keeps_iff rfl]
  unfold ReplayState.replayEntry ReplayState.moveStorage
  dsimp only
  rw [hdel, if_neg Bool.false_ne_true]
  dsimp only
  generalize hmoved : (ReplayState.storage ⟨st.rev.setNamespace e.ns, st.objs⟩).move e.request
    env.move = r
  show r.2.objs = st.objs ∧ _ ↔ r.1 < 0 ∧ r.2.objs = st.objs
  by_cases hneg : r.1 < 0
  · rw [if_pos hneg, and_iff_right hneg]
    exact and_iff_left rfl
  · rw [if_neg hneg]
    refine iff_of_false (fun h => ?_) fun h => hneg h.1
    have hlist : Function.update st.rev.moved e.srcUser (st.rev.moved e.srcUser ++ [e]) e.srcUser =
        st.rev.moved e.srcUser := congrFun h.2 e.srcUser
    rw [Function.update_self] at hlist
    exact absurd hlist (by simp)

end Keeps

/-! ## 5. Unknown operations -/

namespace UnknownLine

variable (u : UnknownLine)

/-- The line is read. -/
theorem readEntry_eq (rest : ByteString) :
    readEntry (.opened (u.text ++ newline :: rest)) = (u.entry, .opened rest) := by
  unfold readEntry
  rw [Lib.getline_terminated u.oneLine]
  dsimp only
  rw [u.fields]
  rfl

/-- The parser leaves the fields of the line alone. -/
theorem entry_fields : u.entry.op = u.op ∧ u.entry.pool = u.pool ∧ u.entry.ns = u.ns := by
  have h := parseMvOp_fields { oid := u.oid, ns := u.ns, pool := u.pool, op := u.op }
  simp only [SaveLogEntry.fields, Prod.mk.injEq] at h
  exact ⟨h.1, h.2.1, h.2.2.1⟩

theorem entry_deletes : u.entry.deletes = false := by
  obtain ⟨hsave, hcpy, -⟩ := u.unknown
  unfold SaveLogEntry.deletes
  rw [u.entry_fields.1]
  simp [hsave, hcpy]

/-- **Where the move goes**: to no name at all, or, if only the metadata could not be parsed, to the
    one the operation gives. -/
theorem entry_source :
    (u.entry.srcNs = [] ∧ u.entry.srcOid = [] ∧ u.entry.metadata = []) ∨
      ∃ pos user more, u.op.idxOf? ';'.toUInt8 = some pos ∧
        itemsOf ':' (u.op.take pos) =
          bytesOf "mv" :: u.entry.srcNs :: u.entry.srcOid :: user :: more ∧
        (fromStrings (itemsOf ':' (u.op.drop (pos + 1)))).1 = false := by
  have hunknown := u.unknown.2.2
  unfold entry SaveLogEntry.parseMvOp
  dsimp only
  split
  case h_1 => exact .inl ⟨rfl, rfl, rfl⟩
  case h_2 => exact .inl ⟨rfl, rfl, rfl⟩
  case h_3 pos hpos =>
    split
    case h_2 => exact .inl ⟨rfl, rfl, rfl⟩
    case h_1 kind srcNs srcOid srcUser more hitems =>
      split
      case isTrue => exact .inl ⟨rfl, rfl, rfl⟩
      case isFalse hkind =>
        obtain rfl : kind = bytesOf "mv" := not_not.mp hkind
        refine .inr ⟨pos + 1, srcUser, more, hpos, hitems, ?_⟩
        by_contra htrue
        exact hunknown ⟨pos + 1, hpos, ⟨_, _, _, _, hitems⟩, by simpa using htrue⟩

/-- The condition under which a line with an unknown operation is harmless: where its pool can be
    opened, the move it is taken for leaves no trace. -/
def LeavesNoTrace (env : ReplayEnv) (st : ReplayState) : Prop :=
  ∀ code rev, st.rev.switchPool env.conn u.pool = (some code, rev) → 0 ≤ code →
    u.entry.request.Keeps env.move (ReplayState.moveStorage ⟨rev, st.objs⟩ u.ns)

/-- A line at the end of the file is not replayed, if no newline follows. -/
theorem round_last (env : ReplayEnv) (st : ReplayState) : u.round none env st = st := by
  have heof : (readEntry (.opened (u.text ++ []))).2.eof = true := by
    rw [List.append_nil]
    exact readEntry_rest u.oneLine
  unfold round replayRound
  dsimp only [Option.elim]
  rw [heof]
  rfl

end UnknownLine

/-- **Unknown operations**: a line is harmless exactly if it is the rest of the file, or its pool
    cannot be opened, or the move it is taken for leaves no trace. -/
theorem unknown_op_harmless_iff (u : UnknownLine) (rest : Option ByteString) (env : ReplayEnv)
    (st : ReplayState) :
    u.Harmless rest env st ↔ (rest.isSome = true → u.LeavesNoTrace env st) := by
  cases rest with
  | none =>
      refine iff_of_true ?_ nofun
      unfold UnknownLine.Harmless
      rw [u.round_last]
      exact ⟨rfl, rfl⟩
  | some rest =>
      have hmoved : (st.rev.switchPool env.conn u.pool).2.moved = st.rev.moved := by
        unfold RevertState.switchPool
        split
        · rfl
        · rfl
      rw [forall_prop_of_true (show (some rest).isSome = true from rfl)]
      unfold UnknownLine.Harmless UnknownLine.LeavesNoTrace UnknownLine.round replayRound
      dsimp only [Option.elim]
      rw [u.readEntry_eq]
      dsimp only
      rw [if_neg (by simp [Lib.InStream.opened]), u.entry_fields.2.1]
      rcases hswitch : st.rev.switchPool env.conn u.pool with ⟨code?, rev⟩
      rw [hswitch] at hmoved
      cases code? with
      | none => exact iff_of_true ⟨rfl, hmoved⟩ nofun
      | some code =>
          dsimp only
          by_cases hcode : code < 0
          · rw [if_pos hcode]
            refine iff_of_true ⟨rfl, hmoved⟩ fun c _ h hle => ?_
            cases h
            omega
          · rw [if_neg hcode]
            have hkeeps := replayEntry_keeps_iff u.entry_deletes env ⟨rev, st.objs⟩
            rw [show rev.moved = st.rev.moved from hmoved, u.entry_fields.2.2] at hkeeps
            rw [hkeeps]
            constructor
            · intro h c _ heq _
              cases heq
              exact h
            · exact fun h => h code rev rfl (Int.not_lt.mp hcode)

/-- A move whose metadata is no pair. -/
def brokenMove : UnknownLine where
  text := bytesOf "mv:alice_u:0a:alice;bad,mail_storage,bob_u,0b"
  op := bytesOf "mv:alice_u:0a:alice;bad"
  pool := bytesOf "mail_storage"
  ns := bytesOf "bob_u"
  oid := bytesOf "0b"
  oneLine := by decide
  fields := by decide +kernel
  unknown := by
    refine ⟨by decide, by decide, fun h => ?_⟩
    obtain ⟨pos, hpos, -, hpairs⟩ := h
    have hidx : (bytesOf "mv:alice_u:0a:alice;bad").idxOf? ';'.toUInt8 = some 19 := by
      decide +kernel
    obtain rfl : 19 = pos := Option.some_inj.mp (hidx.symm.trans hpos)
    exact absurd hpairs (by decide +kernel)

/-- A mail of Bob's. -/
def bobsMail : ObjectAt := ⟨⟨bytesOf "mail_storage", bytesOf "bob_u"⟩, bytesOf "0b"⟩

/-- The state before the first line. -/
def beforeReplay : ReplayState where
  rev := ⟨Cluster.unused, .new, 0, fun _ => []⟩
  objs obj := if obj = bobsMail then some ⟨bytesOf "Subject: hi", fun _ => none⟩ else none

/-- The line takes Bob's mail away from him. -/
theorem broken_move_replayed :
    ¬ brokenMove.Harmless (some []) {} beforeReplay ∧
      ((brokenMove.round (some []) {} beforeReplay).objs bobsMail).isNone = true := by
  have hgone : ((brokenMove.round (some []) {} beforeReplay).objs bobsMail).isNone = true := by
    decide +kernel
  refine ⟨fun h => ?_, hgone⟩
  rw [h.1] at hgone
  exact absurd hgone (by decide +kernel)

end DovecotCeph
