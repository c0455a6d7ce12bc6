/-
  File:      DovecotCeph/Librmb/RevertLog.lean
  Subject:   `delete_with_save_log` (rmb-commands.cpp): the entries of a save log are undone one by
             one, each in its pool and namespace, over one storage of the function's own.

  A change of the pool goes through `close_connection` and `open_connection`. Where someone else
  keeps the cluster connected, the latter finds it connected and changes nothing.
  * `revertLoop_alone`, `revertLoop_shared`: where the entries of a log act, with and without
    another reference to the cluster;
  * **`revert_in_place_iff`**: for which logs every entry acts in its pool and namespace.
-/
import DovecotCeph.Librmb.SaveLog
import DovecotCeph.Librmb.Cluster

namespace DovecotCeph

/-! ## 1. The function -/

/-- Pool and namespace an operation is issued in. -/
structure Place where
  pool : ByteString
  ns : ByteString
  deriving DecidableEq, Repr

/-- The storage of the function, the cluster, its count, and the moved entries by user. -/
structure RevertState where
  cluster : Cluster
  s : StorageConn ByteString
  count : Int := 0
  moved : ByteString → List SaveLogEntry := fun _ => []

/-- What the cluster answers for one entry: to a connection attempt, a deletion, and the parts of a
    move. -/
structure RevertEnv where
  conn : Conn := .opens
  delete : Int := 0
  stat : Int := 0
  operate : Int := 0
  remove : Int := 0

namespace SaveLogEntry

/-- The entry is undone by a deletion. -/
def deletes (e : SaveLogEntry) : Bool := e.op = opSave || e.op = opCpy

end SaveLogEntry

namespace RevertState

/-- The storage can be worked with. -/
def ready (st : RevertState) : Bool := st.cluster.connected && st.s.ioCtxCreated

/-- Before an entry: another pool than the last one is opened. The code is that of
    `open_connection`, zero where nothing is opened. -/
def switchPool (o : Conn) (pool : ByteString) (st : RevertState) : Option Int × RevertState :=
  if st.s.poolName = pool then (some 0, st)
  else
    let r := st.s.open pool o (st.s.close st.cluster)
    (r.1, { st with cluster := r.2.1, s := r.2.2 })

/-- `RadosStorageImpl::set_namespace`. -/
def setNamespace (ns : ByteString) (st : RevertState) : RevertState :=
  { st with s := { st.s with ioNspace := ns } }

/-- `RadosStorageImpl::delete_mail`: code, and where the deletion is issued. -/
def deleteMail (env : RevertEnv) (oid : ByteString) (st : RevertState) : Int × Option Place :=
  if !st.ready || oid.isEmpty then (-1, none)
  else (env.delete, some ⟨st.s.ioPool, st.s.ioNspace⟩)

/-- `RadosStorageImpl::move` of an entry: code, where the mail is taken from, and the storage, whose
    io context shares its namespace with the destination's. -/
def move (env : RevertEnv) (e : SaveLogEntry) (st : RevertState) :
    Int × Option Place × RevertState :=
  if !st.ready then (-1, none, st)
  else if cBytes e.ns ≠ cBytes e.srcNs then
    (if env.operate = 0 then env.remove else env.operate, some ⟨st.s.ioPool, cBytes e.ns⟩,
      st.setNamespace (cBytes e.srcNs))
  else
    let place := some ⟨st.s.ioPool, st.s.ioNspace⟩
    if env.stat < 0 then (env.stat, place, st)
    else (env.operate, place, st.setNamespace (cBytes e.srcNs))

/-- One entry, with its pool open. -/
def undo (env : RevertEnv) (e : SaveLogEntry) (st : RevertState) : Option Place × RevertState :=
  let st := st.setNamespace e.ns
  if e.deletes then
    let r := st.deleteMail env e.oid
    (r.2, if r.1 < 0 then st else { st with count := st.count + 1 })
  else
    let r := st.move env e
    let st := { r.2.2 with count := st.count + 1 }
    (r.2.1, if r.1 < 0 then st
      else { st with moved := Function.update st.moved e.srcUser (st.moved e.srcUser ++ [e]) })

end RevertState

/-- Where the entries acted, whether a connection attempt failed, and the state. -/
structure RevertRun where
  places : List (Option Place)
  failed : Bool
  st : RevertState

/-- The loop over the entries, from entry `i` on; `none` where an exception leaves it. -/
def revertLoop (env : Nat → RevertEnv) : Nat → List SaveLogEntry → RevertState → Option RevertRun
  | _, [], st => some ⟨[], false, st⟩
  | i, e :: es, st =>
    let o := st.switchPool (env i).conn e.pool
    match o.1 with
    | none => none
    | some code =>
      if code < 0 then some ⟨[], true, { o.2 with cluster := o.2.cluster.deinit }⟩
      else
        let u := o.2.undo (env i) e
        (revertLoop env (i + 1) es u.2).map fun r => { r with places := u.1 :: r.places }

/-- The entries of a log file as the loop reads them. -/
def entriesOf (file : ByteString) : List SaveLogEntry := ((readLog file).getD ([], .eof)).1

/-- `RmbCommands::delete_with_save_log` with a list for the moved items: code and run; the file may
    be missing. -/
def deleteWithSaveLog (file : Option ByteString) (env : Nat → RevertEnv) (c : Cluster) :
    Option (Int × RevertRun) :=
  match file with
  | none => some (-1, ⟨[], false, ⟨c, .new, 0, fun _ => []⟩⟩)
  | some text =>
    (revertLoop env 0 (entriesOf text) ⟨c, .new, 0, fun _ => []⟩).map fun r =>
      if r.failed then (-1, r)
      else (r.st.count,
        { r with st := { r.st with cluster := (r.st.s.close r.st.cluster).deinit } })

/-! ## 2. Where entries act -/

/-- An entry acts where it says, as far as it decides that itself: an oid is given if it is to be
    deleted, and the namespace of a move is not cut, or does not differ from the other one. -/
def SaveLogEntry.Actable (e : SaveLogEntry) : Prop :=
  if e.deletes then e.oid ≠ [] else cBytes e.ns = e.ns ∨ cBytes e.ns = cBytes e.srcNs

instance (e : SaveLogEntry) : Decidable e.Actable :=
  inferInstanceAs (Decidable (if e.deletes then _ else _))

/-- The place an entry names. -/
def SaveLogEntry.place (e : SaveLogEntry) : Option Place := some ⟨e.pool, e.ns⟩

/-- The storage is open for `pool`, and `others` further references to the cluster are held. -/
structure OpenFor (pool : ByteString) (others : Nat) (st : RevertState) : Prop where
  connected : st.cluster.connected = true
  refCount : st.cluster.refCount = others + 1
  created : st.s.ioCtxCreated = true
  poolName : st.s.poolName = pool
  ioPool : st.s.ioPool = pool

section Places

variable {st : RevertState} {e : SaveLogEntry} {pool : ByteString} {others : Nat}

theorem OpenFor.ready (h : OpenFor pool others st) : st.ready = true := by
  simp [RevertState.ready, h.connected, h.created]

/-- Undoing an entry leaves the connection as it is. -/
theorem OpenFor.undo (h : OpenFor pool others st) (env : RevertEnv) (e : SaveLogEntry) :
    OpenFor pool others (st.undo env e).2 := by
  have hset : ∀ {st : RevertState} (ns : ByteString), OpenFor pool others st →
      OpenFor pool others (st.setNamespace ns) :=
    fun ns h => ⟨h.connected, h.refCount, h.created, h.poolName, h.ioPool⟩
  have hmove : ∀ {st : RevertState}, OpenFor pool others st →
      OpenFor pool others (st.move env e).2.2 := by
    intro st h
    unfold RevertState.move
    split
    · exact h
    · split
      · exact hset _ h
      · dsimp only
        split
        · exact h
        · exact hset _ h
  unfold RevertState.undo
  dsimp only
  split
  · split
    · exact hset _ h
    · exact ⟨h.connected, h.refCount, h.created, h.poolName, h.ioPool⟩
  · have hm := hmove (hset e.ns h)
    split
    · exact ⟨hm.connected, hm.refCount, hm.created, hm.poolName, hm.ioPool⟩
    · exact ⟨hm.connected, hm.refCount, hm.created, hm.poolName, hm.ioPool⟩

/-- **Where an entry acts**: in the open pool, whatever its own is. -/
theorem OpenFor.undo_place (h : OpenFor pool others st) (env : RevertEnv) (e : SaveLogEntry) :
    (st.undo env e).1 = e.place ↔ pool = e.pool ∧ e.Actable := by
  have hready : (st.setNamespace e.ns).ready = true := h.ready
  have hpool : (st.setNamespace e.ns).s.ioPool = pool := h.ioPool
  have hns : (st.setNamespace e.ns).s.ioNspace = e.ns := rfl
  unfold RevertState.undo SaveLogEntry.Actable SaveLogEntry.place
  dsimp only
  by_cases hd : e.deletes = true
  · rw [if_pos hd, if_pos hd, RevertState.deleteMail, hready, hpool, hns]
    cases hoid : e.oid with
    | nil => simp
    | cons b bs => simp
  · rw [if_neg hd, if_neg hd, RevertState.move, hready]
    by_cases hne : cBytes e.ns ≠ cBytes e.srcNs
    · rw [if_neg (by simp), if_pos hne, hpool]
      simp [hne]
    · rw [if_neg (by simp), if_neg hne, hpool, hns]
      have heq : cBytes e.ns = cBytes e.srcNs := not_not.mp hne
      dsimp only
      split <;> simp [heq]

/-- The first pool is opened, if it has a name. -/
theorem switchPool_new (c : Cluster) (hpool : pool ≠ []) :
    ∃ st, RevertState.switchPool .opens pool ⟨c, .new, 0, fun _ => []⟩ = (some 0, st) ∧
      OpenFor pool c.refCount st := by
  have hname : ¬ (StorageConn.new : StorageConn ByteString).poolName = pool :=
    fun h => hpool h.symm
  have hclosed : (c.connected && (StorageConn.new : StorageConn ByteString).ioCtxCreated) =
      false := Bool.and_false _
  refine ⟨⟨c.init.connect, ⟨true, pool, pool, default⟩, 0, fun _ => []⟩, ?_,
    ⟨c.connect_init_connected, rfl, rfl, rfl, rfl⟩⟩
  rw [RevertState.switchPool, if_neg hname]
  show ((StorageConn.open pool .opens c StorageConn.new).1, _) = _
  have hopen := @open_opens ByteString _ pool c .new hclosed
  rw [show StorageConn.close StorageConn.new c = c from rfl, hopen]

/-- Without another reference a change of the pool is a new connection. -/
theorem OpenFor.switchPool_alone (h : OpenFor pool 0 st) (pool' : ByteString) :
    ∃ st', st.switchPool .opens pool' = (some 0, st') ∧ OpenFor pool' 0 st' := by
  by_cases hp : st.s.poolName = pool'
  · obtain rfl : pool = pool' := h.poolName.symm.trans hp
    exact ⟨st, by rw [RevertState.switchPool, if_pos hp], h⟩
  · have hclose : st.s.close st.cluster = Cluster.unused := by
      rw [StorageConn.close, if_pos h.created, Cluster.deinit, dif_neg]
      rw [h.refCount]
      exact Nat.lt_irrefl 1
    have hopen := @open_opens ByteString _ pool' Cluster.unused st.s rfl
    refine ⟨{ st with cluster := Cluster.unused.init.connect,
                      s := ⟨true, pool', pool', default⟩ }, ?_,
      ⟨Cluster.unused.connect_init_connected, rfl, rfl, rfl, rfl⟩⟩
    rw [RevertState.switchPool, if_neg hp, hclose, hopen]

/-- With another reference the first change of the pool is none. -/
theorem OpenFor.switchPool_shared (h : OpenFor pool (others + 1) st) {pool' : ByteString}
    (hne : pool ≠ pool') :
    ∃ st', st.switchPool .opens pool' = (some 1, st') ∧ OpenFor pool others st' := by
  have hp : ¬ st.s.poolName = pool' := fun hp => hne (h.poolName.symm.trans hp)
  have hclose : st.s.close st.cluster = st.cluster.deinit := by
    rw [StorageConn.close, if_pos h.created]
  have hconn : st.cluster.deinit.connected = true := by
    rw [Cluster.deinit_connected, h.connected, h.refCount]
    simp
  refine ⟨{ st with cluster := st.cluster.deinit }, ?_,
    ⟨hconn, ?_, h.created, h.poolName, h.ioPool⟩⟩
  · rw [RevertState.switchPool, if_neg hp, hclose, open_connected hconn h.created]
  · rw [Cluster.deinit_refCount, h.refCount]
    rfl

theorem OpenFor.switchPool_same (h : OpenFor pool others st) (o : Conn) :
    st.switchPool o pool = (some 0, st) := by
  rw [RevertState.switchPool, if_pos h.poolName]

end Places

/-! ## 3. Logs -/

/-- The same answers, with all connection attempts successful. -/
def connecting (env : Nat → RevertEnv) (i : Nat) : RevertEnv := { env i with conn := .opens }

section Logs

variable {env : Nat → RevertEnv} {st : RevertState} {pool : ByteString} {others : Nat}
  {es : List SaveLogEntry}

/-- If connections open, the loop reaches the end of the log. -/
theorem revertLoop_done (es : List SaveLogEntry) (i : Nat) (st : RevertState) :
    ∃ run, revertLoop (connecting env) i es st = some run ∧ run.failed = false := by
  induction es generalizing i st with
  | nil => exact ⟨_, rfl, rfl⟩
  | cons e es ih =>
      have hcode : ∃ code st', st.switchPool .opens e.pool = (some code, st') ∧ ¬ code < 0 := by
        unfold RevertState.switchPool StorageConn.open
        split
        · exact ⟨0, _, rfl, Int.lt_irrefl 0⟩
        · split
          · exact ⟨1, _, rfl, by decide⟩
          · exact ⟨0, _, rfl, Int.lt_irrefl 0⟩
      obtain ⟨code, st', hswitch, hnonneg⟩ := hcode
      obtain ⟨run, hrun, hfailed⟩ := ih (i + 1) (st'.undo (connecting env i) e).2
      refine ⟨{ run with places := (st'.undo (connecting env i) e).1 :: run.places }, ?_, hfailed⟩
      rw [revertLoop]
      dsimp only [connecting] at hrun ⊢
      rw [hswitch]
      dsimp only
      rw [if_neg hnonneg, hrun]
      rfl

/-- One entry, then the rest. -/
theorem revertLoop_cons {e : SaveLogEntry} {i : Nat} {code : Int} {st' : RevertState}
    (hcode : 0 ≤ code) (hswitch : st.switchPool .opens e.pool = (some code, st'))
    {run : RevertRun}
    (hrun : revertLoop (connecting env) (i + 1) es (st'.undo (connecting env i) e).2 =
      some run) :
    revertLoop (connecting env) i (e :: es) st =
      some { run with places := (st'.undo (connecting env i) e).1 :: run.places } := by
  rw [revertLoop]
  dsimp only [connecting] at hrun ⊢
  rw [hswitch]
  dsimp only
  rw [if_neg (Int.not_lt.mpr hcode), hrun]
  rfl

/-- **Alone on the cluster** every entry acts in its pool. -/
theorem revertLoop_alone (h : OpenFor pool 0 st) (es : List SaveLogEntry) (i : Nat) :
    ∃ run, revertLoop (connecting env) i es st = some run ∧ run.failed = false ∧
      (run.places = es.map SaveLogEntry.place ↔ ∀ e ∈ es, e.Actable) := by
  induction es generalizing i pool st with
  | nil => exact ⟨_, rfl, rfl, iff_of_true rfl nofun⟩
  | cons e es ih =>
      obtain ⟨st', hswitch, hopen⟩ := h.switchPool_alone e.pool
      obtain ⟨run, hrun, hfailed, hplaces⟩ := ih (hopen.undo (connecting env i) e) (i + 1)
      refine ⟨_, revertLoop_cons (Int.le_refl 0) hswitch hrun, hfailed, ?_⟩
      rw [List.map_cons, List.cons_eq_cons, hopen.undo_place, hplaces, List.forall_mem_cons,
        eq_self_iff_true, true_and]

/-- **With another reference** the entries act in the first pool. -/
theorem revertLoop_shared (h : OpenFor pool (others + 1) st) (es : List SaveLogEntry) (i : Nat) :
    ∃ run, revertLoop (connecting env) i es st = some run ∧ run.failed = false ∧
      (run.places = es.map SaveLogEntry.place ↔ ∀ e ∈ es, e.pool = pool ∧ e.Actable) := by
  induction es generalizing i st with
  | nil => exact ⟨_, rfl, rfl, iff_of_true rfl nofun⟩
  | cons e es ih =>
      by_cases hp : pool = e.pool
      · subst hp
        obtain ⟨run, hrun, hfailed, hplaces⟩ := ih (h.undo (connecting env i) e) (i + 1)
        refine ⟨_, revertLoop_cons (Int.le_refl 0) (h.switchPool_same .opens) hrun, hfailed, ?_⟩
        rw [List.map_cons, List.cons_eq_cons, h.undo_place, hplaces, List.forall_mem_cons]
      · -- the pool stays, and the entry acts in it
        obtain ⟨st', hswitch, hopen⟩ := h.switchPool_shared hp
        obtain ⟨run, hrun, hfailed⟩ := @revertLoop_done env es (i + 1)
          (st'.undo (connecting env i) e).2
        refine ⟨_, revertLoop_cons (by decide) hswitch hrun, hfailed, iff_of_false ?_ ?_⟩
        · intro hplaces
          rw [List.map_cons, List.cons_eq_cons, hopen.undo_place] at hplaces
          exact hp hplaces.1.1
        · intro hall
          exact hp (hall e List.mem_cons_self).1.symm

/-- The logs whose entries act where they say: all entries can, the first pool has a name, and the
    pool never changes while someone else holds the cluster. -/
def InPlace (c : Cluster) (es : List SaveLogEntry) : Prop :=
  (∀ e ∈ es, e.Actable) ∧
    ∀ first ∈ es.head?, first.pool ≠ [] ∧ (c.refCount = 0 ∨ ∀ e ∈ es, e.pool = first.pool)

/-- The loop from its beginning. -/
theorem revertLoop_start (es : List SaveLogEntry) (c : Cluster) :
    ∃ run, revertLoop (connecting env) 0 es ⟨c, .new, 0, fun _ => []⟩ = some run ∧
      run.failed = false ∧ (run.places = es.map SaveLogEntry.place ↔ InPlace c es) := by
  cases es with
  | nil => exact ⟨_, rfl, rfl, iff_of_true rfl ⟨nofun, nofun⟩⟩
  | cons e es =>
      have hin : InPlace c (e :: es) ↔ (∀ e' ∈ e :: es, e'.Actable) ∧ e.pool ≠ [] ∧
          (c.refCount = 0 ∨ ∀ e' ∈ e :: es, e'.pool = e.pool) := by
        unfold InPlace
        simp
      by_cases hpool : e.pool = []
      · -- no storage is opened, and the entry is not undone
        have hswitch : RevertState.switchPool .opens e.pool ⟨c, .new, 0, fun _ => []⟩ =
            (some 0, ⟨c, .new, 0, fun _ => []⟩) := by
          have hname : (StorageConn.new : StorageConn ByteString).poolName = e.pool := hpool.symm
          rw [RevertState.switchPool, if_pos hname]
        have hready : ∀ st : RevertState, st.s.ioCtxCreated = false → st.ready = false :=
          fun st h => by rw [RevertState.ready, h, Bool.and_false]
        have hplace : (RevertState.undo (connecting env 0) e ⟨c, .new, 0, fun _ => []⟩).1 =
            none := by
          unfold RevertState.undo
          dsimp only
          split
          · rw [RevertState.deleteMail, hready _ rfl]
            rfl
          · rw [RevertState.move, hready _ rfl]
            rfl
        obtain ⟨run, hrun, hfailed⟩ := @revertLoop_done env es 1
          (RevertState.undo (connecting env 0) e ⟨c, .new, 0, fun _ => []⟩).2
        refine ⟨_, revertLoop_cons (Int.le_refl 0) hswitch hrun, hfailed, iff_of_false ?_ ?_⟩
        · rw [hplace, List.map_cons, List.cons_eq_cons]
          intro h
          cases h.1
        · intro h
          exact (hin.mp h).2.1 hpool
      · obtain ⟨st', hswitch, hopen⟩ := switchPool_new c hpool
        have hplace := hopen.undo_place (connecting env 0) e
        have hnext := hopen.undo (connecting env 0) e
        cases hc : c.refCount with
        | zero =>
            rw [hc] at hnext
            obtain ⟨run, hrun, hfailed, hplaces⟩ := @revertLoop_alone env _ _ hnext es 1
            refine ⟨_, revertLoop_cons (Int.le_refl 0) hswitch hrun, hfailed, ?_⟩
            rw [List.map_cons, List.cons_eq_cons, hplace, hplaces, hin, List.forall_mem_cons]
            simp [hpool, hc]
        | succ others =>
            rw [hc] at hnext
            obtain ⟨run, hrun, hfailed, hplaces⟩ := @revertLoop_shared env _ _ others hnext es 1
            refine ⟨_, revertLoop_cons (Int.le_refl 0) hswitch hrun, hfailed, ?_⟩
            rw [List.map_cons, List.cons_eq_cons, hplace, hplaces, hin, List.forall_mem_cons,
              List.forall_mem_cons]
            simp only [hc, forall_and]
            tauto

end Logs

/-- **A save log is replayed in place if and only if `InPlace` holds of it**: for every file and
    every number of references held when the function is called, if all connection attempts
    succeed. -/
theorem revert_in_place_iff (file : ByteString) (env : Nat → RevertEnv) (c : Cluster) :
    ∃ code run, deleteWithSaveLog (some file) (connecting env) c = some (code, run) ∧
      (run.places = (entriesOf file).map SaveLogEntry.place ↔ InPlace c (entriesOf file)) := by
  obtain ⟨run, hrun, hfailed, hplaces⟩ := @revertLoop_start env (entriesOf file) c
  refine ⟨run.st.count, { run with st := { run.st with
    cluster := (run.st.s.close run.st.cluster).deinit } }, ?_, hplaces⟩
  rw [deleteWithSaveLog, hrun, Option.map_some, if_neg (by simp [hfailed])]

/-- Two mails, each in a pool of its own. -/
def twoPoolLog : ByteString :=
  writeLog
    [{ op := SaveLogEntry.opSave, pool := bytesOf "a", ns := bytesOf "n", oid := bytesOf "0a" },
      { op := SaveLogEntry.opSave, pool := bytesOf "b", ns := bytesOf "n", oid := bytesOf "0b" }]

/-- With the connection of `rmb revert` open, the second mail is deleted in the first pool. -/
theorem second_pool_not_opened :
    ∃ code run, deleteWithSaveLog (some twoPoolLog) (connecting fun _ => {})
        ⟨1, true, fun _ => Nat.one_pos⟩ = some (code, run) ∧
      run.places = [some ⟨bytesOf "a", bytesOf "n"⟩, some ⟨bytesOf "a", bytesOf "n"⟩] ∧
      run.places ≠ (entriesOf twoPoolLog).map SaveLogEntry.place := by
  have h : (deleteWithSaveLog (some twoPoolLog) (connecting fun _ => {})
      ⟨1, true, fun _ => Nat.one_pos⟩).map (fun r => r.2.places) =
        some [some ⟨bytesOf "a", bytesOf "n"⟩, some ⟨bytesOf "a", bytesOf "n"⟩] := by
    decide +kernel
  obtain ⟨⟨code, run⟩, hrun, hplaces⟩ := Option.map_eq_some_iff.mp h
  refine ⟨code, run, hrun, hplaces, ?_⟩
  have hlog : (entriesOf twoPoolLog).map SaveLogEntry.place =
      [some ⟨bytesOf "a", bytesOf "n"⟩, some ⟨bytesOf "b", bytesOf "n"⟩] := by decide +kernel
  rw [hlog, show run.places = _ from hplaces]
  decide

end DovecotCeph
