/-
  File:      DovecotCeph/Librmb/StorageMove.lean
  Subject:   `RadosStorageImpl::move` (rados-storage-impl.cpp): an object is copied into another
             namespace, with some of its attributes replaced, and the original is removed.

  Within one namespace nothing is copied: the attributes are written to the destination, which is
  the source only if the oids are equal too.
  * `contexts_objects`: which objects the shared and the duplicated io context address;
  * `move_stops`, `move_copies`, `move_rewrites`: all that a move can do;
  * **`move_object_iff`**: when it moves the object.
-/
import DovecotCeph.Lib.OrderedMap
import DovecotCeph.Librmb.MoveLog
import DovecotCeph.Librmb.RevertLog
import DovecotCeph.Rados

namespace DovecotCeph

/-! ## 1. Objects -/

/-- What an object holds. -/
structure RadosObject where
  data : ByteString
  attrs : ByteString → Option ByteString

/-- What a write creates before it writes. -/
def RadosObject.empty : RadosObject := ⟨[], fun _ => none⟩

/-- `setxattr` of one attribute after the other. -/
def RadosObject.setxattrs (o : RadosObject) (updates : List (ByteString × ByteString)) :
    RadosObject :=
  updates.foldl (fun o u => { o with attrs := Function.update o.attrs u.1 (some u.2) }) o

/-- The full name of an object. -/
structure ObjectAt where
  place : Place
  oid : ByteString
  deriving DecidableEq, Repr

/-- The objects of the cluster. -/
abbrev ObjectStore := ObjectAt → Option RadosObject

/-- `IoCtx::stat`. -/
def statObject (objs : ObjectStore) (obj : ObjectAt) : Outcome → Int
  | .failed e => e.1
  | .done => if (objs obj).isNone then -ENOENT else 0

/-- `IoCtx::remove`. -/
def removeObject (objs : ObjectStore) (obj : ObjectAt) : Outcome → Int × ObjectStore
  | .failed e => (e.1, objs)
  | .done =>
    if (objs obj).isNone then (-ENOENT, objs) else (0, Function.update objs obj none)

/-- `ObjectWriteOperation`: a copy of another object, if one is asked for, and then attributes. -/
structure WriteOp where
  copyFrom : Option ObjectAt
  attrs : List (ByteString × ByteString)

/-- The operation on an object; attributes are written to an empty one where there is none. -/
def WriteOp.apply (op : WriteOp) (objs : ObjectStore) (dest : ObjectAt) : Int × ObjectStore :=
  match op.copyFrom with
  | some src =>
    match objs src with
    | none => (-ENOENT, objs)
    | some o => (0, Function.update objs dest (some (o.setxattrs op.attrs)))
  | none =>
    if op.attrs = [] then (0, objs)
    else (0, Function.update objs dest
      (some (((objs dest).getD .empty).setxattrs op.attrs)))

/-! ## 2. Io contexts -/

/-- The contexts that were created. An `IoCtx` is the number of one of them: `operator=` copies the
    number, `dup` the context. -/
structure IoContexts where
  place : Nat → Place
  next : Nat

namespace IoContexts

/-- `IoCtx::dup`: the number of the new context. -/
def dup (c : IoContexts) (io : Nat) : Nat × IoContexts :=
  (c.next, ⟨Function.update c.place c.next (c.place io), c.next + 1⟩)

/-- `IoCtx::set_namespace`. -/
def setNamespace (c : IoContexts) (io : Nat) (ns : ByteString) : IoContexts :=
  { c with place := Function.update c.place io { c.place io with ns := ns } }

/-- The object an oid stands for. -/
def object (c : IoContexts) (io : Nat) (oid : ByteString) : ObjectAt := ⟨c.place io, oid⟩

end IoContexts

/-! ## 3. The move -/

/-- The arguments of `move`. -/
structure MoveRequest where
  srcOid : ByteString
  srcNs : ByteString
  destOid : ByteString
  destNs : ByteString
  toUpdate : List RadosMetadata
  deleteSource : Bool

/-- How the calls of a move end: `stat`, `aio_operate`, its completion, and `remove`. -/
structure MoveOutcomes where
  stat : Outcome := .done
  submit : Outcome := .done
  complete : Outcome := .done
  remove : Outcome := .done

/-- The storage: `io` is the number of its `io_ctx`. -/
structure MoveStorage where
  ready : Bool
  ctxs : IoContexts
  io : Nat
  objs : ObjectStore
  created : io < ctxs.next

namespace MoveRequest

/-- What the operation writes: the key as a C string, the buffer as it is. -/
def xattrs (m : MoveRequest) : List (ByteString × ByteString) :=
  m.toUpdate.map fun u => (cBytes u.key, u.bl)

/-- `src_io_ctx`, and all contexts. -/
def contexts (m : MoveRequest) (dest : Nat) (c : IoContexts) : Nat × IoContexts :=
  if m.srcNs ≠ m.destNs then
    let d := c.dup dest
    (d.1, (d.2.setNamespace d.1 m.srcNs).setNamespace dest m.destNs)
  else (dest, c)

theorem contexts_next (m : MoveRequest) (dest : Nat) (c : IoContexts) :
    c.next ≤ (m.contexts dest c).2.next := by
  unfold contexts
  split
  · exact Nat.le_succ _
  · exact Nat.le_refl _

/-- The operation: there is a copy only between namespaces. -/
def writeOp (m : MoveRequest) (source : ObjectAt) : WriteOp :=
  ⟨if m.srcNs ≠ m.destNs then some source else none, m.xattrs⟩

end MoveRequest

/-- `aio_operate` with its completion: a code below zero comes from either. -/
def aioOperate (env : MoveOutcomes) (op : WriteOp) (objs : ObjectStore) (dest : ObjectAt) :
    Int × ObjectStore :=
  match env.submit, env.complete with
  | .failed e, _ => (e.1, objs)
  | .done, .failed e => (e.1, objs)
  | .done, .done => op.apply objs dest

/-- `RadosStorageImpl::move`: code and storage. -/
def MoveStorage.move (m : MoveRequest) (env : MoveOutcomes) (st : MoveStorage) :
    Int × MoveStorage :=
  if !st.ready then (-1, st)
  else
    let src := m.contexts st.io st.ctxs
    let source := src.2.object src.1 m.srcOid
    let stat := if m.srcNs ≠ m.destNs then 0 else statObject st.objs source env.stat
    if stat < 0 then (stat, st)
    else
      let r := aioOperate env (m.writeOp source) st.objs (src.2.object st.io m.destOid)
      let r' := if m.deleteSource = true ∧ m.srcNs ≠ m.destNs ∧ r.1 = 0
        then removeObject r.2 source env.remove else r
      (r'.1, { st with
        ctxs := src.2.setNamespace st.io m.destNs
        objs := r'.2
        created := Nat.lt_of_lt_of_le st.created (m.contexts_next st.io st.ctxs) })

/-! ## 4. What is promised -/

/-- The attributes with some of them replaced; of several values of a key the last one counts. -/
def overridden (updates : List (ByteString × ByteString))
    (attrs : ByteString → Option ByteString) (k : ByteString) : Option ByteString :=
  ((Lib.lastItem (·.1) updates k).map (·.2)).or (attrs k)

/-- The object of a namespace in the storage's pool. -/
def MoveStorage.named (st : MoveStorage) (ns oid : ByteString) : ObjectAt :=
  ⟨⟨(st.ctxs.place st.io).pool, ns⟩, oid⟩

/-- A move from one object to another: after success the destination has the source's data and its
    attributes, overridden by the update list, and the source is gone if and only if it is to be
    deleted and is not the destination; after a failure the source has its data. -/
structure MovesBetween (m : MoveRequest) (env : MoveOutcomes) (st : MoveStorage)
    (source dest : ObjectAt) : Prop where
  moved : (st.move m env).1 = 0 → ∃ o o', st.objs source = some o ∧
    (st.move m env).2.objs dest = some o' ∧ o'.data = o.data ∧
    o'.attrs = overridden m.xattrs o.attrs
  gone : (st.move m env).1 = 0 →
    ((st.move m env).2.objs source = none ↔ m.deleteSource = true ∧ dest ≠ source)
  kept : (st.move m env).1 < 0 →
    ((st.move m env).2.objs source).map (·.data) = (st.objs source).map (·.data)

/-- **The object is moved** from the name it has to the name it is given. -/
def MovesObject (m : MoveRequest) (env : MoveOutcomes) (st : MoveStorage) : Prop :=
  MovesBetween m env st (st.named m.srcNs m.srcOid) (st.named m.destNs m.destOid)

/-- The object `move` reads: within one namespace it is that of the storage, whatever its name. -/
def MoveStorage.source (st : MoveStorage) (m : MoveRequest) : ObjectAt :=
  st.named (if m.srcNs ≠ m.destNs then m.srcNs else (st.ctxs.place st.io).ns) m.srcOid

/-- The object `move` writes. -/
def MoveStorage.dest (st : MoveStorage) (m : MoveRequest) : ObjectAt :=
  st.named (if m.srcNs ≠ m.destNs then m.destNs else (st.ctxs.place st.io).ns) m.destOid

/-- The move ends before anything is written: no connection, no source, or a call that fails. -/
def MoveRequest.Stops (m : MoveRequest) (env : MoveOutcomes) (st : MoveStorage) : Prop :=
  st.ready = false ∨ st.objs (st.source m) = none ∨ (m.srcNs = m.destNs ∧ env.stat ≠ .done) ∨
    env.submit ≠ .done ∨ env.complete ≠ .done

/-- The destination, or the empty object that attributes are written to where there is none, has
    the source's data, and those of its attributes that are not replaced. -/
def MoveRequest.AlreadyThere (m : MoveRequest) (st : MoveStorage) : Prop :=
  ∃ o d, st.objs (st.source m) = some o ∧
    (if m.toUpdate = [] then st.objs (st.dest m)
      else some ((st.objs (st.dest m)).getD .empty)) = some d ∧
    d.data = o.data ∧ ∀ k ∉ m.xattrs.map (·.1), d.attrs k = o.attrs k

/-! ## 5. Attributes and contexts -/

section Parts

variable {m : MoveRequest} {st : MoveStorage} {o d : RadosObject}
  {updates : List (ByteString × ByteString)}

@[simp] theorem setxattrs_data (o : RadosObject) (updates : List (ByteString × ByteString)) :
    (o.setxattrs updates).data = o.data := by
  unfold RadosObject.setxattrs
  induction updates generalizing o with
  | nil => rfl
  | cons u updates ih => exact ih _

/-- Writing attribute after attribute overrides them. -/
@[simp] theorem setxattrs_attrs (o : RadosObject) (updates : List (ByteString × ByteString)) :
    (o.setxattrs updates).attrs = overridden updates o.attrs := by
  induction updates using List.reverseRecOn with
  | nil => rfl
  | append_singleton updates u ih =>
      have hstep : (o.setxattrs (updates ++ [u])).attrs =
          Function.update (o.setxattrs updates).attrs u.1 (some u.2) := by
        simp [RadosObject.setxattrs, List.foldl_append]
      funext k
      rw [hstep, ih, overridden, Lib.lastItem_concat, Function.update_apply]
      by_cases hk : u.1 = k
      · rw [if_pos hk.symm, if_pos hk]
        rfl
      · rw [if_neg fun h => hk h.symm, if_neg hk]
        rfl

theorem setxattrs_eq (o : RadosObject) (updates : List (ByteString × ByteString)) :
    o.setxattrs updates = ⟨o.data, overridden updates o.attrs⟩ := by
  rw [← setxattrs_attrs, ← setxattrs_data o updates]

/-- Two lots of attributes are overridden alike exactly if they agree on the other keys. -/
theorem overridden_congr {a b : ByteString → Option ByteString} :
    overridden updates a = overridden updates b ↔ ∀ k ∉ updates.map (·.1), a k = b k := by
  have hcase : ∀ k, (k ∈ updates.map (·.1) ∧ ∃ u, Lib.lastItem (·.1) updates k = some u) ∨
      (k ∉ updates.map (·.1) ∧ Lib.lastItem (·.1) updates k = none) := by
    intro k
    cases hlast : Lib.lastItem (·.1) updates k with
    | some u =>
        obtain ⟨hmem, rfl⟩ := Lib.lastItem_mem hlast
        exact .inl ⟨List.mem_map_of_mem hmem, u, rfl⟩
    | none =>
        refine .inr ⟨fun hmem => ?_, rfl⟩
        obtain ⟨u, hu, rfl⟩ := List.mem_map.mp hmem
        obtain ⟨b, hb⟩ := Lib.lastItem_isSome (·.1) hu
        rw [hb] at hlast
        cases hlast
  rw [funext_iff]
  refine forall_congr' fun k => ?_
  unfold overridden
  rcases hcase k with ⟨hmem, u, hlast⟩ | ⟨hnot, hlast⟩
  · rw [hlast]
    exact iff_of_true rfl fun h => absurd hmem h
  · rw [hlast]
    exact ⟨fun h _ => h, fun h => h hnot⟩

/-- **What the contexts address**: the shared one the destination, the duplicate the source. -/
theorem contexts_objects (m : MoveRequest) (st : MoveStorage) :
    (m.contexts st.io st.ctxs).2.object (m.contexts st.io st.ctxs).1 m.srcOid = st.source m ∧
      (m.contexts st.io st.ctxs).2.object st.io m.destOid = st.dest m := by
  have hfresh : st.ctxs.next ≠ st.io := Nat.ne_of_gt st.created
  unfold MoveRequest.contexts MoveStorage.source MoveStorage.dest MoveStorage.named
    IoContexts.object
  by_cases hd : m.srcNs ≠ m.destNs
  · rw [if_pos hd, if_pos hd, if_pos hd]
    simp [IoContexts.dup, IoContexts.setNamespace, hfresh, hfresh.symm]
  · rw [if_neg hd, if_neg hd, if_neg hd]
    exact ⟨rfl, rfl⟩

/-- Between namespaces the destination is another object. -/
theorem dest_ne_source (hd : m.srcNs ≠ m.destNs) : st.dest m ≠ st.source m := by
  intro h
  have hplace := congrArg (fun a => a.place.ns) h
  simp only [MoveStorage.dest, MoveStorage.source, MoveStorage.named, if_pos hd] at hplace
  exact hd hplace.symm

theorem dest_eq_source (hd : m.srcNs = m.destNs) :
    st.dest m = st.source m ↔ m.srcOid = m.destOid := by
  simp [MoveStorage.dest, MoveStorage.source, MoveStorage.named, hd, eq_comm]

/-- In the source's namespace `move` works on the objects that are named. -/
theorem source_dest_named (hns : (st.ctxs.place st.io).ns = m.srcNs) :
    st.source m = st.named m.srcNs m.srcOid ∧ st.dest m = st.named m.destNs m.destOid := by
  unfold MoveStorage.source MoveStorage.dest
  by_cases hd : m.srcNs = m.destNs
  · simp [hns, hd]
  · simp [hd]

end Parts

/-! ## 6. All that a move can do -/

section Move

variable {m : MoveRequest} {env : MoveOutcomes} {st : MoveStorage} {o : RadosObject}

theorem statObject_neg (objs : ObjectStore) (obj : ObjectAt) (out : Outcome) :
    statObject objs obj out < 0 ↔ objs obj = none ∨ out ≠ .done := by
  cases out with
  | failed e => exact iff_of_true e.2 (.inr nofun)
  | done =>
      cases h : objs obj with
      | none => exact iff_of_true (by simp [statObject, h, ENOENT]) (.inl rfl)
      | some o => exact iff_of_false (by simp [statObject, h]) (by simp)

/-- The move on objects, with the contexts resolved. -/
theorem move_eq (hready : st.ready = true) :
    ((st.move m env).1, (st.move m env).2.objs) =
      let stat := if m.srcNs ≠ m.destNs then 0 else statObject st.objs (st.source m) env.stat
      let r := aioOperate env (m.writeOp (st.source m)) st.objs (st.dest m)
      if stat < 0 then (stat, st.objs)
      else if m.deleteSource = true ∧ m.srcNs ≠ m.destNs ∧ r.1 = 0
        then removeObject r.2 (st.source m) env.remove else r := by
  obtain ⟨hsource, hdest⟩ := contexts_objects m st
  unfold MoveStorage.move
  rw [hready]
  dsimp only
  rw [hsource, hdest, if_neg (by simp)]
  generalize (if m.srcNs ≠ m.destNs then 0 else statObject st.objs (st.source m) env.stat) = stat
  by_cases hstat : stat < 0
  · rw [if_pos hstat, if_pos hstat]
  · rw [if_neg hstat, if_neg hstat]

/-- An operation that is not submitted or not completed changes nothing. -/
theorem aioOperate_failed (h : env.submit ≠ .done ∨ env.complete ≠ .done) (op : WriteOp)
    (objs : ObjectStore) (dest : ObjectAt) :
    (aioOperate env op objs dest).1 < 0 ∧ (aioOperate env op objs dest).2 = objs := by
  unfold aioOperate
  cases hs : env.submit with
  | failed e => exact ⟨e.2, rfl⟩
  | done =>
      cases hc : env.complete with
      | failed e => exact ⟨e.2, rfl⟩
      | done => exact absurd hc (h.resolve_left (not_not.mpr hs))

/-- **A move that stops** reports it, and the objects are as before. -/
theorem move_stops (h : m.Stops env st) :
    (st.move m env).1 < 0 ∧ (st.move m env).2.objs = st.objs := by
  by_cases hready : st.ready = true
  · have heq := @move_eq m env st hready
    dsimp only at heq
    -- an operation that fails is the end of the move
    have hfailed : ∀ {r : Int × ObjectStore}, r.1 < 0 ∧ r.2 = st.objs →
        (if m.deleteSource = true ∧ m.srcNs ≠ m.destNs ∧ r.1 = 0
          then removeObject r.2 (st.source m) env.remove else r) = (r.1, st.objs) := by
      intro r hr
      rw [if_neg fun hc => by omega, ← hr.2]
    by_cases hd : m.srcNs ≠ m.destNs
    · rw [if_pos hd, if_neg (Int.lt_irrefl 0)] at heq
      have hr : (aioOperate env (m.writeOp (st.source m)) st.objs (st.dest m)).1 < 0 ∧
          (aioOperate env (m.writeOp (st.source m)) st.objs (st.dest m)).2 = st.objs := by
        by_cases hcalls : env.submit ≠ .done ∨ env.complete ≠ .done
        · exact aioOperate_failed hcalls _ _ _
        · -- the copy has no source
          obtain ⟨hs, hc⟩ := not_or.mp hcalls
          have hnone : st.objs (st.source m) = none := by
            rcases h with h | h | h | h
            · rw [hready] at h
              cases h
            · exact h
            · exact absurd h.1 hd
            · exact absurd h hcalls
          simp [aioOperate, not_not.mp hs, not_not.mp hc, MoveRequest.writeOp, hd, WriteOp.apply,
            hnone, ENOENT]
      rw [hfailed hr] at heq
      exact ⟨(congrArg Prod.fst heq).trans_lt hr.1, congrArg Prod.snd heq⟩
    · rw [if_neg hd] at heq
      by_cases hstat : statObject st.objs (st.source m) env.stat < 0
      · rw [if_pos hstat] at heq
        exact ⟨(congrArg Prod.fst heq).trans_lt hstat, congrArg Prod.snd heq⟩
      · have hcalls : env.submit ≠ .done ∨ env.complete ≠ .done := by
          rw [statObject_neg, not_or] at hstat
          rcases h with h | h | h | h
          · rw [hready] at h
            cases h
          · exact absurd h hstat.1
          · exact absurd h.2 hstat.2
          · exact h
        have hr := aioOperate_failed hcalls (m.writeOp (st.source m)) st.objs (st.dest m)
        rw [if_neg hstat, hfailed hr] at heq
        exact ⟨(congrArg Prod.fst heq).trans_lt hr.1, congrArg Prod.snd heq⟩
  · unfold MoveStorage.move
    simp [hready]

/-- What holds of a move that goes on. -/
theorem not_stops (h : ¬ m.Stops env st) :
    st.ready = true ∧ (∃ o, st.objs (st.source m) = some o) ∧
      (m.srcNs = m.destNs → env.stat = .done) ∧ env.submit = .done ∧ env.complete = .done := by
  unfold MoveRequest.Stops at h
  push Not at h
  obtain ⟨hready, hsource, hstat, hsubmit, hcomplete⟩ := h
  exact ⟨by simpa using hready, Option.ne_none_iff_exists'.mp hsource, hstat, hsubmit, hcomplete⟩

/-- **Between namespaces** the source is copied, and removed if that is asked for. -/
theorem move_copies (hd : m.srcNs ≠ m.destNs) (h : ¬ m.Stops env st)
    (ho : st.objs (st.source m) = some o) :
    let copied := Function.update st.objs (st.dest m) (some (o.setxattrs m.xattrs))
    ((st.move m env).1, (st.move m env).2.objs) =
      if m.deleteSource then
        match env.remove with
        | .failed e => (e.1, copied)
        | .done => (0, Function.update copied (st.source m) none)
      else (0, copied) := by
  obtain ⟨hready, -, -, hsubmit, hcomplete⟩ := not_stops h
  have hr : aioOperate env (m.writeOp (st.source m)) st.objs (st.dest m) =
      (0, Function.update st.objs (st.dest m) (some (o.setxattrs m.xattrs))) := by
    simp [aioOperate, hsubmit, hcomplete, MoveRequest.writeOp, hd, WriteOp.apply, ho]
  have hthere : (Function.update st.objs (st.dest m) (some (o.setxattrs m.xattrs)) :
      ObjectStore) (st.source m) = some o := by
    rw [Function.update_of_ne (dest_ne_source hd).symm, ho]
  rw [move_eq hready]
  dsimp only
  rw [if_pos hd, if_neg (Int.lt_irrefl 0), hr]
  cases m.deleteSource with
  | false => simp
  | true =>
      rw [if_pos ⟨rfl, hd, rfl⟩]
      cases env.remove with
      | failed e => rfl
      | done => simp [removeObject, hthere]

/-- **Within a namespace** attributes are written to the destination. -/
theorem move_rewrites (hd : m.srcNs = m.destNs) (h : ¬ m.Stops env st) :
    (st.move m env).1 = 0 ∧ (st.move m env).2.objs =
      if m.toUpdate = [] then st.objs
      else Function.update st.objs (st.dest m)
        (some (((st.objs (st.dest m)).getD .empty).setxattrs m.xattrs)) := by
  obtain ⟨hready, ⟨o, ho⟩, hstat, hsubmit, hcomplete⟩ := not_stops h
  have hneg : ¬ statObject st.objs (st.source m) env.stat < 0 := by
    rw [statObject_neg, ho, hstat hd]
    simp
  have heq := @move_eq m env st hready
  dsimp only at heq
  rw [if_neg (not_not.mpr hd), if_neg hneg, if_neg fun hc => hc.2.1 hd] at heq
  refine ⟨(congrArg Prod.fst heq).trans ?_, (congrArg Prod.snd heq).trans ?_⟩
  · simp only [aioOperate, hsubmit, hcomplete, MoveRequest.writeOp, hd, WriteOp.apply]
    simp only [ne_eq, not_true_eq_false, if_false]
    split
    · rfl
    · rfl
  · by_cases hnil : m.toUpdate = []
    · simp [aioOperate, hsubmit, hcomplete, MoveRequest.writeOp, hd, WriteOp.apply,
        MoveRequest.xattrs, hnil]
    · simp [aioOperate, hsubmit, hcomplete, MoveRequest.writeOp, hd, WriteOp.apply,
        MoveRequest.xattrs, hnil]

end Move

/-! ## 7. Which objects are moved -/

section Moved

variable {m : MoveRequest} {env : MoveOutcomes} {st : MoveStorage}

theorem MovesBetween.of_stops (h : m.Stops env st) (source dest : ObjectAt) :
    MovesBetween m env st source dest := by
  obtain ⟨hneg, hobjs⟩ := move_stops h
  refine ⟨fun h0 => ?_, fun h0 => ?_, fun _ => by rw [hobjs]⟩
  · omega
  · omega

/-- A copy between namespaces is complete when the source is removed. -/
theorem MovesBetween.of_copies (hd : m.srcNs ≠ m.destNs) (h : ¬ m.Stops env st) :
    MovesBetween m env st (st.source m) (st.dest m) := by
  obtain ⟨-, ⟨o, ho⟩, -⟩ := not_stops h
  have hne := @dest_ne_source m st hd
  have heq := move_copies hd h ho
  dsimp only at heq
  rw [setxattrs_eq] at heq
  generalize hcopied : (⟨o.data, overridden m.xattrs o.attrs⟩ : RadosObject) = copied at heq
  cases hdelete : m.deleteSource with
  | false =>
      rw [hdelete, if_neg Bool.false_ne_true, Prod.mk.injEq] at heq
      obtain ⟨hcode, hobjs⟩ := heq
      refine ⟨fun _ => ⟨o, copied, ho, ?_, by rw [← hcopied], by rw [← hcopied]⟩,
        fun _ => ?_, fun hneg => ?_⟩
      · rw [hobjs, Function.update_self]
      · rw [hobjs, Function.update_of_ne hne.symm, ho, hdelete]
        simp
      · omega
  | true =>
      rw [hdelete, if_pos rfl] at heq
      cases hremove : env.remove with
      | failed e =>
          rw [hremove, Prod.mk.injEq] at heq
          obtain ⟨hcode, hobjs⟩ := heq
          have hneg := e.2
          refine ⟨fun h0 => ?_, fun h0 => ?_, fun _ => ?_⟩
          · omega
          · omega
          · rw [hobjs, Function.update_of_ne hne.symm]
      | done =>
          rw [hremove, Prod.mk.injEq] at heq
          obtain ⟨hcode, hobjs⟩ := heq
          refine ⟨fun _ => ⟨o, copied, ho, ?_, by rw [← hcopied], by rw [← hcopied]⟩,
        fun _ => ?_, fun hneg => ?_⟩
          · rw [hobjs, Function.update_of_ne hne, Function.update_self]
          · rw [hobjs, Function.update_self, hdelete]
            exact iff_of_true rfl ⟨rfl, hne⟩
          · omega

/-- What is written within a namespace, object by object. -/
theorem move_rewrites_dest (hd : m.srcNs = m.destNs) (h : ¬ m.Stops env st) :
    (st.move m env).2.objs (st.dest m) =
      (if m.toUpdate = [] then st.objs (st.dest m)
        else some ((st.objs (st.dest m)).getD .empty)).map
          fun d => ⟨d.data, overridden m.xattrs d.attrs⟩ := by
  obtain ⟨-, hobjs⟩ := move_rewrites hd h
  rw [hobjs]
  by_cases hnil : m.toUpdate = []
  · rw [if_pos hnil, if_pos hnil]
    have hsame : ∀ d : RadosObject, (⟨d.data, overridden m.xattrs d.attrs⟩ : RadosObject) = d := by
      intro d
      rw [MoveRequest.xattrs, hnil]
      rfl
    simp [hsame]
  · rw [if_neg hnil, if_neg hnil, Function.update_self, Option.map_some, setxattrs_eq]

/-- The source is still there after a move within a namespace. -/
theorem move_rewrites_source (hd : m.srcNs = m.destNs) (h : ¬ m.Stops env st) :
    (st.move m env).2.objs (st.source m) ≠ none := by
  obtain ⟨-, ⟨o, ho⟩, -⟩ := not_stops h
  obtain ⟨-, hobjs⟩ := move_rewrites hd h
  rw [hobjs]
  split
  · rw [ho]
    nofun
  · rw [Function.update_apply]
    split
    · nofun
    · rw [ho]
      nofun

/-- **Within a namespace** an object is moved onto itself, or to where a copy of it is already. -/
theorem moves_within_iff (hd : m.srcNs = m.destNs) (h : ¬ m.Stops env st) :
    MovesBetween m env st (st.source m) (st.dest m) ↔
      m.srcOid = m.destOid ∨ (m.deleteSource = false ∧ m.AlreadyThere st) := by
  obtain ⟨-, ⟨o, ho⟩, -⟩ := not_stops h
  obtain ⟨hcode, -⟩ := move_rewrites hd h
  have hdest := move_rewrites_dest hd h
  have hthere := move_rewrites_source hd h
  -- the destination, before the attributes are overridden
  have hwritten : (∃ o' o'', st.objs (st.source m) = some o' ∧
      (st.move m env).2.objs (st.dest m) = some o'' ∧ o''.data = o'.data ∧
      o''.attrs = overridden m.xattrs o'.attrs) ↔ m.AlreadyThere st := by
    rw [hdest]
    constructor
    · intro hmoved
      obtain ⟨o', o'', ho', hd', hdata, hattrs⟩ := hmoved
      obtain ⟨d, hd'', rfl⟩ := Option.map_eq_some_iff.mp hd'
      exact ⟨o', d, ho', hd'', hdata, overridden_congr.mp hattrs⟩
    · intro halready
      obtain ⟨o', d, ho', hd', hdata, hattrs⟩ := halready
      refine ⟨o', ⟨d.data, overridden m.xattrs d.attrs⟩, ho', ?_, hdata,
        overridden_congr.mpr hattrs⟩
      rw [hd', Option.map_some]
  constructor
  · intro hm
    by_cases hoid : m.srcOid = m.destOid
    · exact .inl hoid
    · have hne : st.dest m ≠ st.source m := fun heq => hoid ((dest_eq_source hd).mp heq)
      refine .inr ⟨?_, hwritten.mp (hm.moved hcode)⟩
      by_contra hdelete
      exact hthere ((hm.gone hcode).mpr ⟨by simpa using hdelete, hne⟩)
  · intro hcond
    refine ⟨fun _ => ?_, fun _ => iff_of_false hthere ?_, fun hneg => by omega⟩
    · rcases hcond with hoid | ⟨-, halready⟩
      · rw [hwritten]
        have hself := (@dest_eq_source m st hd).mpr hoid
        refine ⟨o, o, ho, ?_, rfl, fun _ _ => rfl⟩
        rw [hself, ho]
        simp
      · exact hwritten.mpr halready
    · intro hgone
      rcases hcond with hoid | ⟨hdelete, -⟩
      · exact hgone.2 ((dest_eq_source hd).mpr hoid)
      · rw [hdelete] at hgone
        cases hgone.1

end Moved

/-- **Moves**: the object is moved if the namespaces differ, if it is moved onto itself, or if the
    move stops; otherwise only if nothing is to be deleted and a copy is there already. -/
theorem move_object_iff (m : MoveRequest) (env : MoveOutcomes) (st : MoveStorage)
    (hns : (st.ctxs.place st.io).ns = m.srcNs) :
    MovesObject m env st ↔ m.srcNs ≠ m.destNs ∨ m.srcOid = m.destOid ∨ m.Stops env st ∨
      (m.deleteSource = false ∧ m.AlreadyThere st) := by
  obtain ⟨hsource, hdest⟩ := @source_dest_named m st hns
  unfold MovesObject
  rw [← hsource, ← hdest]
  by_cases hstops : m.Stops env st
  · exact iff_of_true (.of_stops hstops _ _) (.inr (.inr (.inl hstops)))
  · by_cases hd : m.srcNs = m.destNs
    · rw [moves_within_iff hd hstops]
      simp [hd, hstops]
    · exact iff_of_true (.of_copies hd hstops) (.inl hd)

/-- One mail of Alice's, with all calls successful. -/
def oneMail : MoveStorage where
  ready := true
  ctxs := ⟨fun _ => ⟨bytesOf "mail_storage", bytesOf "alice_u"⟩, 1⟩
  io := 0
  objs obj :=
    if obj = ⟨⟨bytesOf "mail_storage", bytesOf "alice_u"⟩, bytesOf "0a"⟩ then
      some ⟨bytesOf "Subject: hi", fun _ => none⟩
    else none
  created := Nat.one_pos

/-- The mail is moved to the oid `0b` of a namespace. -/
def moveMailTo (ns : String) : MoveRequest where
  srcOid := bytesOf "0a"
  srcNs := bytesOf "alice_u"
  destOid := bytesOf "0b"
  destNs := bytesOf ns
  toUpdate := [.make (bytesOf "M") (bytesOf "4a")]
  deleteSource := true

/-- It reaches another namespace. -/
theorem mail_moved_to_bob : MovesObject (moveMailTo "bob_u") {} oneMail :=
  (move_object_iff (moveMailTo "bob_u") {} oneMail rfl).mpr (.inl (by decide))

/-- Within the namespace success is reported for an empty object, and the mail stays. -/
theorem mail_not_moved :
    (oneMail.ctxs.place oneMail.io).ns = (moveMailTo "alice_u").srcNs ∧
      (oneMail.move (moveMailTo "alice_u") {}).1 = 0 ∧
      ¬ MovesObject (moveMailTo "alice_u") {} oneMail := by
  have hcode : (oneMail.move (moveMailTo "alice_u") {}).1 = 0 := by decide +kernel
  refine ⟨rfl, hcode, fun h => ?_⟩
  have hgone : (oneMail.move (moveMailTo "alice_u") {}).2.objs
      (oneMail.named (bytesOf "alice_u") (bytesOf "0a")) = none :=
    (h.gone hcode).mpr ⟨rfl, by decide⟩
  have hthere : ((oneMail.move (moveMailTo "alice_u") {}).2.objs
      (oneMail.named (bytesOf "alice_u") (bytesOf "0a"))).isSome = true := by decide +kernel
  rw [hgone] at hthere
  cases hthere

end DovecotCeph
