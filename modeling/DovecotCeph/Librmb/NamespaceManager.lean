/-
  File:      DovecotCeph/Librmb/NamespaceManager.lean
  Subject:   From a user id to a RADOS namespace (rados-namespace-manager.cpp,
             rados-ceph-config.cpp, rados-dovecot-ceph-cfg-impl.h).

  * `readObject`: ten attempts, `-ENOENT` is final (`RadosCephConfig::read_object`);
  * `lookupKey`, `addNamespaceEntry`: the manager's two operations, with the detour of the
    bound io context over the namespace `user_ns` and back to the empty one;
  * `rboxLookupOrAdd`, `lookupNamespace`: the check-then-create sequences of
    `rbox_open_rados_connection` and of `RadosDictionaryImpl::lookup_namespace`.
  * `MappingLost` says when such a sequence replaces a user's stored mapping, and
    **`mappings_kept_iff`** that it keeps every stored mapping in exactly the other cases: a
    read error is answered like a missing mapping, so it costs the user his namespace.
-/
import DovecotCeph.Rados
import DovecotCeph.Lib.Run

namespace DovecotCeph

open Lib

/-! ## 1. Configuration -/

/-- The fields of `RadosCephJsonConfig` that name namespaces, with the defaults of its
    constructor. -/
structure RadosCephJsonConfig where
  cfgObjectName : String := "rbox_cfg"
  valid : Bool := false
  userMapping : String := "false"
  userNs : String := "users"
  userSuffix : String := "_u"
  publicNamespace : String := "public"
  deriving DecidableEq, Repr

/-- `RadosDovecotCephCfgImpl`: the plugin section's valid flag beside the ceph configuration. -/
structure RadosDovecotCephCfg where
  dovecotValid : Bool
  json : RadosCephJsonConfig
  deriving DecidableEq, Repr

namespace RadosDovecotCephCfg

def isConfigValid (c : RadosDovecotCephCfg) : Bool := c.dovecotValid && c.json.valid

def isUserMapping (c : RadosDovecotCephCfg) : Bool := c.json.userMapping == "true"

/-- The namespaces of a configuration that tell users apart by mapping objects. -/
def mappingOn (c : RadosDovecotCephCfg) : Prop := c.isConfigValid = true ∧ c.isUserMapping = true

end RadosDovecotCephCfg

/-- The mapping object of `uid` in the pool. -/
def mappingName (c : RadosDovecotCephCfg) (pool uid : String) : ObjName :=
  ⟨pool, c.json.userNs, uid⟩

/-! ## 2. Reading with retries -/

/-- `read_object` leaves its loop on success and on `-ENOENT`. -/
def readStops (r : Int × String) : Bool := decide (0 ≤ r.1) || decide (r.1 = -ENOENT)

/-- `RadosCephConfig::read_object`: return code and buffer after at most ten reads. -/
def readObject (w : Objects String) (io : IoCtx) (oid : String) (rd : Nat → Outcome) :
    Int × String :=
  retry readStops (fun i => IoCtx.read w io oid (rd i)) 0 10 (-1, "")

/-- The reads succeed: one of the ten attempts gets through before any of them reports
    `-ENOENT`. -/
def ReadSucceeds (rd : Nat → Outcome) : Prop :=
  ∃ j < 10, rd j = .done ∧ ∀ k < j, rd k ≠ .done ∧ (rd k).ret ≠ -ENOENT

section Read

variable {w : Objects String} {io : IoCtx} {oid : String} {rd : Nat → Outcome}

theorem readStops_failed {e : {e : Int // e < 0}} :
    readStops (IoCtx.read w io oid (.failed e)) = true ↔ e.1 = -ENOENT := by
  have h : ¬ (0 ≤ e.1) := by have := e.2; omega
  simp only [readStops, IoCtx.read, Bool.or_eq_true, decide_eq_true_eq, h, false_or]
  exact decide_eq_true_iff

theorem readStops_done : readStops (IoCtx.read w io oid .done) = true := by
  cases hw : w (io.name oid) with
  | none => simp [readStops, IoCtx.read_done_none hw]
  | some v =>
      simp only [readStops, IoCtx.read_done hw, Bool.or_eq_true, decide_eq_true_eq]
      exact Or.inl (Int.natCast_nonneg _)

theorem readStops_false_iff {o : Outcome} :
    readStops (IoCtx.read w io oid o) = false ↔ o ≠ .done ∧ o.ret ≠ -ENOENT := by
  cases o with
  | done => simp [readStops_done]
  | failed e => simp [← Bool.not_eq_true, readStops_failed, Outcome.ret]

/-- A read that gets through returns the object, or `-ENOENT` when there is none. -/
theorem readObject_of_succeeds (h : ReadSucceeds rd) :
    readObject w io oid rd = IoCtx.read w io oid .done := by
  obtain ⟨j, hj, hd, hk⟩ := h
  have hs : FirstStop readStops (fun i => IoCtx.read w io oid (rd i)) 0 10 j :=
    ⟨Nat.zero_le j, by omega, by simp only [hd]; exact readStops_done,
      fun k _ hkj => readStops_false_iff.mpr (hk k hkj)⟩
  unfold readObject
  rw [retry_of_firstStop hs, hd]

/-- A read that does not get through reports a negative code. -/
theorem readObject_of_not_succeeds (h : ¬ ReadSucceeds rd) :
    (readObject w io oid rd).1 < 0 := by
  by_cases hs : ∃ j, FirstStop readStops (fun i => IoCtx.read w io oid (rd i)) 0 10 j
  · obtain ⟨j, hj⟩ := hs
    have hnd : rd j ≠ .done := fun e => h ⟨j, by have := hj.2.1; omega, e, fun k hk =>
      readStops_false_iff.mp (hj.2.2.2 k (Nat.zero_le k) hk)⟩
    unfold readObject
    rw [retry_of_firstStop hj]
    cases ho : rd j with
    | done => exact absurd ho hnd
    | failed e => exact e.2
  · have hn : readStops (readObject w io oid rd) = false :=
      retry_of_none (by decide) fun j hj => hs ⟨j, hj⟩
    simp only [readStops, Bool.or_eq_false_iff, decide_eq_false_iff_not] at hn
    omega

/-- A code at or above zero comes with the object's content. -/
theorem readObject_nonneg (h : 0 ≤ (readObject w io oid rd).1) :
    ReadSucceeds rd ∧ w (io.name oid) = some (readObject w io oid rd).2 := by
  by_cases hs : ReadSucceeds rd
  · rw [readObject_of_succeeds hs] at h ⊢
    exact ⟨hs, (IoCtx.read_nonneg h).2⟩
  · have := @readObject_of_not_succeeds w io oid rd hs
    omega

end Read

/-! ## 3. The manager -/

/-- What the manager's operations read and write: the cluster, the io context its configuration
    is bound to, and its cache. -/
structure NsState where
  w : Objects String
  io : IoCtx
  cache : String → Option String

/-- `RadosNamespaceManager::lookup_key`; `value` is the caller's out parameter. -/
def lookupKey (config : Option RadosDovecotCephCfg) (rd : Nat → Outcome) (uid value : String)
    (st : NsState) : Bool × String × NsState :=
  if uid = "" then (true, uid, st)
  else match config with
    | none => (false, value, st)
    | some c =>
      if !c.isConfigValid then (false, value, st)
      else if !c.isUserMapping then (true, uid, st)
      else match st.cache uid with
        | some v => (true, v, st)
        | none =>
          -- temporarily set storage namespace to config namespace
          let io := st.io.setNamespace c.json.userNs
          let r := readObject st.w io uid rd
          if 0 ≤ r.1 ∧ r.2 ≠ "" then
            (true, r.2, ⟨st.w, io.setNamespace "", Function.update st.cache uid (some r.2)⟩)
          else (false, value, { st with io := io.setNamespace "" })

/-- `RadosNamespaceManager::add_namespace_entry`; `guid` is what the generator, if any,
    produces. -/
def addNamespaceEntry (config : Option RadosDovecotCephCfg) (guid : Option String) (wr : Outcome)
    (uid value : String) (st : NsState) : Bool × String × NsState :=
  match config with
  | none => (false, value, st)
  | some c =>
    if !c.isConfigValid then (false, value, st)
    else match guid with
      | none => (false, value, st)
      | some g =>
        let io := st.io.setNamespace c.json.userNs
        let r := IoCtx.writeFull st.w io uid g wr
        if 0 ≤ r.1 then
          (true, g, ⟨r.2, io.setNamespace "", Function.update st.cache uid (some g)⟩)
        else (false, g, ⟨r.2, io.setNamespace "", st.cache⟩)

/-- `rbox_open_rados_connection`, its namespace part: `ret`, `ns` and the manager afterwards. -/
def rboxLookupOrAdd (c : RadosDovecotCephCfg) (guid : String) (rd : Nat → Outcome) (wr : Outcome)
    (uid : String) (st : NsState) : Int × String × NsState :=
  let l := lookupKey (some c) rd uid "" st
  if l.1 then (0, l.2)
  else
    let a := addNamespaceEntry (some c) (some guid) wr uid l.2.1 l.2.2
    (if a.1 then 0 else -1, a.2)

/-- `RadosDictionaryImpl::lookup_namespace`. It returns false where the lookup succeeded; its
    callers use `ns` only. -/
def lookupNamespace (c : RadosDovecotCephCfg) (guid : String) (rd : Nat → Outcome) (wr : Outcome)
    (uid ns : String) (st : NsState) : Bool × String × NsState :=
  let l := lookupKey (some c) rd uid ns st
  if l.1 then (false, l.2)
  else addNamespaceEntry (some c) (some guid) wr uid l.2.1 l.2.2

/-! ## 4. What a lookup-or-add sequence does -/

/-- **Every way a lookup-or-add sequence can go**, with the code, the namespace and the manager
    it leaves. -/
inductive Resolves (c : RadosDovecotCephCfg) (guid : String) (rd : Nat → Outcome) (wr : Outcome)
    (uid : String) (st : NsState) : Int × String × NsState → Prop where
  | plain (h : uid = "" ∨ (c.isConfigValid = true ∧ c.isUserMapping = false)) :
      Resolves c guid rd wr uid st (0, uid, st)
  | invalid (hu : uid ≠ "") (h : c.isConfigValid = false) :
      Resolves c guid rd wr uid st (-1, "", st)
  | cached (hu : uid ≠ "") (hm : c.mappingOn) (v : String) (h : st.cache uid = some v) :
      Resolves c guid rd wr uid st (0, v, st)
  | found (hu : uid ≠ "") (hm : c.mappingOn) (hc : st.cache uid = none) (hr : ReadSucceeds rd)
      (v : String) (hv : v ≠ "") (h : st.w (mappingName c st.io.pool uid) = some v) :
      Resolves c guid rd wr uid st
        (0, v, ⟨st.w, st.io.setNamespace "", Function.update st.cache uid (some v)⟩)
  | created (hu : uid ≠ "") (hm : c.mappingOn) (hc : st.cache uid = none)
      (hr : ReadSucceeds rd → ∀ v, st.w (mappingName c st.io.pool uid) = some v → v = "")
      (hw : wr = .done) :
      Resolves c guid rd wr uid st
        (0, guid, ⟨Function.update st.w (mappingName c st.io.pool uid) (some guid),
          st.io.setNamespace "", Function.update st.cache uid (some guid)⟩)
  | notCreated (hu : uid ≠ "") (hm : c.mappingOn) (hc : st.cache uid = none)
      (hr : ReadSucceeds rd → ∀ v, st.w (mappingName c st.io.pool uid) = some v → v = "")
      (hw : wr ≠ .done) :
      Resolves c guid rd wr uid st (-1, guid, ⟨st.w, st.io.setNamespace "", st.cache⟩)

section Sequence

variable {c : RadosDovecotCephCfg} {guid : String} {rd : Nat → Outcome} {wr : Outcome}
  {uid : String} {st : NsState}

/-- `add_namespace_entry` with a valid configuration and a generator. -/
theorem addNamespaceEntry_valid (hv : c.isConfigValid = true) (value : String) :
    addNamespaceEntry (some c) (some guid) wr uid value st =
      if wr = .done then
        (true, guid, ⟨Function.update st.w (mappingName c st.io.pool uid) (some guid),
          st.io.setNamespace "", Function.update st.cache uid (some guid)⟩)
      else (false, guid, ⟨st.w, st.io.setNamespace "", st.cache⟩) := by
  cases wr with
  | done => simp [addNamespaceEntry, hv, IoCtx.writeFull, IoCtx.name, mappingName,
      IoCtx.setNamespace]
  | failed e =>
      have h : ¬ (0 ≤ e.1) := by have := e.2; omega
      simp [addNamespaceEntry, hv, IoCtx.writeFull, IoCtx.setNamespace, h]

/-- `lookup_key` where nothing short of reading the mapping object decides: the read goes through
    the bound context, set to `user_ns` meanwhile and to the empty namespace afterwards. -/
theorem lookupKey_uncached (hu : uid ≠ "") (hv : c.isConfigValid = true)
    (hm : c.isUserMapping = true) (hc : st.cache uid = none) (rd : Nat → Outcome)
    (value : String) :
    lookupKey (some c) rd uid value st =
      if 0 ≤ (readObject st.w (st.io.setNamespace c.json.userNs) uid rd).1 ∧
          (readObject st.w (st.io.setNamespace c.json.userNs) uid rd).2 ≠ "" then
        (true, (readObject st.w (st.io.setNamespace c.json.userNs) uid rd).2,
          ⟨st.w, st.io.setNamespace "", Function.update st.cache uid
            (some (readObject st.w (st.io.setNamespace c.json.userNs) uid rd).2)⟩)
      else (false, value, { st with io := st.io.setNamespace "" }) := by
  simp [lookupKey, hu, hv, hm, hc, IoCtx.setNamespace]

theorem rboxLookupOrAdd_resolves (c : RadosDovecotCephCfg) (guid : String) (rd : Nat → Outcome)
    (wr : Outcome) (uid : String) (st : NsState) :
    Resolves c guid rd wr uid st (rboxLookupOrAdd c guid rd wr uid st) := by
  by_cases hu : uid = ""
  · have e : rboxLookupOrAdd c guid rd wr uid st = (0, uid, st) := by
      simp [rboxLookupOrAdd, lookupKey, hu]
    rw [e]
    exact .plain (Or.inl hu)
  cases hv : c.isConfigValid with
  | false =>
      have e : rboxLookupOrAdd c guid rd wr uid st = (-1, "", st) := by
        simp [rboxLookupOrAdd, lookupKey, addNamespaceEntry, hu, hv]
      rw [e]
      exact .invalid hu hv
  | true =>
    cases hm : c.isUserMapping with
    | false =>
        have e : rboxLookupOrAdd c guid rd wr uid st = (0, uid, st) := by
          simp [rboxLookupOrAdd, lookupKey, hu, hv, hm]
        rw [e]
        exact .plain (Or.inr ⟨hv, hm⟩)
    | true =>
      cases hc : st.cache uid with
      | some v =>
          have e : rboxLookupOrAdd c guid rd wr uid st = (0, v, st) := by
            simp [rboxLookupOrAdd, lookupKey, hu, hv, hm, hc]
          rw [e]
          exact .cached hu ⟨hv, hm⟩ v hc
      | none =>
        have hl := lookupKey_uncached hu hv hm hc rd ""
        by_cases hr : 0 ≤ (readObject st.w (st.io.setNamespace c.json.userNs) uid rd).1 ∧
            (readObject st.w (st.io.setNamespace c.json.userNs) uid rd).2 ≠ ""
        · obtain ⟨hs, hw⟩ := readObject_nonneg hr.1
          have e : rboxLookupOrAdd c guid rd wr uid st =
              (0, (readObject st.w (st.io.setNamespace c.json.userNs) uid rd).2,
                ⟨st.w, st.io.setNamespace "", Function.update st.cache uid
                  (some (readObject st.w (st.io.setNamespace c.json.userNs) uid rd).2)⟩) := by
            simp only [rboxLookupOrAdd, hl, if_pos hr, if_true]
          rw [e]
          exact .found hu ⟨hv, hm⟩ hc hs _ hr.2 hw
        · have hempty : ReadSucceeds rd →
              ∀ v, st.w (mappingName c st.io.pool uid) = some v → v = "" := by
            intro hs v hw
            refine Classical.byContradiction fun hne => hr ?_
            rw [readObject_of_succeeds hs, IoCtx.read_done (v := v) hw]
            exact ⟨Int.natCast_nonneg _, hne⟩
          have e : rboxLookupOrAdd c guid rd wr uid st =
              if wr = .done then
                (0, guid, ⟨Function.update st.w (mappingName c st.io.pool uid) (some guid),
                  st.io.setNamespace "", Function.update st.cache uid (some guid)⟩)
              else (-1, guid, ⟨st.w, st.io.setNamespace "", st.cache⟩) := by
            simp only [rboxLookupOrAdd, hl, if_neg hr, addNamespaceEntry_valid hv]
            by_cases hwr : wr = .done
            · simp [hwr, IoCtx.setNamespace]
            · simp [hwr, IoCtx.setNamespace]
          rw [e]
          by_cases hwr : wr = .done
          · rw [if_pos hwr]
            exact .created hu ⟨hv, hm⟩ hc hempty hwr
          · rw [if_neg hwr]
            exact .notCreated hu ⟨hv, hm⟩ hc hempty hwr

/-- The dictionary's sequence leaves the namespace and the manager the mail storage's leaves. -/
theorem lookupNamespace_snd (c : RadosDovecotCephCfg) (guid : String) (rd : Nat → Outcome)
    (wr : Outcome) (uid : String) (st : NsState) :
    (lookupNamespace c guid rd wr uid "" st).2 = (rboxLookupOrAdd c guid rd wr uid st).2 := by
  unfold lookupNamespace rboxLookupOrAdd
  dsimp only
  split <;> rfl

end Sequence

/-! ## 5. Stored mappings -/

/-- Every mapping stored non-empty in `w` is stored unchanged in `w'`. -/
def KeepsMappings (c : RadosDovecotCephCfg) (pool : String) (w w' : Objects String) : Prop :=
  ∀ uid v, v ≠ "" → w (mappingName c pool uid) = some v → w' (mappingName c pool uid) = some v

/-- **The mapping of `uid` is lost**: it is stored, the manager has not cached it, none of the
    reads gets through, and the write of the fresh guid does. -/
structure MappingLost (c : RadosDovecotCephCfg) (guid : String) (rd : Nat → Outcome) (wr : Outcome)
    (uid : String) (st : NsState) : Prop where
  uid_ne : uid ≠ ""
  mapping : c.mappingOn
  uncached : st.cache uid = none
  stored : ∃ v, v ≠ "" ∧ v ≠ guid ∧ st.w (mappingName c st.io.pool uid) = some v
  unread : ¬ ReadSucceeds rd
  written : wr = .done

section Kept

variable {c : RadosDovecotCephCfg} {guid : String} {rd : Nat → Outcome} {wr : Outcome}
  {uid : String} {st : NsState}

theorem keepsMappings_refl (w : Objects String) : KeepsMappings c st.io.pool w w :=
  fun _ _ _ h => h

/-- The sequence keeps every stored mapping unless `MappingLost`. -/
theorem keepsMappings_of_not_lost (h : ¬ MappingLost c guid rd wr uid st)
    {r : Int × String × NsState} (hr : Resolves c guid rd wr uid st r) :
    KeepsMappings c st.io.pool st.w r.2.2.w := by
  cases hr with
  | plain | invalid | cached | found | notCreated => exact keepsMappings_refl _
  | created hu hm hc hempty hw =>
      intro u v hv hs
      by_cases e : u = uid
      · subst e
        have hns : ¬ ReadSucceeds rd := fun hrd => hv (hempty hrd v hs)
        have hvg : v = guid := Classical.byContradiction fun hne =>
          h ⟨hu, hm, hc, ⟨v, hv, hne, hs⟩, hns, hw⟩
        rw [hvg]
        exact Function.update_self ..
      · have hne : mappingName c st.io.pool u ≠ mappingName c st.io.pool uid := by
          intro e'
          exact e (congrArg ObjName.oid e')
        show Function.update st.w _ _ _ = some v
        rw [Function.update_of_ne hne]
        exact hs

/-- Where `MappingLost`, the sequence replaces the mapping. -/
theorem not_keepsMappings_of_lost (h : MappingLost c guid rd wr uid st)
    {r : Int × String × NsState} (hr : Resolves c guid rd wr uid st r) :
    ¬ KeepsMappings c st.io.pool st.w r.2.2.w := by
  obtain ⟨v, hv, hvg, hs⟩ := h.stored
  intro hk
  have hk' := hk uid v hv hs
  cases hr with
  | plain hp =>
      rcases hp with hp | hp
      · exact h.uid_ne hp
      · have := h.mapping.2
        rw [hp.2] at this
        cases this
  | invalid _ hi =>
      have := h.mapping.1
      rw [hi] at this
      cases this
  | cached _ _ _ hc => rw [h.uncached] at hc; cases hc
  | found _ _ _ hrd => exact h.unread hrd
  | created =>
      have : some guid = some v := by
        rw [← hk']
        exact (Function.update_self (β := fun _ => Option String) ..).symm
      exact hvg (Option.some.inj this).symm
  | notCreated _ _ _ _ hw => exact hw h.written

/-- **Both lookup-or-add sequences keep every stored mapping, exactly unless the mapping looked
    up is stored, uncached and unreadable and the fresh guid is written over it.** -/
theorem mappings_kept_iff (c : RadosDovecotCephCfg) (guid : String) (rd : Nat → Outcome)
    (wr : Outcome) (uid : String) (st : NsState) :
    (KeepsMappings c st.io.pool st.w (rboxLookupOrAdd c guid rd wr uid st).2.2.w ∧
      KeepsMappings c st.io.pool st.w (lookupNamespace c guid rd wr uid "" st).2.2.w) ↔
    ¬ MappingLost c guid rd wr uid st := by
  rw [lookupNamespace_snd]
  have hr := rboxLookupOrAdd_resolves c guid rd wr uid st
  constructor
  · rintro ⟨hk, _⟩ hl
    exact not_keepsMappings_of_lost hl hr hk
  · intro hl
    exact ⟨keepsMappings_of_not_lost hl hr, keepsMappings_of_not_lost hl hr⟩

end Kept

/-- A configuration that is loaded and maps users through objects in `users`. -/
def mappedCfg : RadosDovecotCephCfg := ⟨true, { valid := true, userMapping := "true" }⟩

/-- A user's mapping is stored, and every read of it times out (`-ETIMEDOUT`). -/
def timeoutState : NsState :=
  ⟨fun n => if n = ⟨"mail_storage", "users", "alice_u"⟩ then some "0011" else none,
    ⟨"mail_storage", ""⟩, fun _ => none⟩

def timeouts : Nat → Outcome := fun _ => .failed ⟨-110, by decide⟩

/-- The mapping `0011` does not survive a lookup during the timeouts: the object afterwards
    holds the fresh guid. -/
theorem mapping_replaced_on_timeout :
    ¬ (KeepsMappings mappedCfg "mail_storage" timeoutState.w
        (rboxLookupOrAdd mappedCfg "ffee" timeouts .done "alice_u" timeoutState).2.2.w ∧
      KeepsMappings mappedCfg "mail_storage" timeoutState.w
        (lookupNamespace mappedCfg "ffee" timeouts .done "alice_u" "" timeoutState).2.2.w) := by
  rintro ⟨hk, _⟩
  have h := hk "alice_u" "0011" (by decide) (by decide)
  revert h
  decide

end DovecotCeph
