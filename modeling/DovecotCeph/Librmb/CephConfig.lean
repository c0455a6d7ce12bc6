/-
  File:      DovecotCeph/Librmb/CephConfig.lean
  Subject:   Loading the ceph configuration object, and the namespace a configuration maps a user
             id to (rados-ceph-config.cpp, rados-ceph-json-config.cpp,
             rados-dovecot-ceph-cfg-impl.cpp).

  * `loadOrDefault`: load the configuration object, save the defaults where there is none -- the
    sequence `rbox_open_rados_connection` and `RadosDictionaryImpl::load_configuration` share;
  * `storedConfig`: what that object says, and `ConfigReadable`: when the sequence arrives at it;
  * `mappedNamespace`: the namespace of a user id, and **`resolves_mapped`**: a lookup-or-add
    sequence that reports success hands out just that.
-/
import DovecotCeph.Librmb.NamespaceManager

namespace DovecotCeph

/-! ## 1. The configuration object -/

/-- The entries of the configuration document that name namespaces. -/
structure JsonValues where
  userMapping : String
  userNs : String
  userSuffix : String
  publicNamespace : String
  deriving DecidableEq, Repr

/-- The JSON library: parse a document that holds all entries, print one. A document without one of
    them ends the process, and is none of a codec's: `CephJsonConfigAll.fromJson` has both. -/
structure JsonCodec where
  loads : String → Option JsonValues
  dumps : JsonValues → String

namespace RadosCephJsonConfig

def values (c : RadosCephJsonConfig) : JsonValues :=
  ⟨c.userMapping, c.userNs, c.userSuffix, c.publicNamespace⟩

def setValues (c : RadosCephJsonConfig) (v : JsonValues) : RadosCephJsonConfig :=
  { c with
    userMapping := v.userMapping, userNs := v.userNs, userSuffix := v.userSuffix,
    publicNamespace := v.publicNamespace }

/-- `RadosCephJsonConfig::from_json`, as long as the process lives: `loadCfg_erase`. -/
def fromJson (codec : JsonCodec) (c : RadosCephJsonConfig) (buffer : String) :
    Bool × RadosCephJsonConfig :=
  match codec.loads buffer with
  | none => (false, c)
  | some v => (true, { c.setValues v with valid := true })

/-- `RadosCephJsonConfig::to_json`. -/
def toJson (codec : JsonCodec) (c : RadosCephJsonConfig) : String := codec.dumps c.values

end RadosCephJsonConfig

/-- `RadosCephConfig::load_cfg`. The valid flag is set before the document is parsed. -/
def loadCfg (codec : JsonCodec) (w : Objects String) (io : IoCtx) (rd : Nat → Outcome)
    (c : RadosCephJsonConfig) : Int × RadosCephJsonConfig :=
  if c.valid then (0, c)
  else
    let r := readObject w io c.cfgObjectName rd
    if r.1 < 0 then (r.1, c)
    else
      let j := RadosCephJsonConfig.fromJson codec { c with valid := true } r.2
      (if j.1 then 0 else -1, j.2)

/-- `RadosCephConfig::save_cfg`. -/
def saveCfg (codec : JsonCodec) (w : Objects String) (io : IoCtx) (wr : Outcome)
    (c : RadosCephJsonConfig) : Int × Objects String :=
  let r := IoCtx.writeFull w io c.cfgObjectName (c.toJson codec) wr
  (if 0 ≤ r.1 then 0 else -1, r.2)

/-- `RadosDovecotCephCfgImpl::save_default_rados_config`. -/
def saveDefaultRadosConfig (codec : JsonCodec) (w : Objects String) (io : IoCtx) (wr : Outcome)
    (c : RadosCephJsonConfig) : Int × RadosCephJsonConfig × Objects String :=
  let r := saveCfg codec w io wr c
  let valid := decide (r.1 = 0)
  (if valid then 0 else -1, { c with valid := valid }, r.2)

/-- What loading the configuration leaves: the code of the load, the code after a default was
    saved for a missing object, the configuration, the cluster. -/
structure Loaded where
  loadRet : Int
  ret : Int
  json : RadosCephJsonConfig
  w : Objects String

/-- `load_rados_config`, and `save_default_rados_config` where that reports `-ENOENT`. -/
def loadOrDefault (codec : JsonCodec) (w : Objects String) (io : IoCtx) (rd : Nat → Outcome)
    (wr : Outcome) (c : RadosCephJsonConfig) : Loaded :=
  let l := loadCfg codec w io rd c
  if l.1 = -ENOENT then
    let s := saveDefaultRadosConfig codec w io wr l.2
    ⟨l.1, s.1, s.2.1, s.2.2⟩
  else ⟨l.1, l.1, l.2, w⟩

/-- The configuration a pool holds: what the document in the empty namespace says, the defaults
    where it is missing or no document. -/
def storedConfig (codec : JsonCodec) (w : Objects String) (pool cfgObjectName : String) :
    RadosCephJsonConfig :=
  let c : RadosCephJsonConfig := { cfgObjectName := cfgObjectName, valid := true }
  match (w ⟨pool, "", cfgObjectName⟩).bind codec.loads with
  | none => c
  | some v => c.setValues v

/-- The object can be read, and it is a document, or it is missing and the default can be
    written. -/
def ConfigReadable (codec : JsonCodec) (w : Objects String) (pool cfgObjectName : String)
    (rd : Nat → Outcome) (wr : Outcome) : Prop :=
  ReadSucceeds rd ∧
    match w ⟨pool, "", cfgObjectName⟩ with
    | none => wr = .done
    | some s => (codec.loads s).isSome = true

section Load

variable {codec : JsonCodec} {w : Objects String} {pool name : String} {rd : Nat → Outcome}
  {wr : Outcome} {c : RadosCephJsonConfig}

/-- A valid configuration is not loaded again. -/
theorem loadOrDefault_of_valid (h : c.valid = true) (io : IoCtx) :
    loadOrDefault codec w io rd wr c = ⟨0, 0, c, w⟩ := by
  have hl : loadCfg codec w io rd c = (0, c) := by
    unfold loadCfg
    rw [if_pos h]
  unfold loadOrDefault
  rw [hl]
  rfl

/-- **What loading does to a configuration that was not valid**: it is valid after a success, it
    is as before if it is still not valid, and other values come from the stored document. -/
theorem loadOrDefault_of_invalid (h : c.valid = false) (w : Objects String) (io : IoCtx) :
    (0 ≤ (loadOrDefault codec w io rd wr c).ret →
        (loadOrDefault codec w io rd wr c).json.valid = true) ∧
      ((loadOrDefault codec w io rd wr c).json.valid = false →
        (loadOrDefault codec w io rd wr c).json = c) ∧
      ((loadOrDefault codec w io rd wr c).json.values = c.values ∨
        ∃ s, w (io.name c.cfgObjectName) = some s ∧
          codec.loads s = some (loadOrDefault codec w io rd wr c).json.values) := by
  have hnv : ¬ (c.valid = true) := by rw [h]; decide
  by_cases hr : (readObject w io c.cfgObjectName rd).1 < 0
  · have hl : loadCfg codec w io rd c = ((readObject w io c.cfgObjectName rd).1, c) := by
      unfold loadCfg
      rw [if_neg hnv]
      dsimp only
      rw [if_pos hr]
    by_cases he : (readObject w io c.cfgObjectName rd).1 = -ENOENT
    · simp only [loadOrDefault, hl, if_pos he, saveDefaultRadosConfig]
      refine ⟨?_, ?_, Or.inl rfl⟩
      · intro h0
        split at h0
        case isTrue hd => exact hd
        case isFalse => exact absurd h0 (by decide)
      · intro hd
        rw [hd, ← h]
    · simp only [loadOrDefault, hl, if_neg he]
      exact ⟨fun h0 => absurd h0 (by omega), fun _ => trivial, Or.inl trivial⟩
  · have hw := (readObject_nonneg (Int.not_lt.mp hr)).2
    cases hv : codec.loads (readObject w io c.cfgObjectName rd).2 with
    | none =>
        have hl : loadCfg codec w io rd c = (-1, { c with valid := true }) := by
          simp [loadCfg, h, hr, RadosCephJsonConfig.fromJson, hv]
        simp only [loadOrDefault, hl, show ¬ ((-1 : Int) = -ENOENT) by decide, if_false]
        exact ⟨fun h0 => absurd h0 (by decide), fun h0 => (Bool.noConfusion h0), Or.inl rfl⟩
    | some v =>
        have hl : loadCfg codec w io rd c = (0, { c.setValues v with valid := true }) := by
          simp [loadCfg, h, hr, RadosCephJsonConfig.fromJson, hv, RadosCephJsonConfig.setValues]
        simp only [loadOrDefault, hl, show ¬ ((0 : Int) = -ENOENT) by decide, if_false]
        exact ⟨fun _ => trivial, fun h0 => Bool.noConfusion h0, Or.inr ⟨_, hw, hv⟩⟩

theorem loadCfg_of_missing (hrd : ReadSucceeds rd) (hw : w ⟨pool, "", name⟩ = none) :
    loadCfg codec w ⟨pool, ""⟩ rd { cfgObjectName := name } =
      (-ENOENT, { cfgObjectName := name }) := by
  have hr : readObject w ⟨pool, ""⟩ name rd = (-ENOENT, "") := by
    rw [readObject_of_succeeds hrd]
    exact IoCtx.read_done_none hw
  simp [loadCfg, hr, ENOENT]

theorem loadCfg_of_document (hrd : ReadSucceeds rd) {s : String} {v : JsonValues}
    (hw : w ⟨pool, "", name⟩ = some s) (hv : codec.loads s = some v) :
    loadCfg codec w ⟨pool, ""⟩ rd { cfgObjectName := name } =
      (0, storedConfig codec w pool name) := by
  have hr : readObject w ⟨pool, ""⟩ name rd = ((s.utf8ByteSize : Int), s) := by
    rw [readObject_of_succeeds hrd]
    exact IoCtx.read_done hw
  simp [loadCfg, hr, RadosCephJsonConfig.fromJson, hv, storedConfig, hw,
    RadosCephJsonConfig.setValues]

/-- **A readable configuration is loaded as it is stored.** -/
theorem loadOrDefault_of_readable (h : ConfigReadable codec w pool name rd wr) :
    (loadOrDefault codec w ⟨pool, ""⟩ rd wr { cfgObjectName := name }).json =
        storedConfig codec w pool name ∧
      (loadOrDefault codec w ⟨pool, ""⟩ rd wr { cfgObjectName := name }).ret = 0 ∧
      ¬ ((loadOrDefault codec w ⟨pool, ""⟩ rd wr { cfgObjectName := name }).loadRet ≠ -ENOENT ∧
        (loadOrDefault codec w ⟨pool, ""⟩ rd wr { cfgObjectName := name }).loadRet < 0) := by
  obtain ⟨hrd, hobj⟩ := h
  cases hw : w ⟨pool, "", name⟩ with
  | none =>
      rw [hw] at hobj
      have hwr : wr = .done := hobj
      have hl : loadCfg codec w _ rd _ = _ := loadCfg_of_missing hrd hw
      refine ⟨?_, ?_, ?_⟩
      · simp [loadOrDefault, hl, saveDefaultRadosConfig, saveCfg, hwr, IoCtx.writeFull,
          storedConfig, hw]
      · simp [loadOrDefault, hl, saveDefaultRadosConfig, saveCfg, hwr, IoCtx.writeFull]
      · simp [loadOrDefault, hl]
  | some s =>
      rw [hw] at hobj
      obtain ⟨v, hv⟩ := Option.isSome_iff_exists.mp hobj
      have hl := loadCfg_of_document hrd hw hv
      have hne : ¬ ((0 : Int) = -ENOENT) := by decide
      refine ⟨?_, ?_, ?_⟩
      · simp [loadOrDefault, hl, hne]
      · simp [loadOrDefault, hl, hne]
      · simp [loadOrDefault, hl, hne]

@[simp] theorem storedConfig_valid : (storedConfig codec w pool name).valid = true := by
  unfold storedConfig
  split <;> rfl

/-- Saving the defaults touches no mapping object: it happens only where the stored configuration
    is the default one, whose mapping objects lie in the namespace `users`. -/
theorem loadOrDefault_mapping (h : ConfigReadable codec w pool name rd wr) (uid : String) :
    (loadOrDefault codec w ⟨pool, ""⟩ rd wr { cfgObjectName := name }).w
        (mappingName ⟨true, storedConfig codec w pool name⟩ pool uid) =
      w (mappingName ⟨true, storedConfig codec w pool name⟩ pool uid) := by
  obtain ⟨hrd, hobj⟩ := h
  cases hw : w ⟨pool, "", name⟩ with
  | none =>
      have hns : storedConfig codec w pool name = { cfgObjectName := name, valid := true } := by
        simp [storedConfig, hw]
      have hne : (⟨pool, "users", uid⟩ : ObjName) ≠ ⟨pool, "", name⟩ := by
        intro e
        have : "users" = "" := congrArg ObjName.nspace e
        exact absurd this (by decide)
      rw [hns]
      unfold loadOrDefault
      rw [loadCfg_of_missing hrd hw]
      cases wr with
      | failed e => rfl
      | done => exact Function.update_of_ne (β := fun _ => Option String) hne ..
  | some s =>
      rw [hw] at hobj
      obtain ⟨v, hv⟩ := Option.isSome_iff_exists.mp hobj
      unfold loadOrDefault
      rw [loadCfg_of_document hrd hw hv]
      rfl

end Load

/-! ## 2. The namespace of a user id -/

/-- The namespace `c` maps `uid` to: the id itself without user mapping, else what the mapping
    object holds. -/
def mappedNamespace (c : RadosDovecotCephCfg) (w : Objects String) (pool uid : String) :
    Option String :=
  if uid = "" then some ""
  else if c.isUserMapping then w (mappingName c pool uid) else some uid

/-- The cache holds what the mapping objects hold. -/
def CacheOk (c : RadosDovecotCephCfg) (pool : String) (st : NsState) : Prop :=
  ∀ u v, st.cache u = some v → st.w (mappingName c pool u) = some v

/-- The mapping of `uid` is looked up in RADOS: nothing short of that decides. -/
def Uncached (c : RadosDovecotCephCfg) (cache : String → Option String) (uid : String) : Prop :=
  uid ≠ "" ∧ c.isUserMapping = true ∧ cache uid = none

/-- What a successful lookup-or-add sequence for `uid` guarantees of the namespace `ns` and the
    manager `st'` it leaves. -/
structure Resolved (c : RadosDovecotCephCfg) (uid : String) (st : NsState) (ns : String)
    (st' : NsState) : Prop where
  mapped : mappedNamespace c st'.w st.io.pool uid = some ns
  cacheOk : CacheOk c st.io.pool st'
  keeps : ∀ u v, st.cache u = some v → st'.cache u = some v
  cached : c.isUserMapping = true → uid ≠ "" → st'.cache uid = some ns
  io : st'.io = st.io ∧ ¬ Uncached c st.cache uid ∨
    st'.io = st.io.setNamespace "" ∧ Uncached c st.cache uid
  others : ∀ n, n ≠ mappingName c st.io.pool uid → st'.w n = st.w n

theorem Resolved.pool {c : RadosDovecotCephCfg} {uid ns : String} {st st' : NsState}
    (h : Resolved c uid st ns st') : st'.io.pool = st.io.pool := by
  rcases h.io with ⟨e, _⟩ | ⟨e, _⟩
  · rw [e]
  · rw [e]
    rfl

section Resolve

variable {c : RadosDovecotCephCfg} {guid : String} {rd : Nat → Outcome} {wr : Outcome}
  {uid : String} {st : NsState}

theorem cacheOk_update (h : CacheOk c st.io.pool st) (v : String) (io : IoCtx) :
    CacheOk c st.io.pool ⟨Function.update st.w (mappingName c st.io.pool uid) (some v), io,
      Function.update st.cache uid (some v)⟩ := by
  intro u v' hu
  by_cases e : u = uid
  · subst e
    simp only [Function.update_self] at hu ⊢
    exact hu
  · have hne : mappingName c st.io.pool u ≠ mappingName c st.io.pool uid := by
      intro hn
      exact e (congrArg ObjName.oid hn)
    have hu' : st.cache u = some v' := by simpa [Function.update_of_ne e] using hu
    simp only [Function.update_of_ne hne]
    exact h u v' hu'

/-- What is cached stays when another entry is added. -/
theorem cached_update (hn : st.cache uid = none) {u v' : String} {x : Option String}
    (hu : st.cache u = some v') : Function.update st.cache uid x u = some v' := by
  have hne : u ≠ uid := by
    rintro rfl
    rw [hn] at hu
    cases hu
  rw [Function.update_of_ne hne]
  exact hu

/-- **A lookup-or-add sequence that reports success hands out the mapped namespace.** -/
theorem resolves_mapped {r : Int × String × NsState} (hr : Resolves c guid rd wr uid st r)
    (h0 : 0 ≤ r.1) (hc : CacheOk c st.io.pool st) : Resolved c uid st r.2.1 r.2.2 := by
  cases hr with
  | plain h =>
      refine ⟨?_, hc, fun _ _ hu => hu, ?_, Or.inl ⟨rfl, ?_⟩, fun _ _ => rfl⟩
      · rcases h with rfl | h
        · simp [mappedNamespace]
        · by_cases hu : uid = ""
          · simp [mappedNamespace, hu]
          · simp [mappedNamespace, hu, h.2]
      · intro hm hu
        rcases h with h | h
        · exact absurd h hu
        · rw [h.2] at hm
          cases hm
      · rintro ⟨hu, hm, _⟩
        rcases h with h | h
        · exact hu h
        · rw [h.2] at hm
          cases hm
  | invalid => exact absurd h0 (show ¬ (0 : Int) ≤ -1 by decide)
  | notCreated => exact absurd h0 (show ¬ (0 : Int) ≤ -1 by decide)
  | cached hu hm v h =>
      refine ⟨?_, hc, fun _ _ hu => hu, fun _ _ => h, Or.inl ⟨rfl, ?_⟩, fun _ _ => rfl⟩
      · simp only [mappedNamespace, hu, if_false, hm.2, if_true]
        exact hc uid v h
      · rintro ⟨_, _, hn⟩
        rw [h] at hn
        cases hn
  | found hu hm hn hrd v hv h =>
      have hw : Function.update st.w (mappingName c st.io.pool uid) (some v) = st.w := by
        rw [← h]
        exact Function.update_eq_self ..
      refine ⟨?_, ?_, ?_, ?_, Or.inr ⟨rfl, hu, hm.2, hn⟩, fun _ _ => rfl⟩
      · simp only [mappedNamespace, hu, if_false, hm.2, if_true]
        exact h
      · have := @cacheOk_update c uid st hc v (st.io.setNamespace "")
        rw [hw] at this
        exact this
      · exact fun u v' hu' => cached_update hn hu'
      · intro _ _
        exact Function.update_self ..
  | created hu hm hn hrd hw =>
      refine ⟨?_, cacheOk_update hc guid _, ?_, ?_, Or.inr ⟨rfl, hu, hm.2, hn⟩, ?_⟩
      · simp only [mappedNamespace, hu, if_false, hm.2, if_true]
        exact Function.update_self (β := fun _ => Option String) ..
      · exact fun u v' hu' => cached_update hn hu'
      · intro _ _
        exact Function.update_self ..
      · intro n hne
        exact Function.update_of_ne (β := fun _ => Option String) hne ..

/-- The lookup finds the mapping, or it may create it. -/
def LookupOk (c : RadosDovecotCephCfg) (rd : Nat → Outcome) (wr : Outcome) (uid : String)
    (st : NsState) : Prop :=
  Uncached c st.cache uid →
    wr = .done ∨ ReadSucceeds rd ∧ ∃ v, v ≠ "" ∧ st.w (mappingName c st.io.pool uid) = some v

/-- With a valid configuration that is enough for the sequence to report success. -/
theorem resolves_nonneg {r : Int × String × NsState} (hr : Resolves c guid rd wr uid st r)
    (hv : c.isConfigValid = true) (hok : LookupOk c rd wr uid st) : 0 ≤ r.1 := by
  cases hr with
  | plain => exact Int.le_refl 0
  | cached => exact Int.le_refl 0
  | found => exact Int.le_refl 0
  | created => exact Int.le_refl 0
  | invalid _ h =>
      rw [hv] at h
      cases h
  | notCreated hu hm hn hrd hw =>
      rcases hok ⟨hu, hm.2, hn⟩ with h | ⟨hs, v, hne, h⟩
      · exact absurd h hw
      · exact absurd (hrd hs v h) hne

end Resolve

/-- A codec for configuration documents with the default attributes. -/
def plainCodec : JsonCodec :=
  let dumps : JsonValues → String := fun v =>
    "\x7b\"user_mapping\": \"" ++ v.userMapping ++ "\", \"user_ns\": \"" ++ v.userNs ++
    "\", \"user_suffix\": \"" ++ v.userSuffix ++ "\", \"rbox_public_namespace\": \"" ++
    v.publicNamespace ++ "\", \"rbox_mail_attributes\": \"MGPOIZVBUX\", " ++
    "\"rbox_updateable_attributes\": \"B\", \"rbox_update_attributes\": \"false\", " ++
    "\"rbox_metadata_storage\": \"default\", \"rbox_storage_metadata_attr\": \"ima\"\x7d"
  let mapped : JsonValues := ⟨"true", "users", "_u", "public"⟩
  ⟨fun s => if s = dumps mapped then some mapped else none, dumps⟩

end DovecotCeph
