/-
  File:      DovecotCeph/Librmb/ConfigLoad.lean
  Subject:   Loading the ceph configuration object with all its entries (rados-ceph-config.cpp,
             rados-ceph-json-config.cpp), whatever the object holds.

  `load_cfg` marks the configuration as valid before it parses the document, and `from_json`
  assigns the entries one by one, a missing one as a null pointer.
  * `loadCfg_erase`: on documents with all entries this is `loadCfg`;
  * **`honest_loads_iff`**: for which sequences of loads the code tells whether the configuration
    is the stored one.
-/
import DovecotCeph.Librmb.CephConfig
import DovecotCeph.Lib.Run

namespace DovecotCeph

open Lib

/-! ## 1. The configuration -/

/-- `RadosCephJsonConfig` with all entries. -/
structure CephJsonConfigAll extends RadosCephJsonConfig where
  updateAttributes : String := "false"
  mailAttributes : String := "MGPORZVBUI"
  updateableAttributes : String := "B"
  metadataStorageModule : String := "default"
  metadataStorageAttribute : String := "ima"
  deriving DecidableEq, Repr

/-- The nine values of a configuration. -/
structure ConfigValues extends JsonValues where
  updateAttributes : String
  mailAttributes : String
  updateableAttributes : String
  metadataStorageModule : String
  metadataStorageAttribute : String
  deriving DecidableEq, Repr

/-- The JSON library: whether a text is a document, and what `json_string_value` gives for an entry
    of its root, `none` where there is no such string. -/
abbrev JsonLoads := String → Option (String → Option String)

namespace CephJsonConfigAll

def allValues (c : CephJsonConfigAll) : ConfigValues :=
  ⟨c.toRadosCephJsonConfig.values, c.updateAttributes, c.mailAttributes, c.updateableAttributes,
    c.metadataStorageModule, c.metadataStorageAttribute⟩

def keyUserMapping : String := "user_mapping"

def keyUserNs : String := "user_ns"

def keyUserSuffix : String := "user_suffix"

def keyPublicNamespace : String := "rbox_public_namespace"

def keyUpdateAttributes : String := "rbox_update_attributes"

def keyMailAttributes : String := "rbox_mail_attributes"

def keyUpdateableAttributes : String := "rbox_updateable_attributes"

def keyMetadataStorageModule : String := "rbox_metadata_storage"

def keyMetadataStorageAttribute : String := "rbox_storage_metadata_attr"

/-- `RadosCephJsonConfig::from_json`: result and configuration, `none` where a string is assigned
    from a null pointer. -/
def fromJson (loads : JsonLoads) (c : CephJsonConfigAll) (buffer : String) :
    Option (Bool × CephJsonConfigAll) :=
  match loads (cStr buffer) with
  | none => some (false, c)
  | some root => do
    let ns ← root keyUserMapping
    let c := { c with userMapping := ns }
    let nsCfg ← root keyUserNs
    let c := { c with userNs := nsCfg }
    let nsSuffix ← root keyUserSuffix
    let c := { c with userSuffix := nsSuffix }
    let publicNamespace ← root keyPublicNamespace
    let c := { c with publicNamespace := publicNamespace }
    let mailUpdateAttributes ← root keyUpdateAttributes
    let c := { c with updateAttributes := mailUpdateAttributes }
    let mailAttributes ← root keyMailAttributes
    let c := { c with mailAttributes := mailAttributes }
    let updateableAttributes ← root keyUpdateableAttributes
    let c := { c with updateableAttributes := updateableAttributes }
    let metadataStorage ← root keyMetadataStorageModule
    let c := { c with metadataStorageModule := metadataStorage }
    let metadataStorageAttr ← root keyMetadataStorageAttribute
    let c := { c with metadataStorageAttribute := metadataStorageAttr }
    return (true, { c with valid := true })

/-- The nine values of a document, if it has them as strings. -/
def documentValues (root : String → Option String) : Option ConfigValues := do
  let userMapping ← root keyUserMapping
  let userNs ← root keyUserNs
  let userSuffix ← root keyUserSuffix
  let publicNamespace ← root keyPublicNamespace
  let updateAttributes ← root keyUpdateAttributes
  let mailAttributes ← root keyMailAttributes
  let updateableAttributes ← root keyUpdateableAttributes
  let storageModule ← root keyMetadataStorageModule
  let storageAttribute ← root keyMetadataStorageAttribute
  return ⟨⟨userMapping, userNs, userSuffix, publicNamespace⟩, updateAttributes, mailAttributes,
    updateableAttributes, storageModule, storageAttribute⟩

/-- The configuration with other values. -/
def setAllValues (c : CephJsonConfigAll) (v : ConfigValues) : CephJsonConfigAll :=
  { c with
    toRadosCephJsonConfig := c.toRadosCephJsonConfig.setValues v.toJsonValues
    updateAttributes := v.updateAttributes, mailAttributes := v.mailAttributes
    updateableAttributes := v.updateableAttributes
    metadataStorageModule := v.metadataStorageModule
    metadataStorageAttribute := v.metadataStorageAttribute }

/-- `RadosCephConfig::load_cfg`. -/
def loadCfg (loads : JsonLoads) (w : Objects String) (io : IoCtx) (rd : Nat → Outcome)
    (c : CephJsonConfigAll) : Option (Int × CephJsonConfigAll) :=
  if c.valid then some (0, c)
  else
    let r := readObject w io c.cfgObjectName rd
    if r.1 < 0 then some (r.1, c)
    else
      (fromJson loads { c with valid := true } r.2).map fun j => (if j.1 then 0 else -1, j.2)

/-! ## 2. One load -/

section Load

variable {loads : JsonLoads} {w : Objects String} {io : IoCtx} {rd : Nat → Outcome}
  {c : CephJsonConfigAll} {buffer : String}

theorem fromJson_malformed (h : loads (cStr buffer) = none) :
    fromJson loads c buffer = some (false, c) := by
  rw [fromJson, h]

/-- **A document**: its nine values are assigned, or the process ends. -/
theorem fromJson_document {root : String → Option String} (h : loads (cStr buffer) = some root) :
    fromJson loads c buffer =
      (documentValues root).map fun v => (true, { c.setAllValues v with valid := true }) := by
  unfold fromJson documentValues
  rw [h]
  simp only [Option.bind_eq_bind, Option.map_bind, Function.comp_def, Option.pure_def,
    Option.map_some]
  rfl

/-- **Without the other five values this is `RadosCephJsonConfig`'s load**, as long as the process
    lives. -/
theorem loadCfg_erase {codec : JsonCodec}
    (hcodec : ∀ s, codec.loads s =
      (loads (cStr s)).bind fun root => (documentValues root).map (·.toJsonValues))
    {r : Int × CephJsonConfigAll} (h : loadCfg loads w io rd c = some r) :
    DovecotCeph.loadCfg codec w io rd c.toRadosCephJsonConfig =
      (r.1, r.2.toRadosCephJsonConfig) := by
  unfold loadCfg at h
  unfold DovecotCeph.loadCfg
  split at h
  case isTrue hv =>
    cases h
    exact if_pos hv
  case isFalse hv =>
    rw [if_neg hv]
    dsimp only at h ⊢
    split at h
    case isTrue hr =>
      cases h
      exact if_pos hr
    case isFalse hr =>
      rw [if_neg hr]
      generalize (readObject w io c.cfgObjectName rd).2 = buffer at h
      unfold RadosCephJsonConfig.fromJson
      rw [hcodec]
      cases hl : loads (cStr buffer) with
      | none =>
          rw [fromJson_malformed hl] at h
          cases h
          rfl
      | some root =>
          rw [fromJson_document hl] at h
          cases hd : documentValues root with
          | none =>
              rw [hd] at h
              cases h
          | some v =>
              rw [hd] at h
              cases h
              simp only [Option.bind_some, hd, Option.map_some]
              rfl

end Load

/-! ## 3. Sequences of loads -/

/-- The cluster a load finds, and how its reads end. -/
structure LoadCall where
  w : Objects String
  rd : Nat → Outcome

/-- The nine values of the stored object, if it is a document with all of them. -/
def storedValues (loads : JsonLoads) (w : Objects String) (io : IoCtx) (name : String) :
    Option ConfigValues :=
  (w (io.name name)).bind fun s => (loads (cStr s)).bind documentValues

/-- A load of the configuration, as long as the process lives. -/
def loadStep (loads : JsonLoads) (io : IoCtx) (c : Option CephJsonConfigAll) (a : LoadCall) :
    Option CephJsonConfigAll :=
  c.bind fun c => (loadCfg loads a.w io a.rd c).map Prod.snd

/-- **The code tells the truth**: the load returns; if it returns zero, the configuration is the
    stored one; otherwise the configuration is not valid, and its values are as before. -/
def Honest (loads : JsonLoads) (io : IoCtx) (c : Option CephJsonConfigAll) (a : LoadCall) : Prop :=
  ∀ cfg, c = some cfg → ∃ r, loadCfg loads a.w io a.rd cfg = some r ∧
    (r.1 = 0 → storedValues loads a.w io r.2.cfgObjectName = some r.2.allValues) ∧
    (r.1 ≠ 0 → r.2.valid = false ∧ r.2.allValues = cfg.allValues)

/-- A valid configuration is the stored one; for one that is not, the object cannot be read, or is
    a document with all nine values. -/
def Loadable (loads : JsonLoads) (io : IoCtx) (c : Option CephJsonConfigAll) (a : LoadCall) :
    Prop :=
  ∀ cfg, c = some cfg →
    if cfg.valid then storedValues loads a.w io cfg.cfgObjectName = some cfg.allValues
    else ¬ ReadSucceeds a.rd ∨ a.w (io.name cfg.cfgObjectName) = none ∨
      storedValues loads a.w io cfg.cfgObjectName ≠ none

section Sequence

variable {loads : JsonLoads} {io : IoCtx}

/-- A read that reports a failure has failed, or there is no object. -/
theorem readObject_neg {w : Objects String} {oid : String} {rd : Nat → Outcome}
    (h : (readObject w io oid rd).1 < 0) : ¬ ReadSucceeds rd ∨ w (io.name oid) = none := by
  by_cases hs : ReadSucceeds rd
  · refine .inr ?_
    cases hw : w (io.name oid) with
    | none => rfl
    | some s =>
        rw [readObject_of_succeeds hs, IoCtx.read_done hw] at h
        exact absurd h (Int.not_lt.mpr (Int.natCast_nonneg _))
  · exact .inl hs

/-- The load of an object that was read is honest exactly if it is a document with all values. -/
theorem honest_read_iff {w : Objects String} {cfg : CephJsonConfigAll} {s : String}
    (hw : w (io.name cfg.cfgObjectName) = some s) :
    (∃ r, ((fromJson loads { cfg with valid := true } s).map fun j =>
        (if j.1 then (0 : Int) else -1, j.2)) = some r ∧
      (r.1 = 0 → storedValues loads w io r.2.cfgObjectName = some r.2.allValues) ∧
      (r.1 ≠ 0 → r.2.valid = false ∧ r.2.allValues = cfg.allValues)) ↔
      storedValues loads w io cfg.cfgObjectName ≠ none := by
  have hstored : storedValues loads w io cfg.cfgObjectName =
      (loads (cStr s)).bind documentValues := by
    rw [storedValues, hw, Option.bind_some]
  rw [hstored]
  cases hl : loads (cStr s) with
  | none =>
      -- the flag stays set
      rw [fromJson_malformed hl]
      refine iff_of_false (fun h => ?_) (fun h => h rfl)
      obtain ⟨r, hr, _, h1⟩ := h
      cases hr
      exact Bool.noConfusion (h1 (show (-1 : Int) ≠ 0 by decide)).1
  | some root =>
      rw [fromJson_document hl, Option.bind_some]
      cases hd : documentValues root with
      | none =>
          refine iff_of_false (fun h => ?_) (fun h => h rfl)
          obtain ⟨r, hr, _⟩ := h
          cases hr
      | some v =>
          refine iff_of_true ⟨_, rfl, fun _ => ?_, fun h0 => absurd rfl h0⟩
            (Option.some_ne_none _)
          show storedValues loads w io cfg.cfgObjectName = some v
          rw [hstored, hl, Option.bind_some, hd]

/-- **One load.** -/
theorem honest_iff_loadable (c : Option CephJsonConfigAll) (a : LoadCall) :
    Honest loads io c a ↔ Loadable loads io c a := by
  refine forall_congr' fun cfg => imp_congr_right fun _ => ?_
  unfold loadCfg
  by_cases hv : cfg.valid = true
  · -- nothing is read
    rw [if_pos hv, if_pos hv]
    constructor
    · intro h
      obtain ⟨r, hr, h0, _⟩ := h
      cases hr
      exact h0 rfl
    · intro h
      exact ⟨_, rfl, fun _ => h, fun h0 => absurd rfl h0⟩
  · rw [if_neg hv, if_neg hv]
    dsimp only
    by_cases hr : (readObject a.w io cfg.cfgObjectName a.rd).1 < 0
    · rw [if_pos hr]
      refine iff_of_true ⟨_, rfl, fun h0 => ?_, fun _ => ⟨eq_false_of_ne_true hv, rfl⟩⟩ ?_
      · have hzero : (readObject a.w io cfg.cfgObjectName a.rd).1 = 0 := h0
        omega
      · exact (readObject_neg hr).imp_right .inl
    · rw [if_neg hr]
      obtain ⟨hs, hw⟩ := readObject_nonneg (Int.not_lt.mp hr)
      rw [honest_read_iff hw, hw]
      simp [hs]

end Sequence

/-- **Loads are honest if and only if each finds the configuration loadable**: for every sequence of
    loads, from any configuration on. -/
theorem honest_loads_iff (loads : JsonLoads) (io : IoCtx) (c : CephJsonConfigAll)
    (calls : List LoadCall) :
    Along (loadStep loads io) (Honest loads io) (some c) calls ↔
      Along (loadStep loads io) (Loadable loads io) (some c) calls := by
  have hstep : Honest loads io = Loadable loads io :=
    funext fun c => funext fun a => propext (honest_iff_loadable c a)
  rw [hstep]

/-- A text that is no document, as the object `rbox_cfg`. -/
def brokenConfig : LoadCall := ⟨fun _ => some "no document", fun _ => .done⟩

/-- The first load of a broken document fails, the second one succeeds with the defaults. -/
theorem broken_document_loaded :
    ¬ Along (loadStep (fun _ => none) ⟨"mail_storage", ""⟩)
        (Honest (fun _ => none) ⟨"mail_storage", ""⟩) (some {}) [brokenConfig, brokenConfig] ∧
      (loadStep (fun _ => none) ⟨"mail_storage", ""⟩ (some {}) brokenConfig).bind
          (loadCfg (fun _ => none) brokenConfig.w ⟨"mail_storage", ""⟩ brokenConfig.rd) =
        some (0, { toRadosCephJsonConfig := { valid := true } }) := by
  have hfirst : loadCfg (fun _ => none) brokenConfig.w ⟨"mail_storage", ""⟩ brokenConfig.rd {} =
      some (-1, { toRadosCephJsonConfig := { valid := true } }) := by decide +kernel
  refine ⟨fun h => ?_, by decide +kernel⟩
  obtain ⟨r, hr, _, h1⟩ := h.1 {} rfl
  rw [hfirst] at hr
  cases hr
  exact Bool.noConfusion (h1 (by decide)).1

end CephJsonConfigAll

end DovecotCeph
