/-
  File:      DovecotCeph/Librmb/ConfigUpdate.lean
  Subject:   Changing an entry of the ceph configuration (rados-ceph-config.cpp): the check
             `is_valid_key_value`, the update, and the command `rmb cfg update key=value`
             (rmb-commands.cpp).

  The update goes through the same nine keys as the check, and looks at no value.
  * `CfgKey`: the nine keys, each with its field and the values the check accepts for it;
  * `isValidKeyValue_iff`, `updateValidKeyValue_eq`: the two chains of comparisons in these terms;
  * **`config_update_obeys_iff`**: which updates obey the check.
-/
import DovecotCeph.Librmb.ConfigLoad
import DovecotCeph.Librmb.SaveLog

namespace DovecotCeph

/-! ## 1. The configuration -/

/-- The strings of `RadosCephJsonConfig`, byte by byte. -/
structure CfgStrings where
  cfgObjectName : ByteString := bytesOf "rbox_cfg"
  valid : Bool := false
  userMapping : ByteString := bytesOf "false"
  userNs : ByteString := bytesOf "users"
  userSuffix : ByteString := bytesOf "_u"
  publicNamespace : ByteString := bytesOf "public"
  updateAttributes : ByteString := bytesOf "false"
  mailAttributes : ByteString := bytesOf "MGPORZVBUI"
  updateableAttributes : ByteString := bytesOf "B"
  metadataStorageModule : ByteString := bytesOf "default"
  metadataStorageAttribute : ByteString := bytesOf "ima"
  deriving DecidableEq, Repr

open CephJsonConfigAll

/-- A text the check accepts for a switch. -/
def isSwitch (value : ByteString) : Bool := value = bytesOf "true" || value = bytesOf "false"

/-- The name of a metadata module. -/
def isModule (value : ByteString) : Bool := value = bytesOf "default" || value = bytesOf "ima"

/-- `RadosCephConfig::is_valid_key_value`. -/
def isValidKeyValue (key value : ByteString) : Bool :=
  if value = [] ∨ key = [] then false
  else if bytesOf keyUserMapping = key then isSwitch value
  else if bytesOf keyUserNs = key then true
  else if bytesOf keyUserSuffix = key then true
  else if bytesOf keyPublicNamespace = key then true
  else if bytesOf keyMailAttributes = key then true
  else if bytesOf keyUpdateableAttributes = key then true
  else if bytesOf keyUpdateAttributes = key then isSwitch value
  else if bytesOf keyMetadataStorageModule = key then isModule value
  else if bytesOf keyMetadataStorageAttribute = key then true
  else false

/-- `RadosCephConfig::update_valid_key_value`: result and configuration. -/
def updateValidKeyValue (key value : ByteString) (c : CfgStrings) : Bool × CfgStrings :=
  if value = [] ∨ key = [] then (false, c)
  else if bytesOf keyUserMapping = key then (true, { c with userMapping := value })
  else if bytesOf keyUserNs = key then (true, { c with userNs := value })
  else if bytesOf keyUserSuffix = key then (true, { c with userSuffix := value })
  else if bytesOf keyPublicNamespace = key then (true, { c with publicNamespace := value })
  else if bytesOf keyMailAttributes = key then (true, { c with mailAttributes := value })
  else if bytesOf keyUpdateableAttributes = key then
    (true, { c with updateableAttributes := value })
  else if bytesOf keyUpdateAttributes = key then (true, { c with updateAttributes := value })
  else if bytesOf keyMetadataStorageModule = key then
    (true, { c with metadataStorageModule := value })
  else if bytesOf keyMetadataStorageAttribute = key then
    (true, { c with metadataStorageAttribute := value })
  else (false, c)

/-! ## 2. The command -/

/-- What `rmb cfg` leaves: its code, the configuration in memory, and the one that was saved. -/
structure CfgRun where
  code : Int
  cfg : CfgStrings
  saved : Option CfgStrings
  deriving DecidableEq

/-- `RmbCommands::configuration`; `save` is whether `save_cfg` succeeds. -/
def configuration (opts : ByteString → Option ByteString) (confirmed save : Bool)
    (c : CfgStrings) : CfgRun :=
  let hasLs := (opts (bytesOf "print_cfg")).isSome
  match opts (bytesOf "update") with
  | none => ⟨if hasLs then 0 else -1, c, none⟩
  | some update =>
    if hasLs || !confirmed then ⟨-1, c, none⟩
    else
      match update.idxOf? '='.toUInt8 with
      | none => ⟨-1, c, none⟩
      | some i =>
        let r := updateValidKeyValue (update.take i)
          ((update.drop (i + 1)).take (update.length - 1)) c
        if !r.1 then ⟨-1, r.2, none⟩
        else if save then ⟨0, r.2, some r.2⟩
        else ⟨-1, r.2, none⟩

/-! ## 3. Keys -/

/-- The nine keys. -/
inductive CfgKey where
  | userMapping
  | userNs
  | userSuffix
  | publicNamespace
  | mailAttributes
  | updateableAttributes
  | updateAttributes
  | metadataStorageModule
  | metadataStorageAttribute
  deriving DecidableEq, Repr

namespace CfgKey

def all : List CfgKey :=
  [userMapping, userNs, userSuffix, publicNamespace, mailAttributes, updateableAttributes,
    updateAttributes, metadataStorageModule, metadataStorageAttribute]

theorem mem_all (k : CfgKey) : k ∈ all := by cases k <;> decide

/-- The key in the document and on the command line. -/
def text : CfgKey → String
  | userMapping => keyUserMapping
  | userNs => keyUserNs
  | userSuffix => keyUserSuffix
  | publicNamespace => keyPublicNamespace
  | mailAttributes => keyMailAttributes
  | updateableAttributes => keyUpdateableAttributes
  | updateAttributes => keyUpdateAttributes
  | metadataStorageModule => keyMetadataStorageModule
  | metadataStorageAttribute => keyMetadataStorageAttribute

def name (k : CfgKey) : ByteString := bytesOf k.text

/-- The field of the key. -/
def get (k : CfgKey) (c : CfgStrings) : ByteString :=
  match k with
  | userMapping => c.userMapping
  | userNs => c.userNs
  | userSuffix => c.userSuffix
  | publicNamespace => c.publicNamespace
  | mailAttributes => c.mailAttributes
  | updateableAttributes => c.updateableAttributes
  | updateAttributes => c.updateAttributes
  | metadataStorageModule => c.metadataStorageModule
  | metadataStorageAttribute => c.metadataStorageAttribute

def set (k : CfgKey) (value : ByteString) (c : CfgStrings) : CfgStrings :=
  match k with
  | userMapping => { c with userMapping := value }
  | userNs => { c with userNs := value }
  | userSuffix => { c with userSuffix := value }
  | publicNamespace => { c with publicNamespace := value }
  | mailAttributes => { c with mailAttributes := value }
  | updateableAttributes => { c with updateableAttributes := value }
  | updateAttributes => { c with updateAttributes := value }
  | metadataStorageModule => { c with metadataStorageModule := value }
  | metadataStorageAttribute => { c with metadataStorageAttribute := value }

/-- The values the check accepts, of those that are not empty. -/
def accepts : CfgKey → ByteString → Bool
  | userMapping, value => isSwitch value
  | updateAttributes, value => isSwitch value
  | metadataStorageModule, value => isModule value
  | _, _ => true

/-- The key of a name. -/
def ofName (key : ByteString) : Option CfgKey := all.find? (·.name = key)

theorem name_injective : ∀ k ∈ all, ∀ k' ∈ all, k.name = k'.name → k = k' := by decide +kernel

theorem name_ne_nil : ∀ k ∈ all, k.name ≠ [] := by decide +kernel

theorem ofName_eq_some {key : ByteString} {k : CfgKey} : ofName key = some k ↔ k.name = key := by
  have hfound : ∀ {k' : CfgKey}, ofName key = some k' → k'.name = key := by
    intro k' h
    exact of_decide_eq_true (List.find?_some (p := fun k : CfgKey => decide (k.name = key)) h)
  refine ⟨hfound, fun h => ?_⟩
  cases hk : ofName key with
  | none =>
      have hne := List.find?_eq_none.mp hk k k.mem_all
      exact absurd (decide_eq_true h) hne
  | some k' =>
      rw [name_injective k' k'.mem_all k k.mem_all ((hfound hk).trans h.symm)]

theorem ofName_eq_none {key : ByteString} : ofName key = none ↔ ∀ k : CfgKey, k.name ≠ key := by
  rw [Option.eq_none_iff_forall_ne_some]
  exact forall_congr' fun k => not_congr ofName_eq_some

variable {k k' : CfgKey} {value : ByteString} {c : CfgStrings}

@[simp] theorem get_set_self : k.get (k.set value c) = value := by cases k <;> rfl

theorem get_set_ne (h : k' ≠ k) : k'.get (k.set value c) = k'.get c := by
  cases k <;> cases k' <;> first | rfl | exact absurd rfl h

@[simp] theorem set_valid : (k.set value c).valid = c.valid := by cases k <;> rfl

@[simp] theorem set_cfgObjectName : (k.set value c).cfgObjectName = c.cfgObjectName := by
  cases k <;> rfl

/-- **A chain of comparisons with the nine keys** is a look at the key of the name. -/
theorem chain_eq {α : Type} (key : ByteString) (f : CfgKey → α) (other : α) :
    (if bytesOf keyUserMapping = key then f userMapping
      else if bytesOf keyUserNs = key then f userNs
      else if bytesOf keyUserSuffix = key then f userSuffix
      else if bytesOf keyPublicNamespace = key then f publicNamespace
      else if bytesOf keyMailAttributes = key then f mailAttributes
      else if bytesOf keyUpdateableAttributes = key then f updateableAttributes
      else if bytesOf keyUpdateAttributes = key then f updateAttributes
      else if bytesOf keyMetadataStorageModule = key then f metadataStorageModule
      else if bytesOf keyMetadataStorageAttribute = key then f metadataStorageAttribute
      else other) = ((ofName key).map f).getD other := by
  cases h : ofName key with
  | some k =>
      obtain rfl := ofName_eq_some.mp h
      cases k <;> rfl
  | none =>
      have hne := ofName_eq_none.mp h
      refine (if_neg (hne userMapping)).trans ?_
      refine (if_neg (hne userNs)).trans ?_
      refine (if_neg (hne userSuffix)).trans ?_
      refine (if_neg (hne publicNamespace)).trans ?_
      refine (if_neg (hne mailAttributes)).trans ?_
      refine (if_neg (hne updateableAttributes)).trans ?_
      refine (if_neg (hne updateAttributes)).trans ?_
      refine (if_neg (hne metadataStorageModule)).trans ?_
      exact if_neg (hne metadataStorageAttribute)

end CfgKey

theorem isValidKeyValue_eq (key value : ByteString) :
    isValidKeyValue key value =
      if value = [] ∨ key = [] then false
      else ((CfgKey.ofName key).map (·.accepts value)).getD false := by
  rw [← CfgKey.chain_eq]
  rfl

theorem updateValidKeyValue_eq (key value : ByteString) (c : CfgStrings) :
    updateValidKeyValue key value c =
      if value = [] ∨ key = [] then (false, c)
      else ((CfgKey.ofName key).map fun k => (true, k.set value c)).getD (false, c) := by
  rw [← CfgKey.chain_eq]
  rfl

/-! ## 4. Obeying the check -/

/-- **An update obeys the check**: it succeeds exactly if the check accepts the pair, a pair that is
    rejected changes nothing, and one that is accepted only the field of its key. -/
structure ObeysCheck (key value : ByteString) (c : CfgStrings) : Prop where
  agrees : (updateValidKeyValue key value c).1 = true ↔ isValidKeyValue key value = true
  rejected : (updateValidKeyValue key value c).1 = false → (updateValidKeyValue key value c).2 = c
  accepted : (updateValidKeyValue key value c).1 = true → ∃ k : CfgKey, k.name = key ∧
    k.get (updateValidKeyValue key value c).2 = value ∧
    (∀ k' : CfgKey, k' ≠ k → k'.get (updateValidKeyValue key value c).2 = k'.get c) ∧
    (updateValidKeyValue key value c).2.valid = c.valid ∧
    (updateValidKeyValue key value c).2.cfgObjectName = c.cfgObjectName

/-- `rmb cfg update key=value` saves nothing but what the check accepts. -/
def SavesValid (key value : ByteString) (c : CfgStrings) : Prop :=
  ∀ opts confirmed save, opts (bytesOf "update") = some (key ++ '='.toUInt8 :: value) →
    '='.toUInt8 ∉ key → (configuration opts confirmed save c).saved ≠ none →
    isValidKeyValue key value = true

/-- A value the check rejects for a key it looks at the values of. -/
def Unchecked (key value : ByteString) : Prop :=
  value ≠ [] ∧
    ((key = bytesOf keyUserMapping ∨ key = bytesOf keyUpdateAttributes) ∧
        isSwitch value = false ∨
      key = bytesOf keyMetadataStorageModule ∧ isModule value = false)

instance (key value : ByteString) : Decidable (Unchecked key value) :=
  inferInstanceAs (Decidable (_ ∧ ((_ ∨ _) ∧ _ ∨ _ ∧ _)))

section Check

variable {key value : ByteString} {c : CfgStrings}

theorem unchecked_iff :
    Unchecked key value ↔ value ≠ [] ∧ ∃ k : CfgKey, k.name = key ∧ k.accepts value = false := by
  refine and_congr_right fun _ => ?_
  constructor
  · intro h
    rcases h with ⟨h | h, hvalue⟩ | ⟨h, hvalue⟩
    · exact ⟨.userMapping, h.symm, hvalue⟩
    · exact ⟨.updateAttributes, h.symm, hvalue⟩
    · exact ⟨.metadataStorageModule, h.symm, hvalue⟩
  · intro h
    obtain ⟨k, rfl, hvalue⟩ := h
    cases k
    case userMapping => exact .inl ⟨.inl rfl, hvalue⟩
    case updateAttributes => exact .inl ⟨.inr rfl, hvalue⟩
    case metadataStorageModule => exact .inr ⟨rfl, hvalue⟩
    all_goals cases hvalue

/-- The update and the check, for a key of the nine. -/
theorem update_name (k : CfgKey) (value : ByteString) (c : CfgStrings) :
    updateValidKeyValue k.name value c =
        (if value = [] then (false, c) else (true, k.set value c)) ∧
      isValidKeyValue k.name value = if value = [] then false else k.accepts value := by
  have hname : CfgKey.ofName k.name = some k := CfgKey.ofName_eq_some.mpr rfl
  have hne := CfgKey.name_ne_nil k k.mem_all
  rw [updateValidKeyValue_eq, isValidKeyValue_eq, hname]
  simp [hne]

/-- Another key is rejected by both. -/
theorem update_other (h : ∀ k : CfgKey, k.name ≠ key) (value : ByteString) (c : CfgStrings) :
    updateValidKeyValue key value c = (false, c) ∧ isValidKeyValue key value = false := by
  rw [updateValidKeyValue_eq, isValidKeyValue_eq, CfgKey.ofName_eq_none.mpr h]
  simp

/-- **One update.** -/
theorem obeysCheck_iff : ObeysCheck key value c ↔ ¬ Unchecked key value := by
  rw [unchecked_iff]
  by_cases hk : ∃ k : CfgKey, k.name = key
  · obtain ⟨k, rfl⟩ := hk
    obtain ⟨hupdate, hvalid⟩ := update_name k value c
    by_cases hnil : value = []
    · rw [if_pos hnil] at hupdate hvalid
      refine iff_of_true ⟨?_, fun _ => ?_, fun h => ?_⟩ fun h => h.1 hnil
      · rw [hupdate, hvalid]
      · rw [hupdate]
      · rw [hupdate] at h
        cases h
    · rw [if_neg hnil] at hupdate hvalid
      have haccepts : k.accepts value = true ↔
          ¬ (value ≠ [] ∧ ∃ k' : CfgKey, k'.name = k.name ∧ k'.accepts value = false) := by
        constructor
        · intro h hex
          obtain ⟨-, k', hname, hfalse⟩ := hex
          rw [CfgKey.name_injective k' k'.mem_all k k.mem_all hname, h] at hfalse
          cases hfalse
        · intro h
          by_contra hfalse
          exact h ⟨hnil, k, rfl, by simpa using hfalse⟩
      rw [← haccepts]
      constructor
      · intro h
        have hagrees := h.agrees
        rw [hupdate, hvalid] at hagrees
        exact hagrees.mp rfl
      · intro h
        refine ⟨?_, fun hfalse => ?_, fun _ => ⟨k, rfl, ?_, fun k' hne => ?_, ?_, ?_⟩⟩
        · rw [hupdate, hvalid, h]
        · rw [hupdate] at hfalse
          cases hfalse
        · rw [hupdate, CfgKey.get_set_self]
        · rw [hupdate, CfgKey.get_set_ne hne]
        · rw [hupdate, CfgKey.set_valid]
        · rw [hupdate, CfgKey.set_cfgObjectName]
  · have hne : ∀ k : CfgKey, k.name ≠ key := fun k h => hk ⟨k, h⟩
    obtain ⟨hupdate, hvalid⟩ := update_other hne value c
    refine iff_of_true ⟨?_, fun _ => ?_, fun h => ?_⟩ fun h => ?_
    · rw [hupdate, hvalid]
    · rw [hupdate]
    · rw [hupdate] at h
      cases h
    · obtain ⟨-, k, hname, -⟩ := h
      exact hne k hname

/-- What the command saves has gone through the update. -/
theorem configuration_saved {opts : ByteString → Option ByteString} {confirmed save : Bool}
    (hopts : opts (bytesOf "update") = some (key ++ '='.toUInt8 :: value))
    (hkey : '='.toUInt8 ∉ key) (h : (configuration opts confirmed save c).saved ≠ none) :
    (updateValidKeyValue key value c).1 = true := by
  have hrest : ((key ++ '='.toUInt8 :: value).drop (key.length + 1)).take
      ((key ++ '='.toUInt8 :: value).length - 1) = value := by
    rw [List.append_cons, List.drop_left' (by rw [List.length_append, List.length_singleton])]
    refine List.take_of_length_le ?_
    simp only [List.length_append, List.length_cons]
    omega
  by_contra hfalse
  refine h ?_
  unfold configuration
  rw [hopts]
  dsimp only
  split
  · rfl
  · rw [Lib.idxOf?_append_self hkey]
    dsimp only
    rw [List.take_left, hrest, if_pos (by simpa using hfalse)]

end Check

/-- **Updates and the check**: an update obeys the check, and the command saves only what the check
    accepts, exactly if the value is not one of those that are only checked there. -/
theorem config_update_obeys_iff (key value : ByteString) (c : CfgStrings) :
    ObeysCheck key value c ∧ SavesValid key value c ↔ ¬ Unchecked key value := by
  rw [← @obeysCheck_iff key value c]
  refine and_iff_left_of_imp fun h => ?_
  intro opts confirmed save hopts hkey hsaved
  exact h.agrees.mp (configuration_saved hopts hkey hsaved)

/-- `rmb cfg update user_mapping=TRUE --yes-i-really-really-mean-it`. -/
def upperCase (opt : ByteString) : Option ByteString :=
  if opt = bytesOf "update" then some (bytesOf "user_mapping=TRUE") else none

/-- The check rejects the value, and it is saved. -/
theorem upper_case_saved :
    isValidKeyValue (bytesOf keyUserMapping) (bytesOf "TRUE") = false ∧
      configuration upperCase true true {} =
        ⟨0, { userMapping := bytesOf "TRUE" }, some { userMapping := bytesOf "TRUE" }⟩ ∧
      ¬ ObeysCheck (bytesOf keyUserMapping) (bytesOf "TRUE") {} ∧
      ¬ SavesValid (bytesOf keyUserMapping) (bytesOf "TRUE") {} := by
  have hvalid : isValidKeyValue (bytesOf keyUserMapping) (bytesOf "TRUE") = false := by
    decide +kernel
  have hrun : configuration upperCase true true {} =
      ⟨0, { userMapping := bytesOf "TRUE" }, some { userMapping := bytesOf "TRUE" }⟩ := by
    decide +kernel
  refine ⟨hvalid, hrun, fun h => ?_, fun h => ?_⟩
  · have hagrees := h.agrees.mp (by decide +kernel)
    rw [hvalid] at hagrees
    cases hagrees
  · have hsaved := h upperCase true true (by decide +kernel) (by decide +kernel) (by
      rw [hrun]
      nofun)
    rw [hvalid] at hsaved
    cases hsaved

end DovecotCeph
