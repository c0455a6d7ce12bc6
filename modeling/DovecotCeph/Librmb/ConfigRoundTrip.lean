/-
  File:      DovecotCeph/Librmb/ConfigRoundTrip.lean
  Subject:   Saving the ceph configuration and loading it again (rados-ceph-json-config.cpp), with
             values an administrator has set (rados-ceph-config.cpp).

  A document holds texts. A value that is none is left out of it, and the load, which expects all
  nine, ends the process.
  * `document_member`: what the document has for a key;
  * `roundTrips_iff`: which configurations come back, `load_throws`: what becomes of the others;
  * **`config_round_trip_iff`**: the updates after which a configuration comes back.
-/
import DovecotCeph.Lib.OrderedMap
import DovecotCeph.Librmb.ConfigUpdate
import DovecotCeph.Librmb.MetadataStorage

namespace DovecotCeph

open Lib CephJsonConfigAll

/-! ## 1. Texts and bytes -/

/-- The bytes of a text. -/
def utf8 (s : String) : ByteString := s.toByteArray.data.toList

/-- The text bytes stand for, if they are UTF-8. -/
def ofUtf8 (bytes : ByteString) : Option String := String.fromUTF8? ⟨bytes.toArray⟩

theorem ofUtf8_eq_some {bytes : ByteString} {s : String} :
    ofUtf8 bytes = some s ↔ utf8 s = bytes := by
  unfold ofUtf8 String.fromUTF8? utf8
  constructor
  · intro h
    split at h
    · cases h
      simp [String.fromUTF8]
    · cases h
  · intro h
    have hbytes : (⟨bytes.toArray⟩ : ByteArray) = s.toByteArray := by
      rw [← h]
    rw [hbytes, dif_pos s.isValidUTF8]
    rfl

/-- Bytes that are UTF-8. -/
def IsUtf8 (bytes : ByteString) : Prop := ∃ s, utf8 s = bytes

instance (bytes : ByteString) : Decidable (IsUtf8 bytes) :=
  decidable_of_iff ((ofUtf8 bytes).isSome = true)
    (Option.isSome_iff_exists.trans (exists_congr fun _ => ofUtf8_eq_some))

/-! ## 2. Saving and loading -/

/-- `json_string` of a C string: a null pointer for what is not UTF-8. -/
def jsonString (value : ByteString) : Option String := ofUtf8 (cBytes value)

/-- `json_object_set_new`; a null pointer is not set. -/
def jsonObjectSetNew (root : Json.Document) (key : String) : Option String → Json.Document
  | none => root
  | some s => root.insert key (.str s)

namespace CfgStrings

/-- The document of a configuration. -/
def document (c : CfgStrings) : Json.Document :=
  let root := jsonObjectSetNew ∅ keyUserMapping (jsonString c.userMapping)
  let root := jsonObjectSetNew root keyUserNs (jsonString c.userNs)
  let root := jsonObjectSetNew root keyUserSuffix (jsonString c.userSuffix)
  let root := jsonObjectSetNew root keyPublicNamespace (jsonString c.publicNamespace)
  let root := jsonObjectSetNew root keyMailAttributes (jsonString c.mailAttributes)
  let root := jsonObjectSetNew root keyUpdateableAttributes (jsonString c.updateableAttributes)
  let root := jsonObjectSetNew root keyUpdateAttributes (jsonString c.updateAttributes)
  let root := jsonObjectSetNew root keyMetadataStorageModule (jsonString c.metadataStorageModule)
  jsonObjectSetNew root keyMetadataStorageAttribute (jsonString c.metadataStorageAttribute)

/-- `RadosCephJsonConfig::to_json`: the buffer. -/
def toJson (J : Jansson) (c : CfgStrings) : String := J.dumps c.document

end CfgStrings

/-- `json_loads`, with `json_string_value` of the members. -/
def Jansson.jsonLoads (J : Jansson) : JsonLoads := fun s => (J.loads s).map blobMember

/-- The field of a key in a configuration of texts. -/
def CfgKey.textIn (k : CfgKey) (c : CephJsonConfigAll) : String :=
  match k with
  | userMapping => c.userMapping
  | userNs => c.userNs
  | userSuffix => c.userSuffix
  | publicNamespace => c.publicNamespace
  | mailAttributes => c.mailAttributes
  | updateableAttributes => c.updateableAttributes
  | updateAttributes => c.updateAttributes
  | metadataStorageModule => c.metadataStorageModule
  | metadataStorageAttribute => c.metadataStorageAttribute

/-- **The configuration comes back**: a new configuration that is loaded from its document has all
    nine strings. -/
def RoundTrips (J : Jansson) (c : CfgStrings) : Prop :=
  ∃ loaded, fromJson J.jsonLoads {} (c.toJson J) = some (true, loaded) ∧
    ∀ k : CfgKey, utf8 (k.textIn loaded) = k.get c

/-- One update. -/
def updateStep (c : CfgStrings) (u : ByteString × ByteString) : CfgStrings :=
  (updateValidKeyValue u.1 u.2 c).2

/-- The update is accepted. -/
def Accepted (c : CfgStrings) (u : ByteString × ByteString) : Prop :=
  (updateValidKeyValue u.1 u.2 c).1 = true

instance (c : CfgStrings) (u : ByteString × ByteString) : Decidable (Accepted c u) :=
  inferInstanceAs (Decidable (_ = true))

/-! ## 3. The document -/

section Document

variable {J : Jansson} {c : CfgStrings}

theorem setNew_member (root : Json.Document) (key : String) (value : Option String) (k : String) :
    blobMember (jsonObjectSetNew root key value) k =
      if k = key then value.or (blobMember root k) else blobMember root k := by
  cases value with
  | none => simp [jsonObjectSetNew]
  | some s =>
      unfold jsonObjectSetNew blobMember
      by_cases hk : k = key
      · subst hk
        rw [if_pos rfl, AList.lookup_insert]
        rfl
      · rw [if_neg hk, AList.lookup_insert_ne hk]

theorem text_inj {k k' : CfgKey} : k.text = k'.text ↔ k = k' := by
  refine ⟨fun h => ?_, fun h => congrArg _ h⟩
  exact CfgKey.name_injective k k.mem_all k' k'.mem_all (congrArg bytesOf h)

/-- Setting the members of some keys, one after the other. -/
theorem foldl_setNew_member (value : CfgKey → Option String) (keys : List CfgKey)
    (root : Json.Document) (k : CfgKey) :
    blobMember (keys.foldl (fun root k => jsonObjectSetNew root k.text (value k)) root) k.text =
      if k ∈ keys then (value k).or (blobMember root k.text) else blobMember root k.text := by
  induction keys generalizing root with
  | nil => rfl
  | cons a keys ih =>
      rw [List.foldl_cons, ih, setNew_member]
      by_cases hk : k = a
      · subst hk
        rw [if_pos rfl, if_pos List.mem_cons_self]
        split
        · cases value k with
          | none => rfl
          | some s => rfl
        · rfl
      · rw [if_neg (mt text_inj.mp hk)]
        simp [hk]

/-- **A member of the document**: the text of its value, if it is one. -/
theorem document_member (c : CfgStrings) (k : CfgKey) :
    blobMember c.document k.text = jsonString (k.get c) := by
  have hfold : c.document = CfgKey.all.foldl
      (fun root k => jsonObjectSetNew root k.text (jsonString (k.get c))) ∅ := rfl
  have hempty : blobMember ∅ k.text = none := rfl
  rw [hfold, foldl_setNew_member, if_pos k.mem_all, hempty, Option.or_none]

/-- The value of a key among the nine of a document. -/
def CfgKey.value (k : CfgKey) (v : ConfigValues) : String :=
  match k with
  | userMapping => v.userMapping
  | userNs => v.userNs
  | userSuffix => v.userSuffix
  | publicNamespace => v.publicNamespace
  | mailAttributes => v.mailAttributes
  | updateableAttributes => v.updateableAttributes
  | updateAttributes => v.updateAttributes
  | metadataStorageModule => v.metadataStorageModule
  | metadataStorageAttribute => v.metadataStorageAttribute

/-- The document has the nine values exactly if it has each of them. -/
theorem documentValues_eq_some {root : String → Option String} {v : ConfigValues} :
    documentValues root = some v ↔ ∀ k : CfgKey, root k.text = some (k.value v) := by
  unfold documentValues
  constructor
  · intro h k
    simp only [Option.bind_eq_bind, Option.bind_eq_some_iff, Option.pure_def,
      Option.some.injEq] at h
    obtain ⟨_, h1, _, h2, _, h3, _, h4, _, h5, _, h6, _, h7, _, h8, _, h9, rfl⟩ := h
    cases k
    case userMapping => exact h1
    case userNs => exact h2
    case userSuffix => exact h3
    case publicNamespace => exact h4
    case updateAttributes => exact h5
    case mailAttributes => exact h6
    case updateableAttributes => exact h7
    case metadataStorageModule => exact h8
    case metadataStorageAttribute => exact h9
  · intro h
    rw [show root keyUserMapping = _ from h .userMapping, show root keyUserNs = _ from h .userNs,
      show root keyUserSuffix = _ from h .userSuffix,
      show root keyPublicNamespace = _ from h .publicNamespace,
      show root keyUpdateAttributes = _ from h .updateAttributes,
      show root keyMailAttributes = _ from h .mailAttributes,
      show root keyUpdateableAttributes = _ from h .updateableAttributes,
      show root keyMetadataStorageModule = _ from h .metadataStorageModule,
      show root keyMetadataStorageAttribute = _ from h .metadataStorageAttribute]
    rfl

/-- Nine texts as the values of a document. -/
def valuesOf (text : CfgKey → String) : ConfigValues :=
  ⟨⟨text .userMapping, text .userNs, text .userSuffix, text .publicNamespace⟩,
    text .updateAttributes, text .mailAttributes, text .updateableAttributes,
    text .metadataStorageModule, text .metadataStorageAttribute⟩

@[simp] theorem value_valuesOf (text : CfgKey → String) (k : CfgKey) :
    k.value (valuesOf text) = text k := by
  cases k <;> rfl

theorem textIn_setAllValues (k : CfgKey) (c : CephJsonConfigAll) (v : ConfigValues) :
    k.textIn { c.setAllValues v with valid := true } = k.value v := by
  cases k <;> rfl

/-- The load of a document that was saved. -/
theorem fromJson_toJson (hJ : J.Lawful) (c : CfgStrings) :
    ∃ root, fromJson J.jsonLoads {} (c.toJson J) = ((documentValues root).map fun v =>
        (true, { CephJsonConfigAll.setAllValues {} v with valid := true })) ∧
      ∀ k : CfgKey, root k.text = jsonString (k.get c) := by
  obtain ⟨root, hroot, hmembers⟩ := hJ.loads_dumps c.document
  refine ⟨blobMember root, fromJson_document ?_, fun k => ?_⟩
  · rw [CfgStrings.toJson, hJ.dumps_cStr, Jansson.jsonLoads, hroot, Option.map_some]
  · rw [hmembers, document_member]

/-- **Configurations that come back**: those whose values are UTF-8. -/
theorem roundTrips_iff (hJ : J.Lawful) (hnul : ∀ k : CfgKey, 0 ∉ k.get c) :
    RoundTrips J c ↔ ∀ k : CfgKey, IsUtf8 (k.get c) := by
  constructor
  · intro h k
    obtain ⟨loaded, -, hfields⟩ := h
    exact ⟨k.textIn loaded, hfields k⟩
  · intro h
    obtain ⟨root, hload, hroot⟩ := fromJson_toJson hJ c
    choose text htext using h
    have hvalues : documentValues root = some (valuesOf text) := by
      refine documentValues_eq_some.mpr fun k => ?_
      rw [hroot, jsonString, cBytes_of_noNul (hnul k), value_valuesOf, ofUtf8_eq_some]
      exact htext k
    rw [hvalues, Option.map_some] at hload
    refine ⟨_, hload, fun k => ?_⟩
    rw [textIn_setAllValues, value_valuesOf]
    exact htext k

/-- **One value that is not UTF-8** ends the process that loads the configuration. -/
theorem load_throws (hJ : J.Lawful) {k : CfgKey} (hnul : 0 ∉ k.get c) (h : ¬ IsUtf8 (k.get c)) :
    fromJson J.jsonLoads {} (c.toJson J) = none := by
  obtain ⟨root, hload, hroot⟩ := fromJson_toJson hJ c
  rw [hload, Option.map_eq_none_iff]
  refine Option.eq_none_iff_forall_ne_some.mpr fun v hv => h ?_
  have hvalue := documentValues_eq_some.mp hv k
  rw [hroot, jsonString, cBytes_of_noNul hnul, ofUtf8_eq_some] at hvalue
  exact ⟨_, hvalue⟩

end Document

/-! ## 4. Updates -/

section Updates

variable {c : CfgStrings} {u : ByteString × ByteString} {updates : List (ByteString × ByteString)}

/-- What an accepted update does to the fields. -/
theorem Accepted.get (h : Accepted c u) (k : CfgKey) :
    k.get (updateStep c u) = if u.1 = k.name then u.2 else k.get c := by
  by_cases hk : ∃ k' : CfgKey, k'.name = u.1
  · obtain ⟨k', hname⟩ := hk
    obtain ⟨hupdate, -⟩ := update_name k' u.2 c
    rw [hname] at hupdate
    unfold Accepted at h
    unfold updateStep
    by_cases hnil : u.2 = []
    · rw [hupdate, if_pos hnil] at h
      cases h
    · rw [hupdate, if_neg hnil, ← hname]
      by_cases heq : k = k'
      · subst heq
        rw [if_pos rfl, CfgKey.get_set_self]
      · rw [CfgKey.get_set_ne heq, if_neg fun h => ?_]
        exact heq (CfgKey.name_injective k k.mem_all k' k'.mem_all h.symm)
  · obtain ⟨hupdate, -⟩ := @update_other u.1 (fun k' h => hk ⟨k', h⟩) u.2 c
    unfold Accepted at h
    rw [hupdate] at h
    cases h

/-- The fields after accepted updates: the last value of each key, or what was there before. -/
theorem run_updates_get (h : Along updateStep Accepted c updates) (k : CfgKey) :
    k.get (run updateStep c updates) =
      ((lastItem (·.1) updates k.name).map (·.2)).getD (k.get c) := by
  induction updates generalizing c with
  | nil => rfl
  | cons u updates ih =>
      obtain ⟨hu, hrest⟩ := h
      rw [run_cons, ih hrest, hu.get, lastItem_cons]
      cases lastItem (·.1) updates k.name with
      | some last => rfl
      | none =>
          by_cases hkey : u.1 = k.name
          · simp [hkey]
          · simp [hkey]

/-- The defaults are texts without a NUL. -/
theorem default_isUtf8 (k : CfgKey) : IsUtf8 (k.get {}) ∧ 0 ∉ k.get {} := by
  refine ⟨⟨k.textIn {}, ?_⟩, ?_⟩
  · cases k <;> decide +kernel
  · cases k <;> decide

end Updates

/-- **Updates and the document**: after updates that are accepted, with values without a NUL, the
    configuration comes back exactly if the last value of every key is UTF-8. -/
theorem config_round_trip_iff {J : Jansson} (hJ : J.Lawful)
    {updates : List (ByteString × ByteString)} (haccepted : Along updateStep Accepted {} updates)
    (hnul : ∀ u ∈ updates, 0 ∉ u.2) :
    RoundTrips J (run updateStep {} updates) ↔
      ∀ k : CfgKey, ∀ u, lastItem (·.1) updates k.name = some u → IsUtf8 u.2 := by
  have hget := run_updates_get haccepted
  rw [roundTrips_iff hJ]
  · refine forall_congr' fun k => ?_
    rw [hget]
    cases hlast : lastItem (·.1) updates k.name with
    | none => exact iff_of_true (default_isUtf8 k).1 nofun
    | some u =>
        constructor
        · intro h u' heq
          cases heq
          exact h
        · exact fun h => h u rfl
  · intro k
    rw [hget]
    cases hlast : lastItem (·.1) updates k.name with
    | none => exact (default_isUtf8 k).2
    | some u => exact hnul u (lastItem_mem hlast).1

/-- `user_suffix=_user`, in UTF-8. -/
def asciiSuffix : List (ByteString × ByteString) := [(bytesOf keyUserSuffix, bytesOf "_user")]

/-- A new suffix for the namespaces of users comes back. -/
theorem suffix_comes_back : RoundTrips jansson (run updateStep {} asciiSuffix) := by
  have haccepted : Along updateStep Accepted {} asciiSuffix := by decide +kernel
  refine (@config_round_trip_iff jansson jansson_lawful asciiSuffix haccepted ?_).mpr ?_
  · decide
  · intro k u h
    obtain rfl := List.mem_singleton.mp (lastItem_mem h).1
    decide +kernel

/-- `user_suffix=_ü`, in Latin-1. -/
def latinSuffix : List (ByteString × ByteString) := [(bytesOf keyUserSuffix, [95, 0xFC])]

/-- The update is accepted, and the document ends the process that loads it. -/
theorem latin_suffix_throws :
    Along updateStep Accepted {} latinSuffix ∧
      ¬ RoundTrips jansson (run updateStep {} latinSuffix) ∧
      fromJson jansson.jsonLoads {} ((run updateStep {} latinSuffix).toJson jansson) = none := by
  have hvalue : CfgKey.userSuffix.get (run updateStep {} latinSuffix) = [95, 0xFC] := by
    decide +kernel
  have hthrows : fromJson jansson.jsonLoads {}
      ((run updateStep {} latinSuffix).toJson jansson) = none := by
    refine load_throws jansson_lawful (k := .userSuffix) ?_ ?_
    · rw [hvalue]
      decide
    · rw [hvalue]
      decide +kernel
  refine ⟨by decide +kernel, fun h => ?_, hthrows⟩
  obtain ⟨loaded, hload, -⟩ := h
  rw [hthrows] at hload
  cases hload

end DovecotCeph
