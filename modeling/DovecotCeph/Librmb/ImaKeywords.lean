/-
  File:      DovecotCeph/Librmb/ImaKeywords.lean
  Subject:   The extended metadata of the ima module (rados-metadata-storage-ima.cpp): the keywords
             of a mail, in its JSON document or in the omap of its object.

  Saving looks at two settings to decide for one of the two places, loading at one of them.
  * `load_extended`, `save_keywordText`, `save_omap`: loading and saving, keyword by keyword;
  * **`ima_round_trip_iff`**: which mails come back from a new object.
-/
import DovecotCeph.Librmb.MetadataStorage

namespace DovecotCeph

open Lib

/-! ## 1. The library -/

/-- The text of a keyword in the object `K` of a document. -/
def keywordMember (root : Json.Document) (key : String) : Option String :=
  match root.lookup "K" with
  | some (.obj m) => m.lookup key
  | _ => none

/-- `json_loads` is inverse to `json_dumps`: all texts come back, those of the object `K` too. -/
structure Jansson.Inverse (J : Jansson) : Prop where
  loads_dumps : ∀ root, ∃ root', J.loads (J.dumps root) = some root' ∧
    (∀ key, blobMember root' key = blobMember root key) ∧
    ∀ key, keywordMember root' key = keywordMember root key
  dumps_cStr : ∀ root, cStr (J.dumps root) = J.dumps root

theorem Jansson.Inverse.lawful {J : Jansson} (h : J.Inverse) : J.Lawful where
  loads_dumps root := by
    obtain ⟨root', hroot, hmembers, _⟩ := h.loads_dumps root
    exact ⟨root', hroot, hmembers⟩
  dumps_cStr := h.dumps_cStr

theorem jansson_inverse : jansson.Inverse where
  loads_dumps root := ⟨root, Json.read_write root, fun _ => rfl, fun _ => rfl⟩
  dumps_cStr := jansson_lawful.dumps_cStr

/-! ## 2. Keyword by keyword -/

section Keywords

open RadosMetadataStorageIma

variable {J : Jansson} {cfg : MetadataCfg} {mail : MailAttrs} {o : AttrObject} {key : String}

/-- What the document of an object has for a keyword. -/
def keywordText (J : Jansson) (cfg : MetadataCfg) (o : AttrObject) (key : String) :
    Option String :=
  ((o.xattrs.lookup cfg.metadataStorageAttribute).bind fun b => J.loads (cStr b)).bind
    fun root => keywordMember root key

/-- Putting the entries of a map into another one, with a change of the values. -/
theorem lookup_insert_all (f : String → String) (m x : Attrs) (key : String) :
    (m.entries.foldl (fun x e => x.insert e.1 (f e.2)) x).lookup key =
      ((m.lookup key).map f).or (x.lookup key) := by
  rw [@foldl_entries _ _ _ (fun (x : Attrs) e => x.insert e.1 (f e.2)) (fun x => x.lookup key) key
    (fun v _ => some (f v)) (fun x e hne => AList.lookup_insert_ne hne.symm)
    (fun x v => AList.lookup_insert _)]
  cases m.lookup key with
  | none => rfl
  | some v => rfl

/-- What a member of the document makes of a keyword. -/
def memberKeyword (key : String) (b : Json.Value) (t : Option String) : Option String :=
  match b with
  | .obj m => (m.lookup key).or t
  | .str _ => t

theorem parseAttribute_extended (root : Json.Document) :
    (parseAttribute mail root).extended.lookup key =
      (keywordMember root key).or (mail.extended.lookup key) := by
  unfold parseAttribute
  rw [@foldl_entries _ _ _ _ (fun mail : MailAttrs => mail.extended.lookup key) "K"
    (memberKeyword key)]
  case hne =>
    intro mail e hne
    obtain ⟨k, b⟩ := e
    cases b with
    | obj m => exact congrArg (fun mail : MailAttrs => mail.extended.lookup key) (if_neg hne)
    | str s =>
        dsimp only
        rw [if_neg hne]
        rfl
  case heq =>
    intro mail b
    cases b with
    | obj m =>
        have hall := lookup_insert_all id m mail.extended key
        rw [Option.map_id, id] at hall
        exact hall
    | str s => rfl
  unfold keywordMember
  cases root.lookup "K" with
  | none => rfl
  | some b =>
      cases b with
      | obj m => rfl
      | str s => rfl

/-- The other attributes bring no keyword. -/
theorem loadOthers_extended : (loadOthers cfg o mail).extended = mail.extended := by
  unfold loadOthers
  induction o.xattrs.entries generalizing mail with
  | nil => rfl
  | cons e l ih =>
      rw [List.foldl_cons, ih]
      split
      case isTrue => rfl
      case isFalse => rfl

/-- **The keywords a fresh mail is loaded with**: those of the omap if keywords are updateable, and
    those of the document if not. -/
theorem load_extended (J : Jansson) (cfg : MetadataCfg) (o : AttrObject) (key : String) :
    (loadMetadata J cfg o .new).extended.lookup key =
      if cfg.isUpdateableAttribute "K" then o.omap.lookup key else keywordText J cfg o key := by
  unfold loadMetadata
  rw [if_neg (by decide)]
  dsimp only
  split
  case isTrue => rfl
  case isFalse =>
    rw [loadOthers_extended, loadBlob, keywordText]
    cases (o.xattrs.lookup cfg.metadataStorageAttribute).bind fun b => J.loads (cStr b) with
    | none => rfl
    | some root =>
        dsimp only
        rw [parseAttribute_extended]
        exact Option.or_none

/-- The loop over the metadata writes no omap, and no object into the document. -/
theorem saveAttrs_keywords :
    (saveAttrs cfg mail o).2.omap = o.omap ∧
      ∀ key, keywordMember (saveAttrs cfg mail o).1 key = none := by
  constructor
  · unfold saveAttrs
    generalize (∅ : Json.Document) = root
    induction mail.metadata.entries generalizing root o with
    | nil => rfl
    | cons e l ih =>
        rw [List.foldl_cons]
        split
        case isTrue => exact ih _
        case isFalse => exact @ih (o.setxattr e.1 e.2) root
  · intro key
    unfold keywordMember
    rw [saveAttrs_document]
    split
    case h_1 m h =>
      split at h
      case isTrue =>
        obtain ⟨v, _, hv⟩ := Option.map_eq_some_iff.mp h
        cases hv
      case isFalse => cases h
    case h_2 => rfl

/-- Where there are no keywords, none is put anywhere. -/
theorem lookup_of_isEmpty {m : Attrs} (h : m.entries.isEmpty = true) (key : String) :
    m.lookup key = none := by
  have hnil : m.entries = [] := List.isEmpty_iff.mp h
  unfold AList.lookup
  rw [hnil]
  rfl

theorem saveExtended_keywords (p : Json.Document × AttrObject)
    (hp : ∀ key, keywordMember p.1 key = none) :
    keywordMember (saveExtended cfg mail p).1 key =
      if cfg.inBlob "K" then (mail.extended.lookup key).map cStr else none := by
  unfold saveExtended
  split
  case isTrue hempty =>
    rw [lookup_of_isEmpty hempty, hp]
    exact (ite_self none).symm
  case isFalse =>
    split
    case isTrue hblob =>
      have hall := lookup_insert_all cStr mail.extended ∅ key
      unfold keywordMember
      dsimp only
      rw [AList.lookup_insert]
      exact hall.trans Option.or_none
    case isFalse hblob => exact hp key

theorem saveExtended_omap (p : Json.Document × AttrObject) :
    (saveExtended cfg mail p).2.omap.lookup key =
      if cfg.inBlob "K" then p.2.omap.lookup key
      else (mail.extended.lookup key).or (p.2.omap.lookup key) := by
  unfold saveExtended
  split
  case isTrue hempty =>
    rw [lookup_of_isEmpty hempty]
    exact (ite_self _).symm
  case isFalse =>
    split
    case isTrue => rfl
    case isFalse =>
      have hall := lookup_insert_all id mail.extended p.2.omap key
      rw [Option.map_id, id] at hall
      exact hall

/-- **The document after saving** has the keywords that belong there. -/
theorem save_keywordText (hJ : J.Inverse) :
    keywordText J cfg (saveMetadata J cfg mail o) key =
      if cfg.inBlob "K" then (mail.extended.lookup key).map cStr else none := by
  obtain ⟨root, hroot, _, hkeywords⟩ := hJ.loads_dumps
    (saveExtended cfg mail (saveAttrs cfg mail o)).1
  unfold keywordText saveMetadata AttrObject.setxattr
  dsimp only
  rw [AList.lookup_insert, Option.bind_some, hJ.dumps_cStr, hroot, Option.bind_some, hkeywords,
    saveExtended_keywords _ saveAttrs_keywords.2]

/-- **The omap after saving.** -/
theorem save_omap :
    (saveMetadata J cfg mail o).omap.lookup key =
      if cfg.inBlob "K" then o.omap.lookup key
      else (mail.extended.lookup key).or (o.omap.lookup key) := by
  unfold saveMetadata AttrObject.setxattr
  dsimp only
  rw [saveExtended_omap, saveAttrs_keywords.1]

end Keywords

/-! ## 3. Round trip -/

section RoundTrip

open RadosMetadataStorageIma

variable {J : Jansson} {cfg : MetadataCfg} {mail : MailAttrs}

/-- **A mail comes back**: loaded from the new object it was saved to, it has its metadata and its
    keywords, and nothing else; values are compared up to the NUL behind them. -/
structure ComesBack (J : Jansson) (cfg : MetadataCfg) (mail : MailAttrs) : Prop where
  metadata : ∀ key,
    ((loadMetadata J cfg (saveMetadata J cfg mail .new) .new).metadata.lookup key).map cStr =
      (mail.metadata.lookup key).map cStr
  extended : ∀ key,
    ((loadMetadata J cfg (saveMetadata J cfg mail .new) .new).extended.lookup key).map cStr =
      (mail.extended.lookup key).map cStr

/-- The keywords that come back from a new object. -/
theorem load_save_extended (hJ : J.Inverse) (key : String) :
    ((loadMetadata J cfg (saveMetadata J cfg mail .new) .new).extended.lookup key).map cStr =
      if cfg.isUpdateableAttribute "K" && !cfg.isUpdateAttributes then none
      else (mail.extended.lookup key).map cStr := by
  rw [load_extended, save_omap, save_keywordText hJ]
  unfold MetadataCfg.inBlob
  cases cfg.isUpdateableAttribute "K" with
  | false =>
      cases mail.extended.lookup key with
      | none => rfl
      | some v => exact congrArg some (cStr_cStr v)
  | true =>
      cases cfg.isUpdateAttributes with
      | false => rfl
      | true => exact congrArg (Option.map cStr) Option.or_none

/-- **Which mails come back**: all of them, but for those with keywords where keywords are
    updateable and updates are off: such keywords are saved to the document and loaded from the
    omap. -/
theorem ima_round_trip_iff (hJ : J.Inverse)
    (hA : mail.metadata.lookup cfg.metadataStorageAttribute = none)
    (hK : mail.metadata.lookup "K" = none) :
    ComesBack J cfg mail ↔
      (cfg.isUpdateableAttribute "K" = true → cfg.isUpdateAttributes = false →
        ∀ key, mail.extended.lookup key = none) := by
  constructor
  · intro h hup hoff key
    have hback := h.extended key
    have hlost : (cfg.isUpdateableAttribute "K" && !cfg.isUpdateAttributes) = true := by
      rw [hup, hoff]
      rfl
    rw [load_save_extended hJ, if_pos hlost] at hback
    exact Option.map_eq_none_iff.mp hback.symm
  · intro h
    refine ⟨shown_save_new hJ.lawful hA hK, fun key => ?_⟩
    rw [load_save_extended hJ]
    split
    case isTrue hlost =>
      rw [Bool.and_eq_true, Bool.not_eq_true'] at hlost
      rw [h hlost.1 hlost.2 key]
      rfl
    case isFalse => rfl

end RoundTrip

/-- A mail in the inbox with one keyword. -/
def mailWithKeyword : MailAttrs := { mailInInbox with extended := (∅ : Attrs).insert "k_0" "0\x00" }

theorem mailWithKeyword_comes_back : ComesBack jansson updatesMailbox mailWithKeyword :=
  (ima_round_trip_iff jansson_inverse rfl rfl).mpr fun hup => by cases hup

/-- Keywords are updateable, and updates are off. -/
def keywordsUpdateable : MetadataCfg := { updateableAttributes := "BK" }

/-- The keyword is in the document of the object, and is not loaded. -/
theorem keyword_lost :
    ¬ ComesBack jansson keywordsUpdateable mailWithKeyword ∧
      keywordText jansson keywordsUpdateable (RadosMetadataStorageIma.saveMetadata jansson
        keywordsUpdateable mailWithKeyword .new) "k_0" = some "0" := by
  refine ⟨fun h => ?_, by decide +kernel⟩
  have hback := h.extended "k_0"
  have hnone : (RadosMetadataStorageIma.loadMetadata jansson keywordsUpdateable
      (RadosMetadataStorageIma.saveMetadata jansson keywordsUpdateable mailWithKeyword .new)
        .new).extended.lookup "k_0" = none := by decide +kernel
  rw [hnone] at hback
  cases hback

end DovecotCeph
