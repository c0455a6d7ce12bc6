/-
  File:      DovecotCeph/Librmb/MetadataStorage.lean
  Subject:   The metadata modules (rados-metadata-storage-default.cpp and
             rados-metadata-storage-ima.cpp): what they load from an object and what they leave on
             it.

  The default module keeps one attribute for each key. The other one keeps the keys that are not
  updateable in one JSON document, which it writes anew from what a mail was loaded with.
  * `load_view`, `save_xattrs`, `save_blobText`: the three functions of the ima module, key by key;
  * `ImaInv`, `step_equivalent_iff`: what holds along the calls, and when one of them breaks it;
  * **`modules_equivalent_iff`**: in which runs the two modules show the same metadata.
-/
import DovecotCeph.Lib.AssocList
import DovecotCeph.Lib.Json
import DovecotCeph.Lib.Run
import DovecotCeph.Rados

namespace DovecotCeph

open Lib

/-! ## 1. The modules -/

/-- What the modules read of the configuration. -/
structure MetadataCfg where
  updateAttributes : String := "false"
  updateableAttributes : String := "B"
  metadataStorageAttribute : String := "ima"

/-- `rbox_metadata_key_to_char`, of the number a character is. -/
def rboxMetadataKeyToChar (c : Char) : String :=
  if c ∈ "MGPORZVXBUIACEFKS ".toList then String.singleton c else ""

namespace MetadataCfg

def isUpdateAttributes (cfg : MetadataCfg) : Bool := cfg.updateAttributes = "true"

/-- `is_updateable_attribute` of the key's first character; the empty key has a NUL there. -/
def isUpdateableAttribute (cfg : MetadataCfg) (key : String) : Bool :=
  (rboxMetadataKeyToChar (key.toList.headD '\x00')).toList.any (· ∈ cfg.updateableAttributes.toList)

/-- `save_metadata` puts the key into the document. -/
def inBlob (cfg : MetadataCfg) (key : String) : Bool :=
  !cfg.isUpdateableAttribute key || !cfg.isUpdateAttributes

end MetadataCfg

/-- `std::map<string, bufferlist>`. -/
abbrev Attrs := AList fun _ : String => String

/-- Attributes and omap of an object. -/
structure AttrObject where
  xattrs : Attrs
  omap : Attrs

/-- `attrset` and `extended_attrset` of a `RadosMail`. -/
structure MailAttrs where
  metadata : Attrs
  extended : Attrs

def AttrObject.new : AttrObject := ⟨∅, ∅⟩

def MailAttrs.new : MailAttrs := ⟨∅, ∅⟩

/-- `RadosMail::add_metadata`. -/
def MailAttrs.addMetadata (mail : MailAttrs) (key value : String) : MailAttrs :=
  { mail with metadata := mail.metadata.insert key value }

/-- `setxattr`. -/
def AttrObject.setxattr (o : AttrObject) (key value : String) : AttrObject :=
  { o with xattrs := o.xattrs.insert key value }

/-- `omap_set`. -/
def AttrObject.omapSet (o : AttrObject) (m : Attrs) : AttrObject :=
  { o with omap := m.entries.foldl (fun omap e => omap.insert e.1 e.2) o.omap }

/-- The two modules. -/
inductive MetadataModule where
  | default
  | ima
  deriving DecidableEq, Repr

namespace RadosMetadataStorageDefault

def loadMetadata (o : AttrObject) (_ : MailAttrs) : MailAttrs := ⟨o.xattrs, o.omap⟩

def setMetadata (mail : MailAttrs) (key value : String) (o : AttrObject) : MailAttrs × AttrObject :=
  (mail.addMetadata key value, o.setxattr key value)

def saveMetadata (mail : MailAttrs) (o : AttrObject) : AttrObject :=
  let o := mail.metadata.entries.foldl (fun o e => o.setxattr e.1 e.2) o
  if mail.extended.entries.isEmpty then o else o.omapSet mail.extended

def updateMetadata (toUpdate : List (String × String)) (o : AttrObject) : AttrObject :=
  toUpdate.foldl (fun o e => o.setxattr e.1 e.2) o

end RadosMetadataStorageDefault

/-- The JSON library: `json_loads` and `json_dumps`. -/
structure Jansson where
  loads : String → Option Json.Document
  dumps : Json.Document → String

/-- The text of a member. -/
def blobMember (root : Json.Document) (key : String) : Option String :=
  match root.lookup key with
  | some (.str s) => some s
  | _ => none

/-- What the module relies on: texts come back, and control characters are escaped. -/
structure Jansson.Lawful (J : Jansson) : Prop where
  loads_dumps : ∀ root, ∃ root', J.loads (J.dumps root) = some root' ∧
    ∀ key, blobMember root' key = blobMember root key
  dumps_cStr : ∀ root, cStr (J.dumps root) = J.dumps root

namespace RadosMetadataStorageIma

variable (J : Jansson) (cfg : MetadataCfg)

/-- `parse_attribute`. An object under another name than `K` ends the process; the module writes
    none. -/
def parseAttribute (mail : MailAttrs) (root : Json.Document) : MailAttrs :=
  root.entries.foldl (fun mail e => match e.2 with
    | .obj m =>
        if e.1 = "K" then
          { mail with extended := m.entries.foldl (fun x e => x.insert e.1 e.2) mail.extended }
        else mail
    | .str s => if e.1 = "K" then mail else mail.addMetadata e.1 s) mail

/-- The document for the immutable attributes. -/
def loadBlob (o : AttrObject) (mail : MailAttrs) : MailAttrs :=
  match (o.xattrs.lookup cfg.metadataStorageAttribute).bind fun b => J.loads (cStr b) with
  | some root => parseAttribute mail root
  | none => mail

/-- The other attributes. -/
def loadOthers (o : AttrObject) (mail : MailAttrs) : MailAttrs :=
  o.xattrs.entries.foldl (fun mail e =>
    if e.1 = cfg.metadataStorageAttribute then mail else mail.addMetadata e.1 e.2) mail

/-- `load_metadata`; a mail that has metadata is left alone. -/
def loadMetadata (o : AttrObject) (mail : MailAttrs) : MailAttrs :=
  if !mail.metadata.entries.isEmpty then mail
  else
    let mail := loadOthers cfg o (loadBlob J cfg o mail)
    if cfg.isUpdateableAttribute "K" then { mail with extended := o.omap } else mail

/-- The loop over the metadata: into the document, or attributes of their own. -/
def saveAttrs (mail : MailAttrs) (o : AttrObject) : Json.Document × AttrObject :=
  mail.metadata.entries.foldl (fun p e =>
    if cfg.inBlob e.1 then (p.1.insert e.1 (.str (cStr e.2)), p.2)
    else (p.1, p.2.setxattr e.1 e.2)) (∅, o)

/-- The extended metadata: into the document, or the omap. -/
def saveExtended (mail : MailAttrs) (p : Json.Document × AttrObject) :
    Json.Document × AttrObject :=
  if mail.extended.entries.isEmpty then p
  else if cfg.inBlob "K" then
    let keyword := mail.extended.entries.foldl (fun m e => m.insert e.1 (cStr e.2)) ∅
    (p.1.insert "K" (.obj keyword), p.2)
  else (p.1, p.2.omapSet mail.extended)

/-- `save_metadata`, with its operation done: the document is written last. -/
def saveMetadata (mail : MailAttrs) (o : AttrObject) : AttrObject :=
  let p := saveExtended cfg mail (saveAttrs cfg mail o)
  p.2.setxattr cfg.metadataStorageAttribute (J.dumps p.1)

/-- `set_metadata`: an updateable key is written to the object alone. -/
def setMetadata (mail : MailAttrs) (key value : String) (o : AttrObject) : MailAttrs × AttrObject :=
  if cfg.isUpdateableAttribute key then (mail, o.setxattr key value)
  else
    let mail := mail.addMetadata key value
    (mail, saveMetadata J cfg mail o)

/-- `update_metadata`: what is to be updated goes into the extended metadata. -/
def updateMetadata (toUpdate : List (String × String)) (o : AttrObject) : AttrObject :=
  if toUpdate.isEmpty then o
  else
    let obj := loadMetadata J cfg o .new
    let extended := toUpdate.foldl (fun x e => x.insert e.1 e.2) obj.extended
    saveMetadata J cfg { obj with extended := extended } o

end RadosMetadataStorageIma

/-! ## 2. The functions key by key -/

theorem lookup_setxattr (o : AttrObject) (key value j : String) :
    (o.setxattr key value).xattrs.lookup j =
      if j = key then some value else o.xattrs.lookup j := by
  split
  case isTrue h => rw [h]; exact AList.lookup_insert _
  case isFalse h => exact AList.lookup_insert_ne h

namespace RadosMetadataStorageDefault

variable {mail : MailAttrs} {o : AttrObject} {key : String}

theorem saveMetadata_xattrs :
    (saveMetadata mail o).xattrs.lookup key =
      (mail.metadata.lookup key).or (o.xattrs.lookup key) := by
  have hfold := @foldl_entries _ _ _ (fun (o : AttrObject) e => o.setxattr e.1 e.2)
    (fun o => o.xattrs.lookup key) key (fun v _ => some v)
    (fun o e hne => AList.lookup_insert_ne hne.symm) (fun o v => AList.lookup_insert _)
    mail.metadata o
  have hsave : (saveMetadata mail o).xattrs =
      (mail.metadata.entries.foldl (fun o e => o.setxattr e.1 e.2) o).xattrs := by
    unfold saveMetadata
    split
    case isTrue => rfl
    case isFalse => rfl
  rw [hsave, hfold]
  cases mail.metadata.lookup key with
  | none => rfl
  | some v => rfl

end RadosMetadataStorageDefault

namespace RadosMetadataStorageIma

variable {J : Jansson} {cfg : MetadataCfg} {mail : MailAttrs} {o : AttrObject} {key : String}

/-- What the document of an object has for a key. -/
def blobText (J : Jansson) (cfg : MetadataCfg) (o : AttrObject) (key : String) : Option String :=
  if key = "K" then none
  else ((o.xattrs.lookup cfg.metadataStorageAttribute).bind fun b => J.loads (cStr b)).bind
    fun root => blobMember root key

theorem parseAttribute_metadata (root : Json.Document) :
    (parseAttribute mail root).metadata.lookup key =
      if key = "K" then mail.metadata.lookup key
      else (blobMember root key).or (mail.metadata.lookup key) := by
  unfold parseAttribute
  rw [@foldl_entries _ _ _ _ (fun mail : MailAttrs => mail.metadata.lookup key) key
    (fun b t => match b with
      | .obj _ => t
      | .str s => if key = "K" then t else some s)]
  case hne =>
    intro mail e hne
    obtain ⟨k, b⟩ := e
    have hne' : key ≠ k := fun h => hne h.symm
    cases b with
    | obj m =>
        dsimp only
        split <;> rfl
    | str s =>
        dsimp only
        split
        case isTrue => rfl
        case isFalse => exact AList.lookup_insert_ne hne'
  case heq =>
    intro mail b
    cases b with
    | obj m =>
        dsimp only
        split <;> rfl
    | str s =>
        dsimp only
        split
        case isTrue => rfl
        case isFalse => exact AList.lookup_insert _
  unfold blobMember
  cases root.lookup key with
  | none => exact (ite_self _).symm
  | some b =>
      cases b with
      | obj m => exact (ite_self _).symm
      | str s => rfl

theorem loadBlob_metadata (J : Jansson) (cfg : MetadataCfg) (o : AttrObject) (key : String) :
    (loadBlob J cfg o .new).metadata.lookup key = blobText J cfg o key := by
  unfold loadBlob blobText
  cases (o.xattrs.lookup cfg.metadataStorageAttribute).bind fun b => J.loads (cStr b) with
  | none => exact (ite_self none).symm
  | some root =>
      dsimp only
      rw [parseAttribute_metadata]
      split
      case isTrue => rfl
      case isFalse => exact Option.or_none

theorem loadOthers_metadata :
    (loadOthers cfg o mail).metadata.lookup key =
      if key = cfg.metadataStorageAttribute then mail.metadata.lookup key
      else (o.xattrs.lookup key).or (mail.metadata.lookup key) := by
  unfold loadOthers
  rw [@foldl_entries _ _ _ _ (fun mail : MailAttrs => mail.metadata.lookup key) key
    (fun v t => if key = cfg.metadataStorageAttribute then t else some v)]
  case hne =>
    intro m e hne
    split
    case isTrue => rfl
    case isFalse => exact AList.lookup_insert_ne hne.symm
  case heq =>
    intro m v
    dsimp only
    split
    case isTrue => rfl
    case isFalse => exact AList.lookup_insert _
  cases o.xattrs.lookup key with
  | none => exact (ite_self _).symm
  | some v => rfl

/-- **What a fresh mail is loaded with**: attributes of their own first, then the document. -/
theorem load_view (J : Jansson) (cfg : MetadataCfg) (o : AttrObject) (key : String) :
    (loadMetadata J cfg o .new).metadata.lookup key =
      if key = cfg.metadataStorageAttribute then blobText J cfg o key
      else (o.xattrs.lookup key).or (blobText J cfg o key) := by
  have hload : (loadMetadata J cfg o .new).metadata =
      (loadOthers cfg o (loadBlob J cfg o .new)).metadata := by
    unfold loadMetadata
    rw [if_neg (by decide)]
    dsimp only
    split
    case isTrue => rfl
    case isFalse => rfl
  rw [hload, loadOthers_metadata, loadBlob_metadata]

theorem saveAttrs_document :
    (saveAttrs cfg mail o).1.lookup key =
      if cfg.inBlob key then (mail.metadata.lookup key).map fun v => .str (cStr v) else none := by
  unfold saveAttrs
  rw [@foldl_entries _ _ _ _ (fun p : Json.Document × AttrObject => p.1.lookup key) key
    (fun v t => if cfg.inBlob key then some (.str (cStr v)) else t)]
  case hne =>
    intro p e hne
    split
    case isTrue => exact AList.lookup_insert_ne hne.symm
    case isFalse => rfl
  case heq =>
    intro p v
    dsimp only
    split
    case isTrue => exact AList.lookup_insert _
    case isFalse => rfl
  cases mail.metadata.lookup key with
  | none => exact (ite_self _).symm
  | some v => rfl

theorem saveAttrs_xattrs :
    (saveAttrs cfg mail o).2.xattrs.lookup key =
      if cfg.inBlob key then o.xattrs.lookup key
      else (mail.metadata.lookup key).or (o.xattrs.lookup key) := by
  unfold saveAttrs
  rw [@foldl_entries _ _ _ _
    (fun p : Json.Document × AttrObject => p.2.xattrs.lookup key) key
    (fun v t => if cfg.inBlob key then t else some v)]
  case hne =>
    intro p e hne
    split
    case isTrue => rfl
    case isFalse => exact AList.lookup_insert_ne hne.symm
  case heq =>
    intro p v
    dsimp only
    split
    case isTrue => rfl
    case isFalse => exact AList.lookup_insert _
  cases mail.metadata.lookup key with
  | none => exact (ite_self _).symm
  | some v => rfl

theorem saveExtended_spec (p : Json.Document × AttrObject) :
    (saveExtended cfg mail p).2.xattrs = p.2.xattrs ∧
      ∀ key, key ≠ "K" → (saveExtended cfg mail p).1.lookup key = p.1.lookup key := by
  unfold saveExtended
  split
  case isTrue => exact ⟨rfl, fun _ _ => rfl⟩
  case isFalse =>
    split
    case isTrue => exact ⟨rfl, fun key hkey => AList.lookup_insert_ne hkey⟩
    case isFalse => exact ⟨rfl, fun _ _ => rfl⟩

/-- **The attributes after saving.** -/
theorem save_xattrs (hkey : key ≠ cfg.metadataStorageAttribute) :
    (saveMetadata J cfg mail o).xattrs.lookup key =
      if cfg.inBlob key then o.xattrs.lookup key
      else (mail.metadata.lookup key).or (o.xattrs.lookup key) := by
  unfold saveMetadata AttrObject.setxattr
  dsimp only
  rw [AList.lookup_insert_ne hkey, (saveExtended_spec _).1, saveAttrs_xattrs]

/-- **The document after saving**: the metadata of the mail that belongs there. -/
theorem save_blobText (hJ : J.Lawful) :
    blobText J cfg (saveMetadata J cfg mail o) key =
      if key ≠ "K" ∧ cfg.inBlob key = true then (mail.metadata.lookup key).map cStr else none := by
  unfold blobText
  by_cases hK : key = "K"
  · rw [if_pos hK, if_neg fun h => h.1 hK]
  · obtain ⟨root, hroot, hmembers⟩ := hJ.loads_dumps
      (saveExtended cfg mail (saveAttrs cfg mail o)).1
    unfold saveMetadata AttrObject.setxattr
    dsimp only
    rw [if_neg hK, AList.lookup_insert, Option.bind_some, hJ.dumps_cStr, hroot, Option.bind_some,
      hmembers, blobMember, (saveExtended_spec _).2 key hK, saveAttrs_document]
    by_cases hblob : cfg.inBlob key = true
    · rw [if_pos hblob, if_pos ⟨hK, hblob⟩]
      cases mail.metadata.lookup key with
      | none => rfl
      | some v => rfl
    · rw [if_neg hblob, if_neg fun h => hblob h.2]

end RadosMetadataStorageIma

/-! ## 3. Both modules side by side -/

section Calls

variable (J : Jansson) (cfg : MetadataCfg)

namespace MetadataModule

def load : MetadataModule → AttrObject → MailAttrs → MailAttrs
  | .default => RadosMetadataStorageDefault.loadMetadata
  | .ima => RadosMetadataStorageIma.loadMetadata J cfg

def set : MetadataModule → MailAttrs → String → String → AttrObject → MailAttrs × AttrObject
  | .default => RadosMetadataStorageDefault.setMetadata
  | .ima => RadosMetadataStorageIma.setMetadata J cfg

def save : MetadataModule → MailAttrs → AttrObject → AttrObject
  | .default => RadosMetadataStorageDefault.saveMetadata
  | .ima => RadosMetadataStorageIma.saveMetadata J cfg

def update : MetadataModule → List (String × String) → AttrObject → AttrObject
  | .default => RadosMetadataStorageDefault.updateMetadata
  | .ima => RadosMetadataStorageIma.updateMetadata J cfg

/-- What a fresh mail is loaded with, without the NUL behind the value. -/
def shown (m : MetadataModule) (o : AttrObject) (key : String) : Option String :=
  ((m.load J cfg o .new).metadata.lookup key).map cStr

end MetadataModule

/-- A call on an object that has been saved. -/
inductive MetadataCall where
  | set (key value : String)
  | update (toUpdate : List (String × String))

/-- The keys a call writes. -/
def MetadataCall.keys : MetadataCall → List String
  | .set key _ => [key]
  | .update toUpdate => toUpdate.map (·.1)

/-- A mail of the process, and its object. -/
structure MailOnObject where
  mail : MailAttrs
  obj : AttrObject

namespace MetadataModule

def call (m : MetadataModule) (s : MailOnObject) : MetadataCall → MailOnObject
  | .set key value =>
    ⟨(m.set J cfg s.mail key value s.obj).1, (m.set J cfg s.mail key value s.obj).2⟩
  | .update toUpdate => ⟨s.mail, m.update J cfg toUpdate s.obj⟩

/-- An object is made with the metadata of a mail, and loaded. -/
def start (m : MetadataModule) (saved : MailAttrs) : MailOnObject :=
  ⟨m.load J cfg (m.save J cfg saved .new) .new, m.save J cfg saved .new⟩

end MetadataModule

/-- The value each key was written last. -/
def MetadataCall.write (last : String → Option String) : MetadataCall → String → Option String
  | .set key value => Function.update last key (some value)
  | .update toUpdate => toUpdate.foldl (fun last e => Function.update last e.1 (some e.2)) last

/-- The same calls under both modules, and the values written last. -/
structure Twin where
  default : MailOnObject
  ima : MailOnObject
  last : String → Option String

def Twin.start (saved : MailAttrs) : Twin :=
  ⟨MetadataModule.start J cfg .default saved, MetadataModule.start J cfg .ima saved,
    fun key => saved.metadata.lookup key⟩

def Twin.call (t : Twin) (c : MetadataCall) : Twin :=
  ⟨MetadataModule.call J cfg .default t.default c, MetadataModule.call J cfg .ima t.ima c,
    c.write t.last⟩

/-- **Both modules show each key's last value.** -/
structure Twin.Equivalent (t : Twin) : Prop where
  default : ∀ key, MetadataModule.shown J cfg .default t.default.obj key = (t.last key).map cStr
  ima : ∀ key, MetadataModule.shown J cfg .ima t.ima.obj key = (t.last key).map cStr

/-- **The calls that are safe**: a key that is not updateable is set only while each updateable one
    that was saved has the value it was saved with -- unless updates are off --, and an update
    changes nothing. -/
def MetadataCallOk (saved : MailAttrs) (t : Twin) : MetadataCall → Prop
  | .set key _ => cfg.isUpdateableAttribute key = false → cfg.isUpdateAttributes = true →
      ∀ j v, cfg.isUpdateableAttribute j = true → saved.metadata.lookup j = some v →
        (t.last j).map cStr = some (cStr v)
  | .update toUpdate => ∀ j, (MetadataCall.write t.last (.update toUpdate) j).map cStr =
      (t.last j).map cStr

/-- The keys the modules have for themselves are left out. -/
def MetadataCfg.Proper (c : MetadataCall) : Prop :=
  ∀ key ∈ c.keys, key ≠ "K" ∧ key ≠ cfg.metadataStorageAttribute

instance (c : MetadataCall) : Decidable (cfg.Proper c) :=
  inferInstanceAs (Decidable (∀ key ∈ c.keys, _))

end Calls

/-! ## 4. The ima module along the calls -/

section Along

open RadosMetadataStorageIma

variable {J : Jansson} {cfg : MetadataCfg} {saved mail : MailAttrs} {o : AttrObject}
  {key : String} {last : String → Option String} {s : MailOnObject}

theorem shown_ima (J : Jansson) (cfg : MetadataCfg) (o : AttrObject) (key : String) :
    MetadataModule.shown J cfg .ima o key =
      (if key = cfg.metadataStorageAttribute then blobText J cfg o key
        else (o.xattrs.lookup key).or (blobText J cfg o key)).map cStr :=
  congrArg (Option.map cStr) (load_view J cfg o key)

theorem map_cStr_or (a b : Option String) : (a.or (b.map cStr)).map cStr = (a.or b).map cStr := by
  cases a with
  | some v => rfl
  | none =>
      cases b with
      | none => rfl
      | some v => exact congrArg some (cStr_cStr v)

theorem blobText_setxattr {value : String} (hA : key ≠ cfg.metadataStorageAttribute) (j : String) :
    blobText J cfg (o.setxattr key value) j = blobText J cfg o j := by
  unfold blobText
  rw [lookup_setxattr, if_neg hA.symm]

/-- What is shown after one attribute has been written. -/
theorem shown_setxattr {m : MetadataModule} {value : String}
    (hA : key ≠ cfg.metadataStorageAttribute) (j : String) :
    m.shown J cfg (o.setxattr key value) j =
      if j = key then some (cStr value) else m.shown J cfg o j := by
  cases m with
  | default =>
      refine (congrArg (Option.map cStr) (lookup_setxattr o key value j)).trans ?_
      split <;> rfl
  | ima =>
      rw [shown_ima, shown_ima, lookup_setxattr, blobText_setxattr hA]
      by_cases hj : j = key
      · subst hj
        rw [if_neg hA, if_pos rfl, if_pos rfl]
        rfl
      · rw [if_neg hj, if_neg hj]

/-- What is shown after the metadata have been written anew. -/
theorem shown_rewrite (hJ : J.Lawful) {j : String} (hj : j ≠ cfg.metadataStorageAttribute) :
    MetadataModule.shown J cfg .ima (saveMetadata J cfg mail o) j =
      if cfg.inBlob j then
        ((o.xattrs.lookup j).or (if j = "K" then none else mail.metadata.lookup j)).map cStr
      else ((mail.metadata.lookup j).or (o.xattrs.lookup j)).map cStr := by
  rw [shown_ima, if_neg hj, save_xattrs hj, save_blobText hJ]
  by_cases hblob : cfg.inBlob j = true
  · rw [if_pos hblob, if_pos hblob]
    by_cases hK : j = "K"
    · rw [if_neg fun h => h.1 hK, if_pos hK]
    · rw [if_pos ⟨hK, hblob⟩, if_neg hK, map_cStr_or]
  · rw [if_neg hblob, if_neg hblob, if_neg fun h => hblob h.2, Option.or_none]

/-- An update leaves what is shown. -/
theorem update_shown (hJ : J.Lawful) (toUpdate : List (String × String)) {j : String}
    (hj : j ≠ cfg.metadataStorageAttribute) :
    MetadataModule.shown J cfg .ima (updateMetadata J cfg toUpdate o) j =
      MetadataModule.shown J cfg .ima o j := by
  unfold updateMetadata
  split
  case isTrue => rfl
  case isFalse =>
    rw [shown_rewrite hJ hj, shown_ima, if_neg hj]
    dsimp only
    rw [load_view, if_neg hj]
    by_cases hK : j = "K"
    · have hnone : blobText J cfg o j = none := if_pos hK
      rw [if_pos hK, hnone, Option.or_none, Option.or_self, ite_self]
    · rw [if_neg hK]
      cases o.xattrs.lookup j with
      | none => rw [Option.none_or, Option.or_none, ite_self]
      | some v => exact ite_self _

/-- What is shown after saving a mail without the keys of the module itself. -/
theorem shown_save (hJ : J.Lawful) (hA : mail.metadata.lookup cfg.metadataStorageAttribute = none)
    (hK : mail.metadata.lookup "K" = none) :
    MetadataModule.shown J cfg .ima (saveMetadata J cfg mail o) key =
      if key = cfg.metadataStorageAttribute then none
      else if cfg.inBlob key then ((o.xattrs.lookup key).or (mail.metadata.lookup key)).map cStr
      else ((mail.metadata.lookup key).or (o.xattrs.lookup key)).map cStr := by
  by_cases hkey : key = cfg.metadataStorageAttribute
  · rw [if_pos hkey, shown_ima, if_pos hkey, save_blobText hJ, hkey, hA]
    split <;> rfl
  · have hown : (if key = "K" then none else mail.metadata.lookup key) =
        mail.metadata.lookup key := by
      split
      case isTrue h => rw [h, hK]
      case isFalse => rfl
    rw [if_neg hkey, shown_rewrite hJ hkey, hown]

/-- What is shown of a new object is the mail it was saved with. -/
theorem shown_save_new (hJ : J.Lawful)
    (hA : mail.metadata.lookup cfg.metadataStorageAttribute = none)
    (hK : mail.metadata.lookup "K" = none) (key : String) :
    MetadataModule.shown J cfg .ima (saveMetadata J cfg mail .new) key =
      (mail.metadata.lookup key).map cStr := by
  rw [shown_save hJ hA hK]
  by_cases hkey : key = cfg.metadataStorageAttribute
  · rw [if_pos hkey, hkey, hA]
    rfl
  · rw [if_neg hkey]
    split
    case isTrue => rfl
    case isFalse => exact congrArg (Option.map cStr) Option.or_none

theorem save_noBlob (hJ : J.Lawful) (h : cfg.inBlob key = false) :
    blobText J cfg (saveMetadata J cfg mail o) key = none := by
  rw [save_blobText hJ, if_neg]
  rintro ⟨_, hblob⟩
  rw [h] at hblob
  cases hblob

/-- **What holds along the calls** under the ima module: the document is behind only for updateable
    keys, and so is the mail. -/
structure ImaInv (J : Jansson) (cfg : MetadataCfg) (saved : MailAttrs)
    (last : String → Option String) (s : MailOnObject) : Prop where
  shown : ∀ key, MetadataModule.shown J cfg .ima s.obj key = (last key).map cStr
  own : last cfg.metadataStorageAttribute = none ∧ last "K" = none
  noAttribute : s.mail.metadata.lookup cfg.metadataStorageAttribute = none
  noKeyword : s.mail.metadata.lookup "K" = none
  plain : ∀ key, cfg.isUpdateableAttribute key = false → key ≠ cfg.metadataStorageAttribute →
    s.obj.xattrs.lookup key = none
  noBlob : ∀ key, cfg.inBlob key = false → blobText J cfg s.obj key = none
  fixed : ∀ key, cfg.isUpdateableAttribute key = false →
    (s.mail.metadata.lookup key).map cStr = (last key).map cStr
  stale : ∀ key, cfg.isUpdateableAttribute key = true →
    (s.mail.metadata.lookup key).map cStr = (saved.metadata.lookup key).map cStr
  fallback : ∀ key, cfg.isUpdateableAttribute key = true → cfg.isUpdateAttributes = false →
    s.obj.xattrs.lookup key = none →
    (s.mail.metadata.lookup key).map cStr = (last key).map cStr

theorem inBlob_of_not_updateable (h : cfg.isUpdateableAttribute key = false) :
    cfg.inBlob key = true := by
  simp [MetadataCfg.inBlob, h]

theorem ne_of_updateable {j : String} (hj : cfg.isUpdateableAttribute j = true)
    (h : cfg.isUpdateableAttribute key = false) : j ≠ key := by
  intro heq
  rw [heq, h] at hj
  cases hj

theorem inBlob_eq_false :
    cfg.inBlob key = false ↔
      cfg.isUpdateableAttribute key = true ∧ cfg.isUpdateAttributes = true := by
  simp [MetadataCfg.inBlob]

/-- Saving a mail whose values are the last ones. -/
theorem save_shown_last (hJ : J.Lawful) (hinv : ImaInv J cfg saved last s)
    (hA : mail.metadata.lookup cfg.metadataStorageAttribute = none)
    (hK : mail.metadata.lookup "K" = none) (key : String)
    (hblob : cfg.inBlob key = true → s.obj.xattrs.lookup key = none →
      (mail.metadata.lookup key).map cStr = (last key).map cStr)
    (hattr : cfg.inBlob key = false → ∀ v, mail.metadata.lookup key = some v →
      some (cStr v) = (last key).map cStr) :
    MetadataModule.shown J cfg .ima (saveMetadata J cfg mail s.obj) key = (last key).map cStr := by
  rw [shown_save hJ hA hK]
  by_cases hkey : key = cfg.metadataStorageAttribute
  · rw [if_pos hkey, hkey, hinv.own.1]
    rfl
  · rw [if_neg hkey]
    have hshown := hinv.shown key
    rw [shown_ima, if_neg hkey] at hshown
    cases hb : cfg.inBlob key with
    | true =>
        rw [if_pos rfl]
        cases hx : s.obj.xattrs.lookup key with
        | none => exact hblob hb hx
        | some v =>
            rw [hx] at hshown
            exact hshown
    | false =>
        rw [if_neg Bool.false_ne_true]
        rw [hinv.noBlob key hb, Option.or_none] at hshown
        cases hm : mail.metadata.lookup key with
        | none => exact hshown
        | some v => exact hattr hb v hm

/-- Only the attribute of the key is written. -/
theorem ima_setxattr (hinv : ImaInv J cfg saved last s)
    (hup : cfg.isUpdateableAttribute key = true) (hK : key ≠ "K")
    (hA : key ≠ cfg.metadataStorageAttribute) (value : String) :
    ImaInv J cfg saved (Function.update last key (some value))
      ⟨s.mail, s.obj.setxattr key value⟩ := by
  have hattr := lookup_setxattr s.obj key value
  have hblob : ∀ j, blobText J cfg (s.obj.setxattr key value) j = blobText J cfg s.obj j := by
    intro j
    unfold blobText
    rw [hattr, if_neg hA.symm]
  have hne : ∀ j, cfg.isUpdateableAttribute j = false → j ≠ key :=
    fun j hj heq => ne_of_updateable hup hj heq.symm
  constructor
  case shown =>
    intro j
    rw [shown_ima, hattr, hblob]
    by_cases hj : j = key
    · subst hj
      rw [if_neg hA, if_pos rfl, Function.update_self]
      rfl
    · rw [if_neg hj, Function.update_of_ne hj, ← shown_ima]
      exact hinv.shown j
  case own =>
    rw [Function.update_of_ne hA.symm, Function.update_of_ne hK.symm]
    exact hinv.own
  case noAttribute => exact hinv.noAttribute
  case noKeyword => exact hinv.noKeyword
  case plain =>
    intro j hj hjA
    rw [hattr, if_neg (hne j hj)]
    exact hinv.plain j hj hjA
  case noBlob =>
    intro j hj
    rw [hblob]
    exact hinv.noBlob j hj
  case fixed =>
    intro j hj
    rw [Function.update_of_ne (hne j hj)]
    exact hinv.fixed j hj
  case stale => exact hinv.stale
  case fallback =>
    intro j hj hoff hnone
    rw [hattr] at hnone
    by_cases hjk : j = key
    · rw [if_pos hjk] at hnone
      cases hnone
    · rw [if_neg hjk] at hnone
      rw [Function.update_of_ne hjk]
      exact hinv.fallback j hj hoff hnone

/-- The mail with a new value of a key that is not updateable. -/
theorem addMetadata_lookup (mail : MailAttrs) (key value j : String) :
    (mail.addMetadata key value).metadata.lookup j =
      if j = key then some value else mail.metadata.lookup j := by
  split
  case isTrue h => rw [h]; exact AList.lookup_insert _
  case isFalse h => exact AList.lookup_insert_ne h

/-- The mail that is written anew has none of the keys of the module. -/
theorem ImaInv.addMetadata_own (hinv : ImaInv J cfg saved last s) (hK : key ≠ "K")
    (hA : key ≠ cfg.metadataStorageAttribute) (value : String) :
    (s.mail.addMetadata key value).metadata.lookup cfg.metadataStorageAttribute = none ∧
      (s.mail.addMetadata key value).metadata.lookup "K" = none := by
  rw [addMetadata_lookup, addMetadata_lookup, if_neg hA.symm, if_neg hK.symm]
  exact ⟨hinv.noAttribute, hinv.noKeyword⟩

/-- What is shown after the document has been written with a new value of a key that is not
    updateable. -/
theorem ima_rewrite_shown (hJ : J.Lawful) (hinv : ImaInv J cfg saved last s)
    (hup : cfg.isUpdateableAttribute key = false) (hK : key ≠ "K")
    (hA : key ≠ cfg.metadataStorageAttribute) (value : String)
    (hok : cfg.isUpdateAttributes = true → ∀ j v, cfg.isUpdateableAttribute j = true →
      saved.metadata.lookup j = some v → (last j).map cStr = some (cStr v)) (j : String) :
    MetadataModule.shown J cfg .ima
        (saveMetadata J cfg (s.mail.addMetadata key value) s.obj) j =
      (Function.update last key (some value) j).map cStr := by
  obtain ⟨hmailA, hmailK⟩ := hinv.addMetadata_own hK hA value
  by_cases hj : j = key
  · subst hj
    rw [shown_save hJ hmailA hmailK, if_neg hA, if_pos (inBlob_of_not_updateable hup),
      hinv.plain j hup hA, addMetadata_lookup, if_pos rfl, Function.update_self]
    rfl
  · rw [Function.update_of_ne hj]
    refine save_shown_last hJ hinv hmailA hmailK j ?_ ?_
    · intro hblob hx
      rw [addMetadata_lookup, if_neg hj]
      cases hupj : cfg.isUpdateableAttribute j with
      | false => exact hinv.fixed j hupj
      | true =>
          refine hinv.fallback j hupj ?_ hx
          simpa [MetadataCfg.inBlob, hupj] using hblob
    · intro hblob v hv
      rw [addMetadata_lookup, if_neg hj] at hv
      obtain ⟨hupj, hon⟩ := inBlob_eq_false.mp hblob
      have hstale := hinv.stale j hupj
      rw [hv] at hstale
      obtain ⟨w, hw, hwv⟩ := Option.map_eq_some_iff.mp hstale.symm
      rw [hok hon j w hupj hw, hwv]

/-- The mail's metadata are written anew. -/
theorem ima_rewrite (hJ : J.Lawful) (hinv : ImaInv J cfg saved last s)
    (hup : cfg.isUpdateableAttribute key = false) (hK : key ≠ "K")
    (hA : key ≠ cfg.metadataStorageAttribute) (value : String)
    (hok : cfg.isUpdateAttributes = true → ∀ j v, cfg.isUpdateableAttribute j = true →
      saved.metadata.lookup j = some v → (last j).map cStr = some (cStr v)) :
    ImaInv J cfg saved (Function.update last key (some value))
      ⟨s.mail.addMetadata key value,
        saveMetadata J cfg (s.mail.addMetadata key value) s.obj⟩ := by
  obtain ⟨hmailA, hmailK⟩ := hinv.addMetadata_own hK hA value
  have hne : ∀ j, cfg.isUpdateableAttribute j = true → j ≠ key :=
    fun j hj => ne_of_updateable hj hup
  have hxattrs : ∀ j, j ≠ cfg.metadataStorageAttribute → cfg.inBlob j = true →
      (saveMetadata J cfg (s.mail.addMetadata key value) s.obj).xattrs.lookup j =
        s.obj.xattrs.lookup j := by
    intro j hj hblob
    rw [save_xattrs hj, if_pos hblob]
  constructor
  case shown => exact ima_rewrite_shown hJ hinv hup hK hA value hok
  case own =>
    rw [Function.update_of_ne hA.symm, Function.update_of_ne hK.symm]
    exact hinv.own
  case noAttribute => exact hmailA
  case noKeyword => exact hmailK
  case plain =>
    intro j hj hjA
    rw [hxattrs j hjA (inBlob_of_not_updateable hj)]
    exact hinv.plain j hj hjA
  case noBlob => exact fun j hj => save_noBlob hJ hj
  case fixed =>
    intro j hj
    rw [addMetadata_lookup]
    by_cases hjk : j = key
    · rw [if_pos hjk, hjk, Function.update_self]
    · rw [if_neg hjk, Function.update_of_ne hjk]
      exact hinv.fixed j hj
  case stale =>
    intro j hj
    rw [addMetadata_lookup, if_neg (hne j hj)]
    exact hinv.stale j hj
  case fallback =>
    intro j hj hoff hnone
    have hblob : cfg.inBlob j = true := by simp [MetadataCfg.inBlob, hoff]
    rw [addMetadata_lookup, if_neg (hne j hj), Function.update_of_ne (hne j hj)]
    by_cases hjA : j = cfg.metadataStorageAttribute
    · rw [hjA, hinv.noAttribute, hinv.own.1]
    · rw [hxattrs j hjA hblob] at hnone
      exact hinv.fallback j hj hoff hnone

/-- A set of a key that is not updateable, with updates on, brings back what was saved. -/
theorem ima_rewrite_need (hJ : J.Lawful) (hinv : ImaInv J cfg saved last s)
    (hup : cfg.isUpdateableAttribute key = false) (hK : key ≠ "K")
    (hA : key ≠ cfg.metadataStorageAttribute) {value : String}
    (h : ∀ j, MetadataModule.shown J cfg .ima
      (saveMetadata J cfg (s.mail.addMetadata key value) s.obj) j =
        (Function.update last key (some value) j).map cStr)
    (hon : cfg.isUpdateAttributes = true) {j v : String}
    (hj : cfg.isUpdateableAttribute j = true) (hv : saved.metadata.lookup j = some v) :
    (last j).map cStr = some (cStr v) := by
  have hjk : j ≠ key := ne_of_updateable hj hup
  obtain ⟨w, hw, hwv⟩ := Option.map_eq_some_iff.mp
    ((hinv.stale j hj).trans (congrArg (Option.map cStr) hv))
  have hjA : j ≠ cfg.metadataStorageAttribute := by
    rintro rfl
    rw [hinv.noAttribute] at hw
    cases hw
  have hmail : (s.mail.addMetadata key value).metadata.lookup j = some w := by
    rw [addMetadata_lookup, if_neg hjk]
    exact hw
  obtain ⟨hmailA, hmailK⟩ := hinv.addMetadata_own hK hA value
  have hshown := h j
  rw [shown_save hJ hmailA hmailK, if_neg hjA, inBlob_eq_false.mpr ⟨hj, hon⟩,
    if_neg Bool.false_ne_true, hmail, Function.update_of_ne hjk] at hshown
  rw [← hshown, ← hwv]
  rfl

/-- An update leaves what is shown. -/
theorem ima_update_shown (hJ : J.Lawful) (hinv : ImaInv J cfg saved last s)
    (toUpdate : List (String × String)) (key : String) :
    MetadataModule.shown J cfg .ima (updateMetadata J cfg toUpdate s.obj) key =
      (last key).map cStr := by
  unfold updateMetadata
  split
  case isTrue => exact hinv.shown key
  case isFalse =>
    have hview : ∀ j, ((loadMetadata J cfg s.obj .new).metadata.lookup j).map cStr =
        (last j).map cStr := hinv.shown
    refine save_shown_last hJ hinv ?_ ?_ key (fun _ _ => hview key) ?_
    · have hA := hview cfg.metadataStorageAttribute
      rw [hinv.own.1] at hA
      exact Option.map_eq_none_iff.mp hA
    · have hK := hview "K"
      rw [hinv.own.2] at hK
      exact Option.map_eq_none_iff.mp hK
    · intro _ v hv
      have hkey := hview key
      rw [show (loadMetadata J cfg s.obj .new).metadata.lookup key = some v from hv] at hkey
      exact hkey

theorem ima_update (hJ : J.Lawful) (hinv : ImaInv J cfg saved last s)
    (toUpdate : List (String × String)) {last' : String → Option String}
    (hown : last' cfg.metadataStorageAttribute = none ∧ last' "K" = none)
    (hlast : ∀ j, (last' j).map cStr = (last j).map cStr) :
    ImaInv J cfg saved last' ⟨s.mail, updateMetadata J cfg toUpdate s.obj⟩ := by
  have hxattrs : ∀ j, j ≠ cfg.metadataStorageAttribute → cfg.inBlob j = true →
      (updateMetadata J cfg toUpdate s.obj).xattrs.lookup j = s.obj.xattrs.lookup j := by
    intro j hj hblob
    unfold updateMetadata
    split
    case isTrue => rfl
    case isFalse => rw [save_xattrs hj, if_pos hblob]
  constructor
  case shown =>
    intro j
    rw [hlast]
    exact ima_update_shown hJ hinv toUpdate j
  case own => exact hown
  case noAttribute => exact hinv.noAttribute
  case noKeyword => exact hinv.noKeyword
  case plain =>
    intro j hj hjA
    rw [hxattrs j hjA (inBlob_of_not_updateable hj)]
    exact hinv.plain j hj hjA
  case noBlob =>
    intro j hj
    unfold updateMetadata
    split
    case isTrue => exact hinv.noBlob j hj
    case isFalse => exact save_noBlob hJ hj
  case fixed =>
    intro j hj
    rw [hlast]
    exact hinv.fixed j hj
  case stale => exact hinv.stale
  case fallback =>
    intro j hj hoff hnone
    have hblob : cfg.inBlob j = true := by simp [MetadataCfg.inBlob, hoff]
    rw [hlast]
    by_cases hjA : j = cfg.metadataStorageAttribute
    · rw [hjA, hinv.noAttribute, hinv.own.1]
    · rw [hxattrs j hjA hblob] at hnone
      exact hinv.fallback j hj hoff hnone

/-- After the mail has been saved and loaded. -/
theorem ima_start (hJ : J.Lawful)
    (hA : saved.metadata.lookup cfg.metadataStorageAttribute = none)
    (hK : saved.metadata.lookup "K" = none) :
    ImaInv J cfg saved (fun key => saved.metadata.lookup key)
      (MetadataModule.start J cfg .ima saved) := by
  have hshown := shown_save_new hJ hA hK
  have hnone : ∀ j, saved.metadata.lookup j = none →
      (loadMetadata J cfg (saveMetadata J cfg saved .new) .new).metadata.lookup j = none := by
    intro j hj
    have hj' := hshown j
    rw [hj] at hj'
    exact Option.map_eq_none_iff.mp hj'
  constructor
  case shown => exact hshown
  case own => exact ⟨hA, hK⟩
  case noAttribute => exact hnone _ hA
  case noKeyword => exact hnone _ hK
  case plain =>
    intro j hj hjA
    show (saveMetadata J cfg saved .new).xattrs.lookup j = none
    rw [save_xattrs hjA, if_pos (inBlob_of_not_updateable hj)]
    rfl
  case noBlob => exact fun j hj => save_noBlob hJ hj
  case fixed => exact fun j _ => hshown j
  case stale => exact fun j _ => hshown j
  case fallback => exact fun j _ _ _ => hshown j

end Along

/-! ## 5. Equivalence -/

section Equivalence

variable {J : Jansson} {cfg : MetadataCfg} {saved : MailAttrs} {t : Twin} {c : MetadataCall}

/-- Keys a call does not name keep their value. -/
theorem write_of_not_mem {last : String → Option String} {key : String} (h : key ∉ c.keys) :
    c.write last key = last key := by
  cases c with
  | set k v =>
      exact Function.update_of_ne (fun e => h (List.mem_singleton.mpr e)) _ _
  | update toUpdate =>
      induction toUpdate generalizing last with
      | nil => rfl
      | cons e l ih =>
          obtain ⟨hne, hrest⟩ := not_or.mp fun hmem => h (List.mem_cons.mpr hmem)
          exact (ih hrest).trans (Function.update_of_ne hne _ _)

/-- What holds of both. -/
structure TwinInv (J : Jansson) (cfg : MetadataCfg) (saved : MailAttrs) (t : Twin) : Prop where
  default : ∀ key, t.default.obj.xattrs.lookup key = t.last key
  ima : ImaInv J cfg saved t.last t.ima

theorem setxattr_lookup {o : AttrObject} {last : String → Option String}
    (h : ∀ key, o.xattrs.lookup key = last key) (k v key : String) :
    (o.setxattr k v).xattrs.lookup key = Function.update last k (some v) key := by
  rw [lookup_setxattr, Function.update_apply, h]

theorem default_call (h : ∀ key, t.default.obj.xattrs.lookup key = t.last key) (key : String) :
    (MetadataModule.call J cfg .default t.default c).obj.xattrs.lookup key =
      c.write t.last key := by
  cases c with
  | set k v => exact setxattr_lookup h k v key
  | update toUpdate =>
      show (toUpdate.foldl (fun (o : AttrObject) e => o.setxattr e.1 e.2)
        t.default.obj).xattrs.lookup key =
          (MetadataCall.update toUpdate).write t.last key
      generalize t.default.obj = o at h
      generalize t.last = last at h
      induction toUpdate generalizing o last with
      | nil => exact h key
      | cons e l ih => exact ih _ _ fun key => setxattr_lookup h e.1 e.2 key

theorem twin_start (hJ : J.Lawful)
    (hA : saved.metadata.lookup cfg.metadataStorageAttribute = none)
    (hK : saved.metadata.lookup "K" = none) : TwinInv J cfg saved (Twin.start J cfg saved) := by
  refine ⟨fun key => ?_, ima_start hJ hA hK⟩
  show (RadosMetadataStorageDefault.saveMetadata saved .new).xattrs.lookup key = _
  rw [RadosMetadataStorageDefault.saveMetadata_xattrs]
  exact Option.or_none

/-- A safe call keeps the invariant. -/
theorem twin_call (hJ : J.Lawful) (hinv : TwinInv J cfg saved t) (hc : cfg.Proper c)
    (hok : MetadataCallOk cfg saved t c) : TwinInv J cfg saved (t.call J cfg c) := by
  refine ⟨fun key => default_call hinv.default key, ?_⟩
  cases c with
  | set key value =>
      obtain ⟨hK, hA⟩ := hc key (List.mem_singleton_self key)
      show ImaInv J cfg saved (Function.update t.last key (some value))
        ⟨(RadosMetadataStorageIma.setMetadata J cfg t.ima.mail key value t.ima.obj).1,
          (RadosMetadataStorageIma.setMetadata J cfg t.ima.mail key value t.ima.obj).2⟩
      unfold RadosMetadataStorageIma.setMetadata
      cases hup : cfg.isUpdateableAttribute key with
      | true => exact ima_setxattr hinv.ima hup hK hA value
      | false => exact ima_rewrite hJ hinv.ima hup hK hA value (hok hup)
  | update toUpdate =>
      have hown : ∀ key, key = "K" ∨ key = cfg.metadataStorageAttribute →
          MetadataCall.write t.last (.update toUpdate) key = t.last key := by
        intro key hkey
        refine write_of_not_mem fun hmem => ?_
        obtain ⟨hK, hA⟩ := hc key hmem
        rcases hkey with h | h
        · exact hK h
        · exact hA h
      refine ima_update hJ hinv.ima toUpdate ⟨?_, ?_⟩ hok
      · exact (hown _ (.inr rfl)).trans hinv.ima.own.1
      · exact (hown _ (.inl rfl)).trans hinv.ima.own.2

/-- A call that leaves the two equivalent was safe. -/
theorem metadataCallOk_of_equivalent (hJ : J.Lawful) (hinv : TwinInv J cfg saved t)
    (hc : cfg.Proper c) (h : (t.call J cfg c).Equivalent J cfg) : MetadataCallOk cfg saved t c := by
  cases c with
  | set key value =>
      intro hup hon j v hj hv
      obtain ⟨hK, hA⟩ := hc key (List.mem_singleton_self key)
      refine @ima_rewrite_need _ _ _ _ _ _ hJ hinv.ima hup hK hA value (fun i => ?_) hon _ _ hj hv
      have hshown := h.ima i
      simp only [Twin.call, MetadataModule.call, MetadataModule.set,
        RadosMetadataStorageIma.setMetadata, hup, Bool.false_eq_true, if_false] at hshown
      exact hshown
  | update toUpdate =>
      intro j
      exact (h.ima j).symm.trans (ima_update_shown hJ hinv.ima toUpdate j)

/-- **Equivalence of the modules**: after a mail has been saved and loaded, all calls leave both
    modules with each key's last value exactly if they are safe. -/
theorem modules_equivalent_iff (hJ : J.Lawful)
    (hA : saved.metadata.lookup cfg.metadataStorageAttribute = none)
    (hK : saved.metadata.lookup "K" = none) {calls : List MetadataCall}
    (hcalls : ∀ c ∈ calls, cfg.Proper c) :
    (∀ pre, pre <+: calls →
      (run (Twin.call J cfg) (Twin.start J cfg saved) pre).Equivalent J cfg) ↔
      Along (Twin.call J cfg) (MetadataCallOk cfg saved) (Twin.start J cfg saved) calls := by
  refine prefixes_iff_along (I := TwinInv J cfg saved) (D := fun _ => cfg.Proper) ?_
    (fun t c hinv hc hok => twin_call hJ hinv hc hok)
    (fun t c hinv hc h => metadataCallOk_of_equivalent hJ hinv hc h) (twin_start hJ hA hK)
    (along_of_forall hcalls)
  intro t hinv
  exact ⟨fun key => congrArg (Option.map cStr) (hinv.default key), hinv.ima.shown⟩

end Equivalence

/-- The library, as far as the module uses it. -/
def jansson : Jansson := ⟨Json.read, Json.write⟩

theorem jansson_lawful : jansson.Lawful where
  loads_dumps root := ⟨root, Json.read_write root, fun _ => rfl⟩
  dumps_cStr root := cStr_of_noNul (Json.write_noNul root)

/-- The original mailbox is updateable, and updates are on. -/
def updatesMailbox : MetadataCfg := { updateAttributes := "true" }

/-- A mail in the inbox. -/
def mailInInbox : MailAttrs := ⟨((∅ : Attrs).insert "M" "4a\x00").insert "B" "INBOX\x00", ∅⟩

/-- The mailbox guid is set, and then the mailbox name. -/
def guidThenName : List MetadataCall := [.set "M" "4b\x00", .set "B" "Sent\x00"]

theorem set_before_update_equivalent :
    (run (Twin.call jansson updatesMailbox) (Twin.start jansson updatesMailbox mailInInbox)
      guidThenName).Equivalent jansson updatesMailbox := by
  have hproper : ∀ c ∈ guidThenName, updatesMailbox.Proper c := by
    intro c hc
    rcases List.mem_cons.mp hc with rfl | hc
    · decide
    · rw [List.mem_singleton.mp hc]
      decide
  have hok : Along (Twin.call jansson updatesMailbox) (MetadataCallOk updatesMailbox mailInInbox)
      (Twin.start jansson updatesMailbox mailInInbox) guidThenName := by
    refine ⟨fun _ _ j v _ hv => ?_, fun hup => ?_, trivial⟩
    · show (mailInInbox.metadata.lookup j).map cStr = _
      rw [hv]
      rfl
    · cases hup
  exact (modules_equivalent_iff jansson_lawful rfl rfl hproper).mpr hok _ List.prefix_rfl

/-- A change of the original mailbox is undone by the next set of another key, and an update is
    not shown at all. -/
theorem ima_shows_old_mailbox :
    MetadataModule.shown jansson updatesMailbox .ima
        (run (Twin.call jansson updatesMailbox) (Twin.start jansson updatesMailbox mailInInbox)
          [.set "B" "Sent\x00", .set "M" "4b\x00"]).ima.obj "B" = some "INBOX" ∧
      MetadataModule.shown jansson updatesMailbox .default
        (run (Twin.call jansson updatesMailbox) (Twin.start jansson updatesMailbox mailInInbox)
          [.set "B" "Sent\x00", .set "M" "4b\x00"]).default.obj "B" = some "Sent" ∧
      MetadataModule.shown jansson updatesMailbox .ima
        (run (Twin.call jansson updatesMailbox) (Twin.start jansson updatesMailbox mailInInbox)
          [.update [("U", "7\x00")]]).ima.obj "U" = none ∧
      MetadataModule.shown jansson updatesMailbox .default
        (run (Twin.call jansson updatesMailbox) (Twin.start jansson updatesMailbox mailInInbox)
          [.update [("U", "7\x00")]]).default.obj "U" = some "7" := by
  refine ⟨?_, ?_, ?_, ?_⟩ <;> decide

end DovecotCeph
