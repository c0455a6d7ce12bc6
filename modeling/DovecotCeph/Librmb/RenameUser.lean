/-
  File:      DovecotCeph/Librmb/RenameUser.lean
  Subject:   Renaming a user (rmb-commands.cpp): the object that maps him to his namespace is copied
             under the new name and removed under the old one, by `rmb rename` (rmb.cpp) or by
             `doveadm rmb rename` (doveadm-rbox-plugin.cpp).

  `rename_user` appends the suffix to the user id it is given. `rmb` gives it the one it looked up,
  which has the suffix already.
  * `renameUser_of_copies`, `renameUser_of_not_copies`: what `rename_user` does to the objects;
  * **`rename_safe_iff`**: when a front end renames the mapping of the user it was asked to rename,
    and overwrites none.
-/
import DovecotCeph.Librmb.NamespaceManager

namespace DovecotCeph

/-! ## 1. The operations -/

/-- `IoCtx::stat`. -/
def IoCtx.stat (w : Objects String) (io : IoCtx) (oid : String) : Outcome → Int
  | .failed e => e.1
  | .done => match w (io.name oid) with
    | none => -ENOENT
    | some _ => 0

/-- `RadosStorageImpl::copy` within a namespace. -/
def IoCtx.copyTo (w : Objects String) (io : IoCtx) (src dest : String) :
    Outcome → Int × Objects String
  | .failed e => (e.1, w)
  | .done => match w (io.name src) with
    | none => (-ENOENT, w)
    | some v => (0, Function.update w (io.name dest) (some v))

/-- What the cluster answers: the reads of the two lookups, and the operations of `rename_user`. -/
structure RenameEnv where
  lookup₁ : Nat → Outcome
  lookup₂ : Nat → Outcome
  statSrc : Outcome
  statDest : Outcome
  copy : Outcome
  delete : Outcome

/-- The code of `rename_user`, `none` where it is not called; the objects; and whether a mapping was
    copied. -/
structure RenameRun where
  ret : Option Int
  w : Objects String
  copied : Bool

/-- **`RmbCommands::rename_user`**, to the name given as option `to_rename`. -/
def renameUser (c : RadosDovecotCephCfg) (confirmed : Bool) (toRename uid : String) (e : RenameEnv)
    (w : Objects String) (io : IoCtx) : RenameRun :=
  if !c.isUserMapping then ⟨some (-1), w, false⟩
  else if !confirmed then ⟨some (-1), w, false⟩
  else
    let src := uid ++ c.json.userSuffix
    let dest := toRename ++ c.json.userSuffix
    if src = dest then ⟨some (-1), w, false⟩
    else
      let io := io.setNamespace c.json.userNs
      if IoCtx.stat w io src e.statSrc < 0 then ⟨some (-1), w, false⟩
      else if 0 ≤ IoCtx.stat w io dest e.statDest then ⟨some (-1), w, false⟩
      else
        let k := IoCtx.copyTo w io src dest e.copy
        -- the copy sets the namespace again, from a `const char *`
        let io := io.setNamespace (cStr c.json.userNs)
        if k.1 = 0 then
          if src = "" then ⟨some (-1), k.2, true⟩
          else
            let d := IoCtx.remove k.2 io src e.delete
            ⟨some d.1, d.2, true⟩
        else ⟨some k.1, k.2, false⟩

/-- `RmbCommands::init_metadata_storage_module` with the option `namespace`: the user id and the io
    context, set to the namespace that was looked up. -/
def initMetadataStorageModule (c : RadosDovecotCephCfg) (user : String) (e : RenameEnv)
    (w : Objects String) (io : IoCtx) : Option (String × IoCtx) :=
  let uid := if user = "" then "" else user ++ c.json.userSuffix
  let l := lookupKey (some c) e.lookup₁ uid "" ⟨w, io, fun _ => none⟩
  if l.1 then some (uid, l.2.2.io.setNamespace l.2.1)
  else
    let l := lookupKey (some c) e.lookup₂ uid l.2.1 l.2.2
    if l.1 then some (uid, l.2.2.io.setNamespace l.2.1) else none

/-- The two programs that rename. -/
inductive RenameFrontEnd where
  | rmb
  | doveadm
  deriving DecidableEq, Repr

/-- A front end with an open connection and a loaded configuration, asked to rename `user`. -/
def RenameFrontEnd.rename (f : RenameFrontEnd) (c : RadosDovecotCephCfg) (confirmed : Bool)
    (user toRename : String) (e : RenameEnv) (w : Objects String) (io : IoCtx) : RenameRun :=
  match f with
  | .doveadm => renameUser c true toRename user e w io
  | .rmb =>
    match initMetadataStorageModule c user e w io with
    | none => ⟨none, w, false⟩
    | some (uid, io) => renameUser c confirmed toRename uid e w io

/-! ## 2. A safe rename -/

/-- A configuration with user mapping on. Its namespace was assigned from a C string. -/
structure MappedConfig where
  cfg : RadosDovecotCephCfg
  valid : cfg.isConfigValid = true
  mapping : cfg.isUserMapping = true
  nsText : cStr cfg.json.userNs = cfg.json.userNs

/-- A request to rename: configuration, confirmation, names, the cluster's answers and its objects,
    and the io context of the storage. -/
structure RenameCase where
  c : MappedConfig
  confirmed : Bool
  user : String
  toRename : String
  e : RenameEnv
  w : Objects String
  io : IoCtx

namespace RenameCase

variable (r : RenameCase)

/-- The mapping object of a user. -/
def mappingOf (name : String) : ObjName :=
  mappingName r.c.cfg r.io.pool (name ++ r.c.cfg.json.userSuffix)

/-- What a front end does with the request; `doveadm` asks for no confirmation. -/
def run (f : RenameFrontEnd) : RenameRun :=
  f.rename r.c.cfg r.confirmed r.user r.toRename r.e r.w r.io

/-- All operations succeed, and the rename is possible: there is a mapping to rename, and none to
    overwrite. -/
def MoveDue (f : RenameFrontEnd) : Prop :=
  (f = .rmb → r.confirmed = true ∧ ReadSucceeds r.e.lookup₁) ∧
    r.e.statSrc = .done ∧ r.e.statDest = .done ∧ r.e.copy = .done ∧ r.e.delete = .done ∧
    r.w (r.mappingOf r.user) ≠ none ∧ r.w (r.mappingOf r.toRename) = none

/-- **The mapping of the user is moved to the new name when it can be; no mapping is copied over
    another one; and the namespace stays stored under one of the names.** -/
structure Safe (f : RenameFrontEnd) : Prop where
  moves : r.MoveDue f → (r.run f).w =
    Function.update (Function.update r.w (r.mappingOf r.toRename) (r.w (r.mappingOf r.user)))
      (r.mappingOf r.user) none
  keepsOther : (r.run f).copied = true → r.w (r.mappingOf r.toRename) = none
  keepsValue : ∀ v, r.w (r.mappingOf r.user) = some v →
    (r.run f).w (r.mappingOf r.user) = some v ∨ (r.run f).w (r.mappingOf r.toRename) = some v

/-- The user id a front end hands to `rename_user`. -/
def uid (f : RenameFrontEnd) : String :=
  match f with
  | .doveadm => r.user
  | .rmb => if r.user = "" then "" else r.user ++ r.c.cfg.json.userSuffix

/-- The user id is right: no suffix is appended twice, the mapping has a name, and, as far as `rmb`
    looks it up, a value. -/
def RightUser (f : RenameFrontEnd) : Prop :=
  r.user ++ r.c.cfg.json.userSuffix ≠ "" ∧
    (f = .rmb → r.user = "" ∨
      (r.c.cfg.json.userSuffix = "" ∧ r.w (r.mappingOf r.user) ≠ some ""))

/-- The front end gets to `rename_user`: `rmb` has to find a namespace. -/
def Reached (f : RenameFrontEnd) : Prop :=
  f = .rmb → r.confirmed = true ∧ (r.user = "" ∨
    ((ReadSucceeds r.e.lookup₁ ∨ ReadSucceeds r.e.lookup₂) ∧
      ∃ v, r.w (r.mappingOf r.user) = some v ∧ v ≠ ""))

/-- **An existing mapping of the new name is taken for missing**, its `stat` failing, and is copied
    over. -/
def OverwriteFault (f : RenameFrontEnd) : Prop :=
  r.Reached f ∧ r.uid f ++ r.c.cfg.json.userSuffix ≠ r.toRename ++ r.c.cfg.json.userSuffix ∧
    r.e.statSrc = .done ∧ r.w (r.mappingOf (r.uid f)) ≠ none ∧
    r.e.statDest ≠ .done ∧ r.w (r.mappingOf r.toRename) ≠ none ∧ r.e.copy = .done

end RenameCase

/-! ## 3. What `rename_user` does -/

section RenameUser

variable {c : RadosDovecotCephCfg} {toRename uid : String} {e : RenameEnv} {w : Objects String}
  {io : IoCtx}

theorem stat_nonneg_iff {oid : String} {o : Outcome} :
    0 ≤ IoCtx.stat w io oid o ↔ o = .done ∧ w (io.name oid) ≠ none := by
  cases o with
  | failed e =>
      have he : ¬ 0 ≤ e.1 := Int.not_le.mpr e.2
      exact iff_of_false he fun h => nomatch h.1
  | done =>
      unfold IoCtx.stat
      cases w (io.name oid) with
      | none => simp [ENOENT]
      | some v => simp

theorem copyTo_done {src dest : String} {v : String} (hv : w (io.name src) = some v) :
    IoCtx.copyTo w io src dest .done = (0, Function.update w (io.name dest) (some v)) := by
  unfold IoCtx.copyTo
  rw [hv]

theorem remove_done {oid : String} {v : String} (hv : w (io.name oid) = some v) :
    IoCtx.remove w io oid .done = (0, Function.update w (io.name oid) none) := by
  unfold IoCtx.remove
  rw [hv]

/-- The conditions under which a mapping is copied. -/
def Copies (c : RadosDovecotCephCfg) (toRename uid : String) (e : RenameEnv) (w : Objects String)
    (pool : String) : Prop :=
  uid ++ c.json.userSuffix ≠ toRename ++ c.json.userSuffix ∧
    e.statSrc = .done ∧ w (mappingName c pool (uid ++ c.json.userSuffix)) ≠ none ∧
    ¬ (e.statDest = .done ∧ w (mappingName c pool (toRename ++ c.json.userSuffix)) ≠ none) ∧
    e.copy = .done

theorem copies_iff : Copies c toRename uid e w io.pool ↔
    uid ++ c.json.userSuffix ≠ toRename ++ c.json.userSuffix ∧
      0 ≤ IoCtx.stat w (io.setNamespace c.json.userNs) (uid ++ c.json.userSuffix) e.statSrc ∧
      ¬ 0 ≤ IoCtx.stat w (io.setNamespace c.json.userNs) (toRename ++ c.json.userSuffix)
        e.statDest ∧ e.copy = .done := by
  rw [stat_nonneg_iff, stat_nonneg_iff, and_assoc]
  rfl

/-- A confirmed `rename_user` without a copy leaves the objects. -/
theorem renameUser_of_not_copies (hm : c.isUserMapping = true)
    (h : ¬ Copies c toRename uid e w io.pool) :
    ∃ ret, renameUser c true toRename uid e w io = ⟨ret, w, false⟩ := by
  unfold renameUser
  rw [hm]
  simp only [Bool.not_true, Bool.false_eq_true, if_false]
  by_cases heq : uid ++ c.json.userSuffix = toRename ++ c.json.userSuffix
  · exact ⟨_, if_pos heq⟩
  · rw [if_neg heq]
    by_cases hs : IoCtx.stat w (io.setNamespace c.json.userNs) (uid ++ c.json.userSuffix)
        e.statSrc < 0
    · exact ⟨_, if_pos hs⟩
    · rw [if_neg hs]
      by_cases hd : 0 ≤ IoCtx.stat w (io.setNamespace c.json.userNs)
          (toRename ++ c.json.userSuffix) e.statDest
      · exact ⟨_, if_pos hd⟩
      · rw [if_neg hd]
        cases hcopy : e.copy with
        | failed err =>
            have hne : ¬ err.1 = 0 := Int.ne_of_lt err.2
            exact ⟨_, if_neg hne⟩
        | done => exact absurd (copies_iff.mpr ⟨heq, Int.not_lt.mp hs, hd, hcopy⟩) h

/-- **A confirmed `rename_user` with a copy**: the mapping is removed if it has a name and that
    works. -/
theorem renameUser_of_copies (hm : c.isUserMapping = true)
    (hns : cStr c.json.userNs = c.json.userNs) (h : Copies c toRename uid e w io.pool) :
    let src := mappingName c io.pool (uid ++ c.json.userSuffix)
    let dest := mappingName c io.pool (toRename ++ c.json.userSuffix)
    let run := renameUser c true toRename uid e w io
    run.copied = true ∧
      run.w = if uid ++ c.json.userSuffix ≠ "" ∧ e.delete = .done then
          Function.update (Function.update w dest (w src)) src none
        else Function.update w dest (w src) := by
  intro src dest run
  obtain ⟨heq, hs, hd, hcopy⟩ := copies_iff.mp h
  obtain ⟨v, hv⟩ := Option.ne_none_iff_exists'.mp h.2.2.1
  have hsrc : w ((io.setNamespace c.json.userNs).name (uid ++ c.json.userSuffix)) = some v := hv
  have hrun : run = if uid ++ c.json.userSuffix = "" then
        ⟨some (-1), Function.update w dest (some v), true⟩
      else
        let d := IoCtx.remove (Function.update w dest (some v))
          ((io.setNamespace c.json.userNs).setNamespace c.json.userNs)
          (uid ++ c.json.userSuffix) e.delete
        ⟨some d.1, d.2, true⟩ := by
    show renameUser c true toRename uid e w io = _
    unfold renameUser
    rw [hm, hcopy, hns]
    simp only [Bool.not_true, Bool.false_eq_true, if_false]
    rw [if_neg heq, if_neg (Int.not_lt.mpr hs), if_neg hd, copyTo_done (v := v) hsrc]
    exact if_pos rfl
  rw [hrun, show w src = some v from hv]
  by_cases hempty : uid ++ c.json.userSuffix = ""
  · rw [if_pos hempty, if_neg fun h => h.1 hempty]
    exact ⟨rfl, rfl⟩
  · rw [if_neg hempty]
    have hne : src ≠ dest := fun h => heq (congrArg ObjName.oid h)
    have hleft : Function.update w dest (some v) src = some v := by
      rw [Function.update_of_ne hne]
      exact hv
    cases hdel : e.delete with
    | failed err =>
        rw [if_neg fun h => nomatch h.2]
        exact ⟨rfl, rfl⟩
    | done =>
        rw [remove_done (v := v) hleft, if_pos ⟨hempty, rfl⟩]
        exact ⟨rfl, rfl⟩

end RenameUser

/-! ## 4. What the front ends do -/

section Lookup

variable {c : RadosDovecotCephCfg} {uid : String} (w : Objects String) (io : IoCtx)

/-- A lookup in an empty cache finds a stored namespace that is not empty. -/
theorem lookupKey_mapped (hv : c.isConfigValid = true) (hm : c.isUserMapping = true)
    (hu : uid ≠ "") (rd : Nat → Outcome) (value : String) :
    let l := lookupKey (some c) rd uid value ⟨w, io, fun _ => none⟩
    (l.1 = true ↔ ReadSucceeds rd ∧ ∃ v, w (mappingName c io.pool uid) = some v ∧ v ≠ "") ∧
      l.2.2.io = io.setNamespace "" ∧
      (l.1 = false → l.2.2 = ⟨w, io.setNamespace "", fun _ => none⟩) := by
  intro l
  have hcache : NsState.cache ⟨w, io, fun _ => none⟩ uid = none := rfl
  have hl := lookupKey_uncached hu hv hm hcache rd value
  dsimp only at hl
  by_cases hr : 0 ≤ (readObject w (io.setNamespace c.json.userNs) uid rd).1 ∧
      (readObject w (io.setNamespace c.json.userNs) uid rd).2 ≠ ""
  · rw [if_pos hr] at hl
    obtain ⟨hs, hval⟩ := readObject_nonneg hr.1
    have hfound : ReadSucceeds rd ∧ ∃ v, w (mappingName c io.pool uid) = some v ∧ v ≠ "" :=
      ⟨hs, _, hval, hr.2⟩
    simp only [l, hl]
    exact ⟨iff_of_true trivial hfound, trivial, fun h => (Bool.false_ne_true h.symm).elim⟩
  · rw [if_neg hr] at hl
    have hmiss : ¬ (ReadSucceeds rd ∧ ∃ v, w (mappingName c io.pool uid) = some v ∧ v ≠ "") := by
      intro h
      obtain ⟨hs, v, hval, hne⟩ := h
      have hread : readObject w (io.setNamespace c.json.userNs) uid rd =
          ((v.utf8ByteSize : Int), v) :=
        (readObject_of_succeeds hs).trans (IoCtx.read_done hval)
      rw [hread] at hr
      exact hr ⟨Int.natCast_nonneg _, hne⟩
    simp only [l, hl]
    exact ⟨iff_of_false Bool.false_ne_true hmiss, trivial, fun _ => trivial⟩

end Lookup

namespace RenameCase

variable (r : RenameCase)

/-- `rmb` gets past its two lookups for the users it finds a namespace for. -/
theorem init_of_found (h : r.user = "" ∨ ((ReadSucceeds r.e.lookup₁ ∨ ReadSucceeds r.e.lookup₂) ∧
      ∃ v, r.w (r.mappingOf r.user) = some v ∧ v ≠ "")) :
    ∃ io : IoCtx, io.pool = r.io.pool ∧
      initMetadataStorageModule r.c.cfg r.user r.e r.w r.io = some (r.uid .rmb, io) := by
  unfold initMetadataStorageModule uid
  by_cases hu : r.user = ""
  · have hl : lookupKey (some r.c.cfg) r.e.lookup₁ "" "" ⟨r.w, r.io, fun _ => none⟩ =
        (true, "", ⟨r.w, r.io, fun _ => none⟩) := if_pos rfl
    refine ⟨r.io.setNamespace "", rfl, ?_⟩
    simp only [if_pos hu, hl, if_true]
  · have hne : r.user ++ r.c.cfg.json.userSuffix ≠ "" := by
      intro h
      exact hu (String.append_eq_empty_iff.mp h).1
    obtain ⟨hread, hval⟩ := h.resolve_left hu
    obtain ⟨hone, hio, hleft⟩ := lookupKey_mapped r.w r.io r.c.valid r.c.mapping hne
      r.e.lookup₁ ""
    rw [if_neg hu]
    dsimp only
    cases hl : (lookupKey (some r.c.cfg) r.e.lookup₁ (r.user ++ r.c.cfg.json.userSuffix) ""
        ⟨r.w, r.io, fun _ => none⟩).1 with
    | true =>
        rw [if_pos rfl, hio]
        refine ⟨_, ?_, rfl⟩
        rfl
    | false =>
        have hmiss : ¬ ReadSucceeds r.e.lookup₁ := by
          intro hs
          have := hone.mpr ⟨hs, hval⟩
          rw [hl] at this
          cases this
        rw [if_neg (by decide), hleft hl]
        obtain ⟨htwo, hio₂, -⟩ := lookupKey_mapped r.w (r.io.setNamespace "")
          r.c.valid r.c.mapping hne r.e.lookup₂
          (lookupKey (some r.c.cfg) r.e.lookup₁ (r.user ++ r.c.cfg.json.userSuffix) ""
            ⟨r.w, r.io, fun _ => none⟩).2.1
        rw [if_pos (htwo.mpr ⟨hread.resolve_left hmiss, hval⟩), hio₂]
        refine ⟨_, ?_, rfl⟩
        rfl

theorem init_of_not_found (h : ¬ (r.user = "" ∨
      ((ReadSucceeds r.e.lookup₁ ∨ ReadSucceeds r.e.lookup₂) ∧
        ∃ v, r.w (r.mappingOf r.user) = some v ∧ v ≠ ""))) :
    initMetadataStorageModule r.c.cfg r.user r.e r.w r.io = none := by
  obtain ⟨hu, hmiss⟩ := not_or.mp h
  have hne : r.user ++ r.c.cfg.json.userSuffix ≠ "" := by
    intro h
    exact hu (String.append_eq_empty_iff.mp h).1
  obtain ⟨hone, -, hleft⟩ := lookupKey_mapped r.w r.io r.c.valid r.c.mapping hne
    r.e.lookup₁ ""
  have hfirst : ¬ _ = true := fun hl => hmiss ⟨Or.inl (hone.mp hl).1, (hone.mp hl).2⟩
  unfold initMetadataStorageModule
  rw [if_neg hu]
  dsimp only
  rw [if_neg hfirst, hleft (Bool.eq_false_of_not_eq_true hfirst)]
  obtain ⟨htwo, -, -⟩ := lookupKey_mapped r.w (r.io.setNamespace "")
    r.c.valid r.c.mapping hne r.e.lookup₂
    (lookupKey (some r.c.cfg) r.e.lookup₁ (r.user ++ r.c.cfg.json.userSuffix) ""
      ⟨r.w, r.io, fun _ => none⟩).2.1
  rw [if_neg fun hl => hmiss ⟨Or.inr (htwo.mp hl).1, (htwo.mp hl).2⟩]

theorem run_of_reached {f : RenameFrontEnd} (h : r.Reached f) :
    ∃ io : IoCtx, io.pool = r.io.pool ∧
      r.run f = renameUser r.c.cfg true r.toRename (r.uid f) r.e r.w io := by
  cases f with
  | doveadm => exact ⟨r.io, rfl, rfl⟩
  | rmb =>
      obtain ⟨hc, hfound⟩ := h rfl
      obtain ⟨io, hpool, hinit⟩ := r.init_of_found hfound
      refine ⟨io, hpool, ?_⟩
      unfold run RenameFrontEnd.rename
      simp only [hinit, hc]

theorem run_of_not_reached {f : RenameFrontEnd} (h : ¬ r.Reached f) :
    (r.run f).w = r.w ∧ (r.run f).copied = false := by
  cases f with
  | doveadm => exact absurd (fun h => nomatch h) h
  | rmb =>
      unfold run RenameFrontEnd.rename
      by_cases hfound : r.user = "" ∨ ((ReadSucceeds r.e.lookup₁ ∨ ReadSucceeds r.e.lookup₂) ∧
          ∃ v, r.w (r.mappingOf r.user) = some v ∧ v ≠ "")
      · have hc : r.confirmed = false :=
          Bool.eq_false_of_not_eq_true fun hc => h fun _ => ⟨hc, hfound⟩
        obtain ⟨io, -, hinit⟩ := r.init_of_found hfound
        simp only [hinit, hc, renameUser, r.c.mapping, Bool.not_true, Bool.not_false,
          Bool.false_eq_true, if_false, if_true, and_self]
      · simp only [r.init_of_not_found hfound, and_self]

/-- The mapping that is looked for. -/
def source (f : RenameFrontEnd) : ObjName :=
  r.mappingOf (r.uid f)

/-- The mapping that is looked for is copied. -/
def CopyMade (f : RenameFrontEnd) : Prop :=
  r.Reached f ∧ Copies r.c.cfg r.toRename (r.uid f) r.e r.w r.io.pool

theorem run_copied (f : RenameFrontEnd) : (r.run f).copied = true ↔ r.CopyMade f := by
  by_cases h : r.Reached f
  · obtain ⟨io, hpool, hrun⟩ := r.run_of_reached h
    by_cases hc : Copies r.c.cfg r.toRename (r.uid f) r.e r.w r.io.pool
    · rw [hrun, (renameUser_of_copies r.c.mapping r.c.nsText (hpool ▸ hc)).1]
      exact iff_of_true rfl ⟨h, hc⟩
    · obtain ⟨ret, hret⟩ := renameUser_of_not_copies r.c.mapping (hpool ▸ hc)
      rw [hrun, hret]
      exact iff_of_false Bool.false_ne_true fun h => hc h.2
  · rw [(r.run_of_not_reached h).2]
    exact iff_of_false Bool.false_ne_true fun hc => h hc.1

theorem run_of_not_copied {f : RenameFrontEnd} (h : ¬ r.CopyMade f) : (r.run f).w = r.w := by
  by_cases hr : r.Reached f
  · obtain ⟨io, hpool, hrun⟩ := r.run_of_reached hr
    have hc : ¬ Copies r.c.cfg r.toRename (r.uid f) r.e r.w r.io.pool := fun hc => h ⟨hr, hc⟩
    obtain ⟨ret, hret⟩ := renameUser_of_not_copies r.c.mapping (hpool ▸ hc)
    rw [hrun, hret]
  · exact (r.run_of_not_reached hr).1

theorem run_of_copied {f : RenameFrontEnd} (h : r.CopyMade f) : (r.run f).w =
    if r.uid f ++ r.c.cfg.json.userSuffix ≠ "" ∧ r.e.delete = .done then
      Function.update (Function.update r.w (r.mappingOf r.toRename) (r.w (r.source f)))
        (r.source f) none
    else Function.update r.w (r.mappingOf r.toRename) (r.w (r.source f)) := by
  obtain ⟨io, hpool, hrun⟩ := r.run_of_reached h.1
  rw [hrun, (renameUser_of_copies r.c.mapping r.c.nsText (hpool ▸ h.2)).2, hpool]
  rfl

/-! ## 5. When a rename is safe -/

theorem overwriteFault_iff (f : RenameFrontEnd) :
    r.OverwriteFault f ↔ r.CopyMade f ∧ r.w (r.mappingOf r.toRename) ≠ none := by
  constructor
  · intro h
    obtain ⟨hr, hne, hs, hv, hd, hdv, hc⟩ := h
    exact ⟨⟨hr, hne, hs, hv, fun h => hd h.1, hc⟩, hdv⟩
  · intro h
    obtain ⟨⟨hr, hne, hs, hv, hd, hc⟩, hdv⟩ := h
    exact ⟨hr, hne, hs, hv, fun h => hd ⟨h, hdv⟩, hdv, hc⟩

theorem keepsOther_iff (f : RenameFrontEnd) :
    ((r.run f).copied = true → r.w (r.mappingOf r.toRename) = none) ↔ ¬ r.OverwriteFault f := by
  rw [r.run_copied, r.overwriteFault_iff, not_and, not_ne_iff]

/-- A copy over no other mapping leaves the namespace stored: the mapping that is removed has been
    copied. -/
theorem keepsValue {f : RenameFrontEnd} (h : ¬ r.OverwriteFault f) (v : String)
    (hv : r.w (r.mappingOf r.user) = some v) :
    (r.run f).w (r.mappingOf r.user) = some v ∨ (r.run f).w (r.mappingOf r.toRename) = some v := by
  by_cases hc : r.CopyMade f
  · have hdest : r.w (r.mappingOf r.toRename) = none :=
      (r.keepsOther_iff f).mpr h ((r.run_copied f).mpr hc)
    have hne : r.mappingOf r.user ≠ r.mappingOf r.toRename := by
      intro he
      rw [he, hdest] at hv
      cases hv
    have hsd : r.mappingOf r.toRename ≠ r.source f := by
      intro he
      rw [he] at hdest
      exact hc.2.2.2.1 hdest
    rw [r.run_of_copied hc]
    by_cases hs : r.source f = r.mappingOf r.user
    · right
      split
      · rw [Function.update_of_ne hsd, Function.update_self, hs, hv]
      · rw [Function.update_self, hs, hv]
    · left
      split
      · rw [Function.update_of_ne (Ne.symm hs), Function.update_of_ne hne, hv]
      · rw [Function.update_of_ne hne, hv]
  · rw [r.run_of_not_copied hc]
    exact Or.inl hv

/-- The mapping is moved if it is the one that is looked for, and has a name. -/
theorem moved_iff {f : RenameFrontEnd} (hd : r.MoveDue f) :
    (r.run f).w = Function.update (Function.update r.w (r.mappingOf r.toRename)
        (r.w (r.mappingOf r.user))) (r.mappingOf r.user) none ↔
      r.Reached f ∧ r.source f = r.mappingOf r.user ∧ r.user ++ r.c.cfg.json.userSuffix ≠ "" := by
  obtain ⟨-, hss, hsd, hcopy, hdel, hsrc, hdest⟩ := hd
  have hne : r.mappingOf r.user ≠ r.mappingOf r.toRename := fun he => hsrc (he ▸ hdest)
  constructor
  · intro hrun
    have hgone : (r.run f).w (r.mappingOf r.user) = none := by
      rw [hrun, Function.update_self]
    have hc : r.CopyMade f := by
      by_contra hc
      rw [r.run_of_not_copied hc] at hgone
      exact hsrc hgone
    have hwcopy := r.run_of_copied hc
    rw [hwcopy] at hgone
    by_cases hname : r.uid f ++ r.c.cfg.json.userSuffix ≠ "" ∧ r.e.delete = .done
    · rw [if_pos hname] at hgone
      have hs : r.source f = r.mappingOf r.user := by
        by_contra hs
        rw [Function.update_of_ne (Ne.symm hs), Function.update_of_ne hne] at hgone
        exact hsrc hgone
      have hoid : r.uid f ++ r.c.cfg.json.userSuffix = r.user ++ r.c.cfg.json.userSuffix :=
        congrArg ObjName.oid hs
      exact ⟨hc.1, hs, hoid ▸ hname.1⟩
    · rw [if_neg hname, Function.update_of_ne hne] at hgone
      exact absurd hgone hsrc
  · intro h
    obtain ⟨hr, hs, hname⟩ := h
    have hoid : r.uid f ++ r.c.cfg.json.userSuffix = r.user ++ r.c.cfg.json.userSuffix :=
      congrArg ObjName.oid hs
    have hdiff : r.uid f ++ r.c.cfg.json.userSuffix ≠
        r.toRename ++ r.c.cfg.json.userSuffix := by
      intro he
      refine hne ?_
      unfold mappingOf
      rw [← hoid, he]
    have hfound : r.w (r.source f) ≠ none := by
      rw [hs]
      exact hsrc
    have hc : r.CopyMade f :=
      ⟨hr, hdiff, hss, hfound, fun h => h.2 hdest, hcopy⟩
    rw [r.run_of_copied hc, hoid, if_pos ⟨hname, hdel⟩, hs]

theorem append_twice_iff {a b : String} : a ++ b ++ b = a ++ b ↔ b = "" := by
  constructor
  · intro h
    have hlen := congrArg String.length h
    rw [String.length_append, String.length_append] at hlen
    exact String.length_eq_zero_iff.mp (by omega)
  · rintro rfl
    simp

/-- A front end that may move the mapping looks for the right one in exactly these cases. -/
theorem rightUser_iff {f : RenameFrontEnd} (hd : r.MoveDue f) :
    r.RightUser f ↔
      r.Reached f ∧ r.source f = r.mappingOf r.user ∧ r.user ++ r.c.cfg.json.userSuffix ≠ "" := by
  cases f with
  | doveadm =>
      exact ⟨fun h => ⟨nofun, rfl, h.1⟩, fun h => ⟨h.2.2, nofun⟩⟩
  | rmb =>
      obtain ⟨hc, hl⟩ := hd.1 rfl
      by_cases hu : r.user = ""
      · have huid : r.uid .rmb = r.user := (if_pos hu).trans hu.symm
        unfold source
        rw [huid]
        exact ⟨fun h => ⟨fun _ => ⟨hc, Or.inl hu⟩, rfl, h.1⟩, fun h => ⟨h.2.2, fun _ => Or.inl hu⟩⟩
      · have huid : r.uid .rmb = r.user ++ r.c.cfg.json.userSuffix := if_neg hu
        have hsource : r.source .rmb = r.mappingOf r.user ↔ r.c.cfg.json.userSuffix = "" := by
          unfold source mappingOf
          rw [huid]
          constructor
          · intro h
            exact append_twice_iff.mp (congrArg ObjName.oid h)
          · intro h
            rw [append_twice_iff.mpr h]
        obtain ⟨v, hv⟩ := Option.ne_none_iff_exists'.mp hd.2.2.2.2.2.1
        have hstored : r.w (r.mappingOf r.user) ≠ some "" ↔ r.Reached .rmb := by
          constructor
          · intro h _
            refine ⟨hc, Or.inr ⟨Or.inl hl, v, hv, ?_⟩⟩
            rintro rfl
            exact h hv
          · intro h hempty
            obtain ⟨-, v', hv', hne⟩ := (h rfl).2.resolve_left hu
            exact hne (Option.some.inj (hv'.symm.trans hempty))
        rw [hsource, ← hstored]
        constructor
        · intro h
          obtain ⟨hsuf, hval⟩ := (h.2 rfl).resolve_left hu
          exact ⟨hval, hsuf, h.1⟩
        · intro h
          obtain ⟨hval, hsuf, hname⟩ := h
          exact ⟨hname, fun _ => Or.inr ⟨hsuf, hval⟩⟩

/-- **A rename is safe in exactly these cases**: the front end looks for the mapping of the user it
    was asked to rename, or that one is not to be moved; and it does not take an existing mapping of
    the new name for missing. -/
theorem rename_safe_iff (f : RenameFrontEnd) :
    r.Safe f ↔ (r.RightUser f ∨ ¬ r.MoveDue f) ∧ ¬ r.OverwriteFault f := by
  constructor
  · intro h
    refine ⟨?_, (r.keepsOther_iff f).mp h.keepsOther⟩
    by_cases hd : r.MoveDue f
    · exact Or.inl ((r.rightUser_iff hd).mpr ((r.moved_iff hd).mp (h.moves hd)))
    · exact Or.inr hd
  · intro h
    obtain ⟨hright, hfault⟩ := h
    refine ⟨fun hd => ?_, (r.keepsOther_iff f).mpr hfault, r.keepsValue hfault⟩
    exact (r.moved_iff hd).mpr ((r.rightUser_iff hd).mp (hright.resolve_right (not_not.mpr hd)))

end RenameCase

/-- `rmb` is to rename alice, who has a mapping, to bob, with the default suffix. -/
def aliceToBob : RenameCase where
  c := ⟨⟨true, { valid := true, userMapping := "true" }⟩, rfl, rfl, by decide⟩
  confirmed := true
  user := "alice"
  toRename := "bob"
  e := ⟨fun _ => .done, fun _ => .done, .done, .done, .done, .done⟩
  w := Function.update (fun _ => none) ⟨"mail_storage", "users", "alice_u"⟩ (some "4f2c")
  io := ⟨"mail_storage", ""⟩

/-- `rename_user` looks for `alice_u_u`. -/
theorem suffix_appended_twice : ¬ aliceToBob.Safe .rmb := by
  intro h
  have hdue : aliceToBob.MoveDue .rmb :=
    ⟨fun _ => ⟨rfl, 0, by decide, rfl, nofun⟩, rfl, rfl, rfl, rfl, by decide, by decide⟩
  have hgone : (aliceToBob.run .rmb).w (aliceToBob.mappingOf "alice") = none := by
    rw [h.moves hdue]
    exact Function.update_self _ _ _
  revert hgone
  decide +kernel

end DovecotCeph
