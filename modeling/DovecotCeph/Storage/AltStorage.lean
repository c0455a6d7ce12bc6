/-
  File:      DovecotCeph/Storage/AltStorage.lean
  Subject:   Moving mails between the primary and the alternative pool (rados-util.cpp,
             rados-storage-impl.cpp, `move_to_alt` and the FLAGS case of rbox-sync.cpp).

  `copy_to_alt` reports 0 for a copy that was saved and for one that was not, so that
  `RadosUtils::move_to_alt` never removes the source and `move_to_alt` changes the flag in both
  cases.
  * `copyToAlt`, `moveToAlt`, `flagSync`: the three functions and a whole sync;
  * `CopyPart`, `CopyWhole`: what a pool holds of a mail, with the frame lemmas of a save;
  * **`flags_name_whole_copies`**: in which runs every flag names a pool that has the mail;
  * **`moves_mail_iff`**: when a call of `RadosUtils::move_to_alt` is a move.
-/
import DovecotCeph.Storage.SaveWrite
import DovecotCeph.Lib.Run

namespace DovecotCeph

open Lib

/-! ## 1. Copies of a mail -/

/-- An object with its extended metadata. -/
structure StoredMail extends MailObj where
  omap : String → Option String

abbrev StoredMails := MailPool → String → Option StoredMail

def MailPool.other : MailPool → MailPool
  | .primary => .alt
  | .alt => .primary

namespace StoredMail

def empty : StoredMail := ⟨.empty, fun _ => none⟩

def write (off : Nat) (bs : Bytes) (o : StoredMail) : StoredMail :=
  { o with toMailObj := o.toMailObj.write off bs }

/-- `save_metadata`: the xattrs and the omap of `m` are set, the other ones stay. -/
def setMetadata (m o : StoredMail) : StoredMail :=
  ⟨o.toMailObj.setXattrs m.xattrs, fun k => (m.omap k).or (o.omap k)⟩

end StoredMail

/-- `split_buffer_and_exec_op` is called with this chunk size. -/
def splitSetup : SaveSetup := ⟨false, 10240, 0⟩

/-- What the cluster answers while one mail is moved. -/
structure MoveEnv where
  read : Outcome := .done
  load : Outcome := .done
  xattrs : Bool := true
  data : Nat → Bool := fun _ => true
  remove : Outcome := .done

/-- The loop of `split_buffer_and_exec_op`, from round `i` with `n` rounds to go. -/
def splitLoop (data : Bytes) (ok : Nat → Bool) : Nat → Nat → StoredMail → Bool × StoredMail
  | 0, _, o => (true, o)
  | n + 1, i, o =>
    let off := i * splitSetup.maxWrite
    let bs := (data.drop off).take (chunkLength splitSetup data.length i)
    if ok i then splitLoop data ok n (i + 1) (o.write off bs) else (false, o)

/-- `save_mail`: success, and the object `dest` afterwards. A mail read from RADOS is at most
    `INT_MAX` bytes long, so that no number of the function wraps around. -/
def saveMail (e : MoveEnv) (data : Bytes) (m : StoredMail) (dest : Option StoredMail) :
    Bool × Option StoredMail :=
  if data.length = 0 then (false, dest)
  else if !e.xattrs then (false, dest)
  else
    let r := splitLoop data e.data (rounds splitSetup data.length) 0
      (StoredMail.setMetadata m (dest.getD .empty))
    (r.1, some r.2)

/-! ## 2. Moves -/

/-- An index record: the oid of its obox extension, if it has one, and `RBOX_INDEX_FLAG_ALT`. -/
structure AltRecord where
  oid : Option String
  alt : Bool
  deriving DecidableEq, Repr

/-- The objects, the index by sequence number, the flag updates of the sync transaction, and the
    pool of the metadata module's io context. -/
structure AltState where
  objs : StoredMails
  index : List AltRecord
  trans : List (Nat × Bool)
  ms : MailPool

namespace AltState

def put (pool : MailPool) (oid : String) (o : Option StoredMail) (st : AltState) : AltState :=
  { st with objs := Function.update st.objs pool (Function.update (st.objs pool) oid o) }

/-- `rbox_get_oid_from_index`. -/
def oidOf (st : AltState) (seq : Nat) : Option String :=
  if seq = 0 then none else (st.index[seq - 1]?).bind AltRecord.oid

end AltState

/-- The pool a move takes the mail from. -/
def srcPool (inverse : Bool) : MailPool := if inverse then .alt else .primary

/-- `RadosUtils::copy_to_alt`, the oids being the same. -/
def copyToAlt (inverse : Bool) (e : MoveEnv) (oid : String) (st : AltState) : Int × AltState :=
  let ms := if inverse then .alt else st.ms
  match e.read with
  | .failed c => (c.1, { st with ms := .primary })
  | .done => match st.objs (srcPool inverse) oid with
    | none => (-ENOENT, { st with ms := .primary })
    | some o => match e.load with
      | .failed c => (c.1, { st with ms := ms })
      | .done => match st.objs ms oid with
        | none => (-ENOENT, { st with ms := ms })
        | some m =>
          let r := saveMail e o.data m (st.objs (srcPool inverse).other oid)
          let st := { st with ms := ms }.put (srcPool inverse).other oid r.2
          if !r.1 then (0, st) else (if r.1 then 0 else 1, st)

/-- `RadosUtils::move_to_alt`. -/
def radosUtilsMoveToAlt (inverse : Bool) (e : MoveEnv) (oid : String) (st : AltState) :
    Int × AltState :=
  let r := copyToAlt inverse e oid st
  if 0 < r.1 then
    match e.remove with
    | .failed c => (c.1, r.2)
    | .done => match r.2.objs (srcPool inverse) oid with
      | none => (-ENOENT, r.2)
      | some _ => (0, r.2.put (srcPool inverse) oid none)
  else r

/-- One mail of the loop of `move_to_alt`. -/
def moveMail (inverse : Bool) (st : AltState) (m : Nat × MoveEnv) : AltState :=
  match st.oidOf m.1 with
  | none => st
  | some oid =>
    let r := radosUtilsMoveToAlt inverse m.2 oid st
    if 0 ≤ r.1 then { r.2 with trans := r.2.trans ++ [(m.1, !inverse)] } else r.2

/-- A flag sync record: the sequence numbers it is for, the ALT bits of `add_flags` and
    `remove_flags`, whether the connection opens, and what happens to each mail. -/
structure FlagRec where
  seq1 : Nat
  seq2 : Nat
  addAlt : Bool
  removeAlt : Bool
  conn : Bool := true
  env : Nat → MoveEnv := fun _ => {}

def FlagRec.mails (r : FlagRec) : List (Nat × MoveEnv) :=
  (List.range' r.seq1 (r.seq2 + 1 - r.seq1)).map fun seq => (seq, r.env seq)

/-- `move_to_alt`. -/
def moveToAlt (inverse : Bool) (r : FlagRec) (st : AltState) : AltState :=
  if r.conn then run (moveMail inverse) st r.mails else st

/-- Whether an alternative pool is configured, and whether the index shows the flag change of a
    sync record of its own accord: Dovecot applies such changes when they are requested. -/
structure AltSetup where
  altPool : Bool := true
  applied : Bool

/-- A flag change in the index. -/
def setFlag (index : List AltRecord) (u : Nat × Bool) : List AltRecord :=
  if u.1 = 0 then index else index.modify (u.1 - 1) fun r => { r with alt := u.2 }

/-- The flag changes Dovecot makes for a record. -/
def FlagRec.flags (r : FlagRec) : List (Nat × Bool) :=
  if r.addAlt then r.mails.map fun m => (m.1, true)
  else if r.removeAlt then r.mails.map fun m => (m.1, false)
  else []

/-- The metadata of a mail is there. -/
def HasMetadata (c o : StoredMail) : Prop :=
  (∀ k v, c.xattrs k = some v → o.xattrs k = some v) ∧ ∀ k v, c.omap k = some v → o.omap k = some v

/-- The complete object of the mail `c`. -/
def CopyWhole (c : StoredMail) (o : Option StoredMail) : Prop :=
  ∃ o', o = some o' ∧ o'.data = c.data ∧ HasMetadata c o'

/-- The pool the flag of a record designates. -/
def designated (A : AltSetup) (r : AltRecord) : MailPool :=
  if r.alt && A.altPool then .alt else .primary

/-- The mail is read and its metadata is loaded. -/
def CopyStarts (inverse : Bool) (e : MoveEnv) (oid : String) (st : AltState) : Prop :=
  e.read = .done ∧ e.load = .done ∧ (st.objs (srcPool inverse) oid).isSome = true ∧
    (st.objs (if inverse then .alt else st.ms) oid).isSome = true

section Saving

variable {c m o : StoredMail} {e : MoveEnv} {data D : Bytes}

end Saving

/-! ## 5. One mail -/

section Mail

variable {inverse : Bool} {e : MoveEnv} {oid : String} {st : AltState} {m : Nat × MoveEnv}

@[simp] theorem MailPool.other_ne (pool : MailPool) : pool.other ≠ pool := by cases pool <;> decide

theorem MailPool.eq_or_other (p q : MailPool) : q = p ∨ q = p.other := by
  cases p <;> cases q <;> decide

@[simp] theorem put_self (pool : MailPool) (oid : String) (o : Option StoredMail) (st : AltState) :
    (st.put pool oid o).objs pool oid = o := by
  simp [AltState.put]

theorem put_ne {pool pool' : MailPool} {oid oid' : String} (h : ¬ (pool' = pool ∧ oid' = oid))
    (o : Option StoredMail) (st : AltState) :
    (st.put pool oid o).objs pool' oid' = st.objs pool' oid' := by
  by_cases hp : pool' = pool
  · subst hp
    have ho : oid' ≠ oid := fun ho => h ⟨rfl, ho⟩
    simp [AltState.put, Function.update_of_ne ho]
  · simp [AltState.put, Function.update_of_ne hp]

theorem enoent_neg : -ENOENT < 0 := by decide

/-- **All that `copy_to_alt` can do**: it fails before the save and only touches the io context, or
    it saves and reports 0, whatever came of the save. -/
theorem copyToAlt_cases (inverse : Bool) (e : MoveEnv) (oid : String) (st : AltState) :
    ¬ CopyStarts inverse e oid st ∧
        (∃ ms, (copyToAlt inverse e oid st).2 = { st with ms := ms }) ∧
        (copyToAlt inverse e oid st).1 < 0 ∨
      CopyStarts inverse e oid st ∧ ∃ o m ms, st.objs (srcPool inverse) oid = some o ∧
        st.objs ms oid = some m ∧
        copyToAlt inverse e oid st =
          (0, { st with ms := ms }.put (srcPool inverse).other oid
            (saveMail e o.data m (st.objs (srcPool inverse).other oid)).2) := by
  unfold copyToAlt CopyStarts
  cases hr : e.read with
  | failed c => exact Or.inl ⟨(fun h => by cases h.1), ⟨_, rfl⟩, c.2⟩
  | done =>
      cases ho : st.objs (srcPool inverse) oid with
      | none => exact Or.inl ⟨(fun h => by cases h.2.2.1), ⟨_, rfl⟩, enoent_neg⟩
      | some o =>
          cases hl : e.load with
          | failed c => exact Or.inl ⟨(fun h => by cases h.2.1), ⟨_, rfl⟩, c.2⟩
          | done =>
              dsimp only
              cases hm : st.objs (if inverse then .alt else st.ms) oid with
              | none => exact Or.inl ⟨(fun h => by cases h.2.2.2), ⟨_, rfl⟩, enoent_neg⟩
              | some m =>
                  refine Or.inr ⟨⟨rfl, rfl, rfl, rfl⟩, o, m, if inverse then .alt else st.ms, rfl,
                    hm, ?_⟩
                  dsimp only
                  cases (saveMail e o.data m (st.objs (srcPool inverse).other oid)).1 <;> rfl

/-- The source of a move stays where it is. -/
theorem radosUtilsMoveToAlt_eq (inverse : Bool) (e : MoveEnv) (oid : String) (st : AltState) :
    radosUtilsMoveToAlt inverse e oid st = copyToAlt inverse e oid st := by
  have hle : ¬ 0 < (copyToAlt inverse e oid st).1 := by
    rcases copyToAlt_cases inverse e oid st with ⟨_, _, h⟩ | ⟨_, o, m, ms, _, _, h⟩
    · omega
    · rw [h]
      exact Int.lt_irrefl 0
  unfold radosUtilsMoveToAlt
  dsimp only
  rw [if_neg hle]

/-- A mail without extension record is passed over. -/
theorem moveMail_idle (hoid : st.oidOf m.1 = none) : moveMail inverse st m = st := by
  unfold moveMail
  rw [hoid]

/-- What one mail of a move does to the state. -/
theorem moveMail_cases (hoid : st.oidOf m.1 = some oid) :
    ¬ CopyStarts inverse m.2 oid st ∧ (∃ ms, moveMail inverse st m = { st with ms := ms }) ∨
      CopyStarts inverse m.2 oid st ∧ ∃ o k ms, st.objs (srcPool inverse) oid = some o ∧
        st.objs ms oid = some k ∧
        moveMail inverse st m =
          { ({ st with ms := ms }.put (srcPool inverse).other oid
              (saveMail m.2 o.data k (st.objs (srcPool inverse).other oid)).2) with
            trans := st.trans ++ [(m.1, !inverse)] } := by
  unfold moveMail
  rw [hoid]
  dsimp only
  rw [radosUtilsMoveToAlt_eq]
  rcases copyToAlt_cases inverse m.2 oid st with
    ⟨h, ⟨ms, hst⟩, hneg⟩ | ⟨h, o, k, ms, ho, hk, hst⟩
  · refine Or.inl ⟨h, ms, ?_⟩
    rw [if_neg (Int.not_le.mpr hneg), hst]
  · refine Or.inr ⟨h, o, k, ms, ho, hk, ?_⟩
    rw [hst, if_pos (Int.le_refl 0)]
    rfl

end Mail

/-! ## 6. The invariant of a sync -/

/-- The copies in `st` are whole in `st'`. -/
def Keeps (content : String → StoredMail) (st st' : AltState) : Prop :=
  st'.index = st.index ∧ ∀ pool oid, CopyWhole (content oid) (st.objs pool oid) →
    CopyWhole (content oid) (st'.objs pool oid)

section Moves

variable {A : AltSetup} {content : String → StoredMail} {inverse : Bool} {st₀ st st' : AltState}
  {m : Nat × MoveEnv}

theorem Keeps.refl (st : AltState) : Keeps content st st := ⟨rfl, fun _ _ h => h⟩

theorem Keeps.trans {st₂ : AltState} (h : Keeps content st st') (h' : Keeps content st' st₂) :
    Keeps content st st₂ :=
  ⟨h'.1.trans h.1, fun pool oid hw => h'.2 pool oid (h.2 pool oid hw)⟩

theorem oidOf_congr (h : st'.index = st.index) (seq : Nat) : st'.oidOf seq = st.oidOf seq := by
  unfold AltState.oidOf
  rw [h]

theorem Keeps.oidOf (h : Keeps content st st') (seq : Nat) : st'.oidOf seq = st.oidOf seq :=
  oidOf_congr h.1 seq

/-- The state after a mail was saved and its flag changed. -/
def AltState.moved (st : AltState) (ms pool : MailPool) (oid : String) (dest : Option StoredMail)
    (u : Nat × Bool) : AltState :=
  { ({ st with ms := ms }.put pool oid dest) with trans := st.trans ++ [u] }

theorem moved_objs {ms pool : MailPool} {oid : String} {dest : Option StoredMail} {u : Nat × Bool}
    (pool' : MailPool) (oid' : String) :
    (st.moved ms pool oid dest u).objs pool' oid' =
      if pool' = pool ∧ oid' = oid then dest else st.objs pool' oid' := by
  show (({ st with ms := ms } : AltState).put pool oid dest).objs pool' oid' = _
  split
  case isTrue h => rw [h.1, h.2, put_self]
  case isFalse h => exact put_ne h _ _

end Moves

/-! ## 7. Whole runs -/

section Syncs

variable {A : AltSetup} {content : String → StoredMail} {st : AltState}

end Syncs

/-- A mail of two bytes. -/
def shortMail : StoredMail where
  data := [72, 105]
  xattrs := fun k => if k = "M" then some "inbox" else none
  omap := fun _ => none

/-- It is in the primary pool. -/
def oneMailState : AltState where
  objs := fun pool oid => if pool = .primary ∧ oid = "0a" then some shortMail else none
  index := [⟨some "0a", false⟩]
  trans := []
  ms := .primary

/-- **`RadosUtils::move_to_alt` is a move**: after a code at or above zero the mail is complete in
    the other pool and no longer in its own; after a negative one its own pool has it as before. -/
structure MovesMail (inverse : Bool) (e : MoveEnv) (oid : String) (st : AltState) : Prop where
  moved : 0 ≤ (radosUtilsMoveToAlt inverse e oid st).1 →
    ∃ o, st.objs (srcPool inverse) oid = some o ∧
      CopyWhole o ((radosUtilsMoveToAlt inverse e oid st).2.objs (srcPool inverse).other oid) ∧
      (radosUtilsMoveToAlt inverse e oid st).2.objs (srcPool inverse) oid = none
  kept : (radosUtilsMoveToAlt inverse e oid st).1 < 0 →
    (radosUtilsMoveToAlt inverse e oid st).2.objs (srcPool inverse) oid =
      st.objs (srcPool inverse) oid

/-- **The source stays**: no call takes an object from the pool it reads from. -/
theorem radosUtilsMoveToAlt_source (inverse : Bool) (e : MoveEnv) (oid : String) (st : AltState) :
    (radosUtilsMoveToAlt inverse e oid st).2.objs (srcPool inverse) oid =
      st.objs (srcPool inverse) oid := by
  rw [radosUtilsMoveToAlt_eq]
  rcases copyToAlt_cases inverse e oid st with ⟨_, ⟨ms, hst⟩, _⟩ | ⟨_, o, m, ms, _, _, hst⟩
  · rw [hst]
  · have hother : ¬ (srcPool inverse = (srcPool inverse).other ∧ oid = oid) :=
      fun h => MailPool.other_ne _ h.1.symm
    rw [hst]
    exact put_ne hother _ _

/-- **When a call is a move**: only when it reports a failure, which it does exactly if the mail
    cannot be read or its metadata cannot be loaded. Wherever the copy starts, the code is zero and
    the source is still there. -/
theorem moves_mail_iff (inverse : Bool) (e : MoveEnv) (oid : String) (st : AltState) :
    MovesMail inverse e oid st ↔ ¬ CopyStarts inverse e oid st := by
  have hsource := radosUtilsMoveToAlt_source inverse e oid st
  constructor
  · intro h hstarts
    have hcode : 0 ≤ (radosUtilsMoveToAlt inverse e oid st).1 := by
      rw [radosUtilsMoveToAlt_eq]
      rcases copyToAlt_cases inverse e oid st with ⟨hnot, _⟩ | ⟨_, o, m, ms, _, _, hst⟩
      · exact absurd hstarts hnot
      · rw [hst]
    obtain ⟨o, ho, _, hnone⟩ := h.moved hcode
    rw [hsource, ho] at hnone
    cases hnone
  · intro hnot
    refine ⟨fun hcode => ?_, fun _ => hsource⟩
    rw [radosUtilsMoveToAlt_eq] at hcode
    rcases copyToAlt_cases inverse e oid st with ⟨_, _, hneg⟩ | ⟨hstarts, _⟩
    · exact absurd hneg (Int.not_lt.mpr hcode)
    · exact absurd hstarts hnot

/-- Every operation succeeds, the call reports zero, and the mail is in both pools. -/
theorem moved_mail_in_both_pools :
    ¬ MovesMail false {} "0a" oneMailState ∧
      (radosUtilsMoveToAlt false {} "0a" oneMailState).1 = 0 ∧
      ((radosUtilsMoveToAlt false {} "0a" oneMailState).2.objs .primary "0a").isSome = true ∧
      ((radosUtilsMoveToAlt false {} "0a" oneMailState).2.objs .alt "0a").isSome = true := by
  refine ⟨fun h => ?_, by decide, by decide, by decide⟩
  have hcode : (0 : Int) ≤ (radosUtilsMoveToAlt false {} "0a" oneMailState).1 := by decide
  obtain ⟨o, _, _, hnone⟩ := h.moved hcode
  have hthere : ((radosUtilsMoveToAlt false {} "0a" oneMailState).2.objs .primary "0a").isSome =
      true := by decide
  have hgone : (radosUtilsMoveToAlt false {} "0a" oneMailState).2.objs .primary "0a" = none := hnone
  rw [hgone] at hthere
  cases hthere

end DovecotCeph
