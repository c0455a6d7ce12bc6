/-
  File:      DovecotCeph/Storage/MetadataContext.lean
  Subject:   The one io context of the metadata module: who switches it, who switches it back, and
             where the metadata written through it ends up (`update_flags`,
             `update_extended_metadata`, `move_to_alt` of rbox-sync.cpp, rbox-copy.cpp,
             `rbox_mail_metadata_get`, `rbox_save_assign_uids`).

  * `updateMails`: the loop both update functions share; it is left without switching back when the
    connection fails;
  * `metaStep`: an operation, with the metadata writes it issues -- each with the pool it is sent to
    and the pool of the mail's object;
  * **`metadata_reaches_own_pool`**: in which runs the two are the same and the context is the
    primary one after every operation.
-/
import DovecotCeph.Storage.AltStorage
import Mathlib.Data.List.Induction

namespace DovecotCeph

open Lib

/-! ## 1. Operations -/

/-- A metadata write through the module: the pool it is sent to, and the pool of the object. -/
structure MetaWrite where
  oid : String
  pool : MailPool
  own : MailPool
  deriving DecidableEq, Repr

/-- A mail of the open transaction (`rados_mails`): its oid, the pool its object is written to, and
    the ALT flag its index record gets. -/
structure PendingMail where
  oid : String
  pool : MailPool
  alt : Bool
  deriving DecidableEq, Repr

/-- The storage of `AltStorage`, and the mails of the open transaction. -/
structure MetaState where
  st : AltState
  pending : List PendingMail

/-- `mail_index_lookup`. -/
def AltState.record (st : AltState) (seq : Nat) : Option AltRecord :=
  if seq = 0 then none else st.index[seq - 1]?

/-- The pool of a mail's object: the one its flag designates, unless only the other one has it. -/
def ownPool (A : AltSetup) (st : AltState) (r : AltRecord) (oid : String) : MailPool :=
  let d := designated A r
  if (st.objs d oid).isNone && (st.objs d.other oid).isSome then d.other else d

/-- A change to an object that took effect; it creates the object where there is none. -/
def AltState.change (pool : MailPool) (oid : String) (f : StoredMail → StoredMail)
    (st : AltState) : AltState :=
  st.put pool oid (some (f ((st.objs pool oid).getD .empty)))

def StoredMail.setXattr (k v : String) (o : StoredMail) : StoredMail :=
  { o with xattrs := Function.update o.xattrs k (some v) }

def StoredMail.setOmap (k : String) (v : Option String) (o : StoredMail) : StoredMail :=
  { o with omap := Function.update o.omap k v }

/-- What happens to one mail while metadata is updated: the connection, the load of its metadata,
    whether the keyword is in the index, and the write. -/
structure UpdateEnv where
  conn : Bool := true
  load : Bool := true
  known : Bool := true
  write : Bool := true

/-- What an update does to one mail: is a write issued, is the loop left, and the state. -/
structure UpdateStep where
  issued : Bool
  stop : Bool
  st : AltState

/-- The loop of `update_flags` and `update_extended_metadata`: the context is set to the mail's
    pool, and back to the primary one behind the loop -- but not where the connection fails. -/
def updateMails (A : AltSetup) (body : UpdateEnv → String → AltState → UpdateStep) :
    List (Nat × UpdateEnv) → AltState → List MetaWrite × AltState
  | [], st => ([], { st with ms := .primary })
  | m :: mails, st => match st.record m.1 with
    | none => updateMails A body mails st
    | some r =>
      if !m.2.conn then ([], st)
      else
        let st := { st with ms := designated A r }
        match r.oid with
        | none => updateMails A body mails st
        | some oid =>
          let u := body m.2 oid st
          let ws := if u.issued then [⟨oid, st.ms, ownPool A st r oid⟩] else []
          if u.stop then (ws, { u.st with ms := .primary })
          else
            let q := updateMails A body mails u.st
            (ws ++ q.1, q.2)

/-- One mail of `update_flags`; `newFlags` makes the new text of the flags from the loaded one,
    `none` where that cannot be read. A write that fails is only reported. -/
def updateFlagsBody (newFlags : Option String → Option String) (e : UpdateEnv) (oid : String)
    (st : AltState) : UpdateStep :=
  match st.objs st.ms oid with
  | none => ⟨false, false, st⟩
  | some o =>
    if !e.load then ⟨false, false, st⟩
    else match newFlags (o.xattrs "F") with
      | none => ⟨false, false, st⟩
      | some v => ⟨true, false, if e.write then st.change st.ms oid (.setXattr "F" v) else st⟩

/-- One mail of `update_extended_metadata`: a keyword is removed or set. -/
def updateKeywordBody (key : String) (value : Option String) (e : UpdateEnv) (oid : String)
    (st : AltState) : UpdateStep :=
  if value.isSome && !e.known then ⟨false, false, st⟩
  else if e.write then ⟨true, false, st.change st.ms oid (.setOmap key value)⟩
  else ⟨true, true, st⟩

/-- A copy of a mail in RADOS, or by saving it: the source's pool, whether the connection opens and
    namespaces and index record are found, the calls of `rbox_mail_metadata_get` it makes -- with
    the outcome of the connection and of the rest --, the new oid and flag, and the object it
    makes. -/
structure MetaCopy where
  alt : Bool
  conn : Bool := true
  ready : Bool := true
  gets : List (Bool × Bool) := []
  bySaving : Bool := false
  oid : String
  newAlt : Bool := false
  made : Option StoredMail

def MetaCopy.pool (k : MetaCopy) : MailPool := if k.alt then .alt else .primary

/-- The calls of `rbox_mail_metadata_get`: do all succeed, and the io context afterwards. -/
def metadataGets (pool : MailPool) : List (Bool × Bool) → MailPool → Bool × MailPool
  | [], ms => (true, ms)
  | g :: gs, ms =>
    if !g.1 then (false, ms)
    else if !g.2 then (false, pool)
    else metadataGets pool gs pool

/-- `rbox_mail_storage_copy`. -/
def metaCopy (k : MetaCopy) (S : MetaState) : MetaState :=
  if !k.conn || !k.ready then S
  else
    let g := metadataGets k.pool k.gets S.st.ms
    let st := { S.st with ms := g.2 }
    if !g.1 || k.bySaving then { S with st := st }
    else match k.made with
      | none => { S with st := st }
      | some o => ⟨st.put k.pool k.oid (some o), S.pending ++ [⟨k.oid, k.pool, k.newAlt⟩]⟩

/-- `rbox_save_assign_uids`: it ends at the first write that fails. -/
def assignUids (uids : Nat → String) (ok : Nat → Bool) : Nat → List PendingMail → AltState →
    List MetaWrite × Bool × AltState
  | _, [], st => ([], true, st)
  | i, p :: ps, st =>
    let w : MetaWrite := ⟨p.oid, st.ms, p.pool⟩
    if ok i then
      let q := assignUids uids ok (i + 1) ps (st.change st.ms p.oid (.setXattr "U" (uids i)))
      (w :: q.1, q.2)
    else ([w], false, st)

/-- The operations: moves, updates and the end of a sync, with the flag changes of its records,
    copies and saves, and the end of a transaction with or without its uids. -/
inductive MetaOp where
  | move (inverse : Bool) (r : FlagRec)
  | updateFlags (newFlags : Option String → Option String) (mails : List (Nat × UpdateEnv))
  | updateKeyword (key : String) (value : Option String) (mails : List (Nat × UpdateEnv))
  | syncEnd (flags : List (Nat × Bool)) (commit : Bool)
  | copy (k : MetaCopy)
  | save (oid : String) (alt : Bool) (made : Option StoredMail)
  | commit (uidAttribute : Bool) (uids : Nat → String) (ok : Nat → Bool)
  | rollback (deletes : Bool)

def dropPending (deletes : Bool) (S : MetaState) : MetaState :=
  ⟨if deletes then S.pending.foldl (fun st p => st.put .primary p.oid none) S.st else S.st, []⟩

/-- **An operation**: the metadata writes it issues, and the state. -/
def metaStep (A : AltSetup) (S : MetaState) : MetaOp → List MetaWrite × MetaState
  | .move inverse r => ([], { S with st := moveToAlt inverse r S.st })
  | .updateFlags newFlags mails =>
      let q := updateMails A (updateFlagsBody newFlags) mails S.st
      (q.1, { S with st := q.2 })
  | .updateKeyword key value mails =>
      let q := updateMails A (updateKeywordBody key value) mails S.st
      (q.1, { S with st := q.2 })
  | .syncEnd flags commit =>
      let applied := if A.applied then flags else []
      ([], { S with st := { S.st with
        index := (applied ++ if commit then S.st.trans else []).foldl setFlag S.st.index
        trans := [] } })
  | .copy k => ([], metaCopy k S)
  | .save oid alt made =>
      ([], ⟨match made with
          | none => S.st
          | some o => S.st.put .primary oid (some o),
        S.pending ++ [⟨oid, .primary, alt⟩]⟩)
  | .commit uidAttribute uids ok =>
      let q := if uidAttribute then assignUids uids ok 0 S.pending S.st else ([], true, S.st)
      (q.1, if q.2.1 then
          ⟨{ q.2.2 with index := q.2.2.index ++ S.pending.map fun p => ⟨some p.oid, p.alt⟩ }, []⟩
        else dropPending true { S with st := q.2.2 })
  | .rollback deletes => ([], dropPending deletes S)

/-- **Every metadata write of the operation goes to the pool of its mail's object, and the context
    is the primary one when the operation returns.** -/
def MetaRight (A : AltSetup) (S : MetaState) (op : MetaOp) : Prop :=
  (∀ w ∈ (metaStep A S op).1, w.pool = w.own) ∧ (metaStep A S op).2.st.ms = .primary

/-! ## 2. Safe operations -/

/-- A mail that is moved back cannot be read. -/
def ReadFails (st : AltState) (m : Nat × MoveEnv) : Prop :=
  ∀ oid, st.oidOf m.1 = some oid → m.2.read ≠ .done ∨ st.objs .alt oid = none

/-- The connection does not fail right behind a mail of the alternative pool; `stops` says where
    the loop is left before. -/
def ConnOk (A : AltSetup) (st : AltState) (stops : AltRecord → UpdateEnv → Bool) :
    MailPool → List (Nat × UpdateEnv) → Prop
  | _, [] => True
  | pool, m :: mails => match st.record m.1 with
    | none => ConnOk A st stops pool mails
    | some r =>
      if m.2.conn then stops r m.2 = true ∨ ConnOk A st stops (designated A r) mails
      else pool = .primary

/-- The loop of the keywords is left where a write fails. -/
def keywordStops (value : Option String) (r : AltRecord) (e : UpdateEnv) : Bool :=
  r.oid.isSome && !(value.isSome && !e.known) && !e.write

/-- The flag of each mail designates a pool that has its object. -/
def Designated (A : AltSetup) (st : AltState) (mails : List (Nat × UpdateEnv)) : Prop :=
  ∀ m ∈ mails, ∀ r oid, st.record m.1 = some r → r.oid = some oid →
    (st.objs (designated A r) oid).isSome = true

/-- **The operations that are safe**: of the mails moved back the last one cannot be read, the
    connection does not fail behind a mail of the alternative pool, keywords go to mails whose flag
    is right, nothing is read of a mail of the alternative pool to copy it, and no mail of the
    alternative pool gets a uid. -/
def MetaOk (A : AltSetup) (S : MetaState) : MetaOp → Prop
  | .move inverse r => inverse = true → r.conn = true →
      ∀ m, (r.mails.filter fun m => (S.st.oidOf m.1).isSome).getLast? = some m → ReadFails S.st m
  | .updateFlags _ mails => ConnOk A S.st (fun _ _ => false) .primary mails
  | .updateKeyword _ value mails =>
      ConnOk A S.st (keywordStops value) .primary mails ∧ Designated A S.st mails
  | .syncEnd .. => True
  | .copy k => k.alt = true → k.conn = true → k.ready = true →
      ∀ g, k.gets.head? = some g → g.1 = false
  | .save .. => True
  | .commit uidAttribute _ ok => uidAttribute = true →
      ∀ i p, S.pending[i]? = some p → (∀ j < i, ok j = true) → p.pool = .primary
  | .rollback _ => True

/-! ## 3. Updates -/

section Updates

variable {A : AltSetup} {st st' : AltState} {body : UpdateEnv → String → AltState → UpdateStep}
  {stops : AltRecord → UpdateEnv → Bool}

theorem record_congr (h : st'.index = st.index) (seq : Nat) : st'.record seq = st.record seq := by
  unfold AltState.record
  rw [h]

theorem connOk_congr (h : st'.index = st.index) (mails : List (Nat × UpdateEnv)) {pool : MailPool}
    (hc : ConnOk A st stops pool mails) : ConnOk A st' stops pool mails := by
  induction mails generalizing pool with
  | nil => trivial
  | cons m mails ih =>
      unfold ConnOk at hc ⊢
      rw [record_congr h]
      cases hr : st.record m.1 with
      | none =>
          rw [hr] at hc
          exact ih hc
      | some r =>
          rw [hr] at hc
          dsimp only at hc ⊢
          split
          case isTrue hm =>
            rw [if_pos hm] at hc
            exact hc.imp id ih
          case isFalse hm =>
            rw [if_neg hm] at hc
            exact hc

/-- What an update does not do: it keeps the index, the context and the objects that are there. -/
structure UpdateFrame (body : UpdateEnv → String → AltState → UpdateStep) : Prop where
  index : ∀ e oid st, (body e oid st).st.index = st.index
  ms : ∀ e oid st, (body e oid st).st.ms = st.ms
  keeps : ∀ e oid st pool o, (st.objs pool o).isSome = true →
    ((body e oid st).st.objs pool o).isSome = true

theorem change_isSome (pool : MailPool) (oid : String) (f : StoredMail → StoredMail)
    {pool' : MailPool} {oid' : String} (h : (st.objs pool' oid').isSome = true) :
    ((st.change pool oid f).objs pool' oid').isSome = true := by
  unfold AltState.change
  by_cases hp : pool' = pool ∧ oid' = oid
  · rw [hp.1, hp.2, put_self]
    rfl
  · rw [put_ne hp]
    exact h

theorem ownPool_of_isSome {r : AltRecord} {oid : String}
    (h : (st.objs (designated A r) oid).isSome = true) : ownPool A st r oid = designated A r := by
  unfold ownPool
  rw [Option.isSome_iff_ne_none] at h
  simp [h]

/-- A loop that `stops` does not leave goes on. -/
theorem connOk_goes_on {C : Prop} {r : AltRecord} {e : UpdateEnv}
    (hstops : ∀ r e, stops r e = true → ∃ oid, r.oid = some oid ∧ ∀ st, (body e oid st).stop = true)
    (hconn : stops r e = true ∨ C)
    (hno : ∀ oid, r.oid = some oid → ∃ st, ¬ (body e oid st).stop = true) : C := by
  rcases hconn with hs | hc
  · obtain ⟨oid, ho, h⟩ := hstops r e hs
    obtain ⟨st, hst⟩ := hno oid ho
    exact absurd (h st) hst
  · exact hc

/-- A write to the designated pool is right if the object is there. -/
theorem write_own {r : AltRecord} {oid : String} {issued : Bool}
    (h : issued = true → (st.objs (designated A r) oid).isSome = true) :
    ∀ w ∈ (if issued = true then [(⟨oid, designated A r, ownPool A st r oid⟩ : MetaWrite)] else []),
      w.pool = w.own := by
  intro w hmem
  split at hmem
  case isTrue hi =>
    rw [List.mem_singleton.mp hmem]
    exact (ownPool_of_isSome (h hi)).symm
  case isFalse => cases hmem

/-- An update leaves the connections that the other mails need. -/
theorem UpdateFrame.connOk (hframe : UpdateFrame body) {st₁ : AltState} {pool : MailPool}
    {mails : List (Nat × UpdateEnv)} (hindex : st₁.index = st.index) (hms : st₁.ms = pool)
    (e : UpdateEnv) (oid : String) (h : ConnOk A st stops pool mails) :
    ConnOk A (body e oid st₁).st stops (body e oid st₁).st.ms mails := by
  rw [hframe.ms, hms]
  exact connOk_congr ((hframe.index _ _ _).trans hindex) mails h

/-- An update leaves the objects where the flags say they are. -/
theorem UpdateFrame.designated (hframe : UpdateFrame body) {st₁ : AltState}
    {mails : List (Nat × UpdateEnv)} (hindex : st₁.index = st.index) (hobjs : st₁.objs = st.objs)
    (e : UpdateEnv) (oid : String) (h : Designated A st mails) :
    Designated A (body e oid st₁).st mails := by
  intro m hm r oid' hr ho
  rw [record_congr ((hframe.index _ _ _).trans hindex)] at hr
  refine hframe.keeps _ _ _ _ _ ?_
  rw [hobjs]
  exact h m hm r oid' hr ho

/-- **The loop**: it ends with the primary context, and its writes go to the right pools if a write
    is issued only where the object is, or all flags are right. -/
theorem updateMails_right (hframe : UpdateFrame body)
    (hstops : ∀ r e, stops r e = true → ∃ oid, r.oid = some oid ∧ ∀ st, (body e oid st).stop = true)
    (mails : List (Nat × UpdateEnv)) (hconn : ConnOk A st stops st.ms mails)
    (hown : (∀ e oid st, (body e oid st).issued = true → (st.objs st.ms oid).isSome = true) ∨
      Designated A st mails) :
    (∀ w ∈ (updateMails A body mails st).1, w.pool = w.own) ∧
      (updateMails A body mails st).2.ms = .primary := by
  induction mails generalizing st with
  | nil => exact ⟨nofun, rfl⟩
  | cons m mails ih =>
      unfold ConnOk at hconn
      unfold updateMails
      have hrest : Designated A st (m :: mails) → Designated A st mails :=
        fun h m' hm' => h m' (List.mem_cons_of_mem _ hm')
      cases hr : st.record m.1 with
      | none =>
          rw [hr] at hconn
          exact ih hconn (hown.imp id hrest)
      | some r =>
          rw [hr] at hconn
          dsimp only at hconn ⊢
          by_cases hm : m.2.conn = true
          case neg =>
            -- left without switching back
            rw [if_neg hm] at hconn
            simp only [hm, Bool.not_false, if_true]
            exact ⟨nofun, hconn⟩
          case pos =>
            rw [if_pos hm] at hconn
            simp only [hm, Bool.not_true, Bool.false_eq_true, if_false]
            have hindex : ({ st with ms := designated A r } : AltState).index = st.index := rfl
            cases hoid : r.oid with
            | none =>
                have hgo : ConnOk A st stops (designated A r) mails := by
                  refine connOk_goes_on hstops hconn fun oid ho => ?_
                  rw [hoid] at ho
                  cases ho
                exact ih (connOk_congr hindex mails hgo) (hown.imp id hrest)
            | some oid =>
                dsimp only
                generalize hst : ({ st with ms := designated A r } : AltState) = st₁
                have hms : st₁.ms = designated A r := by rw [← hst]
                have hobjs : st₁.objs = st.objs := by rw [← hst]
                have hsome : (body m.2 oid st₁).issued = true →
                    (st₁.objs (designated A r) oid).isSome = true := by
                  intro hi
                  rcases hown with h | h
                  · rw [← hms]
                    exact h m.2 oid st₁ hi
                  · rw [hobjs]
                    exact h m List.mem_cons_self r oid hr hoid
                have hws := write_own hsome
                split
                case isTrue => exact ⟨hws, rfl⟩
                case isFalse hstop =>
                  have hgo : ConnOk A st stops (designated A r) mails := by
                    refine connOk_goes_on hstops hconn fun oid' ho => ⟨st₁, ?_⟩
                    rw [hoid] at ho
                    cases ho
                    exact hstop
                  have hindex₁ : st₁.index = st.index := by rw [← hst]
                  obtain ⟨hq, hq'⟩ := ih (hframe.connOk hindex₁ hms m.2 oid hgo)
                    (hown.imp id fun h => hframe.designated hindex₁ hobjs m.2 oid (hrest h))
                  refine ⟨fun w hmem => ?_, hq'⟩
                  rcases List.mem_append.mp hmem with hmem | hmem
                  · exact hws w hmem
                  · exact hq w hmem

theorem updateFlagsBody_frame (newFlags : Option String → Option String) :
    UpdateFrame (updateFlagsBody newFlags) := by
  refine ⟨fun e oid st => ?_, fun e oid st => ?_, fun e oid st pool o h => ?_⟩
  all_goals
    unfold updateFlagsBody
    split
    case h_1 => first | rfl | exact h
    case h_2 =>
      split
      case isTrue => first | rfl | exact h
      case isFalse =>
        split
        case h_1 => first | rfl | exact h
        case h_2 =>
          dsimp only
          split
          · first | rfl | exact change_isSome _ _ _ h
          · first | rfl | exact h

theorem updateFlagsBody_issued (newFlags : Option String → Option String) (e : UpdateEnv)
    (oid : String) (st : AltState) (h : (updateFlagsBody newFlags e oid st).issued = true) :
    (st.objs st.ms oid).isSome = true := by
  unfold updateFlagsBody at h
  split at h
  case h_1 => cases h
  case h_2 o ho => rw [ho]; rfl

theorem updateKeywordBody_frame (key : String) (value : Option String) :
    UpdateFrame (updateKeywordBody key value) := by
  refine ⟨fun e oid st => ?_, fun e oid st => ?_, fun e oid st pool o h => ?_⟩
  all_goals
    unfold updateKeywordBody
    split
    · first | rfl | exact h
    · split
      · first | rfl | exact change_isSome _ _ _ h
      · first | rfl | exact h

theorem keywordStops_stop {value : Option String} (key : String) (r : AltRecord) (e : UpdateEnv)
    (h : keywordStops value r e = true) :
    ∃ oid, r.oid = some oid ∧ ∀ st, (updateKeywordBody key value e oid st).stop = true := by
  simp only [keywordStops, Bool.and_eq_true, Bool.not_eq_true'] at h
  obtain ⟨⟨hoid, hknown⟩, hwrite⟩ := h
  obtain ⟨oid, ho⟩ := Option.isSome_iff_exists.mp hoid
  refine ⟨oid, ho, fun st => ?_⟩
  simp [updateKeywordBody, hknown, hwrite]

end Updates

/-! ## 4. Moves, copies and uids -/

section Moves

variable {A : AltSetup} {S : MetaState} {st : AltState}

/-- The context after a mail was moved: the primary one if it could not be read, else as the
    direction says. -/
theorem moveMail_ms (inverse : Bool) (st : AltState) (m : Nat × MoveEnv) {oid : String}
    (hoid : st.oidOf m.1 = some oid) :
    (moveMail inverse st m).ms =
      if m.2.read = .done ∧ (st.objs (srcPool inverse) oid).isSome = true then
        if inverse then .alt else st.ms
      else .primary := by
  have hms : (moveMail inverse st m).ms = (copyToAlt inverse m.2 oid st).2.ms := by
    unfold moveMail
    rw [hoid]
    dsimp only
    rw [radosUtilsMoveToAlt_eq]
    split <;> rfl
  rw [hms]
  unfold copyToAlt
  cases hr : m.2.read with
  | failed c => simp
  | done =>
      cases ho : st.objs (srcPool inverse) oid with
      | none => simp
      | some o =>
          cases hl : m.2.load with
          | failed c => simp
          | done =>
              dsimp only
              cases hm : st.objs (if inverse then .alt else st.ms) oid with
              | none => simp
              | some k =>
                  dsimp only
                  split <;> simp [AltState.put]

theorem moveMail_frame (inverse : Bool) (st : AltState) (m : Nat × MoveEnv) :
    (moveMail inverse st m).index = st.index ∧ ∀ oid,
      (moveMail inverse st m).objs (srcPool inverse) oid = st.objs (srcPool inverse) oid := by
  cases hoid : st.oidOf m.1 with
  | none =>
      rw [moveMail_idle hoid]
      exact ⟨rfl, fun _ => rfl⟩
  | some oid =>
      rcases moveMail_cases hoid with ⟨_, ms, hst⟩ | ⟨_, o, k, ms, _, _, hst⟩
      · rw [hst]
        exact ⟨rfl, fun _ => rfl⟩
      · rw [hst]
        refine ⟨rfl, fun oid' => ?_⟩
        exact put_ne (fun h => MailPool.other_ne _ h.1.symm) _ _

/-- Moving to the alternative pool leaves a primary context as it is. -/
theorem moveMails_ms_forward (ms : List (Nat × MoveEnv)) (h : st.ms = .primary) :
    (run (moveMail false) st ms).ms = .primary := by
  refine run_inv (I := fun st : AltState => st.ms = .primary) (fun st m h => ?_) h ms
  cases hoid : st.oidOf m.1 with
  | none =>
      rw [moveMail_idle hoid]
      exact h
  | some oid =>
      rw [moveMail_ms false st m hoid]
      split
      · exact h
      · rfl

/-- Moving back leaves the primary context if the last mail cannot be read. -/
theorem moveMails_ms_inverse (ms : List (Nat × MoveEnv)) (h : st.ms = .primary)
    (hlast : ∀ m, (ms.filter fun m => (st.oidOf m.1).isSome).getLast? = some m →
      ReadFails st m) : (run (moveMail true) st ms).ms = .primary := by
  induction ms using List.reverseRecOn with
  | nil => exact h
  | append_singleton ms m ih =>
      rw [run_append]
      show (moveMail true (run (moveMail true) st ms) m).ms = .primary
      -- the mails before change neither the index nor the alternative pool
      have hframe : (run (moveMail true) st ms).index = st.index ∧
          ∀ oid, (run (moveMail true) st ms).objs .alt oid = st.objs .alt oid :=
        run_inv (I := fun st' : AltState => st'.index = st.index ∧
            ∀ oid, st'.objs .alt oid = st.objs .alt oid)
          (fun st' m hi => ⟨(moveMail_frame true st' m).1.trans hi.1,
            fun oid => ((moveMail_frame true st' m).2 oid).trans (hi.2 oid)⟩) ⟨rfl, fun _ => rfl⟩ ms
      cases hoid : st.oidOf m.1 with
      | none =>
          rw [moveMail_idle (by rw [oidOf_congr hframe.1]; exact hoid)]
          refine ih fun m' hm' => hlast m' ?_
          rw [List.filter_append]
          simpa [hoid] using hm'
      | some oid =>
          have hfail := hlast m (by rw [List.filter_append]; simp [hoid]) oid hoid
          rw [moveMail_ms true _ m (by rw [oidOf_congr hframe.1]; exact hoid)]
          refine if_neg ?_
          rintro ⟨hread, hsome⟩
          rcases hfail with hfail | hfail
          · exact hfail hread
          · rw [show srcPool true = .alt from rfl, hframe.2, hfail] at hsome
            cases hsome

theorem metadataGets_primary (gs : List (Bool × Bool)) :
    (metadataGets .primary gs .primary).2 = .primary := by
  induction gs with
  | nil => rfl
  | cons g gs ih =>
      unfold metadataGets
      split
      · rfl
      · split
        · rfl
        · exact ih

/-- A copy leaves the primary context, unless metadata of a mail of the alternative pool is read. -/
theorem metaCopy_ms (k : MetaCopy) (h : S.st.ms = .primary) (hok : MetaOk A S (.copy k)) :
    (metaCopy k S).st.ms = .primary := by
  unfold metaCopy
  split
  case isTrue => exact h
  case isFalse hc =>
    simp only [Bool.or_eq_true, Bool.not_eq_true', not_or, Bool.not_eq_false] at hc
    have hg : (metadataGets k.pool k.gets S.st.ms).2 = .primary := by
      rw [h]
      cases halt : k.alt with
      | false =>
          rw [show k.pool = .primary by simp [MetaCopy.pool, halt]]
          exact metadataGets_primary k.gets
      | true =>
          cases hgs : k.gets with
          | nil => rfl
          | cons g gs =>
              have hg := hok halt hc.1 hc.2 g (by rw [hgs]; rfl)
              simp [metadataGets, hg]
    dsimp only
    split
    · exact hg
    · split
      · exact hg
      · exact hg

/-- The uids go to the primary pool. -/
theorem assignUids_right {uids : Nat → String} {ok : Nat → Bool} (ps : List PendingMail) {i : Nat}
    (h : st.ms = .primary)
    (hok : ∀ j p, ps[j]? = some p → (∀ k < j, ok (i + k) = true) → p.pool = .primary) :
    (∀ w ∈ (assignUids uids ok i ps st).1, w.pool = w.own) ∧
      (assignUids uids ok i ps st).2.2.ms = .primary := by
  induction ps generalizing i st with
  | nil => exact ⟨nofun, h⟩
  | cons p ps ih =>
      have hp : p.pool = .primary := hok 0 p rfl (fun _ hk => absurd hk (Nat.not_lt_zero _))
      unfold assignUids
      dsimp only
      split
      case isTrue hi =>
        obtain ⟨hq, hq'⟩ := @ih (st.change st.ms p.oid (.setXattr "U" (uids i))) (i + 1) h
          (by
            intro j p' hj hk
            refine hok (j + 1) p' hj fun k hlt => ?_
            cases k with
            | zero => exact hi
            | succ k =>
                rw [show i + (k + 1) = i + 1 + k by omega]
                exact hk k (by omega))
        refine ⟨fun w hw => ?_, hq'⟩
        rcases List.mem_cons.mp hw with rfl | hw
        · exact h.trans hp.symm
        · exact hq w hw
      case isFalse =>
        refine ⟨fun w hw => ?_, h⟩
        rw [List.mem_singleton.mp hw]
        exact h.trans hp.symm

theorem dropPending_ms (deletes : Bool) (S : MetaState) :
    (dropPending deletes S).st.ms = S.st.ms := by
  have hfold : ∀ (ps : List PendingMail) (st : AltState),
      (ps.foldl (fun st p => st.put .primary p.oid none) st).ms = st.ms := by
    intro ps
    induction ps with
    | nil => exact fun _ => rfl
    | cons p ps ih => exact fun st => ih _
  unfold dropPending
  dsimp only
  split
  · exact hfold _ _
  · rfl

end Moves

/-! ## 5. Whole runs -/

/-- **A safe operation that begins with the primary context is right.** -/
theorem metaStep_right {A : AltSetup} {S : MetaState} (op : MetaOp) (h : S.st.ms = .primary)
    (hok : MetaOk A S op) : MetaRight A S op := by
  cases op with
  | move inverse r =>
      refine ⟨nofun, ?_⟩
      show (moveToAlt inverse r S.st).ms = .primary
      unfold moveToAlt
      split
      case isFalse => exact h
      case isTrue hc =>
        cases inverse with
        | false => exact moveMails_ms_forward r.mails h
        | true => exact moveMails_ms_inverse r.mails h (hok rfl hc)
  | updateFlags newFlags mails =>
      exact @updateMails_right A S.st _ (fun _ _ => false) (updateFlagsBody_frame newFlags) nofun
        mails (by rw [h]; exact hok) (Or.inl (updateFlagsBody_issued newFlags))
  | updateKeyword key value mails =>
      exact updateMails_right (updateKeywordBody_frame key value) (keywordStops_stop key) mails
        (by rw [h]; exact hok.1) (Or.inr hok.2)
  | syncEnd flags commit => exact ⟨nofun, h⟩
  | copy k => exact ⟨nofun, metaCopy_ms k h hok⟩
  | save oid alt made =>
      refine ⟨nofun, ?_⟩
      cases made with
      | none => exact h
      | some o => exact h
  | commit uidAttribute uids ok =>
      have hq : (∀ w ∈ (if uidAttribute then assignUids uids ok 0 S.pending S.st
            else ([], true, S.st)).1, w.pool = w.own) ∧
          (if uidAttribute then assignUids uids ok 0 S.pending S.st
            else ([], true, S.st)).2.2.ms = .primary := by
        cases uidAttribute with
        | false => exact ⟨nofun, h⟩
        | true =>
            refine assignUids_right S.pending h fun j p hj hk => hok rfl j p hj fun k hlt => ?_
            rw [← Nat.zero_add k]
            exact hk k hlt
      refine ⟨hq.1, ?_⟩
      unfold metaStep
      dsimp only
      generalize (if uidAttribute then assignUids uids ok 0 S.pending S.st
        else ([], true, S.st)) = q at hq
      cases hq1 : q.2.1 with
      | true => exact hq.2
      | false =>
          simp only [Bool.false_eq_true, if_false, dropPending_ms]
          exact hq.2
  | rollback deletes =>
      refine ⟨nofun, ?_⟩
      show (dropPending deletes S).st.ms = .primary
      rw [dropPending_ms]
      exact h

/-- **In every run of safe operations all metadata goes to the pool of its mail, and the context is
    the primary one after each of them.** -/
theorem metadata_reaches_own_pool (A : AltSetup) (S : MetaState) (h : S.st.ms = .primary)
    (ops : List MetaOp) (hok : Along (fun S op => (metaStep A S op).2) (MetaOk A) S ops) :
    Along (fun S op => (metaStep A S op).2) (MetaRight A) S ops :=
  along_imp_of_inv (I := fun S : MetaState => S.st.ms = .primary)
    (fun _ op hi hok => (metaStep_right op hi hok).2) (fun _ op hi hok => metaStep_right op hi hok)
    h hok

/-- A mail in each pool. -/
def twoPools : MetaState where
  st := {
    objs := fun pool oid =>
      if pool = .primary ∧ oid = "0a" ∨ pool = .alt ∧ oid = "0b" then some shortMail else none
    index := [⟨some "0a", false⟩, ⟨some "0b", true⟩]
    trans := []
    ms := .primary }
  pending := []

/-- Keywords for both mails, a new mail and its uid: everything goes where it belongs. -/
theorem keywords_and_save_right :
    Along (fun S op => (metaStep ⟨true, false⟩ S op).2) (MetaRight ⟨true, false⟩) twoPools
      [.updateKeyword "0" (some "urgent") [(1, {}), (2, {})], .save "0c" false (some shortMail),
        .commit true toString fun _ => true] := by
  refine metadata_reaches_own_pool ⟨true, false⟩ twoPools rfl _ ⟨⟨?_, ?_⟩, trivial, ?_, trivial⟩
  · exact Or.inr (Or.inr trivial)
  · intro m hm r oid hr ho
    rcases List.mem_cons.mp hm with rfl | hm
    · cases hr
      cases ho
      rfl
    · rw [List.mem_singleton.mp hm] at hr
      cases hr
      cases ho
      rfl
  · intro _ i p hp _
    cases i with
    | zero =>
        cases hp
        rfl
    | succ i => cases hp

/-- A mail is moved back, then a new mail is saved: its uid is written to the alternative pool,
    where it makes an object without data. -/
theorem uid_in_wrong_pool :
    twoPools.st.ms = .primary ∧
      ¬ Along (fun S op => (metaStep ⟨true, false⟩ S op).2) (MetaRight ⟨true, false⟩) twoPools
        [.move true { seq1 := 2, seq2 := 2, addAlt := false, removeAlt := true },
          .syncEnd [(2, false)] true,
          .save "0c" false (some shortMail), .commit true toString fun _ => true] := by
  refine ⟨rfl, ?_⟩
  rintro ⟨_, _, _, ⟨hw, _⟩, _⟩
  have h := hw ⟨"0c", .alt, .primary⟩ List.mem_cons_self
  cases h

end DovecotCeph
