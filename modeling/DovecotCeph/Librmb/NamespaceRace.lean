/-
  File:      DovecotCeph/Librmb/NamespaceRace.lean
  Subject:   Several processes open a user's mailboxes at the same time: each runs `lookup_key` and,
             if that fails, `add_namespace_entry`, with any interleaving of their reads and writes.

  `RaceState` holds the cluster and, for each process, its own io context and cache; `raceStep`
  runs the manager's own operations (`lookupKey`, `addNamespaceEntry`), each of which makes one
  RADOS call. `abs_raceStep` shows that the race is the check-then-act protocol of
  Lib/CheckThenAct.lean on the mapping object, so **`namespaces_agree_iff`**: the processes end up
  in one namespace, the stored one, exactly if no `write_full` meets a mapping that another
  process stored after the writer had looked.
-/
import DovecotCeph.Lib.CheckThenAct
import DovecotCeph.Librmb.NamespaceManager

namespace DovecotCeph

open Lib Lib.CheckThenAct

/-- One process: its io context, its manager's cache, and how far it is. -/
structure RaceProc where
  io : IoCtx
  cache : String → Option String
  phase : Phase String

/-- The cluster and the processes. -/
structure RaceState (ι : Type) where
  w : Objects String
  proc : ι → RaceProc

variable {ι : Type} [DecidableEq ι]

/-- One operation of process `i`; every RADOS call succeeds. -/
def raceStep (c : RadosDovecotCephCfg) (uid : String) (guid : ι → String) (s : RaceState ι)
    (i : ι) : RaceState ι :=
  match (s.proc i).phase with
  | .start =>
      let l := lookupKey (some c) (fun _ => .done) uid "" ⟨s.w, (s.proc i).io, (s.proc i).cache⟩
      ⟨l.2.2.w, Function.update s.proc i
        ⟨l.2.2.io, l.2.2.cache, if l.1 then .done l.2.1 else .missed⟩⟩
  | .missed =>
      let a := addNamespaceEntry (some c) (some (guid i)) .done uid ""
        ⟨s.w, (s.proc i).io, (s.proc i).cache⟩
      ⟨a.2.2.w, Function.update s.proc i
        ⟨a.2.2.io, a.2.2.cache, if a.1 then .done a.2.1 else .missed⟩⟩
  | .done _ => s

/-- Fresh processes on a cluster in any state. -/
def raceInit (pool : String) (w : Objects String) : RaceState ι :=
  ⟨w, fun _ => ⟨⟨pool, ""⟩, fun _ => none, .start⟩⟩

/-- A mapping object that is missing or empty. -/
def NoMapping (c : RadosDovecotCephCfg) (pool uid : String) (w : Objects String) : Prop :=
  ∀ v, w (mappingName c pool uid) = some v → v = ""

/-- Every process has its namespace. -/
def RaceDone (s : RaceState ι) : Prop := ∀ i, ∃ ns, (s.proc i).phase = .done ns

/-- Every process uses the namespace the mapping object holds. -/
def OneNamespace (c : RadosDovecotCephCfg) (pool uid : String) (s : RaceState ι) : Prop :=
  ∀ i, ∃ ns, (s.proc i).phase = .done ns ∧ s.w (mappingName c pool uid) = some ns

/-- The operation process `i` is about to make is no write over a stored mapping. -/
def WriteOnMissing (c : RadosDovecotCephCfg) (pool uid : String) (s : RaceState ι) (i : ι) :
    Prop :=
  (s.proc i).phase = .missed → NoMapping c pool uid s.w

/-! ## The race is the check-then-act protocol -/

/-- The mapping object as a register: empty counts as missing. -/
def absReg (c : RadosDovecotCephCfg) (pool uid : String) (w : Objects String) : Option String :=
  (w (mappingName c pool uid)).filter (· ≠ "")

def absRace (c : RadosDovecotCephCfg) (pool uid : String) (s : RaceState ι) : St ι String :=
  ⟨absReg c pool uid s.w, fun i => (s.proc i).phase⟩

/-- What the simulation needs of the concrete state: every context is in the pool, and a process
    that has not looked yet has cached nothing. -/
def RaceInv (pool uid : String) (s : RaceState ι) : Prop :=
  ∀ i, (s.proc i).io.pool = pool ∧ ((s.proc i).phase = .start → (s.proc i).cache uid = none)

variable {c : RadosDovecotCephCfg} {pool uid : String} {guid : ι → String} {s : RaceState ι}
  {i : ι}

omit [DecidableEq ι] in
theorem absReg_eq_some {w : Objects String} {v : String} :
    absReg c pool uid w = some v ↔ w (mappingName c pool uid) = some v ∧ v ≠ "" := by
  unfold absReg
  rw [Option.filter_eq_some_iff]
  simp

omit [DecidableEq ι] in
theorem absReg_eq_none {w : Objects String} :
    absReg c pool uid w = none ↔ NoMapping c pool uid w := by
  unfold absReg NoMapping
  rw [Option.filter_eq_none_iff]
  simp

instance (w : Objects String) : Decidable (NoMapping c pool uid w) :=
  decidable_of_iff _ absReg_eq_none

instance (s : RaceState ι) (i : ι) : Decidable (WriteOnMissing c pool uid s i) :=
  inferInstanceAs (Decidable (_ → _))

theorem phase_update (p : RaceProc) :
    (fun j => (Function.update s.proc i p j).phase) =
      Function.update (fun j => (s.proc j).phase) i p.phase := by
  funext j
  by_cases e : j = i
  · subst e
    rw [Function.update_self, Function.update_self]
  · rw [Function.update_of_ne e, Function.update_of_ne e]

/-- `lookup_key` of a process that has not looked: the stored mapping, or a miss. -/
theorem lookupKey_first (hm : c.mappingOn) (hu : uid ≠ "") (st : NsState)
    (hc : st.cache uid = none) :
    (∃ v, absReg c st.io.pool uid st.w = some v ∧
      lookupKey (some c) (fun _ => .done) uid "" st =
        (true, v, ⟨st.w, st.io.setNamespace "", Function.update st.cache uid (some v)⟩)) ∨
    (absReg c st.io.pool uid st.w = none ∧
      lookupKey (some c) (fun _ => .done) uid "" st =
        (false, "", { st with io := st.io.setNamespace "" })) := by
  have hr : ReadSucceeds (fun _ => Outcome.done) := ⟨0, by omega, rfl, fun k hk => by omega⟩
  have hl := lookupKey_uncached hu hm.1 hm.2 hc (fun _ => .done) ""
  rw [readObject_of_succeeds hr] at hl
  cases hw : st.w (mappingName c st.io.pool uid) with
  | none =>
      have hread : IoCtx.read st.w (st.io.setNamespace c.json.userNs) uid .done = (-ENOENT, "") :=
        IoCtx.read_done_none hw
      rw [hread] at hl
      refine Or.inr ⟨absReg_eq_none.mpr fun v hv => ?_, ?_⟩
      · rw [hw] at hv
        cases hv
      · simpa using hl
  | some v =>
      have hread : IoCtx.read st.w (st.io.setNamespace c.json.userNs) uid .done =
        ((v.utf8ByteSize : Int), v) := IoCtx.read_done hw
      rw [hread] at hl
      by_cases hv : v = ""
      · refine Or.inr ⟨absReg_eq_none.mpr fun u hu' => ?_, ?_⟩
        · rw [hw] at hu'
          exact (Option.some.inj hu').symm.trans hv
        · simpa [hv] using hl
      · refine Or.inl ⟨v, absReg_eq_some.mpr ⟨hw, hv⟩, ?_⟩
        rw [hl, if_pos ⟨Int.natCast_nonneg _, hv⟩]

/-- **One operation of the race is one operation of the protocol.** -/
theorem abs_raceStep (hm : c.mappingOn) (hu : uid ≠ "") (hg : ∀ j, guid j ≠ "")
    (hI : RaceInv pool uid s) :
    absRace c pool uid (raceStep c uid guid s i) =
      CheckThenAct.step guid (absRace c pool uid s) i := by
  obtain ⟨hpool, hcache⟩ := hI i
  have hph : (absRace c pool uid s).phase i = (s.proc i).phase := rfl
  cases hp : (s.proc i).phase with
  | start =>
      rw [hp] at hph
      rcases lookupKey_first hm hu ⟨s.w, (s.proc i).io, (s.proc i).cache⟩ (hcache hp) with
        ⟨v, hreg, hl⟩ | ⟨hreg, hl⟩
      · rw [show (NsState.mk s.w (s.proc i).io (s.proc i).cache).io.pool = pool from hpool] at hreg
        have hreg' : (absRace c pool uid s).reg = some v := hreg
        simp only [raceStep, hp, hl, CheckThenAct.step, hph, hreg']
        simp only [absRace, phase_update, if_true]
        rw [hreg]
      · rw [show (NsState.mk s.w (s.proc i).io (s.proc i).cache).io.pool = pool from hpool] at hreg
        have hreg' : (absRace c pool uid s).reg = none := hreg
        simp only [raceStep, hp, hl, CheckThenAct.step, hph, hreg']
        simp only [absRace, phase_update, Bool.false_eq_true, if_false]
        rw [hreg]
  | missed =>
      rw [hp] at hph
      have hreg : absReg c pool uid
          (Function.update s.w (mappingName c pool uid) (some (guid i))) = some (guid i) :=
        absReg_eq_some.mpr ⟨Function.update_self .., hg i⟩
      simp only [raceStep, hp, addNamespaceEntry_valid hm.1, if_true, CheckThenAct.step, hph]
      simp only [absRace, phase_update, hpool]
      rw [hreg]
  | done v =>
      rw [hp] at hph
      simp only [raceStep, hp, CheckThenAct.step, hph]

theorem raceStep_other {j : ι} (h : j ≠ i) : (raceStep c uid guid s i).proc j = s.proc j := by
  unfold raceStep
  split
  · exact Function.update_of_ne h _ _
  · exact Function.update_of_ne h _ _
  · rfl

theorem raceInv_step (hm : c.mappingOn) (hu : uid ≠ "") (hI : RaceInv pool uid s) :
    RaceInv pool uid (raceStep c uid guid s i) := by
  intro j
  by_cases e : j = i
  · subst e
    obtain ⟨hpool, hcache⟩ := hI j
    cases hp : (s.proc j).phase with
    | start =>
        rcases lookupKey_first hm hu ⟨s.w, (s.proc j).io, (s.proc j).cache⟩ (hcache hp)
          with ⟨v, _, hl⟩ | ⟨_, hl⟩ <;>
        · simp only [raceStep, hp, hl, Function.update_self]
          exact ⟨hpool, nofun⟩
    | missed =>
        simp only [raceStep, hp, addNamespaceEntry_valid hm.1, if_true, Function.update_self]
        exact ⟨hpool, nofun⟩
    | done v =>
        simp only [raceStep, hp]
        exact ⟨hpool, nofun⟩
  · rw [raceStep_other e]
    exact hI j

/-- A run of the race and the condition along it are those of the protocol. -/
theorem abs_run (hm : c.mappingOn) (hu : uid ≠ "") (hg : ∀ j, guid j ≠ "")
    (hI : RaceInv pool uid s) (is : List ι) :
    absRace c pool uid (run (raceStep c uid guid) s is) =
        run (CheckThenAct.step guid) (absRace c pool uid s) is ∧
      (Along (raceStep c uid guid) (WriteOnMissing c pool uid) s is ↔
        Along (CheckThenAct.step guid) WriteOnEmpty (absRace c pool uid s) is) := by
  induction is generalizing s with
  | nil => exact ⟨rfl, Iff.rfl⟩
  | cons i is ih =>
      have hI' : RaceInv pool uid (raceStep c uid guid s i) := raceInv_step hm hu hI
      obtain ⟨h1, h2⟩ := ih hI'
      rw [abs_raceStep hm hu hg hI] at h1 h2
      refine ⟨h1, ?_⟩
      simp only [along_cons, h2]
      have hw : WriteOnMissing c pool uid s i ↔ WriteOnEmpty (absRace c pool uid s) i :=
        imp_congr_right fun _ => absReg_eq_none.symm
      rw [hw]

omit [DecidableEq ι] in
/-- Once the stored mapping is no empty object, agreement means the same on both levels. -/
theorem oneNamespace_iff (hne : ∀ i ns, (s.proc i).phase = .done ns → ns ≠ "") :
    OneNamespace c pool uid s ↔ Agree (absRace c pool uid s) := by
  refine forall_congr' fun i => exists_congr fun ns => and_congr_right fun hp => ?_
  have hns := hne i ns hp
  constructor
  · intro hw
    exact absReg_eq_some.mpr ⟨hw, hns⟩
  · intro hr
    exact (absReg_eq_some.mp hr).1

/-! ## Agreement -/

omit [DecidableEq ι] in
theorem raceInv_init (pool uid : String) (w : Objects String) :
    RaceInv pool uid (raceInit (ι := ι) pool w) :=
  fun _ => ⟨rfl, fun _ => rfl⟩

/-- No process ends in the empty namespace. -/
theorem race_ns_ne (hm : c.mappingOn) (hu : uid ≠ "") (hg : ∀ j, guid j ≠ "") (w : Objects String)
    (is : List ι) (i : ι) (ns : String)
    (h : ((run (raceStep c uid guid) (raceInit pool w) is).proc i).phase = .done ns) :
    ns ≠ "" := by
  have habs := (abs_run hm hu hg (raceInv_init pool uid w) is).1
  have hstep : ∀ (s : St ι String) (i : ι),
      ((∀ v, s.reg = some v → v ≠ "") ∧ ∀ j v, s.phase j = .done v → v ≠ "") →
      (∀ v, (CheckThenAct.step guid s i).reg = some v → v ≠ "") ∧
        ∀ j v, (CheckThenAct.step guid s i).phase j = .done v → v ≠ "" :=
    fun _ _ => values_step hg
  have hv := run_inv hstep (s := absRace c pool uid (raceInit pool w))
    ⟨fun _ h => (absReg_eq_some.mp h).2, fun _ _ h => by cases h⟩ is
  rw [← habs] at hv
  exact hv.2 i ns h

/-- **The processes end in one namespace, the stored one, exactly if no process writes over a
    mapping stored since it looked.** -/
theorem namespaces_agree_iff (hm : c.mappingOn) (hu : uid ≠ "")
    (hg : ∀ j, guid j ≠ "") (hinj : Function.Injective guid) (w : Objects String) (is : List ι)
    (hd : RaceDone (run (raceStep c uid guid) (raceInit pool w) is)) :
    OneNamespace c pool uid (run (raceStep c uid guid) (raceInit pool w) is) ↔
      Along (raceStep c uid guid) (WriteOnMissing c pool uid) (raceInit pool w) is := by
  obtain ⟨hrun, hal⟩ := abs_run hm hu hg (raceInv_init pool uid w) is
  rw [oneNamespace_iff (race_ns_ne hm hu hg w is), hal, hrun]
  exact agree_iff hinj _ is fun i => by
    obtain ⟨ns, hns⟩ := hd i
    refine ⟨ns, ?_⟩
    change (run (CheckThenAct.step guid) (absRace c pool uid (raceInit pool w)) is).phase i = _
    rw [← hrun]
    exact hns

/-- Two guids the generators of two processes produce. -/
def twoGuids : Bool → String
  | false => "aa00"
  | true => "bb11"

theorem twoGuids_injective : Function.Injective twoGuids := by
  intro a b
  cases a <;> cases b <;> simp [twoGuids]

/-- One process after the other: the second finds what the first stored, and they agree. -/
theorem namespaces_agree_sequentially :
    OneNamespace mappedCfg "mail_storage" "alice_u"
      (run (raceStep mappedCfg "alice_u" twoGuids) (raceInit "mail_storage" fun _ => none)
        [false, false, true]) := by
  refine (namespaces_agree_iff ⟨rfl, rfl⟩ (by decide) (fun j => by cases j <;> decide)
    twoGuids_injective _ _ fun i => ?_).mpr (by decide)
  cases i <;> exact ⟨"aa00", by decide⟩

/-- Both look before either writes: the object holds `bb11`, the first process uses `aa00`. -/
theorem namespaces_split_by_race :
    RaceDone (run (raceStep mappedCfg "alice_u" twoGuids) (raceInit "mail_storage" fun _ => none)
      [false, true, false, true]) ∧
    ¬ OneNamespace mappedCfg "mail_storage" "alice_u"
      (run (raceStep mappedCfg "alice_u" twoGuids) (raceInit "mail_storage" fun _ => none)
        [false, true, false, true]) := by
  refine ⟨fun i => ?_, fun h => ?_⟩
  · cases i
    · exact ⟨"aa00", by decide⟩
    · exact ⟨"bb11", by decide⟩
  · obtain ⟨ns, hp, hw⟩ := h false
    have e1 : ((run (raceStep mappedCfg "alice_u" twoGuids)
      (raceInit "mail_storage" fun _ => none) [false, true, false, true]).proc false).phase =
        .done "aa00" := by decide
    have e2 : (run (raceStep mappedCfg "alice_u" twoGuids)
      (raceInit "mail_storage" fun _ => none) [false, true, false, true]).w
        (mappingName mappedCfg "mail_storage" "alice_u") = some "bb11" := by decide
    rw [e1] at hp
    rw [e2] at hw
    cases hp
    exact absurd hw (by decide)

end DovecotCeph
