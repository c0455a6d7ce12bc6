/-
  File:      DovecotCeph/Lib/CheckThenAct.lean
  Subject:   Processes that read a shared register and, where they found it empty, write their own
             value in a second step. Nothing here names the plugin.

  `agree_iff`: once every process is done, all of them hold the register's value **exactly if** no
  process wrote over a register that had been filled meanwhile. Two writes are never repaired:
  each writer keeps the value it wrote (`Split`), and the values differ.
-/
import DovecotCeph.Lib.Run
import Mathlib.Logic.Function.Basic

namespace DovecotCeph.Lib.CheckThenAct

/-- Where a process stands: not started, found the register empty, done with a value. -/
inductive Phase (V : Type*) where
  | start
  | missed
  | done (v : V)
  deriving DecidableEq

/-- The register and the processes. -/
structure St (ι V : Type*) where
  reg : Option V
  phase : ι → Phase V

variable {ι V : Type*} [DecidableEq ι]

/-- One operation of process `i`: the read, then the write of `own i` if the read found nothing. -/
def step (own : ι → V) (s : St ι V) (i : ι) : St ι V :=
  match s.phase i with
  | .start => match s.reg with
    | some v => ⟨s.reg, Function.update s.phase i (.done v)⟩
    | none => ⟨s.reg, Function.update s.phase i .missed⟩
  | .missed => ⟨some (own i), Function.update s.phase i (.done (own i))⟩
  | .done _ => s

/-- Nobody has started. -/
def init (r : Option V) : St ι V := ⟨r, fun _ => .start⟩

/-- Every process is done. -/
def AllDone (s : St ι V) : Prop := ∀ i, ∃ v, s.phase i = .done v

/-- Every process holds the register's value. -/
def Agree (s : St ι V) : Prop := ∀ i, ∃ v, s.phase i = .done v ∧ s.reg = some v

/-- A write of process `i` finds the register still empty. -/
def WriteOnEmpty (s : St ι V) (i : ι) : Prop := s.phase i = .missed → s.reg = none

/-- Two processes each hold the value they wrote themselves. -/
def Split (own : ι → V) (s : St ι V) : Prop :=
  ∃ j k, j ≠ k ∧ s.phase j = .done (own j) ∧ s.phase k = .done (own k)

/-- The register holds what it held at the start and nobody missed it, or what some process
    wrote that still holds it. -/
def Origin (own : ι → V) (r : Option V) (s : St ι V) : Prop :=
  ∀ v, s.reg = some v → (r = some v ∧ ∀ i, s.phase i ≠ .missed) ∨
    ∃ k, v = own k ∧ s.phase k = .done (own k)

variable {own : ι → V} {r : Option V} {s : St ι V} {i : ι}

theorem phase_update_ne {p : Phase V} {j : ι} (h : j ≠ i) :
    Function.update s.phase i p j = s.phase j := Function.update_of_ne h _ _

/-! ## 1. What one operation keeps -/

/-- A process that is done stays done with its value. -/
theorem done_step {j : ι} {v : V} (h : s.phase j = .done v) :
    (step own s i).phase j = .done v := by
  by_cases e : j = i
  · subst e
    simp only [step, h]
  · unfold step
    split
    · split <;> (dsimp only; rw [phase_update_ne e]; exact h)
    · dsimp only
      rw [phase_update_ne e]
      exact h
    · exact h

theorem split_step (h : Split own s) : Split own (step own s i) := by
  obtain ⟨j, k, hjk, hj, hk⟩ := h
  exact ⟨j, k, hjk, done_step hj, done_step hk⟩

/-- Where writes find the register empty, whoever is done holds the register's value. -/
theorem holds_step (hI : ∀ j v, s.phase j = .done v → s.reg = some v) (hw : WriteOnEmpty s i) :
    ∀ j v, (step own s i).phase j = .done v → (step own s i).reg = some v := by
  intro j v hj
  cases hp : s.phase i with
  | start =>
      cases hr : s.reg with
      | none =>
          simp only [step, hp, hr] at hj ⊢
          by_cases e : j = i
          · subst e
            rw [Function.update_self] at hj
            cases hj
          · rw [Function.update_of_ne e] at hj
            have := hI j v hj
            rw [hr] at this
            cases this
      | some u =>
          simp only [step, hp, hr] at hj ⊢
          by_cases e : j = i
          · subst e
            rw [Function.update_self] at hj
            cases hj
            rfl
          · rw [Function.update_of_ne e] at hj
            rw [← hr]
            exact hI j v hj
  | missed =>
      simp only [step, hp] at hj ⊢
      by_cases e : j = i
      · subst e
        rw [Function.update_self] at hj
        cases hj
        rfl
      · rw [Function.update_of_ne e] at hj
        have := hI j v hj
        rw [hw hp] at this
        cases this
  | done u =>
      have es : step own s i = s := by simp only [step, hp]
      rw [es] at hj ⊢
      exact hI j v hj

/-- The start state's register is read by everybody as long as it is filled. -/
theorem origin_step (h : Origin own r s) : Origin own r (step own s i) := by
  intro v hv
  cases hp : s.phase i with
  | start =>
      cases hr : s.reg with
      | none => simp only [step, hp, hr] at hv; cases hv
      | some u =>
          have hu : u = v := by
            simp only [step, hp, hr] at hv
            exact Option.some.inj hv
          subst hu
          rcases h u hr with ⟨h0, hm⟩ | ⟨k, hk, hd⟩
          · refine Or.inl ⟨h0, fun j => ?_⟩
            simp only [step, hp, hr]
            by_cases e : j = i
            · subst e
              rw [Function.update_self]
              nofun
            · rw [Function.update_of_ne e]
              exact hm j
          · exact Or.inr ⟨k, hk, done_step hd⟩
  | missed =>
      refine Or.inr ⟨i, ?_, ?_⟩
      · simp only [step, hp] at hv
        exact (Option.some.inj hv).symm
      · simp only [step, hp]
        exact Function.update_self ..
  | done u =>
      have es : step own s i = s := by simp only [step, hp]
      rw [es] at hv ⊢
      exact h v hv

/-- Whatever holds of the start value and of every process's own value holds of the register and
    of the values the processes are done with. -/
theorem values_step {P : V → Prop} (hown : ∀ j, P (own j))
    (h : (∀ v, s.reg = some v → P v) ∧ ∀ j v, s.phase j = .done v → P v) :
    (∀ v, (step own s i).reg = some v → P v) ∧ ∀ j v, (step own s i).phase j = .done v → P v := by
  have hupd : ∀ p : Phase V, (∀ v, p = .done v → P v) →
      ∀ j v, Function.update s.phase i p j = .done v → P v := by
    intro p hp j v hj
    by_cases e : j = i
    · subst e
      rw [Function.update_self] at hj
      exact hp v hj
    · rw [Function.update_of_ne e] at hj
      exact h.2 j v hj
  cases hp : s.phase i with
  | start =>
      cases hr : s.reg with
      | none =>
          simp only [step, hp, hr]
          exact ⟨nofun, hupd _ nofun⟩
      | some u =>
          simp only [step, hp, hr]
          have hu : P u := h.1 u hr
          exact ⟨fun v e => (Option.some.inj e) ▸ hu, hupd _ fun v e => by cases e; exact hu⟩
  | missed =>
      simp only [step, hp]
      exact ⟨fun v e => (Option.some.inj e) ▸ hown i, hupd _ fun v e => by cases e; exact hown i⟩
  | done u =>
      simp only [step, hp]
      exact h

/-- A write over a filled register splits the processes. -/
theorem split_of_overwrite (h : Origin own r s) (hw : ¬ WriteOnEmpty s i) :
    Split own (step own s i) := by
  have hp : s.phase i = .missed := Classical.byContradiction fun hne => hw fun hm => absurd hm hne
  have hr : s.reg ≠ none := fun e => hw fun _ => e
  obtain ⟨v, hv⟩ := Option.ne_none_iff_exists'.mp hr
  rcases h v hv with ⟨_, hm⟩ | ⟨k, hk, hd⟩
  · exact absurd hp (hm i)
  · have hki : k ≠ i := by
      rintro rfl
      rw [hp] at hd
      cases hd
    refine ⟨k, i, hki, done_step hd, ?_⟩
    simp only [step, hp]
    exact Function.update_self ..

/-! ## 2. Whole runs -/

omit [DecidableEq ι] in
/-- Processes that hold different values do not agree. -/
theorem not_agree_of_split (hown : Function.Injective own) (h : Split own s) : ¬ Agree s := by
  obtain ⟨j, k, hjk, hj, hk⟩ := h
  intro ha
  obtain ⟨v, hv, hr⟩ := ha j
  obtain ⟨u, hu, hr'⟩ := ha k
  rw [hj] at hv
  rw [hk] at hu
  cases hv
  cases hu
  rw [hr] at hr'
  exact hjk (hown (Option.some.inj hr'))

/-- **Agreement, exactly if no write finds the register filled.** -/
theorem agree_iff (hown : Function.Injective own) (r : Option V) (is : List ι)
    (hd : AllDone (run (step own) (init r) is)) :
    Agree (run (step own) (init r) is) ↔ Along (step own) WriteOnEmpty (init r) is := by
  constructor
  · intro ha
    refine Classical.byContradiction fun hn => ?_
    obtain ⟨pre, i, post, e, hi⟩ := exists_of_not_along hn
    have hO : Origin own r (run (step own) (init r) pre) :=
      run_inv (I := Origin own r) (fun _ _ => origin_step)
        (fun v hv => Or.inl ⟨hv, fun _ h => by cases h⟩) pre
    have hS : Split own (run (step own) (init r) is) := by
      rw [e, run_append]
      exact run_inv (fun _ _ => split_step) (split_of_overwrite hO hi) post
    exact not_agree_of_split hown hS ha
  · intro hc i
    obtain ⟨v, hv⟩ := hd i
    have hI := along_inv (I := fun s : St ι V => ∀ j v, s.phase j = .done v → s.reg = some v)
      (fun _ _ => holds_step) (fun _ _ h => by cases h) hc
    exact ⟨v, hv, hI i v hv⟩

end DovecotCeph.Lib.CheckThenAct
