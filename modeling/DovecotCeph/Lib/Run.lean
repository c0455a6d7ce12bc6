/-
  File:      DovecotCeph/Lib/Run.lean
  Subject:   Runs of a step function, loops that are left early and bounded retries. Nothing here
             names the plugin.

  * `run step s as` is the state after the actions `as`; `Along step P s as` says that `P` holds
    at every action of the run, of the state the action is taken in.
  * `along_inv`, `along_imp_of_inv`: the two rules every safety statement over runs uses -- an
    invariant kept by each step that meets the condition `C` holds where a run meeting `C`
    ends, and whatever invariant and condition give at one step holds along the whole run;
    `along_of_run`: a condition that no step brings about is met if it holds at the end;
    `prefixes_iff_along`: when the condition is also necessary.
  * `upTo stop xs`: the elements a loop looks at that leaves `xs` at its first stopping element;
    `mem_upTo_iff`: those all of whose predecessors went through.
  * `retry`: at most `n` attempts, the first decisive one wins; `retry_spec` says which.
-/
import Mathlib.Data.List.Basic

namespace DovecotCeph.Lib

/-! ## 1. Runs -/

section Runs

variable {σ α : Type*} {step : σ → α → σ}

/-- The state `step` reaches from `s` by the actions in order. -/
def run (step : σ → α → σ) (s : σ) (as : List α) : σ := as.foldl step s

@[simp] theorem run_nil (s : σ) : run step s [] = s := rfl

@[simp] theorem run_cons (s : σ) (a : α) (as : List α) :
    run step s (a :: as) = run step (step s a) as := rfl

theorem run_append (s : σ) (as bs : List α) :
    run step s (as ++ bs) = run step (run step s as) bs := List.foldl_append

/-- `P` holds at every action of the run, of the state the action is taken in. -/
def Along (step : σ → α → σ) (P : σ → α → Prop) : σ → List α → Prop
  | _, [] => True
  | s, a :: as => P s a ∧ Along step P (step s a) as

instance Along.decidable (step : σ → α → σ) (P : σ → α → Prop) [∀ s a, Decidable (P s a)] :
    ∀ (s : σ) (as : List α), Decidable (Along step P s as)
  | _, [] => inferInstanceAs (Decidable True)
  | s, a :: as =>
      have := Along.decidable step P (step s a) as
      inferInstanceAs (Decidable (_ ∧ _))

@[simp] theorem along_nil (P : σ → α → Prop) (s : σ) : Along step P s [] := trivial

@[simp] theorem along_cons (P : σ → α → Prop) (s : σ) (a : α) (as : List α) :
    Along step P s (a :: as) ↔ P s a ∧ Along step P (step s a) as := Iff.rfl

/-- **Invariant rule.** -/
theorem along_inv {I : σ → Prop} {C : σ → α → Prop}
    (hstep : ∀ s a, I s → C s a → I (step s a)) {s : σ} (h0 : I s) {as : List α}
    (hc : Along step C s as) : I (run step s as) := by
  induction as generalizing s with
  | nil => exact h0
  | cons a as ih => exact ih (hstep s a h0 hc.1) hc.2

/-- An invariant without side condition holds at the end of every run. -/
theorem run_inv {I : σ → Prop} (hstep : ∀ s a, I s → I (step s a)) {s : σ} (h0 : I s)
    (as : List α) : I (run step s as) := by
  induction as generalizing s with
  | nil => exact h0
  | cons a as ih => exact ih (hstep s a h0)

/-- **Run rule.** What invariant and condition give at one step, a run gives at every step. -/
theorem along_imp_of_inv {I : σ → Prop} {C Q : σ → α → Prop}
    (hstep : ∀ s a, I s → C s a → I (step s a)) (hQ : ∀ s a, I s → C s a → Q s a)
    {s : σ} (h0 : I s) {as : List α} (hc : Along step C s as) : Along step Q s as := by
  induction as generalizing s with
  | nil => trivial
  | cons a as ih => exact ⟨hQ s a h0 hc.1, ih (hstep s a h0 hc.1) hc.2⟩

/-- What no step brings about held before a run at whose end it holds. -/
theorem of_run {Q : σ → Prop} (hback : ∀ s a, Q (step s a) → Q s) {s : σ} {as : List α}
    (h : Q (run step s as)) : Q s := by
  induction as generalizing s with
  | nil => exact h
  | cons a as ih => exact hback s a (ih h)

/-- It held behind every step of the run. -/
theorem along_of_run {Q : σ → Prop} (hback : ∀ s a, Q (step s a) → Q s) {s : σ} {as : List α}
    (h : Q (run step s as)) : Along step (fun s a => Q (step s a)) s as := by
  induction as generalizing s with
  | nil => trivial
  | cons a as ih => exact ⟨of_run hback h, ih h⟩

theorem along_and {P Q : σ → α → Prop} {s : σ} {as : List α} (hp : Along step P s as)
    (hq : Along step Q s as) : Along step (fun s a => P s a ∧ Q s a) s as := by
  induction as generalizing s with
  | nil => trivial
  | cons a as ih => exact ⟨⟨hp.1, hq.1⟩, ih hp.2 hq.2⟩

/-- A condition on the actions alone. -/
theorem along_of_forall {D : α → Prop} {s : σ} {as : List α} (h : ∀ a ∈ as, D a) :
    Along step (fun _ => D) s as := by
  induction as generalizing s with
  | nil => trivial
  | cons a as ih =>
      obtain ⟨ha, has⟩ := List.forall_mem_cons.mp h
      exact ⟨ha, ih has⟩

/-- **Exactness rule.** If each step from a state with the invariant keeps it under the condition,
    and reaches a good state only under the condition, a run of allowed actions passes through good
    states alone exactly if it meets the condition. -/
theorem prefixes_iff_along {I P : σ → Prop} {D C : σ → α → Prop}
    (hP : ∀ s, I s → P s) (hkeep : ∀ s a, I s → D s a → C s a → I (step s a))
    (hneed : ∀ s a, I s → D s a → P (step s a) → C s a) {s : σ} (h0 : I s) {as : List α}
    (hD : Along step D s as) :
    (∀ pre, pre <+: as → P (run step s pre)) ↔ Along step C s as := by
  induction as generalizing s with
  | nil =>
      refine ⟨fun _ => trivial, fun _ pre hpre => ?_⟩
      rw [List.prefix_nil.mp hpre]
      exact hP s h0
  | cons a as ih =>
      obtain ⟨ha, has⟩ := hD
      constructor
      · intro h
        have hfirst : [a] <+: a :: as := List.cons_prefix_cons.mpr ⟨rfl, List.nil_prefix⟩
        have hc : C s a := hneed s a h0 ha (h [a] hfirst)
        refine ⟨hc, (ih (hkeep s a h0 ha hc) has).mp fun pre hpre => ?_⟩
        exact h (a :: pre) (List.cons_prefix_cons.mpr ⟨rfl, hpre⟩)
      · rintro ⟨hc, hrest⟩ pre hpre
        cases pre with
        | nil => exact hP s h0
        | cons b pre =>
            obtain ⟨rfl, hpre'⟩ := List.cons_prefix_cons.mp hpre
            exact (ih (hkeep s b h0 ha hc) has).mpr hrest pre hpre'

/-- A run that breaks the condition has a first action that does. -/
theorem exists_of_not_along {C : σ → α → Prop} {s : σ} {as : List α}
    (h : ¬ Along step C s as) :
    ∃ pre a post, as = pre ++ a :: post ∧ ¬ C (run step s pre) a := by
  induction as generalizing s with
  | nil => exact absurd trivial h
  | cons a as ih =>
      by_cases ha : C s a
      · obtain ⟨pre, b, post, e, hb⟩ := ih (s := step s a) fun hr => h ⟨ha, hr⟩
        exact ⟨a :: pre, b, post, by rw [e]; rfl, hb⟩
      · exact ⟨[], a, as, rfl, ha⟩

end Runs

/-! ## 2. Loops that are left early -/

section Scan

variable {α : Type*} {stop : α → Bool}

/-- The elements up to the first one that stops, and that one. -/
def upTo (stop : α → Bool) : List α → List α
  | [] => []
  | x :: xs => if stop x then [x] else x :: upTo stop xs

/-- **An element is looked at exactly if nothing before it stops the loop.** -/
theorem mem_upTo_iff {x : α} {xs : List α} :
    x ∈ upTo stop xs ↔ ∃ pre post, xs = pre ++ x :: post ∧ ∀ y ∈ pre, stop y = false := by
  induction xs with
  | nil => simp [upTo]
  | cons y ys ih =>
      unfold upTo
      by_cases hy : stop y = true
      · rw [if_pos hy]
        constructor
        · intro hx
          refine ⟨[], ys, ?_, fun z hz => absurd hz List.not_mem_nil⟩
          rw [List.mem_singleton.mp hx]
          rfl
        · intro h
          obtain ⟨pre, post, e, hp⟩ := h
          cases pre with
          | nil =>
              cases e
              exact List.mem_singleton_self x
          | cons z pre =>
              cases e
              rw [hp y List.mem_cons_self] at hy
              cases hy
      · rw [if_neg hy]
        constructor
        · intro hx
          rcases List.mem_cons.mp hx with rfl | hx
          · exact ⟨[], ys, rfl, fun z hz => absurd hz List.not_mem_nil⟩
          · obtain ⟨pre, post, e, hp⟩ := ih.mp hx
            refine ⟨y :: pre, post, by rw [e]; rfl, fun z hz => ?_⟩
            rcases List.mem_cons.mp hz with rfl | hz
            · exact Bool.eq_false_iff.mpr hy
            · exact hp z hz
        · intro h
          obtain ⟨pre, post, e, hp⟩ := h
          cases pre with
          | nil =>
              cases e
              exact List.mem_cons_self
          | cons z pre =>
              cases e
              exact List.mem_cons_of_mem _ (ih.mpr ⟨pre, post, rfl, fun w hw =>
                hp w (List.mem_cons_of_mem _ hw)⟩)

end Scan

/-! ## 3. Bounded retries -/

section Retry

variable {ρ : Type*} {stop : ρ → Bool} {att : Nat → ρ}

/-- Attempts `att i, att (i + 1), …`, at most `n` of them, until `stop` accepts one; the last
    attempt made otherwise, and `last` when none is made. -/
def retry (stop : ρ → Bool) (att : Nat → ρ) : Nat → Nat → ρ → ρ
  | _, 0, last => last
  | i, n + 1, _ => if stop (att i) then att i else retry stop att (i + 1) n (att i)

/-- `j` is the first decisive attempt among the `n` attempts from `i` on. -/
def FirstStop (stop : ρ → Bool) (att : Nat → ρ) (i n j : Nat) : Prop :=
  i ≤ j ∧ j < i + n ∧ stop (att j) = true ∧ ∀ k, i ≤ k → k < j → stop (att k) = false

theorem firstStop_succ {i n j : Nat} (h : stop (att i) = false) :
    FirstStop stop att i (n + 1) j ↔ FirstStop stop att (i + 1) n j := by
  constructor
  · rintro ⟨h1, h2, h3, h4⟩
    have hne : i ≠ j := by rintro rfl; rw [h] at h3; cases h3
    exact ⟨by omega, by omega, h3, fun k hk => h4 k (by omega)⟩
  · rintro ⟨h1, h2, h3, h4⟩
    refine ⟨by omega, by omega, h3, fun k hk hkj => ?_⟩
    by_cases e : k = i
    · rw [e]; exact h
    · exact h4 k (by omega) hkj

/-- The first decisive attempt is the result. -/
theorem retry_of_firstStop {i n j : Nat} {last : ρ} (h : FirstStop stop att i n j) :
    retry stop att i n last = att j := by
  induction n generalizing i last with
  | zero => exact absurd h.2.1 (by have := h.1; omega)
  | succ n ih =>
      unfold retry
      by_cases hs : stop (att i) = true
      · rw [if_pos hs]
        by_cases e : i = j
        · rw [e]
        · have := h.2.2.2 i (Nat.le_refl i) (by have := h.1; omega)
          rw [hs] at this
          cases this
      · have hs' : stop (att i) = false := by simpa using hs
        rw [if_neg hs]
        exact ih ((firstStop_succ hs').mp h)

/-- Without a decisive attempt the result is not decisive either. -/
theorem retry_of_none {i n : Nat} {last : ρ} (hl : stop last = false)
    (h : ∀ j, ¬ FirstStop stop att i n j) : stop (retry stop att i n last) = false := by
  induction n generalizing i last with
  | zero => exact hl
  | succ n ih =>
      have hs : stop (att i) = false := by
        refine Bool.eq_false_iff.mpr fun hs => h i ⟨Nat.le_refl i, by omega, hs, ?_⟩
        intro k h1 h2
        omega
      unfold retry
      rw [if_neg (by rw [hs]; exact Bool.false_ne_true)]
      exact ih hs fun j hj => h j ((firstStop_succ hs).mpr hj)

/-- One decisive attempt is enough. -/
theorem retry_stops_of {i n j : Nat} {last : ρ} (hi : i ≤ j) (hj : j < i + n)
    (h : stop (att j) = true) : stop (retry stop att i n last) = true := by
  induction n generalizing i last with
  | zero => omega
  | succ n ih =>
      unfold retry
      by_cases hs : stop (att i) = true
      · rw [if_pos hs]
        exact hs
      · have hne : i ≠ j := by
          rintro rfl
          exact hs h
        rw [if_neg hs]
        exact ih (by omega) (by omega)

/-- A decisive result is that of an attempt. -/
theorem retry_attempt {i n : Nat} {last : ρ} (hl : stop last = false)
    (h : stop (retry stop att i n last) = true) :
    ∃ j, i ≤ j ∧ j < i + n ∧ retry stop att i n last = att j := by
  induction n generalizing i last with
  | zero => exact absurd (hl.symm.trans h) Bool.false_ne_true
  | succ n ih =>
      unfold retry at h ⊢
      by_cases hs : stop (att i) = true
      · rw [if_pos hs]
        exact ⟨i, Nat.le_refl i, by omega, rfl⟩
      · rw [if_neg hs] at h ⊢
        obtain ⟨j, hi, hj, heq⟩ := ih (Bool.eq_false_iff.mpr hs) h
        exact ⟨j, by omega, by omega, heq⟩

end Retry

end DovecotCeph.Lib
