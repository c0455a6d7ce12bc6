/-
  File:      DovecotCeph/Lib/Rewrite.lean
  Subject:   A shared set that others add to while one process rewrites it: it reads the set, looks
             at each element, and writes back those it has accepted. Nothing here names the plugin.

  * `Safe a`: the set has `a`, and a rewrite in progress has it before it or among the accepted;
  * `Lost a`: a rewrite in progress has it neither way, or is done and has dropped it;
  * **`safe_step`**, **`lost_step`**: which steps keep the two, and `safe_add`, `lost_add`,
    `lost_check`: where they come from.
-/
import Mathlib.Data.Set.Insert

namespace DovecotCeph.Lib.Rewrite

/-- The rewriting process: not started, with the elements it has still to look at and those it has
    accepted, or done. -/
inductive Phase (α : Type*) where
  | idle
  | running (todo kept : Set α)
  | done

/-- The set and the rewriting process. -/
structure St (α : Type*) where
  set : Set α
  phase : Phase α

/-- What happens: someone adds an element, or the rewriting process reads, looks at an element or
    writes back. -/
inductive Ev (α : Type*) where
  | add (a : α)
  | read
  | check (a : α) (ok : Bool)
  | write
  | skip

section Rewrite

variable {α : Type*}

/-- One event. -/
noncomputable def step (s : St α) : Ev α → St α
  | .add a => { s with set := insert a s.set }
  | .read => match s.phase with
    | .idle => { s with phase := .running s.set ∅ }
    | _ => s
  | .check a ok => match s.phase with
    | .running todo kept =>
      { s with phase := .running (todo \ {a}) (if ok then insert a kept else kept) }
    | _ => s
  | .write => match s.phase with
    | .running _ kept => ⟨kept, .done⟩
    | _ => s
  | .skip => s

/-- The element is there and stays there. -/
def Safe (a : α) (s : St α) : Prop :=
  a ∈ s.set ∧ match s.phase with
    | .running todo kept => a ∈ todo ∨ a ∈ kept
    | _ => True

/-- The element is gone, or is when the rewriting process writes back. -/
def Lost (a : α) (s : St α) : Prop :=
  match s.phase with
  | .idle => False
  | .running todo kept => a ∉ todo ∧ a ∉ kept
  | .done => a ∉ s.set

/-- The rewriting process rejects the element, or writes back before it has looked at it. -/
def Drops (a : α) (s : St α) : Ev α → Prop
  | .check b ok => b = a ∧ ok = false
  | .write => match s.phase with
    | .running todo _ => a ∈ todo
    | _ => False
  | _ => False

variable {a : α} {s : St α} {e : Ev α}

/-- **An element stays unless it is dropped.** -/
theorem safe_step (h : Safe a s) (he : ¬ Drops a s e) : Safe a (step s e) := by
  obtain ⟨set, phase⟩ := s
  obtain ⟨hmem, hphase⟩ := h
  cases e with
  | add b => exact ⟨Set.mem_insert_of_mem _ hmem, hphase⟩
  | skip => exact ⟨hmem, hphase⟩
  | read =>
      cases phase with
      | idle => exact ⟨hmem, .inl hmem⟩
      | running todo kept => exact ⟨hmem, hphase⟩
      | done => exact ⟨hmem, hphase⟩
  | check b ok =>
      cases phase with
      | idle => exact ⟨hmem, hphase⟩
      | done => exact ⟨hmem, hphase⟩
      | running todo kept =>
          refine ⟨hmem, ?_⟩
          rcases hphase with htodo | hkept
          · by_cases hb : a = b
            · subst hb
              cases ok with
              | false => exact absurd ⟨rfl, rfl⟩ he
              | true => exact .inr (Set.mem_insert _ _)
            · exact .inl ⟨htodo, hb⟩
          · right
            show a ∈ if ok then insert b kept else kept
            split
            · exact Set.mem_insert_of_mem _ hkept
            · exact hkept
  | write =>
      cases phase with
      | idle => exact ⟨hmem, hphase⟩
      | done => exact ⟨hmem, hphase⟩
      | running todo kept => exact ⟨hphase.resolve_left he, trivial⟩

/-- An element that is added while nothing is rewritten is safe. -/
theorem safe_add (h : ∀ todo kept, s.phase ≠ .running todo kept) : Safe a (step s (.add a)) := by
  obtain ⟨set, phase⟩ := s
  cases phase with
  | idle => exact ⟨Set.mem_insert _ _, trivial⟩
  | running todo kept => exact absurd rfl (h todo kept)
  | done => exact ⟨Set.mem_insert _ _, trivial⟩

/-- **What is lost stays lost**, unless it is added or looked at again. -/
theorem lost_step (h : Lost a s) (hadd : e ≠ .add a) (hcheck : ∀ ok, e ≠ .check a ok) :
    Lost a (step s e) := by
  obtain ⟨set, phase⟩ := s
  cases phase with
  | idle => exact absurd h not_false
  | running todo kept =>
      obtain ⟨htodo, hkept⟩ := h
      cases e with
      | add b => exact ⟨htodo, hkept⟩
      | read => exact ⟨htodo, hkept⟩
      | skip => exact ⟨htodo, hkept⟩
      | check b ok =>
          refine ⟨fun hmem => htodo hmem.1, ?_⟩
          show a ∉ if ok then insert b kept else kept
          split
          · refine fun hmem => (Set.mem_insert_iff.mp hmem).elim (fun hb => ?_) hkept
            exact hcheck ok (by rw [hb])
          · exact hkept
      | write => exact hkept
  | done =>
      cases e with
      | add b =>
          refine fun hmem => (Set.mem_insert_iff.mp hmem).elim (fun hb => ?_) h
          exact hadd (by rw [hb])
      | read => exact h
      | check b ok => exact h
      | write => exact h
      | skip => exact h

/-- An element that is added while the set is rewritten is lost. -/
theorem lost_add {todo kept : Set α} (h : s.phase = .running todo kept) (htodo : a ∉ todo)
    (hkept : a ∉ kept) : Lost a (step s (.add a)) := by
  obtain ⟨set, phase⟩ := s
  obtain rfl : phase = .running todo kept := h
  exact ⟨htodo, hkept⟩

/-- A rejected element is lost. -/
theorem lost_check {todo kept : Set α} (h : s.phase = .running todo kept) (hkept : a ∉ kept) :
    Lost a (step s (.check a false)) := by
  obtain ⟨set, phase⟩ := s
  obtain rfl : phase = .running todo kept := h
  exact ⟨fun hmem => hmem.2 rfl, hkept⟩

end Rewrite

end DovecotCeph.Lib.Rewrite
