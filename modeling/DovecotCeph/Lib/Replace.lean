/-
  File:      DovecotCeph/Lib/Replace.lean
  Subject:   Searching a text in another one, and replacing it from left to right. Nothing here
             names the plugin.

  * `findFrom pat pos s`: the first occurrence of `pat` in `s` from `pos` on; **`findFrom_cases`**:
    without one `pat` is not in `s`, and with one `s` is cut there;
  * `Replaced pat rep s t`: `t` is `s` with the occurrences replaced that a scan from left to right
    finds, each behind the one before; **`Replaced.unique`**: there is one such text;
    `Replaced.eq_filter`: removing an element.
-/
import Mathlib.Data.List.Infix

namespace DovecotCeph.Lib

variable {α : Type*} {pat rep s t : List α}

/-! ## 1. Occurrences -/

/-- Between `pre` and `post` stands the first occurrence of `pat`. -/
def First (pat pre post : List α) : Prop :=
  ∀ pre' post', pre ++ pat ++ post = pre' ++ pat ++ post' → pre.length ≤ pre'.length

/-- A text is cut at its first occurrence in one way. -/
theorem First.unique {pre post pre' post' : List α} (h : First pat pre post)
    (h' : First pat pre' post') (heq : pre ++ pat ++ post = pre' ++ pat ++ post') :
    pre = pre' ∧ post = post' := by
  have hlen : pre.length = pre'.length :=
    Nat.le_antisymm (h pre' post' heq) (h' pre post heq.symm)
  rw [List.append_assoc, List.append_assoc] at heq
  obtain ⟨hpre, hrest⟩ := List.append_inj heq hlen
  exact ⟨hpre, List.append_cancel_left hrest⟩

/-- An element stands nowhere before its first occurrence. -/
theorem First.notMem {c : α} {pre post : List α} (h : First [c] pre post) : c ∉ pre := by
  intro hc
  obtain ⟨l, r, hsplit⟩ := List.append_of_mem hc
  have hle := h l (r ++ [c] ++ post) (by simp [hsplit])
  have hlen := congrArg List.length hsplit
  rw [List.length_append, List.length_cons] at hlen
  omega

section Search

variable [DecidableEq α]

/-- The first position from `pos` on at which `pat` stands in `s`. -/
def findFrom (pat : List α) (pos : Nat) (s : List α) : Option Nat :=
  (List.range' pos (s.length + 1 - pos)).find? fun i => pat.isPrefixOf (s.drop i)

/-- What stands before the position is not searched. -/
theorem findFrom_append (done s : List α) :
    findFrom pat done.length (done ++ s) = (findFrom pat 0 s).map (done.length + ·) := by
  have hlen : (done ++ s).length + 1 - done.length = s.length + 1 := by
    rw [List.length_append]
    omega
  have hdrop : ∀ i, (done ++ s).drop (done.length + i) = s.drop i := by
    intro i
    rw [List.drop_append, List.drop_of_length_le (Nat.le_add_right _ _), List.nil_append,
      Nat.add_sub_cancel_left]
  have hrange : List.range' done.length (s.length + 1) =
      (List.range' 0 (s.length + 1)).map (done.length + ·) := by
    rw [List.map_add_range']
    rfl
  unfold findFrom
  rw [hlen, Nat.sub_zero, hrange, List.find?_map]
  congr 2
  funext i
  exact congrArg (pat.isPrefixOf ·) (hdrop i)

/-- Where `pat` stands at a position. -/
theorem isPrefixOf_drop_iff {i : Nat} (hi : i ≤ s.length) :
    pat.isPrefixOf (s.drop i) = true ↔ ∃ pre post, s = pre ++ pat ++ post ∧ pre.length = i := by
  rw [List.isPrefixOf_iff_prefix]
  constructor
  · intro h
    obtain ⟨post, hpost⟩ := h
    refine ⟨s.take i, post, ?_, List.length_take_of_le hi⟩
    rw [List.append_assoc, hpost, List.take_append_drop]
  · intro h
    obtain ⟨pre, post, rfl, rfl⟩ := h
    rw [List.append_assoc, List.drop_left]
    exact List.prefix_append pat post

/-- **A search finds the first occurrence, if there is one.** -/
theorem findFrom_cases (pat s : List α) :
    (findFrom pat 0 s = none ∧ ¬ pat <:+: s) ∨
      ∃ pre post, findFrom pat 0 s = some pre.length ∧ s = pre ++ pat ++ post ∧
        First pat pre post := by
  cases hfind : findFrom pat 0 s with
  | none =>
      refine .inl ⟨rfl, fun h => ?_⟩
      obtain ⟨pre, post, rfl⟩ := h
      have hpre : pre.length ≤ (pre ++ pat ++ post).length := by simp
      have hnot := List.find?_range'_eq_none.mp hfind pre.length (Nat.zero_le _) (by omega)
      rw [(isPrefixOf_drop_iff hpre).mpr ⟨pre, post, rfl, rfl⟩] at hnot
      cases hnot
  | some i =>
      obtain ⟨hpat, hmem, hbefore⟩ := List.find?_range'_eq_some.mp hfind
      have hi : i ≤ s.length := by
        have := (List.mem_range'_1.mp hmem).2
        omega
      obtain ⟨pre, post, rfl, rfl⟩ := (isPrefixOf_drop_iff hi).mp hpat
      refine .inr ⟨pre, post, rfl, rfl, fun pre' post' heq => Nat.le_of_not_lt fun hlt => ?_⟩
      have hnot := hbefore pre'.length (Nat.zero_le _) hlt
      rw [(isPrefixOf_drop_iff (Nat.le_trans (Nat.le_of_lt hlt) hi)).mpr
        ⟨pre', post', heq, rfl⟩] at hnot
      cases hnot

end Search

/-! ## 2. Replacement -/

/-- The text with each occurrence replaced that is the first one behind the occurrence before. -/
inductive Replaced (pat rep : List α) : List α → List α → Prop
  | none {s : List α} (h : ¬ pat <:+: s) : Replaced pat rep s s
  | first {pre post t : List α} (h : First pat pre post) (hrest : Replaced pat rep post t) :
    Replaced pat rep (pre ++ pat ++ post) (pre ++ rep ++ t)

/-- **There is one such text.** -/
theorem Replaced.unique {t' : List α} (h : Replaced pat rep s t) (h' : Replaced pat rep s t') :
    t = t' := by
  induction h generalizing t' with
  | none hnot =>
      cases h' with
      | none => rfl
      | first => exact absurd ⟨_, _, rfl⟩ hnot
  | @first pre post t hfirst _ ih =>
      generalize hs : pre ++ pat ++ post = s at h'
      cases h' with
      | none hnot => exact absurd ⟨_, _, hs⟩ hnot
      | first hfirst' hrest' =>
          obtain ⟨rfl, rfl⟩ := hfirst.unique hfirst' hs
          rw [ih hrest']

/-- **Removing an element leaves the others in order.** -/
theorem Replaced.eq_filter [DecidableEq α] {c : α} (h : Replaced [c] [] s t) :
    t = s.filter (· ≠ c) := by
  have hkeep : ∀ {l : List α}, c ∉ l → l.filter (· ≠ c) = l := by
    intro l hl
    exact List.filter_eq_self.mpr fun x hx => decide_eq_true fun e => hl (e ▸ hx)
  induction h with
  | none hnot =>
      refine (hkeep fun hc => hnot ?_).symm
      exact (List.singleton_infix_iff c _).mpr hc
  | first hfirst _ ih =>
      rw [List.filter_append, List.filter_append, hkeep hfirst.notMem, ← ih]
      simp

end DovecotCeph.Lib
