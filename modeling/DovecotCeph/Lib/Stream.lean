/-
  File:      DovecotCeph/Lib/Stream.lean
  Subject:   Input streams with their eof and fail bits, and `getline` on them. Nothing here names
             the plugin.

  * `getline_terminated`, `getline_rest`: a line that ends with the delimiter, and one that ends
    with the stream;
  * **`items_eq_getlines`**: the loop `while (getline(is, item, delim))` delivers the tokens of
    `getlines`;
  * **`prefix_terminated`**: a beginning of a terminated line followed by others lies in the line,
    or has it as a whole.
-/
import DovecotCeph.Lib.Text
import Mathlib.Data.List.TakeWhile

namespace DovecotCeph.Lib

/-- What is left to read, `eofbit` and `failbit`. -/
structure InStream (α : Type*) where
  rest : List α
  eof : Bool
  fail : Bool
  deriving DecidableEq, Repr

/-- A stream that was just opened. -/
def InStream.opened {α : Type*} (text : List α) : InStream α := ⟨text, false, false⟩

section Getline

variable {α : Type*} [DecidableEq α] {delim : α}

/-- `std::getline`: the line, empty where nothing is extracted. A stream that is not good fails, and
    so does one without any character left; reaching the end sets `eofbit`. -/
def getline (delim : α) (is : InStream α) : List α × InStream α :=
  if is.eof || is.fail then ([], { is with fail := true })
  else match is.rest.dropWhile (· ≠ delim) with
    | [] => (is.rest, ⟨[], true, is.rest.isEmpty⟩)
    | _ :: rest => (is.rest.takeWhile (· ≠ delim), ⟨rest, false, false⟩)

/-- The items of `while (getline(is, item, delim))`, at most `n` of them. -/
def items (delim : α) : Nat → InStream α → List (List α)
  | 0, _ => []
  | n + 1, is =>
    let r := getline delim is
    if r.2.fail then [] else r.1 :: items delim n r.2

theorem dropWhile_of_notMem {t : List α} (ht : delim ∉ t) : t.dropWhile (· ≠ delim) = [] := by
  refine List.dropWhile_eq_nil_iff.mpr fun c hc => decide_eq_true ?_
  intro h
  exact ht (h ▸ hc)

theorem getline_terminated {t : List α} (ht : delim ∉ t) (rest : List α) :
    getline delim (.opened (t ++ delim :: rest)) = (t, .opened rest) := by
  have hall : ∀ c ∈ t, decide (c ≠ delim) = true := fun c hc =>
    decide_eq_true fun h => ht (h ▸ hc)
  have hdrop : (t ++ delim :: rest).dropWhile (· ≠ delim) = delim :: rest := by
    rw [List.dropWhile_append_of_pos hall, List.dropWhile_cons_of_neg (by simp)]
  have htake : (t ++ delim :: rest).takeWhile (· ≠ delim) = t := by
    rw [List.takeWhile_append_of_pos hall, List.takeWhile_cons_of_neg (by simp), List.append_nil]
  unfold getline InStream.opened
  rw [if_neg (by simp)]
  dsimp only
  rw [hdrop, htake]

theorem getline_rest {t : List α} (ht : delim ∉ t) :
    getline delim (.opened t) = (t, ⟨[], true, t.isEmpty⟩) := by
  unfold getline InStream.opened
  rw [if_neg (by simp)]
  dsimp only
  rw [dropWhile_of_notMem ht]

theorem items_eof (n : Nat) (rest : List α) (fail : Bool) :
    items delim n ⟨rest, true, fail⟩ = [] := by
  cases n with
  | zero => rfl
  | succ n => rfl

/-- A text has no delimiter, or a first one. -/
theorem notMem_or_first (delim : α) (text : List α) :
    delim ∉ text ∨ ∃ t rest, text = t ++ delim :: rest ∧ delim ∉ t := by
  by_cases h : delim ∈ text
  · obtain ⟨t, rest, rfl, ht⟩ := List.eq_append_cons_of_mem h
    exact .inr ⟨t, rest, rfl, ht⟩
  · exact .inl h

theorem getlines_rest {t : List α} (ht : delim ∉ t) :
    getlines delim t = if t = [] then [] else [t] := by
  induction t with
  | nil => rfl
  | cons c t ih =>
      have hc : c ≠ delim := fun h => ht (h ▸ List.mem_cons_self)
      rw [if_neg (List.cons_ne_nil _ _), getlines, if_neg hc,
        ih fun h => ht (List.mem_cons_of_mem _ h)]
      cases t with
      | nil => rfl
      | cons d t => rfl

/-- Tokens that are not empty, with separators between them. -/
theorem getlines_joined {t : List α} {ts : List (List α)} (hne : ∀ u ∈ t :: ts, u ≠ [])
    (h : ∀ u ∈ t :: ts, delim ∉ u) :
    getlines delim (t ++ ts.flatMap (delim :: ·)) = t :: ts := by
  obtain ⟨ht, hts⟩ := List.forall_mem_cons.mp h
  induction ts generalizing t with
  | nil =>
      rw [List.flatMap_nil, List.append_nil, getlines_rest ht,
        if_neg (hne t List.mem_cons_self)]
  | cons u us ih =>
      rw [List.flatMap_cons, List.cons_append, getlines_append_sep ht]
      obtain ⟨hu, hus⟩ := List.forall_mem_cons.mp hts
      rw [ih (fun v hv => hne v (List.mem_cons_of_mem _ hv)) hts hu hus]

/-- **The loop delivers the tokens of the text**, if it may run once for each character. -/
theorem items_eq_getlines {n : Nat} {text : List α} (hn : text.length < n) :
    items delim n (.opened text) = getlines delim text := by
  induction n generalizing text with
  | zero => exact absurd hn (Nat.not_lt_zero _)
  | succ n ih =>
      rw [items]
      rcases notMem_or_first delim text with ht | ⟨t, rest, rfl, ht⟩
      · rw [getline_rest ht, getlines_rest ht]
        dsimp only
        rw [items_eof]
        cases text with
        | nil => rfl
        | cons c t => rfl
      · have hrest : rest.length < n := by
          rw [List.length_append, List.length_cons] at hn
          omega
        rw [getline_terminated ht, getlines_append_sep ht]
        exact congrArg (t :: ·) (ih hrest)

end Getline

/-- **A beginning of `t`, the delimiter and a rest.** -/
theorem prefix_terminated {α : Type*} {delim : α} {t pre rest : List α}
    (h : pre <+: t ++ delim :: rest) :
    pre <+: t ∨ ∃ pre', pre = t ++ delim :: pre' ∧ pre' <+: rest := by
  rcases Nat.lt_or_ge t.length pre.length with hlt | hge
  · obtain ⟨pre', rfl⟩ : t <+: pre :=
      List.prefix_of_prefix_length_le (List.prefix_append _ _) h (Nat.le_of_lt hlt)
    have h' := (List.prefix_append_right_inj t).mp h
    cases pre' with
    | nil => exact absurd hlt (by simp)
    | cons c pre' =>
        obtain ⟨rfl, hpre⟩ := List.cons_prefix_cons.mp h'
        exact .inr ⟨pre', rfl, hpre⟩
  · exact .inl (List.prefix_of_prefix_length_le h (List.prefix_append _ _) hge)

end DovecotCeph.Lib
