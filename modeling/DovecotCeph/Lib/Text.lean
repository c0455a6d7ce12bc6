/-
  File:      DovecotCeph/Lib/Text.lean
  Subject:   Texts that are cut at separators and texts whose characters are escaped. Nothing here
             names the plugin.

  * `getlines sep`: the tokens a `getline` loop delivers; **`getlines_terminated`**: of a text made
    of terminated tokens it delivers these tokens; `mem_getlines`: what a token can be.
  * `PrefixCode code`: no code word begins another one; **`PrefixCode.flatMap_injective`**: writing
    a text character by character in such a code loses nothing.
-/
import Mathlib.Data.List.Basic
import Mathlib.Logic.Function.Basic

namespace DovecotCeph.Lib

/-! ## 1. Tokens -/

section Tokens

variable {α : Type*} [DecidableEq α] {sep : α}

/-- The tokens of `while (getline(ss, tok, sep))`. A separator ends a token; what follows the last
    one is a token if it is not empty. -/
def getlines (sep : α) : List α → List (List α)
  | [] => []
  | c :: cs =>
    if c = sep then [] :: getlines sep cs
    else match getlines sep cs with
      | [] => [[c]]
      | t :: ts => (c :: t) :: ts

/-- The first separator of a text. -/
theorem idxOf?_append_self {left right : List α} (h : sep ∉ left) :
    (left ++ sep :: right).idxOf? sep = some left.length := by
  rw [List.idxOf?_eq_some_iff]
  refine ⟨by simp, by simp, fun j hj heq => h ?_⟩
  rw [List.getElem_append_left hj] at heq
  rw [← heq]
  exact List.getElem_mem hj

theorem getlines_append_sep {t : List α} (ht : sep ∉ t) (rest : List α) :
    getlines sep (t ++ sep :: rest) = t :: getlines sep rest := by
  induction t with
  | nil => simp [getlines]
  | cons c cs ih =>
      have hc : c ≠ sep := fun e => ht (e ▸ List.mem_cons_self)
      have hcs : sep ∉ cs := fun h => ht (List.mem_cons_of_mem _ h)
      rw [List.cons_append, getlines, if_neg hc, ih hcs]

/-- **A text of terminated tokens is cut into these tokens.** -/
theorem getlines_terminated {ts : List (List α)} (h : ∀ t ∈ ts, sep ∉ t) :
    getlines sep (ts.flatMap (· ++ [sep])) = ts := by
  induction ts with
  | nil => rfl
  | cons t ts ih =>
      have ht := h t List.mem_cons_self
      have hts : ∀ u ∈ ts, sep ∉ u := fun u hu => h u (List.mem_cons_of_mem _ hu)
      rw [List.flatMap_cons, List.append_assoc, List.singleton_append, getlines_append_sep ht,
        ih hts]

/-- **A token has no separator, and nothing that is not in the text.** -/
theorem mem_getlines {text t : List α} (h : t ∈ getlines sep text) : sep ∉ t ∧ t ⊆ text := by
  induction text generalizing t with
  | nil => exact absurd h List.not_mem_nil
  | cons c cs ih =>
      rw [getlines] at h
      by_cases hc : c = sep
      · rw [if_pos hc] at h
        rcases List.mem_cons.mp h with rfl | h
        · exact ⟨List.not_mem_nil, List.nil_subset _⟩
        · exact ⟨(ih h).1, List.subset_cons_of_subset c (ih h).2⟩
      · rw [if_neg hc] at h
        cases hts : getlines sep cs with
        | nil =>
            rw [hts] at h
            rw [List.mem_singleton.mp h]
            refine ⟨fun hmem => hc (List.mem_singleton.mp hmem).symm, ?_⟩
            exact List.cons_subset_cons c (List.nil_subset _)
        | cons u us =>
            rw [hts] at h ih
            rcases List.mem_cons.mp h with rfl | h
            · obtain ⟨hsep, hsub⟩ := ih List.mem_cons_self
              refine ⟨fun hmem => ?_, List.cons_subset_cons c hsub⟩
              rcases List.mem_cons.mp hmem with heq | hmem
              · exact hc heq.symm
              · exact hsep hmem
            · obtain ⟨hsep, hsub⟩ := ih (List.mem_cons_of_mem _ h)
              exact ⟨hsep, List.subset_cons_of_subset c hsub⟩

end Tokens

/-! ## 2. Codes -/

section Codes

variable {α β : Type*} {code : α → List β}

/-- No code word begins another one, and none is empty. -/
structure PrefixCode (code : α → List β) : Prop where
  ne_nil : ∀ a, code a ≠ []
  cancel : ∀ a b x y, code a ++ x = code b ++ y → a = b

/-- **A prefix code is uniquely decodable.** -/
theorem PrefixCode.flatMap_injective (h : PrefixCode code) :
    Function.Injective fun s : List α => s.flatMap code := by
  intro s t e
  dsimp only at e
  induction s generalizing t with
  | nil =>
      cases t with
      | nil => rfl
      | cons b t =>
          rw [List.flatMap_nil, List.flatMap_cons] at e
          exact absurd (List.append_eq_nil_iff.mp e.symm).1 (h.ne_nil b)
  | cons a s ih =>
      cases t with
      | nil =>
          rw [List.flatMap_nil, List.flatMap_cons] at e
          exact absurd (List.append_eq_nil_iff.mp e).1 (h.ne_nil a)
      | cons b t =>
          rw [List.flatMap_cons, List.flatMap_cons] at e
          obtain rfl := h.cancel a b _ _ e
          rw [ih (List.append_cancel_left e)]

end Codes

end DovecotCeph.Lib
