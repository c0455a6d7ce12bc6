/-
  File:      DovecotCeph/Lib/AssocList.lean
  Subject:   Loops over the entries of a finite map. Nothing here names the plugin.

  * `filter_entries`: the entries of one key;
  * `foldl_entries`: what is read at a key behind a loop each round of which touches one key.
-/
import Mathlib.Data.List.AList

namespace DovecotCeph.Lib

variable {β σ τ : Type*}

/-- The entry of a key in a map. -/
theorem filter_entries {l : List (Σ _ : String, β)} (h : l.NodupKeys) (k : String) :
    l.filter (·.1 = k) = ((l.dlookup k).map fun b => ⟨k, b⟩).toList := by
  induction l with
  | nil => rfl
  | cons e l ih =>
      obtain ⟨key, b⟩ := e
      obtain ⟨hnot, hnodup⟩ := List.nodupKeys_cons.mp h
      by_cases hkey : key = k
      · subst hkey
        rw [List.dlookup_cons_eq, List.filter_cons_of_pos (by simp), ih hnodup,
          List.dlookup_eq_none.mpr hnot]
        rfl
      · rw [List.dlookup_cons_ne _ _ fun h : k = key => hkey h.symm,
          List.filter_cons_of_neg (by simpa using hkey), ih hnodup]

/-- **Reading at a key behind a loop over a map**: only the round of that key matters. -/
theorem foldl_entries {step : σ → (Σ _ : String, β) → σ} {read : σ → τ} {k : String}
    {g : β → τ → τ} (hne : ∀ s e, e.1 ≠ k → read (step s e) = read s)
    (heq : ∀ s b, read (step s ⟨k, b⟩) = g b (read s)) (m : AList fun _ : String => β) (s : σ) :
    read (m.entries.foldl step s) = match m.lookup k with
      | some b => g b (read s)
      | none => read s := by
  obtain ⟨l, hl⟩ := m
  show read (l.foldl step s) = match l.dlookup k with
    | some b => g b (read s)
    | none => read s
  induction l generalizing s with
  | nil => rfl
  | cons e l ih =>
      obtain ⟨key, b⟩ := e
      obtain ⟨hnot, hnodup⟩ := List.nodupKeys_cons.mp hl
      rw [List.foldl_cons, ih _ hnodup]
      by_cases hkey : key = k
      · subst hkey
        rw [List.dlookup_cons_eq, List.dlookup_eq_none.mpr hnot]
        exact heq s b
      · rw [List.dlookup_cons_ne _ _ fun h : k = key => hkey h.symm, hne s _ hkey]

end DovecotCeph.Lib
