/-
  File:      DovecotCeph/Lib/OrderedMap.lean
  Subject:   Loops over maps that are ordered by their keys. Nothing here names the plugin.

  * `getElem?_assignments`: assigning key after key, the last assignment to a key stays;
  * **`find?_toList_iff`**: the entry a search in the order of the keys stops at;
  * **`flatMap_toList_perm`**: a map that keeps the items of a list by a key of theirs has every
    item once;
  * `groups`: the values of each key in a list, `getElem?_groups`.
-/
import Mathlib.Data.List.Induction
import Mathlib.Data.List.Perm.Basic

namespace DovecotCeph.Lib

open Std (TreeMap TransOrd LawfulEqOrd)

variable {κ α β γ : Type*}

/-! ## 1. Items by a key -/

section Items

variable [DecidableEq κ]

/-- The last item of a key. -/
def lastItem (key : α → κ) (items : List α) (k : κ) : Option α :=
  items.reverse.find? (key · = k)

theorem lastItem_concat (key : α → κ) (items : List α) (a : α) (k : κ) :
    lastItem key (items ++ [a]) k = if key a = k then some a else lastItem key items k := by
  unfold lastItem
  rw [List.reverse_concat, List.find?_cons]
  by_cases h : key a = k
  · simp [h]
  · simp [h]

theorem lastItem_cons (key : α → κ) (items : List α) (a : α) (k : κ) :
    lastItem key (a :: items) k =
      (lastItem key items k).or (if key a = k then some a else none) := by
  unfold lastItem
  rw [List.reverse_cons, List.find?_append, List.find?_cons]
  by_cases h : key a = k
  · simp [h]
  · simp [h]

theorem lastItem_mem {key : α → κ} {items : List α} {k : κ} {a : α}
    (h : lastItem key items k = some a) : a ∈ items ∧ key a = k :=
  ⟨List.mem_reverse.mp (List.mem_of_find?_eq_some h), by simpa using List.find?_some h⟩

theorem lastItem_isSome (key : α → κ) {items : List α} {a : α} (h : a ∈ items) :
    ∃ b, lastItem key items (key a) = some b := by
  refine Option.isSome_iff_exists.mp (List.find?_isSome.mpr ⟨a, List.mem_reverse.mpr h, ?_⟩)
  exact decide_eq_true rfl

/-- Items that are kept by a key are kept once. -/
theorem flatMap_filter_perm {key : α → κ} {keys : List κ} (hnodup : keys.Nodup) {l : List α}
    (h : ∀ a ∈ l, key a ∈ keys) : (keys.flatMap fun k => l.filter (key · = k)).Perm l := by
  induction keys generalizing l with
  | nil =>
      have hl : l = [] := List.eq_nil_iff_forall_not_mem.mpr fun a ha => nomatch h a ha
      rw [hl]
      exact .refl _
  | cons k keys ih =>
      obtain ⟨hnot, hnodup⟩ := List.nodup_cons.mp hnodup
      have hrest : (keys.flatMap fun k' => l.filter (key · = k')) =
          keys.flatMap fun k' => (l.filter (key · ≠ k)).filter (key · = k') := by
        refine List.flatMap_congr fun k' hk' => ?_
        rw [List.filter_filter]
        refine List.filter_congr fun a _ => ?_
        by_cases ha : key a = k'
        · have : k' ≠ k := fun e => hnot (e ▸ hk')
          simp [ha, this]
        · simp [ha]
      have hkeys : ∀ a ∈ l.filter (key · ≠ k), key a ∈ keys := by
        intro a ha
        obtain ⟨hal, hne⟩ := List.mem_filter.mp ha
        exact (List.mem_cons.mp (h a hal)).resolve_left (of_decide_eq_true hne)
      rw [List.flatMap_cons, hrest]
      refine ((ih hnodup hkeys).append_left _).trans ?_
      simpa using List.filter_append_perm (fun a => decide (key a = k)) l

end Items

section OrderedMap

variable [Ord κ]

/-! ## 2. Assignments -/

/-- A loop that assigns each item to its key. -/
def assignments (key : α → κ) (items : List α) : TreeMap κ α :=
  items.foldl (fun t a => t.insert (key a) a) ∅

theorem assignments_concat (key : α → κ) (items : List α) (a : α) :
    assignments key (items ++ [a]) = (assignments key items).insert (key a) a :=
  List.foldl_concat ..

/-- A value is appended to the list of its key; a new key gets a list of its own. -/
def pushGroup (t : TreeMap κ (List β)) (e : κ × β) : TreeMap κ (List β) :=
  t.insert e.1 (t[e.1]?.getD [] ++ [e.2])

/-- The values of each key. -/
def groups (entries : List (κ × β)) : TreeMap κ (List β) := entries.foldl pushGroup ∅

theorem groups_concat (entries : List (κ × β)) (e : κ × β) :
    groups (entries ++ [e]) = pushGroup (groups entries) e :=
  List.foldl_concat ..

variable [TransOrd κ] [LawfulEqOrd κ]

/-! ## 3. The entries in order -/

/-- **A search in the order of the keys** stops at the entry with the least key it accepts. -/
theorem find?_toList_iff {t : TreeMap κ β} {stop : κ × β → Bool} {k : κ} {b : β} :
    t.toList.find? stop = some (k, b) ↔
      t[k]? = some b ∧ stop (k, b) = true ∧
        ∀ k' b', t[k']? = some b' → compare k' k = .lt → stop (k', b') = false := by
  have hmem : ∀ k b, (k, b) ∈ t.toList ↔ t[k]? = some b := fun _ _ =>
    TreeMap.mem_toList_iff_getElem?_eq_some
  have hordered : t.toList.Pairwise fun a b => compare a.1 b.1 = .lt :=
    TreeMap.ordered_keys_toList
  rw [List.find?_eq_some_iff_append, ← hmem]
  constructor
  · intro h
    obtain ⟨hstop, before, after, hsplit, hbefore⟩ := h
    rw [hsplit] at hmem hordered
    refine ⟨hsplit ▸ List.mem_append_right _ List.mem_cons_self, hstop, fun k' b' h' hlt => ?_⟩
    -- a smaller key is not behind the entry
    obtain ⟨-, htail, -⟩ := List.pairwise_append.mp hordered
    rcases List.mem_append.mp ((hmem k' b').mpr h') with hin | hin
    · simpa using hbefore _ hin
    · rcases List.mem_cons.mp hin with heq | hin
      · rw [(Prod.mk.inj heq).1, Std.compare_self] at hlt
        cases hlt
      · have hgt := (List.pairwise_cons.mp htail).1 _ hin
        rw [Std.OrientedOrd.eq_swap, hlt] at hgt
        cases hgt
  · intro h
    obtain ⟨hin, hstop, hbefore⟩ := h
    obtain ⟨before, after, hsplit⟩ := List.append_of_mem hin
    refine ⟨hstop, before, after, hsplit, fun e he => ?_⟩
    rw [hsplit] at hordered
    have hlt := (List.pairwise_append.mp hordered).2.2 e he (k, b) List.mem_cons_self
    have hget : t[e.1]? = some e.2 := (hmem _ _).mp (hsplit ▸ List.mem_append_left _ he)
    simp [hbefore e.1 e.2 hget hlt]

/-! ## 4. What a map keeps -/

variable [DecidableEq κ]

/-- **The last assignment to a key stays.** -/
theorem getElem?_assignments (key : α → κ) (items : List α) (k : κ) :
    (assignments key items)[k]? = lastItem key items k := by
  induction items using List.reverseRecOn with
  | nil => exact TreeMap.getElem?_emptyc
  | append_singleton items a ih =>
      rw [assignments_concat, lastItem_concat, TreeMap.getElem?_insert, ih]
      by_cases h : key a = k
      · rw [if_pos h, if_pos (Std.LawfulEqCmp.compare_eq_iff_eq.mpr h)]
      · rw [if_neg h, if_neg fun e => h (Std.LawfulEqCmp.compare_eq_iff_eq.mp e)]

/-- **A map that keeps something of the items of a list by a key of theirs keeps it once for every
    item.** -/
theorem flatMap_toList_perm {t : TreeMap κ β} {key : α → κ} {items : β → List γ} {f : α → γ}
    {l : List α} (h : ∀ k, (t[k]?).elim [] items = (l.filter (key · = k)).map f) :
    (t.toList.flatMap fun e => items e.2).Perm (l.map f) := by
  have hflat : (t.toList.flatMap fun e => items e.2) =
      (t.keys.flatMap fun k => l.filter (key · = k)).map f := by
    rw [← TreeMap.map_fst_toList_eq_keys, List.flatMap_map, List.map_flatMap]
    refine List.flatMap_congr fun e he => ?_
    rw [← h, TreeMap.mem_toList_iff_getElem?_eq_some.mp he]
    rfl
  have hnodup : t.keys.Nodup :=
    TreeMap.distinct_keys.imp fun hne e => hne (Std.LawfulEqCmp.compare_eq_iff_eq.mpr e)
  rw [hflat]
  refine (flatMap_filter_perm hnodup fun a ha => ?_).map f
  have hkept : f a ∈ (l.filter (key · = key a)).map f :=
    List.mem_map_of_mem (List.mem_filter.mpr ⟨ha, decide_eq_true rfl⟩)
  rw [← h] at hkept
  rw [TreeMap.mem_keys, TreeMap.mem_iff_isSome_getElem?]
  cases hget : t[key a]? with
  | none =>
      rw [hget] at hkept
      exact absurd hkept List.not_mem_nil
  | some b => rfl

/-- **The values of a key, in their order**; a key without values is not in the map. -/
theorem getElem?_groups (entries : List (κ × β)) (k : κ) :
    (groups entries)[k]? =
      if entries.filter (·.1 = k) = [] then none
      else some ((entries.filter (·.1 = k)).map Prod.snd) := by
  induction entries using List.reverseRecOn with
  | nil => exact TreeMap.getElem?_emptyc
  | append_singleton entries e ih =>
      rw [groups_concat, pushGroup, TreeMap.getElem?_insert, List.filter_append, List.map_append]
      by_cases h : e.1 = k
      · subst h
        have hself : [e].filter (·.1 = e.1) = [e] := by simp
        rw [if_pos Std.compare_self, hself, if_neg (by simp), ih]
        by_cases hnil : entries.filter (·.1 = e.1) = []
        · rw [if_pos hnil, hnil]
          rfl
        · rw [if_neg hnil]
          rfl
      · have hother : [e].filter (·.1 = k) = [] := by simp [h]
        rw [if_neg fun hc => h (Std.LawfulEqCmp.compare_eq_iff_eq.mp hc), hother, List.append_nil,
          List.map_nil, List.append_nil, ih]

/-- Every value is in the map once. -/
theorem flatMap_groups_perm (entries : List (κ × β)) :
    ((groups entries).toList.flatMap Prod.snd).Perm (entries.map Prod.snd) := by
  have hgroup : ∀ k, ((groups entries)[k]?).elim [] id =
      (entries.filter (·.1 = k)).map Prod.snd := by
    intro k
    rw [getElem?_groups]
    split
    case isTrue hnil =>
      rw [hnil]
      rfl
    case isFalse => rfl
  exact flatMap_toList_perm hgroup

end OrderedMap

end DovecotCeph.Lib
