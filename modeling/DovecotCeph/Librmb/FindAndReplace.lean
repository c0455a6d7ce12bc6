/-
  File:      DovecotCeph/Librmb/FindAndReplace.lean
  Subject:   `RadosUtils::find_and_replace` (rados-util.cpp), which changes a text in place.

  The loop goes on behind what it has written, so what it has still to search gets shorter by what
  it finds: it ends unless the text searched for is empty.
  * `findAndReplaceLoop_replaced`: what the loop makes of the rest of the text;
  * **`find_and_replace_leftmost`**: it replaces from left to right without overlaps.
-/
import DovecotCeph.Lib.Replace

namespace DovecotCeph

open Lib

/-- `std::string::replace(pos, len, str)` for a position in the text. -/
def strReplace (source : List Char) (pos len : Nat) (str : List Char) : List Char :=
  source.take pos ++ str ++ source.drop (pos + len)

/-- The loop of `find_and_replace` from the position `i` on; `none` where it has not ended after
    `fuel` rounds. -/
def findAndReplaceLoop (find replace : List Char) : Nat → List Char → Nat → Option (List Char)
  | 0, _, _ => none
  | fuel + 1, source, i =>
    match findFrom find i source with
    | none => some source
    | some i =>
      findAndReplaceLoop find replace fuel (strReplace source i find.length replace)
        (i + replace.length)

/-- **`RadosUtils::find_and_replace`**: the text that is left behind; without a text nothing
    happens. -/
def findAndReplace (fuel : Nat) (source : Option (List Char)) (find replace : List Char) :
    Option (Option (List Char)) :=
  match source with
  | none => some none
  | some source => (findAndReplaceLoop find replace fuel source 0).map some

section Loop

variable {find replace : List Char}

/-- The replacement of an occurrence. -/
theorem strReplace_found (pre post : List Char) :
    strReplace (pre ++ find ++ post) pre.length find.length replace = pre ++ replace ++ post := by
  have hdrop : (pre ++ find ++ post).drop (pre.length + find.length) = post := by
    rw [← List.length_append]
    exact List.drop_left
  unfold strReplace
  rw [hdrop, List.append_assoc pre find post, List.take_left]

/-- **The loop replaces in the rest of the text**, in less rounds than it has characters and one. -/
theorem findAndReplaceLoop_replaced (hne : find ≠ []) (rest : List Char) :
    ∃ t, Replaced find replace rest t ∧ ∀ fuel, rest.length < fuel → ∀ done,
      findAndReplaceLoop find replace fuel (done ++ rest) done.length = some (done ++ t) := by
  induction hn : rest.length using Nat.strong_induction_on generalizing rest with
  | h n ih =>
      rcases findFrom_cases find rest with ⟨hfind, hnot⟩ | ⟨pre, post, hfind, rfl, hfirst⟩
      · refine ⟨rest, .none hnot, fun fuel hfuel done => ?_⟩
        obtain ⟨fuel, rfl⟩ := Nat.exists_eq_succ_of_ne_zero (Nat.ne_zero_of_lt hfuel)
        rw [findAndReplaceLoop, findFrom_append, hfind]
        rfl
      · -- the rest behind the occurrence is shorter
        have hpos : 0 < find.length := List.length_pos_iff.mpr hne
        have hlen : post.length < n := by
          rw [← hn, List.length_append, List.length_append]
          omega
        obtain ⟨t, ht, hloop⟩ := ih post.length hlen post rfl
        refine ⟨pre ++ replace ++ t, .first hfirst ht, fun fuel hfuel done => ?_⟩
        obtain ⟨fuel, rfl⟩ := Nat.exists_eq_succ_of_ne_zero (Nat.ne_zero_of_lt hfuel)
        have hsource : done ++ (pre ++ find ++ post) = (done ++ pre) ++ find ++ post := by simp
        have hindex : done.length + pre.length + replace.length =
            (done ++ pre ++ replace).length := by
          rw [List.length_append, List.length_append]
        rw [findAndReplaceLoop, findFrom_append, hfind]
        dsimp only [Option.map_some]
        rw [hsource, ← List.length_append, strReplace_found, List.length_append, hindex,
          hloop fuel (by omega)]
        simp

/-- Removing hyphens. -/
theorem findAndReplace_hyphen {guid : List Char} {fuel : Nat} (hfuel : guid.length < fuel) :
    findAndReplace fuel (some guid) ['-'] [] = some (some (guid.filter (· ≠ '-'))) := by
  obtain ⟨t, ht, hloop⟩ :=
    @findAndReplaceLoop_replaced ['-'] [] (List.cons_ne_nil _ _) guid
  have hrun : findAndReplaceLoop ['-'] [] fuel guid 0 = some t := hloop fuel hfuel []
  rw [findAndReplace, hrun, ht.eq_filter]
  rfl

/-- **It replaces from left to right without overlaps**: the loop ends, and leaves the one text in
    which every occurrence that a scan finds is replaced; without hyphens a guid has its other
    characters in order. -/
theorem find_and_replace_leftmost (source find replace : List Char) (hne : find ≠ []) :
    (∃ t, (∀ fuel, source.length < fuel →
        findAndReplace fuel (some source) find replace = some (some t)) ∧
      ∀ t', Replaced find replace source t' ↔ t' = t) ∧
    ∀ guid fuel, guid.length < fuel →
      findAndReplace fuel (some guid) ['-'] [] = some (some (guid.filter (· ≠ '-'))) := by
  refine ⟨?_, fun guid fuel hfuel => findAndReplace_hyphen hfuel⟩
  obtain ⟨t, ht, hloop⟩ := @findAndReplaceLoop_replaced find replace hne source
  refine ⟨t, fun fuel hfuel => ?_, fun t' => ?_⟩
  · have hrun : findAndReplaceLoop find replace fuel source 0 = some t := hloop fuel hfuel []
    rw [findAndReplace, hrun]
    rfl
  · constructor
    · intro h
      exact h.unique ht
    · rintro rfl
      exact ht

end Loop

/-- The replacement contains what is replaced; the occurrences of `aa` in `aaa` overlap. -/
theorem replace_overlapping :
    findAndReplace 4 (some ['a', 'a', 'a']) ['a', 'a'] ['a', 'a', 'a'] =
        some (some ['a', 'a', 'a', 'a']) ∧
      ∀ t, Replaced ['a', 'a'] ['a', 'a', 'a'] ['a', 'a', 'a'] t ↔ t = ['a', 'a', 'a', 'a'] := by
  obtain ⟨⟨t, hrun, hspec⟩, _⟩ := find_and_replace_leftmost ['a', 'a', 'a'] ['a', 'a']
    ['a', 'a', 'a'] (List.cons_ne_nil _ _)
  have hfour : findAndReplace 4 (some ['a', 'a', 'a']) ['a', 'a'] ['a', 'a', 'a'] =
      some (some ['a', 'a', 'a', 'a']) := by decide
  rw [hrun 4 (by decide)] at hfour
  obtain rfl : t = ['a', 'a', 'a', 'a'] := by simpa using hfour
  exact ⟨hrun 4 (by decide), hspec⟩

end DovecotCeph
