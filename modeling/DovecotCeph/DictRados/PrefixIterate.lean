/-
  File:      DovecotCeph/DictRados/PrefixIterate.lean
  Subject:   The iteration over all keys below some paths (dict-rados.cpp): without EXACT_KEY, each
             path is read as a prefix.

  * `sortedPaths`, `matchingKeys`, `belowPaths`: what an iteration is for, in sets of keys and their
    order;
  * `pathKeys_eq`, `readPath_below`: the paths and the maps that are read for them;
  * **`prefix_iteration_exact`**: the calls deliver just that.
-/
import DovecotCeph.DictRados.Iterate
import Mathlib.Data.Finset.Sort
import Mathlib.Data.String.Basic

namespace DovecotCeph

/-! ## 1. What an iteration is for -/

/-- The distinct paths under `p`, sorted. -/
def sortedPaths (p : DictPath) (paths : List String) : List String :=
  (paths.toFinset.filter fun path => DictPath.ofKey path = some p).sort

/-- The keys of a map that begin with a path -- and, without RECURSE, have no slash behind it. -/
def matchingKeys (flags : IterateFlags) (m : Omap) (path : String) : Finset String :=
  m.keys.toFinset.filter fun key =>
    path.toList <+: key.toList ∧ (flags.recurse = true ∨ '/' ∉ key.toList.drop path.length)

/-- The items of a path, in the order of the keys; a key is handed over as a C string. -/
def itemsBelow (flags : IterateFlags) (m : Omap) (path : String) :
    List (String × Option String) :=
  (matchingKeys flags m path).sort.map fun key =>
    (cStr key, if flags.noValue then none else m.lookup key)

/-- The items of all paths: first those under `priv/`, then those under `shared/`. -/
def belowPaths (flags : IterateFlags) (contents : DictPath → Omap) (paths : List String) :
    List (String × Option String) :=
  (sortedPaths .priv paths).flatMap (itemsBelow flags (contents .priv)) ++
    (sortedPaths .shared paths).flatMap (itemsBelow flags (contents .shared))

/-! ## 2. The objects -/

/-- Both objects are there with these contents. RADOS lists an omap in the order of its keys; the
    values have no NUL. -/
structure DictObjects.Hold (D : DictObjects) (w : Objects Omap) (contents : DictPath → Omap) :
    Prop where
  there : ∀ p, w (D.name p) = some (contents p)
  ordered : ∀ p, ((contents p).entries.map (·.1)).Pairwise (· ≤ ·)
  noNul : ∀ p key v, (contents p).lookup key = some v → '\x00' ∉ v.toList

/-- `*key_r` is a copy of the key's `c_str()`; that of the value is taken in `item`. -/
def handedOver (i : String × Option String) : String × Option String := (cStr i.1, i.2)

section Prefix

variable {D : DictObjects} {w : Objects Omap} {contents : DictPath → Omap} {e : IterateEnv}
  {flags : IterateFlags} {paths : List String} {p : DictPath} {path : String} {m : Omap}

/-- A set in order is the only sorted list of its elements without repetition. -/
theorem sort_eq_of_mem_iff {s : Finset String} {l : List String} (hnodup : l.Nodup)
    (hsorted : l.Pairwise (· ≤ ·)) (hmem : ∀ a, a ∈ l ↔ a ∈ s) : s.sort = l := by
  have hs : s = l.toFinset := Finset.ext fun a => by rw [List.mem_toFinset, hmem]
  rw [hs]
  exact (List.toFinset_sort (· ≤ ·) hnodup).mpr hsorted

/-- `private_keys` and `shared_keys` are the paths in order. -/
theorem pathKeys_eq (p : DictPath) (paths : List String) :
    pathKeys p paths = sortedPaths p paths := by
  have hsorted := @pathKeys_spec p paths
  refine (sort_eq_of_mem_iff (hsorted.1.imp ne_of_lt) (hsorted.1.imp le_of_lt) fun a => ?_).symm
  rw [pathKeys_spec.2, Finset.mem_filter, List.mem_toFinset]

/-- **What is read for the paths**: a map for each of them, with the pairs that begin with it. -/
theorem readPath_below (hexact : flags.exactKey = false) (hobj : w (D.name p) = some m)
    (keys : List String) :
    readPath D w flags p keys .done =
      (0, keys.map fun key => ⟨0, key, (m.entries.map fun e => (e.1, e.2)).filter fun e =>
        key.toList.isPrefixOf e.1.toList⟩) := by
  have hobj' : w ((D.io p).name D.oid) = some m := hobj
  have hread : ∀ key, IoCtx.omapGetVals w (D.io p) D.oid key .done =
      (0, (m.entries.map fun e => (e.1, e.2)).filter fun e =>
        key.toList.isPrefixOf e.1.toList) := by
    intro key
    simp only [IoCtx.omapGetVals, hobj']
  unfold readPath
  cases keys with
  | nil => rfl
  | cons key keys =>
      rw [if_neg (by simp), if_neg (by simp [hexact])]
      simp only [hread, List.map_cons, List.map_map]
      rfl

/-- The pairs of a map that are delivered for a path. -/
def pairsBelow (flags : IterateFlags) (m : Omap) (path : String) : List (String × String) :=
  ((m.entries.map fun e => (e.1, e.2)).filter fun e =>
    path.toList.isPrefixOf e.1.toList).filter (wanted flags path)

theorem mem_pairsBelow (hexact : flags.exactKey = false) {pair : String × String} :
    pair ∈ pairsBelow flags m path ↔
      m.lookup pair.1 = some pair.2 ∧ path.toList <+: pair.1.toList ∧
        (flags.recurse = true ∨ '/' ∉ pair.1.toList.drop path.length) := by
  have hentry : pair ∈ (m.entries.map fun e => (e.1, e.2)) ↔ m.lookup pair.1 = some pair.2 := by
    rw [List.mem_map]
    constructor
    · rintro ⟨entry, hentry, rfl⟩
      exact AList.mem_lookup_iff.mpr hentry
    · intro h
      exact ⟨⟨pair.1, pair.2⟩, AList.mem_lookup_iff.mp h, rfl⟩
  unfold pairsBelow wanted
  rw [List.mem_filter, List.mem_filter, hentry, hexact, List.isPrefixOf_iff_prefix]
  simp [and_assoc]

/-- Their keys are the matching ones, in order. -/
theorem pairsBelow_keys (hexact : flags.exactKey = false)
    (hordered : (m.entries.map (·.1)).Pairwise (· ≤ ·)) :
    (matchingKeys flags m path).sort = (pairsBelow flags m path).map (·.1) := by
  have hsub : ((pairsBelow flags m path).map (·.1)).Sublist (m.entries.map (·.1)) := by
    have hall := (List.filter_sublist (l := (m.entries.map fun e => (e.1, e.2)).filter fun e =>
      path.toList.isPrefixOf e.1.toList) (p := wanted flags path)).trans List.filter_sublist
    have hkeys := hall.map (·.1)
    rw [List.map_map] at hkeys
    exact hkeys
  refine sort_eq_of_mem_iff (hsub.nodup m.nodupKeys) (hordered.sublist hsub) fun key => ?_
  rw [List.mem_map]
  unfold matchingKeys
  rw [Finset.mem_filter, List.mem_toFinset, ← AList.mem_keys, ← AList.lookup_isSome,
    Option.isSome_iff_exists]
  constructor
  · rintro ⟨pair, hpair, rfl⟩
    obtain ⟨hlookup, hrest⟩ := (mem_pairsBelow hexact).mp hpair
    exact ⟨⟨_, hlookup⟩, hrest⟩
  · rintro ⟨⟨v, hv⟩, hrest⟩
    exact ⟨(key, v), (mem_pairsBelow hexact).mpr ⟨hv, hrest⟩, rfl⟩

/-- **The items of a path** are the pairs that are delivered for it. -/
theorem pairsBelow_items (hexact : flags.exactKey = false)
    (hordered : (m.entries.map (·.1)).Pairwise (· ≤ ·))
    (hnoNul : ∀ key v, m.lookup key = some v → '\x00' ∉ v.toList) (path : String) :
    ((pairsBelow flags m path).map (item flags)).map handedOver = itemsBelow flags m path := by
  unfold itemsBelow
  rw [pairsBelow_keys hexact hordered, List.map_map, List.map_map]
  refine List.map_congr_left fun pair hpair => ?_
  obtain ⟨hlookup, _⟩ := (mem_pairsBelow hexact).mp hpair
  show (cStr pair.1, if flags.noValue then none else some (cStr pair.2)) =
    (cStr pair.1, if flags.noValue then none else m.lookup pair.1)
  rw [hlookup, cStr_of_noNul (hnoNul _ _ hlookup)]

/-- What is to come after the maps of one path prefix were read. -/
theorem pending_below (hexact : flags.exactKey = false) (h : D.Hold w contents) (p : DictPath) :
    (pending flags (readPath D w flags p (pathKeys p paths) .done).2).map handedOver =
      (sortedPaths p paths).flatMap (itemsBelow flags (contents p)) := by
  rw [readPath_below hexact (h.there p), pathKeys_eq]
  unfold pending
  rw [List.flatMap_map, List.map_flatMap]
  exact List.flatMap_congr fun path _ =>
    pairsBelow_items hexact (h.ordered p) (h.noNul p) path

/-- Nothing has failed. -/
theorem iterateInit_below (he : e.Quiet) (hexact : flags.exactKey = false)
    (hne : paths ≠ []) (hpaths : ∀ path ∈ paths, (DictPath.ofKey path).isSome = true)
    (h : D.Hold w contents) :
    radosDictIterateInit D w e flags paths =
      ⟨flags, false, (readPath D w flags .priv (pathKeys .priv paths) .done).2 ++
        (readPath D w flags .shared (pathKeys .shared paths) .done).2⟩ := by
  rw [iterateInit_quiet he (bothKeys_ne_nil hpaths hne), readPath_below hexact (h.there .priv),
    readPath_below hexact (h.there .shared)]
  have hrval : ∀ keys keys' : List KvMap, (∀ r ∈ keys, r.rval = 0) → (∀ r ∈ keys', r.rval = 0) →
      ((keys ++ keys').any fun r => r.rval < 0) = false := by
    intro keys keys' hkeys hkeys'
    rw [List.any_eq_false]
    intro r hr
    have h0 : r.rval = 0 := (List.mem_append.mp hr).elim (hkeys r) (hkeys' r)
    rw [h0]
    decide
  have hzero : ∀ (m : Omap) (keys : List String), ∀ r ∈ keys.map fun key =>
      (⟨0, key, (m.entries.map fun e => (e.1, e.2)).filter fun e =>
        key.toList.isPrefixOf e.1.toList⟩ : KvMap), r.rval = 0 := by
    intro m keys r hr
    obtain ⟨key, _, rfl⟩ := List.mem_map.mp hr
    rfl
  dsimp only
  rw [hrval _ _ (hzero _ _) (hzero _ _)]
  simp

/-- **The iteration is complete and exact**: the calls deliver the items below the paths, in order,
    and end. -/
theorem prefix_iteration_exact (D : DictObjects) (w : Objects Omap) (contents : DictPath → Omap)
    (e : IterateEnv) (flags : IterateFlags) (paths : List String) (he : e.Quiet)
    (hexact : flags.exactKey = false) (hne : paths ≠ [])
    (hpaths : ∀ path ∈ paths, (DictPath.ofKey path).isSome = true) (h : D.Hold w contents) :
    ∃ items, Delivers (radosDictIterateInit D w e flags paths) items ∧
      items.map handedOver = belowPaths flags contents paths := by
  rw [iterateInit_below he hexact hne hpaths h]
  refine ⟨_, delivers_pending rfl, ?_⟩
  have hsplit : ∀ ms ms', pending flags (ms ++ ms') = pending flags ms ++ pending flags ms' :=
    fun _ _ => List.flatMap_append
  rw [hsplit, List.map_append, pending_below hexact h, pending_below hexact h]
  rfl

end Prefix

/-- Both objects of the dictionary of `alice` are there. -/
theorem quotaDict_hold :
    quotaDict.Hold (quotaObjects true)
      (fun | .priv => (∅ : Omap).insert "priv/storage" "10" | .shared => ∅) where
  there p := by cases p <;> rfl
  ordered p := by cases p <;> decide
  noNul p key v h := by
    cases p with
    | shared => cases h
    | priv =>
        by_cases hkey : key = "priv/storage"
        · subst hkey
          rw [AList.lookup_insert] at h
          cases h
          decide
        · rw [AList.lookup_insert_ne hkey] at h
          cases h

/-- Two paths, the same one twice, and a path without keys. -/
theorem storage_below_paths :
    ∃ items, Delivers (radosDictIterateInit quotaDict (quotaObjects true) {} {}
        ["shared/", "priv/st", "priv/", "priv/st"]) items ∧
      items.map handedOver = belowPaths {}
        (fun | .priv => (∅ : Omap).insert "priv/storage" "10" | .shared => ∅)
        ["shared/", "priv/st", "priv/", "priv/st"] :=
  prefix_iteration_exact quotaDict (quotaObjects true) _ {} {} _
    ⟨fun _ => rfl, fun _ => rfl, fun _ => rfl⟩ rfl (by simp) (by decide) quotaDict_hold

end DovecotCeph
