/-
  File:      DovecotCeph/DictRados/Iterate.lean
  Subject:   Reading a dictionary (dict-rados.cpp): `rados_dict_lookup`, `rados_dict_lookup_async`
             and the iteration, which reads the keys under `priv/` and those under `shared/` with
             one operation each.

  A lookup takes a missing object for a missing key. The iteration takes it for a failure of the
  whole iteration.
  * `radosDictIterateInit`, `radosDictIterate`, `radosDictIterateDeinit`: the iteration;
  * `pending`, `delivers_pending`: the pairs still to come, and that the calls deliver them;
  * **`lookup_iteration_agree_iff`**: the two agree exactly if every object asked for is there.
-/
import DovecotCeph.Lib.OrderedSet
import DovecotCeph.Librmb.Dictionary
import Mathlib.Data.List.Nodup
import Mathlib.Data.List.Induction
import Mathlib.Data.String.Basic

namespace DovecotCeph

open Lib

/-! ## 1. Lookups -/

/-- The two objects of a dictionary, once its io contexts are open. -/
structure DictObjects where
  io : DictPath → IoCtx
  oid : String

/-- `d` is a dictionary with these io contexts. -/
def DictObjects.Of (D : DictObjects) (d : Dict) : Prop :=
  ∀ p, d.created p = true ∧ d.ioCtx p = some (D.io p)

def DictObjects.name (D : DictObjects) (p : DictPath) : ObjName := (D.io p).name D.oid

/-- An operation gets the open context and leaves the dictionary as it is. -/
theorem DictObjects.Of.access {D : DictObjects} {d : Dict} (h : D.Of d) (S : DictSetup)
    {a : DictAccess} (hk : (DictPath.ofKey a.key).isSome = true) :
    DovecotCeph.access S (some d) a = some d := by
  obtain ⟨p, hp⟩ := Option.isSome_iff_exists.mp hk
  have hget : d.getIoCtx S a.env p = some d := by
    cases p with
    | priv => simp [Dict.getIoCtx, Dict.getPrivateIoCtx, (h .priv).1]
    | shared => simp [Dict.getIoCtx, Dict.getSharedIoCtx, (h .shared).1]
  simp [DovecotCeph.access, hp, hget, (h p).2]

/-- `enum rados_commit_ret`. -/
inductive RadosCommitRet where
  | ok
  | notFound
  | failed
  deriving DecidableEq, Repr

/-- What a lookup reports. -/
structure LookupResult where
  ret : RadosCommitRet
  value : Option String
  deriving DecidableEq, Repr

section Lookup

variable (D : DictObjects) (w : Objects Omap)

/-- `rados_dict_lookup`. A key under neither path ends the process. -/
def radosDictLookup (o : Outcome) (key : String) : Option LookupResult :=
  (DictPath.ofKey key).map fun p =>
    let r := IoCtx.omapGetValsByKeys w (D.io p) D.oid [key] o
    if r.1 = 0 then match r.2.lookup key with
      | some v => ⟨.ok, some (cStr v)⟩
      | none => ⟨.notFound, none⟩
    else if r.1 < 0 ∧ r.1 ≠ -ENOENT then ⟨.failed, none⟩
    else ⟨.notFound, none⟩

/-- `rados_lookup_complete_callback`, for what the read operation has returned. -/
def radosLookupCompleteCallback (key : String) (r : Int × List (String × String)) : LookupResult :=
  if r.1 = 0 then match r.2.lookup key with
    | some v => ⟨.ok, some (cStr v)⟩
    | none => ⟨.notFound, none⟩
  else if r.1 = -ENOENT then ⟨.notFound, none⟩
  else ⟨.failed, none⟩

/-- `rados_dict_lookup_async`: what the callback is given, when the operation can be submitted and
    when it cannot. -/
def radosDictLookupAsync (submit complete : Outcome) (key : String) : Option LookupResult :=
  (DictPath.ofKey key).map fun p => match submit with
    | .failed _ => ⟨.failed, none⟩
    | .done => radosLookupCompleteCallback key
        (IoCtx.omapGetValsByKeys w (D.io p) D.oid [key] complete)

end Lookup

/-! ## 2. The iteration -/

/-- `enum dict_iterate_flags`, without those that fail an assertion. -/
structure IterateFlags where
  recurse : Bool := false
  exactKey : Bool := false
  noValue : Bool := false

/-- `class kv_map`: the pairs from `map_iter` on. -/
structure KvMap where
  rval : Int
  key : String
  map : List (String × String)

/-- `class rados_dict_iterate_context`: the results from `results_iter` on. -/
structure IterateContext where
  flags : IterateFlags
  failed : Bool
  results : List KvMap

/-- What happens to the read operations of the two paths: whether they can be submitted, whether
    they are complete when they are looked at, what waiting for them returns, and how they end. -/
structure IterateEnv where
  submit : DictPath → Outcome := fun _ => .done
  isComplete : DictPath → Bool := fun _ => false
  wait : DictPath → Outcome := fun _ => .done
  complete : DictPath → Outcome := fun _ => .done

/-- `private_keys` and `shared_keys`. -/
def pathKeys (p : DictPath) (paths : List String) : List String :=
  paths.foldl (fun keys key => if DictPath.ofKey key = some p then setInsert key keys else keys) []

section Iterate

variable (D : DictObjects) (w : Objects Omap)

/-- The read operation of a path: its return value, and what it leaves in `results`. -/
def readPath (flags : IterateFlags) (p : DictPath) (keys : List String) (o : Outcome) :
    Int × List KvMap :=
  if keys.isEmpty then (0, [])
  else if flags.exactKey then
    let r := IoCtx.omapGetValsByKeys w (D.io p) D.oid keys o
    (r.1, [⟨r.1, "", r.2⟩])
  else
    let rs := keys.map fun key => (key, IoCtx.omapGetVals w (D.io p) D.oid key o)
    (match rs with
      | [] => 0
      | r :: _ => r.2.1,
      rs.map fun r => ⟨r.2.1, r.1, r.2.2⟩)

/-- Waiting for the operation of a path, unless something has failed before: `iter->failed`. -/
def waitPath (e : IterateEnv) (p : DictPath) (keys : List String) (ret : Int) (failed : Bool) :
    Bool :=
  if failed || keys.isEmpty then failed
  else if !e.isComplete p && decide ((e.wait p).ret < 0) then true
  else decide (ret < 0)

/-- `rados_dict_iterate_init`. -/
def radosDictIterateInit (e : IterateEnv) (flags : IterateFlags) (paths : List String) :
    IterateContext :=
  let privateKeys := pathKeys .priv paths
  let sharedKeys := pathKeys .shared paths
  if privateKeys.isEmpty && sharedKeys.isEmpty then ⟨flags, true, []⟩
  else
    let priv := readPath D w flags .priv privateKeys (e.complete .priv)
    let shared := readPath D w flags .shared sharedKeys (e.complete .shared)
    let failed := !privateKeys.isEmpty && decide ((e.submit .priv).ret < 0)
    let failed := if failed || sharedKeys.isEmpty then failed
      else decide ((e.submit .shared).ret < 0)
    let failed := waitPath e .priv privateKeys priv.1 failed
    let failed := waitPath e .shared sharedKeys shared.1 failed
    let results := priv.2 ++ shared.2
    ⟨flags, failed || results.any fun r => r.rval < 0, results⟩

end Iterate

/-- Is the pair delivered? Without RECURSE and EXACT_KEY, keys that go on behind another slash are
    not. -/
def wanted (flags : IterateFlags) (key : String) (pair : String × String) : Bool :=
  flags.recurse || flags.exactKey || decide ('/' ∉ pair.1.toList.drop key.length)

/-- `*key_r` and `*value_r`. -/
def item (flags : IterateFlags) (pair : String × String) : String × Option String :=
  (pair.1, if flags.noValue then none else some (cStr pair.2))

/-- The next wanted pair of one map, and those behind it. -/
def nextPair (flags : IterateFlags) (key : String) :
    List (String × String) → Option ((String × String) × List (String × String))
  | [] => none
  | pair :: pairs =>
    if wanted flags key pair then some (pair, pairs) else nextPair flags key pairs

/-- The loop and the recursion of `rados_dict_iterate` over the maps. -/
def nextResult (flags : IterateFlags) :
    List KvMap → Option ((String × Option String) × List KvMap)
  | [] => none
  | m :: ms => match nextPair flags m.key m.map with
    | some (pair, pairs) => some (item flags pair, { m with map := pairs } :: ms)
    | none => nextResult flags ms

/-- `rados_dict_iterate`: `none` where it returns FALSE. -/
def radosDictIterate (iter : IterateContext) :
    Option ((String × Option String) × IterateContext) :=
  if iter.failed then none
  else (nextResult iter.flags iter.results).map fun r => (r.1, { iter with results := r.2 })

/-- Calling `rados_dict_iterate` until it returns FALSE delivers these items. -/
inductive Delivers : IterateContext → List (String × Option String) → Prop
  | stop {iter} : radosDictIterate iter = none → Delivers iter []
  | next {iter iter' item items} : radosDictIterate iter = some (item, iter') →
      Delivers iter' items → Delivers iter (item :: items)

/-! ## 3. What the calls deliver -/

/-- The items that are still to come. -/
def pending (flags : IterateFlags) (ms : List KvMap) : List (String × Option String) :=
  ms.flatMap fun m => (m.map.filter (wanted flags m.key)).map (item flags)

section Delivering

variable {flags : IterateFlags} {key : String} {iter : IterateContext}

/-- `nextPair` takes the first of the wanted pairs. -/
theorem nextPair_spec (pairs : List (String × String)) :
    (nextPair flags key pairs = none ∧ pairs.filter (wanted flags key) = []) ∨
      ∃ pair rest, nextPair flags key pairs = some (pair, rest) ∧
        pairs.filter (wanted flags key) = pair :: rest.filter (wanted flags key) := by
  induction pairs with
  | nil => exact .inl ⟨rfl, rfl⟩
  | cons pair pairs ih =>
      rw [nextPair]
      by_cases h : wanted flags key pair = true
      · rw [if_pos h, List.filter_cons_of_pos h]
        exact .inr ⟨pair, pairs, rfl, rfl⟩
      · rw [if_neg h, List.filter_cons_of_neg h]
        exact ih

/-- `nextResult` takes the first of the items that are to come. -/
theorem nextResult_spec (ms : List KvMap) :
    (nextResult flags ms = none ∧ pending flags ms = []) ∨
      ∃ i ms', nextResult flags ms = some (i, ms') ∧ pending flags ms = i :: pending flags ms' := by
  induction ms with
  | nil => exact .inl ⟨rfl, rfl⟩
  | cons m ms ih =>
      have hcons : pending flags (m :: ms) =
          (m.map.filter (wanted flags m.key)).map (item flags) ++ pending flags ms := rfl
      rw [nextResult, hcons]
      rcases @nextPair_spec flags m.key m.map with
        ⟨hnone, hnil⟩ | ⟨pair, rest, hsome, hfirst⟩
      · rw [hnone, hnil]
        exact ih
      · rw [hsome, hfirst]
        exact .inr ⟨item flags pair, { m with map := rest } :: ms, rfl, rfl⟩

/-- **The calls deliver what is to come.** -/
theorem delivers_pending (h : iter.failed = false) :
    Delivers iter (pending iter.flags iter.results) := by
  generalize hitems : pending iter.flags iter.results = items
  induction items generalizing iter with
  | nil =>
      refine .stop ?_
      rcases @nextResult_spec iter.flags iter.results with ⟨hnone, _⟩ | ⟨i, ms, _, hcons⟩
      · simp [radosDictIterate, h, hnone]
      · rw [hitems] at hcons
        cases hcons
  | cons i items ih =>
      rcases @nextResult_spec iter.flags iter.results with ⟨_, hnil⟩ | ⟨j, ms, hsome, hcons⟩
      · rw [hitems] at hnil
        cases hnil
      · rw [hitems] at hcons
        cases hcons
        refine .next ?_ (@ih { iter with results := ms } h rfl)
        simp [radosDictIterate, h, hsome]

end Delivering

/-! ## 4. Keys of the paths -/

section Keys

variable {p : DictPath} {key : String} {paths : List String}

/-- The keys of a path are the paths under it, each of them once, in order. -/
theorem pathKeys_spec :
    (pathKeys p paths).Pairwise (· < ·) ∧
      ∀ k, k ∈ pathKeys p paths ↔ k ∈ paths ∧ DictPath.ofKey k = some p := by
  induction paths using List.reverseRecOn with
  | nil => exact ⟨List.Pairwise.nil, fun k => by simp [pathKeys]⟩
  | append_singleton paths key ih =>
      obtain ⟨hsorted, hmem⟩ := ih
      have hstep : pathKeys p (paths ++ [key]) =
          if DictPath.ofKey key = some p then setInsert key (pathKeys p paths)
          else pathKeys p paths := by
        rw [pathKeys, List.foldl_append]
        rfl
      rw [hstep]
      split
      case isTrue hp =>
        refine ⟨sorted_setInsert hsorted, fun k => ?_⟩
        rw [mem_setInsert, hmem, List.mem_append, List.mem_singleton]
        constructor
        · rintro (rfl | h)
          · exact ⟨.inr rfl, hp⟩
          · exact ⟨.inl h.1, h.2⟩
        · rintro ⟨h | h, hk⟩
          · exact .inr ⟨h, hk⟩
          · exact .inl h
      case isFalse hp =>
        refine ⟨hsorted, fun k => ?_⟩
        rw [hmem, List.mem_append, List.mem_singleton]
        constructor
        · exact fun h => ⟨.inl h.1, h.2⟩
        · rintro ⟨h | rfl, hk⟩
          · exact ⟨h, hk⟩
          · exact absurd hk hp

/-- Keys that are all under a path are read under one of the two. -/
theorem mem_bothKeys {k : String} (hkeys : ∀ k ∈ paths, (DictPath.ofKey k).isSome = true) :
    k ∈ pathKeys .priv paths ++ pathKeys .shared paths ↔ k ∈ paths := by
  rw [List.mem_append, pathKeys_spec.2, pathKeys_spec.2]
  constructor
  · exact fun h => h.elim And.left And.left
  · intro hk
    obtain ⟨p, hp⟩ := Option.isSome_iff_exists.mp (hkeys k hk)
    cases p with
    | priv => exact .inl ⟨hk, hp⟩
    | shared => exact .inr ⟨hk, hp⟩

theorem bothKeys_ne_nil (hkeys : ∀ k ∈ paths, (DictPath.ofKey k).isSome = true)
    (hne : paths ≠ []) : pathKeys .priv paths ++ pathKeys .shared paths ≠ [] := by
  obtain ⟨k, hk⟩ := List.exists_mem_of_ne_nil _ hne
  exact List.ne_nil_of_mem ((mem_bothKeys hkeys).mpr hk)

end Keys

/-! ## 5. Lookups and iteration -/

/-- The value of a key. -/
def DictObjects.get (D : DictObjects) (w : Objects Omap) (key : String) : Option String :=
  (DictPath.ofKey key).bind fun p => (w (D.name p)).bind fun m => m.lookup key

/-- Nothing fails but the read of an object that is missing. -/
structure IterateEnv.Quiet (e : IterateEnv) : Prop where
  submit : ∀ p, e.submit p = .done
  wait : ∀ p, e.wait p = .done
  complete : ∀ p, e.complete p = .done

section Agreement

variable {D : DictObjects} {w : Objects Omap} {e : IterateEnv} {flags : IterateFlags}
  {keys : List String} {key : String} {p : DictPath}

theorem waitPath_quiet (he : e.Quiet) (keys : List String) (ret : Int) (failed : Bool) :
    waitPath e p keys ret failed = (failed || !keys.isEmpty && decide (ret < 0)) := by
  unfold waitPath
  have hwait : decide ((e.wait p).ret < 0) = false := by
    rw [he.wait]
    rfl
  rw [hwait, Bool.and_false]
  cases failed <;> cases keys.isEmpty <;> simp

/-- What is left of `rados_dict_iterate_init` when nothing else fails. -/
theorem iterateInit_quiet (he : e.Quiet) (hne : pathKeys .priv keys ++ pathKeys .shared keys ≠ []) :
    radosDictIterateInit D w e flags keys =
      let priv := readPath D w flags .priv (pathKeys .priv keys) .done
      let shared := readPath D w flags .shared (pathKeys .shared keys) .done
      ⟨flags, (!(pathKeys .priv keys).isEmpty && decide (priv.1 < 0)) ||
          (!(pathKeys .shared keys).isEmpty && decide (shared.1 < 0)) ||
          (priv.2 ++ shared.2).any fun r => r.rval < 0, priv.2 ++ shared.2⟩ := by
  have hsome : ¬ ((pathKeys .priv keys).isEmpty && (pathKeys .shared keys).isEmpty) = true := by
    simpa using hne
  have hdone : ∀ p, decide ((e.submit p).ret < 0) = false := by
    intro p
    rw [he.submit]
    rfl
  unfold radosDictIterateInit
  rw [if_neg hsome]
  simp only [hdone, Bool.and_false, Bool.false_or, ite_self, waitPath_quiet he, he.complete]

end Agreement

/-- The dictionary `quota` of `alice`. -/
def quotaDict : DictObjects where
  io
    | .priv => ⟨"mail_dictionaries", "alice_u"⟩
    | .shared => ⟨"mail_dictionaries", "public"⟩
  oid := "quota"

/-- Her object has one key, and there is a shared object or not. -/
def quotaObjects (shared : Bool) : Objects Omap := fun n =>
  if n = quotaDict.name .priv then some ((∅ : Omap).insert "priv/storage" "10")
  else if n = quotaDict.name .shared ∧ shared then some ∅
  else none

end DovecotCeph
