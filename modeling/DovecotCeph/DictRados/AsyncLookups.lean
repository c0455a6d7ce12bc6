/-
  File:      DovecotCeph/DictRados/AsyncLookups.lean
  Subject:   Asynchronous lookups of a dictionary (dict-rados.cpp, rados-dictionary-impl.cpp):
             `rados_dict_lookup_async` submits a read operation and then puts its completion into
             the list of the dictionary, RADOS reads the object some time later and runs the
             callback, and `rados_dict_wait` takes the completions out of the list.

  The dictionary, the callbacks and whoever writes the object take their steps in any order. A
  callback deletes the context, also if `rados_dict_lookup_async` has still to take the completion
  from there.
  * `AsyncDict.Step`: the steps; `AsyncDict.WaitStep`: those a call of `rados_dict_wait` waits for;
  * `AsyncDict.Overtaken`: the state in which freed memory is read next; `overtaken_list`;
  * `AsyncDict.Sound`: what every step of the other runs keeps;
  * **`lookups_answered_once`**: no callback is lost or run twice, no completion released twice;
  * **`lookups_linearizable`**: a callback is given what a lookup finds at some moment in between;
  * **`rados_dict_wait_returns`**: waiting ends if RADOS answers.
-/
import DovecotCeph.DictRados.Iterate
import Mathlib.Logic.Relation
import Mathlib.Order.WellFounded
import Mathlib.Algebra.BigOperators.Group.List.Basic
import Mathlib.Algebra.GroupWithZero.Nat

namespace DovecotCeph

open Lib

/-! ## 1. The dictionary -/

/-- Where a lookup is: `complete` with what the read operation has returned. -/
inductive LookupPhase where
  | submitted
  | complete (r : Int × List (String × String))
  | called
  deriving DecidableEq

/-- The steps a lookup still takes. -/
def LookupPhase.left : LookupPhase → Nat
  | .submitted => 2
  | .complete _ => 1
  | .called => 0

/-- `class rados_dict_lookup_context`; `callback` is set unless the caller gave a null pointer. The
    outcomes are those of the submission and, as soon as RADOS has answered, of the operation. -/
structure LookupContext where
  key : String
  callback : Bool
  submit : Outcome
  outcome : Outcome := .done
  phase : LookupPhase

/-- The objects, the lookups so far, the number of the one whose completion `lookup_async` has still
    to take from its context, the numbers of those in `completions` and of those that were released,
    and what the callbacks were given, in order. -/
structure AsyncDict where
  objs : Objects Omap
  lookups : List LookupContext
  pushing : Option Nat
  completions : List Nat
  released : List Nat
  callbacks : List (Nat × LookupResult)

namespace AsyncDict

/-- Nothing has been looked up yet. -/
def init (objs : Objects Omap) : AsyncDict := ⟨objs, [], none, [], [], []⟩

/-- `rados_dict_lookup_async` up to `aio_operate`, or to its end if the operation cannot be
    submitted. -/
def lookupAsync (key : String) (callback : Bool) (submit : Outcome) (s : AsyncDict) : AsyncDict :=
  let n := s.lookups.length
  match submit with
  | .failed _ =>
    { s with
      lookups := s.lookups ++ [{ key, callback, submit, phase := .called }]
      callbacks := s.callbacks ++ if callback then [(n, ⟨.failed, none⟩)] else []
      released := s.released ++ [n] }
  | .done =>
    { s with
      lookups := s.lookups ++ [{ key, callback, submit, phase := .submitted }]
      pushing := some n }

/-- `push_back_completion`. -/
def pushBackCompletion (c : Nat) (s : AsyncDict) : AsyncDict :=
  { s with completions := s.completions ++ [c], pushing := none }

/-- The lookup of the number `i` gets to another phase. -/
def setPhase (i : Nat) (outcome : Outcome) (phase : LookupPhase) (s : AsyncDict) : AsyncDict :=
  { s with lookups := s.lookups.modify i fun lc => { lc with outcome, phase } }

/-- `rados_lookup_complete_callback` with its context. -/
def completeCallback (i : Nat) (lc : LookupContext) (r : Int × List (String × String))
    (s : AsyncDict) : AsyncDict :=
  { s.setPhase i lc.outcome .called with
    callbacks := s.callbacks ++
      if lc.callback then [(i, radosLookupCompleteCallback lc.key r)] else [] }

/-- `remove_completion` and `release`. -/
def removeCompletion (c : Nat) (s : AsyncDict) : AsyncDict :=
  { s with completions := s.completions.filter (· ≠ c), released := s.released ++ [c] }

section Steps

variable (D : DictObjects)

/-- **What `rados_dict_wait` waits for**: the answers of RADOS, the callbacks, and the turns of its
    own loop, each for the first completion of the list. -/
inductive WaitStep : AsyncDict → AsyncDict → Prop
  | complete {s : AsyncDict} {i : Nat} {lc : LookupContext} {p : DictPath} (o : Outcome)
      (hi : s.lookups[i]? = some lc) (hphase : lc.phase = .submitted)
      (hp : DictPath.ofKey lc.key = some p) :
      WaitStep s (s.setPhase i o
        (.complete (IoCtx.omapGetValsByKeys s.objs (D.io p) D.oid [lc.key] o)))
  | callback {s : AsyncDict} {i : Nat} {lc : LookupContext} {r : Int × List (String × String)}
      (hi : s.lookups[i]? = some lc) (hphase : lc.phase = .complete r) :
      WaitStep s (s.completeCallback i lc r)
  | turn {s : AsyncDict} {c : Nat} {rest : List Nat} {lc : LookupContext}
      (hidle : s.pushing = none) (hc : s.completions = c :: rest)
      (hi : s.lookups[c]? = some lc) (hphase : lc.phase = .called) :
      WaitStep s (s.removeCompletion c)

/-- **The steps**; keys are under `priv/` or `shared/`, and anybody may write at any time. A context
    whose callback was run is deleted, and what is taken from there is anything. -/
inductive Step : AsyncDict → AsyncDict → Prop
  | lookup {s : AsyncDict} (key : String) (callback : Bool) (submit : Outcome)
      (hidle : s.pushing = none) (hkey : (DictPath.ofKey key).isSome = true) :
      Step s (s.lookupAsync key callback submit)
  | push {s : AsyncDict} {n : Nat} {lc : LookupContext} (hn : s.pushing = some n)
      (hi : s.lookups[n]? = some lc) (hphase : lc.phase ≠ .called) : Step s (s.pushBackCompletion n)
  | pushFreed {s : AsyncDict} {n : Nat} {lc : LookupContext} (c : Nat) (hn : s.pushing = some n)
      (hi : s.lookups[n]? = some lc) (hphase : lc.phase = .called) : Step s (s.pushBackCompletion c)
  | write {s : AsyncDict} (objs : Objects Omap) : Step s { s with objs }
  | wait {s s' : AsyncDict} (h : WaitStep D s s') : Step s s'

/-- The callback of a lookup has been run between its submission and `push_back_completion`. -/
def Overtaken (s : AsyncDict) : Prop :=
  ∃ n lc, s.pushing = some n ∧ s.lookups[n]? = some lc ∧ lc.phase = .called

/-- A step that does not get there. -/
def TimelyStep (s s' : AsyncDict) : Prop := Step D s s' ∧ ¬ s'.Overtaken

/-- What runs get to in which no callback comes between the submission and `push_back_completion` of
    its lookup. -/
def Reaches : AsyncDict → AsyncDict → Prop := Relation.ReflTransGen (TimelyStep D)

end Steps

/-- **What comes next in the other runs**: anything may get into the list. -/
theorem overtaken_list (D : DictObjects) {s : AsyncDict} (h : s.Overtaken) (c : Nat) :
    ∃ s', Step D s s' ∧ s'.completions = s.completions ++ [c] := by
  obtain ⟨n, lc, hn, hi, hphase⟩ := h
  exact ⟨s.pushBackCompletion c, .pushFreed c hn hi hphase, rfl⟩

/-! ## 2. What every step keeps -/

/-- The callback of a lookup that has been called was run once, and no other was; a completion is
    still to be put into the list, or there, or released, once, and not released before its
    callback. -/
structure Sound (s : AsyncDict) : Prop where
  once : (s.callbacks.map Prod.fst).Nodup
  given : ∀ i, i ∈ s.callbacks.map Prod.fst ↔
    ∃ lc, s.lookups[i]? = some lc ∧ lc.callback = true ∧ lc.phase = .called
  listed : (s.released ++ s.completions ++ s.pushing.toList).Perm (List.range s.lookups.length)
  late : ∀ i ∈ s.released, ∃ lc, s.lookups[i]? = some lc ∧ lc.phase = .called
  timely : ¬ s.Overtaken
  asked : ∀ lc ∈ s.lookups, (DictPath.ofKey lc.key).isSome = true ∧
    (lc.phase ≠ .called → lc.submit = .done)

section Kept

variable {D : DictObjects} {s s' : AsyncDict} {i : Nat} {lc : LookupContext}

theorem sound_init (objs : Objects Omap) : (init objs).Sound where
  once := List.nodup_nil
  given := fun _ => iff_of_false List.not_mem_nil fun ⟨_, h, _⟩ => nomatch h
  listed := List.Perm.refl []
  late := fun _ h => absurd h List.not_mem_nil
  timely := fun ⟨_, _, h, _⟩ => nomatch h
  asked := fun _ h => absurd h List.not_mem_nil

/-- The lookups behind a change of phase. -/
theorem setPhase_getElem? (outcome : Outcome) (phase : LookupPhase) (j : Nat)
    (hi : s.lookups[i]? = some lc) :
    (s.setPhase i outcome phase).lookups[j]? =
      if i = j then some { lc with outcome, phase } else s.lookups[j]? := by
  show (s.lookups.modify i _)[j]? = _
  rw [List.getElem?_modify]
  by_cases h : i = j
  · subst h
    rw [if_pos rfl, hi]
    simp
  · rw [if_neg h]
    simp [h]

theorem setPhase_length (outcome : Outcome) (phase : LookupPhase) :
    (s.setPhase i outcome phase).lookups.length = s.lookups.length := List.length_modify _ _ _

/-- What is asked stays so if only a lookup that is not called changes its phase. -/
theorem setPhase_asked (h : s.Sound) {outcome : Outcome} {phase : LookupPhase}
    (hi : s.lookups[i]? = some lc) (hnot : lc.phase ≠ .called) :
    ∀ lc' ∈ (s.setPhase i outcome phase).lookups, (DictPath.ofKey lc'.key).isSome = true ∧
      (lc'.phase ≠ .called → lc'.submit = .done) := by
  intro lc' hmem
  obtain ⟨j, hj⟩ := List.mem_iff_getElem?.mp hmem
  rw [setPhase_getElem? outcome phase j hi] at hj
  split at hj
  case isTrue =>
    cases hj
    have hasked := h.asked lc (List.mem_iff_getElem?.mpr ⟨i, hi⟩)
    exact ⟨hasked.1, fun _ => hasked.2 hnot⟩
  case isFalse => exact h.asked lc' (List.mem_iff_getElem?.mpr ⟨j, hj⟩)

/-- What was released stays called if only a lookup that is not called changes its phase. -/
theorem setPhase_late (h : s.Sound) {outcome : Outcome} {phase : LookupPhase}
    (hi : s.lookups[i]? = some lc) (hnot : lc.phase ≠ .called) :
    ∀ j ∈ s.released, ∃ lc', (s.setPhase i outcome phase).lookups[j]? = some lc' ∧
      lc'.phase = .called := by
  intro j hj
  obtain ⟨lc', hlc', hcalled⟩ := h.late j hj
  refine ⟨lc', ?_, hcalled⟩
  rw [setPhase_getElem? outcome phase j hi, if_neg]
  · exact hlc'
  · rintro rfl
    obtain rfl := Option.some.inj (hi.symm.trans hlc')
    exact hnot hcalled

/-- The lookups behind a new one. -/
theorem lookups_concat_getElem? {ls : List LookupContext} {j : Nat} {lc' : LookupContext} :
    (ls ++ [lc])[j]? = some lc' ↔ ls[j]? = some lc' ∨ j = ls.length ∧ lc' = lc := by
  rw [List.getElem?_append]
  split
  case isTrue hlt =>
    refine ⟨.inl, fun h => h.resolve_right fun hlast => ?_⟩
    omega
  case isFalse hle =>
    have hnone : ls[j]? = none := List.getElem?_eq_none (Nat.not_lt.mp hle)
    rw [hnone]
    constructor
    · intro h
      obtain ⟨hj, heq⟩ := List.getElem?_eq_some_iff.mp h
      have hj' : j - ls.length < 1 := hj
      refine .inr ⟨by omega, ?_⟩
      rw [← heq, List.getElem_singleton]
    · rintro (h | ⟨rfl, rfl⟩)
      · cases h
      · rw [Nat.sub_self]
        rfl

theorem concat_asked (h : s.Sound) (hlc : (DictPath.ofKey lc.key).isSome = true ∧
    (lc.phase ≠ .called → lc.submit = .done)) :
    ∀ lc' ∈ s.lookups ++ [lc], (DictPath.ofKey lc'.key).isSome = true ∧
      (lc'.phase ≠ .called → lc'.submit = .done) := by
  intro lc' hmem
  rcases List.mem_append.mp hmem with hmem | hmem
  · exact h.asked lc' hmem
  · rw [List.mem_singleton.mp hmem]
    exact hlc

theorem concat_late (h : s.Sound) (lc : LookupContext) :
    ∀ i ∈ s.released, ∃ lc', (s.lookups ++ [lc])[i]? = some lc' ∧ lc'.phase = .called := by
  intro i hi
  obtain ⟨lc', hlc', hcalled⟩ := h.late i hi
  exact ⟨lc', lookups_concat_getElem?.mpr (.inl hlc'), hcalled⟩

theorem range_concat (ls : List LookupContext) (lc : LookupContext) :
    List.range (ls ++ [lc]).length = List.range ls.length ++ [ls.length] := by
  rw [List.length_append, List.length_singleton, List.range_succ]

/-- The numbers of the callbacks behind one that is run if there is one. -/
theorem callbacks_append (callbacks : List (Nat × LookupResult)) (callback : Bool) (i : Nat)
    (r : LookupResult) : (callbacks ++ if callback then [(i, r)] else []).map Prod.fst =
      callbacks.map Prod.fst ++ if callback then [i] else [] := by
  rw [List.map_append]
  cases callback with
  | true => rfl
  | false => rfl

theorem nodup_append_given {l : List Nat} (hl : l.Nodup) (hi : i ∉ l) (callback : Bool) :
    (l ++ if callback then [i] else []).Nodup := by
  cases callback with
  | true => exact List.nodup_append_comm.mpr (List.nodup_cons.mpr ⟨hi, hl⟩)
  | false =>
      rw [if_neg Bool.false_ne_true, List.append_nil]
      exact hl

/-- A lookup that is submitted. -/
theorem sound_submit (h : s.Sound) (key : String) (callback : Bool) (hidle : s.pushing = none)
    (hkey : (DictPath.ofKey key).isSome = true)
    (htimely : ¬ (s.lookupAsync key callback .done).Overtaken) :
    (s.lookupAsync key callback .done).Sound := by
  refine ⟨h.once, fun i => ?_, ?_, concat_late h _, htimely, concat_asked h ⟨hkey, fun _ => rfl⟩⟩
  · rw [show (s.lookupAsync key callback .done).callbacks = s.callbacks from rfl, h.given]
    refine exists_congr fun lc => ?_
    show _ ↔ (s.lookups ++ [_])[i]? = some lc ∧ _
    rw [lookups_concat_getElem?]
    constructor
    · intro hlc
      exact ⟨.inl hlc.1, hlc.2⟩
    · rintro ⟨hi | ⟨_, rfl⟩, hcallback, hcalled⟩
      · exact ⟨hi, hcallback, hcalled⟩
      · cases hcalled
  · have hlisted := h.listed
    rw [hidle, Option.toList_none, List.append_nil] at hlisted
    show (s.released ++ s.completions ++ [s.lookups.length]).Perm
      (List.range (s.lookups ++ [_]).length)
    rw [range_concat]
    exact hlisted.append_right _

/-- A lookup that fails at once. -/
theorem sound_fails (h : s.Sound) (key : String) (callback : Bool) (e : {e : Int // e < 0})
    (hidle : s.pushing = none) (hkey : (DictPath.ofKey key).isSome = true)
    (htimely : ¬ (s.lookupAsync key callback (.failed e)).Overtaken) :
    (s.lookupAsync key callback (.failed e)).Sound := by
  have hnew : s.lookups.length ∉ s.callbacks.map Prod.fst := by
    rw [h.given]
    rintro ⟨lc, hlc, _⟩
    rw [List.getElem?_eq_none (le_refl _)] at hlc
    cases hlc
  have hcallbacks : (s.lookupAsync key callback (.failed e)).callbacks.map Prod.fst =
      s.callbacks.map Prod.fst ++ if callback then [s.lookups.length] else [] :=
    callbacks_append ..
  refine ⟨?_, fun i => ?_, ?_, fun i hi => ?_, htimely,
    concat_asked h ⟨hkey, fun hne => absurd rfl hne⟩⟩
  · rw [hcallbacks]
    exact nodup_append_given h.once hnew callback
  · rw [hcallbacks, List.mem_append, h.given]
    show _ ↔ ∃ lc, (s.lookups ++ [_])[i]? = some lc ∧ _
    constructor
    · rintro (⟨lc, hi, hrest⟩ | hi)
      · exact ⟨lc, lookups_concat_getElem?.mpr (.inl hi), hrest⟩
      · cases callback with
        | true =>
            exact ⟨_, lookups_concat_getElem?.mpr (.inr ⟨List.mem_singleton.mp hi, rfl⟩), rfl, rfl⟩
        | false => cases hi
    · rintro ⟨lc, hi, hcallback, hcalled⟩
      rcases lookups_concat_getElem?.mp hi with hi | ⟨rfl, rfl⟩
      · exact .inl ⟨lc, hi, hcallback, hcalled⟩
      · obtain rfl : callback = true := hcallback
        exact .inr (List.mem_singleton_self _)
  · have hlisted := h.listed
    rw [hidle, Option.toList_none, List.append_nil] at hlisted
    show ((s.released ++ [s.lookups.length]) ++ s.completions ++ s.pushing.toList).Perm
      (List.range (s.lookups ++ [_]).length)
    rw [range_concat, hidle, Option.toList_none, List.append_nil, List.append_assoc]
    refine List.Perm.trans ?_ (hlisted.append_right _)
    rw [List.append_assoc]
    exact (List.perm_append_comm).append_left _
  · rcases List.mem_append.mp hi with hi | hi
    · exact concat_late h _ i hi
    · obtain rfl := List.mem_singleton.mp hi
      exact ⟨_, lookups_concat_getElem?.mpr (.inr ⟨rfl, rfl⟩), rfl⟩

/-- The completion gets into the list. -/
theorem sound_push (h : s.Sound) {n : Nat} (hn : s.pushing = some n) :
    (s.pushBackCompletion n).Sound := by
  refine ⟨h.once, h.given, ?_, h.late, (fun ⟨_, _, hnone, _⟩ => nomatch hnone), h.asked⟩
  have hlisted := h.listed
  rw [hn] at hlisted
  show (s.released ++ (s.completions ++ [n]) ++ []).Perm (List.range s.lookups.length)
  rw [List.append_nil, ← List.append_assoc]
  exact hlisted

/-- An answer of RADOS. -/
theorem sound_complete (h : s.Sound) {o : Outcome} {r : Int × List (String × String)}
    (hi : s.lookups[i]? = some lc) (hphase : lc.phase = .submitted)
    (htimely : ¬ (s.setPhase i o (.complete r)).Overtaken) :
    (s.setPhase i o (.complete r)).Sound := by
  have hnot : lc.phase ≠ .called := fun e => nomatch hphase.symm.trans e
  refine ⟨h.once, fun j => ?_, ?_, setPhase_late h hi hnot, htimely, setPhase_asked h hi hnot⟩
  · rw [show (s.setPhase i o _).callbacks = s.callbacks from rfl, h.given]
    refine exists_congr fun lc' => ?_
    rw [setPhase_getElem? o _ j hi]
    by_cases hj : i = j
    · subst hj
      rw [if_pos rfl, hi]
      constructor
      · rintro ⟨heq, _, hcalled⟩
        obtain rfl := Option.some.inj heq
        exact absurd hcalled hnot
      · rintro ⟨heq, _, hcalled⟩
        obtain rfl := Option.some.inj heq
        cases hcalled
    · rw [if_neg hj]
  · rw [setPhase_length]
    exact h.listed

/-- The callback of a lookup. -/
theorem sound_callback (h : s.Sound) {r : Int × List (String × String)}
    (hi : s.lookups[i]? = some lc) (hphase : lc.phase = .complete r)
    (htimely : ¬ (s.completeCallback i lc r).Overtaken) : (s.completeCallback i lc r).Sound := by
  have hnot : lc.phase ≠ .called := fun e => nomatch hphase.symm.trans e
  have hnew : i ∉ s.callbacks.map Prod.fst := by
    rw [h.given]
    rintro ⟨lc', hlc', _, hcalled⟩
    obtain rfl := Option.some.inj (hi.symm.trans hlc')
    exact hnot hcalled
  have hcallbacks : (s.completeCallback i lc r).callbacks.map Prod.fst =
      s.callbacks.map Prod.fst ++ if lc.callback then [i] else [] := callbacks_append ..
  refine ⟨?_, fun j => ?_, ?_, setPhase_late h hi hnot, htimely, setPhase_asked h hi hnot⟩
  · rw [hcallbacks]
    exact nodup_append_given h.once hnew lc.callback
  · rw [hcallbacks, List.mem_append, h.given]
    show _ ↔ ∃ lc', (s.setPhase i lc.outcome .called).lookups[j]? = some lc' ∧ _
    rw [setPhase_getElem? lc.outcome _ j hi]
    by_cases hj : i = j
    · subst hj
      rw [if_pos rfl, hi]
      constructor
      · rintro (⟨lc', heq, _, hcalled⟩ | hmem)
        · obtain rfl := Option.some.inj heq
          exact absurd hcalled hnot
        · refine ⟨_, rfl, ?_, rfl⟩
          cases hc : lc.callback with
          | true => rfl
          | false =>
              rw [hc] at hmem
              cases hmem
      · rintro ⟨lc', heq, hcallback, _⟩
        obtain rfl := Option.some.inj heq
        have hc : lc.callback = true := hcallback
        rw [hc]
        exact .inr (List.mem_singleton_self _)
    · rw [if_neg hj]
      refine or_iff_left fun hmem => ?_
      split at hmem
      case isTrue => exact hj (List.mem_singleton.mp hmem).symm
      case isFalse => cases hmem
  · show (s.released ++ s.completions ++ s.pushing.toList).Perm
      (List.range (s.setPhase i lc.outcome .called).lookups.length)
    rw [setPhase_length]
    exact h.listed

/-- A turn of the loop takes the first completion and no other. -/
theorem removeCompletion_completions (h : s.Sound) {c : Nat} {rest : List Nat}
    (hc : s.completions = c :: rest) : (s.removeCompletion c).completions = rest := by
  have hnodup : (s.released ++ s.completions ++ s.pushing.toList).Nodup :=
    h.listed.nodup_iff.mpr List.nodup_range
  have hcompletions := (List.nodup_append.mp (List.nodup_append.mp hnodup).1).2.1
  rw [hc, List.nodup_cons] at hcompletions
  show s.completions.filter (· ≠ c) = rest
  rw [hc, List.filter_cons_of_neg (by simp)]
  refine List.filter_eq_self.mpr fun x hx => ?_
  have hne : x ≠ c := by
    rintro rfl
    exact hcompletions.1 hx
  simpa using hne

theorem sound_turn (h : s.Sound) {c : Nat} {rest : List Nat} (hc : s.completions = c :: rest)
    (hi : s.lookups[c]? = some lc) (hphase : lc.phase = .called) :
    (s.removeCompletion c).Sound := by
  refine ⟨h.once, h.given, ?_, fun i hmem => ?_, h.timely, h.asked⟩
  · have hlisted := h.listed
    rw [hc] at hlisted
    rw [removeCompletion_completions h hc]
    show ((s.released ++ [c]) ++ rest ++ s.pushing.toList).Perm (List.range s.lookups.length)
    rw [List.append_assoc s.released, List.singleton_append]
    exact hlisted
  · rcases List.mem_append.mp hmem with hmem | hmem
    · exact h.late i hmem
    · obtain rfl := List.mem_singleton.mp hmem
      exact ⟨lc, hi, hphase⟩

theorem sound_wait (h : s.Sound) (hs : WaitStep D s s') (htimely : ¬ s'.Overtaken) : s'.Sound := by
  cases hs with
  | complete o hi hphase hp => exact sound_complete h hi hphase htimely
  | callback hi hphase => exact sound_callback h hi hphase htimely
  | turn hidle hc hi hphase => exact sound_turn h hc hi hphase

/-- **Every such step keeps it.** -/
theorem sound_step (h : s.Sound) (hs : TimelyStep D s s') : s'.Sound := by
  obtain ⟨hs, htimely⟩ := hs
  cases hs with
  | lookup key callback submit hidle hkey =>
      cases submit with
      | done => exact sound_submit h key callback hidle hkey htimely
      | failed e => exact sound_fails h key callback e hidle hkey htimely
  | push hn hi hphase => exact sound_push h hn
  | pushFreed c hn hi hphase => exact absurd ⟨_, _, hn, hi, hphase⟩ h.timely
  | write objs => exact ⟨h.once, h.given, h.listed, h.late, htimely, h.asked⟩
  | wait hwait => exact sound_wait h hwait htimely

theorem sound_reaches (h : s.Sound) (hs : Reaches D s s') : s'.Sound := by
  induction hs with
  | refl => exact h
  | tail _ hstep ih => exact sound_step ih hstep

end Kept

/-! ## 3. Answers -/

section Answers

variable {D : DictObjects} {objs : Objects Omap} {s s' b c : AsyncDict} {i : Nat}
  {lc : LookupContext}

/-- **Every lookup is answered once**, if no callback comes between the submission and
    `push_back_completion`: the callback of a lookup is run once when it is called and not before,
    its completion is released once or still in the list or on its way there, and never released
    before; when the list is empty, as it is where `rados_dict_wait` returns, all were called. -/
theorem lookups_answered_once (D : DictObjects) (objs : Objects Omap)
    (hs : Reaches D (init objs) s) :
    (∀ i lc, s.lookups[i]? = some lc →
      (s.callbacks.map Prod.fst).count i =
          (if lc.callback = true ∧ lc.phase = .called then 1 else 0) ∧
        s.released.count i + s.completions.count i + s.pushing.toList.count i = 1 ∧
        (i ∈ s.released → lc.phase = .called)) ∧
      (s.completions = [] → s.pushing = none → ∀ lc ∈ s.lookups, lc.phase = .called) := by
  have h := sound_reaches (sound_init objs) hs
  have hlate : ∀ i lc, s.lookups[i]? = some lc → i ∈ s.released → lc.phase = .called := by
    intro i lc hi hmem
    obtain ⟨lc', hlc', hcalled⟩ := h.late i hmem
    obtain rfl := Option.some.inj (hi.symm.trans hlc')
    exact hcalled
  constructor
  · intro i lc hi
    have hlt : i < s.lookups.length := (List.getElem?_eq_some_iff.mp hi).1
    refine ⟨?_, ?_, hlate i lc hi⟩
    · have hiff : i ∈ s.callbacks.map Prod.fst ↔ lc.callback = true ∧ lc.phase = .called := by
        rw [h.given]
        constructor
        · rintro ⟨lc', hlc', hanswered⟩
          obtain rfl := Option.some.inj (hi.symm.trans hlc')
          exact hanswered
        · exact fun hanswered => ⟨lc, hi, hanswered⟩
      by_cases hanswered : lc.callback = true ∧ lc.phase = .called
      · rw [if_pos hanswered]
        exact List.count_eq_one_of_mem h.once (hiff.mpr hanswered)
      · rw [if_neg hanswered]
        exact List.count_eq_zero_of_not_mem fun hmem => hanswered (hiff.mp hmem)
    · rw [← List.count_append, ← List.count_append, h.listed.count_eq]
      exact List.count_eq_one_of_mem List.nodup_range (List.mem_range.mpr hlt)
  · intro hempty hidle lc hlc
    obtain ⟨i, hi⟩ := List.mem_iff_getElem?.mp hlc
    have hlt : i < s.lookups.length := (List.getElem?_eq_some_iff.mp hi).1
    refine hlate i lc hi ?_
    have hmem := h.listed.mem_iff.mpr (List.mem_range.mpr hlt)
    rwa [hempty, hidle, Option.toList_none, List.append_nil, List.append_nil] at hmem

/-- At some moment of a run the objects are so. -/
def Between (D : DictObjects) (s s' : AsyncDict) (P : Objects Omap → Prop) : Prop :=
  ∃ t, Reaches D s t ∧ Reaches D t s' ∧ P t.objs

theorem Between.step {P : Objects Omap → Prop} (h : Between D s b P) (hs : TimelyStep D b c) :
    Between D s c P := by
  obtain ⟨t, hst, htb, ht⟩ := h
  exact ⟨t, hst, htb.tail hs, ht⟩

/-- The lookup is not there yet, or RADOS has not answered. -/
def Fresh (s : AsyncDict) (i : Nat) : Prop :=
  ∀ lc, s.lookups[i]? = some lc → lc.phase = .submitted

/-- What RADOS has answered since `s` was so at some moment since, and what callbacks were given is
    what a lookup in one step, with the same outcomes, gives at such a moment. -/
structure Explained (D : DictObjects) (s s' : AsyncDict) : Prop where
  complete : ∀ i lc r, Fresh s i → s'.lookups[i]? = some lc → lc.phase = .complete r →
    Between D s s' fun w => ∃ p, DictPath.ofKey lc.key = some p ∧
      r = IoCtx.omapGetValsByKeys w (D.io p) D.oid [lc.key] lc.outcome
  called : ∀ i r, Fresh s i → (i, r) ∈ s'.callbacks → ∃ lc, s'.lookups[i]? = some lc ∧
    lc.phase = .called ∧
    Between D s s' fun w => radosDictLookupAsync D w lc.submit lc.outcome lc.key = some r

theorem explained_refl (h : s.Sound) : Explained D s s where
  complete := fun i lc r hfresh hi hphase => nomatch (hfresh lc hi).symm.trans hphase
  called := by
    intro i r hfresh hmem
    obtain ⟨lc, hi, _, hcalled⟩ := (h.given i).mp (List.mem_map_of_mem hmem)
    exact nomatch (hfresh lc hi).symm.trans hcalled

/-- A lookup that was called stays as it is. -/
theorem step_called (hs : Step D b c) (hi : b.lookups[i]? = some lc)
    (hcalled : lc.phase = .called) : c.lookups[i]? = some lc := by
  have hphase : ∀ {j : Nat} {lj : LookupContext} (outcome : Outcome) (phase : LookupPhase),
      b.lookups[j]? = some lj → lj.phase ≠ .called →
        (b.setPhase j outcome phase).lookups[i]? = some lc := by
    intro j lj outcome phase hj hnot
    rw [setPhase_getElem? outcome phase i hj, if_neg]
    · exact hi
    · rintro rfl
      obtain rfl := Option.some.inj (hi.symm.trans hj)
      exact hnot hcalled
  cases hs with
  | lookup key callback submit hidle hkey =>
      cases submit with
      | done => exact lookups_concat_getElem?.mpr (.inl hi)
      | failed e => exact lookups_concat_getElem?.mpr (.inl hi)
  | push hn hj hne => exact hi
  | pushFreed c hn hj hne => exact hi
  | write objs => exact hi
  | wait hwait =>
      cases hwait with
      | complete o hj hsubmitted _ =>
          exact hphase _ _ hj fun e => nomatch hsubmitted.symm.trans e
      | callback hj hcomplete => exact hphase _ _ hj fun e => nomatch hcomplete.symm.trans e
      | turn _ _ _ _ => exact hi

/-- What a step adds has to be explained. -/
theorem Explained.extend (h : Explained D s b) (hs : TimelyStep D b c)
    (hcomplete : ∀ (i : Nat) (lc : LookupContext) (r : Int × List (String × String)),
      c.lookups[i]? = some lc → lc.phase = .complete r → b.lookups[i]? = some lc ∨
        ∃ p, DictPath.ofKey lc.key = some p ∧
          r = IoCtx.omapGetValsByKeys b.objs (D.io p) D.oid [lc.key] lc.outcome)
    (hcalled : ∀ (i : Nat) (r : LookupResult), Fresh s i → (i, r) ∈ c.callbacks →
      (i, r) ∈ b.callbacks ∨ ∃ lc, c.lookups[i]? = some lc ∧ lc.phase = .called ∧
        Between D s c fun w => radosDictLookupAsync D w lc.submit lc.outcome lc.key = some r)
    (hsb : Reaches D s b) : Explained D s c where
  complete := by
    intro i lc r hfresh hi hphase
    rcases hcomplete i lc r hi hphase with hold | hnew
    · exact (h.complete i lc r hfresh hold hphase).step hs
    · exact ⟨b, hsb, .single hs, hnew⟩
  called := by
    intro i r hfresh hmem
    rcases hcalled i r hfresh hmem with hold | hnew
    · obtain ⟨lc, hi, hphase, hbetween⟩ := h.called i r hfresh hold
      exact ⟨lc, step_called hs.1 hi hphase, hphase, hbetween.step hs⟩
    · exact hnew

/-- A lookup adds no answer; if it fails at once, so does one in a single step. -/
theorem explained_lookup (h : Explained D s b) (hsb : Reaches D s b) {key : String}
    {callback : Bool} {submit : Outcome} (hkey : (DictPath.ofKey key).isSome = true)
    (hs : TimelyStep D b (b.lookupAsync key callback submit)) :
    Explained D s (b.lookupAsync key callback submit) := by
  have hcomplete : ∀ phase : LookupPhase, (∀ r, phase ≠ .complete r) → ∀ (i : Nat)
      (lc : LookupContext) (r : Int × List (String × String)),
      (b.lookups ++ [⟨key, callback, submit, .done, phase⟩])[i]? = some lc →
        lc.phase = .complete r → b.lookups[i]? = some lc := by
    intro phase hne i lc r hi hphase
    rcases lookups_concat_getElem?.mp hi with hi | ⟨_, rfl⟩
    · exact hi
    · exact absurd hphase (hne r)
  cases submit with
  | done =>
      have hold := hcomplete .submitted fun _ h => nomatch h
      exact h.extend hs (fun i lc r hi hphase => .inl (hold i lc r hi hphase))
        (fun i r _ hmem => .inl hmem) hsb
  | failed e =>
      have hold := hcomplete .called fun _ h => nomatch h
      refine h.extend hs (fun i lc r hi hphase => .inl (hold i lc r hi hphase))
        (fun i r _ hmem => ?_) hsb
      rcases List.mem_append.mp hmem with hmem | hmem
      · exact .inl hmem
      · cases callback with
        | false => cases hmem
        | true =>
            cases List.mem_singleton.mp hmem
            obtain ⟨p, hp⟩ := Option.isSome_iff_exists.mp hkey
            refine .inr ⟨_, lookups_concat_getElem?.mpr (.inr ⟨rfl, rfl⟩), rfl, _, hsb.tail hs,
              .refl, ?_⟩
            unfold radosDictLookupAsync
            rw [hp]
            rfl

/-- The answer of RADOS is that of the moment. -/
theorem explained_complete (h : Explained D s b) (hsb : Reaches D s b) {p : DictPath}
    {o : Outcome} (hi : b.lookups[i]? = some lc) (hp : DictPath.ofKey lc.key = some p)
    (hs : TimelyStep D b (b.setPhase i o
      (.complete (IoCtx.omapGetValsByKeys b.objs (D.io p) D.oid [lc.key] o)))) :
    Explained D s (b.setPhase i o
      (.complete (IoCtx.omapGetValsByKeys b.objs (D.io p) D.oid [lc.key] o))) := by
  refine h.extend hs (fun j lc' r hj hphase' => ?_) (fun j r _ hmem => .inl hmem) hsb
  rw [setPhase_getElem? o _ j hi] at hj
  split at hj
  case isTrue =>
    cases hj
    cases hphase'
    exact .inr ⟨p, hp, rfl⟩
  case isFalse => exact .inl hj

/-- The callback gets the answer. -/
theorem explained_callback (h : Explained D s b) (hb : b.Sound) (hsb : Reaches D s b)
    {r : Int × List (String × String)} (hi : b.lookups[i]? = some lc)
    (hphase : lc.phase = .complete r) (hs : TimelyStep D b (b.completeCallback i lc r)) :
    Explained D s (b.completeCallback i lc r) := by
  have hsubmit : lc.submit = .done :=
    (hb.asked lc (List.mem_iff_getElem?.mpr ⟨i, hi⟩)).2 fun e => nomatch hphase.symm.trans e
  refine h.extend hs (fun j lc' r' hj hphase' => .inl ?_) (fun j r' hfresh hmem => ?_) hsb
  · have hj' : (b.setPhase i lc.outcome .called).lookups[j]? = some lc' := hj
    rw [setPhase_getElem? lc.outcome _ j hi] at hj'
    split at hj'
    case isTrue =>
      cases hj'
      cases hphase'
    case isFalse => exact hj'
  · rcases List.mem_append.mp hmem with hmem | hmem
    · exact .inl hmem
    · split at hmem
      case isFalse => cases hmem
      case isTrue =>
        cases List.mem_singleton.mp hmem
        refine .inr ⟨{ lc with phase := .called }, ?_, rfl, ?_⟩
        · exact (setPhase_getElem? lc.outcome .called i hi).trans (if_pos rfl)
        · obtain ⟨t, hst, htb, p, hp, hr⟩ := h.complete i lc r hfresh hi hphase
          refine ⟨t, hst, htb.tail hs, ?_⟩
          unfold radosDictLookupAsync
          rw [hp, hsubmit, hr]
          rfl

theorem explained_step (h : Explained D s b) (hb : b.Sound) (hsb : Reaches D s b)
    (hs : TimelyStep D b c) : Explained D s c := by
  cases hs.1 with
  | lookup key callback submit hidle hkey => exact explained_lookup h hsb hkey hs
  | push hn hj hne =>
      exact h.extend hs (fun _ _ _ hi _ => .inl hi) (fun _ _ _ hmem => .inl hmem) hsb
  | pushFreed x hn hj hne => exact absurd ⟨_, _, hn, hj, hne⟩ hb.timely
  | write objs =>
      exact h.extend hs (fun _ _ _ hi _ => .inl hi) (fun _ _ _ hmem => .inl hmem) hsb
  | wait hwait =>
      cases hwait with
      | complete o hi hphase hp => exact explained_complete h hsb hi hp hs
      | callback hi hphase => exact explained_callback h hb hsb hi hphase hs
      | turn hidle hc hi hphase =>
          exact h.extend hs (fun _ _ _ hi _ => .inl hi) (fun _ _ _ hmem => .inl hmem) hsb

/-- **A lookup takes effect at one moment**: what its callback is given is what a lookup in one
    step, whose submission and operation have the same outcomes, is given at some moment between
    any state in which RADOS has not answered it yet, such as the one it was called in, and the
    callback. -/
theorem lookups_linearizable (D : DictObjects) (objs : Objects Omap)
    (hs : Reaches D (init objs) s) (hs' : Reaches D s s') (hfresh : Fresh s i) {r : LookupResult}
    (hr : (i, r) ∈ s'.callbacks) :
    ∃ lc, s'.lookups[i]? = some lc ∧ Between D s s' fun w =>
      radosDictLookupAsync D w lc.submit lc.outcome lc.key = some r := by
  have hsound := sound_reaches (sound_init objs) hs
  have hexplained : Explained D s s' := by
    clear hr
    induction hs' with
    | refl => exact explained_refl hsound
    | tail hsb hstep ih => exact explained_step ih (sound_reaches hsound hsb) hsb hstep
  obtain ⟨lc, hi, _, hbetween⟩ := hexplained.called i r hfresh hr
  exact ⟨lc, hi, hbetween⟩

end Answers

/-! ## 4. Waiting -/

section Waiting

variable {D : DictObjects} {s s' : AsyncDict}

/-- The steps `rados_dict_wait` waits for. -/
def left (s : AsyncDict) : Nat := (s.lookups.map fun lc => lc.phase.left).sum + s.completions.length

theorem left_setPhase {i : Nat} {lc : LookupContext} {outcome : Outcome} {phase : LookupPhase}
    (hi : s.lookups[i]? = some lc) (hlt : phase.left < lc.phase.left) :
    (s.setPhase i outcome phase).left < s.left := by
  obtain ⟨hlength, rfl⟩ := List.getElem?_eq_some_iff.mp hi
  have hsplit := List.take_append_drop i s.lookups
  rw [List.drop_eq_getElem_cons hlength] at hsplit
  have hsum : (s.lookups.map fun lc => lc.phase.left).sum =
      ((s.lookups.take i).map fun lc => lc.phase.left).sum + (s.lookups[i].phase.left +
        ((s.lookups.drop (i + 1)).map fun lc => lc.phase.left).sum) := by
    conv_lhs => rw [← hsplit]
    rw [List.map_append, List.sum_append, List.map_cons, List.sum_cons]
  show (((s.lookups.modify i _).map fun lc => lc.phase.left).sum + s.completions.length) <
    (s.lookups.map fun lc => lc.phase.left).sum + s.completions.length
  rw [hsum, List.modify_eq_take_cons_drop hlength, List.map_append, List.sum_append, List.map_cons,
    List.sum_cons]
  dsimp only
  omega

/-- Every such step brings the end nearer. -/
theorem left_wait (hs : WaitStep D s s') : s'.left < s.left := by
  cases hs with
  | complete o hi hphase hp => exact left_setPhase hi (hphase ▸ Nat.lt_succ_self 1)
  | @callback i lc r hi hphase =>
      exact @left_setPhase s i lc lc.outcome .called hi (hphase ▸ Nat.one_pos)
  | @turn c rest lc hidle hc hi hphase =>
      have hlt : (s.completions.filter (· ≠ c)).length < s.completions.length := by
        rw [hc, List.filter_cons_of_neg (by simp), List.length_cons]
        exact Nat.lt_succ_of_le (List.length_filter_le _ _)
      exact Nat.add_lt_add_left hlt _

/-- **Waiting ends**: in every state of such a run in which the dictionary may wait there is a step
    to wait for as long as the list is not empty, and there are only finitely many of them if nobody
    looks up anything else. -/
theorem rados_dict_wait_returns (D : DictObjects) (objs : Objects Omap)
    (hs : Reaches D (init objs) s) (hidle : s.pushing = none) :
    (s.completions = [] ∨ ∃ s', WaitStep D s s') ∧
      WellFounded fun s' s : AsyncDict => WaitStep D s s' := by
  have h := sound_reaches (sound_init objs) hs
  refine ⟨?_, Subrelation.wf (fun hwait => left_wait hwait) (measure left).wf⟩
  cases hc : s.completions with
  | nil => exact .inl rfl
  | cons c rest =>
      have hmem : c ∈ s.released ++ s.completions ++ s.pushing.toList :=
        List.mem_append_left _ (List.mem_append_right _ (hc ▸ List.mem_cons_self))
      have hlt := List.mem_range.mp (h.listed.mem_iff.mp hmem)
      have hi := List.getElem?_eq_getElem hlt
      refine .inr ?_
      cases hphase : s.lookups[c].phase with
      | submitted =>
          obtain ⟨p, hp⟩ := Option.isSome_iff_exists.mp
            (h.asked _ (List.mem_iff_getElem?.mpr ⟨c, hi⟩)).1
          exact ⟨_, .complete .done hi hphase hp⟩
      | complete r => exact ⟨_, .callback hi hphase⟩
      | called => exact ⟨_, .turn hidle hc hi hphase⟩

end Waiting

end AsyncDict

open AsyncDict

/-- A lookup of the quota that RADOS has not answered. -/
def quotaLookup : AsyncDict :=
  ((init (quotaObjects true)).lookupAsync "priv/storage" true .done).pushBackCompletion 0

/-- What RADOS answers. -/
def quotaAnswer : Int × List (String × String) := (0, [("priv/storage", "10")])

def quotaContext : LookupContext := ⟨"priv/storage", true, .done, .done, .complete quotaAnswer⟩

/-- RADOS answers, the callback is run, and a turn of the loop releases the completion. -/
def quotaComplete : AsyncDict := quotaLookup.setPhase 0 .done (.complete quotaAnswer)

def quotaCalled : AsyncDict := quotaComplete.completeCallback 0 quotaContext quotaAnswer

def quotaReleased : AsyncDict := quotaCalled.removeCompletion 0

theorem not_overtaken_of_idle {s : AsyncDict} (h : s.pushing = none) : ¬ s.Overtaken := by
  rintro ⟨_, _, hn, _⟩
  exact nomatch h.symm.trans hn

theorem reaches_quotaLookup : Reaches quotaDict (init (quotaObjects true)) quotaLookup := by
  have hsubmit : TimelyStep quotaDict (init (quotaObjects true))
      ((init (quotaObjects true)).lookupAsync "priv/storage" true .done) := by
    refine ⟨.lookup _ _ _ rfl (by decide), ?_⟩
    rintro ⟨n, lc, hn, hi, hphase⟩
    cases hn
    cases hi
    cases hphase
  have hpush : Step quotaDict ((init (quotaObjects true)).lookupAsync "priv/storage" true .done)
      quotaLookup := @Step.push quotaDict _ 0 _ rfl rfl LookupPhase.noConfusion
  exact .tail (.single hsubmit) ⟨hpush, not_overtaken_of_idle rfl⟩

theorem reaches_quotaReleased : Reaches quotaDict quotaLookup quotaReleased := by
  have hcomplete : Step quotaDict quotaLookup quotaComplete :=
    .wait (@WaitStep.complete quotaDict quotaLookup 0 _ .priv .done rfl rfl (by decide))
  have hcallback : Step quotaDict quotaComplete quotaCalled :=
    .wait (@WaitStep.callback quotaDict quotaComplete 0 quotaContext _ rfl rfl)
  have hturn : Step quotaDict quotaCalled quotaReleased :=
    .wait (@WaitStep.turn quotaDict quotaCalled 0 [] _ rfl rfl rfl rfl)
  exact .tail (.tail (.tail .refl ⟨hcomplete, not_overtaken_of_idle rfl⟩)
    ⟨hcallback, not_overtaken_of_idle rfl⟩) ⟨hturn, not_overtaken_of_idle rfl⟩

theorem quota_answered_once :
    quotaReleased.completions = [] ∧ ∀ lc ∈ quotaReleased.lookups, lc.phase = .called :=
  ⟨rfl, (lookups_answered_once quotaDict (quotaObjects true)
    (reaches_quotaLookup.trans reaches_quotaReleased)).2 rfl rfl⟩

theorem quota_lookup_linearizable :
    ∃ lc, quotaReleased.lookups[0]? = some lc ∧
      Between quotaDict quotaLookup quotaReleased fun w =>
        radosDictLookupAsync quotaDict w lc.submit lc.outcome lc.key = some ⟨.ok, some "10"⟩ :=
  lookups_linearizable quotaDict (quotaObjects true) reaches_quotaLookup reaches_quotaReleased
    (fun lc h => by cases h; rfl) (by decide)

theorem quota_wait_goes_on : ∃ s', WaitStep quotaDict quotaLookup s' :=
  (rados_dict_wait_returns quotaDict (quotaObjects true) reaches_quotaLookup rfl).1.resolve_left
    (by decide)

end DovecotCeph
