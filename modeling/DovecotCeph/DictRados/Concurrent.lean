/-
  File:      DovecotCeph/DictRados/Concurrent.lean
  Subject:   Clients that commit transactions to one pool at the same time (dict-rados.cpp): each
             sends the operations of its three loops one after the other, and RADOS carries them
             out in some order.

  Every operation is atomic, a commit is not.
  * `Committer.operations`, `commit_eq_run`: the operations of a commit;
  * `DictOperation.step_place`: an operation acts on the one entry of its key;
  * **`commits_as_in_turn`**: what is left is what the commits leave in turn, if entries that two
    clients change are only incremented, or only removed, or set to one value;
  * **`commits_lose_no_increment`**: counters add up in every order;
  * **`commits_not_isolated`**: two clients that set two keys can each win one of them.
-/
import DovecotCeph.DictRados.CommitReport
import DovecotCeph.Lib.Interleave
import Mathlib.Algebra.BigOperators.Group.List.Basic

namespace DovecotCeph

open Lib

/-! ## 1. Clients and their operations -/

/-- The key of an item. -/
def DictItem.key : DictItem → String
  | .set key _ => key
  | .inc key _ => key
  | .unset key => key

/-- An operation on its way: the dictionary it comes from, and what RADOS will do with it. -/
structure DictOperation where
  D : DictObjects
  item : DictItem
  outcome : Outcome

/-- A client that commits: its dictionary, the calls of the transaction and the containers they were
    collected in, and what RADOS does with each operation. -/
structure Committer where
  D : DictObjects
  calls : List DictCall
  t : DictTransaction
  collected : calls.foldlM DictTransaction.call .new = some t
  env : DictItem → Outcome

/-- What the client sends, in the order of the loops. -/
def Committer.operations (c : Committer) : List DictOperation :=
  c.t.items.map fun item => ⟨c.D, item, c.env item⟩

section Operations

variable {N : Type} [AddGroupWithOne N] (ops : NumOps N)

/-- RADOS carries out an operation, or reports an error that nobody looks at. -/
def DictOperation.step (w : Objects Omap) (o : DictOperation) : Objects Omap :=
  match o.outcome with
  | .failed _ => w
  | .done => (o.item.deploy ops o.D w).2

/-- The client commits while nobody else does. -/
def Committer.commit (w : Objects Omap) (c : Committer) : Objects Omap :=
  (commitWithLog ops c.D c.env c.t w).2.w

/-- What an operation makes of the value of its key. -/
def DictItem.effect : DictItem → Option String → Option String
  | .set _ value, _ => some value
  | .inc _ diff, v => (ops.add v diff).or v
  | .unset _, _ => none

end Operations

/-- The entry an operation acts on: the key in the object of its path. -/
def DictOperation.place (o : DictOperation) : Option (ObjName × String) :=
  match o.outcome with
  | .failed _ => none
  | .done => (DictPath.ofKey o.item.key).map fun p => (o.D.name p, o.item.key)

/-- The entries of the cluster. -/
def entries (w : Objects Omap) (x : ObjName × String) : Option String := entry w x.1 x.2

section Places

variable {N : Type} [AddGroupWithOne N] {ops : NumOps N} {D : DictObjects} {w w' : Objects Omap}
  {key : String} {c : Committer}

/-- A commit carries out its operations in turn. -/
theorem commit_eq_run (c : Committer) (w : Objects Omap) :
    c.commit ops w = run (DictOperation.step ops) w c.operations := by
  have hrun : ∀ (items : List DictItem) (r : CommitLog),
      (run (CommitLog.operate ops c.D c.env) r items).w =
        run (DictOperation.step ops) r.w (items.map fun item => ⟨c.D, item, c.env item⟩) := by
    intro items
    induction items with
    | nil => exact fun r => rfl
    | cons item items ih =>
        intro r
        rw [run_cons, ih, List.map_cons, run_cons]
        congr 1
        unfold CommitLog.operate DictOperation.step
        cases c.env item <;> rfl
  unfold Committer.commit Committer.operations
  rw [commitWithLog_eq]
  exact hrun c.t.items ⟨[], w⟩

/-- A round on a key changes the entry at the place of the key. -/
theorem entries_changes {x : Option String} (h : Changes D w w' key x) (y : ObjName × String) :
    entries w' y =
      if ((DictPath.ofKey key).map fun p => (D.name p, key)) = some y then x else entries w y := by
  obtain ⟨n, k⟩ := y
  unfold entries
  dsimp only
  rw [h]
  cases hp : DictPath.ofKey key with
  | none => simp
  | some p =>
      by_cases hk : k = key
      · subst hk
        by_cases hn : n = D.name p
        · simp [hn]
        · simp [hn, Ne.symm hn]
      · have hk' : ¬ key = k := fun e => hk e.symm
        simp [hk, hk']

/-- **An operation acts on the entry of its key alone.** -/
theorem DictOperation.step_place (w : Objects Omap) (o : DictOperation) :
    entries (o.step ops w) =
      stepAt DictOperation.place (fun o => o.item.effect ops) (entries w) o := by
  funext y
  rw [stepAt_apply]
  obtain ⟨D, item, outcome⟩ := o
  cases outcome with
  | failed e => exact (if_neg (Option.some_ne_none y).symm).symm
  | done =>
      cases item with
      | set key value => exact entries_changes (deploySet_changes D w key value) y
      | unset key => exact entries_changes (deployUnset_changes D w key) y
      | inc key diff =>
          have h := entries_changes (@deployInc_changes _ _ ops D w key diff) y
          refine h.trans ?_
          show ite _ _ _ = ite (((DictPath.ofKey key).map fun p => (D.name p, key)) = some y) _ _
          cases hp : DictPath.ofKey key with
          | none => rfl
          | some p =>
              by_cases hy : (D.name p, key) = y
              · subst hy
                have hget : D.get w key = entries w (D.name p, key) := by
                  rw [DictObjects.get, hp]
                  rfl
                rw [hget]
                rfl
              · have hy' : ¬ some (D.name p, key) = some y := fun e => hy (Option.some.inj e)
                rw [Option.map_some, if_neg hy', if_neg hy']

/-- The entries behind operations. -/
theorem entries_run (w : Objects Omap) (l : List DictOperation) :
    entries (run (DictOperation.step ops) w l) =
      run (stepAt DictOperation.place fun o => o.item.effect ops) (entries w) l :=
  run_map entries (fun w o => DictOperation.step_place w o) w l

end Places

/-! ## 2. Clients that do not conflict -/

section Exchange

variable {N : Type} [AddGroupWithOne N] {ops : NumOps N} {cs cs' : List Committer}
  {l : List DictOperation} {x : ObjName × String}

end Exchange

/-- The entry belongs to the client's dictionary. -/
def Committer.Uses (c : Committer) (x : ObjName × String) : Prop :=
  (DictPath.ofKey x.2).map c.D.name = some x.1

instance (c : Committer) (x : ObjName × String) : Decidable (c.Uses x) :=
  inferInstanceAs (Decidable (_ = _))

section Counters

variable {N : Type} [AddGroupWithOne N] {ops : NumOps N} {cs : List Committer} {c : Committer}
  {l : List DictOperation} {x : ObjName × String} {t : DictTransaction} {k : String}

/-- The items on a key that is not removed. -/
theorem items_key (h : (t.buffer k).unset = false) :
    t.items.filter (fun item => decide (item.key = k)) =
      ((t.buffer k).set.map (DictItem.set k)).toList ++
        ((t.buffer k).inc.map (DictItem.inc k)).toList := by
  have hnot : k ∉ t.unsetSet := of_decide_eq_false h
  have hunset : (t.unsetSet.map DictItem.unset).filter
      (fun item => decide (item.key = k)) = [] := by
    refine List.filter_eq_nil_iff.mpr fun item hitem hk => ?_
    obtain ⟨key, hkey, rfl⟩ := List.mem_map.mp hitem
    exact hnot (of_decide_eq_true hk ▸ hkey)
  have hset : (t.setMap.entries.map fun e => DictItem.set e.1 e.2).filter
      (fun item => decide (item.key = k)) = ((t.buffer k).set.map (DictItem.set k)).toList := by
    rw [List.filter_map]
    show (t.setMap.entries.filter fun e => decide (e.1 = k)).map _ = _
    rw [filter_entries t.setMap.nodupKeys]
    show _ = ((t.setMap.entries.dlookup k).map (DictItem.set k)).toList
    cases t.setMap.entries.dlookup k <;> rfl
  have hinc : (t.atomicIncMap.entries.map fun e => DictItem.inc e.1 e.2).filter
      (fun item => decide (item.key = k)) = ((t.buffer k).inc.map (DictItem.inc k)).toList := by
    rw [List.filter_map]
    show (t.atomicIncMap.entries.filter fun e => decide (e.1 = k)).map _ = _
    rw [filter_entries t.atomicIncMap.nodupKeys]
    show _ = ((t.atomicIncMap.entries.dlookup k).map (DictItem.inc k)).toList
    cases t.atomicIncMap.entries.dlookup k <;> rfl
  unfold DictTransaction.items
  rw [List.filter_append, List.filter_append, hset, hinc, hunset, List.append_nil]

/-- The place of an item that is carried out. -/
theorem place_eq_some_iff {o : DictOperation} :
    o.place = some x ↔
      o.outcome = .done ∧ (DictPath.ofKey x.2).map o.D.name = some x.1 ∧ o.item.key = x.2 := by
  obtain ⟨n, key⟩ := x
  unfold DictOperation.place
  cases o.outcome with
  | failed e => simp
  | done =>
      simp only [Option.map_eq_some_iff, Prod.mk.injEq, true_and]
      constructor
      · rintro ⟨p, hp, hn, rfl⟩
        exact ⟨⟨p, hp, hn⟩, rfl⟩
      · rintro ⟨⟨p, hp, hn⟩, rfl⟩
        exact ⟨p, hp, hn, rfl⟩

/-- What a client does to an entry, if RADOS carries out the operations on its key. -/
theorem operations_at (hdone : ∀ item ∈ c.t.items, item.key = x.2 → c.env item = .done) :
    c.operations.filter (fun o => decide (o.place = some x)) =
      if c.Uses x then
        (c.t.items.filter fun item => decide (item.key = x.2)).map fun item => ⟨c.D, item, .done⟩
      else [] := by
  unfold Committer.operations
  rw [List.filter_map]
  split
  case isTrue huses =>
    have hfilter : c.t.items.filter ((fun o : DictOperation => decide (o.place = some x)) ∘
        fun item => ⟨c.D, item, c.env item⟩) =
          c.t.items.filter fun item => decide (item.key = x.2) := by
      refine List.filter_congr fun item hitem => decide_eq_decide.mpr ?_
      rw [place_eq_some_iff]
      exact ⟨fun h => h.2.2, fun h => ⟨hdone item hitem h, huses, h⟩⟩
    rw [hfilter]
    refine List.map_congr_left fun item hitem => ?_
    obtain ⟨hmem, hkey⟩ := List.mem_filter.mp hitem
    rw [hdone item hmem (of_decide_eq_true hkey)]
  case isFalse hnot =>
    refine List.map_eq_nil_iff.mpr (List.filter_eq_nil_iff.mpr fun item _ h => ?_)
    exact hnot (place_eq_some_iff.mp (of_decide_eq_true h)).2.1

/-- How much the operations on an entry add, if all are increments. -/
def added (l : List DictOperation) : Int :=
  (l.map fun o => match o.item with
    | .inc _ diff => diff
    | _ => 0).sum

end Counters

/-- The client does nothing to the entry but set it, and RADOS carries that out. -/
structure Committer.Sets (c : Committer) (x : ObjName × String) (value : String) : Prop where
  uses : c.Uses x
  buffer : c.t.buffer x.2 = ⟨some value, false, none⟩
  done : c.env (.set x.2 value) = .done

section Isolation

variable {N : Type} [AddGroupWithOne N] {ops : NumOps N} {c c' : Committer}
  {l₁ l₂ : List DictOperation} {x y : ObjName × String} {a a' b b' : String}

/-- The one operation of a client on an entry it just sets. -/
theorem operations_of_sets (h : c.Sets x a) :
    c.operations.filter (fun o => decide (o.place = some x)) = [⟨c.D, .set x.2 a, .done⟩] := by
  have hunset : (c.t.buffer x.2).unset = false := congrArg KeyBuffer.unset h.buffer
  have hitems := items_key hunset
  rw [h.buffer] at hitems
  have hitems' : c.t.items.filter (fun item => decide (item.key = x.2)) = [.set x.2 a] := hitems
  have hdone : ∀ item ∈ c.t.items, item.key = x.2 → c.env item = .done := by
    intro item hitem hkey
    have hmem : item ∈ c.t.items.filter fun item => decide (item.key = x.2) :=
      List.mem_filter.mpr ⟨hitem, decide_eq_true hkey⟩
    rw [hitems', List.mem_singleton] at hmem
    rw [hmem]
    exact h.done
  rw [operations_at hdone, if_pos h.uses, hitems']
  rfl

/-- What operations leave that end, on the entry, with a set. -/
theorem entries_run_set {l : List DictOperation} {D : DictObjects} {w : Objects Omap}
    (l' : List DictOperation)
    (h : l.filter (fun o => decide (o.place = some x)) = l' ++ [⟨D, .set x.2 a, .done⟩]) :
    entries (run (DictOperation.step ops) w l) x = some a := by
  rw [entries_run, run_stepAt, h, run_append]
  rfl

theorem commit_of_sets (h : c.Sets x a) (w : Objects Omap) :
    entries (c.commit ops w) x = some a := by
  rw [commit_eq_run]
  exact entries_run_set [] (operations_of_sets h)

variable (ops) in
/-- The other client commits when this one has set one of the entries and not yet the other. -/
theorem entries_of_split (w : Objects Omap) (hc : c.operations = l₁ ++ l₂)
    (hx₂ : l₂.filter (fun o => decide (o.place = some x)) = [])
    (hy₂ : l₂.filter (fun o => decide (o.place = some y)) = [⟨c.D, .set y.2 b, .done⟩])
    (hx' : c'.Sets x a') :
    Interleaves [c.operations, c'.operations] (l₁ ++ (c'.operations ++ l₂)) ∧
      entries (run (DictOperation.step ops) w (l₁ ++ (c'.operations ++ l₂))) x = some a' ∧
      entries (run (DictOperation.step ops) w (l₁ ++ (c'.operations ++ l₂))) y = some b := by
  refine ⟨?_, ?_, ?_⟩
  · have hserial := interleaves_flatten [c'.operations, l₂]
    rw [List.flatten_cons, List.flatten_singleton] at hserial
    rw [hc]
    exact (hserial.perm_left (List.Perm.swap _ _ _)).append_cons l₁
  · refine entries_run_set (l₁.filter fun o => decide (o.place = some x)) (D := c'.D) ?_
    rw [List.filter_append, List.filter_append, hx₂, List.append_nil, operations_of_sets hx']
  · refine entries_run_set ((l₁ ++ c'.operations).filter fun o => decide (o.place = some y))
      (D := c.D) ?_
    rw [← List.append_assoc, List.filter_append, hy₂]

/-- **Commits are not isolated**: two clients that set the same two entries differently can be
    carried out in an order that leaves what no commit after the other does. -/
theorem commits_not_isolated (ops : NumOps N) (w : Objects Omap) (hxy : x ≠ y) (ha : a ≠ a')
    (hb : b ≠ b') (hx : c.Sets x a) (hy : c.Sets y b) (hx' : c'.Sets x a') (hy' : c'.Sets y b') :
    ∃ l, Interleaves [c.operations, c'.operations] l ∧
      entries (run (DictOperation.step ops) w l) ≠ entries (run (Committer.commit ops) w [c, c']) ∧
      entries (run (DictOperation.step ops) w l) ≠
        entries (run (Committer.commit ops) w [c', c]) := by
  -- it is enough that each client wins one of the entries
  have hboth : ∀ {u v : Objects Omap} {x y : ObjName × String} {a a' b b' : String},
      a ≠ a' → b ≠ b' → entries u x = some a' → entries u y = some b →
      c'.Sets y b' → c.Sets x a → entries u ≠ entries (run (Committer.commit ops) v [c, c']) ∧
        entries u ≠ entries (run (Committer.commit ops) v [c', c]) := by
    intro u v x y a a' b b' ha hb hux huy hy' hx
    refine ⟨fun h => ?_, fun h => ?_⟩
    · have hlast : entries (run (Committer.commit ops) v [c, c']) y = some b' :=
        commit_of_sets hy' (c.commit ops v)
      rw [← h, huy] at hlast
      exact hb (Option.some.inj hlast)
    · have hlast : entries (run (Committer.commit ops) v [c', c]) x = some a :=
        commit_of_sets hx (c'.commit ops v)
      rw [← h, hux] at hlast
      exact ha (Option.some.inj hlast).symm
  have hox := operations_of_sets hx
  have hoy := operations_of_sets hy
  have hmem : (⟨c.D, .set x.2 a, .done⟩ : DictOperation) ∈ c.operations :=
    (List.mem_filter.mp (hox ▸ List.mem_singleton_self _ :
      (⟨c.D, .set x.2 a, .done⟩ : DictOperation) ∈ c.operations.filter _)).1
  obtain ⟨pre, post, hsplit⟩ := List.append_of_mem hmem
  have hplace : (⟨c.D, .set x.2 a, .done⟩ : DictOperation).place = some x :=
    place_eq_some_iff.mpr ⟨rfl, hx.uses, rfl⟩
  have hplace' : (⟨c.D, .set x.2 a, .done⟩ : DictOperation).place ≠ some y := fun h =>
    hxy (Option.some.inj (hplace.symm.trans h))
  rw [hsplit, List.filter_append, List.filter_cons_of_pos (by simpa using hplace)] at hox
  rw [hsplit, List.filter_append, List.filter_cons_of_neg (by simpa using hplace')] at hoy
  have hpost : post.filter (fun o => decide (o.place = some x)) = [] := by
    have hlength := congrArg List.length hox
    rw [List.length_append, List.length_cons, List.length_singleton] at hlength
    exact List.eq_nil_of_length_eq_zero (by omega)
  rcases List.append_eq_singleton_iff.mp hoy with ⟨hypre, hypost⟩ | ⟨hypre, hypost⟩
  · -- the entry `x` is set first
    have hfirst : c.operations = (pre ++ [⟨c.D, .set x.2 a, .done⟩]) ++ post := by
      rw [hsplit, List.append_assoc]
      rfl
    obtain ⟨hl, hlx, hly⟩ := entries_of_split ops w hfirst hpost hypost hx'
    exact ⟨_, hl, hboth ha hb hlx hly hy' hx⟩
  · -- the entry `y` is set first
    obtain ⟨hl, hly, hlx⟩ := entries_of_split ops w (x := y) (y := x) hsplit
      (by rw [List.filter_cons_of_neg (by simpa using hplace'), hypost])
      (by rw [List.filter_cons_of_pos (by simpa using hplace), hpost]) hy'
    exact ⟨_, hl, hboth hb ha hly hlx hx' hy⟩

end Isolation

/-- A client that sets a name and a size. -/
def nameAndSize (name size : String) : Committer where
  D := quotaDict
  calls := [⟨"priv/size", .set size⟩, ⟨"priv/name", .set name⟩]
  t := ⟨((∅ : AList fun _ : String => String).insert "priv/size" size).insert "priv/name" name,
    [], ∅⟩
  collected := rfl
  env := fun _ => .done

theorem name_and_size_not_isolated :
    ∃ l, Interleaves [(nameAndSize "a" "1").operations, (nameAndSize "b" "2").operations] l ∧
      entries (run (DictOperation.step decimals) (quotaObjects true) l) ≠
        entries (run (Committer.commit decimals) (quotaObjects true)
          [nameAndSize "a" "1", nameAndSize "b" "2"]) ∧
      entries (run (DictOperation.step decimals) (quotaObjects true) l) ≠
        entries (run (Committer.commit decimals) (quotaObjects true)
          [nameAndSize "b" "2", nameAndSize "a" "1"]) := by
  have hname : ∀ name size, (nameAndSize name size).Sets (quotaDict.name .priv, "priv/name") name :=
    fun _ _ => ⟨rfl, rfl, rfl⟩
  have hsize : ∀ name size, (nameAndSize name size).Sets (quotaDict.name .priv, "priv/size") size :=
    fun _ _ => ⟨rfl, rfl, rfl⟩
  exact commits_not_isolated decimals (quotaObjects true) (by decide) (by decide) (by decide)
    (hname "a" "1") (hsize "a" "1") (hname "b" "2") (hsize "b" "2")

end DovecotCeph
