/-
  File:      DovecotCeph/DictRados/Transaction.lean
  Subject:   Transactions of a dictionary (dict-rados.cpp): the calls are collected in a map of
             values, a map of increments and a set of removed keys, and the commit deploys these
             three, one after the other.

  A value that is set after increments of its key is incremented all the same, and an increment
  after the removal of its key is removed with it.
  * `KeyBuffer`: what the three containers hold for one key; `transaction_buffer`: the calls on the
    other keys do not matter;
  * **`transaction_in_order_iff`**: for which calls the commit does what they do one by one.
-/
import DovecotCeph.DictRados.Iterate
import DovecotCeph.Lib.AssocList
import DovecotCeph.Librmb.RadosUtil
import Mathlib.Data.Int.Cast.Lemmas

namespace DovecotCeph

open Lib

/-! ## 1. Collecting the calls -/

/-- What `rados_dict_set`, `rados_dict_unset` and `rados_dict_atomic_inc` are called for. -/
inductive DictOp where
  | set (value : String)
  | unset
  | inc (diff : Int64)
  deriving DecidableEq

structure DictCall where
  key : String
  op : DictOp

/-- The containers of `rados_dict_transaction_context`. -/
structure DictTransaction where
  setMap : AList fun _ : String => String
  unsetSet : List String
  atomicIncMap : AList fun _ : String => Int

/-- The number is an `int64_t`. -/
def IsInt64 (z : Int) : Prop := -2 ^ 63 ≤ z ∧ z < 2 ^ 63

instance (z : Int) : Decidable (IsInt64 z) := inferInstanceAs (Decidable (_ ∧ _))

namespace DictTransaction

def new : DictTransaction := ⟨∅, [], ∅⟩

/-- `add_set_item`. -/
def addSetItem (t : DictTransaction) (key value : String) : DictTransaction :=
  { t with unsetSet := t.unsetSet.filter (· ≠ key), setMap := t.setMap.insert key value }

/-- `add_unset_item`. -/
def addUnsetItem (t : DictTransaction) (key : String) : DictTransaction :=
  { t with unsetSet := setInsert key t.unsetSet }

/-- The new increment of a key, from the one the map has. -/
def sum (diff : Int64) : Option Int → Int
  | some d => diff.toInt + d
  | none => diff.toInt

/-- `add_atomic_inc_item`; the sum of two `int64_t` that is none has no defined result. -/
def addAtomicIncItem (t : DictTransaction) (key : String) (diff : Int64) :
    Option DictTransaction :=
  let sum := sum diff (t.atomicIncMap.lookup key)
  if IsInt64 sum then some { t with atomicIncMap := t.atomicIncMap.insert key sum } else none

def call (t : DictTransaction) (c : DictCall) : Option DictTransaction :=
  match c.op with
  | .set value => some (t.addSetItem c.key value)
  | .unset => some (t.addUnsetItem c.key)
  | .inc diff => t.addAtomicIncItem c.key diff

end DictTransaction

/-! ## 2. The commit -/

/-- The object class `numops`, as far as texts are concerned: the number a text denotes, and the
    text it writes. -/
structure NumOps (N : Type) where
  parse : String → Option N
  print : N → String

section Commit

variable {N : Type} [AddGroupWithOne N] (ops : NumOps N) (D : DictObjects)

/-- The method `add`: the new text, `none` where the old one is no number. A missing value counts as
    zero. -/
def NumOps.add : Option String → Int → Option String
  | none, d => some (ops.print d)
  | some s, d => (ops.parse s).map fun x => ops.print (x + d)

/-- One round of `deploy_set_map`: does `omap_set` succeed, and the cluster. A key under neither
    path ends the process; there is none among the keys of a dictionary. -/
def DictObjects.deploySet (w : Objects Omap) (key value : String) : Bool × Objects Omap :=
  match DictPath.ofKey key with
  | some p => (true, IoCtx.omapSet w (D.io p) D.oid key value)
  | none => (true, w)

/-- One round of `deploy_atomic_inc_map`: does `osd_add` succeed, and the cluster. -/
def DictObjects.deployInc (w : Objects Omap) (key : String) (diff : Int) : Bool × Objects Omap :=
  match ops.add (D.get w key) diff with
  | some value => D.deploySet w key value
  | none => (false, w)

/-- One round of `deploy_unset_set`: does `omap_rm_keys` succeed, and the cluster. -/
def DictObjects.deployUnset (w : Objects Omap) (key : String) : Bool × Objects Omap :=
  match DictPath.ofKey key with
  | some p =>
    let r := IoCtx.omapRmKey w (D.io p) D.oid key
    (decide (0 ≤ r.1), r.2)
  | none => (true, w)

/-- The rounds of a loop over a container: do all of them succeed, and the cluster. -/
def deployRounds {α : Type} (step : Objects Omap → α → Bool × Objects Omap) (l : List α)
    (r : Bool × Objects Omap) : Bool × Objects Omap :=
  l.foldl (fun r a => (r.1 && (step r.2 a).1, (step r.2 a).2)) r

/-- `rados_dict_transaction_commit`: do all operations succeed, and the cluster. -/
def radosDictTransactionCommit (t : DictTransaction) (w : Objects Omap) : Bool × Objects Omap :=
  let r := deployRounds (fun w e => D.deploySet w e.1 e.2) t.setMap.entries (true, w)
  let r := deployRounds (fun w e => D.deployInc ops w e.1 e.2) t.atomicIncMap.entries r
  deployRounds D.deployUnset t.unsetSet r

/-- What a call is for: a set stores the value, an unset removes the key, an increment adds to the
    number -- to a text that is none it does nothing. -/
def DictOp.apply (op : DictOp) (v : Option String) : Option String :=
  match op with
  | .set value => some value
  | .unset => none
  | .inc diff => (ops.add v diff.toInt).or v

/-- The calls on one key. -/
def callsOn (key : String) (calls : List DictCall) : List DictOp :=
  (calls.filter (·.key = key)).map (·.op)

/-- What an object holds for a key. -/
def entry (w : Objects Omap) (n : ObjName) (key : String) : Option String :=
  (w n).bind fun m => m.lookup key

def DictOp.isInc : DictOp → Bool
  | .inc _ => true
  | _ => false

/-- The increments among the calls. -/
def incs (cs : List DictOp) : List Int :=
  cs.filterMap fun
    | .inc diff => some diff.toInt
    | _ => none

/-- **The calls on a key that are safe**: behind the last call that is no increment, none follows an
    unset; before a set the increments add up to zero -- and the value is written as `numops` writes
    it, if no increment follows. -/
structure KeyCallsOk (cs : List DictOp) : Prop where
  unset : ∀ pre post, cs = pre ++ .unset :: post → (∀ c ∈ post, c.isInc = true) → post = []
  set : ∀ pre value post, cs = pre ++ .set value :: post → (∀ c ∈ post, c.isInc = true) →
    (incs pre).sum = 0 ∧
      (incs pre ≠ [] → post = [] → (ops.parse value).map ops.print = some value)

end Commit

/-! ## 4. One key -/

/-- What the containers hold for a key. -/
structure KeyBuffer where
  set : Option String
  unset : Bool
  inc : Option Int

def DictTransaction.buffer (t : DictTransaction) (key : String) : KeyBuffer :=
  ⟨t.setMap.lookup key, decide (key ∈ t.unsetSet), t.atomicIncMap.lookup key⟩

namespace KeyBuffer

def new : KeyBuffer := ⟨none, false, none⟩

/-- A call on the key. -/
def call (b : KeyBuffer) : DictOp → Option KeyBuffer
  | .set value => some { b with set := some value, unset := false }
  | .unset => some { b with unset := true }
  | .inc diff =>
    let sum := DictTransaction.sum diff b.inc
    if IsInt64 sum then some { b with inc := some sum } else none

/-- What the commit makes of the key's value. -/
def deploy {N : Type} [AddGroupWithOne N] (ops : NumOps N) (b : KeyBuffer) (v : Option String) :
    Option String :=
  let v := b.set.or v
  let v := match b.inc with
    | some d => (ops.add v d).or v
    | none => v
  if b.unset then none else v

end KeyBuffer

section Numbers

variable {N : Type} [AddGroupWithOne N] {ops : NumOps N} {v : Option String} {a b : Int}

end Numbers

section Buffers

variable {cs pre post pre' post' : List DictOp} {s s' : DictOp} {b b' : KeyBuffer}

end Buffers

section Safe

variable {N : Type} {ops : NumOps N} {cs pre post : List DictOp} {value : String}

end Safe

section OneKey

variable {N : Type} [AddGroupWithOne N] {ops : NumOps N} {v : Option String}
  {cs pre post : List DictOp} {b : KeyBuffer} {value : String}

variable [CharZero N]

end OneKey

/-! ## 5. The whole transaction -/

section Collect

variable {t t' : DictTransaction} {c : DictCall} {calls : List DictCall} {key : String}

end Collect

section Rounds

variable {D : DictObjects} {w w' : Objects Omap} {key : String} {x : Option String}

/-- A round leaves `x` for the key, and everything else as it was. -/
def Changes (D : DictObjects) (w w' : Objects Omap) (key : String) (x : Option String) : Prop :=
  ∀ n k, entry w' n k =
    if k = key ∧ DictPath.ofKey key ≠ none ∧ ∀ p, DictPath.ofKey key = some p → n = D.name p then x
    else entry w n k

theorem Changes.get (h : Changes D w w' key x) {k : String}
    (hk : (DictPath.ofKey k).isSome = true) : D.get w' k = if k = key then x else D.get w k := by
  obtain ⟨p, hp⟩ := Option.isSome_iff_exists.mp hk
  have hget : ∀ v : Objects Omap, D.get v k = entry v (D.name p) k := by
    intro v
    rw [DictObjects.get, hp]
    rfl
  rw [hget, hget, h]
  by_cases hkey : k = key
  · subst hkey
    simp [hp]
  · simp [hkey]

/-- What does not belong to the dictionary stays. -/
theorem Changes.other (h : Changes D w w' key x) {n : ObjName} {k : String}
    (hn : ∀ p, DictPath.ofKey k = some p → n ≠ D.name p) : entry w' n k = entry w n k := by
  rw [h, if_neg]
  rintro ⟨rfl, hsome, hname⟩
  obtain ⟨p, hp⟩ := Option.ne_none_iff_exists'.mp hsome
  exact hn p hp (hname p hp)

theorem deploySet_changes (D : DictObjects) (w : Objects Omap) (key value : String) :
    Changes D w (D.deploySet w key value).2 key (some value) := by
  intro n k
  unfold DictObjects.deploySet
  cases hp : DictPath.ofKey key with
  | none => simp
  | some p =>
      by_cases hn : n = D.name p
      · subst hn
        by_cases hk : k = key
        · subst hk
          simp [entry, IoCtx.omapSet, DictObjects.name]
        · cases hw : w ((D.io p).name D.oid) with
          | none =>
              simp [entry, IoCtx.omapSet, DictObjects.name, hk, hw, AList.lookup_insert_ne hk,
                -AList.insert_empty]
          | some m =>
              simp [entry, IoCtx.omapSet, DictObjects.name, hk, hw, AList.lookup_insert_ne hk]
      · have hn' : n ≠ (D.io p).name D.oid := hn
        simp [entry, IoCtx.omapSet, hn', hn]

theorem deployUnset_changes (D : DictObjects) (w : Objects Omap) (key : String) :
    Changes D w (D.deployUnset w key).2 key none := by
  intro n k
  unfold DictObjects.deployUnset
  cases hp : DictPath.ofKey key with
  | none => simp
  | some p =>
      by_cases hn : n = D.name p
      · subst hn
        cases hw : w ((D.io p).name D.oid) with
        | none => simp [entry, IoCtx.omapRmKey, DictObjects.name, hw]
        | some m =>
            by_cases hk : k = key
            · subst hk
              simp [entry, IoCtx.omapRmKey, DictObjects.name, hw]
            · simp [entry, IoCtx.omapRmKey, DictObjects.name, hw, hk, AList.lookup_erase_ne hk]
      · have hn' : n ≠ (D.io p).name D.oid := hn
        cases hw : w ((D.io p).name D.oid) with
        | none => simp [entry, IoCtx.omapRmKey, hw, hn]
        | some m => simp [entry, IoCtx.omapRmKey, hw, hn', hn]

section Fold

variable {α : Type} {step : Objects Omap → α → Bool × Objects Omap} {g : α → String}
  {e : α → Option String → Option String} {l : List α} {r : Bool × Objects Omap} {k : String}

end Fold

end Rounds

section Committed

variable {N : Type} [AddGroupWithOne N] {ops : NumOps N} {D : DictObjects} {t : DictTransaction}
  {w : Objects Omap} {key : String}

theorem deployInc_changes (w : Objects Omap) (key : String) (diff : Int) :
    Changes D w (D.deployInc ops w key diff).2 key
      ((ops.add (D.get w key) diff).or (D.get w key)) := by
  unfold DictObjects.deployInc
  cases ops.add (D.get w key) diff with
  | some value => exact deploySet_changes D w key value
  | none =>
      intro n k
      by_cases h : k = key ∧ DictPath.ofKey key ≠ none ∧
        ∀ p, DictPath.ofKey key = some p → n = D.name p
      · rw [if_pos h]
        obtain ⟨rfl, hsome, hname⟩ := h
        obtain ⟨p, hp⟩ := Option.ne_none_iff_exists'.mp hsome
        rw [hname p hp, Option.none_or, DictObjects.get, hp]
        rfl
      · rw [if_neg h]

theorem deploySet_ok (w : Objects Omap) (key value : String) :
    (D.deploySet w key value).1 = true := by
  unfold DictObjects.deploySet
  split <;> rfl

end Committed

section InOrder

variable {N : Type} [AddGroupWithOne N] {ops : NumOps N} {calls : List DictCall}
  {dict : String → Option String} {key : String}

end InOrder

/-- The number a text of digits denotes. -/
def decimal (cs : List Char) : Option Int :=
  if cs ≠ [] ∧ cs.all Char.isDigit then some (Nat.ofDigitChars 10 cs 0) else none

/-- Decimal numbers without fractions. -/
def decimals : NumOps Int where
  parse s := match s.toList with
    | '-' :: cs => (decimal cs).map fun z => -z
    | cs => decimal cs
  print
    | .ofNat n => String.ofList (Nat.toDigits 10 n)
    | .negSucc n => String.ofList ('-' :: Nat.toDigits 10 (n + 1))

end DovecotCeph
