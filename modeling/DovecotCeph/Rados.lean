/-
  File:      DovecotCeph/Rados.lean
  Subject:   librados as the plugin sees it: objects named by pool, namespace and oid, io contexts
             that carry a pool and a (mutable) namespace, and calls that succeed atomically or
             report a negative errno and change nothing.
-/
import Mathlib.Logic.Function.Basic
import Mathlib.Data.Set.Basic
import Mathlib.Data.List.AList
import Mathlib.Data.List.TakeWhile

namespace DovecotCeph

/-- `ENOENT` of errno.h. -/
def ENOENT : Int := 2

/-- What one librados call reports: it took effect, or a negative error code came back. -/
inductive Outcome where
  | done
  | failed (e : {e : Int // e < 0})
  deriving DecidableEq

/-- The return code of a call that reports nothing but success. -/
def Outcome.ret : Outcome → Int
  | .done => 0
  | .failed e => e.1

/-- The full name of an object. -/
structure ObjName where
  pool : String
  nspace : String
  oid : String
  deriving DecidableEq, Repr

/-- `librados::IoCtx`: the pool it was created for and the namespace it is set to. -/
structure IoCtx where
  pool : String
  nspace : String
  deriving DecidableEq, Repr

/-- `IoCtx::set_namespace`. -/
def IoCtx.setNamespace (io : IoCtx) (ns : String) : IoCtx := { io with nspace := ns }

@[simp] theorem IoCtx.setNamespace_pool (io : IoCtx) (ns : String) :
    (io.setNamespace ns).pool = io.pool := rfl

/-- The object an io context addresses by an oid. -/
def IoCtx.name (io : IoCtx) (oid : String) : ObjName := ⟨io.pool, io.nspace, oid⟩

/-- The cluster's objects with contents in `ν`. -/
abbrev Objects (ν : Type) := ObjName → Option ν

section Calls

variable (w : Objects String) (io : IoCtx) (oid : String)

/-- `IoCtx::read` into an empty buffer: return code and buffer content. -/
def IoCtx.read : Outcome → Int × String
  | .failed e => (e.1, "")
  | .done => match w (io.name oid) with
    | none => (-ENOENT, "")
    | some v => (v.utf8ByteSize, v)

/-- `IoCtx::write_full`: return code and the cluster afterwards. -/
def IoCtx.writeFull (v : String) : Outcome → Int × Objects String
  | .failed e => (e.1, w)
  | .done => (0, Function.update w (io.name oid) (some v))

/-- `IoCtx::remove`. -/
def IoCtx.remove : Outcome → Int × Objects String
  | .failed e => (e.1, w)
  | .done => match w (io.name oid) with
    | none => (-ENOENT, w)
    | some _ => (0, Function.update w (io.name oid) none)

variable {w io oid}

/-- A read that returns a code at or above zero returned the object. -/
theorem IoCtx.read_nonneg {o : Outcome} (h : 0 ≤ (IoCtx.read w io oid o).1) :
    o = .done ∧ w (io.name oid) = some (IoCtx.read w io oid o).2 := by
  cases o with
  | failed e =>
      have h' : (0 : Int) ≤ e.1 := h
      have := e.2
      omega
  | done =>
      refine ⟨rfl, ?_⟩
      cases hw : w (io.name oid) with
      | none => simp [IoCtx.read, hw, ENOENT] at h
      | some v => simp [IoCtx.read, hw]

theorem IoCtx.read_done {v : String} (h : w (io.name oid) = some v) :
    IoCtx.read w io oid .done = ((v.utf8ByteSize : Int), v) := by
  simp only [IoCtx.read, h]

theorem IoCtx.read_done_none (h : w (io.name oid) = none) :
    IoCtx.read w io oid .done = (-ENOENT, "") := by
  simp only [IoCtx.read, h]

end Calls

/-! ## Key-value pairs of objects -/

/-- What `c_str()` shows of a text: nothing behind its first NUL. -/
def cStr (s : String) : String := String.ofList (s.toList.takeWhile (· ≠ '\x00'))

theorem cStr_cStr (s : String) : cStr (cStr s) = cStr s := by
  unfold cStr
  rw [String.toList_ofList, List.takeWhile_idem]

theorem cStr_of_noNul {s : String} (h : '\x00' ∉ s.toList) : cStr s = s := by
  have hchars : ∀ c ∈ s.toList, decide (c ≠ '\x00') = true := by
    intro c hc
    refine decide_eq_true fun heq => h ?_
    rw [← heq]
    exact hc
  rw [cStr, List.takeWhile_eq_self_iff.mpr hchars, String.ofList_toList]

/-- The omap of an object; it is listed in the order of the keys, which nothing depends on. -/
abbrev Omap := AList fun _ : String => String

section Omaps

variable (w : Objects Omap) (io : IoCtx) (oid : String)

/-- `omap_get_vals_by_keys`: return code and the pairs found. -/
def IoCtx.omapGetValsByKeys (keys : List String) : Outcome → Int × List (String × String)
  | .failed e => (e.1, [])
  | .done => match w (io.name oid) with
    | none => (-ENOENT, [])
    | some m => (0, keys.filterMap fun k => (m.lookup k).map fun v => (k, v))

/-- `omap_get_vals` from the first key on: the pairs whose key begins with `start`. -/
def IoCtx.omapGetVals (start : String) : Outcome → Int × List (String × String)
  | .failed e => (e.1, [])
  | .done => match w (io.name oid) with
    | none => (-ENOENT, [])
    | some m => (0, (m.entries.map fun e => (e.1, e.2)).filter fun e =>
        start.toList.isPrefixOf e.1.toList)

/-- `omap_set` of one pair; it creates the object where there is none. -/
def IoCtx.omapSet (key value : String) : Objects Omap :=
  Function.update w (io.name oid) (some (((w (io.name oid)).getD ∅).insert key value))

/-- `omap_rm_keys` of one key: return code and the cluster. -/
def IoCtx.omapRmKey (key : String) : Int × Objects Omap :=
  match w (io.name oid) with
  | none => (-ENOENT, w)
  | some m => (0, Function.update w (io.name oid) (some (m.erase key)))

variable {w io oid}

theorem IoCtx.omapGetValsByKeys_none (h : w (io.name oid) = none) (keys : List String) :
    IoCtx.omapGetValsByKeys w io oid keys .done = (-ENOENT, []) := by
  simp only [IoCtx.omapGetValsByKeys, h]

theorem IoCtx.omapGetValsByKeys_some {m : Omap} (h : w (io.name oid) = some m)
    (keys : List String) :
    IoCtx.omapGetValsByKeys w io oid keys .done =
      (0, keys.filterMap fun k => (m.lookup k).map fun v => (k, v)) := by
  simp only [IoCtx.omapGetValsByKeys, h]

end Omaps

end DovecotCeph
