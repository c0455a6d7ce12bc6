/-
  File:      DovecotCeph/Librmb/Cluster.lean
  Subject:   The connection to the cluster that all storages of a process share
             (rados-cluster-impl.cpp), and how a storage opens and closes its own
             (rados-storage-impl.cpp).

  * `Cluster`: the static members, a count of references and whether the cluster is connected;
  * `StorageConn`: what a storage knows of its connection. `close_connection` gives a reference back
    and leaves `io_ctx_created` set, so that a storage that was closed and one that is open look the
    same to `open_connection`;
  * `open_spec`: what an attempt to open changes.
-/
import Mathlib.Logic.Function.Basic

namespace DovecotCeph

/-! ## 1. The cluster -/

/-- `cluster_ref_count` and `connected`; without a reference there is no connection. -/
structure Cluster where
  refCount : Nat
  connected : Bool
  held : connected = true → 0 < refCount
  deriving DecidableEq

namespace Cluster

/-- Before anything was opened. -/
def unused : Cluster := ⟨0, false, nofun⟩

/-- A successful `init`. -/
def init (c : Cluster) : Cluster := ⟨c.refCount + 1, c.connected, fun _ => Nat.succ_pos _⟩

/-- A successful `connect`; without a reference it does nothing. -/
def connect (c : Cluster) : Cluster :=
  ⟨c.refCount, c.connected || decide (0 < c.refCount), fun h => by
    cases hc : c.connected with
    | true => exact c.held hc
    | false => simpa [hc] using h⟩

/-- `deinit`; with the last reference goes the connection. -/
def deinit (c : Cluster) : Cluster :=
  if h : 1 < c.refCount then ⟨c.refCount - 1, c.connected, fun _ => by omega⟩ else unused

/-- The next `deinit` calls `shutdown`. -/
def lastReference (c : Cluster) : Bool := c.connected && decide (c.refCount = 1)

@[simp] theorem init_refCount (c : Cluster) : c.init.refCount = c.refCount + 1 := rfl

@[simp] theorem init_connected (c : Cluster) : c.init.connected = c.connected := rfl

@[simp] theorem connect_refCount (c : Cluster) : c.connect.refCount = c.refCount := rfl

theorem connect_init_connected (c : Cluster) : c.init.connect.connected = true := by
  simp [connect]

@[simp] theorem deinit_refCount (c : Cluster) : c.deinit.refCount = c.refCount - 1 := by
  unfold deinit
  split
  · rfl
  · show 0 = c.refCount - 1
    omega

theorem deinit_connected (c : Cluster) :
    c.deinit.connected = (c.connected && decide (1 < c.refCount)) := by
  unfold deinit
  split
  case isTrue h => simp [h]
  case isFalse h => simp [h, unused]

end Cluster

/-! ## 2. The connection of a storage -/

/-- How an attempt to connect ends: `cluster->init` fails; no io context can be created (the
    cluster may be connected by then); a step after that fails, or throws on an option that is no
    number; or all is well. -/
inductive Conn where
  | initFails
  | ioCtxFails (e : {e : Int // e < 0}) (connects : Bool)
  | laterFails (e : {e : Int // e < 0})
  | laterThrows
  | opens

/-- `io_ctx_created`, `pool_name`, and pool and namespace of the io context, whatever names are. -/
structure StorageConn (ν : Type) where
  ioCtxCreated : Bool
  poolName : ν
  ioPool : ν
  ioNspace : ν
  deriving DecidableEq, Repr

section Conn

variable {ν : Type} [Inhabited ν]

/-- A new storage; the default of `ν` is its empty name. -/
def StorageConn.new : StorageConn ν := ⟨false, default, default, default⟩

/-- `init` and `create_connection`: code (`none` for an exception), cluster and storage. -/
def StorageConn.create (poolname : ν) (o : Conn) (c : Cluster) (s : StorageConn ν) :
    Option Int × Cluster × StorageConn ν :=
  match o with
  | .initFails => (some (-1), c, s)
  | .ioCtxFails e connects => (some e.1, if connects then c.init.connect else c.init, s)
  | .laterFails e => (some e.1, c.init.connect, { s with ioPool := poolname, ioNspace := default })
  | .laterThrows => (none, c.init.connect, { s with ioPool := poolname, ioNspace := default })
  | .opens => (some 0, c.init.connect, ⟨true, poolname, poolname, default⟩)

/-- `open_connection` with the name of the cluster: it does nothing where the cluster is connected
    and the storage was open before. -/
def StorageConn.open (poolname : ν) (o : Conn) (c : Cluster) (s : StorageConn ν) :
    Option Int × Cluster × StorageConn ν :=
  if c.connected && s.ioCtxCreated then (some 1, c, s) else s.create poolname o c

/-- `close_connection`. -/
def StorageConn.close (s : StorageConn ν) (c : Cluster) : Cluster :=
  if s.ioCtxCreated then c.deinit else c

variable {poolname : ν} {c : Cluster} {s : StorageConn ν}

theorem open_connected (hc : c.connected = true) (hs : s.ioCtxCreated = true) (o : Conn) :
    s.open poolname o c = (some 1, c, s) := by
  simp [StorageConn.open, hc, hs]

/-- A new connection. -/
theorem open_opens (h : (c.connected && s.ioCtxCreated) = false) :
    s.open poolname .opens c = (some 0, c.init.connect, ⟨true, poolname, poolname, default⟩) := by
  rw [StorageConn.open, if_neg (by simp [h])]
  rfl

end Conn

end DovecotCeph
