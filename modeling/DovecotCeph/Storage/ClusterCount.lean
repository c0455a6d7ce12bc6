/-
  File:      DovecotCeph/Storage/ClusterCount.lean
  Subject:   All storages and dictionaries of a process over the one cluster they share: who takes
             references to it and who gives them back (rbox-storage.cpp, rados-storage-impl.cpp,
             dict-rados.cpp).

  `rbox_storage_destroy` gives back up to three references: one for each of its storages that was
  ever open, and one for the cluster object, for which none was taken.
  * `releases_cutOff`: which references given back in a row shut the cluster down under an open
    owner;
  * **`never_cut_off_iff`**: in which runs that never happens.
-/
import DovecotCeph.Librmb.Cluster
import DovecotCeph.Storage.Save
import DovecotCeph.Lib.Run

namespace DovecotCeph

open Lib

/-! ## 1. The process -/

/-- The primary or the alternative storage of an rbox storage, or a dictionary. -/
inductive Owner (ι δ : Type) where
  | storage (k : ι) (pool : MailPool)
  | dict (d : δ)
  deriving DecidableEq, Repr

/-- The cluster, the storages, the owners that were opened and not closed, and whether the cluster
    was ever shut down while there was one. -/
structure Process (ι δ : Type) where
  cluster : Cluster
  conn : ι → MailPool → StorageConn String
  opened : List (Owner ι δ)
  cutOff : Bool

/-- Before anything was opened. -/
def Process.start (ι δ : Type) : Process ι δ := ⟨.unused, fun _ _ => .new, [], false⟩

/-- The calls, with every RADOS call successful. `openDefault` is `open_connection` without the name
    of the cluster, `use` whatever connects the cluster through a dictionary. -/
inductive ClusterCall (ι δ : Type) where
  | init
  | deinit
  | use
  | open (k : ι) (pool : MailPool) (poolname : String)
  | openDefault (k : ι) (pool : MailPool) (poolname : String)
  | close (k : ι) (pool : MailPool)
  | destroy (k : ι)
  | dictInit (d : δ)
  | dictDeinit (d : δ)

namespace Process

variable {ι δ : Type} [DecidableEq ι] [DecidableEq δ]

/-- `deinit`, for an owner that is closed by it or for none. -/
def release (st : Process ι δ) (x : Option (Owner ι δ)) : Process ι δ :=
  let opened := st.opened.filter fun y => some y ≠ x
  { st with
    cluster := st.cluster.deinit
    opened := opened
    cutOff := st.cutOff || (st.cluster.lastReference && !opened.isEmpty) }

/-- The reference `close_connection` gives back. -/
def closes (st : Process ι δ) (k : ι) (pool : MailPool) : List (Option (Owner ι δ)) :=
  if (st.conn k pool).ioCtxCreated then [some (.storage k pool)] else []

/-- The references a call gives back, in order. -/
def releases (st : Process ι δ) : ClusterCall ι δ → List (Option (Owner ι δ))
  | .deinit => [none]
  | .close k pool => st.closes k pool
  | .destroy k => st.closes k .primary ++ st.closes k .alt ++ [none]
  | .dictDeinit d => if .dict d ∈ st.opened then [some (.dict d)] else []
  | .init | .use | .open .. | .openDefault .. | .dictInit _ => []

/-- The result of an attempt to open a storage. -/
def setOpen (st : Process ι δ) (k : ι) (pool : MailPool)
    (r : Option Int × Cluster × StorageConn String) : Process ι δ :=
  { st with
    cluster := r.2.1
    conn := Function.update st.conn k (Function.update (st.conn k) pool r.2.2)
    opened := .storage k pool :: st.opened }

/-- One call. The name of a destroyed storage or dictionary may be used again for a new one. -/
def call (st : Process ι δ) (a : ClusterCall ι δ) : Process ι δ :=
  match a with
  | .init => { st with cluster := st.cluster.init }
  | .use => { st with cluster := st.cluster.connect }
  | .open k pool poolname => st.setOpen k pool ((st.conn k pool).open poolname .opens st.cluster)
  | .openDefault k pool poolname =>
    st.setOpen k pool ((st.conn k pool).create poolname .opens st.cluster)
  | .dictInit d =>
    if .dict d ∈ st.opened then st
    else { st with cluster := st.cluster.init, opened := .dict d :: st.opened }
  | .deinit | .close .. | .dictDeinit _ => (st.releases a).foldl release st
  | .destroy k =>
    let st := (st.releases a).foldl release st
    { st with conn := Function.update st.conn k fun _ => .new }

/-- **The calls that are safe**: where a connected cluster has no more references than the call
    gives back, the owners it closes until the last one are all that are open. -/
def Safe (st : Process ι δ) (a : ClusterCall ι δ) : Prop :=
  st.cluster.connected = true → st.cluster.refCount ≤ (st.releases a).length →
    ∀ x ∈ st.opened, some x ∈ (st.releases a).take st.cluster.refCount

instance (st : Process ι δ) (a : ClusterCall ι δ) : Decidable (st.Safe a) :=
  inferInstanceAs (Decidable (_ → _ → _))

end Process

/-! ## 2. References given back in a row -/

section Releases

variable {ι δ : Type} [DecidableEq ι] [DecidableEq δ]

/-- **The cluster is shut down under an open owner** if and only if the last reference is among
    those given back, and some owner is not closed until then. -/
theorem releases_cutOff (rs : List (Option (Owner ι δ))) (st : Process ι δ) :
    (rs.foldl Process.release st).cutOff = true ↔ st.cutOff = true ∨
      (st.cluster.connected = true ∧ st.cluster.refCount ≤ rs.length ∧
        ∃ x ∈ st.opened, some x ∉ rs.take st.cluster.refCount) := by
  induction rs generalizing st with
  | nil =>
      refine ⟨.inl, fun h => h.resolve_right fun h => ?_⟩
      have hpos := st.cluster.held h.1
      have hzero : st.cluster.refCount ≤ 0 := h.2.1
      omega
  | cons r rs ih =>
      have hopened : ∀ x, x ∈ (st.release r).opened ↔ x ∈ st.opened ∧ some x ≠ r := by
        intro x
        simp [Process.release]
      have hcount : (st.release r).cluster.refCount = st.cluster.refCount - 1 :=
        Cluster.deinit_refCount _
      have hconn : (st.release r).cluster.connected =
          (st.cluster.connected && decide (1 < st.cluster.refCount)) := Cluster.deinit_connected _
      have hcut : (st.release r).cutOff =
          (st.cutOff || (st.cluster.lastReference && !(st.release r).opened.isEmpty)) := rfl
      rw [List.foldl_cons, ih, hcut, hconn, hcount, Bool.or_eq_true, or_assoc]
      refine or_congr_right ?_
      unfold Cluster.lastReference
      cases hc : st.cluster.connected with
      | false => simp
      | true =>
          have hpos := st.cluster.held hc
          rcases Nat.eq_or_lt_of_le hpos with hone | hmore
          · -- the last reference
            have hone' : st.cluster.refCount = 1 := hone.symm
            have hlen : 1 ≤ (r :: rs).length := Nat.succ_pos _
            have htake : (r :: rs).take 1 = [r] := rfl
            rw [hone', htake]
            simp only [decide_true, Bool.and_true, Bool.true_and, Bool.not_eq_true',
              List.isEmpty_eq_false_iff_exists_mem, hopened, Nat.lt_irrefl, decide_false,
              Bool.false_eq_true, false_and, or_false, hlen, true_and, List.mem_singleton]
          · -- others are left, and the rest of the calls decides
            obtain ⟨n, hn⟩ : ∃ n, st.cluster.refCount = n + 2 := ⟨st.cluster.refCount - 2, by omega⟩
            rw [hn]
            have hne : ¬ n + 2 = 1 := by omega
            have hlt : 1 < n + 2 := by omega
            have htake : (r :: rs).take (n + 2) = r :: rs.take (n + 1) := rfl
            rw [htake]
            simp only [hne, decide_false, Bool.and_false, Bool.false_and, Bool.false_eq_true,
              false_or, hlt, decide_true, Bool.and_true, true_and, hopened, List.length_cons,
              List.mem_cons, not_or, Nat.add_one_sub_one, and_assoc, ne_eq]
            exact and_congr_left fun _ => Nat.succ_le_succ_iff.symm

/-- **One call.** -/
theorem call_cutOff (st : Process ι δ) (a : ClusterCall ι δ) :
    (st.call a).cutOff = false ↔ st.cutOff = false ∧ st.Safe a := by
  have hfold : ((st.releases a).foldl Process.release st).cutOff = false ↔
      st.cutOff = false ∧ st.Safe a := by
    rw [← Bool.not_eq_true, releases_cutOff, not_or, Bool.not_eq_true]
    refine and_congr_right fun _ => ?_
    unfold Process.Safe
    constructor
    · intro h hc hle x hx
      by_contra hn
      exact h ⟨hc, hle, x, hx, hn⟩
    · intro h hn
      obtain ⟨hc, hle, x, hx, hnot⟩ := hn
      exact hnot (h hc hle x hx)
  -- a call that gives nothing back leaves the flag
  have hnone : st.releases a = [] → (st.cutOff = false ↔ st.cutOff = false ∧ st.Safe a) := by
    intro h
    rw [h] at hfold
    exact hfold
  cases a with
  | init => exact hnone rfl
  | use => exact hnone rfl
  | «open» k pool poolname => exact hnone rfl
  | openDefault k pool poolname => exact hnone rfl
  | dictInit d =>
      unfold Process.call
      dsimp only
      split
      · exact hnone rfl
      · exact hnone rfl
  | deinit => exact hfold
  | close k pool => exact hfold
  | dictDeinit d => exact hfold
  | destroy k => exact hfold

end Releases

/-! ## 3. Runs -/

/-- **The cluster is never shut down under an open storage or dictionary**, in every run and after
    each of its calls, if and only if every call is safe in the state it is made in. -/
theorem never_cut_off_iff {ι δ : Type} [DecidableEq ι] [DecidableEq δ]
    (calls : List (ClusterCall ι δ)) :
    (∀ pre, pre <+: calls → (run Process.call (.start ι δ) pre).cutOff = false) ↔
      Along Process.call Process.Safe (.start ι δ) calls :=
  prefixes_iff_along (I := fun st => st.cutOff = false) (D := fun _ _ => True) (fun _ h => h)
    (fun st a h _ hsafe => (call_cutOff st a).mpr ⟨h, hsafe⟩)
    (fun st a _ _ h => ((call_cutOff st a).mp h).2) rfl (along_of_forall fun _ _ => trivial)

/-- Two storages are opened; the first one is destroyed, and the second one has lost the cluster. -/
theorem destroy_cuts_off_another :
    (run Process.call (.start Nat Nat) [.open 0 .primary "mail_storage",
      .open 1 .primary "mail_storage", .destroy 0]).cutOff = true ∧
    .storage 1 .primary ∈ (run Process.call (.start Nat Nat) [.open 0 .primary "mail_storage",
      .open 1 .primary "mail_storage", .destroy 0]).opened := by
  decide +kernel

end DovecotCeph
