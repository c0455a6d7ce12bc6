/-
  File:      DovecotCeph/Librmb/CephIndex.lean
  Subject:   The ceph index of a user (rados-storage-impl.cpp, rados-util.cpp): one object with the
             oids of his mails as text, each followed by a comma.

  * `cephIndexAppend`, `cephIndexOverwrite`, `cephIndexRead`: the operations on the object;
  * `IndexText`: the texts they leave;
  * **`mem_read_concat`**, **`mem_read_overwrite`**: through `cephIndexRead` the object is a set of
    oids.
-/
import DovecotCeph.Lib.OrderedSet
import DovecotCeph.Lib.Text
import Mathlib.Data.List.TakeWhile
import Mathlib.Data.String.Basic

namespace DovecotCeph

/-! ## 1. The object -/

/-- The content of the index object, empty where there is none. -/
abbrev CephIndex := List Char

/-- `RadosUtils::convert_to_ceph_index`, of one oid or of a set in its order. -/
def convertToCephIndex (oids : List String) : CephIndex := oids.flatMap fun s => s.toList ++ [',']

/-- `RadosUtils::ceph_index_to_set`. -/
def cephIndexToSet (text : List Char) : List String :=
  Lib.orderedSet (((Lib.getlines ',' text).filter fun t => t ≠ []).map String.ofList)

/-- `RadosStorageImpl::ceph_index_append`. -/
def cephIndexAppend (index : CephIndex) (oid : String) : CephIndex :=
  index ++ convertToCephIndex [oid]

/-- `RadosStorageImpl::ceph_index_overwrite`. -/
def cephIndexOverwrite (oids : List String) : CephIndex := convertToCephIndex oids

/-- `RadosStorageImpl::ceph_index_read`. The text goes through `c_str()`. -/
def cephIndexRead (index : CephIndex) : List String :=
  cephIndexToSet (index.takeWhile (· ≠ '\x00'))

/-! ## 2. The set it stands for -/

/-- An oid that can stand in the index. -/
structure IndexOid (oid : String) : Prop where
  ne_empty : oid ≠ ""
  noComma : ',' ∉ oid.toList
  noNul : '\x00' ∉ oid.toList

/-- The text of an index object that only append and overwrite have written. -/
def IndexText (index : CephIndex) : Prop :=
  ∃ oids, index = convertToCephIndex oids ∧ ∀ oid ∈ oids, IndexOid oid

section Read

variable {index : CephIndex} {oid : String} {oids : List String}

theorem indexText_nil : IndexText [] := ⟨[], rfl, nofun⟩

theorem IndexText.concat (h : IndexText index) {new : List String}
    (hnew : ∀ oid ∈ new, IndexOid oid) : IndexText (index ++ convertToCephIndex new) := by
  obtain ⟨oids, rfl, hoids⟩ := h
  refine ⟨oids ++ new, List.flatMap_append.symm, fun s hs => ?_⟩
  rcases List.mem_append.mp hs with hs | hs
  · exact hoids s hs
  · exact hnew s hs

theorem IndexText.append (h : IndexText index) (ho : IndexOid oid) :
    IndexText (cephIndexAppend index oid) := by
  have hnew : ∀ s ∈ [oid], IndexOid s := by
    intro s hs
    rw [List.mem_singleton.mp hs]
    exact ho
  exact h.concat hnew

theorem indexText_overwrite (h : ∀ oid ∈ oids, IndexOid oid) :
    IndexText (cephIndexOverwrite oids) := ⟨oids, rfl, h⟩

/-- **What was overwritten with is read.** -/
theorem mem_read_overwrite (h : ∀ oid ∈ oids, IndexOid oid) :
    oid ∈ cephIndexRead (cephIndexOverwrite oids) ↔ oid ∈ oids := by
  have hnul : (convertToCephIndex oids).takeWhile (· ≠ '\x00') = convertToCephIndex oids := by
    refine List.takeWhile_eq_self_iff.mpr fun c hc => decide_eq_true ?_
    rintro rfl
    obtain ⟨s, hs, hc⟩ := List.mem_flatMap.mp hc
    rcases List.mem_append.mp hc with hc | hc
    · exact (h s hs).noNul hc
    · exact absurd (List.mem_singleton.mp hc) (by decide)
  have htokens : convertToCephIndex oids = (oids.map String.toList).flatMap (· ++ [',']) := by
    rw [convertToCephIndex, List.flatMap_map]
  have hlines : Lib.getlines ',' (convertToCephIndex oids) = oids.map String.toList := by
    rw [htokens]
    refine Lib.getlines_terminated fun t ht => ?_
    obtain ⟨s, hs, rfl⟩ := List.mem_map.mp ht
    exact (h s hs).noComma
  rw [cephIndexRead, cephIndexOverwrite, hnul, cephIndexToSet, hlines, Lib.mem_orderedSet]
  constructor
  · intro hmem
    obtain ⟨t, ht, rfl⟩ := List.mem_map.mp hmem
    obtain ⟨s, hs, rfl⟩ := List.mem_map.mp (List.mem_filter.mp ht).1
    rwa [String.ofList_toList]
  · intro hmem
    refine List.mem_map.mpr ⟨oid.toList, List.mem_filter.mpr ⟨List.mem_map_of_mem hmem, ?_⟩,
      String.ofList_toList⟩
    refine decide_eq_true fun hnil => (h oid hmem).ne_empty ?_
    rw [← String.ofList_toList (s := oid), hnil]

/-- **Appended oids are read with all others.** -/
theorem mem_read_concat (h : IndexText index) {new : List String}
    (hnew : ∀ oid ∈ new, IndexOid oid) :
    oid ∈ cephIndexRead (index ++ convertToCephIndex new) ↔
      oid ∈ cephIndexRead index ∨ oid ∈ new := by
  obtain ⟨oids, rfl, hoids⟩ := h
  have happend : convertToCephIndex oids ++ convertToCephIndex new =
      cephIndexOverwrite (oids ++ new) := List.flatMap_append.symm
  have hall : ∀ s ∈ oids ++ new, IndexOid s := by
    intro s hs
    rcases List.mem_append.mp hs with hs | hs
    · exact hoids s hs
    · exact hnew s hs
  have hold : oid ∈ cephIndexRead (convertToCephIndex oids) ↔ oid ∈ oids :=
    mem_read_overwrite hoids
  rw [happend, mem_read_overwrite hall, hold, List.mem_append]

theorem mem_read_append (h : IndexText index) {new : String} (hnew : IndexOid new) :
    oid ∈ cephIndexRead (cephIndexAppend index new) ↔ oid ∈ cephIndexRead index ∨ oid = new := by
  refine (mem_read_concat h fun s hs => ?_).trans (or_congr_right List.mem_singleton)
  rw [List.mem_singleton.mp hs]
  exact hnew

theorem indexOid_of_mem_read (h : IndexText index) (hmem : oid ∈ cephIndexRead index) :
    IndexOid oid := by
  obtain ⟨oids, rfl, hoids⟩ := h
  exact hoids oid ((mem_read_overwrite hoids).mp hmem)

theorem nodup_read (index : CephIndex) : (cephIndexRead index).Nodup := Lib.nodup_orderedSet _

theorem sorted_read (index : CephIndex) : (cephIndexRead index).Pairwise (· < ·) :=
  Lib.sorted_orderedSet _

end Read

end DovecotCeph
