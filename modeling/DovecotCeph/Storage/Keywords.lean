/-
  File:      DovecotCeph/Storage/Keywords.lean
  Subject:   Keywords as extended metadata: what a mail is saved with (rbox-save.cpp) and what the
             KEYWORD records of its syncs make of it (rbox-sync.cpp), under the default metadata
             module.

  * `KeywordsAre`: an omap that has exactly the keywords of a set;
  * `savedKeywords_are`, `keywordUpdate_are`: saving, and one record;
  * **`keywords_follow_index`**: after any run of records each omap is that of the index record.
-/
import DovecotCeph.Librmb.RadosUtil
import DovecotCeph.Storage.SyncUpdates
import Mathlib.Data.Finset.Basic
import Mathlib.Data.Finset.Dedup

namespace DovecotCeph

open Lib

/-! ## 1. Keywords -/

/-- The keywords of an index; their positions are handed on as an `int`. -/
structure KeywordNames where
  names : List String
  bound : names.length ≤ 2147483647

/-- A keyword index. -/
abbrev KeywordNames.Idx (K : KeywordNames) := Fin K.names.length

def KeywordNames.name (K : KeywordNames) (i : K.Idx) : String := K.names.get i

variable {K : KeywordNames}

/-- The key of a keyword in the omap. -/
def omapKey (i : K.Idx) : String := toString i.val

/-- The loop of `rbox_save_mail_set_metadata` over `keyword_indexes`: the extended metadata. -/
def saveKeywords (K : KeywordNames) (indexes : List K.Idx) : String → Option String :=
  indexes.foldl (fun m i => Function.update m (omapKey i) (some (K.name i))) fun _ => none

/-- A mail that has been saved: `save_metadata` on a new object, and its bytes. -/
def savedMail (K : KeywordNames) (indexes : List K.Idx) (x : String → Option String)
    (bytes : Bytes) : StoredMail :=
  let m : StoredMail := ⟨{ MailObj.empty with xattrs := x }, saveKeywords K indexes⟩
  let o := m.setMetadata .empty
  { o with toMailObj := o.toMailObj.write 0 bytes }

/-- A KEYWORD record of a sync. -/
structure KeywordRecord (K : KeywordNames) where
  uid1 : Nat
  uid2 : Nat
  idx : K.Idx
  add : Bool

namespace KeywordRecord

def Covers (k : KeywordRecord K) (uid : Nat) : Prop := k.uid1 ≤ uid ∧ uid ≤ k.uid2

instance (k : KeywordRecord K) (uid : Nat) : Decidable (k.Covers uid) :=
  inferInstanceAs (Decidable (_ ∧ _))

/-- The name that is written; none where the keyword is removed. -/
def value (k : KeywordRecord K) : Option String := if k.add then some (K.name k.idx) else none

def syncRec (k : KeywordRecord K) : SyncRec where
  uid1 := k.uid1
  uid2 := k.uid2
  type := match k.value with
    | some name => .keywordAdd k.idx name
    | none => .keywordRemove k.idx

/-- What the record makes of the keywords of the mail with the uid, in the index. -/
def apply (uid : Nat) (ks : Finset K.Idx) (k : KeywordRecord K) : Finset K.Idx :=
  if k.Covers uid then (if k.add then insert k.idx ks else ks.erase k.idx) else ks

end KeywordRecord

/-- **The omap has exactly these keywords.** -/
def KeywordsAre (ks : Finset K.Idx) (omap : String → Option String) : Prop :=
  ∀ key v, omap key = some v ↔ ∃ i ∈ ks, key = omapKey i ∧ v = K.name i

/-! ## 2. One object -/

section Omap

variable {ks : Finset K.Idx} {omap : String → Option String} {i : K.Idx}

theorem omapKey_injective {i j : K.Idx} (h : omapKey i = omapKey j) : i = j :=
  Fin.ext (toString_nat_injective h)

theorem KeywordsAre.insert (h : KeywordsAre ks omap) (i : K.Idx) :
    KeywordsAre (Insert.insert i ks) (Function.update omap (omapKey i) (some (K.name i))) := by
  intro key v
  by_cases hkey : key = omapKey i
  · rw [hkey, Function.update_self]
    constructor
    · intro hv
      cases hv
      exact ⟨i, Finset.mem_insert_self i ks, rfl, rfl⟩
    · rintro ⟨j, _, hj, rfl⟩
      rw [omapKey_injective hj]
  · rw [Function.update_of_ne hkey, h]
    constructor
    · rintro ⟨j, hj, hkj, hv⟩
      exact ⟨j, Finset.mem_insert_of_mem hj, hkj, hv⟩
    · rintro ⟨j, hj, hkj, hv⟩
      rcases Finset.mem_insert.mp hj with rfl | hj
      · exact absurd hkj hkey
      · exact ⟨j, hj, hkj, hv⟩

theorem KeywordsAre.erase (h : KeywordsAre ks omap) (i : K.Idx) :
    KeywordsAre (ks.erase i) (Function.update omap (omapKey i) none) := by
  intro key v
  by_cases hkey : key = omapKey i
  · rw [hkey, Function.update_self]
    refine ⟨fun hv => (by cases hv), ?_⟩
    rintro ⟨j, hj, hkj, _⟩
    exact absurd (omapKey_injective hkj).symm (Finset.mem_erase.mp hj).1
  · rw [Function.update_of_ne hkey, h]
    constructor
    · rintro ⟨j, hj, hkj, hv⟩
      refine ⟨j, Finset.mem_erase.mpr ⟨?_, hj⟩, hkj, hv⟩
      rintro rfl
      exact hkey hkj
    · rintro ⟨j, hj, hkj, hv⟩
      exact ⟨j, (Finset.mem_erase.mp hj).2, hkj, hv⟩

/-- A mail is saved with the keywords of its index record. -/
theorem savedKeywords_are (indexes : List K.Idx) :
    KeywordsAre indexes.toFinset (saveKeywords K indexes) := by
  induction indexes using List.reverseRecOn with
  | nil =>
      intro key v
      simp [saveKeywords]
  | append_singleton indexes i ih =>
      have hlast := ih.insert i
      have hset : (indexes ++ [i]).toFinset = Insert.insert i indexes.toFinset := by
        ext j
        rw [List.mem_toFinset, List.mem_append, List.mem_singleton, Finset.mem_insert,
          List.mem_toFinset]
        exact or_comm
      rw [hset, saveKeywords, List.foldl_append]
      exact hlast

theorem savedMail_omap (indexes : List K.Idx) (x : String → Option String) (bytes : Bytes) :
    (savedMail K indexes x bytes).omap = saveKeywords K indexes := by
  funext key
  exact Option.or_none

/-- One record, on the object of a mail it covers. -/
theorem keywordUpdate_are (k : KeywordRecord K) (h : KeywordsAre ks omap) :
    KeywordsAre (if k.add then Insert.insert k.idx ks else ks.erase k.idx)
      (Function.update omap (omapKey k.idx) k.value) := by
  unfold KeywordRecord.value
  split
  case isTrue => exact h.insert k.idx
  case isFalse => exact h.erase k.idx

end Omap

/-! ## 3. Runs of records -/

section Runs

variable {S : SyncSetup} {ctx : SyncContext} {w : SyncWorld}

/-- The object of each mail has the keywords `ks` says. -/
def KeywordsStored (S : SyncSetup) (v : SyncView) (ks : Nat → Finset K.Idx) (objs : StoredMails) :
    Prop :=
  ∀ seq r oid, v.lookup seq = some r → r.oid = some oid →
    ∃ o, objs (designated S.alt r.toAltRecord) oid = some o ∧ KeywordsAre (ks r.uid) o.omap

/-- **One record.** -/
theorem keywordRecord_step (hS : S.updatesKeywords = true) (hown : OwnObjects S.alt ctx.view)
    (k : KeywordRecord K) {ks : Nat → Finset K.Idx} (h : KeywordsStored S ctx.view ks w.objs) :
    (syncRecord S k.syncRec ctx w).1 = true ∧
      (syncRecord S k.syncRec ctx w).2.1.view = ctx.view ∧
      KeywordsStored S ctx.view (fun uid => k.apply uid (ks uid))
        (syncRecord S k.syncRec ctx w).2.2.objs := by
  have hrec : syncRecord S k.syncRec ctx w = (true, ctx.setAlt w
      (updateRange S (updateKeywordBody (omapKey k.idx) k.value) k.uid1 k.uid2 ctx w)) :=
    syncRecord_keyword hS k.idx k.value
  rw [hrec]
  refine ⟨rfl, rfl, fun seq r oid hr hoid => ?_⟩
  obtain ⟨o, ho, hks⟩ := h seq r oid hr hoid
  have hobj := @updateRange_own S _ k.uid1 k.uid2 ctx w _ seq r oid
    (updateKeywordBody_effect (omapKey k.idx) k.value) hown hr hoid
  show ∃ o, (updateRange S (updateKeywordBody (omapKey k.idx) k.value) k.uid1 k.uid2 ctx w).objs
    (designated S.alt r.toAltRecord) oid = some o ∧ KeywordsAre (k.apply r.uid (ks r.uid)) o.omap
  unfold KeywordRecord.apply
  by_cases hcov : k.Covers r.uid
  · rw [if_pos hcov]
    refine ⟨_, (hobj.trans (if_pos hcov)).trans (by rw [ho]), ?_⟩
    exact keywordUpdate_are k hks
  · rw [if_neg hcov]
    exact ⟨o, (hobj.trans (if_neg hcov)).trans ho, hks⟩

/-- The keywords of the index record after the records. -/
def indexKeywords (records : List (KeywordRecord K)) (uid : Nat) (ks : Finset K.Idx) :
    Finset K.Idx :=
  records.foldl (fun ks k => k.apply uid ks) ks

/-- **A run of records.** -/
theorem keywordRecords_run (hS : S.updatesKeywords = true) (hown : OwnObjects S.alt ctx.view)
    (records : List (KeywordRecord K)) {ks : Nat → Finset K.Idx}
    (h : KeywordsStored S ctx.view ks w.objs) :
    (syncRecords S (records.map (·.syncRec)) ctx w).1 = true ∧
      KeywordsStored S ctx.view (fun uid => indexKeywords records uid (ks uid))
        (syncRecords S (records.map (·.syncRec)) ctx w).2.2.objs := by
  induction records generalizing ctx w ks with
  | nil => exact ⟨rfl, h⟩
  | cons k records ih =>
      obtain ⟨hok, hview, hstored⟩ := keywordRecord_step hS hown k h
      rw [List.map_cons, syncRecords, if_pos hok]
      rw [← hview] at hown hstored ⊢
      exact ih hown hstored

/-- **Keywords follow the index**: if the object of each mail has the extended metadata it was saved
    with, after any KEYWORD records its omap has exactly the keywords of the index record. -/
theorem keywords_follow_index (hS : S.updatesKeywords = true) (hown : OwnObjects S.alt ctx.view)
    (indexes : Nat → List K.Idx)
    (hsaved : ∀ seq r oid, ctx.view.lookup seq = some r → r.oid = some oid →
      ∃ o, w.objs (designated S.alt r.toAltRecord) oid = some o ∧
        o.omap = saveKeywords K (indexes r.uid))
    (records : List (KeywordRecord K)) :
    (syncRecords S (records.map (·.syncRec)) ctx w).1 = true ∧
      KeywordsStored S ctx.view (fun uid => indexKeywords records uid (indexes uid).toFinset)
        (syncRecords S (records.map (·.syncRec)) ctx w).2.2.objs := by
  have hstored : KeywordsStored S ctx.view (fun uid => (indexes uid).toFinset) w.objs := by
    intro seq r oid hr hoid
    obtain ⟨o, ho, homap⟩ := hsaved seq r oid hr hoid
    refine ⟨o, ho, ?_⟩
    rw [homap]
    exact savedKeywords_are (indexes r.uid)
  exact keywordRecords_run hS hown records hstored

end Runs

/-- Two keywords. -/
def twoKeywords : KeywordNames := ⟨["$Forwarded", "Junk"], by decide⟩

def forwardedIdx : twoKeywords.Idx := ⟨0, by decide⟩

def junkIdx : twoKeywords.Idx := ⟨1, by decide⟩

/-- One mail, and its object, saved as junk. -/
def junkView : SyncView := ⟨[⟨⟨some "a1", false⟩, 5⟩], by decide⟩

def junkWorld : SyncWorld where
  objs pool oid :=
    if pool = .primary ∧ oid = "a1" then
      some (savedMail twoKeywords [junkIdx] (fun _ => none) [72, 105])
    else none
  ms := .primary

def keywordSetup : SyncSetup := { alt := { applied := true }, updatesKeywords := true }

/-- The mail is forwarded and is no junk any more. -/
def forwarded : List (KeywordRecord twoKeywords) :=
  [⟨1, 9, forwardedIdx, true⟩, ⟨5, 5, junkIdx, false⟩]

theorem junkView_lookup {seq : Nat} {r : ViewRecord} (h : junkView.lookup seq = some r) :
    seq = 1 ∧ r = ⟨⟨some "a1", false⟩, 5⟩ := by
  match seq, h with
  | 1, h => exact ⟨rfl, (Option.some.inj h).symm⟩

theorem forwarded_keywords :
    (syncRecords keywordSetup (forwarded.map (·.syncRec)) { view := junkView } junkWorld).1 = true ∧
      KeywordsStored keywordSetup junkView
        (fun uid => indexKeywords forwarded uid [junkIdx].toFinset)
        (syncRecords keywordSetup (forwarded.map (·.syncRec)) { view := junkView }
          junkWorld).2.2.objs := by
  refine @keywords_follow_index twoKeywords keywordSetup { view := junkView } junkWorld rfl ?_
    (fun _ => [junkIdx]) ?_ forwarded
  · intro seq seq' r r' hr hr' _ _ _
    rw [(junkView_lookup hr).1, (junkView_lookup hr').1]
  · intro seq r oid hr hoid
    obtain ⟨_, rfl⟩ := junkView_lookup hr
    cases hoid
    exact ⟨_, rfl, savedMail_omap [junkIdx] _ _⟩

end DovecotCeph
