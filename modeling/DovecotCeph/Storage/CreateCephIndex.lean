/-
  File:      DovecotCeph/Storage/CreateCephIndex.lean
  Subject:   `doveadm rmb create ceph index` (doveadm-rbox-plugin.cpp): the ceph index is removed
             and written again from the index records of the user's mailboxes.

  * `iterateListObjects`, `createBoxes`, `createCephIndexRun`: the nested loops. A mailbox that
    fails ends its namespace, and a virtual one fails; the oids of a mailbox cut short are kept for
    the next one; the exit code is that of the last mailbox.
  * `Scanned` says which records the loops get to look at;
  * **`index_complete_iff`**: when an exit code at or above zero means that the index is complete.
-/
import DovecotCeph.Storage.CheckIndices
import DovecotCeph.Librmb.CephIndexLog

namespace DovecotCeph

open Lib

/-! ## 1. The loops -/

/-- One round of the loop over the mails: a record without extension is skipped. -/
def insertRecord (objects : List String) : Option String → List String
  | none => objects
  | some oid => setInsert oid objects

/-- `iterate_list_objects`: return code and set of oids. -/
def iterateListObjects (b : IndexBox) (objects : List String) : Int × List String :=
  if b.isVirtual then (-1, objects)
  else if b.openFails then (-1, objects)
  else
    let objects := b.handed.foldl insertRecord objects
    if b.searchDeinit < 0 then (-1, objects)
    else if b.commitFails then (-1, objects)
    else (0, objects)

/-- The return code, the set of oids, and the index object. -/
structure CreateState where
  ret : Int
  objects : List String
  index : Option CephIndex
  deriving DecidableEq, Repr

/-- The loop over the listed mailboxes of a namespace. -/
def createBoxes : List IndexBox → CreateState → CreateState
  | [], st => st
  | b :: bs, st =>
    if b.selectable then
      let r := iterateListObjects b st.objects
      if r.1 < 0 then { st with ret := -1, objects := r.2 }
      else createBoxes bs ⟨r.1, [], cephIndexStep st.index (.appendSet r.2)⟩
    else createBoxes bs st

/-- One round of the loop over the namespaces; nobody asks whether the list was complete. -/
def createNamespace (st : CreateState) (ns : MailNamespace IndexBox) : CreateState :=
  createBoxes ns.listed st

/-- The namespaces of a user, whose index records hold guids. -/
structure IndexedUser where
  namespaces : List (MailNamespace IndexBox)
  oids : ∀ ns ∈ namespaces, ∀ b ∈ ns.boxes, ∀ oid, some oid ∈ b.records → IndexOid oid

/-- What the command leaves. -/
structure CreateResult where
  exitCode : Int
  index : Option CephIndex
  deriving DecidableEq, Repr

/-- **`cmd_rmb_create_ceph_index_run`** without full refresh, all operations on the index
    successful: `openRet` is the code of `open_connection_load_config`, `module` whether the
    metadata module was found; `none` where the process ends in `mail_namespace_find_inbox`. -/
def createCephIndexRun (openRet : Int) (module : Bool) (u : IndexedUser)
    (index : Option CephIndex) : Option CreateResult :=
  if openRet < 0 then some ⟨openRet, index⟩
  else if !module then some ⟨-1, index⟩
  else
    let index := cephIndexStep index .delete
    if u.namespaces.isEmpty then some ⟨0, index⟩
    else if (findInbox u.namespaces).isEmpty then none
    else
      let st := (findInbox u.namespaces).foldl createNamespace ⟨0, [], index⟩
      some ⟨st.ret, st.index⟩

/-! ## 2. What is scanned -/

namespace IndexBox

/-- The mailbox ends the loop over its namespace. -/
def stops (b : IndexBox) : Bool :=
  b.selectable && (b.isVirtual || b.openFails || b.handedOut.isSome || b.commitFails)

end IndexBox

/-- The oid is in a record the loops look at: of a mailbox in a namespace from the inbox one on,
    listed after mailboxes that do not stop the loop, opened, and handed out by its search. -/
def Scanned (namespaces : List (MailNamespace IndexBox)) (oid : String) : Prop :=
  ∃ ns ∈ findInbox namespaces, ∃ b ∈ upTo IndexBox.stops ns.listed, oid ∈ b.marks

/-- A selectable mailbox is listed. -/
def listsSelectable (ns : MailNamespace IndexBox) : Bool := ns.listed.any (·.selectable)

/-- The last namespace from the inbox one on with a selectable mailbox has one that stops. -/
def LastStops (namespaces : List (MailNamespace IndexBox)) : Prop :=
  ∃ ns, ((findInbox namespaces).filter listsSelectable).getLast? = some ns ∧
    ns.listed.any IndexBox.stops = true

/-- The exit code is at or above zero only if the index holds every oid of an index record of a
    selectable mailbox that is not virtual. -/
def CompleteOrReported (openRet : Int) (module : Bool) (u : IndexedUser)
    (index : Option CephIndex) : Prop :=
  ∀ r, createCephIndexRun openRet module u index = some r → 0 ≤ r.exitCode →
    ∀ oid, Referenced u.namespaces oid → oid ∈ cephIndexRead (r.index.getD [])

/-- The command fails before its loops. -/
def EarlyExit (openRet : Int) (module : Bool) (namespaces : List (MailNamespace IndexBox)) : Prop :=
  openRet < 0 ∨ module = false ∨ (namespaces ≠ [] ∧ findInbox namespaces = [])

section Boxes

variable {b : IndexBox} {objects : List String} {oid : String}

theorem mem_foldl_insertRecord (rs : List (Option String)) :
    oid ∈ rs.foldl insertRecord objects ↔ oid ∈ objects ∨ some oid ∈ rs := by
  induction rs generalizing objects with
  | nil => simp
  | cons r rs ih =>
      rw [List.foldl_cons, ih, List.mem_cons]
      cases r with
      | none => simp [insertRecord]
      | some o =>
          simp only [insertRecord, mem_setInsert, Option.some.injEq]
          tauto

theorem mem_marks_iff : oid ∈ b.marks ↔
    b.selectable = true ∧ b.isVirtual = false ∧ b.openFails = false ∧ some oid ∈ b.handed := by
  unfold IndexBox.marks
  cases b.selectable <;> cases b.isVirtual <;> cases b.openFails <;> simp

/-- `iterate_list_objects` of a selectable mailbox. -/
theorem iterateListObjects_spec (hs : b.selectable = true) (objects : List String) :
    (∀ oid, oid ∈ (iterateListObjects b objects).2 ↔ oid ∈ objects ∨ oid ∈ b.marks) ∧
      (iterateListObjects b objects).1 = if b.stops then -1 else 0 := by
  constructor
  · intro oid
    unfold iterateListObjects
    rw [mem_marks_iff, hs]
    cases b.isVirtual with
    | true => simp
    | false =>
        cases b.openFails with
        | true => simp
        | false =>
            simp only [Bool.false_eq_true, if_false, true_and]
            rw [← mem_foldl_insertRecord]
            split
            · exact Iff.rfl
            · split <;> exact Iff.rfl
  · unfold iterateListObjects IndexBox.stops IndexBox.searchDeinit
    rw [hs]
    cases b.isVirtual <;> cases b.openFails <;> cases b.handedOut <;> cases b.commitFails <;> simp

theorem IndexBox.stops_selectable (h : b.stops = true) : b.selectable = true := by
  unfold IndexBox.stops at h
  exact (Bool.and_eq_true_iff.mp h).1

theorem marks_unselectable (hs : b.selectable = false) : b.marks = [] := by
  simp [IndexBox.marks, hs]

end Boxes

/-! ## 3. What the loops leave -/

/-- The oid was found: it is in the index, or waits for the next mailbox. -/
def CreateState.Found (st : CreateState) (oid : String) : Prop :=
  oid ∈ st.objects ∨ oid ∈ cephIndexRead (st.index.getD [])

/-- What holds between the mailboxes: oids wait only after a failure. -/
structure CreateInv (st : CreateState) : Prop where
  text : IndexText (st.index.getD [])
  oids : ∀ oid ∈ st.objects, IndexOid oid
  flushed : 0 ≤ st.ret → st.objects = []

section Loops

variable {st : CreateState} {bs : List IndexBox} {nss : List (MailNamespace IndexBox)}

theorem createBoxes_ret (bs : List IndexBox) (st : CreateState) :
    (createBoxes bs st).ret = if bs.any IndexBox.stops then -1
      else if bs.any (·.selectable) then 0 else st.ret := by
  induction bs generalizing st with
  | nil => rfl
  | cons b bs ih =>
      rw [createBoxes, List.any_cons, List.any_cons]
      cases hs : b.selectable with
      | false =>
          have hstop : b.stops = false := by simp [IndexBox.stops, hs]
          rw [if_neg (by decide), ih, hstop, Bool.false_or, Bool.false_or]
      | true =>
          obtain ⟨_, hret⟩ := iterateListObjects_spec hs st.objects
          rw [if_pos rfl]
          cases hstop : b.stops with
          | true =>
              rw [hstop] at hret
              dsimp only
              rw [hret]
              rfl
          | false =>
              rw [hstop] at hret
              dsimp only
              rw [hret, if_neg (by decide), ih]
              simp

/-- **One namespace**: the mailboxes up to the first that stops are found. -/
theorem createBoxes_spec (h : CreateInv st) (hb : ∀ b ∈ bs, ∀ oid ∈ b.marks, IndexOid oid) :
    CreateInv (createBoxes bs st) ∧ ∀ oid, (createBoxes bs st).Found oid ↔
      st.Found oid ∨ ∃ b ∈ upTo IndexBox.stops bs, oid ∈ b.marks := by
  induction bs generalizing st with
  | nil => exact ⟨h, fun oid => by simp [createBoxes, upTo]⟩
  | cons b bs ih =>
      obtain ⟨hb₁, hb₂⟩ := List.forall_mem_cons.mp hb
      rw [createBoxes, upTo]
      cases hs : b.selectable with
      | false =>
          have hstop : b.stops = false := by simp [IndexBox.stops, hs]
          obtain ⟨hinv, hfound⟩ := ih h hb₂
          rw [if_neg (by decide), hstop, if_neg (by decide)]
          refine ⟨hinv, fun oid => (hfound oid).trans ?_⟩
          simp [marks_unselectable hs]
      | true =>
          obtain ⟨hmem, hret⟩ := iterateListObjects_spec hs st.objects
          have hoids : ∀ oid ∈ (iterateListObjects b st.objects).2, IndexOid oid := by
            intro oid ho
            rcases (hmem oid).mp ho with ho | ho
            · exact h.oids oid ho
            · exact hb₁ oid ho
          rw [if_pos rfl]
          cases hstop : b.stops with
          | true =>
              rw [hstop, if_pos rfl] at hret
              dsimp only
              rw [hret, if_pos (by decide), if_pos rfl]
              refine ⟨⟨h.text, hoids,
                fun h0 => absurd (show (0 : Int) ≤ -1 from h0) (by decide)⟩, fun oid => ?_⟩
              unfold CreateState.Found
              dsimp only
              rw [hmem oid]
              simp only [List.mem_singleton, exists_eq_left]
              tauto
          | false =>
              rw [hstop, if_neg (by decide)] at hret
              dsimp only
              rw [hret, if_neg (by decide), if_neg (by decide)]
              -- everything that waited is appended
              have htext := h.text.concat hoids
              have hnext : CreateInv ⟨0, [],
                  cephIndexStep st.index (.appendSet (iterateListObjects b st.objects).2)⟩ :=
                ⟨htext, fun _ h => absurd h List.not_mem_nil, fun _ => rfl⟩
              obtain ⟨hinv, hfound⟩ := ih hnext hb₂
              refine ⟨hinv, fun oid => (hfound oid).trans ?_⟩
              have hread := @mem_read_concat (st.index.getD []) oid h.text
                (iterateListObjects b st.objects).2 hoids
              unfold CreateState.Found
              simp only [cephIndexStep, Option.getD_some, List.not_mem_nil, false_or, hread,
                hmem oid, List.mem_cons, exists_eq_or_imp]
              tauto

/-- **All namespaces.** -/
theorem createNamespaces_spec (h : CreateInv st)
    (hb : ∀ ns ∈ nss, ∀ b ∈ ns.listed, ∀ oid ∈ b.marks, IndexOid oid) :
    CreateInv (nss.foldl createNamespace st) ∧ ∀ oid, (nss.foldl createNamespace st).Found oid ↔
      st.Found oid ∨ ∃ ns ∈ nss, ∃ b ∈ upTo IndexBox.stops ns.listed, oid ∈ b.marks := by
  induction nss generalizing st with
  | nil => exact ⟨h, fun oid => by simp⟩
  | cons ns nss ih =>
      obtain ⟨hb₁, hb₂⟩ := List.forall_mem_cons.mp hb
      obtain ⟨hinv, hfound⟩ := createBoxes_spec h hb₁
      obtain ⟨hinv', hfound'⟩ := ih hinv hb₂
      refine ⟨hinv', fun oid => (hfound' oid).trans ?_⟩
      rw [hfound oid, or_assoc]
      simp only [List.mem_cons, exists_eq_or_imp]

/-- **The exit code** is that of the last namespace with a selectable mailbox. -/
theorem createNamespaces_ret (h : st.ret = 0) (nss : List (MailNamespace IndexBox)) :
    (nss.foldl createNamespace st).ret < 0 ↔
      ∃ ns, (nss.filter listsSelectable).getLast? = some ns ∧
        ns.listed.any IndexBox.stops = true := by
  induction nss using List.reverseRecOn with
  | nil => simp [h]
  | append_singleton nss ns ih =>
      rw [List.foldl_append, List.foldl_cons, List.foldl_nil, List.filter_append,
        show (createNamespace (nss.foldl createNamespace st) ns).ret = _ from createBoxes_ret _ _]
      by_cases hsel : listsSelectable ns = true
      · rw [List.filter_cons_of_pos hsel, List.filter_nil, List.getLast?_concat,
          if_pos (show ns.listed.any (·.selectable) = true from hsel)]
        by_cases hstop : ns.listed.any IndexBox.stops = true
        · rw [if_pos hstop]
          exact iff_of_true (by decide) ⟨ns, rfl, hstop⟩
        · rw [if_neg hstop]
          refine iff_of_false (by decide) fun hex => ?_
          obtain ⟨ns', hns, hstop'⟩ := hex
          cases hns
          exact hstop hstop'
      · have hstop : ¬ ns.listed.any IndexBox.stops = true := by
          intro hstop
          obtain ⟨b, hb, hb'⟩ := List.any_eq_true.mp hstop
          exact hsel (List.any_eq_true.mpr ⟨b, hb, IndexBox.stops_selectable hb'⟩)
        rw [List.filter_cons_of_neg hsel, List.filter_nil, List.append_nil, if_neg hstop,
          if_neg (show ¬ ns.listed.any (·.selectable) = true from hsel)]
        exact ih

end Loops

/-! ## 4. The command -/

/-- What is marked in a user's mailboxes are guids. -/
theorem IndexedUser.marks_oids (u : IndexedUser) {ns : MailNamespace IndexBox}
    (hns : ns ∈ findInbox u.namespaces) {b : IndexBox} (hb : b ∈ ns.listed) {oid : String}
    (ho : oid ∈ b.marks) : IndexOid oid := by
  have hbox : b ∈ ns.boxes := by
    unfold MailNamespace.listed at hb
    split at hb
    · exact hb
    · exact List.mem_of_mem_take hb
  have hrec : some oid ∈ b.records := by
    have hh := (mem_marks_iff.mp ho).2.2.2
    unfold IndexBox.handed at hh
    split at hh
    · exact hh
    · exact List.mem_of_mem_take hh
  exact u.oids ns (mem_of_findInbox hns) b hbox oid hrec

/-- **Past its early exits** the command finds just what is scanned, and its exit code is negative
    only if the last namespace stops. -/
theorem createCephIndexRun_spec (openRet : Int) (module : Bool) (u : IndexedUser)
    (index : Option CephIndex) (h : ¬ EarlyExit openRet module u.namespaces) :
    ∃ r, createCephIndexRun openRet module u index = some r ∧
      (r.exitCode < 0 ↔ LastStops u.namespaces) ∧
      (0 ≤ r.exitCode →
        ∀ oid, oid ∈ cephIndexRead (r.index.getD []) ↔ Scanned u.namespaces oid) := by
  have hopen : ¬ openRet < 0 := fun hlt => h (.inl hlt)
  have hmodule : ¬ (!module) = true := by
    intro hm
    exact h (.inr (.inl (by simpa using hm)))
  let st₀ : CreateState := ⟨0, [], none⟩
  have hinv₀ : CreateInv st₀ := ⟨indexText_nil, nofun, fun _ => rfl⟩
  have hoids : ∀ ns ∈ findInbox u.namespaces, ∀ b ∈ ns.listed, ∀ oid ∈ b.marks, IndexOid oid :=
    fun ns hns b hb oid ho => u.marks_oids hns hb ho
  obtain ⟨hinv, hfound⟩ := createNamespaces_spec hinv₀ hoids
  have hret := @createNamespaces_ret st₀ rfl (findInbox u.namespaces)
  have hindex : 0 ≤ ((findInbox u.namespaces).foldl createNamespace st₀).ret →
      ∀ oid, oid ∈ cephIndexRead
        (((findInbox u.namespaces).foldl createNamespace st₀).index.getD []) ↔
          Scanned u.namespaces oid := by
    intro h0 oid
    have hf := hfound oid
    unfold CreateState.Found at hf
    rw [hinv.flushed h0] at hf
    have hnil : ¬ (oid ∈ st₀.objects ∨ oid ∈ cephIndexRead (st₀.index.getD [])) := by
      intro hmem
      rcases hmem with hmem | hmem <;> cases hmem
    rw [or_iff_right List.not_mem_nil, or_iff_right hnil] at hf
    exact hf
  unfold createCephIndexRun
  rw [if_neg hopen, if_neg hmodule]
  dsimp only
  by_cases hnil : u.namespaces = []
  · -- no namespace, nothing to do
    have hnone : findInbox u.namespaces = [] := by rw [hnil]; rfl
    rw [hnone] at hret hindex
    rw [hnil, if_pos List.isEmpty_nil]
    refine ⟨_, rfl, iff_of_false (Int.lt_irrefl 0) ?_, fun h0 oid => ?_⟩
    · intro hl
      obtain ⟨ns, hns, _⟩ := hl
      cases hns
    · rw [hnil] at hindex
      exact hindex (Int.le_refl 0) oid
  · have hinbox : findInbox u.namespaces ≠ [] := fun hi => h (.inr (.inr ⟨hnil, hi⟩))
    rw [if_neg (by simpa using hnil), if_neg (by simpa using hinbox)]
    exact ⟨_, rfl, hret, hindex⟩

/-- **The index is complete or the failure is reported, if and only if** the command fails early,
    the last namespace stops, or every oid of an index record is scanned somewhere. -/
theorem index_complete_iff (openRet : Int) (module : Bool) (u : IndexedUser)
    (index : Option CephIndex) :
    CompleteOrReported openRet module u index ↔
      EarlyExit openRet module u.namespaces ∨ LastStops u.namespaces ∨
        ∀ oid, Referenced u.namespaces oid → Scanned u.namespaces oid := by
  by_cases hearly : EarlyExit openRet module u.namespaces
  · refine iff_of_true ?_ (.inl hearly)
    intro r hr h0
    unfold createCephIndexRun at hr
    rcases hearly with hopen | hmodule | hinbox
    · rw [if_pos hopen] at hr
      cases hr
      exact absurd hopen (Int.not_lt.mpr h0)
    · split at hr
      case isTrue hopen =>
        cases hr
        exact absurd hopen (Int.not_lt.mpr h0)
      case isFalse =>
        rw [hmodule, if_pos Bool.not_false] at hr
        cases hr
        exact absurd (show (0 : Int) ≤ -1 from h0) (by decide)
    · split at hr
      case isTrue hopen =>
        cases hr
        exact absurd hopen (Int.not_lt.mpr h0)
      case isFalse =>
        split at hr
        case isTrue =>
          cases hr
          exact absurd (show (0 : Int) ≤ -1 from h0) (by decide)
        case isFalse =>
          dsimp only at hr
          rw [if_neg (by simpa using hinbox.1), if_pos (by simpa using hinbox.2)] at hr
          cases hr
  · obtain ⟨r, hr, hret, hindex⟩ := createCephIndexRun_spec openRet module u index hearly
    rw [or_iff_right hearly]
    constructor
    · intro h
      by_cases hl : LastStops u.namespaces
      · exact .inl hl
      · have h0 : 0 ≤ r.exitCode := Int.not_lt.mp fun hlt => hl (hret.mp hlt)
        exact .inr fun oid ho => (hindex h0 oid).mp (h r hr h0 oid ho)
    · intro h r' hr' h0 oid ho
      rw [hr] at hr'
      cases hr'
      rcases h with hl | hall
      · exact absurd (hret.mpr hl) (Int.not_lt.mpr h0)
      · exact (hindex h0 oid).mpr (hall oid ho)

/-- A user with a virtual mailbox before his only other one, and a second namespace. -/
def virtualFirst : IndexedUser where
  namespaces :=
    [⟨true, some "alice", [⟨true, true, false, [], none, false⟩,
        ⟨true, false, false, [some "a0"], none, false⟩], none⟩,
      ⟨false, some "alice", [⟨true, false, false, [some "b1"], none, false⟩], none⟩]
  oids := by
    intro ns hns b hb oid ho
    have hall : ∀ oid ∈ ["a0", "b1"], oid ≠ "" ∧ ',' ∉ oid.toList ∧ '\x00' ∉ oid.toList := by
      decide
    have hmem : oid ∈ ["a0", "b1"] := by
      simp only [List.mem_cons, List.not_mem_nil, or_false] at hns
      rcases hns with rfl | rfl
      · simp only [List.mem_cons, List.not_mem_nil, or_false] at hb
        rcases hb with rfl | rfl
        · cases ho
        · simp at ho
          simp [ho]
      · simp only [List.mem_cons, List.not_mem_nil, or_false] at hb
        subst hb
        simp at ho
        simp [ho]
    obtain ⟨h1, h2, h3⟩ := hall oid hmem
    exact ⟨h1, h2, h3⟩

/-- The mailbox behind the virtual one is left out, and the exit code is zero. -/
theorem mailbox_behind_virtual_left_out :
    ¬ CompleteOrReported 0 true virtualFirst none := by
  intro h
  have hrun : (createCephIndexRun 0 true virtualFirst none).map
      (fun r => (r.exitCode, cephIndexRead (r.index.getD []))) = some (0, ["b1"]) := by
    decide +kernel
  obtain ⟨r, hr, hval⟩ := Option.map_eq_some_iff.mp hrun
  obtain ⟨hcode, hread⟩ := Prod.mk.inj hval
  have hmem := h r hr (by rw [hcode]) "a0"
    ⟨_, List.mem_cons_self, ⟨true, false, false, [some "a0"], none, false⟩,
      List.mem_cons_of_mem _ List.mem_cons_self, rfl, rfl, List.mem_cons_self⟩
  rw [hread] at hmem
  exact absurd hmem (by decide)

end DovecotCeph
