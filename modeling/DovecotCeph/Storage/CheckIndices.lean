/-
  File:      DovecotCeph/Storage/CheckIndices.lean
  Subject:   `doveadm rmb check indices` (doveadm-rbox-plugin.cpp): list the user's objects, mark
             those an index record refers to, and with `-d` delete the others.

  * `iterateMailbox`, `checkNamespaceMailboxes`, `searchRun`: the three nested loops that collect
    the marks. The first mailbox that fails ends its namespace, and nobody reads the return code.
  * `checkIndicesRun`: the command with its deletion pass.
  * `Seen` says which records the loops get to look at; **`deletes_unreferenced_only_iff`**: no
    referenced object is deleted exactly if every one of them is seen, or the command ends early.
-/
import DovecotCeph.Lib.Run
import DovecotCeph.Storage.MailUser

namespace DovecotCeph

open Lib

/-! ## 1. The loops -/

/-- `RadosMail`, as the command uses it. -/
structure MailObject where
  oid : String
  indexRef : Bool := false
  deriving DecidableEq, Repr

/-- A mailbox as the command meets it: its list flags and kind, the outcomes of opening it, of
    the search and of the commit, and for each index record the oid of its extension, if it has
    one. `handedOut` is `none` for a complete search; a search cut short reports a failure at
    `mailbox_search_deinit`. -/
structure IndexBox where
  selectable : Bool
  isVirtual : Bool
  openFails : Bool
  records : List (Option String)
  handedOut : Option Nat
  commitFails : Bool

namespace IndexBox

/-- The records `mailbox_search_next` hands out. -/
def handed (b : IndexBox) : List (Option String) :=
  match b.handedOut with
  | none => b.records
  | some n => b.records.take n

/-- `mailbox_search_deinit`. -/
def searchDeinit (b : IndexBox) : Int :=
  match b.handedOut with
  | none => 0
  | some _ => -1

end IndexBox

/-- `find_if` by oid, then `set_index_ref(true)` on what it found. -/
def setIndexRef (oid : String) : List MailObject → List MailObject
  | [] => []
  | m :: ms => if m.oid = oid then { m with indexRef := true } :: ms else m :: setIndexRef oid ms

/-- One round of the loop over the mails: a record without extension is skipped. -/
def markRecord (ms : List MailObject) : Option String → List MailObject
  | none => ms
  | some oid => setIndexRef oid ms

/-- `iterate_mailbox`: return code and marked objects. -/
def iterateMailbox (b : IndexBox) (ms : List MailObject) : Int × List MailObject :=
  if b.isVirtual then (0, ms)
  else if b.openFails then (-1, ms)
  else
    let ms := b.handed.foldl markRecord ms
    if b.searchDeinit < 0 then (-1, ms)
    else if b.commitFails then (-1, ms)
    else (0, ms)

/-- The loop of `check_namespace_mailboxes` over the listed mailboxes. -/
def checkBoxes : List IndexBox → Int → List MailObject → Int × List MailObject
  | [], ret, ms => (ret, ms)
  | b :: bs, ret, ms =>
    if b.selectable then
      let r := iterateMailbox b ms
      if r.1 < 0 then (-1, r.2) else checkBoxes bs r.1 r.2
    else checkBoxes bs ret ms

/-- `check_namespace_mailboxes`. -/
def checkNamespaceMailboxes (ns : MailNamespace IndexBox) (ms : List MailObject) :
    Int × List MailObject :=
  let r := checkBoxes ns.listed 0 ms
  (if ns.iterDeinit < 0 then -1 else r.1, r.2)

/-! ## 2. The command -/

/-- The objects of the user's RADOS namespace, each listed once. -/
structure Listing where
  oids : List String
  nodup : oids.Nodup

/-- What the steps outside the loops answer: opening the connection and loading the configuration,
    and finding the namespace of the user, once for the search and once for the deletion. -/
structure CheckEnv where
  open1 : Int
  module1 : Bool
  open2 : Int
  module2 : Bool

/-- `cmd_rmb_search_run` without metadata: return code and objects; `none` where the process ends
    in `mail_namespace_find_inbox`, for there is no inbox namespace to find. -/
def searchRun (e : CheckEnv) (namespaces : List (MailNamespace IndexBox)) (l : Listing) :
    Option (Int × List MailObject) :=
  if e.open1 < 0 then some (e.open1, [])
  else if !e.module1 then some (-1, [])
  else
    let ms := l.oids.map fun oid => ({ oid := oid } : MailObject)
    if namespaces.isEmpty then some (0, ms)
    else if (findInbox namespaces).isEmpty then none
    else some (0, (findInbox namespaces).foldl (fun ms ns => (checkNamespaceMailboxes ns ms).2) ms)

/-- The outcome of the command: its exit code and the objects it issues a delete for. -/
structure CheckResult where
  exitCode : Int
  deleted : List String

/-- **`cmd_rmb_check_indices_run`**; `del` is the option `-d`. -/
def checkIndicesRun (del : Bool) (e : CheckEnv) (namespaces : List (MailNamespace IndexBox))
    (l : Listing) : Option CheckResult :=
  (searchRun e namespaces l).map fun r =>
    if r.1 < 0 then ⟨r.1, []⟩
    else if e.open2 < 0 then ⟨e.open2, []⟩
    else if !e.module2 then ⟨-1, []⟩
    else
      let deleted := if del then (r.2.filter fun m => !m.indexRef).map (·.oid) else []
      ⟨if deleted ≠ [] then 2 else if r.2.any fun m => !m.indexRef then 1 else r.1, deleted⟩

/-! ## 3. What is deleted -/

/-- The oid is in an index record of a selectable mailbox that is not virtual. -/
def Referenced (namespaces : List (MailNamespace IndexBox)) (oid : String) : Prop :=
  ∃ ns ∈ namespaces, ∃ b ∈ ns.boxes, b.selectable = true ∧ b.isVirtual = false ∧
    some oid ∈ b.records

/-- The mailbox fails when it is scanned. -/
def IndexBox.fails (b : IndexBox) : Bool :=
  b.selectable && !b.isVirtual && (b.openFails || b.handedOut.isSome || b.commitFails)

/-- The oid is in a record the scan looks at: of a mailbox in a namespace from the inbox one on,
    listed after successful mailboxes only, opened, and handed out by its search. -/
def Seen (namespaces : List (MailNamespace IndexBox)) (oid : String) : Prop :=
  ∃ ns ∈ findInbox namespaces, ∃ pre b post, ns.listed = pre ++ b :: post ∧
    (∀ b' ∈ pre, b'.fails = false) ∧
    b.selectable = true ∧ b.isVirtual = false ∧ b.openFails = false ∧ some oid ∈ b.handed

/-- The deletion pass is reached. -/
def DeletionReached (del : Bool) (e : CheckEnv) (namespaces : List (MailNamespace IndexBox)) :
    Prop :=
  del = true ∧ 0 ≤ e.open1 ∧ e.module1 = true ∧ (namespaces = [] ∨ findInbox namespaces ≠ []) ∧
    0 ≤ e.open2 ∧ e.module2 = true

/-- The oids `b` marks. -/
def IndexBox.marks (b : IndexBox) : List String :=
  if b.selectable && !b.isVirtual && !b.openFails then b.handed.filterMap id else []

/-- The oids the loops mark. -/
def markedOids (namespaces : List (MailNamespace IndexBox)) : List String :=
  (findInbox namespaces).flatMap fun ns => (upTo IndexBox.fails ns.listed).flatMap IndexBox.marks

/-- Set the mark of every object whose oid is in the list. -/
def markAll (oids : List String) (ms : List MailObject) : List MailObject :=
  ms.map fun m => if m.oid ∈ oids then { m with indexRef := true } else m

section Marks

variable {ms : List MailObject}

@[simp] theorem markAll_oids (oids : List String) (ms : List MailObject) :
    (markAll oids ms).map (·.oid) = ms.map (·.oid) := by
  unfold markAll
  rw [List.map_map]
  refine List.map_congr_left fun m _ => ?_
  show (if m.oid ∈ oids then _ else m).oid = m.oid
  split <;> rfl

@[simp] theorem markAll_nil (ms : List MailObject) : markAll [] ms = ms := by
  simp [markAll]

theorem markAll_append (xs ys : List String) (ms : List MailObject) :
    markAll ys (markAll xs ms) = markAll (xs ++ ys) ms := by
  unfold markAll
  rw [List.map_map]
  refine List.map_congr_left fun m _ => ?_
  simp only [Function.comp]
  by_cases hx : m.oid ∈ xs <;> by_cases hy : m.oid ∈ ys <;> simp [hx, hy]

/-- The first object with the oid is the only one. -/
theorem setIndexRef_eq (hn : (ms.map (·.oid)).Nodup) (oid : String) :
    setIndexRef oid ms = markAll [oid] ms := by
  induction ms with
  | nil => rfl
  | cons m ms ih =>
      have hn' := List.nodup_cons.mp hn
      unfold setIndexRef markAll
      by_cases h : m.oid = oid
      · have hrest : ∀ m' ∈ ms, m'.oid ≠ oid := by
          intro m' hm' e
          refine hn'.1 ?_
          show m.oid ∈ _
          rw [h, ← e]
          exact List.mem_map_of_mem hm'
        have hid : ms.map (fun m => if m.oid ∈ [oid] then { m with indexRef := true } else m) =
            ms := by
          conv_rhs => rw [← List.map_id ms]
          refine List.map_congr_left fun m' hm' => ?_
          simp [hrest m' hm']
        rw [if_pos h, List.map_cons, hid]
        simp [h]
      · rw [if_neg h, List.map_cons, ih hn'.2]
        simp [h, markAll]

theorem foldl_markRecord_eq (hn : (ms.map (·.oid)).Nodup) (rs : List (Option String)) :
    rs.foldl markRecord ms = markAll (rs.filterMap id) ms := by
  induction rs generalizing ms with
  | nil => simp
  | cons r rs ih =>
      cases r with
      | none => exact ih hn
      | some oid =>
          have hm : markRecord ms (some oid) = markAll [oid] ms := setIndexRef_eq hn oid
          rw [List.foldl_cons, hm, ih (by rw [markAll_oids]; exact hn), markAll_append]
          rfl

/-- `iterate_mailbox` of a selectable mailbox marks what it marks, whatever code it returns. -/
theorem iterateMailbox_eq (hn : (ms.map (·.oid)).Nodup) {b : IndexBox} (hs : b.selectable = true) :
    (iterateMailbox b ms).2 = markAll b.marks ms ∧
      ((iterateMailbox b ms).1 < 0 ↔ b.fails = true) := by
  unfold iterateMailbox IndexBox.marks IndexBox.fails
  rw [hs]
  cases hv : b.isVirtual with
  | true => simp
  | false =>
      cases ho : b.openFails with
      | true => simp
      | false =>
          rw [foldl_markRecord_eq hn]
          cases hh : b.handedOut with
          | none => cases hc : b.commitFails <;> simp [IndexBox.searchDeinit, hh]
          | some n => simp [IndexBox.searchDeinit, hh]

/-- The loop over a namespace marks what the mailboxes up to the first failing one mark. -/
theorem checkBoxes_eq (hn : (ms.map (·.oid)).Nodup) (bs : List IndexBox) (ret : Int) :
    (checkBoxes bs ret ms).2 = markAll ((upTo IndexBox.fails bs).flatMap IndexBox.marks) ms := by
  induction bs generalizing ret ms with
  | nil => simp [checkBoxes, upTo]
  | cons b bs ih =>
      unfold checkBoxes upTo
      cases hs : b.selectable with
      | false =>
          have hf : b.fails = false := by simp [IndexBox.fails, hs]
          have hm : b.marks = [] := by simp [IndexBox.marks, hs]
          simp [hf, hm, ih hn]
      | true =>
          obtain ⟨hmarks, hret⟩ := iterateMailbox_eq hn hs
          by_cases hf : b.fails = true
          · simp [hf, hret.mpr hf, hmarks]
          · have hpos : ¬ ((iterateMailbox b ms).1 < 0) := fun h => hf (hret.mp h)
            simp only [if_true, hpos, if_false, hf, Bool.false_eq_true, List.flatMap_cons]
            rw [hmarks, ih (by rw [markAll_oids]; exact hn), markAll_append]

theorem foldl_checkNamespaces_eq (hn : (ms.map (·.oid)).Nodup)
    (nss : List (MailNamespace IndexBox)) :
    nss.foldl (fun ms ns => (checkNamespaceMailboxes ns ms).2) ms =
      markAll (nss.flatMap fun ns => (upTo IndexBox.fails ns.listed).flatMap IndexBox.marks)
        ms := by
  induction nss generalizing ms with
  | nil => simp
  | cons ns nss ih =>
      have h1 : (checkNamespaceMailboxes ns ms).2 =
          markAll ((upTo IndexBox.fails ns.listed).flatMap IndexBox.marks) ms :=
        checkBoxes_eq hn ns.listed 0
      rw [List.foldl_cons, h1, ih (by rw [markAll_oids]; exact hn), markAll_append,
        List.flatMap_cons]

/-- The marks the loops collect are those of the records they see. -/
theorem mem_markedOids_iff (namespaces : List (MailNamespace IndexBox)) (oid : String) :
    oid ∈ markedOids namespaces ↔ Seen namespaces oid := by
  simp only [markedOids, List.mem_flatMap]
  constructor
  · intro h
    obtain ⟨ns, hns, b, hb, ho⟩ := h
    obtain ⟨pre, post, e, hp⟩ := mem_upTo_iff.mp hb
    unfold IndexBox.marks at ho
    split at ho
    case isFalse => cases ho
    case isTrue hc =>
      simp only [Bool.and_eq_true, Bool.not_eq_true'] at hc
      refine ⟨ns, hns, pre, b, post, e, hp, hc.1.1, hc.1.2, hc.2, ?_⟩
      simpa using ho
  · intro h
    obtain ⟨ns, hns, pre, b, post, e, hp, hs, hv, ho, hr⟩ := h
    refine ⟨ns, hns, b, mem_upTo_iff.mpr ⟨pre, post, e, hp⟩, ?_⟩
    unfold IndexBox.marks
    rw [hs, hv, ho]
    simpa using hr

end Marks

section Deleted

variable {del : Bool} {e : CheckEnv} {namespaces : List (MailNamespace IndexBox)} {l : Listing}

/-- The oids of the objects without mark, after the oids in `oids` were marked. -/
theorem unmarked_oids (oids : List String) (xs : List String) (oid : String) :
    oid ∈ ((markAll oids (xs.map fun o => ({ oid := o } : MailObject))).filter
        fun m => !m.indexRef).map (·.oid) ↔ oid ∈ xs ∧ oid ∉ oids := by
  simp only [markAll, List.map_map, List.mem_map, List.mem_filter, Function.comp]
  constructor
  · intro h
    obtain ⟨m, ⟨⟨o, ho, rfl⟩, hr⟩, rfl⟩ := h
    by_cases hm : o ∈ oids
    · simp [hm] at hr
    · rw [if_neg hm]
      exact ⟨ho, hm⟩
  · intro h
    refine ⟨{ oid := oid }, ⟨⟨oid, h.1, by simp [h.2]⟩, rfl⟩, rfl⟩

/-- The search gets to its loops. -/
def SearchReached (e : CheckEnv) (namespaces : List (MailNamespace IndexBox)) : Prop :=
  0 ≤ e.open1 ∧ e.module1 = true ∧ (namespaces = [] ∨ findInbox namespaces ≠ [])

theorem searchRun_of_reached (h : SearchReached e namespaces) :
    searchRun e namespaces l = some (0, markAll (markedOids namespaces)
      (l.oids.map fun o => ({ oid := o } : MailObject))) := by
  have hn : ((l.oids.map fun o => ({ oid := o } : MailObject)).map (·.oid)).Nodup := by
    rw [List.map_map]
    exact (List.map_id l.oids).symm ▸ l.nodup
  obtain ⟨hopen, hmodule, hns⟩ := h
  unfold searchRun markedOids
  rw [if_neg (Int.not_lt.mpr hopen), hmodule, ← foldl_checkNamespaces_eq hn]
  rcases hns with rfl | hns
  · rfl
  · have hne : namespaces.isEmpty = false := by
      cases namespaces with
      | nil => exact absurd rfl hns
      | cons => rfl
    have hne' : (findInbox namespaces).isEmpty = false := List.isEmpty_eq_false_iff.mpr hns
    simp [hne, hne']

/-- A search that reports no error has gone through its loops. -/
theorem reached_of_searchRun {r : Int × List MailObject}
    (h : searchRun e namespaces l = some r) (hret : ¬ r.1 < 0) : SearchReached e namespaces := by
  unfold searchRun at h
  split at h
  case isTrue hopen =>
    cases h
    exact absurd hopen hret
  case isFalse hopen =>
    split at h
    case isTrue =>
      cases h
      exact absurd (show (-1 : Int) < 0 by decide) hret
    case isFalse hmodule =>
      refine ⟨Int.not_lt.mp hopen, by simpa using hmodule, ?_⟩
      dsimp only at h
      split at h
      case isTrue hnil => exact .inl (List.isEmpty_iff.mp hnil)
      case isFalse =>
        split at h
        case isTrue => cases h
        case isFalse hinbox => exact .inr fun hnil => hinbox (by rw [hnil]; rfl)

/-- The deletion pass after a search. -/
theorem checkIndicesRun_of_search {r : Int × List MailObject}
    (h : searchRun e namespaces l = some r) (oid : String) :
    (∃ c, checkIndicesRun del e namespaces l = some c ∧ oid ∈ c.deleted) ↔
      ¬ r.1 < 0 ∧ 0 ≤ e.open2 ∧ e.module2 = true ∧ del = true ∧
        oid ∈ (r.2.filter fun m => !m.indexRef).map (·.oid) := by
  rw [checkIndicesRun, h, Option.map_some]
  by_cases hret : r.1 < 0
  · simp [hret]
  · by_cases hopen : e.open2 < 0
    · simp [hret, hopen, Int.not_le.mpr hopen]
    · cases hmodule : e.module2 with
      | false => simp [hret, hopen]
      | true =>
          cases del with
          | false => simp [hret, hopen]
          | true => simp [hret, hopen, Int.not_lt.mp hopen]

/-- **What the command deletes**: if it gets there, the listed objects it did not see. -/
theorem checkIndicesRun_deleted (oid : String) :
    (∃ r, checkIndicesRun del e namespaces l = some r ∧ oid ∈ r.deleted) ↔
      DeletionReached del e namespaces ∧ oid ∈ l.oids ∧ ¬ Seen namespaces oid := by
  by_cases hreach : SearchReached e namespaces
  · rw [checkIndicesRun_of_search (searchRun_of_reached hreach), unmarked_oids,
      mem_markedOids_iff]
    obtain ⟨hopen, hmodule, hns⟩ := hreach
    constructor
    · intro h
      obtain ⟨_, hopen2, hmodule2, hdel, hoid⟩ := h
      exact ⟨⟨hdel, hopen, hmodule, hns, hopen2, hmodule2⟩, hoid⟩
    · intro h
      obtain ⟨⟨hdel, _, _, _, hopen2, hmodule2⟩, hoid⟩ := h
      exact ⟨Int.lt_irrefl 0, hopen2, hmodule2, hdel, hoid⟩
  · constructor
    · intro h
      obtain ⟨c, hc, hoid⟩ := h
      obtain ⟨r, hr, _⟩ := Option.map_eq_some_iff.mp hc
      have hret := ((checkIndicesRun_of_search hr oid).mp ⟨c, hc, hoid⟩).1
      exact absurd (reached_of_searchRun hr hret) hreach
    · intro h
      obtain ⟨⟨_, hopen, hmodule, hns, _, _⟩, _⟩ := h
      exact absurd ⟨hopen, hmodule, hns⟩ hreach

/-- **No referenced object is deleted -- exactly if the deletion pass is not reached or every
    referenced object listed is seen by the scan.** -/
theorem deletes_unreferenced_only_iff (del : Bool) (e : CheckEnv)
    (namespaces : List (MailNamespace IndexBox)) (l : Listing) :
    (∀ r, checkIndicesRun del e namespaces l = some r →
        ∀ oid ∈ r.deleted, ¬ Referenced namespaces oid) ↔
      (DeletionReached del e namespaces →
        ∀ oid ∈ l.oids, Referenced namespaces oid → Seen namespaces oid) := by
  constructor
  · intro h hd oid ho href
    by_contra hseen
    obtain ⟨r, hr, hm⟩ := (@checkIndicesRun_deleted del e namespaces l oid).mpr ⟨hd, ho, hseen⟩
    exact h r hr oid hm href
  · intro h r hr oid hm href
    obtain ⟨hd, ho, hseen⟩ := checkIndicesRun_deleted oid |>.mp ⟨r, hr, hm⟩
    exact hseen (h hd oid ho href)

end Deleted

/-- A user with one namespace of two mailboxes, the first of which cannot be opened. -/
def brokenFirstBox : List (MailNamespace IndexBox) :=
  [⟨true, some "alice", [⟨true, false, true, [some "a0"], none, false⟩,
    ⟨true, false, false, [some "b1"], none, false⟩], none⟩]

/-- The mail `b1` of the healthy second mailbox is deleted: its mailbox was never scanned. -/
theorem referenced_mail_deleted :
    ¬ ∀ r, checkIndicesRun true ⟨0, true, 0, true⟩ brokenFirstBox ⟨["b1"], by decide⟩ = some r →
        ∀ oid ∈ r.deleted, ¬ Referenced brokenFirstBox oid := by
  intro h
  refine h ⟨2, ["b1"]⟩ rfl "b1" (by decide) ?_
  exact ⟨_, List.mem_cons_self, ⟨true, false, false, [some "b1"], none, false⟩,
    List.mem_cons_of_mem _ List.mem_cons_self, rfl, rfl, by decide⟩

end DovecotCeph
