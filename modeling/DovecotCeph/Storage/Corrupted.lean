/-
  File:      DovecotCeph/Storage/Corrupted.lean
  Subject:   A mailbox reported corrupted and the sync that follows (rbox-storage.cpp,
             rbox-sync.cpp): `corrupted_rebuild_count` belongs to the storage, is compared with
             the header of every mailbox and is zero after the first one.

  * `rboxSetMailboxCorrupted`, `rboxSyncRebuild`: the report, and what `rbox_sync_begin` does about
    it;
  * `countsAfter`: the `rebuild_count`s one call leaves; `AllRebuilt`: the states in which further
    calls rebuild nothing;
  * **`corrupted_box_rebuilt_iff`**: the sync rebuilds the mailbox exactly if that is the first one
    it visits or has the `rebuild_count` 0, and Dovecot does not overrule it.
-/
import DovecotCeph.Storage.RebuildForced
import Mathlib.Data.List.TakeWhile

namespace DovecotCeph

/-! ## 1. The report and the sync -/

section Model

variable {γ : Type} (E : RebuildEnv γ)

/-- `rbox_set_mailbox_corrupted`. -/
def rboxSetMailboxCorrupted (b : RebuildBox γ) (st : RebuildState γ) : RebuildState γ :=
  { st with store := { st.store with
      corrupted := if b.index.rebuildCount = 0 then 1 else b.index.rebuildCount } }

/-- Whether `rbox_sync_begin` rebuilds. `fsckd` is `MAIL_INDEX_HDR_FLAG_FSCKD` in the header of the
    index, where Dovecot has that flag; it overwrites the other reasons. -/
def wantsRebuild (force headerOk : Bool) (fsckd : Option Bool) (corrupted : Nat) : Bool :=
  fsckd.getD (force || corrupted ≠ 0 || !headerOk)

/-- The attempts of `rbox_sync_begin`, at most `n`. -/
def rebuildAttempts (force : Bool) : Nat → RebuildState γ → Option (Int × RebuildState γ)
  | 0, st => some (-1, st)
  | n + 1, st => (rboxStorageRebuildInContext E force st).2.bind fun r =>
      if 0 ≤ r.1 then some r else rebuildAttempts force n r.2

/-- `RBOX_REBUILD_COUNT`. -/
def rboxRebuildCount : Nat := 3

/-- The rebuild in `rbox_sync_begin`: `none` where the process ends. -/
def rboxSyncRebuild (force headerOk : Bool) (fsckd : Option Bool) (st : RebuildState γ) :
    Option (Int × RebuildState γ) :=
  if wantsRebuild force headerOk fsckd st.store.corrupted
  then rebuildAttempts E force rboxRebuildCount st
  else some (0, st)

/-- The mailboxes a sync visits. -/
def RebuildState.syncBoxes (st : RebuildState γ) : List (RebuildBox γ) :=
  selectable (findInbox st.namespaces)

/-- The guids of the mailboxes with their `rebuild_count`s. -/
def RebuildState.counts (st : RebuildState γ) : List (String × Nat) :=
  st.boxes.map fun b => (b.info.guid, b.index.rebuildCount)

/-- **The index of the mailbox was rebuilt**: `rbox_sync_update_header` has changed its
    `rebuild_count`. -/
def IndexRebuilt (guid : String) (st st' : RebuildState γ) : Prop :=
  ∃ n n', (guid, n) ∈ st.counts ∧ (guid, n') ∈ st'.counts ∧ n' ≠ n

/-- All mailboxes open, and all operations on them and on their mails succeed. -/
structure AllWork (st : RebuildState γ) : Prop where
  inbox : findInbox st.namespaces ≠ []
  listed : ∀ ns ∈ findInbox st.namespaces, ns.handedOut = none
  own : ∀ b ∈ st.syncBoxes, b.info.ownStorage = true ∧ b.info.isVirtual = false
  opens : ∀ b ∈ st.syncBoxes, ∀ p, b.info.opens p = true
  commits : ∀ b ∈ st.syncBoxes, ∀ p, b.info.commits p = true
  guids : (st.boxes.map (·.info.guid)).Nodup
  mails : ∀ m ∈ loaded E .first st.fresh, m.converts E = true ∧ m.uidReadable = true

end Model

/-! ## 2. The rebuild counts after a call -/

section Counts

variable {γ : Type} {E : RebuildEnv γ} {p : Pass} {force : Bool} {s₀ s s' : RebuildStore}
  {guids : List String} {b b' : RebuildBox γ} {bs bs' pre post : List (RebuildBox γ)}
  {st st' : RebuildState γ} {corrupted : Nat}

/-- The `rebuild_count` a visit leaves. -/
def countAfter (force : Bool) (corrupted : Nat) (b : RebuildBox γ) : Nat :=
  if alreadyRebuilt force corrupted b then b.index.rebuildCount
  else nextRebuildCount b.index.rebuildCount

/-- Those of a list of mailboxes: after the first one `corrupted_rebuild_count` is zero. -/
def countsAfter (force : Bool) : Nat → List (RebuildBox γ) → List (String × Nat)
  | _, [] => []
  | corrupted, b :: bs =>
    (b.info.guid, countAfter force corrupted b) :: countsAfter force 0 bs

theorem nextRebuildCount_ne (n : Nat) : nextRebuildCount n ≠ n ∧ nextRebuildCount n ≠ 0 := by
  unfold nextRebuildCount
  split <;> omega

theorem countAfter_ne_zero : countAfter force corrupted b ≠ 0 := by
  unfold countAfter
  split
  case isTrue h =>
    simp only [alreadyRebuilt, Bool.and_eq_true, decide_eq_true_eq] at h
    exact h.2
  case isFalse => exact (nextRebuildCount_ne _).2

/-- No visited mailbox is left with the count 0. -/
theorem countsAfter_ne_zero {guid : String} {n : Nat}
    (h : (guid, n) ∈ countsAfter force corrupted bs) : n ≠ 0 ∧ bs ≠ [] := by
  induction bs generalizing corrupted with
  | nil => cases h
  | cons b bs ih =>
      refine ⟨?_, List.cons_ne_nil _ _⟩
      rcases List.mem_cons.mp h with h | h
      · rw [(Prod.mk.inj h).2]
        exact countAfter_ne_zero
      · exact (ih h).1

theorem rebuild_count (hi : PassInv E p s₀ guids s)
    (hconv : ∀ m ∈ loaded E p s₀, m.converts E = true) (hcommit : b.info.commits p = true)
    (h : rboxSyncIndexRebuild E p force b s = some (b', s')) :
    b'.index.rebuildCount = countAfter force s.corrupted b := by
  unfold countAfter
  unfold rboxSyncIndexRebuild at h
  split at h
  case isTrue hskip =>
    cases h
    rw [if_pos hskip]
  case isFalse hgo =>
    obtain ⟨r, hr, h⟩ := Option.map_eq_some_iff.mp h
    obtain ⟨hb, _⟩ := Prod.mk.inj h
    have hok : r.ok = true := by
      cases hok : r.ok with
      | true => rfl
      | false =>
          rw [hi.mails] at hr
          obtain ⟨m', hm', _, hc⟩ := (entry_records hr).2 hok
          obtain ⟨m, hm, ho, hmeta⟩ := exists_of_mem_marked hm'
          have hm := hconv m hm
          rw [RadosMail.converts, ho, hmeta] at hm
          exact absurd (hm.symm.trans hc) (by decide)
    rw [hok, hcommit] at hb
    rw [← hb, if_neg hgo]
    rfl

/-- **The counts after visiting mailboxes.** -/
theorem visitBoxes_counts (hi : PassInv E p s₀ guids (loadMails E p s))
    (hconv : ∀ m ∈ loaded E p s₀, m.converts E = true)
    (hcommit : ∀ b ∈ bs, b.info.commits p = true)
    (h : visitBoxes E p force bs s = some (bs', s')) :
    bs'.map (fun b => (b.info.guid, b.index.rebuildCount)) = countsAfter force s.corrupted bs ∧
      (bs ≠ [] → s'.corrupted = 0) := by
  induction bs generalizing guids s bs' with
  | nil =>
      cases h
      exact ⟨rfl, fun hne => absurd rfl hne⟩
  | cons b bs ih =>
      obtain ⟨⟨b₁, s₁⟩, hb, h⟩ := Option.bind_eq_some_iff.mp h
      obtain ⟨⟨bs₁, s₂⟩, hr, h⟩ := Option.map_eq_some_iff.mp h
      cases h
      obtain ⟨hi₁, hc₁⟩ := passInv_rebuild hi hb
      have hcount := rebuild_count hi hconv (hcommit b List.mem_cons_self) hb
      rw [loadMails_corrupted] at hcount
      obtain ⟨hcounts, hzero⟩ := ih (passInv_load hi₁)
        (fun b' hb' => hcommit b' (List.mem_cons_of_mem _ hb')) hr
      refine ⟨?_, fun _ => ?_⟩
      · rw [List.map_cons, hcounts, hc₁, countsAfter, rebuild_info hb, hcount]
      · cases bs with
        | nil =>
            cases hr
            exact hc₁
        | cons b' bs => exact hzero (List.cons_ne_nil _ _)

theorem countsAfter_guids (bs : List (RebuildBox γ)) :
    (countsAfter force corrupted bs).map Prod.fst = bs.map (·.info.guid) := by
  induction bs generalizing corrupted with
  | nil => rfl
  | cons b bs ih => rw [countsAfter, List.map_cons, List.map_cons, ih]

/-- The count of one mailbox among others. -/
theorem mem_countsAfter : (b.info.guid, countAfter force (if pre = [] then corrupted else 0) b) ∈
    countsAfter force corrupted (pre ++ b :: post) := by
  induction pre generalizing corrupted with
  | nil =>
      rw [List.nil_append, countsAfter, if_pos rfl]
      exact List.mem_cons_self
  | cons a pre ih =>
      rw [List.cons_append, countsAfter, if_neg (List.cons_ne_nil _ _)]
      have hrest := @ih 0
      rw [ite_self] at hrest
      exact List.mem_cons_of_mem _ hrest

end Counts

/-! ## 3. States in which nothing is rebuilt -/

/-- Every mailbox a sync visits counts as rebuilt by someone else. -/
def AllRebuilt {γ : Type} (st : RebuildState γ) : Prop :=
  ∀ b ∈ st.syncBoxes, alreadyRebuilt false st.store.corrupted b = true

/-- The call has returned, left the mailboxes as they are, and the next one will too. -/
def Idle {γ : Type} (nss : List (MailNamespace (RebuildBox γ)))
    (r : Option (Int × RebuildState γ)) : Prop :=
  ∃ ret st', r = some (ret, st') ∧ st'.namespaces = nss ∧ AllRebuilt st'

section Idle

variable {γ : Type} {E : RebuildEnv γ} {p : Pass} {s : RebuildStore} {b : RebuildBox γ}
  {bs : List (RebuildBox γ)} {nss : List (MailNamespace (RebuildBox γ))} {st : RebuildState γ}
  {corrupted : Nat}

theorem alreadyRebuilt_zero : alreadyRebuilt false 0 b = true ↔ b.index.rebuildCount ≠ 0 := by
  simp [alreadyRebuilt]

theorem alreadyRebuilt_mono {corrupted' : Nat} (h : alreadyRebuilt false corrupted b = true)
    (hc : corrupted' = 0 ∨ corrupted' = corrupted) : alreadyRebuilt false corrupted' b = true := by
  rcases hc with rfl | rfl
  · simp only [alreadyRebuilt, Bool.and_eq_true, decide_eq_true_eq] at h
    exact alreadyRebuilt_zero.mpr h.2
  · exact h

theorem listed_append_unlisted (ns : MailNamespace (RebuildBox γ)) :
    ns.listed ++ ns.unlisted = ns.boxes := by
  unfold MailNamespace.listed MailNamespace.unlisted
  cases ns.handedOut with
  | none => exact List.append_nil _
  | some n => exact List.take_append_drop _ _

theorem repairBoxes_allRebuilt (h : ∀ b ∈ bs, b.info.selectable = true →
    alreadyRebuilt false s.corrupted b = true) :
    ∃ s', repairBoxes E p false bs s = some (bs, s') ∧
      (s'.corrupted = 0 ∨ s'.corrupted = s.corrupted) := by
  induction bs generalizing s with
  | nil => exact ⟨s, rfl, .inr rfl⟩
  | cons b bs ih =>
      have htail : ∀ b' ∈ bs, b'.info.selectable = true →
          alreadyRebuilt false s.corrupted b' = true := fun b' hb' =>
        h b' (List.mem_cons_of_mem _ hb')
      rw [repairBoxes]
      split
      case isTrue =>
        obtain ⟨s', hs', hc⟩ := ih htail
        rw [hs']
        exact ⟨s', rfl, hc⟩
      case isFalse hsel =>
        split
        case isTrue => exact ⟨s, rfl, .inr rfl⟩
        case isFalse =>
          have hb : alreadyRebuilt false (loadMails E p s).corrupted b = true := by
            rw [loadMails_corrupted]
            exact h b List.mem_cons_self (by simpa using hsel)
          obtain ⟨s', hs', hc⟩ := @ih { loadMails E p s with corrupted := 0 } fun b' hb' hsel' =>
            alreadyRebuilt_mono (htail b' hb' hsel') (.inl rfl)
          rw [rboxSyncIndexRebuild, if_pos hb, Option.bind_some, hs']
          exact ⟨s', rfl, .inl (hc.elim id id)⟩

theorem repairNamespaces_allRebuilt
    (h : ∀ b ∈ selectable nss, alreadyRebuilt false s.corrupted b = true) :
    ∃ s', repairNamespaces E p false nss s = some (nss, s') ∧
      (s'.corrupted = 0 ∨ s'.corrupted = s.corrupted) := by
  induction nss generalizing s with
  | nil => exact ⟨s, rfl, .inr rfl⟩
  | cons ns nss ih =>
      rw [selectable, List.flatMap_cons] at h
      have hlisted : ∀ b ∈ ns.listed, b.info.selectable = true →
          alreadyRebuilt false s.corrupted b = true := by
        intro b hb hsel
        refine h b (List.mem_append_left _ (List.mem_filter.mpr ⟨?_, hsel⟩))
        rw [← listed_append_unlisted]
        exact List.mem_append_left _ hb
      obtain ⟨s₁, hs₁, hc₁⟩ := @repairBoxes_allRebuilt γ E p s ns.listed hlisted
      obtain ⟨s₂, hs₂, hc₂⟩ := @ih s₁ fun b hb =>
        alreadyRebuilt_mono (h b (List.mem_append_right _ hb)) hc₁
      rw [repairNamespaces, repairNamespace, hs₁, Option.map_some, Option.bind_some, hs₂,
        Option.map_some, listed_append_unlisted]
      refine ⟨s₂, rfl, ?_⟩
      omega

theorem rebuildPass_allRebuilt (hinbox : findInbox st.namespaces ≠ []) (h : AllRebuilt st) :
    ∃ st', rebuildPass E p false st = some st' ∧ st'.namespaces = st.namespaces ∧
      AllRebuilt st' := by
  obtain ⟨s', hs', hc⟩ := @repairNamespaces_allRebuilt γ E p st.fresh _ h
  have hpass : rebuildPass E p false st = some ⟨st.namespaces, s'⟩ := by
    rw [rebuildPass, if_neg (by simpa using hinbox)]
    show (repairNamespaces E p false (findInbox st.namespaces) st.fresh).map _ = _
    rw [hs', Option.map_some, findInbox, List.takeWhile_append_dropWhile]
  exact ⟨_, hpass, rfl, fun b hb => alreadyRebuilt_mono (h b hb) hc⟩

theorem assignUnassigned_allRebuilt
    {again : RebuildState γ → List Rewrite × Option (Int × RebuildState γ)} (h : AllRebuilt st)
    (hagain : ∀ st', st'.namespaces = st.namespaces → AllRebuilt st' →
      Idle st.namespaces (again st').2) :
    Idle st.namespaces (assignUnassigned E p again st).2 := by
  unfold assignUnassigned
  split
  case isTrue => exact ⟨0, st, rfl, rfl, h⟩
  case isFalse =>
    split
    · exact ⟨0, st, rfl, rfl, h⟩
    · exact hagain _ rfl h

theorem rebuildAgain_allRebuilt (hinbox : findInbox st.namespaces ≠ []) (h : AllRebuilt st) :
    Idle st.namespaces (rebuildAgain E false st).2 := by
  obtain ⟨st', hpass, hnss, hset⟩ := @rebuildPass_allRebuilt γ E .second st hinbox h
  unfold rebuildAgain
  rw [hpass, ← hnss]
  exact assignUnassigned_allRebuilt hset fun st'' hnss'' hset'' => ⟨-1, st'', rfl, hnss'', hset''⟩

/-- Once the first half of a call has left a settled state, nothing changes any more. -/
theorem rebuildInContext_allRebuilt {st₁ : RebuildState γ} (hinbox : findInbox st₁.namespaces ≠ [])
    (hpass : rebuildPass E .first false st = some st₁) (h : AllRebuilt st₁) :
    Idle st₁.namespaces (rboxStorageRebuildInContext E false st).2 := by
  unfold rboxStorageRebuildInContext
  rw [hpass]
  refine assignUnassigned_allRebuilt h fun st' hnss hset => ?_
  rw [← hnss] at hinbox ⊢
  exact rebuildAgain_allRebuilt hinbox hset

theorem rebuildAttempts_succ {n : Nat}
    (hfirst : Idle nss (rboxStorageRebuildInContext E false st).2)
    (hrest : ∀ st', st'.namespaces = nss → AllRebuilt st' →
      Idle nss (rebuildAttempts E false n st')) :
    Idle nss (rebuildAttempts E false (n + 1) st) := by
  obtain ⟨ret, st', hr, hnss, hset⟩ := hfirst
  rw [rebuildAttempts, hr, Option.bind_some]
  split
  case isTrue => exact ⟨ret, st', rfl, hnss, hset⟩
  case isFalse => exact hrest st' hnss hset

theorem rebuildAttempts_allRebuilt (n : Nat) (hinbox : findInbox st.namespaces ≠ [])
    (h : AllRebuilt st) : Idle st.namespaces (rebuildAttempts E false n st) := by
  induction n generalizing st with
  | zero => exact ⟨-1, st, rfl, rfl, h⟩
  | succ n ih =>
      obtain ⟨st₁, hpass, hnss, hset⟩ := @rebuildPass_allRebuilt γ E .first st hinbox h
      rw [← hnss] at hinbox ⊢
      refine rebuildAttempts_succ (rebuildInContext_allRebuilt hinbox hpass hset)
        fun st' hnss' hset' => ?_
      rw [← hnss'] at hinbox ⊢
      exact ih hinbox hset'

/-- All attempts together leave the mailboxes as the first half of the first one does. -/
theorem rebuildAttempts_first {st₁ : RebuildState γ} (n : Nat)
    (hinbox : findInbox st₁.namespaces ≠ [])
    (hpass : rebuildPass E .first false st = some st₁) (h : AllRebuilt st₁) :
    Idle st₁.namespaces (rebuildAttempts E false (n + 1) st) := by
  refine rebuildAttempts_succ (rebuildInContext_allRebuilt hinbox hpass h) fun st' hnss hset => ?_
  rw [← hnss] at hinbox ⊢
  exact rebuildAttempts_allRebuilt n hinbox hset

end Idle

/-! ## 4. The first call after the report -/

section First

variable {γ : Type} {E : RebuildEnv γ} {b : RebuildBox γ} {st st' st₁ : RebuildState γ}

/-- The namespaces before the inbox one. -/
def RebuildState.before (st : RebuildState γ) : List (MailNamespace (RebuildBox γ)) :=
  st.namespaces.takeWhile fun ns => !ns.inboxUser

theorem boxes_split (st : RebuildState γ) : st.boxes = selectable st.before ++ st.syncBoxes := by
  unfold RebuildState.boxes RebuildState.before RebuildState.syncBoxes selectable findInbox
  rw [← List.flatMap_append, List.takeWhile_append_dropWhile]

/-- Namespaces that are those from the inbox one on, but for their indexes. -/
theorem findInbox_of_infos {nss nss' : List (MailNamespace (RebuildBox γ))}
    (h : nss'.map (·.map (·.info)) = (findInbox nss).map (·.map (·.info))) :
    findInbox nss' = nss' := by
  have hnot := List.head?_dropWhile_not (fun ns : MailNamespace (RebuildBox γ) => !ns.inboxUser) nss
  cases nss' with
  | nil => rfl
  | cons ns' rest' =>
      cases hf : findInbox nss with
      | nil =>
          rw [hf] at h
          cases h
      | cons ns rest =>
          rw [hf, List.map_cons, List.map_cons] at h
          have hhead : ns'.inboxUser = ns.inboxUser :=
            congrArg (fun i : MailNamespace BoxInfo => i.inboxUser) (List.cons.inj h).1
          rw [findInbox] at hf
          rw [hf] at hnot
          have hns : (!ns.inboxUser) = false := hnot
          rw [findInbox, List.dropWhile_cons_of_neg (by rw [hhead, hns]; decide)]

theorem AllWork.allEnter (hw : AllWork E st) (p : Pass) :
    AllEnter p (findInbox st.namespaces) := by
  intro ns hns
  refine ⟨hw.listed ns hns, fun b hb hsel => ?_⟩
  have hmem : b ∈ st.syncBoxes :=
    List.mem_flatMap.mpr ⟨ns, hns, List.mem_filter.mpr ⟨hb, hsel⟩⟩
  obtain ⟨hown, hvirt⟩ := hw.own b hmem
  rw [BoxInfo.enters, hown, hvirt, hw.opens b hmem p]
  rfl

/-- **The first half of the first call** returns, has left the counts `countsAfter`, and leaves
    nothing to do. -/
theorem rebuildPass_counts (hw : AllWork E st) :
    ∃ st₁, rebuildPass E .first false st = some st₁ ∧
      st₁.counts = (selectable st.before).map (fun b => (b.info.guid, b.index.rebuildCount)) ++
        countsAfter false st.store.corrupted st.syncBoxes ∧
      findInbox st₁.namespaces ≠ [] ∧ AllRebuilt st₁ := by
  cases hpass : rebuildPass E .first false st with
  | none =>
      -- only a uid that cannot be read ends the process
      rcases rebuildPass_none_iff.mp hpass with hnil | ⟨guid, _, pre, m, post, hsplit, _, _, hu⟩
      · exact absurd hnil hw.inbox
      · have hm : m ∈ loaded E .first st.fresh := by
          rw [hsplit]
          exact List.mem_append_right _ List.mem_cons_self
        exact absurd ((hw.mails m hm).2.symm.trans hu) (by decide)
  | some st₁ =>
      refine ⟨st₁, rfl, ?_⟩
      rw [rebuildPass, if_neg (by simpa using hw.inbox)] at hpass
      obtain ⟨⟨nss', s'⟩, hr, h⟩ := Option.map_eq_some_iff.mp hpass
      cases h
      have hvisit := repairNamespaces_visitBoxes (hw.allEnter .first) hr
      obtain ⟨hcounts, hzero⟩ := visitBoxes_counts (@passInv_start γ E .first st.fresh rfl)
        (fun m hm => (hw.mails m hm).1) (fun b hb => hw.commits b hb .first) hvisit
      have hinbox : findInbox (st.before ++ nss') = nss' := by
        have hdrop := findInbox_of_infos (repairNamespaces_infos hr)
        unfold findInbox at hdrop ⊢
        rw [List.dropWhile_append_of_pos fun ns hns => ?_, hdrop]
        have hbefore := @List.mem_takeWhile_imp _
          (fun ns : MailNamespace (RebuildBox γ) => !ns.inboxUser) _ _ hns
        exact hbefore
      refine ⟨?_, ?_, ?_⟩
      · show (selectable (st.before ++ nss')).map _ = _
        rw [selectable, List.flatMap_append, List.map_append]
        exact congrArg _ hcounts
      · show findInbox (st.before ++ nss') ≠ []
        rw [hinbox]
        intro hnil
        have hinfos := repairNamespaces_infos hr
        rw [hnil, List.map_nil] at hinfos
        exact hw.inbox (List.map_eq_nil_iff.mp hinfos.symm)
      · intro b hb
        have hb' : b ∈ selectable (findInbox (st.before ++ nss')) := hb
        rw [hinbox] at hb'
        have hmem : (b.info.guid, b.index.rebuildCount) ∈
            countsAfter false st.store.corrupted st.syncBoxes := by
          rw [← show _ = countsAfter false st.store.corrupted st.syncBoxes from hcounts]
          exact List.mem_map_of_mem hb'
        obtain ⟨hcount, hne⟩ := countsAfter_ne_zero hmem
        show alreadyRebuilt false s'.corrupted b = true
        rw [hzero hne]
        exact alreadyRebuilt_zero.mpr hcount

theorem AllWork.report (hw : AllWork E st) : AllWork E (rboxSetMailboxCorrupted b st) :=
  ⟨hw.inbox, hw.listed, hw.own, hw.opens, hw.commits, hw.guids, hw.mails⟩

theorem AllWork.counts_nodup (hw : AllWork E st) : (st.counts.map Prod.fst).Nodup := by
  rw [RebuildState.counts, List.map_map]
  exact hw.guids

theorem indexRebuilt_iff {guid : String} {n n' : Nat} (hs : (st.counts.map Prod.fst).Nodup)
    (hs' : (st'.counts.map Prod.fst).Nodup) (h : (guid, n) ∈ st.counts)
    (h' : (guid, n') ∈ st'.counts) : IndexRebuilt guid st st' ↔ n' ≠ n := by
  constructor
  · rintro ⟨m, m', hm, hm', hne⟩
    have hn : m = n := congrArg Prod.snd (List.inj_on_of_nodup_map hs hm h rfl)
    have hn' : m' = n' := congrArg Prod.snd (List.inj_on_of_nodup_map hs' hm' h' rfl)
    rw [← hn, ← hn']
    exact hne
  · exact fun hne => ⟨n, n', h, h', hne⟩

theorem countAfter_ne_iff {force : Bool} {corrupted : Nat} :
    countAfter force corrupted b ≠ b.index.rebuildCount ↔
      alreadyRebuilt force corrupted b = false := by
  unfold countAfter
  split
  case isTrue h => exact ⟨fun hne => absurd rfl hne, fun hf => absurd (h.symm.trans hf) (by decide)⟩
  case isFalse h => exact ⟨fun _ => Bool.eq_false_iff.mpr h, fun _ => (nextRebuildCount_ne _).1⟩

/-- The reported mailbox is not taken for one that somebody has rebuilt, if it is met with the
    count of the report. -/
theorem alreadyRebuilt_report :
    alreadyRebuilt false (rboxSetMailboxCorrupted b st).store.corrupted b = false := by
  simp only [alreadyRebuilt, rboxSetMailboxCorrupted]
  split
  case isTrue h => simp [h]
  case isFalse => simp

/-- **The first call rebuilds the reported mailbox** exactly if it is the first one visited, or
    visited with the count 0. -/
theorem first_rebuilds_iff (hw : AllWork E st) (hb : b ∈ st.boxes)
    (hcounts : st₁.counts =
      (selectable st.before).map (fun b => (b.info.guid, b.index.rebuildCount)) ++
        countsAfter false (rboxSetMailboxCorrupted b st).store.corrupted st.syncBoxes) :
    IndexRebuilt b.info.guid st st₁ ↔
      st.syncBoxes.head? = some b ∨ b ∈ st.syncBoxes ∧ b.index.rebuildCount = 0 := by
  have hnodup := hw.counts_nodup
  have hnodup₁ : (st₁.counts.map Prod.fst).Nodup := by
    rw [hcounts, List.map_append, countsAfter_guids, List.map_map]
    have hguids := hw.guids
    rw [boxes_split, List.map_append] at hguids
    exact hguids
  have hmem : (b.info.guid, b.index.rebuildCount) ∈ st.counts := List.mem_map_of_mem hb
  by_cases hsync : b ∈ st.syncBoxes
  · obtain ⟨pre, post, hsplit⟩ := List.append_of_mem hsync
    have hmem₁ : (b.info.guid, countAfter false
        (if pre = [] then (rboxSetMailboxCorrupted b st).store.corrupted else 0) b) ∈
        st₁.counts := by
      rw [hcounts, hsplit]
      exact List.mem_append_right _ mem_countsAfter
    rw [indexRebuilt_iff hnodup hnodup₁ hmem hmem₁, countAfter_ne_iff]
    cases pre with
    | nil =>
        rw [if_pos rfl, hsplit]
        exact ⟨fun _ => .inl rfl, fun _ => alreadyRebuilt_report⟩
    | cons a pre =>
        have hhead : st.syncBoxes.head? ≠ some b := by
          rw [hsplit]
          intro hab
          have hab : a = b := Option.some.inj hab
          have hguids := hw.guids
          rw [boxes_split, hsplit, hab, List.map_append] at hguids
          have hno := (List.nodup_append.mp hguids).2.1
          rw [List.cons_append, List.map_cons, List.nodup_cons] at hno
          exact hno.1 (List.mem_map_of_mem (List.mem_append_right _ List.mem_cons_self))
        rw [if_neg (List.cons_ne_nil _ _), ← Bool.not_eq_true, alreadyRebuilt_zero, not_not]
        exact ⟨fun h => .inr ⟨hsync, h⟩, fun h => (h.resolve_left hhead).2⟩
  · have hbefore : b ∈ selectable st.before := by
      rw [boxes_split] at hb
      exact (List.mem_append.mp hb).resolve_right hsync
    have hmem₁ : (b.info.guid, b.index.rebuildCount) ∈ st₁.counts := by
      rw [hcounts]
      exact List.mem_append_left _ (List.mem_map_of_mem hbefore)
    rw [indexRebuilt_iff hnodup hnodup₁ hmem hmem₁]
    refine ⟨fun h => absurd rfl h, fun h => absurd ?_ hsync⟩
    rcases h with h | h
    · exact List.mem_of_mem_head? h
    · exact h.1

end First

/-! ## 5. The reported mailbox -/

section Report

variable {γ : Type} {E : RebuildEnv γ} {headerOk : Bool} {fsckd : Option Bool} {b : RebuildBox γ}
  {st st' : RebuildState γ}

/-- After a report the sync rebuilds, unless Dovecot's own flag says no. -/
theorem wantsRebuild_report : wantsRebuild false headerOk fsckd
    (rboxSetMailboxCorrupted b st).store.corrupted = fsckd.getD true := by
  have hcorrupted : (rboxSetMailboxCorrupted b st).store.corrupted ≠ 0 := by
    show (if b.index.rebuildCount = 0 then 1 else b.index.rebuildCount) ≠ 0
    split <;> omega
  rw [wantsRebuild, decide_eq_true hcorrupted]
  rfl

theorem getD_true_eq : fsckd.getD true = true ↔ fsckd ≠ some false := by
  cases fsckd with
  | none => simp
  | some f => cases f <;> simp

/-- The counts a sync leaves that rebuilds: those of the first half of its first call. -/
theorem syncRebuild_counts (hw : AllWork E st) (hf : fsckd.getD true = true) :
    ∃ r st', rboxSyncRebuild E false headerOk fsckd (rboxSetMailboxCorrupted b st) = some (r, st') ∧
      st'.counts = (selectable st.before).map (fun b => (b.info.guid, b.index.rebuildCount)) ++
        countsAfter false (rboxSetMailboxCorrupted b st).store.corrupted st.syncBoxes := by
  obtain ⟨st₁, hpass, hcounts, hinbox, hset⟩ := rebuildPass_counts (@AllWork.report γ E b st hw)
  obtain ⟨ret, st₂, hr, hnss, _⟩ := rebuildAttempts_first 2 hinbox hpass hset
  have hsame : st₂.counts = st₁.counts := by
    unfold RebuildState.counts RebuildState.boxes
    rw [hnss]
  unfold rboxSyncRebuild
  rw [wantsRebuild_report, hf, if_pos rfl]
  exact ⟨ret, st₂, hr, hsame.trans hcounts⟩

theorem syncRebuild_idle (hf : fsckd.getD true = false) :
    rboxSyncRebuild E false headerOk fsckd (rboxSetMailboxCorrupted b st) =
      some (0, rboxSetMailboxCorrupted b st) := by
  unfold rboxSyncRebuild
  rw [wantsRebuild_report, hf, if_neg Bool.false_ne_true]

/-- The report itself rebuilds nothing. -/
theorem not_rebuilt_report (hw : AllWork E st) (hb : b ∈ st.boxes) :
    ¬ IndexRebuilt b.info.guid st (rboxSetMailboxCorrupted b st) := by
  have hmem : (b.info.guid, b.index.rebuildCount) ∈ st.counts := List.mem_map_of_mem hb
  exact fun h => (indexRebuilt_iff hw.counts_nodup hw.counts_nodup hmem hmem).mp h rfl

/-- **Which reports lead to a rebuild.** Everything opens and succeeds: the sync that follows
    rebuilds the reported mailbox exactly if Dovecot's own flag does not overrule the report and
    the mailbox is the first one the sync visits, or is visited and has the `rebuild_count` 0. -/
theorem corrupted_box_rebuilt_iff (E : RebuildEnv γ) (headerOk : Bool) (fsckd : Option Bool)
    (st : RebuildState γ) (b : RebuildBox γ) (hw : AllWork E st) (hb : b ∈ st.boxes) :
    (∃ r st', rboxSyncRebuild E false headerOk fsckd (rboxSetMailboxCorrupted b st) =
        some (r, st') ∧ IndexRebuilt b.info.guid st st') ↔
      fsckd ≠ some false ∧
        (st.syncBoxes.head? = some b ∨ b ∈ st.syncBoxes ∧ b.index.rebuildCount = 0) := by
  rw [← getD_true_eq]
  cases hf : fsckd.getD true with
  | true =>
      obtain ⟨r, st₁, hr, hcounts⟩ := @syncRebuild_counts γ E headerOk fsckd b st hw hf
      rw [hr, ← first_rebuilds_iff hw hb hcounts]
      constructor
      · rintro ⟨r', st', h, hi⟩
        cases h
        exact ⟨rfl, hi⟩
      · exact fun h => ⟨r, st₁, rfl, h.2⟩
  | false =>
      rw [syncRebuild_idle hf]
      constructor
      · rintro ⟨r', st', h, hi⟩
        cases h
        exact absurd hi (not_rebuilt_report hw hb)
      · exact fun h => absurd h.1 Bool.false_ne_true

def inboxBox : RebuildBox String := ⟨{ vname := "INBOX", guid := inboxGuid }, ⟨[], 1, 3⟩⟩

def jobsBox : RebuildBox String := ⟨{ vname := "Jobs", guid := workGuid }, ⟨[], 8, 5⟩⟩

/-- INBOX, and after it another mailbox with a mail; both have been rebuilt before. -/
def twoBoxState : RebuildState String where
  namespaces := [⟨true, none, [inboxBox, jobsBox], none⟩]
  store :=
    { objs := fun oid => if oid = firstOid then some (mailXattrs workGuid "7") else none
      oids := [firstOid]
      cephIndex := []
      corrupted := 0 }

theorem twoBoxState_allWork : AllWork hexEnv twoBoxState := by
  have hbox : ∀ b ∈ twoBoxState.syncBoxes, b = inboxBox ∨ b = jobsBox := by
    intro b hb
    have hb : b ∈ [inboxBox, jobsBox] := hb
    simpa using hb
  refine ⟨nofun, ?_, ?_, ?_, ?_, by decide, ?_⟩
  · intro ns hns
    cases hns with
    | head => rfl
    | tail _ h => cases h
  · intro b hb
    rcases hbox b hb with rfl | rfl <;> exact ⟨rfl, rfl⟩
  · intro b hb p
    rcases hbox b hb with rfl | rfl <;> rfl
  · intro b hb p
    rcases hbox b hb with rfl | rfl <;> rfl
  · intro m hm
    have hm : m ∈ [(⟨firstOid, mailXattrs workGuid "7", false⟩ : RadosMail)] := hm
    rw [List.mem_singleton.mp hm]
    exact ⟨by decide, by decide⟩

/-- INBOX is the first one. -/
theorem corrupted_inbox_rebuilt :
    ∃ r st', rboxSyncRebuild hexEnv false true none (rboxSetMailboxCorrupted inboxBox twoBoxState) =
      some (r, st') ∧ IndexRebuilt inboxBox.info.guid twoBoxState st' :=
  (corrupted_box_rebuilt_iff hexEnv true none twoBoxState inboxBox twoBoxState_allWork
    List.mem_cons_self).mpr ⟨nofun, .inl rfl⟩

/-- The other mailbox is met after INBOX: INBOX, with its count 3, is not rebuilt and sets
    `corrupted_rebuild_count` to zero, and for this the mailbox counts as rebuilt by someone
    else. -/
theorem corrupted_second_box_kept :
    AllWork hexEnv twoBoxState ∧ jobsBox ∈ twoBoxState.boxes ∧ ∀ fsckd,
      ¬ ∃ r st', rboxSyncRebuild hexEnv false true fsckd
        (rboxSetMailboxCorrupted jobsBox twoBoxState) = some (r, st') ∧
          IndexRebuilt jobsBox.info.guid twoBoxState st' := by
  refine ⟨twoBoxState_allWork, List.mem_cons_of_mem _ List.mem_cons_self, ?_⟩
  rintro fsckd ⟨r, st', h, hrebuilt⟩
  have hcounts : ∀ f : Option Bool, (rboxSyncRebuild hexEnv false true f
      (rboxSetMailboxCorrupted jobsBox twoBoxState)).map (fun r => r.2.counts) =
        some twoBoxState.counts := by
    rintro (_ | _ | _) <;> decide
  have hsame := hcounts fsckd
  rw [h, Option.map_some] at hsame
  obtain ⟨n, n', hn, hn', hne⟩ := hrebuilt
  rw [Option.some.inj hsame] at hn'
  have hnodup := twoBoxState_allWork.counts_nodup
  exact hne (congrArg Prod.snd (List.inj_on_of_nodup_map hnodup hn' hn rfl))

end Report

end DovecotCeph
