/-
  File:      DovecotCeph/Storage/RebuildKept.lean
  Subject:   What one call of the rebuild leaves with object search method 2: the ceph index is
             overwritten with the mails that could be loaded, and every mailbox has either the
             records of loaded mails or those it had.

  * `keptBoxes`: the mailboxes a call leaves as they are;
  * **`rebuildPass_index`**: the ceph index and the records after a call.
-/
import DovecotCeph.Storage.RebuildPass

namespace DovecotCeph

variable {γ : Type} (E : RebuildEnv γ) (p : Pass)

/-! ## 1. Kept mailboxes -/

/-- A visited mailbox is not rebuilt: someone else did, or a mail of it cannot be added, or the
    commit fails. -/
def keeps (ms : List RadosMail) (force : Bool) (corrupted : Nat) (b : RebuildBox γ) : Bool :=
  alreadyRebuilt force corrupted b || !b.info.commits p ||
    ms.any fun m => m.mailboxGuid = b.info.guid && !m.converts E

/-- The mailboxes of a list that are left as they are. -/
def keptBoxes (ms : List RadosMail) (force : Bool) :
    Nat → List (RebuildBox γ) → List (RebuildBox γ)
  | _, [] => []
  | corrupted, b :: bs =>
    if !b.info.selectable then b :: keptBoxes ms force corrupted bs
    else if !b.info.enters p then b :: bs
    else (if keeps E p ms force corrupted b then [b] else []) ++ keptBoxes ms force 0 bs

/-- The mailboxes of namespaces that are left as they are. -/
def keptNamespaces (ms : List RadosMail) (force : Bool) :
    Nat → List (MailNamespace (RebuildBox γ)) → List (RebuildBox γ)
  | _, [] => []
  | corrupted, ns :: nss =>
    keptBoxes E p ms force corrupted ns.listed ++ ns.unlisted ++
      keptNamespaces ms force (if entered p ns.listed = [] then corrupted else 0) nss

/-- All mailboxes. -/
def RebuildState.allBoxes (st : RebuildState γ) : List (RebuildBox γ) :=
  st.namespaces.flatMap (·.boxes)

/-- The mailboxes a call leaves as they are. -/
def RebuildState.kept (force : Bool) (st : RebuildState γ) : List (RebuildBox γ) :=
  (st.namespaces.takeWhile fun ns => !ns.inboxUser).flatMap (·.boxes) ++
    keptNamespaces E p (loaded E p st.fresh) force st.store.corrupted (findInbox st.namespaces)

/-- Every record of the mailbox is one of these mails. -/
def RecordsOf (ms : List RadosMail) (b : RebuildBox γ) : Prop :=
  ∀ r ∈ b.index.records, ∃ m ∈ ms, E.guidFromString m.oid = some r.oid

section Kept

variable {E p} {ms : List RadosMail} {force : Bool} {corrupted : Nat} {b : RebuildBox γ}
  {bs : List (RebuildBox γ)} {nss : List (MailNamespace (RebuildBox γ))}

theorem mem_of_keptBoxes (h : b ∈ keptBoxes E p ms force corrupted bs) : b ∈ bs := by
  induction bs generalizing corrupted with
  | nil => exact h
  | cons b' bs ih =>
      rw [keptBoxes] at h
      split at h
      case isTrue =>
        rcases List.mem_cons.mp h with rfl | h
        · exact List.mem_cons_self
        · exact List.mem_cons_of_mem _ (ih h)
      case isFalse =>
        split at h
        case isTrue => exact h
        case isFalse =>
          rcases List.mem_append.mp h with h | h
          · split at h
            case isTrue =>
              rw [List.mem_singleton.mp h]
              exact List.mem_cons_self
            case isFalse => exact absurd h List.not_mem_nil
          · exact List.mem_cons_of_mem _ (ih h)

theorem mem_boxes_iff {ns : MailNamespace (RebuildBox γ)} :
    b ∈ ns.boxes ↔ b ∈ ns.listed ∨ b ∈ ns.unlisted := by
  unfold MailNamespace.listed MailNamespace.unlisted
  cases ns.handedOut with
  | none => simp
  | some n => rw [← List.mem_append, List.take_append_drop]

theorem mem_of_keptNamespaces (h : b ∈ keptNamespaces E p ms force corrupted nss) :
    ∃ ns ∈ nss, b ∈ ns.boxes := by
  induction nss generalizing corrupted with
  | nil => exact absurd h List.not_mem_nil
  | cons ns nss ih =>
      rw [keptNamespaces] at h
      rcases List.mem_append.mp h with h | h
      · refine ⟨ns, List.mem_cons_self, mem_boxes_iff.mpr ?_⟩
        exact (List.mem_append.mp h).imp_left mem_of_keptBoxes
      · obtain ⟨ns', hns', hb⟩ := ih h
        exact ⟨ns', List.mem_cons_of_mem _ hns', hb⟩

/-- A kept mailbox is one of the mailboxes. -/
theorem mem_of_kept {st : RebuildState γ} (h : b ∈ st.kept E p force) : b ∈ st.allBoxes := by
  rcases List.mem_append.mp h with h | h
  · obtain ⟨ns, hns, hb⟩ := List.mem_flatMap.mp h
    exact List.mem_flatMap.mpr ⟨ns, (List.takeWhile_sublist _).subset hns, hb⟩
  · obtain ⟨ns, hns, hb⟩ := mem_of_keptNamespaces h
    exact List.mem_flatMap.mpr ⟨ns, mem_of_findInbox hns, hb⟩

end Kept

/-! ## 2. One mailbox -/

section Entry

variable {E p} {guid : String} {guids : List String} {ms : List RadosMail} {objs : MailXattrs}
  {uid : Nat} {r : EntryResult γ} {force : Bool} {s s' s₀ : RebuildStore} {b b' : RebuildBox γ}

/-- The records of a rebuilt mailbox are those of its mails, and the rebuild fails only at a mail
    that cannot be added. -/
theorem entry_records (h : rboxSyncRebuildEntry E p guid ms uid objs = some r) :
    (∀ record ∈ r.records, ∃ m ∈ ms, E.guidFromString m.oid = some record.oid) ∧
      (r.ok = false → ∃ m ∈ ms, m.mailboxGuid = guid ∧ m.converts E = false) := by
  induction ms generalizing uid objs r with
  | nil =>
      cases h
      exact ⟨nofun, nofun⟩
  | cons m ms ih =>
      obtain ⟨oid, metadata, restored⟩ := m
      by_cases hskip : (⟨oid, metadata, false⟩ : RadosMail).mailboxGuid ≠ guid ∨ restored = true
      · rw [@entry_skip γ E p guid ms ⟨oid, metadata, false⟩ objs uid restored hskip] at h
        obtain ⟨r', hr', rfl⟩ := Option.map_eq_some_iff.mp h
        obtain ⟨hrec, hok⟩ := ih hr'
        refine ⟨fun record hmem => ?_, fun hf => ?_⟩
        · obtain ⟨m, hm, hoid⟩ := hrec record hmem
          exact ⟨m, List.mem_cons_of_mem _ hm, hoid⟩
        · obtain ⟨m, hm, hg⟩ := hok hf
          exact ⟨m, List.mem_cons_of_mem _ hm, hg⟩
      · rw [not_or, not_not, Bool.not_eq_true] at hskip
        obtain ⟨hg, rfl⟩ := hskip
        cases hu : (⟨oid, metadata, false⟩ : RadosMail).uidReadable with
        | false =>
            rw [@entry_throws γ E p guid ms ⟨oid, metadata, false⟩ objs uid hg hu] at h
            cases h
        | true =>
            cases hc : (⟨oid, metadata, false⟩ : RadosMail).converts E with
            | false =>
                rw [@entry_breaks γ E p guid ms ⟨oid, metadata, false⟩ objs uid hg hu hc] at h
                cases h
                exact ⟨nofun, fun _ => ⟨_, List.mem_cons_self, hg, hc⟩⟩
            | true =>
                obtain ⟨record, _, hroid, _, hadd⟩ :=
                  @entry_adds γ E p guid ms ⟨oid, metadata, false⟩ objs uid hg hu hc
                rw [hadd] at h
                obtain ⟨r', hr', rfl⟩ := Option.map_eq_some_iff.mp h
                obtain ⟨hrec, hok⟩ := ih hr'
                refine ⟨fun record' hmem => ?_, fun hf => ?_⟩
                · rcases List.mem_cons.mp hmem with rfl | hmem
                  · exact ⟨_, List.mem_cons_self, hroid⟩
                  · obtain ⟨m, hm, hoid⟩ := hrec record' hmem
                    exact ⟨m, List.mem_cons_of_mem _ hm, hoid⟩
                · obtain ⟨m, hm, hg⟩ := hok hf
                  exact ⟨m, List.mem_cons_of_mem _ hm, hg⟩

/-- A marked mail is one of the mails. -/
theorem exists_of_mem_marked {before : List RadosMail} {m' : RadosMail}
    (h : m' ∈ marked E guids before ms) :
    ∃ m ∈ ms, m.oid = m'.oid ∧ m.metadata = m'.metadata := by
  obtain ⟨pre, m, post, rfl, rfl⟩ := mem_marked_iff.mp h
  exact ⟨m, List.mem_append_right _ List.mem_cons_self, rfl, rfl⟩

/-- A visited mailbox is kept, or has the records of loaded mails. -/
theorem rebuild_kept (hi : PassInv E p s₀ guids s)
    (h : rboxSyncIndexRebuild E p force b s = some (b', s')) :
    b' = b ∧ keeps E p (loaded E p s₀) force s.corrupted b = true ∨
      RecordsOf E (loaded E p s₀) b' := by
  unfold rboxSyncIndexRebuild at h
  split at h
  case isTrue hskip =>
    cases h
    exact .inl ⟨rfl, by rw [keeps, hskip]; rfl⟩
  case isFalse =>
    obtain ⟨r, hr, h⟩ := Option.map_eq_some_iff.mp h
    obtain ⟨hb, _⟩ := Prod.mk.inj h
    rw [hi.mails] at hr
    obtain ⟨hrec, hfail⟩ := entry_records hr
    split at hb
    case isTrue =>
      right
      rw [← hb]
      intro record hmem
      obtain ⟨m', hm', hoid⟩ := hrec record hmem
      obtain ⟨m, hm, ho, _⟩ := exists_of_mem_marked hm'
      exact ⟨m, hm, by rw [ho]; exact hoid⟩
    case isFalse hnot =>
      left
      refine ⟨hb.symm, ?_⟩
      rw [Bool.and_eq_true, not_and_or, Bool.not_eq_true, Bool.not_eq_true] at hnot
      rcases hnot with hok | hcommit
      · obtain ⟨m', hm', hg, hc⟩ := hfail hok
        obtain ⟨m, hm, ho, hmeta⟩ := exists_of_mem_marked hm'
        have hany : ((loaded E p s₀).any fun m =>
            m.mailboxGuid = b.info.guid && !m.converts E) = true := by
          refine List.any_eq_true.mpr ⟨m, hm, ?_⟩
          rw [RadosMail.mailboxGuid, RadosMail.converts, ho, hmeta]
          refine Bool.and_eq_true_iff.mpr ⟨decide_eq_true hg, ?_⟩
          rw [Bool.not_eq_true']
          exact hc
        rw [keeps, hany, Bool.or_true]
      · rw [keeps, hcommit, Bool.not_false, Bool.or_true, Bool.true_or]

end Entry

/-! ## 3. A call -/

/-- A store in a call whose ceph index was overwritten. -/
structure IndexInv (s₀ : RebuildStore) (guids : List String) (s : RebuildStore) : Prop
    extends PassInv E p s₀ guids s where
  index : s.cephIndex = (loaded E p s₀).map (·.oid)

section Call

variable {E p} {s₀ s s' : RebuildStore} {guids : List String} {force : Bool}
  {b b' : RebuildBox γ} {bs bs' : List (RebuildBox γ)}
  {nss nss' : List (MailNamespace (RebuildBox γ))} {st st' : RebuildState γ}

theorem indexInv_start (h2 : E.searchMethod = 2) (hw : E.overwrites p = true)
    (h : s₀.mails = []) : IndexInv E p s₀ [] (loadMails E p s₀) := by
  refine ⟨passInv_start h, ?_⟩
  unfold loadMails
  rw [h, if_pos (by rfl)]
  exact if_pos ⟨h2, hw⟩

theorem indexInv_load (hi : IndexInv E p s₀ guids s) : IndexInv E p s₀ guids (loadMails E p s) := by
  refine ⟨passInv_load hi.toPassInv, ?_⟩
  unfold loadMails
  split
  case isTrue hempty =>
    -- nothing was loaded, and nothing is now
    have hnil : loaded E p s₀ = [] := by
      have hmails := hi.mails
      rw [List.isEmpty_iff.mp hempty] at hmails
      rw [← List.length_eq_zero_iff, ← @length_marked γ E guids [], ← hmails]
      rfl
    have hreload : loadRadosMailMetadata E p s.objs (s.mailList E) = [] :=
      hi.toPassInv.reload hnil
    have hindex := hi.index
    dsimp only
    rw [hreload, hindex, hnil]
    split <;> rfl
  case isFalse => exact hi.index

theorem indexInv_rebuild (hi : IndexInv E p s₀ guids s)
    (h : rboxSyncIndexRebuild E p force b s = some (b', s')) :
    ∃ guids', IndexInv E p s₀ guids' s' ∧ s'.corrupted = 0 := by
  obtain ⟨hi', hc⟩ := passInv_rebuild hi.toPassInv h
  refine ⟨_, ⟨hi', ?_⟩, hc⟩
  rw [← hi.index]
  unfold rboxSyncIndexRebuild at h
  split at h
  · cases h
    rfl
  · obtain ⟨r, _, h⟩ := Option.map_eq_some_iff.mp h
    rw [← (Prod.mk.inj h).2]

/-- The mailboxes and the store after the loop of `repair_namespace`. -/
theorem repairBoxes_kept (hi : IndexInv E p s₀ guids (loadMails E p s))
    (h : repairBoxes E p force bs s = some (bs', s')) :
    (∀ b' ∈ bs', b' ∈ keptBoxes E p (loaded E p s₀) force s.corrupted bs ∨
      entered p bs ≠ [] ∧ RecordsOf E (loaded E p s₀) b') ∧
    (entered p bs = [] → s' = s) ∧
    (entered p bs ≠ [] → ∃ guids', IndexInv E p s₀ guids' s' ∧ s'.corrupted = 0) := by
  induction bs generalizing guids s bs' with
  | nil =>
      cases h
      exact ⟨nofun, fun _ => rfl, fun hne => absurd rfl hne⟩
  | cons b bs ih =>
      rw [repairBoxes] at h
      rw [keptBoxes]
      cases hsel : b.info.selectable with
      | false =>
          have hent : entered p (b :: bs) = entered p bs := by simp [entered, hsel]
          rw [if_pos (by rw [hsel]; rfl)] at h
          obtain ⟨⟨bs₁, s₁⟩, hr, h⟩ := Option.map_eq_some_iff.mp h
          cases h
          obtain ⟨hboxes, hidle, hinv⟩ := ih hi hr
          rw [hent]
          refine ⟨fun b' hb' => ?_, hidle, hinv⟩
          rcases List.mem_cons.mp hb' with rfl | hb'
          · exact .inl List.mem_cons_self
          · exact (hboxes b' hb').imp_left (List.mem_cons_of_mem _)
      | true =>
          rw [if_neg (by simp [hsel])] at h
          cases hin : b.info.enters p with
          | false =>
              have hent : entered p (b :: bs) = [] := by simp [entered, hsel, hin]
              rw [if_pos (by rw [hin]; rfl)] at h
              cases h
              exact ⟨fun b' hb' => .inl hb', fun _ => rfl, fun hne => absurd hent hne⟩
          | true =>
              have hent : entered p (b :: bs) = b :: entered p bs := by simp [entered, hsel, hin]
              rw [if_neg (by simp [hin])] at h
              obtain ⟨⟨b₁, s₁⟩, hb, h⟩ := Option.bind_eq_some_iff.mp h
              obtain ⟨⟨bs₁, s₂⟩, hr, h⟩ := Option.map_eq_some_iff.mp h
              cases h
              have hbox := rebuild_kept hi.toPassInv hb
              rw [loadMails_corrupted] at hbox
              obtain ⟨guids₁, hi₁, hc₁⟩ := indexInv_rebuild hi hb
              obtain ⟨hboxes, hidle, hinv⟩ := ih (indexInv_load hi₁) hr
              rw [hc₁] at hboxes
              rw [hent]
              refine ⟨fun b' hb' => ?_, fun hnil => absurd hnil (List.cons_ne_nil _ _),
                fun _ => ?_⟩
              · rcases List.mem_cons.mp hb' with rfl | hb'
                · rcases hbox with ⟨rfl, hkeep⟩ | hrec
                  · left
                    rw [if_pos hkeep]
                    exact List.mem_cons_self
                  · exact .inr ⟨List.cons_ne_nil _ _, hrec⟩
                · refine (hboxes b' hb').imp (List.mem_append_right _) ?_
                  exact And.imp_left fun _ => List.cons_ne_nil _ _
              · by_cases hrest : entered p bs = []
                · rw [hidle hrest]
                  exact ⟨guids₁, hi₁, hc₁⟩
                · exact hinv hrest

/-- The mailboxes and the store after the loop over the namespaces. -/
theorem repairNamespaces_kept (hi : IndexInv E p s₀ guids (loadMails E p s))
    (h : repairNamespaces E p force nss s = some (nss', s')) :
    (∀ b' ∈ nss'.flatMap (·.boxes),
      b' ∈ keptNamespaces E p (loaded E p s₀) force s.corrupted nss ∨
        (nss.flatMap fun ns => entered p ns.listed) ≠ [] ∧ RecordsOf E (loaded E p s₀) b') ∧
    ((nss.flatMap fun ns => entered p ns.listed) = [] → s' = s) ∧
    ((nss.flatMap fun ns => entered p ns.listed) ≠ [] →
      ∃ guids', IndexInv E p s₀ guids' s' ∧ s'.corrupted = 0) := by
  induction nss generalizing guids s nss' with
  | nil =>
      cases h
      exact ⟨nofun, fun _ => rfl, fun hne => absurd rfl hne⟩
  | cons ns nss ih =>
      obtain ⟨⟨ns', s₁⟩, hn, h⟩ := Option.bind_eq_some_iff.mp h
      obtain ⟨⟨nss₁, s₂⟩, hr, h⟩ := Option.map_eq_some_iff.mp h
      obtain ⟨⟨bs', s₃⟩, hb, hn⟩ := Option.map_eq_some_iff.mp hn
      cases h
      cases hn
      obtain ⟨hboxes, hidle, hinv⟩ := repairBoxes_kept hi hb
      rw [List.flatMap_cons, List.flatMap_cons, keptNamespaces]
      -- the namespaces that follow start from the store this one leaves
      have hrest : ∃ guids', IndexInv E p s₀ guids' (loadMails E p s₃) ∧
          s₃.corrupted = if entered p ns.listed = [] then s.corrupted else 0 := by
        by_cases hnil : entered p ns.listed = []
        · rw [hidle hnil, if_pos hnil]
          exact ⟨guids, hi, rfl⟩
        · obtain ⟨guids', hi', hc⟩ := hinv hnil
          rw [if_neg hnil]
          exact ⟨guids', indexInv_load hi', hc⟩
      obtain ⟨guids', hi', hc⟩ := hrest
      obtain ⟨hboxes', hidle', hinv'⟩ := ih hi' hr
      rw [hc] at hboxes'
      refine ⟨fun b' hb' => ?_, fun hnil => ?_, fun hne => ?_⟩
      · rcases List.mem_append.mp hb' with hb' | hb'
        · rcases List.mem_append.mp hb' with hb' | hb'
          · refine (hboxes b' hb').imp ?_ (And.imp_left ?_)
            · exact fun hk => List.mem_append_left _ (List.mem_append_left _ hk)
            · exact fun hne hnil => hne (List.append_eq_nil_iff.mp hnil).1
          · exact .inl (List.mem_append_left _ (List.mem_append_right _ hb'))
        · refine (hboxes' b' hb').imp (List.mem_append_right _) (And.imp_left ?_)
          exact fun hne hnil => hne (List.append_eq_nil_iff.mp hnil).2
      · obtain ⟨h1, h2⟩ := List.append_eq_nil_iff.mp hnil
        rw [hidle' h2, hidle h1]
      · by_cases h2 : (nss.flatMap fun ns => entered p ns.listed) = []
        · rw [hidle' h2]
          rw [h2, List.append_nil] at hne
          exact hinv hne
        · exact hinv' h2

/-- **The ceph index and the records after a call.** A call that visits a mailbox leaves the oids of
    the loaded mails in the ceph index; every mailbox is kept or has records of loaded mails. -/
theorem rebuildPass_index (h2 : E.searchMethod = 2) (hw : E.overwrites p = true)
    (h : rebuildPass E p force st = some st') :
    (∀ b' ∈ st'.allBoxes, b' ∈ st.kept E p force ∨
      visited p st.namespaces ≠ [] ∧ RecordsOf E (loaded E p st.fresh) b') ∧
    st'.store.cephIndex = if visited p st.namespaces = [] then st.store.cephIndex
      else (loaded E p st.fresh).map (·.oid) := by
  unfold rebuildPass at h
  split at h
  case isTrue => cases h
  case isFalse =>
    obtain ⟨⟨nss', s'⟩, hr, h⟩ := Option.map_eq_some_iff.mp h
    cases h
    obtain ⟨hboxes, hidle, hinv⟩ := repairNamespaces_kept
      (@indexInv_start γ E p st.fresh h2 hw rfl) hr
    constructor
    · intro b' hb'
      rw [RebuildState.allBoxes, List.flatMap_append] at hb'
      rcases List.mem_append.mp hb' with hb' | hb'
      · exact .inl (List.mem_append_left _ hb')
      · exact (hboxes b' hb').imp_left (List.mem_append_right _)
    · split
      case isTrue hnil =>
        have hstore : s' = st.fresh := hidle hnil
        rw [hstore]
        rfl
      case isFalse hne =>
        obtain ⟨_, hi, _⟩ := hinv hne
        exact hi.index

end Call

/-! ## 4. Calls that open every mailbox -/

/-- The selectable mailboxes of namespaces. -/
def selectable (nss : List (MailNamespace (RebuildBox γ))) : List (RebuildBox γ) :=
  nss.flatMap fun ns => ns.boxes.filter (·.info.selectable)

/-- The namespaces are listed completely, and no mailbox ends the loop. -/
def AllEnter (nss : List (MailNamespace (RebuildBox γ))) : Prop :=
  ∀ ns ∈ nss, ns.handedOut = none ∧
    ∀ b ∈ ns.boxes, b.info.selectable = true → b.info.enters p = true

/-- Mailboxes visited one after the other, with what becomes of them. -/
def visitBoxes (force : Bool) :
    List (RebuildBox γ) → RebuildStore → Option (List (RebuildBox γ) × RebuildStore)
  | [], s => some ([], s)
  | b :: bs, s => (rboxSyncIndexRebuild E p force b (loadMails E p s)).bind fun v =>
      (visitBoxes force bs v.2).map fun r => (v.1 :: r.1, r.2)

section Open

variable {E p} {force : Bool} {s s' : RebuildStore} {bs bs' : List (RebuildBox γ)}
  {nss nss' : List (MailNamespace (RebuildBox γ))} {st st' : RebuildState γ}

theorem visitBoxes_append (as bs : List (RebuildBox γ)) (s : RebuildStore) :
    visitBoxes E p force (as ++ bs) s = (visitBoxes E p force as s).bind fun r =>
      (visitBoxes E p force bs r.2).map fun q => (r.1 ++ q.1, q.2) := by
  induction as generalizing s with
  | nil =>
      show visitBoxes E p force bs s = (visitBoxes E p force bs s).map fun q => (q.1, q.2)
      exact Option.map_id'.symm
  | cons a as ih =>
      rw [List.cons_append, visitBoxes, visitBoxes, Option.bind_assoc]
      congr 1
      funext v
      rw [ih, Option.map_bind, Option.bind_map]
      congr 1
      funext r
      rw [Function.comp_apply, Option.map_map]
      rfl

theorem repairBoxes_visitBoxes
    (hall : ∀ b ∈ bs, b.info.selectable = true → b.info.enters p = true)
    (h : repairBoxes E p force bs s = some (bs', s')) :
    visitBoxes E p force (bs.filter (·.info.selectable)) s =
      some (bs'.filter (·.info.selectable), s') := by
  induction bs generalizing s bs' with
  | nil =>
      cases h
      rfl
  | cons b bs ih =>
      have hall' := fun b' hb' => hall b' (List.mem_cons_of_mem b hb')
      rw [repairBoxes] at h
      cases hsel : b.info.selectable with
      | false =>
          rw [if_pos (by rw [hsel]; rfl)] at h
          obtain ⟨⟨bs₁, s₁⟩, hr, h⟩ := Option.map_eq_some_iff.mp h
          cases h
          rw [List.filter_cons_of_neg (by simp [hsel]), List.filter_cons_of_neg (by simp [hsel])]
          exact ih hall' hr
      | true =>
          rw [if_neg (by simp [hsel]), if_neg (by simp [hall b List.mem_cons_self hsel])] at h
          obtain ⟨⟨b', s₁⟩, hb, h⟩ := Option.bind_eq_some_iff.mp h
          obtain ⟨⟨bs₁, s₂⟩, hr, h⟩ := Option.map_eq_some_iff.mp h
          cases h
          have hsel' : b'.info.selectable = true := by rw [rebuild_info hb, hsel]
          rw [List.filter_cons_of_pos (by exact hsel), List.filter_cons_of_pos (by exact hsel'),
            visitBoxes, hb, Option.bind_some, ih hall' hr]
          rfl

/-- The loops over namespaces visit their selectable mailboxes. -/
theorem repairNamespaces_visitBoxes (hall : AllEnter p nss)
    (h : repairNamespaces E p force nss s = some (nss', s')) :
    visitBoxes E p force (selectable nss) s = some (selectable nss', s') := by
  induction nss generalizing s nss' with
  | nil =>
      cases h
      rfl
  | cons ns nss ih =>
      obtain ⟨⟨ns', s₁⟩, hn, h⟩ := Option.bind_eq_some_iff.mp h
      obtain ⟨⟨nss₁, s₂⟩, hr, h⟩ := Option.map_eq_some_iff.mp h
      obtain ⟨⟨bs', s₃⟩, hb, hn⟩ := Option.map_eq_some_iff.mp hn
      cases h
      cases hn
      obtain ⟨hnone, hin⟩ := hall ns List.mem_cons_self
      have hlisted : ns.listed = ns.boxes := by rw [MailNamespace.listed, hnone]
      have hunlisted : ns.unlisted = [] := by rw [MailNamespace.unlisted, hnone]
      rw [hlisted] at hb
      have hrest := ih (fun ns' hns' => hall ns' (List.mem_cons_of_mem _ hns')) hr
      unfold selectable at hrest ⊢
      rw [List.flatMap_cons, List.flatMap_cons, visitBoxes_append, repairBoxes_visitBoxes hin hb,
        Option.bind_some, hrest, hunlisted, List.append_nil]
      rfl

end Open

end DovecotCeph
