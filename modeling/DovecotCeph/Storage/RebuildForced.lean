/-
  File:      DovecotCeph/Storage/RebuildForced.lean
  Subject:   A forced rebuild when everything opens and succeeds: the first call rebuilds every
             mailbox from its objects and gives the rest to INBOX, the second one does all of it
             again from the attributes the first one has left.

  * `ForcedSetup`: the users, mailboxes and objects this is about;
  * `RebuiltExactly`: each object has one index record, in the mailbox where it belongs;
  * **`visitAll_spec`**: the index records and the uids one call leaves;
  * **`forced_rebuild_exact_iff`**: the rebuild returns 0 with every mail in its place exactly if
    there are no orphans, or all uids the first call assigns can be read back by the second one.
-/
import DovecotCeph.Storage.RebuildKept
import DovecotCeph.Storage.RebuildOrphans
import Mathlib.Algebra.GroupWithZero.Nat
import Mathlib.Data.List.Count

namespace DovecotCeph

variable {γ : Type} (E : RebuildEnv γ) (p : Pass)

/-! ## 1. The records of a mailbox -/

/-- What a record holds of a mail. -/
def IndexRecord.ids (r : IndexRecord γ) : Option γ × Option γ := (some r.oid, some r.guid)

/-- Oid and guid of a mail, converted. -/
def RadosMail.ids (m : RadosMail) : Option γ × Option γ :=
  (E.guidFromString m.oid, (m.metadata "G").bind E.guidFromUuidString)

/-- The mails with a mailbox guid. -/
def mailsOf (guid : String) (ms : List RadosMail) : List RadosMail :=
  ms.filter fun m => m.mailboxGuid = guid

section Entry

variable {E p} {guid : String} {guids : List String} {before ms : List RadosMail}
  {objs : MailXattrs} {uid : Nat} {r : EntryResult γ}

/-- A mailbox that is rebuilt for the first time, from mails that can all be added: its records are
    those of its mails, and its mails have got consecutive uids. -/
theorem entry_fresh (hguid : guid ∉ guids) (hconv : ∀ m ∈ ms, m.converts E = true)
    (hupd : ∀ oid, E.updates p oid = true) (hnodup : (ms.map (·.oid)).Nodup) (huid : uid < 2 ^ 32)
    (h : rboxSyncRebuildEntry E p guid (marked E guids before ms) uid objs = some r) :
    r.ok = true ∧ r.records.map IndexRecord.ids = (mailsOf guid ms).map (RadosMail.ids E) ∧
      (∀ i m, (mailsOf guid ms)[i]? = some m →
        r.objs.attr m.oid "U" = some (toString ((uid + i) % 2 ^ 32))) ∧
      (∀ oid, oid ∉ (mailsOf guid ms).map (·.oid) → r.objs.attr oid "U" = objs.attr oid "U") := by
  induction ms generalizing before uid objs r with
  | nil =>
      cases h
      exact ⟨rfl, rfl, fun i m hm => by simp [mailsOf] at hm, fun _ _ => rfl⟩
  | cons m ms ih =>
      rw [List.map_cons, List.nodup_cons] at hnodup
      have hconv' : ∀ m ∈ ms, m.converts E = true := fun m' hm' =>
        hconv m' (List.mem_cons_of_mem _ hm')
      rw [marked] at h
      by_cases hg : m.mailboxGuid = guid
      · have hs : ¬ Restored E guids before m := fun hs => hguid (hg ▸ hs.1)
        have hof : mailsOf guid (m :: ms) = m :: mailsOf guid ms := by simp [mailsOf, hg]
        rw [decide_eq_false hs] at h
        cases hu : m.uidReadable with
        | false =>
            rw [entry_throws hg hu] at h
            cases h
        | true =>
            obtain ⟨record, hruid, hroid, hrguid, hadd⟩ := @entry_adds γ E p guid
              (marked E guids (before ++ [m]) ms) m objs uid hg hu (hconv m List.mem_cons_self)
            rw [hadd, if_pos (hupd m.oid)] at h
            obtain ⟨r', hr', rfl⟩ := Option.map_eq_some_iff.mp h
            obtain ⟨hok, hrec, huids, hframe⟩ := ih hconv' hnodup.2
              (Nat.mod_lt _ (by decide)) hr'
            have hmoid : m.oid ∉ (mailsOf guid ms).map (·.oid) := fun hmem =>
              hnodup.1 ((List.filter_sublist.map _).subset hmem)
            rw [hof]
            refine ⟨hok, ?_, ?_, ?_⟩
            · rw [List.map_cons, List.map_cons, hrec, IndexRecord.ids, RadosMail.ids, hroid, hrguid]
            · intro i m' hm'
              cases i with
              | zero =>
                  cases hm'
                  rw [hframe m.oid hmoid, attr_setXattr, if_pos ⟨rfl, rfl⟩, Nat.add_zero,
                    Nat.mod_eq_of_lt huid]
              | succ i =>
                  rw [List.getElem?_cons_succ] at hm'
                  rw [huids i m' hm', Nat.mod_add_mod, Nat.add_right_comm, Nat.add_assoc]
            · intro oid ho
              rw [List.map_cons, List.mem_cons, not_or] at ho
              rw [hframe oid ho.2, attr_setXattr, if_neg fun h => ho.1 h.1]
      · have hof : mailsOf guid (m :: ms) = mailsOf guid ms := by simp [mailsOf, hg]
        rw [entry_skip (.inl hg)] at h
        obtain ⟨r', hr', rfl⟩ := Option.map_eq_some_iff.mp h
        rw [hof]
        have hrest := ih hconv' hnodup.2 huid hr'
        exact hrest

end Entry

/-! ## 2. A call that opens every mailbox -/

/-- All mailboxes visited, with what becomes of them. -/
def visitAll : List (RebuildBox γ) → RebuildStore → Option (List (RebuildBox γ) × RebuildStore)
  | [], s => some ([], s)
  | b :: bs, s => (rboxSyncIndexRebuild E p true b (loadMails E p s)).bind fun v =>
      (visitAll bs v.2).map fun r => (v.1 :: r.1, r.2)

section VisitAll

variable {E p} {s₀ s s' : RebuildStore} {guids : List String} {b b' : RebuildBox γ}
  {bs bs' : List (RebuildBox γ)}

/-- Loaded mails with the same oid are the same. -/
theorem loaded_eq_of_oid {m m' : RadosMail} (hm : m ∈ loaded E p s) (hm' : m' ∈ loaded E p s)
    (h : m.oid = m'.oid) : m = m' :=
  List.inj_on_of_nodup_map (loaded_nodup s) hm hm' h

theorem mem_mailsOf {guid : String} {ms : List RadosMail} {m : RadosMail} :
    m ∈ mailsOf guid ms ↔ m ∈ ms ∧ m.mailboxGuid = guid := by
  simp [mailsOf, List.mem_filter]

/-- One mailbox of a forced rebuild. -/
theorem rebuild_fresh (hi : PassInv E p s₀ guids s)
    (hconv : ∀ m ∈ loaded E p s₀, m.converts E = true) (hupd : ∀ oid, E.updates p oid = true)
    (hguid : b.info.guid ∉ guids) (hcommit : b.info.commits p = true)
    (huid : b.index.firstUid < 2 ^ 32)
    (h : rboxSyncIndexRebuild E p true b s = some (b', s')) :
    PassInv E p s₀ (guids ++ [b.info.guid]) s' ∧ b'.info = b.info ∧
      b'.index.nextUid < 2 ^ 32 ∧
      b'.index.records.map IndexRecord.ids =
        (mailsOf b.info.guid (loaded E p s₀)).map (RadosMail.ids E) ∧
      (∀ i m, (mailsOf b.info.guid (loaded E p s₀))[i]? = some m →
        s'.objs.attr m.oid "U" = some (toString ((b.index.firstUid + i) % 2 ^ 32))) ∧
      (∀ oid, oid ∉ (mailsOf b.info.guid (loaded E p s₀)).map (·.oid) →
        s'.objs.attr oid "U" = s.objs.attr oid "U") := by
  have hforce : ¬ alreadyRebuilt true s.corrupted b = true := by simp [alreadyRebuilt]
  have hi' := (passInv_rebuild hi h).1
  rw [if_neg hforce] at hi'
  rw [rboxSyncIndexRebuild, if_neg hforce, hi.mails] at h
  obtain ⟨r, hr, h⟩ := Option.map_eq_some_iff.mp h
  obtain ⟨hok, hrec, huids, hframe⟩ := entry_fresh hguid hconv hupd (loaded_nodup _) huid hr
  rw [hok, hcommit] at h
  cases h
  exact ⟨hi', rfl, Nat.mod_lt _ (by decide), hrec, huids, hframe⟩

/-- **What visiting mailboxes with different guids leaves**: in each the records of its mails, with
    the uids written to their objects, and the other objects as they were. -/
theorem visitAll_spec (hi : PassInv E p s₀ guids (loadMails E p s))
    (hconv : ∀ m ∈ loaded E p s₀, m.converts E = true) (hupd : ∀ oid, E.updates p oid = true)
    (hguids : (guids ++ bs.map (·.info.guid)).Nodup)
    (hcommit : ∀ b ∈ bs, b.info.commits p = true) (huid : ∀ b ∈ bs, b.index.firstUid < 2 ^ 32)
    (h : visitAll E p bs s = some (bs', s')) :
    (∀ b' ∈ bs', b'.index.nextUid < 2 ^ 32 ∧ b'.index.records.map IndexRecord.ids =
        (mailsOf b'.info.guid (loaded E p s₀)).map (RadosMail.ids E)) ∧
      (∀ b ∈ bs, ∀ i m, (mailsOf b.info.guid (loaded E p s₀))[i]? = some m →
        s'.objs.attr m.oid "U" = some (toString ((b.index.firstUid + i) % 2 ^ 32))) ∧
      (∀ oid, (∀ m ∈ loaded E p s₀, m.oid = oid → m.mailboxGuid ∉ bs.map (·.info.guid)) →
        s'.objs.attr oid "U" = s.objs.attr oid "U") := by
  induction bs generalizing guids s bs' with
  | nil =>
      cases h
      exact ⟨nofun, nofun, fun _ _ => rfl⟩
  | cons b bs ih =>
      obtain ⟨⟨b₁, s₁⟩, hb, h⟩ := Option.bind_eq_some_iff.mp h
      obtain ⟨⟨bs₁, s₂⟩, hr, h⟩ := Option.map_eq_some_iff.mp h
      cases h
      rw [List.map_cons] at hguids
      have hguid : b.info.guid ∉ guids := fun hmem =>
        (List.nodup_append.mp hguids).2.2 _ hmem _ List.mem_cons_self rfl
      have hrest : b.info.guid ∉ bs.map (·.info.guid) :=
        (List.nodup_cons.mp (List.nodup_append.mp hguids).2.1).1
      obtain ⟨hi₁, hinfo, hnext, hrec, huids, hframe⟩ := rebuild_fresh hi hconv hupd hguid
        (hcommit b List.mem_cons_self) (huid b List.mem_cons_self) hb
      obtain ⟨hrec', huids', hframe'⟩ := ih (passInv_load hi₁)
        (by rwa [List.append_assoc]) (fun b' hb' => hcommit b' (List.mem_cons_of_mem _ hb'))
        (fun b' hb' => huid b' (List.mem_cons_of_mem _ hb')) hr
      refine ⟨?_, ?_, ?_⟩
      · intro b' hb'
        rcases List.mem_cons.mp hb' with rfl | hb'
        · rw [hinfo]
          exact ⟨hnext, hrec⟩
        · exact hrec' b' hb'
      · intro b' hb' i m hm
        rcases List.mem_cons.mp hb' with rfl | hb'
        · -- the other mailboxes have other mails
          obtain ⟨hmem, hmg⟩ := mem_mailsOf.mp (List.mem_of_getElem? hm)
          rw [hframe' m.oid, huids i m hm]
          intro m' hm' ho
          rw [loaded_eq_of_oid hm' hmem ho, hmg]
          exact hrest
        · exact huids' b' hb' i m hm
      · intro oid ho
        rw [hframe' oid fun m hm hmo hmem => ho m hm hmo (List.mem_cons_of_mem _ hmem)]
        rw [hframe oid, loadMails_objs]
        intro hmem
        obtain ⟨m, hm, hmo⟩ := List.mem_map.mp hmem
        obtain ⟨hml, hmg⟩ := mem_mailsOf.mp hm
        exact ho m hml hmo (by rw [hmg]; exact List.mem_cons_self)

end VisitAll

/-- The selectable mailboxes of a user. -/
def RebuildState.boxes (st : RebuildState γ) : List (RebuildBox γ) :=
  st.namespaces.flatMap fun ns => ns.boxes.filter (·.info.selectable)

section Open

variable {E p} {s s' : RebuildStore} {bs bs' : List (RebuildBox γ)}
  {nss nss' : List (MailNamespace (RebuildBox γ))} {st st' : RebuildState γ}

theorem visitAll_eq (bs : List (RebuildBox γ)) (s : RebuildStore) :
    visitAll E p bs s = visitBoxes E p true bs s := by
  induction bs generalizing s with
  | nil => rfl
  | cons b bs ih =>
      rw [visitAll, visitBoxes]
      congr 1
      funext v
      rw [ih]

/-- A call that opens every mailbox visits them all. -/
theorem visited_eq_boxes (hinbox : findInbox st.namespaces = st.namespaces)
    (hall : AllEnter p st.namespaces) : visited p st.namespaces = st.boxes := by
  unfold visited RebuildState.boxes
  rw [hinbox]
  refine List.flatMap_congr fun ns hns => ?_
  obtain ⟨hnone, hin⟩ := hall ns hns
  have hlisted : ns.listed = ns.boxes := by rw [MailNamespace.listed, hnone]
  have htake : ns.boxes.takeWhile (fun b => !b.info.selectable || b.info.enters p) = ns.boxes := by
    refine List.takeWhile_eq_self_iff.mpr fun b hb => ?_
    cases hsel : b.info.selectable with
    | false => rfl
    | true => exact hin b hb hsel
  rw [entered, hlisted, htake]

theorem rebuiltGuids_forced (corrupted : Nat) (bs : List (RebuildBox γ)) :
    rebuiltGuids true corrupted bs = bs.map (·.info.guid) := by
  induction bs generalizing corrupted with
  | nil => rfl
  | cons b bs ih =>
      rw [rebuiltGuids, ih]
      rfl

theorem rebuildPass_visitAll (hinbox : findInbox st.namespaces = st.namespaces)
    (hall : AllEnter p st.namespaces) (h : rebuildPass E p true st = some st') :
    visitAll E p st.boxes st.fresh = some (st'.boxes, st'.store) := by
  unfold rebuildPass at h
  split at h
  case isTrue => cases h
  case isFalse =>
    obtain ⟨⟨nss', s'⟩, hr, h⟩ := Option.map_eq_some_iff.mp h
    cases h
    rw [hinbox] at hr
    have hbefore : st.namespaces.takeWhile (fun ns => !ns.inboxUser) = [] := by
      have hsplit := @List.takeWhile_append_dropWhile _ (fun ns : MailNamespace (RebuildBox γ) =>
        !ns.inboxUser) st.namespaces
      have hdrop : st.namespaces.dropWhile (fun ns => !ns.inboxUser) = st.namespaces := hinbox
      rw [hdrop] at hsplit
      exact List.append_left_eq_self.mp hsplit
    unfold RebuildState.boxes
    rw [hbefore, List.nil_append]
    rw [visitAll_eq]
    exact repairNamespaces_visitBoxes hall hr

end Open

/-! ## 3. Users, objects, and the right result -/

/-- The selectable mailboxes. -/
def boxInfos (nss : List (MailNamespace BoxInfo)) : List BoxInfo :=
  nss.flatMap fun ns => ns.boxes.filter (·.selectable)

/-- The inbox namespace is the first one, the lists are complete, all mailboxes are of this storage
    and open, their guids differ, and one of them is INBOX. -/
structure AllOpen (nss : List (MailNamespace BoxInfo)) : Prop where
  inbox : ∃ ns rest, nss = ns :: rest ∧ ns.inboxUser = true
  listed : ∀ ns ∈ nss, ns.handedOut = none
  own : ∀ b ∈ boxInfos nss, b.ownStorage = true ∧ b.isVirtual = false
  opens : ∀ b ∈ boxInfos nss, ∀ p, b.opens p = true ∧ b.opensInSearch p = true
  commits : ∀ b ∈ boxInfos nss, ∀ p, b.commits p = true
  guids : ((boxInfos nss).map (·.guid)).Nodup
  named : ∃ b ∈ boxInfos nss, b.vname = "INBOX"
  once : ∀ b ∈ boxInfos nss, ∀ b' ∈ boxInfos nss, b.vname = "INBOX" → b'.vname = "INBOX" → b = b'

/-- Every RADOS operation succeeds. -/
structure AllSucceed : Prop where
  loads : ∀ p oid, E.loads p oid = true
  updates : ∀ p oid, E.updates p oid = true
  operates : ∀ p oid, E.operates p oid = true

/-- The listed objects have valid metadata, the oids are as `guid_128_to_string` writes them, and
    the attribute `G` can be converted. -/
structure GoodObjects (guidToString : γ → String) (s : RebuildStore) : Prop where
  valid : ∀ oid ∈ s.mailList E, validateMetadata (s.objs.attr oid) = true
  oid : ∀ oid ∈ s.mailList E, (E.guidFromString oid).map guidToString = some oid
  guid : ∀ oid ∈ s.mailList E, ((s.objs.attr oid "G").bind E.guidFromUuidString).isSome = true

/-- **The users this is about.** The uids of the objects are in the range of an `int`, those of the
    indexes in that of an `uint32_t`. -/
structure ForcedSetup (guidToString : γ → String) (st : RebuildState γ) : Prop where
  boxes : AllOpen st.infos
  rados : AllSucceed E
  objects : GoodObjects E guidToString st.store
  uids : ∀ oid ∈ st.store.mailList E, ((st.store.objs.attr oid "U").bind stoi).isSome = true
  nextUids : ∀ b ∈ st.boxes, b.index.nextUid < 2 ^ 32

/-- The listed objects with a mailbox guid. -/
def objectsOf (s : RebuildStore) (guid : String) : List String :=
  (s.mailList E).filter fun oid => s.objs.attr oid "M" = some guid

/-- The mailbox is where the object belongs: it has the object's guid, or it is INBOX and none has
    it. -/
def Home (st : RebuildState γ) (b : BoxInfo) (oid : String) : Prop :=
  st.store.objs.attr oid "M" = some b.guid ∨
    b.vname = "INBOX" ∧ ∀ b' ∈ boxInfos st.infos, st.store.objs.attr oid "M" ≠ some b'.guid

/-- **Nothing lost, nothing duplicated.** Over all mailboxes each listed object has one record, it
    is in the object's mailbox, and every record holds the oid and the guid of a listed object. -/
structure RebuiltExactly (guidToString : γ → String) (st st' : RebuildState γ) : Prop where
  once : ∀ oid ∈ st.store.mailList E,
    (st'.boxes.flatMap (·.index.records)).countP (fun r => guidToString r.oid = oid) = 1
  home : ∀ oid ∈ st.store.mailList E, ∃ b ∈ st'.boxes, Home st b.info oid ∧
    ∃ r ∈ b.index.records, guidToString r.oid = oid
  only : ∀ b ∈ st'.boxes, ∀ r ∈ b.index.records, ∃ oid ∈ st.store.mailList E,
    E.guidFromString oid = some r.oid ∧
      (st.store.objs.attr oid "G").bind E.guidFromUuidString = some r.guid

section Exactly

variable {E} {guidToString : γ → String} {st st' : RebuildState γ}

theorem boxes_infos (st : RebuildState γ) : st.boxes.map (·.info) = boxInfos st.infos := by
  unfold RebuildState.boxes boxInfos RebuildState.infos
  rw [List.map_flatMap, List.flatMap_map]
  refine List.flatMap_congr fun ns _ => ?_
  show _ = (ns.boxes.map (·.info)).filter _
  rw [List.filter_map]
  rfl

theorem sum_ite_eq_count (guid : String) (guids : List String) :
    (guids.map fun g => if guid = g then 1 else 0).sum = guids.count guid := by
  induction guids with
  | nil => rfl
  | cons g guids ih =>
      rw [List.map_cons, List.sum_cons, ih, List.count_cons, Nat.add_comm]
      by_cases hg : guid = g
      · subst hg
        simp
      · rw [if_neg hg, if_neg (by simpa using Ne.symm hg)]

/-- Where the records are those of the objects `home` assigns to a mailbox, each of its objects has
    one, and no other object has any. -/
theorem countP_of_records (hobj : GoodObjects E guidToString st.store) {home : String → String}
    {records : List (IndexRecord γ)} {guid : String}
    (hrec : records.map IndexRecord.ids =
      ((st.store.mailList E).filter fun oid => home oid = guid).map fun oid =>
        (E.guidFromString oid, (st.store.objs.attr oid "G").bind E.guidFromUuidString))
    {oid : String} (hoid : oid ∈ st.store.mailList E) :
    records.countP (fun r => guidToString r.oid = oid) = if home oid = guid then 1 else 0 := by
  -- the records as the objects they hold
  have hids : records.countP (fun r => guidToString r.oid = oid) =
      (records.map IndexRecord.ids).countP
        (fun x => x.1.map guidToString = some oid) := by
    rw [List.countP_map]
    refine List.countP_congr fun r _ => ?_
    simp [IndexRecord.ids]
  have hoids : ((st.store.mailList E).filter fun oid' => home oid' = guid).countP
      (fun oid' => (E.guidFromString oid').map guidToString = some oid) =
        ((st.store.mailList E).filter fun oid' => home oid' = guid).count oid := by
    refine List.countP_congr fun oid' hoid' => ?_
    rw [hobj.oid oid' (List.mem_filter.mp hoid').1]
    simp
  rw [hids, hrec, List.countP_map]
  show List.countP (fun oid' => (E.guidFromString oid').map guidToString = some oid) _ = _
  rw [hoids]
  split
  case isTrue hg =>
    exact List.count_eq_one_of_mem ((Lib.nodup_orderedSet _).filter _)
      (List.mem_filter.mpr ⟨hoid, by simpa using hg⟩)
  case isFalse hg =>
    exact List.count_eq_zero_of_not_mem fun hmem =>
      hg (of_decide_eq_true (List.mem_filter.mp hmem).2)

/-- The records of all mailboxes, if each has those of the objects `home` assigns to it. -/
theorem rebuiltExactly_of_records (hobj : GoodObjects E guidToString st.store)
    (hinfos : st'.infos = st.infos) (hguids : ((boxInfos st.infos).map (·.guid)).Nodup)
    {home : String → String}
    (hhome : ∀ oid ∈ st.store.mailList E, ∃ b ∈ boxInfos st.infos,
      b.guid = home oid ∧ Home st b oid)
    (hrec : ∀ b ∈ st'.boxes, b.index.records.map IndexRecord.ids =
      ((st.store.mailList E).filter fun oid => home oid = b.info.guid).map fun oid =>
        (E.guidFromString oid, (st.store.objs.attr oid "G").bind E.guidFromUuidString)) :
    RebuiltExactly E guidToString st st' := by
  have hboxes : st'.boxes.map (·.info) = boxInfos st.infos := by rw [boxes_infos, hinfos]
  have hcount : ∀ oid ∈ st.store.mailList E, ∀ b ∈ st'.boxes,
      b.index.records.countP (fun r => guidToString r.oid = oid) =
        if home oid = b.info.guid then 1 else 0 :=
    fun oid hoid b hb => countP_of_records hobj (hrec b hb) hoid
  refine ⟨?_, ?_, ?_⟩
  · intro oid hoid
    obtain ⟨info, hinfo, hg, _⟩ := hhome oid hoid
    have hmap : st'.boxes.map (fun b => b.index.records.countP fun r => guidToString r.oid = oid) =
        ((boxInfos st.infos).map (·.guid)).map fun g => if home oid = g then 1 else 0 := by
      rw [← hboxes, List.map_map, List.map_map]
      exact List.map_congr_left fun b hb => hcount oid hoid b hb
    rw [List.countP_flatMap]
    show (st'.boxes.map fun b => b.index.records.countP fun r => guidToString r.oid = oid).sum = 1
    rw [hmap, sum_ite_eq_count]
    refine List.count_eq_one_of_mem hguids ?_
    rw [← hg]
    exact List.mem_map_of_mem hinfo
  · intro oid hoid
    obtain ⟨info, hinfo, hg, hh⟩ := hhome oid hoid
    rw [← hboxes] at hinfo
    obtain ⟨b, hb, rfl⟩ := List.mem_map.mp hinfo
    refine ⟨b, hb, hh, ?_⟩
    have hone := hcount oid hoid b hb
    rw [if_pos hg.symm] at hone
    have hpos : 0 < b.index.records.countP (fun r => guidToString r.oid = oid) := by
      rw [hone]
      exact Nat.one_pos
    obtain ⟨r, hr, hro⟩ := List.countP_pos_iff.mp hpos
    exact ⟨r, hr, of_decide_eq_true hro⟩
  · intro b hb r hr
    have hids : r.ids ∈ b.index.records.map IndexRecord.ids := List.mem_map_of_mem hr
    rw [hrec b hb] at hids
    obtain ⟨oid, hoid, hids⟩ := List.mem_map.mp hids
    obtain ⟨h1, h2⟩ := Prod.mk.inj hids
    exact ⟨oid, (List.mem_filter.mp hoid).1, h1, h2⟩

end Exactly

/-! ## 4. One call -/

/-- The mail of an object. -/
def mailOf (objs : MailXattrs) (oid : String) : RadosMail :=
  { oid := oid, metadata := objs.attr oid }

section Call

variable {E p} {guidToString : γ → String} {s : RebuildStore} {st st' : RebuildState γ}

theorem AllOpen.enter (ho : AllOpen st.infos) : AllEnter p st.namespaces := by
  intro ns hns
  have hmem : ns.map (·.info) ∈ st.infos := List.mem_map_of_mem hns
  refine ⟨ho.listed _ hmem, fun b hb hsel => ?_⟩
  have hbox : b.info ∈ boxInfos st.infos :=
    List.mem_flatMap.mpr ⟨_, hmem, List.mem_filter.mpr ⟨List.mem_map_of_mem hb, hsel⟩⟩
  obtain ⟨hown, hvirtual⟩ := ho.own _ hbox
  rw [BoxInfo.enters, hown, hvirtual, (ho.opens _ hbox p).1]
  rfl

theorem AllOpen.findInbox_eq (ho : AllOpen st.infos) :
    findInbox st.namespaces = st.namespaces ∧ st.namespaces ≠ [] := by
  obtain ⟨ns, rest, hcons, hinbox⟩ := ho.inbox
  unfold RebuildState.infos at hcons
  cases hnss : st.namespaces with
  | nil =>
      rw [hnss] at hcons
      cases hcons
  | cons ns' nss =>
      rw [hnss] at hcons
      cases hcons
      have hin : ns'.inboxUser = true := hinbox
      refine ⟨?_, List.cons_ne_nil _ _⟩
      rw [findInbox, List.dropWhile_cons_of_neg (by simp [hin])]

theorem AllOpen.boxes_ne (ho : AllOpen st.infos) : st.boxes ≠ [] := by
  obtain ⟨b, hb, _⟩ := ho.named
  rw [← boxes_infos] at hb
  intro hnil
  rw [hnil] at hb
  exact absurd hb List.not_mem_nil

/-- An object with valid metadata exists and has a mailbox guid. -/
theorem guid_of_valid {objs : MailXattrs} {oid : String}
    (h : validateMetadata (objs.attr oid) = true) :
    objs oid = some (objs.attr oid) ∧ (objs.attr oid "M").isSome = true := by
  have hM := mailboxGuid_of_valid h
  refine ⟨?_, hM⟩
  cases hobj : objs oid with
  | none => simp [MailXattrs.attr, hobj] at hM
  | some x =>
      congr 1
      funext k
      simp [MailXattrs.attr, hobj]

/-- All listed objects are loaded. -/
theorem loaded_good (hs : AllSucceed E) (hg : GoodObjects E guidToString s) :
    loaded E p s = (s.mailList E).map (mailOf s.objs) := by
  unfold loaded loadRadosMailMetadata
  rw [← List.filterMap_eq_map]
  refine List.filterMap_congr fun oid hoid => ?_
  have hvalid := hg.valid oid hoid
  rw [if_pos (hs.loads p oid), (guid_of_valid hvalid).1, Option.bind_some, if_pos hvalid]
  rfl

theorem mailOf_guid (hg : GoodObjects E guidToString s) {oid : String} (hoid : oid ∈ s.mailList E)
    (guid : String) :
    (mailOf s.objs oid).mailboxGuid = guid ↔ s.objs.attr oid "M" = some guid := by
  obtain ⟨g, hM⟩ := Option.isSome_iff_exists.mp (guid_of_valid (hg.valid oid hoid)).2
  show (s.objs.attr oid "M").getD "" = guid ↔ _
  rw [hM]
  simp

theorem mailsOf_loaded (hs : AllSucceed E) (hg : GoodObjects E guidToString s) (guid : String) :
    mailsOf guid (loaded E p s) = (objectsOf E s guid).map (mailOf s.objs) := by
  rw [loaded_good hs hg, mailsOf, List.filter_map, objectsOf]
  congr 1
  refine List.filter_congr fun oid hoid => ?_
  exact decide_eq_decide.mpr (mailOf_guid hg hoid guid)

theorem loaded_converts (hs : AllSucceed E) (hg : GoodObjects E guidToString s) {m : RadosMail}
    (hm : m ∈ loaded E p s) : m.converts E = true := by
  rw [loaded_good hs hg] at hm
  obtain ⟨oid, hoid, rfl⟩ := List.mem_map.mp hm
  rw [RadosMail.converts, Bool.and_eq_true]
  refine ⟨?_, hg.guid oid hoid⟩
  have ho := hg.oid oid hoid
  show (E.guidFromString oid).isSome = true
  cases hf : E.guidFromString oid with
  | none =>
      rw [hf] at ho
      cases ho
  | some g => rfl

theorem firstUid_lt {b : RebuildBox γ} (h : b.index.nextUid < 2 ^ 32) :
    b.index.firstUid < 2 ^ 32 := by
  unfold BoxIndex.firstUid
  split
  · exact h
  · decide

/-- A forced call rebuilds every mailbox. -/
theorem AllOpen.rebuilt_eq (ho : AllOpen st.infos) :
    st.rebuilt p true = (boxInfos st.infos).map (·.guid) := by
  rw [RebuildState.rebuilt, rebuiltGuids_forced, visited_eq_boxes ho.findInbox_eq.1 ho.enter,
    ← boxes_infos, List.map_map]
  rfl

/-- A mail is restored exactly if its guid is that of a mailbox. -/
theorem restored_forced_iff (ho : AllOpen st.infos) (hs : AllSucceed E)
    (hg : GoodObjects E guidToString st.fresh) {pre post : List RadosMail} {oid : String}
    (hoid : oid ∈ st.store.mailList E)
    (hsplit : loaded E p st.fresh = pre ++ mailOf st.store.objs oid :: post) :
    Restored E (st.rebuilt p true) pre (mailOf st.store.objs oid) ↔
      ∃ b ∈ boxInfos st.infos, st.store.objs.attr oid "M" = some b.guid := by
  have hconv : ∀ m ∈ pre ++ mailOf st.store.objs oid :: post, m.converts E = true := fun m hm =>
    loaded_converts (p := p) hs hg (hsplit ▸ hm)
  have hmem : (mailOf st.store.objs oid).mailboxGuid ∈ st.rebuilt p true ↔
      ∃ b ∈ boxInfos st.infos, st.store.objs.attr oid "M" = some b.guid := by
    rw [ho.rebuilt_eq, List.mem_map]
    refine exists_congr fun b => and_congr_right fun _ => ?_
    rw [eq_comm]
    exact mailOf_guid hg hoid b.guid
  rw [← hmem]
  refine ⟨fun h => h.1, fun h => ⟨h, fun m hm _ => ?_, ?_⟩⟩
  · exact hconv m (List.mem_append_left _ hm)
  · exact hconv _ (List.mem_append_right _ List.mem_cons_self)

/-- **The call ends in an exception exactly if the uid of an object of a mailbox is unreadable.** -/
theorem forcedCall_none_iff (ho : AllOpen st.infos) (hs : AllSucceed E)
    (hg : GoodObjects E guidToString st.store) :
    rebuildPass E p true st = none ↔ ∃ oid ∈ st.store.mailList E,
      (∃ b ∈ boxInfos st.infos, st.store.objs.attr oid "M" = some b.guid) ∧
        ((st.store.objs.attr oid "U").bind stoi).isSome = false := by
  have hfresh : GoodObjects E guidToString st.fresh := ⟨hg.valid, hg.oid, hg.guid⟩
  rw [rebuildPass_none_iff, ho.rebuilt_eq, ho.findInbox_eq.1]
  constructor
  · intro h
    obtain ⟨g, hgm, pre, m, post, hsplit, hmg, _, hu⟩ := h.resolve_left ho.findInbox_eq.2
    have hm : m ∈ loaded E p st.fresh := by rw [hsplit]; simp
    rw [loaded_good hs hfresh] at hm
    obtain ⟨oid, hoid, rfl⟩ := List.mem_map.mp hm
    obtain ⟨b, hb, hbg⟩ := List.mem_map.mp hgm
    refine ⟨oid, hoid, ⟨b, hb, ?_⟩, hu⟩
    exact (mailOf_guid hfresh hoid b.guid).mp (hmg.trans hbg.symm)
  · intro h
    obtain ⟨oid, hoid, ⟨b, hb, hM⟩, hu⟩ := h
    have hm : mailOf st.store.objs oid ∈ loaded E p st.fresh := by
      rw [loaded_good hs hfresh]
      exact List.mem_map_of_mem hoid
    obtain ⟨pre, post, hsplit⟩ := List.append_of_mem hm
    refine .inr ⟨b.guid, List.mem_map_of_mem hb, pre, _, post, hsplit,
      (mailOf_guid hfresh hoid b.guid).mpr hM, ?_, hu⟩
    intro m' hm' _
    refine loaded_converts (p := p) hs hfresh (m := m') ?_
    rw [hsplit]
    exact List.mem_append_left _ hm'

/-- What a call does that is not ended by an exception. -/
structure CallResult (E : RebuildEnv γ) (st st' : RebuildState γ) : Prop where
  infos : st'.infos = st.infos
  objs : SameButUid st.store.objs st'.store.objs
  mailList : st'.store.mailList E = st.store.mailList E
  nextUids : ∀ b ∈ st'.boxes, b.index.nextUid < 2 ^ 32
  records : ∀ b ∈ st'.boxes, b.index.records.map IndexRecord.ids =
    (objectsOf E st.store b.info.guid).map fun oid =>
      (E.guidFromString oid, (st.store.objs.attr oid "G").bind E.guidFromUuidString)
  uids : ∀ b ∈ st.boxes, ∀ i oid, (objectsOf E st.store b.info.guid)[i]? = some oid →
    st'.store.objs.attr oid "U" = some (toString ((b.index.firstUid + i) % 2 ^ 32))
  unrestored : ∀ oid, (∃ m ∈ st'.store.mails, m.restored = false ∧ m.oid = oid) ↔
    oid ∈ st.store.mailList E ∧ ∀ b ∈ boxInfos st.infos, st.store.objs.attr oid "M" ≠ some b.guid

theorem forcedCall_spec (ho : AllOpen st.infos) (hs : AllSucceed E)
    (hg : GoodObjects E guidToString st.store) (hnext : ∀ b ∈ st.boxes, b.index.nextUid < 2 ^ 32)
    (h : rebuildPass E p true st = some st') : CallResult E st st' := by
  have hfresh : GoodObjects E guidToString st.fresh := ⟨hg.valid, hg.oid, hg.guid⟩
  have hvisited := visited_eq_boxes ho.findInbox_eq.1 (ho.enter (p := p))
  obtain ⟨hinfos, hobjs, _, hinv⟩ := rebuildPass_spec h
  have hi := hinv (by rw [hvisited]; exact ho.boxes_ne)
  have hinfo : ∀ b ∈ st.boxes, b.info ∈ boxInfos st.infos := fun b hb => by
    rw [← boxes_infos]
    exact List.mem_map_of_mem hb
  obtain ⟨hrec, huids, _⟩ := visitAll_spec (passInv_start rfl)
    (fun m hm => loaded_converts hs hfresh hm) (hs.updates p)
    (by
      rw [List.nil_append]
      have hnd := ho.guids
      rwa [← boxes_infos, List.map_map] at hnd)
    (fun b hb => ho.commits _ (hinfo b hb) p) (fun b hb => firstUid_lt (hnext b hb))
    (rebuildPass_visitAll ho.findInbox_eq.1 ho.enter h)
  refine ⟨hinfos, hobjs, ?_, fun b hb => (hrec b hb).1, ?_, ?_, ?_⟩
  · rcases hi.mailList with hl | hl
    · exact hl
    · rw [hl, loaded_good hs hfresh, List.map_map]
      exact List.map_id _
  · intro b hb
    rw [(hrec b hb).2, mailsOf_loaded hs hfresh, List.map_map]
    rfl
  · intro b hb i oid hoid
    refine huids b hb i (mailOf st.store.objs oid) ?_
    rw [mailsOf_loaded hs hfresh, List.getElem?_map]
    have hoid' : (objectsOf E st.fresh b.info.guid)[i]? = some oid := hoid
    rw [hoid']
    rfl
  · intro oid
    rw [hi.mails]
    constructor
    · intro h
      obtain ⟨m', hm', hr, rfl⟩ := h
      obtain ⟨pre, m, post, hsplit, rfl⟩ := mem_marked_iff.mp hm'
      have hm : m ∈ loaded E p st.fresh := by rw [hsplit]; simp
      rw [loaded_good hs hfresh] at hm
      obtain ⟨oid, hoid, rfl⟩ := List.mem_map.mp hm
      refine ⟨hoid, fun b hb hM => ?_⟩
      exact of_decide_eq_false hr ((restored_forced_iff ho hs hfresh hoid hsplit).mpr ⟨b, hb, hM⟩)
    · intro h
      obtain ⟨hoid, hno⟩ := h
      have hm : mailOf st.store.objs oid ∈ loaded E p st.fresh := by
        rw [loaded_good hs hfresh]
        exact List.mem_map_of_mem hoid
      obtain ⟨pre, post, hsplit⟩ := List.append_of_mem hm
      refine ⟨_, mem_marked_iff.mpr ⟨pre, _, post, hsplit, rfl⟩, decide_eq_false ?_, rfl⟩
      intro hrestored
      obtain ⟨b, hb, hM⟩ := (restored_forced_iff ho hs hfresh hoid hsplit).mp hrestored
      exact hno b hb hM

end Call

/-! ## 5. Both calls -/

section Search

variable {p} {nss : List (MailNamespace BoxInfo)}

theorem findInboxBoxes_sound {bs : List BoxInfo} {found : Option String} {guid : String}
    (h : findInboxBoxes p bs found = some (some guid)) :
    found = some guid ∨ ∃ b ∈ bs, b.selectable = true ∧ b.vname = "INBOX" ∧ b.guid = guid := by
  induction bs generalizing found with
  | nil => exact .inl (Option.some.inj h)
  | cons b bs ih =>
      have hcons : (∃ b' ∈ bs, b'.selectable = true ∧ b'.vname = "INBOX" ∧ b'.guid = guid) →
          ∃ b' ∈ b :: bs, b'.selectable = true ∧ b'.vname = "INBOX" ∧ b'.guid = guid :=
        fun ⟨b', hb', h⟩ => ⟨b', List.mem_cons_of_mem _ hb', h⟩
      rw [findInboxBoxes] at h
      split at h
      case isTrue => exact (ih h).imp_right hcons
      case isFalse hsel =>
        split at h
        case isTrue => cases h
        case isFalse =>
          split at h
          case isTrue => cases h
          case isFalse =>
            rcases ih h with hf | hex
            · split at hf
              case isTrue hname =>
                exact .inr ⟨b, List.mem_cons_self, by simpa using hsel, hname, Option.some.inj hf⟩
              case isFalse => exact .inl hf
            · exact .inr (hcons hex)

theorem findInboxBoxes_complete {bs : List BoxInfo} {found : Option String}
    (hopen : ∀ b ∈ bs, b.selectable = true → b.isVirtual = false ∧ b.opensInSearch p = true)
    (h : found.isSome = true ∨ ∃ b ∈ bs, b.selectable = true ∧ b.vname = "INBOX") :
    ∃ guid, findInboxBoxes p bs found = some (some guid) := by
  induction bs generalizing found with
  | nil =>
      obtain ⟨guid, hf⟩ := Option.isSome_iff_exists.mp (h.resolve_right (by simp))
      exact ⟨guid, congrArg some hf⟩
  | cons b bs ih =>
      have hopen' := fun b' hb' => hopen b' (List.mem_cons_of_mem b hb')
      rw [findInboxBoxes]
      cases hsel : b.selectable with
      | false =>
          refine ih hopen' (h.imp_right fun hex => ?_)
          obtain ⟨b', hb', hs', hn'⟩ := hex
          rcases List.mem_cons.mp hb' with rfl | hb'
          · rw [hsel] at hs'
            cases hs'
          · exact ⟨b', hb', hs', hn'⟩
      | true =>
          obtain ⟨hv, hop⟩ := hopen b List.mem_cons_self hsel
          rw [hv, hop]
          refine ih hopen' ?_
          by_cases hname : b.vname = "INBOX"
          · rw [if_pos hname]
            exact .inl rfl
          · rw [if_neg hname]
            refine h.imp_right fun hex => ?_
            obtain ⟨b', hb', hs', hn'⟩ := hex
            rcases List.mem_cons.mp hb' with rfl | hb'
            · exact absurd hn' hname
            · exact ⟨b', hb', hs', hn'⟩

/-- The search finds INBOX. -/
theorem AllOpen.finds (ho : AllOpen nss) :
    ∃ b ∈ boxInfos nss, b.vname = "INBOX" ∧
      findDefaultMailboxGuid p (findInbox nss) = some b.guid := by
  have hfind : findInbox nss = nss := by
    obtain ⟨ns, rest, rfl, hinbox⟩ := ho.inbox
    rw [findInbox, List.dropWhile_cons_of_neg (by simp [hinbox])]
  have hlisted : ∀ ns ∈ nss, findInboxMailboxGuid p ns = (findInboxBoxes p ns.boxes none).join := by
    intro ns hns
    simp [findInboxMailboxGuid, MailNamespace.iterDeinit, MailNamespace.listed, ho.listed ns hns]
  have hsound : ∀ ns ∈ nss, ∀ guid, findInboxMailboxGuid p ns = some guid →
      ∃ b ∈ boxInfos nss, b.vname = "INBOX" ∧ b.guid = guid := by
    intro ns hns guid h
    rw [hlisted ns hns, Option.join_eq_some_iff] at h
    have hfrom := (findInboxBoxes_sound h).resolve_left (Option.some_ne_none guid).symm
    obtain ⟨b, hb, hsel, hname, hg⟩ := hfrom
    exact ⟨b, List.mem_flatMap.mpr ⟨ns, hns, List.mem_filter.mpr ⟨hb, hsel⟩⟩, hname, hg⟩
  obtain ⟨b, hb, hname⟩ := ho.named
  obtain ⟨ns, hns, hbns⟩ := List.mem_flatMap.mp hb
  obtain ⟨hbmem, hsel⟩ := List.mem_filter.mp hbns
  obtain ⟨guid, hcomplete⟩ := @findInboxBoxes_complete p ns.boxes none
    (fun b' hb' hsel' => by
      have hmem : b' ∈ boxInfos nss :=
        List.mem_flatMap.mpr ⟨ns, hns, List.mem_filter.mpr ⟨hb', hsel'⟩⟩
      exact ⟨(ho.own b' hmem).2, (ho.opens b' hmem p).2⟩)
    (.inr ⟨b, hbmem, hsel, hname⟩)
  have hsome : (findDefaultMailboxGuid p nss).isSome = true := by
    rw [findDefaultMailboxGuid, List.findSome?_isSome_iff]
    exact ⟨ns, hns, by rw [hlisted ns hns, hcomplete]; rfl⟩
  obtain ⟨guid', hg'⟩ := Option.isSome_iff_exists.mp hsome
  obtain ⟨ns', hns', hg''⟩ := List.exists_of_findSome?_eq_some hg'
  obtain ⟨b', hb', hname', hbg⟩ := hsound ns' hns' guid' hg''
  exact ⟨b', hb', hname', by rw [hfind, hg', hbg]⟩

end Search

section Reassign

variable {E p} {guid oid : String} {ms : List RadosMail} {objs : MailXattrs}

theorem reassign_other (h : ∀ m ∈ ms, m.restored = false → m.oid ≠ oid) (key : String) :
    (reassign E p guid ms objs).2.attr oid key = objs.attr oid key := by
  induction ms generalizing objs with
  | nil => rfl
  | cons m ms ih =>
      have h' := fun m' hm' => h m' (List.mem_cons_of_mem m hm')
      rw [reassign]
      split
      case isTrue => exact ih h'
      case isFalse hgo =>
        have hne : oid ≠ m.oid := by
          have hr : m.restored = false ∧ E.operates p m.oid = true := by simpa using hgo
          exact (h m List.mem_cons_self hr.1).symm
        show (reassign E p guid ms _).2.attr oid key = _
        rw [ih h', attr_setXattr, if_neg fun h => hne h.1, attr_setXattr, if_neg fun h => hne h.1]

/-- An unassigned mail gets the guid and the uid `INT32_MAX`. -/
theorem reassign_self (hop : ∀ oid, E.operates p oid = true)
    (h : ∃ m ∈ ms, m.restored = false ∧ m.oid = oid) (key : String) :
    (reassign E p guid ms objs).2.attr oid key =
      if key = "M" then some guid else if key = "U" then some (toString intMax)
      else objs.attr oid key := by
  induction ms generalizing objs with
  | nil => simp at h
  | cons m ms ih =>
      rw [reassign]
      by_cases hm : m.restored = false
      · rw [if_neg (by simp [hm, hop])]
        show (reassign E p guid ms _).2.attr oid key = _
        by_cases hlater : ∃ m' ∈ ms, m'.restored = false ∧ m'.oid = oid
        · rw [ih hlater]
          split
          case isTrue => rfl
          case isFalse hM =>
            split
            case isTrue => rfl
            case isFalse hU =>
              rw [attr_setXattr, if_neg fun h => hM h.2, attr_setXattr, if_neg fun h => hU h.2]
        · have heq : m.oid = oid := by
            obtain ⟨m', hm', hr, ho⟩ := h
            rcases List.mem_cons.mp hm' with rfl | hm'
            · exact ho
            · exact absurd ⟨m', hm', hr, ho⟩ hlater
          rw [reassign_other fun m' hm' hr ho => hlater ⟨m', hm', hr, ho⟩, attr_setXattr,
            attr_setXattr, heq]
          simp
      · rw [Bool.not_eq_false] at hm
        rw [if_pos (by simp [hm])]
        refine ih ?_
        obtain ⟨m', hm', hr, ho⟩ := h
        rcases List.mem_cons.mp hm' with rfl | hm'
        · rw [hm] at hr
          cases hr
        · exact ⟨m', hm', hr, ho⟩

/-- Metadata stays valid under a new number for `U` and a new guid. -/
theorem validateMetadata_of_attr {x y : Xattrs} (h : ∀ k, k ≠ "U" → k ≠ "M" → y k = x k)
    (hU : isNumeric (y "U") = true) (hM : (y "M").isSome = true) (hx : validateMetadata x = true) :
    validateMetadata y = true := by
  unfold validateMetadata at hx ⊢
  rw [h "R" (by decide) (by decide), h "Z" (by decide) (by decide), h "V" (by decide) (by decide),
    h "F" (by decide) (by decide), h "C" (by decide) (by decide), h "G" (by decide) (by decide),
    hU, hM]
  simp only [Bool.and_eq_true] at hx
  simp [hx]

end Reassign

/-- Every listed object has the guid of a mailbox. -/
def NoOrphans (st : RebuildState γ) : Prop :=
  ∀ oid ∈ st.store.mailList E, ∃ b ∈ boxInfos st.infos, st.store.objs.attr oid "M" = some b.guid

/-- The uids the first call assigns are in the range of an `int`. -/
def UidsReadBack (st : RebuildState γ) : Prop :=
  ∀ b ∈ st.boxes, ∀ i < (objectsOf E st.store b.info.guid).length,
    (b.index.firstUid + i) % 2 ^ 32 ≤ intMax

section Rebuild

variable {E} {guidToString : γ → String} {st st₁ : RebuildState γ} {guid : String}

/-- The objects the second call finds. -/
theorem CallResult.reassigned_attr (hs : AllSucceed E) (h : CallResult E st st₁) {oid : String}
    (hoid : oid ∈ st.store.mailList E) (key : String) :
    ((∀ b ∈ boxInfos st.infos, st.store.objs.attr oid "M" ≠ some b.guid) →
      (st₁.reassigned E .first guid).store.objs.attr oid key =
        if key = "M" then some guid else if key = "U" then some (toString intMax)
        else st.store.objs.attr oid key) ∧
    ((∃ b ∈ boxInfos st.infos, st.store.objs.attr oid "M" = some b.guid) →
      (st₁.reassigned E .first guid).store.objs.attr oid key = st₁.store.objs.attr oid key) := by
  constructor
  · intro horphan
    have hself := @reassign_self γ E .first guid oid st₁.store.mails st₁.store.objs
      (hs.operates .first) ((h.unrestored oid).mpr ⟨hoid, horphan⟩) key
    show (reassign E .first guid st₁.store.mails st₁.store.objs).2.attr oid key = _
    rw [hself]
    split
    case isTrue => rfl
    case isFalse =>
      split
      case isTrue => rfl
      case isFalse hU => exact h.objs oid key hU
  · intro hhome
    obtain ⟨b, hb, hM⟩ := hhome
    refine reassign_other (fun m hm hr ho => ?_) key
    exact ((h.unrestored oid).mp ⟨m, hm, hr, ho⟩).2 b hb hM

/-- The uid of an object of a mailbox after the first call. -/
theorem CallResult.uid (h : CallResult E st st₁) {oid : String} (hoid : oid ∈ st.store.mailList E)
    (hhome : ∃ b ∈ boxInfos st.infos, st.store.objs.attr oid "M" = some b.guid) :
    ∃ b ∈ st.boxes, ∃ i < (objectsOf E st.store b.info.guid).length,
      st₁.store.objs.attr oid "U" = some (toString ((b.index.firstUid + i) % 2 ^ 32)) := by
  obtain ⟨info, hinfo, hM⟩ := hhome
  rw [← boxes_infos] at hinfo
  obtain ⟨b, hb, rfl⟩ := List.mem_map.mp hinfo
  have hmem : oid ∈ objectsOf E st.store b.info.guid :=
    List.mem_filter.mpr ⟨hoid, by simpa using hM⟩
  obtain ⟨i, hi, hget⟩ := List.getElem_of_mem hmem
  exact ⟨b, hb, i, hi, h.uids b hb i oid (by rw [List.getElem?_eq_getElem hi, hget])⟩

theorem CallResult.reassigned_same (hs : AllSucceed E) (h : CallResult E st st₁) {oid : String}
    (hoid : oid ∈ st.store.mailList E) (key : String) (hU : key ≠ "U") (hM : key ≠ "M") :
    (st₁.reassigned E .first guid).store.objs.attr oid key = st.store.objs.attr oid key := by
  by_cases hhome : ∃ b ∈ boxInfos st.infos, st.store.objs.attr oid "M" = some b.guid
  · rw [(h.reassigned_attr hs hoid key).2 hhome]
    exact h.objs oid key hU
  · rw [(h.reassigned_attr hs hoid key).1 fun b hb hM => hhome ⟨b, hb, hM⟩, if_neg hM, if_neg hU]

/-- The objects the second call finds are as good as those of the first. -/
theorem CallResult.reassigned_good (hs : AllSucceed E) (hg : GoodObjects E guidToString st.store)
    (h : CallResult E st st₁) :
    GoodObjects E guidToString (st₁.reassigned E .first guid).store := by
  have hlist : (st₁.reassigned E .first guid).store.mailList E = st.store.mailList E := h.mailList
  refine ⟨?_, ?_, ?_⟩
  · intro oid hoid
    rw [hlist] at hoid
    have hvalid := hg.valid oid hoid
    refine validateMetadata_of_attr (h.reassigned_same hs hoid) ?_ ?_ hvalid
    · by_cases hhome : ∃ b ∈ boxInfos st.infos, st.store.objs.attr oid "M" = some b.guid
      · obtain ⟨b, hb, i, hi, hU⟩ := h.uid hoid hhome
        rw [(h.reassigned_attr hs hoid "U").2 hhome, hU]
        exact isNumeric_toString _
      · rw [(h.reassigned_attr hs hoid "U").1 fun b hb hM => hhome ⟨b, hb, hM⟩]
        exact isNumeric_toString intMax
    · by_cases hhome : ∃ b ∈ boxInfos st.infos, st.store.objs.attr oid "M" = some b.guid
      · rw [(h.reassigned_attr hs hoid "M").2 hhome, h.objs oid "M" (by decide)]
        exact (guid_of_valid hvalid).2
      · rw [(h.reassigned_attr hs hoid "M").1 fun b hb hM => hhome ⟨b, hb, hM⟩]
        rfl
  · intro oid hoid
    rw [hlist] at hoid
    exact hg.oid oid hoid
  · intro oid hoid
    rw [hlist] at hoid
    rw [h.reassigned_same hs hoid "G" (by decide) (by decide)]
    exact hg.guid oid hoid

/-- In the second call every object has the guid of the mailbox where it belongs. -/
theorem CallResult.reassigned_home (hs : AllSucceed E) (h : CallResult E st st₁) {inbox : BoxInfo}
    (hinbox : inbox ∈ boxInfos st.infos) (hname : inbox.vname = "INBOX") {oid : String}
    (hoid : oid ∈ st.store.mailList E) :
    ∃ b ∈ boxInfos st.infos, Home st b oid ∧
      (st₁.reassigned E .first inbox.guid).store.objs.attr oid "M" = some b.guid := by
  by_cases hhome : ∃ b ∈ boxInfos st.infos, st.store.objs.attr oid "M" = some b.guid
  · obtain ⟨b, hb, hM⟩ := hhome
    refine ⟨b, hb, .inl hM, ?_⟩
    rw [(h.reassigned_attr hs hoid "M").2 ⟨b, hb, hM⟩, h.objs oid "M" (by decide)]
    exact hM
  · have horphan : ∀ b ∈ boxInfos st.infos, st.store.objs.attr oid "M" ≠ some b.guid :=
      fun b hb hM => hhome ⟨b, hb, hM⟩
    refine ⟨inbox, hinbox, .inr ⟨hname, horphan⟩, ?_⟩
    rw [(h.reassigned_attr hs hoid "M").1 horphan]
    rfl

/-- The second call can read all uids exactly if those of the first call are `int`s. -/
theorem CallResult.reassigned_unreadable_iff (hs : AllSucceed E) (h : CallResult E st st₁) :
    (∃ oid ∈ st.store.mailList E, (((st₁.reassigned E .first guid).store.objs.attr oid "U").bind
      stoi).isSome = false) ↔ ¬ UidsReadBack E st := by
  have hread : ∀ n : Nat, ((some (toString n)).bind stoi).isSome = false ↔ intMax < n := by
    intro n
    rw [Option.bind_some, stoi_toString]
    split
    case isTrue hle => simpa using hle
    case isFalse hgt => simpa using hgt
  constructor
  · intro hex hback
    obtain ⟨oid, hoid, hun⟩ := hex
    by_cases hhome : ∃ b ∈ boxInfos st.infos, st.store.objs.attr oid "M" = some b.guid
    · obtain ⟨b, hb, i, hi, hU⟩ := h.uid hoid hhome
      rw [(h.reassigned_attr hs hoid "U").2 hhome, hU, hread] at hun
      exact absurd (hback b hb i hi) (Nat.not_le.mpr hun)
    · rw [(h.reassigned_attr hs hoid "U").1 fun b hb hM => hhome ⟨b, hb, hM⟩] at hun
      exact absurd ((hread intMax).mp hun) (Nat.lt_irrefl _)
  · intro hback
    simp only [UidsReadBack, not_forall, Nat.not_le] at hback
    obtain ⟨b, hb, i, hi, hgt⟩ := hback
    have hget : (objectsOf E st.store b.info.guid)[i]? =
        some (objectsOf E st.store b.info.guid)[i] := List.getElem?_eq_getElem hi
    have hmem := List.mem_filter.mp (List.getElem_mem hi)
    refine ⟨_, hmem.1, ?_⟩
    have hhome : ∃ b' ∈ boxInfos st.infos,
        st.store.objs.attr (objectsOf E st.store b.info.guid)[i] "M" = some b'.guid := by
      refine ⟨b.info, ?_, of_decide_eq_true hmem.2⟩
      rw [← boxes_infos]
      exact List.mem_map_of_mem hb
    rw [(h.reassigned_attr hs hmem.1 "U").2 hhome, h.uids b hb i _ hget, hread]
    exact hgt

/-- A call that has started with every object in the mailbox where it belongs leaves the right
    indexes. -/
theorem CallResult.exactly {st₂ st' : RebuildState γ} (hg : GoodObjects E guidToString st.store)
    (hguids : ((boxInfos st.infos).map (·.guid)).Nodup) (hinfos : st₂.infos = st.infos)
    (hlist : st₂.store.mailList E = st.store.mailList E)
    (hG : ∀ oid ∈ st.store.mailList E,
      st₂.store.objs.attr oid "G" = st.store.objs.attr oid "G")
    (hhome : ∀ oid ∈ st.store.mailList E, ∃ b ∈ boxInfos st.infos, Home st b oid ∧
      st₂.store.objs.attr oid "M" = some b.guid)
    (h : CallResult E st₂ st') : RebuiltExactly E guidToString st st' := by
  refine @rebuiltExactly_of_records γ E guidToString st st' hg (h.infos.trans hinfos) hguids
    (fun oid => (st₂.store.objs.attr oid "M").getD "") ?_ ?_
  · intro oid hoid
    obtain ⟨b, hb, hh, hM⟩ := hhome oid hoid
    exact ⟨b, hb, by rw [hM]; rfl, hh⟩
  · intro b hb
    have hobjects : objectsOf E st₂.store b.info.guid = (st.store.mailList E).filter fun oid =>
        (st₂.store.objs.attr oid "M").getD "" = b.info.guid := by
      rw [objectsOf, hlist]
      refine List.filter_congr fun oid hoid => ?_
      obtain ⟨b', _, _, hM⟩ := hhome oid hoid
      rw [hM]
      simp
    rw [h.records b hb, hobjects]
    refine List.map_congr_left fun oid hoid => ?_
    rw [hG oid (List.mem_filter.mp hoid).1]

/-- With no orphans every mail is restored. -/
theorem CallResult.all_restored (h : CallResult E st st₁) (hno : NoOrphans E st) :
    st₁.store.mails.all (·.restored) = true := by
  rw [List.all_eq_true]
  intro m hm
  by_contra hr
  obtain ⟨hoid, horphan⟩ := (h.unrestored m.oid).mp ⟨m, hm, by simpa using hr, rfl⟩
  obtain ⟨b, hb, hM⟩ := hno m.oid hoid
  exact horphan b hb hM

/-- The second call, after one that has left orphans to INBOX. -/
theorem rebuildAgain_spec (ho : AllOpen st.infos) (hs : AllSucceed E)
    (hg : GoodObjects E guidToString st.store) (h : CallResult E st st₁) {inbox : BoxInfo}
    (hinbox : inbox ∈ boxInfos st.infos) (hname : inbox.vname = "INBOX") :
    (UidsReadBack E st → ∃ st', (rebuildAgain E true (st₁.reassigned E .first inbox.guid)).2 =
        some (0, st') ∧ RebuiltExactly E guidToString st st') ∧
      (¬ UidsReadBack E st →
        (rebuildAgain E true (st₁.reassigned E .first inbox.guid)).2 = none) := by
  have hg₂ : GoodObjects E guidToString (st₁.reassigned E .first inbox.guid).store :=
    h.reassigned_good hs hg
  have hinfos : (st₁.reassigned E .first inbox.guid).infos = st.infos := h.infos
  have hlist : (st₁.reassigned E .first inbox.guid).store.mailList E = st.store.mailList E :=
    h.mailList
  have ho₂ : AllOpen (st₁.reassigned E .first inbox.guid).infos := by rw [hinfos]; exact ho
  have hhome : ∀ oid ∈ st.store.mailList E, ∃ b ∈ boxInfos st.infos, Home st b oid ∧
      (st₁.reassigned E .first inbox.guid).store.objs.attr oid "M" = some b.guid :=
    fun oid hoid => h.reassigned_home hs hinbox hname hoid
  have hnone : rebuildPass E .second true (st₁.reassigned E .first inbox.guid) = none ↔
      ¬ UidsReadBack E st := by
    have hun := @CallResult.reassigned_unreadable_iff γ E st st₁ inbox.guid hs h
    rw [forcedCall_none_iff ho₂ hs hg₂, hlist, hinfos, ← hun]
    constructor
    · intro hex
      obtain ⟨oid, hoid, _, hun⟩ := hex
      exact ⟨oid, hoid, hun⟩
    · intro hex
      obtain ⟨oid, hoid, hun⟩ := hex
      obtain ⟨b, hb, _, hM⟩ := hhome oid hoid
      exact ⟨oid, hoid, ⟨b, hb, hM⟩, hun⟩
  constructor
  · intro hback
    obtain ⟨st₂, hsecond⟩ : ∃ st₂, rebuildPass E .second true
        (st₁.reassigned E .first inbox.guid) = some st₂ := by
      rw [← Option.ne_none_iff_exists', Ne, hnone]
      exact fun hn => hn hback
    have hcall := forcedCall_spec ho₂ hs hg₂ h.nextUids hsecond
    have hno : NoOrphans E (st₁.reassigned E .first inbox.guid) := by
      intro oid hoid
      obtain ⟨b, hb, _, hM⟩ := hhome oid (hlist ▸ hoid)
      exact ⟨b, by rw [hinfos]; exact hb, hM⟩
    refine ⟨st₂, ?_, hcall.exactly hg ho.guids hinfos hlist
      (fun oid hoid => h.reassigned_same hs hoid "G" (by decide) (by decide)) hhome⟩
    rw [rebuildAgain, hsecond]
    dsimp only
    rw [assignUnassigned_restored (hcall.all_restored hno)]
  · intro hback
    rw [rebuildAgain, hnone.mpr hback]

/-- **A forced rebuild returns 0 and loses and duplicates nothing exactly if no object is an
    orphan, or the uids of the first call can be read back in the second.** -/
theorem forced_rebuild_exact_iff (E : RebuildEnv γ) (guidToString : γ → String)
    (st : RebuildState γ) (h : ForcedSetup E guidToString st) :
    (∃ st', (rboxStorageRebuildInContext E true st).2 = some (0, st') ∧
      RebuiltExactly E guidToString st st') ↔ NoOrphans E st ∨ UidsReadBack E st := by
  obtain ⟨ho, hs, hg, huids, hnext⟩ := h
  -- the first call reads every uid
  obtain ⟨st₁, hfirst⟩ : ∃ st₁, rebuildPass E .first true st = some st₁ := by
    rw [← Option.ne_none_iff_exists', Ne, forcedCall_none_iff ho hs hg]
    intro hex
    obtain ⟨oid, hoid, _, hun⟩ := hex
    rw [huids oid hoid] at hun
    cases hun
  have hcall := forcedCall_spec ho hs hg hnext hfirst
  have hrebuild : (rboxStorageRebuildInContext E true st).2 =
      (assignUnassigned E .first (rebuildAgain E true) st₁).2 := by
    rw [rboxStorageRebuildInContext, hfirst]
  rw [hrebuild]
  by_cases hno : NoOrphans E st
  · rw [assignUnassigned_restored (hcall.all_restored hno)]
    refine ⟨fun _ => .inl hno, fun _ => ⟨st₁, rfl, ?_⟩⟩
    refine hcall.exactly hg ho.guids rfl rfl (fun _ _ => rfl) fun oid hoid => ?_
    obtain ⟨b, hb, hM⟩ := hno oid hoid
    exact ⟨b, hb, .inl hM, hM⟩
  · have hleft : ¬ st₁.store.mails.all (·.restored) = true := by
      intro hall
      refine hno fun oid hoid => ?_
      by_contra horphan
      obtain ⟨m, hm, hr, _⟩ := (hcall.unrestored oid).mpr
        ⟨hoid, fun b hb hM => horphan ⟨b, hb, hM⟩⟩
      rw [List.all_eq_true.mp hall m hm] at hr
      cases hr
    obtain ⟨inbox, hinbox, hname, hfind⟩ := ho.finds (p := .first)
    rw [assignUnassigned_found hleft (by rw [hcall.infos]; exact hfind)]
    obtain ⟨hright, hwrong⟩ := rebuildAgain_spec ho hs hg hcall hinbox hname
    constructor
    · intro hex
      obtain ⟨st', hst', _⟩ := hex
      by_contra hback
      rw [not_or] at hback
      have hnone := hwrong hback.2
      rw [hnone] at hst'
      cases hst'
    · intro hback
      exact hright (hback.resolve_left hno)

end Rebuild

def secondOid : String := "b0000000000000000000000000000000"

/-- A mail of INBOX, and an orphan. -/
def orphanStore : RebuildStore where
  objs := fun oid =>
    if oid = firstOid then some (mailXattrs inboxGuid "7")
    else if oid = secondOid then some (mailXattrs workGuid "3")
    else none
  oids := [firstOid, secondOid]
  cephIndex := []
  corrupted := 0

/-- A user who has only INBOX; `next_uid` of its index is `nextUid`. -/
def orphanState (nextUid : Nat) : RebuildState String where
  namespaces := [⟨true, none, [⟨{ vname := "INBOX", guid := inboxGuid }, ⟨[], nextUid, 1⟩⟩], none⟩]
  store := orphanStore

theorem goodObjects_orphanStore : GoodObjects hexEnv id orphanStore :=
  ⟨by decide, by decide, by decide⟩

theorem readable_orphanStore : ∀ oid ∈ orphanStore.mailList hexEnv,
    ((orphanStore.objs.attr oid "U").bind stoi).isSome = true := by
  decide

theorem forcedSetup_orphanState {nextUid : Nat} (h : nextUid < 2 ^ 32) :
    ForcedSetup hexEnv id (orphanState nextUid) where
  boxes :=
    { inbox := ⟨_, [], rfl, rfl⟩
      listed := by
        intro ns hns
        obtain rfl := List.mem_singleton.mp hns
        rfl
      own := by
        intro b hb
        obtain rfl := List.mem_singleton.mp hb
        exact ⟨rfl, rfl⟩
      opens := by
        intro b hb _
        obtain rfl := List.mem_singleton.mp hb
        exact ⟨rfl, rfl⟩
      commits := by
        intro b hb _
        obtain rfl := List.mem_singleton.mp hb
        rfl
      guids := List.nodup_singleton _
      named := ⟨_, List.mem_singleton.mpr rfl, rfl⟩
      once := by
        intro b hb b' hb' _ _
        rw [List.mem_singleton.mp hb, List.mem_singleton.mp hb'] }
  rados := ⟨fun _ _ => rfl, fun _ _ => rfl, fun _ _ => rfl⟩
  objects := goodObjects_orphanStore
  uids := readable_orphanStore
  nextUids := by
    intro b hb
    obtain rfl := List.mem_singleton.mp hb
    exact h

/-- With a small `next_uid` both mails end up in INBOX. -/
theorem orphan_moves_to_inbox :
    ∃ st', (rboxStorageRebuildInContext hexEnv true (orphanState 8)).2 = some (0, st') ∧
      RebuiltExactly hexEnv id (orphanState 8) st' := by
  refine (forced_rebuild_exact_iff hexEnv id (orphanState 8)
    (forcedSetup_orphanState (by decide))).mpr (.inr ?_)
  intro b hb i hi
  obtain rfl := List.mem_singleton.mp hb
  have hlen : (objectsOf hexEnv (orphanState 8).store inboxGuid).length = 1 := by decide
  have hi' : i < 1 := hlen ▸ hi
  show (8 + i) % 2 ^ 32 ≤ intMax
  rw [show i = 0 from by omega]
  decide

/-- With `next_uid` 2147483648 the first call writes a uid that `std::stoi` cannot read in the
    second one. -/
theorem uid_not_read_back :
    ForcedSetup hexEnv id (orphanState 2147483648) ∧
      ¬ ∃ st', (rboxStorageRebuildInContext hexEnv true (orphanState 2147483648)).2 =
          some (0, st') ∧ RebuiltExactly hexEnv id (orphanState 2147483648) st' := by
  refine ⟨forcedSetup_orphanState (by decide), ?_⟩
  intro h
  obtain ⟨st', hst', _⟩ := h
  have hnone :
      (rboxStorageRebuildInContext hexEnv true (orphanState 2147483648)).2.isNone = true := by
    decide
  rw [hst'] at hnone
  cases hnone

end DovecotCeph
