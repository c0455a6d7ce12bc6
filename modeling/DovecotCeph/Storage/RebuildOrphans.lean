/-
  File:      DovecotCeph/Storage/RebuildOrphans.lean
  Subject:   Which objects a rebuild gives to INBOX. It takes every mail without the `restored` mark
             for an orphan, and the mark is missing too where the mail's mailbox was not rebuilt.

  * `OnlyOrphans`: no rewritten object had the guid of a selectable mailbox of this storage;
  * `PassOk`: what the mailboxes, objects and headers at the start of a call must be like;
  * **`rewrites_only_orphans_iff`**: a rebuild rewrites only orphans exactly if each of its calls
    starts so.
-/
import DovecotCeph.Storage.RebuildPass

namespace DovecotCeph

variable {γ : Type} (E : RebuildEnv γ) (p : Pass)

/-! ## 1. Orphans -/

/-- A selectable mailbox of this storage has the guid. -/
def Serves (nss : List (MailNamespace BoxInfo)) (guid : String) : Prop :=
  ∃ ns ∈ nss, ∃ b ∈ ns.boxes,
    b.selectable = true ∧ b.ownStorage = true ∧ b.isVirtual = false ∧ b.guid = guid

/-- Only orphans are rewritten. -/
def OnlyOrphans (nss : List (MailNamespace BoxInfo)) (rewrites : List Rewrite) : Prop :=
  ∀ w ∈ rewrites, ∀ guid, w.before = some guid → ¬ Serves nss guid

/-- **The states from which a call rewrites only orphans.** If the call gets to the rewriting -- it
    visits a mailbox, finds every uid it gets to readable, and then finds INBOX --, each loaded mail
    with the guid of a mailbox of this storage is restored by the mailboxes that are rebuilt. -/
def PassOk (force : Bool) (st : RebuildState γ) : Prop :=
  visited p st.namespaces ≠ [] →
    (∀ g ∈ st.rebuilt p force, ¬ Throws E g [] (loaded E p st.fresh)) →
      (findDefaultMailboxGuid p (findInbox st.infos)).isSome = true →
        ∀ pre m post, loaded E p st.fresh = pre ++ m :: post → E.operates p m.oid = true →
          Serves st.infos m.mailboxGuid → Restored E (st.rebuilt p force) pre m

/-- The rewrites of one call. -/
def passRewrites (force : Bool) (st : RebuildState γ) : List Rewrite :=
  match rebuildPass E p force st, findDefaultMailboxGuid p (findInbox st.infos) with
  | some st', some guid => (reassign E p guid st'.store.mails st'.store.objs).1
  | _, _ => []

/-- The state in which `rbox_storage_rebuild_in_context` calls itself, if it does. -/
def secondCall (force : Bool) (st : RebuildState γ) : Option (RebuildState γ) :=
  (rebuildPass E .first force st).bind fun st' =>
    if st'.store.mails.all (·.restored) then none
    else (findDefaultMailboxGuid .first (findInbox st.infos)).map fun guid =>
      st'.reassigned E .first guid

/-! ## 2. The rewriting of a call -/

section Rewrites

variable {E p} {force : Bool} {guid : String} {guids : List String}
  {before ms : List RadosMail} {objs : MailXattrs} {s : RebuildStore} {st st' : RebuildState γ}

/-- The mails the loop rewrites, with the guid their objects had before. -/
theorem mem_reassign_iff (hnodup : (ms.map (·.oid)).Nodup) {w : Rewrite} :
    w ∈ (reassign E p guid ms objs).1 ↔ ∃ m ∈ ms, m.restored = false ∧
      E.operates p m.oid = true ∧ w = ⟨m.oid, objs.attr m.oid "M"⟩ := by
  induction ms generalizing objs with
  | nil => simp [reassign]
  | cons m ms ih =>
      rw [List.map_cons, List.nodup_cons] at hnodup
      rw [reassign]
      split
      case isTrue hskip =>
        rw [ih hnodup.2]
        constructor
        · intro h
          obtain ⟨m', hm', h⟩ := h
          exact ⟨m', List.mem_cons_of_mem _ hm', h⟩
        · intro h
          obtain ⟨m', hm', hr, ho, hw⟩ := h
          rcases List.mem_cons.mp hm' with rfl | hm'
          · rw [hr, ho] at hskip
            cases hskip
          · exact ⟨m', hm', hr, ho, hw⟩
      case isFalse hgo =>
        have hgo' : m.restored = false ∧ E.operates p m.oid = true := by
          simpa using hgo
        -- the objects of the later mails are untouched
        have hattr : ∀ m' ∈ ms, (setXattr "M" guid m.oid (setXattr "U" (toString intMax) m.oid
            objs)).attr m'.oid "M" = objs.attr m'.oid "M" := by
          intro m' hm'
          have hne : m'.oid ≠ m.oid := fun heq => hnodup.1 (heq ▸ List.mem_map_of_mem hm')
          rw [attr_setXattr, if_neg fun h => hne h.1, attr_setXattr, if_neg fun h => hne h.1]
        rw [List.mem_cons, ih hnodup.2]
        constructor
        · intro h
          rcases h with rfl | ⟨m', hm', hr, ho, rfl⟩
          · exact ⟨m, List.mem_cons_self, hgo'.1, hgo'.2, rfl⟩
          · exact ⟨m', List.mem_cons_of_mem _ hm', hr, ho, by rw [hattr m' hm']⟩
        · intro h
          obtain ⟨m', hm', hr, ho, rfl⟩ := h
          rcases List.mem_cons.mp hm' with rfl | hm'
          · exact .inl rfl
          · exact .inr ⟨m', hm', hr, ho, by rw [hattr m' hm']⟩

/-- **One call rewrites only orphans exactly if it starts in a state that meets `PassOk`.** -/
theorem passRewrites_iff :
    OnlyOrphans st.infos (passRewrites E p force st) ↔ PassOk E p force st := by
  unfold passRewrites PassOk
  cases hpass : rebuildPass E p force st with
  | none =>
      refine ⟨fun _ hv hno => ?_, fun _ w hw => absurd hw List.not_mem_nil⟩
      rcases rebuildPass_none_iff.mp hpass with hnil | ⟨g, hg, ht⟩
      · exact absurd (by rw [visited, hnil]; rfl) hv
      · exact absurd ht (hno g hg)
  | some st' =>
      obtain ⟨_, hobjs, hunvisited, hmails⟩ := rebuildPass_spec hpass
      have hno : ∀ g ∈ st.rebuilt p force, ¬ Throws E g [] (loaded E p st.fresh) := by
        intro g hg ht
        have hnone := rebuildPass_none_iff.mpr (.inr ⟨g, hg, ht⟩)
        rw [hpass] at hnone
        cases hnone
      cases hfind : findDefaultMailboxGuid p (findInbox st.infos) with
      | none => exact ⟨fun _ _ _ h => (nomatch h), fun _ w hw => absurd hw List.not_mem_nil⟩
      | some guid =>
          dsimp only
          by_cases hv : visited p st.namespaces = []
          · rw [hunvisited hv]
            exact ⟨fun _ hne => absurd hv hne, fun _ w hw => absurd hw List.not_mem_nil⟩
          · rw [(hmails hv).mails]
            have hnodup : ((marked E (st.rebuilt p force) [] (loaded E p st.fresh)).map
                (·.oid)).Nodup := by
              rw [marked_oids]
              exact loaded_nodup _
            -- the guid the object of a loaded mail has when the loop gets to it
            have hguid : ∀ m ∈ loaded E p st.fresh,
                st'.store.objs.attr m.oid "M" = some m.mailboxGuid := by
              intro m hm
              rw [hobjs m.oid "M" (by decide)]
              exact loaded_guid hm
            constructor
            · intro h _ _ _ pre m post hsplit hop hserves
              have hm : m ∈ loaded E p st.fresh := by rw [hsplit]; simp
              by_contra hset
              refine h ⟨m.oid, st'.store.objs.attr m.oid "M"⟩ ?_ _ (hguid m hm) hserves
              refine (mem_reassign_iff hnodup).mpr
                ⟨{ m with restored := false }, ?_, rfl, hop, rfl⟩
              refine mem_marked_iff.mpr ⟨pre, m, post, hsplit, ?_⟩
              rw [List.nil_append, decide_eq_false hset]
            · intro h w hw guid' hbefore hserves
              obtain ⟨m', hm', hr, hop, rfl⟩ := (mem_reassign_iff hnodup).mp hw
              obtain ⟨pre, m, post, hsplit, rfl⟩ := mem_marked_iff.mp hm'
              have hm : m ∈ loaded E p st.fresh := by rw [hsplit]; simp
              have heq : some m.mailboxGuid = some guid' := (hguid m hm).symm.trans hbefore
              cases heq
              have hset := h hv hno rfl pre m post hsplit hop hserves
              exact absurd hset (of_decide_eq_false hr)

/-- What a call leaves to be rewritten is empty if every mail is restored. -/
theorem reassign_of_restored (h : ∀ m ∈ ms, m.restored = true) :
    (reassign E p guid ms objs).1 = [] := by
  induction ms with
  | nil => rfl
  | cons m ms ih =>
      rw [reassign, h m List.mem_cons_self, Bool.true_or, if_pos rfl]
      exact ih fun m' hm' => h m' (List.mem_cons_of_mem _ hm')

end Rewrites

/-! ## 3. Both calls -/

section Rebuild

variable {E p} {force : Bool} {st st₂ : RebuildState γ}

theorem secondCall_infos (h : secondCall E force st = some st₂) : st₂.infos = st.infos := by
  obtain ⟨st', hpass, h⟩ := Option.bind_eq_some_iff.mp h
  split at h
  · cases h
  · obtain ⟨guid, _, rfl⟩ := Option.map_eq_some_iff.mp h
    exact (rebuildPass_spec hpass).1

/-- The rewrites of a call, and then those of the call it makes. -/
theorem assignUnassigned_rewrites {st' : RebuildState γ}
    {again : RebuildState γ → List Rewrite × Option (Int × RebuildState γ)}
    (hpass : rebuildPass E p force st = some st') :
    (assignUnassigned E p again st').1 = passRewrites E p force st ++
      if st'.store.mails.all (·.restored) then [] else
        ((findDefaultMailboxGuid p (findInbox st.infos)).map fun guid =>
          (again (st'.reassigned E p guid)).1).getD [] := by
  have hinfos := (rebuildPass_spec hpass).1
  cases hfind : findDefaultMailboxGuid p (findInbox st.infos) with
  | none =>
      have hrw : passRewrites E p force st = [] := by simp [passRewrites, hpass, hfind]
      rw [assignUnassigned_notFound (by rw [hinfos]; exact hfind), hrw]
      split <;> rfl
  | some guid =>
      have hrw : passRewrites E p force st =
          (reassign E p guid st'.store.mails st'.store.objs).1 := by
        simp [passRewrites, hpass, hfind]
      rw [hrw]
      by_cases hall : st'.store.mails.all (·.restored) = true
      · rw [assignUnassigned_restored hall, if_pos hall,
          reassign_of_restored fun m hm => List.all_eq_true.mp hall m hm]
        rfl
      · rw [assignUnassigned_found hall (by rw [hinfos]; exact hfind), if_neg hall]
        rfl

theorem rebuildAgain_rewrites :
    (rebuildAgain E force st).1 = passRewrites E .second force st := by
  rw [rebuildAgain]
  cases hpass : rebuildPass E .second force st with
  | none => simp [passRewrites, hpass]
  | some st' =>
      dsimp only
      rw [assignUnassigned_rewrites hpass]
      split
      · exact List.append_nil _
      · cases findDefaultMailboxGuid .second (findInbox st.infos) with
        | none => exact List.append_nil _
        | some guid => exact List.append_nil _

/-- The rewrites of a rebuild are those of its one or two calls. -/
theorem rebuild_rewrites :
    (rboxStorageRebuildInContext E force st).1 = passRewrites E .first force st ++
      ((secondCall E force st).map (passRewrites E .second force)).getD [] := by
  rw [rboxStorageRebuildInContext, secondCall]
  cases hpass : rebuildPass E .first force st with
  | none => simp [passRewrites, hpass]
  | some st' =>
      dsimp only
      rw [assignUnassigned_rewrites hpass, Option.bind_some]
      congr 1
      split
      · rfl
      · cases findDefaultMailboxGuid .first (findInbox st.infos) with
        | none => rfl
        | some guid => exact rebuildAgain_rewrites

/-- **A rebuild rewrites only orphans exactly if each of its calls starts in a state that meets
    `PassOk`**: the first one, and the second one if something is rewritten in the first. -/
theorem rewrites_only_orphans_iff (E : RebuildEnv γ) (force : Bool) (st : RebuildState γ) :
    OnlyOrphans st.infos (rboxStorageRebuildInContext E force st).1 ↔
      PassOk E .first force st ∧
        ∀ st₂, secondCall E force st = some st₂ → PassOk E .second force st₂ := by
  have happend : ∀ as bs : List Rewrite, OnlyOrphans st.infos (as ++ bs) ↔
      OnlyOrphans st.infos as ∧ OnlyOrphans st.infos bs := by
    intro as bs
    unfold OnlyOrphans
    simp only [List.mem_append, or_imp, forall_and]
  rw [rebuild_rewrites, happend, passRewrites_iff]
  refine and_congr_right fun _ => ?_
  cases hsecond : secondCall E force st with
  | none => exact ⟨fun _ _ h => (nomatch h), fun _ w hw => absurd hw List.not_mem_nil⟩
  | some st₂ =>
      rw [Option.map_some, Option.getD_some, ← secondCall_infos hsecond, passRewrites_iff]
      exact ⟨fun h _ heq => Option.some.inj heq ▸ h, fun h => h st₂ rfl⟩

end Rebuild

/-- Guids by their 32 hex digits, as `guid_128_to_string` writes them. -/
def hexGuid (s : String) : Option String :=
  if s.toList.length = 32 ∧ s.toList.all (fun c => c.isDigit || ('a' ≤ c && c ≤ 'f')) then some s
  else none

def hexEnv : RebuildEnv String where
  guidFromString := hexGuid
  guidFromUuidString := hexGuid

/-- The attributes of a valid mail. -/
def mailXattrs (mailbox uid : String) : Xattrs
  | "U" => some uid
  | "R" => some "1500000000"
  | "Z" => some "2"
  | "V" => some "2"
  | "M" => some mailbox
  | "G" => some "0123456789abcdef0123456789abcdef"
  | _ => none

def inboxGuid : String := "11111111111111111111111111111111"

def workGuid : String := "22222222222222222222222222222222"

def firstOid : String := "a0000000000000000000000000000000"

/-- INBOX, and a mailbox in a second namespace that cannot be opened and owns the only mail. -/
def unopenedState : RebuildState String where
  namespaces :=
    [⟨true, none, [⟨{ vname := "INBOX", guid := inboxGuid }, ⟨[], 1, 1⟩⟩], none⟩,
     ⟨false, none,
      [⟨{ vname := "work/Jobs", guid := workGuid, opens := fun _ => false }, ⟨[], 8, 1⟩⟩], none⟩]
  store :=
    { objs := fun oid => if oid = firstOid then some (mailXattrs workGuid "7") else none
      oids := [firstOid]
      cephIndex := []
      corrupted := 0 }

/-- The mail of a mailbox that could not be opened is given to INBOX. -/
theorem served_mail_rewritten :
    ¬ OnlyOrphans unopenedState.infos
      (rboxStorageRebuildInContext hexEnv true unopenedState).1 := by
  intro h
  refine h ⟨firstOid, some workGuid⟩ ?_ workGuid rfl ?_
  · decide
  · exact ⟨_, List.mem_cons_of_mem _ List.mem_cons_self, _, List.mem_cons_self, rfl, rfl, rfl, rfl⟩

end DovecotCeph
