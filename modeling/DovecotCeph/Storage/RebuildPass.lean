/-
  File:      DovecotCeph/Storage/RebuildPass.lean
  Subject:   One pass over the mailboxes: which of them it rebuilds, which mails it leaves marked as
             restored, and when `std::stoi` ends it.

  * `visited`, `rebuiltGuids`: the mailboxes the loops get to, and those rebuilt;
  * `Restored`: a mail all of whose mailbox's mails up to it can be added;
  * **`rebuildPass_spec`**: after a pass exactly the restored mails are marked;
    **`rebuildPass_none_iff`**: the pass ends in an exception exactly if it gets to a mail whose
    uid is no `int`.
-/
import DovecotCeph.Storage.Rebuild

namespace DovecotCeph

variable {γ : Type} (E : RebuildEnv γ) (p : Pass)

/-! ## 1. Marks -/

/-- Oid and guid of the mail can be converted. -/
def RadosMail.converts (m : RadosMail) : Bool :=
  (E.guidFromString m.oid).isSome && ((m.metadata "G").bind E.guidFromUuidString).isSome

/-- `std::stoi` reads the uid of the mail. -/
def RadosMail.uidReadable (m : RadosMail) : Bool := ((m.metadata "U").bind stoi).isSome

/-- No mail of the same mailbox before `m` breaks the loop. -/
def Reached (before : List RadosMail) (m : RadosMail) : Prop :=
  ∀ m' ∈ before, m'.mailboxGuid = m.mailboxGuid → m'.converts E = true

/-- The mail is added to the index of a rebuilt mailbox. -/
def Restored (guids : List String) (before : List RadosMail) (m : RadosMail) : Prop :=
  m.mailboxGuid ∈ guids ∧ Reached E before m ∧ m.converts E = true

instance (before : List RadosMail) (m : RadosMail) : Decidable (Reached E before m) :=
  inferInstanceAs (Decidable (∀ m' ∈ before, _ → _))

instance (guids : List String) (before : List RadosMail) (m : RadosMail) :
    Decidable (Restored E guids before m) :=
  inferInstanceAs (Decidable (_ ∧ _ ∧ _))

/-- The mails with the marks that rebuilding `guids` leaves. -/
def marked (guids : List String) : List RadosMail → List RadosMail → List RadosMail
  | _, [] => []
  | before, m :: ms =>
    { m with restored := decide (Restored E guids before m) } :: marked guids (before ++ [m]) ms

/-- Rebuilding the mailbox gets to a mail whose uid is not readable. -/
def Throws (guid : String) (before ms : List RadosMail) : Prop :=
  ∃ pre m post, ms = pre ++ m :: post ∧ m.mailboxGuid = guid ∧ Reached E (before ++ pre) m ∧
    m.uidReadable = false

section Marks

variable {E p} {guid : String} {guids : List String} {before ms : List RadosMail} {m : RadosMail}
  {objs : MailXattrs}

@[simp] theorem length_marked : (marked E guids before ms).length = ms.length := by
  induction ms generalizing before with
  | nil => rfl
  | cons m ms ih => simp [marked, ih]

theorem marked_nil_guids (h : ∀ m ∈ ms, m.restored = false) : marked E [] before ms = ms := by
  induction ms generalizing before with
  | nil => rfl
  | cons m ms ih =>
      have hm : m.restored = false := h m List.mem_cons_self
      have hset : ¬ Restored E [] before m := fun hs => absurd hs.1 List.not_mem_nil
      rw [marked, ih fun m' hm' => h m' (List.mem_cons_of_mem _ hm'), decide_eq_false hset, ← hm]

/-- Rebuilding another mailbox does not restore the mail. -/
theorem restored_append_of_ne (h : m.mailboxGuid ≠ guid) :
    Restored E (guids ++ [guid]) before m ↔ Restored E guids before m := by
  unfold Restored
  rw [List.mem_append, List.mem_singleton]
  simp [h]

theorem restored_append_self (h : m.mailboxGuid = guid) :
    Restored E (guids ++ [guid]) before m ↔ Reached E before m ∧ m.converts E = true := by
  unfold Restored
  simp [h]

/-- Where the loop was broken, rebuilding the mailbox restores nothing more. -/
theorem marked_append_of_broken (h : ∃ m' ∈ before, m'.mailboxGuid = guid ∧ m'.converts E = false) :
    marked E (guids ++ [guid]) before ms = marked E guids before ms := by
  induction ms generalizing before with
  | nil => rfl
  | cons m ms ih =>
      obtain ⟨m', hm', hg, hc⟩ := h
      have hset : Restored E (guids ++ [guid]) before m ↔ Restored E guids before m := by
        by_cases hmg : m.mailboxGuid = guid
        · have hbroken : ¬ Reached E before m := by
            intro hr
            have := hr m' hm' (hg.trans hmg.symm)
            rw [hc] at this
            cases this
          exact ⟨fun hs => absurd hs.2.1 hbroken, fun hs => absurd hs.2.1 hbroken⟩
        · exact restored_append_of_ne hmg
      rw [marked, marked, ih ⟨m', List.mem_append_left _ hm', hg, hc⟩, decide_eq_decide.mpr hset]

theorem throws_cons :
    Throws E guid before (m :: ms) ↔
      (m.mailboxGuid = guid ∧ Reached E before m ∧ m.uidReadable = false) ∨
        Throws E guid (before ++ [m]) ms := by
  constructor
  · intro h
    obtain ⟨pre, m', post, hsplit, hg, hr, hu⟩ := h
    cases pre with
    | nil =>
        cases hsplit
        rw [List.append_nil] at hr
        exact .inl ⟨hg, hr, hu⟩
    | cons m₀ pre =>
        cases hsplit
        exact .inr ⟨pre, m', post, rfl, hg, by rwa [List.append_assoc], hu⟩
  · intro h
    rcases h with ⟨hg, hr, hu⟩ | ⟨pre, m', post, rfl, hg, hr, hu⟩
    · exact ⟨[], m, ms, rfl, hg, by rwa [List.append_nil], hu⟩
    · exact ⟨m :: pre, m', post, rfl, hg, by rwa [List.append_assoc] at hr, hu⟩

theorem not_throws_of_broken
    (h : ∃ m' ∈ before, m'.mailboxGuid = guid ∧ m'.converts E = false) :
    ¬ Throws E guid before ms := by
  intro ht
  obtain ⟨m', hm', hg, hc⟩ := h
  obtain ⟨pre, m, post, _, hmg, hr, _⟩ := ht
  have := hr m' (List.mem_append_left _ hm') (hg.trans hmg.symm)
  rw [hc] at this
  cases this

theorem mem_marked_iff {m' : RadosMail} :
    m' ∈ marked E guids before ms ↔ ∃ pre m post, ms = pre ++ m :: post ∧
      m' = { m with restored := decide (Restored E guids (before ++ pre) m) } := by
  induction ms generalizing before with
  | nil => simp [marked]
  | cons m ms ih =>
      rw [marked, List.mem_cons, ih]
      constructor
      · intro h
        rcases h with rfl | ⟨pre, m₁, post, rfl, rfl⟩
        · exact ⟨[], m, ms, rfl, by rw [List.append_nil]⟩
        · exact ⟨m :: pre, m₁, post, rfl, by rw [List.append_assoc]; rfl⟩
      · intro h
        obtain ⟨pre, m₁, post, hsplit, rfl⟩ := h
        cases pre with
        | nil =>
            cases hsplit
            left
            rw [List.append_nil]
        | cons m₀ pre =>
            cases hsplit
            right
            exact ⟨pre, m₁, post, rfl, by rw [List.append_assoc]; rfl⟩

theorem marked_oids : (marked E guids before ms).map (·.oid) = ms.map (·.oid) := by
  induction ms generalizing before with
  | nil => rfl
  | cons m ms ih => rw [marked, List.map_cons, List.map_cons, ih]

/-- `rbox_sync_add_object`. -/
theorem addObject_unreadable (h : m.uidReadable = false) (uid : Nat) :
    rboxSyncAddObject E p m uid objs = none := by
  have hn : (m.metadata "U").bind stoi = none := by
    unfold RadosMail.uidReadable at h
    exact Option.isSome_eq_false_iff.mp h |> Option.isNone_iff_eq_none.mp
  rw [rboxSyncAddObject, hn, Option.bind_none]

theorem addObject_fails (hu : m.uidReadable = true) (hc : m.converts E = false) (uid : Nat) :
    rboxSyncAddObject E p m uid objs = some (none, objs) := by
  obtain ⟨v, hv⟩ := Option.isSome_iff_exists.mp hu
  rw [rboxSyncAddObject, hv, Option.bind_some]
  split
  case h_1 oid guid ho hg => simp [RadosMail.converts, ho, hg] at hc
  case h_2 => rfl

theorem addObject_adds (hu : m.uidReadable = true) (hc : m.converts E = true) (uid : Nat) :
    ∃ record : IndexRecord γ, record.uid = uid ∧ E.guidFromString m.oid = some record.oid ∧
      (m.metadata "G").bind E.guidFromUuidString = some record.guid ∧
      rboxSyncAddObject E p m uid objs = some (some record,
        if E.updates p m.oid then setXattr "U" (toString uid) m.oid objs else objs) := by
  obtain ⟨v, hv⟩ := Option.isSome_iff_exists.mp hu
  obtain ⟨ho, hg⟩ := Bool.and_eq_true_iff.mp hc
  obtain ⟨oid, ho⟩ := Option.isSome_iff_exists.mp ho
  obtain ⟨g, hg⟩ := Option.isSome_iff_exists.mp hg
  refine ⟨⟨uid, oid, g⟩, rfl, ho, hg, ?_⟩
  rw [rboxSyncAddObject, hv, Option.bind_some, ho, hg]

end Marks

/-! ## 2. One mailbox -/

/-- An attribute of an object. -/
def MailXattrs.attr (objs : MailXattrs) (oid key : String) : Option String :=
  (objs oid).bind (· key)

/-- Only attributes `U` differ. -/
def SameButUid (objs objs' : MailXattrs) : Prop :=
  ∀ oid key, key ≠ "U" → objs'.attr oid key = objs.attr oid key

section Entry

variable {E p} {guid : String} {guids : List String} {before ms : List RadosMail} {m : RadosMail}
  {objs objs' : MailXattrs} {uid : Nat} {r : EntryResult γ}

theorem attr_setXattr (key value oid : String) (objs : MailXattrs) (oid' key' : String) :
    (setXattr key value oid objs).attr oid' key' =
      if oid' = oid ∧ key' = key then some value else objs.attr oid' key' := by
  unfold setXattr MailXattrs.attr
  by_cases ho : oid' = oid
  · subst ho
    rw [Function.update_self, Option.bind_some]
    by_cases hk : key' = key
    · subst hk
      simp
    · rw [Function.update_of_ne hk, if_neg fun h => hk h.2]
      cases objs oid' <;> rfl
  · rw [Function.update_of_ne ho, if_neg fun h => ho h.1]

theorem SameButUid.refl (objs : MailXattrs) : SameButUid objs objs := fun _ _ _ => rfl

theorem SameButUid.trans {objs₂ : MailXattrs} (h : SameButUid objs objs')
    (h' : SameButUid objs' objs₂) : SameButUid objs objs₂ :=
  fun oid key hk => (h' oid key hk).trans (h oid key hk)

theorem sameButUid_setXattr (value oid : String) (objs : MailXattrs) :
    SameButUid objs (setXattr "U" value oid objs) := by
  intro oid' key hk
  rw [attr_setXattr, if_neg fun h => hk h.2]

theorem entry_skip {b : Bool} (h : m.mailboxGuid ≠ guid ∨ b = true) :
    rboxSyncRebuildEntry E p guid ({ m with restored := b } :: ms) uid objs =
      (rboxSyncRebuildEntry E p guid ms uid objs).map fun r =>
        { r with mails := { m with restored := b } :: r.mails } := by
  have h' : ({ m with restored := b } : RadosMail).mailboxGuid ≠ guid ∨
      ({ m with restored := b } : RadosMail).restored = true := h
  rw [rboxSyncRebuildEntry, if_pos h']

/-- A mail of the mailbox that is not restored is not skipped. -/
theorem not_skipped (hg : m.mailboxGuid = guid) :
    ¬ (({ m with restored := false } : RadosMail).mailboxGuid ≠ guid ∨
      ({ m with restored := false } : RadosMail).restored = true) :=
  fun h => h.elim (fun hne => hne hg) Bool.false_ne_true

theorem entry_throws (hg : m.mailboxGuid = guid) (hu : m.uidReadable = false) :
    rboxSyncRebuildEntry E p guid ({ m with restored := false } :: ms) uid objs = none := by
  have hadd := @addObject_unreadable γ E p { m with restored := false } objs hu uid
  rw [rboxSyncRebuildEntry, if_neg (not_skipped hg), hadd, Option.bind_none]

theorem entry_breaks (hg : m.mailboxGuid = guid) (hu : m.uidReadable = true)
    (hc : m.converts E = false) :
    rboxSyncRebuildEntry E p guid ({ m with restored := false } :: ms) uid objs =
      some ⟨false, { m with restored := false } :: ms, [], objs⟩ := by
  have hadd := @addObject_fails γ E p { m with restored := false } objs hu hc uid
  rw [rboxSyncRebuildEntry, if_neg (not_skipped hg), hadd, Option.bind_some]

theorem entry_adds (hg : m.mailboxGuid = guid) (hu : m.uidReadable = true)
    (hc : m.converts E = true) :
    ∃ record : IndexRecord γ, record.uid = uid ∧ E.guidFromString m.oid = some record.oid ∧
      (m.metadata "G").bind E.guidFromUuidString = some record.guid ∧
      rboxSyncRebuildEntry E p guid ({ m with restored := false } :: ms) uid objs =
        (rboxSyncRebuildEntry E p guid ms ((uid + 1) % 2 ^ 32)
          (if E.updates p m.oid then setXattr "U" (toString uid) m.oid objs else objs)).map
            fun r => { r with
              mails := { m with restored := true } :: r.mails
              records := record :: r.records } := by
  obtain ⟨record, h1, h2, h3, hadd⟩ :=
    @addObject_adds γ E p { m with restored := false } objs hu hc uid
  refine ⟨record, h1, h2, h3, ?_⟩
  rw [rboxSyncRebuildEntry, if_neg (not_skipped hg), hadd, Option.bind_some]

/-- The rebuild of a mailbox writes no attribute but `U`. -/
theorem entry_objs (h : rboxSyncRebuildEntry E p guid ms uid objs = some r) :
    SameButUid objs r.objs := by
  induction ms generalizing uid objs r with
  | nil =>
      cases h
      exact SameButUid.refl _
  | cons m ms ih =>
      obtain ⟨oid, metadata, restored⟩ := m
      by_cases hskip : (⟨oid, metadata, false⟩ : RadosMail).mailboxGuid ≠ guid ∨ restored = true
      · rw [@entry_skip γ E p guid ms ⟨oid, metadata, false⟩ objs uid restored hskip] at h
        obtain ⟨r', hr', rfl⟩ := Option.map_eq_some_iff.mp h
        exact @ih objs uid r' hr'
      · rw [not_or, not_not, Bool.not_eq_true] at hskip
        obtain ⟨hg, rfl⟩ := hskip
        cases hu : (⟨oid, metadata, false⟩ : RadosMail).uidReadable with
        | false =>
            have hnone := @entry_throws γ E p guid ms ⟨oid, metadata, false⟩ objs uid hg hu
            rw [hnone] at h
            cases h
        | true =>
            cases hc : (⟨oid, metadata, false⟩ : RadosMail).converts E with
            | false =>
                have hbreak := @entry_breaks γ E p guid ms ⟨oid, metadata, false⟩ objs uid hg hu hc
                rw [hbreak] at h
                cases h
                exact SameButUid.refl _
            | true =>
                obtain ⟨record, _, _, _, hadd⟩ :=
                  @entry_adds γ E p guid ms ⟨oid, metadata, false⟩ objs uid hg hu hc
                rw [hadd] at h
                obtain ⟨r', hr', rfl⟩ := Option.map_eq_some_iff.mp h
                refine SameButUid.trans ?_ (@ih _ _ r' hr')
                split
                · exact sameButUid_setXattr _ _ _
                · exact SameButUid.refl _

/-- No mail of the mailbox breaks the loop, one more included. -/
theorem converts_concat (hbefore : ∀ m ∈ before, m.mailboxGuid = guid → m.converts E = true)
    (hm : m.mailboxGuid = guid → m.converts E = true) :
    ∀ m' ∈ before ++ [m], m'.mailboxGuid = guid → m'.converts E = true := by
  intro m' hm' he
  rcases List.mem_append.mp hm' with hm' | hm'
  · exact hbefore m' hm' he
  · obtain rfl := List.mem_singleton.mp hm'
    exact hm he

/-- **Rebuilding a mailbox restores the mails up to the first one that cannot be added.** -/
theorem entry_marked (hbefore : ∀ m ∈ before, m.mailboxGuid = guid → m.converts E = true)
    (h : rboxSyncRebuildEntry E p guid (marked E guids before ms) uid objs = some r) :
    r.mails = marked E (guids ++ [guid]) before ms := by
  induction ms generalizing before uid objs r with
  | nil =>
      cases h
      rfl
  | cons m ms ih =>
      rw [marked] at h ⊢
      by_cases hg : m.mailboxGuid = guid
      · have hreached : Reached E before m := fun m' hm' he => hbefore m' hm' (he.trans hg)
        have hset := @restored_append_self γ E guid guids before m hg
        by_cases hs : Restored E guids before m
        · -- restored by an earlier mailbox with the same guid
          rw [decide_eq_true hs, entry_skip (.inr rfl)] at h
          obtain ⟨r', hr', rfl⟩ := Option.map_eq_some_iff.mp h
          rw [ih (converts_concat hbefore fun _ => hs.2.2) hr', decide_eq_true (hset.mpr hs.2)]
        · rw [decide_eq_false hs] at h
          cases hu : m.uidReadable with
          | false =>
              rw [entry_throws hg hu] at h
              cases h
          | true =>
              cases hc : m.converts E with
              | false =>
                  rw [entry_breaks hg hu hc] at h
                  cases h
                  have hbroken : ∃ m' ∈ before ++ [m], m'.mailboxGuid = guid ∧
                      m'.converts E = false := ⟨m, by simp, hg, hc⟩
                  have hs' : ¬ Restored E (guids ++ [guid]) before m := by
                    rw [hset, hc]
                    exact fun h => Bool.false_ne_true h.2
                  rw [marked_append_of_broken hbroken, decide_eq_false hs']
              | true =>
                  obtain ⟨record, _, _, _, hadd⟩ := @entry_adds γ E p guid
                    (marked E guids (before ++ [m]) ms) m objs uid hg hu hc
                  rw [hadd] at h
                  obtain ⟨r', hr', rfl⟩ := Option.map_eq_some_iff.mp h
                  rw [ih (converts_concat hbefore fun _ => hc) hr',
                    decide_eq_true (hset.mpr ⟨hreached, hc⟩)]
      · rw [entry_skip (.inl hg)] at h
        obtain ⟨r', hr', rfl⟩ := Option.map_eq_some_iff.mp h
        rw [ih (converts_concat hbefore fun he => absurd he hg) hr',
          decide_eq_decide.mpr (restored_append_of_ne hg)]

/-- **Rebuilding a mailbox ends in an exception exactly if it gets to an unreadable uid.** -/
theorem entry_none_iff (hbefore : ∀ m ∈ before, m.mailboxGuid = guid → m.converts E = true)
    (hguids : guid ∈ guids → ¬ Throws E guid before ms) :
    rboxSyncRebuildEntry E p guid (marked E guids before ms) uid objs = none ↔
      Throws E guid before ms := by
  induction ms generalizing before uid objs with
  | nil =>
      refine ⟨nofun, fun h => ?_⟩
      obtain ⟨pre, m, post, hsplit, _⟩ := h
      exact absurd hsplit (by simp)
  | cons m ms ih =>
      have hguids' : guid ∈ guids → ¬ Throws E guid (before ++ [m]) ms :=
        fun hg ht => hguids hg (throws_cons.mpr (.inr ht))
      rw [marked, throws_cons]
      by_cases hg : m.mailboxGuid = guid
      · have hreached : Reached E before m := fun m' hm' he => hbefore m' hm' (he.trans hg)
        by_cases hs : Restored E guids before m
        · have hnot := hguids (hg ▸ hs.1)
          rw [throws_cons, not_or] at hnot
          rw [decide_eq_true hs, entry_skip (.inr rfl), Option.map_eq_none_iff,
            ih (converts_concat hbefore fun _ => hs.2.2) hguids']
          exact ⟨.inr, fun h => h.resolve_left hnot.1⟩
        · rw [decide_eq_false hs]
          cases hu : m.uidReadable with
          | false =>
              rw [entry_throws hg hu]
              exact ⟨fun _ => .inl ⟨hg, hreached, rfl⟩, fun _ => rfl⟩
          | true =>
              cases hc : m.converts E with
              | false =>
                  have hnot : ¬ Throws E guid (before ++ [m]) ms :=
                    not_throws_of_broken ⟨m, by simp, hg, hc⟩
                  rw [entry_breaks hg hu hc]
                  exact ⟨nofun, fun h => h.elim (fun h => nomatch h.2.2) fun h => absurd h hnot⟩
              | true =>
                  obtain ⟨record, _, _, _, hadd⟩ := @entry_adds γ E p guid
                    (marked E guids (before ++ [m]) ms) m objs uid hg hu hc
                  rw [hadd, Option.map_eq_none_iff,
                    ih (converts_concat hbefore fun _ => hc) hguids']
                  exact ⟨.inr, fun h => h.resolve_left fun h => nomatch h.2.2⟩
      · rw [entry_skip (.inl hg), Option.map_eq_none_iff,
          ih (converts_concat hbefore fun he => absurd he hg) hguids']
        exact ⟨.inr, fun h => h.resolve_left fun h => hg h.1⟩

end Entry

/-! ## 3. The visited mailboxes -/

/-- The mailboxes of a list that are rebuilt, unless somebody else has done it. -/
def entered (bs : List (RebuildBox γ)) : List (RebuildBox γ) :=
  (bs.takeWhile fun b => !b.info.selectable || b.info.enters p).filter (·.info.selectable)

/-- The mailboxes a pass gets to, in order. -/
def visited (nss : List (MailNamespace (RebuildBox γ))) : List (RebuildBox γ) :=
  (findInbox nss).flatMap fun ns => entered p ns.listed

/-- The guids of those it rebuilds: after the first one `corrupted_rebuild_count` is zero. -/
def rebuiltGuids (force : Bool) : Nat → List (RebuildBox γ) → List String
  | _, [] => []
  | corrupted, b :: bs =>
    (if alreadyRebuilt force corrupted b then [] else [b.info.guid]) ++ rebuiltGuids force 0 bs

/-- The mails a pass loads. -/
def loaded (s : RebuildStore) : List RadosMail :=
  loadRadosMailMetadata E p s.objs (s.mailList E)

/-- The store after visiting mailboxes. -/
def visits (force : Bool) : List (RebuildBox γ) → RebuildStore → Option RebuildStore
  | [], s => some s
  | b :: bs, s => (rboxSyncIndexRebuild E p force b (loadMails E p s)).bind fun v =>
      visits force bs v.2

/-- A store in a pass that started at `s₀` and has rebuilt `guids`. -/
structure PassInv (s₀ : RebuildStore) (guids : List String) (s : RebuildStore) : Prop where
  mails : s.mails = marked E guids [] (loaded E p s₀)
  objs : SameButUid s₀.objs s.objs
  idle : loaded E p s₀ = [] → s.objs = s₀.objs
  mailList : s.mailList E = s₀.mailList E ∨ s.mailList E = (loaded E p s₀).map (·.oid)

section Visits

variable {E p} {force : Bool} {s₀ s s' : RebuildStore} {guids : List String}
  {b b' : RebuildBox γ} {bs : List (RebuildBox γ)}

/-- What loading an object gives. -/
theorem load_eq_some {objs : MailXattrs} {oid : String} {m : RadosMail}
    (h : (if E.loads p oid then (objs oid).bind fun x =>
        if validateMetadata x then some { oid := oid, metadata := x } else none
      else none) = some m) :
    m.oid = oid ∧ objs oid = some m.metadata ∧ validateMetadata m.metadata = true ∧
      m.restored = false := by
  split at h
  case isTrue =>
    obtain ⟨x, hx, h⟩ := Option.bind_eq_some_iff.mp h
    split at h
    case isTrue hvalid =>
      cases h
      exact ⟨rfl, hx, hvalid, rfl⟩
    case isFalse => cases h
  case isFalse => cases h

/-- A loaded mail has the attributes of its object, and no mark. -/
theorem mem_loaded {m : RadosMail} (h : m ∈ loaded E p s) :
    m.oid ∈ s.mailList E ∧ s.objs m.oid = some m.metadata ∧ validateMetadata m.metadata = true ∧
      m.restored = false := by
  obtain ⟨oid, hoid, h⟩ := List.mem_filterMap.mp h
  obtain ⟨rfl, hload⟩ := load_eq_some h
  exact ⟨hoid, hload⟩

theorem loaded_guid {m : RadosMail} (h : m ∈ loaded E p s) :
    s.objs.attr m.oid "M" = some m.mailboxGuid := by
  obtain ⟨_, hobj, hvalid, _⟩ := mem_loaded h
  obtain ⟨g, hg⟩ := Option.isSome_iff_exists.mp (mailboxGuid_of_valid hvalid)
  rw [MailXattrs.attr, hobj, Option.bind_some, hg, RadosMail.mailboxGuid, hg]
  rfl

theorem loaded_oids_sublist (s : RebuildStore) :
    ((loaded E p s).map (·.oid)).Sublist (s.mailList E) := by
  unfold loaded loadRadosMailMetadata
  induction s.mailList E with
  | nil => exact List.Sublist.refl _
  | cons oid oids ih =>
      rw [List.filterMap_cons]
      split
      case h_1 => exact ih.cons oid
      case h_2 m hm =>
        rw [List.map_cons, (load_eq_some hm).1]
        exact ih.cons_cons oid

theorem loaded_sorted (s : RebuildStore) : ((loaded E p s).map (·.oid)).Pairwise (· < ·) :=
  (Lib.sorted_orderedSet _).sublist (loaded_oids_sublist s)

theorem loaded_nodup (s : RebuildStore) : ((loaded E p s).map (·.oid)).Nodup :=
  (loaded_sorted s).imp ne_of_lt

@[simp] theorem loadMails_corrupted : (loadMails E p s).corrupted = s.corrupted := by
  unfold loadMails
  split <;> rfl

@[simp] theorem loadMails_objs : (loadMails E p s).objs = s.objs := by
  unfold loadMails
  split <;> rfl

/-- With the ceph index, loading makes the loaded mails the list. -/
theorem loadMails_mailList : (loadMails E p s).mailList E = s.mailList E ∨
    s.mails = [] ∧ (loadMails E p s).mailList E = (loaded E p s).map (·.oid) := by
  unfold loadMails
  split
  case isTrue hempty =>
    by_cases hw : E.searchMethod = 2 ∧ E.overwrites p = true
    · right
      refine ⟨List.isEmpty_iff.mp hempty, ?_⟩
      rw [RebuildStore.mailList, if_pos hw.1]
      dsimp only
      rw [if_pos hw]
      exact Lib.orderedSet_eq_self (loaded_sorted s)
    · left
      simp only [RebuildStore.mailList, if_neg hw]
  case isFalse => exact .inl rfl

/-- A pass that has loaded nothing loads nothing later. -/
theorem PassInv.reload (hi : PassInv E p s₀ guids s) (h : loaded E p s₀ = []) :
    loaded E p s = [] := by
  unfold loaded
  rw [hi.idle h]
  rcases hi.mailList with hl | hl
  · rw [hl]
    exact h
  · rw [hl, h]
    rfl

/-- The first mailbox finds the mails loaded and none of them restored. -/
theorem passInv_start (h : s₀.mails = []) : PassInv E p s₀ [] (loadMails E p s₀) := by
  refine ⟨?_, by rw [loadMails_objs]; exact SameButUid.refl _, fun _ => loadMails_objs,
    loadMails_mailList.imp_right And.right⟩
  rw [marked_nil_guids fun m hm => (mem_loaded hm).2.2.2, loadMails, h]
  rfl

theorem passInv_load (hi : PassInv E p s₀ guids s) : PassInv E p s₀ guids (loadMails E p s) := by
  by_cases hempty : s.mails = []
  · -- nothing is loaded, so there is nothing to load
    have hnil : loaded E p s₀ = [] := by
      rw [hi.mails] at hempty
      rw [← List.length_eq_zero_iff, ← @length_marked γ E guids [], hempty]
      rfl
    have hreload := hi.reload hnil
    refine ⟨?_, by rw [loadMails_objs]; exact hi.objs,
      fun h => loadMails_objs.trans (hi.idle h), ?_⟩
    · rw [loadMails, hempty]
      show loaded E p s = _
      rw [hreload, hnil]
      rfl
    · rcases @loadMails_mailList γ E p s with hl | ⟨_, hl⟩
      · rw [hl]
        exact hi.mailList
      · right
        rw [hl, hreload, hnil]
  · have hsame : loadMails E p s = s := by
      rw [loadMails, if_neg fun h => hempty (List.isEmpty_iff.mp h)]
    rw [hsame]
    exact hi

/-- One mailbox. -/
theorem passInv_rebuild (hi : PassInv E p s₀ guids s)
    (h : rboxSyncIndexRebuild E p force b s = some (b', s')) :
    PassInv E p s₀ (guids ++ if alreadyRebuilt force s.corrupted b then [] else [b.info.guid]) s' ∧
      s'.corrupted = 0 := by
  unfold rboxSyncIndexRebuild at h
  split at h
  case isTrue hskip =>
    cases h
    rw [if_pos hskip, List.append_nil]
    exact ⟨⟨hi.mails, hi.objs, hi.idle, hi.mailList⟩, rfl⟩
  case isFalse hgo =>
    obtain ⟨r, hr, h⟩ := Option.map_eq_some_iff.mp h
    cases h
    rw [if_neg hgo]
    rw [hi.mails] at hr
    refine ⟨⟨entry_marked (by simp) hr, hi.objs.trans (entry_objs hr), fun hnil => ?_,
      hi.mailList⟩, rfl⟩
    rw [hnil] at hr
    cases hr
    exact hi.idle hnil

theorem rebuild_none_iff (hi : PassInv E p s₀ guids s)
    (hno : ∀ g ∈ guids, ¬ Throws E g [] (loaded E p s₀)) :
    rboxSyncIndexRebuild E p force b s = none ↔
      alreadyRebuilt force s.corrupted b = false ∧ Throws E b.info.guid [] (loaded E p s₀) := by
  unfold rboxSyncIndexRebuild
  split
  case isTrue hskip => simp [hskip]
  case isFalse hgo =>
    rw [Option.map_eq_none_iff, hi.mails, entry_none_iff (by simp) (hno _), Bool.eq_false_iff]
    exact ⟨fun h => ⟨hgo, h⟩, fun h => h.2⟩

/-- **The marks after visiting mailboxes.** -/
theorem visits_inv (hi : PassInv E p s₀ guids (loadMails E p s)) (hbs : bs ≠ [])
    (h : visits E p force bs s = some s') :
    PassInv E p s₀ (guids ++ rebuiltGuids force s.corrupted bs) s' := by
  induction bs generalizing guids s with
  | nil => exact absurd rfl hbs
  | cons b bs ih =>
      obtain ⟨⟨b', s₁⟩, hr, h⟩ := Option.bind_eq_some_iff.mp h
      obtain ⟨hi₁, hc⟩ := passInv_rebuild hi hr
      rw [loadMails_corrupted] at hi₁
      rw [rebuiltGuids, ← List.append_assoc]
      cases bs with
      | nil =>
          cases h
          rw [rebuiltGuids, List.append_nil]
          exact hi₁
      | cons b₂ bs =>
          have := ih (passInv_load hi₁) (List.cons_ne_nil _ _) h
          rwa [hc] at this

/-- **Visiting mailboxes ends in an exception exactly if one of those rebuilt gets to an unreadable
    uid.** -/
theorem visits_none_iff (hi : PassInv E p s₀ guids (loadMails E p s))
    (hno : ∀ g ∈ guids, ¬ Throws E g [] (loaded E p s₀)) :
    visits E p force bs s = none ↔
      ∃ g ∈ rebuiltGuids force s.corrupted bs, Throws E g [] (loaded E p s₀) := by
  induction bs generalizing guids s with
  | nil => simp [visits, rebuiltGuids]
  | cons b bs ih =>
      have hb := @rebuild_none_iff γ E p force s₀ _ guids b hi hno
      rw [loadMails_corrupted] at hb
      cases hr : rboxSyncIndexRebuild E p force b (loadMails E p s) with
      | none =>
          obtain ⟨hgo, ht⟩ := hb.mp hr
          rw [visits, hr, rebuiltGuids, if_neg (by rw [hgo]; exact Bool.false_ne_true)]
          refine ⟨fun _ => ⟨b.info.guid, ?_, ht⟩, fun _ => rfl⟩
          exact List.mem_append_left _ (List.mem_singleton.mpr rfl)
      | some v =>
          obtain ⟨b', s₁⟩ := v
          have hnot : ¬ (alreadyRebuilt force s.corrupted b = false ∧
              Throws E b.info.guid [] (loaded E p s₀)) := by
            rw [← hb, hr]
            exact Option.some_ne_none _
          obtain ⟨hi₁, hc⟩ := passInv_rebuild hi hr
          rw [loadMails_corrupted] at hi₁
          have hhead : ∀ g ∈ (if alreadyRebuilt force s.corrupted b then [] else [b.info.guid]),
              ¬ Throws E g [] (loaded E p s₀) := by
            intro g hg ht
            split at hg
            case isTrue => exact absurd hg List.not_mem_nil
            case isFalse hgo =>
              obtain rfl := List.mem_singleton.mp hg
              exact hnot ⟨Bool.eq_false_iff.mpr hgo, ht⟩
          have hrest := ih (passInv_load hi₁) fun g hg =>
            (List.mem_append.mp hg).elim (hno g) (hhead g)
          rw [hc] at hrest
          rw [visits, hr, Option.bind_some, hrest, rebuiltGuids]
          constructor
          · intro h
            obtain ⟨g, hg, ht⟩ := h
            exact ⟨g, List.mem_append_right _ hg, ht⟩
          · intro h
            obtain ⟨g, hg, ht⟩ := h
            rcases List.mem_append.mp hg with hg | hg
            · exact absurd ht (hhead g hg)
            · exact ⟨g, hg, ht⟩

end Visits

/-! ## 4. The pass -/

section Pass

variable {E p} {force : Bool} {s s' : RebuildStore} {bs bs' : List (RebuildBox γ)}
  {nss nss' : List (MailNamespace (RebuildBox γ))} {st st' : RebuildState γ}

theorem visits_append (as bs : List (RebuildBox γ)) (s : RebuildStore) :
    visits E p force (as ++ bs) s = (visits E p force as s).bind (visits E p force bs) := by
  induction as generalizing s with
  | nil => rfl
  | cons a as ih =>
      rw [List.cons_append, visits, visits, Option.bind_assoc]
      congr 1
      funext v
      exact ih v.2

/-- The store after the loop of `repair_namespace`. -/
theorem repairBoxes_store (bs : List (RebuildBox γ)) (s : RebuildStore) :
    (repairBoxes E p force bs s).map Prod.snd = visits E p force (entered p bs) s := by
  induction bs generalizing s with
  | nil => rfl
  | cons b bs ih =>
      rw [repairBoxes]
      cases hsel : b.info.selectable with
      | false =>
          have hent : entered p (b :: bs) = entered p bs := by simp [entered, hsel]
          rw [if_pos (by rfl), Option.map_map, hent, ← ih]
          rfl
      | true =>
          rw [if_neg (by simp)]
          cases hin : b.info.enters p with
          | false =>
              have hent : entered p (b :: bs) = [] := by simp [entered, hsel, hin]
              rw [if_pos (by rfl), hent]
              rfl
          | true =>
              have hent : entered p (b :: bs) = b :: entered p bs := by
                simp [entered, hsel, hin]
              rw [if_neg (by simp), hent, visits, Option.map_bind]
              congr 1
              funext v
              rw [Function.comp_apply, Option.map_map, ← ih v.2]
              rfl

theorem rebuild_info {b b' : RebuildBox γ}
    (h : rboxSyncIndexRebuild E p force b s = some (b', s')) : b'.info = b.info := by
  unfold rboxSyncIndexRebuild at h
  split at h
  · cases h
    rfl
  · obtain ⟨r, _, h⟩ := Option.map_eq_some_iff.mp h
    obtain ⟨hb, _⟩ := Prod.mk.inj h
    rw [← hb]
    split <;> rfl

theorem repairBoxes_infos (h : repairBoxes E p force bs s = some (bs', s')) :
    bs'.map (·.info) = bs.map (·.info) := by
  induction bs generalizing s bs' with
  | nil =>
      cases h
      rfl
  | cons b bs ih =>
      rw [repairBoxes] at h
      split at h
      · obtain ⟨⟨bs₁, s₁⟩, hr, h⟩ := Option.map_eq_some_iff.mp h
        cases h
        rw [List.map_cons, List.map_cons, ih hr]
      · split at h
        · cases h
          rfl
        · obtain ⟨⟨b', s₁⟩, hb, h⟩ := Option.bind_eq_some_iff.mp h
          obtain ⟨⟨bs₁, s₂⟩, hr, h⟩ := Option.map_eq_some_iff.mp h
          cases h
          rw [List.map_cons, List.map_cons, ih hr, rebuild_info hb]

theorem repairNamespaces_store (nss : List (MailNamespace (RebuildBox γ))) (s : RebuildStore) :
    (repairNamespaces E p force nss s).map Prod.snd =
      visits E p force (nss.flatMap fun ns => entered p ns.listed) s := by
  induction nss generalizing s with
  | nil => rfl
  | cons ns nss ih =>
      rw [repairNamespaces, Option.map_bind, List.flatMap_cons, visits_append,
        ← repairBoxes_store, repairNamespace, Option.bind_map, Option.bind_map]
      congr 1
      funext v
      rw [Function.comp_apply, Function.comp_apply, Function.comp_apply, Option.map_map, ← ih v.2]
      rfl

theorem map_listed_append_unlisted (ns : MailNamespace (RebuildBox γ)) :
    ns.listed.map (·.info) ++ ns.unlisted.map (·.info) = ns.boxes.map (·.info) := by
  unfold MailNamespace.listed MailNamespace.unlisted
  cases ns.handedOut with
  | none => simp
  | some n => rw [← List.map_append, List.take_append_drop]

theorem repairNamespaces_infos (h : repairNamespaces E p force nss s = some (nss', s')) :
    nss'.map (·.map (·.info)) = nss.map (·.map (·.info)) := by
  induction nss generalizing s nss' with
  | nil =>
      cases h
      rfl
  | cons ns nss ih =>
      obtain ⟨⟨ns', s₁⟩, hn, h⟩ := Option.bind_eq_some_iff.mp h
      obtain ⟨⟨nss₁, s₂⟩, hr, h⟩ := Option.map_eq_some_iff.mp h
      obtain ⟨⟨bs', s₃⟩, hb, hn⟩ := Option.map_eq_some_iff.mp hn
      cases h
      cases hn
      rw [List.map_cons, List.map_cons, ih hr]
      congr 1
      unfold MailNamespace.map
      rw [List.map_append, repairBoxes_infos hb, map_listed_append_unlisted]

/-- The store of a pass at its start. -/
def RebuildState.fresh (st : RebuildState γ) : RebuildStore := { st.store with mails := [] }

/-- The guids of the mailboxes a pass rebuilds. -/
def RebuildState.rebuilt (p : Pass) (force : Bool) (st : RebuildState γ) : List String :=
  rebuiltGuids force st.store.corrupted (visited p st.namespaces)

/-- **A pass ends in an exception exactly if a mailbox it rebuilds gets to an unreadable uid.** -/
theorem rebuildPass_none_iff :
    rebuildPass E p force st = none ↔ findInbox st.namespaces = [] ∨
      ∃ g ∈ st.rebuilt p force, Throws E g [] (loaded E p st.fresh) := by
  unfold rebuildPass
  split
  case isTrue hnil =>
    rw [List.isEmpty_iff] at hnil
    exact ⟨fun _ => .inl hnil, fun _ => rfl⟩
  case isFalse hne =>
    rw [List.isEmpty_iff] at hne
    have hstore := @repairNamespaces_store γ E p force (findInbox st.namespaces) st.fresh
    have hnone := @visits_none_iff γ E p force st.fresh st.fresh [] (visited p st.namespaces)
      (passInv_start rfl) (by simp)
    rw [Option.map_eq_none_iff, ← @Option.map_eq_none_iff _ _ _ Prod.snd]
    show (repairNamespaces E p force (findInbox st.namespaces) st.fresh).map Prod.snd = none ↔ _
    rw [hstore]
    exact ⟨fun h => .inr (hnone.mp h), fun h => hnone.mpr (h.resolve_left hne)⟩

/-- **After a pass that visits a mailbox the restored mails are marked**; mailboxes, and the
    attributes but `U`, are as before. -/
theorem rebuildPass_spec (h : rebuildPass E p force st = some st') :
    st'.infos = st.infos ∧ SameButUid st.store.objs st'.store.objs ∧
      (visited p st.namespaces = [] → st'.store.mails = []) ∧
      (visited p st.namespaces ≠ [] →
        PassInv E p st.fresh (st.rebuilt p force) st'.store) := by
  unfold rebuildPass at h
  split at h
  case isTrue => cases h
  case isFalse =>
    obtain ⟨⟨nss', s'⟩, hr, h⟩ := Option.map_eq_some_iff.mp h
    cases h
    have hinfos : RebuildState.infos
        ⟨st.namespaces.takeWhile (fun ns => !ns.inboxUser) ++ nss', s'⟩ = st.infos := by
      unfold RebuildState.infos
      rw [List.map_append, repairNamespaces_infos hr, ← List.map_append, findInbox,
        List.takeWhile_append_dropWhile]
    have hvisits : visits E p force (visited p st.namespaces) st.fresh = some s' := by
      have hstore := @repairNamespaces_store γ E p force (findInbox st.namespaces) st.fresh
      have hr' : repairNamespaces E p force (findInbox st.namespaces) st.fresh =
          some (nss', s') := hr
      rw [hr'] at hstore
      exact hstore.symm
    refine ⟨hinfos, ?_⟩
    cases hv : visited p st.namespaces with
    | nil =>
        rw [hv] at hvisits
        cases hvisits
        exact ⟨SameButUid.refl _, fun _ => rfl, fun hne => absurd rfl hne⟩
    | cons b bs =>
        rw [hv] at hvisits
        have hi := visits_inv (passInv_start rfl) (List.cons_ne_nil b bs) hvisits
        refine ⟨hi.objs, nofun, fun _ => ?_⟩
        rw [RebuildState.rebuilt, hv]
        exact hi

/-- The state a call hands on once the unassigned mails are given to `guid`. -/
def RebuildState.reassigned (E : RebuildEnv γ) (p : Pass) (guid : String) (st : RebuildState γ) :
    RebuildState γ :=
  { st with store := { st.store with objs := (reassign E p guid st.store.mails st.store.objs).2 } }

variable {again : RebuildState γ → List Rewrite × Option (Int × RebuildState γ)}

theorem assignUnassigned_restored (h : st.store.mails.all (·.restored) = true) :
    assignUnassigned E p again st = ([], some (0, st)) := by
  rw [assignUnassigned, if_pos h]

theorem assignUnassigned_notFound (hfind : findDefaultMailboxGuid p (findInbox st.infos) = none) :
    assignUnassigned E p again st = ([], some (0, st)) := by
  rw [assignUnassigned, hfind]
  split <;> rfl

theorem assignUnassigned_found {guid : String} (h : ¬ st.store.mails.all (·.restored) = true)
    (hfind : findDefaultMailboxGuid p (findInbox st.infos) = some guid) :
    assignUnassigned E p again st =
      ((reassign E p guid st.store.mails st.store.objs).1 ++ (again (st.reassigned E p guid)).1,
        (again (st.reassigned E p guid)).2) := by
  rw [assignUnassigned, if_neg h, hfind]
  rfl

end Pass

end DovecotCeph
