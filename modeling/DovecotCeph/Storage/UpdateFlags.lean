/-
  File:      DovecotCeph/Storage/UpdateFlags.lean
  Subject:   The flags attribute `F` of a mail over the FLAGS records of its syncs (`update_flags`
             of rbox-sync.cpp).

  The flags are written as one character. A zero or a space is lost: what is read back afterwards is
  nothing, and no later record changes it. A mail without flags has no `F` at all; `update_flags`
  makes a string of its null pointer.
  * `decodeFlags_flagsText`: which flags are read back;
  * `flagsChain_iff`: the records of one mail;
  * **`flags_follow_iff`**: for which mails and records the attribute follows the index.
-/
import DovecotCeph.Storage.SaveMetadata
import DovecotCeph.Storage.SyncUpdates

namespace DovecotCeph

open Lib

/-! ## 1. Flags records -/

/-- The flags a text stands for; a mail without the attribute has none. -/
def decodeFlags : Option String → Option UInt8
  | none => some 0
  | some v => stringToFlags v

/-- `add_flags` and `remove_flags` of a FLAGS record, and its range. -/
structure FlagsRecord where
  uid1 : Nat
  uid2 : Nat
  addFlags : UInt8
  removeFlags : UInt8

namespace FlagsRecord

def Covers (r : FlagsRecord) (uid : Nat) : Prop := r.uid1 ≤ uid ∧ uid ≤ r.uid2

instance (r : FlagsRecord) (uid : Nat) : Decidable (r.Covers uid) :=
  inferInstanceAs (Decidable (_ ∧ _))

/-- The flags of a mail the record is for. -/
def apply (r : FlagsRecord) (flags : UInt8) : UInt8 := (flags ||| r.addFlags) &&& ~~~r.removeFlags

/-- What `update_flags` makes of the text of the flags; it ends at its first NUL. -/
def newFlags (r : FlagsRecord) (text : Option String) : Option String :=
  (text.bind stringToFlags).map fun flags => cStr (flagsToString (r.apply flags))

/-- The record of the sync; `altFlag` is `RBOX_INDEX_FLAG_ALT`. -/
def syncRec (altFlag : UInt8) (r : FlagsRecord) : SyncRec where
  uid1 := r.uid1
  uid2 := r.uid2
  type := .flags (r.addFlags &&& altFlag ≠ 0) (r.removeFlags &&& altFlag ≠ 0) r.newFlags

end FlagsRecord

/-! ## 2. The text of one mail -/

section Text

variable {r : FlagsRecord} {rs : List FlagsRecord} {flags : UInt8} {text : String}

/-- Flags that are read back: not zero, and no space. -/
def Survives (flags : UInt8) : Prop := flags ≠ 0 ∧ isspace (byteChar flags) = false

instance (flags : UInt8) : Decidable (Survives flags) := inferInstanceAs (Decidable (_ ∧ _))

/-- **Which flags are read back.** -/
theorem stringToFlags_text (flags : UInt8) :
    stringToFlags (cStr (flagsToString flags)) = if Survives flags then some flags else none := by
  unfold Survives stringToFlags
  by_cases hzero : flags = 0
  · subst hzero
    decide
  · rw [cStr_flagsToString hzero, flagsToString_toList]
    by_cases hspace : isspace (byteChar flags) = true
    · simp [hspace]
    · simp [hspace, hzero, byteChar_toNat]

/-- The text after records that all are for the mail; one that cannot be read stays. -/
def textAfter (text : Option String) (rs : List FlagsRecord) : Option String :=
  rs.foldl (fun text r => (r.newFlags text).or text) text

/-- The flags of the mail after them. -/
def flagsAfter (flags : UInt8) (rs : List FlagsRecord) : UInt8 :=
  rs.foldl (fun flags r => r.apply flags) flags

theorem textAfter_none (rs : List FlagsRecord) : textAfter none rs = none := by
  induction rs with
  | nil => rfl
  | cons r rs ih => exact ih

theorem textAfter_unreadable (h : stringToFlags text = none) (rs : List FlagsRecord) :
    textAfter (some text) rs = some text := by
  induction rs with
  | nil => rfl
  | cons r rs ih =>
      have hnew : r.newFlags (some text) = none := by
        rw [FlagsRecord.newFlags, Option.bind_some, h]
        rfl
      rw [textAfter, List.foldl_cons, hnew]
      exact ih

/-- All values the flags go through are read back. -/
def AllSurvive (flags : UInt8) (rs : List FlagsRecord) : Prop :=
  ∀ pre, pre <+: rs → Survives (flagsAfter flags pre)

theorem allSurvive_cons :
    AllSurvive flags (r :: rs) ↔ Survives flags ∧ AllSurvive (r.apply flags) rs := by
  constructor
  · intro h
    refine ⟨h [] List.nil_prefix, fun pre hpre => ?_⟩
    exact h (r :: pre) (List.cons_prefix_cons.mpr ⟨rfl, hpre⟩)
  · rintro ⟨hflags, hrest⟩ pre hpre
    cases pre with
    | nil => exact hflags
    | cons r' pre =>
        obtain ⟨rfl, hpre'⟩ := List.cons_prefix_cons.mp hpre
        exact hrest pre hpre'

/-- **The records of one mail with flags**: they are followed exactly if no value on the way is
    lost. -/
theorem flagsChain_iff (flags : UInt8) (rs : List FlagsRecord) :
    decodeFlags (textAfter (some (cStr (flagsToString flags))) rs) = some (flagsAfter flags rs) ↔
      AllSurvive flags rs := by
  induction rs generalizing flags with
  | nil =>
      show stringToFlags _ = some flags ↔ _
      rw [stringToFlags_text]
      constructor
      · intro h pre hpre
        rw [List.prefix_nil.mp hpre]
        by_contra hno
        have hlost : ¬ Survives flags := hno
        rw [if_neg hlost] at h
        cases h
      · intro h
        exact if_pos (h [] List.nil_prefix)
  | cons r rs ih =>
      rw [allSurvive_cons]
      by_cases hflags : Survives flags
      · have hnew : r.newFlags (some (cStr (flagsToString flags))) =
            some (cStr (flagsToString (r.apply flags))) := by
          rw [FlagsRecord.newFlags, Option.bind_some, stringToFlags_text, if_pos hflags]
          rfl
        rw [textAfter, List.foldl_cons, hnew, and_iff_right hflags]
        exact ih (r.apply flags)
      · have hlost : stringToFlags (cStr (flagsToString flags)) = none := by
          rw [stringToFlags_text, if_neg hflags]
        rw [textAfter_unreadable hlost]
        refine iff_of_false ?_ fun h => hflags h.1
        rw [decodeFlags, hlost]
        exact fun h => by cases h

/-- **The mails and records the attribute follows.** -/
def FlagsSafe (flags : UInt8) (rs : List FlagsRecord) : Prop :=
  flags = 0 ∧ rs = [] ∨ AllSurvive flags rs

/-- A saved mail: the text is followed and never absent when it is read. -/
theorem flagsSafe_iff (flags : UInt8) (rs : List FlagsRecord) :
    decodeFlags (textAfter ((flagsText flags).map cStr) rs) = some (flagsAfter flags rs) ∧
      ((flagsText flags).map cStr = none → rs = []) ↔ FlagsSafe flags rs := by
  unfold FlagsSafe flagsText
  by_cases hzero : flags = 0
  · subst hzero
    have hno : ¬ AllSurvive 0 rs := fun h => (h [] List.nil_prefix).1 rfl
    rw [if_pos rfl, or_iff_left hno]
    constructor
    · rintro ⟨_, hnil⟩
      exact ⟨rfl, hnil rfl⟩
    · rintro ⟨_, rfl⟩
      exact ⟨rfl, fun _ => rfl⟩
  · rw [if_neg hzero, or_iff_right fun h => hzero h.1, ← flagsChain_iff]
    exact and_iff_left fun h => by cases h

end Text

/-! ## 3. All mails -/

section Mails

variable (S : SyncSetup) (altFlag : UInt8)

/-- `update_flags` reads the flags of a mail that has an object without any. -/
def ReadsAbsent (r : FlagsRecord) (ctx : SyncContext) (w : SyncWorld) : Prop :=
  ∃ seq mail oid o, ctx.view.lookup seq = some mail ∧ r.Covers mail.uid ∧ mail.oid = some oid ∧
    w.objs (designated S.alt mail.toAltRecord) oid = some o ∧ o.xattrs "F" = none

/-- No record of the run does so. -/
def NeverReadsAbsent : List FlagsRecord → SyncContext → SyncWorld → Prop
  | [], _, _ => True
  | r :: rs, ctx, w => ¬ ReadsAbsent S r ctx w ∧
      let q := syncRecord S (r.syncRec altFlag) ctx w
      NeverReadsAbsent rs q.2.1 q.2.2

/-- The text of the flags each mail has. -/
def FlagsStored (v : SyncView) (text : Nat → Option String) (objs : StoredMails) : Prop :=
  ∀ seq mail oid, v.lookup seq = some mail → mail.oid = some oid →
    ∃ o, objs (designated S.alt mail.toAltRecord) oid = some o ∧ o.xattrs "F" = text mail.uid

/-- **The attribute of each mail follows the index.** -/
structure FlagsFollow (flags : Nat → UInt8) (rs : List FlagsRecord) (ctx : SyncContext)
    (w : SyncWorld) : Prop where
  reads : NeverReadsAbsent S altFlag rs ctx w
  stored : ∀ seq mail oid, ctx.view.lookup seq = some mail → mail.oid = some oid →
    ∃ o, (syncRecords S (rs.map (·.syncRec altFlag)) ctx w).2.2.objs
        (designated S.alt mail.toAltRecord) oid = some o ∧
      decodeFlags (o.xattrs "F") =
        some (flagsAfter (flags mail.uid) (rs.filter (·.Covers mail.uid)))

variable {S altFlag} {ctx : SyncContext} {w : SyncWorld} {text : Nat → Option String}
  {rs : List FlagsRecord}

/-- **One record.** -/
theorem flagsRecord_step (hS : S.updatesFlags = true) (hown : OwnObjects S.alt ctx.view)
    {r : FlagsRecord} (hadd : r.addFlags &&& altFlag = 0) (hremove : r.removeFlags &&& altFlag = 0)
    (h : FlagsStored S ctx.view text w.objs) :
    (syncRecord S (r.syncRec altFlag) ctx w).1 = true ∧
      (syncRecord S (r.syncRec altFlag) ctx w).2.1.view = ctx.view ∧
      FlagsStored S ctx.view (fun uid => textAfter (text uid) ([r].filter (·.Covers uid)))
        (syncRecord S (r.syncRec altFlag) ctx w).2.2.objs := by
  have hrec : syncRecord S (r.syncRec altFlag) ctx w = (true, ctx.setAlt w
      (updateRange S (updateFlagsBody r.newFlags) r.uid1 r.uid2 ctx w)) := by
    rw [FlagsRecord.syncRec, hadd, hremove]
    exact syncRecord_flags hS r.newFlags
  rw [hrec]
  refine ⟨rfl, rfl, fun seq mail oid hmail hoid => ?_⟩
  obtain ⟨o, ho, htext⟩ := h seq mail oid hmail hoid
  have hobj := @updateRange_own S _ r.uid1 r.uid2 ctx w _ seq mail oid
    (updateFlagsBody_effect r.newFlags) hown hmail hoid
  show ∃ o, (updateRange S (updateFlagsBody r.newFlags) r.uid1 r.uid2 ctx w).objs
    (designated S.alt mail.toAltRecord) oid = some o ∧ _
  by_cases hcov : r.Covers mail.uid
  · have hone : [r].filter (·.Covers mail.uid) = [r] := by simp [hcov]
    refine ⟨_, (hobj.trans (if_pos hcov)).trans (by rw [ho]; rfl), ?_⟩
    beta_reduce
    rw [hone, textAfter, List.foldl_cons, List.foldl_nil, htext]
    cases hnew : r.newFlags (text mail.uid) with
    | none => exact htext
    | some v => exact Function.update_self "F" (some v) o.xattrs
  · refine ⟨o, (hobj.trans (if_neg hcov)).trans ho, ?_⟩
    simp [hcov, htext, textAfter]

theorem textAfter_append (text : Option String) (rs rs' : List FlagsRecord) :
    textAfter text (rs ++ rs') = textAfter (textAfter text rs) rs' := List.foldl_append

/-- Once there, the text stays. -/
theorem textAfter_eq_none {text : Option String} : textAfter text rs = none ↔ text = none := by
  constructor
  · intro h
    induction rs generalizing text with
    | nil => exact h
    | cons r rs ih =>
        have hfirst := ih h
        rw [Option.or_eq_none_iff] at hfirst
        exact hfirst.2
  · rintro rfl
    exact textAfter_none rs

/-- When a record reads an absent attribute. -/
theorem readsAbsent_iff {r : FlagsRecord} (h : FlagsStored S ctx.view text w.objs) :
    ReadsAbsent S r ctx w ↔
      ∃ seq mail, ctx.view.lookup seq = some mail ∧ mail.oid ≠ none ∧ r.Covers mail.uid ∧
        text mail.uid = none := by
  constructor
  · rintro ⟨seq, mail, oid, o, hmail, hcov, hoid, ho, habsent⟩
    obtain ⟨o', ho', htext⟩ := h seq mail oid hmail hoid
    rw [ho] at ho'
    cases ho'
    refine ⟨seq, mail, hmail, ?_, hcov, htext.symm.trans habsent⟩
    rw [hoid]
    exact Option.some_ne_none oid
  · rintro ⟨seq, mail, hmail, hoid, hcov, hnone⟩
    obtain ⟨oid, hoid'⟩ := Option.ne_none_iff_exists'.mp hoid
    obtain ⟨o, ho, htext⟩ := h seq mail oid hmail hoid'
    exact ⟨seq, mail, oid, o, hmail, hcov, hoid', ho, htext.trans hnone⟩

/-- **A run of records**: the texts it leaves, and when it never reads an absent attribute. -/
theorem flagsRecords_run (hS : S.updatesFlags = true) (hown : OwnObjects S.alt ctx.view)
    (hrs : ∀ r ∈ rs, r.addFlags &&& altFlag = 0 ∧ r.removeFlags &&& altFlag = 0)
    (h : FlagsStored S ctx.view text w.objs) :
    FlagsStored S ctx.view (fun uid => textAfter (text uid) (rs.filter (·.Covers uid)))
        (syncRecords S (rs.map (·.syncRec altFlag)) ctx w).2.2.objs ∧
      (NeverReadsAbsent S altFlag rs ctx w ↔
        ∀ seq mail, ctx.view.lookup seq = some mail → mail.oid ≠ none → text mail.uid = none →
          rs.filter (·.Covers mail.uid) = []) := by
  induction rs generalizing ctx w text with
  | nil => exact ⟨h, iff_of_true trivial fun _ _ _ _ _ => rfl⟩
  | cons r rs ih =>
      obtain ⟨hadd, hremove⟩ := hrs r List.mem_cons_self
      obtain ⟨hok, hview, hstored⟩ := flagsRecord_step hS hown hadd hremove h
      rw [List.map_cons, syncRecords, if_pos hok]
      rw [← hview] at hown hstored
      obtain ⟨hfinal, hreads⟩ := ih hown (fun r' hr' => hrs r' (List.mem_cons_of_mem r hr')) hstored
      rw [hview] at hfinal hreads
      have hsplit : ∀ uid, (r :: rs).filter (·.Covers uid) =
          [r].filter (·.Covers uid) ++ rs.filter (·.Covers uid) := by
        intro uid
        rw [← List.filter_append]
        rfl
      constructor
      · intro seq mail oid hmail hoid
        obtain ⟨o, ho, htext⟩ := hfinal seq mail oid hmail hoid
        refine ⟨o, ho, htext.trans ?_⟩
        beta_reduce
        rw [hsplit, textAfter_append]
      · unfold NeverReadsAbsent
        dsimp only
        rw [hreads, readsAbsent_iff h]
        simp only [textAfter_eq_none, List.filter_cons]
        constructor
        · rintro ⟨hfirst, hrest⟩ seq mail hmail hoid hnone
          rw [if_neg, hrest seq mail hmail hoid hnone]
          simp only [decide_eq_true_eq]
          exact fun hcov => hfirst ⟨seq, mail, hmail, hoid, hcov, hnone⟩
        · intro hall
          constructor
          · rintro ⟨seq, mail, hmail, hoid, hcov, hnone⟩
            have hnil := hall seq mail hmail hoid hnone
            rw [if_pos (decide_eq_true hcov)] at hnil
            cases hnil
          · intro seq mail hmail hoid hnone
            have hnil := hall seq mail hmail hoid hnone
            split at hnil
            · cases hnil
            · exact hnil

/-- **When the flags attribute follows the index.** -/
theorem flags_follow_iff (hS : S.updatesFlags = true) (hown : OwnObjects S.alt ctx.view)
    (flags : Nat → UInt8)
    (hsaved : FlagsStored S ctx.view (fun uid => (flagsText (flags uid)).map cStr) w.objs)
    (hrs : ∀ r ∈ rs, r.addFlags &&& altFlag = 0 ∧ r.removeFlags &&& altFlag = 0) :
    FlagsFollow S altFlag flags rs ctx w ↔
      ∀ seq mail, ctx.view.lookup seq = some mail → mail.oid ≠ none →
        FlagsSafe (flags mail.uid) (rs.filter (·.Covers mail.uid)) := by
  obtain ⟨hfinal, hreads⟩ := flagsRecords_run hS hown hrs hsaved
  constructor
  · intro hfollow seq mail hmail hoid
    obtain ⟨oid, hoid'⟩ := Option.ne_none_iff_exists'.mp hoid
    obtain ⟨o, ho, hdecode⟩ := hfollow.stored seq mail oid hmail hoid'
    obtain ⟨o', ho', htext⟩ := hfinal seq mail oid hmail hoid'
    rw [ho] at ho'
    cases ho'
    rw [htext] at hdecode
    exact (flagsSafe_iff _ _).mp ⟨hdecode, hreads.mp hfollow.reads seq mail hmail hoid⟩
  · intro hsafe
    constructor
    case reads =>
      refine hreads.mpr fun seq mail hmail hoid => ?_
      exact ((flagsSafe_iff _ _).mpr (hsafe seq mail hmail hoid)).2
    case stored =>
      intro seq mail oid hmail hoid
      obtain ⟨o, ho, htext⟩ := hfinal seq mail oid hmail hoid
      have hne : mail.oid ≠ none := by
        rw [hoid]
        exact Option.some_ne_none oid
      refine ⟨o, ho, ?_⟩
      rw [htext]
      exact ((flagsSafe_iff _ _).mpr (hsafe seq mail hmail hne)).1

end Mails

theorem oneUid_sorted : ([5] : List Nat).Pairwise (· < ·) := List.pairwise_singleton _ _

/-- One mail, and its object, saved with flags. -/
def flagsView : SyncView := ⟨[⟨⟨some "a1", false⟩, 5⟩], oneUid_sorted⟩

def flagsWorld (flags : UInt8) : SyncWorld where
  objs pool oid :=
    if pool = .primary ∧ oid = "a1" then
      some ⟨{ MailObj.empty with
        xattrs := Function.update (fun _ => none) "F" ((flagsText flags).map cStr) }, fun _ => none⟩
    else none
  ms := .primary

def flagsSetup : SyncSetup := { alt := { applied := true }, updatesFlags := true }

theorem flagsView_lookup {seq : Nat} {mail : ViewRecord} (h : flagsView.lookup seq = some mail) :
    seq = 1 ∧ mail = ⟨⟨some "a1", false⟩, 5⟩ := by
  match seq, h with
  | 1, h => exact ⟨rfl, (Option.some.inj h).symm⟩

theorem flagsView_own : OwnObjects flagsSetup.alt flagsView := by
  intro seq seq' mail mail' hmail hmail' _ _ _
  rw [(flagsView_lookup hmail).1, (flagsView_lookup hmail').1]

theorem flagsWorld_stored (flags : UInt8) :
    FlagsStored flagsSetup flagsView (fun _ => (flagsText flags).map cStr)
      (flagsWorld flags).objs := by
  intro seq mail oid hmail hoid
  obtain ⟨_, rfl⟩ := flagsView_lookup hmail
  cases hoid
  exact ⟨_, rfl, Function.update_self "F" ((flagsText flags).map cStr) fun _ => none⟩

/-- A flagged mail is answered, and is then no longer flagged. -/
def answeredUnflagged : List FlagsRecord := [⟨1, 9, 0x01, 0⟩, ⟨5, 5, 0, 0x02⟩]

theorem answeredUnflagged_follows :
    FlagsFollow flagsSetup 0x40 (fun _ => 0x02) answeredUnflagged { view := flagsView }
      (flagsWorld 0x02) := by
  refine (@flags_follow_iff flagsSetup 0x40 { view := flagsView } (flagsWorld 0x02)
    answeredUnflagged rfl flagsView_own (fun _ => 0x02) (flagsWorld_stored 0x02) (by decide)).mpr ?_
  intro seq mail hmail _
  obtain ⟨_, rfl⟩ := flagsView_lookup hmail
  refine Or.inr ?_
  show AllSurvive 0x02 [⟨1, 9, 0x01, 0⟩, ⟨5, 5, 0, 0x02⟩]
  rw [allSurvive_cons, allSurvive_cons]
  refine ⟨by decide, by decide, fun pre hpre => ?_⟩
  rw [List.prefix_nil.mp hpre]
  decide

/-- A seen mail that is answered has lost its flags; those of a mail without any are read. -/
theorem answered_flags_lost :
    ¬ FlagsFollow flagsSetup 0x40 (fun _ => 0x08) [⟨5, 5, 0x01, 0⟩] { view := flagsView }
        (flagsWorld 0x08) ∧
      ¬ FlagsFollow flagsSetup 0x40 (fun _ => 0) [⟨5, 5, 0x01, 0⟩] { view := flagsView }
        (flagsWorld 0) := by
  constructor
  · intro h
    obtain ⟨o, ho, hdecode⟩ := h.stored 1 _ "a1" rfl rfl
    obtain ⟨o', ho', htext⟩ := (@flagsRecords_run flagsSetup 0x40 { view := flagsView }
      (flagsWorld 0x08) _ [⟨5, 5, 0x01, 0⟩] rfl flagsView_own (by decide)
      (flagsWorld_stored 0x08)).1 1 _ "a1" rfl rfl
    rw [ho] at ho'
    cases ho'
    rw [htext] at hdecode
    revert hdecode
    decide
  · intro h
    refine h.reads.1 ((readsAbsent_iff (flagsWorld_stored 0)).mpr ?_)
    exact ⟨1, _, rfl, by decide, by decide, rfl⟩

end DovecotCeph
