/-
  File:      DovecotCeph/Storage/SyncUpdates.lean
  Subject:   What the FLAGS and KEYWORD records of a sync do to the object of one mail, when all
             operations succeed.

  * `UpdateEffect`: an update as a function of the object it is for;
  * `updateMails_own`: the loop over a range, seen from one object;
  * **`syncRecord_flags`**, **`syncRecord_keyword`**: a record changes the objects of the mails with
    uids in its range.
-/
import DovecotCeph.Storage.Sync

namespace DovecotCeph

open Lib

/-- Every mail has an object of its own. -/
def OwnObjects (A : AltSetup) (v : SyncView) : Prop :=
  ∀ seq seq' r r', v.lookup seq = some r → v.lookup seq' = some r' → r.oid ≠ none → r.oid = r'.oid →
    designated A r.toAltRecord = designated A r'.toAltRecord → seq = seq'

/-- An update that succeeds makes `h` of the object it is for, and leaves the other ones. -/
structure UpdateEffect (body : UpdateEnv → String → AltState → UpdateStep)
    (h : Option StoredMail → Option StoredMail) : Prop where
  index : ∀ oid st, (body {} oid st).st.index = st.index
  stop : ∀ oid st, (body {} oid st).stop = false
  self : ∀ oid st, (body {} oid st).st.objs st.ms oid = h (st.objs st.ms oid)
  other : ∀ oid st pool o, ¬ (pool = st.ms ∧ o = oid) →
    (body {} oid st).st.objs pool o = st.objs pool o

section Loop

variable {A : AltSetup} {body : UpdateEnv → String → AltState → UpdateStep}
  {h : Option StoredMail → Option StoredMail} {seqs : List Nat} {st : AltState}

/-- **The loop over a range, for the object of one mail.** -/
theorem updateMails_own (hbody : UpdateEffect body h) {seq : Nat} {r : AltRecord} {oid : String}
    (hr : st.record seq = some r) (hoid : r.oid = some oid) (hnodup : seqs.Nodup)
    (hown : ∀ seq' r', st.record seq' = some r' → r'.oid = some oid →
      designated A r' = designated A r → seq' = seq) :
    (updateMails A body (seqs.map fun s => (s, {})) st).2.objs (designated A r) oid =
      if seq ∈ seqs then h (st.objs (designated A r) oid) else st.objs (designated A r) oid := by
  induction seqs generalizing st with
  | nil => rfl
  | cons s seqs ih =>
      obtain ⟨hs, hnodup'⟩ := List.nodup_cons.mp hnodup
      have hskip : seq ≠ s → (seq ∈ s :: seqs ↔ seq ∈ seqs) := by
        intro hne
        rw [List.mem_cons, or_iff_right hne]
      simp only [List.map_cons]
      unfold updateMails
      cases hrec : st.record s with
      | none =>
          have hne : seq ≠ s := by
            rintro rfl
            rw [hr] at hrec
            cases hrec
          simp only [hskip hne]
          exact ih hr hnodup' hown
      | some r' =>
          dsimp only
          rw [if_neg (by decide)]
          cases hoid' : r'.oid with
          | none =>
              have hne : seq ≠ s := by
                rintro rfl
                rw [hr] at hrec
                cases hrec
                rw [hoid] at hoid'
                cases hoid'
              simp only [hskip hne]
              exact @ih { st with ms := designated A r' } hr hnodup' hown
          | some oid' =>
              dsimp only
              rw [hbody.stop, if_neg Bool.false_ne_true]
              have hindex := hbody.index oid' { st with ms := designated A r' }
              have hrecord : ∀ seq',
                  (body {} oid' { st with ms := designated A r' }).st.record seq' =
                    st.record seq' := record_congr hindex
              have hrest := @ih (body {} oid' { st with ms := designated A r' }).st
                ((hrecord seq).trans hr) hnodup' fun seq' r'' hr'' =>
                  hown seq' r'' ((hrecord seq').symm.trans hr'')
              refine hrest.trans ?_
              by_cases hne : seq = s
              · subst hne
                rw [hr] at hrec
                cases hrec
                rw [hoid] at hoid'
                cases hoid'
                rw [if_neg hs, if_pos List.mem_cons_self]
                exact hbody.self oid { st with ms := designated A r }
              · have hother : ¬ (designated A r = designated A r' ∧ oid = oid') := by
                  rintro ⟨hpool, rfl⟩
                  exact hne (hown s r' hrec hoid' hpool.symm).symm
                rw [hbody.other oid' { st with ms := designated A r' } _ _ hother]
                simp only [hskip hne]

theorem updatesAll_effect (S : SyncSetup) (hbody : UpdateEffect body h) :
    updatesAll S body (seqs.map fun s => (s, {})) st = true := by
  induction seqs generalizing st with
  | nil => rfl
  | cons s seqs ih =>
      simp only [List.map_cons]
      unfold updatesAll
      split
      case h_1 => exact ih
      case h_2 r' hrec =>
        dsimp only
        rw [if_neg (by simp)]
        split
        case h_1 => exact ih
        case h_2 oid' hoid' =>
          rw [hbody.stop, if_neg Bool.false_ne_true]
          exact ih

theorem updateFlagsBody_ok (newFlags : Option String → Option String) (oid : String)
    (st : AltState) :
    updateFlagsBody newFlags {} oid st =
      match (st.objs st.ms oid).bind fun o => newFlags (o.xattrs "F") with
      | some v => ⟨true, false, st.change st.ms oid (.setXattr "F" v)⟩
      | none => ⟨false, false, st⟩ := by
  unfold updateFlagsBody
  cases st.objs st.ms oid with
  | none => rfl
  | some o =>
      rw [Option.bind_some]
      dsimp only
      cases newFlags (o.xattrs "F") <;> rfl

/-- The flags: the text is replaced if it can be read. -/
theorem updateFlagsBody_effect (newFlags : Option String → Option String) :
    UpdateEffect (updateFlagsBody newFlags) (Option.map fun o => match newFlags (o.xattrs "F") with
      | some v => o.setXattr "F" v
      | none => o) := by
  constructor
  case index =>
    intro oid st
    exact (updateFlagsBody_frame newFlags).index {} oid st
  case stop =>
    intro oid st
    rw [updateFlagsBody_ok]
    split <;> rfl
  case self =>
    intro oid st
    rw [updateFlagsBody_ok]
    cases ho : st.objs st.ms oid with
    | none => exact ho
    | some o =>
        rw [Option.bind_some, Option.map_some]
        cases newFlags (o.xattrs "F") with
        | none => exact ho
        | some v =>
            refine (put_self _ _ _ _).trans ?_
            rw [ho]
            rfl
  case other =>
    intro oid st pool o hne
    rw [updateFlagsBody_ok]
    split
    case h_1 => exact put_ne hne _ _
    case h_2 => rfl

/-- The keywords: the entry is set or removed, on a new object if there is none. -/
theorem updateKeywordBody_effect (key : String) (value : Option String) :
    UpdateEffect (updateKeywordBody key value)
      (fun o => some ((o.getD .empty).setOmap key value)) := by
  have hbody : ∀ oid st, updateKeywordBody key value {} oid st =
      ⟨true, false, st.change st.ms oid (.setOmap key value)⟩ := by
    intro oid st
    unfold updateKeywordBody
    rw [if_neg (by simp), if_pos rfl]
  constructor
  case index =>
    intro oid st
    exact (updateKeywordBody_frame key value).index {} oid st
  case stop =>
    intro oid st
    rw [hbody]
  case self =>
    intro oid st
    rw [hbody]
    exact put_self _ _ _ _
  case other =>
    intro oid st pool o hne
    rw [hbody]
    exact put_ne hne _ _

end Loop

/-! ## Records -/

section Records

variable (S : SyncSetup) (body : UpdateEnv → String → AltState → UpdateStep) (uid1 uid2 : Nat)
  (ctx : SyncContext) (w : SyncWorld)

/-- The updates of the mails with uids in a range. -/
def updateRange : AltState :=
  match ctx.view.lookupSeqRange uid1 uid2 with
  | none => ctx.altState w
  | some (seq1, seq2) =>
    (updateMails S.alt body ((List.range' seq1 (seq2 + 1 - seq1)).map fun seq => (seq, {}))
      (ctx.altState w)).2

variable {S body uid1 uid2 ctx w} {h : Option StoredMail → Option StoredMail} {seq : Nat}
  {r : ViewRecord} {oid : String}

theorem altState_record (ctx : SyncContext) (w : SyncWorld) (seq : Nat) :
    (ctx.altState w).record seq = (ctx.view.lookup seq).map ViewRecord.toAltRecord := by
  unfold AltState.record SyncView.lookup SyncContext.altState
  split
  case isTrue => rfl
  case isFalse => exact List.getElem?_map

/-- **A range, for the object of one mail**: it is changed if the uid is in the range. -/
theorem updateRange_own (hbody : UpdateEffect body h) (hown : OwnObjects S.alt ctx.view)
    (hr : ctx.view.lookup seq = some r) (hoid : r.oid = some oid) :
    (updateRange S body uid1 uid2 ctx w).objs (designated S.alt r.toAltRecord) oid =
      if uid1 ≤ r.uid ∧ r.uid ≤ uid2 then h (w.objs (designated S.alt r.toAltRecord) oid)
      else w.objs (designated S.alt r.toAltRecord) oid := by
  unfold updateRange
  cases hrange : ctx.view.lookupSeqRange uid1 uid2 with
  | none =>
      rw [if_neg (lookupSeqRange_none hrange hr)]
      rfl
  | some q =>
      obtain ⟨seq1, seq2⟩ := q
      have hmem : seq ∈ List.range' seq1 (seq2 + 1 - seq1) ↔ uid1 ≤ r.uid ∧ r.uid ≤ uid2 := by
        rw [← lookupSeqRange_some hrange hr, List.mem_range'_1]
        omega
      have hrecord : (ctx.altState w).record seq = some r.toAltRecord := by
        rw [altState_record, hr]
        rfl
      refine (updateMails_own hbody hrecord hoid List.nodup_range' ?_).trans ?_
      · intro seq' r' hr' hoid' hpool
        rw [altState_record] at hr'
        obtain ⟨r₁, hr₁, rfl⟩ := Option.map_eq_some_iff.mp hr'
        refine (hown seq seq' r r₁ hr hr₁ ?_ (hoid.trans hoid'.symm) hpool.symm).symm
        rw [hoid]
        exact Option.some_ne_none oid
      · simp only [hmem]
        rfl

/-- A FLAGS record without ALT bits. -/
theorem syncRecord_flags (hS : S.updatesFlags = true)
    (newFlags : Option String → Option String) :
    syncRecord S { uid1 := uid1, uid2 := uid2, type := .flags false false newFlags } ctx w =
      (true, ctx.setAlt w (updateRange S (updateFlagsBody newFlags) uid1 uid2 ctx w)) := by
  unfold syncRecord updateRange
  cases ctx.view.lookupSeqRange uid1 uid2 with
  | none => rfl
  | some q =>
      dsimp only
      rw [syncFlags, Bool.false_and, if_neg Bool.false_ne_true, if_neg Bool.false_ne_true,
        if_pos hS]

/-- A keyword record; it adds the keyword under the name, or removes it. -/
theorem syncRecord_keyword (hS : S.updatesKeywords = true) (idx : Nat) (name : Option String) :
    syncRecord S { uid1 := uid1, uid2 := uid2, type := match name with
        | some name => .keywordAdd idx name
        | none => .keywordRemove idx } ctx w =
      (true, ctx.setAlt w
        (updateRange S (updateKeywordBody (toString idx) name) uid1 uid2 ctx w)) := by
  have hrecord : ∀ seqs : List Nat, updateExtendedMetadata S (toString idx) name
      (seqs.map fun seq => (seq, {})) ctx w =
        (true, ctx.setAlt w (updateMails S.alt (updateKeywordBody (toString idx) name)
          (seqs.map fun seq => (seq, {})) (ctx.altState w)).2) := by
    intro seqs
    rw [updateExtendedMetadata, if_pos hS,
      updatesAll_effect S (updateKeywordBody_effect (toString idx) name)]
  unfold syncRecord updateRange
  cases ctx.view.lookupSeqRange uid1 uid2 with
  | none => rfl
  | some q =>
      cases name with
      | none => exact hrecord _
      | some name => exact hrecord _

end Records

end DovecotCeph
