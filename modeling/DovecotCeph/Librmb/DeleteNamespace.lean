/-
  File:      DovecotCeph/Librmb/DeleteNamespace.lean
  Subject:   Deleting a user with all his mails, `rmb -N user delete -` (rmb-commands.cpp): the
             objects of his namespace, and the object that maps him to it.

  The function returns before it comes to the mapping if there are no mails, and it looks for the
  mapping in the namespace `users` and not in the configured one.
  * `deleteMails_w`: what the loop over the mails leaves;
  * `run_empty`, `run_mails`: what a confirmed deletion leaves;
  * **`delete_namespace_iff`**: when it deletes all it should and nothing else.
-/
import DovecotCeph.Librmb.LoadObjects
import DovecotCeph.Librmb.NamespaceManager

namespace DovecotCeph.Rmb

/-! ## 1. The command -/

/-- The objects, the io context of the storage, and the option `to_delete`. -/
structure RmbState where
  w : Objects String
  io : IoCtx
  toDelete : String

/-- `RmbCommands::delete_mail`, with `RadosStorageImpl::delete_mail`: of the mail that the option
    names. -/
def deleteMail (confirmed : Bool) (o : Outcome) (st : RmbState) : Int × RmbState :=
  if !confirmed then (-1, st)
  else if st.toDelete = "" then (-1, st)
  else
    let d := IoCtx.remove st.w st.io st.toDelete o
    (d.1, { st with w := d.2 })

/-- How the removals end: those of the mails, and that of the mapping. -/
structure DeleteEnv where
  mail : String → Outcome := fun _ => .done
  mapping : Outcome := .done

/-- The loop over the mails. -/
def deleteMails (confirmed : Bool) (env : DeleteEnv) (mails : List LoadedMail) (st : RmbState) :
    RmbState :=
  mails.foldl (fun st mail =>
    (deleteMail confirmed (env.mail mail.oid) { st with toDelete := mail.oid }).2) st

/-- **`RmbCommands::delete_namespace`** of the user that the option `namespace` names. -/
def deleteNamespace (cfg : RadosCephJsonConfig) (user : String) (l : Loading)
    (mailObjects : List LoadedMail) (confirmed : Bool) (env : DeleteEnv) (st : RmbState) :
    Int × RmbState :=
  if (CmdLineParser.new "-").parseLsString.1 then
    let r := loadObjects l mailObjects "uid" true
    if r.1 < 0 ∨ r.2.length = 0 then (r.1, st)
    else
      let st := deleteMails confirmed env r.2 st
      if cfg.userMapping = "true" then
        let st := { st with toDelete := user ++ cfg.userSuffix, io := st.io.setNamespace "users" }
        (0, (deleteMail confirmed env.mapping st).2)
      else (0, st)
  else (0, st)

/-! ## 2. What is asked for -/

/-- A confirmed deletion. The listing has the objects of the namespace the storage is set to, each
    once, and all operations on the cluster succeed. -/
structure DeleteCase where
  cfg : RadosCephJsonConfig
  user : String
  l : Loading
  w : Objects String
  io : IoCtx
  listed : ∀ oid, oid ∈ l.listing ↔ w (io.name oid) ≠ none
  succeed : ∀ oid, (l.answers oid).submit = .done ∧ (l.answers oid).stat = .done ∧
    (l.answers oid).load = .done
  /-- RADOS has no object without a name. -/
  named : ∀ pool ns, w ⟨pool, ns, ""⟩ = none

namespace DeleteCase

variable (c : DeleteCase)

def run : Int × RmbState :=
  deleteNamespace c.cfg c.user c.l [] true {} ⟨c.w, c.io, "-"⟩

/-- The object that maps the user to his namespace. -/
def mapping : ObjName := ⟨c.io.pool, c.cfg.userNs, c.user ++ c.cfg.userSuffix⟩

/-- The object of this name in the namespace `users`. -/
def usersObject : ObjName := ⟨c.io.pool, "users", c.user ++ c.cfg.userSuffix⟩

/-- An object of the user's namespace. -/
def Own (n : ObjName) : Prop := n.pool = c.io.pool ∧ n.nspace = c.io.nspace

instance (n : ObjName) : Decidable (c.Own n) := inferInstanceAs (Decidable (_ ∧ _))

/-- **The deletion is complete and confined.** -/
structure Deletes : Prop where
  ret : c.run.1 = 0
  emptied : ∀ n, c.Own n → c.run.2.w n = none
  unmapped : c.cfg.userMapping = "true" → c.run.2.w c.mapping = none
  kept : ∀ n, ¬ c.Own n → ¬ (c.cfg.userMapping = "true" ∧ n = c.mapping) → c.run.2.w n = c.w n

/-- There is no such object outside the user's namespace. -/
def Absent (n : ObjName) : Prop := c.Own n ∨ c.w n = none

/-- The mapping is removed, or does not have to be: with no mails there must be none; with mails it
    is in `users`, or there is neither a mapping nor an object of its name in `users`. -/
def MappingRight : Prop :=
  if c.l.listing = [] then c.Absent c.mapping
  else c.cfg.userNs = "users" ∨ (c.Absent c.mapping ∧ c.Absent c.usersObject)

end DeleteCase

/-! ## 3. The removals -/

section Removals

variable {st : RmbState} {n : ObjName}

/-- One removal; without a name there is nothing to remove. -/
theorem deleteMail_w (hnamed : ∀ pool ns, st.w ⟨pool, ns, ""⟩ = none) :
    (deleteMail true .done st).2.w = Function.update st.w (st.io.name st.toDelete) none := by
  unfold deleteMail
  rw [if_neg (by simp)]
  by_cases hempty : st.toDelete = ""
  · have hnone : st.w (st.io.name st.toDelete) = none := by
      rw [hempty]
      exact hnamed _ _
    rw [if_pos hempty, ← hnone, Function.update_eq_self]
  · rw [if_neg hempty]
    unfold IoCtx.remove
    cases hw : st.w (st.io.name st.toDelete) with
    | none => exact (Function.update_eq_self_iff.mpr hw.symm).symm
    | some v => rfl

theorem deleteMail_io (confirmed : Bool) (o : Outcome) :
    (deleteMail confirmed o st).2.io = st.io := by
  unfold deleteMail
  split
  · rfl
  · split <;> rfl

/-- **The loop** removes the mails, and nothing else. -/
theorem deleteMails_w (mails : List LoadedMail)
    (hnamed : ∀ pool ns, st.w ⟨pool, ns, ""⟩ = none) :
    (deleteMails true {} mails st).io = st.io ∧
      ∀ n, (deleteMails true {} mails st).w n =
        if n ∈ mails.map fun mail => st.io.name mail.oid then none else st.w n := by
  induction mails generalizing st with
  | nil => exact ⟨rfl, fun n => rfl⟩
  | cons mail mails ih =>
      let st₁ := (deleteMail true .done { st with toDelete := mail.oid }).2
      have hw₁ : st₁.w = Function.update st.w (st.io.name mail.oid) none := deleteMail_w hnamed
      have hio₁ : st₁.io = st.io := deleteMail_io true .done
      have hnamed₁ : ∀ pool ns, st₁.w ⟨pool, ns, ""⟩ = none := by
        intro pool ns
        rw [hw₁, Function.update_apply]
        split
        · rfl
        · exact hnamed pool ns
      obtain ⟨hio, hw⟩ := ih hnamed₁
      refine ⟨hio.trans hio₁, fun n => ?_⟩
      rw [show deleteMails true {} (mail :: mails) st = deleteMails true {} mails st₁ from rfl,
        hw n, hio₁, hw₁, List.map_cons, Function.update_apply]
      simp only [List.mem_cons]
      by_cases hn : n = st.io.name mail.oid
      · simp [hn]
      · simp [hn]

end Removals

/-! ## 4. A deletion -/

namespace DeleteCase

section Run

variable {c : DeleteCase}

/-- Sorting by `uid` leaves the mails as they were loaded. -/
theorem loadObjects_uid (c : DeleteCase) :
    (loadObjects c.l [] "uid" true).2 = c.l.loaded true := loadObjects_unsorted .uid

/-- The mails that are loaded are the objects of the namespace. -/
theorem loaded_oids (c : DeleteCase) (n : ObjName) :
    n ∈ (loadObjects c.l [] "uid" true).2.map (fun mail => c.io.name mail.oid) ↔
      c.Own n ∧ c.w n ≠ none := by
  have hoid : ∀ oid asked, (aioCb true oid (c.l.answers oid) asked).oid = oid := by
    intro oid asked
    unfold aioCb
    split <;> rfl
  have hmem : ∀ oid, oid ∈ c.l.completed ↔ c.w (c.io.name oid) ≠ none := by
    intro oid
    rw [c.l.perm.mem_iff, List.mem_filter, c.listed oid, (c.succeed oid).1]
    simp
  have hmaps : (c.l.loaded true).map (fun mail => c.io.name mail.oid) =
      c.l.completed.map c.io.name := by
    rw [Loading.loaded, List.map_map]
    exact List.map_congr_left fun oid _ => congrArg c.io.name (hoid oid _)
  rw [loadObjects_uid, hmaps, List.mem_map]
  constructor
  · rintro ⟨oid, hoid, rfl⟩
    exact ⟨⟨rfl, rfl⟩, (hmem oid).mp hoid⟩
  · rintro ⟨⟨hpool, hns⟩, hne⟩
    have hn : c.io.name n.oid = n := by
      unfold IoCtx.name
      rw [← hpool, ← hns]
    exact ⟨n.oid, (hmem n.oid).mpr (by rw [hn]; exact hne), hn⟩

theorem length_loaded (c : DeleteCase) :
    (loadObjects c.l [] "uid" true).2.length = 0 ↔ c.l.listing = [] := by
  have hall : c.l.listing.filter (fun oid => (c.l.answers oid).submit = .done) = c.l.listing :=
    List.filter_eq_self.mpr fun oid _ => decide_eq_true (c.succeed oid).1
  rw [loadObjects_uid, Loading.loaded, List.length_map, c.l.perm.length_eq, hall,
    List.length_eq_zero_iff]

/-- With no mails nothing is removed. -/
theorem run_empty (h : c.l.listing = []) : c.run = (0, ⟨c.w, c.io, "-"⟩) := by
  unfold run deleteNamespace
  dsimp only
  rw [CmdLineParser.parseLsString_eq, if_pos rfl, if_pos (.inr ((length_loaded c).mpr h))]
  rfl

/-- With no mails the namespace has no object. -/
theorem own_absent (h : c.l.listing = []) {n : ObjName} (hn : c.Own n) : c.w n = none := by
  by_contra hne
  have hmem := (loaded_oids c n).mpr ⟨hn, hne⟩
  rw [List.eq_nil_of_length_eq_zero ((length_loaded c).mpr h)] at hmem
  cases hmem

/-- The state behind the loop. -/
def emptied (c : DeleteCase) : RmbState :=
  deleteMails true {} (loadObjects c.l [] "uid" true).2 ⟨c.w, c.io, "-"⟩

/-- The loop removes the objects of the namespace. -/
theorem emptied_w (c : DeleteCase) :
    c.emptied.io = c.io ∧ ∀ n, c.emptied.w n = if c.Own n then none else c.w n := by
  obtain ⟨hio, hloop⟩ : c.emptied.io = c.io ∧ ∀ n, c.emptied.w n =
      if n ∈ (loadObjects c.l [] "uid" true).2.map (fun mail => c.io.name mail.oid) then none
      else c.w n :=
    deleteMails_w (loadObjects c.l [] "uid" true).2 c.named
  refine ⟨hio, fun n => ?_⟩
  rw [hloop n]
  by_cases hown : c.Own n
  · rw [if_pos hown]
    by_cases hn : c.w n = none
    · rw [hn, ite_self]
    · exact if_pos ((loaded_oids c n).mpr ⟨hown, hn⟩)
  · rw [if_neg hown]
    exact if_neg fun hmem => hown ((loaded_oids c n).mp hmem).1

/-- With mails the loop runs, and behind it the mapping is removed from `users`. -/
theorem run_eq (h : c.l.listing ≠ []) :
    c.run = if c.cfg.userMapping = "true" then
      (0, (deleteMail true .done { c.emptied with
        toDelete := c.user ++ c.cfg.userSuffix, io := c.emptied.io.setNamespace "users" }).2)
      else (0, c.emptied) := by
  have hgo : ¬ ((loadObjects c.l [] "uid" true).1 < 0 ∨
      (loadObjects c.l [] "uid" true).2.length = 0) := by
    rintro (hneg | hlen)
    · exact absurd hneg (Int.lt_irrefl 0)
    · exact h ((length_loaded c).mp hlen)
  unfold run deleteNamespace
  dsimp only
  rw [CmdLineParser.parseLsString_eq, if_pos rfl, if_neg hgo]
  rfl

/-- With mails all of them are removed, and with user mapping the object in `users` too. -/
theorem run_mails (h : c.l.listing ≠ []) :
    c.run.1 = 0 ∧ ∀ n, c.run.2.w n =
      if c.Own n ∨ (c.cfg.userMapping = "true" ∧ n = c.usersObject) then none else c.w n := by
  obtain ⟨hio, hw⟩ := emptied_w c
  have hnamed : ∀ pool ns, c.emptied.w ⟨pool, ns, ""⟩ = none := by
    intro pool ns
    rw [hw, c.named, ite_self]
  rw [run_eq h]
  by_cases hmap : c.cfg.userMapping = "true"
  · rw [if_pos hmap]
    refine ⟨rfl, fun n => ?_⟩
    let st₂ : RmbState :=
      ⟨c.emptied.w, c.emptied.io.setNamespace "users", c.user ++ c.cfg.userSuffix⟩
    have hw₂ : (deleteMail true .done st₂).2.w =
        Function.update st₂.w (st₂.io.name st₂.toDelete) none := deleteMail_w hnamed
    have hname : st₂.io.name st₂.toDelete = c.usersObject := by
      change (c.emptied.io.setNamespace "users").name _ = _
      rw [hio]
      rfl
    change (deleteMail true .done st₂).2.w n = _
    rw [hw₂, hname, Function.update_apply]
    change (if n = c.usersObject then none else c.emptied.w n) = _
    rw [hw]
    by_cases hn : n = c.usersObject
    · rw [if_pos hn, if_pos (.inr ⟨hmap, hn⟩)]
    · rw [if_neg hn]
      simp [hn]
  · rw [if_neg hmap]
    refine ⟨rfl, fun n => ?_⟩
    rw [hw]
    simp [hmap]

/-- With no mails the mapping stays. -/
theorem deletes_empty_iff (h : c.l.listing = []) :
    c.Deletes ↔ (c.cfg.userMapping = "true" → c.Absent c.mapping) := by
  constructor
  · intro hdel hmap
    have hnone := hdel.unmapped hmap
    rw [run_empty h] at hnone
    exact .inr hnone
  · intro habsent
    refine ⟨?_, fun n hn => ?_, fun hmap => ?_, fun n _ _ => ?_⟩
    · rw [run_empty h]
    · rw [run_empty h]
      exact own_absent h hn
    · rw [run_empty h]
      exact (habsent hmap).elim (own_absent h) id
    · rw [run_empty h]

/-- What a deletion of mails needs: that what it removes in `users` is the mapping. -/
theorem mapping_of_deletes (h : c.l.listing ≠ []) (hdel : c.Deletes)
    (hmap : c.cfg.userMapping = "true") (hns : c.cfg.userNs ≠ "users") :
    c.Absent c.mapping ∧ c.Absent c.usersObject := by
  obtain ⟨_, hw⟩ := run_mails (c := c) h
  have hne : c.usersObject ≠ c.mapping := fun e => hns (congrArg ObjName.nspace e).symm
  constructor
  · by_cases hown : c.Own c.mapping
    · exact .inl hown
    · have hnone := hdel.unmapped hmap
      rw [hw, if_neg] at hnone
      · exact .inr hnone
      · rintro (ho | ⟨_, he⟩)
        · exact hown ho
        · exact hne he.symm
  · by_cases hown : c.Own c.usersObject
    · exact .inl hown
    · have hkept := hdel.kept c.usersObject hown fun hc => hne hc.2
      rw [hw, if_pos (.inr ⟨hmap, rfl⟩)] at hkept
      exact .inr hkept.symm

/-- With mails the mapping has to be in `users`, or there is nothing of its name. -/
theorem deletes_mails_iff (h : c.l.listing ≠ []) :
    c.Deletes ↔ (c.cfg.userMapping = "true" →
      c.cfg.userNs = "users" ∨ (c.Absent c.mapping ∧ c.Absent c.usersObject)) := by
  obtain ⟨hret, hw⟩ := run_mails (c := c) h
  constructor
  · intro hdel hmap
    by_cases hns : c.cfg.userNs = "users"
    · exact .inl hns
    · exact .inr (mapping_of_deletes h hdel hmap hns)
  · intro hright
    have husers : c.cfg.userNs = "users" → c.mapping = c.usersObject := by
      intro hns
      rw [mapping, usersObject, hns]
    refine ⟨hret, fun n hn => ?_, fun hmap => ?_, fun n hn hnot => ?_⟩
    · rw [hw, if_pos (.inl hn)]
    · rw [hw]
      rcases hright hmap with hns | ⟨hown | hnone, _⟩
      · exact if_pos (.inr ⟨hmap, husers hns⟩)
      · exact if_pos (.inl hown)
      · rw [hnone, ite_self]
    · rw [hw]
      by_cases hmap : c.cfg.userMapping = "true" ∧ n = c.usersObject
      · rw [if_pos (.inr hmap)]
        rcases hright hmap.1 with hns | ⟨_, hown | hnone⟩
        · exact absurd ⟨hmap.1, hmap.2.trans (husers hns).symm⟩ hnot
        · rw [← hmap.2] at hown
          exact absurd hown hn
        · rw [hmap.2, hnone]
      · exact if_neg (not_or.mpr ⟨hn, hmap⟩)

/-- **When a namespace is deleted completely, and nothing else**: without user mapping always, and
    else if the mapping is right. -/
theorem delete_namespace_iff (c : DeleteCase) :
    c.Deletes ↔ (c.cfg.userMapping = "true" → c.MappingRight) := by
  unfold MappingRight
  by_cases hempty : c.l.listing = []
  · rw [if_pos hempty]
    exact deletes_empty_iff hempty
  · rw [if_neg hempty]
    exact deletes_mails_iff hempty

end Run

end DeleteCase

/-- User mapping is on; alice's namespace is `ns1`. -/
def aliceMapped (userNs : String) : RadosCephJsonConfig := { userMapping := "true", userNs }

/-- Alice has no mails. -/
def noMails : DeleteCase where
  cfg := aliceMapped "users"
  user := "alice"
  l := ⟨[], fun _ => { metadata := fun _ => none }, [], fun _ => true, .refl _⟩
  w := fun n => if n = ⟨"mail_storage", "users", "alice_u"⟩ then some "ns1" else none
  io := ⟨"mail_storage", "ns1"⟩
  listed := fun oid => by simp [IoCtx.name]
  succeed := fun _ => ⟨rfl, rfl, rfl⟩
  named := fun pool ns => by simp

/-- Alice has a mail, and the mappings are in another namespace. -/
def otherUserNs : DeleteCase where
  cfg := aliceMapped "mappings"
  user := "alice"
  l := ⟨["0a"], fun _ => { metadata := fun _ => none }, ["0a"], fun _ => true, .refl _⟩
  w := fun n =>
    if n = ⟨"mail_storage", "mappings", "alice_u"⟩ then some "ns1"
    else if n = ⟨"mail_storage", "ns1", "0a"⟩ then some "mail"
    else none
  io := ⟨"mail_storage", "ns1"⟩
  listed := fun oid => by simp [IoCtx.name]
  succeed := fun _ => ⟨rfl, rfl, rfl⟩
  named := fun pool ns => by simp

theorem mapping_left :
    ¬ noMails.Deletes ∧ ¬ otherUserNs.Deletes ∧
      (noMails.run.2.w noMails.mapping = some "ns1") ∧
      (otherUserNs.run.2.w otherUserNs.mapping = some "ns1") := by
  have hempty : noMails.run.2.w noMails.mapping = some "ns1" := by decide +kernel
  have hother : otherUserNs.run.2.w otherUserNs.mapping = some "ns1" := by decide +kernel
  refine ⟨fun h => ?_, fun h => ?_, hempty, hother⟩
  · have hnone := h.unmapped rfl
    rw [hempty] at hnone
    cases hnone
  · have hnone := h.unmapped rfl
    rw [hother] at hnone
    cases hnone

end DovecotCeph.Rmb
