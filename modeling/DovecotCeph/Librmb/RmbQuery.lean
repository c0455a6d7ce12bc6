/-
  File:      DovecotCeph/Librmb/RmbQuery.lean
  Subject:   The mails that `rmb ls` and `rmb get` show (rmb-commands.cpp, rados-mail-box.h):
             `query_mail_storage` sorts the mails into mailboxes, whose `add_mail` filters them.

  `add_mail` returns after the first predicate whose attribute the mail has.
  * `addMailRounds_eq`, `pushes_pos_iff`: what its loop does with a mail;
  * `queryMailStorage_eq`: what a run over all mails leaves in a mailbox;
  * **`query_shows_iff`**: when a query shows the mails that satisfy all its predicates.
-/
import DovecotCeph.Librmb.LsCmdParser

namespace DovecotCeph.Rmb

open Lib Std

/-! ## 1. The query -/

/-- `RadosMail`. -/
structure RadosMail where
  oid : String
  metadata : Xattrs
  valid : Bool
  mailSize : Nat

/-- `RadosMailBox`. -/
structure RadosMailBox where
  mailboxGuid : String
  mailCount : Int
  mboxOrigName : String
  mailboxSize : Nat := 0
  totalMails : Nat := 0
  mails : List RadosMail := []

section Query

variable (localTime : LocalTime) (parser : CmdLineParser)

/-- The loop of `add_mail` over the predicates. -/
def addMailRounds (mail : RadosMail) :
    List (String × Predicate) → List RadosMail → List RadosMail
  | [], mails => mails
  | (key, p) :: rest, mails =>
    match mail.metadata key with
    | some value => if p.eval localTime (cStr value) then mails ++ [mail] else mails
    | none =>
      if key = "-" then addMailRounds mail rest (mails ++ [mail])
      else addMailRounds mail rest mails

/-- **`RadosMailBox::add_mail`**. -/
def RadosMailBox.addMail (box : RadosMailBox) (mail : RadosMail) : RadosMailBox :=
  let box := { box with totalMails := (box.totalMails + 1) % 2 ^ 64 }
  if !mail.valid then { box with mails := box.mails ++ [mail] }
  else if parser.predicates.size = 0 then { box with mails := box.mails ++ [mail] }
  else { box with mails := addMailRounds localTime mail parser.predicates.toList box.mails }

/-- `add_to_mailbox_size`. -/
def RadosMailBox.addToMailboxSize (box : RadosMailBox) (size : Nat) : RadosMailBox :=
  { box with mailboxSize := (box.mailboxSize + size) % 2 ^ 64 }

/-- The mailboxes of `query_mail_storage`. -/
abbrev Mailboxes := TreeMap String RadosMailBox

/-- Whether the predicate on the mailbox, if there is one, lets the mail through; `none` where a
    null predicate is evaluated. -/
def mailboxPasses (mailboxGuid : String) : Option Bool :=
  if parser.containsKey "M" then
    (parser.getPredicate "M").map fun p => p.eval localTime mailboxGuid
  else some true

/-- One round of `query_mail_storage`. -/
def queryStep (mailbox : Mailboxes) (mail : RadosMail) : Option Mailboxes :=
  match mail.metadata "M", mail.metadata "B" with
  | some guid, some origName =>
    match mailboxPasses localTime parser (cStr guid) with
    | none => none
    | some false => some mailbox
    | some true =>
      let box := mailbox[cStr guid]?.getD ⟨cStr guid, 1, cStr origName, 0, 0, []⟩
      some (mailbox.insert (cStr guid)
        ((box.addMail localTime parser mail).addToMailboxSize mail.mailSize))
  | _, _ => some mailbox

/-- **`RmbCommands::query_mail_storage`**: the mailboxes it prints. -/
def queryMailStorage (mails : List RadosMail) : Option Mailboxes :=
  mails.foldlM (queryStep localTime parser) ∅

/-- The mails that `print_mail` prints, or loads. -/
def printMail (mailbox : Mailboxes) : List RadosMail :=
  (mailbox.toList.filter fun e => e.2.mailCount ≠ 0).flatMap fun e => e.2.mails

end Query

/-- The commands that query. -/
inductive SearchCommand where
  | rmbLs
  | rmbGet
  | doveadmLs
  | doveadmGet
  deriving DecidableEq, Repr

/-- The parser a command hands over. `doveadm rmb get` looks for `-` in the option of the other
    command. -/
def SearchCommand.parser (c : SearchCommand) (query : String) : CmdLineParser :=
  if query = "all" ∨ (c ≠ .doveadmGet ∧ query = "-") then .new query
  else (CmdLineParser.new query).parseLsString.2

/-! ## 2. What a query is to show -/

/-- The mail has the attribute, and the predicate is true of it. -/
def RadosMail.satisfies (localTime : LocalTime) (mail : RadosMail) (p : Predicate) : Bool :=
  match mail.metadata p.key with
  | some value => p.eval localTime (cStr value)
  | none => false

/-- The mailbox of a mail. -/
def RadosMail.mailboxGuid (mail : RadosMail) : String := cStr ((mail.metadata "M").getD "")

/-- A valid mail that belongs to a mailbox. -/
def RadosMail.Listable (mail : RadosMail) : Prop :=
  mail.valid = true ∧ mail.metadata "M" ≠ none ∧ mail.metadata "B" ≠ none

/-- The mails of a mailbox. -/
def mailsOf (mailbox : Mailboxes) (guid : String) : List RadosMail :=
  (mailbox[guid]?).elim [] (·.mails)

/-- `add_mail` stops at a predicate on an attribute the mail has, or shows it for `-`. -/
def Stops (mail : RadosMail) (key : String) : Prop :=
  mail.metadata key ≠ none ∨ key = "-"

/-- The predicate that decides: the last one on its attribute, which is the first one that the mail
    has. -/
def Decides (query : String) (mail : RadosMail) (p : Predicate) : Prop :=
  lastItem Predicate.key (queryPredicates query) p.key = some p ∧ Stops mail p.key ∧
    ∀ p' ∈ queryPredicates query, p'.key < p.key → ¬ Stops mail p'.key

/-- A query of predicates on attributes of one letter, or `-`, over valid mails. -/
structure QueryCase where
  localTime : LocalTime
  command : SearchCommand
  query : String
  mails : List RadosMail
  letters : query = "-" ∨
    ∀ p ∈ queryPredicates query, p.key.toList.length = 1 ∧ p.op.isSome = true
  listable : ∀ mail ∈ mails, mail.Listable

namespace QueryCase

variable (q : QueryCase)

/-- The mails the query asks for. -/
def wanted (mail : RadosMail) : Bool :=
  decide (q.query = "-") || (queryPredicates q.query).all (mail.satisfies q.localTime)

/-- The mailboxes of the query. -/
def run : Option Mailboxes :=
  queryMailStorage q.localTime (q.command.parser q.query) q.mails

/-- **The mails that are shown are those the query asks for**, each once, and in each mailbox in
    their order. -/
structure Shows (mailbox : Mailboxes) : Prop where
  once : (printMail mailbox).Perm (q.mails.filter q.wanted)
  inOrder : ∀ guid, mailsOf mailbox guid =
    (q.mails.filter q.wanted).filter (·.mailboxGuid = guid)

/-- **A mail that is shown although a predicate is not satisfied**: the last predicate on the
    mailbox is true of it, and the one that decides is true of it, or is one on `-`, which it has
    not. -/
def WronglyShown (mail : RadosMail) : Prop :=
  (∀ p, lastItem Predicate.key (queryPredicates q.query) "M" = some p →
      mail.satisfies q.localTime p = true) ∧
    (∃ p, Decides q.query mail p ∧
      (mail.satisfies q.localTime p = true ∨ mail.metadata p.key = none)) ∧
    ∃ p ∈ queryPredicates q.query, mail.satisfies q.localTime p = false

/-- **A mail that is not shown for `-`**: `-` has been parsed as a predicate, and the mail has an
    attribute of this name, with another value. -/
def WronglyHidden (mail : RadosMail) : Prop :=
  q.command = .doveadmGet ∧ ∃ value, mail.metadata "-" = some value ∧ cStr value ≠ "-"

/-- The mails that are treated wrongly. -/
def Fault (mail : RadosMail) : Prop :=
  if q.query = "-" then q.WronglyHidden mail else q.WronglyShown mail

end QueryCase

/-! ## 3. The loop of `add_mail` -/

section AddMail

variable (localTime : LocalTime) (mail : RadosMail)

/-- How often the loop shows the mail. -/
def pushes : List (String × Predicate) → Nat
  | [] => 0
  | (key, p) :: rest =>
    match mail.metadata key with
    | some value => if p.eval localTime (cStr value) then 1 else 0
    | none => if key = "-" then pushes rest + 1 else pushes rest

theorem addMailRounds_eq (entries : List (String × Predicate)) (mails : List RadosMail) :
    addMailRounds localTime mail entries mails =
      mails ++ List.replicate (pushes localTime mail entries) mail := by
  induction entries generalizing mails with
  | nil => exact (List.append_nil _).symm
  | cons e rest ih =>
      obtain ⟨key, p⟩ := e
      unfold addMailRounds pushes
      cases mail.metadata key with
      | some value =>
          dsimp only
          split
          · rfl
          · exact (List.append_nil _).symm
      | none =>
          dsimp only
          split
          · rw [ih, List.replicate_succ, List.append_assoc, List.singleton_append]
          · exact ih mails

/-- The entry the loop stops at. -/
def stopsAt (e : String × Predicate) : Bool := (mail.metadata e.1).isSome || decide (e.1 = "-")

/-- **A mail is shown** if the first predicate that the loop stops at is true of it, or is one on
    `-`, which it has not. -/
theorem pushes_pos_iff (entries : List (String × Predicate)) :
    0 < pushes localTime mail entries ↔
      ∃ e, entries.find? (stopsAt mail) = some e ∧
        ∀ value, mail.metadata e.1 = some value → e.2.eval localTime (cStr value) = true := by
  induction entries with
  | nil => exact iff_of_false (Nat.lt_irrefl 0) fun h => nomatch h.choose_spec.1
  | cons e rest ih =>
      obtain ⟨key, p⟩ := e
      unfold pushes
      rw [List.find?_cons]
      cases hval : mail.metadata key with
      | some value =>
          have hstop : stopsAt mail (key, p) = true := by simp [stopsAt, hval]
          simp only [hstop, Option.some.injEq, exists_eq_left', hval, forall_eq']
          split
          · rename_i h
            exact iff_of_true Nat.one_pos h
          · rename_i h
            exact iff_of_false (Nat.lt_irrefl 0) h
      | none =>
          dsimp only
          by_cases hkey : key = "-"
          · have hstop : stopsAt mail (key, p) = true := by simp [stopsAt, hkey]
            rw [if_pos hkey, hstop]
            refine iff_of_true (Nat.succ_pos _) ⟨(key, p), rfl, fun value h => ?_⟩
            rw [hval] at h
            cases h
          · have hstop : stopsAt mail (key, p) = false := by simp [stopsAt, hkey, hval]
            rw [if_neg hkey, hstop]
            exact ih

/-- A mail that satisfies all predicates is shown once. -/
theorem pushes_of_satisfied {entries : List (String × Predicate)} (hne : entries ≠ [])
    (h : ∀ e ∈ entries, e.2.key = e.1 ∧ mail.satisfies localTime e.2 = true) :
    pushes localTime mail entries = 1 := by
  cases entries with
  | nil => exact absurd rfl hne
  | cons e rest =>
      obtain ⟨key, p⟩ := e
      obtain ⟨hkey, hsat⟩ := h _ List.mem_cons_self
      dsimp only at hkey hsat
      unfold RadosMail.satisfies at hsat
      rw [hkey] at hsat
      unfold pushes
      cases hval : mail.metadata key with
      | none =>
          rw [hval] at hsat
          cases hsat
      | some value =>
          rw [hval] at hsat
          exact if_pos hsat

end AddMail

/-! ## 4. A run over all mails -/

section Run

variable (localTime : LocalTime) (parser : CmdLineParser)

/-- How often a run shows a mail. -/
def timesShown (mail : RadosMail) : Nat :=
  if mailboxPasses localTime parser mail.mailboxGuid = some true then
    if parser.predicates.size = 0 then 1 else pushes localTime mail parser.predicates.toList
  else 0

theorem addMail_mails (box : RadosMailBox) {mail : RadosMail} (hv : mail.valid = true) :
    (box.addMail localTime parser mail).mails = box.mails ++ List.replicate
      (if parser.predicates.size = 0 then 1 else pushes localTime mail parser.predicates.toList)
      mail := by
  unfold RadosMailBox.addMail
  rw [hv]
  dsimp only
  rw [if_neg (by decide : ¬ (!true) = true)]
  by_cases hsize : parser.predicates.size = 0
  · rw [if_pos hsize, if_pos hsize]
    rfl
  · rw [if_neg hsize, if_neg hsize]
    exact addMailRounds_eq localTime mail _ _

theorem addMail_mailCount (box : RadosMailBox) (mail : RadosMail) :
    (box.addMail localTime parser mail).mailCount = box.mailCount := by
  unfold RadosMailBox.addMail
  dsimp only
  split
  · rfl
  · split <;> rfl

/-- Every mailbox counts as one with mails. -/
def Counted (mailbox : Mailboxes) : Prop := ∀ e ∈ mailbox.toList, e.2.mailCount = 1

theorem counted_insert {mailbox : Mailboxes} (h : Counted mailbox) (guid : String)
    {box : RadosMailBox} (hbox : box.mailCount = 1) : Counted (mailbox.insert guid box) := by
  intro e he
  have hget := TreeMap.mem_toList_iff_getElem?_eq_some.mp he
  rw [TreeMap.getElem?_insert] at hget
  split at hget
  · rw [← Option.some.inj hget]
    exact hbox
  · exact h e (TreeMap.mem_toList_iff_getElem?_eq_some.mpr hget)

theorem mailsOf_insert (mailbox : Mailboxes) (guid guid' : String) (box : RadosMailBox) :
    mailsOf (mailbox.insert guid box) guid' =
      if guid = guid' then box.mails else mailsOf mailbox guid' := by
  unfold mailsOf
  rw [TreeMap.getElem?_insert]
  by_cases h : guid = guid'
  · rw [if_pos h, if_pos (LawfulEqCmp.compare_eq_iff_eq.mpr h)]
    rfl
  · rw [if_neg h, if_neg fun e => h (LawfulEqCmp.compare_eq_iff_eq.mp e)]

/-- **One round** shows the mail in its mailbox, and changes no other one. -/
theorem queryStep_spec {mailbox : Mailboxes} (hc : Counted mailbox) {mail : RadosMail}
    (hl : mail.Listable) (hp : mailboxPasses localTime parser mail.mailboxGuid ≠ none) :
    ∃ mailbox', queryStep localTime parser mailbox mail = some mailbox' ∧ Counted mailbox' ∧
      ∀ guid, mailsOf mailbox' guid = mailsOf mailbox guid ++
        if mail.mailboxGuid = guid then List.replicate (timesShown localTime parser mail) mail
        else [] := by
  obtain ⟨hv, hM, hB⟩ := hl
  obtain ⟨guid, hguid⟩ := Option.ne_none_iff_exists'.mp hM
  obtain ⟨name, hname⟩ := Option.ne_none_iff_exists'.mp hB
  have hbox : mail.mailboxGuid = cStr guid := by
    unfold RadosMail.mailboxGuid
    rw [hguid, Option.getD_some]
  unfold queryStep timesShown
  simp only [hguid, hname, hbox]
  rw [hbox] at hp
  cases hpass : mailboxPasses localTime parser (cStr guid) with
  | none => exact absurd hpass hp
  | some pass =>
      cases pass with
      | false => exact ⟨mailbox, rfl, hc, fun guid' => by simp⟩
      | true =>
          refine ⟨_, rfl, counted_insert hc _ ?_, fun guid' => ?_⟩
          · show (RadosMailBox.addMail _ _ _ _).mailCount = 1
            rw [addMail_mailCount]
            cases hget : mailbox[cStr guid]? with
            | none => rfl
            | some box =>
                exact hc (cStr guid, box) (TreeMap.mem_toList_iff_getElem?_eq_some.mpr hget)
          · rw [mailsOf_insert, if_pos rfl]
            by_cases heq : cStr guid = guid'
            · rw [if_pos heq, if_pos heq, ← heq]
              show (RadosMailBox.addMail _ _ _ _).mails = _
              rw [addMail_mails _ _ _ hv]
              congr 1
              unfold mailsOf
              cases mailbox[cStr guid]? with
              | none => rfl
              | some box => rfl
            · rw [if_neg heq, if_neg heq, List.append_nil]

/-- **What a run leaves**: each mailbox has the mails that are shown in it. -/
theorem queryMailStorage_eq {mails : List RadosMail} (hl : ∀ mail ∈ mails, mail.Listable)
    (hp : ∀ mail ∈ mails, mailboxPasses localTime parser mail.mailboxGuid ≠ none) :
    ∃ mailbox, queryMailStorage localTime parser mails = some mailbox ∧ Counted mailbox ∧
      ∀ guid, mailsOf mailbox guid = (mails.filter (·.mailboxGuid = guid)).flatMap fun mail =>
        List.replicate (timesShown localTime parser mail) mail := by
  induction mails using List.reverseRecOn with
  | nil =>
      refine ⟨∅, rfl, fun e he => ?_, fun guid => ?_⟩
      · exact absurd (TreeMap.mem_toList_iff_getElem?_eq_some.mp he) (by simp)
      · unfold mailsOf
        rw [TreeMap.getElem?_emptyc]
        rfl
  | append_singleton mails mail ih =>
      have hmem : mail ∈ mails ++ [mail] := List.mem_concat_self
      obtain ⟨mailbox, hrun, hcount, hmails⟩ := ih (fun m h => hl m (List.mem_append_left _ h))
        fun m h => hp m (List.mem_append_left _ h)
      obtain ⟨mailbox', hstep, hcount', hmails'⟩ :=
        queryStep_spec localTime parser hcount (hl mail hmem) (hp mail hmem)
      refine ⟨mailbox', ?_, hcount', fun guid => ?_⟩
      · unfold queryMailStorage at hrun ⊢
        rw [List.foldlM_append, hrun]
        show (queryStep localTime parser mailbox mail >>= pure) = _
        rw [hstep]
        rfl
      · rw [hmails', hmails, List.filter_append, List.flatMap_append]
        congr 1
        by_cases h : mail.mailboxGuid = guid
        · simp [h]
        · simp [h]

/-- A list of which some items are shown once and the others not at all. -/
theorem flatMap_replicate {α : Type} {l : List α} {times : α → Nat} {wanted : α → Bool}
    (h : ∀ a ∈ l, times a = if wanted a then 1 else 0) :
    (l.flatMap fun a => List.replicate (times a) a) = l.filter wanted := by
  induction l with
  | nil => rfl
  | cons a l ih =>
      have ha := h a List.mem_cons_self
      rw [List.flatMap_cons, ih fun b hb => h b (List.mem_cons_of_mem _ hb), ha]
      cases hw : wanted a with
      | true => rw [List.filter_cons_of_pos hw]; rfl
      | false => rw [List.filter_cons_of_neg (by rw [hw]; decide)]; rfl

/-- The mails of all mailboxes are printed. -/
theorem printMail_of_counted {mailbox : Mailboxes} (h : Counted mailbox) :
    printMail mailbox = mailbox.toList.flatMap fun e => e.2.mails := by
  have hall : (mailbox.toList.filter fun e => e.2.mailCount ≠ 0) = mailbox.toList := by
    refine List.filter_eq_self.mpr fun e he => ?_
    rw [h e he]
    rfl
  unfold printMail
  rw [hall]

end Run

/-! ## 5. A parsed query -/

section Parsed

variable (localTime : LocalTime) {query : String}
  (hletters : ∀ p ∈ queryPredicates query, p.key.toList.length = 1) {mail : RadosMail}

/-- The parser of a query that has been parsed. -/
def parsed (query : String) : CmdLineParser := (CmdLineParser.new query).parseLsString.2

theorem parsed_getElem? (query key : String) :
    (parsed query).predicates[key]? =
      lastItem Predicate.key (queryPredicates query) key :=
  CmdLineParser.parseLsString_predicates query key

theorem queryPredicates_ne_nil (query : String) : queryPredicates query ≠ [] := by
  intro h
  exact List.splitOn_ne_nil _ _ (List.map_eq_nil_iff.mp h)

/-- An entry of the map is a predicate of the query. -/
theorem mem_of_entry {e : String × Predicate} (h : e ∈ (parsed query).predicates.toList) :
    e.2 ∈ queryPredicates query ∧ e.2.key = e.1 := by
  rw [TreeMap.mem_toList_iff_getElem?_eq_some, parsed_getElem?] at h
  exact lastItem_mem h

theorem parsed_toList_ne_nil (query : String) : (parsed query).predicates.toList ≠ [] := by
  obtain ⟨p, hp⟩ := List.exists_mem_of_ne_nil _ (queryPredicates_ne_nil query)
  obtain ⟨last, hlast⟩ := lastItem_isSome Predicate.key hp
  rw [← parsed_getElem?] at hlast
  exact List.ne_nil_of_mem (TreeMap.mem_toList_iff_getElem?_eq_some.mpr hlast)

theorem parsed_size_ne_zero (query : String) : (parsed query).predicates.size ≠ 0 := by
  rw [← TreeMap.length_toList]
  exact fun h => parsed_toList_ne_nil query (List.length_eq_zero_iff.mp h)

include hletters in
/-- With keys of one letter, the letter of the mailbox is among the keys only as a key. -/
theorem parsed_containsKey :
    (parsed query).containsKey "M" = true ↔ ∃ p ∈ queryPredicates query, p.key = "M" := by
  unfold CmdLineParser.containsKey parsed
  rw [decide_eq_true_iff, CmdLineParser.parseLsString_keys]
  show ['M'] <:+: _ ↔ _
  rw [List.singleton_infix_iff, List.mem_flatMap]
  refine exists_congr fun p => and_congr_right fun hp => ?_
  obtain ⟨c, hc⟩ := List.length_eq_one_iff.mp (hletters p hp)
  have hkey : p.key = String.ofList [c] := by rw [← hc, String.ofList_toList]
  rw [hc, hkey]
  constructor
  · intro h
    have hcM : 'M' = c := by simpa using h
    rw [← hcM]
  · intro h
    have hlist : [c] = ['M'] := String.ofList_injective h
    rw [hlist]
    exact List.mem_cons_self

include hletters in
/-- **The test on the mailbox** asks the last predicate on it. -/
theorem parsed_mailboxPasses (guid : String) :
    mailboxPasses localTime (parsed query) guid ≠ none ∧
      (mailboxPasses localTime (parsed query) guid = some true ↔
        ∀ p, lastItem Predicate.key (queryPredicates query) "M" = some p →
          p.eval localTime guid = true) := by
  unfold mailboxPasses CmdLineParser.getPredicate
  rw [parsed_getElem?]
  cases hlast : lastItem Predicate.key (queryPredicates query) "M" with
  | none =>
      have hno : ¬ (parsed query).containsKey "M" = true := by
        intro h
        obtain ⟨p, hp, hkey⟩ := (parsed_containsKey hletters).mp h
        obtain ⟨last, h'⟩ := lastItem_isSome Predicate.key hp
        rw [hkey, hlast] at h'
        cases h'
      rw [if_neg hno]
      exact ⟨nofun, iff_of_true rfl nofun⟩
  | some p =>
      have hyes : (parsed query).containsKey "M" = true :=
        (parsed_containsKey hletters).mpr ⟨p, lastItem_mem hlast⟩
      rw [if_pos hyes]
      simp

/-- The entry that the loop stops at has the predicate that decides. -/
theorem find?_stopsAt_iff {e : String × Predicate} :
    (parsed query).predicates.toList.find? (stopsAt mail) = some e ↔
      e.2.key = e.1 ∧ Decides query mail e.2 := by
  obtain ⟨key, p⟩ := e
  have hstops : ∀ e : String × Predicate, stopsAt mail e = true ↔ Stops mail e.1 := by
    intro e
    unfold stopsAt Stops
    rw [Bool.or_eq_true, decide_eq_true_iff, Option.isSome_iff_ne_none]
  rw [find?_toList_iff, parsed_getElem?, hstops]
  constructor
  · intro h
    obtain ⟨hlast, hstop, hbefore⟩ := h
    obtain ⟨-, rfl⟩ := lastItem_mem hlast
    refine ⟨rfl, hlast, hstop, fun p' hp' hlt hstop' => ?_⟩
    obtain ⟨last, hlast'⟩ := lastItem_isSome Predicate.key hp'
    rw [← parsed_getElem?] at hlast'
    have hfalse := hbefore _ _ hlast' (compare_lt_iff_lt.mpr hlt)
    rw [(hstops (p'.key, last)).mpr hstop'] at hfalse
    cases hfalse
  · intro h
    obtain ⟨hkey, hlast, hstop, hbefore⟩ := h
    dsimp only at hkey hlast hstop hbefore
    subst hkey
    refine ⟨hlast, hstop, fun k' p' h' hlt => ?_⟩
    rw [parsed_getElem?] at h'
    obtain ⟨hmem, rfl⟩ := lastItem_mem h'
    refine Bool.eq_false_of_not_eq_true fun h => ?_
    exact hbefore p' hmem (compare_lt_iff_lt.mp hlt) ((hstops _).mp h)

/-- A predicate on the mailbox is asked for the value that names it. -/
theorem satisfies_mailbox (hM : mail.metadata "M" ≠ none) {p : Predicate} (hkey : p.key = "M") :
    mail.satisfies localTime p = p.eval localTime mail.mailboxGuid := by
  obtain ⟨guid, hguid⟩ := Option.ne_none_iff_exists'.mp hM
  unfold RadosMail.satisfies RadosMail.mailboxGuid
  rw [hkey, hguid]
  rfl

include hletters in
theorem mailboxPasses_iff (hM : mail.metadata "M" ≠ none) :
    mailboxPasses localTime (parsed query) mail.mailboxGuid = some true ↔
      ∀ p, lastItem Predicate.key (queryPredicates query) "M" = some p →
        mail.satisfies localTime p = true := by
  rw [(parsed_mailboxPasses localTime hletters _).2]
  refine forall_congr' fun p => imp_congr_right fun h => ?_
  rw [satisfies_mailbox localTime hM (lastItem_mem h).2]

theorem pushes_parsed_pos_iff :
    0 < pushes localTime mail (parsed query).predicates.toList ↔
      ∃ p, Decides query mail p ∧
        (mail.satisfies localTime p = true ∨ mail.metadata p.key = none) := by
  have haccepts : ∀ p : Predicate,
      (∀ value, mail.metadata p.key = some value → p.eval localTime (cStr value) = true) ↔
        mail.satisfies localTime p = true ∨ mail.metadata p.key = none := by
    intro p
    unfold RadosMail.satisfies
    cases mail.metadata p.key with
    | none => simp
    | some value => simp
  rw [pushes_pos_iff]
  constructor
  · intro h
    obtain ⟨⟨key, p⟩, hfind, hval⟩ := h
    obtain ⟨hkey, hdec⟩ := find?_stopsAt_iff.mp hfind
    dsimp only at hkey hdec hval
    rw [← hkey] at hval
    exact ⟨p, hdec, (haccepts p).mp hval⟩
  · intro h
    obtain ⟨p, hdec, hval⟩ := h
    exact ⟨(p.key, p), find?_stopsAt_iff.mpr ⟨rfl, hdec⟩, (haccepts p).mpr hval⟩

include hletters in
/-- **A parsed query shows a mail** if the last predicate on the mailbox is true of it, and the
    predicate that decides. -/
theorem timesShown_pos_iff (hM : mail.metadata "M" ≠ none) :
    0 < timesShown localTime (parsed query) mail ↔
      (∀ p, lastItem Predicate.key (queryPredicates query) "M" = some p →
          mail.satisfies localTime p = true) ∧
        ∃ p, Decides query mail p ∧
          (mail.satisfies localTime p = true ∨ mail.metadata p.key = none) := by
  unfold timesShown
  rw [if_neg (parsed_size_ne_zero query), ← mailboxPasses_iff localTime hletters hM,
    ← pushes_parsed_pos_iff]
  by_cases h : mailboxPasses localTime (parsed query) mail.mailboxGuid = some true
  · rw [if_pos h, and_iff_right h]
  · rw [if_neg h]
    exact iff_of_false (Nat.lt_irrefl 0) fun h' => h h'.1

include hletters in
/-- A mail that satisfies all predicates is shown once. -/
theorem timesShown_of_satisfied (hM : mail.metadata "M" ≠ none)
    (h : ∀ p ∈ queryPredicates query, mail.satisfies localTime p = true) :
    timesShown localTime (parsed query) mail = 1 := by
  have honce : pushes localTime mail (parsed query).predicates.toList = 1 := by
    refine pushes_of_satisfied localTime mail (parsed_toList_ne_nil query) fun e he => ?_
    obtain ⟨hmem, hkey⟩ := mem_of_entry he
    exact ⟨hkey, h _ hmem⟩
  have hpass : mailboxPasses localTime (parsed query) mail.mailboxGuid = some true :=
    (mailboxPasses_iff localTime hletters hM).mpr fun p hlast => h p (lastItem_mem hlast).1
  unfold timesShown
  rw [if_pos hpass, if_neg (parsed_size_ne_zero query), honce]

end Parsed

/-! ## 6. When a query shows what it asks for -/

/-- A parser that has parsed nothing shows every mail. -/
theorem timesShown_unparsed (localTime : LocalTime) (query : String) (mail : RadosMail) :
    timesShown localTime (.new query) mail = 1 := by
  have hno : (CmdLineParser.new query).containsKey "M" = false := by
    unfold CmdLineParser.containsKey
    rw [decide_eq_false_iff_not]
    show ¬ ['M'] <:+: []
    simp
  unfold timesShown mailboxPasses
  rw [hno, if_neg Bool.false_ne_true, if_pos rfl]
  rfl

/-- `-` parsed as a predicate shows a mail without this attribute, and one with `-` there. -/
theorem timesShown_dash (localTime : LocalTime) (mail : RadosMail) :
    timesShown localTime (parsed "-") mail =
      match mail.metadata "-" with
      | some value => if cStr value = "-" then 1 else 0
      | none => 1 := by
  have hlist : (parsed "-").predicates.toList = [("-", ⟨"-", none, "-", true⟩)] := by
    unfold parsed
    rw [CmdLineParser.parseLsString_eq]
    decide +kernel
  have hno : (parsed "-").containsKey "M" = false := by
    unfold CmdLineParser.containsKey parsed
    rw [CmdLineParser.parseLsString_keys]
    decide +kernel
  unfold timesShown mailboxPasses
  rw [hno, if_neg Bool.false_ne_true, if_pos rfl, if_neg (parsed_size_ne_zero "-"), hlist]
  unfold pushes
  cases mail.metadata "-" with
  | none => rfl
  | some value =>
      have heval : Predicate.eval localTime ⟨"-", none, "-", true⟩ (cStr value) = true ↔
          cStr value = "-" := by
        show decide ("-" = cStr value) = true ↔ _
        rw [decide_eq_true_iff, eq_comm]
      simp only [heval]

namespace QueryCase

variable (q : QueryCase)

theorem parser_of_dash (h : q.query = "-") (hc : q.command ≠ .doveadmGet) :
    q.command.parser q.query = .new q.query :=
  if_pos (Or.inr ⟨hc, h⟩)

theorem parser_of_get (h : q.query = "-") (hc : q.command = .doveadmGet) :
    q.command.parser q.query = parsed "-" := by
  rw [hc, h]
  rfl

theorem letters_of_ne (h : q.query ≠ "-") :
    ∀ p ∈ queryPredicates q.query, p.key.toList.length = 1 :=
  fun p hp => (q.letters.resolve_left h p hp).1

theorem parser_of_ne (h : q.query ≠ "-") : q.command.parser q.query = parsed q.query := by
  have hall : q.query ≠ "all" := by
    intro heq
    have hlen := q.letters_of_ne h
    rw [heq] at hlen
    revert hlen
    decide +kernel
  exact if_neg fun hor => hor.elim hall fun hd => h hd.2

theorem wanted_of_ne (h : q.query ≠ "-") (mail : RadosMail) :
    q.wanted mail = true ↔
      ∀ p ∈ queryPredicates q.query, mail.satisfies q.localTime p = true := by
  unfold wanted
  rw [decide_eq_false h, Bool.false_or, List.all_eq_true]

/-- How often the query shows a mail. -/
def times (mail : RadosMail) : Nat :=
  timesShown q.localTime (q.command.parser q.query) mail

/-- A mail without fault is shown once if it is asked for, and not at all otherwise. -/
theorem times_of_no_fault {mail : RadosMail} (hl : mail.Listable) (h : ¬ q.Fault mail) :
    q.times mail = if q.wanted mail then 1 else 0 := by
  unfold times
  by_cases hq : q.query = "-"
  · unfold Fault at h
    rw [if_pos hq] at h
    have hw : q.wanted mail = true := by
      unfold wanted
      rw [decide_eq_true hq, Bool.true_or]
    rw [if_pos hw]
    by_cases hc : q.command = .doveadmGet
    · rw [q.parser_of_get hq hc, timesShown_dash]
      cases hval : mail.metadata "-" with
      | none => rfl
      | some value => exact if_pos (not_not.mp fun hne => h ⟨hc, value, hval, hne⟩)
    · rw [q.parser_of_dash hq hc]
      exact timesShown_unparsed _ _ _
  · unfold Fault at h
    rw [if_neg hq] at h
    rw [q.parser_of_ne hq]
    by_cases hw : q.wanted mail = true
    · rw [if_pos hw]
      exact timesShown_of_satisfied _ (q.letters_of_ne hq) hl.2.1 ((q.wanted_of_ne hq mail).mp hw)
    · rw [if_neg hw]
      refine Nat.eq_zero_of_not_pos fun hpos => h ?_
      obtain ⟨hmailbox, hdecides⟩ :=
        (timesShown_pos_iff _ (q.letters_of_ne hq) hl.2.1).mp hpos
      refine ⟨hmailbox, hdecides, ?_⟩
      by_contra hall
      refine hw ((q.wanted_of_ne hq mail).mpr fun p hp => ?_)
      exact Bool.eq_true_of_not_eq_false fun hf => hall ⟨p, hp, hf⟩

/-- A mail with a fault is shown though it is not asked for, or asked for and not shown. -/
theorem times_of_fault {mail : RadosMail} (hl : mail.Listable) (h : q.Fault mail) :
    ¬ (0 < q.times mail ↔ q.wanted mail = true) := by
  unfold times
  by_cases hq : q.query = "-"
  · unfold Fault at h
    rw [if_pos hq] at h
    obtain ⟨hc, value, hval, hne⟩ := h
    have hw : q.wanted mail = true := by
      unfold wanted
      rw [decide_eq_true hq, Bool.true_or]
    rw [q.parser_of_get hq hc, timesShown_dash, hval, hw]
    dsimp only
    rw [if_neg hne]
    exact fun hiff => Nat.lt_irrefl 0 (hiff.mpr rfl)
  · unfold Fault at h
    rw [if_neg hq] at h
    obtain ⟨hmailbox, hdecides, p, hp, hfails⟩ := h
    have hpos := (timesShown_pos_iff q.localTime (q.letters_of_ne hq) hl.2.1).mpr
      ⟨hmailbox, hdecides⟩
    rw [q.parser_of_ne hq]
    intro hiff
    have hsat := (q.wanted_of_ne hq mail).mp (hiff.mp hpos) p hp
    rw [hfails] at hsat
    cases hsat

/-- The query ends, and leaves the mails as often as they are shown. -/
theorem run_eq : ∃ mailbox, q.run = some mailbox ∧ Counted mailbox ∧
    ∀ guid, mailsOf mailbox guid = (q.mails.filter (·.mailboxGuid = guid)).flatMap fun mail =>
      List.replicate (q.times mail) mail := by
  refine queryMailStorage_eq q.localTime (q.command.parser q.query) q.listable fun mail _ => ?_
  by_cases hq : q.query = "-"
  · by_cases hc : q.command = .doveadmGet
    · rw [q.parser_of_get hq hc]
      exact (parsed_mailboxPasses q.localTime (by decide +kernel) _).1
    · intro hnone
      have honce := timesShown_unparsed q.localTime q.query mail
      unfold timesShown at honce
      rw [← q.parser_of_dash hq hc, hnone, if_neg nofun] at honce
      cases honce
  · rw [q.parser_of_ne hq]
    exact (parsed_mailboxPasses q.localTime (q.letters_of_ne hq) _).1

/-- **A query shows the mails it asks for in exactly these cases**: no mail that fails one of the
    predicates passes the last one on the mailbox and the one that decides; and, for a `-` that has
    been parsed, no mail has another value there. -/
theorem query_shows_iff :
    (∃ mailbox, q.run = some mailbox ∧ q.Shows mailbox) ↔
      ∀ mail ∈ q.mails, ¬ q.Fault mail := by
  obtain ⟨mailbox, hrun, hcount, hmails⟩ := q.run_eq
  constructor
  · intro h mail hmail hfault
    obtain ⟨mailbox', hrun', hshows⟩ := h
    obtain rfl := Option.some.inj (hrun.symm.trans hrun')
    refine q.times_of_fault (q.listable mail hmail) hfault ?_
    -- the mails of its mailbox, once by the run and once by what is asked for
    have hlists := (hmails mail.mailboxGuid).symm.trans (hshows.inOrder mail.mailboxGuid)
    have hmem := congrArg (mail ∈ ·) hlists
    simp only [List.mem_flatMap, List.mem_filter, List.mem_replicate, decide_eq_true_eq, hmail,
      true_and, and_true, eq_iff_iff] at hmem
    rw [← hmem]
    constructor
    · intro hpos
      exact ⟨mail, ⟨hmail, rfl⟩, Nat.pos_iff_ne_zero.mp hpos, rfl⟩
    · intro h
      obtain ⟨m, -, hne, rfl⟩ := h
      exact Nat.pos_iff_ne_zero.mpr hne
  · intro hno
    have hinOrder : ∀ guid, mailsOf mailbox guid =
        (q.mails.filter q.wanted).filter (·.mailboxGuid = guid) := by
      intro guid
      rw [hmails, List.filter_comm]
      refine flatMap_replicate fun mail hmail => ?_
      have hmem := List.mem_of_mem_filter hmail
      exact q.times_of_no_fault (q.listable mail hmem) (hno mail hmem)
    have hkept : ∀ guid, (mailbox[guid]?).elim [] (·.mails) =
        ((q.mails.filter q.wanted).filter (·.mailboxGuid = guid)).map id := by
      intro guid
      rw [List.map_id]
      exact hinOrder guid
    have hperm := flatMap_toList_perm hkept
    rw [List.map_id] at hperm
    refine ⟨mailbox, hrun, ?_, hinOrder⟩
    rw [printMail_of_counted hcount]
    exact hperm

end QueryCase

/-- A mail of Drafts with the uid 2. -/
def draft : RadosMail where
  oid := "a1"
  metadata := fun
    | "M" => some "8eed8407"
    | "B" => some "Drafts"
    | "R" => some "1234567"
    | "U" => some "2"
    | _ => none
  valid := true
  mailSize := 200

/-- The mails of Drafts with the uid 1 are asked for. -/
def draftsByUid : QueryCase where
  localTime := fun _ => some 0
  command := .doveadmLs
  query := "B=Drafts;U=1"
  mails := [draft]
  letters := Or.inr (by decide +kernel)
  listable := by
    intro mail hmail
    rw [List.mem_singleton.mp hmail]
    exact ⟨rfl, by decide, by decide⟩

/-- The mail is shown, since it is one of Drafts. -/
theorem first_predicate_decides :
    ¬ ∃ mailbox, draftsByUid.run = some mailbox ∧ draftsByUid.Shows mailbox := by
  intro h
  obtain ⟨mailbox, hrun, hshows⟩ := h
  have hone : draftsByUid.run.map (fun b => (mailsOf b "8eed8407").length) = some 1 := by
    have hparser : draftsByUid.command.parser draftsByUid.query =
        (draftsByUid.query.toList.splitOn ';').foldl CmdLineParser.createPredicate
          (.new draftsByUid.query) := by
      rw [draftsByUid.parser_of_ne (by decide)]
      unfold parsed
      rw [CmdLineParser.parseLsString_eq]
      rfl
    unfold QueryCase.run
    rw [hparser]
    decide +kernel
  have hnone := congrArg List.length (hshows.inOrder "8eed8407")
  rw [hrun] at hone
  have hlen : (mailsOf mailbox "8eed8407").length = 1 := Option.some.inj hone
  rw [hlen] at hnone
  revert hnone
  decide +kernel

end DovecotCeph.Rmb
