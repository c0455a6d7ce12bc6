/-
  File:      DovecotCeph/Librmb/LoadObjects.lean
  Subject:   The mails of a namespace in the order `rmb` and `doveadm rmb` show them
             (rmb-commands.cpp): `load_objects` asks for all objects at once, the answers come in
             any order, and the list they make is sorted.

  Three of the four comparators read the attribute of their first mail twice, so that no mail is
  below another one.
  * `compareAttribute_false`: such a comparator never holds;
  * **`load_objects_sorts_iff`**: when the list is sorted by uid, received date or size;
  * `sorted_saveDate`: by the save date it is.
-/
import DovecotCeph.Librmb.LsCmdParser

namespace DovecotCeph.Rmb

/-! ## 1. The callbacks -/

/-- What the cluster answers about an object of the listing: to `aio_stat`, to its completion, and
    to the load of the metadata. -/
structure ObjectAnswer where
  submit : Outcome := .done
  stat : Outcome := .done
  size : Nat := 1
  saveDate : Int := 0
  load : Outcome := .done
  metadata : Xattrs

/-- `RadosMail`, as far as `load_objects` fills it. -/
structure LoadedMail where
  oid : String
  metadata : Xattrs := fun _ => none
  valid : Bool := true
  mailSize : Int := -1
  saveDate : Int := -1

/-- `aio_cb`; `asked`: the answers about the object whose metadata it loads. Metadata that is empty
    is not valid to the validator either. -/
def aioCb (loadMetadata : Bool) (oid : String) (a asked : ObjectAnswer) : LoadedMail :=
  if a.stat = .done ∧ 0 < a.size then
    -- `set_mail_size` takes an `int`
    let mail : LoadedMail := { oid, mailSize := Int.bmod a.size (2 ^ 32), saveDate := a.saveDate }
    if loadMetadata then
      { mail with
        metadata := asked.metadata
        valid := decide (asked.load = .done) && validateMetadata asked.metadata }
    else mail
  else { oid, valid := false }

/-- A listing of the namespace, the answers, and the order in which the completions call back; the
    oid of a mail is set behind the submission, before its callback or after. -/
structure Loading where
  listing : List String
  answers : String → ObjectAnswer
  completed : List String
  oidSet : String → Bool := fun _ => true
  perm : completed.Perm (listing.filter fun oid => (answers oid).submit = .done)

/-- The mails that the callbacks push. -/
def Loading.loaded (l : Loading) (loadMetadata : Bool) : List LoadedMail :=
  l.completed.map fun oid =>
    aioCb loadMetadata oid (l.answers oid) (l.answers (if l.oidSet oid then oid else ""))

/-! ## 2. The comparators -/

/-- `std::stol` of an attribute; it throws for a null pointer, too. -/
def LoadedMail.number (m : LoadedMail) (key : String) : Option Int :=
  (m.metadata key).bind fun value => stol (cStr value)

/-- The comparators on an attribute: both numbers are read from the first mail. What `stol` throws
    is caught. -/
def compareAttribute (key : String) (convert : Int → Int) (i _j : LoadedMail) : Bool :=
  match i.number key with
  | none => false
  | some a =>
    match i.number key with
    | none => false
    | some b => decide (convert a < convert b)

/-- `RmbCommands::sort_uid`: the numbers are converted to `uint64_t`. -/
def sortUid : LoadedMail → LoadedMail → Bool := compareAttribute "U" (· % 2 ^ 64)

/-- `RmbCommands::sort_recv_date`. -/
def sortRecvDate : LoadedMail → LoadedMail → Bool := compareAttribute "R" id

/-- `RmbCommands::sort_phy_size`. -/
def sortPhySize : LoadedMail → LoadedMail → Bool := compareAttribute "Z" (· % 2 ^ 64)

/-- `RmbCommands::sort_save_date`. -/
def sortSaveDate (i j : LoadedMail) : Bool := decide (i.saveDate < j.saveDate)

/-- `std::list::sort`, which is stable. -/
def listSort (less : LoadedMail → LoadedMail → Bool) (mails : List LoadedMail) : List LoadedMail :=
  mails.mergeSort fun i j => !less j i

/-- **`RmbCommands::load_objects`**: what it adds to a list of mails, which it sorts. It returns
    0. -/
def loadObjects (l : Loading) (mailObjects : List LoadedMail) (sortString : String)
    (loadMetadata : Bool) : Int × List LoadedMail :=
  let mails := mailObjects ++ l.loaded loadMetadata
  (0,
    if loadMetadata then
      if sortString = "uid" then listSort sortUid mails
      else if sortString = "recv_date" then listSort sortRecvDate mails
      else if sortString = "phy_size" then listSort sortPhySize mails
      else listSort sortSaveDate mails
    else mails)

/-! ## 3. When the list is sorted -/

/-- What can be asked for: `uid`, `recv_date` or `phy_size`. -/
inductive SortKey where
  | uid
  | recvDate
  | phySize
  deriving DecidableEq, Repr

namespace SortKey

/-- The value of the option `sort`. -/
def text : SortKey → String
  | uid => "uid"
  | recvDate => "recv_date"
  | phySize => "phy_size"

def attr : SortKey → String
  | uid => "U"
  | recvDate => "R"
  | phySize => "Z"

/-- The number that the digits of the attribute denote. -/
def value (k : SortKey) (m : LoadedMail) : Nat :=
  digitsValue (cStr ((m.metadata k.attr).getD ""))

/-- The order that is asked for. -/
def InOrder (k : SortKey) (mails : List LoadedMail) : Prop :=
  mails.Pairwise fun i j => k.value i ≤ k.value j

end SortKey

/-- **Sorting sorts**: the result has the mails that were loaded, in the order asked for. -/
structure Sorts (l : Loading) (k : SortKey) : Prop where
  perm : (loadObjects l [] k.text true).2.Perm (l.loaded true)
  inOrder : k.InOrder (loadObjects l [] k.text true).2

section Sorting

variable {l : Loading} {mails : List LoadedMail}

/-- No mail is below another one. -/
theorem compareAttribute_false (key : String) (convert : Int → Int) (i j : LoadedMail) :
    compareAttribute key convert i j = false := by
  unfold compareAttribute
  cases i.number key with
  | none => rfl
  | some a => exact decide_eq_false (lt_irrefl (convert a))

/-- A list that is sorted already stays as it is. -/
theorem listSort_of_never {less : LoadedMail → LoadedMail → Bool} (h : ∀ i j, less i j = false) :
    listSort less mails = mails := by
  refine List.mergeSort_of_pairwise (List.pairwise_of_forall fun i j => ?_)
  rw [h j i]
  rfl

/-- The list as it was loaded. -/
theorem loadObjects_unsorted (k : SortKey) :
    (loadObjects l mails k.text true).2 = mails ++ l.loaded true := by
  unfold loadObjects
  cases k with
  | uid => exact listSort_of_never (compareAttribute_false _ _)
  | recvDate => exact listSort_of_never (compareAttribute_false _ _)
  | phySize => exact listSort_of_never (compareAttribute_false _ _)

/-- **When the list is sorted**: exactly if the callbacks came in that order. -/
theorem load_objects_sorts_iff (l : Loading) (k : SortKey) :
    Sorts l k ↔ k.InOrder (l.loaded true) := by
  have hlist : (loadObjects l [] k.text true).2 = l.loaded true := loadObjects_unsorted k
  constructor
  · intro h
    have horder := h.inOrder
    rw [hlist] at horder
    exact horder
  · intro h
    constructor
    · rw [hlist]
    · rw [hlist]
      exact h

/-- The comparator of the save dates reads both mails: any other key sorts by them. -/
theorem sorted_saveDate {sortString : String} (h : ∀ k : SortKey, sortString ≠ k.text) :
    (loadObjects l mails sortString true).2.Pairwise fun i j => i.saveDate ≤ j.saveDate := by
  have hlist : (loadObjects l mails sortString true).2 =
      listSort sortSaveDate (mails ++ l.loaded true) := by
    have huid : sortString ≠ "uid" := h .uid
    have hrecv : sortString ≠ "recv_date" := h .recvDate
    have hsize : sortString ≠ "phy_size" := h .phySize
    unfold loadObjects
    dsimp only
    rw [if_pos rfl, if_neg huid, if_neg hrecv, if_neg hsize]
  have hle : ∀ i j : LoadedMail, (!sortSaveDate j i) = true ↔ i.saveDate ≤ j.saveDate := by
    intro i j
    simp [sortSaveDate]
  rw [hlist]
  refine (List.pairwise_mergeSort (fun a b c hab hbc => ?_) (fun a b => ?_) _).imp
    fun hij => (hle _ _).mp hij
  · rw [hle] at hab hbc ⊢
    exact le_trans hab hbc
  · rw [Bool.or_eq_true, hle, hle]
    exact le_total _ _

end Sorting

/-- A mail with the uid `uid`. -/
def answerWithUid (uid : String) : ObjectAnswer where
  metadata := fun key =>
    if key = "U" then some uid
    else if key ∈ ["R", "Z", "V", "M", "G"] then some "7"
    else none

/-- Two mails, the second one loaded first. -/
def twoMails : Loading where
  listing := ["0a", "0b"]
  answers := fun oid => answerWithUid (if oid = "0a" then "1" else "2")
  completed := ["0b", "0a"]
  perm := .swap _ _ _

theorem uids_not_sorted :
    ¬ Sorts twoMails .uid ∧ ∀ m ∈ twoMails.loaded true, m.valid = true := by
  refine ⟨fun h => ?_, by decide⟩
  have horder := h.inOrder
  rw [loadObjects_unsorted] at horder
  have hfirst := List.rel_of_pairwise_cons horder (List.mem_singleton_self _)
  exact absurd hfirst (by decide +kernel)

end DovecotCeph.Rmb
