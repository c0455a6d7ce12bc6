/-
  File:      DovecotCeph/Storage/SaveMetadata.lean
  Subject:   The metadata a mail is saved with (rbox-save.cpp): what `rbox_save_mail_set_metadata`
             adds, and the uid `rbox_save_assign_uids` writes at commit.

  * `rboxSaveMailSetMetadata`: the attributes in the order of the source;
  * `validFlags_iff`: which flags are a number to the validator;
  * **`saved_metadata_valid_iff`**: for which mails the validator of a rebuild accepts them.
-/
import DovecotCeph.Librmb.MetadataStorage
import DovecotCeph.Librmb.RadosUtil

namespace DovecotCeph

/-! ## 1. What is added -/

/-- `is_mail_attribute`. -/
def isMailAttribute (mailAttributes : String) (key : Char) : Bool :=
  (rboxMetadataKeyToChar key).toList.any (· ∈ mailAttributes.toList)

/-- What `rbox_save_mail_set_metadata` reads: the guid of the mailbox and that of the mail as they
    are written, its `mail_save_data`, the virtual size if it can be determined, the number of bytes
    read from the input, and the name of the mailbox. -/
structure MailToSave where
  mailboxGuid : String
  mailGuid : String
  receivedDate : Int64
  pop3Uidl : Option String := none
  pop3Order : UInt32 := 0
  fromEnvelope : Option String := none
  virtualSize : Option UInt64
  inputOffset : UInt64
  flags : UInt8 := 0
  pvtFlags : UInt8 := 0
  boxName : String

/-- `rbox_save_begin`: a mail without a date is received now. -/
def rboxSaveBeginDate (ioloopTime date : Int64) : Int64 := if date = -1 then ioloopTime else date

/-- `RadosMetadata` and `add_metadata`, if the key is a mail attribute and there is a value; the
    value ends at its first NUL. -/
def addAttribute (mailAttributes : String) (key : Char) (value : Option String) (x : Xattrs) :
    Xattrs :=
  if isMailAttribute mailAttributes key then
    match value with
    | some v => Function.update x (String.singleton key) (some (cStr v))
    | none => x
  else x

/-- `convert` of a `size_t`: the number is cast to an `int`. -/
def sizeText (size : UInt64) : String := toString size.toUInt32.toInt32.toInt

/-- The text of flags that are not zero. -/
def flagsText (flags : UInt8) : Option String :=
  if flags = 0 then none else some (flagsToString flags)

/-- `rbox_save_mail_set_metadata`, the keywords apart. -/
def rboxSaveMailSetMetadata (mailAttributes : String) (ioloopTime : Int64) (d : MailToSave) :
    Xattrs :=
  let add := addAttribute mailAttributes
  let x : Xattrs := fun _ => none
  let x := add 'I' (some "0.1") x
  let x := add 'M' (some d.mailboxGuid) x
  let x := add 'G' (some d.mailGuid) x
  let x := add 'R' (some (toString (rboxSaveBeginDate ioloopTime d.receivedDate).toInt)) x
  let x := add 'P' d.pop3Uidl x
  let x := add 'O' (if d.pop3Order = 0 then none else some (toString d.pop3Order.toNat)) x
  let x := add 'A' d.fromEnvelope x
  let x := add 'V' (some (sizeText (d.virtualSize.getD d.inputOffset))) x
  let x := add 'Z' (some (sizeText d.inputOffset)) x
  let x := add 'F' (flagsText d.flags) x
  let x := add 'C' (flagsText d.pvtFlags) x
  add 'B' (some d.boxName) x

/-- The metadata of the mail once its transaction is committed with the uid. -/
def savedMetadata (mailAttributes : String) (ioloopTime : Int64) (d : MailToSave) (uid : UInt32) :
    Xattrs :=
  addAttribute mailAttributes 'U' (some (toString uid.toNat))
    (rboxSaveMailSetMetadata mailAttributes ioloopTime d)

/-! ## 2. What the validator accepts -/

section Valid

variable {mailAttributes : String} {x : Xattrs} {key : Char} {value : Option String}

theorem addAttribute_apply (k : String) :
    addAttribute mailAttributes key value x k =
      if k = String.singleton key ∧ isMailAttribute mailAttributes key = true then
        (value.map cStr).or (x k) else x k := by
  unfold addAttribute
  by_cases hkey : isMailAttribute mailAttributes key = true
  · rw [if_pos hkey]
    by_cases hk : k = String.singleton key
    · rw [if_pos ⟨hk, hkey⟩, hk]
      cases value with
      | none => rfl
      | some v => exact Function.update_self _ _ _
    · rw [if_neg fun h => hk h.1]
      cases value with
      | none => rfl
      | some v => exact Function.update_of_ne hk _ _
  · rw [if_neg hkey, if_neg fun h => hkey h.2]

theorem cStr_toString_nat (n : Nat) : cStr (toString n) = toString n := by
  refine cStr_of_noNul fun h => ?_
  rw [Nat.toString_eq_repr, Nat.toList_repr] at h
  cases isDigit_toDigits n _ h

theorem cStr_toString_int (z : Int) : cStr (toString z) = toString z := by
  cases z with
  | ofNat n => exact cStr_toString_nat n
  | negSucc n =>
      refine cStr_of_noNul fun h => ?_
      rw [show (toString (Int.negSucc n)) = "-" ++ (n + 1).repr from rfl, String.toList_append,
        Nat.toList_repr] at h
      rcases List.mem_append.mp h with h | h
      · revert h
        decide
      · cases isDigit_toDigits (n + 1) _ h

/-- The flags are a number to the validator: none, a digit, or a space, which leaves the empty
    text. -/
def ValidFlags (flags : UInt8) : Prop :=
  flags = 0 ∨ isspace (byteChar flags) = true ∨ (byteChar flags).isDigit = true

theorem byteChar_ne_nul {flags : UInt8} (h : flags ≠ 0) : byteChar flags ≠ '\x00' := by
  intro hchar
  have hnat := byteChar_toNat flags
  rw [hchar] at hnat
  exact h (UInt8.toNat_inj.mp hnat.symm)

theorem cStr_flagsToString {flags : UInt8} (h : flags ≠ 0) :
    cStr (flagsToString flags) = flagsToString flags := by
  refine cStr_of_noNul fun hmem => ?_
  rw [flagsToString_toList] at hmem
  split at hmem
  case isTrue => cases hmem
  case isFalse => exact byteChar_ne_nul h (List.mem_singleton.mp hmem).symm

theorem validFlags_iff (flags : UInt8) :
    isNumericOptional ((flagsText flags).map cStr) = true ↔ ValidFlags flags := by
  unfold flagsText ValidFlags
  by_cases h : flags = 0
  · rw [if_pos h]
    exact iff_of_true rfl (.inl h)
  · rw [if_neg h, Option.map_some, cStr_flagsToString h, or_iff_right h]
    show (flagsToString flags).toList.all Char.isDigit = true ↔ _
    rw [flagsToString_toList]
    cases hspace : isspace (byteChar flags) with
    | true => exact iff_of_true rfl (.inl rfl)
    | false => simp

/-- **Saved metadata and the validator**: with the attributes of a rebuild configured, the metadata
    is accepted exactly if date and sizes are not negative, and the configured flags are valid. -/
theorem saved_metadata_valid_iff (ioloopTime : Int64) (d : MailToSave) (uid : UInt32)
    (hkeys : ∀ key ∈ "MGRZVU".toList, isMailAttribute mailAttributes key = true) :
    validateMetadata (savedMetadata mailAttributes ioloopTime d uid) = true ↔
      0 ≤ (rboxSaveBeginDate ioloopTime d.receivedDate).toInt ∧
        0 ≤ d.inputOffset.toUInt32.toInt32.toInt ∧
        0 ≤ (d.virtualSize.getD d.inputOffset).toUInt32.toInt32.toInt ∧
        (isMailAttribute mailAttributes 'F' = true → ValidFlags d.flags) ∧
        (isMailAttribute mailAttributes 'C' = true → ValidFlags d.pvtFlags) := by
  have hM : isMailAttribute mailAttributes 'M' = true := hkeys _ (by decide)
  have hG : isMailAttribute mailAttributes 'G' = true := hkeys _ (by decide)
  have hR : isMailAttribute mailAttributes 'R' = true := hkeys _ (by decide)
  have hZ : isMailAttribute mailAttributes 'Z' = true := hkeys _ (by decide)
  have hV : isMailAttribute mailAttributes 'V' = true := hkeys _ (by decide)
  have hU : isMailAttribute mailAttributes 'U' = true := hkeys _ (by decide)
  obtain ⟨x, hx⟩ : ∃ x, x = savedMetadata mailAttributes ioloopTime d uid := ⟨_, rfl⟩
  have hxU : x "U" = some (cStr (toString uid.toNat)) := by
    simp +decide [hx, savedMetadata, addAttribute_apply, hU]
  have hxM : x "M" = some (cStr d.mailboxGuid) := by
    simp +decide [hx, savedMetadata, rboxSaveMailSetMetadata, addAttribute_apply, hM]
  have hxG : x "G" = some (cStr d.mailGuid) := by
    simp +decide [hx, savedMetadata, rboxSaveMailSetMetadata, addAttribute_apply, hG]
  have hxR : x "R" =
      some (cStr (toString (rboxSaveBeginDate ioloopTime d.receivedDate).toInt)) := by
    simp +decide [hx, savedMetadata, rboxSaveMailSetMetadata, addAttribute_apply, hR]
  have hxZ : x "Z" = some (cStr (sizeText d.inputOffset)) := by
    simp +decide [hx, savedMetadata, rboxSaveMailSetMetadata, addAttribute_apply, hZ]
  have hxV : x "V" = some (cStr (sizeText (d.virtualSize.getD d.inputOffset))) := by
    simp +decide [hx, savedMetadata, rboxSaveMailSetMetadata, addAttribute_apply, hV]
  have hxF : x "F" =
      if isMailAttribute mailAttributes 'F' then (flagsText d.flags).map cStr else none := by
    simp +decide [hx, savedMetadata, rboxSaveMailSetMetadata, addAttribute_apply]
  have hxC : x "C" =
      if isMailAttribute mailAttributes 'C' then (flagsText d.pvtFlags).map cStr else none := by
    simp +decide [hx, savedMetadata, rboxSaveMailSetMetadata, addAttribute_apply]
  have hflags : ∀ (configured : Bool) (flags : UInt8),
      isNumericOptional (if configured then (flagsText flags).map cStr else none) = true ↔
        (configured = true → ValidFlags flags) := by
    intro configured flags
    cases configured with
    | false => exact iff_of_true rfl fun h => absurd h Bool.false_ne_true
    | true => exact (validFlags_iff flags).trans ⟨fun h _ => h, fun h => h rfl⟩
  rw [← hx]
  simp only [validateMetadata, hxU, hxM, hxG, hxR, hxZ, hxV, hxF, hxC, sizeText, cStr_toString_nat,
    cStr_toString_int, isNumeric_toString, isNumeric_int, hflags, Bool.and_eq_true,
    Option.isSome_some, and_true, true_and, and_assoc]

end Valid

/-- A mail of 1000 bytes. -/
def newMail (flags : UInt8) : MailToSave where
  mailboxGuid := "m1"
  mailGuid := "g1"
  receivedDate := -1
  virtualSize := some 1020
  inputOffset := 1000
  flags := flags
  boxName := "INBOX"

theorem flagless_mail_valid :
    validateMetadata (savedMetadata "MGPORZVBUIF" 1700000000 (newMail 0) 7) = true :=
  (saved_metadata_valid_iff 1700000000 (newMail 0) 7 (List.all_eq_true.mp (by decide))).mpr
    ⟨by decide, by decide, by decide, fun _ => .inl rfl, fun _ => .inl rfl⟩

/-- A mail that has been answered; one received before 1970; one of two gigabytes. -/
theorem answered_mail_invalid :
    validateMetadata (savedMetadata "MGPORZVBUIF" 1700000000 (newMail 1) 7) = false ∧
      validateMetadata (savedMetadata "MGPORZVBUIF" 1700000000
        { newMail 0 with receivedDate := -86400 } 7) = false ∧
      validateMetadata (savedMetadata "MGPORZVBUIF" 1700000000
        { newMail 0 with inputOffset := 2147483648 } 7) = false := by
  refine ⟨?_, ?_, ?_⟩ <;> decide

end DovecotCeph
