/-
  File:      DovecotCeph/Librmb/RadosUtil.lean
  Subject:   The attributes of a mail object as text (rados-util.cpp, rados-types.h): which of them
             `validate_metadata` wants to be numeric, and what becomes of a number that is written
             with `std::to_string` and read with `std::stoi`.

  * `stoi`: `none` where `std::stoi` throws;
  * `stoi_digits`: what it makes of a text of digits, which may be empty or too large a number;
  * `stoi_toString`: an unsigned number comes back exactly if it is an `int`.
-/
import Mathlib.Data.List.TakeWhile

namespace DovecotCeph

/-! ## 1. Numbers -/

/-- The xattrs of an object. -/
abbrev Xattrs := String → Option String

/-- `INT_MAX`, which is `INT32_MAX` too. -/
def intMax : Nat := 2147483647

/-- `isspace` in the C locale. -/
def isspace (c : Char) : Bool := c = ' ' || (9 ≤ c.toNat && c.toNat ≤ 13)

/-- The sign `strtol` reads, and the rest. -/
def readSign : List Char → Bool × List Char
  | '-' :: cs => (true, cs)
  | '+' :: cs => (false, cs)
  | cs => (false, cs)

/-- `std::stoi`: `none` where it throws `invalid_argument` or `out_of_range`. -/
def stoi (s : String) : Option Int :=
  let r := readSign (s.toList.dropWhile isspace)
  let digits := r.2.takeWhile Char.isDigit
  let n : Int := Nat.ofDigitChars 10 digits 0
  let v := if r.1 then -n else n
  if digits = [] then none
  else if v < -(intMax + 1) ∨ intMax < v then none
  else some v

/-- A byte as a character. -/
def byteChar (b : UInt8) : Char := Char.ofNat b.toNat

/-- `RadosUtils::flags_to_string`: a `uint8_t` is written as a character and read back as a word. -/
def flagsToString (flags : UInt8) : String :=
  String.ofList (([byteChar flags].dropWhile isspace).takeWhile fun c => !isspace c)

/-- `RadosUtils::string_to_flags`: the first character that is no space. -/
def stringToFlags (s : String) : Option UInt8 :=
  (s.toList.dropWhile isspace).head?.map fun c => UInt8.ofNat c.toNat

/-- `RadosUtils::is_numeric`: the empty string is numeric. -/
def isNumeric : Option String → Bool
  | none => false
  | some s => s.toList.all Char.isDigit

/-- `RadosUtils::is_numeric_optional`. -/
def isNumericOptional : Option String → Bool
  | none => true
  | some s => isNumeric (some s)

/-- `RadosUtils::validate_metadata`: uid, received time, physical and virtual size are numeric, the
    two flag fields too if they are there, and the guids of mailbox and mail are there. -/
def validateMetadata (x : Xattrs) : Bool :=
  isNumeric (x "U") && isNumeric (x "R") && isNumeric (x "Z") && isNumeric (x "V") &&
    isNumericOptional (x "F") && isNumericOptional (x "C") && (x "M").isSome && (x "G").isSome

/-- Valid metadata has the guid of a mailbox. -/
theorem mailboxGuid_of_valid {x : Xattrs} (h : validateMetadata x = true) :
    (x "M").isSome = true := by
  simp only [validateMetadata, Bool.and_eq_true] at h
  exact h.1.2

section Numbers

theorem isDigit_toDigits (n : Nat) : ∀ c ∈ Nat.toDigits 10 n, c.isDigit = true :=
  fun _ hc => Nat.isDigit_of_mem_toDigits (by decide) (by decide) hc

@[simp] theorem isNumeric_toString (n : Nat) : isNumeric (some (toString n)) = true := by
  unfold isNumeric
  rw [List.all_eq_true, Nat.toString_eq_repr, Nat.toList_repr]
  exact isDigit_toDigits n

theorem isspace_of_isDigit {c : Char} (h : c.isDigit = true) : isspace c = false := by
  have hle : 48 ≤ c.toNat := by
    simp only [Char.isDigit, Bool.and_eq_true, decide_eq_true_eq] at h
    exact h.1
  have hc : c ≠ ' ' := by
    intro heq
    rw [heq] at hle
    exact absurd hle (by decide)
  simp only [isspace, hc, decide_false, Bool.false_or, Bool.and_eq_false_iff,
    decide_eq_false_iff_not]
  omega

theorem readSign_of_isDigit {cs : List Char} (h : ∀ c ∈ cs, c.isDigit = true) :
    readSign cs = (false, cs) := by
  unfold readSign
  split
  · exact absurd (h '-' List.mem_cons_self) (by decide)
  · exact absurd (h '+' List.mem_cons_self) (by decide)
  · rfl

/-- The number the digits of a text denote. -/
def digitsValue (s : String) : Nat := Nat.ofDigitChars 10 s.toList 0

theorem digitsValue_toString (n : Nat) : digitsValue (toString n) = n := by
  rw [digitsValue, Nat.toString_eq_repr, Nat.toList_repr, Nat.ofDigitChars_ten_toDigits]

theorem toString_nat_injective {m n : Nat} (h : toString m = toString n) : m = n := by
  have hvalue := congrArg digitsValue h
  rwa [digitsValue_toString, digitsValue_toString] at hvalue

/-- **`std::stoi` of digits**: it throws for the empty text and for a number that is no `int`. -/
theorem stoi_digits {s : String} (h : ∀ c ∈ s.toList, c.isDigit = true) :
    stoi s =
      if s = "" then none
      else if digitsValue s ≤ intMax then some (digitsValue s : Int) else none := by
  have hspace : s.toList.dropWhile isspace = s.toList := by
    cases hcs : s.toList with
    | nil => rfl
    | cons c cs =>
        have hc : isspace c = false := isspace_of_isDigit (h c (hcs ▸ List.mem_cons_self))
        rw [List.dropWhile_cons_of_neg (by rw [hc]; exact Bool.false_ne_true)]
  have htake : s.toList.takeWhile Char.isDigit = s.toList := List.takeWhile_eq_self_iff.mpr h
  unfold stoi
  rw [hspace, readSign_of_isDigit h]
  dsimp only
  rw [htake]
  by_cases hs : s = ""
  · rw [if_pos hs, if_pos (by rw [hs]; rfl)]
  · have hne : s.toList ≠ [] := fun e => hs (String.toList_eq_nil_iff.mp e)
    rw [if_neg hs, if_neg hne]
    simp only [Bool.false_eq_true, if_false]
    change (if (digitsValue s : Int) < -(intMax + 1) ∨ (intMax : Int) < digitsValue s then none
      else some (digitsValue s : Int)) = _
    by_cases hn : digitsValue s ≤ intMax
    · rw [if_pos hn, if_neg (by omega)]
    · rw [if_neg hn, if_pos (by omega)]

/-- **`std::stoi` of `std::to_string` of an unsigned number throws exactly if that is no `int`.** -/
theorem stoi_toString (n : Nat) :
    stoi (toString n) = if n ≤ intMax then some (n : Int) else none := by
  have hlist : (toString n).toList = Nat.toDigits 10 n := by
    rw [Nat.toString_eq_repr, Nat.toList_repr]
  have hne : toString n ≠ "" := by
    intro e
    rw [e] at hlist
    exact Nat.toDigits_ne_nil hlist.symm
  rw [stoi_digits (by rw [hlist]; exact isDigit_toDigits n), if_neg hne,
    digitsValue_toString]

/-- A negative number is not numeric. -/
theorem isNumeric_int (z : Int) : isNumeric (some (toString z)) = true ↔ 0 ≤ z := by
  cases z with
  | ofNat n => exact iff_of_true (isNumeric_toString n) (Int.natCast_nonneg n)
  | negSucc n =>
      refine iff_of_false ?_ (by omega)
      have hlist : (toString (Int.negSucc n)).toList = '-' :: (toString (n + 1)).toList := by
        show ("-" ++ (n + 1).repr).toList = _
        rw [String.toList_append]
        rfl
      rw [isNumeric, hlist, List.all_cons]
      exact Bool.false_ne_true

end Numbers

section Flags

theorem byteChar_toNat (b : UInt8) : (byteChar b).toNat = b.toNat := by
  have hvalid : b.toNat.isValidChar := .inl (by have := UInt8.toNat_lt b; omega)
  unfold byteChar Char.ofNat
  rw [dif_pos hvalid]
  rfl

theorem flagsToString_toList (b : UInt8) :
    (flagsToString b).toList = if isspace (byteChar b) then [] else [byteChar b] := by
  rw [flagsToString, String.toList_ofList]
  cases h : isspace (byteChar b) with
  | true => simp [h]
  | false => simp [h]

end Flags

end DovecotCeph
