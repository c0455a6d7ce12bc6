/-
  File:      DovecotCeph/Lib/Json.lean
  Subject:   JSON documents whose members are texts and objects of texts: writing and reading them.
             Nothing here names the plugin.

  * `write`, `read`: the text of a document, and the document of a text;
  * **`read_write`**: what was written is read back; `write_noNul`: without a NUL in the text.
-/
import Mathlib.Data.List.AList

namespace DovecotCeph.Lib.Json

/-- An object of texts. -/
abbrev Texts := AList fun _ : String => String

/-- A member of a document. -/
inductive Value where
  | str (s : String)
  | obj (m : Texts)

abbrev Document := AList fun _ : String => Value

/-! ## 1. Strings -/

def hexDigit (n : Nat) : Char := "0123456789abcdef".toList.getD n '0'

def hexValue (c : Char) : Nat := "0123456789abcdef".toList.idxOf c

def escapeChar (c : Char) : List Char :=
  if c = '"' then ['\\', '"']
  else if c = '\\' then ['\\', '\\']
  else if c.toNat < 32 then
    ['\\', 'u', '0', '0', hexDigit (c.toNat / 16), hexDigit (c.toNat % 16)]
  else [c]

/-- The characters up to the closing quote, and what follows it. -/
def readChars : List Char → Option (List Char × List Char)
  | '"' :: r => some ([], r)
  | '\\' :: '"' :: r => (readChars r).map fun p => ('"' :: p.1, p.2)
  | '\\' :: '\\' :: r => (readChars r).map fun p => ('\\' :: p.1, p.2)
  | '\\' :: 'u' :: '0' :: '0' :: a :: b :: r =>
      (readChars r).map fun p => (Char.ofNat (16 * hexValue a + hexValue b) :: p.1, p.2)
  | '\\' :: _ => none
  | c :: r => (readChars r).map fun p => (c :: p.1, p.2)
  | [] => none

def writeString (s : String) : List Char := '"' :: (s.toList.flatMap escapeChar ++ ['"'])

def readString : List Char → Option (String × List Char)
  | '"' :: r => (readChars r).map fun p => (String.ofList p.1, p.2)
  | _ => none

theorem hexValue_hexDigit : ∀ n < 16, hexValue (hexDigit n) = n := by decide

theorem readChars_escapeChar (c : Char) (r : List Char) :
    readChars (escapeChar c ++ r) = (readChars r).map fun p => (c :: p.1, p.2) := by
  unfold escapeChar
  split
  case isTrue h =>
    subst h
    rfl
  case isFalse hquote =>
    split
    case isTrue h =>
      subst h
      rfl
    case isFalse hslash =>
      split
      case isTrue h =>
        have hchar : Char.ofNat (16 * (c.toNat / 16) + c.toNat % 16) = c := by
          rw [Nat.div_add_mod]
          exact Char.ofNat_toNat c
        simp only [List.cons_append, List.nil_append, readChars,
          hexValue_hexDigit (c.toNat / 16) (by omega), hexValue_hexDigit (c.toNat % 16) (by omega),
          hchar]
      case isFalse =>
        simp only [List.cons_append, List.nil_append]
        rw [readChars.eq_def]
        split <;> simp_all

theorem readChars_flatMap (cs r : List Char) :
    readChars (cs.flatMap escapeChar ++ '"' :: r) = some (cs, r) := by
  induction cs with
  | nil => rfl
  | cons c cs ih =>
      rw [List.flatMap_cons, List.append_assoc, readChars_escapeChar, ih]
      rfl

theorem readString_writeString (s : String) (r : List Char) :
    readString (writeString s ++ r) = some (s, r) := by
  have hchars := readChars_flatMap s.toList r
  simp only [writeString, List.cons_append, List.append_assoc, List.nil_append, readString, hchars,
    Option.map_some, String.ofList_toList]

/-! ## 2. Objects -/

section Objects

variable {α : Type} (writeValue : α → List Char) (readValue : List Char → Option (α × List Char))

def writeMember (e : Σ _ : String, α) : List Char :=
  writeString e.1 ++ (':' :: ' ' :: writeValue e.2)

def readMember (cs : List Char) : Option ((Σ _ : String, α) × List Char) :=
  match readString cs with
  | some (k, ':' :: ' ' :: r) => (readValue r).map fun p => (⟨k, p.1⟩, p.2)
  | _ => none

/-- The members behind the first one. -/
def writeMembers : List (Σ _ : String, α) → List Char
  | [] => ['}']
  | e :: l => ',' :: ' ' :: (writeMember writeValue e ++ writeMembers l)

def writeObject : List (Σ _ : String, α) → List Char
  | [] => ['{', '}']
  | e :: l => '{' :: (writeMember writeValue e ++ writeMembers writeValue l)

def readMembers : Nat → List Char → Option (List (Σ _ : String, α) × List Char)
  | _, '}' :: r => some ([], r)
  | n + 1, ',' :: ' ' :: r =>
      (readMember readValue r).bind fun p =>
        (readMembers n p.2).map fun q => (p.1 :: q.1, q.2)
  | _, _ => none

def readObject : List Char → Option (List (Σ _ : String, α) × List Char)
  | '{' :: '}' :: r => some ([], r)
  | '{' :: r =>
      (readMember readValue r).bind fun p =>
        (readMembers readValue r.length p.2).map fun q => (p.1 :: q.1, q.2)
  | _ => none

variable {writeValue readValue}

theorem length_writeMembers (l : List (Σ _ : String, α)) :
    l.length ≤ (writeMembers writeValue l).length := by
  induction l with
  | nil => exact Nat.zero_le _
  | cons e l ih =>
      simp only [writeMembers, List.length_cons, List.length_append]
      omega

variable (h : ∀ x r, readValue (writeValue x ++ r) = some (x, r))

include h

theorem readMember_writeMember (e : Σ _ : String, α) (r : List Char) :
    readMember readValue (writeMember writeValue e ++ r) = some (e, r) := by
  simp only [writeMember, List.append_assoc, readMember, readString_writeString, List.cons_append,
    h, Option.map_some]

theorem readMembers_writeMembers (l : List (Σ _ : String, α)) (r : List Char) {n : Nat}
    (hn : l.length ≤ n) :
    readMembers readValue n (writeMembers writeValue l ++ r) = some (l, r) := by
  induction l generalizing n with
  | nil => cases n <;> rfl
  | cons e l ih =>
      cases n with
      | zero => cases hn
      | succ n =>
          simp only [writeMembers, List.cons_append, List.append_assoc, readMembers,
            readMember_writeMember h, Option.bind_some, ih (Nat.le_of_succ_le_succ hn),
            Option.map_some]

theorem readObject_writeObject (l : List (Σ _ : String, α)) (r : List Char) :
    readObject readValue (writeObject writeValue l ++ r) = some (l, r) := by
  cases l with
  | nil => rfl
  | cons e l =>
      have hfuel : l.length ≤
          (writeMember writeValue e ++ (writeMembers writeValue l ++ r)).length := by
        have hlength := @length_writeMembers α writeValue l
        simp only [List.length_append]
        omega
      -- a member begins with a quote
      have hobject : readObject readValue
          ('{' :: (writeMember writeValue e ++ (writeMembers writeValue l ++ r))) =
          (readMember readValue (writeMember writeValue e ++ (writeMembers writeValue l ++ r))).bind
            fun p => (readMembers readValue
              (writeMember writeValue e ++ (writeMembers writeValue l ++ r)).length p.2).map
                fun q => (p.1 :: q.1, q.2) := rfl
      rw [writeObject, List.cons_append, List.append_assoc, hobject, readMember_writeMember h,
        Option.bind_some, readMembers_writeMembers h l r hfuel]
      rfl

end Objects

/-! ## 3. Documents -/

instance decidableNodupKeys {α : Type} (l : List (Σ _ : String, α)) : Decidable l.NodupKeys :=
  inferInstanceAs (Decidable l.keys.Nodup)

def writeValue : Value → List Char
  | .str s => writeString s
  | .obj m => writeObject writeString m.entries

def readValue : List Char → Option (Value × List Char)
  | '{' :: r => (readObject readString ('{' :: r)).bind fun p =>
      if h : p.1.NodupKeys then some (.obj ⟨p.1, h⟩, p.2) else none
  | cs => (readString cs).map fun p => (.str p.1, p.2)

def write (d : Document) : String := String.ofList (writeObject writeValue d.entries)

/-- The document of a text; one with a member twice is refused. -/
def read (s : String) : Option Document :=
  match readObject readValue s.toList with
  | some (l, []) => if h : l.NodupKeys then some ⟨l, h⟩ else none
  | _ => none

theorem readValue_writeValue (v : Value) (r : List Char) :
    readValue (writeValue v ++ r) = some (v, r) := by
  cases v with
  | str s =>
      have hstring := readString_writeString s r
      show (readString (writeString s ++ r)).map (fun p => (Value.str p.1, p.2)) = _
      rw [hstring]
      rfl
  | obj m =>
      have hobject := readObject_writeObject readString_writeString m.entries r
      have hbrace : ∃ cs, writeObject writeString m.entries ++ r = '{' :: cs := by
        cases m.entries with
        | nil => exact ⟨_, rfl⟩
        | cons e l => exact ⟨_, rfl⟩
      obtain ⟨cs, hcs⟩ := hbrace
      show readValue (writeObject writeString m.entries ++ r) = _
      rw [hcs] at hobject ⊢
      show (readObject readString ('{' :: cs)).bind _ = _
      rw [hobject, Option.bind_some, dif_pos m.nodupKeys]

/-- **A document that was written is read back.** -/
theorem read_write (d : Document) : read (write d) = some d := by
  have hobject := readObject_writeObject readValue_writeValue d.entries []
  rw [List.append_nil] at hobject
  rw [read, write, String.toList_ofList, hobject]
  exact dif_pos d.nodupKeys

/-! ## 4. No NUL -/

theorem escapeChar_noNul (c : Char) : '\x00' ∉ escapeChar c := by
  unfold escapeChar
  split
  case isTrue => decide
  case isFalse =>
    split
    case isTrue => decide
    case isFalse =>
      have hhex : ∀ n < 16, hexDigit n ≠ '\x00' := by decide
      split
      case isTrue h =>
        have h₁ := (hhex (c.toNat / 16) (by omega)).symm
        have h₂ := (hhex (c.toNat % 16) (by omega)).symm
        simp [h₁, h₂]
      case isFalse h =>
        rw [List.mem_singleton]
        rintro rfl
        exact h (by decide)

theorem writeString_noNul (s : String) : '\x00' ∉ writeString s := by
  intro h
  rcases List.mem_cons.mp h with h | h
  · cases h
  · rcases List.mem_append.mp h with h | h
    · obtain ⟨c, _, hc⟩ := List.mem_flatMap.mp h
      exact escapeChar_noNul c hc
    · cases List.mem_singleton.mp h

section NoNul

variable {α : Type} {w : α → List Char} (hw : ∀ x, '\x00' ∉ w x)

include hw

theorem writeMember_noNul (e : Σ _ : String, α) : '\x00' ∉ writeMember w e := by
  intro h
  rcases List.mem_append.mp h with h | h
  · exact writeString_noNul _ h
  · simp [hw] at h

theorem writeMembers_noNul (l : List (Σ _ : String, α)) : '\x00' ∉ writeMembers w l := by
  induction l with
  | nil => simp [writeMembers]
  | cons e l ih => simp [writeMembers, writeMember_noNul hw, ih]

theorem writeObject_noNul (l : List (Σ _ : String, α)) : '\x00' ∉ writeObject w l := by
  cases l with
  | nil => simp [writeObject]
  | cons e l => simp [writeObject, writeMember_noNul hw, writeMembers_noNul hw]

end NoNul

theorem writeValue_noNul (v : Value) : '\x00' ∉ writeValue v := by
  cases v with
  | str s => exact writeString_noNul s
  | obj m => exact writeObject_noNul writeString_noNul _

theorem write_noNul (d : Document) : '\x00' ∉ (write d).toList := by
  rw [write, String.toList_ofList]
  exact writeObject_noNul writeValue_noNul _

end DovecotCeph.Lib.Json
