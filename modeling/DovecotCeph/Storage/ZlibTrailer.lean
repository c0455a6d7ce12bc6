/-
  File:      DovecotCeph/Storage/ZlibTrailer.lean
  Subject:   The check of compressed mails in `rbox_mail_get_stream` (rbox-mail.cpp): the length in
             the gzip trailer against the physical size of the mail, and the byte that is appended
             where the trailer has lost its last one.

  Every function gives `none` where it reads outside of the buffer.
  * `zlibCheck`: `check_is_zlib`, `zlib_trailer_msg_length` and `zlib_header_length` in turn;
  * `zlibTrailerMsgLength_last`: the length is the little-endian number of the last four bytes;
  * **`gzip_stream_complete`**: a gzip mail is handed out as it was stored, also without its last
    byte;
  * **`zlibCheck_inside_iff`**: for which objects no byte outside is read.
-/
import DovecotCeph.Storage.SaveWrite
import DovecotCeph.Librmb.LsCmdParser
import Mathlib.Data.Nat.Digits.Defs

namespace DovecotCeph

open Rmb (stol)

/-! ## 1. The probes -/

/-- `c_str()[i]`. -/
def byteAt (data : Bytes) (i : Int) : Option UInt8 := if 0 ≤ i then data[i.toNat]? else none

/-- `check_is_zlib`. -/
def checkIsZlib (mailBuffer : Bytes) : Option Bool := do
  let magic1 ← byteAt mailBuffer 0
  let magic2 ← byteAt mailBuffer 1
  return magic1 == 0x1f && magic2 == 0x8b

/-- `zlib_trailer_msg_length`. -/
def zlibTrailerMsgLength (mailBuffer : Bytes) (physicalSize : Int) : Option UInt32 := do
  let size0 ← byteAt mailBuffer (physicalSize - 1)
  let size1 ← byteAt mailBuffer (physicalSize - 2)
  let size2 ← byteAt mailBuffer (physicalSize - 3)
  let size3 ← byteAt mailBuffer (physicalSize - 4)
  return size0.toUInt32 <<< 24 ||| size1.toUInt32 <<< 16 ||| size2.toUInt32 <<< 8 |||
    size3.toUInt32

/-- The loop of `header_dynamic_size` at index `i`, with the bytes from there on; `i` is an
    `int`. -/
def dynamicSizeLoop : Bytes → Nat → Option Nat
  | [], _ => none
  | b :: data, i =>
    if 2 ^ 31 ≤ i then none else if b ≠ 0 then dynamicSizeLoop data (i + 1) else some i

/-- `header_dynamic_size`. -/
def headerDynamicSize (data : Bytes) : Option Nat := dynamicSizeLoop (data.drop 10) 10

/-- `header_extra_size`. -/
def headerExtraSize (data : Bytes) : Option Nat := do
  let low ← byteAt data 10
  let high ← byteAt data 11
  return 10 + 2 + (low.toNat + high.toNat)

/-- `zlib_header_length`. -/
def zlibHeaderLength (mailBuffer : Bytes) : Option Nat := do
  let flg ← byteAt mailBuffer 3
  if flg = 0x01 then return 10
  else if flg = 0x02 then return 10 + 2
  else if flg = 0x04 then headerExtraSize mailBuffer
  else if flg = 0x08 then headerDynamicSize mailBuffer
  else if flg = 0x10 then headerDynamicSize mailBuffer
  else return 11

/-- The probes of `rbox_mail_get_stream`: for a gzip mail the length in its trailer and the length
    of its header. -/
def zlibCheck (mailBuffer : Bytes) (physicalSize : Int) : Option (Option (UInt32 × Nat)) := do
  if ← checkIsZlib mailBuffer then
    let result ← zlibTrailerMsgLength mailBuffer physicalSize
    let header ← zlibHeaderLength mailBuffer
    return some (result, header)
  else return none

/-! ## 2. Reading a mail -/

/-- Where `rbox_mail_get_physical_size` finds the size: the index, the attribute `Z`. Where it
    fails, the caller's variable keeps the value it happens to have. -/
structure SizeSources where
  index : Option UInt64 := none
  zAttribute : Option String := none
  unset : UInt64 := 0

/-- `rbox_mail_get_physical_size`. -/
def rboxMailGetPhysicalSize (m : SizeSources) : Option UInt64 :=
  match m.index with
  | some size => some size
  | none => (m.zAttribute.bind stol).map UInt64.ofInt

/-- What `rbox_mail_get_stream` ends with: an empty mail is marked as expunged. -/
inductive MailStream where
  | expunged
  | error
  | stream (bytes : Bytes)
  deriving DecidableEq, Repr

/-- `get_mail_stream`: a stream on the first bytes of the buffer. -/
def getMailStream (buffer : Bytes) (physicalSize : Int) : Option MailStream :=
  if 0 ≤ physicalSize ∧ physicalSize ≤ buffer.length then
    some (.stream (buffer.take physicalSize.toNat))
  else none

/-- `rbox_mail_get_stream` behind the read of the object, of which the buffer gets at most `INT_MAX`
    bytes. -/
def rboxMailGetStream (object : Bytes) (m : SizeSources) : Option MailStream :=
  let mailBuffer := object.take intMax
  let physicalSize := toInt32 object.length
  if physicalSize = 0 then some .expunged
  else if physicalSize = intMax then some .error
  else
    (zlibCheck mailBuffer physicalSize).bind fun
      | none => getMailStream mailBuffer physicalSize
      | some (result, header) =>
        let real := (rboxMailGetPhysicalSize m).getD m.unset
        if UInt64.ofNat header < result.toUInt64 - real then
          getMailStream (mailBuffer ++ [0x00]) (physicalSize + 1)
        else getMailStream mailBuffer physicalSize

/-! ## 3. The trailer -/

section Bytes

variable {data : Bytes}

theorem byteAt_nat (data : Bytes) (i : Nat) : byteAt data i = data[i]? := by
  unfold byteAt
  rw [if_pos (Int.natCast_nonneg i), Int.toNat_natCast]

/-- Only bytes of the buffer are read. -/
theorem byteAt_isSome {i : Int} : (byteAt data i).isSome = true ↔ 0 ≤ i ∧ i < data.length := by
  unfold byteAt
  split
  case isTrue h =>
    rw [isSome_getElem?]
    omega
  case isFalse h => simp [h]

/-- A byte behind the first ones. -/
theorem byteAt_append (init rest : Bytes) {i : Int} {k : Nat} (hi : i = init.length + k) :
    byteAt (init ++ rest) i = rest[k]? := by
  have hcast : i = ((init.length + k : Nat) : Int) := by omega
  rw [hcast, byteAt_nat, List.getElem?_append_right (Nat.le_add_right _ _), Nat.add_sub_cancel_left]

/-- The number of four bytes, the lowest first. -/
theorem shifted_toNat (a b c d : UInt8) :
    (d.toUInt32 <<< 24 ||| c.toUInt32 <<< 16 ||| b.toUInt32 <<< 8 ||| a.toUInt32).toNat =
      Nat.ofDigits 256 [a.toNat, b.toNat, c.toNat, d.toNat] := by
  have ha := a.toNat_lt
  have hb := b.toNat_lt
  have hc := c.toNat_lt
  have hd := d.toNat_lt
  have h24 : (d.toUInt32 <<< 24).toNat = d.toNat <<< 24 := by
    simp [Nat.shiftLeft_eq]
    omega
  have h16 : (c.toUInt32 <<< 16).toNat = c.toNat <<< 16 := by
    simp [Nat.shiftLeft_eq]
    omega
  have h8 : (b.toUInt32 <<< 8).toNat = b.toNat <<< 8 := by
    simp [Nat.shiftLeft_eq]
    omega
  rw [UInt32.toNat_or, UInt32.toNat_or, UInt32.toNat_or, h24, h16, h8, UInt8.toNat_toUInt32,
    Nat.or_assoc, Nat.or_assoc]
  -- the bytes do not overlap
  rw [← Nat.shiftLeft_add_eq_or_of_lt (i := 8) (by omega) b.toNat]
  have hlow : b.toNat <<< 8 + a.toNat < 2 ^ 16 := by
    rw [Nat.shiftLeft_eq]
    omega
  rw [← Nat.shiftLeft_add_eq_or_of_lt hlow c.toNat]
  have hmid : c.toNat <<< 16 + (b.toNat <<< 8 + a.toNat) < 2 ^ 24 := by
    rw [Nat.shiftLeft_eq, Nat.shiftLeft_eq]
    omega
  rw [← Nat.shiftLeft_add_eq_or_of_lt hmid d.toNat]
  simp only [Nat.shiftLeft_eq, Nat.ofDigits_cons, Nat.ofDigits_nil]
  omega

/-- **The length in the trailer is the number of the last four bytes.** -/
theorem zlibTrailerMsgLength_last (init : Bytes) (a b c d : UInt8) {physicalSize : Int}
    (hsize : physicalSize = init.length + 4) :
    ∃ r, zlibTrailerMsgLength (init ++ [a, b, c, d]) physicalSize = some r ∧
      r.toNat = Nat.ofDigits 256 [a.toNat, b.toNat, c.toNat, d.toNat] := by
  have h0 : byteAt (init ++ [a, b, c, d]) (physicalSize - 1) = some d :=
    byteAt_append (k := 3) _ _ (by omega)
  have h1 : byteAt (init ++ [a, b, c, d]) (physicalSize - 2) = some c :=
    byteAt_append (k := 2) _ _ (by omega)
  have h2 : byteAt (init ++ [a, b, c, d]) (physicalSize - 3) = some b :=
    byteAt_append (k := 1) _ _ (by omega)
  have h3 : byteAt (init ++ [a, b, c, d]) (physicalSize - 4) = some a :=
    byteAt_append (k := 0) _ _ (by omega)
  unfold zlibTrailerMsgLength
  rw [h0, h1, h2, h3]
  exact ⟨_, rfl, shifted_toNat a b c d⟩

end Bytes

/-! ## 4. Gzip mails -/

/-- A gzip object without optional header fields, of at least a header and a trailer, whose last
    four bytes are the length `isize`. -/
structure Gzip (object : Bytes) (isize : Nat) : Prop where
  magic1 : object[0]? = some 0x1f
  magic2 : object[1]? = some 0x8b
  flg : object[3]? = some 0
  length : 18 ≤ object.length
  trailer : Nat.ofDigits 256 ((object.drop (object.length - 4)).map UInt8.toNat) = isize

section Repair

variable {object : Bytes} {m : SizeSources} {size : UInt64}

/-- A gzip object is a header and the rest of the data, the last byte of the checksum, and the four
    bytes of the length. -/
theorem Gzip.split (h : Gzip object size.toNat) :
    ∃ init crc a b c d, object = init ++ [crc, a, b, c, d] ∧ 13 ≤ init.length ∧
      Nat.ofDigits 256 [a.toNat, b.toNat, c.toNat, d.toNat] = size.toNat := by
  have hlen : (object.drop (object.length - 5)).length = 5 := by
    have := h.length
    rw [List.length_drop]
    omega
  obtain ⟨crc, rest, hrest⟩ := List.exists_cons_of_length_eq_add_one hlen
  rw [hrest] at hlen
  obtain ⟨a, rest, rfl⟩ := List.exists_cons_of_length_eq_add_one (Nat.succ.inj hlen)
  have hrest3 : rest.length = 3 := by simpa using hlen
  obtain ⟨b, c, d, rfl⟩ := List.length_eq_three.mp hrest3
  have hsplit : object = object.take (object.length - 5) ++ [crc, a, b, c, d] := by
    rw [← hrest, List.take_append_drop]
  refine ⟨object.take (object.length - 5), crc, a, b, c, d, hsplit, ?_, ?_⟩
  · have := h.length
    rw [List.length_take]
    omega
  · have htrailer := h.trailer
    have hdrop : object.drop (object.length - 4) = [a, b, c, d] := by
      have hsucc : object.length - 4 = object.length - 5 + 1 := by
        have := h.length
        omega
      rw [hsucc, ← List.drop_drop, hrest]
      rfl
    rw [hdrop] at htrailer
    exact htrailer

/-- The probes of a gzip mail. -/
theorem zlibCheck_gzip {buffer : Bytes} (h : checkIsZlib buffer = some true) (physicalSize : Int) :
    zlibCheck buffer physicalSize = (zlibTrailerMsgLength buffer physicalSize).bind fun result =>
      (zlibHeaderLength buffer).bind fun header => some (some (result, header)) := by
  unfold zlibCheck
  rw [h]
  rfl

/-- The probes of a buffer that starts like a gzip object without optional fields. -/
theorem zlibCheck_plain {buffer : Bytes} {physicalSize : Int} {result : UInt32}
    (h0 : buffer[0]? = some 0x1f) (h1 : buffer[1]? = some 0x8b) (h3 : buffer[3]? = some 0)
    (hresult : zlibTrailerMsgLength buffer physicalSize = some result) :
    zlibCheck buffer physicalSize = some (some (result, 11)) := by
  have hb0 : byteAt buffer 0 = some 0x1f := (byteAt_nat buffer 0).trans h0
  have hb1 : byteAt buffer 1 = some 0x8b := (byteAt_nat buffer 1).trans h1
  have hb3 : byteAt buffer 3 = some 0 := (byteAt_nat buffer 3).trans h3
  have hzlib : checkIsZlib buffer = some true := by
    unfold checkIsZlib
    rw [hb0, hb1]
    rfl
  have hheader : zlibHeaderLength buffer = some 11 := by
    unfold zlibHeaderLength
    rw [hb3]
    rfl
  rw [zlibCheck_gzip hzlib, hresult, hheader]
  rfl

/-- The read path of a gzip object in the buffer: it depends on the length in the trailer. -/
theorem rboxMailGetStream_plain {result : UInt32} (hlt : object.length < intMax)
    (h0 : object[0]? = some 0x1f) (h1 : object[1]? = some 0x8b) (h3 : object[3]? = some 0)
    (hresult : zlibTrailerMsgLength object object.length = some result)
    (hstored : rboxMailGetPhysicalSize m = some size) :
    rboxMailGetStream object m =
      some (.stream (if 11 < result.toUInt64 - size then object ++ [0x00] else object)) := by
  have htake : object.take intMax = object := List.take_of_length_le (Nat.le_of_lt hlt)
  have hint : toInt32 object.length = object.length := toInt32_of_lt (Nat.lt_succ_of_lt hlt)
  have hpos : ¬ (object.length : Int) = 0 := by
    intro hzero
    have hnil : object = [] := List.length_eq_zero_iff.mp (by omega)
    rw [hnil] at h0
    cases h0
  have hmax : ¬ (object.length : Int) = intMax := by omega
  unfold rboxMailGetStream
  dsimp only
  rw [htake, hint, if_neg hpos, if_neg hmax, zlibCheck_plain h0 h1 h3 hresult, hstored,
    Option.bind_some]
  dsimp only [Option.getD_some]
  split
  case isTrue hcorrupt =>
    have hcorrupt' : 11 < result.toUInt64 - size := hcorrupt
    rw [if_pos hcorrupt']
    unfold getMailStream
    have hfits : (0 : Int) ≤ object.length + 1 ∧
        (object.length + 1 : Int) ≤ (object ++ [0x00]).length := by
      rw [List.length_append, List.length_singleton]
      omega
    have hall : ((object.length : Int) + 1).toNat = (object ++ [0x00]).length := by
      rw [List.length_append, List.length_singleton]
      omega
    rw [if_pos hfits, hall, List.take_length]
  case isFalse hintact =>
    have hintact' : ¬ 11 < result.toUInt64 - size := hintact
    rw [if_neg hintact']
    unfold getMailStream
    rw [if_pos ⟨Int.natCast_nonneg _, le_refl _⟩, Int.toNat_natCast, List.take_length]

/-- The length in the trailer of an intact object. -/
theorem intact_not_corrupt {result : UInt32} (h : result.toNat = size.toNat) :
    ¬ 11 < result.toUInt64 - size := by
  have heq : result.toUInt64 = size := UInt64.toNat_inj.mp h
  rw [heq, UInt64.sub_self]
  decide

/-- The length read where the last byte is missing: one byte too early, it is far too large. -/
theorem truncated_corrupt {result : UInt32} {crc : Nat} (hpos : 0 < size.toNat)
    (h : result.toNat = crc + 256 * size.toNat) : 11 < result.toUInt64 - size := by
  have hle : size ≤ result.toUInt64 := by
    rw [UInt64.le_iff_toNat_le, UInt32.toNat_toUInt64]
    omega
  rw [UInt64.lt_iff_toNat_lt, UInt64.toNat_sub_of_le _ _ hle, UInt32.toNat_toUInt64]
  show 11 < _
  omega

/-- An intact object is handed out as it is. -/
theorem stream_intact (h : Gzip object size.toNat)
    (hstored : rboxMailGetPhysicalSize m = some size) (hlt : object.length < intMax) :
    rboxMailGetStream object m = some (.stream object) := by
  obtain ⟨init, crc, a, b, c, d, rfl, _, hdigits⟩ := h.split
  have hlast : init ++ [crc, a, b, c, d] = (init ++ [crc]) ++ [a, b, c, d] := by simp
  have hlength : ((init ++ [crc, a, b, c, d]).length : Int) = (init ++ [crc]).length + 4 := by
    rw [hlast, List.length_append]
    rfl
  obtain ⟨r, hr, hval⟩ := zlibTrailerMsgLength_last (init ++ [crc]) a b c d hlength
  rw [← hlast] at hr
  rw [rboxMailGetStream_plain hlt h.magic1 h.magic2 h.flg hr hstored,
    if_neg (intact_not_corrupt (hval.trans hdigits))]

/-- An object without its last byte, which was zero, gets it back. -/
theorem stream_truncated (h : Gzip object size.toNat) (hpos : 0 < size.toNat)
    (hsize : size.toNat < 2 ^ 24) (hstored : rboxMailGetPhysicalSize m = some size)
    (hlt : object.dropLast.length < intMax) :
    rboxMailGetStream object.dropLast m = some (.stream object) := by
  obtain ⟨init, crc, a, b, c, d, rfl, hinit, hdigits⟩ := h.split
  have hget : ∀ i < 4, ∀ rest : Bytes, (init ++ rest)[i]? = (init ++ [crc, a, b, c, d])[i]? := by
    intro i hi rest
    rw [List.getElem?_append_left (by omega), List.getElem?_append_left (by omega)]
  have hdrop : (init ++ [crc, a, b, c, d]).dropLast = init ++ [crc, a, b, c] :=
    List.dropLast_append_of_ne_nil (by simp)
  rw [hdrop] at hlt ⊢
  have hzero : d.toNat = 0 := by
    rw [← hdigits] at hsize
    simp only [Nat.ofDigits_cons, Nat.ofDigits_nil] at hsize
    omega
  have hlength : ((init ++ [crc, a, b, c]).length : Int) = init.length + 4 := by
    rw [List.length_append]
    rfl
  obtain ⟨r, hr, hval⟩ := zlibTrailerMsgLength_last init crc a b c hlength
  have hval' : r.toNat = crc.toNat + 256 * size.toNat := by
    rw [hval, ← hdigits]
    simp only [Nat.ofDigits_cons, Nat.ofDigits_nil, hzero]
  have hd : d = 0x00 := UInt8.toNat_inj.mp hzero
  rw [rboxMailGetStream_plain hlt ((hget 0 (by omega) _).trans h.magic1)
    ((hget 1 (by omega) _).trans h.magic2) ((hget 3 (by omega) _).trans h.flg) hr hstored,
    if_pos (truncated_corrupt hpos hval'), hd, List.append_assoc]
  rfl

/-- **A gzip mail is handed out complete**: as it is stored, and also where its last byte, which is
    zero below 2^24, is missing. -/
theorem gzip_stream_complete (h : Gzip object size.toNat) (hpos : 0 < size.toNat)
    (hsize : size.toNat < 2 ^ 24) (hstored : rboxMailGetPhysicalSize m = some size) :
    (object.length < intMax → rboxMailGetStream object m = some (.stream object)) ∧
      (object.dropLast.length < intMax →
        rboxMailGetStream object.dropLast m = some (.stream object)) :=
  ⟨stream_intact h hstored, stream_truncated h hpos hsize hstored⟩

end Repair

section Size

/-- A text that is an `int` is a `long`. -/
theorem stol_of_stoi {s : String} {v : Int} (h : stoi s = some v) : stol s = some v := by
  unfold stoi at h
  unfold Rmb.stol
  dsimp only at h ⊢
  generalize (if (readSign (s.toList.dropWhile isspace)).1 = true then (_ : Int) else _) = value
    at h ⊢
  split at h
  case isTrue => cases h
  case isFalse hdigits =>
    rw [if_neg hdigits]
    split at h
    case isTrue => cases h
    case isFalse hrange =>
      rw [if_neg (by unfold intMax at hrange; omega)]
      exact h

/-- The size in the attribute, where the index does not know it. -/
theorem rboxMailGetPhysicalSize_attribute {n : Nat} (hn : n ≤ intMax) (unset : UInt64) :
    rboxMailGetPhysicalSize ⟨none, some (toString n), unset⟩ = some (UInt64.ofNat n) := by
  have hstol : stol (toString n) = some (n : Int) :=
    stol_of_stoi ((stoi_toString n).trans (if_pos hn))
  have hcast : ((n : Int) % 2 ^ 64).toNat = n := by
    unfold intMax at hn
    omega
  show ((some (toString n)).bind stol).map UInt64.ofInt = _
  rw [Option.bind_some, hstol, Option.map_some, UInt64.ofInt, hcast]

end Size

/-- A gzip object for a mail of 300 bytes. -/
def gzip300 : Bytes := [0x1f, 0x8b, 8, 0, 0, 0, 0, 0, 0, 3, 75, 4, 0, 7, 44, 1, 0, 0]

theorem gzip300_complete :
    rboxMailGetStream gzip300 ⟨none, some (toString 300), 0⟩ = some (.stream gzip300) ∧
      rboxMailGetStream gzip300.dropLast ⟨none, some (toString 300), 0⟩ =
        some (.stream gzip300) := by
  have h := @gzip_stream_complete gzip300 _ 300 ⟨rfl, rfl, rfl, by decide, by decide⟩ (by decide)
    (by decide) (rboxMailGetPhysicalSize_attribute (n := 300) (by decide) 0)
  exact ⟨h.1 (by decide), h.2 (by decide)⟩

/-- An object of `INT_MAX` bytes is refused. -/
theorem gzip_intMax_refused :
    ∃ object, Gzip object 300 ∧
      rboxMailGetStream object ⟨some 300, none, 0⟩ ≠ some (.stream object) := by
  obtain ⟨rest, hrest⟩ : ∃ rest : Bytes, rest.length = intMax - 8 :=
    ⟨List.replicate (intMax - 8) 0, List.length_replicate⟩
  have hlen : ([0x1f, 0x8b, 8, 0] ++ rest ++ [44, 1, 0, 0] : Bytes).length = intMax := by
    rw [List.length_append, List.length_append, hrest]
    decide
  refine ⟨[0x1f, 0x8b, 8, 0] ++ rest ++ [44, 1, 0, 0], ⟨rfl, rfl, rfl, ?_, ?_⟩, ?_⟩
  · rw [hlen]
    decide
  · have hdrop : ([0x1f, 0x8b, 8, 0] ++ rest ++ [44, 1, 0, 0] : Bytes).length - 4 =
        ([0x1f, 0x8b, 8, 0] ++ rest : Bytes).length := by
      rw [List.length_append]
      rfl
    rw [hdrop, List.drop_left]
    decide
  · have hint : toInt32 intMax = intMax := toInt32_of_lt (by decide)
    unfold rboxMailGetStream
    dsimp only
    rw [hlen, hint, if_neg (by decide), if_pos rfl]
    intro h
    cases h

/-! ## 5. Reads outside of the buffer -/

/-- The magic bytes. -/
def IsGzip (data : Bytes) : Prop := data[0]? = some 0x1f ∧ data[1]? = some 0x8b

/-- The objects that have every byte the probes read: two for the magic; for a gzip object four at
    the end, counted from the length as an `int`, the length of an extra field if there is one, and
    a zero behind the header if there is a name or a comment. -/
def HasProbedBytes (data : Bytes) : Prop :=
  2 ≤ data.length ∧
    (IsGzip data → 4 ≤ toInt32 data.length ∧
      (data[3]? = some 0x04 → 12 ≤ data.length) ∧
      (data[3]? = some 0x08 ∨ data[3]? = some 0x10 →
        ∃ i, 10 ≤ i ∧ i < 2 ^ 31 ∧ data[i]? = some 0))

section Inside

variable {data : Bytes}

theorem byteAt_some {i : Int} (h0 : 0 ≤ i) (h : i < data.length) : ∃ b, byteAt data i = some b :=
  Option.isSome_iff_exists.mp (byteAt_isSome.mpr ⟨h0, h⟩)

/-- What was read is inside. -/
theorem byteAt_inside {i : Int} {b : UInt8} (h : byteAt data i = some b) :
    0 ≤ i ∧ i < data.length :=
  byteAt_isSome.mp (Option.isSome_iff_exists.mpr ⟨b, h⟩)

theorem toInt32_le (n : Nat) : toInt32 n ≤ n := by
  have hmod := Int.bmod_def n (2 ^ 32)
  unfold toInt32
  split at hmod <;> omega

theorem zlibTrailerMsgLength_isSome {physicalSize : Int} (h : physicalSize ≤ data.length) :
    (zlibTrailerMsgLength data physicalSize).isSome = true ↔ 4 ≤ physicalSize := by
  constructor
  · intro hsome
    obtain ⟨r, hr⟩ := Option.isSome_iff_exists.mp hsome
    obtain ⟨_, _, hr⟩ := Option.bind_eq_some_iff.mp hr
    obtain ⟨_, _, hr⟩ := Option.bind_eq_some_iff.mp hr
    obtain ⟨_, _, hr⟩ := Option.bind_eq_some_iff.mp hr
    obtain ⟨_, hlast, _⟩ := Option.bind_eq_some_iff.mp hr
    have hinside := byteAt_inside hlast
    omega
  · intro hfour
    obtain ⟨_, h0⟩ := @byteAt_some data (physicalSize - 1) (by omega) (by omega)
    obtain ⟨_, h1⟩ := @byteAt_some data (physicalSize - 2) (by omega) (by omega)
    obtain ⟨_, h2⟩ := @byteAt_some data (physicalSize - 3) (by omega) (by omega)
    obtain ⟨_, h3⟩ := @byteAt_some data (physicalSize - 4) (by omega) (by omega)
    rw [zlibTrailerMsgLength, h0, h1, h2, h3]
    rfl

/-- The loop ends if there is a zero at an index that is an `int`. -/
theorem dynamicSizeLoop_isSome (i : Nat) :
    (dynamicSizeLoop data i).isSome = true ↔
      ∃ k, i + k < 2 ^ 31 ∧ data[k]? = some 0 := by
  induction data generalizing i with
  | nil => simp [dynamicSizeLoop]
  | cons b data ih =>
      rw [dynamicSizeLoop]
      by_cases hint : 2 ^ 31 ≤ i
      · rw [if_pos hint]
        refine iff_of_false nofun fun h => ?_
        obtain ⟨k, hk, _⟩ := h
        omega
      · rw [if_neg hint]
        by_cases hb : b = 0
        · rw [if_neg (not_not.mpr hb)]
          exact iff_of_true rfl ⟨0, by omega, by rw [hb]; rfl⟩
        · rw [if_pos hb, ih]
          constructor
          · intro h
            obtain ⟨k, hk, hzero⟩ := h
            exact ⟨k + 1, by omega, hzero⟩
          · intro h
            obtain ⟨k, hk, hzero⟩ := h
            cases k with
            | zero => exact absurd (Option.some.inj hzero) hb
            | succ k => exact ⟨k, by omega, hzero⟩

theorem headerDynamicSize_isSome :
    (headerDynamicSize data).isSome = true ↔ ∃ i, 10 ≤ i ∧ i < 2 ^ 31 ∧ data[i]? = some 0 := by
  rw [headerDynamicSize, dynamicSizeLoop_isSome]
  constructor
  · intro h
    obtain ⟨k, hk, hzero⟩ := h
    rw [List.getElem?_drop] at hzero
    exact ⟨10 + k, by omega, hk, hzero⟩
  · intro h
    obtain ⟨i, hi, hlt, hzero⟩ := h
    refine ⟨i - 10, by omega, ?_⟩
    rw [List.getElem?_drop, Nat.add_sub_cancel' hi]
    exact hzero

theorem headerExtraSize_isSome : (headerExtraSize data).isSome = true ↔ 12 ≤ data.length := by
  constructor
  · intro h
    obtain ⟨r, hr⟩ := Option.isSome_iff_exists.mp h
    obtain ⟨_, _, hr⟩ := Option.bind_eq_some_iff.mp hr
    obtain ⟨_, hhigh, _⟩ := Option.bind_eq_some_iff.mp hr
    have hinside := byteAt_inside hhigh
    omega
  · intro h
    obtain ⟨_, hlow⟩ := @byteAt_some data 10 (by omega) (by omega)
    obtain ⟨_, hhigh⟩ := @byteAt_some data 11 (by omega) (by omega)
    rw [headerExtraSize, hlow, hhigh]
    rfl

/-- The length of the header, for an object of four bytes. -/
theorem zlibHeaderLength_isSome (h : 4 ≤ data.length) :
    (zlibHeaderLength data).isSome = true ↔
      (data[3]? = some 0x04 → 12 ≤ data.length) ∧
      (data[3]? = some 0x08 ∨ data[3]? = some 0x10 →
        ∃ i, 10 ≤ i ∧ i < 2 ^ 31 ∧ data[i]? = some 0) := by
  obtain ⟨flg, hflg⟩ := @byteAt_some data 3 (by omega) (by omega)
  have hget : data[3]? = some flg := (byteAt_nat data 3).symm.trans hflg
  rw [zlibHeaderLength, hflg, hget, ← headerExtraSize_isSome, ← headerDynamicSize_isSome]
  show (if flg = 0x01 then some 10 else if flg = 0x02 then some (10 + 2)
    else if flg = 0x04 then headerExtraSize data else if flg = 0x08 then headerDynamicSize data
    else if flg = 0x10 then headerDynamicSize data else some 11).isSome = true ↔ _
  simp only [Option.some.injEq]
  by_cases h1 : flg = 0x01
  · simp [h1]
  · by_cases h2 : flg = 0x02
    · simp [h2]
    · by_cases h4 : flg = 0x04
      · simp [h4]
      · by_cases h8 : flg = 0x08
        · simp [h8]
        · by_cases h16 : flg = 0x10
          · simp [h16]
          · simp [h1, h2, h4, h8, h16]

/-- **When the probes stay inside of the object.** -/
theorem zlibCheck_inside_iff (data : Bytes) :
    (zlibCheck data (toInt32 data.length)).isSome = true ↔ HasProbedBytes data := by
  have hint := toInt32_le data.length
  by_cases htwo : 2 ≤ data.length
  · obtain ⟨b0, hb0⟩ := @byteAt_some data 0 (by omega) (by omega)
    obtain ⟨b1, hb1⟩ := @byteAt_some data 1 (by omega) (by omega)
    have hget0 : data[0]? = some b0 := (byteAt_nat data 0).symm.trans hb0
    have hget1 : data[1]? = some b1 := (byteAt_nat data 1).symm.trans hb1
    have hzlib : checkIsZlib data = some (b0 == 0x1f && b1 == 0x8b) := by
      rw [checkIsZlib, hb0, hb1]
      rfl
    have hmagic : IsGzip data ↔ (b0 == 0x1f && b1 == 0x8b) = true := by
      simp [IsGzip, hget0, hget1]
    cases hgzip : (b0 == 0x1f && b1 == 0x8b) with
    | false =>
        rw [hgzip] at hmagic hzlib
        rw [zlibCheck, hzlib]
        exact iff_of_true rfl ⟨htwo, fun h => absurd (hmagic.mp h) Bool.false_ne_true⟩
    | true =>
        rw [hgzip] at hmagic hzlib
        have htrailer := zlibTrailerMsgLength_isSome hint
        have hprobed : HasProbedBytes data ↔ 4 ≤ toInt32 data.length ∧
            (zlibHeaderLength data).isSome = true := by
          constructor
          · intro h
            obtain ⟨hfour, hheader⟩ := h.2 (hmagic.mpr rfl)
            exact ⟨hfour, (zlibHeaderLength_isSome (by omega)).mpr hheader⟩
          · intro h
            exact ⟨htwo, fun _ => ⟨h.1, (zlibHeaderLength_isSome (by omega)).mp h.2⟩⟩
        rw [zlibCheck_gzip hzlib, hprobed, ← htrailer]
        cases zlibTrailerMsgLength data (toInt32 data.length) <;> cases zlibHeaderLength data <;>
          simp
  · -- the second byte of the magic is missing
    refine iff_of_false (fun h => ?_) fun h => htwo h.1
    obtain ⟨r, hr⟩ := Option.isSome_iff_exists.mp h
    obtain ⟨_, hzlib, _⟩ := Option.bind_eq_some_iff.mp hr
    obtain ⟨_, _, hzlib⟩ := Option.bind_eq_some_iff.mp hzlib
    obtain ⟨_, hmagic2, _⟩ := Option.bind_eq_some_iff.mp hzlib
    have hinside := byteAt_inside hmagic2
    omega

end Inside

/-- A gzip mail whose name does not end. -/
def gzipOpenName : Bytes := [0x1f, 0x8b, 8, 8, 0, 0, 0, 0, 0, 3, 97, 98, 99, 100]

/-- A mail of one byte has no second one; the scan for the end of the name leaves the object. -/
theorem read_outside :
    zlibCheck [72] (toInt32 ([72] : Bytes).length) = none ∧
      zlibCheck gzipOpenName (toInt32 gzipOpenName.length) = none := by
  have hone : toInt32 ([72] : Bytes).length = 1 := toInt32_of_lt (by decide)
  have hname : toInt32 gzipOpenName.length = 14 := toInt32_of_lt (by decide)
  rw [hone, hname]
  exact ⟨rfl, by decide⟩

end DovecotCeph
