/-
  File:      DovecotCeph/Storage/MailboxHeader.lean
  Subject:   The plugin's header in a mailbox's index (rbox-storage.cpp, rbox-storage-struct.h):
             `rbox_read_header`, `rbox_update_header`, the part of a rebuild that touches the header
             (rbox-sync-rebuild.cpp) and `rbox_save_update_header_flags` (rbox-save.cpp).

  * `RboxIndexHeader`: the structure and its bytes; `ofBytes_toBytes`: they determine it;
  * `rboxUpdateHeader_eq`, `readHeader_apply`, `readHeader_saveFlags`, `readHeader_rebuild`: the
    functions on the bytes are functions on the header that can be read.
-/
import DovecotCeph.Storage.ZlibTrailer
import DovecotCeph.Storage.Rebuild

namespace DovecotCeph

open Lib

/-! ## 1. The structure and its bytes -/

/-- `guid_128_t`. -/
structure MailGuid where
  bytes : Bytes
  length_eq : bytes.length = 16
  deriving DecidableEq

/-- All bytes are zero. -/
def MailGuid.zero : MailGuid := ⟨List.replicate 16 0, List.length_replicate⟩

/-- `struct rbox_index_header`. -/
structure RboxIndexHeader where
  rebuildCount : UInt32
  mailboxGuid : MailGuid
  flags : UInt8
  unused : Bytes
  unused_length : unused.length = 3
  deriving DecidableEq

/-- A `uint32_t` in memory. -/
def le32 (n : UInt32) : Bytes :=
  [n.toUInt8, (n >>> 8).toUInt8, (n >>> 16).toUInt8, (n >>> 24).toUInt8]

def ofLe32 (bs : Bytes) : UInt32 := UInt32.ofNat (Nat.ofDigits 256 (bs.map UInt8.toNat))

/-- `mail_index_ext_resize_hdr`: the bytes are cut off or filled with zeros. -/
def resizeHdr (size : Nat) (data : Bytes) : Bytes := (data ++ List.replicate size 0).take size

/-- `mail_index_update_header_ext`. -/
def updateHeaderExt (offset : Nat) (bs : Bytes) (data : Bytes) : Bytes :=
  data.take offset ++ bs ++ data.drop (offset + bs.length)

theorem resizeHdr_length (size : Nat) (data : Bytes) : (resizeHdr size data).length = size := by
  unfold resizeHdr
  rw [List.length_take, List.length_append, List.length_replicate]
  omega

theorem guidField_length (data : Bytes) :
    (((resizeHdr 24 data).drop 4).take 16).length = 16 := by
  rw [List.length_take, List.length_drop, resizeHdr_length]
  rfl

theorem unusedField_length (data : Bytes) : ((resizeHdr 24 data).drop 21).length = 3 := by
  rw [List.length_drop, resizeHdr_length]

namespace RboxIndexHeader

/-- All bytes are zero. -/
def zero : RboxIndexHeader := ⟨0, .zero, 0, [0, 0, 0], rfl⟩

def toBytes (h : RboxIndexHeader) : Bytes :=
  le32 h.rebuildCount ++ (h.mailboxGuid.bytes ++ h.flags :: h.unused)

/-- The structure behind `i_zero` and `memcpy`. -/
def ofBytes (data : Bytes) : RboxIndexHeader where
  rebuildCount := ofLe32 ((resizeHdr 24 data).take 4)
  mailboxGuid := ⟨((resizeHdr 24 data).drop 4).take 16, guidField_length data⟩
  flags := (resizeHdr 24 data).getD 20 0
  unused := (resizeHdr 24 data).drop 21
  unused_length := unusedField_length data

end RboxIndexHeader

section Format

variable {data : Bytes}

theorem ofLe32_le32 (n : UInt32) : ofLe32 (le32 n) = n := by
  have hn := n.toNat_lt
  have h0 : n.toUInt8.toNat = n.toNat % 256 := UInt32.toNat_toUInt8 n
  have hshift : ∀ k : UInt32, k.toNat < 32 →
      (n >>> k).toUInt8.toNat = n.toNat / 2 ^ k.toNat % 256 := by
    intro k hk
    rw [UInt32.toNat_toUInt8, UInt32.toNat_shiftRight, Nat.mod_eq_of_lt hk,
      Nat.shiftRight_eq_div_pow]
  have h8 := hshift 8 (by decide)
  have h16 := hshift 16 (by decide)
  have h24 := hshift 24 (by decide)
  unfold ofLe32 le32
  rw [← UInt32.toNat_inj, UInt32.toNat_ofNat']
  simp only [List.map_cons, List.map_nil, Nat.ofDigits_cons, Nat.ofDigits_nil, h0, h8, h16, h24]
  have e8 : (8 : UInt32).toNat = 8 := rfl
  have e16 : (16 : UInt32).toNat = 16 := rfl
  have e24 : (24 : UInt32).toNat = 24 := rfl
  rw [e8, e16, e24]
  omega

theorem RboxIndexHeader.toBytes_length (h : RboxIndexHeader) : h.toBytes.length = 24 := by
  unfold RboxIndexHeader.toBytes le32
  simp [h.mailboxGuid.length_eq, h.unused_length]

/-- The first bytes of a text that is long enough. -/
theorem resizeHdr_append {size : Nat} {bs : Bytes} (h : bs.length = size) (rest : Bytes) :
    resizeHdr size (bs ++ rest) = bs := by
  unfold resizeHdr
  rw [List.append_assoc, ← h, List.take_left]

theorem resizeHdr_resizeHdr (data : Bytes) :
    resizeHdr 24 (resizeHdr 24 data) = resizeHdr 24 data := by
  have h := resizeHdr_append (resizeHdr_length 24 data) []
  rwa [List.append_nil] at h

/-- A text that is too short is only filled. -/
theorem resizeHdr_of_le {size : Nat} (h : data.length ≤ size) :
    resizeHdr size data = data ++ List.replicate (size - data.length) 0 := by
  unfold resizeHdr
  rw [List.take_append, List.take_of_length_le h, List.take_replicate]
  congr 2
  omega

/-- Filled up to fewer bytes before. -/
theorem resizeHdr_short {size : Nat} (h : data.length ≤ size) (hsize : size ≤ 24) :
    resizeHdr 24 (resizeHdr size data) = resizeHdr 24 data := by
  have hlength : (data ++ List.replicate (size - data.length) (0 : UInt8)).length = size := by
    rw [List.length_append, List.length_replicate]
    omega
  rw [resizeHdr_of_le h, resizeHdr_of_le (hlength.trans_le hsize), hlength,
    resizeHdr_of_le (h.trans hsize), List.append_assoc, ← List.replicate_add]
  congr 2
  omega

/-- **The bytes determine the structure**, also at the beginning of a longer header. -/
theorem RboxIndexHeader.ofBytes_toBytes (h : RboxIndexHeader) (rest : Bytes) :
    ofBytes (h.toBytes ++ rest) = h := by
  have hbytes := resizeHdr_append h.toBytes_length rest
  have hguid := h.mailboxGuid.length_eq
  have h4 : (le32 h.rebuildCount).length = 4 := rfl
  have hdrop : ∀ k, h.toBytes.drop (4 + k) =
      (h.mailboxGuid.bytes ++ h.flags :: h.unused).drop k := by
    intro k
    rw [toBytes, ← List.drop_drop, ← h4, List.drop_left]
  have htail : ∀ k, (h.mailboxGuid.bytes ++ h.flags :: h.unused).drop (16 + k) =
      (h.flags :: h.unused).drop k := by
    intro k
    rw [← List.drop_drop, ← hguid, List.drop_left]
  have hflags : h.toBytes.getD 20 0 = h.flags := by
    have hget : h.toBytes[20]? = some h.flags := by
      have hhead := congrArg List.head? ((hdrop 16).trans (htail 0))
      rw [List.head?_drop] at hhead
      exact hhead
    rw [List.getD_eq_getElem?_getD, hget]
    rfl
  unfold ofBytes
  obtain ⟨count, guid, flags, unused, hunused⟩ := h
  obtain ⟨gbytes, glength⟩ := guid
  simp only [RboxIndexHeader.mk.injEq, MailGuid.mk.injEq, hbytes]
  refine ⟨?_, ?_, hflags, ?_⟩
  · rw [toBytes, ← h4, List.take_left]
    exact ofLe32_le32 count
  · have hd := hdrop 0
    rw [List.drop_zero] at hd
    rw [hd]
    exact hguid ▸ List.take_left
  · exact (hdrop 17).trans (htail 1)

end Format

/-! ## 2. The functions on the header -/

/-- `rbox_read_header`: the header, unless it is too short or its guid is empty. -/
def readHeader (creating : Bool) (data : Bytes) : Option RboxIndexHeader :=
  if data.length < 4 ∧ (creating = false ∨ data.length ≠ 0) then none
  else
    let hdr := RboxIndexHeader.ofBytes data
    if hdr.mailboxGuid = .zero then none else some hdr

/-- The guid that is asked for, if any. -/
def requestedGuid (update : Option MailGuid) : Option MailGuid :=
  update.filter fun g => decide (g ≠ .zero)

/-- What `rbox_update_header` puts into a transaction of the index, and `rbox->mailbox_guid`. -/
structure HeaderChange where
  resize : Bool
  header : Option RboxIndexHeader
  guid : MailGuid

/-- `rbox_update_header` on the header of the view. -/
def rboxUpdateHeader (creating : Bool) (update : Option MailGuid) (generated : MailGuid)
    (data : Bytes) : HeaderChange :=
  let needResize := (readHeader creating data).isNone || decide (data.length < 24)
  let hdr := (readHeader creating data).getD .zero
  let newHdr := match requestedGuid update with
    | some g => { hdr with mailboxGuid := g }
    | none => if hdr.mailboxGuid = .zero then { hdr with mailboxGuid := generated } else hdr
  ⟨needResize, if hdr ≠ newHdr then some newHdr else none, newHdr.mailboxGuid⟩

/-- The transaction is committed. -/
def HeaderChange.apply (c : HeaderChange) (data : Bytes) : Bytes :=
  let data := if c.resize then resizeHdr 24 data else data
  match c.header with
  | some h => updateHeaderExt 0 h.toBytes data
  | none => data

/-- The next `rebuild_count`, which is never zero. -/
def RboxIndexHeader.rebuilt (h : RboxIndexHeader) : RboxIndexHeader :=
  { h with rebuildCount := if h.rebuildCount + 1 = 0 then 1 else h.rebuildCount + 1 }

/-- `rbox_sync_update_header`: the header the index is reset to. -/
def syncUpdateHeader (generated : MailGuid) (data : Bytes) : RboxIndexHeader :=
  let hdr := (readHeader false data).getD .zero
  (if hdr.mailboxGuid = .zero then { hdr with mailboxGuid := generated } else hdr).rebuilt

/-- The flags of a transaction that saved mails with POP3 UIDLs, or with POP3 orders. -/
def pop3Flags (uidls orders : Bool) : UInt8 :=
  (if uidls then 0x01 else 0) ||| if orders then 0x02 else 0

/-- `rbox_save_update_header_flags`; there is no header before the mailbox is created. -/
def saveUpdateHeaderFlags (uidls orders : Bool) (data : Bytes) : Bytes :=
  if data = [] then data
  else
    let oldFlags := if 20 < data.length then data.getD 20 0 else 0
    let data := if 20 < data.length then data else resizeHdr 21 data
    let flags := oldFlags ||| pop3Flags uidls orders
    if flags ≠ oldFlags then updateHeaderExt 20 [flags] data else data

section Functions

variable {data : Bytes} {h : RboxIndexHeader} {generated : MailGuid}

/-- The guid of a header that is too short for one. -/
theorem ofBytes_guid_of_short (hshort : data.length ≤ 4) :
    (RboxIndexHeader.ofBytes data).mailboxGuid = .zero := by
  unfold RboxIndexHeader.ofBytes MailGuid.zero
  simp only [MailGuid.mk.injEq]
  rw [resizeHdr_of_le (by omega), List.drop_append, List.drop_of_length_le hshort, List.nil_append,
    List.drop_replicate, List.take_replicate]
  congr 1
  omega

/-- **What is read**: the structure in the first bytes, unless its guid is empty. -/
theorem readHeader_eq (creating : Bool) (data : Bytes) :
    readHeader creating data =
      if (RboxIndexHeader.ofBytes data).mailboxGuid = .zero then none
      else some (.ofBytes data) := by
  unfold readHeader
  split
  case isTrue hshort => rw [if_pos (ofBytes_guid_of_short (by omega))]
  case isFalse => rfl

theorem readHeader_some {creating : Bool} (hread : readHeader creating data = some h) :
    h = .ofBytes data ∧ h.mailboxGuid ≠ .zero := by
  rw [readHeader_eq] at hread
  split at hread
  case isTrue => cases hread
  case isFalse hguid =>
    obtain rfl := Option.some.inj hread
    exact ⟨rfl, hguid⟩

/-- The structure depends on the first bytes, filled with zeros. -/
theorem ofBytes_congr {data' : Bytes} (heq : resizeHdr 24 data = resizeHdr 24 data') :
    RboxIndexHeader.ofBytes data = .ofBytes data' := by
  unfold RboxIndexHeader.ofBytes
  simp only [heq]

/-- The structure is read from where it was written. -/
theorem readHeader_write (hguid : h.mailboxGuid ≠ .zero) (creating : Bool) (data : Bytes) :
    readHeader creating (updateHeaderExt 0 h.toBytes data) = some h := by
  unfold updateHeaderExt
  rw [List.take_zero, List.nil_append, readHeader_eq, h.ofBytes_toBytes, if_neg hguid]

/-- Writing the flags. -/
theorem ofBytes_setFlags (flags : UInt8) (hlong : 20 < data.length) :
    RboxIndexHeader.ofBytes (updateHeaderExt 20 [flags] data) =
      { RboxIndexHeader.ofBytes data with flags } := by
  have hset : updateHeaderExt 20 [flags] data = data.set 20 flags := by
    rw [List.set_eq_take_append_cons_drop, if_pos hlong]
    exact List.append_assoc ..
  have hresize : resizeHdr 24 (data.set 20 flags) = (resizeHdr 24 data).set 20 flags := by
    unfold resizeHdr
    rw [← List.take_set, List.set_append_left _ _ hlong]
  have hlength := resizeHdr_length 24 data
  rw [hset]
  unfold RboxIndexHeader.ofBytes
  simp only [hresize, RboxIndexHeader.mk.injEq, MailGuid.mk.injEq]
  refine ⟨?_, ?_, ?_, ?_⟩
  · rw [List.take_set_of_le (by decide)]
  · rw [List.drop_set, if_neg (by decide), List.take_set_of_le (by decide)]
  · rw [List.getD_eq_getElem?_getD, List.getElem?_set_self (by omega)]
    rfl
  · rw [List.drop_set_of_lt (by decide)]

/-- The flags in the bytes. -/
theorem ofBytes_flags (data : Bytes) :
    (RboxIndexHeader.ofBytes data).flags = if 20 < data.length then data.getD 20 0 else 0 := by
  unfold RboxIndexHeader.ofBytes resizeHdr
  dsimp only
  rw [List.getD_eq_getElem?_getD, List.getElem?_take, if_pos (by decide)]
  split
  case isTrue hlong => rw [List.getElem?_append_left hlong, ← List.getD_eq_getElem?_getD]
  case isFalse hshort =>
    rw [List.getElem?_append_right (Nat.not_lt.mp hshort), List.getElem?_replicate]
    split
    case isTrue => rfl
    case isFalse => rfl

/-- What `rbox_update_header` makes of the header that can be read, or of none. -/
def updatedHeader (update : Option MailGuid) (generated : MailGuid) :
    Option RboxIndexHeader → RboxIndexHeader
  | some h => { h with mailboxGuid := (requestedGuid update).getD h.mailboxGuid }
  | none => { RboxIndexHeader.zero with mailboxGuid := (requestedGuid update).getD generated }

theorem requestedGuid_some {update : Option MailGuid} {g : MailGuid}
    (hg : requestedGuid update = some g) : g ≠ .zero :=
  of_decide_eq_true (Option.filter_eq_some_iff.mp hg).2

theorem updatedHeader_guid (update : Option MailGuid) (hgenerated : generated ≠ .zero)
    (creating : Bool) (data : Bytes) :
    (updatedHeader update generated (readHeader creating data)).mailboxGuid ≠ .zero := by
  cases hread : readHeader creating data with
  | none =>
      show (requestedGuid update).getD generated ≠ .zero
      cases hreq : requestedGuid update with
      | none => exact hgenerated
      | some g => exact requestedGuid_some hreq
  | some h =>
      show (requestedGuid update).getD h.mailboxGuid ≠ .zero
      cases hreq : requestedGuid update with
      | none => exact (readHeader_some hread).2
      | some g => exact requestedGuid_some hreq

/-- **`rbox_update_header`** gives the header of the view a guid, the one asked for or another one
    if it had none, and writes the whole header if that is new. -/
theorem rboxUpdateHeader_eq (creating : Bool) (update : Option MailGuid)
    (hgenerated : generated ≠ .zero) (data : Bytes) :
    (rboxUpdateHeader creating update generated data).header =
        (if readHeader false data = some (updatedHeader update generated (readHeader false data))
          then none else some (updatedHeader update generated (readHeader false data))) ∧
      (rboxUpdateHeader creating update generated data).guid =
        (updatedHeader update generated (readHeader false data)).mailboxGuid := by
  have hguid := updatedHeader_guid update hgenerated false data
  have hcreating : readHeader creating data = readHeader false data :=
    (readHeader_eq creating data).trans (readHeader_eq false data).symm
  unfold rboxUpdateHeader
  rw [hcreating]
  cases hread : readHeader false data with
  | none =>
      rw [hread] at hguid
      have hnew : (match requestedGuid update with
          | some g => { RboxIndexHeader.zero with mailboxGuid := g }
          | none => if RboxIndexHeader.zero.mailboxGuid = .zero then
              { RboxIndexHeader.zero with mailboxGuid := generated } else .zero) =
            updatedHeader update generated none := by
        unfold updatedHeader
        cases requestedGuid update with
        | none => rfl
        | some g => rfl
      have hne : RboxIndexHeader.zero ≠ updatedHeader update generated none := by
        intro heq
        rw [← heq] at hguid
        exact hguid rfl
      dsimp only [Option.getD_none]
      rw [hnew, if_pos hne, if_neg (Option.some_ne_none _).symm]
      exact ⟨rfl, rfl⟩
  | some h =>
      obtain ⟨_, hguid'⟩ := readHeader_some hread
      have hnew : (match requestedGuid update with
          | some g => { h with mailboxGuid := g }
          | none => if h.mailboxGuid = .zero then { h with mailboxGuid := generated } else h) =
            updatedHeader update generated (some h) := by
        unfold updatedHeader
        cases requestedGuid update with
        | none => exact if_neg hguid'
        | some g => rfl
      dsimp only [Option.getD_some]
      rw [hnew]
      refine ⟨?_, rfl⟩
      by_cases hsame : h = updatedHeader update generated (some h)
      · rw [if_neg (not_not.mpr hsame), if_pos (congrArg some hsame)]
      · rw [if_pos hsame, if_neg fun heq => hsame (Option.some.inj heq)]

/-- **A commit** replaces the header by the one in the transaction, if there is one. -/
theorem readHeader_apply {c : HeaderChange} (hc : ∀ h, c.header = some h → h.mailboxGuid ≠ .zero)
    (data : Bytes) :
    readHeader false (c.apply data) = c.header.or (readHeader false data) := by
  unfold HeaderChange.apply
  cases hheader : c.header with
  | some h => exact readHeader_write (hc h hheader) false _
  | none =>
      dsimp only
      split
      case isTrue =>
        rw [readHeader_eq, ofBytes_congr (resizeHdr_resizeHdr data), ← readHeader_eq false data]
        rfl
      case isFalse => rfl

/-- **`rbox_save_update_header_flags`** adds flags to a header that can be read. -/
theorem readHeader_saveFlags (uidls orders : Bool) (data : Bytes) :
    readHeader false (saveUpdateHeaderFlags uidls orders data) =
      (readHeader false data).map fun h =>
        { h with flags := h.flags ||| pop3Flags uidls orders } := by
  unfold saveUpdateHeaderFlags
  split
  case isTrue hnil =>
    subst hnil
    rfl
  case isFalse hne =>
    dsimp only
    rw [← ofBytes_flags]
    -- the header, filled up to the flags if it was shorter
    obtain ⟨filled, hfilled, hlong, hsame⟩ : ∃ filled,
        (if 20 < data.length then data else resizeHdr 21 data) = filled ∧
          20 < filled.length ∧ RboxIndexHeader.ofBytes filled = .ofBytes data := by
      refine ⟨_, rfl, ?_, ?_⟩
      · split
        case isTrue hlong => exact hlong
        case isFalse =>
          rw [resizeHdr_length]
          decide
      · split
        case isTrue => rfl
        case isFalse hshort =>
          exact ofBytes_congr (resizeHdr_short (by omega) (by decide))
    rw [hfilled, readHeader_eq false data]
    have hmap : ∀ data', RboxIndexHeader.ofBytes data' =
        { RboxIndexHeader.ofBytes data with
          flags := (RboxIndexHeader.ofBytes data).flags ||| pop3Flags uidls orders } →
        readHeader false data' = (if (RboxIndexHeader.ofBytes data).mailboxGuid = .zero then none
          else some (RboxIndexHeader.ofBytes data)).map fun h =>
            { h with flags := h.flags ||| pop3Flags uidls orders } := by
      intro data' hdata'
      rw [readHeader_eq, hdata']
      dsimp only
      split
      case isTrue => rfl
      case isFalse => rfl
    refine hmap _ ?_
    split
    case isTrue => rw [ofBytes_setFlags _ hlong, hsame]
    case isFalse hkept => rw [not_not.mp hkept, hsame]

/-- What a rebuild makes of the header that can be read, or of none. -/
def rebuiltHeader (generated : MailGuid) : Option RboxIndexHeader → RboxIndexHeader
  | some h => h.rebuilt
  | none => { RboxIndexHeader.zero with mailboxGuid := generated }.rebuilt

/-- **`rbox_sync_update_header`** keeps guid and flags of a header that can be read. -/
theorem readHeader_rebuild (hgenerated : generated ≠ .zero) (data : Bytes) :
    readHeader false (syncUpdateHeader generated data).toBytes =
      some (rebuiltHeader generated (readHeader false data)) := by
  have heq : syncUpdateHeader generated data = rebuiltHeader generated (readHeader false data) := by
    unfold syncUpdateHeader
    cases hread : readHeader false data with
    | none => rfl
    | some h =>
        dsimp only [Option.getD_some]
        rw [if_neg (readHeader_some hread).2]
        rfl
  have hguid : (rebuiltHeader generated (readHeader false data)).mailboxGuid ≠ .zero := by
    cases hread : readHeader false data with
    | none => exact hgenerated
    | some h => exact (readHeader_some hread).2
  have hbytes :=
    RboxIndexHeader.ofBytes_toBytes (rebuiltHeader generated (readHeader false data)) []
  rw [List.append_nil] at hbytes
  rw [heq, readHeader_eq, hbytes, if_neg hguid]

end Functions

end DovecotCeph
