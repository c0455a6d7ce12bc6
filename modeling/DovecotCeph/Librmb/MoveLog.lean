/-
  File:      DovecotCeph/Librmb/MoveLog.lean
  Subject:   The entry of a move in the save log (rados-save-log.h, rados-metadata.h): what `op_mv`
             writes of the source and of the mail's metadata, and what is read back.

  Four separators nest in a line without any escape, and an item without a value is no pair.
  * `readEntry_clean`: nothing that is read of metadata contains a separator;
  * `parseMvOp_opMv`: the source comes back, and the metadata before the first empty value;
  * **`move_survives_log_iff`**: which moves come back as they were written.
-/
import DovecotCeph.Librmb.SaveLog

namespace DovecotCeph

/-! ## 1. Writing -/

/-- `RadosMetadata`. -/
structure RadosMetadata where
  key : ByteString
  bl : ByteString
  deriving DecidableEq, Repr

namespace RadosMetadata

/-- The constructors: the value is kept with its NUL. -/
def make (key value : ByteString) : RadosMetadata := ⟨key, value ++ [0]⟩

/-- `to_string`: without the last byte. -/
def toString (m : RadosMetadata) : ByteString :=
  m.key ++ '='.toUInt8 :: m.bl.take (m.bl.length - 1)

end RadosMetadata

namespace SaveLogEntry

/-- `convert_metadata`. -/
def convertMetadata (separator : ByteString) : List RadosMetadata → ByteString
  | [] => []
  | m :: ms => m.toString ++ ms.flatMap fun m => separator ++ m.toString

/-- `op_mv`. -/
def opMv (srcNs srcOid srcUser : ByteString) (metadata : List RadosMetadata) : ByteString :=
  bytesOf "mv:" ++ srcNs ++ bytesOf ":" ++ srcOid ++ bytesOf ":" ++ srcUser ++ bytesOf ";" ++
    convertMetadata (bytesOf ":") metadata

end SaveLogEntry

/-- A name for the left side of a move: not empty, without separators. -/
structure MoveName (name : ByteString) : Prop where
  ne : name ≠ []
  noColon : ':'.toUInt8 ∉ name
  noSemicolon : ';'.toUInt8 ∉ name
  field : LogField name

/-- A move: the source, the metadata as keys and values, and where the mail was moved to. -/
structure LoggedMove where
  srcNs : ByteString
  srcOid : ByteString
  srcUser : ByteString
  metadata : List (ByteString × ByteString)
  pool : ByteString
  ns : ByteString
  oid : ByteString
  src : MoveName srcNs ∧ MoveName srcOid ∧ MoveName srcUser
  dest : LogField pool ∧ LogField ns ∧ LogField oid ∧ oid ≠ []

namespace LoggedMove

/-- The entry that is written. -/
def entry (m : LoggedMove) : SaveLogEntry where
  oid := m.oid
  ns := m.ns
  pool := m.pool
  op := SaveLogEntry.opMv m.srcNs m.srcOid m.srcUser
    (m.metadata.map fun e => RadosMetadata.make e.1 e.2)

/-- **A move survives the log**: read back from its line, whatever follows it in the file, the entry
    has the source and the metadata, in order. -/
structure Survives (m : LoggedMove) (rest : ByteString) : Prop where
  srcNs : (readEntry (.opened (m.entry.write ++ rest))).1.srcNs = m.srcNs
  srcOid : (readEntry (.opened (m.entry.write ++ rest))).1.srcOid = m.srcOid
  srcUser : (readEntry (.opened (m.entry.write ++ rest))).1.srcUser = m.srcUser
  metadata : (readEntry (.opened (m.entry.write ++ rest))).1.metadata = m.metadata

end LoggedMove

/-- No separator of the log, but for the semicolon. -/
def NoSeparator (text : ByteString) : Prop :=
  comma ∉ text ∧ newline ∉ text ∧ ':'.toUInt8 ∉ text ∧ '='.toUInt8 ∉ text

instance (text : ByteString) : Decidable (NoSeparator text) :=
  inferInstanceAs (Decidable (_ ∧ _ ∧ _ ∧ _))

/-- **The metadata that can be logged**: without separators, and no value is empty. -/
def PlainMetadata (metadata : List (ByteString × ByteString)) : Prop :=
  ∀ e ∈ metadata, NoSeparator e.1 ∧ NoSeparator e.2 ∧ e.2 ≠ []

/-! ## 2. What can be read -/

section Reading

variable {text line : ByteString} {items : List ByteString} {e : ByteString × ByteString}

theorem itemsOf_eq (delim : Char) (text : ByteString) :
    itemsOf delim text = Lib.getlines delim.toUInt8 text :=
  Lib.items_eq_getlines (Nat.lt_succ_self _)

theorem mem_itemsOf {delim : Char} {item : ByteString} (h : item ∈ itemsOf delim text) :
    delim.toUInt8 ∉ item ∧ item ⊆ text := by
  rw [itemsOf_eq] at h
  exact Lib.mem_getlines h

/-- A pair comes from one of the items, cut at the equals sign. -/
theorem mem_fromStrings (h : e ∈ (fromStrings items).2) :
    ∃ item ∈ items, e.1 ∈ itemsOf '=' item ∧ e.2 ∈ itemsOf '=' item := by
  induction items with
  | nil => exact absurd h List.not_mem_nil
  | cons item items ih =>
      rw [fromStrings] at h
      split at h
      case h_1 key value hitem =>
        rcases List.mem_cons.mp h with rfl | h
        · refine ⟨item, List.mem_cons_self, ?_, ?_⟩
          · rw [hitem]
            exact List.mem_cons_self
          · rw [hitem]
            exact List.mem_cons_of_mem _ List.mem_cons_self
        · obtain ⟨item', hmem, hpair⟩ := ih h
          exact ⟨item', List.mem_cons_of_mem _ hmem, hpair⟩
      case h_2 => exact absurd h List.not_mem_nil

/-- The metadata of an entry without metadata come from its operation. -/
theorem parseMvOp_metadata (entry : SaveLogEntry) (hnil : entry.metadata = [])
    (h : e ∈ entry.parseMvOp.2.metadata) :
    ∃ item, ':'.toUInt8 ∉ item ∧ item ⊆ entry.op ∧
      e.1 ∈ itemsOf '=' item ∧ e.2 ∈ itemsOf '=' item := by
  have hnone : ∀ {x : SaveLogEntry}, x.metadata = [] → ¬ e ∈ x.metadata := by
    intro x hx hmem
    rw [hx] at hmem
    cases hmem
  unfold SaveLogEntry.parseMvOp at h
  split at h
  · exact absurd h (hnone hnil)
  · exact absurd h (hnone hnil)
  · split at h
    · split at h
      · exact absurd h (hnone hnil)
      · dsimp only at h
        rw [hnil, List.nil_append] at h
        obtain ⟨item, hmem, hpair⟩ := mem_fromStrings h
        obtain ⟨hcolon, hsub⟩ := mem_itemsOf hmem
        exact ⟨item, hcolon, List.Subset.trans hsub (List.drop_subset _ _), hpair⟩
    · exact absurd h (hnone hnil)

/-- The line `getline` delivers has no newline. -/
theorem newline_notMem_getline (is : Lib.InStream UInt8) :
    newline ∉ (Lib.getline newline is).1 := by
  unfold Lib.getline
  split
  case isTrue => exact List.not_mem_nil
  case isFalse =>
    split
    case h_1 hdrop =>
      intro hmem
      exact absurd (List.dropWhile_eq_nil_iff.mp hdrop newline hmem) (by simp)
    case h_2 =>
      intro hmem
      exact absurd (List.mem_takeWhile_imp hmem) (by simp)

/-- **What is read of metadata has no separator**, whatever the file holds. -/
theorem readEntry_clean (is : Lib.InStream UInt8) (h : e ∈ (readEntry is).1.metadata) :
    NoSeparator e.1 ∧ NoSeparator e.2 := by
  have hline := newline_notMem_getline is
  unfold readEntry at h
  dsimp only at h
  split at h
  case h_1 op pool ns oid hitems =>
    have hop : op ∈ itemsOf ',' (Lib.getline newline is).1 := by
      rw [hitems]
      exact List.mem_cons_self
    obtain ⟨hcomma, hopsub⟩ := mem_itemsOf hop
    obtain ⟨item, hcolon, hsub, hkey, hvalue⟩ := parseMvOp_metadata _ rfl h
    have hclean : ∀ t ∈ itemsOf '=' item, NoSeparator t := by
      intro t ht
      obtain ⟨heq, htsub⟩ := mem_itemsOf ht
      exact ⟨fun hc => hcomma (hsub (htsub hc)), fun hc => hline (hopsub (hsub (htsub hc))),
        fun hc => hcolon (htsub hc), heq⟩
    exact ⟨hclean _ hkey, hclean _ hvalue⟩
  case h_2 => exact absurd h List.not_mem_nil

end Reading

/-! ## 3. What is read of a move -/

section Parsing

variable {metadata : List (ByteString × ByteString)} {m : LoggedMove}

/-- The text of a pair. -/
def pairText (e : ByteString × ByteString) : ByteString := e.1 ++ '='.toUInt8 :: e.2

theorem toString_make (e : ByteString × ByteString) :
    (RadosMetadata.make e.1 e.2).toString = pairText e := by
  simp [RadosMetadata.make, RadosMetadata.toString, pairText]

theorem pairText_ne_nil (e : ByteString × ByteString) : pairText e ≠ [] := by
  simp [pairText]

/-- A pair is cut at its equals sign; an empty value is no item. -/
theorem itemsOf_pairText {e : ByteString × ByteString} (hkey : '='.toUInt8 ∉ e.1)
    (hvalue : '='.toUInt8 ∉ e.2) :
    itemsOf '=' (pairText e) = if e.2 = [] then [e.1] else [e.1, e.2] := by
  rw [itemsOf_eq, pairText, Lib.getlines_append_sep hkey, Lib.getlines_rest hvalue]
  split <;> rfl

/-- The pairs before the first empty value are read. -/
theorem fromStrings_pairs (h : ∀ e ∈ metadata, '='.toUInt8 ∉ e.1 ∧ '='.toUInt8 ∉ e.2) :
    (fromStrings (metadata.map pairText)).2 = metadata.takeWhile (·.2 ≠ []) := by
  induction metadata with
  | nil => rfl
  | cons e metadata ih =>
      obtain ⟨he, hrest⟩ := List.forall_mem_cons.mp h
      rw [List.map_cons, fromStrings, itemsOf_pairText he.1 he.2]
      by_cases hnil : e.2 = []
      · rw [if_pos hnil, List.takeWhile_cons_of_neg (by simpa using hnil)]
      · rw [if_neg hnil, List.takeWhile_cons_of_pos (by simpa using hnil)]
        exact congrArg (e :: ·) (ih hrest)

/-- The right side of a move is cut into the texts of the pairs. -/
theorem itemsOf_convertMetadata (h : ∀ e ∈ metadata, ':'.toUInt8 ∉ e.1 ∧ ':'.toUInt8 ∉ e.2) :
    itemsOf ':' (SaveLogEntry.convertMetadata (bytesOf ":")
        (metadata.map fun e => RadosMetadata.make e.1 e.2)) = metadata.map pairText := by
  have htext : ∀ u ∈ metadata.map pairText, ':'.toUInt8 ∉ u := by
    intro u hu
    obtain ⟨e, he, rfl⟩ := List.mem_map.mp hu
    unfold pairText
    rw [List.mem_append, List.mem_cons]
    rintro (hmem | heq | hmem)
    · exact (h e he).1 hmem
    · exact absurd heq (by decide)
    · exact (h e he).2 hmem
  rw [itemsOf_eq]
  cases metadata with
  | nil => rfl
  | cons e metadata =>
      have hjoin : SaveLogEntry.convertMetadata (bytesOf ":")
          ((e :: metadata).map fun e => RadosMetadata.make e.1 e.2) =
            pairText e ++ (metadata.map pairText).flatMap (':'.toUInt8 :: ·) := by
        rw [List.map_cons, SaveLogEntry.convertMetadata, toString_make, List.flatMap_map,
          List.flatMap_map]
        simp only [toString_make]
        rfl
      rw [hjoin]
      refine Lib.getlines_joined (fun u hu => ?_) htext
      obtain ⟨e', _, rfl⟩ := List.mem_map.mp (show u ∈ (e :: metadata).map pairText from hu)
      exact pairText_ne_nil e'

/-- The left side of a move. -/
def LoggedMove.left (m : LoggedMove) : ByteString :=
  bytesOf "mv" ++ [m.srcNs, m.srcOid, m.srcUser].flatMap (':'.toUInt8 :: ·)

theorem LoggedMove.op_eq (m : LoggedMove) :
    m.entry.op = m.left ++ ';'.toUInt8 :: SaveLogEntry.convertMetadata (bytesOf ":")
      (m.metadata.map fun e => RadosMetadata.make e.1 e.2) := by
  simp [LoggedMove.entry, SaveLogEntry.opMv, LoggedMove.left, bytesOf]

theorem LoggedMove.left_items (m : LoggedMove) :
    itemsOf ':' m.left = [bytesOf "mv", m.srcNs, m.srcOid, m.srcUser] := by
  obtain ⟨hns, hoid, huser⟩ := m.src
  rw [itemsOf_eq]
  refine Lib.getlines_joined ?_ ?_
  · simp only [List.forall_mem_cons]
    exact ⟨by decide, hns.ne, hoid.ne, huser.ne, nofun⟩
  · simp only [List.forall_mem_cons]
    exact ⟨by decide, hns.noColon, hoid.noColon, huser.noColon, nofun⟩

theorem LoggedMove.left_semicolon (m : LoggedMove) : ';'.toUInt8 ∉ m.left := by
  obtain ⟨hns, hoid, huser⟩ := m.src
  have hmv : ';'.toUInt8 ∉ bytesOf "mv" := by decide
  have hcolon : ';'.toUInt8 ≠ ':'.toUInt8 := by decide
  simp [LoggedMove.left, hmv, hcolon, hns.noSemicolon, hoid.noSemicolon, huser.noSemicolon]

/-- **The operation of a move is parsed**: the source, and the pairs before the first empty
    value. -/
theorem parseMvOp_opMv (m : LoggedMove)
    (h : ∀ e ∈ m.metadata, NoSeparator e.1 ∧ NoSeparator e.2) :
    m.entry.parseMvOp.2 = { m.entry with
      srcNs := m.srcNs, srcOid := m.srcOid, srcUser := m.srcUser
      metadata := m.metadata.takeWhile (·.2 ≠ []) } := by
  have hlength : m.left.length = (m.left.length - 1) + 1 := by
    simp [LoggedMove.left, bytesOf]
  have hidx : m.entry.op.idxOf? ';'.toUInt8 = some ((m.left.length - 1) + 1) := by
    rw [← hlength, m.op_eq]
    exact Lib.idxOf?_append_self m.left_semicolon
  have htake : m.entry.op.take ((m.left.length - 1) + 1) = m.left := by
    rw [← hlength, m.op_eq, List.take_left']
    rfl
  have hdrop : m.entry.op.drop ((m.left.length - 1) + 2) =
      SaveLogEntry.convertMetadata (bytesOf ":")
        (m.metadata.map fun e => RadosMetadata.make e.1 e.2) := by
    rw [show (m.left.length - 1) + 2 = m.left.length + 1 by omega, m.op_eq, List.append_cons]
    exact List.drop_left' (by rw [List.length_append, List.length_singleton])
  unfold SaveLogEntry.parseMvOp
  rw [hidx]
  dsimp only
  rw [htake, m.left_items, hdrop]
  dsimp only
  rw [if_neg (by simp), itemsOf_convertMetadata fun e he => ⟨(h e he).1.2.2.1, (h e he).2.2.2.1⟩,
    fromStrings_pairs fun e he => ⟨(h e he).1.2.2.2, (h e he).2.2.2.2⟩]
  rfl

/-- The operation of a move with such metadata is a field of the log. -/
theorem LoggedMove.loggable (m : LoggedMove)
    (h : ∀ e ∈ m.metadata, NoSeparator e.1 ∧ NoSeparator e.2) : Loggable m.entry := by
  obtain ⟨hpool, hns, hoid, hne⟩ := m.dest
  obtain ⟨hsns, hsoid, huser⟩ := m.src
  -- both separators are looked for in the same way
  have hfree : ∀ c : UInt8, c ∉ bytesOf "mv" → c ≠ ':'.toUInt8 → c ≠ ';'.toUInt8 →
      c ≠ '='.toUInt8 → c ∉ m.srcNs → c ∉ m.srcOid → c ∉ m.srcUser →
      (∀ e ∈ m.metadata, c ∉ e.1 ∧ c ∉ e.2) → c ∉ m.entry.op := by
    intro c hmv hcolon hsemi heq h1 h2 h3 hmeta
    have hpair : ∀ e ∈ m.metadata, c ∉ pairText e := by
      intro e he
      simp [pairText, heq, hmeta e he]
    have hconvert : c ∉ SaveLogEntry.convertMetadata (bytesOf ":")
        (m.metadata.map fun e => RadosMetadata.make e.1 e.2) := by
      cases hm : m.metadata with
      | nil => exact List.not_mem_nil
      | cons e metadata =>
          rw [hm] at hpair
          obtain ⟨hfirst, hrest⟩ := List.forall_mem_cons.mp hpair
          rw [List.map_cons, SaveLogEntry.convertMetadata, toString_make, List.flatMap_map,
            List.mem_append, List.mem_flatMap]
          simp only [toString_make]
          rintro (hmem | ⟨e', he', hmem⟩)
          · exact hfirst hmem
          · rcases List.mem_append.mp hmem with hmem | hmem
            · exact hcolon (List.mem_singleton.mp hmem)
            · exact hrest e' he' hmem
    rw [m.op_eq, List.mem_append, List.mem_cons]
    rintro (hmem | hmem | hmem)
    · revert hmem
      simp [LoggedMove.left, hmv, hcolon, h1, h2, h3]
    · exact hsemi hmem
    · exact hconvert hmem
  refine ⟨⟨?_, ?_⟩, hpool, hns, hoid, hne⟩
  · exact hfree comma (by decide) (by decide) (by decide) (by decide) hsns.field.noComma
      hsoid.field.noComma huser.field.noComma fun e he => ⟨(h e he).1.1, (h e he).2.1⟩
  · exact hfree newline (by decide) (by decide) (by decide) (by decide) hsns.field.noNewline
      hsoid.field.noNewline huser.field.noNewline fun e he => ⟨(h e he).1.2.1, (h e he).2.2.1⟩

end Parsing

/-! ## 4. Which moves survive -/

/-- What is read of a line the log can hold. -/
theorem Loggable.readEntry_parse {e : SaveLogEntry} (h : Loggable e) (rest : ByteString) :
    (readEntry (.opened (e.write ++ rest))).1 =
      (SaveLogEntry.parseMvOp { oid := e.oid, ns := e.ns, pool := e.pool, op := e.op }).2 := by
  unfold readEntry SaveLogEntry.write
  rw [List.append_assoc, List.singleton_append, Lib.getline_terminated h.newline_notMem]
  dsimp only
  rw [h.items_line]

/-- **Moves and the save log**: a move comes back from the log exactly if no key and no value of its
    metadata has a separator, and no value is empty. -/
theorem move_survives_log_iff (m : LoggedMove) (rest : ByteString) :
    m.Survives rest ↔ PlainMetadata m.metadata := by
  have hread : (∀ e ∈ m.metadata, NoSeparator e.1 ∧ NoSeparator e.2) →
      (readEntry (.opened (m.entry.write ++ rest))).1 = { m.entry with
        srcNs := m.srcNs, srcOid := m.srcOid, srcUser := m.srcUser
        metadata := m.metadata.takeWhile (·.2 ≠ []) } := by
    intro h
    rw [(m.loggable h).readEntry_parse]
    exact parseMvOp_opMv m h
  constructor
  · intro h
    have hclean : ∀ e ∈ m.metadata, NoSeparator e.1 ∧ NoSeparator e.2 := by
      intro e he
      rw [← h.metadata] at he
      exact readEntry_clean _ he
    have hall := h.metadata
    rw [hread hclean] at hall
    have hvalues := List.takeWhile_eq_self_iff.mp hall
    exact fun e he => ⟨(hclean e he).1, (hclean e he).2, by simpa using hvalues e he⟩
  · intro h
    have hclean : ∀ e ∈ m.metadata, NoSeparator e.1 ∧ NoSeparator e.2 :=
      fun e he => ⟨(h e he).1, (h e he).2.1⟩
    have hall : m.metadata.takeWhile (·.2 ≠ []) = m.metadata :=
      List.takeWhile_eq_self_iff.mpr fun e he => by simpa using (h e he).2.2
    refine ⟨?_, ?_, ?_, ?_⟩
    · rw [hread hclean]
    · rw [hread hclean]
    · rw [hread hclean]
    · rw [hread hclean]
      exact hall

/-- A mail is moved out of a mailbox whose name has a comma in it. -/
def moveFromMailbox : LoggedMove where
  srcNs := bytesOf "alice_u"
  srcOid := bytesOf "0a"
  srcUser := bytesOf "alice"
  metadata := [(bytesOf "M", bytesOf "4a"), (bytesOf "B", bytesOf "Travel, 2020")]
  pool := bytesOf "mail_storage"
  ns := bytesOf "bob_u"
  oid := bytesOf "0b"
  src := ⟨⟨by decide, by decide, by decide, by decide, by decide⟩,
    ⟨by decide, by decide, by decide, by decide, by decide⟩,
    ⟨by decide, by decide, by decide, by decide, by decide⟩⟩
  dest := ⟨⟨by decide, by decide⟩, ⟨by decide, by decide⟩, ⟨by decide, by decide⟩, by decide⟩

/-- Its line is not valid, so that neither source nor metadata come back. -/
theorem mailbox_with_comma_lost :
    ¬ moveFromMailbox.Survives [] ∧
      (readEntry (.opened moveFromMailbox.entry.write)).1 = {} := by
  have hempty : (readEntry (.opened moveFromMailbox.entry.write)).1 = {} := by decide +kernel
  refine ⟨fun h => ?_, hempty⟩
  have hns := h.srcNs
  rw [List.append_nil, hempty] at hns
  exact absurd hns (by decide)

end DovecotCeph
