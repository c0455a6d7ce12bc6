/-
  File:      DovecotCeph/Librmb/SaveLog.lean
  Subject:   The save log (rados-save-log.h): a line for each object that was saved, copied or
             moved, and the loop that reads the lines back (rmb-commands.cpp).

  * `SaveLogEntry.write`, `readEntry`: the two stream operators; `parseMvOp`: the source of a move;
  * `readEntries`: the loop, with the bit its end is due to;
  * **`save_log_reads_back`**: every beginning of a written log gives the entries whose line it has
    as a whole, and the loop ends at the end of the file.
-/
import DovecotCeph.Lib.Stream
import Mathlib.Data.List.Induction

namespace DovecotCeph

/-! ## 1. Entries -/

/-- A `std::string` and the content of a file, byte by byte. -/
abbrev ByteString := List UInt8

/-- The bytes of a literal. -/
def bytesOf (s : String) : ByteString := s.toList.map Char.toUInt8

/-- What `c_str()` shows of a string. -/
def cBytes (s : ByteString) : ByteString := s.takeWhile (· ≠ 0)

theorem cBytes_of_noNul {s : ByteString} (h : 0 ∉ s) : cBytes s = s := by
  refine List.takeWhile_eq_self_iff.mpr fun c hc => decide_eq_true fun heq => h ?_
  rw [← heq]
  exact hc

/-- `RadosSaveLogEntry`; metadata as key and value. -/
structure SaveLogEntry where
  oid : ByteString := []
  ns : ByteString := []
  pool : ByteString := []
  op : ByteString := []
  srcOid : ByteString := []
  srcNs : ByteString := []
  srcUser : ByteString := []
  metadata : List (ByteString × ByteString) := []
  deriving DecidableEq, Repr

def newline : UInt8 := '\n'.toUInt8

def comma : UInt8 := ','.toUInt8

/-- The items of a stream over `text`, cut at `delim`. -/
def itemsOf (delim : Char) (text : ByteString) : List ByteString :=
  Lib.items delim.toUInt8 (text.length + 1) (.opened text)

/-- `RadosMetadata::from_string` of one item after the other, until one is no pair. -/
def fromStrings : List ByteString → Bool × List (ByteString × ByteString)
  | [] => (true, [])
  | item :: rest =>
    match itemsOf '=' item with
    | [key, value] => ((fromStrings rest).1, (key, value) :: (fromStrings rest).2)
    | _ => (false, [])

namespace SaveLogEntry

def opSave : ByteString := bytesOf "save"

def opCpy : ByteString := bytesOf "cpy"

/-- `parse_mv_op`: result and entry. -/
def parseMvOp (e : SaveLogEntry) : Bool × SaveLogEntry :=
  match e.op.idxOf? ';'.toUInt8 with
  | none => (false, e)
  | some 0 => (false, e)
  | some (pos + 1) =>
    match itemsOf ':' (e.op.take (pos + 1)) with
    | kind :: srcNs :: srcOid :: srcUser :: _ =>
      if kind ≠ bytesOf "mv" then (true, e)
      else
        let m := fromStrings (itemsOf ':' (e.op.drop (pos + 2)))
        (m.1, { e with srcNs := srcNs, srcOid := srcOid, srcUser := srcUser,
                       metadata := e.metadata ++ m.2 })
    | _ => (false, e)

/-- The line without its newline. -/
def line (e : SaveLogEntry) : ByteString :=
  e.op ++ comma :: (e.pool ++ comma :: (e.ns ++ comma :: e.oid))

/-- `operator<<`. -/
def write (e : SaveLogEntry) : ByteString := e.line ++ [newline]

end SaveLogEntry

/-- The file after the entries were written. -/
def writeLog (es : List SaveLogEntry) : ByteString := es.flatMap SaveLogEntry.write

/-! ## 2. Reading -/

/-- `operator>>` into a new entry. -/
def readEntry (is : Lib.InStream UInt8) : SaveLogEntry × Lib.InStream UInt8 :=
  let r := Lib.getline newline is
  match itemsOf ',' r.1 with
  | [op, pool, ns, oid] =>
    ((SaveLogEntry.parseMvOp { oid := oid, ns := ns, pool := pool, op := op }).2, r.2)
  | _ => ({}, { r.2 with fail := true })

/-- Why the loop of `delete_with_save_log` ends: at the end of the file, or at a line that is not
    valid. -/
inductive LogEnd where
  | eof
  | invalid (line : Nat)
  deriving DecidableEq, Repr

/-- The loop, for at most `n` lines, from line `line` on: the entries it goes on with. -/
def readEntries : Nat → Nat → Lib.InStream UInt8 → Option (List SaveLogEntry × LogEnd)
  | 0, _, _ => none
  | n + 1, line, is =>
    let r := readEntry is
    if r.2.eof then some ([], .eof)
    else if r.2.fail then some ([], .invalid line)
    else (readEntries n (line + 1) r.2).map fun q => (r.1 :: q.1, q.2)

/-- The loop over a file. -/
def readLog (file : ByteString) : Option (List SaveLogEntry × LogEnd) :=
  readEntries (file.length + 1) 1 (.opened file)

/-! ## 3. What is read of a line -/

/-- Free of separators. -/
structure LogField (field : ByteString) : Prop where
  noComma : comma ∉ field
  noNewline : newline ∉ field

/-- The entries the log can hold. -/
structure Loggable (e : SaveLogEntry) : Prop where
  op : LogField e.op
  pool : LogField e.pool
  ns : LogField e.ns
  oid : LogField e.oid
  oid_ne : e.oid ≠ []

/-- What is written of an entry. -/
def SaveLogEntry.fields (e : SaveLogEntry) : ByteString × ByteString × ByteString × ByteString :=
  (e.op, e.pool, e.ns, e.oid)

section Line

variable {e : SaveLogEntry} {is : Lib.InStream UInt8}

theorem Loggable.newline_notMem (h : Loggable e) : newline ∉ e.line := by
  have hne : newline ≠ comma := by decide
  unfold SaveLogEntry.line
  intro hmem
  rcases List.mem_append.mp hmem with hmem | hmem
  · exact h.op.noNewline hmem
  · rcases List.mem_append.mp ((List.mem_cons.mp hmem).resolve_left hne) with hmem | hmem
    · exact h.pool.noNewline hmem
    · rcases List.mem_append.mp ((List.mem_cons.mp hmem).resolve_left hne) with hmem | hmem
      · exact h.ns.noNewline hmem
      · exact h.oid.noNewline ((List.mem_cons.mp hmem).resolve_left hne)

/-- The line is cut into the four fields. -/
theorem Loggable.items_line (h : Loggable e) :
    itemsOf ',' e.line = [e.op, e.pool, e.ns, e.oid] := by
  have hcut : ∀ {t : ByteString} (_ : comma ∉ t) (rest : ByteString),
      Lib.getlines comma (t ++ comma :: rest) = t :: Lib.getlines comma rest :=
    fun ht rest => Lib.getlines_append_sep ht rest
  have hlast : Lib.getlines comma e.oid = [e.oid] := by
    rw [Lib.getlines_rest h.oid.noComma, if_neg h.oid_ne]
  have hitems : itemsOf ',' e.line = Lib.getlines comma e.line :=
    Lib.items_eq_getlines (Nat.lt_succ_self _)
  rw [hitems, SaveLogEntry.line, hcut h.op.noComma, hcut h.pool.noComma, hcut h.ns.noComma, hlast]

theorem parseMvOp_fields (e : SaveLogEntry) : e.parseMvOp.2.fields = e.fields := by
  unfold SaveLogEntry.parseMvOp
  split
  · rfl
  · rfl
  · split
    · split
      · rfl
      · rfl
    · rfl

/-- A terminated line is read, and the stream stands behind it. -/
theorem Loggable.readEntry_line (h : Loggable e) (rest : ByteString) :
    ∃ e', readEntry (.opened (e.line ++ newline :: rest)) = (e', .opened rest) ∧
      e'.fields = e.fields := by
  refine ⟨_, ?_, parseMvOp_fields { oid := e.oid, ns := e.ns, pool := e.pool, op := e.op }⟩
  unfold readEntry
  rw [Lib.getline_terminated h.newline_notMem]
  dsimp only
  rw [h.items_line]

/-- Text without a newline is not read as an entry: it ends with the file. -/
theorem readEntry_rest {text : ByteString} (h : newline ∉ text) :
    (readEntry (.opened text)).2.eof = true := by
  unfold readEntry
  rw [Lib.getline_rest h]
  dsimp only
  split <;> rfl

theorem readEntries_rest {text : ByteString} (h : newline ∉ text) (n line : Nat) :
    readEntries (n + 1) line (.opened text) = some ([], .eof) := by
  rw [readEntries, if_pos (readEntry_rest h)]

end Line

/-! ## 4. Beginnings of a log -/

theorem writeLog_cons (e : SaveLogEntry) (es : List SaveLogEntry) :
    writeLog (e :: es) = e.line ++ newline :: writeLog es := by
  rw [writeLog, List.flatMap_cons, SaveLogEntry.write, List.append_assoc, List.singleton_append]
  rfl

/-- The loop over a beginning of a log, by induction on the entries. -/
theorem readEntries_prefix {es : List SaveLogEntry} (hes : ∀ e ∈ es, Loggable e)
    {pre : ByteString} (hpre : pre <+: writeLog es) {n : Nat} (hn : pre.length < n) (line : Nat) :
    ∃ k read, readEntries n line (.opened pre) = some (read, .eof) ∧
      read.map SaveLogEntry.fields = (es.take k).map SaveLogEntry.fields ∧ k ≤ es.length ∧
      ∀ j < es.length, j < k ↔ (writeLog (es.take (j + 1))).length ≤ pre.length := by
  induction es generalizing pre n line with
  | nil =>
      obtain ⟨n, rfl⟩ : ∃ m, n = m + 1 := ⟨n - 1, by omega⟩
      obtain rfl : pre = [] := List.prefix_nil.mp hpre
      exact ⟨0, [], readEntries_rest List.not_mem_nil _ _, rfl, Nat.le_refl _,
        fun j hj => absurd hj (by simp)⟩
  | cons e es ih =>
      obtain ⟨n, rfl⟩ : ∃ m, n = m + 1 := ⟨n - 1, by omega⟩
      have he := hes e List.mem_cons_self
      rw [writeLog_cons] at hpre
      rcases Lib.prefix_terminated hpre with hcut | ⟨pre, rfl, hrest⟩
      · -- the first line is cut
        refine ⟨0, [], readEntries_rest (fun h => he.newline_notMem (hcut.subset h)) _ _, rfl,
          Nat.zero_le _, ?_⟩
        intro j _
        have hlen := hcut.length_le
        rw [List.take_succ_cons, writeLog_cons, List.length_append, List.length_cons]
        omega
      · -- the first line is read, and the rest is a beginning of the other lines
        have hlen : pre.length < n := by
          rw [List.length_append, List.length_cons] at hn
          omega
        obtain ⟨k, read, hread, hfields, hk, hlines⟩ := ih
          (fun e' h => hes e' (List.mem_cons_of_mem _ h)) hrest hlen (line + 1)
        obtain ⟨e', hentry, hfields'⟩ := he.readEntry_line pre
        refine ⟨k + 1, e' :: read, ?_, ?_, Nat.succ_le_succ hk, ?_⟩
        · rw [readEntries, hentry]
          show Option.map _ (readEntries n (line + 1) (.opened pre)) = _
          rw [hread]
          rfl
        · rw [List.map_cons, List.take_succ_cons, List.map_cons, hfields, hfields']
        · intro j hj
          cases j with
          | zero =>
              refine iff_of_true (Nat.succ_pos _) ?_
              rw [List.take_succ_cons, List.take_zero, writeLog_cons, List.length_append,
                List.length_append, List.length_cons, List.length_cons]
              exact Nat.add_le_add_left (Nat.succ_le_succ (Nat.zero_le _)) _
          | succ j =>
              have hline := hlines j (Nat.lt_of_succ_lt_succ hj)
              rw [List.take_succ_cons, writeLog_cons, List.length_append, List.length_append,
                List.length_cons, List.length_cons]
              omega

/-- **The save log reads back, also after a crash**: of every beginning of the file the loop reads
    exactly the entries whose newline lies in it, in order, and ends at the end of the file; of the
    whole file it reads all entries. -/
theorem save_log_reads_back (es : List SaveLogEntry) (hes : ∀ e ∈ es, Loggable e) :
    (∃ read, readLog (writeLog es) = some (read, .eof) ∧
      read.map SaveLogEntry.fields = es.map SaveLogEntry.fields) ∧
    ∀ pre, pre <+: writeLog es →
      ∃ k read, readLog pre = some (read, .eof) ∧
        read.map SaveLogEntry.fields = (es.take k).map SaveLogEntry.fields ∧ k ≤ es.length ∧
        ∀ j < es.length, j < k ↔ (writeLog (es.take (j + 1))).length ≤ pre.length := by
  have hprefix : ∀ pre, pre <+: writeLog es →
      ∃ k read, readLog pre = some (read, .eof) ∧
        read.map SaveLogEntry.fields = (es.take k).map SaveLogEntry.fields ∧ k ≤ es.length ∧
        ∀ j < es.length, j < k ↔ (writeLog (es.take (j + 1))).length ≤ pre.length :=
    fun pre hpre => readEntries_prefix hes hpre (Nat.lt_succ_self _) 1
  refine ⟨?_, hprefix⟩
  obtain ⟨k, read, hread, hfields, hk, hlines⟩ := hprefix _ List.prefix_rfl
  -- the last line ends in the file too
  have hall : es.length ≤ k := by
    cases es with
    | nil => exact Nat.zero_le _
    | cons e es =>
        refine (hlines es.length (Nat.lt_succ_self _)).mpr ?_
        rw [List.take_of_length_le (show (e :: es).length ≤ es.length + 1 from Nat.le_refl _)]
  rw [List.take_of_length_le hall] at hfields
  exact ⟨read, hread, hfields⟩

/-- Two lines, with empty fields and a move, cut in the second one. -/
theorem two_lines_read_back :
    let es : List SaveLogEntry := [{ op := bytesOf "mv:a:b:c;M=1", oid := bytesOf "0a" },
      { op := bytesOf "save", pool := bytesOf "p", ns := bytesOf "n", oid := bytesOf "0b" }]
    (∃ read, readLog (writeLog es) = some (read, .eof) ∧
      read.map SaveLogEntry.fields = es.map SaveLogEntry.fields) ∧
    ∀ pre, pre <+: writeLog es →
      ∃ k read, readLog pre = some (read, .eof) ∧
        read.map SaveLogEntry.fields = (es.take k).map SaveLogEntry.fields ∧ k ≤ es.length ∧
        ∀ j < es.length, j < k ↔ (writeLog (es.take (j + 1))).length ≤ pre.length := by
  refine save_log_reads_back _ fun e he => ?_
  have hfields : ∀ e ∈ [({ op := bytesOf "mv:a:b:c;M=1", oid := bytesOf "0a" } : SaveLogEntry),
      { op := bytesOf "save", pool := bytesOf "p", ns := bytesOf "n", oid := bytesOf "0b" }],
      (∀ f ∈ [e.op, e.pool, e.ns, e.oid], comma ∉ f ∧ newline ∉ f) ∧ e.oid ≠ [] := by
    decide
  obtain ⟨hf, hoid⟩ := hfields e he
  have field : ∀ f ∈ [e.op, e.pool, e.ns, e.oid], LogField f := fun f h => ⟨(hf f h).1, (hf f h).2⟩
  exact ⟨field _ (by simp), field _ (by simp), field _ (by simp), field _ (by simp), hoid⟩

end DovecotCeph
