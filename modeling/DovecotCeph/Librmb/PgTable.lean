/-
  File:      DovecotCeph/Librmb/PgTable.lean
  Subject:   The placement groups of a pool (rados-util.cpp): `RadosUtils::extractPgs` and
             `RadosUtils::extractPgAndPrimaryOsd` on the table that `pg ls-by-pool` prints.

  `extractPgs` cuts the first ten characters of each line and drops the first line and the last;
  `extractPgAndPrimaryOsd` cuts columns and takes the first number of the column UP for the primary.
  * `TableRow`: a line of at least 14 columns; `split_line`: `split` gives back its columns;
  * `extractPgAndPrimaryOsd_rows`: what is made of a table of rows;
  * **`pgs_listed_iff`**: for which rows the PGs are listed under their primaries;
  * **`parsers_agree_iff`**: for which outputs the two functions find the PGs of the rows.
-/
import DovecotCeph.Lib.OrderedMap
import DovecotCeph.Lib.Stream
import DovecotCeph.Librmb.RadosUtil
import Mathlib.Data.List.Nodup

namespace DovecotCeph

open Lib Std

/-! ## 1. The parsers -/

/-- Without white space. -/
def eraseSpaces (s : List Char) : List Char := s.filter fun c => !isspace c

/-- `RadosUtils::split`. -/
def split (strToSplit : List Char) (delimiter : Char) : List (List Char) :=
  ((getlines delimiter strToSplit).map eraseSpaces).filter fun token => decide (0 < token.length)

/-- `RadosUtils::extractPgs`; `none` where it removes an element of an empty vector. -/
def extractPgs (str : List Char) : Option (List (List Char)) :=
  match (getlines '\n' str).map fun token => eraseSpaces (token.take 10) with
  | [] => none
  | _ :: tokens => if tokens = [] then none else some tokens.dropLast

/-- What `extractPgAndPrimaryOsd` takes from a line that is not too short: the OSD and the PG;
    `none` where it takes the first element of an empty vector. -/
def pgAndPrimaryOsd (token : List Char) : Option (Option (List Char × List Char)) :=
  let line := split token ' '
  if line.length < 14 then some none
  else (split (line.getD 13 []) ',').head?.map fun tmpPrimaryOsd =>
    some (tmpPrimaryOsd.drop 1, line.getD 0 [])

/-- The PGs of each OSD. -/
abbrev PgsOfOsd := TreeMap (List Char) (List (List Char))

/-- The loop of `extractPgAndPrimaryOsd` behind the first line. -/
def extractLoop : List (List Char) → PgsOfOsd → Option PgsOfOsd
  | [], tokens => some tokens
  | token :: rest, tokens => (pgAndPrimaryOsd token).bind fun
    | none => extractLoop rest tokens
    | some entry => extractLoop rest (pushGroup tokens entry)

/-- `RadosUtils::extractPgAndPrimaryOsd`. -/
def extractPgAndPrimaryOsd (str : List Char) : Option PgsOfOsd :=
  extractLoop ((getlines '\n' str).drop 1) ∅

/-! ## 2. Lines of columns -/

/-- A column: a text without white space that is not empty. -/
structure Word where
  text : List Char
  ne_nil : text ≠ []
  noSpace : ∀ c ∈ text, isspace c = false

/-- A line of at least 14 columns: blanks before the first one, one blank and the given number of
    further ones before each other, and blanks at the end. `up` is the 14th column. -/
structure TableRow where
  indent : Nat
  first : Word
  middle : List (Nat × Word)
  gap : Nat
  up : Word
  others : List (Nat × Word)
  trailing : Nat
  middle_length : middle.length = 12
  up_head : up.text.head? ≠ some ','

/-- A column with the blanks before it. -/
def columnText (c : Nat × Word) : List Char := List.replicate (c.1 + 1) ' ' ++ c.2.text

namespace TableRow

variable (r : TableRow)

/-- The columns behind the first one. -/
def columns : List (Nat × Word) := r.middle ++ (r.gap, r.up) :: r.others

/-- The line, without its end. -/
def line : List Char :=
  List.replicate r.indent ' ' ++ (r.first.text ++ r.columns.flatMap columnText ++
    List.replicate r.trailing ' ')

/-- The text in front of the first comma of the 14th column, without its first character. -/
def osdText : List Char := (r.up.text.takeWhile (· ≠ ',')).drop 1

end TableRow

section Split

variable {w : Word} {delimiter : Char}

theorem eraseSpaces_word (w : Word) : eraseSpaces w.text = w.text :=
  List.filter_eq_self.mpr fun c hc => by rw [w.noSpace c hc]; rfl

theorem eraseSpaces_append (s t : List Char) :
    eraseSpaces (s ++ t) = eraseSpaces s ++ eraseSpaces t :=
  List.filter_append ..

theorem eraseSpaces_blanks (n : Nat) : eraseSpaces (List.replicate n ' ') = [] := by
  rw [eraseSpaces, List.filter_eq_nil_iff]
  intro c hc
  rw [List.eq_of_mem_replicate hc]
  decide

/-- A word has no blank and no end of a line. -/
theorem Word.notMem {c : Char} (w : Word) (hc : isspace c = true) : c ∉ w.text := by
  intro hmem
  rw [w.noSpace c hmem] at hc
  cases hc

/-- A blank at the beginning is no column. -/
theorem split_blank (s : List Char) : split (' ' :: s) ' ' = split s ' ' := rfl

theorem split_blanks (n : Nat) (s : List Char) :
    split (List.replicate n ' ' ++ s) ' ' = split s ' ' := by
  induction n with
  | zero => rfl
  | succ n ih => exact (split_blank _).trans ih

theorem filter_word (w : Word) (tokens : List (List Char)) :
    (w.text :: tokens).filter (fun token => decide (0 < token.length)) =
      w.text :: tokens.filter fun token => decide (0 < token.length) := by
  have hpos : 0 < w.text.length := List.length_pos_iff.mpr w.ne_nil
  rw [List.filter_cons, if_pos (decide_eq_true hpos)]

/-- A word in front of the delimiter is a token. -/
theorem split_word (w : Word) (h : delimiter ∉ w.text) (s : List Char) :
    split (w.text ++ delimiter :: s) delimiter = w.text :: split s delimiter := by
  unfold split
  rw [getlines_append_sep h, List.map_cons, eraseSpaces_word, filter_word]

theorem split_lastWord (w : Word) (h : delimiter ∉ w.text) : split w.text delimiter = [w.text] := by
  unfold split
  rw [getlines_rest h, if_neg w.ne_nil, List.map_singleton, eraseSpaces_word, filter_word]
  rfl

/-- Columns are cut at the blanks. -/
theorem split_columns (w : Word) (columns : List (Nat × Word)) (trailing : Nat) :
    split (w.text ++ columns.flatMap columnText ++ List.replicate trailing ' ') ' ' =
      w.text :: columns.map fun c => c.2.text := by
  induction columns generalizing w with
  | nil =>
      rw [List.flatMap_nil, List.append_nil]
      cases trailing with
      | zero => rw [List.replicate_zero, List.append_nil, split_lastWord w (w.notMem rfl)]; rfl
      | succ n =>
          have hblanks := split_blanks n []
          rw [List.append_nil] at hblanks
          rw [List.replicate_succ, split_word w (w.notMem rfl), hblanks]
          rfl
  | cons c columns ih =>
      have hline : w.text ++ (c :: columns).flatMap columnText ++ List.replicate trailing ' ' =
          w.text ++ ' ' :: (List.replicate c.1 ' ' ++ (c.2.text ++ columns.flatMap columnText ++
            List.replicate trailing ' ')) := by
        simp [columnText, List.replicate_succ]
      rw [hline, split_word w (w.notMem rfl), split_blanks, ih]
      rfl

/-- **A line is cut into its columns.** -/
theorem split_line (r : TableRow) :
    split r.line ' ' = r.first.text :: r.columns.map fun c => c.2.text := by
  rw [TableRow.line, split_blanks, split_columns]

/-- The first element of a list in a column. -/
theorem split_head (w : Word) (h : w.text.head? ≠ some ',') :
    (split w.text ',').head? = some (w.text.takeWhile (· ≠ ',')) := by
  rcases notMem_or_first ',' w.text with hnone | ⟨t, rest, hsplit, ht⟩
  · have hall : w.text.takeWhile (· ≠ ',') = w.text :=
      List.takeWhile_eq_self_iff.mpr fun c hc => decide_eq_true fun e => hnone (e ▸ hc)
    rw [split_lastWord w hnone, hall]
    rfl
  · have hne : t ≠ [] := by
      rintro rfl
      rw [hsplit] at h
      exact h rfl
    have hspace : ∀ c ∈ t, isspace c = false := by
      intro c hc
      refine w.noSpace c ?_
      rw [hsplit]
      exact List.mem_append_left _ hc
    have hall : ∀ c ∈ t, decide (c ≠ ',') = true := fun c hc => decide_eq_true fun e => ht (e ▸ hc)
    have htake : (t ++ ',' :: rest).takeWhile (· ≠ ',') = t := by
      rw [List.takeWhile_append_of_pos hall, List.takeWhile_cons_of_neg (by simp), List.append_nil]
    rw [hsplit, htake, split_word ⟨t, hne, hspace⟩ ht]
    rfl

end Split

/-! ## 3. Tables -/

/-- The output: the header and the other lines, each with its end. -/
def tableText (header : List Char) (lines : List (List Char)) : List Char :=
  (header :: lines).flatMap (· ++ ['\n'])

section Table

variable {header : List Char} {lines : List (List Char)}

theorem getlines_tableText (hheader : '\n' ∉ header) (hlines : ∀ l ∈ lines, '\n' ∉ l) :
    getlines '\n' (tableText header lines) = header :: lines :=
  getlines_terminated (List.forall_mem_cons.mpr ⟨hheader, hlines⟩)

theorem newline_notMem_columns {columns : List (Nat × Word)} :
    '\n' ∉ columns.flatMap columnText := by
  intro hmem
  obtain ⟨c, _, hc⟩ := List.mem_flatMap.mp hmem
  rcases List.mem_append.mp hc with hblank | hword
  · exact absurd (List.eq_of_mem_replicate hblank) (by decide)
  · exact c.2.notMem rfl hword

theorem newline_notMem_line (r : TableRow) : '\n' ∉ r.line := by
  have hblanks : ∀ n, '\n' ∉ List.replicate n ' ' := fun n hmem =>
    absurd (List.eq_of_mem_replicate hmem) (by decide)
  simp only [TableRow.line, List.mem_append, not_or]
  exact ⟨hblanks _, ⟨r.first.notMem rfl, newline_notMem_columns⟩, hblanks _⟩

/-- What a row adds: its first column, under the text of its 14th. -/
theorem pgAndPrimaryOsd_row (r : TableRow) :
    pgAndPrimaryOsd r.line = some (some (r.osdText, r.first.text)) := by
  have hlength : ¬ (r.first.text :: r.columns.map fun c => c.2.text).length < 14 := by
    rw [List.length_cons, List.length_map, TableRow.columns, List.length_append, List.length_cons,
      r.middle_length]
    omega
  have hup : (r.first.text :: r.columns.map fun c => c.2.text).getD 13 [] = r.up.text := by
    have hmiddle : (r.middle.map fun c => c.2.text).length = 13 - 1 := by
      rw [List.length_map, r.middle_length]
    rw [TableRow.columns, List.map_append, List.getD_cons_succ, List.getD_eq_getElem?_getD,
      List.getElem?_append_right (Nat.le_of_eq hmiddle), hmiddle]
    rfl
  unfold pgAndPrimaryOsd
  dsimp only
  rw [split_line, if_neg hlength, hup, split_head r.up r.up_head]
  rfl

theorem extractLoop_append (more : List (List Char)) (tokens : PgsOfOsd) :
    extractLoop (lines ++ more) tokens = (extractLoop lines tokens).bind (extractLoop more) := by
  induction lines generalizing tokens with
  | nil => rfl
  | cons l lines ih =>
      rw [List.cons_append, extractLoop, extractLoop, Option.bind_assoc]
      congr 1
      funext entry
      cases entry with
      | none => exact ih tokens
      | some e => exact ih (pushGroup tokens e)

/-- The entry of a row. -/
def TableRow.entry (r : TableRow) : List Char × List Char := (r.osdText, r.first.text)

/-- **The rows of a table are grouped by the texts of their 14th columns.** -/
theorem extractLoop_rows (rows : List TableRow) (tokens : PgsOfOsd) :
    extractLoop (rows.map TableRow.line) tokens =
      some ((rows.map TableRow.entry).foldl pushGroup tokens) := by
  induction rows generalizing tokens with
  | nil => rfl
  | cons r rows ih =>
      rw [List.map_cons, extractLoop, pgAndPrimaryOsd_row, Option.bind_some]
      exact ih (pushGroup tokens r.entry)

end Table

/-! ## 4. PGs and their primaries -/

/-- The digits of a number. -/
def digits (n : Nat) : List Char := (toString n).toList

/-- `[3,1,4]p3`. -/
def upText : List Nat → Nat → List Char
  | [], primary => '[' :: ']' :: 'p' :: digits primary
  | osd :: osds, primary =>
    '[' :: (digits osd ++ osds.flatMap (fun o => ',' :: digits o) ++ ']' :: 'p' :: digits primary)

/-- A row of the table: its PG is in the first column, the OSDs and the primary in the column UP. -/
structure OsdRow extends TableRow where
  osds : List Nat
  primary : Nat
  osds_ne : osds ≠ []
  up_eq : up.text = upText osds primary

/-- A table: a header line and rows. -/
structure PgTable where
  header : List Char
  rows : List OsdRow
  header_line : '\n' ∉ header

namespace PgTable

variable (t : PgTable)

def text : List Char := tableText t.header (t.rows.map fun r => r.line)

/-- **Each PG is listed once, under its primary, and there are no other keys.** -/
structure Listed (tokens : PgsOfOsd) : Prop where
  once : ∀ r ∈ t.rows, (tokens.toList.flatMap Prod.snd).count r.first.text = 1
  underPrimary : ∀ r ∈ t.rows, ∃ pgs, tokens[digits r.primary]? = some pgs ∧ r.first.text ∈ pgs
  noOther : ∀ k ∈ tokens, ∃ r ∈ t.rows, k = digits r.primary

end PgTable

section Listing

variable {t : PgTable} {r : OsdRow}

theorem digits_injective {m n : Nat} (h : digits m = digits n) : m = n :=
  toString_nat_injective (String.toList_injective h)

theorem isDigit_digits {n : Nat} : ∀ c ∈ digits n, c.isDigit = true := by
  unfold digits
  rw [Nat.toString_eq_repr, Nat.toList_repr]
  exact isDigit_toDigits n

/-- The key a row gets: the first OSD, or all but the first character where there is one only. -/
theorem osdText_eq (r : OsdRow) :
    ∃ osd osds, r.osds = osd :: osds ∧ r.osdText =
      if osds = [] then digits osd ++ ']' :: 'p' :: digits r.primary else digits osd := by
  obtain ⟨osd, osds, hosds⟩ := List.exists_cons_of_ne_nil r.osds_ne
  refine ⟨osd, osds, hosds, ?_⟩
  have hdigits : ∀ n, ∀ c ∈ digits n, decide (c ≠ ',') = true := by
    intro n c hc
    refine decide_eq_true fun hcomma => ?_
    rw [hcomma] at hc
    exact absurd (isDigit_digits ',' hc) (by decide)
  have hup : r.up.text = '[' :: (digits osd ++ osds.flatMap (fun o => ',' :: digits o) ++
      ']' :: 'p' :: digits r.primary) := by
    rw [r.up_eq, hosds]
    rfl
  unfold TableRow.osdText
  rw [hup, List.takeWhile_cons_of_pos (by decide), List.drop_one, List.tail_cons, List.append_assoc,
    List.takeWhile_append_of_pos (hdigits osd)]
  cases osds with
  | nil =>
      -- no comma stops it
      have hrest : ∀ c ∈ ']' :: 'p' :: digits r.primary, decide (c ≠ ',') = true := by
        intro c hc
        rcases List.mem_cons.mp hc with rfl | hc
        · decide
        · rcases List.mem_cons.mp hc with rfl | hc
          · decide
          · exact hdigits _ c hc
      rw [if_pos rfl, List.flatMap_nil, List.nil_append, List.takeWhile_eq_self_iff.mpr hrest]
  | cons o osds =>
      rw [if_neg (List.cons_ne_nil _ _), List.flatMap_cons, List.cons_append, List.cons_append,
        List.takeWhile_cons_of_neg (by decide), List.append_nil]

/-- **A row is under its primary exactly if that is the first of several OSDs.** -/
theorem osdText_primary_iff (r : OsdRow) :
    r.osdText = digits r.primary ↔ 2 ≤ r.osds.length ∧ r.osds.head? = some r.primary := by
  obtain ⟨osd, osds, hosds, htext⟩ := osdText_eq r
  rw [htext, hosds]
  cases osds with
  | nil =>
      rw [if_pos rfl]
      refine iff_of_false (fun h => ?_) fun h => absurd h.1 (by simp)
      have hbracket : (']' : Char).isDigit = true := by
        refine isDigit_digits ']' (n := r.primary) ?_
        rw [← h]
        simp
      exact absurd hbracket (by decide)
  | cons o osds =>
      rw [if_neg (List.cons_ne_nil _ _), List.head?_cons, Option.some.injEq]
      constructor
      · intro h
        exact ⟨by simp, digits_injective h⟩
      · intro h
        rw [h.2]

/-- What is made of a table. -/
theorem extractPgAndPrimaryOsd_rows (t : PgTable) :
    extractPgAndPrimaryOsd t.text = some (groups (t.rows.map fun r => r.entry)) := by
  have hlines : ∀ l ∈ t.rows.map fun r => r.line, '\n' ∉ l := by
    intro l hl
    obtain ⟨r, _, rfl⟩ := List.mem_map.mp hl
    exact newline_notMem_line r.toTableRow
  have hrows := extractLoop_rows (t.rows.map OsdRow.toTableRow) ∅
  rw [List.map_map, List.map_map] at hrows
  unfold extractPgAndPrimaryOsd PgTable.text
  rw [getlines_tableText t.header_line hlines]
  exact hrows

theorem mem_entries {k : List Char} {e : List Char × List Char} :
    e ∈ (t.rows.map fun r => r.entry).filter (·.1 = k) ↔
      ∃ r ∈ t.rows, r.osdText = k ∧ r.entry = e := by
  rw [List.mem_filter, List.mem_map, decide_eq_true_iff]
  constructor
  · intro h
    obtain ⟨⟨r, hr, rfl⟩, hk⟩ := h
    exact ⟨r, hr, hk, rfl⟩
  · intro h
    obtain ⟨r, hr, hk, rfl⟩ := h
    exact ⟨⟨r, hr, rfl⟩, hk⟩

/-- The PGs in the map are those of the rows. -/
theorem flatMap_entries_perm (t : PgTable) :
    ((groups (t.rows.map fun r => r.entry)).toList.flatMap Prod.snd).Perm
      (t.rows.map fun r => r.first.text) := by
  have hperm := flatMap_groups_perm (t.rows.map fun r => r.entry)
  rwa [List.map_map] at hperm

/-- Where the PGs are listed right, they differ, and each row is under its primary. -/
theorem osdText_of_listed (h : t.Listed (groups (t.rows.map fun r => r.entry))) :
    (t.rows.map fun r => r.first.text).Nodup ∧ ∀ r ∈ t.rows, r.osdText = digits r.primary := by
  have hnodup : (t.rows.map fun r => r.first.text).Nodup := by
    refine List.nodup_iff_count_eq_one.mpr fun pg hpg => ?_
    obtain ⟨r, hr, rfl⟩ := List.mem_map.mp hpg
    rw [← (flatMap_entries_perm t).count_eq]
    exact h.once r hr
  refine ⟨hnodup, fun r hr => ?_⟩
  obtain ⟨pgs, hpgs, hin⟩ := h.underPrimary r hr
  rw [getElem?_groups] at hpgs
  split at hpgs
  case isTrue => cases hpgs
  case isFalse =>
    obtain rfl := Option.some.inj hpgs
    obtain ⟨e, he, hsnd⟩ := List.mem_map.mp hin
    obtain ⟨r', hr', hkey, rfl⟩ := mem_entries.mp he
    -- the entry under the primary is the row's own
    obtain rfl := List.inj_on_of_nodup_map hnodup hr' hr hsnd
    exact hkey

theorem listed_of_osdText (hnodup : (t.rows.map fun r => r.first.text).Nodup)
    (h : ∀ r ∈ t.rows, r.osdText = digits r.primary) :
    t.Listed (groups (t.rows.map fun r => r.entry)) := by
  refine ⟨fun r hr => ?_, fun r hr => ?_, fun k hk => ?_⟩
  · rw [(flatMap_entries_perm t).count_eq]
    exact List.nodup_iff_count_eq_one.mp hnodup _ (List.mem_map_of_mem hr)
  · have hentry := mem_entries.mpr ⟨r, hr, h r hr, rfl⟩
    refine ⟨_, (getElem?_groups _ _).trans (if_neg (List.ne_nil_of_mem hentry)), ?_⟩
    exact List.mem_map_of_mem hentry
  · have hsome := TreeMap.mem_iff_isSome_getElem?.mp hk
    rw [getElem?_groups] at hsome
    split at hsome
    case isTrue => cases hsome
    case isFalse hne =>
      obtain ⟨e, he⟩ := List.exists_mem_of_ne_nil _ hne
      obtain ⟨r, hr, hkey, _⟩ := mem_entries.mp he
      exact ⟨r, hr, hkey.symm.trans (h r hr)⟩

/-- **When the PGs are listed right**: exactly if the PGs of the rows differ, and every row has more
    than one OSD and its primary is the first of them. -/
theorem pgs_listed_iff (t : PgTable) :
    (∃ tokens, extractPgAndPrimaryOsd t.text = some tokens ∧ t.Listed tokens) ↔
      (t.rows.map fun r => r.first.text).Nodup ∧
        ∀ r ∈ t.rows, 2 ≤ r.osds.length ∧ r.osds.head? = some r.primary := by
  have hrun := extractPgAndPrimaryOsd_rows t
  constructor
  · intro h
    obtain ⟨tokens, htokens, hlisted⟩ := h
    obtain rfl := Option.some.inj (hrun.symm.trans htokens)
    obtain ⟨hnodup, htext⟩ := osdText_of_listed hlisted
    exact ⟨hnodup, fun r hr => (osdText_primary_iff r).mp (htext r hr)⟩
  · intro h
    refine ⟨_, hrun, listed_of_osdText h.1 fun r hr => ?_⟩
    exact (osdText_primary_iff r).mpr (h.2 r hr)

end Listing

/-- The PG `1.0` with a column UP. -/
def oneRow (up : Word) (hup : up.text.head? ≠ some ',') : TableRow where
  indent := 0
  first := ⟨['1', '.', '0'], by decide, by simp [isspace]⟩
  middle := List.replicate 12 (0, ⟨['0'], by decide, by simp [isspace]⟩)
  gap := 0
  up := up
  others := []
  trailing := 0
  middle_length := List.length_replicate
  up_head := hup

/-- A pool without replicas. -/
def oneOsd : PgTable where
  header := ['P', 'G']
  rows := [{ oneRow ⟨['[', '3', ']', 'p', '3'], by decide, by simp [isspace]⟩ (by decide) with
    osds := [3], primary := 3, osds_ne := by decide, up_eq := by decide }]
  header_line := by decide

/-- A PG whose primary is not the first OSD. -/
def laterPrimary : PgTable where
  header := ['P', 'G']
  rows := [{ oneRow ⟨['[', '3', ',', '1', ']', 'p', '1'], by decide, by simp [isspace]⟩
      (by decide) with
    osds := [3, 1], primary := 1, osds_ne := by decide, up_eq := by decide }]
  header_line := by decide

theorem pg_under_other_key :
    (¬ ∃ tokens, extractPgAndPrimaryOsd oneOsd.text = some tokens ∧ oneOsd.Listed tokens) ∧
      ¬ ∃ tokens, extractPgAndPrimaryOsd laterPrimary.text = some tokens ∧
        laterPrimary.Listed tokens := by
  constructor
  · intro h
    obtain ⟨tokens, htokens, hlisted⟩ := h
    obtain rfl := Option.some.inj ((extractPgAndPrimaryOsd_rows oneOsd).symm.trans htokens)
    exact absurd ((osdText_of_listed hlisted).2 _ List.mem_cons_self) (by decide)
  · intro h
    obtain ⟨tokens, htokens, hlisted⟩ := h
    obtain rfl := Option.some.inj ((extractPgAndPrimaryOsd_rows laterPrimary).symm.trans htokens)
    exact absurd ((osdText_of_listed hlisted).2 _ List.mem_cons_self) (by decide)

/-! ## 5. Both parsers -/

/-- A row with a PG in the first column. -/
structure DataRow extends TableRow where
  pg_dot : '.' ∈ first.text

/-- The line of the footer, which starts with a star. -/
structure NoteRow extends TableRow where
  star : first.text = ['*']

/-- An output: the header, a row for each PG, and the blank line and the note of the footer where
    there are such. -/
structure PgOutput where
  header : List Char
  rows : List DataRow
  blank : Bool
  note : Option NoteRow
  header_line : '\n' ∉ header
  distinct : (rows.map fun r => r.first.text).Nodup

namespace PgOutput

variable (o : PgOutput)

/-- The lines behind the rows. -/
def footer : List (List Char) :=
  (if o.blank then [[]] else []) ++ o.note.toList.map fun r => r.line

def lines : List (List Char) := (o.rows.map fun r => r.line) ++ o.footer

def text : List Char := tableText o.header o.lines

/-- A PG of the rows. -/
def HasPg (pg : List Char) : Prop := ∃ r ∈ o.rows, r.first.text = pg

/-- **Both functions return, and find the PGs of the rows.** -/
structure Agree (pgs : List (List Char)) (tokens : PgsOfOsd) : Prop where
  extractPgs : ∀ pg, pg ∈ pgs ↔ o.HasPg pg
  extractPgAndPrimaryOsd : ∀ pg, pg ∈ tokens.toList.flatMap Prod.snd ↔ o.HasPg pg

end PgOutput

/-- What `extractPgs` takes from a line. -/
def firstTen (token : List Char) : List Char := eraseSpaces (token.take 10)

section Both

variable {o : PgOutput}

theorem newline_notMem_lines (o : PgOutput) : ∀ l ∈ o.lines, '\n' ∉ l := by
  intro l hl
  rcases List.mem_append.mp hl with hrow | hfooter
  · obtain ⟨r, _, rfl⟩ := List.mem_map.mp hrow
    exact newline_notMem_line r.toTableRow
  · rcases List.mem_append.mp hfooter with hblank | hnote
    · split at hblank
      · rw [List.mem_singleton.mp hblank]
        exact List.not_mem_nil
      · exact absurd hblank List.not_mem_nil
    · obtain ⟨r, _, rfl⟩ := List.mem_map.mp hnote
      exact newline_notMem_line r.toTableRow

/-- `extractPgs` drops the last line, whatever it is. -/
theorem extractPgs_text (o : PgOutput) :
    extractPgs o.text = if o.lines = [] then none else some (o.lines.dropLast.map firstTen) := by
  have hlines := getlines_tableText o.header_line (newline_notMem_lines o)
  unfold extractPgs PgOutput.text
  rw [hlines, List.map_cons]
  dsimp only
  by_cases hnil : o.lines = []
  · rw [if_pos hnil, hnil]
    rfl
  · rw [if_neg hnil, if_neg fun h => hnil (List.map_eq_nil_iff.mp h), ← List.map_dropLast]
    rfl

/-- The note counts as a row. -/
theorem extractPgAndPrimaryOsd_text (o : PgOutput) :
    extractPgAndPrimaryOsd o.text =
      some (groups ((o.rows.map fun r => r.entry) ++ o.note.toList.map fun r => r.entry)) := by
  have hlines := getlines_tableText o.header_line (newline_notMem_lines o)
  have hrows := extractLoop_rows (o.rows.map DataRow.toTableRow) ∅
  rw [List.map_map, List.map_map] at hrows
  have hblank : ∀ more tokens, extractLoop ((if o.blank then [[]] else []) ++ more) tokens =
      extractLoop more tokens := by
    intro more tokens
    cases o.blank with
    | false => rfl
    | true => rfl
  have hnote : ∀ tokens, extractLoop (o.note.toList.map fun r => r.line) tokens =
      some ((o.note.toList.map fun r => r.entry).foldl pushGroup tokens) := by
    intro tokens
    have h := extractLoop_rows (o.note.toList.map NoteRow.toTableRow) tokens
    rwa [List.map_map, List.map_map] at h
  unfold extractPgAndPrimaryOsd PgOutput.text
  rw [hlines, List.drop_one, List.tail_cons, PgOutput.lines, PgOutput.footer, extractLoop_append]
  show (extractLoop (o.rows.map (TableRow.line ∘ DataRow.toTableRow)) ∅).bind _ = _
  rw [hrows, Option.bind_some, hblank, hnote, groups, List.foldl_append]
  rfl

/-- The PGs in the map are the first columns of the rows and of the note. -/
theorem mem_entries_text (o : PgOutput) (pg : List Char) :
    pg ∈ ((o.rows.map fun r => r.entry) ++ o.note.toList.map fun r => r.entry).map Prod.snd ↔
      o.HasPg pg ∨ o.note.isSome = true ∧ pg = ['*'] := by
  have hnote : pg ∈ (o.note.toList.map fun r => r.entry).map Prod.snd ↔
      o.note.isSome = true ∧ pg = ['*'] := by
    cases o.note with
    | none => simp
    | some r =>
        have hstar : r.entry.2 = ['*'] := r.star
        simp [hstar]
  have hrows : pg ∈ (o.rows.map fun r => r.entry).map Prod.snd ↔ o.HasPg pg := by
    rw [List.map_map, List.mem_map]
    rfl
  rw [List.map_append, List.mem_append, hrows, hnote]

/-- A PG has a dot. -/
theorem not_hasPg_star (o : PgOutput) : ¬ o.HasPg ['*'] := by
  intro h
  obtain ⟨r, _, hfirst⟩ := h
  have hdot := r.pg_dot
  rw [hfirst] at hdot
  exact absurd hdot (by decide)

/-- Where the footer is the blank line only, it is what `extractPgs` drops. -/
theorem extractPgs_blank (hblank : o.blank = true) (hnote : o.note = none) :
    extractPgs o.text = some (o.rows.map fun r => firstTen r.line) := by
  have hlines : o.lines = (o.rows.map fun r => r.line) ++ [[]] := by
    rw [PgOutput.lines, PgOutput.footer, hblank, hnote]
    rfl
  have hne : o.lines ≠ [] := by
    rw [hlines]
    exact List.append_ne_nil_of_right_ne_nil _ (List.cons_ne_nil _ _)
  rw [extractPgs_text, if_neg hne, hlines, List.dropLast_concat, List.map_map]
  rfl

/-- Where there is a blank line and no note, the first ten characters decide. -/
theorem agree_of_firstTen (hblank : o.blank = true) (hnote : o.note = none)
    (h : ∀ pg, (∃ r ∈ o.rows, firstTen r.line = pg) ↔ o.HasPg pg) :
    ∃ pgs tokens, extractPgs o.text = some pgs ∧ extractPgAndPrimaryOsd o.text = some tokens ∧
      o.Agree pgs tokens := by
  refine ⟨_, _, extractPgs_blank hblank hnote, extractPgAndPrimaryOsd_text o, ?_, ?_⟩
  · intro pg
    rw [List.mem_map]
    exact h pg
  · intro pg
    rw [(flatMap_groups_perm _).mem_iff, mem_entries_text, hnote]
    simp

/-- Without a footer the last row is lost. -/
theorem extractPgs_loses (hblank : o.blank = false) (hnote : o.note = none) {pgs : List (List Char)}
    (hrun : extractPgs o.text = some pgs) : ¬ ∀ pg, pg ∈ pgs ↔ o.HasPg pg := by
  have hlines : o.lines = o.rows.map fun r => r.line := by
    rw [PgOutput.lines, PgOutput.footer, hblank, hnote]
    exact List.append_nil _
  rw [extractPgs_text, hlines] at hrun
  split at hrun
  case isTrue => cases hrun
  case isFalse hne =>
    obtain rfl := Option.some.inj hrun
    intro h
    have hsub : (o.rows.map fun r => r.first.text) ⊆
        ((o.rows.map fun r => r.line).dropLast.map firstTen) := by
      intro pg hpg
      obtain ⟨r, hr, rfl⟩ := List.mem_map.mp hpg
      exact (h _).mpr ⟨r, hr, rfl⟩
    have hlen := List.Nodup.length_le_of_subset o.distinct hsub
    have hpos : 0 < (o.rows.map fun r => r.line).length := List.length_pos_iff.mpr hne
    simp only [List.length_map, List.length_dropLast] at hlen hpos
    omega

/-- **When the two parsers agree**: exactly if there is a blank line but no note, and the first ten
    characters of the rows, without white space, are the PGs. -/
theorem parsers_agree_iff (o : PgOutput) :
    (∃ pgs tokens, extractPgs o.text = some pgs ∧ extractPgAndPrimaryOsd o.text = some tokens ∧
        o.Agree pgs tokens) ↔
      o.blank = true ∧ o.note = none ∧
        ∀ pg, (∃ r ∈ o.rows, firstTen r.line = pg) ↔ o.HasPg pg := by
  constructor
  · intro h
    obtain ⟨pgs, tokens, hpgs, htokens, hagree⟩ := h
    have hnote : o.note = none := by
      cases hn : o.note with
      | none => rfl
      | some r =>
          obtain rfl := Option.some.inj ((extractPgAndPrimaryOsd_text o).symm.trans htokens)
          have hstar := (mem_entries_text o ['*']).mpr (.inr ⟨by rw [hn]; rfl, rfl⟩)
          have hpg := (hagree.extractPgAndPrimaryOsd _).mp
            ((flatMap_groups_perm _).mem_iff.mpr hstar)
          exact absurd hpg (not_hasPg_star o)
    have hblank : o.blank = true := by
      cases hb : o.blank with
      | true => rfl
      | false => exact absurd hagree.extractPgs (extractPgs_loses hb hnote hpgs)
    refine ⟨hblank, hnote, fun pg => ?_⟩
    obtain rfl := Option.some.inj ((extractPgs_blank hblank hnote).symm.trans hpgs)
    rw [← hagree.extractPgs, List.mem_map]
  · intro h
    exact agree_of_firstTen h.1 h.2.1 h.2.2

/-- There is a second column. -/
theorem columns_cons (r : TableRow) : ∃ c cols, r.columns = c :: cols := by
  obtain ⟨c, middle, hmiddle⟩ := List.exists_cons_of_length_eq_add_one r.middle_length
  exact ⟨c, middle ++ (r.gap, r.up) :: r.others, by rw [TableRow.columns, hmiddle]; rfl⟩

/-- The first ten characters: what is in them of the first column, and of what begins with the
    second one. -/
theorem firstTen_line (r : TableRow) {c : Nat × Word} {cols : List (Nat × Word)}
    (hcols : r.columns = c :: cols) :
    ∃ rest, firstTen r.line = r.first.text.take (10 - r.indent) ++
      eraseSpaces ((c.2.text ++ rest).take (10 - r.indent - r.first.text.length - (c.1 + 1))) := by
  refine ⟨cols.flatMap columnText ++ List.replicate r.trailing ' ', ?_⟩
  have hline : r.line = List.replicate r.indent ' ' ++ (r.first.text ++
      (List.replicate (c.1 + 1) ' ' ++ (c.2.text ++ (cols.flatMap columnText ++
        List.replicate r.trailing ' ')))) := by
    simp [TableRow.line, hcols, columnText]
  have hfirst : eraseSpaces (r.first.text.take (10 - r.indent)) =
      r.first.text.take (10 - r.indent) :=
    List.filter_eq_self.mpr fun x hx => by
      rw [r.first.noSpace x (List.mem_of_mem_take hx)]
      rfl
  unfold firstTen
  rw [hline, List.take_append, List.take_append, List.take_append, List.take_replicate,
    List.take_replicate, eraseSpaces_append, eraseSpaces_append, eraseSpaces_append,
    eraseSpaces_blanks, eraseSpaces_blanks, List.length_replicate, List.length_replicate, hfirst,
    List.nil_append, List.nil_append]

/-- **The first ten characters are the PG** exactly if it ends in them and the second column begins
    behind them. -/
theorem firstTen_eq_iff (r : TableRow) {c : Nat × Word} {cols : List (Nat × Word)}
    (hcols : r.columns = c :: cols) :
    firstTen r.line = r.first.text ↔
      r.indent + r.first.text.length ≤ 10 ∧
        10 ≤ r.indent + r.first.text.length + (c.1 + 1) := by
  obtain ⟨rest, hten⟩ := firstTen_line r hcols
  rw [hten]
  rcases Nat.lt_or_ge 10 (r.indent + r.first.text.length) with hlong | hshort
  · -- the end of the PG is cut off
    have hzero : 10 - r.indent - r.first.text.length - (c.1 + 1) = 0 := by omega
    rw [hzero, List.take_zero]
    refine iff_of_false (fun h => ?_) fun h => absurd h.1 (by omega)
    have hlen := congrArg List.length h
    have hpos : 0 < r.first.text.length := List.length_pos_iff.mpr r.first.ne_nil
    rw [List.length_append, List.length_take] at hlen
    replace hlen : min (10 - r.indent) r.first.text.length + 0 = r.first.text.length := hlen
    omega
  · rw [List.take_of_length_le (by omega), List.append_right_eq_self]
    constructor
    · intro h
      refine ⟨hshort, Nat.le_of_not_lt fun hlt => ?_⟩
      -- the first character of the second column is there
      obtain ⟨x, text, hx⟩ := List.exists_cons_of_ne_nil c.2.ne_nil
      obtain ⟨n, hn⟩ := Nat.exists_eq_succ_of_ne_zero
        (show 10 - r.indent - r.first.text.length - (c.1 + 1) ≠ 0 by omega)
      rw [hn, hx, List.cons_append, List.take_succ_cons] at h
      have hspace := c.2.noSpace x (hx ▸ List.mem_cons_self)
      refine List.filter_eq_nil_iff.mp h x List.mem_cons_self ?_
      rw [hspace]
      rfl
    · intro h
      have hzero : 10 - r.indent - r.first.text.length - (c.1 + 1) = 0 := by omega
      rw [hzero, List.take_zero]
      rfl

/-- **They agree on a tidy table**: with a blank line and no note, if every PG ends in the first ten
    characters and the second columns begin behind them. -/
theorem agree_of_tidy (hblank : o.blank = true) (hnote : o.note = none)
    (htidy : ∀ r ∈ o.rows, r.indent + r.first.text.length ≤ 10 ∧
      ∀ c cols, r.columns = c :: cols → 10 ≤ r.indent + r.first.text.length + (c.1 + 1)) :
    ∃ pgs tokens, extractPgs o.text = some pgs ∧ extractPgAndPrimaryOsd o.text = some tokens ∧
      o.Agree pgs tokens := by
  have hten : ∀ r ∈ o.rows, firstTen r.line = r.first.text := by
    intro r hr
    obtain ⟨c, cols, hcols⟩ := columns_cons r.toTableRow
    obtain ⟨hshort, hgap⟩ := htidy r hr
    exact (firstTen_eq_iff r.toTableRow hcols).mpr ⟨hshort, hgap c cols hcols⟩
  refine agree_of_firstTen hblank hnote fun pg => ?_
  constructor
  · intro h
    obtain ⟨r, hr, hpg⟩ := h
    exact ⟨r, hr, (hten r hr).symm.trans hpg⟩
  · intro h
    obtain ⟨r, hr, hpg⟩ := h
    exact ⟨r, hr, (hten r hr).trans hpg⟩

end Both

/-- A table of one row without a footer. -/
def noFooter : PgOutput where
  header := ['P', 'G']
  rows := [{ oneRow ⟨['[', '3', ']', 'p', '3'], by decide, by simp [isspace]⟩ (by decide) with
    pg_dot := by decide }]
  blank := false
  note := none
  header_line := by decide
  distinct := by decide

/-- A table without rows and without a footer: the header is the only line, and `extractPgs` removes
    the last element of an empty vector. -/
def emptyTable : PgOutput where
  header := ['P', 'G']
  rows := []
  blank := false
  note := none
  header_line := by decide
  distinct := by decide

theorem parsers_differ :
    (¬ ∃ pgs tokens, extractPgs noFooter.text = some pgs ∧
        extractPgAndPrimaryOsd noFooter.text = some tokens ∧ noFooter.Agree pgs tokens) ∧
      extractPgs emptyTable.text = none := by
  constructor
  · intro h
    obtain ⟨pgs, tokens, hpgs, _, hagree⟩ := h
    exact extractPgs_loses rfl rfl hpgs hagree.extractPgs
  · exact extractPgs_text emptyTable

end DovecotCeph
