/-
  File:      DovecotCeph/Librmb/LsCmdParser.lean
  Subject:   The queries of `rmb ls` and `rmb get` (ls_cmd_parser.h, ls_cmd_parser.cpp): predicates
             `key op value` with `;` between them.

  * `Predicate.eval`: a predicate against the value of an attribute;
  * `queryPredicates`: the predicates of a query, in its order;
  * **`parseRoundsInt_eq`**: the `int` of the parser does not wrap in a text that is not longer than
    an `int` can count;
  * **`parseLsString_predicates`**, `parseLsString_keys`: `parse_ls_string` makes the map of the
    last predicate of each key, and the list of all keys;
  * **`parse_inverts_print`**: a query that was printed from predicates is parsed into them.
-/
import DovecotCeph.Lib.OrderedMap
import DovecotCeph.Librmb.RadosUtil
import DovecotCeph.Rados
import Mathlib.Algebra.Group.Int.Defs
import Mathlib.Algebra.Group.Nat.Defs
import Mathlib.Data.List.Infix
import Mathlib.Data.String.Basic

namespace DovecotCeph.Rmb

open Lib Std

/-! ## 1. Predicates -/

/-- A `time_t` from a text `%Y-%m-%d %H:%M:%S` of local time; `none` where `strptime` fails. -/
abbrev LocalTime := String → Option Int

/-- `RadosUtils::convert_str_to_time_t`: what it leaves in `*val`. -/
def convertStrToTimeT (localTime : LocalTime) (date : String) : Int :=
  (localTime (cStr date)).getD 0

/-- `std::stol`: `none` where it throws. -/
def stol (s : String) : Option Int :=
  let r := readSign (s.toList.dropWhile isspace)
  let digits := r.2.takeWhile Char.isDigit
  let n : Int := Nat.ofDigitChars 10 digits 0
  let v := if r.1 then -n else n
  if digits = [] then none
  else if v < -2 ^ 63 ∨ 2 ^ 63 - 1 < v then none
  else some v

/-- `Predicate`. The operator is `none` where there is none: the code then reads the byte in front
    of the text. -/
structure Predicate where
  key : String
  op : Option Char
  value : String
  valid : Bool
  deriving DecidableEq, Repr

/-- The comparisons of `eval`: what is neither `=` nor `>` is taken for `<`. -/
def compareBy (op : Option Char) (a b : Int) : Bool :=
  if op = some '=' then decide (a = b)
  else if op = some '>' then decide (a > b)
  else decide (a < b)

/-- **`Predicate::eval`** of the value of an attribute. -/
def Predicate.eval (localTime : LocalTime) (p : Predicate) (v : String) : Bool :=
  let rboxKey := p.key.toList.head?
  if rboxKey = some 'R' ∨ rboxKey = some 'S' then
    -- the difference of the times is compared with zero
    compareBy p.op ((stol v).getD (-1)) (convertStrToTimeT localTime p.value)
  else if rboxKey = some 'V' ∨ rboxKey = some 'Z' ∨ rboxKey = some 'U' then
    -- one `try` block: the second number is not read if the first one is none
    let val := stol v
    let val2 := val.bind fun _ => stol p.value
    compareBy p.op (val.getD (-1) % 2 ^ 64) (val2.getD (-1) % 2 ^ 64)
  else decide (p.value = v)

/-! ## 2. The parser -/

/-- `CmdLineParser`. -/
structure CmdLineParser where
  predicates : TreeMap String Predicate := ∅
  lsValue : String
  keys : String := ""

/-- The predicate that `create_predicate` makes: the operator is the first `=`, or else the first
    `>`, or else the first `<`. -/
def predicateOf (lsValue : List Char) : Predicate :=
  let pos := ((lsValue.findIdx? (· = '=')).or (lsValue.findIdx? (· = '>'))).or
    (lsValue.findIdx? (· = '<'))
  match pos with
  | some i => ⟨String.ofList (lsValue.take i), lsValue[i]?, String.ofList (lsValue.drop (i + 1)),
      true⟩
  -- `substr(0, npos)` and `substr(npos + 1)`
  | none => ⟨String.ofList lsValue, none, String.ofList lsValue, true⟩

namespace CmdLineParser

/-- The constructor. Its search for a quote looks at the member, which is empty. -/
def new (lsValue : String) : CmdLineParser := { lsValue }

/-- `create_predicate`, and the entry that its callers make. -/
def createPredicate (parser : CmdLineParser) (lsValue : List Char) : CmdLineParser :=
  let p := predicateOf lsValue
  { parser with
    keys := parser.keys ++ (p.key ++ " ")
    predicates := if p.valid then parser.predicates.insert p.key p else parser.predicates }

theorem drop_lt {ls : List Char} {offset pos : Nat}
    (h : (ls.drop offset).findIdx? (· = ';') = some pos) :
    ls.length - (offset + pos + 1) < ls.length - offset := by
  have hlt := (List.findIdx?_eq_some_iff_findIdx_eq.mp h).1
  rw [List.length_drop] at hlt
  omega

/-- The loop of `parse_ls_string` with the predicate behind it, from an offset on, which is an `int`
    in `parseRoundsInt`. -/
def parseRounds (ls : List Char) (offset : Nat) (parser : CmdLineParser) : Bool × CmdLineParser :=
  let tmp := ls.drop offset
  match h : tmp.findIdx? (· = ';') with
  | some pos => parseRounds ls (offset + pos + 1) (parser.createPredicate (tmp.take pos))
  | none => ((predicateOf tmp).valid, parser.createPredicate tmp)
termination_by ls.length - offset
decreasing_by exact drop_lt h

/-- **`CmdLineParser::parse_ls_string`**. -/
def parseLsString (parser : CmdLineParser) : Bool × CmdLineParser :=
  let ls := parser.lsValue.toList
  match ls.findIdx? (· = ';') with
  | none => ((predicateOf ls).valid, parser.createPredicate ls)
  | some _ => parseRounds ls 0 parser

/-- The loop with the source's `int offset`: the new beginning is a `size_t`, and `substr` throws if
    it is behind the text. `none` also where the loop has not ended after so many rounds. -/
def parseRoundsInt (ls : List Char) :
    Nat → Int → List Char → CmdLineParser → Option (Bool × CmdLineParser)
  | 0, _, _, _ => none
  | n + 1, offset, tmp, parser =>
    match tmp.findIdx? (· = ';') with
    | none => some ((predicateOf tmp).valid, parser.createPredicate tmp)
    | some pos =>
      let next : Int := (offset + pos + 1) % 2 ^ 64
      if ls.length < next then none
      else parseRoundsInt ls n (next.bmod (2 ^ 32)) (ls.drop next.toNat)
        (parser.createPredicate (tmp.take pos))

/-- `contains_key`: the key is looked for anywhere in the text of the keys. -/
def containsKey (parser : CmdLineParser) (key : String) : Bool :=
  decide (key.toList <:+: parser.keys.toList)

/-- `get_predicate`: `none` is the null pointer. -/
def getPredicate (parser : CmdLineParser) (key : String) : Option Predicate :=
  parser.predicates[key]?

end CmdLineParser

/-! ## 3. What is parsed -/

/-- The predicates of a query. -/
def queryPredicates (query : String) : List Predicate :=
  (query.toList.splitOn ';').map predicateOf

theorem predicateOf_valid (ls : List Char) : (predicateOf ls).valid = true := by
  unfold predicateOf
  dsimp only
  split <;> rfl

namespace CmdLineParser

theorem createPredicate_predicates (parser : CmdLineParser) (ls : List Char) :
    (parser.createPredicate ls).predicates =
      parser.predicates.insert (predicateOf ls).key (predicateOf ls) := by
  unfold createPredicate
  dsimp only
  rw [if_pos (predicateOf_valid ls)]

theorem createPredicate_keys (parser : CmdLineParser) (ls : List Char) :
    (parser.createPredicate ls).keys = parser.keys ++ ((predicateOf ls).key ++ " ") :=
  rfl

theorem not_mem_of_none {ls : List Char} (h : ls.findIdx? (· = ';') = none) : ';' ∉ ls := by
  intro hc
  have := List.findIdx?_eq_none_iff.mp h ';' hc
  simp at this

/-- **The loop makes the predicates between the semicolons.** -/
theorem parseRounds_eq (ls : List Char) (offset : Nat) (parser : CmdLineParser) :
    parseRounds ls offset parser =
      (true, ((ls.drop offset).splitOn ';').foldl createPredicate parser) := by
  fun_induction parseRounds ls offset parser with
  | case1 offset parser tmp pos h ih =>
      obtain ⟨hlt, hsemi, hbefore⟩ := List.findIdx?_eq_some_iff_getElem.mp h
      have hdrop : ls.drop (offset + pos + 1) = tmp.drop (pos + 1) := by
        rw [List.drop_drop]
        congr 1
      have hsplit : tmp = tmp.take pos ++ ';' :: tmp.drop (pos + 1) := by
        have hget : tmp[pos] = ';' := of_decide_eq_true hsemi
        rw [← hget, List.getElem_cons_drop, List.take_append_drop]
      have htake : ';' ∉ tmp.take pos := by
        intro hc
        obtain ⟨i, hi, hget⟩ := List.mem_take_iff_getElem.mp hc
        have := hbefore i (by omega)
        simp [hget] at this
      have hpieces : tmp.splitOn ';' = tmp.take pos :: (tmp.drop (pos + 1)).splitOn ';' := by
        conv_lhs => rw [hsplit]
        exact List.splitOn_append_cons_self_of_not_mem htake _
      rw [ih, hdrop, hpieces, List.foldl_cons]
  | case2 offset parser tmp h =>
      have hpieces : tmp.splitOn ';' = [tmp] := List.splitOn_eq_singleton (not_mem_of_none h)
      rw [hpieces, predicateOf_valid]
      rfl

/-- **The `int` does not wrap** in a text of fewer than `2 ^ 31` characters; a command line is
    shorter. -/
theorem parseRoundsInt_eq {ls : List Char} (hls : ls.length < 2 ^ 31) {n offset : Nat}
    (hoffset : offset ≤ ls.length) (hn : ls.length - offset < n) (parser : CmdLineParser) :
    parseRoundsInt ls n offset (ls.drop offset) parser = some (parseRounds ls offset parser) := by
  induction n generalizing offset parser with
  | zero => exact absurd hn (Nat.not_lt_zero _)
  | succ n ih =>
      unfold parseRoundsInt parseRounds
      dsimp only
      split
      case h_1 hfind => rw [hfind]
      case h_2 pos hfind =>
        obtain ⟨hpos, _⟩ := List.findIdx?_eq_some_iff_findIdx_eq.mp hfind
        rw [List.length_drop] at hpos
        -- the beginning of the rest, as it is
        have hnext : ((offset : Int) + pos + 1) % 2 ^ 64 = (offset + pos + 1 : Nat) := by omega
        have hkept : ((offset + pos + 1 : Nat) : Int).bmod (2 ^ 32) = (offset + pos + 1 : Nat) :=
          Int.bmod_eq_of_le (by omega) (by omega)
        have hle : ¬ (ls.length : Int) < (offset + pos + 1 : Nat) := by omega
        rw [hfind]
        dsimp only
        rw [hnext, if_neg hle, hkept, Int.toNat_natCast]
        exact ih (by omega) (by omega) _

/-- `parse_ls_string` accepts every query. -/
theorem parseLsString_eq (parser : CmdLineParser) :
    parser.parseLsString =
      (true, (parser.lsValue.toList.splitOn ';').foldl createPredicate parser) := by
  unfold parseLsString
  dsimp only
  split
  · rename_i h
    have hpieces : parser.lsValue.toList.splitOn ';' = [parser.lsValue.toList] :=
      List.splitOn_eq_singleton (not_mem_of_none h)
    rw [hpieces, predicateOf_valid]
    rfl
  · exact parseRounds_eq _ 0 parser

theorem foldl_predicates (pieces : List (List Char)) (parser : CmdLineParser) :
    (pieces.foldl createPredicate parser).predicates =
      (pieces.map predicateOf).foldl (fun t p => t.insert p.key p) parser.predicates := by
  induction pieces generalizing parser with
  | nil => rfl
  | cons piece pieces ih =>
      rw [List.foldl_cons, ih, createPredicate_predicates]
      rfl

theorem foldl_keys (pieces : List (List Char)) (parser : CmdLineParser) :
    (pieces.foldl createPredicate parser).keys.toList =
      parser.keys.toList ++ (pieces.map predicateOf).flatMap fun p => p.key.toList ++ [' '] := by
  induction pieces generalizing parser with
  | nil => exact (List.append_nil _).symm
  | cons piece pieces ih =>
      rw [List.foldl_cons, ih, createPredicate_keys, String.toList_append, String.toList_append,
        List.map_cons, List.flatMap_cons, List.append_assoc]
      rfl

/-- **The map of a parsed query** has the last predicate of each key. -/
theorem parseLsString_predicates (query key : String) :
    (new query).parseLsString.2.getPredicate key =
      lastItem Predicate.key (queryPredicates query) key := by
  rw [parseLsString_eq]
  unfold getPredicate
  rw [foldl_predicates]
  exact getElem?_assignments _ _ _

example : (queryPredicates "M=abc;U=1;R<2013-12-04 15:03").map (·.value) =
    ["abc", "1", "2013-12-04 15:03"] := by
  decide +kernel

theorem parseLsString_keys (query : String) :
    (new query).parseLsString.2.keys.toList =
      (queryPredicates query).flatMap fun p => p.key.toList ++ [' '] := by
  rw [parseLsString_eq, foldl_keys]
  rfl

end CmdLineParser

/-! ## 4. A query that is printed -/

/-- The operators of a query. -/
inductive QueryOp where
  | eq
  | gt
  | lt
  deriving DecidableEq, Repr

def QueryOp.char : QueryOp → Char
  | .eq => '='
  | .gt => '>'
  | .lt => '<'

/-- A predicate to print. An operator that is looked for earlier must not stand in the value. -/
structure QueryTerm where
  key : String
  op : QueryOp
  value : String
  keyPlain : ∀ c ∈ key.toList, c ≠ ';' ∧ c ≠ '=' ∧ c ≠ '>' ∧ c ≠ '<'
  valueSemi : ';' ∉ value.toList
  valueEq : op ≠ .eq → '=' ∉ value.toList
  valueGt : op = .lt → '>' ∉ value.toList

namespace QueryTerm

def text (t : QueryTerm) : List Char := t.key.toList ++ t.op.char :: t.value.toList

/-- What is to be read back. -/
def predicate (t : QueryTerm) : Predicate := ⟨t.key, some t.op.char, t.value, true⟩

end QueryTerm

/-- The terms with `;` between them. -/
def queryOf (terms : List QueryTerm) : String :=
  String.ofList ([';'].intercalate (terms.map QueryTerm.text))

section Print

variable {t : QueryTerm} {terms : List QueryTerm}

/-- The first place of a character that is not in the left part. -/
theorem findIdx?_term {left right : List Char} {c : Char} (h : c ∉ left) :
    (left ++ c :: right).findIdx? (· = c) = some left.length := by
  have hleft : left.findIdx? (· = c) = none :=
    List.findIdx?_eq_none_iff.mpr fun d hd => decide_eq_false fun hdc => h (hdc ▸ hd)
  rw [List.findIdx?_append, hleft, List.findIdx?_cons]
  simp

theorem findIdx?_absent {left right : List Char} {c d : Char} (hl : c ∉ left) (hd : d ≠ c)
    (hr : c ∉ right) : (left ++ d :: right).findIdx? (· = c) = none := by
  refine List.findIdx?_eq_none_iff.mpr fun x hx => decide_eq_false ?_
  rintro rfl
  rcases List.mem_append.mp hx with hx | hx
  · exact hl hx
  · rcases List.mem_cons.mp hx with rfl | hx
    · exact hd rfl
    · exact hr hx

theorem key_plain (t : QueryTerm) :
    ';' ∉ t.key.toList ∧ '=' ∉ t.key.toList ∧ '>' ∉ t.key.toList ∧ '<' ∉ t.key.toList :=
  ⟨fun h => (t.keyPlain _ h).1 rfl, fun h => (t.keyPlain _ h).2.1 rfl,
    fun h => (t.keyPlain _ h).2.2.1 rfl, fun h => (t.keyPlain _ h).2.2.2 rfl⟩

/-- The operator is found behind the key. -/
theorem findIdx?_operator (t : QueryTerm) :
    ((t.text.findIdx? (· = '=')).or (t.text.findIdx? (· = '>'))).or (t.text.findIdx? (· = '<')) =
      some t.key.toList.length := by
  obtain ⟨_, heq, hgt, hlt⟩ := key_plain t
  unfold QueryTerm.text
  cases hop : t.op with
  | eq =>
      rw [QueryOp.char, findIdx?_term heq]
      rfl
  | gt =>
      have hne : t.op ≠ .eq := by simp [hop]
      rw [QueryOp.char, findIdx?_absent heq (by decide) (t.valueEq hne), findIdx?_term hgt]
      rfl
  | lt =>
      have hne : t.op ≠ .eq := by simp [hop]
      rw [QueryOp.char, findIdx?_absent heq (by decide) (t.valueEq hne),
        findIdx?_absent hgt (by decide) (t.valueGt hop), findIdx?_term hlt]
      rfl

/-- **A term is read back.** -/
theorem predicateOf_text (t : QueryTerm) : predicateOf t.text = t.predicate := by
  unfold predicateOf
  dsimp only
  rw [findIdx?_operator]
  unfold QueryTerm.text QueryTerm.predicate
  simp

theorem semicolon_notMem (t : QueryTerm) : ';' ∉ t.text := by
  intro h
  rcases List.mem_append.mp h with h | h
  · exact (key_plain t).1 h
  · rcases List.mem_cons.mp h with h | h
    · cases hop : t.op <;> rw [hop] at h <;> cases h
    · exact t.valueSemi h

/-- The predicates of a printed query. -/
theorem queryPredicates_queryOf (hne : terms ≠ []) :
    queryPredicates (queryOf terms) = terms.map QueryTerm.predicate := by
  have hsemi : ∀ l ∈ terms.map QueryTerm.text, ';' ∉ l := by
    intro l hl
    obtain ⟨t, _, rfl⟩ := List.mem_map.mp hl
    exact semicolon_notMem t
  unfold queryPredicates queryOf
  rw [String.toList_ofList, List.splitOn_intercalate _ hsemi (by simpa using hne), List.map_map]
  exact List.map_congr_left fun t _ => predicateOf_text t

/-- **The parser inverts printing**: the map has the terms under their keys, and nothing else. -/
theorem parse_inverts_print (hne : terms ≠ []) (hkeys : (terms.map QueryTerm.key).Nodup) :
    (CmdLineParser.new (queryOf terms)).parseLsString.1 = true ∧
      ∀ key p, (CmdLineParser.new (queryOf terms)).parseLsString.2.getPredicate key = some p ↔
        ∃ t ∈ terms, t.key = key ∧ p = t.predicate := by
  refine ⟨by rw [CmdLineParser.parseLsString_eq], fun key p => ?_⟩
  rw [CmdLineParser.parseLsString_predicates, queryPredicates_queryOf hne]
  constructor
  · intro h
    obtain ⟨hmem, hkey⟩ := lastItem_mem h
    obtain ⟨t, ht, rfl⟩ := List.mem_map.mp hmem
    exact ⟨t, ht, hkey, rfl⟩
  · rintro ⟨t, ht, rfl, rfl⟩
    obtain ⟨q, hq⟩ := lastItem_isSome Predicate.key
      (List.mem_map_of_mem (f := QueryTerm.predicate) ht)
    obtain ⟨hmem, hkey⟩ := lastItem_mem hq
    obtain ⟨t', ht', rfl⟩ := List.mem_map.mp hmem
    have hkey : t'.key = t.key := hkey
    have heq : t' = t := List.inj_on_of_nodup_map hkeys ht' ht hkey
    rw [heq] at hq
    exact hq

end Print

def mailboxTerm : QueryTerm := ⟨"M", .eq, "abc>d", by simp, by simp, by simp, by simp⟩

def uidTerm : QueryTerm := ⟨"U", .gt, "1", by simp, by simp, by simp, by simp⟩

def dateTerm : QueryTerm :=
  ⟨"R", .lt, "2013-12-04 15:03", by simp, by simp, by simp, by simp⟩

def threeTerms : List QueryTerm := [mailboxTerm, uidTerm, dateTerm]

theorem three_terms_read_back :
    (CmdLineParser.new (queryOf threeTerms)).parseLsString.1 = true ∧
      ∀ key p, (CmdLineParser.new (queryOf threeTerms)).parseLsString.2.getPredicate key = some p ↔
        ∃ t ∈ threeTerms, t.key = key ∧ p = t.predicate :=
  parse_inverts_print (List.cons_ne_nil _ _) (by decide)

end DovecotCeph.Rmb
