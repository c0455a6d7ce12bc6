/-
  File:      DovecotCeph/Librmb/FindMails.lean
  Subject:   The objects of a namespace (rados-storage-impl.cpp): `find_mails` lists them one by
             one; `find_mails_async` has a thread for each OSD list them from the positions of its
             placement groups on, and collects what they find.

  The filter is encoded and not used: both find the objects of every mailbox.
  * `scanPg`, `scanPg_pgText`: the position in the name of a placement group;
  * `osdTasks`: what the threads do; `FindMailsAsync`: the states `find_mails_async` goes through;
  * **`find_mails_async_agrees_iff`**: when it finds what `find_mails` finds;
  * **`find_mails_async_goes_on_iff`**: for which numbers of threads it always returns.
-/
import DovecotCeph.Lib.ThreadPool
import DovecotCeph.Librmb.PgTable
import Mathlib.Algebra.Group.Int.Defs
import Mathlib.Algebra.Group.Nat.Defs
import Mathlib.Data.Finset.Insert

namespace DovecotCeph

open Lib Std

/-! ## 1. Placement groups -/

/-- The value of a hexadecimal digit. -/
def xdigit (c : Char) : Option Nat :=
  if c.isDigit then some (c.toNat - '0'.toNat)
  else if 'a' ≤ c ∧ c ≤ 'f' then some (c.toNat - 'a'.toNat + 10)
  else if 'A' ≤ c ∧ c ≤ 'F' then some (c.toNat - 'A'.toNat + 10)
  else none

/-- The digits at the beginning. -/
def xdigits (s : List Char) : List Nat := (s.takeWhile fun c => (xdigit c).isSome).filterMap xdigit

/-- Without the prefix that `%x` accepts. -/
def dropHexPrefix : List Char → List Char
  | '0' :: x :: c :: cs =>
    if (x = 'x' ∨ x = 'X') ∧ (xdigit c).isSome then c :: cs else '0' :: x :: c :: cs
  | cs => cs

/-- The `%x` of a `uint32_t`: `strtoull`, cut to 32 bits. -/
def scanHex (s : List Char) : Option Nat :=
  let r := readSign (s.dropWhile isspace)
  let ds := xdigits (dropHexPrefix r.2)
  let n := min (ds.foldl (fun n d => 16 * n + d) 0) (2 ^ 64 - 1)
  if ds = [] then none else some ((if r.1 then 2 ^ 64 - n else n) % 2 ^ 32)

/-- `sscanf(pg, "%llu.%x", &ppool, &pseed)`: what it leaves in `pseed`, and `none` where it leaves
    nothing there. -/
def scanPg (pg : List Char) : Option Nat :=
  let digits := (readSign (pg.dropWhile isspace)).2
  if digits.takeWhile Char.isDigit = [] then none
  else match digits.dropWhile Char.isDigit with
    | '.' :: s => scanHex s
    | _ => none

/-- The name of a placement group. -/
def pgText (pool seed : Nat) : List Char := digits pool ++ '.' :: Nat.toDigits 16 seed

section Scan

theorem xdigit_digitChar : ∀ d < 16, xdigit (Nat.digitChar d) = some d := by decide

/-- The hexadecimal digits of a number denote it. -/
theorem toDigits_hex (n : Nat) :
    (∀ c ∈ Nat.toDigits 16 n, (xdigit c).isSome = true) ∧
      ((Nat.toDigits 16 n).filterMap xdigit).foldl (fun n d => 16 * n + d) 0 = n := by
  induction n using Nat.strongRecOn with
  | ind n ih =>
      by_cases hn : n < 16
      · rw [Nat.toDigits_of_lt_base hn]
        have hd := xdigit_digitChar n hn
        refine ⟨fun c hc => ?_, ?_⟩
        · rw [List.mem_singleton.mp hc, hd]
          rfl
        · simp [hd]
      · have hd := xdigit_digitChar (n % 16) (Nat.mod_lt n (by decide))
        obtain ⟨hall, hvalue⟩ := ih (n / 16) (by omega)
        rw [Nat.toDigits_of_base_le (by decide) (Nat.not_lt.mp hn)]
        refine ⟨fun c hc => ?_, ?_⟩
        · rcases List.mem_append.mp hc with hc | hc
          · exact hall c hc
          · rw [List.mem_singleton.mp hc, hd]
            rfl
        · rw [List.filterMap_append, List.foldl_append, hvalue]
          simp only [List.filterMap_cons, hd, List.filterMap_nil, List.foldl_cons, List.foldl_nil]
          omega

/-- A digit is no sign, no blank and no `x`. -/
theorem plain_of_xdigit {c : Char} (h : (xdigit c).isSome = true) :
    isspace c = false ∧ c ≠ '-' ∧ c ≠ '+' ∧ c ≠ 'x' ∧ c ≠ 'X' := by
  refine ⟨?_, ?_, ?_, ?_, ?_⟩
  · by_contra hspace
    unfold isspace at hspace
    simp only [Bool.not_eq_false, Bool.or_eq_true, decide_eq_true_eq, Bool.and_eq_true] at hspace
    rcases hspace with rfl | hrange
    · exact absurd h (by decide)
    · have hlow : ∀ n < 14, ¬ (xdigit (Char.ofNat n)).isSome = true := by decide
      refine hlow c.toNat (by omega) ?_
      rw [Char.ofNat_toNat]
      exact h
  all_goals
    rintro rfl
    exact absurd h (by decide)

theorem scanHex_digits {n : Nat} (hn : n < 2 ^ 32) : scanHex (Nat.toDigits 16 n) = some n := by
  obtain ⟨hall, hvalue⟩ := toDigits_hex n
  have hne : Nat.toDigits 16 n ≠ [] := Nat.toDigits_ne_nil
  generalize Nat.toDigits 16 n = ds at hall hvalue hne
  obtain ⟨c, cs, rfl⟩ := List.exists_cons_of_ne_nil hne
  obtain ⟨hspace, hminus, hplus, _⟩ := plain_of_xdigit (hall c List.mem_cons_self)
  have hsign : readSign ((c :: cs).dropWhile isspace) = (false, c :: cs) := by
    rw [List.dropWhile_cons_of_neg (by rw [hspace]; exact Bool.false_ne_true)]
    unfold readSign
    split
    case h_1 heq => exact absurd (List.cons.inj heq).1 hminus
    case h_2 heq => exact absurd (List.cons.inj heq).1 hplus
    case h_3 => rfl
  have hnohex : dropHexPrefix (c :: cs) = c :: cs := by
    unfold dropHexPrefix
    split
    case h_1 x d rest heq =>
      obtain ⟨_, _, _, hx, hX⟩ := plain_of_xdigit (hall x (by rw [heq]; simp))
      rw [if_neg fun h => h.1.elim hx hX]
      exact heq.symm
    case h_2 => rfl
  have hdigits : xdigits (c :: cs) = (c :: cs).filterMap xdigit := by
    unfold xdigits
    rw [List.takeWhile_eq_self_iff.mpr hall]
  have hsome : (c :: cs).filterMap xdigit ≠ [] := by
    obtain ⟨d, hd⟩ := Option.isSome_iff_exists.mp (hall c List.mem_cons_self)
    rw [List.filterMap_cons_some hd]
    exact List.cons_ne_nil _ _
  unfold scanHex
  rw [hsign]
  dsimp only
  rw [hnohex, hdigits, if_neg hsome, hvalue, if_neg Bool.false_ne_true]
  have hmin : min n (2 ^ 64 - 1) = n := by omega
  rw [hmin, Nat.mod_eq_of_lt hn]

/-- **The name of a placement group is read back.** -/
theorem scanPg_pgText (pool : Nat) {seed : Nat} (h : seed < 2 ^ 32) :
    scanPg (pgText pool seed) = some seed := by
  have hdigit : ∀ c ∈ digits pool, c.isDigit = true := isDigit_digits
  have hne : digits pool ≠ [] := by
    unfold digits
    rw [Nat.toString_eq_repr, Nat.toList_repr]
    exact Nat.toDigits_ne_nil
  have hsign : (readSign ((pgText pool seed).dropWhile isspace)).2 = pgText pool seed := by
    obtain ⟨c, cs, hcs⟩ := List.exists_cons_of_ne_nil hne
    have hc : c.isDigit = true := hdigit c (by rw [hcs]; exact List.mem_cons_self)
    have hx : (xdigit c).isSome = true := by
      unfold xdigit
      rw [if_pos hc]
      rfl
    obtain ⟨hspace, hminus, hplus, _⟩ := plain_of_xdigit hx
    unfold pgText
    rw [hcs, List.cons_append,
      List.dropWhile_cons_of_neg (by rw [hspace]; exact Bool.false_ne_true)]
    unfold readSign
    split
    case h_1 heq => exact absurd (List.cons.inj heq).1 hminus
    case h_2 heq => exact absurd (List.cons.inj heq).1 hplus
    case h_3 => rfl
  have htake : (pgText pool seed).takeWhile Char.isDigit = digits pool := by
    unfold pgText
    rw [List.takeWhile_append_of_pos hdigit, List.takeWhile_cons_of_neg (by decide),
      List.append_nil]
  have hdrop : (pgText pool seed).dropWhile Char.isDigit = '.' :: Nat.toDigits 16 seed := by
    unfold pgText
    rw [List.dropWhile_append_of_pos hdigit, List.dropWhile_cons_of_neg (by decide)]
  unfold scanPg
  rw [hsign]
  dsimp only
  rw [htake, if_neg hne, hdrop]
  exact scanHex_digits h

end Scan

/-! ## 2. The two searches -/

/-- An object as it is listed: the position in the order of the placement groups, and the extended
    attributes. -/
structure ListedObject where
  nspace : String
  oid : String
  position : Nat
  xattrs : Xattrs

/-- The objects of a pool. -/
structure PoolListing where
  objects : List ListedObject
  unique : (objects.map fun x => (x.nspace, x.oid)).Nodup

section Search

variable (P : PoolListing) (nspace : String)

/-- `nobjects_begin(start)`, up to the end of the listing. -/
def PoolListing.nobjectsBegin (start : Nat) : List String :=
  (P.objects.filter fun x => decide (x.nspace = nspace) && decide (start ≤ x.position)).map (·.oid)

/-- **`find_mails`**: the filter `plain` asks for the value of an attribute. -/
def findMails (connected : Bool) (attr : Option (String × String)) : List String :=
  if !connected then []
  else match attr with
    | some a => (P.objects.filter fun x =>
        decide (x.nspace = nspace) && decide (x.xattrs ("_" ++ a.1) = some a.2)).map (·.oid)
    | none => P.nobjectsBegin nspace 0

/-- The key that a line of the footer is listed under. -/
def skippedOsd : List Char := ['o', 'o', 'n']

/-- What the thread for an OSD inserts; there is none for the footer. -/
def osdTask (e : List Char × List (List Char)) : Option (List String) :=
  if e.1 = skippedOsd then none
  else some ((e.2.filterMap scanPg).flatMap (P.nobjectsBegin nspace))

/-- The threads for what the cluster answers to `pg ls-by-pool`; `none` where a thread lists from a
    position that was never set, or the answer cannot be parsed. -/
def osdTasks (answer : List Char) : Option (List (Option (List String))) :=
  (extractPgAndPrimaryOsd answer).bind fun osdPgMap =>
    if osdPgMap.toList.all fun e =>
      decide (e.1 = skippedOsd) || e.2.all fun pg => (scanPg pg).isSome
    then some (osdPgMap.toList.map (osdTask P nspace))
    else none

end Search

/-- `threads.size() == num_threads` compares with the number converted to `size_t`. -/
def threadLimit (numThreads : Int32) : Nat := (numThreads.toInt % 2 ^ 64).toNat

/-- `oids.insert(oid)`, under the lock. -/
def insertOid (oids : Finset String) (oid : String) : Finset String := insert oid oids

/-- **`find_mails_async`**: what it can get to, with `oid_list` for the shared value. -/
def FindMailsAsync (numThreads : Int32) (tasks : List (Option (List String))) :
    ThreadPool.Pool (Finset String) String → Prop :=
  ThreadPool.Reaches (threadLimit numThreads) insertOid (.init ∅ tasks)

/-- The rows name placement groups and list them under OSDs; the footer's line, where there is one,
    is the one that is skipped. -/
structure PgOutput.Readable (o : PgOutput) : Prop where
  pgs : ∀ r ∈ o.rows, ∃ pool seed, seed < 2 ^ 32 ∧ r.first.text = pgText pool seed
  osds : ∀ r ∈ o.rows, r.osdText ≠ skippedOsd
  note : ∀ r ∈ o.note, r.osdText = skippedOsd

/-! ## 3. What is found -/

section Found

variable {P : PoolListing} {nspace oid : String} {o : PgOutput}

theorem mem_nobjectsBegin {start : Nat} :
    oid ∈ P.nobjectsBegin nspace start ↔
      ∃ x ∈ P.objects, x.nspace = nspace ∧ start ≤ x.position ∧ x.oid = oid := by
  unfold PoolListing.nobjectsBegin
  simp only [List.mem_map, List.mem_filter, Bool.and_eq_true, decide_eq_true_eq, and_assoc]

/-- The entries of the footer and of the rows have different keys. -/
theorem mem_osdPgMap (ho : o.Readable) {pg : List Char} {osdPgMap : PgsOfOsd}
    (h : extractPgAndPrimaryOsd o.text = some osdPgMap) :
    (∃ e ∈ osdPgMap.toList, e.1 ≠ skippedOsd ∧ pg ∈ e.2) ↔ o.HasPg pg := by
  obtain rfl := Option.some.inj ((extractPgAndPrimaryOsd_text o).symm.trans h)
  have hentry : ∀ k pg, pg ∈ ((((o.rows.map fun r => r.entry) ++
      o.note.toList.map fun r => r.entry).filter (·.1 = k)).map Prod.snd) ↔
        (k, pg) ∈ (o.rows.map fun r => r.entry) ++ o.note.toList.map fun r => r.entry := by
    intro k pg
    rw [List.mem_map]
    constructor
    · rintro ⟨e, he, rfl⟩
      obtain ⟨hmem, hk⟩ := List.mem_filter.mp he
      rw [← of_decide_eq_true hk]
      exact hmem
    · exact fun hmem => ⟨(k, pg), List.mem_filter.mpr ⟨hmem, decide_eq_true rfl⟩, rfl⟩
  constructor
  · rintro ⟨⟨k, pgs⟩, he, hk, hpg⟩
    rw [TreeMap.mem_toList_iff_getElem?_eq_some, getElem?_groups] at he
    split at he
    case isTrue => cases he
    case isFalse =>
      obtain rfl := Option.some.inj he
      rcases List.mem_append.mp ((hentry k pg).mp hpg) with hrow | hnote
      · obtain ⟨r, hr, hre⟩ := List.mem_map.mp hrow
        exact ⟨r, hr, congrArg Prod.snd hre⟩
      · obtain ⟨r, hr, hre⟩ := List.mem_map.mp hnote
        have hkey : r.osdText = k := congrArg Prod.fst hre
        exact absurd (hkey.symm.trans (ho.note r (Option.mem_toList.mp hr))) hk
  · rintro ⟨r, hr, rfl⟩
    have hmem := (hentry r.osdText r.first.text).mpr
      (List.mem_append_left _ (List.mem_map_of_mem hr))
    refine ⟨(r.osdText, _), ?_, ho.osds r hr, hmem⟩
    rw [TreeMap.mem_toList_iff_getElem?_eq_some, getElem?_groups, if_neg]
    intro hnil
    rw [hnil] at hmem
    exact absurd hmem List.not_mem_nil

variable (P nspace) in
/-- The threads of a readable answer. -/
theorem osdTasks_readable (ho : o.Readable) :
    ∃ osdPgMap, extractPgAndPrimaryOsd o.text = some osdPgMap ∧
      osdTasks P nspace o.text = some (osdPgMap.toList.map (osdTask P nspace)) := by
  refine ⟨_, extractPgAndPrimaryOsd_text o, ?_⟩
  unfold osdTasks
  rw [extractPgAndPrimaryOsd_text, Option.bind_some, if_pos]
  refine List.all_eq_true.mpr fun e he => ?_
  by_cases hk : e.1 = skippedOsd
  · rw [decide_eq_true hk]
    rfl
  · rw [decide_eq_false hk, Bool.false_or]
    refine List.all_eq_true.mpr fun pg hpg => ?_
    obtain ⟨r, hr, rfl⟩ := (mem_osdPgMap ho (extractPgAndPrimaryOsd_text o)).mp ⟨e, he, hk, hpg⟩
    obtain ⟨pool, seed, hseed, htext⟩ := ho.pgs r hr
    rw [htext, scanPg_pgText pool hseed]
    rfl

theorem mem_run_insertOid (oids : Finset String) (l : List String) :
    oid ∈ run insertOid oids l ↔ oid ∈ oids ∨ oid ∈ l := by
  induction l generalizing oids with
  | nil => simp
  | cons a l ih =>
      rw [run_cons, ih, insertOid, Finset.mem_insert, List.mem_cons]
      tauto

/-- The threads insert the objects behind the positions of the placement groups. -/
theorem mem_actions_iff (ho : o.Readable) {tasks : List (Option (List String))}
    (h : osdTasks P nspace o.text = some tasks) :
    oid ∈ ThreadPool.actions tasks ↔
      ∃ r ∈ o.rows, ∃ seed, scanPg r.first.text = some seed ∧
        oid ∈ P.nobjectsBegin nspace seed := by
  obtain ⟨osdPgMap, hmap, htasks⟩ := osdTasks_readable P nspace ho
  obtain rfl := Option.some.inj (h.symm.trans htasks)
  have htask : ∀ e : List Char × List (List Char), (∃ l, osdTask P nspace e = some l ∧ oid ∈ l) ↔
      e.1 ≠ skippedOsd ∧ ∃ pg ∈ e.2, ∃ seed, scanPg pg = some seed ∧
        oid ∈ P.nobjectsBegin nspace seed := by
    intro e
    unfold osdTask
    by_cases hk : e.1 = skippedOsd
    · simp [hk]
    · rw [if_neg hk]
      constructor
      · rintro ⟨l, hl, hin⟩
        obtain rfl := Option.some.inj hl
        obtain ⟨seed, hseed, hin⟩ := List.mem_flatMap.mp hin
        obtain ⟨pg, hpg, hscan⟩ := List.mem_filterMap.mp hseed
        exact ⟨hk, pg, hpg, seed, hscan, hin⟩
      · rintro ⟨_, pg, hpg, seed, hscan, hin⟩
        exact ⟨_, rfl, List.mem_flatMap.mpr ⟨seed, List.mem_filterMap.mpr ⟨pg, hpg, hscan⟩, hin⟩⟩
  have hactions : oid ∈ ThreadPool.actions (osdPgMap.toList.map (osdTask P nspace)) ↔
      ∃ e ∈ osdPgMap.toList, ∃ l, osdTask P nspace e = some l ∧ oid ∈ l := by
    unfold ThreadPool.actions
    simp only [List.mem_flatten, List.mem_filterMap, List.mem_map, id]
    constructor
    · rintro ⟨l, ⟨t, ⟨e, he, rfl⟩, ht⟩, hin⟩
      exact ⟨e, he, l, ht, hin⟩
    · rintro ⟨e, he, l, ht, hin⟩
      exact ⟨l, ⟨_, ⟨e, he, rfl⟩, ht⟩, hin⟩
  rw [hactions]
  constructor
  · rintro ⟨e, he, hl⟩
    obtain ⟨hk, pg, hpg, hseed⟩ := (htask e).mp hl
    obtain ⟨r, hr, rfl⟩ := (mem_osdPgMap ho hmap).mp ⟨e, he, hk, hpg⟩
    exact ⟨r, hr, hseed⟩
  · rintro ⟨r, hr, hseed⟩
    obtain ⟨e, he, hk, hpg⟩ := (mem_osdPgMap ho hmap).mpr ⟨r, hr, rfl⟩
    exact ⟨e, he, (htask e).mpr ⟨hk, _, hpg, hseed⟩⟩

theorem insertOid_comm (a b : String) (oids : Finset String) :
    insertOid (insertOid oids a) b = insertOid (insertOid oids b) a := Finset.insert_comm ..

/-- The object with an oid is one. -/
theorem PoolListing.eq_of_oid {x y : ListedObject} (hx : x ∈ P.objects) (hy : y ∈ P.objects)
    (hn : x.nspace = y.nspace) (ho : x.oid = y.oid) : x = y :=
  List.inj_on_of_nodup_map P.unique hx hy (Prod.ext hn ho)

/-- **The threads find what `find_mails` finds without a filter**, in whatever order they run,
    exactly if each object of the namespace is behind the position of a placement group that is
    listed. -/
theorem find_mails_async_agrees_iff (P : PoolListing) (nspace : String) {o : PgOutput}
    (ho : o.Readable) (numThreads : Int32) :
    ∃ tasks, osdTasks P nspace o.text = some tasks ∧
      ∀ s, FindMailsAsync numThreads tasks s → s.main = .returned →
        (s.shared = (findMails P nspace true none).toFinset ↔
          ∀ x ∈ P.objects, x.nspace = nspace → ∃ r ∈ o.rows, ∃ pool seed,
            r.first.text = pgText pool seed ∧ seed < 2 ^ 32 ∧ seed ≤ x.position) := by
  obtain ⟨osdPgMap, _, htasks⟩ := osdTasks_readable P nspace ho
  refine ⟨_, htasks, fun s hs hreturned => ?_⟩
  have hfound : ∀ oid, oid ∈ s.shared ↔ ∃ r ∈ o.rows, ∃ seed, scanPg r.first.text = some seed ∧
      oid ∈ P.nobjectsBegin nspace seed := by
    intro oid
    rw [ThreadPool.result insertOid_comm hs hreturned, mem_run_insertOid,
      mem_actions_iff ho htasks, or_iff_right (Finset.notMem_empty oid)]
  have hall : ∀ oid, oid ∈ (findMails P nspace true none).toFinset ↔
      oid ∈ P.nobjectsBegin nspace 0 := fun oid => List.mem_toFinset
  constructor
  · intro heq x hx hn
    have hmem : x.oid ∈ s.shared := by
      rw [heq, hall]
      exact mem_nobjectsBegin.mpr ⟨x, hx, hn, Nat.zero_le _, rfl⟩
    obtain ⟨r, hr, seed, hseed, hin⟩ := (hfound x.oid).mp hmem
    obtain ⟨y, hy, hny, hle, hoid⟩ := mem_nobjectsBegin.mp hin
    obtain rfl := P.eq_of_oid hy hx (hny.trans hn.symm) hoid
    obtain ⟨pool, seed', hlt, htext⟩ := ho.pgs r hr
    rw [htext, scanPg_pgText pool hlt] at hseed
    obtain rfl := Option.some.inj hseed
    exact ⟨r, hr, pool, seed', htext, hlt, hle⟩
  · intro hcover
    ext oid
    rw [hfound, hall]
    constructor
    · rintro ⟨r, hr, seed, hseed, hin⟩
      obtain ⟨x, hx, hn, _, hoid⟩ := mem_nobjectsBegin.mp hin
      exact mem_nobjectsBegin.mpr ⟨x, hx, hn, Nat.zero_le _, hoid⟩
    · intro hin
      obtain ⟨x, hx, hn, _, hoid⟩ := mem_nobjectsBegin.mp hin
      obtain ⟨r, hr, pool, seed, htext, hlt, hle⟩ := hcover x hx hn
      refine ⟨r, hr, seed, ?_, mem_nobjectsBegin.mpr ⟨x, hx, hn, hle, hoid⟩⟩
      rw [htext]
      exact scanPg_pgText pool hlt

end Found

/-! ## 4. The threads -/

/-- **When `find_mails_async` always returns**: there are never more threads than asked for and
    every run ends; no run ends early exactly if the number of threads is not zero or no OSD is
    listed. Otherwise the first element of an empty vector is joined. -/
theorem find_mails_async_goes_on_iff (numThreads : Int32)
    (tasks : List (Option (List String))) :
    (∀ s, FindMailsAsync numThreads tasks s → s.threads.length ≤ threadLimit numThreads) ∧
      (WellFounded fun s' s : ThreadPool.Pool (Finset String) String =>
        ThreadPool.Step (threadLimit numThreads) insertOid s s') ∧
      ((∀ s, FindMailsAsync numThreads tasks s → s.main = .returned ∨
          ∃ s', ThreadPool.Step (threadLimit numThreads) insertOid s s') ↔
        numThreads ≠ 0 ∨ tasks = []) := by
  have hzero : threadLimit numThreads = 0 ↔ numThreads = 0 := by
    unfold threadLimit
    have hlow := Int32.le_toInt numThreads
    have hhigh := Int32.toInt_lt numThreads
    rw [← Int32.toInt_inj]
    have h0 : (0 : Int32).toInt = 0 := rfl
    rw [h0]
    omega
  refine ⟨fun s hs => (ThreadPool.bounded hs).1, ThreadPool.terminates _ _, ?_, ?_⟩
  · intro h
    by_contra hnot
    obtain ⟨hnum, hne⟩ := not_or.mp hnot
    have hlimit : threadLimit numThreads = 0 := hzero.mpr (Classical.byContradiction hnum)
    rcases h _ .refl with hreturned | ⟨s', hstep⟩
    · cases hreturned
    · rw [hlimit] at hstep
      obtain ⟨task, todo, rfl⟩ := List.exists_cons_of_ne_nil hne
      generalize hs : ThreadPool.Pool.init (∅ : Finset String) (task :: todo) = s at hstep
      cases hstep with
      | work =>
          have hthreads := congrArg ThreadPool.Pool.threads hs
          exact absurd hthreads.symm (List.append_ne_nil_of_right_ne_nil _ (List.cons_ne_nil _ _))
      | room hfree =>
          have hthreads := congrArg ThreadPool.Pool.threads hs
          exact hfree (congrArg List.length hthreads.symm)
      | wait hfull => exact absurd hfull (Nat.succ_ne_zero _)
      | skip => cases hs
      | spawn => cases hs
      | joinAll => cases hs
      | join _ => cases hs
      | leave => cases hs
  · rintro (hnum | rfl) s hs
    · exact ThreadPool.progress (.inl (Nat.pos_of_ne_zero fun h => hnum (hzero.mp h)))
        (ThreadPool.bounded hs)
    · exact ThreadPool.progress (.inr (List.suffix_nil.mp (ThreadPool.tasks_suffix hs)))
        (ThreadPool.bounded hs)

/-- The note of the footer, up to the 14th word. -/
def footerNote : NoteRow where
  indent := 0
  first := ⟨['*'], by decide, by simp [isspace]⟩
  middle := List.replicate 12 (0, ⟨['w'], by decide, by simp [isspace]⟩)
  gap := 0
  up := ⟨['s', 'o', 'o', 'n'], by decide, by simp [isspace]⟩
  others := []
  trailing := 0
  middle_length := List.length_replicate
  up_head := by decide
  star := rfl

/-- A pool of one placement group. -/
def onePg : PgOutput := { noFooter with blank := true, note := some footerNote }

/-- Two objects of `alice` and one of `bob`. -/
def threeObjects : PoolListing where
  objects := [⟨"alice_u", "a", 3, fun _ => none⟩, ⟨"bob_u", "a", 5, fun _ => none⟩,
    ⟨"alice_u", "b", 7, fun _ => none⟩]
  unique := by decide

theorem onePg_readable : onePg.Readable where
  pgs := by
    intro r hr
    rw [List.mem_singleton.mp hr]
    exact ⟨1, 0, by decide, by decide⟩
  osds := by
    intro r hr
    rw [List.mem_singleton.mp hr]
    decide
  note := by
    intro r hr
    rw [← Option.some.inj hr]
    decide

theorem one_pg_finds_all :
    ∃ tasks, osdTasks threeObjects "alice_u" onePg.text = some tasks ∧
      ∀ s, FindMailsAsync 4 tasks s → s.main = .returned → s.shared = {"a", "b"} := by
  obtain ⟨tasks, htasks, hruns⟩ :=
    find_mails_async_agrees_iff threeObjects "alice_u" onePg_readable 4
  have hall : (findMails threeObjects "alice_u" true none).toFinset = {"a", "b"} := by decide
  refine ⟨tasks, htasks, fun s hs hreturned => ?_⟩
  rw [← hall]
  exact (hruns s hs hreturned).mpr fun x _ _ =>
    ⟨_, List.mem_singleton_self _, 1, 0, by decide, by decide, Nat.zero_le _⟩

end DovecotCeph
