/-
  File:      DovecotCeph/DictRados.lean
  Subject:   `rados_dict_init` (dict-rados.cpp): the URI of a dictionary, the escaping of the user
             name, and the namespaces the private dictionaries of two users end up in.

  The user name is escaped only if it holds a `/`. A name without one that reads like the escaped
  form of another name is left as it is, and both users share a namespace.
  **`private_namespaces_disjoint_iff`** names the pairs this happens to.
-/
import DovecotCeph.Librmb.Dictionary
import DovecotCeph.Lib.Text

namespace DovecotCeph

open Lib

/-! ## 1. The URI -/

/-- `explode`. -/
def explode (str : String) (sep : Char) : List String :=
  (getlines sep str.toList).map String.ofList

/-- What a URI sets, with the defaults of `rados_dict_init`. -/
structure DictUri where
  oid : String := ""
  poolname : String := "mail_dictionaries"
  clustername : String := "ceph"
  radosUsername : String := "client.admin"
  cephCfg : String := "rbox_cfg"
  deriving DecidableEq, Repr

/-- `it->compare(0, n, key) == 0` for a key of length `n`. -/
def hasKey (key tok : String) : Bool := key.toList.isPrefixOf tok.toList

/-- `it->substr(n)`; it throws behind the end. -/
def substrFrom (n : Nat) (tok : String) : Option String :=
  if n ≤ tok.toList.length then some (String.ofList (tok.toList.drop n)) else none

/-- How `rados_dict_init` ends without a dictionary: it returns -1 with a text, or an exception
    that nobody catches ends the process. -/
inductive InitError where
  | returned (error : String)
  | outOfRange
  deriving DecidableEq, Repr

def substrOr (n : Nat) (tok : String) : Except InitError String :=
  match substrFrom n tok with
  | some s => .ok s
  | none => .error .outOfRange

/-- One property of the URI. The value of `dict_user_name=` is taken from behind its first
    character on. -/
def DictUri.prop (u : DictUri) (tok : String) : Except InitError DictUri :=
  if hasKey "oid=" tok then (substrOr 4 tok).map fun v => { u with oid := v }
  else if hasKey "pool=" tok then (substrOr 5 tok).map fun v => { u with poolname := v }
  else if hasKey "dict_cluster_name=" tok then
    (substrOr 18 tok).map fun v => { u with clustername := v }
  else if hasKey "dict_user_name=" tok then
    (substrOr 16 tok).map fun v => { u with radosUsername := v }
  else if hasKey "dict_cfg_object_name=" tok then
    (substrOr 21 tok).map fun v => { u with cephCfg := v }
  else .error (.returned "Invalid URI!")

/-- The URI, if there is one. -/
def DictUri.parse (uri : Option String) : Except InitError DictUri :=
  match uri with
  | none => .ok {}
  | some s => (explode s ':').foldlM DictUri.prop {}

/-! ## 2. The dictionary of a user -/

/-- What `rados_dict_init` calls: Dovecot's `dict_escape_string`, the connection to the cluster
    and the texts of error codes. -/
structure DictInitEnv where
  dictEscapeString : String → String
  clusterInit : String → String → Outcome
  strerror : Int → String

/-- The members of `RadosDictionaryImpl` that `rados_dict_init` hands to its constructor. -/
structure RadosDict where
  poolname : String
  username : String
  oid : String
  cfgObjectName : String
  deriving DecidableEq, Repr

/-- `DICT_USERNAME_SEPARATOR` is escaped, in names that hold it. -/
def dictUsername (escape : String → String) (username : String) : String :=
  if '/' ∈ username.toList then escape username else username

/-- `rados_dict_init`. -/
def radosDictInit (I : DictInitEnv) (uri : Option String) (username : String) :
    Except InitError RadosDict := do
  let u ← DictUri.parse uri
  let name := dictUsername I.dictEscapeString username
  match I.clusterInit u.clustername u.radosUsername with
  | .failed e => .error (.returned ("Error initializing RadosCluster! " ++ I.strerror (-e.1)))
  | .done => .ok ⟨u.poolname, name, u.oid, u.cephCfg⟩

/-- What an access to a dictionary meets: the JSON library, the objects of the cluster and what
    the cluster answers. -/
structure DictWorld where
  codec : JsonCodec
  w : Objects String
  env : DictEnv

def RadosDict.setup (D : RadosDict) (W : DictWorld) : DictSetup :=
  ⟨W.codec, D.poolname, D.cfgObjectName⟩

/-- The namespace the first access to the keys under `p` selects: `get_private_io_ctx` or
    `get_shared_io_ctx` of a dictionary that was just initialised. -/
def RadosDict.nspace (D : RadosDict) (W : DictWorld) (p : DictPath) : Option String :=
  (((Dict.new W.w D.username).getIoCtx (D.setup W) W.env p).bind fun d => d.ioCtx p).map
    IoCtx.nspace

/-- The same for the dictionary of `username`. -/
def userNamespace (I : DictInitEnv) (uri : Option String) (username : String) (W : DictWorld)
    (p : DictPath) : Option String :=
  match radosDictInit I uri username with
  | .ok D => D.nspace W p
  | .error _ => none

/-! ## 3. Escaping -/

/-- What `dict_escape_string` makes of a character. -/
def escapeChar (c : Char) : List Char :=
  if c = '/' then ['\\', '|'] else if c = '\\' then ['\\', '\\'] else [c]

/-- The behaviour of Dovecot's `dict_escape_string`. -/
def Escapes (escape : String → String) : Prop :=
  ∀ s, (escape s).toList = s.toList.flatMap escapeChar

section Escaping

variable {escape : String → String}

theorem escapeChar_cases (c : Char) :
    c = '/' ∧ escapeChar c = ['\\', '|'] ∨ c = '\\' ∧ escapeChar c = ['\\', '\\'] ∨
      c ≠ '/' ∧ c ≠ '\\' ∧ escapeChar c = [c] := by
  unfold escapeChar
  by_cases h1 : c = '/'
  · exact Or.inl ⟨h1, if_pos h1⟩
  · by_cases h2 : c = '\\'
    · exact Or.inr (Or.inl ⟨h2, by rw [if_neg h1, if_pos h2]⟩)
    · exact Or.inr (Or.inr ⟨h1, h2, by rw [if_neg h1, if_neg h2]⟩)

theorem escapeChar_prefixCode : PrefixCode escapeChar where
  ne_nil := by
    intro c
    rcases escapeChar_cases c with ⟨_, h⟩ | ⟨_, h⟩ | ⟨_, _, h⟩ <;> simp [h]
  cancel := by
    intro a b x y e
    rcases escapeChar_cases a with ⟨ha, h⟩ | ⟨ha, h⟩ | ⟨_, ha, h⟩ <;>
      rcases escapeChar_cases b with ⟨hb, h'⟩ | ⟨hb, h'⟩ | ⟨_, hb, h'⟩ <;>
      rw [h, h'] at e <;> grind

theorem Escapes.injective (he : Escapes escape) : Function.Injective escape := by
  intro s t e
  have e' := congrArg String.toList e
  rw [he, he] at e'
  exact String.toList_injective (escapeChar_prefixCode.flatMap_injective e')

/-- The name of `v` is what escaping makes of the name of `u`. -/
def ReadsEscaped (escape : String → String) (u v : String) : Prop :=
  '/' ∈ u.toList ∧ '/' ∉ v.toList ∧ v = escape u

/-- **Two users have one name for the dictionary just if one of them is called what the other's
    name is escaped to.** -/
theorem dictUsername_eq_iff (he : Escapes escape) {u v : String} (hne : u ≠ v) :
    dictUsername escape u = dictUsername escape v ↔
      ReadsEscaped escape u v ∨ ReadsEscaped escape v u := by
  unfold dictUsername ReadsEscaped
  by_cases hu : '/' ∈ u.toList
  · by_cases hv : '/' ∈ v.toList
    · simp only [hu, hv, if_true, not_true, false_and, and_false, or_self, iff_false]
      exact fun e => hne (he.injective e)
    · simp only [hu, hv, if_true, if_false, not_false_iff, true_and, false_and, or_false]
      exact eq_comm
  · by_cases hv : '/' ∈ v.toList
    · simp only [hu, hv, if_true, if_false, not_false_iff, true_and, false_and, false_or]
    · simp only [hu, hv, if_false, false_and, or_self, iff_false]
      exact hne

theorem dictUsername_ne_empty (he : Escapes escape) {u : String} (h : u ≠ "") :
    dictUsername escape u ≠ "" := by
  unfold dictUsername
  split
  case isFalse => exact h
  case isTrue hu =>
    intro e
    have hnil : u.toList.flatMap escapeChar = [] := by
      rw [← he u, e]
      rfl
    exact escapeChar_prefixCode.ne_nil '/' (List.flatMap_eq_nil_iff.mp hnil '/' hu)

end Escaping

/-! ## 4. Namespaces of users -/

/-- The cluster answers, the configuration is the readable one `ref`, and it maps no users. -/
structure Unmapped (D : RadosDict) (ref : RadosCephJsonConfig) (W : DictWorld) : Prop where
  create : W.env.create = true
  stored : (D.setup W).stored W.w = ref
  readable : ConfigReadable W.codec W.w D.poolname D.cfgObjectName W.env.cfgRd W.env.cfgWr
  off : ref.userMapping ≠ "true"

/-- The dictionary of `username` is there, and what its first access meets. -/
def UserReady (I : DictInitEnv) (uri : Option String) (ref : RadosCephJsonConfig)
    (username : String) (W : DictWorld) : Prop :=
  ∃ D, radosDictInit I uri username = .ok D ∧ Unmapped D ref W

/-- What the configuration must not do to `u`: call the public namespace like his own one. -/
def NotPublic (escape : String → String) (ref : RadosCephJsonConfig) (u : String) : Prop :=
  ('/' ∉ u.toList → ref.publicNamespace ≠ u ++ ref.userSuffix) ∧
    ('/' ∈ u.toList → ref.publicNamespace ≠ escape u ++ ref.userSuffix)

section Namespaces

variable {I : DictInitEnv} {uri : Option String} {ref : RadosCephJsonConfig} {W : DictWorld}
  {D : RadosDict} {u : String}

/-- Without user mapping the first access selects the namespace called like the user id. -/
theorem nspace_of_unmapped (h : Unmapped D ref W) (p : DictPath) :
    D.nspace W p = some (dictUid ref D.username p) := by
  have hoff : RadosDovecotCephCfg.isUserMapping ⟨true, ref⟩ = false := by
    simpa [RadosDovecotCephCfg.isUserMapping] using h.off
  have hs : (D.setup W).stored W.w = ref := h.stored
  have hlook : LookupOk ⟨true, (D.setup W).stored W.w⟩ W.env.rd W.env.wr
      (dictUid ((D.setup W).stored W.w) D.username p)
      ⟨W.w, ⟨(D.setup W).poolname, ""⟩, fun _ => none⟩ := by
    rintro ⟨_, hm, _⟩
    rw [hs, hoff] at hm
    cases hm
  obtain ⟨d, hd, ho⟩ := getIoCtx_opens (dictInv_new (S := D.setup W) D.username)
    (p := p) rfl h.create (fun _ => h.readable) hlook
  obtain ⟨io, hio, _, hmap⟩ := ho.ctx
  have hns : io.nspace = dictUid ref D.username p := by
    rw [hs] at hmap
    unfold mappedNamespace at hmap
    rw [hoff] at hmap
    split at hmap
    case isTrue he =>
      rw [show (Dict.new W.w D.username).username = D.username from rfl] at he
      rw [he]
      exact (Option.some.inj hmap).symm
    case isFalse => exact (Option.some.inj hmap).symm
  unfold RadosDict.nspace
  rw [hd]
  simp [hio, hns]

theorem radosDictInit_username (h : radosDictInit I uri u = .ok D) :
    D.username = dictUsername I.dictEscapeString u := by
  unfold radosDictInit at h
  cases hu : DictUri.parse uri with
  | error e =>
      rw [hu] at h
      cases h
  | ok t =>
      rw [hu] at h
      simp only [bind, Except.bind] at h
      split at h
      case h_1 => cases h
      case h_2 =>
        cases h
        rfl

theorem userNamespace_of_ready (h : UserReady I uri ref u W) (p : DictPath) :
    userNamespace I uri u W p =
      some (dictUid ref (dictUsername I.dictEscapeString u) p) := by
  obtain ⟨D, hD, hW⟩ := h
  unfold userNamespace
  rw [hD]
  dsimp only
  rw [nspace_of_unmapped hW p, radosDictInit_username hD]

/-- The private namespace is the name for the dictionary with the suffix. -/
theorem private_of_ready (he : Escapes I.dictEscapeString) (h : UserReady I uri ref u W)
    (hu : u ≠ "") :
    userNamespace I uri u W .priv =
      some (dictUsername I.dictEscapeString u ++ ref.userSuffix) := by
  rw [userNamespace_of_ready h]
  simp only [dictUid, dictUsername_ne_empty he hu, if_false]

theorem notPublic_iff {escape : String → String} :
    NotPublic escape ref u ↔
      dictUsername escape u ++ ref.userSuffix ≠ ref.publicNamespace := by
  unfold NotPublic dictUsername
  by_cases hu : '/' ∈ u.toList
  · simp only [hu, not_true, false_imp_iff, true_and, true_imp_iff, if_true]
    exact ne_comm
  · simp only [hu, not_false_iff, true_imp_iff, false_imp_iff, and_true, if_false]
    exact ne_comm

end Namespaces

/-- **When the private dictionaries of two users are disjoint**: unless one name reads like the
    escaped form of the other, or the configuration gives the public namespace a user's name. -/
theorem private_namespaces_disjoint_iff (I : DictInitEnv) (uri : Option String)
    (ref : RadosCephJsonConfig) (u v x : String) (Wu Wv Wx : DictWorld)
    (he : Escapes I.dictEscapeString) (hu : u ≠ "") (hv : v ≠ "") (hne : u ≠ v)
    (hWu : UserReady I uri ref u Wu) (hWv : UserReady I uri ref v Wv)
    (hWx : UserReady I uri ref x Wx) :
    (userNamespace I uri u Wu .priv ≠ userNamespace I uri v Wv .priv ∧
        userNamespace I uri u Wu .priv ≠ userNamespace I uri x Wx .shared ∧
        userNamespace I uri v Wv .priv ≠ userNamespace I uri x Wx .shared) ↔
      ¬ ReadsEscaped I.dictEscapeString u v ∧ ¬ ReadsEscaped I.dictEscapeString v u ∧
        NotPublic I.dictEscapeString ref u ∧ NotPublic I.dictEscapeString ref v := by
  rw [private_of_ready he hWu hu, private_of_ready he hWv hv, userNamespace_of_ready hWx,
    notPublic_iff, notPublic_iff]
  simp only [dictUid, ne_eq, Option.some.injEq, String.append_left_inj,
    dictUsername_eq_iff he hne, not_or, and_assoc]

/-- Dovecot's escaping and a cluster that lets everybody in. -/
def plainInit : DictInitEnv where
  dictEscapeString := fun s => String.ofList (s.toList.flatMap escapeChar)
  clusterInit := fun _ _ => .done
  strerror := fun _ => ""

theorem plainInit_escapes : Escapes plainInit.dictEscapeString :=
  fun _ => String.toList_ofList

/-- An empty pool that answers every call: the default configuration is stored at first use. -/
def emptyPool : DictWorld where
  codec := plainCodec
  w := fun _ => none
  env := ⟨true, fun _ => .done, .done, fun _ => .done, .done, "ffee"⟩

theorem plainInit_ready (u : String) :
    UserReady plainInit none { cfgObjectName := "rbox_cfg", valid := true } u emptyPool := by
  refine ⟨_, rfl, rfl, rfl, ?_, by decide⟩
  exact ⟨⟨0, by decide, rfl, fun k hk => absurd hk (Nat.not_lt_zero k)⟩, rfl⟩

set_option maxRecDepth 4000 in
/-- `alice` and `bob/home`: two namespaces, neither of them the public one. -/
theorem alice_bob_disjoint :
    userNamespace plainInit none "alice" emptyPool .priv ≠
        userNamespace plainInit none "bob/home" emptyPool .priv ∧
      userNamespace plainInit none "alice" emptyPool .priv ≠
        userNamespace plainInit none "" emptyPool .shared ∧
      userNamespace plainInit none "bob/home" emptyPool .priv ≠
        userNamespace plainInit none "" emptyPool .shared := by
  refine (private_namespaces_disjoint_iff plainInit none _ "alice" "bob/home" "" emptyPool
    emptyPool emptyPool plainInit_escapes (by decide) (by decide) (by decide)
    (plainInit_ready _) (plainInit_ready _) (plainInit_ready _)).mpr ⟨?_, ?_, ?_, ?_⟩
  · exact fun h => absurd h.1 (by decide)
  · exact fun h => absurd h.2.2 (by decide)
  · exact ⟨fun _ => by decide, fun h => absurd h (by decide)⟩
  · exact ⟨fun h => absurd (by decide) h, fun _ => by decide⟩

set_option maxRecDepth 4000 in
/-- The users `a/b` and `a\|b` share the namespace `a\|b_u`. -/
theorem escaped_name_collides :
    ("a/b" ≠ "a\\|b" ∧ Escapes plainInit.dictEscapeString ∧
        UserReady plainInit none { cfgObjectName := "rbox_cfg", valid := true } "a/b" emptyPool ∧
        UserReady plainInit none { cfgObjectName := "rbox_cfg", valid := true } "a\\|b"
          emptyPool) ∧
      userNamespace plainInit none "a/b" emptyPool .priv = some "a\\|b_u" ∧
      userNamespace plainInit none "a\\|b" emptyPool .priv = some "a\\|b_u" := by
  refine ⟨⟨by decide, plainInit_escapes, plainInit_ready _, plainInit_ready _⟩, ?_, ?_⟩
  · rw [private_of_ready plainInit_escapes (plainInit_ready _) (by decide)]
    decide
  · rw [private_of_ready plainInit_escapes (plainInit_ready _) (by decide)]
    decide

end DovecotCeph
