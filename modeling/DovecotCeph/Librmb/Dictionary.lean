/-
  File:      DovecotCeph/Librmb/Dictionary.lean
  Subject:   `RadosDictionaryImpl` (rados-dictionary-impl.cpp): two io contexts, one for the keys
             under `priv/` and one for those under `shared/`, created at their first use.

  The configuration object is bound to the context that was used first, and the namespace manager
  leaves the bound context in the empty namespace after every mapping it looks up in RADOS. So the
  first use of the second context takes the namespace from the first one.
  **`operations_in_right_namespace`** states the accesses that are safe.
-/
import DovecotCeph.Librmb.CephConfig

namespace DovecotCeph

open Lib

/-! ## 1. The dictionary -/

/-- `DICT_PATH_PRIVATE`, `DICT_PATH_SHARED`. -/
inductive DictPath where
  | priv
  | shared
  deriving DecidableEq, Repr

/-- The context a key belongs to; other keys fail the assertion of `get_io_ctx`. -/
def DictPath.ofKey (key : String) : Option DictPath :=
  if "priv/".toList.isPrefixOf key.toList then some .priv
  else if "shared/".toList.isPrefixOf key.toList then some .shared
  else none

def DictPath.other : DictPath → DictPath
  | .priv => .shared
  | .shared => .priv

/-- The arguments of the constructor that no method changes. -/
structure DictSetup where
  codec : JsonCodec
  poolname : String
  cfgObjectName : String

/-- The configuration the dictionary finds in a cluster. -/
def DictSetup.stored (S : DictSetup) (w : Objects String) : RadosCephJsonConfig :=
  storedConfig S.codec w S.poolname S.cfgObjectName

/-- The members of `RadosDictionaryImpl`, beside the cluster: `ioCtx .shared` is `shared_io_ctx`
    and so on, `none` being an io context without implementation; `cfg` comes with the context it
    is bound to; `cache` is the namespace manager's. -/
structure Dict where
  w : Objects String
  username : String
  ioCtx : DictPath → Option IoCtx
  created : DictPath → Bool
  cfg : Option (DictPath × RadosDovecotCephCfg)
  cache : String → Option String

/-- The constructor. -/
def Dict.new (w : Objects String) (username : String) : Dict :=
  ⟨w, username, fun _ => none, fun _ => false, none, fun _ => none⟩

/-- What the cluster answers during one access. -/
structure DictEnv where
  create : Bool
  cfgRd : Nat → Outcome
  cfgWr : Outcome
  rd : Nat → Outcome
  wr : Outcome
  guid : String

namespace Dict

/-- `load_configuration(io_ctx)` for the context `io` of `p`: its result, the configuration with
    the context it is bound to, the dictionary. -/
def loadConfiguration (S : DictSetup) (e : DictEnv) (p : DictPath) (io : IoCtx) (d : Dict) :
    Bool × (DictPath × RadosDovecotCephCfg) × Dict :=
  match d.cfg with
  | some bc => (true, bc, d)
  | none =>
    let l := loadOrDefault S.codec d.w io e.cfgRd e.cfgWr { cfgObjectName := S.cfgObjectName }
    let c : RadosDovecotCephCfg := ⟨true, l.json⟩
    (!decide (l.loadRet ≠ -ENOENT ∧ l.loadRet < 0), (p, c),
      { d with
        w := l.w, cfg := some (p, c),
        username := if d.username = "" then c.json.publicNamespace else d.username })

/-- `lookup_namespace(uid, cfg, &ns)` through the context the configuration is bound to. -/
def lookup (e : DictEnv) (bc : DictPath × RadosDovecotCephCfg) (uid : String) (d : Dict) :
    Option (String × Dict) :=
  (d.ioCtx bc.1).map fun io =>
    let r := lookupNamespace bc.2 e.guid e.rd e.wr uid "" ⟨d.w, io, d.cache⟩
    (r.2.1, { d with
      w := r.2.2.w, ioCtx := Function.update d.ioCtx bc.1 (some r.2.2.io), cache := r.2.2.cache })

/-- `set_namespace` on the context of `p`. -/
def setNamespace (p : DictPath) (ns : String) (d : Dict) : Dict :=
  { d with ioCtx := Function.update d.ioCtx p ((d.ioCtx p).map (·.setNamespace ns)) }

/-- `get_shared_io_ctx`; `none` where the process ends, for it uses the io context also after
    `io_ctx_create` failed. -/
def getSharedIoCtx (S : DictSetup) (e : DictEnv) (d : Dict) : Option Dict :=
  if d.created .shared then some d
  else if !e.create then none
  else
    let io : IoCtx := ⟨S.poolname, ""⟩
    let d := { d with
      ioCtx := Function.update d.ioCtx .shared (some io)
      created := Function.update d.created .shared true }
    let l := d.loadConfiguration S e .shared io
    if l.1 then
      (l.2.2.lookup e l.2.1 l.2.1.2.json.publicNamespace).map fun r =>
        r.2.setNamespace .shared r.1
    else some l.2.2

/-- `get_private_io_ctx`. -/
def getPrivateIoCtx (S : DictSetup) (e : DictEnv) (d : Dict) : Option Dict :=
  if d.created .priv then some d
  else if !e.create then some d
  else
    let io : IoCtx := ⟨S.poolname, ""⟩
    let d := { d with ioCtx := Function.update d.ioCtx .priv (some io) }
    let l := d.loadConfiguration S e .priv io
    if l.1 then
      (l.2.2.lookup e l.2.1 (l.2.2.username ++ l.2.1.2.json.userSuffix)).map fun r =>
        { r.2.setNamespace .priv r.1 with created := Function.update r.2.created .priv true }
    else some l.2.2

/-- `get_io_ctx(key)`, the key's prefix given. -/
def getIoCtx (S : DictSetup) (e : DictEnv) (p : DictPath) (d : Dict) : Option Dict :=
  match p with
  | .priv => d.getPrivateIoCtx S e
  | .shared => d.getSharedIoCtx S e

end Dict

/-- An operation of the dictionary on a key, with what the cluster answers meanwhile. -/
structure DictAccess where
  key : String
  env : DictEnv

/-- **One operation**: get the context, operate through it. `none` is an ended process; an io
    context without implementation ends it too. -/
def access (S : DictSetup) (s : Option Dict) (a : DictAccess) : Option Dict :=
  s.bind fun d => (DictPath.ofKey a.key).bind fun p =>
    (d.getIoCtx S a.env p).bind fun d' => if (d'.ioCtx p).isSome then some d' else none

/-! ## 2. Right and wrong namespaces -/

/-- The user id of a path: the public namespace, or user name and suffix; a dictionary without
    user name is the public one. -/
def dictUid (ref : RadosCephJsonConfig) (username : String) : DictPath → String
  | .shared => ref.publicNamespace
  | .priv => (if username = "" then ref.publicNamespace else username) ++ ref.userSuffix

/-- The operation, if it is issued, runs in the namespace its user id is mapped to. -/
def RightNamespace (S : DictSetup) (ref : RadosCephJsonConfig) (s : Option Dict)
    (a : DictAccess) : Prop :=
  ∀ d p io, access S s a = some d → DictPath.ofKey a.key = some p → d.ioCtx p = some io →
    mappedNamespace ⟨true, ref⟩ d.w S.poolname (dictUid ref d.username p) = some io.nspace

/-- The context of `p` did not lose its namespace: the configuration is bound to the other one,
    or the other one was not opened, or opening it needed no lookup in RADOS. -/
def Undisturbed (ref : RadosCephJsonConfig) (d : Dict) (p : DictPath) : Prop :=
  ∀ c, d.cfg = some (p, c) → d.created p.other = true → ref.userMapping = "true" →
    dictUid ref d.username p.other ≠ "" → dictUid ref d.username p.other = dictUid ref d.username p

/-- **The accesses that are safe**: a context that is there is undisturbed; a context that is
    created finds or loads the configuration and finds or writes its mapping. -/
def AccessOk (S : DictSetup) (ref : RadosCephJsonConfig) (s : Option Dict) (a : DictAccess) :
    Prop :=
  ∀ d p, s = some d → DictPath.ofKey a.key = some p →
    if d.created p then Undisturbed ref d p
    else a.env.create = true →
      (d.cfg = none → ConfigReadable S.codec d.w S.poolname S.cfgObjectName a.env.cfgRd
        a.env.cfgWr) ∧
      LookupOk ⟨true, ref⟩ a.env.rd a.env.wr (dictUid ref d.username p)
        ⟨d.w, ⟨S.poolname, ""⟩, d.cache⟩

/-! ## 3. The invariant -/

/-- What holds of a dictionary whose accesses were all safe, `w₀` being the cluster it was made
    in. -/
structure DictInv (S : DictSetup) (w₀ : Objects String) (ref : RadosCephJsonConfig) (d : Dict) :
    Prop where
  unloaded : d.cfg = none → d.w = w₀ ∧ (∀ p, d.created p = false) ∧ ∀ u, d.cache u = none
  loaded : ∀ b c, d.cfg = some (b, c) → c = ⟨true, ref⟩ ∧ d.created b = true
  username : d.cfg ≠ none → d.username = "" → ref.publicNamespace = ""
  closed : ∀ p, d.created p = false → d.ioCtx p = none
  opened : ∀ p, d.created p = true → ∃ io, d.ioCtx p = some io ∧ io.pool = S.poolname
  cacheOk : ∀ u v, d.cache u = some v → d.w (mappingName ⟨true, ref⟩ S.poolname u) = some v
  cached : ∀ p, d.created p = true → ref.userMapping = "true" → dictUid ref d.username p ≠ "" →
    ∃ v, d.cache (dictUid ref d.username p) = some v
  right : ∀ p io, d.created p = true → d.ioCtx p = some io → Undisturbed ref d p →
    mappedNamespace ⟨true, ref⟩ d.w S.poolname (dictUid ref d.username p) = some io.nspace

/-- What opening the context of `p` does to a dictionary, the mapping being looked up through the
    context `io` of `b`. -/
structure Opens (S : DictSetup) (ref : RadosCephJsonConfig) (p : DictPath) (d d' : Dict) :
    Prop where
  cfg : ∃ b, d'.cfg = some (b, ⟨true, ref⟩) ∧
    (b = p ∧ d.cfg = none ∨ d.cfg = some (b, ⟨true, ref⟩))
  created : d'.created = Function.update d.created p true
  uid : ∀ q, dictUid ref d'.username q = dictUid ref d.username q
  username : d'.username = "" → ref.publicNamespace = ""
  cacheOk : ∀ u v, d'.cache u = some v → d'.w (mappingName ⟨true, ref⟩ S.poolname u) = some v
  keeps : ∀ u v, d.cache u = some v → d'.cache u = some v
  cached : ref.userMapping = "true" → dictUid ref d.username p ≠ "" →
    ∃ v, d'.cache (dictUid ref d.username p) = some v
  ctx : ∃ io, d'.ioCtx p = some io ∧ io.pool = S.poolname ∧
    mappedNamespace ⟨true, ref⟩ d'.w S.poolname (dictUid ref d.username p) = some io.nspace
  otherCtx : d'.ioCtx p.other = d.ioCtx p.other ∨
    d'.cfg = some (p.other, ⟨true, ref⟩) ∧
      (d'.ioCtx p.other = (d.ioCtx p.other).map (·.setNamespace "")) ∧
      Uncached ⟨true, ref⟩ d.cache (dictUid ref d.username p)

section Invariant

variable {S : DictSetup} {w₀ : Objects String} {ref : RadosCephJsonConfig} {d d' : Dict}
  {p : DictPath} {e : DictEnv}

@[simp] theorem DictPath.other_other (p : DictPath) : p.other.other = p := by cases p <;> rfl

theorem DictPath.other_ne (p : DictPath) : p.other ≠ p := by cases p <;> decide

theorem DictPath.eq_or_other (p q : DictPath) : q = p ∨ q = p.other := by
  cases p <;> cases q <;> decide

theorem dictInv_new (username : String) : DictInv S w₀ ref (Dict.new w₀ username) where
  unloaded := fun _ => ⟨rfl, fun _ => rfl, fun _ => rfl⟩
  loaded := by intro b c h; cases h
  username := by intro h; exact absurd rfl h
  closed := fun _ _ => rfl
  opened := by intro p h; cases h
  cacheOk := by intro u v h; cases h
  cached := by intro p h; cases h
  right := by intro p io h; cases h

/-- A mapping that was resolved stays as it is while another one is resolved. -/
theorem mapped_stable (hi : DictInv S w₀ ref d) (ho : Opens S ref p d d') {q : DictPath}
    (hq : d.created q = true) :
    mappedNamespace ⟨true, ref⟩ d'.w S.poolname (dictUid ref d.username q) =
      mappedNamespace ⟨true, ref⟩ d.w S.poolname (dictUid ref d.username q) := by
  unfold mappedNamespace
  by_cases hu : dictUid ref d.username q = ""
  · rw [if_pos hu, if_pos hu]
  · rw [if_neg hu, if_neg hu]
    by_cases hm : ref.userMapping = "true"
    · obtain ⟨v, hv⟩ := hi.cached q hq hm hu
      rw [ho.cacheOk _ v (ho.keeps _ v hv), hi.cacheOk _ v hv]
    · have hm' : RadosDovecotCephCfg.isUserMapping ⟨true, ref⟩ = false := by
        simpa [RadosDovecotCephCfg.isUserMapping] using hm
      simp [hm']

theorem Opens.created_self (ho : Opens S ref p d d') : d'.created p = true := by
  rw [ho.created]
  exact Function.update_self ..

theorem Opens.created_other (ho : Opens S ref p d d') :
    d'.created p.other = d.created p.other := by
  rw [ho.created]
  exact Function.update_of_ne (β := fun _ => Bool) p.other_ne ..

/-- A lookup in RADOS that disturbed nothing would have found the mapping of the other context in
    the cache. -/
theorem Opens.otherCtx_eq (hi : DictInv S w₀ ref d) (ho : Opens S ref p d d')
    (hq : d.created p.other = true) (hund : Undisturbed ref d' p.other) :
    d'.ioCtx p.other = d.ioCtx p.other := by
  rcases ho.otherCtx with h | ⟨hbound, _, huid, hmap, hnone⟩
  · exact h
  · have hm : ref.userMapping = "true" := by
      simpa [RadosDovecotCephCfg.isUserMapping] using hmap
    have heq := hund _ hbound (by rw [DictPath.other_other]; exact ho.created_self) hm
      (by rw [ho.uid, DictPath.other_other]; exact huid)
    rw [ho.uid, ho.uid, DictPath.other_other] at heq
    obtain ⟨v, hv⟩ := hi.cached _ hq hm (heq ▸ huid)
    rw [← heq, hnone] at hv
    cases hv

/-- After `p` is opened every context that is undisturbed has the namespace of its user id. -/
theorem Opens.right (hi : DictInv S w₀ ref d) (hp : d.created p = false)
    (ho : Opens S ref p d d') (q : DictPath) (io : IoCtx) (hq : d'.created q = true)
    (hio : d'.ioCtx q = some io) (hund : Undisturbed ref d' q) :
    mappedNamespace ⟨true, ref⟩ d'.w S.poolname (dictUid ref d'.username q) = some io.nspace := by
  rw [ho.uid]
  rcases p.eq_or_other q with rfl | rfl
  · obtain ⟨io', hctx, _, hns⟩ := ho.ctx
    rw [hctx] at hio
    cases hio
    exact hns
  · rw [ho.created_other] at hq
    rw [ho.otherCtx_eq hi hq hund] at hio
    -- before, the context of `p` was closed, so nothing could have disturbed the other one
    have hbefore : Undisturbed ref d p.other := by
      intro c _ h
      rw [DictPath.other_other, hp] at h
      cases h
    rw [mapped_stable hi ho hq]
    exact hi.right _ io hq hio hbefore

/-- **Opening a context keeps the invariant.** -/
theorem dictInv_opens (hi : DictInv S w₀ ref d) (hp : d.created p = false)
    (ho : Opens S ref p d d') : DictInv S w₀ ref d' where
  unloaded := by
    intro h
    obtain ⟨b, hcfg, _⟩ := ho.cfg
    rw [hcfg] at h
    cases h
  loaded := by
    intro b c h
    obtain ⟨b', hcfg, hb⟩ := ho.cfg
    rw [hcfg] at h
    cases h
    refine ⟨rfl, ?_⟩
    rcases hb with ⟨rfl, _⟩ | hb
    · exact ho.created_self
    · have hbc := (hi.loaded b _ hb).2
      rcases p.eq_or_other b with rfl | rfl
      · exact ho.created_self
      · rw [ho.created_other]
        exact hbc
  username := fun _ => ho.username
  closed := by
    intro q hq
    rcases p.eq_or_other q with rfl | rfl
    · rw [ho.created_self] at hq
      cases hq
    · have hn := hi.closed _ (ho.created_other ▸ hq)
      rcases ho.otherCtx with h | ⟨_, h, _⟩
      · rw [h, hn]
      · rw [h, hn]
        rfl
  opened := by
    intro q hq
    rcases p.eq_or_other q with rfl | rfl
    · obtain ⟨io, h1, h2, _⟩ := ho.ctx
      exact ⟨io, h1, h2⟩
    · obtain ⟨io, h1, h2⟩ := hi.opened _ (ho.created_other ▸ hq)
      rcases ho.otherCtx with h | ⟨_, h, _⟩
      · exact ⟨io, h.trans h1, h2⟩
      · exact ⟨io.setNamespace "", by rw [h, h1]; rfl, h2⟩
  cacheOk := ho.cacheOk
  cached := by
    intro q hq hm hu
    rw [ho.uid] at hu ⊢
    rcases p.eq_or_other q with rfl | rfl
    · exact ho.cached hm hu
    · obtain ⟨v, hv⟩ := hi.cached _ (ho.created_other ▸ hq) hm hu
      exact ⟨v, ho.keeps _ v hv⟩
  right := ho.right hi hp

end Invariant

/-! ## 4. Opening a context -/

section Opening

variable {S : DictSetup} {w₀ : Objects String} {d d₁ d' : Dict} {p b : DictPath} {e : DictEnv}

/-- A safe `load_configuration` delivers the stored configuration, from the first context or from
    the one it was loaded through before. -/
theorem loadConfiguration_spec (hi : DictInv S w₀ (S.stored w₀) d)
    (hcfg : d₁.cfg = d.cfg) (hw : d₁.w = d.w) (hun : d₁.username = d.username)
    (hread : d.cfg = none →
      ConfigReadable S.codec d.w S.poolname S.cfgObjectName e.cfgRd e.cfgWr) :
    ∃ b w₁ un, d₁.loadConfiguration S e p ⟨S.poolname, ""⟩ =
        (true, (b, ⟨true, S.stored w₀⟩),
          { d₁ with w := w₁, username := un, cfg := some (b, ⟨true, S.stored w₀⟩) }) ∧
      (b = p ∧ d.cfg = none ∨ d.cfg = some (b, ⟨true, S.stored w₀⟩)) ∧
      (∀ u, w₁ (mappingName ⟨true, S.stored w₀⟩ S.poolname u) =
        d.w (mappingName ⟨true, S.stored w₀⟩ S.poolname u)) ∧
      un = (if d.username = "" then (S.stored w₀).publicNamespace else d.username) := by
  cases hc : d.cfg with
  | some bc =>
      obtain ⟨b, c⟩ := bc
      obtain ⟨rfl, _⟩ := hi.loaded b c hc
      have hun' : d₁.username =
          (if d.username = "" then (S.stored w₀).publicNamespace else d.username) := by
        rw [hun]
        split
        case isTrue h => rw [h, hi.username (by rw [hc]; exact Option.some_ne_none _) h]
        case isFalse => rfl
      refine ⟨b, d₁.w, d₁.username, ?_, Or.inr rfl, fun u => by rw [hw], hun'⟩
      unfold Dict.loadConfiguration
      rw [hcfg, hc]
      dsimp only
      rw [← hc, ← hcfg]
  | none =>
      have hw₀ := (hi.unloaded hc).1
      have hr := hread hc
      rw [hw₀] at hr
      obtain ⟨hjson, _, hret⟩ := loadOrDefault_of_readable hr
      refine ⟨p, (loadOrDefault S.codec w₀ ⟨S.poolname, ""⟩ e.cfgRd e.cfgWr
        { cfgObjectName := S.cfgObjectName }).w, _, ?_, Or.inl ⟨rfl, rfl⟩, fun u => ?_, rfl⟩
      case refine_1 =>
        unfold Dict.loadConfiguration
        rw [hcfg, hc]
        dsimp only
        rw [hw, hw₀, hun, hjson]
        simp only [hret, decide_false, Bool.not_false]
        rfl
      case refine_2 =>
        rw [hw₀]
        exact loadOrDefault_mapping hr u

/-- A safe `lookup_namespace` hands out the mapped namespace. -/
theorem lookup_spec {c : RadosDovecotCephCfg} {uid : String} {io : IoCtx}
    (hio : d.ioCtx b = some io) (hv : c.isConfigValid = true)
    (hc : CacheOk c io.pool ⟨d.w, io, d.cache⟩)
    (hok : LookupOk c e.rd e.wr uid ⟨d.w, io, d.cache⟩) :
    ∃ ns st', d.lookup e (b, c) uid =
        some (ns, { d with
          w := st'.w, ioCtx := Function.update d.ioCtx b (some st'.io), cache := st'.cache }) ∧
      Resolved c uid ⟨d.w, io, d.cache⟩ ns st' := by
  have hr := rboxLookupOrAdd_resolves c e.guid e.rd e.wr uid ⟨d.w, io, d.cache⟩
  have hres := resolves_mapped hr (resolves_nonneg hr hv hok) hc
  rw [← lookupNamespace_snd] at hres
  refine ⟨_, _, ?_, hres⟩
  unfold Dict.lookup
  rw [hio]
  rfl

/-- The steps that follow each other in both functions amount to opening the context. -/
theorem opens_of_resolved {w₁ : Objects String} {un ns : String} {io : IoCtx} {st' : NsState}
    (hb : b = p ∧ d.cfg = none ∨ d.cfg = some (b, ⟨true, S.stored w₀⟩))
    (hun : un = (if d.username = "" then (S.stored w₀).publicNamespace else d.username))
    (hio : Function.update d.ioCtx p (some ⟨S.poolname, ""⟩) b = some io)
    (hpool : io.pool = S.poolname)
    (hres : Resolved ⟨true, S.stored w₀⟩ (dictUid (S.stored w₀) d.username p)
      ⟨w₁, io, d.cache⟩ ns st')
    (hd' : d' = Dict.setNamespace p ns ⟨st'.w, un,
      Function.update (Function.update d.ioCtx p (some ⟨S.poolname, ""⟩)) b (some st'.io),
      Function.update d.created p true, some (b, ⟨true, S.stored w₀⟩), st'.cache⟩) :
    Opens S (S.stored w₀) p d d' := by
  subst hd'
  have hst' : st'.io.pool = S.poolname := hres.pool.trans hpool
  refine ⟨⟨b, rfl, hb⟩, rfl, ?_, ?_, ?_, hres.keeps, ?_, ?_, ?_⟩
  case refine_1 =>
    intro q
    cases q with
    | shared => rfl
    | priv =>
        show (if un = "" then _ else un) ++ _ = (if d.username = "" then _ else d.username) ++ _
        rw [hun]
        by_cases h : d.username = "" <;> simp [h]
  case refine_2 =>
    intro h
    have h' : un = "" := h
    rw [hun] at h'
    split at h'
    · exact h'
    · contradiction
  case refine_3 =>
    have := hres.cacheOk
    rw [hpool] at this
    exact this
  case refine_4 =>
    intro hm hu
    exact ⟨ns, hres.cached (by simp [RadosDovecotCephCfg.isUserMapping, hm]) hu⟩
  case refine_5 =>
    have hmap := hres.mapped
    rw [show (NsState.mk w₁ io d.cache).io.pool = S.poolname from hpool] at hmap
    rcases p.eq_or_other b with rfl | rfl
    · refine ⟨st'.io.setNamespace ns, ?_, hst', hmap⟩
      simp [Dict.setNamespace]
    · refine ⟨(⟨S.poolname, ""⟩ : IoCtx).setNamespace ns, ?_, rfl, hmap⟩
      simp [Dict.setNamespace, Function.update_of_ne p.other_ne.symm]
  case refine_6 =>
    rcases p.eq_or_other b with rfl | rfl
    · left
      simp [Dict.setNamespace, Function.update_of_ne b.other_ne]
    · have hio' : d.ioCtx p.other = some io := by
        simpa [Function.update_of_ne p.other_ne] using hio
      rcases hres.io with ⟨h, _⟩ | ⟨h, hunc⟩
      · left
        simp [Dict.setNamespace, Function.update_of_ne p.other_ne, h, hio']
      · right
        refine ⟨rfl, ?_, hunc⟩
        simp [Dict.setNamespace, Function.update_of_ne p.other_ne, h, hio']

/-- The id each of the two functions looks up is the one of its path. -/
theorem dictUid_loaded (ref : RadosCephJsonConfig) (username : String) :
    (if username = "" then ref.publicNamespace else username) ++ ref.userSuffix =
      dictUid ref username .priv := rfl

/-- The context a lookup goes through: the one just created or the other, open one. -/
theorem DictInv.bound (hi : DictInv S w₀ (S.stored w₀) d)
    (hb : b = p ∧ d.cfg = none ∨ d.cfg = some (b, ⟨true, S.stored w₀⟩)) :
    ∃ io : IoCtx, Function.update d.ioCtx p (some ⟨S.poolname, ""⟩) b = some io ∧
      io.pool = S.poolname := by
  by_cases e : b = p
  · exact ⟨⟨S.poolname, ""⟩, by rw [e]; exact Function.update_self .., rfl⟩
  · rcases hb with ⟨h, _⟩ | h
    · exact absurd h e
    · obtain ⟨io, h1, h2⟩ := hi.opened b (hi.loaded b _ h).2
      exact ⟨io, by rw [Function.update_of_ne e]; exact h1, h2⟩

/-- What a lookup needs of the loaded dictionary, for whichever context serves it. -/
theorem DictInv.ready (hi : DictInv S w₀ (S.stored w₀) d)
    (hlook : LookupOk ⟨true, S.stored w₀⟩ e.rd e.wr (dictUid (S.stored w₀) d.username p)
      ⟨d.w, ⟨S.poolname, ""⟩, d.cache⟩)
    {w₁ : Objects String} {io : IoCtx} (hpool : io.pool = S.poolname)
    (hw₁ : ∀ u, w₁ (mappingName ⟨true, S.stored w₀⟩ S.poolname u) =
      d.w (mappingName ⟨true, S.stored w₀⟩ S.poolname u)) :
    CacheOk ⟨true, S.stored w₀⟩ io.pool ⟨w₁, io, d.cache⟩ ∧
      LookupOk ⟨true, S.stored w₀⟩ e.rd e.wr (dictUid (S.stored w₀) d.username p)
        ⟨w₁, io, d.cache⟩ := by
  constructor
  · intro u v hu
    show w₁ _ = some v
    rw [hpool, hw₁]
    exact hi.cacheOk u v hu
  · intro hunc
    rcases hlook hunc with h | ⟨hr, v, hv, h⟩
    · exact Or.inl h
    · refine Or.inr ⟨hr, v, hv, ?_⟩
      show w₁ (mappingName _ io.pool _) = some v
      rw [hpool, hw₁]
      exact h

/-- **A safe first use of a context opens it.** -/
theorem getIoCtx_opens (hi : DictInv S w₀ (S.stored w₀) d) (hp : d.created p = false)
    (hcr : e.create = true)
    (hread : d.cfg = none →
      ConfigReadable S.codec d.w S.poolname S.cfgObjectName e.cfgRd e.cfgWr)
    (hlook : LookupOk ⟨true, S.stored w₀⟩ e.rd e.wr (dictUid (S.stored w₀) d.username p)
      ⟨d.w, ⟨S.poolname, ""⟩, d.cache⟩) :
    ∃ d', d.getIoCtx S e p = some d' ∧ Opens S (S.stored w₀) p d d' := by
  have hvalid : RadosDovecotCephCfg.isConfigValid ⟨true, S.stored w₀⟩ = true := by
    simp [RadosDovecotCephCfg.isConfigValid, DictSetup.stored]
  cases p with
  | shared =>
      obtain ⟨b, w₁, un, hload, hb, hw₁, hun⟩ := @loadConfiguration_spec S w₀ d
        { d with
          ioCtx := Function.update d.ioCtx .shared (some ⟨S.poolname, ""⟩)
          created := Function.update d.created .shared true } .shared e hi rfl rfl rfl hread
      obtain ⟨io, hio, hpool⟩ := hi.bound hb
      obtain ⟨hc, hok⟩ := hi.ready hlook hpool hw₁
      obtain ⟨ns, st', hl, hres⟩ := @lookup_spec
        ⟨w₁, un, Function.update d.ioCtx .shared (some ⟨S.poolname, ""⟩),
          Function.update d.created .shared true, some (b, ⟨true, S.stored w₀⟩), d.cache⟩ b e
        ⟨true, S.stored w₀⟩ (dictUid (S.stored w₀) d.username .shared) io hio hvalid hc hok
      refine ⟨_, ?_, opens_of_resolved hb hun hio hpool hres rfl⟩
      have hl' : Dict.lookup e (b, ⟨true, S.stored w₀⟩) (S.stored w₀).publicNamespace _ = _ := hl
      simp only [Dict.getIoCtx, Dict.getSharedIoCtx, hp, hcr, Bool.not_true, Bool.false_eq_true,
        if_false, hload, if_true, hl', Option.map_some]
  | priv =>
      obtain ⟨b, w₁, un, hload, hb, hw₁, hun⟩ := @loadConfiguration_spec S w₀ d
        { d with ioCtx := Function.update d.ioCtx .priv (some ⟨S.poolname, ""⟩) } .priv e
        hi rfl rfl rfl hread
      obtain ⟨io, hio, hpool⟩ := hi.bound hb
      obtain ⟨hc, hok⟩ := hi.ready hlook hpool hw₁
      obtain ⟨ns, st', hl, hres⟩ := @lookup_spec
        ⟨w₁, un, Function.update d.ioCtx .priv (some ⟨S.poolname, ""⟩), d.created,
          some (b, ⟨true, S.stored w₀⟩), d.cache⟩ b e
        ⟨true, S.stored w₀⟩ (dictUid (S.stored w₀) d.username .priv) io hio hvalid hc hok
      refine ⟨_, ?_, opens_of_resolved hb hun hio hpool hres rfl⟩
      rw [← dictUid_loaded, ← hun] at hl
      simp only [Dict.getIoCtx, Dict.getPrivateIoCtx, hp, hcr, Bool.not_true, Bool.false_eq_true,
        if_false, hload, if_true, hl, Option.map_some]
      rfl

end Opening

/-! ## 5. Whole runs -/

section Runs

variable {S : DictSetup} {w₀ : Objects String} {d d' : Dict} {a : DictAccess}

/-- What a safe access does: nothing to a context that is there, or it opens one. -/
theorem access_cases (hi : DictInv S w₀ (S.stored w₀) d) (hok : AccessOk S (S.stored w₀) (some d) a)
    (h : access S (some d) a = some d') : ∃ p, DictPath.ofKey a.key = some p ∧
      (d' = d ∧ d.created p = true ∧ Undisturbed (S.stored w₀) d p ∨
        d.created p = false ∧ Opens S (S.stored w₀) p d d') := by
  unfold access at h
  obtain ⟨_, hd, h⟩ := Option.bind_eq_some_iff.mp h
  cases hd
  obtain ⟨p, hk, h⟩ := Option.bind_eq_some_iff.mp h
  obtain ⟨d₁, hg, h⟩ := Option.bind_eq_some_iff.mp h
  split at h
  case isFalse => cases h
  case isTrue hsome =>
    cases h
    have hok' := hok d p rfl hk
    refine ⟨p, hk, ?_⟩
    cases hp : d.created p with
    | true =>
        rw [hp, if_pos rfl] at hok'
        left
        refine ⟨?_, rfl, hok'⟩
        cases p with
        | priv => simpa [Dict.getIoCtx, Dict.getPrivateIoCtx, hp] using hg.symm
        | shared => simpa [Dict.getIoCtx, Dict.getSharedIoCtx, hp] using hg.symm
    | false =>
        rw [hp] at hok'
        right
        refine ⟨rfl, ?_⟩
        by_cases hcr : a.env.create = true
        · obtain ⟨hread, hlook⟩ := hok' hcr
          obtain ⟨d₂, hg', ho⟩ := getIoCtx_opens hi hp hcr hread hlook
          rw [hg'] at hg
          cases hg
          exact ho
        · -- without an io context the process ends before it operates
          exfalso
          have hn := hi.closed p hp
          cases p with
          | priv =>
              simp only [Dict.getIoCtx, Dict.getPrivateIoCtx, hp, hcr, Bool.false_eq_true,
                if_false, Bool.not_false, if_true, Option.some.injEq] at hg
              rw [← hg, hn] at hsome
              cases hsome
          | shared => simp [Dict.getIoCtx, Dict.getSharedIoCtx, hp, hcr] at hg

/-- The invariant of a run: of the dictionary, while the process lives. -/
def RunInv (S : DictSetup) (w₀ : Objects String) (s : Option Dict) : Prop :=
  ∀ d, s = some d → DictInv S w₀ (S.stored w₀) d

theorem runInv_access (s : Option Dict) (a : DictAccess) (hi : RunInv S w₀ s)
    (hok : AccessOk S (S.stored w₀) s a) : RunInv S w₀ (access S s a) := by
  intro d' h
  cases s with
  | none => cases h
  | some d =>
      have hid := hi d rfl
      obtain ⟨p, _, h | h⟩ := access_cases hid hok h
      · rw [h.1]
        exact hid
      · exact dictInv_opens hid h.1 h.2

theorem rightNamespace_access (s : Option Dict) (a : DictAccess) (hi : RunInv S w₀ s)
    (hok : AccessOk S (S.stored w₀) s a) : RightNamespace S (S.stored w₀) s a := by
  intro d' p io h hk hio
  cases s with
  | none => cases h
  | some d =>
      obtain ⟨p', hk', hc⟩ := access_cases (hi d rfl) hok h
      rw [hk] at hk'
      cases hk'
      rcases hc with ⟨rfl, hcr, hund⟩ | ⟨_, ho⟩
      · exact (hi d' rfl).right p io hcr hio hund
      · obtain ⟨io', h1, _, h3⟩ := ho.ctx
        rw [h1] at hio
        cases hio
        rw [ho.uid]
        exact h3

/-- **In every run of safe accesses each operation is executed in the namespace mapped to its
    user id.** -/
theorem operations_in_right_namespace (S : DictSetup) (w₀ : Objects String) (username : String)
    (as : List DictAccess)
    (hok : Along (access S) (AccessOk S (S.stored w₀)) (some (Dict.new w₀ username)) as) :
    Along (access S) (RightNamespace S (S.stored w₀)) (some (Dict.new w₀ username)) as := by
  refine along_imp_of_inv runInv_access rightNamespace_access ?_ hok
  intro d h
  cases h
  exact dictInv_new username

end Runs

def mappedSetup : DictSetup := ⟨plainCodec, "mail_dictionary", "rbox_cfg"⟩

/-- The pool holds a configuration with user mapping and the mappings of `alice_u` and of the
    public namespace. -/
def mappedPool : Objects String := fun n =>
  if n = ⟨"mail_dictionary", "", "rbox_cfg"⟩ then
    some (plainCodec.dumps ⟨"true", "users", "_u", "public"⟩)
  else if n = ⟨"mail_dictionary", "users", "alice_u"⟩ then some "0011"
  else if n = ⟨"mail_dictionary", "users", "public"⟩ then some "2233"
  else none

/-- An access during which RADOS answers every call. -/
def calmAccess (key : String) : DictAccess :=
  ⟨key, true, fun _ => .done, .done, fun _ => .done, .done, "ffee"⟩

set_option maxRecDepth 8000 in
/-- Private access, private access, shared access: every operation is in its namespace. -/
theorem private_then_shared_right :
    Along (access mappedSetup) (RightNamespace mappedSetup (mappedSetup.stored mappedPool))
      (some (Dict.new mappedPool "alice"))
      [calmAccess "priv/quota", calmAccess "priv/quota", calmAccess "shared/expire"] := by
  refine operations_in_right_namespace mappedSetup mappedPool "alice" _ ⟨?_, ?_, ?_, trivial⟩
  · intro d p hd hk
    cases hd
    cases hk
    exact fun _ => ⟨fun _ => ⟨⟨0, by omega, rfl, fun k hk => by omega⟩, rfl⟩, fun _ => Or.inl rfl⟩
  · intro d p hd hk
    cases hd
    cases hk
    exact fun _ _ h => by cases h
  · intro d p hd hk
    cases hd
    cases hk
    exact fun _ => ⟨nofun, fun _ => Or.inl rfl⟩

set_option maxRecDepth 8000 in
/-- A private access after the first shared one runs in the empty namespace instead of `0011`. -/
theorem private_after_shared_wrong :
    ¬ Along (access mappedSetup) (RightNamespace mappedSetup (mappedSetup.stored mappedPool))
      (some (Dict.new mappedPool "alice"))
      [calmAccess "priv/quota", calmAccess "shared/expire", calmAccess "priv/quota"] := by
  rintro ⟨_, _, h, _⟩
  have := h _ .priv ⟨"mail_dictionary", ""⟩ rfl rfl rfl
  revert this
  decide

end DovecotCeph
