/-
  File:      DovecotCeph/Storage/OpenConnection.lean
  Subject:   `rbox_open_rados_connection` and `rbox_storage_mailbox_delete` (rbox-storage.cpp) on
             one `rbox_storage`: a primary and an alternative `RadosStorageImpl`, the
             configuration bound to the primary one, and the namespace manager with its cache.

  The namespace is part of the shared io contexts, and a call that finds the connection open
  returns before it looks at the box's owner. **`opened_in_mapped_namespace`** says which histories
  of calls keep every successful call in the namespace of its box.
-/
import DovecotCeph.Librmb.CephConfig
import DovecotCeph.Librmb.Cluster
import DovecotCeph.Storage.MailboxDelete

namespace DovecotCeph

open Lib

/-! ## 1. Opening a storage -/

/-- The result of `open_connection`: its code or `none` for an exception, whether the cluster is
    connected, the storage, and whether its io context is a new one. -/
structure ConnResult where
  ret : Option Int
  connected : Bool
  s : RadosStorage
  fresh : Bool

/-- `RadosStorageImpl::open_connection`. -/
def openConnection (poolname : String) (o : Conn) (connected : Bool) (s : RadosStorage) :
    ConnResult :=
  if connected && s.ioCtxCreated then ⟨some 1, connected, s, false⟩
  else
    let io : IoCtx := ⟨poolname, ""⟩
    match o with
    | .initFails => ⟨some (-1), connected, s, false⟩
    | .ioCtxFails e connects => ⟨some e.1, connected || connects, s, false⟩
    | .laterFails e => ⟨some e.1, true, { s with io := io }, true⟩
    | .laterThrows => ⟨none, true, { s with io := io }, true⟩
    | .opens => ⟨some 0, true, { s with io := io, ioCtxCreated := true }, true⟩

/-! ## 2. The calls -/

/-- What the plugin's settings and the build fix: the JSON library, pool and configuration object
    of the primary storage, `rbox_check_empty_mailboxes`, and whether assertions are off. -/
structure RboxSetup where
  codec : JsonCodec
  poolname : String
  cfgObjectName : String
  checkEmptyMailboxes : Bool
  ndebug : Bool

/-- `struct rbox_storage`, with the cluster; `ioReady` tells whether the primary io context has an
    implementation. -/
structure RboxStorage where
  w : Objects String
  connected : Bool
  s : RadosStorage
  ioReady : Bool
  alt : RadosStorage
  cfg : RadosDovecotCephCfg
  cache : String → Option String

/-- `rbox_storage_alloc`; the cluster is shared by all storages of the process and may be
    connected already. -/
def RboxStorage.alloc (w : Objects String) (connected : Bool) : RboxStorage :=
  ⟨w, connected, ⟨⟨"", ""⟩, false, ""⟩, false, ⟨⟨"", ""⟩, false, ""⟩, ⟨false, {}⟩, fun _ => none⟩

/-- A mailbox, for its connection: the owner of its namespace and the alternative pool. -/
structure OpenBox where
  owner : Option String
  altDir : String

/-- The user id a box's mails belong to. -/
def OpenBox.uid (box : OpenBox) (c : RadosDovecotCephCfg) : String :=
  match box.owner with
  | some username => username ++ c.json.userSuffix
  | none => c.json.publicNamespace

/-- What the cluster answers during one call. -/
structure OpenEnv where
  primary : Conn
  alt : Conn
  cfgRd : Nat → Outcome
  cfgWr : Outcome
  rd : Nat → Outcome
  wr : Outcome
  guid : String

/-- The exits of `rbox_open_rados_connection`. -/
inductive OpenExit where
  | already
  | notConnected
  | noConfig
  | noNamespace
  | opened
  deriving DecidableEq

namespace RboxStorage

/-- `read_plugin_configuration`. -/
def readPluginConfiguration (S : RboxSetup) (st : RboxStorage) : RboxStorage :=
  if st.cfg.isConfigValid then st
  else { st with cfg := ⟨true, { st.cfg.json with cfgObjectName := S.cfgObjectName }⟩ }

/-- The try block: connect the primary storage and, if asked for, the alternative one, whose code
    then replaces the primary one's. -/
def connect (S : RboxSetup) (e : OpenEnv) (box : OpenBox) (alt : Bool) (st : RboxStorage) :
    Int × RboxStorage :=
  let p := openConnection S.poolname e.primary st.connected st.s
  let st := { st with connected := p.connected, s := p.s, ioReady := st.ioReady || p.fresh }
  match p.ret with
  | none => (-1, st)
  | some ret =>
    if alt then
      let a := openConnection box.altDir e.alt st.connected st.alt
      (a.ret.getD (-1), { st with connected := a.connected, alt := a.s })
    else (ret, st)

/-- `rbox_open_rados_connection` from the loading of the configuration on; `none` where a failing
    assertion ends the process. -/
def finishOpen (S : RboxSetup) (e : OpenEnv) (box : OpenBox) (alt : Bool) (st : RboxStorage) :
    Option (OpenExit × Int × RboxStorage) :=
  let l := loadOrDefault S.codec st.w st.s.io e.cfgRd e.cfgWr st.cfg.json
  let st := { st with w := l.w, cfg := { st.cfg with json := l.json } }
  if l.ret < 0 then
    if S.ndebug then some (.noConfig, l.ret, st) else none
  else
    let r := rboxLookupOrAdd st.cfg e.guid e.rd e.wr (box.uid st.cfg) ⟨st.w, st.s.io, st.cache⟩
    let st := { st with w := r.2.2.w, s := { st.s with io := r.2.2.io }, cache := r.2.2.cache }
    if 0 ≤ r.1 then
      some (.opened, r.1, { st with
        s := st.s.setNamespace r.2.1
        alt := if alt then st.alt.setNamespace r.2.1 else st.alt })
    else some (.noNamespace, r.1, st)

/-- **`rbox_open_rados_connection(box, alt_storage)`**: the exit taken, the code, the storage;
    `none` where the process ends (a failing assertion, or an io context without
    implementation). -/
def openRadosConnection (S : RboxSetup) (e : OpenEnv) (box : OpenBox) (alt : Bool)
    (st : RboxStorage) : Option (OpenExit × Int × RboxStorage) :=
  let st := st.readPluginConfiguration S
  let c := st.connect S e box alt
  if c.1 = 1 then some (.already, 0, c.2)
  else if c.1 < 0 then some (.notConnected, c.1, c.2)
  else if !c.2.ioReady then none
  else c.2.finishOpen S e box alt

/-- The part of the storage `check_users_mailbox_delete_ns_object` works on, and back. -/
def nsStore (st : RboxStorage) : NsStore := ⟨st.w, st.connected, st.s, st.cache⟩

def setNsStore (st : RboxStorage) (n : NsStore) : RboxStorage :=
  { st with w := n.w, connected := n.connected, s := n.s, cache := n.cache }

/-- `rbox_storage_mailbox_delete` once the mailbox's index is gone and the connection open. -/
def deleteChecks (S : RboxSetup) (env : Nat → DeleteEnv)
    (namespaces : List (MailNamespace StatusBox)) (ret : Int) (st : RboxStorage) :
    Int × RboxStorage :=
  if !S.checkEmptyMailboxes then (ret, st)
  else if st.cfg.isUserMapping then
    let r := checkUsersMailboxDeleteNsObject st.cfg env namespaces st.nsStore
    (r.1, st.setNsStore r.2.1)
  else (ret, st)

end RboxStorage

/-- A call on the storage. A deletion carries the code of `index_storage_mailbox_delete`, the
    user's namespaces and RADOS's answers to their check. -/
inductive StorageCall where
  | openBox (box : OpenBox) (alt : Bool) (e : OpenEnv)
  | deleteBox (box : OpenBox) (e : OpenEnv) (indexRet : Int)
      (namespaces : List (MailNamespace StatusBox)) (env : Nat → DeleteEnv)

namespace StorageCall

def box : StorageCall → OpenBox
  | .openBox box _ _ => box
  | .deleteBox box _ _ _ _ => box

/-- The alternative storage is requested. -/
def alt : StorageCall → Bool
  | .openBox _ alt _ => alt
  | .deleteBox .. => false

def env : StorageCall → OpenEnv
  | .openBox _ _ e => e
  | .deleteBox _ e _ _ _ => e

end StorageCall

/-! ## 3. Histories -/

/-- A storage with its history: the user id the primary storage was last opened for, and the
    alternative one, each forgotten when its context is touched without being opened. -/
structure Session where
  st : RboxStorage
  openedFor : Option String
  altOpenedFor : Option String

namespace Session

/-- The history after a call of `rbox_open_rados_connection` in `σ` that ended as told. -/
def track (box : OpenBox) (alt : Bool) (σ : Session) (exit : OpenExit) (st : RboxStorage) :
    Session :=
  match exit with
  | .opened =>
      ⟨st, some (box.uid st.cfg), if alt then some (box.uid st.cfg) else σ.altOpenedFor⟩
  | .noConfig | .noNamespace => ⟨st, none, if alt then none else σ.altOpenedFor⟩
  | .already | .notConnected =>
      ⟨st, if σ.st.connected && σ.st.s.ioCtxCreated then σ.openedFor else none,
        if alt && !(σ.st.connected && σ.st.alt.ioCtxCreated) then none else σ.altOpenedFor⟩

/-- One call: code and session; `none` where the process ends. -/
def call (S : RboxSetup) (σ : Session) : StorageCall → Option (Int × Session)
  | .openBox box alt e =>
      (σ.st.openRadosConnection S e box alt).map fun r =>
        (r.2.1, σ.track box alt r.1 r.2.2)
  | .deleteBox box e indexRet namespaces env =>
      if indexRet < 0 then some (indexRet, σ)
      else
        let σ := { σ with st := σ.st.readPluginConfiguration S }
        (σ.st.openRadosConnection S e box false).map fun r =>
          let σ' := σ.track box false r.1 r.2.2
          if r.2.1 < 0 then (r.2.1, σ')
          else
            let d := σ'.st.deleteChecks S env namespaces r.2.1
            (d.1, { σ' with st := d.2 })

end Session

/-- A session, as long as the process lives, and its step. -/
def sessionStep (S : RboxSetup) (s : Option Session) (a : StorageCall) : Option Session :=
  s.bind fun σ => (σ.call S a).map Prod.snd

/-- The storage works in the namespace. -/
def RadosStorage.WorksIn (s : RadosStorage) (ns : String) : Prop :=
  s.io.nspace = ns ∧ s.nspace = ns

/-- The storages that were asked for work in the namespace of the box. -/
def RightIn (S : RboxSetup) (box : OpenBox) (alt : Bool) (st : RboxStorage) : Prop :=
  ∃ ns, mappedNamespace st.cfg st.w S.poolname (box.uid st.cfg) = some ns ∧
    st.s.WorksIn ns ∧ (alt = true → st.alt.WorksIn ns)

/-- **A call that returns a code at or above zero leaves the primary storage, and the alternative
    one when it was requested, in the namespace mapped to the box's owner.** -/
def RightAfter (S : RboxSetup) (s : Option Session) (a : StorageCall) : Prop :=
  ∀ σ ret σ', s = some σ → σ.call S a = some (ret, σ') → 0 ≤ ret → RightIn S a.box a.alt σ'.st

/-- The call finds the connection it asks for open and returns at once. -/
def AlreadyOpen (alt : Bool) (st : RboxStorage) : Prop :=
  st.connected = true ∧ (if alt then st.alt.ioCtxCreated else st.s.ioCtxCreated) = true

/-- If the call returns at once, it finds the contexts as a call for the same user id left
    them. -/
def SafeExit (box : OpenBox) (alt : Bool) (σ : Session) : Prop :=
  AlreadyOpen alt σ.st → σ.st.s.ioCtxCreated = true ∧ σ.openedFor = some (box.uid σ.st.cfg) ∧
    (alt = true → σ.altOpenedFor = some (box.uid σ.st.cfg))

/-- User mapping is on in the configuration in use: the loaded one, else the stored one. -/
def MappingInUse (S : RboxSetup) (st : RboxStorage) : Prop :=
  (if st.cfg.json.valid then st.cfg.json
    else storedConfig S.codec st.w S.poolname S.cfgObjectName).userMapping = "true"

/-- **The calls that are safe**: they exit safely, and the checks of a deletion find no empty
    namespace, so that they do not retarget the primary storage. -/
def CallOk (S : RboxSetup) (s : Option Session) (a : StorageCall) : Prop :=
  ∀ σ, s = some σ →
    SafeExit a.box a.alt σ ∧
    match a with
    | .openBox .. => True
    | .deleteBox _ _ indexRet namespaces _ =>
        0 ≤ indexRet → S.checkEmptyMailboxes = true → MappingInUse S σ.st →
          ¬ SomeNamespaceCountsZero namespaces

/-! ## 4. The invariant -/

/-- The storage `x` is settled in the namespace of `u`, and the mapping of `u` will not be looked
    up again. -/
structure Settled (S : RboxSetup) (st : RboxStorage) (u : String) (x : RadosStorage) : Prop where
  valid : st.cfg.json.valid = true
  worksIn : ∃ ns, mappedNamespace st.cfg st.w S.poolname u = some ns ∧ x.WorksIn ns
  cached : st.cfg.isUserMapping = true → u ≠ "" → ∃ v, st.cache u = some v

/-- What holds of a session after any calls. -/
structure SessionInv (S : RboxSetup) (σ : Session) : Prop where
  created : σ.st.s.ioCtxCreated = true → σ.st.connected = true ∧ σ.st.ioReady = true
  altCreated : σ.st.alt.ioCtxCreated = true → σ.st.connected = true
  pool : σ.st.ioReady = true → σ.st.s.io.pool = S.poolname
  dovecotValid : σ.st.cfg.json.valid = true → σ.st.cfg.dovecotValid = true
  unloaded : σ.st.cfg.json.valid = false →
    σ.st.cfg.json = { cfgObjectName := σ.st.cfg.json.cfgObjectName } ∧
      (σ.st.ioReady = true → σ.st.s.io = ⟨S.poolname, ""⟩) ∧ ∀ u, σ.st.cache u = none
  cacheOk : ∀ u v, σ.st.cache u = some v → σ.st.w (mappingName σ.st.cfg S.poolname u) = some v
  right : ∀ u, σ.openedFor = some u → Settled S σ.st u σ.st.s
  altRight : ∀ u, σ.altOpenedFor = some u → Settled S σ.st u σ.st.alt

section Connect

variable {S : RboxSetup} {e : OpenEnv} {box : OpenBox} {alt : Bool} {σ : Session}
  {poolname : String} {o : Conn} {connected : Bool} {s : RadosStorage}

theorem openConnection_open (hc : connected = true) (hs : s.ioCtxCreated = true) :
    openConnection poolname o connected s = ⟨some 1, connected, s, false⟩ := by
  unfold openConnection
  rw [hc, hs]
  rfl

/-- **What an attempt to connect does**, beside its code. -/
theorem openConnection_spec (poolname : String) (o : Conn) (connected : Bool) (s : RadosStorage) :
    (connected = true → (openConnection poolname o connected s).connected = true) ∧
    (if (openConnection poolname o connected s).fresh then
      (openConnection poolname o connected s).s.io = ⟨poolname, ""⟩ ∧
        (openConnection poolname o connected s).connected = true
    else (openConnection poolname o connected s).s = s) := by
  unfold openConnection
  split
  · exact ⟨fun h => h, rfl⟩
  · cases o with
    | initFails => exact ⟨fun h => h, rfl⟩
    | ioCtxFails e c => exact ⟨fun h => by simp [h], rfl⟩
    | laterFails e => exact ⟨fun _ => rfl, rfl, rfl⟩
    | laterThrows => exact ⟨fun _ => rfl, rfl, rfl⟩
    | opens => exact ⟨fun _ => rfl, rfl, rfl⟩

/-- The code one is reserved for an open connection. -/
theorem openConnection_one (h : (openConnection poolname o connected s).ret = some 1) :
    connected = true ∧ s.ioCtxCreated = true := by
  unfold openConnection at h
  split at h
  case isTrue hc => simpa using hc
  case isFalse =>
    cases o with
    | initFails => simp at h
    | ioCtxFails e c =>
        have := e.2
        simp only [Option.some.injEq] at h
        omega
    | laterFails e =>
        have := e.2
        simp only [Option.some.injEq] at h
        omega
    | laterThrows => simp at h
    | opens => simp at h

/-- **What the try block does to the storage**: each of the two parts is left alone, or it has a
    new context on a connected cluster; an open one is left alone. -/
theorem connect_spec (S : RboxSetup) (e : OpenEnv) (box : OpenBox) (alt : Bool)
    (st : RboxStorage) :
    ∃ con s rdy alt', (st.connect S e box alt).2 =
        { st with connected := con, s := s, ioReady := rdy, alt := alt' } ∧
      (st.connected = true → con = true) ∧
      (s = st.s ∧ rdy = st.ioReady ∨
        (st.connected && st.s.ioCtxCreated) = false ∧ s.io = ⟨S.poolname, ""⟩ ∧ rdy = true ∧
          con = true) ∧
      (alt' = st.alt ∨
        alt = true ∧ (st.connected && st.alt.ioCtxCreated) = false ∧ con = true) := by
  obtain ⟨hcon, hs⟩ := openConnection_spec S.poolname e.primary st.connected st.s
  -- the primary storage
  have hprim : (openConnection S.poolname e.primary st.connected st.s).s = st.s ∧
        (st.ioReady || (openConnection S.poolname e.primary st.connected st.s).fresh) =
          st.ioReady ∨
      (st.connected && st.s.ioCtxCreated) = false ∧
        (openConnection S.poolname e.primary st.connected st.s).s.io = ⟨S.poolname, ""⟩ ∧
        (st.ioReady || (openConnection S.poolname e.primary st.connected st.s).fresh) = true ∧
        (openConnection S.poolname e.primary st.connected st.s).connected = true := by
    cases hf : (openConnection S.poolname e.primary st.connected st.s).fresh with
    | false =>
        rw [hf] at hs
        exact Or.inl ⟨hs, by simp⟩
    | true =>
        rw [hf, if_pos rfl] at hs
        refine Or.inr ⟨?_, hs.1, by simp, hs.2⟩
        refine Bool.eq_false_iff.mpr fun h => ?_
        rw [Bool.and_eq_true] at h
        rw [openConnection_open h.1 h.2] at hf
        cases hf
  unfold RboxStorage.connect
  dsimp only
  cases hret : (openConnection S.poolname e.primary st.connected st.s).ret with
  | none => exact ⟨_, _, _, _, rfl, hcon, hprim, Or.inl rfl⟩
  | some ret =>
      cases alt with
      | false => exact ⟨_, _, _, _, rfl, hcon, hprim, Or.inl rfl⟩
      | true =>
          obtain ⟨hcon', hs'⟩ := openConnection_spec box.altDir e.alt
            (openConnection S.poolname e.primary st.connected st.s).connected st.alt
          refine ⟨_, _, _, _, rfl, fun h => hcon' (hcon h), ?_, ?_⟩
          case refine_1 =>
            rcases hprim with h | ⟨h1, h2, h3, h4⟩
            · exact Or.inl h
            · exact Or.inr ⟨h1, h2, h3, hcon' h4⟩
          case refine_2 =>
            split at hs'
            case isTrue hf =>
              refine Or.inr ⟨rfl, Bool.eq_false_iff.mpr fun h => ?_, hs'.2⟩
              rw [Bool.and_eq_true] at h
              rw [openConnection_open (hcon h.1) h.2] at hf
              cases hf
            case isFalse => exact Or.inl hs'

/-- The try block keeps the invariant. -/
theorem connect_inv (hi : SessionInv S σ) :
    SessionInv S (σ.track box alt .notConnected (σ.st.connect S e box alt).2) := by
  obtain ⟨con, s, rdy, alt', heq, hcon, hs, ha⟩ := connect_spec S e box alt σ.st
  rw [heq]
  refine ⟨?_, ?_, ?_, hi.dovecotValid, ?_, hi.cacheOk, ?_, ?_⟩
  case refine_1 =>
    intro h
    rcases hs with ⟨rfl, rfl⟩ | ⟨_, _, hr, hc⟩
    · obtain ⟨h1, h2⟩ := hi.created h
      exact ⟨hcon h1, h2⟩
    · exact ⟨hc, hr⟩
  case refine_2 =>
    intro h
    rcases ha with rfl | ⟨_, _, hc⟩
    · exact hcon (hi.altCreated h)
    · exact hc
  case refine_3 =>
    intro h
    rcases hs with ⟨rfl, rfl⟩ | ⟨_, hio, _, _⟩
    · exact hi.pool h
    · show s.io.pool = _
      rw [hio]
  case refine_4 =>
    intro h
    obtain ⟨h1, h2, h3⟩ := hi.unloaded h
    refine ⟨h1, fun hr => ?_, h3⟩
    rcases hs with ⟨rfl, rfl⟩ | ⟨_, hio, _, _⟩
    · exact h2 hr
    · exact hio
  case refine_5 =>
    intro u hu
    have hu' : (if σ.st.connected && σ.st.s.ioCtxCreated then σ.openedFor else none) = some u := hu
    split at hu'
    case isFalse => cases hu'
    case isTrue hopen =>
      rcases hs with ⟨rfl, rfl⟩ | ⟨hn, _⟩
      · obtain ⟨h1, h2, h3⟩ := hi.right u hu'
        exact ⟨h1, h2, h3⟩
      · rw [hopen] at hn
        cases hn
  case refine_6 =>
    intro u hu
    have hu' : (if alt && !(σ.st.connected && σ.st.alt.ioCtxCreated) then none
        else σ.altOpenedFor) = some u := hu
    split at hu'
    case isTrue => cases hu'
    case isFalse hopen =>
      rcases ha with rfl | ⟨hal, hn, _⟩
      · obtain ⟨h1, h2, h3⟩ := hi.altRight u hu'
        exact ⟨h1, h2, h3⟩
      · rw [hal, hn] at hopen
        exact absurd rfl hopen

/-- Where the try block reports an open connection, it was open before. -/
theorem alreadyOpen_of_connect (hi : SessionInv S σ)
    (h : (σ.st.connect S e box alt).1 = 1) : AlreadyOpen alt σ.st := by
  unfold RboxStorage.connect at h
  dsimp only at h
  cases hret : (openConnection S.poolname e.primary σ.st.connected σ.st.s).ret with
  | none =>
      rw [hret] at h
      cases h
  | some ret =>
      rw [hret] at h
      cases alt with
      | false =>
          have h' : ret = 1 := h
          rw [h'] at hret
          exact openConnection_one hret
      | true =>
          have h' : ((openConnection box.altDir e.alt
              (openConnection S.poolname e.primary σ.st.connected σ.st.s).connected
              σ.st.alt).ret).getD (-1) = 1 := h
          cases hr : (openConnection box.altDir e.alt
              (openConnection S.poolname e.primary σ.st.connected σ.st.s).connected
              σ.st.alt).ret with
          | none =>
              rw [hr] at h'
              cases h'
          | some r =>
              rw [hr] at h'
              have h1 : r = 1 := h'
              rw [h1] at hr
              have hc := (openConnection_one hr).2
              exact ⟨hi.altCreated hc, hc⟩

/-- An open primary storage goes through the try block as it is, an open alternative one too. -/
theorem connect_of_open (hc : σ.st.connected = true) (hs : σ.st.s.ioCtxCreated = true)
    (ha : alt = true → σ.st.alt.ioCtxCreated = true) :
    (σ.st.connect S e box alt).2 = σ.st := by
  obtain ⟨con, s, rdy, alt', heq, hcon, hs', ha'⟩ := connect_spec S e box alt σ.st
  rw [heq]
  have h1 : con = σ.st.connected := (hcon hc).trans hc.symm
  have h2 : s = σ.st.s ∧ rdy = σ.st.ioReady := by
    rcases hs' with h | ⟨h, _⟩
    · exact h
    · rw [hc, hs] at h
      cases h
  have h3 : alt' = σ.st.alt := by
    rcases ha' with h | ⟨hal, h, _⟩
    · exact h
    · rw [hc, ha hal] at h
      cases h
  rw [h1, h2.1, h2.2, h3]

end Connect

/-! ## 5. From the configuration on -/

section Finish

variable {S : RboxSetup} {e : OpenEnv} {box : OpenBox} {alt : Bool} {σ : Session}

theorem isConfigValid_iff (hi : SessionInv S σ) :
    σ.st.cfg.isConfigValid = σ.st.cfg.json.valid := by
  unfold RadosDovecotCephCfg.isConfigValid
  cases h : σ.st.cfg.json.valid with
  | false => simp
  | true => simp [hi.dovecotValid h]

/-- A settled storage's mapping is not affected by loading or by other lookups. -/
theorem settled_of_keeps {st st' : RboxStorage} {u : String} {x : RadosStorage}
    (h : Settled S st u x) (hcfg : st'.cfg = st.cfg)
    (hc : ∀ u v, st.cache u = some v → st.w (mappingName st.cfg S.poolname u) = some v)
    (hc' : ∀ u v, st'.cache u = some v → st'.w (mappingName st.cfg S.poolname u) = some v)
    (hk : ∀ u v, st.cache u = some v → st'.cache u = some v) : Settled S st' u x := by
  obtain ⟨hv, ⟨ns, hm, hx⟩, hcached⟩ := h
  refine ⟨by rw [hcfg]; exact hv, ⟨ns, ?_, hx⟩, ?_⟩
  case refine_1 =>
    rw [hcfg, ← hm]
    unfold mappedNamespace
    by_cases hu : u = ""
    · rw [if_pos hu, if_pos hu]
    · rw [if_neg hu, if_neg hu]
      cases hmap : st.cfg.isUserMapping with
      | false => rfl
      | true =>
          obtain ⟨v, hcu⟩ := hcached hmap hu
          rw [hc u v hcu, hc' u v (hk u v hcu)]
  case refine_2 =>
    intro hmap hu
    rw [hcfg] at hmap
    obtain ⟨v, hcu⟩ := hcached hmap hu
    exact ⟨v, hk u v hcu⟩

/-- Before a configuration is loaded nothing was opened. -/
theorem SessionInv.not_opened (hi : SessionInv S σ) (hv : σ.st.cfg.json.valid = false)
    (u : String) : σ.openedFor ≠ some u ∧ σ.altOpenedFor ≠ some u := by
  constructor
  · intro hu
    have := (hi.right u hu).valid
    rw [hv] at this
    cases this
  · intro hu
    have := (hi.altRight u hu).valid
    rw [hv] at this
    cases this

/-- Reading the plugin's settings keeps the invariant and names the configuration object. -/
theorem readPluginConfiguration_inv (hi : SessionInv S σ) :
    SessionInv S { σ with st := σ.st.readPluginConfiguration S } ∧
      ((σ.st.readPluginConfiguration S).cfg.json.valid = false →
        (σ.st.readPluginConfiguration S).cfg = ⟨true, { cfgObjectName := S.cfgObjectName }⟩) := by
  unfold RboxStorage.readPluginConfiguration
  rw [isConfigValid_iff hi]
  cases hv : σ.st.cfg.json.valid with
  | true =>
      refine ⟨hi, fun h => ?_⟩
      rw [if_pos rfl, hv] at h
      cases h
  | false =>
      obtain ⟨hj, hio, hca⟩ := hi.unloaded hv
      rw [if_neg Bool.false_ne_true]
      refine ⟨⟨hi.created, hi.altCreated, hi.pool, fun _ => rfl, fun _ => ⟨?_, hio, hca⟩, ?_,
        fun u hu => absurd hu (hi.not_opened hv u).1,
        fun u hu => absurd hu (hi.not_opened hv u).2⟩, fun _ => ?_⟩
      case refine_1 =>
        show ({ σ.st.cfg.json with cfgObjectName := S.cfgObjectName } : RadosCephJsonConfig) = _
        rw [hj]
      case refine_2 =>
        intro u v h
        rw [hca u] at h
        cases h
      case refine_3 =>
        show (⟨true, { σ.st.cfg.json with cfgObjectName := S.cfgObjectName }⟩ :
          RadosDovecotCephCfg) = _
        rw [hj]

/-- Loading the configuration keeps the invariant, and a code at or above zero comes with a valid
    configuration. -/
theorem load_inv (hi : SessionInv S σ)
    (hdv : σ.st.cfg.dovecotValid = true) (e : OpenEnv) :
    SessionInv S { σ with st := { σ.st with
        w := (loadOrDefault S.codec σ.st.w σ.st.s.io e.cfgRd e.cfgWr σ.st.cfg.json).w
        cfg := { σ.st.cfg with json :=
          (loadOrDefault S.codec σ.st.w σ.st.s.io e.cfgRd e.cfgWr σ.st.cfg.json).json } } } ∧
      (0 ≤ (loadOrDefault S.codec σ.st.w σ.st.s.io e.cfgRd e.cfgWr σ.st.cfg.json).ret →
        (loadOrDefault S.codec σ.st.w σ.st.s.io e.cfgRd e.cfgWr σ.st.cfg.json).json.valid =
          true) := by
  cases hv : σ.st.cfg.json.valid with
  | true =>
      rw [loadOrDefault_of_valid hv]
      exact ⟨hi, fun _ => hv⟩
  | false =>
      obtain ⟨hj, hio, hca⟩ := hi.unloaded hv
      obtain ⟨h1, h2, _⟩ := @loadOrDefault_of_invalid S.codec e.cfgRd e.cfgWr _ hv σ.st.w σ.st.s.io
      refine ⟨⟨hi.created, hi.altCreated, hi.pool, fun _ => hdv, fun h => ?_, ?_,
        fun u hu => absurd hu (hi.not_opened hv u).1,
        fun u hu => absurd hu (hi.not_opened hv u).2⟩, h1⟩
      case refine_1 =>
        have hsame := h2 h
        refine ⟨?_, hio, hca⟩
        show (loadOrDefault S.codec σ.st.w σ.st.s.io e.cfgRd e.cfgWr σ.st.cfg.json).json =
          { cfgObjectName := (loadOrDefault S.codec σ.st.w σ.st.s.io e.cfgRd e.cfgWr
            σ.st.cfg.json).json.cfgObjectName }
        rw [hsame]
        exact hj
      case refine_2 =>
        intro u v h
        rw [hca u] at h
        cases h

/-- Less history is known. -/
theorem SessionInv.forget (hi : SessionInv S σ) {o a : Option String}
    (ho : ∀ u, o = some u → σ.openedFor = some u)
    (ha : ∀ u, a = some u → σ.altOpenedFor = some u) : SessionInv S ⟨σ.st, o, a⟩ :=
  ⟨hi.created, hi.altCreated, hi.pool, hi.dovecotValid, hi.unloaded, hi.cacheOk,
    fun u hu => hi.right u (ho u hu), fun u hu => hi.altRight u (ha u hu)⟩

/-- The state the lookup-or-add sequence leaves the storage in. -/
def afterLookup (st : RboxStorage) (m : NsState) : RboxStorage :=
  { st with w := m.w, s := { st.s with io := m.io }, cache := m.cache }

/-- A sequence that fails leaves no history of the primary storage. -/
theorem noNamespace_inv (hi : SessionInv S σ) (hv : σ.st.cfg.json.valid = true)
    {uid : String} {r : Int × String × NsState}
    (hr : Resolves σ.st.cfg e.guid e.rd e.wr uid ⟨σ.st.w, σ.st.s.io, σ.st.cache⟩ r)
    (hneg : ¬ 0 ≤ r.1) : SessionInv S ⟨afterLookup σ.st r.2.2, none, σ.altOpenedFor⟩ := by
  cases hr with
  | plain => exact absurd (Int.le_refl 0) hneg
  | cached => exact absurd (Int.le_refl 0) hneg
  | found => exact absurd (Int.le_refl 0) hneg
  | created => exact absurd (Int.le_refl 0) hneg
  | invalid _ h =>
      rw [isConfigValid_iff hi, hv] at h
      cases h
  | notCreated =>
      refine ⟨hi.created, hi.altCreated, hi.pool, hi.dovecotValid, fun h => ?_, hi.cacheOk, nofun,
        fun u hu => ?_⟩
      case refine_1 =>
        have h' : σ.st.cfg.json.valid = false := h
        rw [hv] at h'
        cases h'
      case refine_2 =>
        obtain ⟨h1, h2, h3⟩ := hi.altRight u hu
        exact ⟨h1, h2, h3⟩

/-- A sequence that succeeds settles the storages it sets. -/
theorem opened_inv (hi : SessionInv S σ) (hready : σ.st.ioReady = true)
    (hv : σ.st.cfg.json.valid = true) {uid ns : String} {m : NsState}
    (hres : Resolved σ.st.cfg uid ⟨σ.st.w, σ.st.s.io, σ.st.cache⟩ ns m) :
    SessionInv S ⟨{ afterLookup σ.st m with
        s := (afterLookup σ.st m).s.setNamespace ns
        alt := if alt then σ.st.alt.setNamespace ns else σ.st.alt },
      some uid, if alt then some uid else σ.altOpenedFor⟩ := by
  have hpool : σ.st.s.io.pool = S.poolname := hi.pool hready
  have hmap : mappedNamespace σ.st.cfg m.w S.poolname uid = some ns := by
    have := hres.mapped
    rw [show (NsState.mk σ.st.w σ.st.s.io σ.st.cache).io.pool = S.poolname from hpool] at this
    exact this
  have hcache : ∀ u v, m.cache u = some v → m.w (mappingName σ.st.cfg S.poolname u) = some v := by
    have := hres.cacheOk
    rw [show (NsState.mk σ.st.w σ.st.s.io σ.st.cache).io.pool = S.poolname from hpool] at this
    exact this
  have hcached : σ.st.cfg.isUserMapping = true → uid ≠ "" → ∃ v, m.cache uid = some v :=
    fun hm hu => ⟨ns, hres.cached hm hu⟩
  refine ⟨hi.created, fun h => ?_, fun _ => ?_, hi.dovecotValid, fun h => ?_, hcache,
    fun u hu => ?_, fun u hu => ?_⟩
  case refine_1 =>
    refine hi.altCreated ?_
    cases alt with
    | true => exact h
    | false => exact h
  case refine_2 => exact hres.pool.trans hpool
  case refine_3 =>
    have h' : σ.st.cfg.json.valid = false := h
    rw [hv] at h'
    cases h'
  case refine_4 =>
    cases hu
    exact ⟨hv, ⟨ns, hmap, rfl, rfl⟩, hcached⟩
  case refine_5 =>
    cases alt with
    | true =>
        cases hu
        exact ⟨hv, ⟨ns, hmap, rfl, rfl⟩, hcached⟩
    | false => exact settled_of_keeps (hi.altRight u hu) rfl hi.cacheOk hcache hres.keeps

/-- **The second half of the open keeps the invariant**; it ends with the exit `opened` or with a
    negative code. -/
theorem finishOpen_inv (hi : SessionInv S σ) (hready : σ.st.ioReady = true)
    (hdv : σ.st.cfg.dovecotValid = true) {exit : OpenExit} {ret : Int} {st' : RboxStorage}
    (h : σ.st.finishOpen S e box alt = some (exit, ret, st')) :
    SessionInv S (σ.track box alt exit st') ∧
      (exit = .opened ∨ (exit = .noConfig ∨ exit = .noNamespace) ∧ ret < 0) := by
  obtain ⟨hl, hlv⟩ := load_inv hi hdv e
  unfold RboxStorage.finishOpen at h
  dsimp only at h
  split at h
  case isTrue hneg =>
    split at h
    case isFalse => cases h
    case isTrue =>
      cases h
      refine ⟨hl.forget nofun fun u hu => ?_, Or.inr ⟨Or.inl rfl, hneg⟩⟩
      cases alt with
      | true => cases hu
      | false => exact hu
  case isFalse hpos =>
    have hv := hlv (Int.not_lt.mp hpos)
    -- the lookup, on the storage with the loaded configuration
    split at h
    case isTrue h0 =>
      cases h
      have hres := resolves_mapped (rboxLookupOrAdd_resolves _ e.guid e.rd e.wr _ _) h0
        (fun u v hu => by
          show _ = some v
          rw [hl.pool hready]
          exact hl.cacheOk u v hu)
      exact ⟨opened_inv hl hready hv hres, Or.inl rfl⟩
    case isFalse h0 =>
      cases h
      have hn := noNamespace_inv hl hv (rboxLookupOrAdd_resolves _ e.guid e.rd e.wr _ _) h0
      refine ⟨hn.forget nofun fun u hu => ?_, Or.inr ⟨Or.inr rfl, Int.not_le.mp h0⟩⟩
      cases alt with
      | true => cases hu
      | false => exact hu

theorem finishOpen_cfg {st : RboxStorage} {r : OpenExit × Int × RboxStorage}
    (h : st.finishOpen S e box alt = some r) :
    r.2.2.cfg = { st.cfg with
      json := (loadOrDefault S.codec st.w st.s.io e.cfgRd e.cfgWr st.cfg.json).json } := by
  unfold RboxStorage.finishOpen at h
  dsimp only at h
  split at h
  · split at h
    · cases h
      rfl
    · cases h
  · split at h
    · cases h
      rfl
    · cases h
      rfl

end Finish

/-! ## 6. Whole calls -/

section Calls

variable {S : RboxSetup} {e : OpenEnv} {box : OpenBox} {alt : Bool} {σ : Session}

/-- Settled storages are right. -/
theorem rightIn_of_settled {st : RboxStorage} (h : Settled S st (box.uid st.cfg) st.s)
    (ha : alt = true → Settled S st (box.uid st.cfg) st.alt) : RightIn S box alt st := by
  obtain ⟨ns, hm, hw⟩ := h.worksIn
  refine ⟨ns, hm, hw, fun hal => ?_⟩
  obtain ⟨ns', hm', hw'⟩ := (ha hal).worksIn
  rw [hm] at hm'
  cases hm'
  exact hw'

theorem readPluginConfiguration_of_valid (hi : SessionInv S σ)
    (hv : σ.st.cfg.json.valid = true) : σ.st.readPluginConfiguration S = σ.st := by
  unfold RboxStorage.readPluginConfiguration
  rw [isConfigValid_iff hi, hv]
  rfl

/-- Reading the plugin's settings changes the configuration at most. -/
theorem readPluginConfiguration_frame (S : RboxSetup) (st : RboxStorage) :
    ∃ c, st.readPluginConfiguration S = { st with cfg := c } := by
  unfold RboxStorage.readPluginConfiguration
  split
  · exact ⟨st.cfg, rfl⟩
  · exact ⟨_, rfl⟩

theorem safeExit_readPlugin (hi : SessionInv S σ) (hs : SafeExit box alt σ) :
    SafeExit box alt { σ with st := σ.st.readPluginConfiguration S } := by
  obtain ⟨c, hc⟩ := readPluginConfiguration_frame S σ.st
  intro ho
  have ho' : AlreadyOpen alt σ.st := by
    rw [hc] at ho
    exact ho
  obtain ⟨h1, h2, h3⟩ := hs ho'
  have := readPluginConfiguration_of_valid hi (hi.right _ h2).valid
  rw [this]
  exact ⟨h1, h2, h3⟩

/-- A configuration with user mapping that the call ends with is the one in use before it. -/
theorem mappingInUse_of_finish {st : RboxStorage} (hv : st.cfg.json.valid = false)
    (hcfg : st.cfg.json = { cfgObjectName := S.cfgObjectName }) (hio : st.s.io = ⟨S.poolname, ""⟩)
    (hm : (loadOrDefault S.codec st.w st.s.io e.cfgRd e.cfgWr st.cfg.json).json.userMapping =
      "true") :
    (storedConfig S.codec st.w S.poolname S.cfgObjectName).userMapping = "true" := by
  obtain ⟨_, _, h | ⟨s, hw, hl⟩⟩ :=
    @loadOrDefault_of_invalid S.codec e.cfgRd e.cfgWr _ hv st.w st.s.io
  · have := congrArg JsonValues.userMapping h
    have hf : (loadOrDefault S.codec st.w st.s.io e.cfgRd e.cfgWr st.cfg.json).json.userMapping =
        st.cfg.json.userMapping := this
    rw [hm, hcfg] at hf
    exact absurd (show "true" = "false" from hf) (by decide)
  · have hw' : st.w ⟨S.poolname, "", S.cfgObjectName⟩ = some s := by
      rw [hio, hcfg] at hw
      exact hw
    unfold storedConfig
    rw [hw', Option.bind_some, hl]
    exact hm

/-- The same for the second half of the open, on the storage `st₁` the try block has left. -/
theorem mappingInUse_of_opened {st st₁ : RboxStorage} (hcfg : st₁.cfg = st.cfg) (hw : st₁.w = st.w)
    (hname : st.cfg.json.valid = false → st.cfg = ⟨true, { cfgObjectName := S.cfgObjectName }⟩)
    (hio : st₁.cfg.json.valid = false → st₁.s.io = ⟨S.poolname, ""⟩)
    {r : OpenExit × Int × RboxStorage} (h : st₁.finishOpen S e box alt = some r)
    (hm : r.2.2.cfg.isUserMapping = true) : MappingInUse S st := by
  have hc := finishOpen_cfg h
  have hm' : r.2.2.cfg.json.userMapping = "true" := by
    simpa [RadosDovecotCephCfg.isUserMapping] using hm
  unfold MappingInUse
  cases hv : st.cfg.json.valid with
  | true =>
      rw [if_pos rfl]
      rw [hcfg, loadOrDefault_of_valid hv] at hc
      rw [← hm']
      exact congrArg (fun c => c.json.userMapping) hc.symm
  | false =>
      rw [if_neg Bool.false_ne_true]
      have hv₁ : st₁.cfg.json.valid = false := by
        rw [hcfg]
        exact hv
      rw [← hw]
      refine mappingInUse_of_finish hv₁ (by rw [hcfg, hname hv]) (hio hv₁) (e := e) ?_
      rw [← hm']
      exact congrArg (fun c => c.json.userMapping) hc.symm

/-- A safe call that finds the connection open leaves it, and it is right. -/
theorem rightIn_of_alreadyOpen (hi : SessionInv S σ) (hs : SafeExit box alt σ)
    (hone : (σ.st.connect S e box alt).1 = 1) :
    RightIn S box alt (σ.st.connect S e box alt).2 ∧
      ((σ.st.connect S e box alt).2.cfg.isUserMapping = true → MappingInUse S σ.st) := by
  have hao := alreadyOpen_of_connect hi hone
  obtain ⟨h1, h2, h3⟩ := hs hao
  have hst : (σ.st.connect S e box alt).2 = σ.st := by
    refine connect_of_open hao.1 h1 fun hal => ?_
    have := hao.2
    rw [hal] at this
    exact this
  rw [hst]
  have hset := hi.right _ h2
  refine ⟨rightIn_of_settled hset fun hal => hi.altRight _ (h3 hal), fun hm => ?_⟩
  unfold MappingInUse
  rw [hset.valid, if_pos rfl]
  simpa [RadosDovecotCephCfg.isUserMapping] using hm

/-- **`rbox_open_rados_connection` keeps the invariant, and a safe call that succeeds is right.** -/
theorem openRadosConnection_spec (hi : SessionInv S σ) (hs : SafeExit box alt σ)
    (hname : σ.st.cfg.json.valid = false →
      σ.st.cfg = ⟨true, { cfgObjectName := S.cfgObjectName }⟩)
    {exit : OpenExit} {ret : Int} {st' : RboxStorage}
    (h : σ.st.openRadosConnection S e box alt = some (exit, ret, st')) :
    SessionInv S (σ.track box alt exit st') ∧
      (0 ≤ ret → RightIn S box alt st' ∧
        (st'.cfg.isUserMapping = true → MappingInUse S σ.st)) := by
  have hplug : σ.st.readPluginConfiguration S = σ.st := by
    cases hv : σ.st.cfg.json.valid with
    | true => exact readPluginConfiguration_of_valid hi hv
    | false =>
        have hc := hname hv
        obtain ⟨⟨w, con, s, rdy, al, cfg, cache⟩, o, a⟩ := σ
        cases hc
        rfl
  have hdv : σ.st.cfg.dovecotValid = true := by
    cases hv : σ.st.cfg.json.valid with
    | true => exact hi.dovecotValid hv
    | false => rw [hname hv]
  unfold RboxStorage.openRadosConnection at h
  dsimp only at h
  rw [hplug] at h
  have hci : SessionInv S (σ.track box alt .notConnected (σ.st.connect S e box alt).2) :=
    connect_inv hi
  split at h
  case isTrue hone =>
    cases h
    exact ⟨hci, fun _ => rightIn_of_alreadyOpen hi hs hone⟩
  case isFalse hone =>
    split at h
    case isTrue hneg =>
      cases h
      exact ⟨hci, fun h0 => absurd h0 (Int.not_le.mpr hneg)⟩
    case isFalse =>
      split at h
      case isTrue => cases h
      case isFalse hready =>
        have hready' : (σ.st.connect S e box alt).2.ioReady = true := by simpa using hready
        obtain ⟨con, s, rdy, alt', heq, -⟩ := connect_spec S e box alt σ.st
        have hcfg : (σ.st.connect S e box alt).2.cfg = σ.st.cfg := by rw [heq]
        have hw : (σ.st.connect S e box alt).2.w = σ.st.w := by rw [heq]
        obtain ⟨hinv, hexit⟩ := finishOpen_inv hci hready'
          (show (σ.st.connect S e box alt).2.cfg.dovecotValid = true by rw [hcfg]; exact hdv) h
        -- for the exits of the second half the history before the try block is what counts
        have htrack : (σ.track box alt .notConnected (σ.st.connect S e box alt).2).track box alt
            exit st' = σ.track box alt exit st' := by
          rcases hexit with rfl | ⟨rfl | rfl, _⟩ <;> cases alt <;> rfl
        rw [htrack] at hinv
        refine ⟨hinv, fun h0 => ?_⟩
        rcases hexit with rfl | ⟨_, hneg⟩
        · refine ⟨rightIn_of_settled (hinv.right _ rfl) fun hal => ?_, fun hm => ?_⟩
          · exact hinv.altRight _ (by rw [hal]; rfl)
          · exact mappingInUse_of_opened hcfg hw hname
              (fun hv => (hci.unloaded hv).2.1 hready') h hm
        · exact absurd h0 (Int.not_le.mpr hneg)

theorem readPluginConfiguration_idem (S : RboxSetup) (st : RboxStorage) :
    (st.readPluginConfiguration S).readPluginConfiguration S = st.readPluginConfiguration S := by
  cases hv : st.cfg.isConfigValid with
  | true =>
      have h : st.readPluginConfiguration S = st := if_pos hv
      rw [h, h]
  | false =>
      have h : st.readPluginConfiguration S = { st with
          cfg := ⟨true, { st.cfg.json with cfgObjectName := S.cfgObjectName }⟩ } :=
        if_neg (by rw [hv]; exact Bool.false_ne_true)
      rw [h]
      unfold RboxStorage.readPluginConfiguration
      split <;> rfl

theorem openRadosConnection_readPlugin (S : RboxSetup) (e : OpenEnv) (box : OpenBox) (alt : Bool)
    (st : RboxStorage) :
    (st.readPluginConfiguration S).openRadosConnection S e box alt =
      st.openRadosConnection S e box alt := by
  unfold RboxStorage.openRadosConnection
  rw [readPluginConfiguration_idem]

theorem mappingInUse_readPlugin (hi : SessionInv S σ)
    (h : MappingInUse S (σ.st.readPluginConfiguration S)) : MappingInUse S σ.st := by
  cases hv : σ.st.cfg.json.valid with
  | true =>
      rw [readPluginConfiguration_of_valid hi hv] at h
      exact h
  | false =>
      unfold MappingInUse at h ⊢
      unfold RboxStorage.readPluginConfiguration at h
      rw [isConfigValid_iff hi, hv] at h
      rw [hv]
      simpa [hv] using h

@[simp] theorem track_st (exit : OpenExit) (st' : RboxStorage) :
    (σ.track box alt exit st').st = st' := by
  cases exit <;> rfl

theorem track_readPlugin (exit : OpenExit) (st' : RboxStorage) :
    ({ σ with st := σ.st.readPluginConfiguration S } : Session).track box alt exit st' =
      σ.track box alt exit st' := by
  obtain ⟨c, hc⟩ := readPluginConfiguration_frame S σ.st
  rw [hc]
  cases exit <;> rfl

/-- The same from any state, whether or not the settings were read. -/
theorem open_call_spec (hi : SessionInv S σ) (hs : SafeExit box alt σ) {exit : OpenExit}
    {ret : Int} {st' : RboxStorage}
    (h : σ.st.openRadosConnection S e box alt = some (exit, ret, st')) :
    SessionInv S (σ.track box alt exit st') ∧
      (0 ≤ ret → RightIn S box alt st' ∧
        (st'.cfg.isUserMapping = true → MappingInUse S σ.st)) := by
  obtain ⟨hip, hname⟩ := readPluginConfiguration_inv hi
  rw [← openRadosConnection_readPlugin] at h
  obtain ⟨h1, h2⟩ := openRadosConnection_spec hip (safeExit_readPlugin hi hs) hname h
  rw [track_readPlugin] at h1
  refine ⟨h1, fun h0 => ⟨(h2 h0).1, fun hm => ?_⟩⟩
  exact mappingInUse_readPlugin hi ((h2 h0).2 hm)

/-- The checks of a deletion that find no empty namespace change nothing. -/
theorem deleteChecks_idle {st : RboxStorage} {namespaces : List (MailNamespace StatusBox)}
    (h : S.checkEmptyMailboxes = true → st.cfg.isUserMapping = true →
      ¬ SomeNamespaceCountsZero namespaces) (env : Nat → DeleteEnv) (ret : Int) :
    (st.deleteChecks S env namespaces ret).2 = st := by
  unfold RboxStorage.deleteChecks
  split
  case isTrue => rfl
  case isFalse hc =>
    split
    case isFalse => rfl
    case isTrue hm =>
      have hz : ∀ ns ∈ findInbox namespaces, totalMails ns.listed ≠ 0 := by
        intro ns hns h0
        exact h (by simpa using hc) hm ⟨ns, hns, h0⟩
      show st.setNsStore (checkUsersMailboxDeleteNsObject st.cfg env namespaces st.nsStore).2.1 = st
      unfold checkUsersMailboxDeleteNsObject
      rw [checkNamespaces_idle hz]
      rfl

/-- **A safe call keeps the invariant, and it is right if it succeeds.** -/
theorem call_spec (hi : SessionInv S σ) {a : StorageCall} (hok : CallOk S (some σ) a) {ret : Int}
    {σ' : Session} (h : σ.call S a = some (ret, σ')) :
    SessionInv S σ' ∧ (0 ≤ ret → RightIn S a.box a.alt σ'.st) := by
  obtain ⟨hsafe, hdel⟩ := hok σ rfl
  cases a with
  | openBox box alt e =>
      obtain ⟨⟨exit, ret', st'⟩, ho, heq⟩ := Option.map_eq_some_iff.mp h
      obtain ⟨h1, h2⟩ := open_call_spec hi hsafe ho
      cases heq
      refine ⟨h1, fun h0 => ?_⟩
      show RightIn S box alt (σ.track box alt exit st').st
      rw [track_st]
      exact (h2 h0).1
  | deleteBox box e indexRet namespaces env =>
      unfold Session.call at h
      dsimp only at h
      split at h
      case isTrue hneg =>
        cases h
        exact ⟨hi, fun h0 => absurd h0 (Int.not_le.mpr hneg)⟩
      case isFalse hpos =>
        obtain ⟨⟨exit, ret', st'⟩, ho, heq⟩ := Option.map_eq_some_iff.mp h
        rw [track_readPlugin] at heq
        rw [openRadosConnection_readPlugin] at ho
        obtain ⟨h1, h2⟩ := open_call_spec hi hsafe ho
        split at heq
        case isTrue hneg =>
          cases heq
          exact ⟨h1, fun h0 => absurd h0 (Int.not_le.mpr hneg)⟩
        case isFalse hret =>
          obtain ⟨hright, hmap⟩ := h2 (Int.not_lt.mp hret)
          have hidle : ((σ.track box false exit st').st.deleteChecks S env namespaces ret').2 =
              (σ.track box false exit st').st := by
            rw [track_st]
            exact deleteChecks_idle (fun hc hm => hdel (Int.not_lt.mp hpos) hc (hmap hm)) env ret'
          rw [hidle] at heq
          cases heq
          refine ⟨h1, fun _ => ?_⟩
          show RightIn S box false (σ.track box false exit st').st
          rw [track_st]
          exact hright

theorem sessionInv_alloc (w : Objects String) (connected : Bool) :
    SessionInv S ⟨RboxStorage.alloc w connected, none, none⟩ where
  created := nofun
  altCreated := nofun
  pool := nofun
  dovecotValid := nofun
  unloaded := fun _ => ⟨rfl, nofun, fun _ => rfl⟩
  cacheOk := nofun
  right := nofun
  altRight := nofun

/-- **In every history of safe calls each call that succeeds leaves the storages it was asked for
    in the namespace mapped to the owner of its box.** -/
theorem opened_in_mapped_namespace (S : RboxSetup) (w : Objects String) (connected : Bool)
    (as : List StorageCall)
    (hok : Along (sessionStep S) (CallOk S) (some ⟨RboxStorage.alloc w connected, none, none⟩) as) :
    Along (sessionStep S) (RightAfter S) (some ⟨RboxStorage.alloc w connected, none, none⟩)
      as := by
  have hstep : ∀ (s : Option Session) (a : StorageCall), (∀ σ, s = some σ → SessionInv S σ) →
      CallOk S s a → ∀ σ', sessionStep S s a = some σ' → SessionInv S σ' := by
    intro s a hi hok σ' h
    obtain ⟨σ, hs, h⟩ := Option.bind_eq_some_iff.mp h
    obtain ⟨⟨ret, σ''⟩, hc, heq⟩ := Option.map_eq_some_iff.mp h
    cases hs
    cases heq
    exact (call_spec (hi σ rfl) hok hc).1
  have hright : ∀ (s : Option Session) (a : StorageCall), (∀ σ, s = some σ → SessionInv S σ) →
      CallOk S s a → RightAfter S s a := by
    intro s a hi hok σ ret σ' hs hc h0
    cases hs
    exact (call_spec (hi σ rfl) hok hc).2 h0
  refine along_imp_of_inv hstep hright ?_ hok
  intro σ hσ
  cases hσ
  exact sessionInv_alloc w connected

end Calls

/-- A pool whose configuration object is set to user mapping, checks on deletion, assertions on. -/
def mappedRbox : RboxSetup := ⟨plainCodec, "mail_storage", "rbox_cfg", true, false⟩

def mappedStoragePool : Objects String := fun n =>
  if n = ⟨"mail_storage", "", "rbox_cfg"⟩ then
    some (plainCodec.dumps ⟨"true", "users", "_u", "public"⟩)
  else if n = ⟨"mail_storage", "users", "alice_u"⟩ then some "0011"
  else if n = ⟨"mail_storage", "users", "bob_u"⟩ then some "4455"
  else none

/-- RADOS answers every call. -/
def calmOpen : OpenEnv := ⟨.opens, .opens, fun _ => .done, .done, fun _ => .done, .done, "ffee"⟩

def aliceBox : OpenBox := ⟨some "alice", "mail_storage_alt"⟩

def bobBox : OpenBox := ⟨some "bob", "mail_storage_alt"⟩

set_option maxRecDepth 8000 in
/-- One owner, with and without the alternative storage, and a deletion that leaves mail. -/
theorem one_owner_right :
    Along (sessionStep mappedRbox) (RightAfter mappedRbox)
      (some ⟨RboxStorage.alloc mappedStoragePool false, none, none⟩)
      [.openBox aliceBox false calmOpen, .openBox aliceBox true calmOpen,
        .openBox aliceBox true calmOpen,
        .deleteBox aliceBox calmOpen 0 [⟨true, some "alice", [⟨true, some 5⟩], none⟩]
          calmDelete] := by
  refine opened_in_mapped_namespace mappedRbox mappedStoragePool false _
    ⟨fun σ hσ => ?_, fun σ hσ => ?_, fun σ hσ => ?_, fun σ hσ => ?_, trivial⟩
  · cases hσ
    exact ⟨fun h => absurd h.1 (by decide), trivial⟩
  · cases hσ
    exact ⟨fun h => absurd h.2 (by decide), trivial⟩
  · cases hσ
    exact ⟨fun _ => ⟨rfl, rfl, fun _ => rfl⟩, trivial⟩
  · cases hσ
    refine ⟨fun _ => ⟨rfl, rfl, nofun⟩, fun _ _ _ hz => ?_⟩
    obtain ⟨ns, hns, h0⟩ := hz
    cases List.mem_singleton.mp hns
    exact absurd h0 (by decide)

set_option maxRecDepth 8000 in
/-- A box of alice, then a box of bob: the second call reports success and the storage still works
    in alice's namespace `0011`. -/
theorem second_owner_wrong :
    ¬ Along (sessionStep mappedRbox) (RightAfter mappedRbox)
      (some ⟨RboxStorage.alloc mappedStoragePool false, none, none⟩)
      [.openBox aliceBox false calmOpen, .openBox bobBox false calmOpen] := by
  intro h
  obtain ⟨ns, hm, hw, _⟩ := h.2.1 _ _ _ rfl rfl (by decide)
  have h1 : ns = "4455" := (Option.some.inj hm).symm
  have h2 : "0011" = ns := hw.1
  rw [h1] at h2
  exact absurd h2 (by decide)

end DovecotCeph
