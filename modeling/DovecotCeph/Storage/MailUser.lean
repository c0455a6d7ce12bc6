/-
  File:      DovecotCeph/Storage/MailUser.lean
  Subject:   What the plugin sees of Dovecot's user: his namespaces in list order, the mailboxes of
             a namespace, and the loop `for (ns = mail_namespace_find_inbox(..); ns; ns = ns->next)`
             that four of its functions share; and the rados storage they work on.
-/
import DovecotCeph.Librmb.NamespaceManager

namespace DovecotCeph

/-! ## 1. Namespaces -/

/-- `struct mail_namespace` with the mailboxes of its list. `handedOut` is the outcome of one
    iteration over the list: complete, or cut off after some mailboxes with a failure reported by
    `mailbox_list_iter_deinit`. -/
structure MailNamespace (β : Type) where
  inboxUser : Bool
  owner : Option String
  boxes : List β
  handedOut : Option Nat := none

namespace MailNamespace

variable {β : Type}

/-- The mailboxes `mailbox_list_iter_next` hands out. -/
def listed (ns : MailNamespace β) : List β :=
  match ns.handedOut with
  | none => ns.boxes
  | some n => ns.boxes.take n

/-- The mailboxes it does not hand out. -/
def unlisted (ns : MailNamespace β) : List β :=
  match ns.handedOut with
  | none => []
  | some n => ns.boxes.drop n

/-- `mailbox_list_iter_deinit`. -/
def iterDeinit (ns : MailNamespace β) : Int :=
  match ns.handedOut with
  | none => 0
  | some _ => -1

/-- The namespace with something else for each mailbox. -/
def map {δ : Type} (f : β → δ) (ns : MailNamespace β) : MailNamespace δ :=
  ⟨ns.inboxUser, ns.owner, ns.boxes.map f, ns.handedOut⟩

end MailNamespace

/-- `mail_namespace_find_inbox`: the namespace list from the one with the inbox on. Without such
    a namespace Dovecot's assertion ends the process; nothing is left to iterate. -/
def findInbox {β : Type} (nss : List (MailNamespace β)) : List (MailNamespace β) :=
  nss.dropWhile (fun ns => !ns.inboxUser)

theorem mem_of_findInbox {β : Type} {nss : List (MailNamespace β)} {ns : MailNamespace β}
    (h : ns ∈ findInbox nss) : ns ∈ nss :=
  (List.dropWhile_sublist _).subset h

/-! ## 2. The rados storage -/

/-- `RadosStorageImpl`: its io context, whether that was created, and the namespace last set. -/
structure RadosStorage where
  io : IoCtx
  ioCtxCreated : Bool
  nspace : String

/-- `RadosStorageImpl::set_namespace`. -/
def RadosStorage.setNamespace (s : RadosStorage) (ns : String) : RadosStorage :=
  { s with io := s.io.setNamespace ns, nspace := ns }

/-- The cluster, its connection, a storage, and the cache of the manager whose configuration is
    bound to that storage's io context. -/
structure NsStore where
  w : Objects String
  connected : Bool
  s : RadosStorage
  cache : String → Option String

namespace NsStore

/-- The manager's view of the store. -/
def mgr (st : NsStore) : NsState := ⟨st.w, st.s.io, st.cache⟩

/-- The store after an operation of the manager. -/
def setMgr (st : NsStore) (m : NsState) : NsStore :=
  { st with w := m.w, s := { st.s with io := m.io }, cache := m.cache }

/-- `RadosStorageImpl::delete_mail(oid)`: return code, store, and the objects a remove was issued
    for. -/
def deleteMail (st : NsStore) (oid : String) (rm : Outcome) : Int × NsStore × List ObjName :=
  if !st.connected || oid = "" || !st.s.ioCtxCreated then (-1, st, [])
  else
    let r := IoCtx.remove st.w st.s.io oid rm
    (r.1, { st with w := r.2 }, [st.s.io.name oid])

end NsStore

end DovecotCeph
