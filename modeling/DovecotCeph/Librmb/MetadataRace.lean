/-
  File:      DovecotCeph/Librmb/MetadataRace.lean
  Subject:   Two clients that have loaded the metadata of one object and each set a key of their
             own.

  Each client sends one operation: a single attribute, or all of the metadata it has loaded.
  * `setLoaded`: the operations one after the other, in some order;
  * **`both_kept_iff`**: when both values are shown, in either order of the operations.
-/
import DovecotCeph.Librmb.MetadataStorage
import Mathlib.Data.List.Permutation

namespace DovecotCeph

open Lib RadosMetadataStorageIma

/-! ## 1. Two clients -/

section Race

variable (J : Jansson) (cfg : MetadataCfg) (m : MetadataModule) (o : AttrObject)

/-- `set_metadata` calls of clients that have all loaded the object `o`, one after the other. -/
def setLoaded (order : List (String × String)) : AttrObject :=
  order.foldl (fun o' e => (m.set J cfg (m.load J cfg o .new) e.1 e.2 o').2) o

/-- The value of a call is shown. -/
def Kept (o' : AttrObject) (e : String × String) : Prop :=
  MetadataModule.shown J cfg m o' e.1 = some (cStr e.2)

instance (o' : AttrObject) (e : String × String) : Decidable (Kept J cfg m o' e) :=
  inferInstanceAs (Decidable (_ = _))

/-- **No order of the two operations loses a value.** -/
def BothKept (a b : String × String) : Prop :=
  ∀ order, order.Perm [a, b] → ∀ e ∈ [a, b], Kept J cfg m (setLoaded J cfg m o order) e

/-- No attribute of its own hides a key of the document. -/
def Visible (b : String × String) : Prop :=
  match o.xattrs.lookup b.1 with
  | some u => cStr u = cStr b.2
  | none => b.1 ≠ "K"

/-- The first key is updateable and the second is not: nothing hides the second one, and rewriting
    the loaded metadata does no harm to the first. -/
structure OneUpdateable (a b : String × String) : Prop where
  visible : Visible o b
  untouched : cfg.isUpdateAttributes = true →
    MetadataModule.shown J cfg .ima o a.1 = none ∨ Kept J cfg .ima o a

/-- **The objects and keys without a race.** -/
def RaceOk (a b : String × String) : Prop :=
  match m with
  | .default => True
  | .ima => match cfg.isUpdateableAttribute a.1, cfg.isUpdateableAttribute b.1 with
    | true, true => True
    | true, false => OneUpdateable J cfg o a b
    | false, true => OneUpdateable J cfg o b a
    | false, false => Kept J cfg .ima o a ∧ Kept J cfg .ima o b

end Race

/-! ## 2. Both operations -/

section Both

variable {J : Jansson} {cfg : MetadataCfg} {m : MetadataModule} {o : AttrObject}
  {a b : String × String}

theorem perm_pair {order : List (String × String)} (h : order.Perm [a, b]) :
    order = [a, b] ∨ order = [b, a] := by
  have hmem := List.mem_permutations'.mpr h
  rw [show [a, b].permutations' = [[a, b], [b, a]] from rfl] at hmem
  simpa using hmem

/-- The order in which the first call comes first. -/
def KeptInOrder (J : Jansson) (cfg : MetadataCfg) (m : MetadataModule) (o : AttrObject)
    (a b : String × String) : Prop :=
  Kept J cfg m (setLoaded J cfg m o [a, b]) a ∧ Kept J cfg m (setLoaded J cfg m o [a, b]) b

theorem bothKept_iff_orders :
    BothKept J cfg m o a b ↔ KeptInOrder J cfg m o a b ∧ KeptInOrder J cfg m o b a := by
  constructor
  · intro h
    refine ⟨⟨h _ (.refl _) a ?_, h _ (.refl _) b ?_⟩, h _ (.swap _ _ _) b ?_,
      h _ (.swap _ _ _) a ?_⟩
    all_goals simp
  · rintro ⟨⟨ha, hb⟩, hb', ha'⟩ order horder e he
    rcases perm_pair horder with rfl | rfl
    · rcases List.mem_cons.mp he with rfl | he
      · exact ha
      · rw [List.mem_singleton.mp he]
        exact hb
    · rcases List.mem_cons.mp he with rfl | he
      · exact ha'
      · rw [List.mem_singleton.mp he]
        exact hb'

theorem default_keptInOrder (hne : a.1 ≠ b.1) : KeptInOrder J cfg .default o a b := by
  have hshown : ∀ key, MetadataModule.shown J cfg .default
      (setLoaded J cfg .default o [a, b]) key =
        (((o.setxattr a.1 a.2).setxattr b.1 b.2).xattrs.lookup key).map cStr := fun _ => rfl
  constructor
  · rw [Kept, hshown, lookup_setxattr, if_neg hne, lookup_setxattr, if_pos rfl]
    rfl
  · rw [Kept, hshown, lookup_setxattr, if_pos rfl]
    rfl

section Ima

variable (hJ : J.Lawful) (hA : a.1 ≠ cfg.metadataStorageAttribute)
  (hB : b.1 ≠ cfg.metadataStorageAttribute) (hne : a.1 ≠ b.1)

theorem set_updateable {mail : MailAttrs} {o : AttrObject}
    (h : cfg.isUpdateableAttribute a.1 = true) :
    (MetadataModule.set J cfg .ima mail a.1 a.2 o).2 = o.setxattr a.1 a.2 := by
  show (setMetadata J cfg mail a.1 a.2 o).2 = _
  rw [setMetadata, if_pos h]

theorem set_fixed {mail : MailAttrs} {o : AttrObject}
    (h : cfg.isUpdateableAttribute a.1 = false) :
    (MetadataModule.set J cfg .ima mail a.1 a.2 o).2 =
      saveMetadata J cfg (mail.addMetadata a.1 a.2) o := by
  show (setMetadata J cfg mail a.1 a.2 o).2 = _
  rw [setMetadata, if_neg (by rw [h]; exact Bool.false_ne_true)]

include hJ hB in
/-- A key of the document, set last. -/
theorem kept_rewrite {mail : MailAttrs} {o' : AttrObject}
    (hb : cfg.isUpdateableAttribute b.1 = false)
    (ho' : o'.xattrs.lookup b.1 = o.xattrs.lookup b.1) :
    Kept J cfg .ima (saveMetadata J cfg (mail.addMetadata b.1 b.2) o') b ↔ Visible o b := by
  rw [Kept, shown_rewrite hJ hB, if_pos (inBlob_of_not_updateable hb), ho', addMetadata_lookup,
    if_pos rfl, Visible]
  cases o.xattrs.lookup b.1 with
  | some u => exact ⟨fun h => Option.some.inj h, fun h => congrArg some h⟩
  | none =>
      by_cases hK : b.1 = "K"
      · simp [hK]
      · simp [hK]

include hJ hA hB hne in
/-- The updateable key first: the other client's metadata may be older. -/
theorem updateable_first_iff (ha : cfg.isUpdateableAttribute a.1 = true)
    (hb : cfg.isUpdateableAttribute b.1 = false) :
    KeptInOrder J cfg .ima o a b ↔ OneUpdateable J cfg o a b := by
  have horder : setLoaded J cfg .ima o [a, b] = saveMetadata J cfg
      ((MetadataModule.load J cfg .ima o .new).addMetadata b.1 b.2) (o.setxattr a.1 a.2) := by
    show (MetadataModule.set J cfg .ima _ b.1 b.2
      (MetadataModule.set J cfg .ima _ a.1 a.2 o).2).2 = _
    rw [set_updateable ha, set_fixed hb]
  have hvisible : Kept J cfg .ima (setLoaded J cfg .ima o [a, b]) b ↔ Visible o b := by
    rw [horder]
    refine kept_rewrite hJ hB hb ?_
    rw [lookup_setxattr, if_neg hne.symm]
  have huntouched : Kept J cfg .ima (setLoaded J cfg .ima o [a, b]) a ↔
      (cfg.isUpdateAttributes = true →
        MetadataModule.shown J cfg .ima o a.1 = none ∨ Kept J cfg .ima o a) := by
    rw [Kept, horder, shown_rewrite hJ hA, lookup_setxattr, if_pos rfl, addMetadata_lookup,
      if_neg hne]
    cases hon : cfg.isUpdateAttributes with
    | false =>
        rw [if_pos (by simp [MetadataCfg.inBlob, hon])]
        exact iff_of_true rfl fun h => absurd h Bool.false_ne_true
    | true =>
        rw [inBlob_eq_false.mpr ⟨ha, hon⟩, if_neg Bool.false_ne_true, Kept, MetadataModule.shown]
        cases (MetadataModule.load J cfg .ima o .new).metadata.lookup a.1 with
        | none => exact iff_of_true rfl fun _ => .inl rfl
        | some u => simp
  rw [KeptInOrder, hvisible, huntouched]
  exact ⟨fun h => ⟨h.2, h.1⟩, fun h => ⟨h.untouched, h.visible⟩⟩

include hJ hA hB hne in
/-- The updateable key last. -/
theorem updateable_last_iff (ha : cfg.isUpdateableAttribute a.1 = true)
    (hb : cfg.isUpdateableAttribute b.1 = false) :
    KeptInOrder J cfg .ima o b a ↔ Visible o b := by
  have horder : setLoaded J cfg .ima o [b, a] = (saveMetadata J cfg
      ((MetadataModule.load J cfg .ima o .new).addMetadata b.1 b.2) o).setxattr a.1 a.2 := by
    show (MetadataModule.set J cfg .ima _ a.1 a.2
      (MetadataModule.set J cfg .ima _ b.1 b.2 o).2).2 = _
    rw [set_fixed hb, set_updateable ha]
  rw [KeptInOrder, horder, Kept, shown_setxattr hA, if_neg hne.symm, Kept, shown_setxattr hA,
    if_pos rfl]
  exact (and_iff_left rfl).trans (kept_rewrite hJ hB hb rfl)

include hJ hA hB hne in
/-- Two keys of the document: the second client writes the first one's old value. -/
theorem rewrites_iff (ha : cfg.isUpdateableAttribute a.1 = false)
    (hb : cfg.isUpdateableAttribute b.1 = false) :
    KeptInOrder J cfg .ima o a b ↔ Kept J cfg .ima o a ∧ Visible o b := by
  have horder : setLoaded J cfg .ima o [a, b] = saveMetadata J cfg
      ((MetadataModule.load J cfg .ima o .new).addMetadata b.1 b.2) (saveMetadata J cfg
        ((MetadataModule.load J cfg .ima o .new).addMetadata a.1 a.2) o) := by
    show (MetadataModule.set J cfg .ima _ b.1 b.2
      (MetadataModule.set J cfg .ima _ a.1 a.2 o).2).2 = _
    rw [set_fixed ha, set_fixed hb]
  have hvisible : Kept J cfg .ima (setLoaded J cfg .ima o [a, b]) b ↔ Visible o b := by
    rw [horder]
    refine kept_rewrite hJ hB hb ?_
    rw [save_xattrs hB, if_pos (inBlob_of_not_updateable hb)]
  have hold : Kept J cfg .ima (setLoaded J cfg .ima o [a, b]) a ↔ Kept J cfg .ima o a := by
    have hload := load_view J cfg o a.1
    rw [if_neg hA] at hload
    rw [Kept, Kept, horder, shown_rewrite hJ hA, if_pos (inBlob_of_not_updateable ha),
      save_xattrs hA, if_pos (inBlob_of_not_updateable ha), addMetadata_lookup, if_neg hne,
      shown_ima, if_neg hA]
    show (((o.xattrs.lookup a.1).or (if a.1 = "K" then none
      else (loadMetadata J cfg o .new).metadata.lookup a.1)).map cStr = _) ↔ _
    rw [hload]
    cases o.xattrs.lookup a.1 with
    | some u => rfl
    | none =>
        by_cases hK : a.1 = "K"
        · simp [hK, blobText]
        · simp [hK]
  rw [KeptInOrder, hold, hvisible]

include hB in
theorem visible_of_kept (h : Kept J cfg .ima o b) : Visible o b := by
  rw [Kept, shown_ima, if_neg hB] at h
  unfold Visible
  cases hx : o.xattrs.lookup b.1 with
  | some u =>
      rw [hx] at h
      exact Option.some.inj h
  | none =>
      intro hK
      rw [hx, hK] at h
      cases h

include hA hB hne in
theorem attributes_kept (ha : cfg.isUpdateableAttribute a.1 = true)
    (hb : cfg.isUpdateableAttribute b.1 = true) : KeptInOrder J cfg .ima o a b := by
  have horder : setLoaded J cfg .ima o [a, b] = (o.setxattr a.1 a.2).setxattr b.1 b.2 := by
    show (MetadataModule.set J cfg .ima _ b.1 b.2
      (MetadataModule.set J cfg .ima _ a.1 a.2 o).2).2 = _
    rw [set_updateable ha, set_updateable hb]
  constructor
  · rw [Kept, horder, shown_setxattr hB, if_neg hne, shown_setxattr hA, if_pos rfl]
  · rw [Kept, horder, shown_setxattr hB, if_pos rfl]

end Ima

/-- **Concurrent updates**: two clients that have loaded an object and set different keys leave both
    values, in either order, exactly if there is no race between the keys. -/
theorem both_kept_iff (hJ : J.Lawful) (hA : a.1 ≠ cfg.metadataStorageAttribute)
    (hB : b.1 ≠ cfg.metadataStorageAttribute) (hne : a.1 ≠ b.1) :
    BothKept J cfg m o a b ↔ RaceOk J cfg m o a b := by
  rw [bothKept_iff_orders]
  cases m with
  | default => exact iff_of_true ⟨default_keptInOrder hne, default_keptInOrder hne.symm⟩ trivial
  | ima =>
      unfold RaceOk
      dsimp only
      cases ha : cfg.isUpdateableAttribute a.1 with
      | true =>
          cases hb : cfg.isUpdateableAttribute b.1 with
          | true =>
              exact iff_of_true
                ⟨attributes_kept hA hB hne ha hb, attributes_kept hB hA hne.symm hb ha⟩ trivial
          | false =>
              rw [updateable_first_iff hJ hA hB hne ha hb, updateable_last_iff hJ hA hB hne ha hb]
              exact and_iff_left_of_imp OneUpdateable.visible
      | false =>
          cases hb : cfg.isUpdateableAttribute b.1 with
          | true =>
              rw [updateable_first_iff hJ hB hA hne.symm hb ha,
                updateable_last_iff hJ hB hA hne.symm hb ha]
              exact and_iff_right_of_imp OneUpdateable.visible
          | false =>
              rw [rewrites_iff hJ hA hB hne ha hb, rewrites_iff hJ hB hA hne.symm hb ha]
              constructor
              · rintro ⟨⟨hka, _⟩, hkb, _⟩
                exact ⟨hka, hkb⟩
              · rintro ⟨hka, hkb⟩
                exact ⟨⟨hka, visible_of_kept hB hkb⟩, hkb, visible_of_kept hA hka⟩

end Both

/-- The object of a mail in the inbox. -/
def inboxObject : AttrObject := (MetadataModule.start jansson updatesMailbox .ima mailInInbox).obj

/-- A client that sets the flags, and one that sets the mailbox to what it is. -/
theorem flags_and_mailbox_kept :
    BothKept jansson updatesMailbox .ima inboxObject ("B", "INBOX\x00") ("F", "1\x00") := by
  refine (both_kept_iff jansson_lawful (by decide) (by decide) (by decide)).mpr ?_
  exact ⟨show "F" ≠ "K" by decide, fun _ => .inr (by decide)⟩

/-- Two keys of the document: the second client takes the first one's value back. So it does with an
    updateable key if its own is none. -/
theorem concurrent_set_lost :
    (¬ BothKept jansson updatesMailbox .ima inboxObject ("M", "4b\x00") ("F", "1\x00")) ∧
      ¬ BothKept jansson updatesMailbox .ima inboxObject ("B", "Sent\x00") ("F", "1\x00") := by
  constructor
  · intro h
    exact absurd (h _ (.refl _) _ List.mem_cons_self) (by decide)
  · intro h
    exact absurd (h _ (.refl _) _ List.mem_cons_self) (by decide)

end DovecotCeph
