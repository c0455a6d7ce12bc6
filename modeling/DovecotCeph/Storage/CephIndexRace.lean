/-
  File:      DovecotCeph/Storage/CephIndexRace.lean
  Subject:   Mails that are delivered while a repair rewrites the ceph index (rbox-save.cpp,
             rbox-sync-rebuild.cpp).

  * `raceOp`: one RADOS operation of a delivery -- write the object, append its oid, assign its
    uid -- or of the repair -- read the index, load the metadata of the next object, overwrite the
    index;
  * `race_refines`: through `cephIndexRead` this is a rewrite of a shared set (`Lib.Rewrite`);
  * **`repair_keeps_deliveries_iff`**: no delivered mail is missing in the end exactly if none is
    appended between the repair's read and its overwrite, and none is loaded before it is valid.
-/
import DovecotCeph.Lib.Rewrite
import DovecotCeph.Lib.Run
import DovecotCeph.Librmb.CephIndex
import DovecotCeph.Storage.RebuildPass

namespace DovecotCeph

/-! ## 1. Deliveries and a repair -/

/-- A mail being delivered: its oid, the attributes `rbox_save_finish` writes, and the uid the
    commit assigns, if uids are stored in attributes. -/
structure Delivery where
  oid : String
  metadata : Xattrs
  uid : Option String

/-- The attributes of the object in the end. -/
def Delivery.stored (d : Delivery) : Xattrs :=
  match d.uid with
  | some uid => Function.update d.metadata "U" (some uid)
  | none => d.metadata

/-- What a delivery has done. -/
inductive DeliveryPhase where
  | start
  | written
  | appended
  | assigned
  deriving DecidableEq

/-- What the repair has done: nothing, or it has read the index, has still to load some objects and
    has found others valid, or everything. -/
inductive RepairPhase where
  | start
  | loading (todo valid : List String)
  | done

/-- The objects, the index object, and the processes. -/
structure RepairRace (ι : Type) where
  objs : MailXattrs
  index : CephIndex
  phase : ι → DeliveryPhase
  repair : RepairPhase

inductive RaceEvent (ι : Type) where
  | deliver (i : ι)
  | repair

/-- The object exists with valid metadata. -/
def validObject (objs : MailXattrs) (oid : String) : Bool :=
  ((objs oid).map validateMetadata).getD false

section Model

variable {ι : Type} [DecidableEq ι] (D : ι → Delivery)

/-- The next operation of a delivery. -/
def deliverStep (i : ι) (s : RepairRace ι) : RepairRace ι :=
  match s.phase i with
  | .start =>
    { s with
      objs := Function.update s.objs (D i).oid (some (D i).metadata)
      phase := Function.update s.phase i .written }
  | .written =>
    { s with
      index := cephIndexAppend s.index (D i).oid
      phase := Function.update s.phase i .appended }
  | .appended =>
    { s with
      objs := match (D i).uid with
        | some uid => setXattr "U" uid (D i).oid s.objs
        | none => s.objs
      phase := Function.update s.phase i .assigned }
  | .assigned => s

/-- The next operation of the repair. -/
def repairStep (s : RepairRace ι) : RepairRace ι :=
  match s.repair with
  | .start => { s with repair := .loading (cephIndexRead s.index) [] }
  | .loading (oid :: todo) valid =>
    { s with repair := .loading todo (if validObject s.objs oid then valid ++ [oid] else valid) }
  | .loading [] valid => { s with index := cephIndexOverwrite valid, repair := .done }
  | .done => s

/-- One RADOS operation. -/
def raceOp (s : RepairRace ι) : RaceEvent ι → RepairRace ι
  | .deliver i => deliverStep D i s
  | .repair => repairStep s

/-- The append of the oid completed, before the start or since. -/
def Completed (s₀ s : RepairRace ι) (oid : String) : Prop :=
  oid ∈ cephIndexRead s₀.index ∨
    ∃ i, (D i).oid = oid ∧ (s.phase i = .appended ∨ s.phase i = .assigned)

/-- **No delivered mail is missing in the index.** -/
def NoneMissing (s₀ s : RepairRace ι) : Prop :=
  ∀ oid, Completed D s₀ s oid → validObject s.objs oid = true → oid ∈ cephIndexRead s.index

/-- The deliveries and the repair are done. -/
def EverybodyDone (s : RepairRace ι) : Prop :=
  (∀ i, s.phase i = .assigned) ∧ s.repair = .done

/-- Nobody has started. The oids of the deliveries are new (`guid_128_generate`). -/
structure NobodyStarted (s₀ : RepairRace ι) : Prop where
  text : IndexText s₀.index
  oids : ∀ i, IndexOid (D i).oid
  distinct : Function.Injective fun i => (D i).oid
  fresh : ∀ i, (D i).oid ∉ cephIndexRead s₀.index
  phase : ∀ i, s₀.phase i = .start
  repair : s₀.repair = .start

/-- **The condition on an operation**, for deliveries whose object is valid in the end: they do not
    append while the repair loads, and the repair finds them valid when it loads them. -/
def RaceOpOk (s : RepairRace ι) : RaceEvent ι → Prop
  | .deliver i => s.phase i = .written → (∃ todo valid, s.repair = .loading todo valid) →
      validateMetadata (D i).stored = false
  | .repair => ∀ todo valid i, s.repair = .loading ((D i).oid :: todo) valid →
      validateMetadata (D i).stored = true → validObject s.objs (D i).oid = true

end Model

/-! ## 2. The repair alone -/

section Alone

variable {ι : Type} [DecidableEq ι] {D : ι → Delivery}

theorem load_alone (s : RepairRace ι) (todo valid : List String) :
    Lib.run (raceOp D) { s with repair := .loading todo valid }
      (List.replicate (todo.length + 1) .repair) =
        { s with
          index := cephIndexOverwrite (valid ++ todo.filter (validObject s.objs))
          repair := .done } := by
  induction todo generalizing valid with
  | nil =>
      rw [List.filter_nil, List.append_nil]
      rfl
  | cons oid todo ih =>
      rw [List.length_cons, List.replicate_succ, Lib.run_cons]
      show Lib.run (raceOp D) { s with repair := .loading todo _ } _ = _
      rw [ih, List.filter_cons]
      split
      · rw [List.append_assoc]
        rfl
      · rfl

/-- **Undisturbed, the repair does what `repair_namespace` does** when it loads the mails. -/
theorem repair_alone {γ : Type} (E : RebuildEnv γ) (p : Pass) (h2 : E.searchMethod = 2)
    (hload : ∀ oid, E.loads p oid = true) (hw : E.overwrites p = true) {s : RepairRace ι}
    (hs : s.repair = .start) (corrupted : Nat) :
    Lib.run (raceOp D) s (List.replicate ((cephIndexRead s.index).length + 2) .repair) =
      { s with
        index := cephIndexOverwrite
          (loadMails E p ⟨s.objs, [], cephIndexRead s.index, corrupted, []⟩).cephIndex
        repair := .done } := by
  have hstart : raceOp D s .repair =
      { s with repair := .loading (cephIndexRead s.index) [] } := by
    rw [raceOp, repairStep, hs]
  have hloaded : (loadMails E p ⟨s.objs, [], cephIndexRead s.index, corrupted, []⟩).cephIndex =
      (cephIndexRead s.index).filter (validObject s.objs) := by
    have hlist : RebuildStore.mailList E ⟨s.objs, [], cephIndexRead s.index, corrupted, []⟩ =
        cephIndexRead s.index := by
      rw [RebuildStore.mailList, if_pos h2]
      exact Lib.orderedSet_eq_self (sorted_read s.index)
    show (if E.searchMethod = 2 ∧ E.overwrites p then List.map (·.oid)
      (loadRadosMailMetadata E p s.objs _) else _) = _
    rw [if_pos ⟨h2, hw⟩, hlist, loadRadosMailMetadata, List.map_filterMap]
    rw [← List.filterMap_eq_filter]
    refine List.filterMap_congr fun oid _ => ?_
    rw [if_pos (hload oid)]
    cases hobj : s.objs oid with
    | none => simp [validObject, hobj, Option.guard]
    | some x =>
        by_cases hx : validateMetadata x = true <;> simp [validObject, hobj, hx, Option.guard]
  rw [List.replicate_succ, Lib.run_cons, hstart, load_alone, List.nil_append, hloaded]

end Alone

/-! ## 3. What every state has -/

section Invariant

variable {ι : Type} {D : ι → Delivery} {s₀ s : RepairRace ι} {e : RaceEvent ι}
  {oid : String}

/-- What a delivery has written to its object. -/
def Delivery.content (d : Delivery) : DeliveryPhase → Option Xattrs
  | .start => none
  | .written => some d.metadata
  | .appended => some d.metadata
  | .assigned => some d.stored

/-- The index, the repair's lists and the objects in a race that started at `s₀`. -/
structure DeliveryInv (D : ι → Delivery) (s₀ s : RepairRace ι) : Prop where
  text : IndexText s.index
  index : ∀ oid ∈ cephIndexRead s.index, Completed D s₀ s oid
  nodup : ∀ todo valid, s.repair = .loading todo valid → (todo ++ valid).Nodup
  loading : ∀ todo valid, s.repair = .loading todo valid →
    ∀ oid ∈ todo ++ valid, IndexOid oid ∧ Completed D s₀ s oid
  content : ∀ i x, (D i).content (s.phase i) = some x → s.objs (D i).oid = some x
  others : ∀ oid, (∀ i, (D i).oid ≠ oid) → s.objs oid = s₀.objs oid

theorem deliveryInv_start (h : NobodyStarted D s₀) : DeliveryInv D s₀ s₀ where
  text := h.text
  index := fun _ hoid => .inl hoid
  nodup := by
    intro todo valid hr
    rw [h.repair] at hr
    cases hr
  loading := by
    intro todo valid hr
    rw [h.repair] at hr
    cases hr
  content := by
    intro i x hx
    rw [h.phase i] at hx
    cases hx
  others := fun _ _ => rfl

@[simp] theorem repairStep_phase : (repairStep s).phase = s.phase := by
  unfold repairStep
  split <;> rfl

/-- The attributes after the commit has assigned the uid. -/
theorem assign_objs {i : ι} (h : s.objs (D i).oid = some (D i).metadata) :
    (match (D i).uid with
      | some uid => setXattr "U" uid (D i).oid s.objs
      | none => s.objs) = Function.update s.objs (D i).oid (some (D i).stored) := by
  unfold Delivery.stored
  cases (D i).uid with
  | none =>
      show s.objs = Function.update s.objs (D i).oid (some (D i).metadata)
      rw [← h, Function.update_eq_self]
  | some uid =>
      show setXattr "U" uid (D i).oid s.objs = _
      unfold setXattr
      rw [h]
      rfl

variable [DecidableEq ι]

@[simp] theorem deliverStep_repair (i : ι) : (deliverStep D i s).repair = s.repair := by
  unfold deliverStep
  split <;> rfl

theorem deliverStep_phase_ne {i j : ι} (h : j ≠ i) : (deliverStep D i s).phase j = s.phase j := by
  unfold deliverStep
  split <;> simp [Function.update_of_ne h]

/-- A completed append stays completed. -/
theorem completed_step (h : Completed D s₀ s oid) : Completed D s₀ (raceOp D s e) oid := by
  rcases h with h | ⟨i, hi, hp⟩
  · exact .inl h
  · refine .inr ⟨i, hi, ?_⟩
    cases e with
    | repair =>
        rw [raceOp, repairStep_phase]
        exact hp
    | deliver j =>
        rw [raceOp]
        by_cases hij : i = j
        · subst hij
          unfold deliverStep
          rcases hp with hp | hp <;> rw [hp] <;> simp [hp]
        · rw [deliverStep_phase_ne hij]
          exact hp

/-- The objects after an operation of a delivery that leaves it in phase `q`. -/
theorem DeliveryInv.deliver_objs (hi : DeliveryInv D s₀ s) (h0 : NobodyStarted D s₀) {i : ι}
    {objs : MailXattrs} {q : DeliveryPhase}
    (hself : ∀ x, (D i).content q = some x → objs (D i).oid = some x)
    (hne : ∀ oid, oid ≠ (D i).oid → objs oid = s.objs oid) :
    (∀ j x, (D j).content (Function.update s.phase i q j) = some x → objs (D j).oid = some x) ∧
      ∀ oid, (∀ j, (D j).oid ≠ oid) → objs oid = s₀.objs oid := by
  refine ⟨fun j x hx => ?_, fun oid ho => (hne oid (Ne.symm (ho i))).trans (hi.others oid ho)⟩
  by_cases hji : j = i
  · subst hji
    rw [Function.update_self] at hx
    exact hself x hx
  · rw [Function.update_of_ne hji] at hx
    rw [hne _ fun heq => hji (h0.distinct heq)]
    exact hi.content j x hx

/-- A delivery keeps the invariant: it writes its own object. -/
theorem deliveryInv_deliver (h0 : NobodyStarted D s₀) (hi : DeliveryInv D s₀ s) (i : ι) :
    DeliveryInv D s₀ (deliverStep D i s) := by
  have hmono : ∀ oid, Completed D s₀ s oid → Completed D s₀ (deliverStep D i s) oid :=
    fun oid h => completed_step (e := .deliver i) h
  have hnodup : ∀ todo valid, (deliverStep D i s).repair = .loading todo valid →
      (todo ++ valid).Nodup := by
    intro todo valid hr
    rw [deliverStep_repair] at hr
    exact hi.nodup todo valid hr
  have hloading : ∀ todo valid, (deliverStep D i s).repair = .loading todo valid →
      ∀ oid ∈ todo ++ valid, IndexOid oid ∧ Completed D s₀ (deliverStep D i s) oid := by
    intro todo valid hr oid hoid
    rw [deliverStep_repair] at hr
    exact (hi.loading todo valid hr oid hoid).imp_right (hmono oid)
  have hupdate : ∀ x oid, oid ≠ (D i).oid →
      Function.update s.objs (D i).oid x oid = s.objs oid := fun x oid ho =>
    Function.update_of_ne ho _ _
  cases hp : s.phase i with
  | start =>
      have hstep : deliverStep D i s =
          { s with
            objs := Function.update s.objs (D i).oid (some (D i).metadata)
            phase := Function.update s.phase i .written } := by
        rw [deliverStep, hp]
      rw [hstep] at hmono hnodup hloading ⊢
      obtain ⟨hcontent, hothers⟩ := hi.deliver_objs h0 (q := .written)
        (fun x hx => (Function.update_self ..).trans hx) (hupdate _)
      exact ⟨hi.text, fun oid hoid => hmono oid (hi.index oid hoid), hnodup, hloading, hcontent,
        hothers⟩
  | written =>
      have hstep : deliverStep D i s =
          { s with
            index := cephIndexAppend s.index (D i).oid
            phase := Function.update s.phase i .appended } := by
        rw [deliverStep, hp]
      rw [hstep] at hmono hnodup hloading ⊢
      obtain ⟨hcontent, hothers⟩ := hi.deliver_objs h0 (i := i) (q := .appended)
        (fun x hx => hi.content i x (by rw [hp]; exact hx)) (fun _ _ => rfl)
      refine ⟨hi.text.append (h0.oids i), fun oid hoid => ?_, hnodup, hloading, hcontent,
        hothers⟩
      rcases (mem_read_append hi.text (h0.oids i)).mp hoid with hold | rfl
      · exact hmono oid (hi.index oid hold)
      · exact .inr ⟨i, rfl, .inl (Function.update_self ..)⟩
  | appended =>
      have hobj : s.objs (D i).oid = some (D i).metadata := hi.content i _ (by rw [hp]; rfl)
      have hstep : deliverStep D i s =
          { s with
            objs := Function.update s.objs (D i).oid (some (D i).stored)
            phase := Function.update s.phase i .assigned } := by
        rw [deliverStep, hp]
        dsimp only
        rw [assign_objs hobj]
      rw [hstep] at hmono hnodup hloading ⊢
      obtain ⟨hcontent, hothers⟩ := hi.deliver_objs h0 (q := .assigned)
        (fun x hx => (Function.update_self ..).trans hx) (hupdate _)
      exact ⟨hi.text, fun oid hoid => hmono oid (hi.index oid hoid), hnodup, hloading, hcontent,
        hothers⟩
  | assigned =>
      have hstep : deliverStep D i s = s := by
        rw [deliverStep, hp]
      rw [hstep]
      exact hi

/-- The repair keeps the invariant: it only moves oids between its lists and the index. -/
theorem deliveryInv_repair (hi : DeliveryInv D s₀ s) : DeliveryInv D s₀ (repairStep s) := by
  have hcomp : ∀ oid, Completed D s₀ s oid → Completed D s₀ (repairStep s) oid :=
    fun oid h => completed_step (e := .repair) h
  cases hr : s.repair with
  | start =>
      have hstep : repairStep s = { s with repair := .loading (cephIndexRead s.index) [] } := by
        rw [repairStep, hr]
      rw [hstep] at hcomp ⊢
      refine ⟨hi.text, fun oid hoid => hcomp oid (hi.index oid hoid), fun todo valid h => ?_,
        fun todo valid h oid hoid => ?_, hi.content, hi.others⟩
      · cases h
        rw [List.append_nil]
        exact nodup_read s.index
      · cases h
        rw [List.append_nil] at hoid
        exact ⟨indexOid_of_mem_read hi.text hoid, hcomp oid (hi.index oid hoid)⟩
  | loading todo valid =>
      have hnodup := hi.nodup todo valid hr
      have hmem := hi.loading todo valid hr
      cases todo with
      | nil =>
          have hstep : repairStep s =
              { s with index := cephIndexOverwrite valid, repair := .done } := by
            rw [repairStep, hr]
          rw [hstep] at hcomp ⊢
          have hoids : ∀ oid ∈ valid, IndexOid oid := fun oid hoid => (hmem oid hoid).1
          refine ⟨indexText_overwrite hoids, fun oid hoid => ?_, nofun, nofun, hi.content,
            hi.others⟩
          exact hcomp oid (hmem oid ((mem_read_overwrite hoids).mp hoid)).2
      | cons oid todo =>
          have hstep : repairStep s =
              { s with
                repair := .loading todo
                  (if validObject s.objs oid then valid ++ [oid] else valid) } := by
            rw [repairStep, hr]
          rw [hstep] at hcomp ⊢
          rw [List.cons_append, List.nodup_cons] at hnodup
          refine ⟨hi.text, fun oid hoid => hcomp oid (hi.index oid hoid), fun todo' valid' h => ?_,
            fun todo' valid' h oid' hoid' => ?_, hi.content, hi.others⟩
          · cases h
            split
            · rw [← List.append_assoc]
              exact List.nodup_append.mpr ⟨hnodup.2, List.nodup_singleton _, fun a ha b hb hab =>
                hnodup.1 (by rw [← List.mem_singleton.mp hb, ← hab]; exact ha)⟩
            · exact hnodup.2
          · cases h
            have hin : oid' ∈ oid :: todo ++ valid := by
              rcases List.mem_append.mp hoid' with h | h
              · exact List.mem_append_left _ (List.mem_cons_of_mem _ h)
              · split at h
                · rcases List.mem_append.mp h with h | h
                  · exact List.mem_append_right _ h
                  · rw [List.mem_singleton.mp h]
                    exact List.mem_append_left _ List.mem_cons_self
                · exact List.mem_append_right _ h
            exact (hmem oid' hin).imp_right (hcomp oid')
  | done =>
      have hstep : repairStep s = s := by
        rw [repairStep, hr]
      rw [hstep]
      exact hi

/-- **Every operation keeps the invariant.** -/
theorem deliveryInv_step (h0 : NobodyStarted D s₀) (hi : DeliveryInv D s₀ s) (e : RaceEvent ι) :
    DeliveryInv D s₀ (raceOp D s e) := by
  cases e with
  | deliver i => exact deliveryInv_deliver h0 hi i
  | repair => exact deliveryInv_repair hi

end Invariant

/-! ## 4. The rewritten set -/

section Refinement

variable {ι : Type} {D : ι → Delivery} {s₀ s : RepairRace ι} {e : RaceEvent ι} {oid : String}

/-- The index as the set of its oids, and the lists of the repair as sets. -/
def RepairRace.rewrite (s : RepairRace ι) : Lib.Rewrite.St String where
  set := { oid | oid ∈ cephIndexRead s.index }
  phase := match s.repair with
    | .start => .idle
    | .loading todo valid => .running { oid | oid ∈ todo } { oid | oid ∈ valid }
    | .done => .done

/-- What an operation does to the set. -/
def rewriteEvent (D : ι → Delivery) (s : RepairRace ι) : RaceEvent ι → Lib.Rewrite.Ev String
  | .deliver i => match s.phase i with
    | .written => .add (D i).oid
    | _ => .skip
  | .repair => match s.repair with
    | .start => .read
    | .loading (oid :: _) _ => .check oid (validObject s.objs oid)
    | .loading [] _ => .write
    | .done => .skip

variable [DecidableEq ι]

/-- A delivery that does not append leaves the set alone. -/
theorem deliver_rewrite {i : ι} (h : s.phase i ≠ .written) :
    (deliverStep D i s).rewrite = s.rewrite := by
  unfold deliverStep
  split
  case h_2 hp => exact absurd hp h
  all_goals rfl

/-- **The race is a rewrite of the set of oids.** -/
theorem race_refines (h0 : NobodyStarted D s₀) (hi : DeliveryInv D s₀ s) (e : RaceEvent ι) :
    (raceOp D s e).rewrite = Lib.Rewrite.step s.rewrite (rewriteEvent D s e) := by
  cases e with
  | deliver i =>
      by_cases hp : s.phase i = .written
      · have hevent : rewriteEvent D s (.deliver i) = .add (D i).oid := by
          rw [rewriteEvent, hp]
        have hstep : raceOp D s (.deliver i) =
            { s with
              index := cephIndexAppend s.index (D i).oid
              phase := Function.update s.phase i .appended } := by
          rw [raceOp, deliverStep, hp]
        rw [hevent, hstep]
        show (⟨{ oid | oid ∈ cephIndexRead (cephIndexAppend s.index (D i).oid) },
          s.rewrite.phase⟩ : Lib.Rewrite.St String) =
            ⟨insert (D i).oid { oid | oid ∈ cephIndexRead s.index }, s.rewrite.phase⟩
        congr 1
        ext oid
        rw [Set.mem_ofPred_eq, mem_read_append hi.text (h0.oids i), Set.mem_insert_iff, or_comm]
        rfl
      · have hevent : rewriteEvent D s (.deliver i) = .skip := by
          unfold rewriteEvent
          dsimp only
          split
          case h_1 hw => exact absurd hw hp
          case h_2 => rfl
        rw [hevent]
        exact deliver_rewrite hp
  | repair =>
      cases hr : s.repair with
      | start =>
          unfold raceOp repairStep rewriteEvent RepairRace.rewrite
          rw [hr]
          show Lib.Rewrite.St.mk _ (.running _ _) = Lib.Rewrite.St.mk _ (.running _ _)
          simp
      | loading todo valid =>
          unfold raceOp repairStep rewriteEvent RepairRace.rewrite
          rw [hr]
          cases todo with
          | nil =>
              have hoids : ∀ oid ∈ valid, IndexOid oid := fun oid hoid =>
                (hi.loading [] valid hr oid hoid).1
              show (⟨{ oid | oid ∈ cephIndexRead (cephIndexOverwrite valid) }, .done⟩ :
                Lib.Rewrite.St String) = ⟨{ oid | oid ∈ valid }, .done⟩
              congr 1
              ext oid
              exact mem_read_overwrite hoids
          | cons oid todo =>
              have hnot : oid ∉ todo := fun hmem =>
                (List.nodup_cons.mp (hi.nodup _ valid hr)).1 (List.mem_append_left _ hmem)
              show Lib.Rewrite.St.mk _ (.running _ _) = Lib.Rewrite.St.mk _ (.running _ _)
              congr 2
              · ext x
                show x ∈ todo ↔ x ∈ oid :: todo ∧ x ≠ oid
                constructor
                · exact fun hx => ⟨List.mem_cons_of_mem _ hx, fun heq => hnot (heq ▸ hx)⟩
                · exact fun hx => (List.mem_cons.mp hx.1).resolve_left hx.2
              · cases validObject s.objs oid with
                | false => rfl
                | true =>
                    ext x
                    show x ∈ valid ++ [oid] ↔ x ∈ insert oid { oid | oid ∈ valid }
                    rw [List.mem_append, List.mem_singleton, Set.mem_insert_iff, or_comm]
                    rfl
      | done =>
          have hevent : rewriteEvent D s .repair = .skip := by rw [rewriteEvent, hr]
          have hstep : raceOp D s .repair = s := by rw [raceOp, repairStep, hr]
          rw [hevent, hstep]
          rfl

end Refinement

/-! ## 5. The race -/

section Race

variable {ι : Type} {D : ι → Delivery} {s₀ s : RepairRace ι} {e : RaceEvent ι} {oid : String}

/-- The object is valid in the end. -/
def EndsValid (D : ι → Delivery) (s₀ : RepairRace ι) (oid : String) : Prop :=
  (∃ i, (D i).oid = oid ∧ validateMetadata (D i).stored = true) ∨
    (∀ i, (D i).oid ≠ oid) ∧ validObject s₀.objs oid = true

theorem validObject_some {objs : MailXattrs} {x : Xattrs} (h : objs oid = some x) :
    validObject objs oid = validateMetadata x := by
  rw [validObject, h]
  rfl

theorem endsValid_iff (hi : DeliveryInv D s₀ s) (hdone : EverybodyDone s) :
    EndsValid D s₀ oid ↔ validObject s.objs oid = true := by
  have hstored : ∀ i, s.objs (D i).oid = some (D i).stored := fun i =>
    hi.content i _ (by rw [hdone.1 i]; rfl)
  constructor
  · intro h
    rcases h with ⟨i, rfl, hv⟩ | ⟨hno, hv⟩
    · rw [validObject_some (hstored i)]
      exact hv
    · rw [validObject, hi.others oid hno]
      exact hv
  · intro h
    by_cases hex : ∃ i, (D i).oid = oid
    · obtain ⟨i, rfl⟩ := hex
      rw [validObject_some (hstored i)] at h
      exact .inl ⟨i, rfl, h⟩
    · have hno : ∀ i, (D i).oid ≠ oid := fun i heq => hex ⟨i, heq⟩
      rw [validObject, hi.others oid hno] at h
      exact .inr ⟨hno, h⟩

/-- The oid of a delivery is completed exactly if the delivery has appended it. -/
theorem completed_delivery (h0 : NobodyStarted D s₀) {i : ι} (h : Completed D s₀ s (D i).oid) :
    s.phase i = .appended ∨ s.phase i = .assigned := by
  rcases h with h | ⟨j, hj, hp⟩
  · exact absurd h (h0.fresh i)
  · obtain rfl := h0.distinct hj
    exact hp

/-- The appended mails that are valid in the end are safe. -/
def AllSafe (D : ι → Delivery) (s₀ s : RepairRace ι) : Prop :=
  ∀ oid, Completed D s₀ s oid → EndsValid D s₀ oid → Lib.Rewrite.Safe oid s.rewrite

variable [DecidableEq ι]

/-- What was not completed before an operation is what it appends. -/
theorem completed_new (h : Completed D s₀ (raceOp D s e) oid) (hnot : ¬ Completed D s₀ s oid) :
    ∃ i, e = .deliver i ∧ s.phase i = .written ∧ (D i).oid = oid := by
  rcases h with h | ⟨i, hi, hp⟩
  · exact absurd (.inl h) hnot
  · have hbefore : ¬ (s.phase i = .appended ∨ s.phase i = .assigned) := fun hp' =>
      hnot (.inr ⟨i, hi, hp'⟩)
    cases e with
    | repair =>
        rw [raceOp, repairStep_phase] at hp
        exact absurd hp hbefore
    | deliver j =>
        rw [raceOp] at hp
        by_cases hij : i = j
        · subst hij
          refine ⟨i, rfl, ?_, hi⟩
          cases hph : s.phase i with
          | written => rfl
          | start => simp [deliverStep, hph] at hp
          | appended => exact absurd (.inl hph) hbefore
          | assigned => exact absurd (.inr hph) hbefore
        · rw [deliverStep_phase_ne hij] at hp
          exact absurd hp hbefore

/-- **An operation that meets the condition keeps them safe.** -/
theorem allSafe_step (h0 : NobodyStarted D s₀) (hi : DeliveryInv D s₀ s) (hs : AllSafe D s₀ s)
    (hok : RaceOpOk D s e) : AllSafe D s₀ (raceOp D s e) := by
  intro oid hcomp hvalid
  rw [race_refines h0 hi]
  by_cases hold : Completed D s₀ s oid
  · refine Lib.Rewrite.safe_step (hs oid hold hvalid) fun hdrops => ?_
    cases e with
    | deliver i =>
        unfold rewriteEvent at hdrops
        dsimp only at hdrops
        split at hdrops <;> exact hdrops
    | repair =>
        unfold rewriteEvent at hdrops
        dsimp only at hdrops
        split at hdrops
        case h_1 => exact hdrops
        case h_2 oid' todo valid hr =>
          -- the object the repair rejects is valid in the end, and so it is now
          obtain ⟨rfl, hbad⟩ := hdrops
          rcases hvalid with ⟨i, rfl, hv⟩ | ⟨hno, hv⟩
          · rw [hok todo valid i hr hv] at hbad
            cases hbad
          · rw [validObject, hi.others oid' hno] at hbad
            rw [validObject, hbad] at hv
            cases hv
        case h_3 valid hr =>
          simp [Lib.Rewrite.Drops, RepairRace.rewrite, hr] at hdrops
        case h_4 => exact hdrops
  · obtain ⟨i, rfl, hp, rfl⟩ := completed_new hcomp hold
    have hstored : validateMetadata (D i).stored = true := by
      rcases hvalid with ⟨j, hj, hv⟩ | ⟨hno, _⟩
      · rwa [h0.distinct hj] at hv
      · exact absurd rfl (hno i)
    have hevent : rewriteEvent D s (.deliver i) = .add (D i).oid := by
      rw [rewriteEvent, hp]
    rw [hevent]
    refine Lib.Rewrite.safe_add fun todo kept hrun => ?_
    cases hr : s.repair with
    | start => simp [RepairRace.rewrite, hr] at hrun
    | done => simp [RepairRace.rewrite, hr] at hrun
    | loading todo valid =>
        rw [hok hp ⟨todo, valid, hr⟩] at hstored
        cases hstored

/-- A delivered mail that the repair drops. -/
def Missing (D : ι → Delivery) (i : ι) (s : RepairRace ι) : Prop :=
  Lib.Rewrite.Lost (D i).oid s.rewrite ∧ (s.phase i = .appended ∨ s.phase i = .assigned)

/-- A dropped mail stays dropped. -/
theorem missing_step (h0 : NobodyStarted D s₀) (hi : DeliveryInv D s₀ s) {i : ι} (h : Missing D i s)
    (e : RaceEvent ι) : Missing D i (raceOp D s e) := by
  obtain ⟨hlost, hp⟩ := h
  refine ⟨?_, ?_⟩
  · rw [race_refines h0 hi]
    refine Lib.Rewrite.lost_step hlost (fun hadd => ?_) (fun ok hcheck => ?_)
    · -- the delivery has appended already
      cases e with
      | deliver j =>
          unfold rewriteEvent at hadd
          dsimp only at hadd
          split at hadd
          case h_1 hj =>
            obtain rfl : j = i := h0.distinct (Lib.Rewrite.Ev.add.inj hadd)
            rw [hj] at hp
            exact absurd hp (by decide)
          case h_2 => cases hadd
      | repair =>
          unfold rewriteEvent at hadd
          dsimp only at hadd
          split at hadd <;> cases hadd
    · cases e with
      | deliver j =>
          unfold rewriteEvent at hcheck
          dsimp only at hcheck
          split at hcheck <;> cases hcheck
      | repair =>
          unfold rewriteEvent at hcheck
          dsimp only at hcheck
          split at hcheck
          case h_2 oid todo valid hr =>
            obtain ⟨rfl, _⟩ := Lib.Rewrite.Ev.check.inj hcheck
            simp [Lib.Rewrite.Lost, RepairRace.rewrite, hr] at hlost
          case h_1 => cases hcheck
          case h_3 => cases hcheck
          case h_4 => cases hcheck
  · exact completed_delivery h0 (completed_step (.inr ⟨i, rfl, hp⟩))

/-- **An operation that breaks the condition drops a mail that is valid in the end.** -/
theorem missing_of_not_ok (h0 : NobodyStarted D s₀) (hi : DeliveryInv D s₀ s)
    (hbad : ¬ RaceOpOk D s e) :
    ∃ i, Missing D i (raceOp D s e) ∧ validateMetadata (D i).stored = true := by
  cases e with
  | deliver i =>
      unfold RaceOpOk at hbad
      push Not at hbad
      obtain ⟨hp, ⟨todo, valid, hr⟩, hv⟩ := hbad
      replace hv : validateMetadata (D i).stored = true := Bool.of_not_eq_false hv
      have hnot : ∀ oid ∈ todo ++ valid, oid ≠ (D i).oid := by
        intro oid hoid heq
        have hc := (hi.loading todo valid hr oid hoid).2
        rw [heq] at hc
        have hp' := completed_delivery h0 hc
        rw [hp] at hp'
        exact absurd hp' (by decide)
      have hevent : rewriteEvent D s (.deliver i) = .add (D i).oid := by
        rw [rewriteEvent, hp]
      refine ⟨i, ⟨?_, ?_⟩, hv⟩
      · rw [race_refines h0 hi, hevent]
        have hphase : s.rewrite.phase = .running { x | x ∈ todo } { x | x ∈ valid } := by
          rw [RepairRace.rewrite, hr]
        exact Lib.Rewrite.lost_add hphase
          (fun hmem => hnot _ (List.mem_append_left _ hmem) rfl)
          (fun hmem => hnot _ (List.mem_append_right _ hmem) rfl)
      · show (deliverStep D i s).phase i = _ ∨ _
        rw [deliverStep, hp]
        exact .inl (Function.update_self ..)
  | repair =>
      unfold RaceOpOk at hbad
      push Not at hbad
      obtain ⟨todo, valid, i, hr, hv, hbad⟩ := hbad
      replace hbad : validObject s.objs (D i).oid = false := Bool.eq_false_iff.mpr hbad
      have hc := (hi.loading _ valid hr (D i).oid List.mem_cons_self).2
      have hkept : (D i).oid ∉ valid := fun hmem =>
        (List.nodup_cons.mp (hi.nodup _ valid hr)).1 (List.mem_append_right _ hmem)
      have hevent : rewriteEvent D s .repair = .check (D i).oid false := by
        rw [rewriteEvent, hr]
        dsimp only
        rw [hbad]
      refine ⟨i, ⟨?_, completed_delivery h0 (completed_step hc)⟩, hv⟩
      rw [race_refines h0 hi, hevent]
      have hphase : s.rewrite.phase =
          .running { x | x ∈ (D i).oid :: todo } { x | x ∈ valid } := by
        rw [RepairRace.rewrite, hr]
      exact Lib.Rewrite.lost_check hphase hkept

/-- **A repair loses no delivered mail exactly if** no delivery whose object is valid in the end
    appends between the repair's read and its overwrite, and the repair finds every such object
    valid when it loads it. -/
theorem repair_keeps_deliveries_iff (D : ι → Delivery) {s₀ : RepairRace ι} (h0 : NobodyStarted D s₀)
    (es : List (RaceEvent ι)) (hdone : EverybodyDone (Lib.run (raceOp D) s₀ es)) :
    NoneMissing D s₀ (Lib.run (raceOp D) s₀ es) ↔
      Lib.Along (raceOp D) (RaceOpOk D) s₀ es := by
  have hinv : ∀ es, DeliveryInv D s₀ (Lib.run (raceOp D) s₀ es) :=
    Lib.run_inv (I := DeliveryInv D s₀) (fun s e hi => deliveryInv_step h0 hi e)
      (deliveryInv_start h0)
  constructor
  · intro hnone
    by_contra hbad
    -- from the first operation that breaks the condition on a mail is missing
    obtain ⟨pre, e, post, rfl, hbreak⟩ := Lib.exists_of_not_along hbad
    obtain ⟨i, hmiss, hv⟩ := missing_of_not_ok h0 (hinv pre) hbreak
    rw [Lib.run_append, Lib.run_cons] at hnone hdone
    have hend : DeliveryInv D s₀ (Lib.run (raceOp D)
        (raceOp D (Lib.run (raceOp D) s₀ pre) e) post) ∧
        Missing D i (Lib.run (raceOp D) (raceOp D (Lib.run (raceOp D) s₀ pre) e) post) :=
      Lib.run_inv (I := fun s => DeliveryInv D s₀ s ∧ Missing D i s)
        (fun s e hs => ⟨deliveryInv_step h0 hs.1 e, missing_step h0 hs.1 hs.2 e⟩)
        ⟨deliveryInv_step h0 (hinv pre) e, hmiss⟩ post
    obtain ⟨hi, hlost, hp⟩ := hend
    have hmem := hnone (D i).oid (.inr ⟨i, rfl, hp⟩)
      ((endsValid_iff hi hdone).mp (.inl ⟨i, rfl, hv⟩))
    rw [RepairRace.rewrite, hdone.2] at hlost
    exact hlost hmem
  · intro hok oid hcomp hvalid
    have hsafe : DeliveryInv D s₀ (Lib.run (raceOp D) s₀ es) ∧
        AllSafe D s₀ (Lib.run (raceOp D) s₀ es) := by
      refine Lib.along_inv (I := fun s => DeliveryInv D s₀ s ∧ AllSafe D s₀ s)
        (fun s e hs hok => ⟨deliveryInv_step h0 hs.1 e, allSafe_step h0 hs.1 hs.2 hok⟩)
        ⟨deliveryInv_start h0, fun oid hcomp _ => ?_⟩ hok
      rcases hcomp with hcomp | ⟨i, _, hp⟩
      · refine ⟨hcomp, ?_⟩
        rw [RepairRace.rewrite, h0.repair]
        trivial
      · rw [h0.phase i] at hp
        exact absurd hp (by decide)
    exact (hsafe.2 oid hcomp ((endsValid_iff hsafe.1 hdone).mpr hvalid)).1

end Race

/-- A delivery to INBOX; the commit assigns the uid 1. -/
def inboxDelivery (_ : Unit) : Delivery where
  oid := "a0000000000000000000000000000000"
  metadata := fun k =>
    if k ∈ ["R", "Z", "V"] then some "2"
    else if k ∈ ["M", "G"] then some "11111111111111111111111111111111"
    else none
  uid := some "1"

/-- No mails yet. -/
def noMailsYet : RepairRace Unit := ⟨fun _ => none, [], fun _ => .start, .start⟩

theorem noMailsYet_start : NobodyStarted inboxDelivery noMailsYet where
  text := indexText_nil
  oids := by
    intro _
    exact ⟨(by decide : (inboxDelivery ()).oid ≠ ""),
      (by decide : ',' ∉ (inboxDelivery ()).oid.toList),
      (by decide : '\x00' ∉ (inboxDelivery ()).oid.toList)⟩
  distinct := fun _ _ _ => rfl
  fresh := fun _ => (by decide : (inboxDelivery ()).oid ∉ cephIndexRead [])
  phase := fun _ => rfl
  repair := rfl

/-- A repair that starts when the uid of the delivered mail is assigned keeps it. -/
theorem delivery_then_repair :
    NoneMissing inboxDelivery noMailsYet (Lib.run (raceOp inboxDelivery) noMailsYet
      [.deliver (), .deliver (), .deliver (), .repair, .repair, .repair]) := by
  refine (repair_keeps_deliveries_iff inboxDelivery noMailsYet_start _ ⟨fun _ => rfl, rfl⟩).mpr ?_
  refine ⟨fun h => ?_, fun _ h => ?_, fun h => ?_, fun _ _ _ h => ?_, fun _ _ _ _ _ => ?_,
    fun _ _ _ h => ?_, trivial⟩
  · cases h
  · obtain ⟨_, _, h⟩ := h
    cases h
  · cases h
  · cases h
  · show validObject (Lib.run (raceOp inboxDelivery) noMailsYet
      [.deliver (), .deliver (), .deliver ()]).objs (inboxDelivery ()).oid = true
    decide
  · cases h

/-- The mail is delivered after the repair has read the index and before it overwrites it. -/
theorem delivery_during_repair :
    NobodyStarted inboxDelivery noMailsYet ∧
      EverybodyDone (Lib.run (raceOp inboxDelivery) noMailsYet
        [.repair, .deliver (), .deliver (), .deliver (), .repair]) ∧
      ¬ NoneMissing inboxDelivery noMailsYet (Lib.run (raceOp inboxDelivery) noMailsYet
        [.repair, .deliver (), .deliver (), .deliver (), .repair]) := by
  refine ⟨noMailsYet_start, ⟨fun _ => rfl, rfl⟩, fun h => ?_⟩
  have hmem := h (inboxDelivery ()).oid (.inr ⟨(), rfl, .inr rfl⟩) (by decide)
  exact absurd hmem (by decide)

end DovecotCeph
