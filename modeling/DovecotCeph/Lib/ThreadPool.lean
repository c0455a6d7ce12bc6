/-
  File:      DovecotCeph/Lib/ThreadPool.lean
  Subject:   A main thread that starts a thread for each of its tasks, joins the oldest one when it
             has as many as it may have, and joins all of them at the end. Nothing here names the
             plugin.

  A task is a list of atomic actions on a shared value; some tasks are skipped.
  * `Step`: the steps of the main thread and of the others, in any order;
  * `Sound`: what every step keeps; `bounded`: there are never more threads than allowed;
  * **`progress`**, **`terminates`**: with room for one thread, nobody waits for ever;
  * **`result`**: if the actions commute, every run leaves what the tasks leave in turn.
-/
import DovecotCeph.Lib.Interleave
import Mathlib.Logic.Relation
import Mathlib.Order.WellFounded

namespace DovecotCeph.Lib.ThreadPool

/-- Where the main thread is: at the head of its loop, behind the check for room, joining the
    threads that are left, or behind the last join. -/
inductive Main (α : Type*) where
  | loop (todo : List (Option (List α)))
  | start (task : Option (List α)) (todo : List (Option (List α)))
  | join (joined : Nat)
  | returned

/-- The shared value, the threads that are not joined with what they still have to do, and the main
    thread. -/
structure Pool (σ α : Type*) where
  shared : σ
  threads : List (List α)
  main : Main α

section Pools

variable {σ α : Type*}

/-- **One step.** Nothing happens any more if the main thread has to join the oldest one of no
    threads at all. -/
inductive Step (limit : Nat) (act : σ → α → σ) : Pool σ α → Pool σ α → Prop
  | work {shared pre a rest post main} :
      Step limit act ⟨shared, pre ++ (a :: rest) :: post, main⟩
        ⟨act shared a, pre ++ rest :: post, main⟩
  | room {shared threads task todo} (h : threads.length ≠ limit) :
      Step limit act ⟨shared, threads, .loop (task :: todo)⟩ ⟨shared, threads, .start task todo⟩
  | wait {shared threads task todo} (h : threads.length + 1 = limit) :
      Step limit act ⟨shared, [] :: threads, .loop (task :: todo)⟩
        ⟨shared, threads, .start task todo⟩
  | skip {shared threads todo} :
      Step limit act ⟨shared, threads, .start none todo⟩ ⟨shared, threads, .loop todo⟩
  | spawn {shared threads task todo} :
      Step limit act ⟨shared, threads, .start (some task) todo⟩
        ⟨shared, threads ++ [task], .loop todo⟩
  | joinAll {shared threads} :
      Step limit act ⟨shared, threads, .loop []⟩ ⟨shared, threads, .join 0⟩
  | join {shared threads k} (h : threads[k]? = some []) :
      Step limit act ⟨shared, threads, .join k⟩ ⟨shared, threads, .join (k + 1)⟩
  | leave {shared threads} :
      Step limit act ⟨shared, threads, .join threads.length⟩ ⟨shared, threads, .returned⟩

/-- No thread is there yet. -/
def Pool.init (shared : σ) (tasks : List (Option (List α))) : Pool σ α := ⟨shared, [], .loop tasks⟩

/-- What runs of the pool reach. -/
def Reaches (limit : Nat) (act : σ → α → σ) : Pool σ α → Pool σ α → Prop :=
  Relation.ReflTransGen (Step limit act)

/-- The tasks no thread has been started for. -/
def Main.tasks : Main α → List (Option (List α))
  | .loop todo => todo
  | .start task todo => task :: todo
  | .join _ => []
  | .returned => []

/-- The actions of tasks. -/
def actions (tasks : List (Option (List α))) : List α := (tasks.filterMap id).flatten

/-- The actions that are still to come. -/
def Pool.pending (s : Pool σ α) : List α := s.threads.flatten ++ actions s.main.tasks

/-! ## 1. What every step keeps -/

/-- There is room for the thread that is to be started; the threads that were joined are done, and
    all are at the end. -/
def Sound (limit : Nat) (s : Pool σ α) : Prop :=
  s.threads.length ≤ limit ∧ match s.main with
    | .loop _ => True
    | .start _ _ => s.threads.length < limit
    | .join k => k ≤ s.threads.length ∧ (s.threads.take k).flatten = []
    | .returned => s.threads.flatten = []

variable {limit : Nat} {act : σ → α → σ} {s s' : Pool σ α}

theorem sound_init (shared : σ) (tasks : List (Option (List α))) :
    Sound limit (Pool.init shared tasks) := ⟨Nat.zero_le _, trivial⟩

/-- A thread that was joined does not work. -/
theorem take_work {pre post : List (List α)} {a : α} {rest : List α} {k : Nat}
    (h : ((pre ++ (a :: rest) :: post).take k).flatten = []) :
    ((pre ++ rest :: post).take k).flatten = [] := by
  by_cases hk : k ≤ pre.length
  · rw [List.take_append_of_le_length hk] at h ⊢
    exact h
  · have hmem : (a :: rest) ∈ (pre ++ (a :: rest) :: post).take k := by
      obtain ⟨j, rfl⟩ := Nat.exists_eq_add_of_lt (Nat.not_le.mp hk)
      rw [List.take_append, List.take_of_length_le (by omega),
        show pre.length + j + 1 - pre.length = j + 1 by omega, List.take_succ_cons]
      exact List.mem_append_right _ List.mem_cons_self
    cases List.flatten_eq_nil_iff.mp h _ hmem

theorem sound_step (h : Sound limit s) (hs : Step limit act s s') : Sound limit s' := by
  cases hs with
  | @work shared pre a rest post main =>
      have hlength : (pre ++ rest :: post).length = (pre ++ (a :: rest) :: post).length := by
        rw [List.length_append, List.length_append, List.length_cons, List.length_cons]
      obtain ⟨hle, hmain⟩ := h
      refine ⟨hlength ▸ hle, ?_⟩
      cases main with
      | loop todo => trivial
      | start task todo => exact hlength ▸ hmain
      | join k => exact ⟨hlength ▸ hmain.1, take_work hmain.2⟩
      | returned =>
          have hnil := List.flatten_eq_nil_iff.mp hmain (a :: rest)
            (List.mem_append_right _ List.mem_cons_self)
          cases hnil
  | room hne => exact ⟨h.1, Nat.lt_of_le_of_ne h.1 hne⟩
  | @wait shared threads task todo hfull =>
      have hlt : threads.length < limit := by omega
      exact ⟨Nat.le_of_lt hlt, hlt⟩
  | skip => exact ⟨h.1, trivial⟩
  | @spawn shared threads task todo =>
      have hlt : threads.length < limit := h.2
      refine ⟨?_, trivial⟩
      show (threads ++ [task]).length ≤ limit
      rw [List.length_append, List.length_singleton]
      exact hlt
  | joinAll => exact ⟨h.1, Nat.zero_le _, rfl⟩
  | @join shared threads k hdone =>
      obtain ⟨hk, hget⟩ := List.getElem?_eq_some_iff.mp hdone
      refine ⟨h.1, hk, ?_⟩
      show (threads.take (k + 1)).flatten = []
      rw [List.take_succ_eq_append_getElem hk, List.flatten_append, h.2.2, hget]
      rfl
  | @leave shared threads =>
      refine ⟨h.1, ?_⟩
      have hall := h.2.2
      rw [List.take_length] at hall
      exact hall

/-- **Never more threads than allowed.** -/
theorem bounded {shared : σ} {tasks : List (Option (List α))}
    (h : Reaches limit act (Pool.init shared tasks) s) : Sound limit s := by
  induction h with
  | refl => exact sound_init shared tasks
  | tail _ hs ih => exact sound_step ih hs

/-! ## 2. No thread waits for ever -/

/-- A thread works, or all are done. -/
theorem works_or_done (threads : List (List α)) :
    (∃ pre a rest post, threads = pre ++ (a :: rest) :: post) ∨ ∀ t ∈ threads, t = [] := by
  by_cases h : ∀ t ∈ threads, t = []
  · exact .inr h
  · obtain ⟨t, ht, hne⟩ : ∃ t ∈ threads, t ≠ [] := by simpa using h
    obtain ⟨pre, post, rfl⟩ := List.append_of_mem ht
    cases t with
    | nil => exact absurd rfl hne
    | cons a rest => exact .inl ⟨pre, a, rest, post, rfl⟩

/-- The tasks that are left are the last ones. -/
theorem tasks_suffix {shared : σ} {tasks : List (Option (List α))}
    (h : Reaches limit act (Pool.init shared tasks) s) : s.main.tasks <:+ tasks := by
  induction h with
  | refl => exact List.suffix_refl _
  | tail _ hs ih =>
      cases hs with
      | work => exact ih
      | room _ => exact ih
      | wait _ => exact ih
      | skip => exact (List.suffix_cons _ _).trans ih
      | spawn => exact (List.suffix_cons _ _).trans ih
      | joinAll => exact List.nil_suffix
      | join _ => exact List.nil_suffix
      | leave => exact List.nil_suffix

/-- **Progress**: as long as the main thread has not returned, somebody can go on -- unless a thread
    is to be started and there may be none. -/
theorem progress (hlimit : 0 < limit ∨ s.main.tasks = []) (h : Sound limit s) :
    s.main = .returned ∨ ∃ s', Step limit act s s' := by
  obtain ⟨shared, threads, main⟩ := s
  rcases works_or_done threads with ⟨pre, a, rest, post, rfl⟩ | hdone
  · exact .inr ⟨_, .work⟩
  · cases main with
    | loop todo =>
        refine .inr ?_
        cases todo with
        | nil => exact ⟨_, .joinAll⟩
        | cons task todo =>
            by_cases hfull : threads.length = limit
            · cases threads with
              | nil =>
                  have hzero : 0 = limit := hfull
                  rcases hlimit with hpos | hnone
                  · omega
                  · cases hnone
              | cons t threads =>
                  obtain rfl := hdone t List.mem_cons_self
                  exact ⟨_, .wait hfull⟩
            · exact ⟨_, .room hfull⟩
    | start task todo =>
        refine .inr ?_
        cases task with
        | none => exact ⟨_, .skip⟩
        | some task => exact ⟨_, .spawn⟩
    | join k =>
        refine .inr ?_
        have hk : k ≤ threads.length := h.2.1
        rcases Nat.lt_or_eq_of_le hk with hlt | rfl
        · refine ⟨_, .join ?_⟩
          rw [List.getElem?_eq_getElem hlt, hdone _ (List.getElem_mem hlt)]
        · exact ⟨_, .leave⟩
    | returned => exact .inl rfl

/-- How far the main thread is from its end. -/
def Main.left (threads : Nat) : Main α → Nat
  | .loop todo => 3 * todo.length + threads + 2
  | .start _ todo => 3 * todo.length + threads + 4
  | .join k => threads - k + 1
  | .returned => 0

/-- The actions and the steps of the main thread that are left. -/
def Pool.left (s : Pool σ α) : Nat := s.pending.length + s.main.left s.threads.length

theorem left_step (hs : Step limit act s s') : s'.left < s.left := by
  cases hs with
  | work =>
      simp only [Pool.left, Pool.pending, List.length_append, List.flatten_append,
        List.flatten_cons, List.length_cons]
      omega
  | room _ => simp only [Pool.left, Pool.pending, Main.tasks, Main.left, List.length_cons]; omega
  | wait _ =>
      simp only [Pool.left, Pool.pending, Main.tasks, Main.left, List.length_cons,
        List.flatten_cons, List.nil_append]
      omega
  | skip =>
      simp only [Pool.left, Pool.pending, Main.tasks, Main.left, actions, List.filterMap_cons, id]
      omega
  | spawn =>
      simp only [Pool.left, Pool.pending, Main.tasks, Main.left, actions, List.filterMap_cons, id,
        List.flatten_append, List.flatten_cons, List.flatten_nil, List.append_nil,
        List.length_append, List.length_singleton]
      omega
  | joinAll => simp only [Pool.left, Pool.pending, Main.tasks, Main.left, List.length_nil]; omega
  | join hdone =>
      obtain ⟨hk, _⟩ := List.getElem?_eq_some_iff.mp hdone
      simp only [Pool.left, Pool.pending, Main.tasks, Main.left]
      omega
  | leave => simp only [Pool.left, Pool.pending, Main.tasks, Main.left]; omega

/-- **Every run ends.** -/
theorem terminates (limit : Nat) (act : σ → α → σ) :
    WellFounded fun s' s : Pool σ α => Step limit act s s' :=
  Subrelation.wf (fun h => left_step h) (measure Pool.left).wf

/-! ## 3. What a run leaves -/

/-- A step leaves what is to come out at the end. -/
theorem run_pending_step (hcomm : ∀ a b s, act (act s a) b = act (act s b) a)
    (hs : Step limit act s s') :
    run act s'.shared s'.pending = run act s.shared s.pending := by
  cases hs with
  | @work shared pre a rest post main =>
      have hswap : act (run act shared pre.flatten) a = run act (act shared a) pre.flatten :=
        run_swap (fun b _ s => hcomm b a s) shared
      simp only [Pool.pending, List.flatten_append, List.flatten_cons, List.append_assoc,
        List.cons_append, run_append, run_cons]
      rw [hswap]
  | room _ => rfl
  | wait _ => rfl
  | skip => rfl
  | spawn =>
      simp only [Pool.pending, Main.tasks, actions, List.filterMap_cons, id, List.flatten_append,
        List.flatten_cons, List.flatten_nil, List.append_nil, List.append_assoc]
  | joinAll => rfl
  | join _ => rfl
  | leave => rfl

theorem run_pending (hcomm : ∀ a b s, act (act s a) b = act (act s b) a) {shared : σ}
    {tasks : List (Option (List α))} (h : Reaches limit act (Pool.init shared tasks) s) :
    run act s.shared s.pending = run act shared (actions tasks) := by
  induction h with
  | refl => rfl
  | tail _ hs ih => exact (run_pending_step hcomm hs).trans ih

/-- **The result**: behind every run that has returned the shared value is what the tasks leave in
    turn. -/
theorem result (hcomm : ∀ a b s, act (act s a) b = act (act s b) a) {shared : σ}
    {tasks : List (Option (List α))} (h : Reaches limit act (Pool.init shared tasks) s)
    (hdone : s.main = .returned) : s.shared = run act shared (actions tasks) := by
  have hrun := run_pending hcomm h
  have hsound := bounded h
  obtain ⟨value, threads, main⟩ := s
  obtain rfl : main = .returned := hdone
  have hnil : threads.flatten = [] := hsound.2
  have hpending : (⟨value, threads, .returned⟩ : Pool σ α).pending = [] := by
    rw [Pool.pending, hnil]
    rfl
  rw [hpending] at hrun
  exact hrun

end Pools

end DovecotCeph.Lib.ThreadPool
