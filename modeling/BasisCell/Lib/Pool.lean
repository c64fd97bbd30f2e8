import Mathlib.Data.List.Induction
import Mathlib.Data.List.Pairwise
import BasisCell.Lib.Prog
import BasisCell.Lib.Run

/-!
# `Lib.Pool` — pools of concurrent tasks over shared state

A server as a pool of tasks. A task is spawned under a tag, which fixes the program it runs; it then takes
one operation on the shared state at a time, in any interleaving with the others, and stays in the pool with
its reply once it has returned. A suspended task may be dropped at any point, and the whole process may
crash, which loses every suspended task and whatever part of the shared state is not durable.

`Machine.step` is executable, so that a run can be replayed; `Machine.Step` is its inversion. A property of
all runs is an invariant of `Step` (`run_invariant`), for those runs whose every event meets a condition
(`Along`).

Proofs about all interleavings go through an `Outline`, a proof outline per program: every tag has a
protocol, every phase of it an assertion on the shared state and on an auxiliary variable, and there is one
invariant beside them. A `Outline` is an outline whose auxiliary variable is a history: it knows which task
acts, and the statement that is proved may speak about it. The obligations are local: an allowed operation
carries its own task's assertion to the next phase, keeps the invariant, and keeps the assertions of every task
that may run beside it.

## Contents
- `Machine`, `Config`, `Event`, `step`, and the inversion `step_cases`; runs are those of `Lib.Run`.
- `run_invariant`, `along_of_invariant`: what one step preserves, a run preserves.
- `watched`: a pool with a history variable.
- `Discipline`: a protocol for every tag.
- `Outline`, `Outline.Sound`, `Outline.annotated_step`, `Outline.annotated_run`: outlines with a history.
- `Outline`, `Outline.Sound`, `Outline.annotated_step`, `Outline.annotated_run`: the history left open.
- `Layer`: an outline on top of another one, with its own obligations only.
-/

namespace Conc

open List Transition

variable {Tag Op : Type} {Resp : Op → Type} {σ α Phase : Type}

/-- What tasks run and what their operations do. -/
structure Machine (Tag Op : Type) (Resp : Op → Type) (σ α : Type) where
  exec : (o : Op) → σ → σ × Resp o
  body : Tag → Prog Op Resp α
  /-- May a task be spawned under this tag, given the tags spawned so far? -/
  fresh : List Tag → Tag → Bool
  /-- What a crash leaves of the shared state. -/
  reboot : σ → σ

structure Task (Tag Op : Type) (Resp : Op → Type) (α : Type) where
  tag : Tag
  prog : Prog Op Resp α

/-- Shared state, the pool, and every tag ever spawned. -/
structure Config (Tag Op : Type) (Resp : Op → Type) (σ α : Type) where
  shared : σ
  tasks : List (Task Tag Op Resp α)
  started : List Tag

/-- What the environment or the scheduler does next. -/
inductive Event (Tag : Type) where
  | spawn (t : Tag)
  | step (i : Nat)
  | drop (i : Nat)
  | crash

namespace Config

/-- The operation an event is about to run, and the task it belongs to. -/
def nextOp (c : Config Tag Op Resp σ α) : Event Tag → Option (Tag × Op)
  | .step i =>
    match c.tasks[i]? with
    | some ⟨t, .call o _⟩ => some (t, o)
    | _ => none
  | _ => none

end Config

namespace Machine

variable (M : Machine Tag Op Resp σ α)

def step (c : Config Tag Op Resp σ α) : Event Tag → Option (Config Tag Op Resp σ α)
  | .spawn t =>
    if M.fresh c.started t then some ⟨c.shared, c.tasks ++ [⟨t, M.body t⟩], t :: c.started⟩ else none
  | .step i =>
    match c.tasks[i]? with
    | some ⟨t, .call o k⟩ =>
      some ⟨(M.exec o c.shared).1, c.tasks.set i ⟨t, k (M.exec o c.shared).2⟩, c.started⟩
    | _ => none
  | .drop i =>
    match c.tasks[i]? with
    | some ⟨_, .call _ _⟩ => some ⟨c.shared, c.tasks.eraseIdx i, c.started⟩
    | _ => none
  | .crash => some ⟨M.reboot c.shared, c.tasks.filter fun task => task.prog.finished, c.started⟩

abbrev run (c : Config Tag Op Resp σ α) (es : List (Event Tag)) : Option (Config Tag Op Resp σ α) :=
  Transition.run M.step c es

abbrev after (c : Config Tag Op Resp σ α) (es : List (Event Tag)) : Config Tag Op Resp σ α :=
  Transition.after M.step c es

abbrev Along (C : Config Tag Op Resp σ α → Event Tag → Prop) (c : Config Tag Op Resp σ α) (es : List (Event Tag)) :
    Prop :=
  Transition.Along M.step C c es

/-- The transitions of a pool, with the stepped task picked out of the list. -/
inductive Step : Config Tag Op Resp σ α → Event Tag → Config Tag Op Resp σ α → Prop
  | spawn {s : σ} {tasks : List (Task Tag Op Resp α)} {started : List Tag} {t : Tag}
      (h : M.fresh started t = true) :
      Step ⟨s, tasks, started⟩ (.spawn t) ⟨s, tasks ++ [⟨t, M.body t⟩], t :: started⟩
  | exec {s : σ} {pre post : List (Task Tag Op Resp α)} {started : List Tag} {t : Tag} {o : Op}
      {k : Resp o → Prog Op Resp α} :
      Step ⟨s, pre ++ ⟨t, .call o k⟩ :: post, started⟩ (.step pre.length)
        ⟨(M.exec o s).1, pre ++ ⟨t, k (M.exec o s).2⟩ :: post, started⟩
  | drop {s : σ} {pre post : List (Task Tag Op Resp α)} {started : List Tag} {t : Tag} {o : Op}
      {k : Resp o → Prog Op Resp α} :
      Step ⟨s, pre ++ ⟨t, .call o k⟩ :: post, started⟩ (.drop pre.length) ⟨s, pre ++ post, started⟩
  | crash {s : σ} {tasks : List (Task Tag Op Resp α)} {started : List Tag} :
      Step ⟨s, tasks, started⟩ .crash
        ⟨M.reboot s, tasks.filter fun task => task.prog.finished, started⟩

variable {M} {c c' c₀ : Config Tag Op Resp σ α} {e : Event Tag} {es : List (Event Tag)}
variable {C : Config Tag Op Resp σ α → Event Tag → Prop}

variable {β : Type} {i : Nat} {es' : List (Event Tag)} {J : Config Tag Op Resp σ α → Prop}

theorem split_at {l : List β} {b : β} (h : l[i]? = some b) : ∃ pre post, l = pre ++ b :: post ∧ i = pre.length := by
  obtain ⟨hi, rfl⟩ := List.getElem?_eq_some_iff.mp h
  refine ⟨l.take i, l.drop (i + 1), ?_, (length_take_of_le (Nat.le_of_lt hi)).symm⟩
  rw [getElem_cons_drop, take_append_drop]

@[simp] theorem nextOp_exec {s : σ} {pre post : List (Task Tag Op Resp α)} {started : List Tag} {t : Tag}
    {o : Op} {k : Resp o → Prog Op Resp α} :
    (Config.mk s (pre ++ ⟨t, .call o k⟩ :: post) started).nextOp (.step pre.length) = some (t, o) := by
  simp [Config.nextOp]

theorem mem_of_nextOp {t : Tag} {o : Op} (h : c.nextOp e = some (t, o)) : ∃ k, ⟨t, .call o k⟩ ∈ c.tasks := by
  cases e with
  | step i =>
    simp only [Config.nextOp] at h
    split at h <;> cases h
    exact ⟨_, mem_of_getElem? ‹_›⟩
  | _ => cases h

theorem nextOp_of_getElem? {t : Tag} {o : Op} {k : Resp o → Prog Op Resp α}
    (h : c.tasks[i]? = some ⟨t, .call o k⟩) : c.nextOp (.step i) = some (t, o) := by
  simp only [Config.nextOp, h]

/-- A task beside the one at `i`, with its own position. -/
theorem exists_nextOp_of_mem_eraseIdx {t : Tag} {o : Op} {k : Resp o → Prog Op Resp α}
    (h : ⟨t, .call o k⟩ ∈ c.tasks.eraseIdx i) :
    ∃ j, j < c.tasks.length ∧ j ≠ i ∧ c.nextOp (.step j) = some (t, o) := by
  obtain ⟨j, hne, hj⟩ := mem_eraseIdx_iff_getElem?.mp h
  exact ⟨j, (List.getElem?_eq_some_iff.mp hj).1, hne, nextOp_of_getElem? hj⟩

/-- At the position, or beside it. -/
theorem mem_middle {pre post : List β} {a b : β} : a ∈ pre ++ b :: post ↔ a = b ∨ a ∈ pre ++ post := by
  rw [perm_middle.mem_iff, mem_cons]

theorem eraseIdx_middle {pre post : List β} {b : β} : (pre ++ b :: post).eraseIdx pre.length = pre ++ post := by
  rw [eraseIdx_append_of_length_le (Nat.le_refl _), Nat.sub_self, eraseIdx_cons_zero]

section Replaced

variable {pre post : List (Task Tag Op Resp α)} {t : Tag} {p p' : Prog Op Resp α}

theorem forall_replaced {P : Tag → Prop} (h : ∀ task ∈ pre ++ ⟨t, p⟩ :: post, P task.tag) :
    ∀ task ∈ pre ++ ⟨t, p'⟩ :: post, P task.tag := by
  rw [forall_mem_append, forall_mem_cons] at h ⊢
  exact h

theorem pairwise_replaced {R : Tag → Tag → Prop} (h : (pre ++ ⟨t, p⟩ :: post).Pairwise fun a b => R a.tag b.tag) :
    (pre ++ ⟨t, p'⟩ :: post).Pairwise fun a b => R a.tag b.tag := by
  rw [← pairwise_map, map_append, map_cons] at h ⊢
  exact h

end Replaced

/-- **Inversion of `step`.** -/
theorem step_cases (h : M.step c e = some c') : M.Step c e c' := by
  obtain ⟨s, tasks, started⟩ := c
  cases e with
  | spawn t =>
    simp only [step] at h
    split at h <;> cases h
    exact .spawn ‹_›
  | step i =>
    simp only [step] at h
    split at h <;> cases h
    rename_i t o k hi
    obtain ⟨pre, post, rfl, rfl⟩ := split_at hi
    rw [set_append_right _ _ (Nat.le_refl _), Nat.sub_self, set_cons_zero]
    exact .exec
  | drop i =>
    simp only [step] at h
    split at h <;> cases h
    rename_i t o k hi
    obtain ⟨pre, post, rfl, rfl⟩ := split_at hi
    rw [eraseIdx_middle]
    exact .drop
  | crash =>
    cases h
    exact .crash

/-- **What every step preserves, every run preserves.** -/
theorem run_invariant (hstep : ∀ {c e c'}, J c → C c e → M.Step c e c' → J c')
    (hc : J c) (hal : M.Along C c es) (hrun : M.run c es = some c') : J c' :=
  Transition.run_invariant (fun hJ hC h => hstep hJ hC (step_cases h)) hc hal hrun

/-- **What holds of every task by itself**: of every body, and from each operation to what follows it. -/
theorem forall_tasks_step {P : Task Tag Op Resp α → Prop} (hspawn : ∀ t, P ⟨t, M.body t⟩)
    (hexec : ∀ {t o k}, P ⟨t, .call o k⟩ → ∀ r, P ⟨t, k r⟩) (hc : ∀ task ∈ c.tasks, P task) (h : M.Step c e c') :
    ∀ task ∈ c'.tasks, P task := by
  intro task htask
  cases h with
  | spawn =>
    rcases mem_append.mp htask with htask | htask
    · exact hc task htask
    · rw [mem_singleton.mp htask]
      exact hspawn _
  | exec =>
    rcases mem_middle.mp htask with rfl | htask
    · exact hexec (hc _ (mem_middle.mpr (.inl rfl))) _
    · exact hc task (mem_middle.mpr (.inr htask))
  | drop => exact hc task (mem_middle.mpr (.inr htask))
  | crash => exact hc task (mem_filter.mp htask).1

/-- Tags are only ever added. -/
theorem started_of_run (hrun : M.run c es = some c') : ∀ t ∈ c.started, t ∈ c'.started := by
  intro t ht
  refine run_invariant (C := fun _ _ => True) (J := fun c => t ∈ c.started) (fun hmem _ hstep => ?_) ht
    (along_of_forall fun _ _ => trivial) hrun
  cases hstep with
  | spawn => exact mem_cons_of_mem _ hmem
  | exec | drop | crash => exact hmem

/-- Stepping keeps every task in its place. -/
theorem tags_of_steps (hsteps : ∀ e ∈ es, ∃ i, e = .step i) (hrun : M.run c es = some c') :
    c'.tasks.map (·.tag) = c.tasks.map (·.tag) := by
  induction es generalizing c with
  | nil =>
    cases hrun
    rfl
  | cons e es ih =>
    obtain ⟨c₁, h₁, hrest⟩ := Option.bind_eq_some_iff.mp hrun
    obtain ⟨i, rfl⟩ := hsteps e mem_cons_self
    rw [ih (fun e' he' => hsteps e' (mem_cons_of_mem _ he')) hrest]
    cases step_cases h₁ with
    | exec => rw [map_append, map_append, map_cons, map_cons]

/-! ### Fair schedules -/

/-- The events of a process that neither cancels a task nor crashes. -/
def proceeds : Event Tag → Bool
  | .spawn _ => true
  | .step _ => true
  | _ => false

/-- Then every task that was spawned stays in the pool, in the order of their spawning. -/
theorem tags_of_proceeds (hproceeds : ∀ e ∈ es, proceeds e = true) (hrun : M.run c es = some c')
    (hc : c.tasks.map (·.tag) = c.started.reverse) : c'.tasks.map (·.tag) = c'.started.reverse := by
  induction es generalizing c with
  | nil =>
    cases hrun
    exact hc
  | cons e es ih =>
    obtain ⟨c₁, h₁, hrest⟩ := Option.bind_eq_some_iff.mp hrun
    have he := hproceeds e mem_cons_self
    refine ih (fun e' he' => hproceeds e' (mem_cons_of_mem _ he')) hrest ?_
    cases step_cases h₁ with
    | spawn => simp [hc]
    | exec =>
      rw [← hc]
      simp
    | drop | crash => cases he

/-- A task stays as it is while others move. -/
theorem getElem?_of_other {task : Task Tag Op Resp α} (he : proceeds e = true) (hne : e ≠ .step i)
    (hstep : M.step c e = some c') (htask : c.tasks[i]? = some task) : c'.tasks[i]? = some task := by
  cases e with
  | spawn t =>
    simp only [step] at hstep
    split at hstep <;> cases hstep
    rw [List.getElem?_append_left (List.getElem?_eq_some_iff.mp htask).1]
    exact htask
  | step j =>
    simp only [step] at hstep
    split at hstep <;> cases hstep
    have hij : j ≠ i := fun h => hne (by rw [h])
    exact (List.getElem?_set_ne hij).trans htask
  | drop j | crash => cases he

/-- **A task that is never kept waiting returns.** It is scheduled again and again, and every time it takes
    its next operation; its program is finite, whatever the responses are. -/
theorem returns_of_fair {x : Nat → Config Tag Op Resp σ α} {ev : Nat → Event Tag} {t : Tag}
    (hown : ∀ n o k, ev n = .step i → (x n).tasks[i]? = some ⟨t, .call o k⟩ →
      ∃ r, (x (n + 1)).tasks[i]? = some ⟨t, k r⟩)
    (hother : ∀ n task, ev n ≠ .step i → (x n).tasks[i]? = some task → (x (n + 1)).tasks[i]? = some task)
    (hfair : ∀ n, ∃ m, n ≤ m ∧ ev m = .step i) (prog : Prog Op Resp α) :
    ∀ n, (x n).tasks[i]? = some ⟨t, prog⟩ → ∃ m a, (x m).tasks[i]? = some ⟨t, .ret a⟩ := by
  induction prog with
  | ret a => exact fun n htask => ⟨n, a, htask⟩
  | call o k ih =>
    intro n htask
    -- it waits where it is until it is scheduled
    have hnext : ∀ d n, ev (n + d) = .step i → (x n).tasks[i]? = some ⟨t, .call o k⟩ →
        ∃ m r, (x m).tasks[i]? = some ⟨t, k r⟩ := by
      intro d
      induction d with
      | zero =>
        intro n hev htask
        obtain ⟨r, hr⟩ := hown n o k hev htask
        exact ⟨n + 1, r, hr⟩
      | succ d ihd =>
        intro n hev htask
        by_cases hnow : ev n = .step i
        · obtain ⟨r, hr⟩ := hown n o k hnow htask
          exact ⟨n + 1, r, hr⟩
        · refine ihd (n + 1) ?_ (hother n _ hnow htask)
          rwa [Nat.add_assoc, Nat.add_comm 1 d]
    obtain ⟨m, hle, hev⟩ := hfair n
    obtain ⟨m', r, hr⟩ := hnext (m - n) n (by rwa [Nat.add_sub_cancel' hle]) htask
    exact ih r m' hr

/-- **A property of single events, along a run.** It holds at every event if the invariant gives it there. -/
theorem along_of_invariant {P : Config Tag Op Resp σ α → Event Tag → Prop}
    (hstep : ∀ {c e c'}, J c → C c e → M.Step c e c' → J c') (hP : ∀ {c e}, J c → C c e → P c e)
    (hc : J c) (hal : M.Along C c es) : M.Along P c es :=
  Transition.along_of_invariant (fun hJ hC h => hstep hJ hC (step_cases h)) hP hc hal

/-! ### Histories -/

section Watched

variable {Γ : Type} {note : Γ → Config Tag Op Resp σ α → Event Tag → Γ} {γ γ' : Γ}

/-- The pool with a history beside it, which every event may extend and no task can read. -/
def watched (M : Machine Tag Op Resp σ α) (note : Γ → Config Tag Op Resp σ α → Event Tag → Γ)
    (x : Γ × Config Tag Op Resp σ α) (e : Event Tag) : Option (Γ × Config Tag Op Resp σ α) :=
  (M.step x.2 e).map fun c' => (note x.1 x.2 e, c')

theorem watched_cases (h : M.watched note (γ, c) e = some (γ', c')) : γ' = note γ c e ∧ M.Step c e c' := by
  obtain ⟨c₁, hstep, heq⟩ := Option.map_eq_some_iff.mp h
  cases heq
  exact ⟨rfl, step_cases hstep⟩

end Watched

end Machine

/-! ## Disciplined pools -/

/-- A protocol for every tag, with its first phase and the phases it may return in. -/
structure Discipline (Tag Op : Type) (Resp : Op → Type) (α Phase : Type) where
  protocol : Tag → Protocol Op Resp Phase
  start : Tag → Phase
  ends : Tag → Phase → α → Prop

namespace Discipline

variable (D : Discipline Tag Op Resp α Phase) (M : Machine Tag Op Resp σ α)

/-- The task is in phase `g` of its protocol. -/
def At (task : Task Tag Op Resp α) (g : Phase) : Prop :=
  (D.protocol task.tag).Follows (D.ends task.tag) task.prog g

/-- Every task starts in its first phase. -/
def Governs : Prop := ∀ t, D.At ⟨t, M.body t⟩ (D.start t)

variable {D} {M} {c c' : Config Tag Op Resp σ α} {e : Event Tag}

/-- Tasks stay in their protocols. -/
theorem Governs.phases_step (hD : D.Governs M) (hc : ∀ task ∈ c.tasks, ∃ g, D.At task g) (h : M.Step c e c') :
    ∀ task ∈ c'.tasks, ∃ g, D.At task g :=
  Machine.forall_tasks_step (fun t => ⟨_, hD t⟩) (fun ⟨_, hat⟩ r => ⟨_, hat.2 r⟩) hc h

end Discipline

/-! ## Outlines -/

/-- Assertions for the phases of a discipline beside an invariant that may look at all tags spawned. Both may
    speak about an auxiliary variable, which operations update and no task can read. -/
structure Outline (Tag Op : Type) (Resp : Op → Type) (σ Phase Γ : Type) where
  aux : Γ → Tag → (o : Op) → Resp o → Γ
  inv : List Tag → Γ → σ → Prop
  holds : Tag → Phase → Γ → σ → Prop
  /-- May two tasks under these tags be in the pool together? -/
  apart : Tag → Tag → Prop

namespace Outline

variable {Γ : Type} (A : Outline Tag Op Resp σ Phase Γ) (D : Discipline Tag Op Resp α Phase)
variable (M : Machine Tag Op Resp σ α) (C : Config Tag Op Resp σ α → Event Tag → Prop)

/-- The invariant holds, and every task is in a phase whose assertion holds. -/
structure Annotated (c : Config Tag Op Resp σ α) (γ : Γ) : Prop where
  inv : A.inv c.started γ c.shared
  known : ∀ task ∈ c.tasks, task.tag ∈ c.started
  apart : c.tasks.Pairwise fun a b => A.apart a.tag b.tag
  phases : ∀ task ∈ c.tasks, ∃ g, D.At task g ∧ A.holds task.tag g γ c.shared

/-- Task `i`, spawned under `t` and in phase `g`, is about to run operation `o`. -/
structure Fires (c : Config Tag Op Resp σ α) (γ : Γ) (i : Nat) (t : Tag) (g : Phase) (o : Op) : Prop where
  op : c.nextOp (.step i) = some (t, o)
  cond : C c (.step i)
  known : t ∈ c.started
  pool : ∀ task ∈ c.tasks, task.tag ∈ c.started
  inv : A.inv c.started γ c.shared
  holds : A.holds t g γ c.shared
  allowed : (D.protocol t).allows g o

/-- The proof obligations, for runs whose events meet `C`. -/
structure Sound : Prop where
  governs : D.Governs M
  symm : ∀ {t t'}, A.apart t t' → A.apart t' t
  spawn : ∀ {started γ s t}, M.fresh started t = true → A.inv started γ s →
    A.inv (t :: started) γ s ∧ A.holds t (D.start t) γ s ∧ ∀ t' ∈ started, A.apart t' t
  exec : ∀ {c γ i t g o}, A.Fires D C c γ i t g o →
    A.inv c.started (A.aux γ t o (M.exec o c.shared).2) (M.exec o c.shared).1 ∧
    A.holds t ((D.protocol t).next g o (M.exec o c.shared).2) (A.aux γ t o (M.exec o c.shared).2)
      (M.exec o c.shared).1
  /-- What another task asserts survives the step. -/
  frame : ∀ {c γ i t g o task g'}, A.Fires D C c γ i t g o → task ∈ c.tasks.eraseIdx i →
    A.apart t task.tag → D.At task g' → A.holds task.tag g' γ c.shared →
    A.holds task.tag g' (A.aux γ t o (M.exec o c.shared).2) (M.exec o c.shared).1
  reboot : ∀ {started γ s}, A.inv started γ s → A.inv started γ (M.reboot s)
  reboot_holds : ∀ {t g γ s}, A.holds t g γ s → A.holds t g γ (M.reboot s)

/-- The auxiliary variable after an event. -/
def watch (γ : Γ) (c : Config Tag Op Resp σ α) : Event Tag → Γ
  | .step i =>
    match c.tasks[i]? with
    | some ⟨t, .call o _⟩ => A.aux γ t o (M.exec o c.shared).2
    | _ => γ
  | _ => γ

variable {A D M C} {c c' : Config Tag Op Resp σ α} {γ : Γ} {e : Event Tag} {es : List (Event Tag)}
variable {s : σ} {pre post tasks : List (Task Tag Op Resp α)} {started : List Tag} {t : Tag} {o : Op}
variable {k : Resp o → Prog Op Resp α} {task other : Task Tag Op Resp α}

@[simp] theorem watch_exec :
    A.watch M γ ⟨s, pre ++ ⟨t, .call o k⟩ :: post, started⟩ (.step pre.length) = A.aux γ t o (M.exec o s).2 := by
  simp [watch]

/-- A task joins the pool. -/
theorem Annotated.join (hc : A.Annotated D ⟨s, tasks, started⟩ γ) (hstart : D.At ⟨t, M.body t⟩ (D.start t))
    (hspawn : A.inv (t :: started) γ s ∧ A.holds t (D.start t) γ s ∧ ∀ t' ∈ started, A.apart t' t) :
    A.Annotated D ⟨s, tasks ++ [⟨t, M.body t⟩], t :: started⟩ γ := by
  obtain ⟨hinv, hholds, hapart⟩ := hspawn
  refine ⟨hinv, ?_, ?_, ?_⟩
  · intro task htask
    rcases mem_append.mp htask with h | h
    · exact mem_cons_of_mem _ (hc.known task h)
    · rw [mem_singleton.mp h]
      exact mem_cons_self
  · refine pairwise_append.mpr ⟨hc.apart, pairwise_singleton _ _, fun a ha b hb => ?_⟩
    rw [mem_singleton.mp hb]
    exact hapart _ (hc.known a ha)
  · intro task htask
    rcases mem_append.mp htask with h | h
    · exact hc.phases task h
    · rw [mem_singleton.mp h]
      exact ⟨_, hstart, hholds⟩

theorem annotated_spawn (hA : A.Sound D M C) (hc : A.Annotated D ⟨s, tasks, started⟩ γ)
    (hfresh : M.fresh started t = true) :
    A.Annotated D ⟨s, tasks ++ [⟨t, M.body t⟩], t :: started⟩ γ :=
  hc.join (hA.governs t) (hA.spawn hfresh hc.inv)

/-- The phase of a task that is about to run an operation, and where each response takes it. -/
theorem Annotated.fires (hc : A.Annotated D ⟨s, pre ++ ⟨t, .call o k⟩ :: post, started⟩ γ)
    (hC : C ⟨s, pre ++ ⟨t, .call o k⟩ :: post, started⟩ (.step pre.length)) :
    ∃ g, A.Fires D C ⟨s, pre ++ ⟨t, .call o k⟩ :: post, started⟩ γ pre.length t g o ∧
      ∀ r, D.At ⟨t, k r⟩ ((D.protocol t).next g o r) := by
  have hmem : (⟨t, .call o k⟩ : Task Tag Op Resp α) ∈ pre ++ ⟨t, .call o k⟩ :: post :=
    mem_append_right _ mem_cons_self
  obtain ⟨g, ⟨hallow, hcont⟩, hholds⟩ := hc.phases _ hmem
  exact ⟨g, ⟨Machine.nextOp_exec, hC, hc.known _ hmem, hc.known, hc.inv, hholds, hallow⟩, hcont⟩

/-- The tasks beside the stepped one are apart from it. -/
theorem Annotated.apart_others (hsymm : ∀ {t t'}, A.apart t t' → A.apart t' t)
    (hc : A.Annotated D ⟨s, pre ++ task :: post, started⟩ γ) (h : other ∈ pre ++ post) :
    A.apart task.tag other.tag := by
  obtain ⟨-, hpost, hcross⟩ := pairwise_append.mp hc.apart
  rcases mem_append.mp h with h | h
  · exact hsymm (hcross other h _ mem_cons_self)
  · exact (pairwise_cons.mp hpost).1 other h

theorem annotated_exec (hA : A.Sound D M C)
    (hc : A.Annotated D ⟨s, pre ++ ⟨t, .call o k⟩ :: post, started⟩ γ)
    (hC : C ⟨s, pre ++ ⟨t, .call o k⟩ :: post, started⟩ (.step pre.length)) :
    A.Annotated D ⟨(M.exec o s).1, pre ++ ⟨t, k (M.exec o s).2⟩ :: post, started⟩
      (A.aux γ t o (M.exec o s).2) := by
  obtain ⟨g, hfires, hcont⟩ := hc.fires hC
  obtain ⟨hinv', hholds'⟩ := hA.exec hfires
  -- the others keep their phase; what they assert survives because they are apart from the stepped task
  have others : ∀ task ∈ pre ++ post, ∃ g', D.At task g' ∧
      A.holds task.tag g' (A.aux γ t o (M.exec o s).2) (M.exec o s).1 := by
    intro task htask
    have hsub := (sublist_cons_self (⟨t, .call o k⟩ : Task Tag Op Resp α) post).append_left pre
    obtain ⟨g', hat, hg'⟩ := hc.phases task (hsub.subset htask)
    have hapart : A.apart t task.tag := hc.apart_others hA.symm htask
    exact ⟨g', hat, hA.frame hfires (by rwa [Machine.eraseIdx_middle]) hapart hat hg'⟩
  refine ⟨hinv', Machine.forall_replaced hc.known, Machine.pairwise_replaced hc.apart, ?_⟩
  intro task htask
  rcases Machine.mem_middle.mp htask with rfl | h
  · exact ⟨_, hcont _, hholds'⟩
  · exact others task h

/-- **One step, with what it does to the auxiliary variable.** -/
theorem annotated_step (hA : A.Sound D M C) (hc : A.Annotated D c γ) (hC : C c e) (h : M.Step c e c') :
    A.Annotated D c' (A.watch M γ c e) := by
  cases h with
  | spawn hfresh => exact annotated_spawn hA hc hfresh
  | exec =>
    rw [watch_exec]
    exact annotated_exec hA hc hC
  | @drop s pre post started t o k =>
    have hsub : (pre ++ post).Sublist (pre ++ ⟨t, .call o k⟩ :: post) :=
      (sublist_cons_self _ _).append_left pre
    exact ⟨hc.inv, fun task h => hc.known task (hsub.subset h), hc.apart.sublist hsub,
      fun task h => hc.phases task (hsub.subset h)⟩
  | crash =>
    refine ⟨hA.reboot hc.inv, fun task h => hc.known task (mem_filter.mp h).1,
      hc.apart.sublist filter_sublist, fun task h => ?_⟩
    obtain ⟨g, hat, hg⟩ := hc.phases task (mem_filter.mp h).1
    exact ⟨g, hat, hA.reboot_holds hg⟩

/-- **One step, when spawning and crashing have conditions too.** The tasks are sound by themselves, in the
    machine that neither spawns nor loses anything. -/
theorem annotated_guarded (hA : A.Sound D { M with fresh := fun _ _ => false, reboot := id } C)
    (hspawn : ∀ {c γ t}, A.Annotated D c γ → C c (.spawn t) → M.fresh c.started t = true →
      A.inv (t :: c.started) γ c.shared ∧ A.holds t (D.start t) γ c.shared ∧ ∀ t' ∈ c.started, A.apart t' t)
    (hcrash : ∀ {c γ}, A.Annotated D c γ → C c .crash → A.inv c.started γ (M.reboot c.shared) ∧
      ∀ task ∈ c.tasks, task.prog.finished = true → ∀ g, D.At task g → A.holds task.tag g γ c.shared →
        A.holds task.tag g γ (M.reboot c.shared))
    (hc : A.Annotated D c γ) (hC : C c e) (h : M.Step c e c') : ∃ γ', A.Annotated D c' γ' := by
  cases h with
  | spawn hfresh => exact ⟨γ, hc.join (hA.governs _) (hspawn hc hC hfresh)⟩
  | exec =>
    have hafter := annotated_exec hA hc hC
    exact ⟨_, hafter⟩
  | drop => exact ⟨_, annotated_step hA hc hC .drop⟩
  | crash =>
    obtain ⟨hinv, hholds⟩ := hcrash hc hC
    refine ⟨γ, hinv, fun task h => hc.known task (mem_filter.mp h).1, hc.apart.sublist filter_sublist, ?_⟩
    intro task h
    obtain ⟨hmem, hfinished⟩ := mem_filter.mp h
    obtain ⟨g, hat, hg⟩ := hc.phases task hmem
    exact ⟨g, hat, hholds task hmem hfinished g hat hg⟩

theorem annotated_empty (h : A.inv [] γ s) : A.Annotated D (⟨s, [], []⟩ : Config Tag Op Resp σ α) γ :=
  ⟨h, forall_mem_nil _, List.Pairwise.nil, forall_mem_nil _⟩

/-- **Outlines are sound along runs**, whatever becomes of the auxiliary variable. -/
theorem annotated_run (hA : A.Sound D M C) (hc : A.Annotated D c γ) (hal : M.Along C c es)
    (hrun : M.run c es = some c') : ∃ γ', A.Annotated D c' γ' :=
  Machine.run_invariant (J := fun c => ∃ γ, A.Annotated D c γ)
    (fun ⟨_, hc⟩ hC h => ⟨_, annotated_step hA hc hC h⟩) ⟨γ, hc⟩ hal hrun

/-- **Along watched runs** the auxiliary variable is the one that the pool has written. -/
theorem annotated_watched {γ' : Γ} (hA : A.Sound D M C) (hc : A.Annotated D c γ)
    (hal : Along (M.watched (A.watch M)) (fun x e => C x.2 e) (γ, c) es)
    (hrun : run (M.watched (A.watch M)) (γ, c) es = some (γ', c')) : A.Annotated D c' γ' := by
  refine run_invariant (J := fun x => A.Annotated D x.2 x.1) (fun hx hC hstep => ?_) hc hal hrun
  obtain ⟨hnote, hstep⟩ := Machine.watched_cases hstep
  rw [hnote]
  exact annotated_step hA hx hC hstep

end Outline

/-! ## Layers -/

/-- More assertions over the same auxiliary variable, to be read together with an outline. -/
structure Layer (Tag σ Phase Γ : Type) where
  inv : List Tag → Γ → σ → Prop
  holds : Tag → Phase → Γ → σ → Prop

/-- The outline that asserts the layer too. -/
def Outline.layered {Γ : Type} (A : Outline Tag Op Resp σ Phase Γ) (B : Layer Tag σ Phase Γ) :
    Outline Tag Op Resp σ Phase Γ where
  aux := A.aux
  inv := fun started γ s => A.inv started γ s ∧ B.inv started γ s
  holds := fun t g γ s => A.holds t g γ s ∧ B.holds t g γ s
  apart := A.apart

namespace Layer

variable {Γ : Type} (B : Layer Tag σ Phase Γ) (A : Outline Tag Op Resp σ Phase Γ)
variable (D : Discipline Tag Op Resp α Phase) (M : Machine Tag Op Resp σ α)
variable (C : Config Tag Op Resp σ α → Event Tag → Prop)

/-- The obligations a layer adds; each may use what the outline below asserts. -/
structure SoundOver : Prop where
  spawn : ∀ {started γ s t}, M.fresh started t = true → (A.layered B).inv started γ s →
    B.inv (t :: started) γ s ∧ B.holds t (D.start t) γ s
  exec : ∀ {c γ i t g o}, (A.layered B).Fires D C c γ i t g o →
    B.inv c.started (A.aux γ t o (M.exec o c.shared).2) (M.exec o c.shared).1 ∧
    B.holds t ((D.protocol t).next g o (M.exec o c.shared).2) (A.aux γ t o (M.exec o c.shared).2)
      (M.exec o c.shared).1
  frame : ∀ {c γ i t g o task g'}, (A.layered B).Fires D C c γ i t g o → task ∈ c.tasks.eraseIdx i →
    A.apart t task.tag → D.At task g' → (A.layered B).holds task.tag g' γ c.shared →
    B.holds task.tag g' (A.aux γ t o (M.exec o c.shared).2) (M.exec o c.shared).1
  reboot : ∀ {started γ s}, B.inv started γ s → B.inv started γ (M.reboot s)
  reboot_holds : ∀ {t g γ s}, B.holds t g γ s → B.holds t g γ (M.reboot s)

variable {A B D M C}

/-- What a layered outline knows about an event, the outline below knows. -/
theorem base_fires {c : Config Tag Op Resp σ α} {γ : Γ} {i : Nat} {t : Tag} {g : Phase} {o : Op}
    (h : (A.layered B).Fires D C c γ i t g o) : A.Fires D C c γ i t g o :=
  ⟨h.op, h.cond, h.known, h.pool, h.inv.1, h.holds.1, h.allowed⟩

/-- **Outlines are built up in layers.** -/
theorem SoundOver.sound (hB : B.SoundOver A D M C) (hA : A.Sound D M C) : (A.layered B).Sound D M C where
  governs := hA.governs
  symm := hA.symm
  spawn := by
    intro started γ s t hfresh hinv
    obtain ⟨hinvA, hholdsA, hapart⟩ := hA.spawn hfresh hinv.1
    obtain ⟨hinvB, hholdsB⟩ := hB.spawn hfresh hinv
    exact ⟨⟨hinvA, hinvB⟩, ⟨hholdsA, hholdsB⟩, hapart⟩
  exec := by
    intro c γ i t g o hfires
    obtain ⟨hinvA, hholdsA⟩ := hA.exec (base_fires hfires)
    obtain ⟨hinvB, hholdsB⟩ := hB.exec hfires
    exact ⟨⟨hinvA, hinvB⟩, hholdsA, hholdsB⟩
  frame := by
    intro c γ i t g o task g' hfires htask hapart hat hholds
    exact ⟨hA.frame (base_fires hfires) htask hapart hat hholds.1, hB.frame hfires htask hapart hat hholds⟩
  reboot := fun h => ⟨hA.reboot h.1, hB.reboot h.2⟩
  reboot_holds := fun h => ⟨hA.reboot_holds h.1, hB.reboot_holds h.2⟩

end Layer

end Conc
