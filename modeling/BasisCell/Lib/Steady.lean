import BasisCell.Lib.Pool

/-!
# `Lib.Steady` — programs whose result does not depend on the company they run in

A program may find the shared state changed at every operation. If all that others do keeps an invariant `J`, the
most that it can rely on is `J`, and in return its own operations have to keep `J`. `Steady` is that contract: from
whatever states with `J` the operations are taken, each of them leaves `J`, and the result satisfies `Q`. The `Terms`
of a program say more about its operations: what it may rely on in the state one is taken in, which a run then has to
meet, and what it ensures of it. The rules follow the syntax. A pool of steady programs keeps `J` in every
interleaving, and every program of it that returns has returned a result with its `Q` (`steady_run`).
-/

namespace Conc

open List

namespace Prog

variable {Op : Type} {Resp : Op → Type} {σ α β : Type}

/-- On which terms a program takes an operation in a state. -/
structure Terms (Op σ : Type) where
  rely : Op → σ → Prop
  ensure : Op → σ → Prop := fun _ _ => True

/-- Taken from states with `J` and on these terms, every operation leaves `J`, and the result satisfies `Q`. -/
def Steady (exec : (o : Op) → σ → σ × Resp o) (C : Terms Op σ) (J : σ → Prop) (Q : α → Prop) :
    Prog Op Resp α → Prop
  | ret a => Q a
  | call o k => ∀ s, J s → C.rely o s → (C.ensure o s ∧ J (exec o s).1) ∧ Steady exec C J Q (k (exec o s).2)

/-- No condition on the operations. -/
abbrev anyOp : Terms Op σ := ⟨fun _ _ => True, fun _ _ => True⟩

variable {exec : (o : Op) → σ → σ × Resp o} {C : Terms Op σ} {J : σ → Prop} {Q : α → Prop} {R : β → Prop}
variable {p : Prog Op Resp α}

/-! ## Rules -/

theorem steady_pure {a : α} (h : Q a) : (pure a : Prog Op Resp α).Steady exec C J Q := h

theorem Steady.bind {f : α → Prog Op Resp β} (h : p.Steady exec C J Q) (hf : ∀ a, Q a → (f a).Steady exec C J R) :
    (p >>= f).Steady exec C J R := by
  induction p with
  | ret a => exact hf a h
  | call o k ih =>
    intro s hs hC
    obtain ⟨hown, hrest⟩ := h s hs hC
    exact ⟨hown, ih _ hrest⟩

/-- A program that ensures enough of its operations keeps a stronger invariant too. -/
theorem Steady.strengthen {C' : Terms Op σ} {J' : σ → Prop} (h : p.Steady exec C J Q)
    (hrely : ∀ {o s}, J' s → C'.rely o s → J s ∧ C.rely o s)
    (hop : ∀ {o s}, J' s → C'.rely o s → C.ensure o s → J (exec o s).1 → C'.ensure o s ∧ J' (exec o s).1) :
    p.Steady exec C' J' Q := by
  induction p with
  | ret a => exact h
  | call o k ih =>
    intro s hs hC
    obtain ⟨hJ, hC'⟩ := hrely hs hC
    obtain ⟨hown, hrest⟩ := h s hJ hC'
    exact ⟨hop hs hC hown.1 hown.2, ih _ hrest⟩

/-- Alone, a program whose operations have no condition returns such a result too. -/
theorem Steady.eval (h : p.Steady exec anyOp J Q) {s : σ} (hs : J s) : Q (p.eval exec s).2 := by
  induction p generalizing s with
  | ret a => exact h
  | call o k ih =>
    obtain ⟨⟨-, hJ⟩, hrest⟩ := h s hs trivial
    exact ih _ hrest hJ

/-- **Loop rule.** The results are those of a function on the elements. -/
theorem steady_mapEach {γ ε : Type} {f : β → Prog Op Resp (Except ε γ)} {g : β → Except ε γ} {bs : List β}
    (hf : ∀ b ∈ bs, (f b).Steady exec C J (· = g b)) : (mapEach bs f).Steady exec C J (· = bs.mapM g) := by
  induction bs with
  | nil => exact steady_pure rfl
  | cons b bs ih =>
    refine Steady.bind (hf b mem_cons_self) fun r hr => ?_
    subst hr
    have hrest := ih fun b' hb' => hf b' (mem_cons_of_mem b hb')
    rw [mapM_cons]
    cases g b with
    | error e => exact steady_pure rfl
    | ok c =>
      refine Steady.bind hrest fun rest hrest => ?_
      subst hrest
      cases bs.mapM g <;> exact steady_pure rfl

/-! ## Programs that may fail -/

section Except

variable {ε : Type} {q : ExceptT ε (Prog Op Resp) α} {f : α → ExceptT ε (Prog Op Resp) β}

theorem Steady.exceptBind {S : Except ε α → Prop} {T : Except ε β → Prop} (h : q.run.Steady exec C J S)
    (hf : ∀ a, S (.ok a) → (f a).run.Steady exec C J T) (herror : ∀ e, T (.error e)) :
    (q >>= f).run.Steady exec C J T := by
  refine Steady.bind h fun r hr => ?_
  cases r with
  | ok a => exact hf a hr
  | error e => exact steady_pure (herror e)

theorem Steady.andThen (h : q.run.Steady exec C J fun _ => True)
    (hf : ∀ a, (f a).run.Steady exec C J fun _ => True) : (q >>= f).run.Steady exec C J fun _ => True :=
  h.exceptBind (fun a _ => hf a) fun _ => trivial

theorem steady_forM {f : β → ExceptT ε (Prog Op Resp) PUnit} {bs : List β}
    (hf : ∀ b ∈ bs, (f b).run.Steady exec C J fun _ => True) : (bs.forM f).run.Steady exec C J fun _ => True := by
  induction bs with
  | nil => exact steady_pure trivial
  | cons b bs ih =>
    refine (hf b mem_cons_self).andThen fun _ => ?_
    exact ih fun b' hb' => hf b' (mem_cons_of_mem b hb')

end Except

end Prog

/-! ## Pools -/

namespace Machine

open Prog (Terms)

variable {Tag Op : Type} {Resp : Op → Type} {σ α : Type} {M : Machine Tag Op Resp σ α} {C : Tag → Terms Op σ}
variable {J : σ → Prop} {Q : Tag → α → Prop} {c c' : Config Tag Op Resp σ α} {e : Event Tag} {es : List (Event Tag)}

/-- The invariant holds and every task of the pool is steady. -/
structure SteadyPool (M : Machine Tag Op Resp σ α) (C : Tag → Terms Op σ) (J : σ → Prop) (Q : Tag → α → Prop)
    (c : Config Tag Op Resp σ α) : Prop where
  shared : J c.shared
  tasks : ∀ task ∈ c.tasks, task.prog.Steady M.exec (C task.tag) J (Q task.tag)

/-- The operation that the event is about to run may rely on what its terms say. -/
def meets (C : Tag → Terms Op σ) (c : Config Tag Op Resp σ α) (e : Event Tag) : Prop :=
  ∀ t o, c.nextOp e = some (t, o) → (C t).rely o c.shared

theorem steady_step (hbody : ∀ t, (M.body t).Steady M.exec (C t) J (Q t)) (hreboot : ∀ s, J s → J (M.reboot s))
    (hc : M.SteadyPool C J Q c) (hC : meets C c e) (hstep : M.Step c e c') : M.SteadyPool C J Q c' := by
  obtain ⟨hJ, htasks⟩ := hc
  cases hstep with
  | spawn hfresh =>
    refine ⟨hJ, fun task htask => ?_⟩
    rcases mem_append.mp htask with htask | htask
    · exact htasks task htask
    · rw [mem_singleton.mp htask]
      exact hbody _
  | @exec s pre post started t o k =>
    -- the stepped task finds `J` and leaves it; the others do not notice
    have hown := htasks ⟨t, .call o k⟩ (mem_append_right pre mem_cons_self)
    obtain ⟨⟨-, hJ'⟩, hrest⟩ := hown s hJ (hC t o nextOp_exec)
    refine ⟨hJ', fun task htask => ?_⟩
    rcases Machine.mem_middle.mp htask with rfl | htask
    · exact hrest
    · exact htasks task (Machine.mem_middle.mpr (.inr htask))
  | drop => exact ⟨hJ, fun task htask => htasks task (Machine.mem_middle.mpr (.inr htask))⟩
  | crash => exact ⟨hreboot _ hJ, fun task htask => htasks task (mem_filter.mp htask).1⟩

/-- **Steady programs do not disturb each other**, in any interleaving. -/
theorem steady_run (hbody : ∀ t, (M.body t).Steady M.exec (C t) J (Q t)) (hreboot : ∀ s, J s → J (M.reboot s))
    (hc : M.SteadyPool C J Q c) (hal : M.Along (meets C) c es) (hrun : M.run c es = some c') :
    M.SteadyPool C J Q c' :=
  run_invariant (fun hpool hC hstep => steady_step hbody hreboot hpool hC hstep) hc hal hrun

end Machine

end Conc
