import BasisCell.Lib.Pool

/-!
# `Lib.Product` — two disciplines at once

How far a task has come can be looked at in more than one way. Two protocols of one program are one protocol
over pairs of phases, which allows an operation when both do, so a second discipline can be stated beside a
first one without touching it, and an outline over the first is an outline over the product.

## Contents
- `Protocol.prod`, `Follows.prod`, `Follows.fst`; the protocol `Protocol.free` that watches nothing.
- `Discipline.prod`, `Outline.fst`, `Outline.Sound.fst`.
- `Outline.blank`, the outline without assertions, for layers that need no other one below.
-/

namespace Conc

variable {Tag Op : Type} {Resp : Op → Type} {σ α Phase Phase' : Type}

namespace Protocol

variable {P : Protocol Op Resp Phase} {P' : Protocol Op Resp Phase'} {Q : Phase → α → Prop} {Q' : Phase' → α → Prop}
variable {p : Prog Op Resp α}

/-- Both protocols side by side. -/
def prod (P : Protocol Op Resp Phase) (P' : Protocol Op Resp Phase') : Protocol Op Resp (Phase × Phase') where
  allows := fun g o => P.allows g.1 o ∧ P'.allows g.2 o
  next := fun g o r => (P.next g.1 o r, P'.next g.2 o r)

theorem Follows.prod {g : Phase} {g' : Phase'} (h : P.Follows Q p g) (h' : P'.Follows Q' p g') :
    (P.prod P').Follows (fun g a => Q g.1 a ∧ Q' g.2 a) p (g, g') := by
  induction p generalizing g g' with
  | ret a => exact ⟨h, h'⟩
  | call o k ih => exact ⟨⟨h.1, h'.1⟩, fun r => ih r (h.2 r) (h'.2 r)⟩

theorem Follows.fst {g : Phase × Phase'} (h : (P.prod P').Follows (fun g a => Q g.1 a ∧ Q' g.2 a) p g) :
    P.Follows Q p g.1 := by
  induction p generalizing g with
  | ret a => exact h.1
  | call o k ih => exact ⟨h.1.1, fun r => ih r (h.2 r)⟩

theorem follows_of_free {g : Phase} (hallows : ∀ o, P.allows g o) (hnext : ∀ o r, P.next g o r = g)
    (hQ : ∀ a, Q g a) : P.Follows Q p g := by
  induction p with
  | ret a => exact hQ a
  | call o k ih =>
    refine ⟨hallows o, fun r => ?_⟩
    rw [hnext]
    exact ih r

end Protocol

/-- Both disciplines side by side. -/
def Discipline.prod (D : Discipline Tag Op Resp α Phase) (D' : Discipline Tag Op Resp α Phase') :
    Discipline Tag Op Resp α (Phase × Phase') where
  protocol := fun t => (D.protocol t).prod (D'.protocol t)
  start := fun t => (D.start t, D'.start t)
  ends := fun t g a => D.ends t g.1 a ∧ D'.ends t g.2 a

variable {D : Discipline Tag Op Resp α Phase} {D' : Discipline Tag Op Resp α Phase'}
variable {M : Machine Tag Op Resp σ α} {C : Config Tag Op Resp σ α → Event Tag → Prop}

theorem Discipline.Governs.prod (h : D.Governs M) (h' : D'.Governs M) : (D.prod D').Governs M :=
  fun t => Protocol.Follows.prod (h t) (h' t)

namespace Outline

variable {Γ : Type} {A : Outline Tag Op Resp σ Phase Γ}

/-- An outline over the first of two disciplines. -/
def fst (A : Outline Tag Op Resp σ Phase Γ) : Outline Tag Op Resp σ (Phase × Phase') Γ where
  aux := A.aux
  inv := A.inv
  holds := fun t g γ s => A.holds t g.1 γ s
  apart := A.apart

theorem Fires.fst {c : Config Tag Op Resp σ α} {γ : Γ} {i : Nat} {t : Tag} {g : Phase × Phase'} {o : Op}
    (h : (A.fst : Outline Tag Op Resp σ (Phase × Phase') Γ).Fires (D.prod D') C c γ i t g o) :
    A.Fires D C c γ i t g.1 o :=
  ⟨h.op, h.cond, h.known, h.pool, h.inv, h.holds, h.allowed.1⟩

/-- **What an outline proves, it proves beside a second discipline.** -/
theorem Sound.fst (hA : A.Sound D M C) (hD' : D'.Governs M) :
    (A.fst : Outline Tag Op Resp σ (Phase × Phase') Γ).Sound (D.prod D') M C where
  governs := hA.governs.prod hD'
  symm := hA.symm
  spawn := hA.spawn
  exec := fun h => hA.exec h.fst
  frame := fun h htask hapart hat => hA.frame h.fst htask hapart hat.fst
  reboot := hA.reboot
  reboot_holds := hA.reboot_holds

/-- The outline that asserts nothing. -/
def blank : Outline Tag Op Resp σ Phase Unit where
  aux := fun γ _ _ _ => γ
  inv := fun _ _ _ => True
  holds := fun _ _ _ _ => True
  apart := fun _ _ => True

theorem blank_sound (h : D.Governs M) : (blank : Outline Tag Op Resp σ Phase Unit).Sound D M C where
  governs := h
  symm := id
  spawn := fun _ _ => ⟨trivial, trivial, fun _ _ => trivial⟩
  exec := fun _ => ⟨trivial, trivial⟩
  frame := fun _ _ _ _ _ => trivial
  reboot := id
  reboot_holds := id

end Outline

end Conc
