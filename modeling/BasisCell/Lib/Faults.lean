import BasisCell.Lib.Prog

/-!
# `Lib.Faults` — programs whose operations fail, and programs that are cut short

An operation that goes over a wire or through another process is carried out or not, and its caller may hear
of it or not: `Outcome` names the three cases a caller has to live with. `unreliable` turns an interpretation
of the operations into one that follows a pattern of outcomes; what an operation answers when it fails is given,
and operations that cannot fail ignore the pattern. The result is an interpretation again, so every rule about
`Prog.eval` applies to it.

`visits` lists the states between the operations of a run: the moments at which a crash may cut it, and at
which somebody else may look.
-/

namespace Conc

/-- What becomes of an operation: carried out and answered, not carried out, or carried out with the answer
    lost. The caller cannot tell the last two apart. -/
inductive Outcome where
  | done | refused | lost
  deriving DecidableEq, Repr

namespace Prog

variable {Op : Type} {Resp : Op → Type} {σ α β : Type}

/-- The `n`-th operation meets the `n`-th outcome. -/
def unreliable (exec : (o : Op) → σ → σ × Resp o) (failure : (o : Op) → Option (Resp o)) (outcomes : Nat → Outcome)
    (o : Op) : σ × Nat → (σ × Nat) × Resp o
  | (s, n) =>
    match outcomes n, failure o with
    | .refused, some r => ((s, n + 1), r)
    | .lost, some r => (((exec o s).1, n + 1), r)
    | _, _ => (((exec o s).1, n + 1), (exec o s).2)

/-- The states after each operation. -/
def visits (exec : (o : Op) → σ → σ × Resp o) : Prog Op Resp α → σ → List σ
  | ret _, _ => []
  | call o k, s => (exec o s).1 :: visits exec (k (exec o s).2) (exec o s).1

variable {exec : (o : Op) → σ → σ × Resp o} {failure : (o : Op) → Option (Resp o)} {outcomes : Nat → Outcome}

/-- An operation that can fail: it changes the state unless it is refused, and answers truly only if it is
    done. -/
theorem unreliable_of_failure {o : Op} {r : Resp o} (hr : failure o = some r) (s : σ) (n : Nat) :
    unreliable exec failure outcomes o (s, n) =
      ((if outcomes n = .refused then s else (exec o s).1, n + 1),
        if outcomes n = .done then (exec o s).2 else r) := by
  unfold unreliable
  dsimp only
  rw [hr]
  cases outcomes n <;> rfl

/-- The last state visited is where the run ends. -/
theorem getLastD_visits (p : Prog Op Resp α) (s : σ) : (p.visits exec s).getLastD s = (p.eval exec s).1 := by
  induction p generalizing s with
  | ret a => rfl
  | call o k ih =>
    show ((exec o s).1 :: visits exec (k (exec o s).2) (exec o s).1).getLastD s = _
    rw [List.getLastD_cons]
    exact ih _ _

end Prog

end Conc
