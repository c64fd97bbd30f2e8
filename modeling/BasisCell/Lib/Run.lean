import Mathlib.Data.List.Induction

/-!
# `Lib.Run` — runs of a transition function

A system whose every event either leads to one next state or cannot be taken. `run` takes a list of events,
`Along` says that each of them meets a condition in the state it is taken in, and `run_invariant` and
`along_of_invariant` are the inductions on runs that clients need.
-/

namespace Transition

variable {σ ε : Type} (step : σ → ε → Option σ)

def run (s : σ) : List ε → Option σ
  | [] => some s
  | e :: es => (step s e).bind fun s' => run s' es

/-- Where a run that can be taken ends. -/
def after (s : σ) (es : List ε) : σ := (run step s es).getD s

/-- Every event of the run meets `C` in the state it is taken in. -/
def Along (C : σ → ε → Prop) : σ → List ε → Prop
  | _, [] => True
  | s, e :: es =>
    C s e ∧ match step s e with
      | some s' => Along C s' es
      | none => True

instance decidableAlong {C : σ → ε → Prop} [∀ s e, Decidable (C s e)] :
    (s : σ) → (es : List ε) → Decidable (Along step C s es)
  | _, [] => .isTrue trivial
  | s, e :: es =>
    have : Decidable (match step s e with
        | some s' => Along step C s' es
        | none => True) :=
      match step s e with
      | some s' => decidableAlong s' es
      | none => .isTrue trivial
    inferInstanceAs (Decidable (_ ∧ _))

variable {step} {C : σ → ε → Prop} {J : σ → Prop} {s s' : σ} {e : ε} {es es' : List ε}

/-! ## Runs -/

theorem run_eq_after (h : (run step s es).isSome = true) : run step s es = some (after step s es) := by
  obtain ⟨s', hs'⟩ := Option.isSome_iff_exists.mp h
  unfold after
  rw [hs', Option.getD_some]

theorem step_eq_after (h : (step s e).isSome = true) : step s e = some (after step s [e]) := by
  obtain ⟨s', hs'⟩ := Option.isSome_iff_exists.mp h
  simp [after, run, hs']

theorem run_append : run step s (es ++ es') = (run step s es).bind fun s' => run step s' es' := by
  induction es generalizing s with
  | nil => rfl
  | cons e es ih =>
    show (step s e).bind (fun s' => run step s' (es ++ es')) = ((step s e).bind fun s' => run step s' es).bind _
    rw [Option.bind_assoc]
    exact Option.bind_congr fun s' _ => ih

theorem run_trans {s'' : σ} (hrun : run step s es = some s') (hrun' : run step s' es' = some s'') :
    run step s (es ++ es') = some s'' := by
  rw [run_append, hrun]
  exact hrun'

/-- The second part of a run, from where the first part ends. -/
theorem run_after (h : (run step s (es ++ es')).isSome = true) :
    run step (after step s es) es' = some (after step s (es ++ es')) := by
  have hrun := run_eq_after h
  rw [run_append] at hrun
  obtain ⟨s', hs', hrest⟩ := Option.bind_eq_some_iff.mp hrun
  have hend : after step s es = s' := by
    unfold after
    rw [hs', Option.getD_some]
  rw [hend]
  exact hrest

/-! ## Conditions along a run -/

theorem along_of_forall (h : ∀ s e, C s e) : Along step C s es := by
  induction es generalizing s with
  | nil => trivial
  | cons e es ih =>
    refine ⟨h s e, ?_⟩
    split
    · exact ih
    · trivial

/-- The first part of a run that meets a condition meets it. -/
theorem along_append_left (h : Along step C s (es ++ es')) : Along step C s es := by
  induction es generalizing s with
  | nil => trivial
  | cons e es ih =>
    obtain ⟨hC, hrest⟩ := h
    refine ⟨hC, ?_⟩
    split at hrest
    · exact ih hrest
    · trivial

theorem along_snoc (hrun : run step s es = some s') (hal : Along step C s es) (hlast : C s' e) :
    Along step C s (es ++ [e]) := by
  induction es generalizing s with
  | nil =>
    cases hrun
    refine ⟨hlast, ?_⟩
    split <;> trivial
  | cons e' es ih =>
    obtain ⟨s₁, h₁, hrun⟩ := Option.bind_eq_some_iff.mp hrun
    obtain ⟨hC, hal⟩ := hal
    rw [h₁] at hal
    refine ⟨hC, ?_⟩
    rw [h₁]
    exact ih hrun hal

/-- **The last time a property came to hold.** A property that does not hold at the start of a run and holds
    at its end came to hold at some event, and has held from there on. -/
theorem exists_last_switch {P : σ → Prop} (hstart : ¬P s) (hrun : run step s es = some s') (hend : P s') :
    ∃ es₁ e es₂ s₁ s₂, es = es₁ ++ e :: es₂ ∧ run step s es₁ = some s₁ ∧ step s₁ e = some s₂ ∧
      ¬P s₁ ∧ P s₂ ∧ run step s₂ es₂ = some s' ∧ Along step (fun s _ => P s) s₂ es₂ := by
  induction es using List.reverseRecOn generalizing s' with
  | nil =>
    cases hrun
    exact absurd hend hstart
  | append_singleton es e ih =>
    rw [run_append] at hrun
    obtain ⟨s₁, hrun₁, hrun⟩ := Option.bind_eq_some_iff.mp hrun
    obtain ⟨s₂, hstep, hrun⟩ := Option.bind_eq_some_iff.mp hrun
    cases hrun
    by_cases hP : P s₁
    · -- it held before the last event already
      obtain ⟨es₁, e', es₂, t₁, t₂, rfl, hrun', hstep', hnot, hyes, hrest, hal⟩ := ih hrun₁ hP
      refine ⟨es₁, e', es₂ ++ [e], t₁, t₂, ?_, hrun', hstep', hnot, hyes, ?_, along_snoc hrest hal hP⟩
      · rw [List.append_assoc, List.cons_append]
      · rw [run_append, hrest]
        show (step s₁ e).bind _ = some s'
        rw [hstep]
        rfl
    · exact ⟨es, e, [], s₁, s', rfl, hrun₁, hstep, hP, hend, rfl, trivial⟩

/-! ## Invariants -/

/-- **What every step preserves, every run preserves.** -/
theorem run_invariant (hstep : ∀ {s e s'}, J s → C s e → step s e = some s' → J s')
    (hs : J s) (hal : Along step C s es) (hrun : run step s es = some s') : J s' := by
  induction es generalizing s with
  | nil =>
    cases hrun
    exact hs
  | cons e es ih =>
    obtain ⟨s₁, h₁, hrun⟩ := Option.bind_eq_some_iff.mp hrun
    obtain ⟨hC, hal⟩ := hal
    rw [h₁] at hal
    exact ih (hstep hs hC h₁) hal hrun

/-- **A property of single events, along a run.** It holds at every event if the invariant gives it there. -/
theorem along_of_invariant {P : σ → ε → Prop} (hstep : ∀ {s e s'}, J s → C s e → step s e = some s' → J s')
    (hP : ∀ {s e}, J s → C s e → P s e) (hs : J s) (hal : Along step C s es) : Along step P s es := by
  induction es generalizing s with
  | nil => trivial
  | cons e es ih =>
    obtain ⟨hC, hal⟩ := hal
    refine ⟨hP hs hC, ?_⟩
    split
    · rename_i s' h
      rw [h] at hal
      exact ih (hstep hs hC h) hal
    · trivial

end Transition
