import Mathlib.Logic.Basic

/-!
# `Lib.Fallible` — computations that end in an error

Inversion of `?`, of a check and of a loop that stops at the first error.
-/

namespace Fallible

open List

variable {α β ε : Type}

variable {f : α → Except ε β} {xs : List α} {ys : List β}

/-- A sequence that succeeds has succeeded in both parts. -/
theorem bind_ok {x : Except ε α} {b : β} (h : x >>= f = .ok b) : ∃ a, x = .ok a ∧ f a = .ok b := by
  cases x with
  | error e => cases h
  | ok a => exact ⟨a, rfl, h⟩

theorem exists_of_toBool {r : Except ε α} (h : r.toBool = true) : ∃ a, r = .ok a := by
  cases r with
  | ok a => exact ⟨a, rfl⟩
  | error e => cases h

/-- A check that was passed. -/
theorem guard_ok {c : Prop} [Decidable c] {e : ε} {x : Except ε α} {a : α} :
    (if c then .error e else x) = .ok a ↔ ¬c ∧ x = .ok a := by
  by_cases h : c <;> simp [h]

/-- Every result of a loop is the result of one iteration. -/
theorem mem_of_mapM (h : xs.mapM f = .ok ys) : ∀ y ∈ ys, ∃ x ∈ xs, f x = .ok y := by
  induction xs generalizing ys with
  | nil =>
    cases h
    intro y hy
    cases hy
  | cons x xs ih =>
    rw [mapM_cons] at h
    obtain ⟨z, hz, h⟩ := bind_ok h
    obtain ⟨zs, hzs, h⟩ := bind_ok h
    cases h
    intro y hy
    rcases mem_cons.mp hy with rfl | hy
    · exact ⟨x, mem_cons_self, hz⟩
    · obtain ⟨x', hx', hf⟩ := ih hzs y hy
      exact ⟨x', mem_cons_of_mem x hx', hf⟩

/-- And every iteration has its result in the list. -/
theorem mapM_of_mem (h : xs.mapM f = .ok ys) : ∀ x ∈ xs, ∃ y ∈ ys, f x = .ok y := by
  induction xs generalizing ys with
  | nil =>
    intro x hx
    cases hx
  | cons x xs ih =>
    rw [mapM_cons] at h
    obtain ⟨z, hz, h⟩ := bind_ok h
    obtain ⟨zs, hzs, h⟩ := bind_ok h
    cases h
    intro x' hx'
    rcases mem_cons.mp hx' with rfl | hx'
    · exact ⟨z, mem_cons_self, hz⟩
    · obtain ⟨y, hy, hf⟩ := ih hzs x' hx'
      exact ⟨y, mem_cons_of_mem z hy, hf⟩

/-- A loop whose iterations all succeed succeeds. -/
theorem mapM_of_forall (h : ∀ x ∈ xs, ∃ y, f x = .ok y) : ∃ ys, xs.mapM f = .ok ys := by
  induction xs with
  | nil => exact ⟨[], rfl⟩
  | cons x xs ih =>
    obtain ⟨y, hy⟩ := h x mem_cons_self
    obtain ⟨ys, hys⟩ := ih fun x' hx' => h x' (mem_cons_of_mem x hx')
    refine ⟨y :: ys, ?_⟩
    rw [mapM_cons, hy, hys]
    rfl

/-- The same for a loop that stops at the first `none`. -/
theorem exists_of_mapM {f : α → Option β} (h : xs.mapM f = some ys) : ∀ y ∈ ys, ∃ x, f x = some y := by
  induction xs generalizing ys with
  | nil =>
    cases h
    intro y hy
    cases hy
  | cons x xs ih =>
    rw [mapM_cons] at h
    obtain ⟨z, hz, h⟩ := Option.bind_eq_some_iff.mp h
    obtain ⟨zs, hzs, h⟩ := Option.bind_eq_some_iff.mp h
    cases h
    intro y hy
    rcases mem_cons.mp hy with rfl | hy
    · exact ⟨x, hz⟩
    · exact ih hzs y hy

end Fallible
