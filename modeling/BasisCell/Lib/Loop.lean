import Mathlib.Data.List.Forall2
import Mathlib.Data.List.Nodup
import Mathlib.Logic.Function.Basic

/-!
# `Lib.Loop` — loops that carry a state and may return early

A `for` loop that updates a state and pushes one result per element, with an early return: `run` is `none` as soon
as the body is. The results of the first elements do not depend on the later ones (`run_append`), so a statement
about one element is a statement about the body in the state that the earlier ones lead to (`run_at`,
`run_eq_none_iff`), and what the body keeps holds of every such state (`run_invariant`).

`fill` is the loop that inserts its elements into a map: the last one under a key stays, and with distinct keys
every one does.
-/

namespace Loop

open List
open Function (update_of_ne update_self update)

variable {σ α β : Type} (body : σ → α → Option (σ × β))

/-- The state at the end, and the results in order. -/
def run (s : σ) : List α → Option (σ × List β)
  | [] => some (s, [])
  | x :: xs => (body s x).bind fun (s', y) => (run s' xs).map fun (t, ys) => (t, y :: ys)

variable {body} {s t : σ} {x : α} {xs pre post : List α} {y : β} {ys : List β}

theorem run_cons : run body s (x :: xs) = some (t, ys) ↔
    ∃ s' y ys', body s x = some (s', y) ∧ run body s' xs = some (t, ys') ∧ ys = y :: ys' := by
  simp only [run, Option.bind_eq_some_iff, Option.map_eq_some_iff, Prod.exists, Prod.mk.injEq]
  constructor
  · rintro ⟨s', y, hbody, t', ys', hrun, rfl, rfl⟩
    exact ⟨s', y, ys', hbody, hrun, rfl⟩
  · rintro ⟨s', y, ys', hbody, hrun, rfl⟩
    exact ⟨s', y, hbody, t, ys', hrun, rfl, rfl⟩

theorem run_cons_eq_none : run body s (x :: xs) = none ↔
    body s x = none ∨ ∃ s' y, body s x = some (s', y) ∧ run body s' xs = none := by
  simp only [run]
  cases h : body s x with
  | none => simp
  | some r =>
    obtain ⟨s', y⟩ := r
    simp

theorem length_run (h : run body s xs = some (t, ys)) : ys.length = xs.length := by
  induction xs generalizing s ys with
  | nil =>
    cases h
    rfl
  | cons x xs ih =>
    obtain ⟨s', y, ys', -, hrest, rfl⟩ := run_cons.mp h
    simp only [length_cons, ih hrest]

/-- A loop over two lists is the one over the first, and from where it ends the one over the second. -/
theorem run_append : run body s (xs ++ post) = some (t, ys) ↔
    ∃ s' ys₁ ys₂, run body s xs = some (s', ys₁) ∧ run body s' post = some (t, ys₂) ∧ ys = ys₁ ++ ys₂ := by
  induction xs generalizing s ys with
  | nil => simp [run]
  | cons x xs ih =>
    rw [cons_append, run_cons]
    constructor
    · rintro ⟨s₁, y, ys', hbody, hrun, rfl⟩
      obtain ⟨s', ys₁, ys₂, h₁, h₂, rfl⟩ := ih.mp hrun
      exact ⟨s', y :: ys₁, ys₂, run_cons.mpr ⟨s₁, y, ys₁, hbody, h₁, rfl⟩, h₂, rfl⟩
    · rintro ⟨s', ys₁, ys₂, h₁, h₂, rfl⟩
      obtain ⟨s₁, y, ys', hbody, hrun, rfl⟩ := run_cons.mp h₁
      exact ⟨s₁, y, ys' ++ ys₂, hbody, ih.mpr ⟨s', ys', ys₂, hrun, h₂, rfl⟩, rfl⟩

/-- **One iteration of a loop**: the body, in the state that the earlier elements lead to. -/
theorem run_at {ys₁ ys₂ : List β} (h : run body s (pre ++ x :: post) = some (t, ys₁ ++ y :: ys₂))
    (hlen : ys₁.length = pre.length) :
    ∃ s₁ s₂, run body s pre = some (s₁, ys₁) ∧ body s₁ x = some (s₂, y) := by
  obtain ⟨s₁, ys₁', ys₂', h₁, h₂, heq⟩ := run_append.mp h
  obtain ⟨s₂, y', ys', hbody, -, rfl⟩ := run_cons.mp h₂
  obtain ⟨rfl, htail⟩ := append_inj heq (hlen.trans (length_run h₁).symm)
  cases htail
  exact ⟨s₁, s₂, h₁, hbody⟩

/-- **The early return**: a loop returns early iff the body does for some element, after the earlier ones. -/
theorem run_eq_none_iff : run body s xs = none ↔
    ∃ pre x post s' ys, xs = pre ++ x :: post ∧ run body s pre = some (s', ys) ∧ body s' x = none := by
  induction xs generalizing s with
  | nil => simp [run]
  | cons a xs ih =>
    rw [run_cons_eq_none]
    constructor
    · rintro (hbody | ⟨s', y, hbody, hrun⟩)
      · exact ⟨[], a, xs, s, [], rfl, rfl, hbody⟩
      · obtain ⟨pre, x, post, s'', ys, rfl, hpre, hnone⟩ := ih.mp hrun
        exact ⟨a :: pre, x, post, s'', y :: ys, rfl, run_cons.mpr ⟨s', y, ys, hbody, hpre, rfl⟩, hnone⟩
    · rintro ⟨pre, x, post, s', ys, heq, hpre, hnone⟩
      cases pre with
      | nil =>
        cases hpre
        cases heq
        exact .inl hnone
      | cons b pre =>
        cases heq
        obtain ⟨s₁, y, ys', hbody, hrun, rfl⟩ := run_cons.mp hpre
        exact .inr ⟨s₁, y, hbody, ih.mpr ⟨pre, x, post, s', ys', rfl, hrun, hnone⟩⟩

theorem run_invariant_from {J : σ → List β → Prop}
    (hbody : ∀ {s s' x y ys}, x ∈ xs → J s ys → body s x = some (s', y) → J s' (ys ++ [y])) {ys₀ : List β}
    (hs : J s ys₀) (hrun : run body s xs = some (t, ys)) : J t (ys₀ ++ ys) := by
  induction xs generalizing s ys₀ ys with
  | nil =>
    cases hrun
    rw [append_nil]
    exact hs
  | cons x xs ih =>
    obtain ⟨s', y, ys', hstep, hrest, rfl⟩ := run_cons.mp hrun
    have hnext := ih (fun hx => hbody (mem_cons_of_mem _ hx)) (hbody mem_cons_self hs hstep) hrest
    rwa [append_assoc, singleton_append] at hnext

/-- **What every iteration keeps holds at the end**, of the state and the results so far. -/
theorem run_invariant {J : σ → List β → Prop}
    (hbody : ∀ {s s' x y ys}, x ∈ xs → J s ys → body s x = some (s', y) → J s' (ys ++ [y]))
    (hs : J s []) (hrun : run body s xs = some (t, ys)) : J t ys :=
  run_invariant_from hbody hs hrun

/-- What the body says of an element and its result holds of all of them. -/
theorem forall₂_run {P : α → β → Prop} (hbody : ∀ {s s' x y}, x ∈ xs → body s x = some (s', y) → P x y)
    (hrun : run body s xs = some (t, ys)) : List.Forall₂ P xs ys := by
  induction xs generalizing s ys with
  | nil =>
    cases hrun
    exact .nil
  | cons x xs ih =>
    obtain ⟨s', y, ys', hstep, hrest, rfl⟩ := run_cons.mp hrun
    exact .cons (hbody mem_cons_self hstep) (ih (fun hx => hbody (mem_cons_of_mem _ hx)) hrest)

/-! ## Maps filled by a loop -/

section Fill

variable {κ ν : Type} [DecidableEq κ] {key : α → κ} {val : α → ν} {f : κ → ν} {l : List α} {k : κ}

/-- `for x in l { f.insert(key x, val x) }`. -/
def fill (key : α → κ) (val : α → ν) (f : κ → ν) (l : List α) : κ → ν :=
  l.foldl (fun f x => update f (key x) (val x)) f

theorem fill_of_forall_ne (h : ∀ x ∈ l, key x ≠ k) : fill key val f l k = f k := by
  induction l generalizing f with
  | nil => rfl
  | cons x l ih =>
    show fill key val (update f (key x) (val x)) l k = f k
    rw [ih fun y hy => h y (mem_cons_of_mem _ hy)]
    exact update_of_ne (Ne.symm (h x mem_cons_self)) _ _

/-- Under a key is what the map had, or the value of an element with that key. -/
theorem fill_cases : fill key val f l k = f k ∨ ∃ x ∈ l, key x = k ∧ fill key val f l k = val x := by
  induction l generalizing f with
  | nil => exact .inl rfl
  | cons x l ih =>
    show fill key val (update f (key x) (val x)) l k = f k ∨
      ∃ y ∈ x :: l, key y = k ∧ fill key val (update f (key x) (val x)) l k = val y
    rcases ih (f := update f (key x) (val x)) with hkept | ⟨y, hy, hkey, hval⟩
    · by_cases hx : key x = k
      · refine .inr ⟨x, mem_cons_self, hx, ?_⟩
        rw [hkept, ← hx, update_self]
      · rw [update_of_ne (Ne.symm hx)] at hkept
        exact .inl hkept
    · exact .inr ⟨y, mem_cons_of_mem _ hy, hkey, hval⟩

theorem fill_of_mem (hnodup : (l.map key).Nodup) {x : α} (hx : x ∈ l) : fill key val f l (key x) = val x := by
  induction l generalizing f with
  | nil => cases hx
  | cons y l ih =>
    rw [map_cons, nodup_cons] at hnodup
    show fill key val (update f (key y) (val y)) l (key x) = val x
    rcases mem_cons.mp hx with rfl | hx
    · have hrest : ∀ z ∈ l, key z ≠ key x := fun z hz heq => hnodup.1 (heq ▸ mem_map_of_mem hz)
      rw [fill_of_forall_ne hrest, update_self]
    · exact ih hnodup.2 hx

end Fill

end Loop
