import Mathlib.Data.List.MinMax
import Mathlib.Data.Prod.Lex

/-!
# `Lib.Select` — the first best of a list

`List.argmax` keeps the first of the best elements. The rules for a selection by several criteria: a selection among
images is one among the elements (`argmax_map`), a lexicographic one is a selection by the second criterion among the
elements that are best in the first (`mem_argmax_of_lex`), and `least_iff` says when a selection by rank finds an
element of the least cost, although it does not look at costs. `first_free_iff` is the same question for the first
element of an increasing list that passes a test which is too weak. `Level` is the other use of a selection: putting
the next item where there are fewest keeps the numbers within one of each other.
-/

namespace Select

open List

variable {α γ : Type}

/-! ## Positions -/

section Positions

variable [DecidableEq α] {p : α → Bool} {l : List α} {a b : α}

/-- Leaving elements out keeps the order of the others. -/
theorem idxOf_filter_le_iff (ha : a ∈ l.filter p) (hb : b ∈ l.filter p) :
    (l.filter p).idxOf a ≤ (l.filter p).idxOf b ↔ l.idxOf a ≤ l.idxOf b := by
  induction l with
  | nil => cases ha
  | cons x l ih =>
    by_cases hx : p x = true
    · rw [filter_cons_of_pos hx] at ha hb ⊢
      by_cases hxa : x = a
      · subst hxa
        simp only [idxOf_cons_self, Nat.zero_le]
      · by_cases hxb : x = b
        · subst hxb
          simp only [idxOf_cons_self, idxOf_cons_ne _ hxa, Nat.le_zero, Nat.succ_ne_zero]
        · have ha := (mem_cons.mp ha).resolve_left (Ne.symm hxa)
          have hb := (mem_cons.mp hb).resolve_left (Ne.symm hxb)
          simp only [idxOf_cons_ne _ hxa, idxOf_cons_ne _ hxb, Nat.succ_le_succ_iff]
          exact ih ha hb
    · rw [filter_cons_of_neg hx] at ha hb ⊢
      -- an element that stays is not the one left out
      have hxa : x ≠ a := fun h => hx (h ▸ of_mem_filter ha)
      have hxb : x ≠ b := fun h => hx (h ▸ of_mem_filter hb)
      simp only [idxOf_cons_ne _ hxa, idxOf_cons_ne _ hxb, Nat.succ_le_succ_iff]
      exact ih ha hb

end Positions

/-! ## Selections -/

section Selections

variable {β δ κ : Type} [LinearOrder β] [LinearOrder δ] [LinearOrder κ]

theorem argmax_map (f : γ → β) (g : α → γ) (l : List α) :
    (l.map g).argmax f = (l.argmax fun a => f (g a)).map g := by
  induction l using List.reverseRecOn with
  | nil => rfl
  | append_singleton l a ih =>
    rw [map_append, map_singleton, argmax_concat, argmax_concat, ih]
    cases l.argmax fun a => f (g a) with
    | none => rfl
    | some c =>
      simp only [Option.map_some]
      by_cases h : f (g c) < f (g a)
      · simp only [h, if_true, Option.map_some]
      · simp only [h, if_false, Option.map_some]

variable {l : List α} {m : α}

/-- The elements that are best in `g`. -/
def best (g : α → δ) (l : List α) : List α := l.filter fun a => ∀ b ∈ l, g b ≤ g a

theorem mem_best {g : α → δ} {a : α} : a ∈ best g l ↔ a ∈ l ∧ ∀ b ∈ l, g b ≤ g a := by
  simp only [best, mem_filter, decide_eq_true_eq]

variable [DecidableEq α]

/-- A lexicographic selection selects by the second criterion among the best in the first. -/
theorem mem_argmax_of_lex {g : α → δ} {f : α → β} (h : m ∈ l.argmax fun a => toLex (g a, f a)) :
    m ∈ (best g l).argmax f := by
  obtain ⟨hm, hmax, hfirst⟩ := mem_argmax_iff.mp h
  have hle : ∀ a ∈ l, g a ≤ g m := by
    intro a ha
    rcases Prod.Lex.toLex_le_toLex.mp (hmax a ha) with hlt | ⟨heq, -⟩
    · exact hlt.le
    · exact heq.le
  have hbest : m ∈ best g l := mem_best.mpr ⟨hm, hle⟩
  -- a rival that is best in `g` as well has the same value there
  have hsame : ∀ a ∈ best g l, a ∈ l ∧ g a = g m := by
    intro a ha
    obtain ⟨hal, htop⟩ := mem_best.mp ha
    exact ⟨hal, le_antisymm (hle a hal) (htop m hm)⟩
  refine mem_argmax_iff.mpr ⟨hbest, fun a ha => ?_, fun a ha hfa => ?_⟩
  · obtain ⟨hal, heq⟩ := hsame a ha
    rcases Prod.Lex.toLex_le_toLex.mp (hmax a hal) with hlt | ⟨-, hf⟩
    · exact absurd heq hlt.ne
    · exact hf
  · obtain ⟨hal, heq⟩ := hsame a ha
    have hidx := hfirst a hal (Prod.Lex.toLex_le_toLex.mpr (.inr ⟨heq.symm, hfa⟩))
    exact (idxOf_filter_le_iff hbest ha).mpr hidx

/-- `a` comes before `b` in a selection by `f` from `l`: it ranks higher, or the same and is listed earlier. -/
def Before (f : α → β) (l : List α) (a b : α) : Prop := f b < f a ∨ f b = f a ∧ l.idxOf a < l.idxOf b

instance {f : α → β} {a b : α} : Decidable (Before f l a b) := inferInstanceAs (Decidable (_ ∨ _))

/-- **When a selection by rank finds the least cost**: some element of the least cost comes before all that cost
    more. -/
theorem least_iff {f : α → β} (cost : α → κ) (h : m ∈ l.argmax f) : (∀ a ∈ l, cost m ≤ cost a) ↔
    ∃ c ∈ l, (∀ a ∈ l, cost c ≤ cost a) ∧ ∀ a ∈ l, cost c < cost a → Before f l c a := by
  obtain ⟨hm, hmax, hfirst⟩ := mem_argmax_iff.mp h
  constructor
  · intro hleast
    refine ⟨m, hm, hleast, fun a ha hcost => ?_⟩
    rcases (hmax a ha).lt_or_eq with hlt | heq
    · exact .inl hlt
    · refine .inr ⟨heq, lt_of_le_of_ne (hfirst a ha heq.ge) fun hidx => ?_⟩
      rw [(idxOf_inj hm).mp hidx] at hcost
      exact lt_irrefl _ hcost
  · rintro ⟨c, hc, hleast, hbefore⟩ a ha
    by_contra hcost
    -- the selected element costs more than `c`, so `c` would have been selected before it
    have hmore : cost c < cost m := lt_of_le_of_lt (hleast a ha) (not_le.mp hcost)
    rcases hbefore m hm hmore with hlt | ⟨heq, hidx⟩
    · exact absurd (hmax c hc) (not_le.mpr hlt)
    · exact absurd (hfirst c hc heq.le) (not_le.mpr hidx)

end Selections

/-! ## First matches -/

section First

variable {busy held : Nat → Bool} {l : List Nat} {n : Nat}

/-- The first element of an increasing list that is not busy is the lowest such. -/
theorem lowest_of_find (hsorted : l.Pairwise (· < ·)) (h : l.find? (fun m => !busy m) = some n) :
    n ∈ l ∧ busy n = false ∧ ∀ m ∈ l, busy m = false → n ≤ m := by
  obtain ⟨hn, as, bs, rfl, hbefore⟩ := List.find?_eq_some_iff_append.mp h
  rw [Bool.not_eq_true'] at hn
  refine ⟨mem_append_right _ mem_cons_self, hn, fun m hm hfree => ?_⟩
  rcases mem_append.mp hm with has | hbs
  · have hbusy := hbefore m has
    rw [hfree] at hbusy
    cases hbusy
  · rcases mem_cons.mp hbs with rfl | hbs
    · exact Nat.le_refl _
    · exact Nat.le_of_lt (rel_of_pairwise_cons (pairwise_append.mp hsorted).2.1 hbs)

/-- **When the first element that is not busy is not held either**: everything that is held without being busy lies
    above something that is not held. -/
theorem first_free_iff (hsorted : l.Pairwise (· < ·)) (hbusy : ∀ m, busy m = true → held m = true)
    (h : l.find? (fun m => !busy m) = some n) :
    held n = false ↔ ∀ m ∈ l, busy m = false → held m = true → ∃ k ∈ l, k < m ∧ held k = false := by
  obtain ⟨hmem, hfree, hlowest⟩ := lowest_of_find hsorted h
  constructor
  · intro hn m hm hidle hheld
    refine ⟨n, hmem, lt_of_le_of_ne (hlowest m hm hidle) fun heq => ?_, hn⟩
    rw [heq, hheld] at hn
    cases hn
  · intro hall
    by_contra hn
    rw [Bool.not_eq_false] at hn
    obtain ⟨k, hk, hlt, hidle⟩ := hall n hmem hfree hn
    -- what is not held is not busy, so it would have been found first
    have hnot : busy k = false := by
      by_contra hb
      rw [hbusy k (Bool.eq_true_of_not_eq_false hb)] at hidle
      cases hidle
    exact absurd (hlowest k hk hnot) (not_le.mpr hlt)

/-- **When a search finds the lowest free position.** The positions that are looked at are those inside, or none is
    inside. What the search promises is that the first one that is not busy is inside, free and the lowest such; it
    keeps that iff nothing outside turns up, and everything inside that only looks free lies above something free. -/
theorem lowest_free_iff {Spec regular : Prop} {inside : Nat → Prop} (hsorted : l.Pairwise (· < ·))
    (hbusy : ∀ m, busy m = true → held m = true) (hin : regular → ∀ m, m ∈ l ↔ inside m)
    (hout : ¬regular → ∀ m, ¬inside m)
    (hnone : l.find? (fun m => !busy m) = none → (∀ m, inside m → held m = true) → Spec)
    (hsome : ∀ n, l.find? (fun m => !busy m) = some n → busy n = false →
      (Spec ↔ (inside n ∧ held n = false) ∧ ∀ m, inside m → held m = false → n ≤ m)) :
    Spec ↔ (regular ∨ ∀ m ∈ l, busy m = true) ∧
      ∀ m, inside m → busy m = false → held m = true → ∃ k, inside k ∧ k < m ∧ held k = false := by
  cases hfind : l.find? fun m => !busy m with
  | none =>
    have hall : ∀ m ∈ l, busy m = true := by
      intro m hm
      have hsel := List.find?_eq_none.mp hfind m hm
      rwa [Bool.not_eq_true', Bool.not_eq_false] at hsel
    have hinside : ∀ m, inside m → busy m = true := by
      intro m hm
      by_cases hreg : regular
      · exact hall m ((hin hreg m).mpr hm)
      · exact absurd hm (hout hreg m)
    refine iff_of_true (hnone hfind fun m hm => hbusy m (hinside m hm)) ⟨.inr hall, fun m hm hfree => ?_⟩
    rw [hinside m hm] at hfree
    cases hfree
  | some n =>
    obtain ⟨hmem, hfree, hlowest⟩ := lowest_of_find hsorted hfind
    rw [hsome n hfind hfree]
    by_cases hreg : regular
    · have hfirst := first_free_iff hsorted hbusy hfind
      simp only [hin hreg] at hfirst hmem hlowest
      have hbelow : ∀ m, inside m → held m = false → n ≤ m := by
        intro m hm hidle
        refine hlowest m hm ?_
        by_contra hb
        rw [hbusy m (Bool.eq_true_of_not_eq_false hb)] at hidle
        cases hidle
      rw [and_iff_left hbelow, and_iff_right hmem, and_iff_right (.inl hreg), hfirst]
    · refine iff_of_false (fun h => hout hreg n h.1.1) fun hcond => ?_
      rw [hcond.1.resolve_left hreg n hmem] at hfree
      cases hfree

end First

/-! ## Levels -/

/-- The numbers of any two places differ by at most one. -/
def Level (f : α → Nat) (places : List α) : Prop := ∀ a ∈ places, ∀ b ∈ places, f a ≤ f b + 1

instance {f : α → Nat} {places : List α} : Decidable (Level f places) :=
  inferInstanceAs (Decidable (∀ a ∈ places, ∀ b ∈ places, f a ≤ f b + 1))

/-- **Adding one where there are fewest keeps the numbers level.** -/
theorem Level.bump {f f' : α → Nat} {places : List α} {m : α} (h : Level f places) (hm : ∀ b ∈ places, f m ≤ f b)
    (hup : f' m ≤ f m + 1) (hgrow : ∀ b, f b ≤ f' b) (hsame : ∀ b, b ≠ m → f' b = f b) : Level f' places := by
  intro a ha b hb
  have hb' := hgrow b
  by_cases ham : a = m
  · subst ham
    have hfew := hm b hb
    omega
  · have hab := h a ha b hb
    rw [hsame a ham]
    omega

end Select
