import Mathlib.Algebra.Order.Ring.Nat
import Mathlib.Data.Nat.Log
import Mathlib.Data.List.Basic

/-!
# `Lib.Dyadic` — aligned blocks of power-of-two size, and searches in step

Numbers that agree after division by `2 ^ k` form an aligned block of size `2 ^ k`. Two such blocks are nested
or disjoint, and whether they meet is decided by looking where their first elements lie.

A search for the first element that passes a test is determined by the outcomes of the test alone, so two
searches whose tests agree position by position stop at the same position.
-/

namespace Dyadic

variable {a b c k l : Nat}

/-- The first element of the block of `b`, and its last, bound the block. -/
theorem mem_block : b / 2 ^ k * 2 ^ k ≤ a ∧ a ≤ b / 2 ^ k * 2 ^ k + 2 ^ k - 1 ↔ a / 2 ^ k = b / 2 ^ k := by
  have hpos : 0 < 2 ^ k := Nat.two_pow_pos k
  rw [Nat.div_eq_iff hpos]

/-- A block is inside every larger block it meets. -/
theorem widen (hkl : k ≤ l) (h : a / 2 ^ k = b / 2 ^ k) : a / 2 ^ l = b / 2 ^ l := by
  obtain ⟨d, rfl⟩ := Nat.exists_eq_add_of_le hkl
  rw [Nat.pow_add, ← Nat.div_div_eq_div_mul, ← Nat.div_div_eq_div_mul, h]

/-- The first element of a block is in the block. -/
theorem base_div : b / 2 ^ k * 2 ^ k / 2 ^ k = b / 2 ^ k := Nat.mul_div_cancel _ (Nat.two_pow_pos k)

/-- **Two blocks meet iff** the first element of one of them lies in the other. -/
theorem meet_iff : (∃ x, x / 2 ^ k = a / 2 ^ k ∧ x / 2 ^ l = b / 2 ^ l) ↔
    b / 2 ^ l * 2 ^ l / 2 ^ k = a / 2 ^ k ∨ a / 2 ^ k * 2 ^ k / 2 ^ l = b / 2 ^ l := by
  constructor
  · rintro ⟨x, hxa, hxb⟩
    -- the smaller block is inside the larger one, so its first element is
    rcases Nat.le_total k l with hkl | hlk
    · right
      rw [← hxb]
      exact widen hkl (base_div.trans hxa.symm)
    · left
      rw [← hxa]
      exact widen hlk (base_div.trans hxb.symm)
  · rintro (h | h)
    · exact ⟨_, h, base_div⟩
    · exact ⟨_, base_div, h⟩

/-- Rounding up to a multiple of the block size. -/
theorem align_up (hpos : 0 < b) : a ≤ (a + (b - 1)) / b * b ∧ (a + (b - 1)) / b * b < a + b := by
  have hlt := Nat.lt_div_mul_add (a := a + (b - 1)) hpos
  have hle := Nat.div_mul_le_self (a + (b - 1)) b
  omega

/-- Aligning up does not pass an aligned number. -/
theorem align_le {m : Nat} (hpos : 0 < b) (h : a ≤ b * m) : (a + (b - 1)) / b ≤ m := by
  rw [← Nat.lt_succ_iff, Nat.div_lt_iff_lt_mul hpos, Nat.succ_mul, Nat.mul_comm m b]
  omega

/-- **Two searches in step stop together.** -/
theorem find_in_step {α β : Type} {p : α → Bool} {q : β → Bool} :
    ∀ {as : List α} {bs : List β} {x : α} {y : β},
      (∀ (i : Nat) a b, as[i]? = some a → bs[i]? = some b → p a = q b) →
      as.find? p = some x → bs.find? q = some y → ∃ i : Nat, as[i]? = some x ∧ bs[i]? = some y
  | [], _, _, _, _, h, _ => nomatch h
  | _ :: _, [], _, _, _, _, h => nomatch h
  | a :: as, b :: bs, x, y, hstep, hx, hy => by
    have hhead : p a = q b := hstep 0 a b rfl rfl
    rw [List.find?_cons] at hx hy
    rw [← hhead] at hy
    cases hp : p a with
    | true =>
      rw [hp] at hx hy
      exact ⟨0, hx, hy⟩
    | false =>
      rw [hp] at hx hy
      obtain ⟨i, hi, hi'⟩ := find_in_step (fun i a b ha hb => hstep (i + 1) a b ha hb) hx hy
      exact ⟨i + 1, hi, hi'⟩

end Dyadic
