import Mathlib

/-!
# `Lib.Lists` — lists and truth values

Facts that the modules above need and the library does not have, over arbitrary element types.
-/

theorem Bool.eq_false_of_imp {a b : Bool} (h : a = true → b = true) (hb : b = false) : a = false := by
  cases a with
  | false => rfl
  | true => exact (h rfl).symm.trans hb

namespace List

variable {α β : Type} {f g : α → Option β}

theorem map_modify_of_forall {g : α → β} {f : α → α} (hg : ∀ a, g (f a) = g a) (l : List α) (i : Nat) :
    (l.modify i f).map g = l.map g := by
  refine ext_getElem? fun j => ?_
  rw [List.getElem?_map, List.getElem?_map, List.getElem?_modify]
  cases l[j]? with
  | none => rfl
  | some a =>
    simp only [Option.map_eq_map, Option.map_some]
    split
    · rw [hg]
    · rfl

theorem lookup_filter_ne [BEq α] [LawfulBEq α] [DecidableEq α] (l : List (α × β)) (k k' : α) :
    (l.filter fun e => e.1 ≠ k).lookup k' = if k' = k then none else l.lookup k' := by
  induction l with
  | nil => simp
  | cons e l ih =>
    rw [filter_cons]
    grind

/-- A list that ends in `b` and has `c` in it has `c` there, or before it. -/
theorem append_singleton_eq {done pre post : List α} {b c : α} (h : done ++ [b] = pre ++ c :: post) :
    (post = [] ∧ c = b) ∨ ∃ post', post = post' ++ [b] ∧ done = pre ++ c :: post' := by
  rcases eq_nil_or_concat post with rfl | ⟨post', b', rfl⟩
  · obtain ⟨-, heq⟩ := append_inj' h rfl
    cases heq
    exact .inl ⟨rfl, rfl⟩
  · rw [concat_eq_append] at h ⊢
    have h' : done ++ [b] = (pre ++ c :: post') ++ [b'] := by
      rw [h, append_assoc, cons_append]
    obtain ⟨hdone, heq⟩ := append_inj' h' rfl
    cases heq
    exact .inr ⟨post', rfl, hdone⟩

theorem eq_of_forall_take {as bs : List β} (h : ∀ n, as.take n = bs.take n) : as = bs := by
  have hlong := h (max as.length bs.length)
  rwa [take_of_length_le (le_max_left _ _), take_of_length_le (le_max_right _ _)] at hlong

/-- Leaving out elements that give nothing. -/
theorem flatMap_filter_not {g : α → List β} {p : α → Bool} {l : List α} (h : ∀ a ∈ l, p a = true → g a = []) :
    (l.filter fun a => !p a).flatMap g = l.flatMap g := by
  induction l with
  | nil => rfl
  | cons a l ih =>
    have hrest := ih fun b hb => h b (mem_cons_of_mem a hb)
    by_cases hp : p a = true
    · rw [filter_cons_of_neg (by simpa using hp), flatMap_cons, h a mem_cons_self hp, hrest, nil_append]
    · rw [filter_cons_of_pos (by simpa using hp), flatMap_cons, flatMap_cons, hrest]

/-- A filter that drops more gives a shorter list, unless it drops the same. -/
theorem length_filterMap_le_of_drops {as : List α} (h : ∀ a, f a = g a ∨ f a = none ∧ g a ≠ none) :
    (as.filterMap f).length ≤ (as.filterMap g).length ∧
      ((as.filterMap f).length = (as.filterMap g).length → ∀ a ∈ as, f a = g a) := by
  induction as with
  | nil => exact ⟨le_rfl, fun _ a ha => nomatch ha⟩
  | cons a as ih =>
    rcases h a with hsame | ⟨hnone, hsome⟩
    · rw [forall_mem_cons]
      cases hg : g a with
      | none =>
        rw [filterMap_cons_none (hsame.trans hg), filterMap_cons_none hg]
        exact ⟨ih.1, fun heq => ⟨hsame.trans hg, ih.2 heq⟩⟩
      | some b =>
        rw [filterMap_cons_some (hsame.trans hg), filterMap_cons_some hg, length_cons, length_cons]
        exact ⟨Nat.succ_le_succ ih.1, fun heq => ⟨hsame.trans hg, ih.2 (Nat.succ.inj heq)⟩⟩
    · obtain ⟨b, hb⟩ := Option.ne_none_iff_exists'.mp hsome
      rw [filterMap_cons_none hnone, filterMap_cons_some hb, length_cons]
      exact ⟨Nat.le_succ_of_le ih.1, fun heq => by omega⟩

theorem flatMap_eq_iff {u v : α → List β} {as : List α} (hle : ∀ a, (u a).length ≤ (v a).length) :
    as.flatMap u = as.flatMap v ↔ ∀ a ∈ as, u a = v a := by
  induction as with
  | nil => simp
  | cons a as ih =>
    have hrest : (as.flatMap u).length ≤ (as.flatMap v).length := by
      rw [length_flatMap, length_flatMap]
      exact sum_le_sum fun a' _ => hle a'
    rw [flatMap_cons, flatMap_cons, forall_mem_cons, ← ih]
    constructor
    · intro heq
      have hlen := congrArg length heq
      rw [length_append, length_append] at hlen
      have hfirst := hle a
      exact append_inj heq (by omega)
    · rintro ⟨hu, hus⟩
      rw [hu, hus]

/-- Batches that are filtered from their ends, against batches in order. -/
theorem flatMap_reverse_iff {batches : List (List α)} (h : ∀ a, f a = g a ∨ f a = none ∧ g a ≠ none) :
    batches.flatMap (fun batch => (batch.filterMap f).reverse) = batches.flatMap (fun batch => batch.filterMap g) ↔
      ∀ batch ∈ batches, (∀ a ∈ batch, f a = g a) ∧ (batch.filterMap g).reverse = batch.filterMap g := by
  rw [flatMap_eq_iff fun batch => by rw [length_reverse]; exact (length_filterMap_le_of_drops h).1]
  refine forall₂_congr fun batch _ => ?_
  constructor
  · intro heq
    have hlen := congrArg length heq
    rw [length_reverse] at hlen
    have hsame := (length_filterMap_le_of_drops h).2 hlen
    rw [filterMap_congr hsame] at heq
    exact ⟨hsame, heq⟩
  · rintro ⟨hsame, heq⟩
    rw [filterMap_congr hsame, heq]

end List
