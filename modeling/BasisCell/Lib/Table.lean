import Mathlib

/-!
# `Lib.Table` — tables under uniqueness constraints

A relational table as the list of its rows together with the proof that no two of them violate a
uniqueness constraint. A row type says once, in its `Schema` instance, when two rows clash (equal primary
keys, or equal values of some `UNIQUE` column group); from then on a table holding two clashing rows cannot
be built, and no client has to carry the fact along.

The three write statements are `insert` (fails on a clash, as the engine's unique violation does), `delete`
and `update`; the last one only takes assignments that leave the key columns alone. `sum` is `SUM` over the
rows a predicate selects, with one lemma per statement saying what that statement does to it.
-/

namespace Relational

open List

/-- When two rows of a table may not stand together. -/
class Schema (α : Type) where
  /-- The two rows agree on the columns of some uniqueness constraint. -/
  Clash : α → α → Prop
  clash_symm : ∀ {a b : α}, Clash a b → Clash b a
  decClash : DecidableRel Clash

instance {α : Type} [Schema α] : DecidableRel (@Schema.Clash α _) := Schema.decClash

/-- The rows of a table, no two of them clashing. -/
structure Table (α : Type) [Schema α] where
  rows : List α
  distinct : rows.Pairwise fun a b => ¬ Schema.Clash a b

/-- An assignment to columns outside every uniqueness constraint. -/
def KeepsKey {α : Type} [Schema α] (f : α → α) : Prop :=
  ∀ a b, Schema.Clash (f a) b ↔ Schema.Clash a b

namespace Table

variable {α : Type} [Schema α] {t t' : Table α} {p q : α → Bool} {f : α → α} {r a b : α}

/-- The table without rows. -/
def empty : Table α := ⟨[], List.Pairwise.nil⟩

/-- The first row that `p` selects. -/
def find (t : Table α) (p : α → Bool) : Option α := t.rows.find? p

/-- `INSERT`: `none` is the unique violation. -/
def insert (t : Table α) (r : α) : Option (Table α) :=
  if h : ∀ a ∈ t.rows, ¬ Schema.Clash a r then
    some ⟨t.rows ++ [r], pairwise_append.mpr
      ⟨t.distinct, pairwise_singleton _ _, fun a ha b hb => by
        rw [mem_singleton] at hb; subst hb; exact h a ha⟩⟩
  else none

/-- The table of a list of rows; a row that clashes with an earlier one is left out. -/
def ofList (rows : List α) : Table α := rows.foldl (fun t r => (t.insert r).getD t) empty

/-- `DELETE … WHERE p`. -/
def delete (t : Table α) (p : α → Bool) : Table α :=
  ⟨t.rows.filter fun a => !p a, t.distinct.filter _⟩

theorem clash_update (hf : KeepsKey f) (a b : α) :
    Schema.Clash (if p a then f a else a) (if p b then f b else b) ↔ Schema.Clash a b := by
  have left : ∀ c, Schema.Clash (if p a then f a else a) c ↔ Schema.Clash a c := by
    intro c
    split
    · exact hf a c
    · exact Iff.rfl
  rw [left]
  split
  · exact ⟨fun h => Schema.clash_symm ((hf b a).mp (Schema.clash_symm h)),
      fun h => Schema.clash_symm ((hf b a).mpr (Schema.clash_symm h))⟩
  · exact Iff.rfl

/-- `UPDATE … SET f WHERE p`, for an assignment `f` outside the keys. -/
def update (t : Table α) (p : α → Bool) (f : α → α) (hf : KeepsKey f) : Table α :=
  ⟨t.rows.map fun a => if p a then f a else a, by
    rw [pairwise_map]
    exact t.distinct.imp fun hn hc => hn ((clash_update hf _ _).mp hc)⟩

/-- `INSERT OR REPLACE`: the rows that the new one clashes with make way for it. -/
def upsert (t : Table α) (r : α) : Table α :=
  ⟨(t.rows.filter fun a => ¬ Schema.Clash a r) ++ [r], pairwise_append.mpr
    ⟨t.distinct.filter _, pairwise_singleton _ _, fun a ha b hb => by
      rw [mem_singleton] at hb
      subst hb
      exact of_decide_eq_true (mem_filter.mp ha).2⟩⟩

/-- The insert of a map: a row that is there already stays where it is. -/
def put [DecidableEq α] (t : Table α) (r : α) : Table α := if r ∈ t.rows then t else t.upsert r

/-! ## Rows after a statement -/

@[simp] theorem rows_delete : (t.delete p).rows = t.rows.filter fun a => !p a := rfl

@[simp] theorem rows_update {hf : KeepsKey f} :
    (t.update p f hf).rows = t.rows.map fun a => if p a then f a else a := rfl

theorem rows_insert (h : t.insert r = some t') : t'.rows = t.rows ++ [r] := by
  unfold insert at h
  split at h
  · cases h; rfl
  · cases h

/-- An insert goes through iff no stored row clashes with the new one. -/
theorem insert_isSome_iff : (t.insert r).isSome ↔ ∀ a ∈ t.rows, ¬ Schema.Clash a r := by
  unfold insert
  split
  · simpa using ‹∀ a ∈ t.rows, ¬ Schema.Clash a r›
  · simpa using ‹¬ ∀ a ∈ t.rows, ¬ Schema.Clash a r›

theorem mem_insert (h : t.insert r = some t') : a ∈ t'.rows ↔ a ∈ t.rows ∨ a = r := by
  rw [rows_insert h, mem_append, mem_singleton]

theorem insert_eq_none_iff : t.insert r = none ↔ ∃ a ∈ t.rows, Schema.Clash a r := by
  rw [← Option.not_isSome_iff_eq_none, insert_isSome_iff]
  simp only [not_forall, not_not, exists_prop]

/-- A list of inserts goes through iff none of the rows clashes with a stored one or with another of the list. -/
theorem foldlM_insert_isSome_iff {rows : List α} : (rows.foldlM (fun (t : Table α) r => t.insert r) t).isSome ↔
    (∀ a ∈ t.rows, ∀ r ∈ rows, ¬ Schema.Clash a r) ∧ rows.Pairwise fun a b => ¬ Schema.Clash a b := by
  induction rows generalizing t with
  | nil => simp
  | cons r rows ih =>
    rw [foldlM_cons, pairwise_cons]
    cases h : t.insert r with
    | none =>
      obtain ⟨a, ha, hclash⟩ := insert_eq_none_iff.mp h
      simp only [Option.bind_eq_bind, Option.bind_none, Option.isSome_none, Bool.false_eq_true, false_iff]
      exact fun hall => hall.1 a ha r mem_cons_self hclash
    | some t' =>
      have hnew := insert_isSome_iff.mp (h ▸ rfl : (t.insert r).isSome)
      simp only [Option.bind_eq_bind, Option.bind_some, ih, mem_insert h, mem_cons]
      constructor
      · rintro ⟨hold, hpair⟩
        refine ⟨?_, fun b hb => hold r (.inr rfl) b hb, hpair⟩
        rintro a ha b (rfl | hb)
        · exact hnew a ha
        · exact hold a (.inl ha) b hb
      · rintro ⟨hold, hfirst, hpair⟩
        refine ⟨?_, hpair⟩
        rintro a (ha | rfl) b hb
        · exact hold a ha b (.inr hb)
        · exact hfirst b hb

theorem mem_delete : a ∈ (t.delete p).rows ↔ a ∈ t.rows ∧ p a = false := by
  simp

theorem mem_upsert : a ∈ (t.upsert r).rows ↔ (a ∈ t.rows ∧ ¬ Schema.Clash a r) ∨ a = r := by
  simp [upsert]

theorem eq_of_clash (ha : a ∈ t.rows) (hb : b ∈ t.rows) (h : Schema.Clash a b) : a = b := by
  by_contra hne
  have : Std.Symm fun a b : α => ¬ Schema.Clash a b := ⟨fun _ _ hn hc => hn (Schema.clash_symm hc)⟩
  exact t.distinct.forall ha hb hne h

theorem mem_put [DecidableEq α] : a ∈ (t.put r).rows ↔ (a ∈ t.rows ∧ ¬ Schema.Clash a r) ∨ a = r := by
  unfold put
  split
  · rename_i hr
    refine ⟨fun ha => ?_, ?_⟩
    · by_cases hclash : Schema.Clash a r
      · exact .inr (eq_of_clash ha hr hclash)
      · exact .inl ⟨ha, hclash⟩
    · rintro (⟨ha, -⟩ | rfl)
      · exact ha
      · exact hr
  · exact mem_upsert

theorem mem_update {hf : KeepsKey f} : a ∈ (t.update p f hf).rows ↔ ∃ b ∈ t.rows, (if p b then f b else b) = a := by
  rw [rows_update, mem_map]

/-- A selection by a key finds the row with that key. -/
theorem find_eq_some (hp : ∀ a b, p a = true → p b = true → Schema.Clash a b) :
    t.find p = some a ↔ a ∈ t.rows ∧ p a = true := by
  constructor
  · intro h
    exact ⟨mem_of_find?_eq_some h, List.find?_some h⟩
  · rintro ⟨ha, hpa⟩
    cases hfind : t.find p with
    | none => exact absurd hpa (List.find?_eq_none.mp hfind a ha)
    | some b =>
      have hpb : p b = true := List.find?_some hfind
      rw [eq_of_clash (mem_of_find?_eq_some hfind) ha (hp b a hpb hpa)]

/-- And finds all there is. -/
theorem filter_eq_find (hp : ∀ a b, p a = true → p b = true → Schema.Clash a b) :
    t.rows.filter p = (t.find p).toList := by
  obtain ⟨rows, hdistinct⟩ := t
  unfold find
  dsimp only
  induction rows with
  | nil => rfl
  | cons a rows ih =>
    obtain ⟨hfirst, hrest⟩ := pairwise_cons.mp hdistinct
    by_cases hpa : p a = true
    · have hnone : rows.filter p = [] := filter_eq_nil_iff.mpr fun b hb hpb => hfirst b hb (hp a b hpa hpb)
      rw [filter_cons_of_pos hpa, List.find?_cons_of_pos hpa, hnone]
      rfl
    · rw [filter_cons_of_neg hpa, List.find?_cons_of_neg hpa]
      exact ih hrest

@[ext] theorem ext (h : t.rows = t'.rows) : t = t' := by
  cases t
  cases t'
  cases h
  rfl

theorem map_rows_update {β : Type} (hf : KeepsKey f) (g : α → β) :
    (t.update p f hf).rows.map g = t.rows.map fun a => if p a then g (f a) else g a := by
  rw [rows_update, map_map]
  exact map_congr_left fun a _ => apply_ite g ..

/-- An assignment to the rows of one key leaves the other rows. -/
theorem mem_update_other (hf : KeepsKey f) (hp : p a = false) (hpf : ∀ b, p (f b) = p b) :
    a ∈ (t.update p f hf).rows ↔ a ∈ t.rows := by
  rw [mem_update]
  constructor
  · rintro ⟨b, hb, rfl⟩
    by_cases h : p b = true
    · rw [if_pos h, hpf, h] at hp
      cases hp
    · rwa [if_neg h]
  · intro ha
    exact ⟨a, ha, if_neg (by rw [hp]; exact Bool.false_ne_true)⟩

section Key

variable {κ : Type} {key : α → κ} {x : κ}

/-- Assignments outside the key keep a row with that key. -/
theorem exists_update (hf : KeepsKey f) (hkey : ∀ a, key (f a) = key a) (h : ∃ a ∈ t.rows, key a = x) :
    ∃ a ∈ (t.update p f hf).rows, key a = x := by
  obtain ⟨a, ha, rfl⟩ := h
  refine ⟨_, mem_map_of_mem ha, ?_⟩
  split
  · exact hkey a
  · rfl

theorem exists_insert (hins : t.insert r = some t') (h : ∃ a ∈ t.rows, key a = x) : ∃ a ∈ t'.rows, key a = x := by
  obtain ⟨a, ha, hkey⟩ := h
  exact ⟨a, (mem_insert hins).mpr (.inl ha), hkey⟩

end Key

theorem delete_delete : (t.delete p).delete q = t.delete fun a => p a || q a := by
  ext1
  simp only [rows_delete, filter_filter]
  congr 1
  funext a
  cases p a <;> cases q a <;> rfl

theorem delete_congr (h : ∀ a ∈ t.rows, p a = q a) : t.delete p = t.delete q := by
  ext1
  rw [rows_delete, rows_delete]
  exact filter_congr fun a ha => by rw [h a ha]

theorem delete_eq_self (h : ∀ a ∈ t.rows, p a = false) : t.delete p = t := by
  ext1
  rw [rows_delete, filter_eq_self]
  intro a ha
  rw [h a ha]
  rfl

theorem update_eq_self (hf : KeepsKey f) (h : ∀ a ∈ t.rows, p a = false) : t.update p f hf = t := by
  ext1
  rw [rows_update]
  refine (map_congr_left fun a ha => ?_).trans (map_id _)
  rw [h a ha]
  rfl

/-! ## Sums -/

/-- `SELECT COALESCE(SUM(w), 0) … WHERE p`. -/
def sum (t : Table α) (p : α → Bool) (w : α → Int) : Int := ((t.rows.filter p).map w).sum

variable {w w' : α → Int}

theorem sum_congr (h : ∀ a ∈ t.rows, w a = w' a) : t.sum p w = t.sum p w' := by
  unfold sum
  rw [map_congr_left fun a ha => h a (mem_filter.mp ha).1]

theorem sum_insert (h : t.insert r = some t') :
    t'.sum p w = t.sum p w + if p r then w r else 0 := by
  unfold sum
  rw [rows_insert h, filter_append, map_append, sum_append]
  by_cases hp : p r <;> simp [hp]

/-- Assignments to columns the sum does not read leave it alone. -/
theorem sum_of_update (h : t'.rows = t.rows.map fun a => if q a then f a else a)
    (hp : ∀ a, p (f a) = p a) (hw : ∀ a, w (f a) = w a) : t'.sum p w = t.sum p w := by
  unfold sum
  rw [h]
  clear h
  induction t.rows with
  | nil => rfl
  | cons a as ih =>
    have hpa : p (if q a then f a else a) = p a := by split <;> simp [hp]
    have hwa : w (if q a then f a else a) = w a := by split <;> simp [hw]
    rw [map_cons, filter_cons, filter_cons, hpa]
    split
    · rw [map_cons, map_cons, sum_cons, sum_cons, hwa, ih]
    · exact ih

/-- Deleting rows of nonnegative weight does not raise a sum. -/
theorem sum_delete_le (hw : ∀ a ∈ t.rows, 0 ≤ w a) : (t.delete q).sum p w ≤ t.sum p w := by
  unfold sum
  refine List.Sublist.sum_le_sum (((filter_sublist).filter p).map w) ?_
  intro x hx
  obtain ⟨a, ha, rfl⟩ := mem_map.mp hx
  exact hw a (mem_filter.mp ha).1

end Table

end Relational
