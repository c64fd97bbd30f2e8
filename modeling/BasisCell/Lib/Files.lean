import Mathlib.Logic.Function.Basic

/-!
# `Lib.Files` — names and the files behind them

A directory as a process sees it: names lead to files, and an open handle leads to a file whatever becomes of
its name. Creating a name that exists empties the file behind it; renaming moves a file to another name and
unlinks what was there. No two names lead to the same file, and a new file is one no name has led to.

Clients reason with `look`, the content behind a name: each operation changes it in one place.
-/

namespace Files

structure Disk (Path Content : Type) where
  name : Path → Option Nat
  file : Nat → Content
  /-- Files from here on have never had a name. -/
  next : Nat
  used : ∀ {p i}, name p = some i → i < next
  sole : ∀ {p q i}, name p = some i → name q = some i → p = q

namespace Disk

variable {Path Content : Type} (d : Disk Path Content)

/-- No names at all; `c` is what nobody can look at. -/
def empty (c : Content) : Disk Path Content where
  name := fun _ => none
  file := fun _ => c
  next := 0
  used := nofun
  sole := nofun

/-- The content behind a name. -/
def look (p : Path) : Option Content := (d.name p).map d.file

/-- Write to an open file. -/
def put (i : Nat) (c : Content) : Disk Path Content := { d with file := Function.update d.file i c }

section Seen

variable {d} {p : Path} {i : Nat} {c : Content}

theorem look_eq_none : d.look p = none ↔ d.name p = none := by
  simp [look]

theorem look_of_name (h : d.name p = some i) : d.look p = some (d.file i) := by
  simp [look, h]

@[simp] theorem name_put : (d.put i c).name p = d.name p := rfl

@[simp] theorem file_put : (d.put i c).file i = c := by
  simp [put]

end Seen

variable [DecidableEq Path]

/-! ## Operations -/

/-- A name that leads nowhere gets a file of its own. -/
def link (p : Path) (c : Content) (h : d.name p = none) : Disk Path Content where
  name := Function.update d.name p (some d.next)
  file := Function.update d.file d.next c
  next := d.next + 1
  used := by
    intro q i hq
    by_cases hqp : q = p
    · subst hqp
      rw [Function.update_self] at hq
      cases hq
      exact Nat.lt_succ_self _
    · rw [Function.update_of_ne hqp] at hq
      exact Nat.lt_succ_of_lt (d.used hq)
  sole := by
    have hold : ∀ {q r i}, q ≠ p → Function.update d.name p (some d.next) q = some i →
        Function.update d.name p (some d.next) r = some i → q = r := by
      intro q r i hqp hq hr
      rw [Function.update_of_ne hqp] at hq
      by_cases hrp : r = p
      · subst hrp
        rw [Function.update_self] at hr
        cases hr
        exact absurd (d.used hq) (Nat.lt_irrefl _)
      · rw [Function.update_of_ne hrp] at hr
        exact d.sole hq hr
    intro q r i hq hr
    by_cases hqp : q = p
    · by_cases hrp : r = p
      · rw [hqp, hrp]
      · exact (hold hrp hr hq).symm
    · exact hold hqp hq hr

/-- Open for writing, emptied if it exists. -/
def create (p : Path) (c : Content) : Disk Path Content × Nat :=
  match h : d.name p with
  | some i => (d.put i c, i)
  | none => (d.link p c h, d.next)

def remove (p : Path) : Disk Path Content where
  name := Function.update d.name p none
  file := d.file
  next := d.next
  used := by
    intro q i hq
    by_cases hqp : q = p
    · rw [hqp, Function.update_self] at hq
      cases hq
    · rw [Function.update_of_ne hqp] at hq
      exact d.used hq
  sole := by
    intro q r i hq hr
    by_cases hqp : q = p
    · rw [hqp, Function.update_self] at hq
      cases hq
    · by_cases hrp : r = p
      · rw [hrp, Function.update_self] at hr
        cases hr
      · rw [Function.update_of_ne hqp] at hq
        rw [Function.update_of_ne hrp] at hr
        exact d.sole hq hr

/-- Move the file behind `p` to the name `q`. -/
def move (p q : Path) (i : Nat) (h : d.name p = some i) : Disk Path Content where
  name := Function.update (d.remove p).name q (some i)
  file := d.file
  next := d.next
  used := by
    intro r j hr
    by_cases hrq : r = q
    · rw [hrq, Function.update_self] at hr
      cases hr
      exact d.used h
    · rw [Function.update_of_ne hrq] at hr
      exact (d.remove p).used hr
  sole := by
    have hfree : ∀ {r}, (d.remove p).name r ≠ some i := by
      intro r hr
      by_cases hrp : r = p
      · rw [hrp] at hr
        simp [remove] at hr
      · exact hrp (d.sole (by simpa [remove, Function.update_of_ne hrp] using hr) h)
    intro r r' j hr hr'
    by_cases hrq : r = q
    · by_cases hrq' : r' = q
      · rw [hrq, hrq']
      · rw [hrq, Function.update_self] at hr
        cases hr
        rw [Function.update_of_ne hrq'] at hr'
        exact absurd hr' hfree
    · rw [Function.update_of_ne hrq] at hr
      by_cases hrq' : r' = q
      · rw [hrq', Function.update_self] at hr'
        cases hr'
        exact absurd hr hfree
      · rw [Function.update_of_ne hrq'] at hr'
        exact (d.remove p).sole hr hr'

/-- Rename; `none` if there is no such file. -/
def rename (p q : Path) : Option (Disk Path Content) :=
  match h : d.name p with
  | some i => some (d.move p q i h)
  | none => none

/-! ## What each operation does to what is behind a name -/

section Look

variable {d : Disk Path Content} {p q : Path} {i : Nat} {c : Content}

/-- A write is seen behind the name of the file it goes to. -/
theorem look_put (h : d.name p = some i) : (d.put i c).look q = if q = p then some c else d.look q := by
  by_cases hqp : q = p
  · rw [if_pos hqp, hqp, look_of_name (i := i) (by exact h), file_put]
  · rw [if_neg hqp]
    cases hq : d.name q with
    | none => rw [look_eq_none.mpr hq, look_eq_none.mpr (by exact hq)]
    | some j =>
      have hji : j ≠ i := fun hji => hqp (d.sole hq (hji ▸ h))
      rw [look_of_name hq, look_of_name (i := j) (by exact hq)]
      simp [put, Function.update_of_ne hji]

theorem create_of_some (h : d.name p = some i) : d.create p c = (d.put i c, i) := by
  unfold create
  split
  · rename_i j hj
    cases hj.symm.trans h
    rfl
  · rename_i hnone
    cases hnone.symm.trans h

theorem create_of_none (h : d.name p = none) : d.create p c = (d.link p c h, d.next) := by
  unfold create
  split
  · rename_i j hj
    cases hj.symm.trans h
  · rfl

/-- The handle leads to the file behind the name. -/
theorem name_create : (d.create p c).1.name p = some (d.create p c).2 := by
  cases h : d.name p with
  | some i =>
    rw [create_of_some h]
    exact h
  | none =>
    rw [create_of_none h]
    exact Function.update_self ..

theorem file_create : (d.create p c).1.file (d.create p c).2 = c := by
  cases h : d.name p with
  | some i =>
    rw [create_of_some h]
    exact file_put
  | none =>
    rw [create_of_none h]
    exact Function.update_self ..

theorem name_create_ne (hqp : q ≠ p) : (d.create p c).1.name q = d.name q := by
  cases h : d.name p with
  | some i => rw [create_of_some h, name_put]
  | none =>
    rw [create_of_none h]
    exact Function.update_of_ne hqp ..

/-- What is behind the other names is not touched. -/
theorem look_create : (d.create p c).1.look q = if q = p then some c else d.look q := by
  by_cases hqp : q = p
  · rw [if_pos hqp, hqp, look_of_name name_create, file_create]
  · rw [if_neg hqp]
    cases h : d.name p with
    | some i => rw [create_of_some h, look_put h, if_neg hqp]
    | none =>
      rw [create_of_none h]
      cases hq : d.name q with
      | none => rw [look_eq_none.mpr hq, look_eq_none, ← hq]; exact Function.update_of_ne hqp ..
      | some j =>
        have hj : j ≠ d.next := Nat.ne_of_lt (d.used hq)
        have hname : (d.link p c h).name q = some j := (Function.update_of_ne hqp ..).trans hq
        rw [look_of_name hq, look_of_name hname]
        exact congrArg some (Function.update_of_ne hj ..)

theorem look_remove : (d.remove p).look q = if q = p then none else d.look q := by
  by_cases hqp : q = p
  · simp [look, remove, hqp]
  · simp [look, remove, hqp]

theorem name_remove_ne (hqp : q ≠ p) : (d.remove p).name q = d.name q := Function.update_of_ne hqp ..

theorem rename_eq_some {d' : Disk Path Content} (h : d.rename p q = some d') :
    ∃ (i : Nat) (hi : d.name p = some i), d' = d.move p q i hi := by
  unfold rename at h
  split at h
  · rename_i i hi
    exact ⟨i, hi, (Option.some.inj h).symm⟩
  · cases h

theorem name_rename_ne {d' : Disk Path Content} {r : Path} (h : d.rename p q = some d') (hrp : r ≠ p) (hrq : r ≠ q) :
    d'.name r = d.name r := by
  obtain ⟨i, hi, rfl⟩ := rename_eq_some h
  exact (Function.update_of_ne hrq ..).trans (name_remove_ne hrp)

/-- The file is behind the new name, and no longer behind the old one. -/
theorem look_rename {d' : Disk Path Content} {r : Path} (h : d.rename p q = some d') :
    d'.look r = if r = q then d.look p else if r = p then none else d.look r := by
  obtain ⟨i, hi, rfl⟩ := rename_eq_some h
  by_cases hrq : r = q
  · rw [if_pos hrq, hrq, look_of_name hi, look_of_name (i := i) (Function.update_self ..)]
    rfl
  · rw [if_neg hrq]
    have hname : (d.move p q i hi).name r = (d.remove p).name r := Function.update_of_ne hrq ..
    have hlook : (d.move p q i hi).look r = (d.remove p).look r := by
      unfold look
      rw [hname]
      rfl
    rw [hlook, look_remove]

end Look

end Disk

end Files
