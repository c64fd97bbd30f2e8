import Mathlib.Data.List.Induction
import Mathlib.Data.List.Nodup

/-!
# `BasisCell.Capi.Conditions` — the conditions of a resource

`upsert` merges a condition into the list of a resource, by its type. The list is written once per reconcile and is
all that is kept, so a `lastTransitionTime` has to stand for a whole history of upserts: it is the time of the entry
since which the status has been what it is (`Records`). Types that are never upserted belong to other controllers.
-/

namespace BasisCell.Capi

open List

structure Condition where
  kind : String
  status : String
  reason : Option String := none
  message : Option String := none
  lastTransitionTime : String
  observedGeneration : Option Int := none
  deriving DecidableEq, Repr

/-- What `upsert` makes of a condition of the same type. -/
def Condition.merge (current new : Condition) : Condition where
  kind := current.kind
  status := new.status
  reason := new.reason
  message := new.message
  lastTransitionTime := if current.status ≠ new.status then new.lastTransitionTime else current.lastTransitionTime
  observedGeneration := new.observedGeneration

/-- The first condition of the type is changed in place; a type that is not there goes to the end. -/
def upsert : List Condition → Condition → List Condition
  | [], new => [new]
  | current :: rest, new =>
    if current.kind = new.kind then current.merge new :: rest else current :: upsert rest new

/-! ## One upsert -/

section Upsert

variable {l : List Condition} {new : Condition}

/-- What does not look at the type sees no difference. -/
theorem filter_upsert {p : Condition → Bool} (hp : ∀ c, c.kind = new.kind → p c = false) :
    (upsert l new).filter p = l.filter p := by
  induction l with
  | nil => simp [upsert, hp]
  | cons c cs ih =>
    by_cases hkind : c.kind = new.kind
    · simp [upsert, hkind, hp c hkind, hp (c.merge new) hkind]
    · simp [upsert, hkind, filter_cons, ih]

theorem filter_upserts {upserts : List Condition} {p : Condition → Bool}
    (hp : ∀ u ∈ upserts, ∀ c, c.kind = u.kind → p c = false) : (upserts.foldl upsert l).filter p = l.filter p := by
  induction upserts generalizing l with
  | nil => rfl
  | cons u us ih =>
    rw [foldl_cons, ih fun x hx => hp x (mem_cons_of_mem u hx)]
    exact filter_upsert (hp u mem_cons_self)

theorem filter_upsert_self : (upsert l new).filter (fun c => c.kind = new.kind) =
    match l.filter fun c => c.kind = new.kind with
    | [] => [new]
    | c :: cs => c.merge new :: cs := by
  induction l with
  | nil => simp [upsert]
  | cons c cs ih =>
    by_cases hkind : c.kind = new.kind
    · simp [upsert, hkind, Condition.merge]
    · simpa [upsert, hkind] using ih

end Upsert

/-! ## Histories -/

/-- What has been said about a type: the condition it had, and the upserts. -/
def history (initial upserts : List Condition) (kind : String) : List Condition :=
  (initial ++ upserts).filter fun c => c.kind = kind

/-- The condition records the history: its transition time is that of the latest entry whose status differs from the
    one before it, or else of the first entry, and the rest is the last entry's. -/
structure Records (h : List Condition) (c : Condition) : Prop where
  since : ∃ before x after, h = before ++ x :: after ∧
    (∀ prev, before.getLast? = some prev → prev.status ≠ x.status) ∧ (∀ y ∈ after, y.status = x.status) ∧
    c.lastTransitionTime = x.lastTransitionTime
  last : ∃ u, h.getLast? = some u ∧ c.status = u.status ∧ c.reason = u.reason ∧ c.message = u.message ∧
    c.observedGeneration = u.observedGeneration

theorem records_first (c : Condition) : Records [c] c :=
  ⟨⟨[], c, [], rfl, nofun, nofun, rfl⟩, c, rfl, rfl, rfl, rfl, rfl⟩

theorem Records.merge {h : List Condition} {c new : Condition} (hc : Records h c) :
    Records (h ++ [new]) (c.merge new) := by
  refine ⟨?_, new, getLast?_concat, rfl, rfl, rfl, rfl⟩
  obtain ⟨u, hu, hstatus, -⟩ := hc.last
  by_cases hchange : c.status = new.status
  · obtain ⟨before, x, after, rfl, hbefore, hafter, htime⟩ := hc.since
    -- nothing has changed since `x`
    have hx : u.status = x.status := by
      rcases mem_cons.mp (mem_of_getLast? (l := x :: after) (by simpa using hu)) with rfl | hu
      · rfl
      · exact hafter u hu
    refine ⟨before, x, after ++ [new], by simp, hbefore, fun y hy => ?_, ?_⟩
    · rcases mem_append.mp hy with hy | hy
      · exact hafter y hy
      · rw [mem_singleton.mp hy, ← hchange, hstatus, hx]
    · simp [Condition.merge, hchange, htime]
  · refine ⟨h, new, [], rfl, fun prev hprev => ?_, nofun, ?_⟩
    · cases hu.symm.trans hprev
      exact fun heq => hchange (hstatus.trans heq)
    · simp [Condition.merge, hchange]

/-- After any upserts a type has no condition and no history, or one condition that records its history. -/
theorem recorded_upserts {initial : List Condition} (hdistinct : (initial.map (·.kind)).Nodup)
    (upserts : List Condition) (kind : String) :
    (history initial upserts kind = [] ∧ (upserts.foldl upsert initial).filter (·.kind = kind) = []) ∨
      ∃ c, (upserts.foldl upsert initial).filter (·.kind = kind) = [c] ∧ Records (history initial upserts kind) c := by
  induction upserts using List.reverseRecOn with
  | nil =>
    rw [history, append_nil, foldl_nil]
    have hone : ((initial.filter (·.kind = kind)).map (·.kind)).Nodup := hdistinct.sublist (filter_sublist.map _)
    have hkind : ∀ c ∈ initial.filter (·.kind = kind), c.kind = kind := by simp
    rcases hl : initial.filter (·.kind = kind) with _ | ⟨c, _ | ⟨d, rest⟩⟩
    · exact .inl ⟨hl, hl⟩
    · refine .inr ⟨c, hl, ?_⟩
      rw [hl]
      exact records_first c
    · rw [hl] at hone hkind
      simp [hkind c, hkind d] at hone
  | append_singleton us u ih =>
    rw [foldl_concat]
    by_cases hu : u.kind = kind
    · subst hu
      have hhistory : history initial (us ++ [u]) u.kind = history initial us u.kind ++ [u] := by simp [history]
      rw [hhistory, filter_upsert_self]
      rcases ih with ⟨hh, hl⟩ | ⟨c, hl, hc⟩
      · rw [hh, hl]
        exact .inr ⟨u, rfl, records_first u⟩
      · rw [hl]
        exact .inr ⟨_, rfl, hc.merge⟩
    · have hhistory : history initial (us ++ [u]) kind = history initial us kind := by simp [history, hu]
      rw [hhistory, filter_upsert fun c hc => by simp [hc, hu]]
      exact ih

/-- **The list keeps the history**: distinct types, other controllers' conditions as they were, and for every type
    that was upserted one condition that records what was said about it. -/
theorem conditions_faithful (initial upserts : List Condition) (hdistinct : (initial.map (·.kind)).Nodup) :
    ((upserts.foldl upsert initial).map (·.kind)).Nodup ∧
      ((upserts.foldl upsert initial).filter fun c => c.kind ∉ upserts.map (·.kind)) =
        (initial.filter fun c => c.kind ∉ upserts.map (·.kind)) ∧
      ∀ kind ∈ upserts.map (·.kind), ∃ c, (upserts.foldl upsert initial).filter (·.kind = kind) = [c] ∧
        Records (history initial upserts kind) c := by
  have hrecorded := recorded_upserts hdistinct upserts
  refine ⟨nodup_iff_count_le_one.mpr fun kind => ?_, filter_upserts fun u hu c hc => ?_, fun kind hkind => ?_⟩
  · rw [count_eq_countP, countP_map, countP_eq_length_filter]
    show ((upserts.foldl upsert initial).filter (·.kind = kind)).length ≤ 1
    rcases hrecorded kind with ⟨-, hnone⟩ | ⟨c, hone, -⟩
    · simp [hnone]
    · simp [hone]
  · simpa [hc] using ⟨u, hu, rfl⟩
  · refine (hrecorded kind).resolve_left fun h => ?_
    obtain ⟨u, hu, rfl⟩ := mem_map.mp hkind
    have hmem : u ∈ history initial upserts u.kind := mem_filter.mpr ⟨mem_append_right _ hu, by simp⟩
    rw [h.1] at hmem
    cases hmem

def cond (kind status lastTransitionTime : String) : Condition :=
  { kind, status, lastTransitionTime, observedGeneration := some 1 }

/-- Another controller's condition. -/
def paused : List Condition := [cond "Paused" "True" "t0"]

def flapping : List Condition := [cond "Ready" "False" "t1", cond "Ready" "True" "t2", cond "Ready" "True" "t3"]

theorem conditions_faithful_flapping :
    flapping.foldl upsert paused = [cond "Paused" "True" "t0", cond "Ready" "True" "t2"] ∧
      ∃ c, (flapping.foldl upsert paused).filter (·.kind = "Ready") = [c] ∧
        Records (history paused flapping "Ready") c :=
  ⟨by decide, (conditions_faithful paused flapping (by decide)).2.2 "Ready" (by decide)⟩

end BasisCell.Capi
