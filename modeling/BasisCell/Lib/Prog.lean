import Mathlib.Logic.Basic

/-!
# `Lib.Prog` — programs that suspend at every call, and protocols they follow

A program over a signature of operations is a tree: it has returned, or it is suspended at one operation and
continues with that operation's response. Between two operations it does nothing a second program could
see, so a tree says exactly where others may interleave.

A `Protocol` is an automaton over the operations: in each phase some are allowed, and the response of an
allowed one decides the next phase. `Follows` says that a program never leaves it, whatever the responses
are. That is a property of the program alone, proved once along its syntax; an argument about a concurrent
system then looks at the few phases and never at the program text again.

## Contents
- `Prog`, its monad, `perform`, the loops `forEach`, `filterEach` and `mapEach`, and `eval` for a run without
  company, with a rule for each loop.
- `subst`: a program whose operations are carried out by programs.
- `Succeeds`: total correctness of a run alone, with its rules.
- `Protocol`, `Protocol.Follows` and its rules: bind, weakening, failure, the loops, `Follows.eval`.
- `Protocol.Stays`: programs that a phase does not notice.
-/

namespace Conc

open List

/-- A computation that has returned or waits at an operation for its response. -/
inductive Prog (Op : Type) (Resp : Op → Type) (α : Type) where
  | ret (a : α)
  | call (o : Op) (k : Resp o → Prog Op Resp α)

namespace Prog

variable {Op : Type} {Resp : Op → Type} {σ α β : Type}

def bind : Prog Op Resp α → (α → Prog Op Resp β) → Prog Op Resp β
  | ret a, f => f a
  | call o k, f => call o fun r => (k r).bind f

instance : Monad (Prog Op Resp) where
  pure := ret
  bind := bind

/-- Run one operation. -/
def perform (o : Op) : Prog Op Resp (Resp o) := call o ret

/-- `for b in bs { f(b).await }`. -/
def forEach : List β → (β → Prog Op Resp Unit) → Prog Op Resp Unit
  | [], _ => ret ()
  | b :: bs, f => (f b).bind fun _ => forEach bs f

/-- The elements of a list that an effectful test selects. -/
def filterEach : List β → (β → Prog Op Resp Bool) → Prog Op Resp (List β)
  | [], _ => ret []
  | b :: bs, f => (f b).bind fun keep => (filterEach bs f).bind fun rest =>
      ret (if keep then b :: rest else rest)

/-- The results of a fallible body over a list; the first error ends the loop. -/
def mapEach {γ ε : Type} : List β → (β → Prog Op Resp (Except ε γ)) → Prog Op Resp (Except ε (List γ))
  | [], _ => ret (.ok [])
  | b :: bs, f => (f b).bind fun
    | .error e => ret (.error e)
    | .ok c => (mapEach bs f).bind fun rest => ret (rest.map (c :: ·))

/-- Has the program returned? -/
def finished : Prog Op Resp α → Bool
  | ret _ => true
  | call _ _ => false

/-- Run alone, to the end. -/
def eval (exec : (o : Op) → σ → σ × Resp o) : Prog Op Resp α → σ → σ × α
  | ret a, s => (s, a)
  | call o k, s => eval exec (k (exec o s).2) (exec o s).1

variable {exec : (o : Op) → σ → σ × Resp o}

/-- A run of two programs in sequence is the second one's run from where the first one ends. -/
theorem eval_bind (p : Prog Op Resp α) (f : α → Prog Op Resp β) (s : σ) :
    (p >>= f).eval exec s = (f (p.eval exec s).2).eval exec (p.eval exec s).1 := by
  induction p generalizing s with
  | ret a => rfl
  | call o k ih => exact ih _ _

/-- Sequencing for runs: what the first program establishes is what the second one may use. -/
theorem eval_seq {R : σ × α → Prop} {S : σ × β → Prop} {p : Prog Op Resp α}
    {f : α → Prog Op Resp β} {s : σ} (hp : R (p.eval exec s)) (hf : ∀ s' a, R (s', a) → S ((f a).eval exec s')) :
    S ((p >>= f).eval exec s) := by
  rw [eval_bind]
  exact hf _ _ hp

theorem eval_filterEach_cons {f : β → Prog Op Resp Bool} (b : β) (bs : List β)
    (s : σ) : (filterEach (b :: bs) f).eval exec s =
      (((filterEach bs f).eval exec ((f b).eval exec s).1).1,
        if ((f b).eval exec s).2 then b :: ((filterEach bs f).eval exec ((f b).eval exec s).1).2
        else ((filterEach bs f).eval exec ((f b).eval exec s).1).2) := by
  show (f b >>= fun keep => filterEach bs f >>= fun rest => ret (if keep then b :: rest else rest)).eval exec s = _
  rw [eval_bind, eval_bind]
  rfl

variable {I : σ → Prop}

/-- A run of a selection keeps what every test keeps. -/
theorem eval_filterEach {f : β → Prog Op Resp Bool}
    (hf : ∀ b s, I s → I ((f b).eval exec s).1) (bs : List β) {s : σ} (hs : I s) :
    I ((filterEach bs f).eval exec s).1 := by
  induction bs generalizing s with
  | nil => exact hs
  | cons b bs ih =>
    rw [eval_filterEach_cons]
    exact ih (hf b s hs)

/-- The loop rule for runs: `I` holds after every iteration, and what a result shows of its element (`v b`,
    read off the result by `u`) the list of results shows of the list. -/
theorem eval_mapEach {γ δ ε : Type} {u : γ → δ} {v : β → δ} {f : β → Prog Op Resp (Except ε γ)}
    (hf : ∀ b s, I s → I ((f b).eval exec s).1 ∧ ∀ c, ((f b).eval exec s).2 = .ok c → u c = v b)
    (bs : List β) {s : σ} (hs : I s) : I ((mapEach bs f).eval exec s).1 ∧
      ∀ cs, ((mapEach bs f).eval exec s).2 = .ok cs → cs.map u = bs.map v := by
  induction bs generalizing s with
  | nil =>
    refine ⟨hs, fun cs hcs => ?_⟩
    cases hcs
    rfl
  | cons b bs ih =>
    obtain ⟨hI, hu⟩ := hf b s hs
    have hrun : (mapEach (b :: bs) f).eval exec s = _ := eval_bind (f b) _ s
    rw [hrun]
    generalize hr : ((f b).eval exec s).2 = r at hu
    cases r with
    | error e => exact ⟨hI, fun cs hcs => nomatch hcs⟩
    | ok c =>
      have hrest : ∀ t, (Prog.bind (mapEach bs f) fun rest => ret (rest.map (c :: ·))).eval exec t = _ :=
        eval_bind (mapEach bs f) _
      dsimp only
      rw [hrest]
      obtain ⟨hI', hmap⟩ := ih hI
      refine ⟨hI', fun cs hcs => ?_⟩
      cases htail : ((mapEach bs f).eval exec ((f b).eval exec s).1).2 with
      | error e =>
        rw [htail] at hcs
        cases hcs
      | ok tail =>
        rw [htail] at hcs
        cases hcs
        rw [map_cons, map_cons, hu c rfl, hmap tail htail]

/-! ### Operations as programs -/

/-- The program with every operation carried out by a program over other operations. -/
def subst {Op' : Type} {Resp' : Op' → Type} (f : (o : Op) → Prog Op' Resp' (Resp o)) :
    Prog Op Resp α → Prog Op' Resp' α
  | ret a => ret a
  | call o k => (f o).bind fun r => (k r).subst f

/-! ### Runs that succeed -/

section Succeeds

variable {ε : Type} {p : ExceptT ε (Prog Op Resp) α}
  {f : α → ExceptT ε (Prog Op Resp) β} {s : σ} {Q : α → σ → Prop} {R : β → σ → Prop}

/-- Run alone from `s`, the program returns without an error, and `Q` holds of its result and the state. -/
def Succeeds (exec : (o : Op) → σ → σ × Resp o) (p : ExceptT ε (Prog Op Resp) α) (s : σ) (Q : α → σ → Prop) : Prop :=
  ∃ a s', p.run.eval exec s = (s', .ok a) ∧ Q a s'

theorem Succeeds.mono (h : Succeeds exec p s Q) {Q' : α → σ → Prop} (hQ : ∀ a s', Q a s' → Q' a s') :
    Succeeds exec p s Q' := by
  obtain ⟨a, s', hrun, hq⟩ := h
  exact ⟨a, s', hrun, hQ a s' hq⟩

theorem succeeds_pure {a : α} (h : Q a s) : Succeeds exec (pure a : ExceptT ε (Prog Op Resp) α) s Q := ⟨a, s, rfl, h⟩

/-- Sequencing: the rest succeeds from where the first part ends. -/
theorem Succeeds.bind (h : Succeeds exec p s Q) (hf : ∀ a s', Q a s' → Succeeds exec (f a) s' R) :
    Succeeds exec (p >>= f) s R := by
  obtain ⟨a, s', hrun, hq⟩ := h
  obtain ⟨b, s'', hrun', hr⟩ := hf a s' hq
  refine ⟨b, s'', ?_, hr⟩
  have hbind : (p >>= f).run.eval exec s = _ := eval_bind p.run (ExceptT.bindCont f) s
  rw [hbind, hrun]
  exact hrun'

theorem succeeds_lift {p : Prog Op Resp α} (h : Q (p.eval exec s).2 (p.eval exec s).1) :
    Succeeds exec (ExceptT.lift p : ExceptT ε (Prog Op Resp) α) s Q := by
  refine ⟨_, _, ?_, h⟩
  exact eval_bind p (fun a => (pure (Except.ok a) : Prog Op Resp (Except ε α))) s

theorem ok_of_bind {b : β} {s'' : σ} (h : (p >>= f).run.eval exec s = (s'', .ok b)) :
    ∃ a s', p.run.eval exec s = (s', .ok a) ∧ (f a).run.eval exec s' = (s'', .ok b) := by
  have hbind : (p >>= f).run.eval exec s = _ := eval_bind p.run (ExceptT.bindCont f) s
  rw [hbind] at h
  rcases hp : p.run.eval exec s with ⟨s', _ | a⟩
  · rw [hp] at h
    cases h
  · rw [hp] at h
    exact ⟨a, s', rfl, h⟩

/-- **Loop rule.** `J` is about the elements done so far. -/
theorem succeeds_forM {J : List β → σ → Prop} {f : β → ExceptT ε (Prog Op Resp) PUnit} {bs : List β}
    (hf : ∀ done b rest s, bs = done ++ b :: rest → J done s → Succeeds exec (f b) s fun _ s' => J (done ++ [b]) s')
    (hs : J [] s) : Succeeds exec (bs.forM f) s fun _ s' => J bs s' := by
  have loop : ∀ rest done s, bs = done ++ rest → J done s → Succeeds exec (rest.forM f) s fun _ s' => J bs s' := by
    intro rest
    induction rest with
    | nil =>
      intro done s hbs hJ
      rw [append_nil] at hbs
      subst hbs
      exact succeeds_pure hJ
    | cons b rest ih =>
      intro done s hbs hJ
      refine (hf done b rest s hbs hJ).bind fun _ s' hJ' => ih (done ++ [b]) s' ?_ hJ'
      rw [hbs, append_assoc, singleton_append]
  exact loop bs [] s rfl hs

end Succeeds

end Prog

/-- An automaton over operations and their responses. -/
structure Protocol (Op : Type) (Resp : Op → Type) (Phase : Type) where
  allows : Phase → Op → Prop
  next : Phase → (o : Op) → Resp o → Phase

namespace Protocol

variable {Op : Type} {Resp : Op → Type} {Phase σ α β : Type}
variable {P : Protocol Op Resp Phase} {Q Q' : Phase → α → Prop} {p : Prog Op Resp α} {g : Phase}

/-- From phase `g` on, every operation of the program is allowed, and it only returns where `Q` holds. -/
def Follows (P : Protocol Op Resp Phase) (Q : Phase → α → Prop) : Prog Op Resp α → Phase → Prop
  | .ret a, g => Q g a
  | .call o k, g => P.allows g o ∧ ∀ r, Follows P Q (k r) (P.next g o r)

/-- Sequencing: the rest follows from wherever the first part may return. -/
theorem follows_bind {R : Phase → β → Prop} {f : α → Prog Op Resp β} :
    P.Follows R (p >>= f) g ↔ P.Follows (fun g' a => P.Follows R (f a) g') p g := by
  induction p generalizing g with
  | ret a => exact Iff.rfl
  | call o k ih => exact and_congr_right fun _ => forall_congr' fun r => ih r

theorem Follows.mono (h : P.Follows Q p g) (hQ : ∀ g' a, Q g' a → Q' g' a) : P.Follows Q' p g := by
  induction p generalizing g with
  | ret a => exact hQ g a h
  | call o k ih => exact ⟨h.1, fun r => ih r (h.2 r)⟩

/-- Sequencing, forwards: what the first part ends in is where the rest starts. -/
theorem Follows.bind {R : Phase → β → Prop} {f : α → Prog Op Resp β} (h : P.Follows Q p g)
    (hf : ∀ g' a, Q g' a → P.Follows R (f a) g') : P.Follows R (p >>= f) g :=
  follows_bind.mpr (h.mono hf)

/-! ### Programs that may fail -/

section Except

variable {ε : Type} {R : Phase → Except ε β → Prop} {q : ExceptT ε (Prog Op Resp) α}
variable {Q : Phase → Except ε α → Prop} {f : α → ExceptT ε (Prog Op Resp) β}

/-- Sequencing with `?`: an error ends the whole. -/
theorem Follows.exceptBind (h : P.Follows Q q.run g) (hok : ∀ g' a, Q g' (.ok a) → P.Follows R (f a).run g')
    (herror : ∀ g' e, Q g' (.error e) → R g' (.error e)) : P.Follows R (q >>= f).run g := by
  refine Follows.bind (f := ExceptT.bindCont f) h fun g' r hr => ?_
  cases r with
  | ok a => exact hok g' a hr
  | error e => exact herror g' e hr

theorem Follows.exceptLift {p : Prog Op Resp β} (h : P.Follows (fun g' a => R g' (.ok a)) p g) :
    P.Follows R (ExceptT.lift p : ExceptT ε (Prog Op Resp) β).run g :=
  Follows.bind (f := fun a => (pure (Except.ok a) : Prog Op Resp (Except ε β))) h fun _ _ ha => ha

end Except

variable {bs : List β} {Phase' : Type}

/-- A coarser protocol: what the finer one allows it allows, and it moves as `f` reads the finer phases. -/
theorem Follows.map {P' : Protocol Op Resp Phase'} {f : Phase → Phase'} (h : P.Follows Q p g)
    (hf : ∀ g o, P.allows g o → P'.allows (f g) o ∧ ∀ r, P'.next (f g) o r = f (P.next g o r)) :
    P'.Follows (fun g' a => ∃ g, g' = f g ∧ Q g a) p (f g) := by
  induction p generalizing g with
  | ret a => exact ⟨g, rfl, h⟩
  | call o k ih =>
    obtain ⟨hallow, hnext⟩ := hf g o h.1
    refine ⟨hallow, fun r => ?_⟩
    rw [hnext]
    exact ih r (h.2 r)

/-- A protocol of the operations that carry out a program's own: `emb` places the program's phases in it. -/
theorem Follows.subst {Op' : Type} {Resp' : Op' → Type} {P' : Protocol Op' Resp' Phase'}
    {f : (o : Op) → Prog Op' Resp' (Resp o)} (emb : Phase → Phase') (h : P.Follows Q p g)
    (hf : ∀ g o, P.allows g o → P'.Follows (fun g' r => g' = emb (P.next g o r)) (f o) (emb g)) :
    P'.Follows (fun g' a => ∃ g, g' = emb g ∧ Q g a) (p.subst f) (emb g) := by
  induction p generalizing g with
  | ret a => exact ⟨g, rfl, h⟩
  | call o k ih =>
    refine (hf g o h.1).bind fun g' r hg' => ?_
    subst hg'
    exact ih r (h.2 r)

/-! ### Programs that leave a phase alone -/

section Stays

variable {a : Phase} {f : α → Prog Op Resp β}

/-- Started in phase `a`, the program keeps to the protocol and returns in `a`. -/
def Stays (P : Protocol Op Resp Phase) (a : Phase) (p : Prog Op Resp α) : Prop := P.Follows (fun g _ => g = a) p a

theorem Stays.follows {R : Phase → β → Prop} (h : P.Stays a p) (hf : ∀ x, P.Follows R (f x) a) :
    P.Follows R (p >>= f) a := by
  refine Follows.bind h fun g x hg => ?_
  subst hg
  exact hf x

theorem Stays.bind (h : P.Stays a p) (hf : ∀ x, P.Stays a (f x)) : P.Stays a (p >>= f) := h.follows hf

theorem stays_call {o : Op} {k : Resp o → Prog Op Resp α} (hallows : P.allows a o) (hnext : ∀ r, P.next a o r = a)
    (hk : ∀ r, P.Stays a (k r)) : P.Stays a (.call o k) := by
  refine ⟨hallows, fun r => ?_⟩
  rw [hnext r]
  exact hk r

/-- **Loop rule.** A phase that every iteration returns to is where the loop ends. -/
theorem stays_forEach {f : β → Prog Op Resp Unit} (hf : ∀ b ∈ bs, P.Stays a (f b)) :
    P.Stays a (Prog.forEach bs f) := by
  induction bs with
  | nil => exact rfl
  | cons b bs ih => exact (hf b mem_cons_self).bind fun _ => ih fun b' hb' => hf b' (mem_cons_of_mem b hb')

theorem stays_filterEach {f : β → Prog Op Resp Bool} (hf : ∀ b ∈ bs, P.Stays a (f b)) :
    P.Stays a (Prog.filterEach bs f) := by
  induction bs with
  | nil => exact rfl
  | cons b bs ih =>
    refine (hf b mem_cons_self).bind fun keep => Stays.bind ?_ fun rest => rfl
    exact ih fun b' hb' => hf b' (mem_cons_of_mem b hb')

theorem stays_mapEach {γ ε : Type} {f : β → Prog Op Resp (Except ε γ)}
    (hf : ∀ b ∈ bs, P.Stays a (f b)) : P.Stays a (Prog.mapEach bs f) := by
  induction bs with
  | nil => exact rfl
  | cons b bs ih =>
    refine (hf b mem_cons_self).bind fun r => ?_
    cases r with
    | error e => rfl
    | ok c => exact Stays.bind (ih fun b' hb' => hf b' (mem_cons_of_mem b hb')) fun rest => rfl

/-! Fallible programs, whose errors leave the phase alone as well. -/

variable {ε : Type} {q : ExceptT ε (Prog Op Resp) α} {f : α → ExceptT ε (Prog Op Resp) β}

theorem Stays.exceptBind (h : P.Stays a q.run) (hf : ∀ x, P.Stays a (f x).run) : P.Stays a (q >>= f).run := by
  refine Follows.exceptBind h (fun g x hg => ?_) fun g e hg => hg
  subst hg
  exact hf x

end Stays

/-- **Sequential adequacy.** An assertion per phase that every allowed operation carries to the next phase
    holds when the program, run alone, has returned. -/
theorem Follows.eval {exec : (o : Op) → σ → σ × Resp o} {I : Phase → σ → Prop} (h : P.Follows Q p g)
    (hexec : ∀ g o s, P.allows g o → I g s → I (P.next g o (exec o s).2) (exec o s).1) {s : σ} (hs : I g s) :
    ∃ g', Q g' (p.eval exec s).2 ∧ I g' (p.eval exec s).1 := by
  induction p generalizing g s with
  | ret a => exact ⟨g, h, hs⟩
  | call o k ih => exact ih _ (h.2 _) (hexec g o s h.1 hs)

end Protocol

end Conc
