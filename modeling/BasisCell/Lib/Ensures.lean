import BasisCell.Lib.Prog

/-!
# `Lib.Ensures` — programs in a world that may do several things

`Prog.eval` runs a program on an interpretation that knows what every operation does. Here an operation may do one
of several things: `acts o s s' r` says that in state `s` it may lead to `s'` and answer `r`. A failed command, a
lost answer and a refused write are such things. `Runs` is a run of a program in that world, `Ensures` says what
holds at the end of every run, and its rules follow the syntax: return, call, sequence, `?`, and a selection loop.
`Within` is the form for fallible programs that only take a state to related ones, whether they fail or not.

A condition on what operations do is a smaller world. An interpretation whose steps the world may take gives a run
of it (`runs_eval`).
-/

namespace Conc.Prog

open List

variable {Op : Type} {Resp : Op → Type} {σ α β ε : Type}

/-- The program may end in `s'` with result `a`. -/
def Runs (acts : (o : Op) → σ → σ → Resp o → Prop) : Prog Op Resp α → σ → σ → α → Prop
  | ret a, s, s', b => s' = s ∧ b = a
  | call o k, s, s', b => ∃ s₁ r, acts o s s₁ r ∧ Runs acts (k r) s₁ s' b

/-- `Q` holds wherever the program may end. -/
def Ensures (acts : (o : Op) → σ → σ → Resp o → Prop) (p : Prog Op Resp α) (s : σ) (Q : α → σ → Prop) : Prop :=
  ∀ s' a, p.Runs acts s s' a → Q a s'

/-- After a success and after an error. -/
def Either (E : σ → Prop) (Q : α → σ → Prop) : Except ε α → σ → Prop
  | .ok a, s => Q a s
  | .error _, s => E s

variable {acts : (o : Op) → σ → σ → Resp o → Prop} {p : Prog Op Resp α} {s : σ} {a : α}
variable {Q Q' : α → σ → Prop} {R : β → σ → Prop} {E : σ → Prop}

/-- Does every operation of a run alone meet `C` in the state it is taken in? -/
def allAlong (exec : (o : Op) → σ → σ × Resp o) (C : Op → σ → Bool) : Prog Op Resp α → σ → Bool
  | ret _, _ => true
  | call o k, s => C o s && allAlong exec C (k (exec o s).2) (exec o s).1

/-- An interpretation whose steps the world may take along a run gives a run of the world. -/
theorem runs_eval {exec : (o : Op) → σ → σ × Resp o} {C : Op → σ → Bool}
    (hC : ∀ o s, C o s = true → acts o s (exec o s).1 (exec o s).2) {p : Prog Op Resp α} {s : σ}
    (h : p.allAlong exec C s = true) : p.Runs acts s (p.eval exec s).1 (p.eval exec s).2 := by
  induction p generalizing s with
  | ret a => exact ⟨rfl, rfl⟩
  | call o k ih =>
    obtain ⟨ho, hrest⟩ := Bool.and_eq_true_iff.mp h
    exact ⟨_, _, hC o s ho, ih _ hrest⟩

theorem Ensures.mono (h : p.Ensures acts s Q) (hQ : ∀ a s', Q a s' → Q' a s') : p.Ensures acts s Q' :=
  fun s' a hrun => hQ a s' (h s' a hrun)

theorem ensures_pure (h : Q a s) : (pure a : Prog Op Resp α).Ensures acts s Q := by
  rintro _ _ ⟨rfl, rfl⟩
  exact h

theorem ensures_call {o : Op} {k : Resp o → Prog Op Resp α}
    (h : ∀ s' r, acts o s s' r → (k r).Ensures acts s' Q) : (call o k).Ensures acts s Q := by
  rintro s' a ⟨s₁, r, hact, hrun⟩
  exact h s₁ r hact s' a hrun

theorem ensures_perform {o : Op} {Q : Resp o → σ → Prop} (h : ∀ s' r, acts o s s' r → Q r s') :
    (perform o : Prog Op Resp (Resp o)).Ensures acts s Q :=
  ensures_call fun s' r hact => ensures_pure (h s' r hact)

/-- Sequencing: the rest starts wherever the first part may end. -/
theorem Ensures.bind {f : α → Prog Op Resp β} (h : p.Ensures acts s Q)
    (hf : ∀ a s', Q a s' → (f a).Ensures acts s' R) : (p >>= f).Ensures acts s R := by
  induction p generalizing s with
  | ret a => exact hf a s (h s a ⟨rfl, rfl⟩)
  | call o k ih =>
    refine ensures_call fun s₁ r hact => ih r fun s' a hrun => ?_
    exact h s' a ⟨s₁, r, hact, hrun⟩

/-- Sequencing with `?`: an error ends the whole. -/
theorem Ensures.tryBind {q : ExceptT ε (Prog Op Resp) α} {f : α → ExceptT ε (Prog Op Resp) β}
    (h : Ensures acts q.run s (Either E Q)) (hf : ∀ a s', Q a s' → Ensures acts (f a).run s' (Either E R)) :
    Ensures acts (q >>= f).run s (Either E R) := by
  refine Ensures.bind (f := ExceptT.bindCont f) h fun r s' hr => ?_
  cases r with
  | ok a => exact hf a s' hr
  | error e => exact ensures_pure hr

theorem ensures_ok (h : Q a s) : Ensures acts (pure a : ExceptT ε (Prog Op Resp) α).run s (Either E Q) :=
  ensures_pure h

/-- A part that cannot fail. -/
theorem ensures_lift (h : p.Ensures acts s Q) :
    Ensures acts (ExceptT.lift p : ExceptT ε (Prog Op Resp) α).run s (Either E Q) :=
  Ensures.bind (f := fun a => (pure (Except.ok a) : Prog Op Resp (Except ε α))) h fun _ _ ha => ensures_pure ha

theorem either_mono {E' : σ → Prop} (hE : ∀ s, E s → E' s) (hQ : ∀ a s, Q a s → Q' a s) :
    ∀ (r : Except ε α) (s : σ), Either E Q r s → Either E' Q' r s
  | .ok a, s, h => hQ a s h
  | .error _, s, h => hE s h

/-- **Selection rule.** `I` holds after every test; what a test that selects shows of its element, `K`, no later
    test takes away. -/
theorem ensures_filterEach {I : σ → Prop} {K : β → σ → Prop} {f : β → Prog Op Resp Bool} {bs : List β}
    (hf : ∀ b ∈ bs, ∀ s, I s → (f b).Ensures acts s fun keep s' =>
      I s' ∧ (keep = true → K b s') ∧ ∀ b', K b' s → K b' s') (hs : I s) :
    (filterEach bs f).Ensures acts s fun kept s' =>
      I s' ∧ (∀ b ∈ kept, b ∈ bs ∧ K b s') ∧ ∀ b', K b' s → K b' s' := by
  induction bs generalizing s with
  | nil =>
    refine ensures_pure ⟨hs, fun b hb => ?_, fun _ h => h⟩
    cases hb
  | cons b bs ih =>
    refine Ensures.bind (hf b mem_cons_self s hs) fun keep s₁ ⟨hs₁, hkeep, hkept₁⟩ => ?_
    refine Ensures.bind (ih (fun b' hb' => hf b' (mem_cons_of_mem b hb')) hs₁) fun rest s₂ ⟨hs₂, hrest, hkept₂⟩ => ?_
    refine ensures_pure ⟨hs₂, fun b' hb' => ?_, fun b' h => hkept₂ b' (hkept₁ b' h)⟩
    cases keep with
    | false => exact ⟨mem_cons_of_mem b (hrest b' hb').1, (hrest b' hb').2⟩
    | true =>
      rcases mem_cons.mp hb' with rfl | hb'
      · exact ⟨mem_cons_self, hkept₂ _ (hkeep rfl)⟩
      · exact ⟨mem_cons_of_mem b (hrest b' hb').1, (hrest b' hb').2⟩

/-! ### Fallible programs that stay within a relation -/

/-- The program ends in a state that `G` relates to the one it began in, and after a success `K` holds there. -/
def Within (acts : (o : Op) → σ → σ → Resp o → Prop) (G : σ → σ → Prop) (q : ExceptT ε (Prog Op Resp) α) (s : σ)
    (K : α → σ → Prop) : Prop :=
  Ensures acts q.run s (Either (G s) fun a s' => G s s' ∧ K a s')

section Within

variable {G : σ → σ → Prop} {K K' : α → σ → Prop} {L : β → σ → Prop} {q : ExceptT ε (Prog Op Resp) α}

theorem Within.mono (h : Within acts G q s K) (hK : ∀ a s', G s s' → K a s' → K' a s') : Within acts G q s K' :=
  Ensures.mono h (either_mono (fun _ hE => hE) fun a s' hQ => ⟨hQ.1, hK a s' hQ.1 hQ.2⟩)

/-- Sequencing: what the first part has achieved is known of the state that the rest begins in. -/
theorem Within.bind {f : α → ExceptT ε (Prog Op Resp) β} (htrans : ∀ {a b c}, G a b → G b c → G a c)
    (h : Within acts G q s K) (hf : ∀ a s₁, G s s₁ → K a s₁ → Within acts G (f a) s₁ L) :
    Within acts G (q >>= f) s L := by
  refine Ensures.tryBind h fun a s₁ hs₁ => ?_
  refine Ensures.mono (hf a s₁ hs₁.1 hs₁.2) (either_mono (fun s' hs' => ?_) fun b s' hs' => ?_)
  · exact htrans hs₁.1 hs'
  · exact ⟨htrans hs₁.1 hs'.1, hs'.2⟩

/-- A wider relation, with the narrow one still known after a success. -/
theorem Within.widen {G' : σ → σ → Prop} (h : Within acts G q s K) (hG : ∀ s', G s s' → G' s s') :
    Within acts G' q s fun a s' => G s s' ∧ K a s' :=
  Ensures.mono h (either_mono hG fun _ s' hQ => ⟨hG s' hQ.1, hQ⟩)

theorem within_pure (hG : G s s) (hK : K a s) : Within acts G (pure a : ExceptT ε (Prog Op Resp) α) s K :=
  ensures_ok ⟨hG, hK⟩

theorem within_ite {c : Prop} [Decidable c] {q' : ExceptT ε (Prog Op Resp) α} (h : c → Within acts G q s K)
    (h' : ¬c → Within acts G q' s K) : Within acts G (if c then q else q') s K := by
  split
  · exact h ‹c›
  · exact h' ‹¬c›

theorem within_forM {f : β → ExceptT ε (Prog Op Resp) PUnit} {bs : List β} (hrefl : ∀ s, G s s)
    (htrans : ∀ {a b c}, G a b → G b c → G a c) (hf : ∀ b ∈ bs, ∀ s, Within acts G (f b) s fun _ _ => True) :
    Within acts G (bs.forM f) s fun _ _ => True := by
  induction bs generalizing s with
  | nil => exact within_pure (hrefl s) trivial
  | cons b bs ih =>
    refine Within.bind htrans (hf b mem_cons_self s) fun _ s₁ _ _ => ?_
    exact ih fun b' hb' => hf b' (mem_cons_of_mem b hb')

theorem within_lift (h : p.Ensures acts s fun a s' => G s s' ∧ K a s') :
    Within acts G (ExceptT.lift p : ExceptT ε (Prog Op Resp) α) s K :=
  ensures_lift h

end Within

end Conc.Prog
