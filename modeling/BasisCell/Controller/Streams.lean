import BasisCell.Lib.Lists
import BasisCell.Lib.Product
import BasisCell.Controller.Routine

/-!
# `BasisCell.Controller.Streams` — generations of an agent's stream

A host's entry in the agents map belongs to the stream that registered last. When a stream ends, its cleanup
removes the entry if it still carries the stream's epoch, and then cancels the waiters of the host. The
compare-and-remove, the listing of the waiters and their removals are separate operations, so a reconnect
may come in between, and a `CreateMachine` may wait for the new stream already.

`Roster` is the history of registrations, numbered in their order, and of waiters with the registration whose
stream held the entry at that moment. Epochs are minted once (`Distinct`), so a cleanup that finds its epoch
has found its own entry. Waiters of a later stream are safe as long as none is registered while a cleanup
of the host is past its compare-and-remove (`Cell.unswept`); `cleanup_own_generation` says both.
`waiter_cancelled` is a run in which a reconnected node's waiter is cancelled by the old stream's cleanup.
-/

namespace BasisCell

open Conc Conc.Protocol List Transition

/-! ## The history -/

/-- A stream's entry into the agents map; the number counts the entries before it. -/
structure Registration where
  host : HostId
  epoch : Nat
  number : Nat
  deriving DecidableEq, Repr

/-- A waiter, with the number of the registration whose stream held its host's entry. -/
structure Waiter where
  vm : VmId
  host : HostId
  holder : Option Nat
  deriving DecidableEq, Repr

/-- What has been put into the two maps since the process started, newest first. -/
structure Roster where
  streams : List Registration := []
  waiters : List Waiter := []
  deriving DecidableEq, Repr

namespace Roster

/-- The registration behind a host's entry. -/
def holder (γ : Roster) (s : Shared) (hostId : HostId) : Option Registration :=
  (s.agents.lookup hostId).bind fun a => γ.streams.find? fun r => r.host = hostId ∧ r.epoch = a.epoch

def extend (γ : Roster) (s : Shared) : Op → Roster
  | .mem (.agentsInsert hostId agent) => { γ with streams := ⟨hostId, agent.epoch, γ.streams.length⟩ :: γ.streams }
  | .mem (.pendingOpsInsert vmId hostId) =>
    { γ with waiters := ⟨vmId, hostId, (γ.holder s hostId).map (·.number)⟩ :: γ.waiters }
  | _ => γ

/-- The history after an event; a restart begins a new one. -/
def note (γ : Roster) (c : Cell) (e : Event Activity) : Roster :=
  match e with
  | .crash => {}
  | _ =>
    match c.nextOp e with
    | some (_, o) => γ.extend c.shared o
    | none => γ

end Roster

/-! ## Epochs -/

/-- A registration that has minted an epoch puts it into the map next. -/
inductive Minting where
  | idle
  | minted (epoch : Nat)

namespace Minting

inductive Allows : Minting → Op → Prop
  | other {o : Op} (h : ∀ hostId agent, o ≠ .mem (.agentsInsert hostId agent)) : Allows .idle o
  | insert {hostId channel epoch} : Allows (.minted epoch) (.mem (.agentsInsert hostId ⟨channel, epoch⟩))

def next : Minting → (o : Op) → o.Resp → Minting
  | .idle, .mem .nextAgentEpoch, epoch => .minted epoch
  | _, _, _ => .idle

/-- The epoch that is in no map yet. -/
def epoch? : Minting → Option Nat
  | idle => none
  | minted epoch => some epoch

end Minting

def minting : Discipline Activity Op Op.Resp (Except Status Reply) Minting where
  protocol := fun _ => ⟨Minting.Allows, Minting.next⟩
  start := fun _ => .idle
  ends := fun _ g _ => g = .idle

theorem minting_routine (settings : Settings) :
    Routine settings (⟨Minting.Allows, Minting.next⟩ : Protocol Op Op.Resp Minting) .idle := by
  have ignored : ∀ o : Op, o.plain = true ∨ o.votes = true ∨ (∃ host, o = .write (.upsertHost host)) →
      Minting.Allows .idle o ∧ ∀ r, Minting.idle.next o r = .idle := by
    intro o ho
    refine ⟨.other fun hostId agent h => ?_, fun r => ?_⟩
    · subst h
      rcases ho with ho | ho | ⟨_, ho⟩ <;> cases ho
    · unfold Minting.next
      split
      · rcases ho with ho | ho | ⟨_, ho⟩ <;> cases ho
      · rfl
  refine ⟨fun o ho => ignored o (.inl ho), stays_carriedState_of_votes fun o _ ho => ignored o (ho.imp_right .inl),
    fun _ _ _ => stays_registerOrLookupHost_of fun o ho => ignored o (ho.imp_right .inr),
    fun hostId channel k hk => ?_⟩
  exact ⟨.other nofun, fun epoch => ⟨.insert, fun _ => hk epoch⟩⟩

theorem minting_governs (settings : Settings) : minting.Governs (cell settings) :=
  (minting_routine settings).stays_body

/-- The epoch that a task is about to put into the map. -/
def epochInHand (task : CellTask) : Option Nat :=
  match task.prog with
  | .call (.mem (.agentsInsert _ agent)) _ => some agent.epoch
  | _ => none

theorem epochInHand_of_at {task : CellTask} {g : Minting}
    (h : minting.At task g) : epochInHand task = g.epoch? := by
  obtain ⟨t, p⟩ := task
  cases p with
  | ret a =>
    obtain rfl : g = .idle := h
    rfl
  | call o k =>
    cases h.1 with
    | insert => rfl
    | other hnot =>
      unfold epochInHand
      split
      · rename_i heq
        cases heq
        exact absurd rfl (hnot _ _)
      · rfl

/-- The epochs in the hands of tasks, then those that were in the map at some time. -/
def epochsOf (γ : Roster) (c : Cell) : List Nat := c.tasks.filterMap epochInHand ++ γ.streams.map (·.epoch)

/-- **An epoch is minted once.** -/
structure Distinct (γ : Roster) (c : Cell) : Prop where
  phases : ∀ task ∈ c.tasks, ∃ g, minting.At task g
  nodup : (epochsOf γ c).Nodup
  bound : ∀ e ∈ epochsOf γ c, e < c.shared.nextEpoch

theorem Distinct.unique {γ : Roster} {c : Cell} (h : Distinct γ c) {r r' : Registration} (hr : r ∈ γ.streams)
    (hr' : r' ∈ γ.streams) (hepoch : r.epoch = r'.epoch) : r = r' :=
  inj_on_of_nodup_map (nodup_append.mp h.nodup).2.1 hr hr' hepoch

/-- Only minting moves the counter. -/
theorem nextEpoch_exec {o : Op} {s : Shared} (h : o ≠ .mem .nextAgentEpoch) :
    (o.exec s).1.nextEpoch = s.nextEpoch := by
  cases o with
  | query q | write w => rfl
  | mem m =>
    cases m with
    | nextAgentEpoch => exact absurd rfl h
    | agentsRemoveIf hostId epoch | send channel cmd | pendingOpsResolve vmId result | awaitOutcome vmId =>
      simp only [Op.exec, MemOp.exec]
      split <;> rfl
    | _ => rfl

theorem streams_extend {γ : Roster} {s : Shared} {o : Op} (h : ∀ hostId agent, o ≠ .mem (.agentsInsert hostId agent)) :
    (γ.extend s o).streams = γ.streams := by
  unfold Roster.extend
  split
  · exact absurd rfl (h _ _)
  · rfl
  · rfl

section Distinct

variable {γ : Roster} {s : Shared} {pre post : List CellTask}
  {started : List Activity} {t : Activity} {o : Op} {k : o.Resp → Handler (Except Status Reply)}

theorem epochsOf_middle (task : CellTask) :
    (epochsOf γ ⟨s, pre ++ task :: post, started⟩).Perm
      ((epochInHand task).toList ++ epochsOf γ ⟨s, pre ++ post, started⟩) := by
  unfold epochsOf
  cases h : epochInHand task with
  | none | some e => simp [h]

/-- A task's own step: an epoch is minted, moves from the task's hand into the map, or is not involved. -/
theorem Distinct.exec (h : Distinct γ ⟨s, pre ++ ⟨t, .call o k⟩ :: post, started⟩)
    (hphases : ∀ task ∈ pre ++ ⟨t, k (o.exec s).2⟩ :: post, ∃ g, minting.At task g) :
    Distinct (γ.extend s o) ⟨(o.exec s).1, pre ++ ⟨t, k (o.exec s).2⟩ :: post, started⟩ := by
  obtain ⟨g, hat⟩ := h.phases ⟨t, .call o k⟩ (Machine.mem_middle.mpr (.inl rfl))
  have hat' : minting.At ⟨t, k (o.exec s).2⟩ (g.next o (o.exec s).2) := hat.2 _
  -- both lists, with the stepped task's epoch in front
  have hbefore : (epochsOf γ ⟨s, pre ++ ⟨t, .call o k⟩ :: post, started⟩).Perm _ := epochsOf_middle _
  have hafter : (epochsOf (γ.extend s o) ⟨(o.exec s).1, pre ++ ⟨t, k (o.exec s).2⟩ :: post, started⟩).Perm _ :=
    epochsOf_middle _
  rw [epochInHand_of_at hat] at hbefore
  rw [epochInHand_of_at hat'] at hafter
  have hnodup := hbefore.nodup_iff.mp h.nodup
  have hbound : ∀ e ∈ g.epoch?.toList ++ epochsOf γ ⟨s, pre ++ post, started⟩, e < s.nextEpoch :=
    fun e he => h.bound e (hbefore.mem_iff.mpr he)
  cases hat.1 with
  | @insert hostId channel epoch =>
    have hsame : (epochsOf (γ.extend s (.mem (.agentsInsert hostId ⟨channel, epoch⟩)))
        ⟨((Op.mem (.agentsInsert hostId ⟨channel, epoch⟩)).exec s).1, pre ++ post, started⟩).Perm
          (epoch :: epochsOf γ ⟨s, pre ++ post, started⟩) := perm_middle
    have hperm := hafter.trans hsame
    exact ⟨hphases, hperm.nodup_iff.mpr hnodup, fun e he => hbound e (hperm.mem_iff.mp he)⟩
  | other hnot =>
    have hsame : epochsOf (γ.extend s o) ⟨(o.exec s).1, pre ++ post, started⟩ =
        epochsOf γ ⟨s, pre ++ post, started⟩ := by
      unfold epochsOf
      rw [streams_extend hnot]
    rw [hsame] at hafter
    by_cases hmint : o = .mem .nextAgentEpoch
    · subst hmint
      have hafter : List.Perm _ (s.nextEpoch :: epochsOf γ ⟨s, pre ++ post, started⟩) := hafter
      refine ⟨hphases, hafter.nodup_iff.mpr (nodup_cons.mpr ⟨fun hin => ?_, hnodup⟩), fun e he => ?_⟩
      · exact absurd (hbound _ hin) (Nat.lt_irrefl _)
      · show e < s.nextEpoch + 1
        rcases mem_cons.mp (hafter.mem_iff.mp he) with rfl | he
        · exact Nat.lt_succ_self _
        · exact Nat.lt_succ_of_lt (hbound e he)
    · have hidle : Minting.idle.next o (o.exec s).2 = .idle := by
        unfold Minting.next
        split
        · exact absurd rfl hmint
        · rfl
      rw [hidle] at hafter
      refine ⟨hphases, hafter.nodup_iff.mpr hnodup, fun e he => ?_⟩
      show e < (o.exec s).1.nextEpoch
      rw [nextEpoch_exec hmint]
      exact hbound e (hafter.mem_iff.mp he)

end Distinct

theorem Distinct.step {settings : Settings} {γ : Roster} {c c' : Cell} {e : Event Activity} (h : Distinct γ c)
    (hstep : (cell settings).Step c e c') : Distinct (γ.note c e) c' := by
  have hphases := (minting_governs settings).phases_step h.phases hstep
  cases hstep with
  | @spawn s tasks started t hfresh =>
    have hat := minting_governs settings t
    have hnone : epochInHand ⟨t, (cell settings).body t⟩ = none := epochInHand_of_at hat
    have hsame : epochsOf γ ⟨s, tasks ++ [⟨t, (cell settings).body t⟩], t :: started⟩ =
        epochsOf γ ⟨s, tasks, started⟩ := by
      unfold epochsOf
      rw [filterMap_append, filterMap_cons, hnone]
      exact congrArg (· ++ _) (append_nil _)
    exact ⟨hphases, hsame ▸ h.nodup, fun e he => h.bound e (hsame ▸ he)⟩
  | @exec s pre post started t o k =>
    have hnote : γ.note ⟨s, pre ++ ⟨t, .call o k⟩ :: post, started⟩ (.step pre.length) = γ.extend s o := by
      simp only [Roster.note, Machine.nextOp_exec]
    rw [hnote]
    exact h.exec hphases
  | @drop s pre post started t o k =>
    have hsub : (pre ++ post).Sublist (pre ++ ⟨t, .call o k⟩ :: post) :=
      (sublist_cons_self _ _).append_left pre
    have hepochs : (epochsOf γ ⟨s, pre ++ post, started⟩).Sublist
        (epochsOf γ ⟨s, pre ++ ⟨t, .call o k⟩ :: post, started⟩) := (hsub.filterMap epochInHand).append_right _
    exact ⟨hphases, h.nodup.sublist hepochs, fun e he => h.bound e (hepochs.subset he)⟩
  | @crash s tasks started =>
    -- a task that survives has returned, and has no epoch in hand
    have hnone : (tasks.filter fun task => task.prog.finished).filterMap epochInHand = [] := by
      rw [filterMap_eq_nil_iff]
      intro task htask
      obtain ⟨t, p⟩ := task
      cases p with
      | ret a => rfl
      | call o k => cases (mem_filter.mp htask).2
    have hempty : epochsOf {} ⟨Shared.restart s, tasks.filter fun task => task.prog.finished, started⟩ = [] := by
      unfold epochsOf
      rw [hnone]
      rfl
    refine ⟨hphases, ?_, ?_⟩
    · exact hempty ▸ nodup_nil
    · exact fun e he => absurd (hempty ▸ he : e ∈ ([] : List Nat)) not_mem_nil

/-! ## Cleanups -/

/-- How far a cleanup has come. -/
inductive Sweep where
  /-- Not a cleanup. -/
  | free
  | start
  /-- The stream's own entry was there and is removed. -/
  | sweeping
  /-- The entry was another stream's. -/
  | superseded

def Activity.firstSweep : Activity → Sweep
  | streamEnded _ _ => .start
  | _ => .free

namespace Sweep

inductive Allows : Activity → Sweep → Op → Prop
  | free {t : Activity} {o : Op} (h : t.firstSweep = .free) : Allows t .free o
  | compare {hostId epoch} : Allows (.streamEnded hostId epoch) .start (.mem (.agentsRemoveIf hostId epoch))
  | list {hostId epoch} : Allows (.streamEnded hostId epoch) .sweeping (.mem (.pendingOpsOf hostId))
  | cancel {hostId epoch vmId} : Allows (.streamEnded hostId epoch) .sweeping (.mem (.pendingOpsRemove vmId))

def next : Sweep → (o : Op) → o.Resp → Sweep
  | .start, .mem (.agentsRemoveIf _ _), removed => if removed then .sweeping else .superseded
  | g, _, _ => g

theorem next_free (o : Op) (r : o.Resp) : free.next o r = free := by
  unfold next
  split
  · contradiction
  · rfl

end Sweep

def sweeps : Discipline Activity Op Op.Resp (Except Status Reply) Sweep where
  protocol := fun t => ⟨Sweep.Allows t, Sweep.next⟩
  start := Activity.firstSweep
  ends := fun _ _ _ => True

theorem sweeps_govern (settings : Settings) : sweeps.Governs (cell settings) := by
  have free : ∀ t : Activity, t.firstSweep = .free → sweeps.At ⟨t, t.body settings⟩ .free := by
    intro t ht
    exact follows_of_free (fun o => .free ht) Sweep.next_free fun _ => trivial
  intro t
  cases t with
  | streamEnded hostId epoch =>
    refine ⟨.compare, fun removed => ?_⟩
    cases removed with
    | false => trivial
    | true =>
      refine ⟨.list, fun stale => ?_⟩
      refine (stays_forEach fun vmId _ => ?_).follows fun _ => trivial
      exact ⟨.cancel, fun _ => rfl⟩
  | _ => exact free _ rfl

/-! ## What the history knows of the maps -/

section Maps

variable {γ : Roster} {s : Shared} {hostId hostId' : HostId}

namespace Roster

/-- Registrations are numbered in their order; an entry is the one its host's last registration made; and the
    holders of waiters are registrations. -/
structure Faithful (γ : Roster) (s : Shared) : Prop where
  numbered : γ.streams.Pairwise fun r r' => r'.number < r.number
  counted : ∀ r ∈ γ.streams, r.number < γ.streams.length
  entries : ∀ hostId agent, s.agents.lookup hostId = some agent →
    ∃ r, γ.streams.find? (fun r => r.host = hostId) = some r ∧ r.epoch = agent.epoch
  holders : ∀ w ∈ γ.waiters, ∀ n ∈ w.holder, ∃ r ∈ γ.streams, r.host = w.host ∧ r.number = n

/-- The last registration of a host has the greatest number. -/
theorem Faithful.last (h : γ.Faithful s) {r r' : Registration}
    (hlast : γ.streams.find? (fun r => r.host = hostId) = some r) (hr' : r' ∈ γ.streams) (hhost : r'.host = hostId) :
    r'.number ≤ r.number := by
  obtain ⟨-, before, after, hsplit, hbefore⟩ := List.find?_eq_some_iff_append.mp hlast
  have hnumbered := h.numbered
  rw [hsplit] at hnumbered hr'
  rcases mem_append.mp hr' with hr' | hr'
  · exact absurd hhost (by simpa using hbefore r' hr')
  · rcases mem_cons.mp hr' with rfl | hr'
    · exact Nat.le_refl _
    · exact Nat.le_of_lt ((pairwise_cons.mp (pairwise_append.mp hnumbered).2.1).1 r' hr')

/-- Entries come from the map before the step, unless the step puts one in. -/
theorem agents_exec {o : Op} {agent : ConnectedAgent} (h : ∀ hostId agent, o ≠ .mem (.agentsInsert hostId agent))
    (hafter : (o.exec s).1.agents.lookup hostId = some agent) : s.agents.lookup hostId = some agent := by
  cases o with
  | query q | write w => exact hafter
  | mem m =>
    cases m with
    | agentsInsert hostId' agent' => exact absurd rfl (h _ _)
    | agentsRemoveIf hostId' epoch =>
      simp only [Op.exec, MemOp.exec] at hafter
      split at hafter
      · have hafter : (s.agents.filter fun e => e.1 ≠ hostId').lookup hostId = some agent := hafter
        rw [lookup_filter_ne] at hafter
        split at hafter
        · cases hafter
        · exact hafter
      · exact hafter
    | send channel cmd | pendingOpsResolve vmId result | awaitOutcome vmId =>
      simp only [Op.exec, MemOp.exec] at hafter
      split at hafter <;> exact hafter
    | _ => exact hafter

theorem Faithful.exec (h : γ.Faithful s) (o : Op) : (γ.extend s o).Faithful (o.exec s).1 := by
  by_cases hins : ∃ hostId agent, o = .mem (.agentsInsert hostId agent)
  · obtain ⟨hostId, agent, rfl⟩ := hins
    refine ⟨pairwise_cons.mpr ⟨h.counted, h.numbered⟩, fun r hr => ?_, fun host a ha => ?_, fun w hw n hn => ?_⟩
    · rcases mem_cons.mp hr with rfl | hr
      · exact Nat.lt_succ_self _
      · exact Nat.lt_succ_of_lt (h.counted r hr)
    · have ha : ((hostId, agent) :: s.agents.filter fun e => e.1 ≠ hostId).lookup host = some a := ha
      show ∃ r, List.find? _ (_ :: _) = some r ∧ _
      by_cases hhost : host = hostId
      · subst hhost
        rw [lookup_cons, beq_self_eq_true] at ha
        cases ha
        exact ⟨⟨host, agent.epoch, γ.streams.length⟩, List.find?_cons_of_pos (decide_eq_true rfl), rfl⟩
      · rw [lookup_cons, beq_false_of_ne hhost] at ha
        rw [List.find?_cons_of_neg (by simpa using Ne.symm hhost)]
        refine h.entries host a ?_
        have ha : (s.agents.filter fun e => e.1 ≠ hostId).lookup host = some a := ha
        rwa [lookup_filter_ne, if_neg hhost] at ha
    · obtain ⟨r, hr, hrest⟩ := h.holders w hw n hn
      exact ⟨r, mem_cons_of_mem _ hr, hrest⟩
  · have hnot : ∀ hostId agent, o ≠ .mem (.agentsInsert hostId agent) := fun _ _ ho => hins ⟨_, _, ho⟩
    have hstreams : (γ.extend s o).streams = γ.streams := streams_extend hnot
    refine ⟨hstreams ▸ h.numbered, hstreams ▸ h.counted, fun host a ha => ?_, fun w hw n hn => ?_⟩
    · rw [hstreams]
      exact h.entries host a (agents_exec hnot ha)
    · rw [hstreams]
      unfold extend at hw
      split at hw
      · exact absurd rfl (hnot _ _)
      · -- the new waiter's holder was found among the registrations
        rcases mem_cons.mp hw with rfl | hw
        · obtain ⟨r, hr, rfl⟩ := Option.map_eq_some_iff.mp hn
          obtain ⟨a, -, hfind⟩ := Option.bind_eq_some_iff.mp hr
          have hfound := List.find?_some hfind
          rw [decide_eq_true_eq] at hfound
          exact ⟨r, mem_of_find?_eq_some hfind, hfound.1, rfl⟩
        · exact h.holders w hw n hn
      · exact h.holders w hw n hn

theorem faithful_empty (h : s.agents = []) : ({} : Roster).Faithful s := by
  refine ⟨List.Pairwise.nil, forall_mem_nil _, ?_, forall_mem_nil _⟩
  rw [h]
  exact nofun

end Roster

end Maps

/-! ## All interleavings -/

/-- Is the task a cleanup of the host past its compare-and-remove? -/
def sweepsHost (hostId : HostId) (task : CellTask) : Bool :=
  match task.tag, task.prog with
  | .streamEnded h _, .call (.mem (.pendingOpsOf _)) _ => h = hostId
  | .streamEnded h _, .call (.mem (.pendingOpsRemove _)) _ => h = hostId
  | _, _ => false

/-- The condition on a run: while some stream holds a host's entry, no waiter is registered for the host in
    the middle of a cleanup of the host. -/
def Cell.unswept (c : Cell) (e : Event Activity) : Prop :=
  match c.nextOp e with
  | some (_, .mem (.pendingOpsInsert _ hostId)) =>
    (c.shared.agents.lookup hostId).isSome = true → ∀ task ∈ c.tasks, sweepsHost hostId task = false
  | _ => True

instance (c : Cell) (e : Event Activity) : Decidable (c.unswept e) := by
  unfold Cell.unswept
  split <;> infer_instance

/-- No waiter of the stream's host was registered under a later stream. -/
def Roster.Behind (γ : Roster) : Activity → Prop
  | .streamEnded hostId epoch => ∃ r ∈ γ.streams, r.host = hostId ∧ r.epoch = epoch ∧
    ∀ w ∈ γ.waiters, w.host = hostId → ∀ n ∈ w.holder, n ≤ r.number
  | _ => True

/-- What is known along a run. -/
structure Generations (γ : Roster) (c : Cell) : Prop where
  distinct : Distinct γ c
  faithful : γ.Faithful c.shared
  cleanups : ∀ task ∈ c.tasks, ∃ g, sweeps.At task g ∧ (g = .sweeping → task.prog.finished = false → γ.Behind task.tag)

section Step

variable {settings : Settings} {γ : Roster} {c c' : Cell} {e : Event Activity}

/-- A cleanup that is still running is visible as one. -/
theorem sweepsHost_of_at {hostId : HostId} {epoch : Nat} {p : Handler (Except Status Reply)}
    (hat : sweeps.At ⟨.streamEnded hostId epoch, p⟩ .sweeping) (hrunning : p.finished = false) :
    sweepsHost hostId ⟨.streamEnded hostId epoch, p⟩ = true := by
  cases p with
  | ret a => cases hrunning
  | call o k =>
    cases hat.1 with
    | list | cancel => exact decide_eq_true rfl

/-- A cleanup that has removed its own entry is behind no waiter: its registration was the host's last. -/
theorem behind_of_removed {s : Shared} {hostId : HostId} {epoch : Nat} (h : γ.Faithful s)
    (hremoved : ((MemOp.agentsRemoveIf hostId epoch).exec s).2 = true) : γ.Behind (.streamEnded hostId epoch) := by
  cases hlookup : s.agents.lookup hostId with
  | none => simp [MemOp.exec, hlookup] at hremoved
  | some agent =>
    have hepoch : agent.epoch = epoch := by
      by_contra hne
      simp [MemOp.exec, hlookup, hne] at hremoved
    obtain ⟨r, hlast, hr⟩ := h.entries hostId agent hlookup
    have hhost : r.host = hostId := by simpa using List.find?_some hlast
    refine ⟨r, mem_of_find?_eq_some hlast, hhost, hr.trans hepoch, fun w hw hwhost n hn => ?_⟩
    obtain ⟨r', hr', hhost', rfl⟩ := h.holders w hw n hn
    exact h.last hlast hr' (hhost'.trans hwhost)

/-- The step of any task keeps a running cleanup behind no waiter. -/
theorem behind_extend {t : Activity} {o : Op} {i : Nat} {task : CellTask}
    (hop : c.nextOp (.step i) = some (t, o)) (hcond : c.unswept (.step i)) (htask : task ∈ c.tasks)
    (hsweeps : ∀ hostId epoch, task.tag = .streamEnded hostId epoch → sweepsHost hostId task = true)
    (h : γ.Behind task.tag) : (γ.extend c.shared o).Behind task.tag := by
  obtain ⟨t', p⟩ := task
  cases t' with
  | streamEnded hostId epoch =>
    obtain ⟨r, hr, hhost, hepoch, hbehind⟩ := h
    have hvisible := hsweeps hostId epoch rfl
    unfold Roster.extend
    split
    · exact ⟨r, mem_cons_of_mem _ hr, hhost, hepoch, hbehind⟩
    · rename_i vmId host
      refine ⟨r, hr, hhost, hepoch, fun w hw hwhost n hn => ?_⟩
      rcases mem_cons.mp hw with rfl | hw
      · -- the new waiter has no holder: an entry of this host would have met the condition
        obtain rfl : host = hostId := hwhost
        obtain ⟨r', hr', -⟩ := Option.map_eq_some_iff.mp hn
        obtain ⟨agent, hlookup, -⟩ := Option.bind_eq_some_iff.mp hr'
        unfold Cell.unswept at hcond
        rw [hop] at hcond
        have hsome : (c.shared.agents.lookup host).isSome = true := by rw [hlookup]; rfl
        exact absurd (hcond hsome _ htask) (by rw [hvisible]; exact Bool.noConfusion)
      · exact hbehind w hw hwhost n hn
    · exact ⟨r, hr, hhost, hepoch, hbehind⟩
  | _ => trivial

theorem Generations.step (h : Generations γ c) (hcond : c.unswept e) (hstep : (cell settings).Step c e c') :
    Generations (γ.note c e) c' := by
  refine ⟨h.distinct.step hstep, ?_, ?_⟩
  · cases hstep with
    | spawn | drop => exact h.faithful
    | @exec s pre post started t o k =>
      simp only [Roster.note, Machine.nextOp_exec]
      exact h.faithful.exec o
    | crash => exact Roster.faithful_empty rfl
  · cases hstep with
    | @spawn s tasks started t hfresh =>
      intro task htask
      rcases mem_append.mp htask with htask | htask
      · exact h.cleanups task htask
      · rw [mem_singleton.mp htask]
        refine ⟨_, sweeps_govern settings t, fun hstart _ => ?_⟩
        cases t <;> cases hstart
    | @drop s pre post started t o k =>
      exact fun task htask => h.cleanups task (((sublist_cons_self _ _).append_left pre).subset htask)
    | @crash s tasks started =>
      intro task htask
      obtain ⟨htask, hfinished⟩ := mem_filter.mp htask
      obtain ⟨g, hat, -⟩ := h.cleanups task htask
      exact ⟨g, hat, fun _ hrunning => Bool.noConfusion (hrunning.symm.trans hfinished)⟩
    | @exec s pre post started t o k =>
      simp only [Roster.note, Machine.nextOp_exec]
      have hmem : (⟨t, .call o k⟩ : CellTask) ∈ pre ++ ⟨t, .call o k⟩ :: post :=
        mem_append_right _ mem_cons_self
      -- what holds of a task that was there holds after the step
      have kept : ∀ task ∈ pre ++ ⟨t, .call o k⟩ :: post, ∀ g, sweeps.At task g →
          (g = .sweeping → task.prog.finished = false → γ.Behind task.tag) →
          g = .sweeping → task.prog.finished = false → (γ.extend s o).Behind task.tag := by
        intro task htask g hat hbehind hg hrunning
        refine behind_extend Machine.nextOp_exec hcond htask (fun hostId epoch htag => ?_) (hbehind hg hrunning)
        obtain ⟨t', p⟩ := task
        obtain rfl : t' = .streamEnded hostId epoch := htag
        subst hg
        exact sweepsHost_of_at hat hrunning
      intro task htask
      rcases Machine.mem_middle.mp htask with rfl | hother
      · -- the stepped task: it was sweeping already, or has just removed its entry
        obtain ⟨g, hat, hbehind⟩ := h.cleanups _ hmem
        refine ⟨_, hat.2 _, fun hg _ => ?_⟩
        cases hat.1 with
        | free hfree => cases (Sweep.next_free o (o.exec s).2).symm.trans hg
        | compare =>
          have hg : (if ((MemOp.agentsRemoveIf _ _).exec s).2 then Sweep.sweeping else .superseded) = .sweeping := hg
          split at hg
          · rename_i hremoved
            exact behind_of_removed h.faithful hremoved
          · cases hg
        | list | cancel =>
          have hkept := kept _ hmem _ hat hbehind rfl rfl
          exact hkept
      · have hin : task ∈ pre ++ ⟨t, .call o k⟩ :: post := Machine.mem_middle.mpr (.inr hother)
        obtain ⟨g, hat, hbehind⟩ := h.cleanups task hin
        exact ⟨g, hat, kept task hin g hat hbehind⟩

end Step

/-- The cleanup of a stream removes no entry, and cancels no waiter, of a stream that registered later. -/
structure OwnGeneration (x : Roster × Cell) (e : Event Activity) : Prop where
  entry : ∀ hostId epoch hostId' epoch', x.2.nextOp e =
      some (.streamEnded hostId epoch, .mem (.agentsRemoveIf hostId' epoch')) →
    ((MemOp.agentsRemoveIf hostId' epoch').exec x.2.shared).2 = true →
    ∀ own ∈ x.1.streams, own.host = hostId → own.epoch = epoch →
    ∀ r ∈ x.1.holder x.2.shared hostId', r.number ≤ own.number
  waiter : ∀ hostId epoch vmId, x.2.nextOp e =
      some (.streamEnded hostId epoch, .mem (.pendingOpsRemove vmId)) →
    ∀ own ∈ x.1.streams, own.host = hostId → own.epoch = epoch →
    ∀ w ∈ x.1.waiters, w.vm = vmId → w.host = hostId → ∀ n ∈ w.holder, n ≤ own.number

theorem Generations.ownGeneration {γ : Roster} {c : Cell} {e : Event Activity} (h : Generations γ c) :
    OwnGeneration (γ, c) e where
  entry := by
    intro hostId epoch hostId' epoch' hop hremoved own hown hhost hepoch r hr
    obtain ⟨k, hmem⟩ := Machine.mem_of_nextOp hop
    obtain ⟨g, hat, -⟩ := h.cleanups _ hmem
    cases hat.1 with
    | free hfree => cases hfree
    | compare =>
      -- the entry carries the stream's epoch, and an epoch has one registration
      obtain ⟨agent, hlookup, hfind⟩ := Option.bind_eq_some_iff.mp hr
      simp only [MemOp.exec, hlookup] at hremoved
      split at hremoved
      · rename_i hagent
        have hagent : agent.epoch = epoch := by simpa using hagent
        have hfound := List.find?_some hfind
        rw [decide_eq_true_eq] at hfound
        have : r = own := h.distinct.unique (mem_of_find?_eq_some hfind) hown
          (hfound.2.trans (hagent.trans hepoch.symm))
        rw [this]
      · cases hremoved
  waiter := by
    intro hostId epoch vmId hop own hown hhost hepoch w hw hvm hwhost n hn
    obtain ⟨k, hmem⟩ := Machine.mem_of_nextOp hop
    obtain ⟨g, hat, hbehind⟩ := h.cleanups _ hmem
    cases hat.1 with
    | free hfree => cases hfree
    | cancel =>
      obtain ⟨r, hr, -, hrepoch, hall⟩ := hbehind rfl rfl
      rw [h.distinct.unique hown hr (hepoch.trans hrepoch.symm)]
      exact hall w hw hwhost n hn

/-- **A cleanup touches its own generation only**, in every run, on any database, in which no waiter is
    registered under a stream while an older cleanup of the host is past its compare-and-remove. -/
theorem cleanup_own_generation (settings : Settings) (db : Db) (es : List (Event Activity))
    (hal : Along ((cell settings).watched Roster.note) (fun x e => Cell.unswept x.2 e)
      ({}, Cell.start db) es) :
    Along ((cell settings).watched Roster.note) OwnGeneration ({}, Cell.start db) es := by
  refine along_of_invariant (J := fun x => Generations x.1 x.2) ?_ (fun h _ => h.ownGeneration) ?_ hal
  · rintro ⟨γ, c⟩ e ⟨γ', c'⟩ h hcond hstep
    obtain ⟨rfl, htaken⟩ := Machine.watched_cases hstep
    exact h.step hcond htaken
  · refine ⟨⟨forall_mem_nil _, nodup_nil, forall_mem_nil _⟩,
      Roster.faithful_empty rfl, forall_mem_nil _⟩

/-- **The agents map has each host's latest stream.** Whatever streams come and go, no two registrations since
    the process started have one epoch, and an entry is the one that the last registration of its host made. -/
theorem entries_latest (settings : Settings) (db : Db) (es : List (Event Activity)) (x : Roster × Cell)
    (hrun : run ((cell settings).watched Roster.note) ({}, Cell.start db) es = some x) :
    (x.1.streams.map (·.epoch)).Nodup ∧ ∀ hostId agent, x.2.shared.agents.lookup hostId = some agent →
      ∃ r, x.1.streams.find? (fun r => r.host = hostId) = some r ∧ r.epoch = agent.epoch := by
  have hstart : Distinct {} (Cell.start db) ∧ ({} : Roster).Faithful (Cell.start db).shared :=
    ⟨⟨forall_mem_nil _, nodup_nil, forall_mem_nil _⟩, Roster.faithful_empty rfl⟩
  have hinv : Distinct x.1 x.2 ∧ x.1.Faithful x.2.shared := by
    refine run_invariant (C := fun _ _ => True) (J := fun x => Distinct x.1 x.2 ∧ x.1.Faithful x.2.shared)
      ?_ hstart (along_of_forall fun _ _ => trivial) hrun
    rintro ⟨γ, c⟩ e ⟨γ', c'⟩ ⟨hdistinct, hfaithful⟩ - hstep
    obtain ⟨rfl, htaken⟩ := Machine.watched_cases hstep
    refine ⟨hdistinct.step htaken, ?_⟩
    cases htaken with
    | spawn | drop => exact hfaithful
    | @exec s pre post started t o k =>
      simp only [Roster.note, Machine.nextOp_exec]
      exact hfaithful.exec o
    | crash => exact Roster.faithful_empty rfl
  exact ⟨(nodup_append.mp hinv.1.nodup).2.1, hinv.2.entries⟩

/-- The node's first stream ends, and its cleanup takes `n` operations; the node comes back, and
    `CreateMachine` registers the waiter of `v1` under the new stream. -/
def reconnected (n : Nat) : List (Event Activity) :=
  upToCluster ++ .spawn (.streamEnded "h1" 1) :: steps 2 n ++ .spawn (registerAs "h2" 200) :: steps 3 11 ++
  .spawn createWorker :: steps 4 18

theorem cleanup_own_generation_reconnected :
    (run ((cell smallCell).watched Roster.note) ({}, emptyCell) (reconnected 2)).isSome = true ∧
    Along ((cell smallCell).watched Roster.note) OwnGeneration ({}, emptyCell) (reconnected 2) :=
  ⟨by decide +kernel, cleanup_own_generation smallCell _ (reconnected 2) (by decide +kernel)⟩

/-- Where the run is when the old cleanup has listed the waiters. -/
def sweptLate : Roster × Cell :=
  after ((cell smallCell).watched Roster.note) ({}, emptyCell) (reconnected 1 ++ steps 2 1)

theorem entries_latest_sweptLate : (sweptLate.1.streams.map (·.epoch)).Nodup ∧
    ∃ agent, sweptLate.2.shared.agents.lookup "h1" = some agent ∧
      ∃ r, sweptLate.1.streams.find? (fun r => r.host = "h1") = some r ∧ r.epoch = agent.epoch := by
  obtain ⟨agent, hagent⟩ := Option.isSome_iff_exists.mp
    (show (sweptLate.2.shared.agents.lookup "h1").isSome = true by decide +kernel)
  obtain ⟨hnodup, hlatest⟩ := entries_latest smallCell _ (reconnected 1 ++ steps 2 1) sweptLate
    (run_eq_after (by decide +kernel))
  exact ⟨hnodup, agent, hagent, hlatest "h1" agent hagent⟩

/-- **A waiter of the new stream is cancelled.** The cleanup of the first stream (registration 0) has removed
    its entry when the node reconnects (registration 1), and lists the waiters afterwards: the next thing it
    does is to cancel `v1`, which waits for the second stream. -/
theorem waiter_cancelled :
    run ((cell smallCell).watched Roster.note) ({}, emptyCell) (reconnected 1 ++ steps 2 1) =
      some sweptLate ∧
    sweptLate.1 = { streams := [⟨"h1", 2, 1⟩, ⟨"h1", 1, 0⟩], waiters := [⟨"v1", "h1", some 1⟩] } ∧
    sweptLate.2.shared.pendingOps = [("v1", "h1")] ∧ ¬OwnGeneration sweptLate (.step 2) := by
  have hroster : sweptLate.1 = { streams := [⟨"h1", 2, 1⟩, ⟨"h1", 1, 0⟩], waiters := [⟨"v1", "h1", some 1⟩] } := by
    decide +kernel
  refine ⟨run_eq_after (by decide +kernel), hroster, by decide +kernel, fun hown => ?_⟩
  have hop : sweptLate.2.nextOp (.step 2) = some (.streamEnded "h1" 1, .mem (.pendingOpsRemove "v1")) := by rfl
  have hwaiter := hown.waiter "h1" 1 "v1" hop
  rw [hroster] at hwaiter
  have hepochs := hwaiter ⟨"h1", 1, 0⟩ (by decide) rfl rfl ⟨"v1", "h1", some 1⟩ (by decide) rfl rfl 1 rfl
  exact absurd hepochs (by decide)

end BasisCell
