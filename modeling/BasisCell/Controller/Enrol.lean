import BasisCell.Controller.Discipline

/-!
# `BasisCell.Controller.Enrol` — a registration on a bounded channel

A registration opens a command channel of capacity 32, puts the ack and the replayed outbox on it, and hands
the receiver to the transport only when it returns. Until then nobody takes a command off the channel, so a
send on a full one does not come back, neither the registration's own nor that of another activity.

`attempt` is the controller with this bound: an event that would send on a full channel of a registration that
has not returned leaves everything as it is. `Berth` is the history of the channels: which registration opened
one, and how many listed commands it has still to replay. A registration returns if the listing fits what is left of
its channel and whoever else sends on it leaves the replay its room (`Cell.roomy`); this is
`registration_returns`, for every schedule that comes back to it again and again. `registration_stuck` is a
node with 32 rows in its outbox: the ack is the command too many.
-/

namespace BasisCell

open Conc List
open Option (map_eq_some_iff map_some getD_some)

/-! ## Channels that nobody reads yet -/

/-- The bound of `mpsc::channel::<ControllerCommand>(32)`. -/
def commandCapacity : Nat := 32

/-- A command channel: the registration that opened it, by the host id it minted, and what it has yet to replay. -/
structure Berth where
  owner : Option HostId := none
  owed : Nat := 0
  deriving DecidableEq, Repr

/-- The name of a registration. -/
def Activity.enrols : Activity → Option HostId
  | streamMessages _ newHostId _ => some newHostId
  | _ => none

namespace Berth

/-- The channels after an operation, in the order in which they were opened. -/
def note (γ : List Berth) (t : Activity) : (o : Op) → o.Resp → List Berth
  | .mem .channelOpen, _ =>
    γ ++ [if γ.any fun b => b.owner = t.enrols then {} else { owner := t.enrols }]
  | .query (.listPendingCommands _), pending =>
    γ.map fun b => if b.owner = t.enrols then { b with owed := pending.length } else b
  | .mem (.send n _), _ => γ.modify n fun b => if b.owner = t.enrols then { b with owed := b.owed - 1 } else b
  | _, _ => γ

def watch (γ : List Berth) (c : Cell) : Event Activity → List Berth
  | .step i =>
    match c.tasks[i]? with
    | some ⟨t, .call o _⟩ => note γ t o (o.exec c.shared).2
    | _ => γ
  | _ => γ

/-- How many listed commands the owner of a channel has yet to send. -/
def due (γ : List Berth) (n : Nat) : Nat := ((γ[n]?).map (·.owed)).getD 0

/-- Is the activity in the middle of its replay on the channel? -/
def replays (γ : List Berth) (t : Activity) (n : Nat) : Bool :=
  (γ[n]?).any fun b => b.owner = t.enrols ∧ 0 < b.owed

end Berth

/-- The number of commands that were put on a channel. -/
def Shared.load (s : Shared) (n : Nat) : Nat := ((s.channels[n]?).map (·.sent.length)).getD 0

namespace Cell

/-- The registration that opened the channel has not returned: nobody reads it. -/
def undrained (γ : List Berth) (c : Cell) (n : Nat) : Bool :=
  (γ[n]?).any fun b => c.tasks.any fun task =>
    task.prog.finished = false ∧ task.tag.enrols.isSome ∧ b.owner = task.tag.enrols

/-- Would the event send on a full channel that nobody reads? -/
def congested (γ : List Berth) (c : Cell) (e : Event Activity) : Bool :=
  match c.nextOp e with
  | some (_, .mem (.send n _)) =>
    MemOp.live c.shared n && decide (commandCapacity ≤ c.shared.load n) && undrained γ c n
  | _ => false

/-- **The bound respected.** The outbox a registration is about to list fits its channel, and a send that is
    not a replay leaves the replay its room. -/
def roomy (γ : List Berth) (c : Cell) (e : Event Activity) : Bool :=
  match c.nextOp e with
  | some (t, .query (.listPendingCommands hostId)) =>
    (List.range γ.length).all fun n => (γ[n]?).all fun b =>
      b.owner ≠ t.enrols ∨ c.shared.load n + (c.shared.db.listPendingCommands hostId).length ≤ commandCapacity
  | some (t, .mem (.send n _)) =>
    !undrained γ c n || Berth.replays γ t n || decide (c.shared.load n + Berth.due γ n < commandCapacity)
  | _ => true

end Cell

/-- What a scheduled event does: a send on a full channel waits, and an event that cannot be taken is skipped. -/
def attempt (settings : Settings) (x : List Berth × Cell) (e : Event Activity) : List Berth × Cell :=
  if Cell.congested x.1 x.2 e then x
  else (((cell settings).watched Berth.watch) x e).getD x

/-- The states of a controller under a schedule. -/
def states (settings : Settings) (db : Db) (ev : Nat → Event Activity) : Nat → List Berth × Cell
  | 0 => ([], Cell.start db)
  | n + 1 => attempt settings (states settings db ev n) (ev n)

/-! ## What an operation does to the channels -/

variable {γ : List Berth} {t t' : Activity} {g : Phase} {o : Op} {s : Shared} {r : o.Resp} {n : Nat} {b : Berth}

namespace Berth

/-- A channel keeps its owner; a new one belongs to no one or to the activity that opened it. -/
theorem owner_note (h : (note γ t o r)[n]? = some b) :
    (∃ b₀, γ[n]? = some b₀ ∧ b₀.owner = b.owner) ∨
    (o = .mem .channelOpen ∧ n = γ.length ∧
      (b.owner = none ∨ b.owner = t.enrols ∧ ∀ b₀ ∈ γ, b₀.owner ≠ t.enrols)) := by
  unfold note at h
  split at h
  · -- a channel is opened
    rename_i r
    by_cases hn : n < γ.length
    · rw [List.getElem?_append_left hn] at h
      exact .inl ⟨b, h, rfl⟩
    · rw [List.getElem?_append_right (Nat.le_of_not_lt hn), List.getElem?_singleton] at h
      split at h <;> cases h
      refine .inr ⟨rfl, by omega, ?_⟩
      split
      · exact .inl rfl
      · rename_i hany
        exact .inr ⟨rfl, fun b₀ hb₀ howner => hany (any_eq_true.mpr ⟨b₀, hb₀, decide_eq_true howner⟩)⟩
  · -- the outbox is listed
    rw [List.getElem?_map] at h
    obtain ⟨b₀, hb₀, hb⟩ := map_eq_some_iff.mp h
    refine .inl ⟨b₀, hb₀, ?_⟩
    rw [← hb]
    split <;> rfl
  · -- a command is sent
    rename_i m cmd r
    rw [List.getElem?_modify] at h
    obtain ⟨b₀, hb₀, hb⟩ := map_eq_some_iff.mp h
    refine .inl ⟨b₀, hb₀, ?_⟩
    rw [← hb]
    split_ifs <;> rfl
  · exact .inl ⟨b, h, rfl⟩

theorem note_kept (h : γ[n]? = some b) (hne : b.owner ≠ t.enrols) : (note γ t o r)[n]? = some b := by
  unfold note
  split
  · rw [List.getElem?_append_left (List.getElem?_eq_some_iff.mp h).1]
    exact h
  · rw [List.getElem?_map, h, map_some, if_neg hne]
  · rw [List.getElem?_modify, h]
    split
    · rw [Option.map_eq_map, map_some, if_neg hne]
    · rfl
  · exact h

theorem length_note (h : γ.length = s.channels.length) :
    (note γ t o (o.exec s).2).length = (o.exec s).1.channels.length := by
  cases o with
  | query q => cases q <;> simp [note, Op.exec, h]
  | write w => exact h
  | mem m =>
    cases m <;> simp only [note, Op.exec, MemOp.exec, length_append, length_modify,
      length_singleton, h]
    all_goals split <;> simp

end Berth

/-- Does the operation put a command on the channel? -/
def Op.sendsOn (n : Nat) : Op → Bool
  | .mem (.send m _) => m = n
  | _ => false

theorem load_exec : (o.exec s).1.load n ≤ s.load n + if o.sendsOn n then 1 else 0 := by
  cases o with
  | query q | write w => exact Nat.le_add_right _ _
  | mem m =>
    cases m with
    | channelOpen =>
      -- the new channel is empty
      simp only [Op.exec, MemOp.exec, Shared.load, Op.sendsOn]
      by_cases hn : n < s.channels.length
      · rw [List.getElem?_append_left hn]
        exact Nat.le_add_right _ _
      · rw [List.getElem?_append_right (Nat.le_of_not_lt hn)]
        cases n - s.channels.length <;> exact Nat.zero_le _
    | channelClose m =>
      simp only [Op.exec, MemOp.exec, Shared.load, Op.sendsOn, List.getElem?_modify]
      cases s.channels[n]? with
      | none => exact Nat.zero_le _
      | some ch =>
        by_cases hm : m = n <;> simp [hm]
    | send m cmd =>
      simp only [Op.exec, MemOp.exec]
      split
      · simp only [Shared.load, Op.sendsOn, List.getElem?_modify]
        cases s.channels[n]? with
        | none => exact Nat.zero_le _
        | some ch =>
          by_cases hm : m = n <;> simp [hm]
      · exact Nat.le_add_right _ _
    | agentsRemoveIf hostId epoch | pendingOpsResolve vmId result | awaitOutcome vmId =>
      simp only [Op.exec, MemOp.exec]
      split <;> exact Nat.le_add_right _ _
    | _ => exact Nat.le_add_right _ _

/-! ## A registration and its channel -/

/-- What is known of the channel of a registration that has not returned: before the listing nothing is owed,
    and from then on the channel has room for the rest of the replay. -/
def Moored (t : Activity) (g : Phase) (γ : List Berth) (s : Shared) : Prop :=
  ∀ id, t.enrols = some id →
    match g with
    | .start => ∀ b ∈ γ, b.owner ≠ some id
    | .opened n => γ[n]? = some ⟨some id, 0⟩
    | .reaping n _ => γ[n]? = some ⟨some id, 0⟩
    | .replaying n _ todo => γ[n]? = some ⟨some id, todo.length⟩ ∧ s.load n + todo.length ≤ commandCapacity
    | .broken _ => True
    | _ => False

theorem stream_of_enrols {id : HostId} (h : t.enrols = some id) :
    ∃ register now, t = .streamMessages register id now := by
  cases t with
  | streamMessages register newHostId now =>
    cases h
    exact ⟨register, now, rfl⟩
  | _ => cases h

variable {w : Write} {settings : Settings} {started : List Activity} {c : Cell} {e : Event Activity}
    {k : o.Resp → Handler (Except Status Reply)} {i : Nat} {x : List Berth × Cell} {db : Db}

theorem streamNext_write {r : (Op.write w).Resp} : streamNext g (.write w) r = g := by
  cases g with
  | replaying channel sent todo => cases todo <;> rfl
  | _ => rfl

theorem Moored.write (h : Moored t g γ s) (hm : t.next g (.write w) ((Op.write w).exec s).2 = g) :
    Moored t (t.next g (.write w) ((Op.write w).exec s).2) (Berth.note γ t (.write w) ((Op.write w).exec s).2)
      ((Op.write w).exec s).1 := by
  rw [hm]
  exact h

/-- **A registration's own operations** keep its channel accounted for. -/
theorem moored_exec (hallow : Allows t g o) (hm : Moored t g γ s) (hsize : γ.length = s.channels.length)
    (hfits : ∀ hostId, o = .query (.listPendingCommands hostId) → ∀ n b, γ[n]? = some b → b.owner = t.enrols →
      s.load n + (s.db.listPendingCommands hostId).length ≤ commandCapacity) :
    Moored t (t.next g o (o.exec s).2) (Berth.note γ t o (o.exec s).2) (o.exec s).1 := by
  intro id hid
  obtain ⟨register, now, rfl⟩ := stream_of_enrols hid
  have hmoor := hm id rfl
  cases o with
  | write w => exact hm.write streamNext_write id rfl
  | query q =>
    cases q with
    | listPendingCommands hostId =>
      have hreg : g.registering = true := by
        cases hallow with
        | query _ hq => exact hq
      -- what is listed is what is owed from now on
      have hlisted : ∀ n : Nat, γ[n]? = some (⟨some id, 0⟩ : Berth) →
          (Berth.note γ (.streamMessages register id now) (.query (.listPendingCommands hostId))
            (s.db.listPendingCommands hostId))[n]? =
              some (⟨some id, (s.db.listPendingCommands hostId).length⟩ : Berth) := by
        intro n hn
        show (γ.map _)[n]? = _
        rw [List.getElem?_map, hn, map_some]
        simp [Activity.enrols]
      cases g with
      | opened n | reaping n vms => exact ⟨hlisted n hmoor, hfits hostId rfl n _ hmoor rfl⟩
      | _ => cases hreg
    | _ =>
      cases g with
      | replaying n sent todo => cases todo <;> exact hmoor
      | _ => exact hmoor
  | mem m =>
    cases m with
    | channelOpen =>
      have hroams : g.roams = true := by
        cases hallow with
        | mem h _ => exact h
      cases g with
      | start =>
        have hnone : ¬(γ.any fun b => b.owner = some id) = true := by
          intro hany
          obtain ⟨b, hb, howner⟩ := any_eq_true.mp hany
          exact hmoor b hb (of_decide_eq_true howner)
        show (γ ++ [if (γ.any fun b => b.owner = some id) = true then ({} : Berth) else { owner := some id }])[
          s.channels.length]? = _
        rw [if_neg hnone, ← hsize, List.getElem?_append_right (Nat.le_refl _), Nat.sub_self]
        rfl
      | opened n | reaping n vms =>
        exact (List.getElem?_append_left (List.getElem?_eq_some_iff.mp hmoor).1).trans hmoor
      | replaying n sent todo | broken n => cases hroams
      | _ => exact hmoor
    | send m cmd =>
      -- before the listing nothing is owed, so no send is taken for a replay
      have hnothing : ∀ n : Nat, γ[n]? = some (⟨some id, 0⟩ : Berth) →
          (Berth.note γ (.streamMessages register id now) (.mem (.send m cmd))
            ((Op.mem (.send m cmd)).exec s).2)[n]? = some (⟨some id, 0⟩ : Berth) := by
        intro n hn
        show (γ.modify m _)[n]? = _
        rw [List.getElem?_modify, hn]
        by_cases hmn : m = n <;> simp [hmn]
      cases g with
      | start =>
        intro b hb
        obtain ⟨n, hn⟩ := mem_iff_getElem?.mp hb
        rcases Berth.owner_note hn with ⟨b₀, hb₀, howner⟩ | ⟨hopen, -⟩
        · rw [← howner]
          exact hmoor b₀ (mem_of_getElem? hb₀)
        · cases hopen
      | opened n | reaping n vms => exact hnothing n hmoor
      | replaying n sent todo =>
        obtain ⟨hberth, hroom⟩ := hmoor
        cases hallow with
        | mem h _ => cases h
        | @replay _ _ _ _ _ outboxId _ todo =>
          -- one command less is owed, and at most one more is on the channel
          have hload := load_exec (o := .mem (.send m cmd)) (s := s) (n := m)
          have hone : Op.sendsOn m (.mem (.send m cmd)) = true := decide_eq_true rfl
          rw [if_pos hone] at hload
          cases hsent : ((Op.mem (.send m cmd)).exec s).2 with
          | false => trivial
          | true =>
            refine ⟨?_, ?_⟩
            · show (γ.modify m _)[m]? = _
              rw [List.getElem?_modify, hberth]
              simp [Activity.enrols]
            · rw [length_cons] at hroom
              omega
      | broken n =>
        cases hallow with
        | mem h _ => cases h
      | _ => exact hmoor
    | _ =>
      cases g with
      | replaying n sent todo =>
        cases hallow with
        | mem h _ => cases h
      | _ => exact hmoor

/-- **The operations of others** keep it accounted for, if a send on the channel leaves the replay its room. -/
theorem moored_frame (hm : Moored t' g γ s) (hne : ∀ id, t'.enrols = some id → t.enrols ≠ some id)
    (hroom : ∀ n b, o.sendsOn n = true → γ[n]? = some b → b.owner = t'.enrols →
      s.load n + b.owed < commandCapacity) :
    Moored t' g (Berth.note γ t o (o.exec s).2) (o.exec s).1 := by
  intro id hid
  have hmoor := hm id hid
  have hkept : ∀ (n owed : Nat), γ[n]? = some (⟨some id, owed⟩ : Berth) →
      (Berth.note γ t o (o.exec s).2)[n]? = some (⟨some id, owed⟩ : Berth) :=
    fun n owed h => Berth.note_kept h fun h' => hne id hid h'.symm
  cases g with
  | start =>
    intro b hb howner
    obtain ⟨n, hn⟩ := mem_iff_getElem?.mp hb
    rcases Berth.owner_note hn with ⟨b₀, hb₀, howner₀⟩ | ⟨-, -, hnone | ⟨hown, -⟩⟩
    · exact hmoor b₀ (mem_of_getElem? hb₀) (howner₀.trans howner)
    · rw [hnone] at howner
      cases howner
    · exact hne id hid (hown.symm.trans howner)
  | opened n | reaping n vms => exact hkept n 0 hmoor
  | replaying n sent todo =>
    obtain ⟨hberth, hfits⟩ := hmoor
    refine ⟨hkept n _ hberth, ?_⟩
    have hload := load_exec (o := o) (s := s) (n := n)
    by_cases hsends : o.sendsOn n = true
    · have hleft := hroom n _ hsends hberth hid.symm
      rw [if_pos hsends] at hload
      simp only at hleft
      omega
    · rw [if_neg hsends] at hload
      omega
  | _ => exact hmoor

/-! ## All channels at once -/

/-- The history is that of the channels, no registration owns two of them, and every registration that has not
    returned has its own accounted for. -/
structure Berthed (γ : List Berth) (c : Cell) : Prop where
  size : γ.length = c.shared.channels.length
  single : ∀ (m n : Nat) (b b' : Berth), γ[m]? = some b → γ[n]? = some b' → b.owner = b'.owner →
    b.owner ≠ none → m = n
  minted : ∀ b ∈ γ, ∀ id, b.owner = some id → ∃ t ∈ c.started, t.enrols = some id
  known : ∀ task ∈ c.tasks, task.tag ∈ c.started
  apart : c.tasks.Pairwise fun a b => a.tag.Apart b.tag
  phases : ∀ task ∈ c.tasks, task.prog.finished = false →
    ∃ g, discipline.At task g ∧ Moored task.tag g γ c.shared

theorem mints_of_enrols {id : HostId} (h : t.enrols = some id) : id ∈ t.mints := by
  obtain ⟨register, now, rfl⟩ := stream_of_enrols h
  exact mem_singleton_self id

theorem berthed_start (db : Db) : Berthed [] (Cell.start db) where
  size := rfl
  single := fun m n b b' h => by cases h
  minted := fun b h => by cases h
  known := fun task h => by cases h
  apart := List.Pairwise.nil
  phases := fun task h => by cases h

theorem Berthed.spawn {tasks : List CellTask}
    (h : Berthed γ ⟨s, tasks, started⟩) (hfresh : Activity.fresh started t = true) :
    Berthed γ ⟨s, tasks ++ [⟨t, t.body settings⟩], t :: started⟩ where
  size := h.size
  single := h.single
  minted := by
    intro b hb id hid
    obtain ⟨t', ht', hid'⟩ := h.minted b hb id hid
    exact ⟨t', mem_cons_of_mem _ ht', hid'⟩
  known := by
    intro task htask
    rcases mem_append.mp htask with htask | htask
    · exact mem_cons_of_mem _ (h.known task htask)
    · rw [mem_singleton.mp htask]
      exact mem_cons_self
  apart := by
    refine pairwise_append.mpr ⟨h.apart, pairwise_singleton _ _, fun a ha b hb => ?_⟩
    rw [mem_singleton.mp hb]
    exact Activity.apart_of_fresh hfresh (h.known a ha)
  phases := by
    intro task htask hfin
    rcases mem_append.mp htask with htask | htask
    · exact h.phases task htask hfin
    · rw [mem_singleton.mp htask]
      refine ⟨.start, discipline_governs settings t, ?_⟩
      -- the id is new, so no channel can belong to it
      intro id hid b hb howner
      obtain ⟨t', ht', hid'⟩ := h.minted b hb id howner
      exact Activity.apart_of_fresh hfresh ht' id (mints_of_enrols hid') (mints_of_enrols hid)

/-- No registration comes to own two channels. -/
theorem Berthed.single_note (h : Berthed γ c) {m n : Nat} {b b' : Berth}
    (hb : (Berth.note γ t o r)[m]? = some b) (hb' : (Berth.note γ t o r)[n]? = some b')
    (heq : b.owner = b'.owner) (hsome : b.owner ≠ none) : m = n := by
  rcases Berth.owner_note hb with ⟨b₀, hb₀, hown⟩ | ⟨-, hm, hnone | ⟨hown, hnew⟩⟩
  · rcases Berth.owner_note hb' with ⟨b₀', hb₀', hown'⟩ | ⟨-, hn, hnone | ⟨hown', hnew⟩⟩
    · refine h.single m n b₀ b₀' hb₀ hb₀' ?_ ?_
      · rw [hown, hown', heq]
      · rwa [hown]
    · exact absurd (heq.trans hnone) hsome
    · refine absurd ?_ (hnew b₀ (mem_of_getElem? hb₀))
      rw [hown, heq, hown']
  · exact absurd hnone hsome
  · rcases Berth.owner_note hb' with ⟨b₀', hb₀', hown'⟩ | ⟨-, hn, -⟩
    · refine absurd ?_ (hnew b₀' (mem_of_getElem? hb₀'))
      rw [hown', ← heq, hown]
    · rw [hm, hn]

/-- A channel of a registration that has not returned is not read. -/
theorem undrained_of_task {task : CellTask} {id : HostId}
    (htask : task ∈ c.tasks) (hfin : task.prog.finished = false) (hid : task.tag.enrols = some id)
    (hb : γ[n]? = some b) (howner : b.owner = some id) : Cell.undrained γ c n = true := by
  unfold Cell.undrained
  rw [hb]
  refine any_eq_true.mpr ⟨task, htask, ?_⟩
  simp [hfin, hid, howner]

theorem exists_of_undrained (h : Cell.undrained γ c n = true) : ∃ b, γ[n]? = some b := by
  unfold Cell.undrained at h
  cases hb : γ[n]? with
  | none =>
    rw [hb] at h
    cases h
  | some b => exact ⟨b, rfl⟩

theorem fits_of_roomy {hostId : HostId} (hroomy : Cell.roomy γ c e = true)
    (hop : c.nextOp e = some (t, .query (.listPendingCommands hostId))) (hb : γ[n]? = some b)
    (howner : b.owner = t.enrols) :
    c.shared.load n + (c.shared.db.listPendingCommands hostId).length ≤ commandCapacity := by
  unfold Cell.roomy at hroomy
  rw [hop] at hroomy
  have hall := all_eq_true.mp hroomy n (mem_range.mpr (List.getElem?_eq_some_iff.mp hb).1)
  rw [hb] at hall
  rcases of_decide_eq_true hall with hne | hle
  · exact absurd howner hne
  · exact hle

theorem room_of_roomy {cmd : ControllerCommand} (hroomy : Cell.roomy γ c e = true)
    (hop : c.nextOp e = some (t, .mem (.send n cmd))) (hun : Cell.undrained γ c n = true) (hb : γ[n]? = some b) :
    (b.owner = t.enrols ∧ 0 < b.owed) ∨ c.shared.load n + b.owed < commandCapacity := by
  unfold Cell.roomy at hroomy
  rw [hop] at hroomy
  simp only [hun, Bool.not_true, Bool.false_or, Bool.or_eq_true, Berth.replays, Berth.due, hb, Option.any_some,
    map_some, getD_some, decide_eq_true_eq] at hroomy
  exact hroomy

theorem Berthed.exec {pre post : List CellTask}
    (h : Berthed γ ⟨s, pre ++ ⟨t, .call o k⟩ :: post, started⟩)
    (hroomy : Cell.roomy γ ⟨s, pre ++ ⟨t, .call o k⟩ :: post, started⟩ (.step pre.length) = true) :
    Berthed (Berth.note γ t o (o.exec s).2) ⟨(o.exec s).1, pre ++ ⟨t, k (o.exec s).2⟩ :: post, started⟩ := by
  have hmem : (⟨t, .call o k⟩ : CellTask) ∈ pre ++ ⟨t, .call o k⟩ :: post :=
    mem_append_right _ mem_cons_self
  have hop : Config.nextOp (⟨s, pre ++ ⟨t, .call o k⟩ :: post, started⟩ : Cell) (.step pre.length) = some (t, o) :=
    Machine.nextOp_exec
  obtain ⟨-, hpost, hcross⟩ := pairwise_append.mp h.apart
  obtain ⟨hhead, -⟩ := pairwise_cons.mp hpost
  have hsub : (pre ++ post).Sublist (pre ++ ⟨t, .call o k⟩ :: post) := (sublist_cons_self _ _).append_left pre
  -- the others are other registrations, and the condition leaves their replays their room
  have others : ∀ task ∈ pre ++ post, task.prog.finished = false →
      ∃ g, discipline.At task g ∧ Moored task.tag g (Berth.note γ t o (o.exec s).2) (o.exec s).1 := by
    intro task htask hfin
    obtain ⟨g, hat, hmoor⟩ := h.phases task (hsub.subset htask) hfin
    have hapart : t.Apart task.tag := by
      rcases mem_append.mp htask with htask | htask
      · exact (hcross task htask _ mem_cons_self).symm
      · exact hhead task htask
    have hne : ∀ id, task.tag.enrols = some id → t.enrols ≠ some id :=
      fun id hid hid' => hapart id (mints_of_enrols hid') (mints_of_enrols hid)
    refine ⟨g, hat, ?_⟩
    cases hid : task.tag.enrols with
    | none =>
      intro id hid'
      rw [hid] at hid'
      cases hid'
    | some id =>
      refine moored_frame hmoor hne ?_
      intro n b hsends hb howner
      unfold Op.sendsOn at hsends
      split at hsends
      · rename_i m cmd
        obtain rfl : m = n := of_decide_eq_true hsends
        have hun := undrained_of_task (c := ⟨s, pre ++ ⟨t, .call _ k⟩ :: post, started⟩) (hsub.subset htask) hfin
          hid hb (howner.trans hid)
        rcases room_of_roomy hroomy hop hun hb with ⟨hown, -⟩ | hlt
        · exact absurd (hown.symm.trans (howner.trans hid)) (hne id hid)
        · exact hlt
      · cases hsends
  refine ⟨Berth.length_note h.size, fun m n b b' hb hb' => h.single_note hb hb', ?_, ?_, ?_, ?_⟩
  · intro b hb id hid
    obtain ⟨n, hn⟩ := mem_iff_getElem?.mp hb
    rcases Berth.owner_note hn with ⟨b₀, hb₀, hown⟩ | ⟨-, -, hnone | ⟨hown, -⟩⟩
    · exact h.minted b₀ (mem_of_getElem? hb₀) id (hown.trans hid)
    · rw [hnone] at hid
      cases hid
    · exact ⟨t, h.known _ hmem, hown.symm.trans hid⟩
  · exact Machine.forall_replaced h.known
  · exact Machine.pairwise_replaced h.apart
  · intro task htask hfin
    rcases Machine.mem_middle.mp htask with rfl | htask
    · obtain ⟨g, ⟨hallow, hcont⟩, hmoor⟩ := h.phases _ hmem rfl
      refine ⟨_, hcont _, moored_exec hallow hmoor h.size ?_⟩
      rintro hostId rfl n b hb howner
      exact fits_of_roomy hroomy hop hb howner
    · exact others task htask hfin

/-- **A registration is never kept waiting**, neither by its ack or a push, nor by its replay. -/
theorem not_congested {id : HostId}
    (h : Berthed γ c) (hroomy : Cell.roomy γ c (.step i) = true) (htask : c.tasks[i]? = some ⟨t, .call o k⟩)
    (hid : t.enrols = some id) : Cell.congested γ c (.step i) = false := by
  have hop := Machine.nextOp_of_getElem? htask
  cases hcon : Cell.congested γ c (.step i) with
  | false => rfl
  | true =>
    exfalso
    unfold Cell.congested at hcon
    rw [hop] at hcon
    split at hcon
    · rename_i t₀ n cmd heq
      cases heq
      simp only [Bool.and_eq_true, decide_eq_true_eq] at hcon
      obtain ⟨⟨-, hfull⟩, hun⟩ := hcon
      obtain ⟨b, hb⟩ := exists_of_undrained hun
      rcases room_of_roomy hroomy hop hun hb with ⟨hown, howed⟩ | hlt
      · -- it replays: its channel has room for what it owes
        obtain ⟨g, ⟨hallow, -⟩, hmoor⟩ := h.phases _ (mem_of_getElem? htask) rfl
        have hmine := hmoor id hid
        have hsome : b.owner ≠ none := by
          rw [hown, hid]
          exact Option.some_ne_none id
        have hsame : ∀ (m owed : Nat), γ[m]? = some (⟨some id, owed⟩ : Berth) → m = n ∧ owed = b.owed := by
          intro m owed hm
          have hmn : m = n := (h.single n m b _ hb hm (hown.trans hid) hsome).symm
          subst hmn
          rw [hm] at hb
          cases hb
          exact ⟨rfl, rfl⟩
        cases g with
        | start => exact hmine b (mem_of_getElem? hb) (hown.trans hid)
        | opened m | reaping m vms =>
          obtain ⟨-, hz⟩ := hsame m 0 hmine
          omega
        | replaying m sent todo =>
          obtain ⟨hberth, hfits⟩ := hmine
          obtain ⟨rfl, hz⟩ := hsame m _ hberth
          omega
        | broken m =>
          cases hallow with
          | mem hroams _ => cases hroams
        | _ => exact hmine
      · omega
    · cases hcon

theorem berthed_attempt
    (he : Machine.proceeds e = true) (h : Berthed x.1 x.2) (hroomy : Cell.roomy x.1 x.2 e = true) :
    Berthed (attempt settings x e).1 (attempt settings x e).2 := by
  obtain ⟨γ, c⟩ := x
  unfold attempt
  split
  · exact h
  · cases hstep : ((cell settings).watched Berth.watch) (γ, c) e with
    | none => exact h
    | some y =>
      obtain ⟨γ', c'⟩ := y
      obtain ⟨rfl, hinv⟩ := Machine.watched_cases hstep
      cases hinv with
      | spawn hfresh => exact h.spawn hfresh
      | @exec s pre post started t o k =>
        have hwatch : Berth.watch γ ⟨s, pre ++ ⟨t, .call o k⟩ :: post, started⟩ (.step pre.length) =
            Berth.note γ t o (o.exec s).2 := by
          simp [Berth.watch]
        rw [getD_some, hwatch]
        exact h.exec hroomy
      | drop | crash => cases he

theorem berthed_states {ev : Nat → Event Activity} (hev : ∀ n, Machine.proceeds (ev n) = true)
    (hroomy : ∀ n, Cell.roomy (states settings db ev n).1 (states settings db ev n).2 (ev n) = true) (n : Nat) :
    Berthed (states settings db ev n).1 (states settings db ev n).2 := by
  induction n with
  | zero => exact berthed_start db
  | succ n ih => exact berthed_attempt (hev n) ih (hroomy n)

/-- **Every registration returns**, from any database and under any schedule that comes back to it again and again,
    as long as the bound of the channels is respected. -/
theorem registration_returns {settings : Settings} {db : Db} {ev : Nat → Event Activity}
    (hev : ∀ n, Machine.proceeds (ev n) = true)
    (hroomy : ∀ n, Cell.roomy (states settings db ev n).1 (states settings db ev n).2 (ev n) = true)
    {i n : Nat} {register : RegisterHostRequest} {newHostId : HostId} {now : Nat}
    {prog : Handler (Except Status Reply)}
    (htask : (states settings db ev n).2.tasks[i]? = some ⟨.streamMessages register newHostId now, prog⟩)
    (hfair : ∀ n, ∃ m, n ≤ m ∧ ev m = .step i) :
    ∃ m reply, (states settings db ev m).2.tasks[i]? =
      some ⟨.streamMessages register newHostId now, .ret reply⟩ := by
  refine Machine.returns_of_fair (x := fun n => (states settings db ev n).2) ?_ ?_ hfair prog n htask
  · -- its turn: it is not kept waiting
    intro n o k hstep hcall
    have hfree := not_congested (berthed_states hev hroomy n) (hstep ▸ hroomy n) hcall rfl
    refine ⟨(o.exec (states settings db ev n).2.shared).2, ?_⟩
    show (attempt settings (states settings db ev n) (ev n)).2.tasks[i]? = _
    unfold attempt
    rw [hstep, hfree, if_neg Bool.false_ne_true]
    simp only [Machine.watched, Machine.step, hcall, map_some, getD_some]
    exact List.getElem?_set_self (List.getElem?_eq_some_iff.mp hcall).1
  · -- the turn of another
    intro n task hother hat
    show (attempt settings (states settings db ev n) (ev n)).2.tasks[i]? = _
    unfold attempt
    split
    · exact hat
    · simp only [Machine.watched]
      cases hstep : (cell settings).step (states settings db ev n).2 (ev n) with
      | none => exact hat
      | some c' => exact Machine.getElem?_of_other (hev n) hother hstep hat

/-! ## A registration on its own -/

/-- One activity is spawned and then scheduled for ever. -/
def alone (t : Activity) : Nat → Event Activity
  | 0 => .spawn t
  | _ + 1 => .step 0

theorem alone_proceeds (t : Activity) (n : Nat) : Machine.proceeds (alone t n) = true := by
  cases n <;> rfl

theorem alone_fair (t : Activity) (n : Nat) : ∃ m, n ≤ m ∧ alone t m = .step 0 := ⟨n + 1, Nat.le_succ n, rfl⟩

/-- Where its next event changes nothing, it stays. -/
theorem states_still {n : Nat} (hn : 0 < n)
    (hstill : attempt settings (states settings db (alone t) n) (.step 0) = states settings db (alone t) n)
    (d : Nat) : states settings db (alone t) (n + d) = states settings db (alone t) n := by
  induction d with
  | zero => rfl
  | succ d ih =>
    obtain ⟨m, hm⟩ : ∃ m, n + d = m + 1 := ⟨n + d - 1, by omega⟩
    have hev : alone t (n + d) = .step 0 := by rw [hm]; rfl
    show attempt settings (states settings db (alone t) (n + d)) (alone t (n + d)) = _
    rw [hev, ih]
    exact hstill

theorem nextOp_of_finished (h : (c.tasks[i]?).any (·.prog.finished) = true) : c.nextOp (.step i) = none := by
  simp only [Config.nextOp]
  split
  · rename_i hcall
    rw [hcall] at h
    cases h
  · rfl

theorem attempt_of_finished
    (h : (x.2.tasks[i]?).any (·.prog.finished) = true) : attempt settings x (.step i) = x := by
  have hstep : (cell settings).step x.2 (.step i) = none := by
    simp only [Machine.step]
    split
    · rename_i hcall
      rw [hcall] at h
      cases h
    · rfl
  unfold attempt
  rw [Machine.watched, hstep]
  split <;> rfl

/-- The node's database with `n` creates in the outbox that no stream has taken. -/
def backlog : Nat → Db
  | 0 => (reached (.spawn registerNode :: steps 0 11)).shared.db
  | n + 1 =>
    ((Write.enqueuePendingCommand "h1" s!"v{n}" (.createVm
      { vmId := s!"v{n}", name := "worker", cpu := 2, memoryMib := 1024, diskGib := 10, ipAddress := 167772168 + n,
        gateway := 167772161, prefixLen := 24, vni := 10000, clusterId := "c0" })).exec (backlog n)).1

/-- **31 rows fit.** The node reconnects with nobody else around; its ack and its rows fill the channel. -/
theorem registration_returns_backlog : ((backlog 31).listPendingCommands "h1").length = 31 ∧
    ∃ m reply, (states smallCell (backlog 31) (alone (registerAs "h2" 200)) m).2.tasks[0]? =
      some ⟨registerAs "h2" 200, .ret reply⟩ := by
  have hdone : ((states smallCell (backlog 31) (alone (registerAs "h2" 200)) 74).2.tasks[0]?).any
      (·.prog.finished) = true := by decide +kernel
  refine ⟨by decide +kernel, registration_returns (i := 0) (n := 1) (alone_proceeds _) ?_ rfl (alone_fair _)⟩
  intro n
  by_cases hn : n < 74
  · revert n
    decide +kernel
  · -- from there on it has returned
    obtain ⟨d, rfl⟩ : ∃ d, n = 74 + d := ⟨n - 74, by omega⟩
    have hev : alone (registerAs "h2" 200) (74 + d) = .step 0 := by rw [Nat.add_comm]; rfl
    rw [states_still (by decide) (attempt_of_finished hdone), hev]
    unfold Cell.roomy
    rw [nextOp_of_finished hdone]

/-- **32 rows are too many.** The node reconnects with nobody else around; its ack and 31 of its rows fill the
    channel, and the 32nd waits for a reader that only the return would bring. -/
theorem registration_stuck : ((backlog 32).listPendingCommands "h1").length = 32 ∧
    (∀ n, ∃ m, n ≤ m ∧ alone (registerAs "h2" 200) m = .step 0) ∧
    ∀ n reply, (states smallCell (backlog 32) (alone (registerAs "h2" 200)) n).2.tasks[0]? ≠
      some ⟨registerAs "h2" 200, .ret reply⟩ := by
  have hfull : Cell.congested (states smallCell (backlog 32) (alone (registerAs "h2" 200)) 74).1
      (states smallCell (backlog 32) (alone (registerAs "h2" 200)) 74).2 (.step 0) = true := by
    decide +kernel
  refine ⟨by decide +kernel, alone_fair _, ?_⟩
  intro n reply hret
  have hfin : ((states smallCell (backlog 32) (alone (registerAs "h2" 200)) n).2.tasks[0]?).any (·.prog.finished) =
      true := by
    rw [hret]
    rfl
  have hpos : 0 < n := by
    cases n with
    | zero => cases hret
    | succ n => exact Nat.succ_pos n
  -- had it returned, it would have returned at every later moment, and where it waits it has not
  have hlater := states_still hpos (attempt_of_finished hfin) 74
  have hstill := states_still (by decide) (if_pos hfull : attempt smallCell _ (.step 0) = _) n
  rw [Nat.add_comm, hlater] at hstill
  rw [← hstill, Cell.congested, nextOp_of_finished hfin] at hfull
  cases hfull

end BasisCell
