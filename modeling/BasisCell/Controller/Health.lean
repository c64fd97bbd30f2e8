import BasisCell.Lib.Product
import BasisCell.Controller.Discipline
import BasisCell.Controller.Effects
import BasisCell.Controller.Routine

/-!
# `BasisCell.Controller.Health` — the health checker, one statement at a time

`host_health_checker` flips the hosts whose heartbeat went stale and then fails their VMs, host by host. The
two are separate calls, `mark_stale_hosts_unhealthy` is itself a `SELECT` followed by an `UPDATE`, and any
statement may fail; the next tick selects healthy hosts only, so what one tick leaves undone no other tick
does.

`Stmt` splits the one call that is not a statement, and lets a tick's writes be refused. The tick is the
handler `hostHealthTick` itself with its calls served that way (`TickFaults.serve`). `health` is the pool of ticks,
heartbeats and registrations.
-/

namespace BasisCell

open Conc Conc.Protocol Relational Table List Transition

variable {hostId : HostId} {c : HealthCell}

/-! ## Statements -/

/-- What the database executes at once for a tick: a call, one of the two statements behind
    `mark_stale_hosts_unhealthy`, or a write that fails. -/
inductive Stmt where
  | op (o : Op)
  | selectStale (cutoff : Nat)
  | flipStale (cutoff : Nat)
  | refused (w : Write) (e : DbError)

namespace Stmt

abbrev Resp : Stmt → Type
  | op o => o.Resp
  | selectStale _ => List HostId
  | flipStale _ => Unit
  | refused _ _ => Unit

def exec : (st : Stmt) → Shared → Shared × st.Resp
  | op o, s => o.exec s
  | selectStale cutoff, s => (s, (s.db.markStaleHostsUnhealthy cutoff).2)
  | flipStale cutoff, s => ({ s with db := (s.db.markStaleHostsUnhealthy cutoff).1 }, ())
  | refused _ _, s => (s, ())

def run (st : Stmt) : Prog Stmt Stmt.Resp st.Resp := Prog.perform st

end Stmt

/-- Which writes of a tick fail, and how. -/
structure TickFaults where
  flip : Option DbError := none
  cascade : HostId → Option DbError := fun _ => none

/-- The `UPDATE` behind `mark_stale_hosts_unhealthy`, which runs only if the `SELECT` found a host. -/
def TickFaults.flipHosts (faults : TickFaults) (cutoff : Nat) :
    List HostId → Prog Stmt Stmt.Resp (Except DbError (List HostId))
  | [] => return .ok []
  | host :: more =>
    match faults.flip with
    | some e => do
      let _ ← (Stmt.refused (.markStaleHostsUnhealthy cutoff) e).run
      return .error e
    | none => do
      let _ ← (Stmt.flipStale cutoff).run
      return .ok (host :: more)

/-- How the calls of a tick are carried out. -/
def TickFaults.serve (faults : TickFaults) : (o : Op) → Prog Stmt Stmt.Resp o.Resp
  | .write (.markStaleHostsUnhealthy cutoff) => do
    let stale ← (Stmt.selectStale cutoff).run
    faults.flipHosts cutoff stale
  | .write (.markVmsFailedOnHost hostId reason) =>
    match faults.cascade hostId with
    | some e => do
      let _ ← (Stmt.refused (.markVmsFailedOnHost hostId reason) e).run
      return .error e
    | none => (Stmt.op (.write (.markVmsFailedOnHost hostId reason))).run
  | o => (Stmt.op o).run

/-- Heartbeats and registrations. -/
def Activity.beats : Activity → Bool
  | .agentMessage _ (.heartbeat _) _ => true
  | .streamMessages _ _ _ => true
  | _ => false

/-- What runs beside the health checker, and its own ticks. -/
inductive HealthTask where
  | tick (cutoff : Nat) (faults : TickFaults)
  | activity (t : Activity)

namespace HealthTask

def body (settings : Settings) : HealthTask → Prog Stmt Stmt.Resp (Except Status Reply)
  | tick cutoff faults => (hostHealthTick cutoff).subst faults.serve
  | activity t => (t.body settings).subst fun o => (Stmt.op o).run

def activity? : HealthTask → Option Activity
  | tick _ _ => none
  | activity t => some t

def fresh (started : List HealthTask) : HealthTask → Bool
  | tick _ _ => true
  | activity t => t.beats && Activity.fresh (started.filterMap activity?) t

end HealthTask

/-- The controller with nothing but ticks, heartbeats and registrations. -/
def health (settings : Settings) : Machine HealthTask Stmt Stmt.Resp Shared (Except Status Reply) where
  exec := Stmt.exec
  body := HealthTask.body settings
  fresh := HealthTask.fresh
  reboot := Shared.restart

abbrev HealthCell := Config HealthTask Stmt Stmt.Resp Shared (Except Status Reply)

abbrev HealthCell.start (db : Db) : HealthCell := ⟨Shared.boot db, [], []⟩

/-! ## Host rows -/

/-- The host whose heartbeat a call records, and the time it records. -/
def Write.beat : Write → Option (HostId × Nat)
  | .recordHeartbeat hostId now _ _ => some (hostId, now)
  | .upsertHost host => some (host.id, host.lastHeartbeat)
  | _ => none

/-- What heartbeats and registrations may run: they bring no VM to life and take no host for dead. -/
def Op.calm : Op → Bool
  | .write (.insertVm _ _ _) => false
  | .write (.updateVmState _ _ _) => false
  | .write (.markVmsFailedOnHost _ _) => false
  | .write (.markStaleHostsUnhealthy _) => false
  | .write (.upsertHost host) => host.healthy
  | _ => true

section Hosts

variable {w : Write} {db : Db} {host host' : HostRow}

/-- A host row after a calm call was there before, or the call has recorded its heartbeat. -/
theorem hosts_exec (hw : (Op.write w).calm = true) (h : host' ∈ (w.exec db).1.hosts.rows) :
    host' ∈ db.hosts.rows ∨ w.beat = some (host'.id, host'.lastHeartbeat) ∧ host'.healthy = true := by
  revert h
  refine w.exec_elim db .inl fun heff h => ?_
  cases heff with
  | upsertHost hins =>
    rcases (mem_insert hins).mp h with h | rfl
    · exact .inl (mem_delete.mp h).1
    · exact .inr ⟨rfl, hw⟩
  | @recordHeartbeat hostId =>
    obtain ⟨host, hhost, rfl⟩ := mem_map.mp h
    by_cases hid : host.id = hostId
    · rw [if_pos (decide_eq_true hid)]
      subst hid
      exact .inr ⟨rfl, rfl⟩
    · rw [if_neg (by simpa using hid)]
      exact .inl hhost
  | markStaleHostsUnhealthy => cases hw
  | ackTombstones =>
    rw [Db.ackTombstones_frame.1] at h
    exact .inl h
  | _ => exact .inl h

/-- A host row stays as it is under a calm call, unless the call records its heartbeat. -/
theorem hosts_kept (hw : (Op.write w).calm = true) (h : host ∈ db.hosts.rows) :
    host ∈ (w.exec db).1.hosts.rows ∨ ∃ now, w.beat = some (host.id, now) := by
  refine w.exec_elim db (.inl h) fun heff => ?_
  cases heff with
  | @upsertHost new t hins =>
    by_cases hid : host.id = new.id
    · rw [hid]
      exact .inr ⟨_, rfl⟩
    · refine .inl ((mem_insert hins).mpr (.inl (mem_delete.mpr ⟨h, ?_⟩)))
      exact decide_eq_false hid
  | @recordHeartbeat hostId now =>
    by_cases hid : host.id = hostId
    · subst hid
      exact .inr ⟨_, rfl⟩
    · refine .inl (mem_map.mpr ⟨host, h, ?_⟩)
      exact if_neg (by simpa using hid)
  | markStaleHostsUnhealthy => cases hw
  | ackTombstones =>
    rw [Db.ackTombstones_frame.1]
    exact .inl h
  | _ => exact .inl h

/-- No VM of the host is taken for alive. -/
def Db.WrittenOff (db : Db) (hostId : HostId) : Prop :=
  ∀ v ∈ db.vms.rows, v.hostId = hostId → v.state = .failed ∨ v.state = .stopped ∨ v.state = .pendingTeardown

instance (db : Db) (hostId : HostId) : Decidable (db.WrittenOff hostId) :=
  inferInstanceAs (Decidable (∀ v ∈ db.vms.rows, _))

/-- The states a call may write without bringing a VM to life. -/
theorem writtenOff_of_sets (hset : ∀ r state, w.sets r = some state →
      state = .failed ∨ state = .stopped ∨ state = .pendingTeardown)
    (hins : ∀ vm gpus disks, w ≠ .insertVm vm gpus disks) (h : db.WrittenOff hostId) :
    (w.exec db).1.WrittenOff hostId := by
  intro v hv hhost
  obtain ⟨r, hr, hleaves⟩ | ⟨⟨gpus, disks, hw⟩, -⟩ := Write.vms_exec hv
  · rw [hleaves.state]
    cases hsets : w.sets r with
    | some state => exact hset r state hsets
    | none => exact h r hr (hleaves.same.hostId.trans hhost)
  · exact absurd hw (hins v gpus disks)

theorem writtenOff_calm (hw : (Op.write w).calm = true) (h : db.WrittenOff hostId) :
    (w.exec db).1.WrittenOff hostId := by
  refine writtenOff_of_sets (fun r state hset => ?_) (fun vm gpus disks heq => ?_) h
  · cases w with
    | markVmPendingTeardown vmId =>
      simp only [Write.sets] at hset
      split at hset <;> cases hset
      exact .inr (.inr rfl)
    | updateVmState | markVmsFailedOnHost => cases hw
    | _ => cases hset
  · subst heq
    cases hw

/-- The cascade of one host settles it, and unsettles no other. -/
theorem writtenOff_markVmsFailed {target : HostId} {reason : String}
    (h : hostId = target ∨ db.WrittenOff hostId) :
    ((Write.markVmsFailedOnHost target reason).exec db).1.WrittenOff hostId := by
  intro v hv hhost
  obtain ⟨r, hr, hleaves⟩ | ⟨⟨gpus, disks, hw⟩, -⟩ := Write.vms_exec hv
  · rw [hleaves.state]
    have hon : r.hostId = hostId := hleaves.same.hostId.trans hhost
    have hsets : (Write.markVmsFailedOnHost target reason).sets r =
      if Db.failsOnHost target r then some MachineState.failed else none := rfl
    rw [hsets]
    by_cases hfails : Db.failsOnHost target r = true
    · rw [if_pos hfails]
      exact .inl rfl
    · rw [if_neg hfails, Option.getD_none]
      rcases h with rfl | h
      · -- a VM of the host that the cascade skips was stopped or failed already
        simp only [Db.failsOnHost, hon, decide_eq_true_eq, true_and] at hfails
        by_cases hstop : r.state = .stopped
        · exact .inr (.inl hstop)
        · exact .inl (Decidable.byContradiction fun hfail => hfails ⟨hstop, hfail⟩)
      · exact h r hr hon
  · cases hw

end Hosts

/-! ## How far a tick has come -/

inductive HealthPhase where
  /-- The tick has not looked for stale hosts. -/
  | check
  /-- It has found these. -/
  | listed (stale : List HostId)
  /-- The hosts are flipped; the VMs of these are not failed yet. -/
  | cascading (rest : List HostId)
  | over
  /-- A heartbeat or a registration. -/
  | beating

inductive HealthAllows : HealthTask → HealthPhase → Stmt → Prop
  | select {cutoff faults} : HealthAllows (.tick cutoff faults) .check (.selectStale cutoff)
  | flip {cutoff faults stale} : HealthAllows (.tick cutoff faults) (.listed stale) (.flipStale cutoff)
  | flipRefused {cutoff faults stale cutoff' e} :
      HealthAllows (.tick cutoff faults) (.listed stale) (.refused (.markStaleHostsUnhealthy cutoff') e)
  | cascade {cutoff faults hostId rest reason} :
      HealthAllows (.tick cutoff faults) (.cascading (hostId :: rest))
        (.op (.write (.markVmsFailedOnHost hostId reason)))
  | cascadeRefused {cutoff faults hostId rest reason e} :
      HealthAllows (.tick cutoff faults) (.cascading (hostId :: rest)) (.refused (.markVmsFailedOnHost hostId reason) e)
  | calm {t o} (h : o.calm = true) : HealthAllows (.activity t) .beating (.op o)

def HealthPhase.next : HealthPhase → (st : Stmt) → st.Resp → HealthPhase
  | .check, .selectStale _, [] => .over
  | .check, .selectStale _, host :: more => .listed (host :: more)
  | .listed stale, .flipStale _, _ => .cascading stale
  | .listed _, .refused _ _, _ => .over
  | .cascading (_ :: rest), _, _ => .cascading rest
  | g, _, _ => g

def HealthTask.ends : HealthTask → HealthPhase → Prop
  | .tick _ _, g => g = .over ∨ g = .cascading []
  | .activity _, g => g = .beating

def healthDiscipline : Discipline HealthTask Stmt Stmt.Resp (Except Status Reply) HealthPhase where
  protocol := fun t => ⟨HealthAllows t, HealthPhase.next⟩
  start := fun
    | .tick _ _ => .check
    | .activity _ => .beating
  ends := fun t g _ => t.ends g

/-- The protocol that lets a registration write the row of a live host only. -/
def liveHosts : Protocol Op Op.Resp Unit where
  allows := fun _ o => ∀ host, o = .write (.upsertHost host) → host.healthy = true
  next := fun _ _ _ => ()

theorem liveHosts_routine (settings : Settings) : Routine settings liveHosts () := by
  have other : ∀ o : Op, o.plain = true ∨ o.votes = true →
      liveHosts.allows () o ∧ ∀ r, liveHosts.next () o r = () := by
    refine fun o ho => ⟨fun host h => ?_, fun _ => rfl⟩
    subst h
    rcases ho with ho | ho <;> cases ho
  refine ⟨fun o ho => other o (.inl ho), stays_carriedState_of_votes fun o _ => other o, fun register newId now => ?_,
    fun hostId channel k hk => ?_⟩
  · refine stays_call (fun host h => (nomatch h)) (fun _ => rfl) fun existing => ?_
    refine stays_call (fun host h => ?_) (fun _ => rfl) fun upserted => ?_
    · cases h
      rfl
    · cases upserted <;> rfl
  · exact stays_call (fun host h => (nomatch h)) (fun _ => rfl) fun epoch =>
      stays_call (fun host h => (nomatch h)) (fun _ => rfl) fun _ => hk epoch

theorem follows_tick {cutoff : Nat} {faults : TickFaults} :
    healthDiscipline.At ⟨.tick cutoff faults, (hostHealthTick cutoff).subst faults.serve⟩ .check := by
  -- one cascade per host, refused or not
  have cascades : ∀ {α : Type} {Q : HealthPhase → α → Prop} {k : Unit → Handler α} (rest : List HostId),
      (healthDiscipline.protocol (.tick cutoff faults)).Follows Q ((k ()).subst faults.serve) (.cascading []) →
      (healthDiscipline.protocol (.tick cutoff faults)).Follows Q
        (((Prog.forEach rest fun hostId => do
          let _ ← Handler.write (.markVmsFailedOnHost hostId hostStaleVmReason)
          return ()).bind k).subst faults.serve) (.cascading rest) := by
    intro α Q k rest hk
    induction rest with
    | nil => exact hk
    | cons hostId rest ih =>
      show Protocol.Follows _ Q ((faults.serve (.write (.markVmsFailedOnHost hostId hostStaleVmReason))).bind _) _
      simp only [TickFaults.serve]
      cases faults.cascade hostId with
      | some e => exact ⟨.cascadeRefused, fun r => ih⟩
      | none => exact ⟨.cascade, fun r => ih⟩
  refine ⟨.select, fun stale => ?_⟩
  cases stale with
  | nil => exact .inl rfl
  | cons host more =>
    show Protocol.Follows _ _ (Prog.bind (faults.flipHosts cutoff (host :: more)) _) _
    simp only [TickFaults.flipHosts]
    cases faults.flip with
    | some e => exact ⟨.flipRefused, fun _ => .inl rfl⟩
    | none =>
      refine ⟨.flip, fun _ => ?_⟩
      exact cascades (host :: more) (.inr rfl)

theorem health_governs (settings : Settings) {t : HealthTask} {started : List HealthTask}
    (h : HealthTask.fresh started t = true) : healthDiscipline.At ⟨t, t.body settings⟩ (healthDiscipline.start t) := by
  cases t with
  | tick cutoff faults => exact follows_tick
  | activity t =>
    have hbeats : t.beats = true := (Bool.and_eq_true_iff.mp h).1
    have hboth := Follows.prod (discipline_governs settings t) ((liveHosts_routine settings).stays_body t)
    refine (hboth.subst (fun _ => HealthPhase.beating) fun g o ho => ?_).mono fun g a hg => ?_
    · obtain ⟨phase, _⟩ := g
      obtain ⟨hallow, hlive⟩ := ho
      refine ⟨.calm ?_, fun _ => rfl⟩
      cases hallow with
      | upsertHost => exact hlive _ rfl
      | _ => first | rfl | cases hbeats
    · obtain ⟨_, rfl, -⟩ := hg
      rfl

/-! ## Runs -/

/-- What a statement adds to the hosts whose heartbeat was recorded since a tick last looked for stale ones. -/
def Stmt.heard (seen : List HostId) : Stmt → List HostId
  | .selectStale _ => []
  | .op (.write w) => (w.beat.map (·.1)).toList ++ seen
  | _ => seen

/-- The hosts whose heartbeat was recorded since a tick last looked for stale ones. -/
def beaten (seen : List HostId) (c : HealthCell) (e : Event HealthTask) : List HostId :=
  match c.nextOp e with
  | some (_, st) => st.heard seen
  | none => seen

abbrev HealthJob := Task HealthTask Stmt Stmt.Resp (Except Status Reply)

/-- A tick that has not ended. -/
def ticking : HealthJob → Bool
  | ⟨.tick _ _, .call _ _⟩ => true
  | _ => false

/-- The cutoff of a tick that has looked for stale hosts and has not ended. -/
def checkedWith : HealthJob → Option Nat
  | ⟨.tick _ _, .call (.selectStale _) _⟩ => none
  | ⟨.tick cutoff _, .call _ _⟩ => some cutoff
  | _ => none

/-- A tick that has flipped its hosts and has not failed all their VMs. -/
def cascades : HealthJob → Bool
  | ⟨_, .call (.op (.write (.markVmsFailedOnHost _ _))) _⟩ => true
  | ⟨_, .call (.refused (.markVmsFailedOnHost _ _) _) _⟩ => true
  | _ => false

/-- `host_health_checker` is one loop: a tick starts when the one before it has ended. -/
def HealthCell.serial (c : HealthCell) : Event HealthTask → Bool
  | .spawn (.tick _ _) => c.tasks.all fun task => !ticking task
  | _ => true

/-- No tick that has looked for stale hosts took host `hostId` for one, or would take it for one at `now`. -/
def HealthCell.unlisted (c : HealthCell) (hostId : HostId) (now : Nat) : Bool :=
  c.tasks.all fun task => (checkedWith task).all fun cutoff =>
    decide (cutoff ≤ now) && c.shared.db.hosts.rows.all fun host =>
      host.id != hostId || decide (cutoff ≤ host.lastHeartbeat)

/-- The event does not cut through a cascade: no heartbeat of a host that a tick has just found stale, no VM
    update refused that had something to do, no cancellation or restart between a flip and its VM updates. -/
def HealthCell.undisturbed (c : HealthCell) : Event HealthTask → Bool
  | .spawn _ => true
  | .crash => c.tasks.all fun task => !cascades task
  | .drop i => c.tasks[i]?.all fun task => !cascades task
  | .step i =>
    match c.nextOp (.step i) with
    | some (_, .op (.write w)) => w.beat.all fun beat => c.unlisted beat.1 beat.2
    | some (_, .refused (.markVmsFailedOnHost hostId _) _) => c.shared.db.vms.rows.all fun v => !Db.failsOnHost hostId v
    | _ => true

/-- The cascade is exact at an event: a tick that ends, its writes all done, leaves no VM alive on an unhealthy
    host; and VMs are failed only on a host that was silent since the tick found it stale. -/
def Exact (settings : Settings) (x : List HostId × HealthCell) (e : Event HealthTask) : Prop :=
  (∀ i cutoff reply c', e = .step i → (health settings).step x.2 e = some c' →
    c'.tasks[i]? = some ⟨.tick cutoff {}, .ret reply⟩ →
    ∀ host ∈ c'.shared.db.hosts.rows, host.healthy = false → c'.shared.db.WrittenOff host.id) ∧
  ∀ cutoff faults hostId reason,
    x.2.nextOp e = some (.tick cutoff faults, .op (.write (.markVmsFailedOnHost hostId reason))) → hostId ∉ x.1

/-! ### The invariant -/

/-- The hosts are stale by the cutoff, and silent since. -/
def Lagging (cutoff : Nat) (seen : List HostId) (db : Db) (hosts : List HostId) : Prop :=
  ∀ hostId ∈ hosts, hostId ∉ seen ∧ ∃ host ∈ db.hosts.rows, host.id = hostId ∧ host.lastHeartbeat < cutoff

/-- What a tick knows: it has found every host that its `UPDATE` would flip, and only lagging ones. -/
def HealthPhase.Asserts (seen : List HostId) (db : Db) : HealthTask → HealthPhase → Prop
  | .tick cutoff _, .listed stale =>
    (∀ host ∈ db.hosts.rows, host.healthy = true → host.lastHeartbeat < cutoff → host.id ∈ stale) ∧
      Lagging cutoff seen db stale
  | .tick cutoff _, .cascading rest => Lagging cutoff seen db rest
  | _, _ => True

/-- The host's VMs are some tick's to fail. -/
def Awaits (tasks : List HealthJob) (hostId : HostId) : Prop :=
  ∃ task ∈ tasks, ∃ rest, healthDiscipline.At task (.cascading rest) ∧ hostId ∈ rest

/-- The invariant: ticks come one at a time, each knows what its phase asserts, and no VM is alive on an
    unhealthy host except where a tick is about to fail it. -/
structure Cascading (seen : List HostId) (c : HealthCell) : Prop where
  phases : ∀ task ∈ c.tasks, ∃ g, healthDiscipline.At task g ∧ g.Asserts seen c.shared.db task.tag
  single : c.tasks.Pairwise fun a b => ¬(ticking a = true ∧ ticking b = true)
  writtenOff : ∀ host ∈ c.shared.db.hosts.rows, host.healthy = false →
    c.shared.db.WrittenOff host.id ∨ Awaits c.tasks host.id

section Phases

variable {task : HealthJob} {g : HealthPhase} {seen : List HostId} {db : Db}

/-- An activity asserts nothing, and neither does a tick that has ended. -/
theorem asserts_of_idle (hat : healthDiscipline.At task g) (h : ticking task = false) :
    g.Asserts seen db task.tag := by
  obtain ⟨t, p⟩ := task
  cases t with
  | activity t => trivial
  | tick cutoff faults =>
    cases p with
    | call st k => cases h
    | ret r =>
      rcases hat with rfl | rfl
      · trivial
      · exact forall_mem_nil _

/-- A tick with VMs left to fail is about to fail those of one host. -/
theorem cascading_next {rest : List HostId} (hat : healthDiscipline.At task (.cascading rest))
    (hmem : hostId ∈ rest) : ticking task = true ∧ cascades task = true := by
  obtain ⟨t, p⟩ := task
  cases p with
  | ret r =>
    cases t with
    | activity t => cases hat
    | tick cutoff faults =>
      rcases hat with h | h <;> cases h
      cases hmem
  | call st k =>
    obtain ⟨hallow, -⟩ := hat
    cases hallow <;> exact ⟨rfl, rfl⟩

end Phases

section Calm

variable {cutoff : Nat} {seen hosts : List HostId} {db : Db} {w : Write}

/-- The call records the heartbeat of no host that is stale by the cutoff. -/
def Write.Spares (w : Write) (db : Db) (cutoff : Nat) : Prop :=
  ∀ hostId now, w.beat = some (hostId, now) →
    cutoff ≤ now ∧ ∀ host ∈ db.hosts.rows, host.id = hostId → cutoff ≤ host.lastHeartbeat

/-- Lagging hosts lag on while the heartbeats of others are recorded. -/
theorem lagging_calm (hw : (Op.write w).calm = true) (hspare : w.Spares db cutoff)
    (h : Lagging cutoff seen db hosts) :
    Lagging cutoff ((Stmt.op (.write w)).heard seen) (w.exec db).1 hosts := by
  intro hostId hmem
  obtain ⟨hsilent, host, hhost, rfl, hstale⟩ := h hostId hmem
  have hother : ∀ now, w.beat ≠ some (host.id, now) := fun now hbeat =>
    absurd hstale (Nat.not_lt.mpr ((hspare _ _ hbeat).2 host hhost rfl))
  constructor
  · intro hheard
    rcases mem_append.mp hheard with hbeat | hold
    · obtain ⟨⟨id, now⟩, hbeat, rfl⟩ := Option.map_eq_some_iff.mp (Option.mem_toList.mp hbeat)
      exact hother now hbeat
    · exact hsilent hold
  · rcases hosts_kept hw hhost with hkept | ⟨now, hbeat⟩
    · exact ⟨host, hkept, rfl, hstale⟩
    · exact absurd hbeat (hother now)

end Calm

/-! ### Steps -/

section Steps

variable {settings : Settings} {seen : List HostId} {s : Shared} {pre post : List HealthJob}
variable {started : List HealthTask} {t : HealthTask} {st : Stmt} {g : HealthPhase}
variable {k : st.Resp → Prog Stmt Stmt.Resp (Except Status Reply)}

/-- The condition, at a call that a heartbeat or a registration is about to make. -/
theorem spares_of_undisturbed {w : Write} {k : Except DbError w.Result → Prog Stmt Stmt.Resp (Except Status Reply)}
    (h : HealthCell.undisturbed ⟨s, pre ++ ⟨t, .call (.op (.write w)) k⟩ :: post, started⟩ (.step pre.length) = true)
    {task : HealthJob} (htask : task ∈ pre ++ post) {cutoff : Nat} (hcheck : checkedWith task = some cutoff) :
    w.Spares s.db cutoff := by
  intro hostId now hbeat
  simp only [HealthCell.undisturbed, Machine.nextOp_exec, hbeat, Option.all_some] at h
  have hmem : task ∈ pre ++ ⟨t, .call (.op (.write w)) k⟩ :: post :=
    ((sublist_cons_self _ post).append_left pre).subset htask
  have hone := all_eq_true.mp h task hmem
  rw [hcheck, Option.all_some, Bool.and_eq_true, all_eq_true] at hone
  refine ⟨of_decide_eq_true hone.1, fun host hhost hid => ?_⟩
  rcases Bool.or_eq_true_iff.mp (hone.2 host hhost) with hne | hle
  · exact absurd hid (by simpa using hne)
  · exact of_decide_eq_true hle

/-- What a task asserts survives a calm statement of another one. -/
theorem asserts_frame {task : HealthJob} {o : Op} {k : o.Resp → Prog Stmt Stmt.Resp (Except Status Reply)}
    (hund : HealthCell.undisturbed ⟨s, pre ++ ⟨t, .call (.op o) k⟩ :: post, started⟩ (.step pre.length) = true)
    (ho : o.calm = true) (htask : task ∈ pre ++ post) (hat : healthDiscipline.At task g)
    (h : g.Asserts seen s.db task.tag) : g.Asserts ((Stmt.op o).heard seen) (o.exec s).1.db task.tag := by
  by_cases hidle : ticking task = true
  · obtain ⟨tag, p⟩ := task
    cases tag with
    | activity t => trivial
    | tick cutoff faults =>
      cases p with
      | ret r => cases hidle
      | call st' k' =>
        cases o with
        | query q => exact h
        | mem m =>
          rw [Op.exec_mem_db]
          exact h
        | write w =>
          rw [Op.exec_write_db]
          -- the tick has looked already, so the condition speaks about its cutoff
          have hspare : g ≠ .check → w.Spares s.db cutoff := by
            intro hg
            refine spares_of_undisturbed hund htask ?_
            cases hat.1 with
            | select => exact absurd rfl hg
            | _ => rfl
          cases g with
          | listed stale =>
            have hspare := hspare (by rintro ⟨⟩)
            refine ⟨fun host hhost hhealthy hstale => ?_, lagging_calm ho hspare h.2⟩
            rcases hosts_exec ho hhost with hold | ⟨hbeat, -⟩
            · exact h.1 host hold hhealthy hstale
            · exact absurd hstale (Nat.not_lt.mpr (hspare _ _ hbeat).1)
          | cascading rest => exact lagging_calm ho (hspare (by rintro ⟨⟩)) h
          | _ => trivial
  · exact asserts_of_idle hat (by simpa using hidle)

theorem asserts_exec (hallow : HealthAllows t g st) (h : g.Asserts seen s.db t) :
    (g.next st (st.exec s).2).Asserts (st.heard seen) (st.exec s).1.db t := by
  cases hallow with
  | @select cutoff faults =>
    have hmem : ∀ hostId, hostId ∈ (s.db.markStaleHostsUnhealthy cutoff).2 ↔
        ∃ host ∈ s.db.hosts.rows, (host.healthy = true ∧ host.lastHeartbeat < cutoff) ∧ host.id = hostId := by
      intro hostId
      simp [Db.markStaleHostsUnhealthy, and_assoc]
    show (HealthPhase.next .check (.selectStale cutoff) (s.db.markStaleHostsUnhealthy cutoff).2).Asserts [] s.db _
    generalize (s.db.markStaleHostsUnhealthy cutoff).2 = stale at hmem
    cases stale with
    | nil => trivial
    | cons host more =>
      refine ⟨fun h hh hhealthy hstale => (hmem h.id).mpr ⟨h, hh, ⟨hhealthy, hstale⟩, rfl⟩, fun hostId hid => ?_⟩
      obtain ⟨h, hh, ⟨-, hstale⟩, hid⟩ := (hmem hostId).mp hid
      exact ⟨not_mem_nil, h, hh, hid, hstale⟩
  | flip =>
    intro hostId hmem
    obtain ⟨hsilent, host, hhost, hid, hstale⟩ := h.2 hostId hmem
    refine ⟨hsilent, _, mem_map.mpr ⟨host, hhost, rfl⟩, ?_⟩
    split <;> exact ⟨hid, hstale⟩
  | flipRefused | calm ho => trivial
  | cascade | cascadeRefused => exact fun hostId hmem => h hostId (mem_cons_of_mem _ hmem)

/-- A host that awaits its cascade awaits it from another task, or from the one that steps. -/
theorem awaits_cases (h : Awaits (pre ++ ⟨t, .call st k⟩ :: post) hostId) :
    (∀ p, Awaits (pre ++ ⟨t, p⟩ :: post) hostId) ∨
      ∃ rest, healthDiscipline.At ⟨t, .call st k⟩ (.cascading rest) ∧ hostId ∈ rest := by
  obtain ⟨task, htask, rest, hat, hmem⟩ := h
  rcases Machine.mem_middle.mp htask with rfl | hother
  · exact .inr ⟨rest, hat, hmem⟩
  · exact .inl fun p => ⟨task, Machine.mem_middle.mpr (.inr hother), rest, hat, hmem⟩

/-- A statement outside a cascade leaves awaited hosts awaited. -/
theorem awaits_kept {p : Prog Stmt Stmt.Resp (Except Status Reply)}
    (hst : ∀ rest, ¬HealthAllows t (.cascading rest) st) (h : Awaits (pre ++ ⟨t, .call st k⟩ :: post) hostId) :
    Awaits (pre ++ ⟨t, p⟩ :: post) hostId := by
  rcases awaits_cases h with h | ⟨rest, hat, -⟩
  · exact h p
  · exact absurd hat.1 (hst rest)

/-- A statement of a cascade is done with its host, and leaves the others awaited. -/
theorem awaits_cascade (target : HostId) {r : st.Resp}
    (hst : ∀ rest, HealthAllows t (.cascading rest) st → ∃ rest', rest = target :: rest')
    (h : Awaits (pre ++ ⟨t, .call st k⟩ :: post) hostId) :
    hostId = target ∨ Awaits (pre ++ ⟨t, k r⟩ :: post) hostId := by
  rcases awaits_cases h with h | ⟨rest, ⟨hallow, hcont⟩, hmem⟩
  · exact .inr (h _)
  · obtain ⟨rest', rfl⟩ := hst rest hallow
    rcases mem_cons.mp hmem with rfl | hmem
    · exact .inl rfl
    · exact .inr ⟨_, mem_append_right _ mem_cons_self, rest', hcont r, hmem⟩

/-- A refused VM update had nothing to do, by the condition. -/
theorem writtenOff_of_refused {reason : String} {e : DbError}
    {k : Unit → Prog Stmt Stmt.Resp (Except Status Reply)}
    (h : HealthCell.undisturbed ⟨s,
      pre ++ ⟨t, .call (.refused (.markVmsFailedOnHost hostId reason) e) k⟩ :: post, started⟩
      (.step pre.length) = true) : s.db.WrittenOff hostId := by
  simp only [HealthCell.undisturbed, Machine.nextOp_exec] at h
  intro v hv hhost
  have hspared := all_eq_true.mp h v hv
  simp only [Db.failsOnHost, hhost, true_and, Bool.not_eq_true', decide_eq_false_iff_not] at hspared
  by_cases hstop : v.state = .stopped
  · exact .inr (.inl hstop)
  · exact .inl (Decidable.byContradiction fun hfail => hspared ⟨hstop, hfail⟩)

/-- No VM is alive on an unhealthy host after a statement, except where a tick is about to fail it. -/
theorem writtenOff_exec (hallow : HealthAllows t g st) (hasserts : g.Asserts seen s.db t)
    (hat : ∀ r, healthDiscipline.At ⟨t, k r⟩ (g.next st r))
    (hund : HealthCell.undisturbed ⟨s, pre ++ ⟨t, .call st k⟩ :: post, started⟩ (.step pre.length) = true)
    (h : ∀ host ∈ s.db.hosts.rows, host.healthy = false →
      s.db.WrittenOff host.id ∨ Awaits (pre ++ ⟨t, .call st k⟩ :: post) host.id) :
    ∀ host ∈ (st.exec s).1.db.hosts.rows, host.healthy = false → (st.exec s).1.db.WrittenOff host.id ∨
      Awaits (pre ++ ⟨t, k (st.exec s).2⟩ :: post) host.id := by
  intro host hhost hdead
  cases hallow with
  | select | flipRefused => exact (h host hhost hdead).imp_right (awaits_kept (by rintro _ ⟨⟩))
  | @flip cutoff faults stale =>
    obtain ⟨old, hold, rfl⟩ := mem_map.mp hhost
    by_cases hflip : old.healthy = true ∧ old.lastHeartbeat < cutoff
    · -- flipped by this statement: the tick has listed the host
      rw [if_pos (decide_eq_true hflip)]
      have hlisted : old.id ∈ stale := hasserts.1 old hold hflip.1 hflip.2
      exact .inr ⟨_, mem_append_right _ mem_cons_self, stale, hat (), hlisted⟩
    · rw [if_neg (by simpa using hflip)] at hdead ⊢
      exact (h old hold hdead).imp_right (awaits_kept (by rintro _ ⟨⟩))
  | @cascade cutoff faults hostId rest reason =>
    have hnext := (h host hhost hdead).imp_right (awaits_cascade hostId
      (r := ((Stmt.op (.write (.markVmsFailedOnHost hostId reason))).exec s).2) (by rintro _ ⟨⟩; exact ⟨_, rfl⟩))
    rcases hnext with hoff | hid | hawaits
    · exact .inl (writtenOff_markVmsFailed (.inr hoff))
    · exact .inl (writtenOff_markVmsFailed (.inl hid))
    · exact .inr hawaits
  | @cascadeRefused cutoff faults hostId rest reason e =>
    have hnext := (h host hhost hdead).imp_right (awaits_cascade hostId (r := ())
      (by rintro _ ⟨⟩; exact ⟨_, rfl⟩))
    rcases hnext with hoff | hid | hawaits
    · exact .inl hoff
    · rw [hid]
      exact .inl (writtenOff_of_refused hund)
    · exact .inr hawaits
  | @calm t o ho =>
    have others : Awaits (pre ++ ⟨.activity t, .call (.op o) k⟩ :: post) host.id →
        Awaits (pre ++ ⟨.activity t, k (o.exec s).2⟩ :: post) host.id := awaits_kept (by rintro _ ⟨⟩)
    cases o with
    | query q => exact (h host hhost hdead).imp_right others
    | mem m =>
      have hdb : ((Stmt.op (.mem m)).exec s).1.db = s.db := Op.exec_mem_db m s
      rw [hdb] at hhost ⊢
      exact (h host hhost hdead).imp_right others
    | write w =>
      rcases hosts_exec ho hhost with hold | ⟨-, halive⟩
      · exact (h host hold hdead).imp (writtenOff_calm ho) others
      · cases hdead.symm.trans halive

/-- A task that is no tick takes the place of a ticking one without a second tick. -/
theorem single_exec {task task' : HealthJob} (h : ticking task' = true → ticking task = true)
    (hsingle : (pre ++ task :: post).Pairwise fun a b => ¬(ticking a = true ∧ ticking b = true)) :
    (pre ++ task' :: post).Pairwise fun a b => ¬(ticking a = true ∧ ticking b = true) := by
  obtain ⟨hpre, hpost, hcross⟩ := pairwise_append.mp hsingle
  obtain ⟨hhead, hpost⟩ := pairwise_cons.mp hpost
  refine pairwise_append.mpr ⟨hpre, pairwise_cons.mpr ⟨fun b hb hboth => ?_, hpost⟩, fun a ha b hb => ?_⟩
  · exact hhead b hb ⟨h hboth.1, hboth.2⟩
  · rcases mem_cons.mp hb with rfl | hb
    · exact fun hboth => hcross a ha task mem_cons_self ⟨hboth.1, h hboth.2⟩
    · exact hcross a ha b (mem_cons_of_mem _ hb)

theorem single_others (task : HealthJob) {other : HealthJob} (htick : ticking task = true)
    (hother : other ∈ pre ++ post)
    (hsingle : (pre ++ task :: post).Pairwise fun a b => ¬(ticking a = true ∧ ticking b = true)) :
    ticking other = false := by
  obtain ⟨-, hpost, hcross⟩ := pairwise_append.mp hsingle
  rw [← Bool.not_eq_true]
  intro hboth
  rcases mem_append.mp hother with hpre | hpost'
  · exact hcross other hpre task mem_cons_self ⟨hboth, htick⟩
  · exact (pairwise_cons.mp hpost).1 other hpost' ⟨htick, hboth⟩

/-- **One statement keeps the invariant.** -/
theorem cascading_exec (h : Cascading seen ⟨s, pre ++ ⟨t, .call st k⟩ :: post, started⟩)
    (hund : HealthCell.undisturbed ⟨s, pre ++ ⟨t, .call st k⟩ :: post, started⟩ (.step pre.length) = true) :
    Cascading (st.heard seen) ⟨(st.exec s).1, pre ++ ⟨t, k (st.exec s).2⟩ :: post, started⟩ := by
  obtain ⟨g, ⟨hallow, hcont⟩, hasserts⟩ := h.phases ⟨t, .call st k⟩ (mem_append_right _ mem_cons_self)
  refine ⟨fun task htask => ?_, ?_, writtenOff_exec hallow hasserts hcont hund h.writtenOff⟩
  · have hcases : task = ⟨t, k (st.exec s).2⟩ ∨ task ∈ pre ++ post := by
      simp only [mem_append, mem_cons] at htask ⊢
      rcases htask with h | h | h <;> simp [h]
    rcases hcases with rfl | hother
    · exact ⟨_, hcont _, asserts_exec hallow hasserts⟩
    · have hsub := (sublist_cons_self (⟨t, .call st k⟩ : HealthJob) post).append_left pre
      obtain ⟨g', hat', hasserts'⟩ := h.phases task (hsub.subset hother)
      refine ⟨g', hat', ?_⟩
      cases t with
      | tick cutoff faults => exact asserts_of_idle hat' (single_others _ rfl hother h.single)
      | activity t =>
        cases hallow with
        | calm ho => exact asserts_frame hund ho hother hat' hasserts'
  · refine single_exec (fun htick => ?_) h.single
    cases t with
    | tick cutoff faults => rfl
    | activity t => cases htick

/-- Losing tasks that are in no cascade keeps the invariant. -/
theorem cascading_lose {tasks : List HealthJob} (h : Cascading seen c)
    (hsub : tasks.Sublist c.tasks) (hlost : ∀ task ∈ c.tasks, cascades task = true → task ∈ tasks)
    {s' : Shared} (hdb : s'.db = c.shared.db) : Cascading seen ⟨s', tasks, c.started⟩ := by
  refine ⟨fun task htask => ?_, h.single.sublist hsub, fun host hhost hdead => ?_⟩
  · show ∃ g : HealthPhase, _ ∧ g.Asserts seen s'.db task.tag
    rw [hdb]
    exact h.phases task (hsub.subset htask)
  · change host ∈ s'.db.hosts.rows at hhost
    show s'.db.WrittenOff host.id ∨ _
    rw [hdb] at hhost ⊢
    refine (h.writtenOff host hhost hdead).imp_right fun ⟨task, htask, rest, hat, hmem⟩ => ?_
    exact ⟨task, hlost task htask (cascading_next hat hmem).2, rest, hat, hmem⟩

/-- **One event keeps the invariant.** -/
theorem cascading_step {c' : HealthCell} {e : Event HealthTask} (h : Cascading seen c) (hserial : c.serial e = true)
    (hund : c.undisturbed e = true) (hstep : (health settings).Step c e c') : Cascading (beaten seen c e) c' := by
  cases hstep with
  | @spawn s tasks started t hfresh =>
    refine ⟨fun task htask => ?_, ?_, fun host hhost hdead => ?_⟩
    · rcases mem_append.mp htask with hold | hnew
      · exact h.phases task hold
      · cases mem_singleton.mp hnew
        refine ⟨_, health_governs settings hfresh, ?_⟩
        cases t <;> trivial
    · refine pairwise_append.mpr ⟨h.single, pairwise_singleton _ _, fun a ha b hb hboth => ?_⟩
      cases mem_singleton.mp hb
      cases t with
      | activity t => cases hboth.2
      | tick cutoff faults =>
        have hidle := all_eq_true.mp hserial a ha
        rw [hboth.1] at hidle
        cases hidle
    · refine (h.writtenOff host hhost hdead).imp_right fun ⟨task, htask, rest, hat, hmem⟩ => ?_
      exact ⟨task, mem_append_left _ htask, rest, hat, hmem⟩
  | @exec s pre post started t st k =>
    have hheard : beaten seen ⟨s, pre ++ ⟨t, .call st k⟩ :: post, started⟩ (.step pre.length) = st.heard seen := by
      simp only [beaten, Machine.nextOp_exec]
    rw [hheard]
    exact cascading_exec h hund
  | @drop s pre post started t st k =>
    refine cascading_lose h ((sublist_cons_self _ _).append_left pre) (fun task htask hcascades => ?_) rfl
    simp only [HealthCell.undisturbed, List.getElem?_append_right (Nat.le_refl _),
      Nat.sub_self, List.getElem?_cons_zero, Option.all_some] at hund
    refine (Machine.mem_middle.mp htask).resolve_left ?_
    rintro rfl
    rw [hcascades] at hund
    cases hund
  | @crash s tasks started =>
    refine cascading_lose h filter_sublist (fun task htask hcascades => ?_) rfl
    have hnone := all_eq_true.mp hund task htask
    rw [hcascades] at hnone
    cases hnone

end Steps

/-! ### Every run -/

theorem exact_of_cascading {settings : Settings} {seen : List HostId} {e : Event HealthTask}
    (h : Cascading seen c) (hserial : c.serial e = true) (hund : c.undisturbed e = true) :
    Exact settings (seen, c) e := by
  constructor
  · rintro i cutoff reply c' rfl hstep hret host hhost hdead
    have hafter := cascading_step h hserial hund (Machine.step_cases hstep)
    rcases hafter.writtenOff host hhost hdead with hoff | ⟨task, htask, rest, hat, hmem⟩
    · exact hoff
    · -- another tick in a cascade would have been beside the one that ends
      exfalso
      cases Machine.step_cases hstep with
      | @exec s pre post started t st k =>
        rw [List.getElem?_append_right (Nat.le_refl _), Nat.sub_self, List.getElem?_cons_zero] at hret
        obtain ⟨rfl, hended⟩ := Task.mk.inj (Option.some.inj hret)
        have htick := (cascading_next hat hmem).1
        have hother : task ∈ pre ++ post := by
          refine (Machine.mem_middle.mp htask).resolve_left ?_
          rintro rfl
          rw [hended] at htick
          cases htick
        have hidle := single_others ⟨.tick cutoff {}, .call st k⟩ rfl hother h.single
        cases hidle.symm.trans htick
  · intro cutoff faults hostId reason hnext
    obtain ⟨k, hmem⟩ := Machine.mem_of_nextOp hnext
    obtain ⟨g, ⟨hallow, -⟩, hasserts⟩ := h.phases _ hmem
    cases hallow with
    | cascade => exact (hasserts hostId mem_cons_self).1

/-- **The host-loss cascade is exact in runs that do not cut through it.** -/
theorem cascade_exact (settings : Settings) (db : Db) (es : List (Event HealthTask))
    (hdb : ∀ host ∈ db.hosts.rows, host.healthy = false → db.WrittenOff host.id)
    (hal : Along ((health settings).watched beaten)
      (fun x e => HealthCell.serial x.2 e = true ∧ HealthCell.undisturbed x.2 e = true) ([], HealthCell.start db) es) :
    Along ((health settings).watched beaten) (Exact settings) ([], HealthCell.start db) es := by
  refine along_of_invariant (J := fun x => Cascading x.1 x.2) (fun hx hC hstep => ?_)
    (fun hx hC => exact_of_cascading hx hC.1 hC.2) ?_ hal
  · obtain ⟨hnote, hstep⟩ := Machine.watched_cases hstep
    rw [hnote]
    exact cascading_step hx hC.1 hC.2 hstep
  · exact ⟨forall_mem_nil _, List.Pairwise.nil, fun host hhost hdead => .inl (hdb host hhost hdead)⟩

/-- The small cell with a machine being created on its node, which was last heard of at time 100. -/
def silentDb : Db := (reached upToWaiting).shared.db

/-- The ticks of this module's runs look for hosts that are silent since before time 150. -/
def checkAt150 (faults : TickFaults) : Event HealthTask := .spawn (.tick 150 faults)

def heartbeatAt160 : Event HealthTask := .spawn (.activity (.agentMessage "h1" (.heartbeat none) 160))

/-- A tick writes the node off, the node is heard of again, and a second tick finds nothing to do. -/
def lossAndReturn : List (Event HealthTask) :=
  [checkAt150 {}, .step 0, .step 0, .step 0, heartbeatAt160, .step 1, checkAt150 {}, .step 2]

theorem cascade_exact_smallCell :
    Along ((health smallCell).watched beaten) (Exact smallCell) ([], HealthCell.start silentDb)
      lossAndReturn :=
  cascade_exact smallCell silentDb lossAndReturn (by decide +kernel) (by decide +kernel)

/-- A tick whose VM update fails, and the next one. -/
def lostCascade : List (Event HealthTask) :=
  [checkAt150 { cascade := fun _ => some (.notFound "") }, .step 0, .step 0, .step 0, checkAt150 {}]

/-- A tick that the node's heartbeat overtakes. -/
def overtaken : List (Event HealthTask) := [checkAt150 {}, .step 0, .step 0, heartbeatAt160, .step 1]

/-- **The cascade is not exact.** After a VM update that failed, the next tick does all its own writes and
    leaves a VM alive on the unhealthy host; and a tick fails the VMs of a host it has heard of meanwhile. -/
theorem cascade_inexact :
    (∃ seen c, run ((health smallCell).watched beaten) ([], HealthCell.start silentDb) lostCascade =
        some (seen, c) ∧ ¬Exact smallCell (seen, c) (.step 1)) ∧
      ∃ seen c, run ((health smallCell).watched beaten) ([], HealthCell.start silentDb) overtaken =
        some (seen, c) ∧ ¬Exact smallCell (seen, c) (.step 0) := by
  refine ⟨⟨_, _, run_eq_after (by decide +kernel), fun h => ?_⟩,
    ⟨_, _, run_eq_after (by decide +kernel), fun h => ?_⟩⟩
  · have hend := h.1 1 150 (.ok .handled) _ rfl (step_eq_after (by decide +kernel)) rfl
    revert hend
    decide +kernel
  · exact h.2 150 {} "h1" hostStaleVmReason rfl (by decide +kernel)

end BasisCell
