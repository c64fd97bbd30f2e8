import BasisCell.Lib.Prog
import BasisCell.Controller.Calls

/-!
# `BasisCell.Controller.Shared` — what handlers share, one operation at a time

`SharedCtx` of `server.rs` beside the database: the map of connected agents, the command channel of every
agent stream, and the waiters of `CreateMachine`. All of it lives in memory; a restart keeps the database
and nothing else (`Shared.boot`).

`Op` is everything a handler can do to this state between two suspension points: a database call, or one
operation on a concurrent map or a channel. `Handler` is a program over these operations.

A channel keeps the commands that were put on it. Its capacity is not modelled: a full channel only delays
the sender. `tokio::time::timeout` around a waiter is the response `elapsed` of a wait that is scheduled
before the waiter was resolved.
-/

namespace BasisCell

/-! ## State -/

/-- `VmFailure`. -/
structure VmFailure where
  message : String
  transient : Bool
  deriving DecidableEq, Repr

structure ConnectedAgent where
  /-- `command_tx`. -/
  channel : Nat
  epoch : Nat
  deriving DecidableEq, Repr

/-- One `mpsc` channel: whether its receiver is gone, and what was sent, oldest first. -/
structure Channel where
  closed : Bool := false
  sent : List ControllerCommand := []
  deriving DecidableEq

structure Shared where
  db : Db
  agents : List (HostId × ConnectedAgent) := []
  pendingOps : List (VmId × HostId) := []
  /-- What was sent on the waiters' oneshot channels. -/
  outcomes : List (VmId × Except VmFailure Unit) := []
  channels : List Channel := []
  nextEpoch : Nat := 1

/-- The state of a controller process that has just opened its database. -/
def Shared.boot (db : Db) : Shared where
  db := db

/-- What a crash leaves: the database. A channel keeps its number, but its receiver is gone. -/
def Shared.restart (s : Shared) : Shared :=
  { Shared.boot s.db with channels := s.channels.map fun ch => { ch with closed := true } }

/-! ## Operations -/

/-- What a wait for the agent's report ends in. -/
inductive WaitResult where
  | resolved (result : Except VmFailure Unit)
  | recvError
  | elapsed

/-- Operations on the in-memory maps and channels. -/
inductive MemOp where
  | agentsGet (hostId : HostId)
  | agentsInsert (hostId : HostId) (agent : ConnectedAgent)
  | agentsRemoveIf (hostId : HostId) (epoch : Nat)
  /-- The source counts in an `AtomicU64`. It would wrap after 2 ^ 64 registrations, out of reach of any run. -/
  | nextAgentEpoch
  | channelOpen
  | channelClose (channel : Nat)
  | send (channel : Nat) (cmd : ControllerCommand)
  | pendingOpsInsert (vmId : VmId) (hostId : HostId)
  | pendingOpsGet (vmId : VmId)
  | pendingOpsRemove (vmId : VmId)
  /-- `pending_ops.remove` followed by a send on the removed waiter. -/
  | pendingOpsResolve (vmId : VmId) (result : Except VmFailure Unit)
  /-- The keys of the waiters of one host. -/
  | pendingOpsOf (hostId : HostId)
  | awaitOutcome (vmId : VmId)

namespace MemOp

abbrev Result : MemOp → Type
  | agentsGet _ => Option ConnectedAgent
  | agentsRemoveIf _ _ => Bool
  | nextAgentEpoch => Nat
  | channelOpen => Nat
  | send _ _ => Bool
  | pendingOpsGet _ => Option HostId
  | pendingOpsOf _ => List VmId
  | awaitOutcome _ => WaitResult
  | _ => Unit

/-- Is the channel there, and its receiver alive? -/
def live (s : Shared) (channel : Nat) : Bool :=
  match s.channels[channel]? with
  | some ch => !ch.closed
  | none => false

def exec (s : Shared) : (m : MemOp) → Shared × m.Result
  | agentsGet hostId => (s, s.agents.lookup hostId)
  | agentsInsert hostId agent =>
    ({ s with agents := (hostId, agent) :: s.agents.filter fun e => e.1 ≠ hostId }, ())
  | agentsRemoveIf hostId epoch =>
    if (s.agents.lookup hostId).any fun a => a.epoch = epoch
    then ({ s with agents := s.agents.filter fun e => e.1 ≠ hostId }, true)
    else (s, false)
  | nextAgentEpoch => ({ s with nextEpoch := s.nextEpoch + 1 }, s.nextEpoch)
  | channelOpen => ({ s with channels := s.channels ++ [{}] }, s.channels.length)
  | channelClose channel =>
    ({ s with channels := s.channels.modify channel fun ch => { ch with closed := true } }, ())
  | send channel cmd =>
    if live s channel
    then ({ s with channels := s.channels.modify channel fun ch => { ch with sent := ch.sent ++ [cmd] } }, true)
    else (s, false)
  | pendingOpsInsert vmId hostId =>
    ({ s with pendingOps := (vmId, hostId) :: s.pendingOps.filter fun e => e.1 ≠ vmId }, ())
  | pendingOpsGet vmId => (s, s.pendingOps.lookup vmId)
  | pendingOpsRemove vmId => ({ s with pendingOps := s.pendingOps.filter fun e => e.1 ≠ vmId }, ())
  | pendingOpsResolve vmId result =>
    match s.pendingOps.lookup vmId with
    | some _ => ({ s with
        pendingOps := s.pendingOps.filter fun e => e.1 ≠ vmId
        outcomes := (vmId, result) :: s.outcomes }, ())
    | none => (s, ())
  | pendingOpsOf hostId => (s, (s.pendingOps.filter fun e => e.2 = hostId).map (·.1))
  | awaitOutcome vmId =>
    match s.outcomes.lookup vmId with
    | some result => (s, .resolved result)
    | none => (s, if (s.pendingOps.lookup vmId).isSome then .elapsed else .recvError)

@[simp] theorem exec_db (s : Shared) (m : MemOp) : (m.exec s).1.db = s.db := by
  cases m with
  | agentsRemoveIf hostId epoch | send channel cmd | pendingOpsResolve vmId result | awaitOutcome vmId =>
    simp only [exec]
    split <;> rfl
  | _ => rfl

end MemOp

/-- One atomic step of a handler. -/
inductive Op where
  | query (q : Query)
  | write (w : Write)
  | mem (m : MemOp)

namespace Op

abbrev Resp : Op → Type
  | query q => q.Result
  | write w => Except DbError w.Result
  | mem m => m.Result

def exec : (o : Op) → Shared → Shared × o.Resp
  | query q, s => (s, q.eval s.db)
  | write w, s => ({ s with db := (w.exec s.db).1 }, (w.exec s.db).2)
  | mem m, s => m.exec s

@[simp] theorem exec_write_db (w : Write) (s : Shared) : ((write w).exec s).1.db = (w.exec s.db).1 := rfl

@[simp] theorem exec_write_resp (w : Write) (s : Shared) : ((write w).exec s).2 = (w.exec s.db).2 := rfl

@[simp] theorem exec_mem_db (m : MemOp) (s : Shared) : ((mem m).exec s).1.db = s.db := MemOp.exec_db s m

theorem db_cases (o : Op) (s : Shared) : (o.exec s).1.db = s.db ∨ ∃ w, o = write w := by
  cases o with
  | query q => exact .inl rfl
  | mem m => exact .inl (exec_mem_db m s)
  | write w => exact .inr ⟨w, rfl⟩

@[elab_as_elim] theorem db_elim (o : Op) (s : Shared) {motive : Db → Prop} (hsame : motive s.db)
    (hwrite : ∀ w, o = write w → motive (o.exec s).1.db) : motive (o.exec s).1.db := by
  obtain heq | ⟨w, hw⟩ := o.db_cases s
  · rwa [heq]
  · exact hwrite w hw

end Op

/-! ## Handlers -/

/-- A program over the shared state. -/
abbrev Handler (α : Type) := Conc.Prog Op Op.Resp α

namespace Handler

def query (q : Query) : Handler q.Result := Conc.Prog.perform (Op.query q)

def write (w : Write) : Handler (Except DbError w.Result) := Conc.Prog.perform (Op.write w)

def mem (m : MemOp) : Handler m.Result := Conc.Prog.perform (Op.mem m)

variable {β : Type} {s : Shared}

/-! Runs through a first operation, for handlers that run alone. -/

theorem eval_query (q : Query) (f : q.Result → Handler β) :
    (query q >>= f).eval Op.exec s = (f (q.eval s.db)).eval Op.exec s := rfl

theorem eval_write (w : Write) (f : Except DbError w.Result → Handler β) :
    (write w >>= f).eval Op.exec s = (f (w.exec s.db).2).eval Op.exec { s with db := (w.exec s.db).1 } := rfl

theorem eval_mem (m : MemOp) (f : m.Result → Handler β) :
    (mem m >>= f).eval Op.exec s = (f (m.exec s).2).eval Op.exec (m.exec s).1 := rfl

end Handler

end BasisCell
