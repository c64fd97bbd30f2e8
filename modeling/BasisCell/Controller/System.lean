import BasisCell.Lib.Pool
import BasisCell.Controller.Handlers

/-!
# `BasisCell.Controller.System` — the controller as a pool of activities

Everything that can run in the controller process, as the tags of a `Conc.Machine`: the CAPI provider's
calls, agent registrations, single agent messages, the ticks of the two background loops, and the ends of
agent streams. A pool of them in any interleaving is a run of the controller; a dropped task is a cancelled
RPC, a crash a restart on the same database.

An agent may send any message at any time, in the name of any host. The only thing the environment cannot do
is guess: an identifier that an activity mints occurs in no activity before it (`fresh`).
-/

namespace BasisCell

open Conc

/-- What can run in the controller. -/
inductive Activity where
  | createMachine (req : CreateMachineRequest) (vmId : VmId) (picks : Picks)
  | deleteMachine (vmId : VmId)
  | createCluster (req : CreateClusterRequest) (ids : RoundIds)
  | deleteCluster (clusterId : ClusterId)
  | streamMessages (register : RegisterHostRequest) (newHostId : HostId) (now : Nat)
  | agentMessage (hostId : HostId) (msg : AgentMessage) (now : Nat)
  | reconcileTick (hostId : HostId) (channel : Nat)
  | hostHealthTick (cutoff : Nat)
  | streamEnded (hostId : HostId) (epoch : Nat)
  /-- The receiver of a command channel is dropped. -/
  | channelClosed (channel : Nat)

/-- The VMs an agent message names. -/
def AgentMessage.vmIds : AgentMessage → List VmId
  | .vmState report => [report.vmId]
  | .tombstoneAck _ vmIds => vmIds
  | .diskAssignment (some a) => [a.vmId]
  | _ => []

namespace Activity

/-- The identifiers an activity draws from `Uuid::new_v4`. -/
def mints : Activity → List String
  | createMachine _ vmId _ => [vmId]
  | createCluster _ ids => List.ofFn ids
  | streamMessages _ newHostId _ => [newHostId]
  | _ => []

/-- The identifiers an activity knows from its caller. -/
def given : Activity → List String
  | createMachine req _ _ => [req.clusterId]
  | deleteMachine vmId => [vmId]
  | deleteCluster clusterId => [clusterId]
  | agentMessage hostId msg _ => hostId :: msg.vmIds
  | reconcileTick hostId _ => [hostId]
  | streamEnded hostId _ => [hostId]
  | _ => []

/-- What an activity mints is new: no activity before it has minted it or knew it. -/
def fresh (started : List Activity) (t : Activity) : Bool :=
  t.mints.Nodup ∧ ∀ x ∈ t.mints, ∀ t' ∈ started, x ∉ t'.mints ∧ x ∉ t'.given

def body (settings : Settings) : Activity → Handler (Except Status Reply)
  | createMachine req vmId picks => BasisCell.createMachine settings req vmId picks
  | deleteMachine vmId => BasisCell.deleteMachine settings vmId
  | createCluster req ids => BasisCell.createCluster settings req ids
  | deleteCluster clusterId => BasisCell.deleteCluster settings clusterId
  | streamMessages register newHostId now => BasisCell.streamMessages settings register newHostId now
  | agentMessage hostId msg now => do
    match ← handleAgentMessage hostId msg now with
    | .ok () => return .ok .handled
    | .error e => return .error ⟨.internal, e.text⟩
  | reconcileTick hostId channel => BasisCell.reconcileTick settings hostId channel
  | hostHealthTick cutoff => BasisCell.hostHealthTick cutoff
  | streamEnded hostId epoch => releaseAgentStream hostId epoch
  | channelClosed channel => do
    let _ ← Handler.mem (.channelClose channel)
    return .ok .handled

/-- Do two activities mint different identifiers? -/
def Apart (t t' : Activity) : Prop := ∀ x ∈ t.mints, x ∉ t'.mints

theorem Apart.symm {t t' : Activity} (h : t.Apart t') : t'.Apart t := fun x hx hx' => h x hx' hx

theorem apart_of_fresh {started : List Activity} {t t' : Activity} (h : fresh started t = true)
    (ht' : t' ∈ started) : t'.Apart t :=
  fun x hx hx' => ((of_decide_eq_true h).2 x hx' t' ht').1 hx

end Activity

/-- The controller. -/
def cell (settings : Settings) : Machine Activity Op Op.Resp Shared (Except Status Reply) where
  exec := Op.exec
  body := Activity.body settings
  fresh := Activity.fresh
  reboot := Shared.restart

abbrev CellTask := Task Activity Op Op.Resp (Except Status Reply)

/-- A state of the controller: what is shared, and the activities of the process. -/
abbrev Cell := Config Activity Op Op.Resp Shared (Except Status Reply)

/-- A controller started on a database. -/
def Cell.start (db : Db) : Cell := ⟨Shared.boot db, [], []⟩

/-- The database call that the event is about to make, if it makes one. -/
def Cell.nextWrite (c : Cell) (e : Event Activity) : Option Write :=
  match c.nextOp e with
  | some (_, .write w) => some w
  | _ => none

theorem Cell.nextWrite_of_nextOp {c : Cell} {e : Event Activity} {t : Activity} {w : Write}
    (h : c.nextOp e = some (t, .write w)) : c.nextWrite e = some w := by
  unfold nextWrite
  rw [h]

/-- A condition on runs: every database call, at the moment it is made, passes a check. -/
def Cell.Checks (p : Db → Write → Bool) (c : Cell) (e : Event Activity) : Prop :=
  ∀ w ∈ c.nextWrite e, p c.shared.db w = true

instance (p : Db → Write → Bool) (c : Cell) (e : Event Activity) : Decidable (Cell.Checks p c e) :=
  inferInstanceAs (Decidable (∀ w ∈ c.nextWrite e, _))

/-! ## A cell with one node

The smallest deployment on which every handler has something to do. Its runs are the concrete executions
that later modules replay. -/

def smallCell : Settings where
  network :=
    { clusterSupernet := ⟨167772160, 22⟩, bridgeReserve := 4, defaultExternalServiceIps := 1
      vniStart := 10000, vniEnd := 10003, pools := [{ name := "lan", cidr := ⟨3232235776, 28⟩ }] }

/-- Its state before the first node has registered. -/
def emptyCell : Cell := Cell.start (Db.create id)

/-- Its state after some events. -/
abbrev reached (es : List (Event Activity)) : Cell := (cell smallCell).after emptyCell es

theorem run_reached (es : List (Event Activity)) (h : ((cell smallCell).run emptyCell es).isSome = true) :
    (cell smallCell).run emptyCell es = some (reached es) :=
  Transition.run_eq_after h

theorem run_on (es es' : List (Event Activity)) (h : ((cell smallCell).run emptyCell (es ++ es')).isSome = true) :
    (cell smallCell).run (reached es) es' = some (reached (es ++ es')) :=
  Transition.run_after h

/-- A node's agent registers; the id is drawn for a new host only. -/
def registration (hostname : String) (newHostId : HostId) (now : Nat) : Activity :=
  .streamMessages { hostname, totalCpu := 8, totalMemoryMib := 16384, vtepAddress := "172.16.0.1"
                    storageCapacity := some ⟨some ⟨2 ^ 40, 2 ^ 40, 0, 0⟩, []⟩ } newHostId now

def registerAs (newHostId : HostId) (now : Nat) : Activity := registration "node-1" newHostId now

def registerNode : Activity := registerAs "h1" 100

/-- A cluster with a public (0) or a private (1) apiserver. -/
def requestFor (name : String) (visibility : Int) : CreateClusterRequest :=
  { name, externalIpPool := "lan", externalServiceIps := 0, apiserverVisibility := visibility }

def createAlpha : Activity := .createCluster (requestFor "alpha" 0) fun i => s!"c{i}"

def createBeta : Activity := .createCluster (requestFor "beta" 0) fun i => s!"d{i}"

/-- A machine of a cluster, and the host that the scheduler puts it on. -/
def createWorkerOn (hostId : HostId) (clusterId : ClusterId) (name : String) (vmId : VmId) : Activity :=
  .createMachine { clusterId, name, cpu := 2, memoryMib := 1024, diskGib := 10 } vmId fun _ => .ok { hostId }

def createWorkerAs (name : String) (vmId : VmId) : Activity := createWorkerOn "h1" "c0" name vmId

def createWorker : Activity := createWorkerAs "worker" "v1"

/-- The node's agent reports a VM RUNNING. -/
def reportRunning (vmId : VmId) : Activity := .agentMessage "h1" (.vmState { vmId, state := 2 }) 110

/-- Task `i` takes its next `n` operations. -/
def steps (i n : Nat) : List (Event Activity) := List.replicate n (.step i)

/-- The node registers as `h1` on channel 0, and cluster `c0` is created. -/
def upToCluster : List (Event Activity) :=
  .spawn registerNode :: steps 0 11 ++ .spawn createAlpha :: steps 1 5

/-- Then machine `v1` is placed on the node, and its `CreateMachine` waits for the agent. -/
def upToWaiting : List (Event Activity) := upToCluster ++ .spawn createWorker :: steps 2 21

/-- The machine runs, and is deleted again. -/
def ranAndDeleted : List (Event Activity) :=
  .spawn (reportRunning "v1") :: steps 3 5 ++ steps 2 2 ++ .spawn (.deleteMachine "v1") :: steps 4 9

/-- The agent acks its tombstones. -/
def teardownAcked : List (Event Activity) :=
  .spawn (.agentMessage "h1" (.tombstoneAck [10000] ["v1"]) 130) :: steps 5 1

def machineLife : List (Event Activity) := upToWaiting ++ (ranAndDeleted ++ teardownAcked)

/-- Two clusters are created at once. `beta` loses its network at the insert, and becomes `d1` on the next one. -/
def upToBoth : List (Event Activity) :=
  .spawn registerNode :: steps 0 11 ++ [.spawn createAlpha, .spawn createBeta] ++
  steps 1 2 ++ steps 2 2 ++ steps 1 3 ++ steps 2 8

/-- A machine of a cluster is placed on the node by task `i`. -/
def placed (clusterId : ClusterId) (vmId : VmId) (i : Nat) : List (Event Activity) :=
  .spawn (createWorkerOn "h1" clusterId "worker" vmId) :: steps i 21

/-- Each of the two clusters gets a machine. -/
def upToHoused : List (Event Activity) := upToBoth ++ placed "c0" "v1" 3 ++ placed "d1" "v2" 4

end BasisCell
