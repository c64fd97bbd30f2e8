import BasisCell.Controller.System

/-!
# `BasisCell.Controller.Text` — the text of the create calls, followed once

`create_machine` and `create_cluster` are the two long handlers, and most arguments about interleavings need to know
how far such a call has come: which phases it goes through, which rows it has read, what it holds. All of that can be
read off the point of the text it has reached. `MachinePoint` and `ClusterPoint` name these points with all the data
that is in scope there, and `machineText` and `clusterText` are the protocols of the two texts over them
(`text_createMachine`, `text_createCluster`). A coarser protocol is then a reading of the points (`Follows.map`).

Reconcile commands are built all over the place, and next to nobody takes notice: `Reconciles` says what a protocol has
to show to be left alone by them.
-/

namespace BasisCell

open Conc Conc.Protocol Handler

/-! ## Operations that are in nobody's way -/

/-- Operations on the maps and channels that put no VM on an agent and wait for none. -/
def MemOp.routine : MemOp → Bool
  | send _ (.createVm _) => false
  | awaitOutcome _ => false
  | _ => true

/-- Reads, map operations and elections, which are no one's transition. -/
def Op.neutral : Op → Bool
  | .query (.getCluster _) => false
  | .query (.getVm _) => false
  | .query (.listVmsOnHost _) => false
  | .query (.listPendingCommands _) => false
  | .query _ => true
  | .mem .channelOpen => false
  | .mem m => m.routine
  | .write (.setLanVipOwner _ _) => true
  | .write _ => false

/-! ## Reconcile commands

Building and pushing a reconcile command is in no protocol's way. The lemmas are about any protocol that takes
no notice of the operations involved. -/

/-- What reconcile commands are built with: the neutral operations, without the allocator's read. -/
def Op.quiet : Op → Bool
  | .query (.allocateClusterNetwork _) => false
  | o => o.neutral

theorem Op.neutral_of_quiet {o : Op} (h : o.quiet = true) : o.neutral = true := by
  unfold quiet at h
  split at h
  · cases h
  · exact h

/-- Every operation outside the fragments that some protocols watch. -/
def Op.plain : Op → Bool
  | .query (.listActiveCarriers _) => false
  | .query (.lanVipOwner _) => false
  | .write (.setLanVipOwner _ _) => false
  | .write (.upsertHost _) => false
  | .mem .nextAgentEpoch => false
  | .mem (.agentsInsert _ _) => false
  | _ => true

/-- The calls of an election. -/
def Op.votes : Op → Bool
  | .query (.listActiveCarriers _) => true
  | .query (.lanVipOwner _) => true
  | .write (.setLanVipOwner _ _) => true
  | _ => false

/-! ### Builders and pushes -/

section Reconcile

variable {Ph α : Type} {P : Protocol Op Op.Resp Ph} {a : Ph} {R : Ph → α → Prop} {o : Op}
variable {settings : Settings} {hostId : HostId} {clusterId : ClusterId}

/-- In phase `a` the protocol ignores what reconcile commands are built with, and elections return to `a`. -/
structure Reconciles (settings : Settings) (P : Protocol Op Op.Resp Ph) (a : Ph) : Prop where
  reads : ∀ o : Op, o.quiet = true → o.plain = true → P.allows a o ∧ ∀ r, P.next a o r = a
  elects : ∀ membership, P.Stays a (carriedState settings membership)

/-- A protocol that ignores the calls of an election ignores elections. -/
theorem stays_carriedState_of_votes
    (h : ∀ o : Op, o.quiet = true → o.plain = true ∨ o.votes = true → P.allows a o ∧ ∀ r, P.next a o r = a)
    (membership : HostClusterMembership) : P.Stays a (carriedState settings membership) := by
  have pass : ∀ {α : Type} {o : Op} {k : o.Resp → Handler α}, o.quiet = true → o.plain = true ∨ o.votes = true →
      (∀ r, P.Stays a (k r)) → P.Stays a (.call o k) := fun hq ho hk => stays_call (h _ hq ho).1 (h _ hq ho).2 hk
  unfold carriedState
  dsimp only
  split
  · rfl
  · rfl
  · refine pass rfl (.inr rfl) fun carriers => ?_
    refine Stays.bind (p := electLanVipOwner membership.cluster.id carriers) ?_ fun elected => ?_
    · refine pass rfl (.inr rfl) fun prev => ?_
      dsimp only [Prog.bind]
      split
      · rfl
      · split
        · rfl
        · refine pass rfl (.inr rfl) fun recorded => ?_
          cases recorded <;> rfl
    · cases elected with
      | error e => rfl
      | ok owner => exact pass rfl (.inl rfl) fun _ => rfl

namespace Reconciles

variable (h : Reconciles settings P a)
include h

theorem call {k : o.Resp → Handler α} (hq : o.quiet = true) (ho : o.plain = true) (hk : ∀ r, P.Stays a (k r)) :
    P.Stays a (.call o k) :=
  stays_call (h.reads o hq ho).1 (h.reads o hq ho).2 hk

theorem stays_ghostState {cluster : ClusterRow} : P.Stays a (ghostState settings cluster) := by
  unfold ghostState
  split
  · rfl
  · split
    · split
      · rfl
      · exact h.call rfl rfl fun _ => rfl
    · rfl

theorem stays_buildReconcileCommand : P.Stays a (buildReconcileCommand settings hostId) := by
  refine h.call rfl rfl fun memberships => (stays_mapEach fun _ _ => h.elects _).bind fun carried => ?_
  cases carried with
  | error e => rfl
  | ok carried =>
    refine h.call rfl rfl fun clusters => (stays_mapEach fun _ _ => h.stays_ghostState).bind fun ghosts => ?_
    cases ghosts with
    | error e => rfl
    | ok ghosts => exact h.call rfl rfl fun _ => h.call rfl rfl fun _ => rfl

theorem stays_pushReconcile : P.Stays a (pushReconcile settings hostId) := by
  refine h.stays_buildReconcileCommand.bind fun built => ?_
  cases built with
  | error e => rfl
  | ok cmd =>
    refine h.call rfl rfl fun agent => ?_
    cases agent with
    | none => rfl
    | some agent => exact h.call rfl rfl fun _ => rfl

theorem stays_broadcastCluster : P.Stays a (broadcastCluster settings clusterId) :=
  h.call rfl rfl fun _ => stays_forEach fun _ _ => h.stays_pushReconcile

end Reconciles

/-! ### Idle points -/

/-- In phase `a`, quiet operations are allowed and lead nowhere. -/
def Idles (P : Protocol Op Op.Resp Ph) (a : Ph) : Prop :=
  ∀ o : Op, o.quiet = true → P.allows a o ∧ ∀ r, P.next a o r = a

theorem Idles.reconciles (ha : Idles P a) : Reconciles settings P a :=
  ⟨fun o hq _ => ha o hq, stays_carriedState_of_votes fun o hq _ => ha o hq⟩

theorem Idles.follows {k : o.Resp → Handler α} (ha : Idles P a) (ho : o.quiet = true)
    (h : ∀ r, P.Follows R (k r) a) : P.Follows R (.call o k) a := by
  refine ⟨(ha o ho).1, fun r => ?_⟩
  rw [(ha o ho).2 r]
  exact h r

/-- Two protocols that a quiet operation leaves where they are, one a reading of the other. -/
theorem Idles.reads {Ph' : Type} {P' : Protocol Op Op.Resp Ph'} {f : Ph → Ph'} (ha : Idles P a) (ha' : Idles P' (f a))
    (ho : o.quiet = true) : P'.allows (f a) o ∧ ∀ r, P'.next (f a) o r = f (P.next a o r) :=
  ⟨(ha' o ho).1, fun r => by rw [(ha o ho).2 r, (ha' o ho).2 r]⟩

end Reconcile

/-! ## `create_machine` -/

/-- A point of `create_machine`, with what is in scope there. -/
inductive MachinePoint where
  | start
  /-- The cluster's row has been read. -/
  | read (cluster : ClusterRow)
  /-- The name is taken, by this row. -/
  | named (cluster : ClusterRow) (vm : VmRow)
  /-- An address has been allocated. -/
  | holding (cluster : ClusterRow) (ip : Ipv4Addr)
  /-- The row is in. -/
  | placed (cluster : ClusterRow) (vm : VmRow)
  /-- The host is active in the cluster. -/
  | joined (cluster : ClusterRow) (vm : VmRow)
  /-- The outbox has the command, -/
  | queued (cluster : ClusterRow) (vm : VmRow) (outboxId : Nat)
  /-- and so has the channel. -/
  | waiting (cluster : ClusterRow) (vm : VmRow) (outboxId : Nat)
  | reported (cluster : ClusterRow) (vm : VmRow) (outboxId : Nat)
  /-- The row to answer with has been read, -/
  | answering (cluster : ClusterRow) (outboxId : Nat) (row : VmRow)
  /-- or is gone. -/
  | lost (cluster : ClusterRow) (outboxId : Nat)
  /-- The call has given up. -/
  | closing (cluster : ClusterRow)

namespace MachinePoint

/-- Commands are built and pushed here. -/
def idles : MachinePoint → Bool
  | joined _ _ | queued _ _ _ | waiting _ _ _ | closing _ => true
  | _ => false

/-- There is a row to clean up. -/
def owns : MachinePoint → Bool
  | placed _ _ | joined _ _ | queued _ _ _ | waiting _ _ _ => true
  | _ => false

def next : MachinePoint → (o : Op) → o.Resp → MachinePoint
  | start, .query (.getCluster _), .ok cluster => read cluster
  | read k, .query (.getVmByName _ _), some vm => named k vm
  | read k, .write (.allocateClusterVmIp _ _), .ok ip => holding k ip
  | holding k _, .write (.insertVm vm _ _), .ok _ => placed k vm
  | holding k _, .write (.releaseVmIps _), _ => read k
  | placed k vm, .write (.ensureHostClusterActive _ _), .ok _ => joined k vm
  | joined k vm, .write (.enqueuePendingCommand _ _ _), .ok id => queued k vm id
  | queued k vm id, .mem (.send _ (.createVm _)), true => waiting k vm id
  | waiting k vm id, .mem (.awaitOutcome _), .resolved (.ok _) => reported k vm id
  | reported k _ id, .query (.getVm _), .ok row => answering k id row
  | reported k _ id, .query (.getVm _), .error _ => lost k id
  | waiting k _ _, .write (.updateVmState _ _ _), _ => closing k
  | placed k _, .write (.markVmPendingTeardown _), _ => closing k
  | joined k _, .write (.markVmPendingTeardown _), _ => closing k
  | queued k _ _, .write (.markVmPendingTeardown _), _ => closing k
  | waiting k _ _, .write (.markVmPendingTeardown _), _ => closing k
  | g, _, _ => g

/-- Where the call returns, and with what. -/
def returns : MachinePoint → Except Status Reply → Prop
  | named _ vm, .ok reply => reply = .machine (vmToCreateResponse vm)
  | answering _ _ vm, .ok reply => reply = .machine (vmToCreateResponse vm)
  | start, .error _ => True
  | read _, .error _ => True
  | lost _ _, .error _ => True
  | closing _, .error _ => True
  | _, _ => False

end MachinePoint

/-- The operations of `create_machine`, point by point. -/
inductive MachineText (req : CreateMachineRequest) (vmId : VmId) : MachinePoint → Op → Prop
  | find : MachineText req vmId .start (.query (.getCluster req.clusterId))
  | look {k} : MachineText req vmId (.read k) (.query (.getVmByName req.clusterId req.name))
  | address {k} : MachineText req vmId (.read k) (.write (.allocateClusterVmIp k vmId))
  | insert {k ip} {decision : ScheduleDecision} : MachineText req vmId (.holding k ip)
      (.write (.insertVm (placedRow req vmId decision ip)
        (decision.gpuAssignments vmId) decision.disks))
  | giveBack {k ip} : MachineText req vmId (.holding k ip) (.write (.releaseVmIps vmId))
  | join {k vm} : MachineText req vmId (.placed k vm) (.write (.ensureHostClusterActive k vm.hostId))
  | quiet {g : MachinePoint} {o : Op} (hg : g.idles = true) (ho : o.quiet = true) : MachineText req vmId g o
  | enqueue {k vm} {cmd : CreateVmCommand} (h : cmd.vmId = vmId) :
      MachineText req vmId (.joined k vm) (.write (.enqueuePendingCommand vm.hostId vmId (.createVm cmd)))
  | dispatch {k vm id channel} {cmd : CreateVmCommand} (h : cmd.vmId = vmId) :
      MachineText req vmId (.queued k vm id) (.mem (.send channel (.createVm cmd)))
  | markSent {k vm id} : MachineText req vmId (.waiting k vm id) (.write (.markCommandSent id))
  | await {k vm id} : MachineText req vmId (.waiting k vm id) (.mem (.awaitOutcome vmId))
  | read {k vm id} : MachineText req vmId (.reported k vm id) (.query (.getVm vmId))
  | timeOut {k vm id message} :
      MachineText req vmId (.waiting k vm id) (.write (.updateVmState vmId .failed message))
  | giveUp {g : MachinePoint} (hg : g.owns = true) : MachineText req vmId g (.write (.markVmPendingTeardown vmId))
  | release {k} : MachineText req vmId (.closing k) (.write (.releaseVmIps vmId))
  | leave {k clusterId hostId} :
      MachineText req vmId (.closing k) (.write (.markHostClusterPendingTeardown clusterId hostId))

def machineText (req : CreateMachineRequest) (vmId : VmId) : Protocol Op Op.Resp MachinePoint :=
  ⟨MachineText req vmId, MachinePoint.next⟩

/-! ### Its parts -/

section Machine

variable {req : CreateMachineRequest} {vmId : VmId} {picks : Picks}
variable {settings : Settings} {cluster : ClusterRow} {g : MachinePoint} {vm : VmRow} {placement : Placement}

theorem idles_machineText (hg : g.idles = true) : Idles (machineText req vmId) g := by
  refine fun o ho => ⟨.quiet hg ho, fun r => ?_⟩
  show g.next o r = g
  unfold MachinePoint.next
  split <;> first | rfl | (cases ho; done) | cases hg

theorem text_cleanup {clusterId : ClusterId} {hostId : HostId} {status : Status} (hg : g.owns = true) :
    (machineText req vmId).Follows MachinePoint.returns (do
      cleanupFailedVm settings vmId clusterId hostId
      return .error status) g := by
  have closing : ∀ k, (machineText req vmId).Follows MachinePoint.returns (do
      let _ ← write (.releaseVmIps vmId)
      let _ ← write (.markHostClusterPendingTeardown clusterId hostId)
      pushReconcile settings hostId
      return .error status) (.closing k) := by
    refine fun k => ⟨.release, fun _ => ⟨.leave, fun _ => ?_⟩⟩
    exact (idles_machineText rfl).reconciles.stays_pushReconcile.follows fun _ => trivial
  refine ⟨.giveUp hg, fun _ => ?_⟩
  cases g with
  | placed k _ | joined k _ | queued k _ _ | waiting k _ _ => exact closing k
  | _ => cases hg

/-- One attempt ends with the row in, or with nothing held. -/
theorem text_tryPlaceVm {pick : Except Status ScheduleDecision} :
    (machineText req vmId).Follows
      (fun g r => (∃ p, r = .ok p ∧ p.vm.id = vmId ∧ g = .placed cluster p.vm) ∨
        (∃ e, r = .error e) ∧ g = .read cluster)
      (tryPlaceVm req vmId cluster pick) (.read cluster) := by
  cases pick with
  | error status => exact .inr ⟨⟨_, rfl⟩, rfl⟩
  | ok decision =>
    refine ⟨.address, fun allocated => ?_⟩
    cases allocated with
    | error e => exact .inr ⟨⟨_, rfl⟩, rfl⟩
    | ok ip =>
      refine ⟨.insert, fun inserted => ?_⟩
      cases inserted with
      | ok _ => exact .inl ⟨_, rfl, rfl, rfl⟩
      | error e => exact ⟨.giveBack, fun _ => .inr ⟨⟨_, rfl⟩, rfl⟩⟩

/-- The retry loop ends with the row in, or with an early return. -/
theorem text_placeVm (n : Nat) :
    (machineText req vmId).Follows
      (fun g r => (∃ p, r = .ok p ∧ p.vm.id = vmId ∧ g = .placed cluster p.vm) ∨
        ∃ early, r = .error early ∧ g.returns early)
      (placeVm req vmId cluster picks n) (.read cluster) := by
  induction n with
  | zero => exact .inr ⟨_, rfl, trivial⟩
  | succ n ih =>
    refine text_tryPlaceVm.bind fun g r hr => ?_
    rcases hr with ⟨p, rfl, hp⟩ | ⟨⟨e, rfl⟩, rfl⟩
    · exact .inl ⟨p, rfl, hp⟩
    · cases e with
      | raced _ | hostGone _ => exact ih
      | noCapacity _ | internal _ => exact .inr ⟨_, rfl, trivial⟩
      | nameConflict =>
        refine ⟨.look, fun existing => ?_⟩
        cases existing with
        | none => exact .inr ⟨_, rfl, trivial⟩
        | some row => exact .inr ⟨_, rfl, rfl⟩

/-! ### Once the row is in -/

theorem text_awaitAgent {clusterId : ClusterId} {id : Nat} (hvm : vm.id = vmId) :
    (machineText req vmId).Follows MachinePoint.returns (awaitAgent settings vm clusterId)
      (.waiting cluster vm id) := by
  subst hvm
  refine ⟨.await, fun outcome => ?_⟩
  cases outcome with
  | recvError => exact text_cleanup rfl
  | elapsed => exact (idles_machineText rfl).follows rfl fun _ => ⟨.timeOut, fun _ => trivial⟩
  | resolved result =>
    cases result with
    | error failure =>
      show Follows _ _ (cleanupFailedVm settings vm.id clusterId vm.hostId >>= fun _ =>
        if failure.transient = true then _ else _) _
      split <;> exact text_cleanup rfl
    | ok _ =>
      refine ⟨.read, fun row => ?_⟩
      cases row with
      | ok row => exact rfl
      | error e => trivial

theorem text_dispatchVm {gateway : Ipv4Addr} {agent : ConnectedAgent} (hvm : placement.vm.id = vmId) :
    (machineText req vmId).Follows MachinePoint.returns
      (dispatchVm settings req cluster placement gateway agent) (.joined cluster placement.vm) := by
  subst hvm
  refine (idles_machineText rfl).follows rfl fun _ => ⟨.enqueue rfl, fun enqueued => ?_⟩
  cases enqueued with
  | error e => exact (idles_machineText rfl).follows rfl fun _ => text_cleanup rfl
  | ok outboxId =>
    refine ⟨.dispatch rfl, fun sent => ?_⟩
    cases sent with
    | true => exact ⟨.markSent, fun _ => text_awaitAgent rfl⟩
    | false => exact (idles_machineText rfl).follows rfl fun _ => text_cleanup rfl

theorem text_finishCreate (hvm : placement.vm.id = vmId) :
    (machineText req vmId).Follows MachinePoint.returns (finishCreate settings req cluster placement)
      (.placed cluster placement.vm) := by
  subst hvm
  refine ⟨.join, fun joined => ?_⟩
  cases joined with
  | error e => exact text_cleanup rfl
  | ok gateway =>
    refine (idles_machineText rfl).reconciles.stays_broadcastCluster.follows fun _ => ?_
    refine (idles_machineText rfl).follows rfl fun agent => ?_
    cases agent with
    | none => exact text_cleanup rfl
    | some agent => exact text_dispatchVm rfl

/-- **The text of `create_machine`.** -/
theorem text_createMachine : (machineText req vmId).Follows MachinePoint.returns
    (createMachine settings req vmId picks) .start := by
  unfold createMachine
  split
  · trivial
  · refine ⟨.find, fun found => ?_⟩
    cases found with
    | error e => trivial
    | ok cluster =>
      refine ⟨.look, fun existing => ?_⟩
      cases existing with
      | some row => exact rfl
      | none =>
        refine (text_placeVm maxScheduleAttempts).bind fun g r hr => ?_
        rcases hr with ⟨p, rfl, hid, rfl⟩ | ⟨early, rfl, hreturns⟩
        · exact text_finishCreate hid
        · exact hreturns

end Machine

/-! ## `create_cluster` -/

/-- What `create_cluster` checks of a request before it does anything. -/
structure CreateClusterRequest.Accepted (settings : Settings) (req : CreateClusterRequest) : Prop where
  visible : ∃ visibility, ApiserverVisibility.tryFrom req.apiserverVisibility = some visibility
  named : req.name ≠ ""
  power : (req.serviceCount settings.network).isPowerOfTwo
  pool : ∃ pool, resolvePool settings.network req.externalIpPool = .ok pool

/-- A point of `create_cluster`, with what is in scope there; rounds are counted by their identifiers. -/
inductive ClusterPoint where
  | start
  /-- The name is taken, by this row. -/
  | found (row : ClusterRow)
  /-- Its trust domain could not be refreshed. -/
  | stale (row : ClusterRow)
  | picking (rest : List (Fin maxAllocationAttempts))
  | picked (i : Fin maxAllocationAttempts) (rest : List (Fin maxAllocationAttempts)) (network : ClusterNetwork)
  | fronted (i : Fin maxAllocationAttempts) (rest : List (Fin maxAllocationAttempts)) (network : ClusterNetwork)
      (endpoint : Ipv4Addr)
  | equipped (i : Fin maxAllocationAttempts) (rest : List (Fin maxAllocationAttempts)) (network : ClusterNetwork)
      (endpoint : Ipv4Addr) (block : Ipv4Net)
  /-- A call has failed: the addresses of the round go back, and then? -/
  | undoing (failed after : ClusterPoint)
  /-- Another call has inserted the name. -/
  | beaten
  | settled (row : ClusterRow)
  | inserted (row : ClusterRow)
  | failed

namespace ClusterPoint

def next : ClusterPoint → (o : Op) → o.Resp → ClusterPoint
  | start, .query (.getClusterByName _), some row => found row
  | start, .query (.getClusterByName _), none => picking (List.finRange maxAllocationAttempts)
  | found row, .write (.updateClusterTrustDomain _ _), .error _ => stale row
  | picking (i :: rest), .query (.allocateClusterNetwork _), .ok network => picked i rest network
  | picking (_ :: _), .query (.allocateClusterNetwork _), .error _ => failed
  | picked i rest network, .write (.allocatePoolVip _ _), .ok ip => fronted i rest network ip
  | picked i rest network, .write (.allocatePoolVip _ _), .error _ => undoing (picked i rest network) failed
  | picked i rest network, .write (.reserveSpecificIp _ ip _), .ok _ => fronted i rest network ip
  | picked i rest network, .write (.reserveSpecificIp _ _ _), .error _ => undoing (picked i rest network) failed
  | fronted i rest network endpoint, .write (.allocateServiceBlock _ _ _ _), .ok block =>
    equipped i rest network endpoint block
  | fronted i rest network endpoint, .write (.allocateServiceBlock _ _ _ _), .error _ =>
    undoing (fronted i rest network endpoint) failed
  | equipped _ _ _ _ _, .write (.insertCluster row), .ok _ => inserted row
  | equipped i rest network endpoint block, .write (.insertCluster _), .error (.allocationRaced _) =>
    undoing (equipped i rest network endpoint block) (picking rest)
  | equipped i rest network endpoint block, .write (.insertCluster _), .error (.conflict _) =>
    undoing (equipped i rest network endpoint block) beaten
  | equipped i rest network endpoint block, .write (.insertCluster _), .error _ =>
    undoing (equipped i rest network endpoint block) failed
  | undoing _ after, .write (.releaseClusterIps _), _ => after
  | beaten, .query (.getClusterByName _), some row => settled row
  | beaten, .query (.getClusterByName _), none => failed
  | g, _, _ => g

/-- Where the call returns, and with what. -/
def returns (settings : Settings) (req : CreateClusterRequest) : ClusterPoint → Except Status Reply → Prop
  | start, .error _ => ¬req.Accepted settings
  | found row, .ok reply => reply = .cluster (createClusterResponse row settings.bgp)
  | settled row, .ok reply => reply = .cluster (createClusterResponse row settings.bgp)
  | inserted row, .ok reply => reply = .cluster (createClusterResponse row settings.bgp)
  | stale _, .error _ => True
  | picking [], .error _ => True
  | failed, .error _ => True
  | _, _ => False

end ClusterPoint

/-- The operations of `create_cluster`, point by point. -/
inductive ClusterText (settings : Settings) (req : CreateClusterRequest)
    (ids : RoundIds) : ClusterPoint → Op → Prop
  | look : ClusterText settings req ids .start (.query (.getClusterByName req.name))
  | refresh {row domain} :
      ClusterText settings req ids (.found row) (.write (.updateClusterTrustDomain row.id domain))
  | quiet {row} {o : Op} (h : o.quiet = true) : ClusterText settings req ids (.found row) o
  | pick {i rest} :
      ClusterText settings req ids (.picking (i :: rest)) (.query (.allocateClusterNetwork settings.network))
  | poolVip {i rest network} {pool : Pool} (hpool : settings.network.poolByName req.externalIpPool = some pool)
      (hvisible : ApiserverVisibility.tryFrom req.apiserverVisibility = some .apiserverPublic) :
      ClusterText settings req ids (.picked i rest network) (.write (.allocatePoolVip pool (ids i)))
  | privateVip {i rest} {network : ClusterNetwork}
      (hhidden : ApiserverVisibility.tryFrom req.apiserverVisibility = some .apiserverPrivate) :
      ClusterText settings req ids (.picked i rest network)
        (.write (.reserveSpecificIp s!"cluster:{ids i}" network.privateApiserverIp (.cluster (ids i))))
  | serviceBlock {i rest network endpoint} {pool : Pool}
      (hpool : settings.network.poolByName req.externalIpPool = some pool) :
      ClusterText settings req ids (.fronted i rest network endpoint)
        (.write (.allocateServiceBlock pool.name (.parsePoolRange pool) (ids i) (req.serviceCount settings.network)))
  | insert {i rest network endpoint block} :
      ClusterText settings req ids (.equipped i rest network endpoint block)
        (.write (.insertCluster (.fromNetwork (ids i) req endpoint (some block) network)))
  | unpick {i rest network} :
      ClusterText settings req ids (.undoing (.picked i rest network) .failed) (.write (.releaseClusterIps (ids i)))
  | unfront {i rest network endpoint} :
      ClusterText settings req ids (.undoing (.fronted i rest network endpoint) .failed)
        (.write (.releaseClusterIps (ids i)))
  | unequip {i rest network endpoint block after} (h : after = .picking rest ∨ after = .beaten ∨ after = .failed) :
      ClusterText settings req ids (.undoing (.equipped i rest network endpoint block) after)
        (.write (.releaseClusterIps (ids i)))
  | lookAgain : ClusterText settings req ids .beaten (.query (.getClusterByName req.name))

def clusterText (settings : Settings) (req : CreateClusterRequest) (ids : RoundIds) :
    Protocol Op Op.Resp ClusterPoint :=
  ⟨ClusterText settings req ids, ClusterPoint.next⟩

/-! ### One round -/

section Cluster

variable {settings : Settings} {req : CreateClusterRequest} {ids : RoundIds}
variable {rest : List (Fin maxAllocationAttempts)} {i : Fin maxAllocationAttempts} {row : ClusterRow}
variable {visibility : ApiserverVisibility} {pool : Pool}

theorem idles_clusterText : Idles (clusterText settings req ids) (.found row) := by
  refine fun o ho => ⟨.quiet ho, fun r => ?_⟩
  show ClusterPoint.next (.found row) o r = .found row
  unfold ClusterPoint.next
  split <;> first | rfl | contradiction

/-- What a round leaves behind: the next one, or an answer. -/
def ClusterPoint.concludes (settings : Settings) (req : CreateClusterRequest)
    (rest : List (Fin maxAllocationAttempts)) (g : ClusterPoint) : Option (Except Status Reply) → Prop
  | none => g = .picking rest
  | some reply => g.returns settings req reply

theorem text_commitCluster {network : ClusterNetwork} {endpoint : Ipv4Addr} {block : Ipv4Net} :
    (clusterText settings req ids).Follows (ClusterPoint.concludes settings req rest)
      (commitCluster settings req (.fromNetwork (ids i) req endpoint (some block) network))
      (.equipped i rest network endpoint block) := by
  refine ⟨.insert, fun inserted => ?_⟩
  cases inserted with
  | ok _ => exact rfl
  | error e =>
    cases e with
    | allocationRaced _ => exact ⟨.unequip (.inl rfl), fun _ => rfl⟩
    | conflict _ =>
      refine ⟨.unequip (.inr (.inl rfl)), fun _ => ⟨.lookAgain, fun existing => ?_⟩⟩
      cases existing with
      | some row => exact rfl
      | none => trivial
    | _ => exact ⟨.unequip (.inr (.inr rfl)), fun _ => trivial⟩

variable (hpool : settings.network.poolByName req.externalIpPool = some pool)
variable (hcount : req.serviceCount settings.network ≠ 0)
include hpool hcount

/-- From the apiserver's address on, whichever way it was taken. -/
theorem text_allocateServiceBlock {network : ClusterNetwork} {endpoint : Ipv4Addr} {α : Type}
    {Q : ClusterPoint → α → Prop}
    {k : Except DbError (Option Ipv4Net) → Handler α}
    (herror : ∀ e, (clusterText settings req ids).Follows Q (k (.error e))
      (.undoing (.fronted i rest network endpoint) .failed))
    (hok : ∀ block, (clusterText settings req ids).Follows Q (k (.ok (some block)))
      (.equipped i rest network endpoint block)) :
    (clusterText settings req ids).Follows Q
      (allocateServiceBlock pool (ids i) (req.serviceCount settings.network) >>= k)
      (.fronted i rest network endpoint) := by
  unfold allocateServiceBlock
  rw [if_neg hcount]
  refine ⟨.serviceBlock hpool, fun allocated => ?_⟩
  cases allocated with
  | error e => exact herror e
  | ok block => exact hok block

theorem text_provisionCluster (hvisible : ApiserverVisibility.tryFrom req.apiserverVisibility = some visibility) :
    (clusterText settings req ids).Follows (ClusterPoint.concludes settings req rest)
      (provisionCluster settings req visibility pool (req.serviceCount settings.network) (ids i))
      (.picking (i :: rest)) := by
  refine ⟨.pick, fun pick => ?_⟩
  cases pick with
  | error e => trivial
  | ok network =>
    cases visibility with
    | apiserverPublic =>
      refine ⟨.poolVip hpool hvisible, fun vip => ?_⟩
      cases vip with
      | error e => exact ⟨.unpick, fun _ => trivial⟩
      | ok endpoint =>
        exact text_allocateServiceBlock hpool hcount (fun e => ⟨.unfront, fun _ => trivial⟩) fun _ => text_commitCluster
    | apiserverPrivate =>
      refine ⟨.privateVip hvisible, fun reserved => ?_⟩
      cases reserved with
      | error e => exact ⟨.unpick, fun _ => trivial⟩
      | ok _ =>
        exact text_allocateServiceBlock hpool hcount (fun e => ⟨.unfront, fun _ => trivial⟩) fun _ => text_commitCluster

/-! ### All rounds -/

/-- The loop, by induction on the rounds that are left. -/
theorem text_provisionLoop (hvisible : ApiserverVisibility.tryFrom req.apiserverVisibility = some visibility)
    (rest : List (Fin maxAllocationAttempts)) :
    (clusterText settings req ids).Follows (ClusterPoint.returns settings req)
      (provisionLoop settings req visibility pool (req.serviceCount settings.network) (rest.map ids))
      (.picking rest) := by
  induction rest with
  | nil => trivial
  | cons i rest ih =>
    refine (text_provisionCluster hpool hcount hvisible).bind fun g r hr => ?_
    cases r with
    | some reply => exact hr
    | none =>
      obtain rfl : g = .picking rest := hr
      exact ih

omit hpool hcount

theorem text_returnExistingCluster : (clusterText settings req ids).Follows (ClusterPoint.returns settings req)
    (returnExistingCluster settings req row) (.found row) := by
  unfold returnExistingCluster
  split
  · refine ⟨.refresh, fun updated => ?_⟩
    cases updated with
    | error e => trivial
    | ok _ => exact idles_clusterText.reconciles.stays_broadcastCluster.follows fun _ => rfl
  · exact rfl

theorem poolByName_of_resolve (h : resolvePool settings.network req.externalIpPool = .ok pool) :
    settings.network.poolByName req.externalIpPool = some pool := by
  unfold resolvePool at h
  split at h
  · cases h
  split at h <;> cases h
  rename_i hpool
  exact hpool

/-! ### The handler -/

/-- **The text of `create_cluster`.** -/
theorem text_createCluster : (clusterText settings req ids).Follows (ClusterPoint.returns settings req)
    (createCluster settings req ids) .start := by
  unfold createCluster
  split
  · rename_i hvisible
    intro h
    obtain ⟨visibility, hv⟩ := h.visible
    rw [hvisible] at hv
    cases hv
  rename_i visibility hvisible
  split
  · rename_i hname
    exact fun h => h.named hname
  dsimp only
  split
  · rename_i hpower
    exact fun h => hpower h.power
  rename_i hpower
  split
  · rename_i hresolve
    intro h
    obtain ⟨pool, hp⟩ := h.pool
    rw [hresolve] at hp
    cases hp
  rename_i pool hresolve
  refine ⟨.look, fun existing => ?_⟩
  cases existing with
  | some row => exact text_returnExistingCluster
  | none =>
    dsimp only [Prog.bind]
    rw [List.ofFn_eq_map]
    refine text_provisionLoop (poolByName_of_resolve hresolve) ?_ hvisible _
    intro hzero
    rw [not_not, hzero] at hpower
    obtain ⟨k, hk⟩ := hpower
    exact absurd hk.symm (Nat.two_pow_pos k).ne'

end Cluster

end BasisCell
