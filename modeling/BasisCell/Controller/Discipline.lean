import BasisCell.Controller.Text

/-!
# `BasisCell.Controller.Discipline` — the protocol of every activity

What an activity may do next depends on how far it has come: `create_machine` inserts a row only for an
address it has just allocated, sends the command only after the outbox has it, and tears down only a VM it
has placed; a registration replays only what it has listed. `Phase` names these points, `Allows` says which
operations an activity may run in which phase, and `next` how a response moves it on.

`discipline_governs` is the one place where the handlers' text is followed: every program stays within its
protocol, whatever the other activities make it see. All arguments about interleavings build on the phases.
-/

namespace BasisCell

open Conc Conc.Protocol Handler List

/-- How far an activity has come. -/
inductive Phase where
  | start
  /-- `create_machine` has allocated an address. -/
  | holding (ip : Ipv4Addr)
  /-- The VM's row is in. -/
  | placed
  /-- The command is in the outbox. -/
  | queued (outboxId : Nat)
  /-- The command is on the agent's channel. -/
  | waiting (outboxId : Nat)
  /-- The VM is given up. -/
  | closing
  /-- `create_cluster` has inserted its row. -/
  | provisioned
  /-- `delete_cluster` has marked every membership, or found no cluster. -/
  | deleted
  /-- `delete_machine` or a state report has read the VM's row. -/
  | looked (vm : VmRow)
  /-- A state report has written the new state. -/
  | reported
  /-- A registration has opened its channel. -/
  | opened (channel : Nat)
  /-- A registration has read the rows of its host. -/
  | reaping (channel : Nat) (vms : List VmRow)
  /-- A registration has listed the outbox; `sent` of it are on the channel, `todo` are not. -/
  | replaying (channel : Nat) (sent todo : List (Nat × ControllerCommand))
  /-- The channel did not take a replayed command. -/
  | broken (channel : Nat)

/-- During a replay a registration does nothing else. -/
def Phase.roams : Phase → Bool
  | replaying _ _ _ => false
  | broken _ => false
  | _ => true

/-- A registration's channel is open and its outbox not read. -/
def Phase.registering : Phase → Bool
  | opened _ => true
  | reaping _ _ => true
  | _ => false

/-- What an activity looks up where: a state report its VM, a registration the outbox once its channel is open. -/
def Activity.reads : Activity → Phase → Query → Bool
  | agentMessage _ (.vmState report) _, _, .getVm id => id = report.vmId
  | streamMessages _ _ _, g, .listPendingCommands _ => g.registering
  | _, _, _ => true

/-- Which operations an activity may run in which phase. -/
inductive Allows : Activity → Phase → Op → Prop
  | query {t : Activity} {g : Phase} {q : Query} (h : g.roams = true) (hq : t.reads g q = true) :
      Allows t g (.query q)
  | mem {t : Activity} {g : Phase} {m : MemOp} (h : g.roams = true) (hm : m.routine = true) : Allows t g (.mem m)
  /-- Every reconcile command may elect. -/
  | elect {t : Activity} {g : Phase} {clusterId : ClusterId} {hostId : HostId} (h : g.roams = true) :
      Allows t g (.write (.setLanVipOwner clusterId hostId))
  -- `create_machine`
  | allocate {req picks vmId} {cluster : ClusterRow} :
      Allows (.createMachine req vmId picks) .start (.write (.allocateClusterVmIp cluster vmId))
  | insert {req picks vmId} {vm : VmRow} {gpus disks} (hid : vm.id = vmId) (hstate : vm.state = .creating) :
      Allows (.createMachine req vmId picks) (.holding vm.ipAddress) (.write (.insertVm vm gpus disks))
  | giveBack {req picks vmId ip} :
      Allows (.createMachine req vmId picks) (.holding ip) (.write (.releaseVmIps vmId))
  | join {req picks vmId cluster hostId} :
      Allows (.createMachine req vmId picks) .placed (.write (.ensureHostClusterActive cluster hostId))
  | enqueue {req picks vmId hostId} {cmd : CreateVmCommand} (h : cmd.vmId = vmId) :
      Allows (.createMachine req vmId picks) .placed
        (.write (.enqueuePendingCommand hostId vmId (.createVm cmd)))
  | dispatch {req picks vmId outboxId channel} {cmd : CreateVmCommand} (h : cmd.vmId = vmId) :
      Allows (.createMachine req vmId picks) (.queued outboxId) (.mem (.send channel (.createVm cmd)))
  | markSent {req picks vmId outboxId} :
      Allows (.createMachine req vmId picks) (.waiting outboxId) (.write (.markCommandSent outboxId))
  | await {req picks vmId outboxId} :
      Allows (.createMachine req vmId picks) (.waiting outboxId) (.mem (.awaitOutcome vmId))
  | timeOut {req picks vmId outboxId message} :
      Allows (.createMachine req vmId picks) (.waiting outboxId) (.write (.updateVmState vmId .failed message))
  | giveUpPlaced {req picks vmId} :
      Allows (.createMachine req vmId picks) .placed (.write (.markVmPendingTeardown vmId))
  | giveUpQueued {req picks vmId outboxId} :
      Allows (.createMachine req vmId picks) (.queued outboxId) (.write (.markVmPendingTeardown vmId))
  | giveUpWaiting {req picks vmId outboxId} :
      Allows (.createMachine req vmId picks) (.waiting outboxId) (.write (.markVmPendingTeardown vmId))
  | releaseClosing {req picks vmId} :
      Allows (.createMachine req vmId picks) .closing (.write (.releaseVmIps vmId))
  | leaveClosing {req picks vmId clusterId hostId} :
      Allows (.createMachine req vmId picks) .closing (.write (.markHostClusterPendingTeardown clusterId hostId))
  -- `delete_machine`
  | markVm {vmId} {vm : VmRow} : Allows (.deleteMachine vmId) (.looked vm) (.write (.markVmPendingTeardown vm.id))
  | leave {vmId} {vm : VmRow} :
      Allows (.deleteMachine vmId) (.looked vm) (.write (.markHostClusterPendingTeardown vm.clusterId vm.hostId))
  -- `create_cluster`
  | poolVip {req ids pool} (i : Fin maxAllocationAttempts) :
      Allows (.createCluster req ids) .start (.write (.allocatePoolVip pool (ids i)))
  | privateVip {req ids scope ip} (i : Fin maxAllocationAttempts) :
      Allows (.createCluster req ids) .start (.write (.reserveSpecificIp scope ip (.cluster (ids i))))
  | serviceBlock {req ids scope range count} (i : Fin maxAllocationAttempts) :
      Allows (.createCluster req ids) .start (.write (.allocateServiceBlock scope range (ids i) count))
  | insertCluster {req ids} {row : ClusterRow} (i : Fin maxAllocationAttempts) (h : row.id = ids i) :
      Allows (.createCluster req ids) .start (.write (.insertCluster row))
  | rollback {req ids} (i : Fin maxAllocationAttempts) :
      Allows (.createCluster req ids) .start (.write (.releaseClusterIps (ids i)))
  | trustDomain {req ids clusterId domain} :
      Allows (.createCluster req ids) .start (.write (.updateClusterTrustDomain clusterId domain))
  -- `delete_cluster`
  | markVmOfCluster {clusterId vmId} :
      Allows (.deleteCluster clusterId) .start (.write (.markVmPendingTeardown vmId))
  | markMemberships {clusterId} :
      Allows (.deleteCluster clusterId) .start (.write (.markClusterPendingTeardownAllHosts clusterId))
  -- `stream_messages`
  | upsertHost {register newHostId now host} :
      Allows (.streamMessages register newHostId now) .start (.write (.upsertHost host))
  | reapMark {register newHostId now channel} {vms : List VmRow} {vm : VmRow} (h : vm ∈ vms) :
      Allows (.streamMessages register newHostId now) (.reaping channel vms) (.write (.markVmPendingTeardown vm.id))
  | reapRelease {register newHostId now channel} {vms : List VmRow} {vm : VmRow} (h : vm ∈ vms) :
      Allows (.streamMessages register newHostId now) (.reaping channel vms) (.write (.releaseVmIps vm.id))
  | reapLeave {register newHostId now channel vms clusterId hostId} :
      Allows (.streamMessages register newHostId now) (.reaping channel vms)
        (.write (.markHostClusterPendingTeardown clusterId hostId))
  | reapAck {register newHostId now channel vms hostId vnis vmIds} :
      Allows (.streamMessages register newHostId now) (.reaping channel vms)
        (.write (.ackTombstones hostId vnis vmIds))
  | replay {register newHostId now channel sent id cmd todo} :
      Allows (.streamMessages register newHostId now) (.replaying channel sent ((id, cmd) :: todo))
        (.mem (.send channel cmd))
  | markReplayed {register newHostId now channel sent id cmd todo} (h : (id, cmd) ∈ sent) :
      Allows (.streamMessages register newHostId now) (.replaying channel sent todo) (.write (.markCommandSent id))
  -- messages of agents
  | heartbeat {hostId capacity now now' bytes pools} :
      Allows (.agentMessage hostId (.heartbeat capacity) now) .start (.write (.recordHeartbeat hostId now' bytes pools))
  | writeState {hostId report now} {vm : VmRow} (hhost : vm.hostId = hostId) (h : vm.state ≠ .pendingTeardown) :
      Allows (.agentMessage hostId (.vmState report) now) (.looked vm)
        (.write (.updateVmState report.vmId (MachineState.ofI32 report.state) report.errorMessage))
  | ackReported {hostId report now} (h : MachineState.ofI32 report.state = .running ∨
      MachineState.ofI32 report.state = .failed) :
      Allows (.agentMessage hostId (.vmState report) now) .reported (.write (.ackPendingCommandsForVm report.vmId))
  | ackLooked {hostId report now} {vm : VmRow} (hhost : vm.hostId = hostId) (h : vm.state = .pendingTeardown) :
      Allows (.agentMessage hostId (.vmState report) now) (.looked vm)
        (.write (.ackPendingCommandsForVm report.vmId))
  | tombstoneAck {hostId vnis vmIds now} :
      Allows (.agentMessage hostId (.tombstoneAck vnis vmIds) now) .start (.write (.ackTombstones hostId vnis vmIds))
  | diskReport {hostId a now} :
      Allows (.agentMessage hostId (.diskAssignment (some a)) now) .start (.write (.commitDiskAssignment hostId a))
  -- the health checker
  | markStale {cutoff cutoff'} : Allows (.hostHealthTick cutoff) .start (.write (.markStaleHostsUnhealthy cutoff'))
  | failVms {cutoff hostId reason} :
      Allows (.hostHealthTick cutoff) .start (.write (.markVmsFailedOnHost hostId reason))

/-- Where a response takes `create_machine`. -/
def createNext : Phase → (o : Op) → o.Resp → Phase
  | .start, .write (.allocateClusterVmIp _ _), .ok ip => .holding ip
  | .holding _, .write (.insertVm _ _ _), .ok _ => .placed
  | .holding _, .write (.releaseVmIps _), _ => .start
  | .placed, .write (.enqueuePendingCommand _ _ _), .ok id => .queued id
  | .queued id, .mem (.send _ (.createVm _)), true => .waiting id
  | .placed, .write (.markVmPendingTeardown _), _ => .closing
  | .queued _, .write (.markVmPendingTeardown _), _ => .closing
  | .waiting _, .write (.markVmPendingTeardown _), _ => .closing
  | .waiting _, .write (.updateVmState _ _ _), _ => .closing
  | g, _, _ => g

/-- Where a response takes `create_cluster`. -/
def provisionNext : Phase → (o : Op) → o.Resp → Phase
  | .start, .write (.insertCluster _), .ok _ => .provisioned
  | g, _, _ => g

/-- Where a response takes `delete_cluster`. -/
def deleteNext : Phase → (o : Op) → o.Resp → Phase
  | .start, .query (.getCluster _), .error _ => .deleted
  | .start, .write (.markClusterPendingTeardownAllHosts _), .ok _ => .deleted
  | g, _, _ => g

/-- Where a response takes `stream_messages`. -/
def streamNext : Phase → (o : Op) → o.Resp → Phase
  | .start, .mem .channelOpen, channel => .opened channel
  | .opened channel, .query (.listVmsOnHost _), vms => .reaping channel vms
  | .opened channel, .query (.listPendingCommands _), pending => .replaying channel [] pending
  | .reaping channel _, .query (.listPendingCommands _), pending => .replaying channel [] pending
  | .replaying channel sent (head :: todo), .mem (.send _ _), true => .replaying channel (sent ++ [head]) todo
  | .replaying channel _ (_ :: _), .mem (.send _ _), false => .broken channel
  | g, _, _ => g

/-- Where a response takes `delete_machine` or a state report. -/
def reportNext : Phase → (o : Op) → o.Resp → Phase
  | .start, .query (.getVm _), .ok vm => .looked vm
  | .looked _, .write (.updateVmState _ _ _), .ok _ => .reported
  | g, _, _ => g

def Activity.next : Activity → Phase → (o : Op) → o.Resp → Phase
  | .createMachine _ _ _ => createNext
  | .deleteMachine _ => reportNext
  | .createCluster _ _ => provisionNext
  | .deleteCluster _ => deleteNext
  | .streamMessages _ _ _ => streamNext
  | .agentMessage _ _ _ => reportNext
  | _ => fun g _ _ => g

/-- All transitions, whatever the activity. -/
inductive Moves : Phase → (o : Op) → o.Resp → Phase → Prop
  | stay {g o r} : Moves g o r g
  | allocated {cluster vmId ip} : Moves .start (.write (.allocateClusterVmIp cluster vmId)) (.ok ip) (.holding ip)
  | inserted {ip vm gpus disks u} : Moves (.holding ip) (.write (.insertVm vm gpus disks)) (.ok u) .placed
  | gaveBack {ip vmId r} : Moves (.holding ip) (.write (.releaseVmIps vmId)) r .start
  | enqueued {hostId vmId cmd id} :
      Moves .placed (.write (.enqueuePendingCommand hostId vmId cmd)) (.ok id) (.queued id)
  | dispatched {id channel cmd} : Moves (.queued id) (.mem (.send channel (.createVm cmd))) true (.waiting id)
  | gaveUpPlaced {vmId r} : Moves .placed (.write (.markVmPendingTeardown vmId)) r .closing
  | gaveUpQueued {id vmId r} : Moves (.queued id) (.write (.markVmPendingTeardown vmId)) r .closing
  | gaveUpWaiting {id vmId r} : Moves (.waiting id) (.write (.markVmPendingTeardown vmId)) r .closing
  | timedOut {id vmId state message r} :
      Moves (.waiting id) (.write (.updateVmState vmId state message)) r .closing
  | provisioned {row u} : Moves .start (.write (.insertCluster row)) (.ok u) .provisioned
  | notFound {clusterId e} : Moves .start (.query (.getCluster clusterId)) (.error e) .deleted
  | marked {clusterId hosts} :
      Moves .start (.write (.markClusterPendingTeardownAllHosts clusterId)) (.ok hosts) .deleted
  | opened {channel} : Moves .start (.mem .channelOpen) channel (.opened channel)
  | readRows {channel hostId vms} : Moves (.opened channel) (.query (.listVmsOnHost hostId)) vms (.reaping channel vms)
  | listed {channel hostId pending} :
      Moves (.opened channel) (.query (.listPendingCommands hostId)) pending (.replaying channel [] pending)
  | listedReaped {channel vms hostId pending} :
      Moves (.reaping channel vms) (.query (.listPendingCommands hostId)) pending (.replaying channel [] pending)
  | replayed {channel sent head todo channel' cmd} :
      Moves (.replaying channel sent (head :: todo)) (.mem (.send channel' cmd)) true
        (.replaying channel (sent ++ [head]) todo)
  | broke {channel sent head todo channel' cmd} :
      Moves (.replaying channel sent (head :: todo)) (.mem (.send channel' cmd)) false (.broken channel)
  | looked {vmId vm} : Moves .start (.query (.getVm vmId)) (.ok vm) (.looked vm)
  | reported {vm vmId state message u} :
      Moves (.looked vm) (.write (.updateVmState vmId state message)) (.ok u) .reported

/-- **Inversion of `next`.** -/
theorem next_moves (t : Activity) (g : Phase) (o : Op) (r : o.Resp) : Moves g o r (t.next g o r) := by
  cases t with
  | createMachine req vmId picks =>
    show Moves g o r (createNext g o r)
    unfold createNext
    split <;> constructor
  | createCluster req ids =>
    show Moves g o r (provisionNext g o r)
    unfold provisionNext
    split <;> constructor
  | deleteCluster clusterId =>
    show Moves g o r (deleteNext g o r)
    unfold deleteNext
    split <;> constructor
  | streamMessages register newHostId now =>
    show Moves g o r (streamNext g o r)
    unfold streamNext
    split <;> constructor
  | deleteMachine vmId | agentMessage hostId msg now =>
    show Moves g o r (reportNext g o r)
    unfold reportNext
    split <;> constructor
  | _ => exact .stay

/-- Where an activity may return, and with what. -/
def Activity.ends : Activity → Phase → Except Status Reply → Prop
  | .createMachine _ _ _, g, _ => g = .start ∨ (∃ id, g = .waiting id) ∨ g = .closing
  | .deleteCluster _, g, .ok _ => g = .deleted
  | .streamMessages _ _ _, g, .ok (.stream _ channel) =>
    (∃ sent, g = .replaying channel sent []) ∨ g = .broken channel
  | .streamMessages _ _ _, g, _ => g.roams = true
  | _, _, _ => True

def Activity.protocol (t : Activity) : Protocol Op Op.Resp Phase := ⟨Allows t, t.next⟩

/-- The protocols of the controller's activities. -/
def discipline : Discipline Activity Op Op.Resp (Except Status Reply) Phase where
  protocol := Activity.protocol
  start := fun _ => .start
  ends := Activity.ends

/-! ## Operations that move no activity -/

variable {t : Activity} {g : Phase} {o : Op} {α : Type} {Q : Phase → α → Prop}

theorem next_of_neutral (hg : g.roams = true) (ho : o.neutral = true) (r : o.Resp) : t.next g o r = g := by
  have hmoves := next_moves t g o r
  generalize t.next g o r = g' at hmoves
  cases hmoves <;> first | rfl | cases ho | cases hg

theorem allows_of_neutral (hg : g.roams = true) (ho : o.neutral = true) : Allows t g o := by
  cases o with
  | query q =>
    refine .query hg ?_
    unfold Activity.reads
    split <;> first | rfl | cases ho
  | mem m =>
    refine .mem hg ?_
    cases m <;> first | exact ho | rfl
  | write w => cases w <;> first | exact .elect hg | cases ho

theorem follows_neutral {k : o.Resp → Handler α} (hg : g.roams = true) (ho : o.neutral = true)
    (h : ∀ r, t.protocol.Follows Q (k r) g) : t.protocol.Follows Q (.call o k) g := by
  refine ⟨allows_of_neutral hg ho, fun r => ?_⟩
  show t.protocol.Follows Q (k r) (t.next g o r)
  rw [next_of_neutral hg ho]
  exact h r

theorem idles_of_roams (hg : g.roams = true) : Idles t.protocol g := fun _ ho =>
  ⟨allows_of_neutral hg (Op.neutral_of_quiet ho), next_of_neutral hg (Op.neutral_of_quiet ho)⟩

/-! ## The calls of the CAPI provider -/

/-- The phase at a point of `create_machine`. -/
def MachinePoint.phase : MachinePoint → Phase
  | holding _ ip => .holding ip
  | placed _ _ => .placed
  | joined _ _ => .placed
  | queued _ _ id => .queued id
  | waiting _ _ id => .waiting id
  | reported _ _ id => .waiting id
  | answering _ id _ => .waiting id
  | lost _ id => .waiting id
  | closing _ => .closing
  | _ => .start

theorem follows_createMachine {settings : Settings} {req : CreateMachineRequest} {vmId : VmId}
    {picks : Picks} :
    (Activity.createMachine req vmId picks).protocol.Follows (Activity.createMachine req vmId picks).ends
      (createMachine settings req vmId picks) .start := by
  refine (text_createMachine.map (f := MachinePoint.phase) fun g o h => ?_).mono ?_
  · cases h with
    | find | look | read => exact ⟨.query rfl rfl, fun r => by cases r <;> rfl⟩
    | address => exact ⟨.allocate, fun r => by cases r <;> rfl⟩
    | @insert k ip decision =>
      exact ⟨@Allows.insert req picks vmId (placedRow req vmId decision ip) _ _ rfl rfl, fun r => by cases r <;> rfl⟩
    | giveBack => exact ⟨.giveBack, fun _ => rfl⟩
    | join => exact ⟨.join, fun r => by cases r <;> rfl⟩
    | quiet hg ho => exact (idles_machineText hg).reads (idles_of_roams (by cases g <;> rfl)) ho
    | enqueue hcmd => exact ⟨.enqueue hcmd, fun r => by cases r <;> rfl⟩
    | dispatch hcmd => exact ⟨.dispatch hcmd, fun r => by cases r <;> rfl⟩
    | markSent => exact ⟨.markSent, fun _ => rfl⟩
    | await => exact ⟨.await, fun r => by rcases r with (_ | _) | _ | _ <;> rfl⟩
    | timeOut => exact ⟨.timeOut, fun _ => rfl⟩
    | giveUp hg =>
      cases g with
      | placed | joined => exact ⟨.giveUpPlaced, fun _ => rfl⟩
      | queued => exact ⟨.giveUpQueued, fun _ => rfl⟩
      | waiting => exact ⟨.giveUpWaiting, fun _ => rfl⟩
      | _ => cases hg
    | release => exact ⟨.releaseClosing, fun _ => rfl⟩
    | leave => exact ⟨.leaveClosing, fun _ => rfl⟩
  · rintro _ r ⟨g, rfl, hreturns⟩
    cases g with
    | start | read | named => exact .inl rfl
    | answering _ id | lost _ id => exact .inr (.inl ⟨id, rfl⟩)
    | closing => exact .inr (.inr rfl)
    | _ => cases r <;> cases hreturns

theorem follows_initiateVmTeardown {settings : Settings} {vmId : VmId} {vm : VmRow} :
    (Activity.deleteMachine vmId).protocol.Follows (fun _ _ => True) (initiateVmTeardown settings vm) (.looked vm) := by
  refine ⟨.markVm, fun marked => ?_⟩
  cases marked with
  | error e => trivial
  | ok _ =>
    refine ⟨.leave, fun left => ?_⟩
    cases left with
    | error e => trivial
    | ok _ => exact (idles_of_roams rfl).reconciles.stays_pushReconcile.follows fun _ => trivial

theorem follows_deleteMachine {settings : Settings} {vmId : VmId} :
    (Activity.deleteMachine vmId).protocol.Follows (Activity.deleteMachine vmId).ends (deleteMachine settings vmId)
      .start := by
  refine ⟨.query rfl rfl, fun found => ?_⟩
  cases found with
  | error e => cases e <;> trivial
  | ok vm =>
    show Follows _ _ (if vm.state ≠ .pendingTeardown then _ else _) _
    split
    · refine follows_initiateVmTeardown.bind fun g r _ => ?_
      cases r <;> trivial
    · exact (idles_of_roams rfl).reconciles.stays_pushReconcile.follows fun _ => trivial

/-- The phase at a point of `create_cluster`. -/
def ClusterPoint.phase : ClusterPoint → Phase
  | inserted _ => .provisioned
  | _ => .start

theorem follows_createCluster {settings : Settings} {req : CreateClusterRequest}
    {ids : RoundIds} :
    (Activity.createCluster req ids).protocol.Follows (Activity.createCluster req ids).ends
      (createCluster settings req ids) .start := by
  refine (text_createCluster.map (f := ClusterPoint.phase) fun g o h => ?_).mono fun _ _ _ => trivial
  cases h with
  | look | lookAgain | pick => exact ⟨allows_of_neutral rfl rfl, fun r => by cases r <;> rfl⟩
  | refresh => exact ⟨.trustDomain, fun r => by cases r <;> rfl⟩
  | quiet ho => exact idles_clusterText.reads (idles_of_roams rfl) ho
  | @poolVip i => exact ⟨.poolVip i, fun r => by cases r <;> rfl⟩
  | @privateVip i => exact ⟨.privateVip i, fun r => by cases r <;> rfl⟩
  | @serviceBlock i => exact ⟨.serviceBlock i, fun r => by cases r <;> rfl⟩
  | @insert i => exact ⟨.insertCluster i rfl, fun r => by rcases r with (_ | _) | _ <;> rfl⟩
  | @unpick i | @unfront i => exact ⟨.rollback i, fun _ => rfl⟩
  | @unequip i _ _ _ _ _ hafter => exact ⟨.rollback i, fun _ => by rcases hafter with rfl | rfl | rfl <;> rfl⟩

theorem follows_deleteCluster {settings : Settings} {clusterId : ClusterId} :
    (Activity.deleteCluster clusterId).protocol.Follows (Activity.deleteCluster clusterId).ends
      (deleteCluster settings clusterId) .start := by
  refine ⟨.query rfl rfl, fun found => ?_⟩
  cases found with
  | error e => cases e <;> trivial
  | ok row =>
    refine follows_neutral rfl rfl fun vms => ?_
    refine (stays_forEach fun vm _ => ?_).follows fun _ => ?_
    · exact ⟨.markVmOfCluster, fun _ => rfl⟩
    refine ⟨.markMemberships, fun marked => ?_⟩
    cases marked with
    | error e => trivial
    | ok hosts =>
      refine (stays_forEach fun hostId _ => ?_).follows fun _ => rfl
      exact (idles_of_roams rfl).reconciles.stays_pushReconcile

/-! ## Agent streams and messages -/

section StreamMessages

variable {register : RegisterHostRequest} {newHostId hostId : HostId} {now channel : Nat} {settings : Settings}
variable {inventory : HostInventory}

/-- Looking at inventories moves a registration nowhere once its channel is open. -/
theorem follows_extendWithOrphanTombstones {cmd : ReconcileHostCommand}
    (hg : g = .opened channel ∨ ∃ vms, g = .reaping channel vms) :
    (Activity.streamMessages register newHostId now).protocol.Follows (fun g' _ => g' = g)
      (extendWithOrphanTombstones settings hostId inventory cmd) g := by
  have hroams : g.roams = true := by rcases hg with rfl | ⟨vms, rfl⟩ <;> rfl
  refine (stays_filterEach fun vmId _ => ?_).follows fun orphanVmIds => ?_
  · refine ⟨.query hroams rfl, fun found => ?_⟩
    rcases hg with rfl | ⟨vms, rfl⟩ <;> cases found <;> rfl
  refine follows_neutral hroams rfl fun active => follows_neutral hroams rfl fun pending => ?_
  dsimp only
  split <;> rfl

theorem follows_reapDbOrphansFromInventory :
    (Activity.streamMessages register newHostId now).protocol.Follows
      (fun g' _ => ∃ vms, g' = .reaping channel vms)
      (reapDbOrphansFromInventory settings hostId inventory) (.opened channel) := by
  refine ⟨.query rfl rfl, fun vms => follows_neutral (g := .reaping channel vms) rfl rfl fun pending => ?_⟩
  dsimp only
  split
  · refine (stays_forEach fun vm hvm => ?_).follows fun _ => ?_
    · have hrow : vm ∈ vms := (mem_filter.mp (mem_filter.mp hvm).1).1
      exact ⟨.reapMark hrow, fun _ => ⟨.reapRelease hrow, fun _ =>
        ⟨.reapLeave, fun _ => (idles_of_roams rfl).reconciles.stays_pushReconcile⟩⟩⟩
    · split
      · exact ⟨.reapAck, fun _ => ⟨vms, rfl⟩⟩
      · exact ⟨vms, rfl⟩
  · exact ⟨vms, rfl⟩

theorem follows_initialState (channel : Nat) :
    (Activity.streamMessages register newHostId now).protocol.Follows
      (fun g' _ => g' = .opened channel ∨ ∃ vms, g' = .reaping channel vms)
      (initialState settings register hostId) (.opened channel) := by
  refine (idles_of_roams rfl).reconciles.stays_buildReconcileCommand.follows fun built => ?_
  cases built with
  | error e => exact .inl rfl
  | ok cmd =>
    cases register.currentInventory with
    | none => exact .inl rfl
    | some inventory =>
      refine Stays.follows (follows_extendWithOrphanTombstones (.inl rfl)) fun _ => ?_
      refine follows_reapDbOrphansFromInventory.bind fun g' reaped hg' => ?_
      obtain ⟨vms, rfl⟩ := hg'
      cases reaped with
      | error e => exact .inr ⟨vms, rfl⟩
      | ok _ =>
        refine (idles_of_roams rfl).reconciles.stays_buildReconcileCommand.follows fun built => ?_
        cases built with
        | error e => exact .inr ⟨vms, rfl⟩
        | ok cmd =>
          refine (follows_extendWithOrphanTombstones (.inr ⟨vms, rfl⟩)).bind fun g' _ hg' => ?_
          exact .inr ⟨vms, hg'⟩

/-- A replay ends with everything on the channel, or with the channel gone. -/
theorem follows_replayOutbox {sent todo : List (Nat × ControllerCommand)} :
    (Activity.streamMessages register newHostId now).protocol.Follows
      (fun g' _ => (∃ sent, g' = .replaying channel sent []) ∨ g' = .broken channel)
      (replayOutbox channel todo) (.replaying channel sent todo) := by
  induction todo generalizing sent with
  | nil => exact .inl ⟨sent, rfl⟩
  | cons head todo ih =>
    obtain ⟨id, cmd⟩ := head
    refine ⟨.replay, fun taken => ?_⟩
    cases taken with
    | true =>
      refine ⟨.markReplayed (mem_append_right sent mem_cons_self), fun r => ?_⟩
      have hnext : streamNext (.replaying channel (sent ++ [(id, cmd)]) todo) (.write (.markCommandSent id)) r =
          .replaying channel (sent ++ [(id, cmd)]) todo := by
        cases todo <;> rfl
      show Follows _ _ (replayOutbox channel todo) (streamNext (.replaying channel (sent ++ [(id, cmd)]) todo) _ r)
      rw [hnext]
      exact ih
    | false => exact .inr rfl

theorem follows_streamMessages :
    (Activity.streamMessages register newHostId now).protocol.Follows
      (Activity.streamMessages register newHostId now).ends
      (streamMessages settings register newHostId now) .start := by
  refine follows_neutral rfl rfl fun existing => ⟨.upsertHost, fun upserted => ?_⟩
  cases upserted with
  | error e => exact rfl
  | ok _ =>
    refine ⟨.mem rfl rfl, fun channel => ?_⟩
    refine (follows_initialState channel).bind fun g' state hg' => ?_
    have hroams : g'.roams = true := by rcases hg' with rfl | ⟨vms, rfl⟩ <;> rfl
    cases state with
    | error e => exact hroams
    | ok cmd =>
      refine follows_neutral hroams rfl fun acked => ?_
      cases acked with
      | false => exact hroams
      | true =>
        refine follows_neutral hroams rfl fun epoch => follows_neutral hroams rfl fun _ => ?_
        refine ⟨.query hroams (by rcases hg' with rfl | ⟨vms, rfl⟩ <;> rfl), fun pending => ?_⟩
        have hnext : (Activity.streamMessages register newHostId now).protocol.next g'
            (.query (.listPendingCommands _)) pending = .replaying channel [] pending := by
          rcases hg' with rfl | ⟨vms, rfl⟩ <;> rfl
        rw [hnext]
        exact follows_replayOutbox.bind fun g'' _ hg'' => hg''

end StreamMessages

section AgentMessage

variable {hostId : HostId} {report : ReportVmStateRequest} {now : Nat}

/-- The outbox is only acked for a VM whose row has left CREATING, or was being torn down when read. -/
theorem follows_resolveReport (hg : g.roams = true)
    (hack : Allows (.agentMessage hostId (.vmState report) now) g (.write (.ackPendingCommandsForVm report.vmId))) :
    (Activity.agentMessage hostId (.vmState report) now).protocol.Follows (fun _ _ => True)
      (resolveReport hostId report (MachineState.ofI32 report.state)) g := by
  refine follows_neutral hg rfl fun waiting => ?_
  show Follows _ _ (if waiting.any (fun h => h ≠ hostId) = true then _ else _) _
  split
  · trivial
  · exact follows_neutral hg rfl fun _ => ⟨hack, fun _ => trivial⟩

theorem follows_handleVmState :
    (Activity.agentMessage hostId (.vmState report) now).protocol.Follows (fun _ _ => True)
      (handleVmState hostId report) .start := by
  refine ⟨.query rfl (decide_eq_true rfl), fun found => ?_⟩
  cases found with
  | error e => cases e <;> trivial
  | ok prev =>
    have resolve : ∀ g : Phase, g.roams = true → ((MachineState.ofI32 report.state = .running ∨
          MachineState.ofI32 report.state = .failed) → Allows (.agentMessage hostId (.vmState report) now) g
          (.write (.ackPendingCommandsForVm report.vmId))) →
        (Activity.agentMessage hostId (.vmState report) now).protocol.Follows (fun _ _ => True)
          (settleReport hostId report) g := by
      intro g hg hack
      unfold settleReport
      split
      · exact (follows_resolveReport hg (hack ‹_›)).bind fun _ _ _ => trivial
      · trivial
    show Follows _ _ (if prev.hostId ≠ hostId then _ else _) _
    split
    · trivial
    · rename_i hhost
      have hhost : prev.hostId = hostId := not_not.mp hhost
      show Follows _ _ (if prev.state ≠ .pendingTeardown then _ else _) _
      split
      · rename_i hstate
        refine ⟨.writeState hhost hstate, fun updated => ?_⟩
        cases updated with
        | error e => trivial
        | ok _ => exact resolve .reported rfl .ackReported
      · rename_i hstate
        exact resolve (.looked prev) rfl fun _ => .ackLooked hhost (not_not.mp hstate)

theorem follows_agentMessage {msg : AgentMessage} :
    (Activity.agentMessage hostId msg now).protocol.Follows (fun _ _ => True)
      (handleAgentMessage hostId msg now) .start := by
  cases msg with
  | heartbeat storageCapacity => exact ⟨.heartbeat, fun _ => trivial⟩
  | vmState report => exact follows_handleVmState
  | tombstoneAck vnis vmIds => exact ⟨.tombstoneAck, fun _ => trivial⟩
  | diskAssignment assignment =>
    cases assignment with
    | none => trivial
    | some a => exact ⟨.diskReport, fun _ => trivial⟩
  | register r | empty => trivial

end AgentMessage

/-! ## Every activity -/

theorem follows_hostHealthTick {cutoff : Nat} :
    (Activity.hostHealthTick cutoff).protocol.Follows (fun _ _ => True) (hostHealthTick cutoff) .start := by
  refine ⟨.markStale, fun marked => ?_⟩
  cases marked with
  | error e => trivial
  | ok stale =>
    refine (stays_forEach fun hostId _ => ?_).follows fun _ => trivial
    exact ⟨.failVms, fun _ => rfl⟩

theorem follows_releaseAgentStream {hostId : HostId} {epoch : Nat} :
    (Activity.streamEnded hostId epoch).protocol.Follows (fun _ _ => True) (releaseAgentStream hostId epoch)
      .start := by
  refine follows_neutral rfl rfl fun removed => ?_
  cases removed with
  | false => trivial
  | true =>
    refine follows_neutral rfl rfl fun stale => ?_
    refine (stays_forEach fun vmId _ => ?_).follows fun _ => trivial
    exact follows_neutral rfl rfl fun _ => rfl

/-- **Every activity keeps to its protocol.** -/
theorem discipline_governs (settings : Settings) : discipline.Governs (cell settings) := by
  intro t
  cases t with
  | createMachine req vmId picks => exact follows_createMachine
  | deleteMachine vmId => exact follows_deleteMachine
  | createCluster req ids => exact follows_createCluster
  | deleteCluster clusterId => exact follows_deleteCluster
  | streamMessages register newHostId now => exact follows_streamMessages
  | agentMessage hostId msg now =>
    refine follows_agentMessage.bind fun g r _ => ?_
    cases r <;> trivial
  | reconcileTick hostId channel =>
    refine (idles_of_roams rfl).reconciles.stays_buildReconcileCommand.follows fun built => ?_
    cases built with
    | error e => trivial
    | ok cmd => exact follows_neutral rfl rfl fun _ => trivial
  | hostHealthTick cutoff => exact follows_hostHealthTick.mono fun _ _ _ => trivial
  | streamEnded hostId epoch => exact follows_releaseAgentStream.mono fun _ _ _ => trivial
  | channelClosed channel => exact follows_neutral rfl rfl fun _ => trivial

end BasisCell
