import BasisCell.Controller.Scheduler
import BasisCell.Controller.Shared

/-!
# `BasisCell.Controller.Handlers` — the controller's activities as programs

The RPC handlers of `server.rs`, the handling of one agent message, and the background tasks, each as a
`Handler`: the sequence of database calls and map and channel operations the source makes, with the same
branches on their results. Everything between two of these operations is pure and sits in plain functions.

What a handler draws from outside the shared state comes in as an argument: the identifiers it mints
(`Uuid::new_v4`), the time, and for `create_machine` the scheduler's answer at every attempt (`picks`). The
authentication of the peer, metrics and logging are left out.
-/

namespace BasisCell

open Conc.Prog Handler

/-! ## Statuses and settings -/

/-- `tonic::Code`. -/
inductive Code where
  | invalidArgument | notFound | alreadyExists | resourceExhausted | failedPrecondition | unavailable
  | internal | deadlineExceeded
  deriving DecidableEq, Repr

structure Status where
  code : Code
  message : String
  deriving DecidableEq, Repr

/-- `DbError`'s `Display`. The engine's own messages are kept as its violation kinds. -/
def DbError.text : DbError → String
  | .sqlx (.uniqueViolation what) => s!"database error: UNIQUE constraint failed: {what}"
  | .sqlx .foreignKeyViolation => "database error: FOREIGN KEY constraint failed"
  | .notFound what => s!"not found: {what}"
  | .conflict what => s!"conflict: {what}"
  | .exhausted what => s!"exhausted: {what}"
  | .hostUnavailable hostId => s!"host '{hostId}' is unknown or unhealthy"
  | .capacityRaced hostId => s!"placement on host '{hostId}' raced a concurrent create"
  | .allocationRaced what => s!"cluster network allocation raced a concurrent create: {what}"
  | .malformed what => s!"malformed DB state: {what}"

/-- `db_status`. -/
def dbStatus (e : DbError) : Status :=
  match e with
  | .notFound _ => ⟨.notFound, e.text⟩
  | .conflict _ => ⟨.alreadyExists, e.text⟩
  | .exhausted _ => ⟨.resourceExhausted, e.text⟩
  | .hostUnavailable _ | .capacityRaced _ | .allocationRaced _ => ⟨.unavailable, e.text⟩
  | .sqlx _ | .malformed _ => ⟨.internal, e.text⟩

structure BgpConfig where
  asn : Nat
  routerId : String
  deriving DecidableEq, Repr

/-- The parts of the controller's configuration that handlers read. -/
structure Settings where
  network : NetworkConfig
  bgp : BgpConfig := ⟨64512, ""⟩
  dnsServers : List String := []
  /-- `safety.autoReconcileOrphanInventory`. -/
  autoReconcileOrphanInventory : Bool := false
  deriving DecidableEq, Repr

structure CreateMachineResponse where
  id : VmId
  providerId : String
  ipAddress : Ipv4Addr
  host : HostId
  deriving DecidableEq, Repr

structure CreateClusterResponse where
  clusterId : ClusterId
  controlPlaneEndpoint : Ipv4Addr
  vni : Nat
  cidr : Ipv4Net
  serviceBlockCidr : Option Ipv4Net
  bgpReflectorAddress : String
  bgpAsn : Nat
  deriving DecidableEq, Repr

/-- What a handler returns. -/
inductive Reply where
  | machine (r : CreateMachineResponse)
  | cluster (r : CreateClusterResponse)
  | deleted
  | stream (hostId : HostId) (channel : Nat)
  | handled
  deriving DecidableEq, Repr

/-! ## Reconcile pushes and teardown -/

inductive ApiserverVisibility where
  | apiserverPublic | apiserverPrivate
  deriving DecidableEq, Repr

/-- `ApiserverVisibility::try_from`. -/
def ApiserverVisibility.tryFrom : Int → Option ApiserverVisibility
  | 0 => some .apiserverPublic
  | 1 => some .apiserverPrivate
  | _ => none

/-- `classify_cluster_vips`: a cluster's VIP and service block, as LAN entries or as tree entries. -/
def classifyClusterVips (cluster : ClusterRow) (visibility : ApiserverVisibility) (pool : Pool)
    (ownerHostId : HostId) : List ClusterVip × List String :=
  let vips := (if visibility = .apiserverPublic then [s!"{cluster.controlPlaneEndpoint.text}/32"] else []) ++
    (cluster.serviceBlockCidr.map Ipv4Net.text).toList
  if pool.isTree then ([], vips) else (vips.map fun cidr => ⟨cidr, ownerHostId⟩, [])

/-- `Db::elect_lan_vip_owner`: keep the recorded owner while it is a carrier, else record the first carrier. -/
def electLanVipOwner (clusterId : ClusterId) (carriers : List HostId) : Handler (Except DbError HostId) := do
  let prev ← query (.lanVipOwner clusterId)
  match prev.filter (· ∈ carriers) with
  | some owner => return .ok owner
  | none =>
    match carriers.head? with
    | none => return .ok ""
    | some newOwner =>
      match ← write (.setLanVipOwner clusterId newOwner) with
      | .error e => return .error e
      | .ok () => return .ok newOwner

variable (settings : Settings)

/-- The pool of a stored cluster; a pool that left the configuration is an error. -/
def clusterPool (cluster : ClusterRow) : Except DbError Pool :=
  match settings.network.poolByName cluster.externalPool with
  | some pool => .ok pool
  | none => .error (.malformed
      (s!"cluster {cluster.id} references pool '{cluster.externalPool}' which is not defined in network.pools "
        ++ "(config drift — restore the pool entry or update the cluster)"))

def clusterVisibility (cluster : ClusterRow) : Except DbError ApiserverVisibility :=
  match ApiserverVisibility.tryFrom cluster.apiserverVisibility with
  | some visibility => .ok visibility
  | none => .error (.malformed
      s!"cluster {cluster.id} has unknown apiserver_visibility {cluster.apiserverVisibility}")

/-- A cluster that the host carries, as its reconcile command names it. -/
def carriedState (membership : HostClusterMembership) :
    Handler (Except DbError ClusterState) := do
  let cluster := membership.cluster
  match clusterVisibility cluster, clusterPool settings cluster with
  | .error e, _ => return .error e
  | _, .error e => return .error e
  | .ok visibility, .ok pool =>
    let carriers ← query (.listActiveCarriers cluster.id)
    match ← electLanVipOwner cluster.id carriers with
    | .error e => return .error e
    | .ok owner =>
      let vips := classifyClusterVips cluster visibility pool owner
      let vteps ← query (.listClusterVteps cluster.id)
      return .ok
        { clusterId := cluster.id, vni := cluster.vni, cidr := cluster.cidr.text
          gatewayIp := membership.bridgeIp.text, prefixLen := cluster.prefixLen
          vtepAddresses := vteps, trustDomain := cluster.trustDomain
          clusterVips := vips.1, internalClusterVips := vips.2 }

/-- A tree-scoped cluster that the host does not carry: its transit only. Other clusters are left out. -/
def ghostState (cluster : ClusterRow) : Handler (Except DbError (Option ClusterState)) := do
  match clusterPool settings cluster with
  | .error e => return .error e
  | .ok pool =>
    if pool.isTree then
      match clusterVisibility cluster with
      | .error e => return .error e
      | .ok visibility =>
        let vteps ← query (.listClusterVteps cluster.id)
        return .ok (some
          { clusterId := cluster.id, vni := cluster.vni, cidr := cluster.cidr.text
            vtepAddresses := vteps, trustDomain := cluster.trustDomain
            internalClusterVips := (classifyClusterVips cluster visibility pool "").2 })
    else return .ok none

/-- `build_reconcile_command`: the active clusters, then the tree clusters that are not among them, then the
    tombstones. -/
def buildReconcileCommand (hostId : HostId) :
    Handler (Except DbError ReconcileHostCommand) := do
  let memberships ← query (.listActiveHostClusters hostId)
  match ← mapEach memberships (carriedState settings) with
  | .error e => return .error e
  | .ok carried =>
    let clusters ← query .listClusters
    match ← mapEach (clusters.filter fun c => c.id ∉ memberships.map (·.cluster.id)) (ghostState settings) with
    | .error e => return .error e
    | .ok ghosts =>
      let clusterTombstones ← query (.listPendingClusterTombstones hostId)
      let vmTombstones ← query (.listPendingVmTombstones hostId)
      return .ok { clusters := carried ++ ghosts.reduceOption, clusterTombstones, vmTombstones }

def pushReconcile (hostId : HostId) : Handler Unit := do
  match ← buildReconcileCommand settings hostId with
  | .error _ => return ()
  | .ok cmd =>
    match ← mem (.agentsGet hostId) with
    | some agent =>
      let _ ← mem (.send agent.channel (.reconcileHost cmd))
      return ()
    | none => return ()

def broadcastCluster (clusterId : ClusterId) : Handler Unit := do
  let hosts ← query (.listHostsInCluster clusterId)
  forEach hosts (pushReconcile settings)

/-- `cleanup_failed_vm`. The addresses go at once, although the row stays until its tombstone is acked. -/
def cleanupFailedVm (vmId : VmId) (clusterId : ClusterId) (hostId : HostId) : Handler Unit := do
  let _ ← write (.markVmPendingTeardown vmId)
  let _ ← write (.releaseVmIps vmId)
  let _ ← write (.markHostClusterPendingTeardown clusterId hostId)
  pushReconcile settings hostId

/-- `initiate_vm_teardown`. -/
def initiateVmTeardown (vm : VmRow) : Handler (Except Status Unit) := do
  match ← write (.markVmPendingTeardown vm.id) with
  | .error e => return .error (dbStatus e)
  | .ok () =>
    match ← write (.markHostClusterPendingTeardown vm.clusterId vm.hostId) with
    | .error e => return .error (dbStatus e)
    | .ok () =>
      pushReconcile settings vm.hostId
      return .ok ()

/-! ## Inventory reconciliation -/

/-- Is a reported VM one that the database does not place on this host? -/
def isOrphanVm (hostId : HostId) (vmId : VmId) : Handler Bool := do
  match ← query (.getVm vmId) with
  | .ok row => return row.hostId ≠ hostId
  | .error _ => return true

/-- `extend_with_orphan_tombstones`. -/
def extendWithOrphanTombstones (hostId : HostId) (inventory : HostInventory)
    (cmd : ReconcileHostCommand) : Handler ReconcileHostCommand := do
  let orphanVmIds ← filterEach (inventory.vmIds.filter fun v => v ∉ cmd.vmTombstones) (isOrphanVm hostId)
  let active ← query (.listActiveHostClusters hostId)
  let pending ← query (.listPendingClusterTombstones hostId)
  let tracked := active.map (·.cluster.vni) ++ pending.map (·.vni)
  let orphanClusters := inventory.clusters.filter fun c =>
    c.vni ∉ tracked ∧ c.vni ∉ cmd.clusterTombstones.map (·.vni)
  if settings.autoReconcileOrphanInventory then
    return { cmd with
             clusterTombstones := cmd.clusterTombstones ++ orphanClusters.map fun c => ⟨c.vni, "", c.cidr⟩
             vmTombstones := cmd.vmTombstones ++ orphanVmIds }
  else return cmd

/-- `reap_db_orphans_from_inventory`. -/
def reapDbOrphansFromInventory (hostId : HostId) (inventory : HostInventory) :
    Handler (Except DbError Unit) := do
  let vms ← query (.listVmsOnHost hostId)
  let missing := vms.filter fun v => v.id ∉ inventory.vmIds
  let liveOrphans := missing.filter fun v => v.state = .pending ∨ v.state = .creating ∨ v.state = .running
  let pendingVmOrphans := (missing.filter fun v => v.state = .pendingTeardown).map (·.id)
  let pending ← query (.listPendingClusterTombstones hostId)
  let pendingClusterOrphans := (pending.map (·.vni)).filter fun vni => vni ∉ inventory.clusters.map (·.vni)
  if settings.autoReconcileOrphanInventory then
    forEach liveOrphans fun vm => cleanupFailedVm settings vm.id vm.clusterId hostId
    if pendingVmOrphans ≠ [] ∨ pendingClusterOrphans ≠ [] then
      write (.ackTombstones hostId pendingClusterOrphans pendingVmOrphans)
    else return .ok ()
  else return .ok ()

/-! ## `create_machine` -/

structure Placement where
  vm : VmRow
  gpuAssignments : List GpuAssignment
  diskPlacements : List DiskPlacement
  deriving DecidableEq, Repr

inductive PlaceError where
  | raced (hostId : HostId)
  | hostGone (hostId : HostId)
  | noCapacity (status : Status)
  | nameConflict
  | internal (status : Status)
  deriving DecidableEq, Repr

/-- `GpuAssignment::from_scheduler_pick`. -/
def GpuAssignment.fromSchedulerPick (vmId : VmId) (hostId : HostId) (info : GpuInfo) : GpuAssignment where
  vmId := vmId
  hostId := hostId
  pciAddress := info.pciAddress
  model := info.model
  iommuGroup := info.iommuGroup
  nvlinkGroup := info.nvlinkGroup

/-- The GPUs of a placed VM. -/
abbrev ScheduleDecision.gpuAssignments (decision : ScheduleDecision) (vmId : VmId) : List GpuAssignment :=
  decision.gpus.map (GpuAssignment.fromSchedulerPick vmId decision.hostId)

/-- The `storage_disks` entry of a placed disk. -/
def DiskPlacement.entry (vmId : VmId) (p : DiskPlacement) : DiskEntry where
  diskIndex := some p.diskIndex
  minSizeGib := some p.minSizeGib
  purpose := some p.purpose.asDbStr
  pool := some p.pool
  deviceId := some p.deviceId
  assignmentId := some s!"{vmId}-{p.diskIndex}"

/-- The row `try_place_vm` commits. -/
def placedRow (req : CreateMachineRequest) (vmId : VmId) (decision : ScheduleDecision) (ip : Ipv4Addr) :
    VmRow where
  id := vmId
  name := req.name
  clusterId := req.clusterId
  hostId := decision.hostId
  ipAddress := ip
  state := .creating
  cpu := req.cpu
  memoryMib := req.memoryMib
  diskGib := req.diskGib
  storageDisks := decision.disks.map (DiskPlacement.entry vmId)
  image := req.image

/-- How `try_place_vm` classifies a failed `insert_vm`. -/
def classifyInsertError : DbError → PlaceError
  | .capacityRaced host => .raced host
  | .hostUnavailable host => .hostGone host
  | .conflict _ => .nameConflict
  | other => .internal (dbStatus other)

/-- `try_place_vm`, for the scheduler's answer `pick`. -/
def tryPlaceVm (req : CreateMachineRequest) (vmId : VmId) (cluster : ClusterRow)
    (pick : Except Status ScheduleDecision) : Handler (Except PlaceError Placement) := do
  match pick with
  | .error status =>
    return .error (if status.code = .resourceExhausted then .noCapacity status else .internal status)
  | .ok decision =>
    match ← write (.allocateClusterVmIp cluster vmId) with
    | .error e => return .error (.internal (dbStatus e))
    | .ok ip =>
      let vm := placedRow req vmId decision ip
      let gpuAssignments := decision.gpuAssignments vmId
      match ← write (.insertVm vm gpuAssignments decision.disks) with
      | .ok () => return .ok ⟨vm, gpuAssignments, decision.disks⟩
      | .error e =>
        let _ ← write (.releaseVmIps vmId)
        return .error (classifyInsertError e)

/-- `vm_to_create_response`. -/
def vmToCreateResponse (vm : VmRow) : CreateMachineResponse where
  id := vm.id
  providerId := s!"basis://{vm.id}"
  ipAddress := vm.ipAddress
  host := vm.hostId

def maxScheduleAttempts : Nat := 5

/-- What the scheduler answers in each attempt. -/
abbrev Picks := Nat → Except Status ScheduleDecision

/-- The retry loop of `create_machine`; `.error` is an early return of the handler. -/
def placeVm (req : CreateMachineRequest) (vmId : VmId) (cluster : ClusterRow)
    (picks : Picks) :
    (attemptsLeft : Nat) → Handler (Except (Except Status Reply) Placement)
  | 0 => return .error (.error ⟨.unavailable, "scheduler contention — retry"⟩)
  | n + 1 => do
    match ← tryPlaceVm req vmId cluster (picks (maxScheduleAttempts - n)) with
    | .ok placement => return .ok placement
    | .error (.raced _) => placeVm req vmId cluster picks n
    | .error (.hostGone _) => placeVm req vmId cluster picks n
    | .error (.noCapacity status) => return .error (.error status)
    | .error .nameConflict =>
      match ← query (.getVmByName req.clusterId req.name) with
      | some existing => return .error (.ok (.machine (vmToCreateResponse existing)))
      | none => return .error (.error ⟨.internal,
          s!"vm '{req.clusterId}/{req.name}' insert rejected as duplicate but row not found"⟩)
    | .error (.internal status) => return .error (.error status)

/-- The purpose check at the head of `create_machine`: the first disk that fails it. -/
def checkPurposes : Nat → List StorageDisk → Option Status
  | _, [] => none
  | idx, d :: ds =>
    match DiskPurpose.tryFrom d.purpose with
    | none => some ⟨.invalidArgument,
        s!"storage_disks[{idx}].purpose = {d.purpose}: not a valid DiskPurpose enum value"⟩
    | some .unspecified => some ⟨.invalidArgument,
        s!"storage_disks[{idx}].purpose is DISK_PURPOSE_UNSPECIFIED — the CAPI defaulting webhook must "
          ++ "resolve this to REPLICATED or GENERIC_DATA before the request reaches the controller"⟩
    | some _ => checkPurposes (idx + 1) ds

def createVmCommand (req : CreateMachineRequest) (cluster : ClusterRow)
    (placement : Placement) (gateway : Ipv4Addr) : CreateVmCommand where
  vmId := placement.vm.id
  name := req.name
  cpu := req.cpu
  memoryMib := req.memoryMib
  diskGib := req.diskGib
  image := req.image
  bootstrapData := req.bootstrapData
  ipAddress := placement.vm.ipAddress
  gateway := gateway
  prefixLen := cluster.prefixLen
  gpus := req.gpus
  dnsServers := settings.dnsServers
  gpuPciAddresses := placement.gpuAssignments.map (·.pciAddress)
  storageDisks := placement.diskPlacements.map fun p =>
    { assignmentId := s!"{placement.vm.id}-{p.diskIndex}", minSizeGib := p.minSizeGib, pool := p.pool
      deviceId := p.deviceId, diskIndex := p.diskIndex, clusterId := req.clusterId
      purpose := p.purpose.toI32 }
  vni := cluster.vni
  clusterId := req.clusterId

/-- `create_machine` from the wait for the agent on. -/
def awaitAgent (vm : VmRow) (clusterId : ClusterId) : Handler (Except Status Reply) := do
  match ← mem (.awaitOutcome vm.id) with
  | .resolved (.ok ()) =>
    match ← query (.getVm vm.id) with
    | .ok row => return .ok (.machine (vmToCreateResponse row))
    | .error e => return .error (dbStatus e)
  | .resolved (.error failure) =>
    cleanupFailedVm settings vm.id clusterId vm.hostId
    if failure.transient then return .error ⟨.unavailable, s!"agent busy, retry: {failure.message}"⟩
    else return .error ⟨.internal, s!"VM creation failed: {failure.message}"⟩
  | .recvError =>
    cleanupFailedVm settings vm.id clusterId vm.hostId
    return .error ⟨.internal, "agent disconnected during VM creation"⟩
  | .elapsed =>
    let _ ← mem (.pendingOpsRemove vm.id)
    let _ ← write (.updateVmState vm.id .failed "VM creation timed out (600s)")
    return .error ⟨.deadlineExceeded, "VM creation timed out (600s)"⟩

/-- `create_machine` from the registration of the waiter on: outbox first, then the channel. -/
def dispatchVm (req : CreateMachineRequest) (cluster : ClusterRow)
    (placement : Placement) (gateway : Ipv4Addr) (agent : ConnectedAgent) :
    Handler (Except Status Reply) := do
  let vm := placement.vm
  let cmd := ControllerCommand.createVm (createVmCommand settings req cluster placement gateway)
  let _ ← mem (.pendingOpsInsert vm.id vm.hostId)
  match ← write (.enqueuePendingCommand vm.hostId vm.id cmd) with
  | .error e =>
    let _ ← mem (.pendingOpsRemove vm.id)
    cleanupFailedVm settings vm.id cluster.id vm.hostId
    return .error (dbStatus e)
  | .ok outboxId =>
    if ← mem (.send agent.channel cmd) then
      let _ ← write (.markCommandSent outboxId)
      awaitAgent settings vm cluster.id
    else
      let _ ← mem (.pendingOpsRemove vm.id)
      cleanupFailedVm settings vm.id cluster.id vm.hostId
      return .error ⟨.unavailable, "agent stream closed"⟩

/-- `create_machine` once the row is in. -/
def finishCreate (req : CreateMachineRequest) (cluster : ClusterRow)
    (placement : Placement) : Handler (Except Status Reply) := do
  let vm := placement.vm
  match ← write (.ensureHostClusterActive cluster vm.hostId) with
  | .error e =>
    cleanupFailedVm settings vm.id cluster.id vm.hostId
    return .error (dbStatus e)
  | .ok gateway =>
    broadcastCluster settings cluster.id
    match ← mem (.agentsGet vm.hostId) with
    | none =>
      cleanupFailedVm settings vm.id cluster.id vm.hostId
      return .error ⟨.unavailable, s!"agent for host '{vm.hostId}' not connected"⟩
    | some agent => dispatchVm settings req cluster placement gateway agent

def createMachine (req : CreateMachineRequest) (vmId : VmId)
    (picks : Picks) : Handler (Except Status Reply) := do
  match checkPurposes 0 req.storageDisks with
  | some status => return .error status
  | none =>
    match ← query (.getCluster req.clusterId) with
    | .error e => return .error (dbStatus e)
    | .ok cluster =>
      match ← query (.getVmByName req.clusterId req.name) with
      | some existing => return .ok (.machine (vmToCreateResponse existing))
      | none =>
        match ← placeVm req vmId cluster picks maxScheduleAttempts with
        | .error early => return early
        | .ok placement => finishCreate settings req cluster placement

def deleteMachine (vmId : VmId) : Handler (Except Status Reply) := do
  match ← query (.getVm vmId) with
  | .error (.notFound _) => return .ok .deleted
  | .error e => return .error (dbStatus e)
  | .ok vm =>
    if vm.state ≠ .pendingTeardown then
      match ← initiateVmTeardown settings vm with
      | .error status => return .error status
      | .ok () => return .ok .deleted
    else
      pushReconcile settings vm.hostId
      return .ok .deleted

/-! ## Clusters -/

/-- `resolve_pool`. -/
def resolvePool (network : NetworkConfig) (name : String) : Except Status Pool :=
  if name = "" then .error ⟨.invalidArgument,
    "externalIpPool is required (the LB Service block always comes from a named pool)"⟩
  else match network.poolByName name with
    | some pool => .ok pool
    | none => .error ⟨.invalidArgument, s!"pool '{name}' is not defined in the controller's network.pools"⟩

/-- `allocate_apiserver_vip`. -/
def allocateApiserverVip (visibility : ApiserverVisibility) (pool : Pool) (network : ClusterNetwork)
    (clusterId : ClusterId) : Handler (Except DbError Ipv4Addr) := do
  match visibility with
  | .apiserverPublic => write (.allocatePoolVip pool clusterId)
  | .apiserverPrivate =>
    match ← write (.reserveSpecificIp s!"cluster:{clusterId}" network.privateApiserverIp (.cluster clusterId)) with
    | .error e => return .error e
    | .ok () => return .ok network.privateApiserverIp

/-- The handler's `allocate_service_block`: no block for a count of zero. -/
def allocateServiceBlock (pool : Pool) (clusterId : ClusterId) (count : Nat) :
    Handler (Except DbError (Option Ipv4Net)) := do
  if count = 0 then return .ok none
  else
    match ← write (.allocateServiceBlock pool.name (ParsedRange.parsePoolRange pool) clusterId count) with
    | .error e => return .error e
    | .ok block => return .ok (some block)

/-- `ClusterRow::from_network`. -/
def ClusterRow.fromNetwork (id : ClusterId) (req : CreateClusterRequest) (endpoint : Ipv4Addr)
    (serviceBlock : Option Ipv4Net) (network : ClusterNetwork) : ClusterRow where
  id := id
  name := req.name
  vni := network.vni
  cidr := network.cidr
  bridgeRange := ⟨network.bridgeStart, network.bridgeEnd⟩
  vmRange := ⟨network.vmStart, network.vmEnd⟩
  prefixLen := network.prefixLen
  controlPlaneEndpoint := endpoint
  apiserverVisibility := req.apiserverVisibility
  externalPool := req.externalIpPool
  serviceBlockCidr := serviceBlock
  trustDomain := req.trustDomain

/-- `create_cluster_response`. -/
def createClusterResponse (c : ClusterRow) (bgp : BgpConfig) : CreateClusterResponse where
  clusterId := c.id
  controlPlaneEndpoint := c.controlPlaneEndpoint
  vni := c.vni
  cidr := c.cidr
  serviceBlockCidr := c.serviceBlockCidr
  bgpReflectorAddress := bgp.routerId
  bgpAsn := bgp.asn

/-- The end of one round of the allocation loop: a result of the handler, or another round. -/
def commitCluster (req : CreateClusterRequest) (row : ClusterRow) :
    Handler (Option (Except Status Reply)) := do
  match ← write (.insertCluster row) with
  | .ok () => return some (.ok (.cluster (createClusterResponse row settings.bgp)))
  | .error (.conflict _) =>
    let _ ← write (.releaseClusterIps row.id)
    match ← query (.getClusterByName req.name) with
    | some existing => return some (.ok (.cluster (createClusterResponse existing settings.bgp)))
    | none => return some (.error ⟨.internal,
        s!"cluster '{req.name}' insert rejected as name duplicate but row not found"⟩)
  | .error (.allocationRaced _) =>
    let _ ← write (.releaseClusterIps row.id)
    return none
  | .error other =>
    let _ ← write (.releaseClusterIps row.id)
    return some (.error (dbStatus other))

/-- One round of the allocation loop of `create_cluster`. -/
def provisionCluster (req : CreateClusterRequest) (visibility : ApiserverVisibility)
    (pool : Pool) (serviceCount : Nat) (clusterId : ClusterId) :
    Handler (Option (Except Status Reply)) := do
  match ← query (.allocateClusterNetwork settings.network) with
  | .error e => return some (.error (dbStatus e))
  | .ok network =>
    match ← allocateApiserverVip visibility pool network clusterId with
    | .error e =>
      let _ ← write (.releaseClusterIps clusterId)
      return some (.error (dbStatus e))
    | .ok endpoint =>
      match ← allocateServiceBlock pool clusterId serviceCount with
      | .error e =>
        let _ ← write (.releaseClusterIps clusterId)
        return some (.error (dbStatus e))
      | .ok serviceBlock =>
        commitCluster settings req (ClusterRow.fromNetwork clusterId req endpoint serviceBlock network)

def maxAllocationAttempts : Nat := 8

/-- The identifiers that the rounds of `create_cluster` draw. -/
abbrev RoundIds := Fin maxAllocationAttempts → ClusterId

/-- The allocation loop of `create_cluster`, over the identifiers it mints. -/
def provisionLoop (settings : Settings) (req : CreateClusterRequest) (visibility : ApiserverVisibility)
    (pool : Pool) (serviceCount : Nat) : List ClusterId → Handler (Except Status Reply)
  | [] => return .error ⟨.resourceExhausted,
      s!"CreateCluster '{req.name}' lost VNI/CIDR allocation race {maxAllocationAttempts} times in a row — "
        ++ "cluster supernet may be saturated or under sustained concurrent create load"⟩
  | id :: ids => do
    match ← provisionCluster settings req visibility pool serviceCount id with
    | some result => return result
    | none => provisionLoop settings req visibility pool serviceCount ids

/-- `create_cluster` for a name that is taken: refresh a drifted trust domain, return the row. -/
def returnExistingCluster (req : CreateClusterRequest) (existing : ClusterRow) :
    Handler (Except Status Reply) := do
  if req.trustDomain ≠ "" ∧ req.trustDomain ≠ existing.trustDomain then
    match ← write (.updateClusterTrustDomain existing.id req.trustDomain) with
    | .error e => return .error (dbStatus e)
    | .ok () =>
      broadcastCluster settings existing.id
      return .ok (.cluster (createClusterResponse { existing with trustDomain := req.trustDomain } settings.bgp))
  else return .ok (.cluster (createClusterResponse existing settings.bgp))

/-- The size of the service block: the cell's default where the request leaves it open. -/
def CreateClusterRequest.serviceCount (req : CreateClusterRequest) (network : NetworkConfig) : Nat :=
  if req.externalServiceIps = 0 then network.defaultExternalServiceIps else req.externalServiceIps

def createCluster (req : CreateClusterRequest)
    (ids : RoundIds) : Handler (Except Status Reply) := do
  match ApiserverVisibility.tryFrom req.apiserverVisibility with
  | none => return .error ⟨.invalidArgument, s!"unknown apiserver_visibility {req.apiserverVisibility}"⟩
  | some visibility =>
    if req.name = "" then return .error ⟨.invalidArgument, "name is required"⟩
    else
      let serviceCount := req.serviceCount settings.network
      if ¬serviceCount.isPowerOfTwo then
        return .error ⟨.invalidArgument, s!"externalServiceIps {serviceCount} must be a power of two"⟩
      else
        match resolvePool settings.network req.externalIpPool with
        | .error status => return .error status
        | .ok pool =>
          match ← query (.getClusterByName req.name) with
          | some existing => returnExistingCluster settings req existing
          | none => provisionLoop settings req visibility pool serviceCount (List.ofFn ids)

def deleteCluster (clusterId : ClusterId) : Handler (Except Status Reply) := do
  match ← query (.getCluster clusterId) with
  | .error (.notFound _) => return .ok .deleted
  | .error e => return .error (dbStatus e)
  | .ok _ =>
    let vms ← query (.listVms clusterId)
    forEach vms fun vm => do
      let _ ← write (.markVmPendingTeardown vm.id)
      return ()
    match ← write (.markClusterPendingTeardownAllHosts clusterId) with
    | .error e => return .error (dbStatus e)
    | .ok affectedHosts =>
      forEach affectedHosts (pushReconcile settings)
      return .ok .deleted

/-! ## Agent streams -/

/-- The `hosts` row of a registration. -/
def registeredHost (register : RegisterHostRequest) (hostId : HostId) (now : Nat) : HostRow :=
  let capacity := (register.storageCapacity.map StorageCapacityBytes.fromProto).getD {}
  { id := hostId
    hostname := register.hostname
    totalCpu := register.totalCpu
    totalMemoryMib := asI64 register.totalMemoryMib
    rootfsTotalBytes := capacity.rootfsTotalBytes
    rootfsFreeBytes := capacity.rootfsFreeBytes
    rootfsMetadataTotalBytes := capacity.rootfsMetadataTotalBytes
    rootfsMetadataFreeBytes := capacity.rootfsMetadataFreeBytes
    dataTotalBytes := capacity.dataTotalBytes
    dataFreeBytes := capacity.dataFreeBytes
    gpuInventory := register.gpus
    vtepAddress := register.vtepAddress
    lastHeartbeat := now
    healthy := true
    rank := register.rank
    labels := register.labels }

/-- `register_or_lookup_host`. -/
def registerOrLookupHost (register : RegisterHostRequest) (newId : HostId) (now : Nat) :
    Handler (Except DbError HostId) := do
  let existing ← query (.getHostByHostname register.hostname)
  let hostId := (existing.map (·.id)).getD newId
  match ← write (.upsertHost (registeredHost register hostId now)) with
  | .error e => return .error e
  | .ok () => return .ok hostId

/-- The initial reconcile of a registration, with the reported inventory diffed in both directions. -/
def initialState (register : RegisterHostRequest) (hostId : HostId) :
    Handler (Except DbError ReconcileHostCommand) := do
  match ← buildReconcileCommand settings hostId with
  | .error e => return .error e
  | .ok cmd =>
    match register.currentInventory with
    | none => return .ok cmd
    | some inventory =>
      let _ ← extendWithOrphanTombstones settings hostId inventory cmd
      match ← reapDbOrphansFromInventory settings hostId inventory with
      | .error e => return .error e
      | .ok () =>
        match ← buildReconcileCommand settings hostId with
        | .error e => return .error e
        | .ok cmd =>
          let cmd ← extendWithOrphanTombstones settings hostId inventory cmd
          return .ok cmd

/-- The outbox replay: stop at the first command the stream does not take. -/
def replayOutbox (channel : Nat) : List (Nat × ControllerCommand) → Handler Unit
  | [] => return ()
  | (id, cmd) :: rest => do
    if ← mem (.send channel cmd) then
      let _ ← write (.markCommandSent id)
      replayOutbox channel rest
    else return ()

/-- `stream_messages` up to its return; what the stream does afterwards are activities of their own. -/
def streamMessages (register : RegisterHostRequest) (newHostId : HostId) (now : Nat) :
    Handler (Except Status Reply) := do
  match ← registerOrLookupHost register newHostId now with
  | .error e => return .error ⟨.internal, e.text⟩
  | .ok hostId =>
    let channel ← mem .channelOpen
    match ← initialState settings register hostId with
    | .error e => return .error ⟨.internal, e.text⟩
    | .ok cmd =>
      if ← mem (.send channel (.registerAck hostId cmd settings.bgp.asn settings.bgp.routerId)) then
        let epoch ← mem .nextAgentEpoch
        let _ ← mem (.agentsInsert hostId ⟨channel, epoch⟩)
        let pending ← query (.listPendingCommands hostId)
        replayOutbox channel pending
        return .ok (.stream hostId channel)
      else return .error ⟨.internal, "failed to send registration ack"⟩

/-- One tick of a stream's periodic reconcile. -/
def reconcileTick (hostId : HostId) (channel : Nat) : Handler (Except Status Reply) := do
  match ← buildReconcileCommand settings hostId with
  | .error _ => return .ok .handled
  | .ok cmd =>
    let _ ← mem (.send channel (.reconcileHost cmd))
    return .ok .handled

/-- The end of a stream: `release_agent_stream`. -/
def releaseAgentStream (hostId : HostId) (epoch : Nat) : Handler (Except Status Reply) := do
  if ← mem (.agentsRemoveIf hostId epoch) then
    let stale ← mem (.pendingOpsOf hostId)
    forEach stale fun vmId => mem (.pendingOpsRemove vmId)
    return .ok .handled
  else return .ok .handled

/-- A terminal report: wake the waiter, unless it waits for another host, and drop the outbox rows. -/
def resolveReport (hostId : HostId) (report : ReportVmStateRequest) (state : MachineState) : Handler Unit := do
  let waiting ← mem (.pendingOpsGet report.vmId)
  if waiting.any fun h => h ≠ hostId then return ()
  else
    let result := if state = .failed then .error ⟨report.errorMessage, report.transient⟩ else .ok ()
    let _ ← mem (.pendingOpsResolve report.vmId result)
    let _ ← write (.ackPendingCommandsForVm report.vmId)
    return ()

/-- The `VmState` arm of `handle_agent_message`. The state check and the write are separate calls. -/
def handleVmState (hostId : HostId) (report : ReportVmStateRequest) : Handler (Except DbError Unit) := do
  let state := MachineState.ofI32 report.state
  match ← query (.getVm report.vmId) with
  | .error (.notFound _) => return .ok ()
  | .error e => return .error e
  | .ok prev =>
    if prev.hostId ≠ hostId then return .ok ()
    else
      let updated ← if prev.state ≠ .pendingTeardown
        then write (.updateVmState report.vmId state report.errorMessage)
        else pure (.ok ())
      match updated with
      | .error e => return .error e
      | .ok () =>
        if state = .running ∨ state = .failed then
          resolveReport hostId report state
          return .ok ()
        else return .ok ()

/-- What is left of it once the state is written: only terminal states are resolved. -/
def settleReport (hostId : HostId) (report : ReportVmStateRequest) : Handler (Except DbError Unit) :=
  if MachineState.ofI32 report.state = .running ∨ MachineState.ofI32 report.state = .failed then do
    resolveReport hostId report (MachineState.ofI32 report.state)
    return .ok ()
  else return .ok ()

def handleAgentMessage (hostId : HostId) (msg : AgentMessage) (now : Nat) : Handler (Except DbError Unit) := do
  match msg with
  | .heartbeat storageCapacity =>
    let capacity := (storageCapacity.map StorageCapacityBytes.fromProto).getD {}
    let pools := (storageCapacity.map (·.pools)).getD []
    write (.recordHeartbeat hostId now capacity pools)
  | .vmState report => handleVmState hostId report
  | .tombstoneAck clusterVnis vmIds =>
    let _ ← write (.ackTombstones hostId clusterVnis vmIds)
    return .ok ()
  | .diskAssignment (some assignment) =>
    let _ ← write (.commitDiskAssignment hostId assignment)
    return .ok ()
  | .diskAssignment none => return .ok ()
  | .register _ => return .ok ()
  | .empty => return .ok ()

/-- `HOST_STALE_VM_REASON`. -/
def hostStaleVmReason : String := "host heartbeat stale — VM presumed lost, replace via CAPI reconcile"

/-- One tick of `host_health_checker`. -/
def hostHealthTick (cutoff : Nat) : Handler (Except Status Reply) := do
  match ← write (.markStaleHostsUnhealthy cutoff) with
  | .error _ => return .ok .handled
  | .ok stale =>
    forEach stale fun hostId => do
      let _ ← write (.markVmsFailedOnHost hostId hostStaleVmReason)
      return ()
    return .ok .handled

end BasisCell
