import BasisCell.Controller.Rows

/-!
# `BasisCell.Controller.Db` — the methods of `db.rs`

Every method of the controller's `Db` that a modelled handler calls, as a function of the database. A
method is one SQLite transaction (or one statement), so it is one function: `.error` is the rolled-back
transaction, which leaves nothing behind, `.ok` carries the committed database. Reads are plain functions.

`SUM`s are exact integers. The sizes Rust narrows before it binds them are narrowed here too.
-/

namespace BasisCell

open Relational

/-- One gibibyte in bytes. -/
def gib : Int := 2 ^ 30

/-- One per-disk placement decision of the scheduler. -/
structure DiskPlacement where
  diskIndex : Nat
  pool : String
  deviceId : String
  minSizeGib : Nat
  purpose : DiskPurpose
  deriving DecidableEq, Repr

/-- Network identity of a fresh cluster. -/
structure ClusterNetwork where
  vni : Nat
  cidr : Ipv4Net
  prefixLen : Nat
  bridgeStart : Ipv4Addr
  bridgeEnd : Ipv4Addr
  vmStart : Ipv4Addr
  vmEnd : Ipv4Addr
  deriving DecidableEq, Repr

/-- `ClusterNetwork::carve`. -/
def ClusterNetwork.carve (vni : Nat) (cidr : Ipv4Net) (prefixLen bridgeReserve : Nat) : ClusterNetwork where
  vni := vni
  cidr := cidr
  prefixLen := prefixLen
  bridgeStart := cidr.network + 1
  bridgeEnd := cidr.network + bridgeReserve
  vmStart := cidr.network + bridgeReserve + 1
  vmEnd := cidr.broadcast - 1

def ClusterNetwork.privateApiserverIp (n : ClusterNetwork) : Ipv4Addr := n.cidr.broadcast - 1

namespace Db

variable (db : Db)

/-! ## Addresses -/

/-- The rows of `candidate(n)`: the base case is there even when the range is empty. -/
def candidates (range : ParsedRange) : List Ipv4Addr :=
  List.range' range.start (max 1 (range.stop + 1 - range.start))

/-- Is `n` held in `scope`, or some host's underlay address? -/
def addressTaken (scope : String) (n : Ipv4Addr) : Bool :=
  (db.ipAllocations.rows.any fun a => a.scope = scope ∧ a.ipAddress = n) ||
    db.hosts.rows.any fun h => h.vtepAddress ≠ "" ∧ h.vtepAddress = n.text

/-- `allocate_from_range`. The primary key spans scopes, so an address another scope holds is not skipped
    by the search and fails the insert. -/
def allocateFromRange (scope : String) (range : ParsedRange) (owner : IpOwner) :
    Except DbError (Db × Ipv4Addr) :=
  match (candidates range).find? fun n => !db.addressTaken scope n with
  | none => .error (.exhausted
      s!"no available IPs in scope '{scope}' sub-range [{range.start.text}..={range.stop.text}]")
  | some n =>
    match db.ipAllocations.insert ⟨n, scope, owner⟩ with
    | none => .error (.sqlx (.uniqueViolation "ip_allocations.ip_address"))
    | some t => .ok ({ db with ipAllocations := t }, n)

def allocatePoolVip (pool : Pool) (clusterId : ClusterId) : Except DbError (Db × Ipv4Addr) :=
  db.allocateFromRange pool.name (ParsedRange.parsePoolRange pool) (.cluster clusterId)

def allocateClusterVmIp (cluster : ClusterRow) (vmId : VmId) : Except DbError (Db × Ipv4Addr) :=
  db.allocateFromRange s!"cluster:{cluster.id}" cluster.vmRange (.vm vmId)

def reserveSpecificIp (scope : String) (ip : Ipv4Addr) (owner : IpOwner) : Except DbError Db :=
  match db.ipAllocations.insert ⟨ip, scope, owner⟩ with
  | none => .error (.conflict s!"ip {ip.text} already allocated in scope '{scope}'")
  | some t => .ok { db with ipAllocations := t }

/-- The search loop of `allocate_service_block`; the error says whether it ran off the address space. -/
def findBlock (used : Ipv4Addr → Bool) (stop count : Nat) : Nat → Nat → Except Bool Ipv4Addr
  | 0, _ => .error false
  | fuel + 1, start =>
    if start + (count - 1) < 2 ^ 32 ∧ start + (count - 1) ≤ stop then
      if (List.range' start count).all fun n => !used n then .ok start
      else if start + count < 2 ^ 32 then findBlock used stop count fuel (start + count)
      else .error true
    else .error false

/-- Insert the addresses of a block, one row each. -/
def reserveBlock (t : Table IpAllocation) (scope : String) (owner : IpOwner) :
    List Ipv4Addr → Option (Table IpAllocation)
  | [] => some t
  | n :: ns => (t.insert ⟨n, scope, owner⟩).bind fun t' => reserveBlock t' scope owner ns

def allocateServiceBlock (scope : String) (range : ParsedRange) (clusterId : ClusterId)
    (count : Nat) : Except DbError (Db × Ipv4Net) :=
  if count.isPowerOfTwo then
    let prefixLen := 32 - Nat.log2 count
    let start := (range.start + (count - 1)) % 2 ^ 32 / count * count
    match findBlock (db.addressTaken scope) range.stop count (range.stop + 1) start with
    | .error wrapped => .error (.exhausted (if wrapped
        then s!"no aligned /{prefixLen} block free in scope '{scope}'"
        else s!"no aligned /{prefixLen} block free in scope '{scope}' "
          ++ s!"range [{range.start.text}..={range.stop.text}]"))
    | .ok block =>
      match reserveBlock db.ipAllocations scope (.cluster clusterId) (List.range' block count) with
      | none => .error (.sqlx (.uniqueViolation "ip_allocations.ip_address"))
      | some t => .ok ({ db with ipAllocations := t }, ⟨block, prefixLen⟩)
  else .error (.malformed s!"service block count {count} must be a power of two")

def releaseVmIps (vmId : VmId) : Db :=
  { db with ipAllocations := db.ipAllocations.delete fun a => a.owner = .vm vmId }

def releaseClusterIps (clusterId : ClusterId) : Db :=
  { db with ipAllocations := db.ipAllocations.delete fun a => a.owner = .cluster clusterId }

/-! ## Clusters -/

def getCluster (id : ClusterId) : Except DbError ClusterRow :=
  match db.clusters.find fun c => c.id = id with
  | some c => .ok c
  | none => .error (.notFound s!"cluster '{id}'")

def getClusterByName (name : String) : Option ClusterRow := db.clusters.find fun c => c.name = name

/-- `Ipv4Net::subnets`, for a prefix that is not shorter than the network's own. -/
def subnets (net : Ipv4Net) (prefixLen : Nat) : List Ipv4Net :=
  (List.range (2 ^ (prefixLen - net.prefixLen))).map fun i => ⟨net.network + i * 2 ^ (32 - prefixLen), prefixLen⟩

/-- `allocate_cluster_network`: picks, but does not reserve. -/
def allocateClusterNetwork (net : NetworkConfig) : Except DbError ClusterNetwork :=
  match (List.range' net.vniStart (net.vniEnd + 1 - net.vniStart)).find?
      fun v => !db.clusters.rows.any fun c => c.vni = v with
  | none => .error (.exhausted s!"VNI range [{net.vniStart}, {net.vniEnd}] fully allocated")
  | some vni =>
    if net.clusterSupernet.prefixLen ≤ net.clusterPrefix ∧ net.clusterPrefix ≤ 32 then
      match (subnets net.clusterSupernet net.clusterPrefix).find?
          fun c => !db.clusters.rows.any fun u => cidrsOverlap u.cidr c with
      | none => .error (.exhausted
          (s!"cluster supernet {net.clusterSupernet.text} "
            ++ s!"fully carved into /{net.clusterPrefix} slices"))
      | some cidr => .ok (ClusterNetwork.carve vni cidr net.clusterPrefix net.bridgeReserve)
    else .error (.malformed "cluster_prefix: invalid length")

/-- `insert_cluster`. SQLite reports the newest violated index, so a row that clashes on both `vni` and
    `name` counts as a lost allocation race. -/
def insertCluster (cluster : ClusterRow) : Except DbError Db :=
  match db.clusters.insert cluster with
  | some t => .ok { db with clusters := t }
  | none =>
    if db.clusters.rows.any fun c => c.vni = cluster.vni then
      .error (.allocationRaced "UNIQUE constraint failed: clusters.vni")
    else .error (.conflict s!"cluster '{cluster.name}' already exists")

def updateClusterTrustDomain (clusterId : ClusterId) (trustDomain : String) : Db :=
  { db with
    clusters := db.clusters.update (fun c => c.id = clusterId)
      (fun c => { c with trustDomain := trustDomain }) fun _ _ => Iff.rfl }

/-- `ensure_host_cluster_active`: flip the pair's row back to ACTIVE, or insert one with the lowest free
    bridge address. -/
def ensureHostClusterActive (cluster : ClusterRow) (hostId : HostId) :
    Except DbError (Db × Ipv4Addr) :=
  match db.hostClusters.find fun hc => hc.clusterId = cluster.id ∧ hc.hostId = hostId with
  | some hc => .ok ({ db with
      hostClusters := db.hostClusters.update (fun hc => hc.clusterId = cluster.id ∧ hc.hostId = hostId)
        (fun hc => { hc with state := .active }) fun _ _ => Iff.rfl }, hc.ipAddress)
  | none =>
    match (candidates cluster.bridgeRange).find? fun n =>
        !db.hostClusters.rows.any fun hc => hc.clusterId = cluster.id ∧ hc.ipAddress = n with
    | none => .error (.exhausted (s!"cluster {cluster.id} bridge_range "
        ++ s!"[{cluster.bridgeRange.start.text}..={cluster.bridgeRange.stop.text}] fully allocated"))
    | some n =>
      if (db.clusters.rows.any fun c => c.id = cluster.id) && db.hosts.rows.any fun h => h.id = hostId then
        match db.hostClusters.insert ⟨cluster.id, hostId, n, .active⟩ with
        | none => .error (.sqlx (.uniqueViolation "host_clusters.cluster_id, host_clusters.host_id"))
        | some t => .ok ({ db with hostClusters := t }, n)
      else .error (.sqlx .foreignKeyViolation)

/-- `mark_host_cluster_pending_teardown`: only when every VM of the pair is already being torn down. -/
def markHostClusterPendingTeardown (clusterId : ClusterId) (hostId : HostId) : Db :=
  { db with
    hostClusters := db.hostClusters.update
      (fun hc => hc.clusterId = clusterId ∧ hc.hostId = hostId ∧
        !db.vms.rows.any fun v => v.hostId = hostId ∧ v.clusterId = clusterId ∧ v.state ≠ .pendingTeardown)
      (fun hc => { hc with state := .pendingTeardown }) fun _ _ => Iff.rfl }

/-- `mark_cluster_pending_teardown_all_hosts`, returning the hosts it touched. -/
def markClusterPendingTeardownAllHosts (clusterId : ClusterId) : Db × List HostId :=
  ({ db with
      hostClusters := db.hostClusters.update (fun hc => hc.clusterId = clusterId)
        (fun hc => { hc with state := .pendingTeardown }) fun _ _ => Iff.rfl },
    (db.hostClusters.rows.filter fun hc => hc.clusterId = clusterId).map (·.hostId))

def listPendingClusterTombstones (hostId : HostId) : List ClusterTombstone :=
  db.clusters.rows.filterMap fun c =>
    if db.hostClusters.rows.any fun hc =>
        hc.clusterId = c.id ∧ hc.hostId = hostId ∧ hc.state = .pendingTeardown
    then some ⟨c.vni, c.id, c.cidr.text⟩ else none

def listActiveHostClusters (hostId : HostId) : List HostClusterMembership :=
  db.clusters.rows.flatMap fun c =>
    (db.hostClusters.rows.filter fun hc =>
      hc.clusterId = c.id ∧ hc.hostId = hostId ∧ hc.state = .active).map fun hc => ⟨c, hc.ipAddress⟩

def listClusters : List ClusterRow := db.clusters.rows

/-- `list_cluster_vteps`: the underlay addresses of a cluster's active hosts, `SELECT DISTINCT`. -/
def listClusterVteps (clusterId : ClusterId) : List String :=
  (db.hosts.rows.filterMap fun h =>
    if h.vtepAddress ≠ "" ∧ ∃ hc ∈ db.hostClusters.rows,
        hc.clusterId = clusterId ∧ hc.hostId = h.id ∧ hc.state = .active
    then some h.vtepAddress else none).dedup

/-- `list_active_carriers`: the healthy active hosts of a cluster, lowest id first. -/
def listActiveCarriers (clusterId : ClusterId) : List HostId :=
  ((db.hostClusters.rows.filter fun hc => hc.clusterId = clusterId ∧ hc.state = .active ∧
    ∃ h ∈ db.hosts.rows, h.id = hc.hostId ∧ h.healthy = true).map (·.hostId)).insertionSort (· ≤ ·)

/-- The `SELECT` of `elect_lan_vip_owner`. -/
def lanVipOwner (clusterId : ClusterId) : Option HostId :=
  (db.clusterLanVipOwners.find fun o => o.clusterId = clusterId).map (·.hostId)

/-- The `INSERT OR REPLACE` of `elect_lan_vip_owner`. -/
def setLanVipOwner (clusterId : ClusterId) (hostId : HostId) : Except DbError Db :=
  if db.clusters.rows.any fun c => c.id = clusterId then
    match (db.clusterLanVipOwners.delete fun o => o.clusterId = clusterId).insert ⟨clusterId, hostId⟩ with
    | none => .error (.sqlx (.uniqueViolation "cluster_lan_vip_owner.cluster_id"))
    | some t => .ok { db with clusterLanVipOwners := t }
  else .error (.sqlx .foreignKeyViolation)

/-! ## Hosts -/

def getHostByHostname (hostname : String) : Option HostRow :=
  db.hosts.find fun h => h.hostname = hostname

/-- `upsert_host`: a row under the same id is replaced; another host's hostname is a unique violation. -/
def upsertHost (host : HostRow) : Except DbError Db :=
  match (db.hosts.delete fun h => h.id = host.id).insert host with
  | none => .error (.sqlx (.uniqueViolation "hosts.hostname"))
  | some t => .ok { db with hosts := t }

end Db

/-- `StorageCapacityBytes`: the rootfs pool, and the sum over the data pools. -/
structure StorageCapacityBytes where
  rootfsTotalBytes : Int := 0
  rootfsFreeBytes : Int := 0
  rootfsMetadataTotalBytes : Int := 0
  rootfsMetadataFreeBytes : Int := 0
  dataTotalBytes : Int := 0
  dataFreeBytes : Int := 0
  deriving DecidableEq, Repr

/-- `StorageCapacityBytes::from_proto`. -/
def StorageCapacityBytes.fromProto (c : StorageCapacity) : StorageCapacityBytes where
  rootfsTotalBytes := (c.rootfs.map fun p => asI64 p.totalBytes).getD 0
  rootfsFreeBytes := (c.rootfs.map fun p => asI64 p.freeBytes).getD 0
  rootfsMetadataTotalBytes := (c.rootfs.map fun p => asI64 p.metadataTotalBytes).getD 0
  rootfsMetadataFreeBytes := (c.rootfs.map fun p => asI64 p.metadataFreeBytes).getD 0
  dataTotalBytes := asI64 (c.pools.map (·.schedulableTotalBytes)).sum
  dataFreeBytes := asI64 (c.pools.map (·.schedulableFreeBytes)).sum

/-- `physical_health_str`. -/
def physicalHealthStr : Int → String
  | 1 => "Ready"
  | 2 => "Degraded"
  | 3 => "Missing"
  | _ => "Unspecified"

/-- The `UPDATE hosts` of a heartbeat. -/
def HostRow.beat (now : Nat) (capacity : StorageCapacityBytes) (h : HostRow) : HostRow :=
  { h with
    lastHeartbeat := now
    healthy := true
    rootfsTotalBytes := capacity.rootfsTotalBytes
    rootfsFreeBytes := capacity.rootfsFreeBytes
    rootfsMetadataTotalBytes := capacity.rootfsMetadataTotalBytes
    rootfsMetadataFreeBytes := capacity.rootfsMetadataFreeBytes
    dataTotalBytes := capacity.dataTotalBytes
    dataFreeBytes := capacity.dataFreeBytes }

def PoolCapacity.row (hostId : HostId) (p : PoolCapacity) : HostPoolRow where
  hostId := hostId
  pool := p.pool
  backend := p.backend
  labels := p.labels
  configuredTotalBytes := asI64 p.configuredTotalBytes
  readyTotalBytes := asI64 p.readyTotalBytes
  schedulableTotalBytes := asI64 p.schedulableTotalBytes
  schedulableFreeBytes := asI64 p.schedulableFreeBytes

def DeviceCapacity.row (hostId : HostId) (pool : String) (d : DeviceCapacity) : HostPoolDeviceRow where
  hostId := hostId
  pool := pool
  deviceId := d.deviceId
  totalBytes := asI64 d.totalBytes
  freeBytes := asI64 d.freeBytes
  physical := physicalHealthStr d.physical
  physicalReason := d.physicalReason

namespace Db

variable (db : Db)

/-- Insert a list of rows, one statement each. -/
def insertAll {α : Type} [Schema α] (t : Table α) (rows : List α) : Option (Table α) :=
  rows.foldlM (fun t r => t.insert r) t

/-- The inserts of one reported pool: its row, then a row for each of its devices. -/
def recordPool (hostId : HostId) (t : Table HostPoolRow × Table HostPoolDeviceRow) (p : PoolCapacity) :
    Except DbError (Table HostPoolRow × Table HostPoolDeviceRow) :=
  match t.1.insert (p.row hostId) with
  | none => .error (.sqlx (.uniqueViolation "host_pools.host_id, host_pools.pool"))
  | some hostPools =>
    match insertAll t.2 (p.devices.map (·.row hostId p.pool)) with
    | none => .error (.sqlx (.uniqueViolation
        "host_pool_devices.host_id, host_pool_devices.pool, host_pool_devices.device_id"))
    | some hostPoolDevices => .ok (hostPools, hostPoolDevices)

/-- `record_heartbeat`: refresh the host's row, then wipe and replace its pool rows. -/
def recordHeartbeat (hostId : HostId) (now : Nat) (capacity : StorageCapacityBytes)
    (pools : List PoolCapacity) : Except DbError Db :=
  if db.hosts.rows.any fun h => h.id = hostId then
    match pools.foldlM (recordPool hostId)
        (db.hostPools.delete fun p => p.hostId = hostId, db.hostPoolDevices.delete fun d => d.hostId = hostId) with
    | .error e => .error e
    | .ok (hostPools, hostPoolDevices) =>
      .ok { db with
        hosts := db.hosts.update (fun h => h.id = hostId) (HostRow.beat now capacity) fun _ _ => Iff.rfl
        hostPools := hostPools
        hostPoolDevices := hostPoolDevices }
  else .error (.notFound s!"host '{hostId}'")

/-- `mark_stale_hosts_unhealthy`, returning the hosts it flipped. -/
def markStaleHostsUnhealthy (cutoff : Nat) : Db × List HostId :=
  ({ db with
      hosts := db.hosts.update (fun h => h.healthy ∧ h.lastHeartbeat < cutoff)
        (fun h => { h with healthy := false }) fun _ _ => Iff.rfl },
    (db.hosts.rows.filter fun h => h.healthy ∧ h.lastHeartbeat < cutoff).map (·.id))

/-! ## VMs -/

/-- `COALESCE((SELECT SUM(w) FROM vms WHERE host_id = hostId), 0)`. -/
def usedOn (hostId : HostId) (w : VmRow → Int) : Int := db.vms.sum (fun v => v.hostId = hostId) w

/-- The `WHERE EXISTS` gate of `insert_vm`: host `h` is healthy and has room for `vm`. -/
def hasRoom (vm : VmRow) (rootfsBytesRequest dataBytesRequest : Int) (h : HostRow) : Bool :=
  h.id = vm.hostId ∧ h.healthy ∧
  db.effectiveCpu h.totalCpu - db.usedOn h.id (·.cpu) ≥ vm.cpu ∧
  h.totalMemoryMib - db.usedOn h.id (·.memoryMib) ≥ vm.memoryMib ∧
  h.rootfsTotalBytes - db.usedOn h.id (·.diskGib) * gib ≥ rootfsBytesRequest ∧
  h.dataTotalBytes - db.usedOn h.id VmRow.dataGib * gib ≥ dataBytesRequest

/-- The `pool_disk_assignment` row of one placement. -/
def assignmentOf (vm : VmRow) (d : DiskPlacement) : PoolDiskAssignment where
  assignmentId := s!"{vm.id}-{d.diskIndex}"
  hostId := vm.hostId
  pool := d.pool
  deviceId := d.deviceId
  vmId := vm.id
  diskIndex := d.diskIndex
  clusterId := vm.clusterId
  purpose := d.purpose.asDbStr
  minSizeGib := asI64 d.minSizeGib
  actualSizeGib := none
  state := .pending

/-- One `INSERT INTO vm_gpus`. -/
def claimGpu (vms : Table VmRow) (hostId : HostId) (t : Table GpuAssignment) (g : GpuAssignment) :
    Except DbError (Table GpuAssignment) :=
  match t.insert g with
  | none => .error (.capacityRaced hostId)
  | some t' => if vms.rows.any fun v => v.id = g.vmId then .ok t' else .error (.sqlx .foreignKeyViolation)

/-- The inserts of `insert_vm` once the gate let the row through. -/
def commitVm (vm : VmRow) (gpus : List GpuAssignment) (disks : List DiskPlacement) :
    Except DbError Db :=
  match db.vms.insert vm with
  | none => .error (.conflict s!"vm '{vm.name}' already exists in cluster '{vm.clusterId}'")
  | some vms =>
    if db.clusters.rows.any fun c => c.id = vm.clusterId then
      match gpus.foldlM (claimGpu vms vm.hostId) db.vmGpus with
      | .error e => .error e
      | .ok vmGpus =>
        match insertAll db.poolDiskAssignments (disks.map (assignmentOf vm)) with
        | none => .error (.capacityRaced vm.hostId)
        | some poolDiskAssignments => .ok { db with vms, vmGpus, poolDiskAssignments }
    else .error (.sqlx .foreignKeyViolation)

/-- `insert_vm`. -/
def insertVm (vm : VmRow) (gpus : List GpuAssignment) (disks : List DiskPlacement) :
    Except DbError Db :=
  match vm.storageDisksSumGib with
  | none => .error (.malformed s!"vm '{vm.id}': storage_disks unparseable")
  | some dataGibRequest =>
    if db.hosts.rows.any (db.hasRoom vm (saturatingMul vm.diskGib gib) (saturatingMul dataGibRequest gib)) then
      db.commitVm vm gpus disks
    else if db.hosts.rows.any fun h => h.id = vm.hostId ∧ h.healthy then .error (.capacityRaced vm.hostId)
    else .error (.hostUnavailable vm.hostId)

def getVm (id : VmId) : Except DbError VmRow :=
  match db.vms.find fun v => v.id = id with
  | some v => .ok v
  | none => .error (.notFound s!"vm '{id}'")

def getVmByName (clusterId : ClusterId) (name : String) : Option VmRow :=
  db.vms.find fun v => v.clusterId = clusterId ∧ v.name = name

def listVms (clusterId : ClusterId) : List VmRow := db.vms.rows.filter fun v => v.clusterId = clusterId

def listVmsOnHost (hostId : HostId) : List VmRow := db.vms.rows.filter fun v => v.hostId = hostId

/-- `list_hosts_in_cluster`: `SELECT DISTINCT host_id`. -/
def listHostsInCluster (clusterId : ClusterId) : List HostId :=
  ((db.listVms clusterId).map (·.hostId)).dedup

/-- `UPDATE vms SET state, error_message WHERE p`, the statement behind every state writer. -/
def setVms (p : VmRow → Bool) (state : MachineState) (message : VmRow → String) : Db :=
  { db with
    vms := db.vms.update p (fun v => { v with state := state, errorMessage := message v }) fun _ _ => Iff.rfl }

/-- `update_vm_state`: unconditional on the state the row is in. -/
def updateVmState (vmId : VmId) (state : MachineState) (message : String) : Except DbError Db :=
  if db.vms.rows.any fun v => v.id = vmId then .ok (db.setVms (fun v => v.id = vmId) state fun _ => message)
  else .error (.notFound s!"vm '{vmId}'")

def markVmPendingTeardown (vmId : VmId) : Except DbError Db :=
  if db.vms.rows.any fun v => v.id = vmId then
    .ok (db.setVms (fun v => v.id = vmId) .pendingTeardown (·.errorMessage))
  else .error (.notFound s!"vm '{vmId}'")

/-- Which rows `mark_vms_failed_on_host` rewrites: all but the stopped and failed ones. -/
def failsOnHost (hostId : HostId) (v : VmRow) : Bool :=
  v.hostId = hostId ∧ v.state ≠ .stopped ∧ v.state ≠ .failed

/-- `mark_vms_failed_on_host`, returning `rows_affected`. -/
def markVmsFailedOnHost (hostId : HostId) (reason : String) : Db × Nat :=
  (db.setVms (failsOnHost hostId) .failed fun _ => reason, db.vms.rows.countP (failsOnHost hostId))

def listPendingVmTombstones (hostId : HostId) : List VmId :=
  (db.vms.rows.filter fun v => v.hostId = hostId ∧ v.state = .pendingTeardown).map (·.id)

/-- `DELETE FROM vms WHERE p`, with the `ON DELETE CASCADE` on `vm_gpus`. -/
def deleteVms (p : VmRow → Bool) : Db :=
  { db with
    vms := db.vms.delete p
    vmGpus := db.vmGpus.delete fun g => db.vms.rows.any fun v => v.id = g.vmId ∧ p v }

/-! ## `ack_tombstones` -/

/-- The body of the loop over `vm_ids`. The address release does not look at the row. -/
def ackVm (hostId : HostId) (db : Db) (vmId : VmId) : Db :=
  (db.releaseVmIps vmId).deleteVms fun v => v.id = vmId ∧ v.hostId = hostId ∧ v.state = .pendingTeardown

/-- `host_clusters` and `vms` rows that keep a cluster from being drained. -/
def remaining (clusterId : ClusterId) : Nat :=
  (db.hostClusters.rows.countP fun hc => hc.clusterId = clusterId) +
    db.vms.rows.countP fun v => v.clusterId = clusterId

/-- Drop a host's pending membership rows of a cluster. -/
def dropMembership (hostId : HostId) (clusterId : ClusterId) : Db :=
  { db with
    hostClusters := db.hostClusters.delete fun hc =>
      hc.hostId = hostId ∧ hc.state = .pendingTeardown ∧ hc.clusterId = clusterId }

/-- The cascade: release the cluster's addresses and delete its row, and with it its VIP owner. -/
def drainCluster (clusterId : ClusterId) : Db :=
  { db.releaseClusterIps clusterId with
    clusters := db.clusters.delete fun c => c.id = clusterId
    clusterLanVipOwners := db.clusterLanVipOwners.delete fun o => o.clusterId = clusterId }

/-- The body of the loop over `cluster_vnis`. -/
def ackVni (hostId : HostId) (db : Db) (vni : Nat) : Db :=
  match db.clusters.find fun c => c.vni = vni with
  | none => db
  | some c =>
    if (db.dropMembership hostId c.id).remaining c.id = 0 then (db.dropMembership hostId c.id).drainCluster c.id
    else db.dropMembership hostId c.id

/-- `ack_tombstones`: VMs first, then memberships. -/
def ackTombstones (hostId : HostId) (clusterVnis : List Nat) (vmIds : List VmId) : Db :=
  clusterVnis.foldl (ackVni hostId) (vmIds.foldl (ackVm hostId) db)

/-! ## Outbox and disk reports -/

def enqueuePendingCommand (hostId : HostId) (vmId : VmId) (payload : ControllerCommand) :
    Except DbError (Db × Nat) :=
  match db.pendingCommands.insert ⟨db.nextCommandId, hostId, vmId, payload, .pending⟩ with
  | none => .error (.sqlx (.uniqueViolation "pending_command.id"))
  | some t => .ok ({ db with pendingCommands := t, nextCommandId := db.nextCommandId + 1 }, db.nextCommandId)

/-- `list_pending_commands`: the rows still marked `pending`, oldest first. -/
def listPendingCommands (hostId : HostId) : List (Nat × ControllerCommand) :=
  (db.pendingCommands.rows.filter fun p => p.hostId = hostId ∧ p.state = .pending).map
    fun p => (p.id, p.payload)

def markCommandSent (id : Nat) : Db :=
  { db with
    pendingCommands := db.pendingCommands.update (fun p => p.id = id)
      (fun p => { p with state := .sent }) fun _ _ => Iff.rfl }

def ackPendingCommandsForVm (vmId : VmId) : Db :=
  { db with pendingCommands := db.pendingCommands.delete fun p => p.vmId = vmId }

end Db

/-- The five `json_set` assignments of a disk report on one entry. -/
def DiskEntry.commit (a : DiskAssignment) (e : DiskEntry) : DiskEntry :=
  { e with
    actualSizeGib := some (asI64 a.actualSizeGib)
    devicePath := some a.devicePath
    assignmentId := some a.assignmentId
    pool := some a.pool
    deviceId := some a.deviceId }

/-- `json_set` on path `$[i]`: an index one past the end appends, a larger one changes nothing. -/
def commitEntry (a : DiskAssignment) (entries : List DiskEntry) : List DiskEntry :=
  if a.diskIndex = entries.length then entries ++ [DiskEntry.commit a {}]
  else entries.modify a.diskIndex (DiskEntry.commit a)

namespace Db

variable (db : Db)

/-- `commit_disk_assignment`: the ledger row is filtered by host, the VM row only by id. -/
def commitDiskAssignment (hostId : HostId) (a : DiskAssignment) : Db :=
  { db with
    poolDiskAssignments := db.poolDiskAssignments.update
      (fun p => p.assignmentId = a.assignmentId ∧ p.hostId = hostId)
      (fun p => { p with state := .committed, actualSizeGib := some (asI64 a.actualSizeGib) })
      fun _ _ => Iff.rfl
    vms := db.vms.update (fun v => v.id = a.vmId)
      (fun v => { v with storageDisks := commitEntry a v.storageDisks }) fun _ _ => Iff.rfl }

/-! ## What the scheduler reads -/

/-- `list_healthy_hosts`. -/
def listHealthyHosts : List HostRow := db.hosts.rows.filter (·.healthy)

/-- `list_host_pools`. -/
def listHostPools (hostId : HostId) : List HostPoolRow :=
  db.hostPools.rows.filter fun p => p.hostId = hostId

/-- `list_pool_devices`: `ORDER BY device_id`. -/
def listPoolDevices (hostId : HostId) (pool : String) : List HostPoolDeviceRow :=
  (db.hostPoolDevices.rows.filter fun d => d.hostId = hostId ∧ d.pool = pool).insertionSort
    fun a b => a.deviceId ≤ b.deviceId

/-- `host_drain_markers`. -/
def hostDrainMarkers (hostId : HostId) : List DeviceSchedulingState :=
  db.deviceSchedulingStates.rows.filter fun r => r.hostId = hostId

/-- `list_host_replicated_assignments`. -/
def listHostReplicatedAssignments (hostId : HostId) : List PoolDiskAssignment :=
  db.poolDiskAssignments.rows.filter fun a => a.hostId = hostId ∧ a.purpose = "replicated"

/-- The second query of `host_usage_snapshot`, for one host. -/
def assignedPci (hostId : HostId) : List String :=
  (db.vmGpus.rows.filter fun g => g.hostId = hostId).map (·.pciAddress)

/-- The third query of `host_usage_snapshot`, for one host and cluster; `count as u32`. -/
def vmsOfCluster (hostId : HostId) (clusterId : ClusterId) : Nat :=
  (db.vms.rows.countP fun v => v.hostId = hostId ∧ v.clusterId = clusterId) % 2 ^ 32

/-- `set_device_scheduling_state`. The operator says `disabled`; the row that is stored says `draining`. -/
def setDeviceSchedulingState (hostId : HostId) (pool deviceId state : String)
    (reason : Option String) : Except DbError Db :=
  let others := db.deviceSchedulingStates.delete fun r =>
    r.hostId = hostId ∧ r.pool = pool ∧ r.deviceId = deviceId
  match state with
  | "enabled" => .ok { db with deviceSchedulingStates := others }
  | "disabled" =>
    match others.insert ⟨hostId, pool, deviceId, "draining", reason⟩ with
    | none => .error (.sqlx (.uniqueViolation "device_scheduling_state.host_id"))
    | some t => .ok { db with deviceSchedulingStates := t }
  | other => .error (.malformed s!"invalid scheduling state \"{other}\"; expected enabled|disabled")

end Db

end BasisCell
