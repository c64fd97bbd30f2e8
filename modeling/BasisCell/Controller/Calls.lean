import BasisCell.Controller.Db

/-!
# `BasisCell.Controller.Calls` — database calls as data

A handler suspends at every call of a `Db` method and other handlers run in between, so a call has to be a
value that a scheduler can look at before it is executed. `Query` and `Write` enumerate the methods with
their arguments; `Query.eval` and `Write.apply` give each the function of `Db` it stands for. A write that
fails leaves the database as it was (`Write.exec`): the transaction is rolled back.
-/

namespace BasisCell

/-! ## Reads -/

/-- The read methods of `Db` that handlers call. -/
inductive Query where
  | getCluster (id : ClusterId)
  | getClusterByName (name : String)
  | getVm (id : VmId)
  | getVmByName (clusterId : ClusterId) (name : String)
  | listVms (clusterId : ClusterId)
  | listVmsOnHost (hostId : HostId)
  | listHostsInCluster (clusterId : ClusterId)
  | listActiveHostClusters (hostId : HostId)
  | listClusters
  | listClusterVteps (clusterId : ClusterId)
  | listActiveCarriers (clusterId : ClusterId)
  | lanVipOwner (clusterId : ClusterId)
  | listPendingClusterTombstones (hostId : HostId)
  | listPendingVmTombstones (hostId : HostId)
  | listPendingCommands (hostId : HostId)
  | getHostByHostname (hostname : String)
  | allocateClusterNetwork (net : NetworkConfig)

namespace Query

abbrev Result : Query → Type
  | getCluster _ => Except DbError ClusterRow
  | getClusterByName _ => Option ClusterRow
  | getVm _ => Except DbError VmRow
  | getVmByName _ _ => Option VmRow
  | listVms _ => List VmRow
  | listVmsOnHost _ => List VmRow
  | listHostsInCluster _ => List HostId
  | listActiveHostClusters _ => List HostClusterMembership
  | listClusters => List ClusterRow
  | listClusterVteps _ => List String
  | listActiveCarriers _ => List HostId
  | lanVipOwner _ => Option HostId
  | listPendingClusterTombstones _ => List ClusterTombstone
  | listPendingVmTombstones _ => List VmId
  | listPendingCommands _ => List (Nat × ControllerCommand)
  | getHostByHostname _ => Option HostRow
  | allocateClusterNetwork _ => Except DbError ClusterNetwork

def eval (db : Db) : (q : Query) → q.Result
  | getCluster id => db.getCluster id
  | getClusterByName name => db.getClusterByName name
  | getVm id => db.getVm id
  | getVmByName clusterId name => db.getVmByName clusterId name
  | listVms clusterId => db.listVms clusterId
  | listVmsOnHost hostId => db.listVmsOnHost hostId
  | listHostsInCluster clusterId => db.listHostsInCluster clusterId
  | listActiveHostClusters hostId => db.listActiveHostClusters hostId
  | listClusters => db.listClusters
  | listClusterVteps clusterId => db.listClusterVteps clusterId
  | listActiveCarriers clusterId => db.listActiveCarriers clusterId
  | lanVipOwner clusterId => db.lanVipOwner clusterId
  | listPendingClusterTombstones hostId => db.listPendingClusterTombstones hostId
  | listPendingVmTombstones hostId => db.listPendingVmTombstones hostId
  | listPendingCommands hostId => db.listPendingCommands hostId
  | getHostByHostname hostname => db.getHostByHostname hostname
  | allocateClusterNetwork net => db.allocateClusterNetwork net

end Query

/-! ## Writes -/

/-- The write methods of `Db` that handlers call. -/
inductive Write where
  | upsertHost (host : HostRow)
  | recordHeartbeat (hostId : HostId) (now : Nat) (capacity : StorageCapacityBytes)
      (pools : List PoolCapacity)
  | markStaleHostsUnhealthy (cutoff : Nat)
  | markVmsFailedOnHost (hostId : HostId) (reason : String)
  | insertCluster (cluster : ClusterRow)
  | updateClusterTrustDomain (clusterId : ClusterId) (trustDomain : String)
  | allocatePoolVip (pool : Pool) (clusterId : ClusterId)
  | allocateClusterVmIp (cluster : ClusterRow) (vmId : VmId)
  | reserveSpecificIp (scope : String) (ip : Ipv4Addr) (owner : IpOwner)
  | allocateServiceBlock (scope : String) (range : ParsedRange) (clusterId : ClusterId) (count : Nat)
  | releaseVmIps (vmId : VmId)
  | releaseClusterIps (clusterId : ClusterId)
  | ensureHostClusterActive (cluster : ClusterRow) (hostId : HostId)
  | markHostClusterPendingTeardown (clusterId : ClusterId) (hostId : HostId)
  | markClusterPendingTeardownAllHosts (clusterId : ClusterId)
  | setLanVipOwner (clusterId : ClusterId) (hostId : HostId)
  | insertVm (vm : VmRow) (gpus : List GpuAssignment) (disks : List DiskPlacement)
  | updateVmState (vmId : VmId) (state : MachineState) (message : String)
  | markVmPendingTeardown (vmId : VmId)
  | ackTombstones (hostId : HostId) (clusterVnis : List Nat) (vmIds : List VmId)
  | commitDiskAssignment (hostId : HostId) (assignment : DiskAssignment)
  | enqueuePendingCommand (hostId : HostId) (vmId : VmId) (payload : ControllerCommand)
  | markCommandSent (id : Nat)
  | ackPendingCommandsForVm (vmId : VmId)

namespace Write

/-- What a call returns besides an error. -/
abbrev Result : Write → Type
  | markStaleHostsUnhealthy _ => List HostId
  | markVmsFailedOnHost _ _ => Nat
  | allocatePoolVip _ _ => Ipv4Addr
  | allocateClusterVmIp _ _ => Ipv4Addr
  | allocateServiceBlock _ _ _ _ => Ipv4Net
  | ensureHostClusterActive _ _ => Ipv4Addr
  | markClusterPendingTeardownAllHosts _ => List HostId
  | enqueuePendingCommand _ _ _ => Nat
  | _ => Unit

/-- A method that returns nothing but the database. -/
def done (r : Except DbError Db) : Except DbError (Db × Unit) := r.map fun db => (db, ())

def apply (db : Db) : (w : Write) → Except DbError (Db × w.Result)
  | upsertHost host => done (db.upsertHost host)
  | recordHeartbeat hostId now capacity pools => done (db.recordHeartbeat hostId now capacity pools)
  | markStaleHostsUnhealthy cutoff => .ok (db.markStaleHostsUnhealthy cutoff)
  | markVmsFailedOnHost hostId reason => .ok (db.markVmsFailedOnHost hostId reason)
  | insertCluster cluster => done (db.insertCluster cluster)
  | updateClusterTrustDomain clusterId trustDomain => .ok (db.updateClusterTrustDomain clusterId trustDomain, ())
  | allocatePoolVip pool clusterId => db.allocatePoolVip pool clusterId
  | allocateClusterVmIp cluster vmId => db.allocateClusterVmIp cluster vmId
  | reserveSpecificIp scope ip owner => done (db.reserveSpecificIp scope ip owner)
  | allocateServiceBlock scope range clusterId count => db.allocateServiceBlock scope range clusterId count
  | releaseVmIps vmId => .ok (db.releaseVmIps vmId, ())
  | releaseClusterIps clusterId => .ok (db.releaseClusterIps clusterId, ())
  | ensureHostClusterActive cluster hostId => db.ensureHostClusterActive cluster hostId
  | markHostClusterPendingTeardown clusterId hostId => .ok (db.markHostClusterPendingTeardown clusterId hostId, ())
  | markClusterPendingTeardownAllHosts clusterId => .ok (db.markClusterPendingTeardownAllHosts clusterId)
  | setLanVipOwner clusterId hostId => done (db.setLanVipOwner clusterId hostId)
  | insertVm vm gpus disks => done (db.insertVm vm gpus disks)
  | updateVmState vmId state message => done (db.updateVmState vmId state message)
  | markVmPendingTeardown vmId => done (db.markVmPendingTeardown vmId)
  | ackTombstones hostId clusterVnis vmIds => .ok (db.ackTombstones hostId clusterVnis vmIds, ())
  | commitDiskAssignment hostId assignment => .ok (db.commitDiskAssignment hostId assignment, ())
  | enqueuePendingCommand hostId vmId payload => db.enqueuePendingCommand hostId vmId payload
  | markCommandSent id => .ok (db.markCommandSent id, ())
  | ackPendingCommandsForVm vmId => .ok (db.ackPendingCommandsForVm vmId, ())

/-- Run a call: commit on success, roll back on error. -/
def exec (w : Write) (db : Db) : Db × Except DbError w.Result :=
  match w.apply db with
  | .ok (db', r) => (db', .ok r)
  | .error e => (db, .error e)

/-- A call that returns an error leaves the database unchanged. -/
theorem exec_of_error {w : Write} {db : Db} {e : DbError} (h : (w.exec db).2 = .error e) :
    (w.exec db).1 = db := by
  unfold exec at h ⊢
  split at h
  · cases h
  · rfl

/-- A call that returns a result has committed what its method returned. -/
theorem apply_of_ok {w : Write} {db : Db} {r : w.Result} (h : (w.exec db).2 = .ok r) :
    w.apply db = .ok ((w.exec db).1, r) := by
  unfold exec at h ⊢
  split at h <;> cases h
  rename_i hok
  exact hok

end Write

end BasisCell
