import BasisCell.Controller.Acks

/-!
# `BasisCell.Controller.Effects` — everything a database call can do

The inversion of `Write.apply`, once for all calls: `Write.Effect` has one constructor per method, giving
the committed database as an update of the old one together with the guards that let the call through. A
proof about some table goes by cases on the effect; the calls that cannot touch the table leave it
definitionally as it was, and are one wildcard case.
-/

namespace BasisCell

open Relational Table List

namespace Db

variable {db db' : Db}

/-! ## Lookups -/

variable {vm : VmRow} {id clusterId : ClusterId} {scope : String} {range : ParsedRange} {owner : IpOwner}
    {ip : Ipv4Addr} {cluster : ClusterRow} {hostId : HostId} {vmId : VmId}

theorem getVm_ok {id : VmId} (h : db.getVm id = .ok vm) : vm ∈ db.vms.rows ∧ vm.id = id := by
  unfold getVm at h
  split at h <;> cases h
  rename_i hfind
  exact ⟨mem_of_find?_eq_some hfind, by simpa using List.find?_some hfind⟩

theorem getCluster_ok {k : ClusterRow} (h : db.getCluster id = .ok k) : k ∈ db.clusters.rows ∧ k.id = id := by
  unfold getCluster at h
  split at h <;> cases h
  rename_i hfind
  exact ⟨mem_of_find?_eq_some hfind, by simpa using List.find?_some hfind⟩

theorem getCluster_error {e : DbError} (h : db.getCluster id = .error e) : ∀ k ∈ db.clusters.rows, k.id ≠ id := by
  unfold getCluster at h
  split at h
  · cases h
  · rename_i hfind
    intro k hk
    simpa using List.find?_eq_none.mp hfind k hk

/-! ## Fallible methods that went through -/

/-- The address is a candidate that no one had in the scope and no host was registered under. -/
theorem allocateFromRange_ok (h : db.allocateFromRange scope range owner = .ok (db', ip)) :
    (ip ∈ candidates range ∧ db.addressTaken scope ip = false) ∧
      ∃ t, db.ipAllocations.insert ⟨ip, scope, owner⟩ = some t ∧ db' = { db with ipAllocations := t } := by
  unfold allocateFromRange at h
  split at h
  · cases h
  rename_i hfind
  split at h
  · cases h
  cases h
  have htaken := List.find?_some hfind
  rw [Bool.not_eq_true'] at htaken
  exact ⟨⟨mem_of_find?_eq_some hfind, htaken⟩, _, ‹_›, rfl⟩

theorem reserveSpecificIp_ok (h : db.reserveSpecificIp scope ip owner = .ok db') :
    ∃ t, db.ipAllocations.insert ⟨ip, scope, owner⟩ = some t ∧ db' = { db with ipAllocations := t } := by
  unfold reserveSpecificIp at h
  split at h <;> cases h
  exact ⟨_, ‹_›, rfl⟩

/-- The search moves in strides of `count` and stops at a block that nobody uses. -/
theorem findBlock_ok {used : Ipv4Addr → Bool} {stop count block : Nat} :
    ∀ {fuel start : Nat}, findBlock used stop count fuel start = .ok block →
      start ≤ block ∧ (∃ j, block = start + j * count) ∧ block + (count - 1) ≤ stop ∧
        ∀ n ∈ List.range' block count, used n = false
  | 0, start, h => nomatch h
  | fuel + 1, start, h => by
    unfold findBlock at h
    split at h
    swap
    · cases h
    rename_i hfits
    split at h
    · rename_i hfree
      cases h
      refine ⟨Nat.le_refl _, ⟨0, by omega⟩, hfits.2, fun n hn => ?_⟩
      exact Bool.not_eq_true' _ |>.mp (all_eq_true.mp hfree n hn)
    · split at h
      swap
      · cases h
      obtain ⟨hle, ⟨j, hj⟩, hstop, hfree⟩ := findBlock_ok h
      refine ⟨by omega, ⟨j + 1, ?_⟩, hstop, hfree⟩
      rw [hj, Nat.add_mul, Nat.one_mul]
      omega

/-- What a block allocation returns: an aligned block that was free, now held address by address. -/
theorem allocateServiceBlock_ok {count : Nat} {block : Ipv4Net}
    (h : db.allocateServiceBlock scope range clusterId count = .ok (db', block)) :
    ∃ k start t, count = 2 ^ k ∧ block = ⟨start, 32 - k⟩ ∧ 2 ^ k ∣ start ∧
      (range.start + (count - 1)) % 2 ^ 32 / count * count ≤ start ∧ start + (count - 1) ≤ range.stop ∧
      (∀ n ∈ List.range' start count, db.addressTaken scope n = false) ∧
      reserveBlock db.ipAllocations scope (.cluster clusterId) (List.range' start count) = some t ∧
      db' = { db with ipAllocations := t } := by
  unfold allocateServiceBlock at h
  split at h
  swap
  · cases h
  rename_i hpow
  obtain ⟨k, rfl⟩ := hpow
  dsimp only at h
  split at h
  · cases h
  rename_i start hfind
  split at h
  · cases h
  rename_i t hreserve
  cases h
  obtain ⟨hle, ⟨j, hj⟩, hstop, hfree⟩ := findBlock_ok hfind
  refine ⟨k, start, t, rfl, by rw [Nat.log2_two_pow], ?_, hle, hstop, hfree, hreserve, rfl⟩
  rw [hj]
  exact Nat.dvd_add (Nat.dvd_mul_left _ _) (Nat.dvd_mul_left _ _)

theorem reserveBlock_rows {ips : List Ipv4Addr} {t t' : Table IpAllocation}
    (h : reserveBlock t scope owner ips = some t') : t'.rows = t.rows ++ ips.map fun n => ⟨n, scope, owner⟩ := by
  induction ips generalizing t with
  | nil =>
    cases h
    rw [map_nil, append_nil]
  | cons n ns ih =>
    obtain ⟨t₁, h₁, h⟩ := Option.bind_eq_some_iff.mp h
    rw [ih h, rows_insert h₁, append_assoc, map_cons, singleton_append]

theorem insertCluster_ok (h : db.insertCluster cluster = .ok db') :
    ∃ t, db.clusters.insert cluster = some t ∧ db' = { db with clusters := t } := by
  unfold insertCluster at h
  split at h
  · cases h
    exact ⟨_, ‹_›, rfl⟩
  · split at h <;> cases h

theorem upsertHost_ok {host : HostRow} (h : db.upsertHost host = .ok db') :
    ∃ t, (db.hosts.delete fun h => h.id = host.id).insert host = some t ∧ db' = { db with hosts := t } := by
  unfold upsertHost at h
  split at h <;> cases h
  exact ⟨_, ‹_›, rfl⟩

theorem recordHeartbeat_ok {now : Nat} {capacity : StorageCapacityBytes}
    {pools : List PoolCapacity} (h : db.recordHeartbeat hostId now capacity pools = .ok db') :
    ∃ hostPools hostPoolDevices,
      pools.foldlM (recordPool hostId) (db.hostPools.delete fun p => p.hostId = hostId,
        db.hostPoolDevices.delete fun d => d.hostId = hostId) = .ok (hostPools, hostPoolDevices) ∧
      db' = { db with
        hosts := db.hosts.update (fun h => h.id = hostId) (HostRow.beat now capacity) fun _ _ => Iff.rfl
        hostPools := hostPools
        hostPoolDevices := hostPoolDevices } := by
  unfold recordHeartbeat at h
  repeat' split at h
  all_goals cases h
  exact ⟨_, _, ‹_›, rfl⟩

/-- Either the pair had a row, or a fresh one went in for a cluster and a host that exist. -/
theorem ensureHostClusterActive_ok (h : db.ensureHostClusterActive cluster hostId = .ok (db', ip)) : db' = { db with
      hostClusters := db.hostClusters.update (fun hc => hc.clusterId = cluster.id ∧ hc.hostId = hostId)
        (fun hc => { hc with state := .active }) fun _ _ => Iff.rfl } ∨
    ∃ t, db.hostClusters.insert ⟨cluster.id, hostId, ip, .active⟩ = some t ∧
      (∃ c ∈ db.clusters.rows, c.id = cluster.id) ∧ db' = { db with hostClusters := t } := by
  unfold ensureHostClusterActive at h
  split at h
  · cases h
    exact .inl rfl
  · repeat' split at h
    all_goals cases h
    rename_i hfk _ _ _ _
    rw [Bool.and_eq_true, any_eq_true, any_eq_true] at hfk
    obtain ⟨⟨c, hc, he⟩, -⟩ := hfk
    exact .inr ⟨_, ‹_›, ⟨c, hc, by simpa using he⟩, rfl⟩

theorem setLanVipOwner_ok (h : db.setLanVipOwner clusterId hostId = .ok db') :
    ∃ t, db' = { db with clusterLanVipOwners := t } := by
  unfold setLanVipOwner at h
  repeat' split at h
  all_goals cases h
  exact ⟨_, rfl⟩

/-- What `insert_vm` committed: the row, for a host with room and a cluster that exists. -/
theorem insertVm_ok {gpus : List GpuAssignment} {disks : List DiskPlacement}
    (h : db.insertVm vm gpus disks = .ok db') :
    ∃ dataGib host vms vmGpus poolDiskAssignments, vm.storageDisksSumGib = some dataGib ∧
      host ∈ db.hosts.rows ∧
      db.hasRoom vm (saturatingMul vm.diskGib gib) (saturatingMul dataGib gib) host = true ∧
      db.vms.insert vm = some vms ∧ (∃ c ∈ db.clusters.rows, c.id = vm.clusterId) ∧
      insertAll db.poolDiskAssignments (disks.map (assignmentOf vm)) = some poolDiskAssignments ∧
      db' = { db with vms, vmGpus, poolDiskAssignments } := by
  unfold insertVm at h
  split at h
  · cases h
  · rename_i dataGib hsum
    split at h
    · rename_i hroom
      obtain ⟨host, hmem, hhost⟩ := any_eq_true.mp hroom
      unfold commitVm at h
      split at h
      · cases h
      · rename_i vms hvms
        split at h
        · rename_i hfk
          obtain ⟨c, hc, he⟩ := any_eq_true.mp hfk
          repeat' split at h
          all_goals cases h
          exact ⟨dataGib, host, vms, _, _, hsum, hmem, hhost, hvms, ⟨c, hc, by simpa using he⟩, ‹_›, rfl⟩
        · cases h
    · split at h <;> cases h

theorem updateVmState_ok {state : MachineState} {message : String}
    (h : db.updateVmState vmId state message = .ok db') :
    db' = db.setVms (fun v => v.id = vmId) state fun _ => message := by
  unfold updateVmState at h
  split at h
  · exact (Except.ok.inj h).symm
  · cases h

theorem markVmPendingTeardown_ok (h : db.markVmPendingTeardown vmId = .ok db') :
    db' = db.setVms (fun v => v.id = vmId) .pendingTeardown (·.errorMessage) := by
  unfold markVmPendingTeardown at h
  split at h
  · exact (Except.ok.inj h).symm
  · cases h

theorem enqueuePendingCommand_ok {payload : ControllerCommand} {id : Nat}
    (h : db.enqueuePendingCommand hostId vmId payload = .ok (db', id)) :
    ∃ t, db.pendingCommands.insert ⟨id, hostId, vmId, payload, .pending⟩ = some t ∧
      db' = { db with pendingCommands := t, nextCommandId := id + 1 } := by
  unfold enqueuePendingCommand at h
  split at h <;> cases h
  exact ⟨_, ‹_›, rfl⟩

end Db

/-! ## The inversion -/

namespace Write

open Db

/-- What call `w` did when it returned `r`. -/
inductive Effect (db : Db) : (w : Write) → w.Result → Db → Prop
  | upsertHost {host : HostRow} {t : Table HostRow}
      (h : (db.hosts.delete fun h => h.id = host.id).insert host = some t) :
      Effect db (.upsertHost host) () { db with hosts := t }
  | recordHeartbeat {hostId : HostId} {now : Nat} {capacity : StorageCapacityBytes} {pools : List PoolCapacity}
      {hostPools : Table HostPoolRow} {hostPoolDevices : Table HostPoolDeviceRow} :
      Effect db (.recordHeartbeat hostId now capacity pools) ()
        { db with
          hosts := db.hosts.update (fun h => h.id = hostId) (HostRow.beat now capacity) fun _ _ => Iff.rfl
          hostPools := hostPools
          hostPoolDevices := hostPoolDevices }
  | markStaleHostsUnhealthy {cutoff : Nat} :
      Effect db (.markStaleHostsUnhealthy cutoff) (db.markStaleHostsUnhealthy cutoff).2
        (db.markStaleHostsUnhealthy cutoff).1
  | markVmsFailedOnHost {hostId : HostId} {reason : String} {n : Nat} :
      Effect db (.markVmsFailedOnHost hostId reason) n (db.setVms (failsOnHost hostId) .failed fun _ => reason)
  | insertCluster {cluster : ClusterRow} {t : Table ClusterRow} (h : db.clusters.insert cluster = some t) :
      Effect db (.insertCluster cluster) () { db with clusters := t }
  | updateClusterTrustDomain {clusterId : ClusterId} {trustDomain : String} :
      Effect db (.updateClusterTrustDomain clusterId trustDomain) ()
        (db.updateClusterTrustDomain clusterId trustDomain)
  | allocatePoolVip {pool : Pool} {clusterId : ClusterId} {ip : Ipv4Addr} {t : Table IpAllocation}
      (h : db.ipAllocations.insert ⟨ip, pool.name, .cluster clusterId⟩ = some t) :
      Effect db (.allocatePoolVip pool clusterId) ip { db with ipAllocations := t }
  | allocateClusterVmIp {cluster : ClusterRow} {vmId : VmId} {ip : Ipv4Addr} {t : Table IpAllocation}
      (h : db.ipAllocations.insert ⟨ip, s!"cluster:{cluster.id}", .vm vmId⟩ = some t) :
      Effect db (.allocateClusterVmIp cluster vmId) ip { db with ipAllocations := t }
  | reserveSpecificIp {scope : String} {ip : Ipv4Addr} {owner : IpOwner} {t : Table IpAllocation}
      (h : db.ipAllocations.insert ⟨ip, scope, owner⟩ = some t) :
      Effect db (.reserveSpecificIp scope ip owner) () { db with ipAllocations := t }
  | allocateServiceBlock {scope : String} {range : ParsedRange} {clusterId : ClusterId} {count : Nat}
      {block : Ipv4Net} {ips : List Ipv4Addr} {t : Table IpAllocation}
      (h : reserveBlock db.ipAllocations scope (.cluster clusterId) ips = some t) :
      Effect db (.allocateServiceBlock scope range clusterId count) block { db with ipAllocations := t }
  | releaseVmIps {vmId : VmId} : Effect db (.releaseVmIps vmId) () (db.releaseVmIps vmId)
  | releaseClusterIps {clusterId : ClusterId} :
      Effect db (.releaseClusterIps clusterId) () (db.releaseClusterIps clusterId)
  | reactivated {cluster : ClusterRow} {hostId : HostId} {ip : Ipv4Addr} :
      Effect db (.ensureHostClusterActive cluster hostId) ip
        { db with
          hostClusters := db.hostClusters.update (fun hc => hc.clusterId = cluster.id ∧ hc.hostId = hostId)
            (fun hc => { hc with state := .active }) fun _ _ => Iff.rfl }
  | joined {cluster : ClusterRow} {hostId : HostId} {ip : Ipv4Addr} {t : Table HostClusterRow}
      (h : db.hostClusters.insert ⟨cluster.id, hostId, ip, .active⟩ = some t)
      (hfk : ∃ c ∈ db.clusters.rows, c.id = cluster.id) :
      Effect db (.ensureHostClusterActive cluster hostId) ip { db with hostClusters := t }
  | markHostClusterPendingTeardown {clusterId : ClusterId} {hostId : HostId} :
      Effect db (.markHostClusterPendingTeardown clusterId hostId) ()
        (db.markHostClusterPendingTeardown clusterId hostId)
  | markClusterPendingTeardownAllHosts {clusterId : ClusterId} :
      Effect db (.markClusterPendingTeardownAllHosts clusterId)
        (db.markClusterPendingTeardownAllHosts clusterId).2 (db.markClusterPendingTeardownAllHosts clusterId).1
  | setLanVipOwner {clusterId : ClusterId} {hostId : HostId} {t : Table ClusterLanVipOwner} :
      Effect db (.setLanVipOwner clusterId hostId) () { db with clusterLanVipOwners := t }
  | insertVm {vm : VmRow} {gpus : List GpuAssignment} {disks : List DiskPlacement} {dataGib : Int}
      {host : HostRow} {vms : Table VmRow} {vmGpus : Table GpuAssignment}
      {poolDiskAssignments : Table PoolDiskAssignment}
      (hsum : vm.storageDisksSumGib = some dataGib) (hhost : host ∈ db.hosts.rows)
      (hroom : db.hasRoom vm (saturatingMul vm.diskGib gib) (saturatingMul dataGib gib) host = true)
      (h : db.vms.insert vm = some vms) (hfk : ∃ c ∈ db.clusters.rows, c.id = vm.clusterId) :
      Effect db (.insertVm vm gpus disks) () { db with vms, vmGpus, poolDiskAssignments }
  | updateVmState {vmId : VmId} {state : MachineState} {message : String} :
      Effect db (.updateVmState vmId state message) () (db.setVms (fun v => v.id = vmId) state fun _ => message)
  | markVmPendingTeardown {vmId : VmId} :
      Effect db (.markVmPendingTeardown vmId) ()
        (db.setVms (fun v => v.id = vmId) .pendingTeardown (·.errorMessage))
  | ackTombstones {hostId : HostId} {vnis : List Nat} {vmIds : List VmId} :
      Effect db (.ackTombstones hostId vnis vmIds) () (db.ackTombstones hostId vnis vmIds)
  | commitDiskAssignment {hostId : HostId} {a : DiskAssignment} :
      Effect db (.commitDiskAssignment hostId a) () (db.commitDiskAssignment hostId a)
  | enqueuePendingCommand {hostId : HostId} {vmId : VmId} {payload : ControllerCommand} {id : Nat}
      {t : Table PendingCommand}
      (h : db.pendingCommands.insert ⟨id, hostId, vmId, payload, .pending⟩ = some t) :
      Effect db (.enqueuePendingCommand hostId vmId payload) id
        { db with pendingCommands := t, nextCommandId := id + 1 }
  | markCommandSent {id : Nat} : Effect db (.markCommandSent id) () (db.markCommandSent id)
  | ackPendingCommandsForVm {vmId : VmId} :
      Effect db (.ackPendingCommandsForVm vmId) () (db.ackPendingCommandsForVm vmId)

variable {db db' : Db} {w : Write}

variable {u : Unit} {r vm : VmRow} {gpus : List GpuAssignment} {disks : List DiskPlacement} {k : ClusterRow}
    {a : IpAllocation}

theorem done_ok {r : Except DbError Db} (h : done r = .ok (db', u)) : r = .ok db' := by
  cases r with
  | error e => cases h
  | ok d => cases h; rfl

/-- **A call that went through had the effect its constructor describes.** -/
theorem effect_of_apply {r : w.Result} (h : w.apply db = .ok (db', r)) : Effect db w r db' := by
  cases w with
  | upsertHost host =>
    obtain ⟨t, ht, rfl⟩ := upsertHost_ok (done_ok h)
    exact .upsertHost ht
  | recordHeartbeat hostId now capacity pools =>
    obtain ⟨hp, hd, -, rfl⟩ := recordHeartbeat_ok (done_ok h)
    exact .recordHeartbeat
  | insertCluster cluster =>
    obtain ⟨t, ht, rfl⟩ := insertCluster_ok (done_ok h)
    exact .insertCluster ht
  | allocatePoolVip pool clusterId =>
    obtain ⟨-, t, ht, rfl⟩ := allocateFromRange_ok h
    exact .allocatePoolVip ht
  | allocateClusterVmIp cluster vmId =>
    obtain ⟨-, t, ht, rfl⟩ := allocateFromRange_ok h
    exact .allocateClusterVmIp ht
  | reserveSpecificIp scope ip owner =>
    obtain ⟨t, ht, rfl⟩ := reserveSpecificIp_ok (done_ok h)
    exact .reserveSpecificIp ht
  | allocateServiceBlock scope range clusterId count =>
    obtain ⟨_, _, t, -, -, -, -, -, -, ht, rfl⟩ := allocateServiceBlock_ok h
    exact .allocateServiceBlock ht
  | ensureHostClusterActive cluster hostId =>
    obtain rfl | ⟨t, ht, hfk, rfl⟩ := ensureHostClusterActive_ok h
    · exact .reactivated
    · exact .joined ht hfk
  | setLanVipOwner clusterId hostId =>
    obtain ⟨t, rfl⟩ := setLanVipOwner_ok (done_ok h)
    exact .setLanVipOwner
  | insertVm vm gpus disks =>
    obtain ⟨dataGib, host, vms, vmGpus, assignments, hsum, hmem, hroom, hvms, hfk, -, rfl⟩ :=
      insertVm_ok (done_ok h)
    exact .insertVm hsum hmem hroom hvms hfk
  | updateVmState vmId state message =>
    rw [updateVmState_ok (done_ok h)]
    exact .updateVmState
  | markVmPendingTeardown vmId =>
    rw [markVmPendingTeardown_ok (done_ok h)]
    exact .markVmPendingTeardown
  | enqueuePendingCommand hostId vmId payload =>
    obtain ⟨t, ht, rfl⟩ := enqueuePendingCommand_ok h
    exact .enqueuePendingCommand ht
  | markStaleHostsUnhealthy cutoff => cases h; exact .markStaleHostsUnhealthy
  | markVmsFailedOnHost hostId reason => cases h; exact .markVmsFailedOnHost
  | updateClusterTrustDomain clusterId trustDomain => cases h; exact .updateClusterTrustDomain
  | releaseVmIps vmId => cases h; exact .releaseVmIps
  | releaseClusterIps clusterId => cases h; exact .releaseClusterIps
  | markHostClusterPendingTeardown clusterId hostId => cases h; exact .markHostClusterPendingTeardown
  | markClusterPendingTeardownAllHosts clusterId => cases h; exact .markClusterPendingTeardownAllHosts
  | ackTombstones hostId vnis vmIds => cases h; exact .ackTombstones
  | commitDiskAssignment hostId a => cases h; exact .commitDiskAssignment
  | markCommandSent id => cases h; exact .markCommandSent
  | ackPendingCommandsForVm vmId => cases h; exact .ackPendingCommandsForVm

/-- The database after a call: rolled back, or changed by the call's effect. -/
theorem exec_cases (w : Write) (db : Db) :
    ((w.exec db).1 = db ∧ ∃ e, (w.exec db).2 = .error e) ∨
      ∃ r, (w.exec db).2 = .ok r ∧ Effect db w r (w.exec db).1 := by
  unfold exec
  split
  · exact .inr ⟨_, rfl, effect_of_apply ‹_›⟩
  · exact .inl ⟨rfl, _, rfl⟩

/-- What holds of the database before a call and after each effect it can have, holds after it. -/
@[elab_as_elim] theorem exec_elim (w : Write) (db : Db) {motive : Db → Prop} (hsame : motive db)
    (heffect : ∀ {db' : Db} {r : w.Result}, Effect db w r db' → motive db') : motive (w.exec db).1 := by
  obtain ⟨heq, -⟩ | ⟨r, -, heff⟩ := w.exec_cases db
  · rwa [heq]
  · exact heffect heff

/-! ## What every call leaves of a row -/

/-- The state that a call writes to a row. -/
def sets : Write → VmRow → Option MachineState
  | .markVmsFailedOnHost hostId _, r => if failsOnHost hostId r then some .failed else none
  | .updateVmState vmId state _, r => if r.id = vmId then some state else none
  | .markVmPendingTeardown vmId, r => if r.id = vmId then some .pendingTeardown else none
  | _, _ => none

/-- What a call leaves of a row that it does not delete. -/
structure Leaves (w : Write) (r r' : VmRow) : Prop where
  same : r.SameVm r'
  state : r'.state = (w.sets r).getD r.state

/-- A call that was rolled back would have written to no row. -/
theorem sets_of_error {e : DbError} (h : (w.exec db).2 = .error e) (hr : r ∈ db.vms.rows) : w.sets r = none := by
  cases w with
  | markVmsFailedOnHost hostId reason => cases h
  | updateVmState vmId state message =>
    refine if_neg fun hid => ?_
    have hany : (db.vms.rows.any fun v => v.id = vmId) = true := any_eq_true.mpr ⟨r, hr, decide_eq_true hid⟩
    simp only [exec, apply, Db.updateVmState, if_pos hany] at h
    cases h
  | markVmPendingTeardown vmId =>
    refine if_neg fun hid => ?_
    have hany : (db.vms.rows.any fun v => v.id = vmId) = true := any_eq_true.mpr ⟨r, hr, decide_eq_true hid⟩
    simp only [exec, apply, Db.markVmPendingTeardown, if_pos hany] at h
    cases h
  | _ => rfl

theorem Leaves.refl (h : w.sets r = none) : w.Leaves r r := ⟨.refl r, by rw [h]; rfl⟩

/-- **What a call can do to `vms`**: assign mutable columns, insert a row, or delete what an ack deletes. -/
theorem vms_cases (w : Write) (db : Db) :
    (∃ f : VmRow → VmRow, (∀ r ∈ db.vms.rows, w.Leaves r (f r)) ∧ (w.exec db).1.vms.rows = db.vms.rows.map f) ∨
    (∃ vm gpus disks, w = .insertVm vm gpus disks ∧ (∃ u, (w.exec db).2 = .ok u) ∧
      (w.exec db).1.vms.rows = db.vms.rows ++ [vm]) ∨
    ∃ hostId vnis vmIds, w = .ackTombstones hostId vnis vmIds ∧
      (w.exec db).1.vms = db.vms.delete (ackedVm hostId vmIds) := by
  have same : ∀ {db' : Db}, db'.vms = db.vms → (∀ r ∈ db.vms.rows, w.sets r = none) →
      ∃ f : VmRow → VmRow, (∀ r ∈ db.vms.rows, w.Leaves r (f r)) ∧ db'.vms.rows = db.vms.rows.map f :=
    fun heq hsets => ⟨id, fun r hr => .refl (hsets r hr), heq ▸ (map_id _).symm⟩
  obtain ⟨heq, e, he⟩ | ⟨res, hres, heff⟩ := w.exec_cases db
  · rw [heq]
    exact .inl (same rfl fun r hr => sets_of_error he hr)
  generalize (w.exec db).1 = db' at heff
  -- the statement behind the state writers, on the rows that `p` selects
  have written : ∀ {p : VmRow → Bool} {state : MachineState} {message : VmRow → String},
      (∀ r, w.sets r = if p r then some state else none) → db'.vms = (db.setVms p state message).vms →
      ∃ f : VmRow → VmRow, (∀ r ∈ db.vms.rows, w.Leaves r (f r)) ∧ db'.vms.rows = db.vms.rows.map f := by
    intro p state message hsets hvms
    refine ⟨_, fun r _ => ?_, congrArg Table.rows hvms⟩
    cases hp : p r with
    | true => exact ⟨⟨rfl, rfl, rfl, rfl, rfl⟩, by rw [hsets, hp]; rfl⟩
    | false => exact .refl (by rw [hsets, hp]; rfl)
  cases heff with
  | markVmsFailedOnHost => exact .inl (written (fun _ => rfl) rfl)
  | updateVmState | markVmPendingTeardown => exact .inl (written (fun _ => by simp [sets]) rfl)
  | commitDiskAssignment =>
    refine .inl ⟨_, fun r _ => ?_, rfl⟩
    split
    · exact ⟨⟨rfl, rfl, rfl, rfl, rfl⟩, rfl⟩
    · exact .refl rfl
  | insertVm _ _ _ hins => exact .inr (.inl ⟨_, _, _, rfl, ⟨_, hres⟩, rows_insert hins⟩)
  | ackTombstones => exact .inr (.inr ⟨_, _, _, rfl, vms_ackTombstones⟩)
  | _ => exact .inl (same rfl fun _ _ => rfl)

/-- A VM row is one that was there, up to its mutable columns, or the one just inserted. -/
theorem vms_exec {r' : VmRow} (h : r' ∈ (w.exec db).1.vms.rows) :
    (∃ r ∈ db.vms.rows, w.Leaves r r') ∨
      (∃ gpus disks, w = .insertVm r' gpus disks) ∧ ∃ u, (w.exec db).2 = .ok u := by
  obtain ⟨f, hf, hrows⟩ | ⟨vm, gpus, disks, rfl, hok, hrows⟩ | ⟨hostId, vnis, vmIds, rfl, hvms⟩ := w.vms_cases db
  · rw [hrows] at h
    obtain ⟨r, hr, rfl⟩ := mem_map.mp h
    exact .inl ⟨r, hr, hf r hr⟩
  · rw [hrows] at h
    rcases mem_append.mp h with h | h
    · exact .inl ⟨r', h, .refl rfl⟩
    · cases mem_singleton.mp h
      exact .inr ⟨⟨gpus, disks, rfl⟩, hok⟩
  · rw [hvms] at h
    exact .inl ⟨r', (mem_delete.mp h).1, .refl rfl⟩

/-- A VM row stays, up to its mutable columns, unless an ack deletes it. -/
theorem vms_kept (h : r ∈ db.vms.rows) : (∃ r' ∈ (w.exec db).1.vms.rows, w.Leaves r r') ∨
      ∃ hostId vnis vmIds, w = .ackTombstones hostId vnis vmIds ∧ ackedVm hostId vmIds r = true := by
  obtain ⟨f, hf, hrows⟩ | ⟨vm, gpus, disks, rfl, -, hrows⟩ | ⟨hostId, vnis, vmIds, rfl, hvms⟩ := w.vms_cases db
  · rw [hrows]
    exact .inl ⟨f r, mem_map.mpr ⟨r, h, rfl⟩, hf r h⟩
  · rw [hrows]
    exact .inl ⟨r, mem_append_left _ h, .refl rfl⟩
  · cases hack : ackedVm hostId vmIds r with
    | true => exact .inr ⟨hostId, vnis, vmIds, rfl, hack⟩
    | false =>
      rw [hvms]
      exact .inl ⟨r, mem_delete.mpr ⟨h, hack⟩, .refl rfl⟩

theorem cluster_of_insertVm
    (h : ((Write.insertVm vm gpus disks).exec db).2 = .ok u) : ∃ k ∈ db.clusters.rows, k.id = vm.clusterId := by
  have heff := effect_of_apply (apply_of_ok h)
  generalize ((Write.insertVm vm gpus disks).exec db).1 = db' at heff
  cases heff with
  | insertVm _ _ _ _ hfk => exact hfk

theorem mem_of_insertVm (h : ((Write.insertVm vm gpus disks).exec db).2 = .ok u) :
    vm ∈ ((Write.insertVm vm gpus disks).exec db).1.vms.rows := by
  have heff := effect_of_apply (apply_of_ok h)
  generalize ((Write.insertVm vm gpus disks).exec db).1 = db' at heff ⊢
  cases heff with
  | insertVm _ _ _ hins => exact (mem_insert hins).mpr (.inr rfl)

theorem mem_of_insertCluster (h : ((Write.insertCluster k).exec db).2 = .ok u) :
    k ∈ ((Write.insertCluster k).exec db).1.clusters.rows := by
  have heff := effect_of_apply (apply_of_ok h)
  generalize ((Write.insertCluster k).exec db).1 = db' at heff ⊢
  cases heff with
  | insertCluster hins => exact (mem_insert hins).mpr (.inr rfl)

/-- **What a call can do to `host_clusters`**: assign states, add a row of a cluster that exists, or delete
    what an ack deletes. -/
theorem hostClusters_cases (w : Write) (db : Db) :
    (∃ f : HostClusterRow → HostClusterRow, (∀ hc, (f hc).clusterId = hc.clusterId ∧ (f hc).hostId = hc.hostId) ∧
      (w.exec db).1.hostClusters.rows = db.hostClusters.rows.map f) ∨
    (∃ hc, (∃ k ∈ db.clusters.rows, k.id = hc.clusterId) ∧ (w.exec db).1.clusters = db.clusters ∧
      (w.exec db).1.hostClusters.rows = db.hostClusters.rows ++ [hc]) ∨
    ∃ hostId vnis vmIds, w = .ackTombstones hostId vnis vmIds ∧
      (w.exec db).1 = db.ackTombstones hostId vnis vmIds := by
  have same : ∀ {db' : Db}, db'.hostClusters = db.hostClusters → ∃ f : HostClusterRow → HostClusterRow,
      (∀ hc, (f hc).clusterId = hc.clusterId ∧ (f hc).hostId = hc.hostId) ∧
      db'.hostClusters.rows = db.hostClusters.rows.map f := fun heq =>
    ⟨id, fun _ => ⟨rfl, rfl⟩, heq ▸ (map_id _).symm⟩
  refine w.exec_elim db (.inl (same rfl)) fun {db' _} heff => ?_
  have marked : ∀ {p : HostClusterRow → Bool} {state : MembershipState},
      db'.hostClusters.rows = (db.hostClusters.rows.map fun hc => if p hc then { hc with state := state } else hc) →
      ∃ f : HostClusterRow → HostClusterRow, (∀ hc, (f hc).clusterId = hc.clusterId ∧ (f hc).hostId = hc.hostId) ∧
        db'.hostClusters.rows = db.hostClusters.rows.map f := by
    intro p state hrows
    refine ⟨_, fun hc => ?_, hrows⟩
    split <;> exact ⟨rfl, rfl⟩
  cases heff with
  | reactivated | markHostClusterPendingTeardown | markClusterPendingTeardownAllHosts => exact .inl (marked rfl)
  | joined hins hfk => exact .inr (.inl ⟨_, hfk, rfl, rows_insert hins⟩)
  | ackTombstones => exact .inr (.inr ⟨_, _, _, rfl, rfl⟩)
  | _ => exact .inl (same rfl)

/-- A membership row is of a cluster that had one, or that has a row. -/
theorem hostClusters_exec {hc' : HostClusterRow} (h : hc' ∈ (w.exec db).1.hostClusters.rows) :
    (∃ hc ∈ db.hostClusters.rows, hc.clusterId = hc'.clusterId) ∨
      (∃ k ∈ db.clusters.rows, k.id = hc'.clusterId) ∧ (w.exec db).1.clusters = db.clusters := by
  obtain ⟨f, hf, hrows⟩ | ⟨new, hfk, hclusters, hrows⟩ | ⟨hostId, vnis, vmIds, -, heq⟩ := w.hostClusters_cases db
  · rw [hrows] at h
    obtain ⟨hc, hmem, rfl⟩ := mem_map.mp h
    exact .inl ⟨hc, hmem, (hf hc).1.symm⟩
  · rw [hrows] at h
    rcases mem_append.mp h with h | h
    · exact .inl ⟨hc', h, rfl⟩
    · cases mem_singleton.mp h
      exact .inr ⟨hfk, hclusters⟩
  · rw [heq] at h
    exact .inl ⟨hc', (mem_hostClusters_ackTombstones.mp h).1, rfl⟩

/-- A membership row stays, up to its state, unless an ack deletes it. -/
theorem hostClusters_kept {hc : HostClusterRow} (h : hc ∈ db.hostClusters.rows) :
    (∃ hc' ∈ (w.exec db).1.hostClusters.rows, hc'.clusterId = hc.clusterId) ∨ ∃ hostId vnis vmIds,
      w = .ackTombstones hostId vnis vmIds ∧ hc.hostId = hostId ∧ hc.state = .pendingTeardown ∧
      ∃ k ∈ db.clusters.rows, k.vni ∈ vnis ∧ k.id = hc.clusterId := by
  obtain ⟨f, hf, hrows⟩ | ⟨new, -, -, hrows⟩ | ⟨hostId, vnis, vmIds, hw, heq⟩ := w.hostClusters_cases db
  · rw [hrows]
    exact .inl ⟨f hc, mem_map.mpr ⟨hc, h, rfl⟩, (hf hc).1⟩
  · rw [hrows]
    exact .inl ⟨hc, mem_append_left _ h, rfl⟩
  · by_cases hdrop : hc.hostId = hostId ∧ hc.state = .pendingTeardown ∧
        ∃ k ∈ db.clusters.rows, k.vni ∈ vnis ∧ k.id = hc.clusterId
    · exact .inr ⟨hostId, vnis, vmIds, hw, hdrop⟩
    · rw [heq]
      exact .inl ⟨hc, mem_hostClusters_ackTombstones.mpr ⟨h, hdrop⟩, rfl⟩

/-- **What a call can do to the outbox**: mark entries, append a fresh one, or drop those of a VM. -/
theorem pendingCommands_cases (w : Write) (db : Db) :
    (∃ p : PendingCommand → Bool, (w.exec db).1.pendingCommands.rows =
      db.pendingCommands.rows.map fun c => if p c then { c with state := .sent } else c) ∨
    (∃ hostId vmId cmd id, w = .enqueuePendingCommand hostId vmId cmd ∧ (w.exec db).1.pendingCommands.rows =
      db.pendingCommands.rows ++ [⟨id, hostId, vmId, cmd, .pending⟩]) ∨
    ∃ vmId, w = .ackPendingCommandsForVm vmId ∧
      (w.exec db).1.pendingCommands = db.pendingCommands.delete fun c => c.vmId = vmId := by
  have same : ∀ {db' : Db}, db'.pendingCommands = db.pendingCommands → ∃ p : PendingCommand → Bool,
      db'.pendingCommands.rows = db.pendingCommands.rows.map fun c => if p c then { c with state := .sent } else c :=
    fun heq => ⟨fun _ => false, heq ▸ (map_id _).symm⟩
  refine w.exec_elim db (.inl (same rfl)) fun heff => ?_
  cases heff with
  | markCommandSent => exact .inl ⟨_, rfl⟩
  | enqueuePendingCommand hins => exact .inr (.inl ⟨_, _, _, _, rfl, rows_insert hins⟩)
  | ackPendingCommandsForVm => exact .inr (.inr ⟨_, rfl, rfl⟩)
  | ackTombstones => exact .inl (same ackTombstones_frame.2.2.1)
  | _ => exact .inl (same rfl)

/-- A cluster row is one that was there, up to its trust domain, or the one just inserted. -/
theorem clusters_exec {k' : ClusterRow} (h : k' ∈ (w.exec db).1.clusters.rows) :
    (∃ k ∈ db.clusters.rows, k.SameCluster k') ∨ w = .insertCluster k' ∧ ∃ u, (w.exec db).2 = .ok u := by
  obtain ⟨heq, -⟩ | ⟨res, hres, heff⟩ := w.exec_cases db
  · rw [heq] at h
    exact .inl ⟨k', h, rfl⟩
  generalize (w.exec db).1 = db' at heff h
  cases heff with
  | insertCluster hins =>
    rcases (mem_insert hins).mp h with h | rfl
    · exact .inl ⟨k', h, rfl⟩
    · exact .inr ⟨rfl, _, hres⟩
  | updateClusterTrustDomain =>
    obtain ⟨k, hk, rfl⟩ := mem_map.mp h
    refine .inl ⟨k, hk, ?_⟩
    split <;> rfl
  | ackTombstones => exact .inl ⟨k', (mem_clusters_ackTombstones.mp h).1, rfl⟩
  | _ => exact .inl ⟨k', h, rfl⟩

/-- **A cluster row stays unless an ack names its VNI while nothing keeps it.** -/
theorem clusters_kept (h : k ∈ db.clusters.rows) :
    (∃ k' ∈ (w.exec db).1.clusters.rows, k.SameCluster k') ∨ ∃ hostId vnis vmIds,
      w = .ackTombstones hostId vnis vmIds ∧ k.vni ∈ vnis ∧ db.keptThrough hostId vmIds k.id = false := by
  refine w.exec_elim db (.inl ⟨k, h, rfl⟩) fun heff => ?_
  cases heff with
  | insertCluster hins => exact .inl ⟨k, (mem_insert hins).mpr (.inl h), rfl⟩
  | updateClusterTrustDomain =>
    refine .inl ⟨_, mem_map.mpr ⟨k, h, rfl⟩, ?_⟩
    split <;> rfl
  | @ackTombstones hostId vnis vmIds =>
    by_cases hdrained : k.vni ∈ vnis ∧ db.keptThrough hostId vmIds k.id = false
    · exact .inr ⟨hostId, vnis, vmIds, rfl, hdrained⟩
    · exact .inl ⟨k, mem_clusters_ackTombstones.mpr ⟨h, hdrained⟩, rfl⟩
  | _ => exact .inl ⟨k, h, rfl⟩

/-- The calls that delete an address. -/
def Drops (db : Db) (a : IpAllocation) : Write → Prop
  | .releaseVmIps vmId => a.owner = .vm vmId
  | .releaseClusterIps clusterId => a.owner = .cluster clusterId
  | .ackTombstones hostId vnis vmIds => (∃ v ∈ vmIds, a.owner = .vm v) ∨
    ∃ c ∈ db.clusters.rows, c.vni ∈ vnis ∧ db.keptThrough hostId vmIds c.id = false ∧ a.owner = .cluster c.id
  | _ => False

/-- **An address stays allocated unless one of three calls drops it.** -/
theorem ipAllocations_exec (ha : a ∈ db.ipAllocations.rows) :
    a ∈ (w.exec db).1.ipAllocations.rows ∨ w.Drops db a := by
  refine w.exec_elim db (.inl ha) fun heff => ?_
  cases heff with
  | allocatePoolVip h | allocateClusterVmIp h | reserveSpecificIp h => exact .inl ((mem_insert h).mpr (.inl ha))
  | allocateServiceBlock h => exact .inl (reserveBlock_rows h ▸ mem_append_left _ ha)
  | @releaseVmIps vmId =>
    by_cases howner : a.owner = .vm vmId
    · exact .inr howner
    · exact .inl (mem_delete.mpr ⟨ha, decide_eq_false howner⟩)
  | @releaseClusterIps clusterId =>
    by_cases howner : a.owner = .cluster clusterId
    · exact .inr howner
    · exact .inl (mem_delete.mpr ⟨ha, decide_eq_false howner⟩)
  | @ackTombstones hostId vnis vmIds =>
    by_cases hdrop : (Write.ackTombstones hostId vnis vmIds).Drops db a
    · exact .inr hdrop
    · obtain ⟨hvms, hclusters⟩ := not_or.mp hdrop
      refine .inl (mem_ipAllocations_ackTombstones.mpr ⟨ha, fun v hv ho => hvms ⟨v, hv, ho⟩, hclusters⟩)
  | _ => exact .inl ha

/-- For whom a call allocates. -/
def allocatesFor : Write → Option IpOwner
  | .allocatePoolVip _ clusterId => some (.cluster clusterId)
  | .allocateClusterVmIp _ vmId => some (.vm vmId)
  | .reserveSpecificIp _ _ owner => some owner
  | .allocateServiceBlock _ _ clusterId _ => some (.cluster clusterId)
  | _ => none

theorem ipAllocations_new (ha : a ∈ (w.exec db).1.ipAllocations.rows) :
    a ∈ db.ipAllocations.rows ∨ w.allocatesFor = some a.owner := by
  revert ha
  refine w.exec_elim db .inl fun heff ha => ?_
  cases heff with
  | allocatePoolVip h | allocateClusterVmIp h | reserveSpecificIp h =>
    exact ((mem_insert h).mp ha).imp_right (by rintro rfl; rfl)
  | allocateServiceBlock h =>
    rw [reserveBlock_rows h] at ha
    exact (mem_append.mp ha).imp_right fun hnew => by
      obtain ⟨n, -, rfl⟩ := mem_map.mp hnew
      rfl
  | releaseVmIps | releaseClusterIps => exact .inl (mem_delete.mp ha).1
  | ackTombstones => exact .inl (mem_ipAllocations_ackTombstones.mp ha).1
  | _ => exact .inl ha

end Write

end BasisCell
