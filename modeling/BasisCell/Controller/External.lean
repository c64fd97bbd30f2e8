import BasisCell.Controller.Identity
import BasisCell.Controller.Networks

/-!
# `BasisCell.Controller.External` — who holds which pool address

The public apiserver VIP of a cluster and the addresses of its service block come from one pool, through two
allocators with different searches, and both write `ip_allocations`. Its primary key is the address alone, so
two holders of one address cannot be stored; what has to be shown is that a cluster row never outlives the
allocations it was committed with. Three calls release addresses: the rollback of a round, which is for an
identifier that no row has; the release of a VM's address; and the cascade of an ack, which deletes the
cluster row in the same transaction.

The layer `external` carries this through `create_cluster`: from each allocation on, the round's addresses
are held under its identifier, in the pool's host range, until the row is in. A service block asked for at
half the pool or less cannot wrap the address space when its search is aligned.
-/

namespace BasisCell

open Conc Relational Table List

variable {es : List (Event Activity)} {effectiveCpu : Int → Int} {k : ClusterRow} {c : Cell}

/-! ## The allocators -/

namespace Db

variable {db db' : Db} {scope : String} {range : ParsedRange} {owner : IpOwner}

theorem mem_candidates {n : Ipv4Addr} (hrange : range.start ≤ range.stop) :
    n ∈ candidates range ↔ range.start ≤ n ∧ n ≤ range.stop := by
  have hlen : ∀ start stop m : Nat, start ≤ stop →
      (start ≤ m ∧ m < start + max 1 (stop + 1 - start) ↔ start ≤ m ∧ m ≤ stop) := by
    intro start stop m _
    omega
  unfold candidates
  rw [mem_range'_1]
  exact hlen _ _ _ hrange

theorem vtep_of_free {a : Ipv4Addr} (h : db.addressTaken scope a = false) :
    ∀ host ∈ db.hosts.rows, Ipv4Addr.parse host.vtepAddress ≠ some a := by
  intro host hhost hparse
  obtain ⟨-, htext⟩ := Ipv4Addr.text_of_parse hparse
  have hne : host.vtepAddress ≠ "" := by
    intro hempty
    rw [hempty] at hparse
    cases hparse
  have htaken : (db.hosts.rows.any fun h => h.vtepAddress ≠ "" ∧ h.vtepAddress = a.text) = true :=
    any_eq_true.mpr ⟨host, hhost, decide_eq_true ⟨hne, htext.symm⟩⟩
  unfold addressTaken at h
  rw [htaken, Bool.or_true] at h
  cases h

end Db

/-- A block that ends inside the address space is not larger than it. -/
theorem exponent_le {start stop k : Nat} (hstop : start + (2 ^ k - 1) ≤ stop) (htop : stop < 2 ^ 32) : k ≤ 32 := by
  have hpos : 0 < 2 ^ k := Nat.two_pow_pos k
  have hpow : 2 ^ k ≤ 2 ^ 32 := by omega
  exact (Nat.pow_le_pow_iff_right (by decide)).mp hpow

/-- An aligned block of `2 ^ k` addresses, as a network. -/
theorem Ipv4Net.contains_aligned {start k : Nat} {a : Ipv4Addr} (hk : k ≤ 32) (hdvd : 2 ^ k ∣ start) :
    (⟨start, 32 - k⟩ : Ipv4Net).contains a = true ↔ start ≤ a ∧ a < start + 2 ^ k := by
  have hsize : (⟨start, 32 - k⟩ : Ipv4Net).size = 2 ^ k := by
    unfold size
    congr 1
    show 32 - (32 - k) = k
    omega
  have hnetwork : (⟨start, 32 - k⟩ : Ipv4Net).network = start := by
    unfold network
    rw [hsize]
    exact Nat.div_mul_cancel hdvd
  have hlast : ∀ first size n : Nat, 0 < size →
      (first ≤ n ∧ n ≤ first + size - 1 ↔ first ≤ n ∧ n < first + size) := by
    intro first size n _
    omega
  unfold contains broadcast
  rw [hnetwork, hsize, decide_eq_true_iff]
  exact hlast start (2 ^ k) a (Nat.two_pow_pos k)

/-- The host range of a valid pool is not empty and inside the pool. -/
theorem Pool.range_of_valid {net : NetworkConfig} {pool : Pool} (hvalid : net.Valid) (hpool : pool ∈ net.pools) :
    (ParsedRange.parsePoolRange pool).start ≤ (ParsedRange.parsePoolRange pool).stop ∧
      ∀ a, (ParsedRange.parsePoolRange pool).start ≤ a → a ≤ (ParsedRange.parsePoolRange pool).stop →
        pool.cidr.contains a = true := by
  obtain ⟨-, hprefix⟩ := hvalid.pools pool hpool
  have hsize : 2 ^ 2 ≤ pool.cidr.size := Nat.pow_le_pow_right (by decide) (by omega)
  have hhosts : ∀ first size : Nat, 4 ≤ size → first + 1 ≤ first + size - 1 - 1 ∧
      ∀ n, first + 1 ≤ n → n ≤ first + size - 1 - 1 → first ≤ n ∧ n ≤ first + size - 1 := by
    intro first size _
    refine ⟨by omega, fun n _ _ => by omega⟩
  obtain ⟨hne, hinside⟩ := hhosts pool.cidr.network pool.cidr.size hsize
  exact ⟨hne, fun a hstart hstop => decide_eq_true (hinside a hstart hstop)⟩

/-! ## What a cluster holds -/

/-- The cluster asks for at most half of its pool. -/
def Activity.fits (settings : Settings) : Activity → Bool
  | createCluster req _ => (settings.network.poolByName req.externalIpPool).all fun pool =>
    req.serviceCount settings.network ≤ pool.cidr.size / 2
  | _ => true

/-- Is the apiserver's address one of the pool's? -/
def ApiserverVisibility.isPublic (visibility : Int) : Bool := tryFrom visibility = some .apiserverPublic

namespace Db

/-- The cluster holds an address of the pool's host range. -/
structure Owns (db : Db) (pool : Pool) (id : ClusterId) (a : Ipv4Addr) : Prop where
  held : ⟨a, pool.name, .cluster id⟩ ∈ db.ipAllocations.rows
  start_le : (ParsedRange.parsePoolRange pool).start ≤ a
  le_stop : a ≤ (ParsedRange.parsePoolRange pool).stop

/-- The cluster holds its apiserver address, if that is a pool address. -/
def Fronted (net : NetworkConfig) (id : ClusterId) (poolName : String) (visibility : Int) (endpoint : Ipv4Addr)
    (db : Db) : Prop :=
  ∀ pool, net.poolByName poolName = some pool → ApiserverVisibility.isPublic visibility = true →
    db.Owns pool id endpoint

/-- The cluster holds its service block too, and the apiserver's address is not in it. -/
structure Equipped (net : NetworkConfig) (id : ClusterId) (poolName : String) (visibility : Int)
    (endpoint : Ipv4Addr) (block : Ipv4Net) (db : Db) : Prop where
  pool : ∃ pool, net.poolByName poolName = some pool
  fronted : db.Fronted net id poolName visibility endpoint
  prefix_le : block.prefixLen ≤ 32
  block : ∀ pool, net.poolByName poolName = some pool → ∀ a, block.contains a = true →
    db.Owns pool id a ∧ (ApiserverVisibility.isPublic visibility = true → a ≠ endpoint)

/-- Every address of the cluster stays. -/
def Keeps (db db' : Db) (id : ClusterId) : Prop :=
  ∀ a ∈ db.ipAllocations.rows, a.owner = .cluster id → a ∈ db'.ipAllocations.rows

variable {db db' : Db} {net : NetworkConfig} {id : ClusterId} {poolName : String} {visibility : Int}
variable {endpoint a : Ipv4Addr} {block : Ipv4Net} {pool : Pool}

theorem Owns.mono (h : db.Owns pool id a) (hkeeps : db.Keeps db' id) : db'.Owns pool id a :=
  ⟨hkeeps _ h.held rfl, h.start_le, h.le_stop⟩

theorem Fronted.mono (h : db.Fronted net id poolName visibility endpoint) (hkeeps : db.Keeps db' id) :
    db'.Fronted net id poolName visibility endpoint :=
  fun pool hpool hpublic => (h pool hpool hpublic).mono hkeeps

theorem Equipped.mono (h : db.Equipped net id poolName visibility endpoint block) (hkeeps : db.Keeps db' id) :
    db'.Equipped net id poolName visibility endpoint block :=
  ⟨h.pool, h.fronted.mono hkeeps, h.prefix_le,
    fun pool hpool a ha => (h.block pool hpool a ha).imp_left (·.mono hkeeps)⟩

/-- What a cluster row was committed with is still held. -/
def RowEquipped (net : NetworkConfig) (k : ClusterRow) (db : Db) : Prop :=
  ∃ block, k.serviceBlockCidr = some block ∧
    db.Equipped net k.id k.externalPool k.apiserverVisibility k.controlPlaneEndpoint block

theorem fronted_of_allocate (hvalid : net.Valid) (hpool : net.poolByName poolName = some pool)
    (h : db.allocatePoolVip pool id = .ok (db', a)) : db'.Fronted net id poolName visibility a := by
  obtain ⟨hmem, -⟩ := NetworkConfig.mem_of_poolByName hpool
  obtain ⟨hrange, -⟩ := Pool.range_of_valid hvalid hmem
  obtain ⟨⟨hpick, -⟩, t, ht, rfl⟩ := allocateFromRange_ok h
  obtain ⟨hstart, hstop⟩ := (mem_candidates hrange).mp hpick
  intro pool' hpool' _
  obtain rfl : pool = pool' := Option.some.inj (hpool.symm.trans hpool')
  exact ⟨(mem_insert ht).mpr (.inr rfl), hstart, hstop⟩

theorem stop_lt_of_valid (hvalid : net.Valid) (hpool : pool ∈ net.pools) :
    (ParsedRange.parsePoolRange pool).stop < 2 ^ 32 := by
  obtain ⟨hrange, hinside⟩ := Pool.range_of_valid hvalid hpool
  exact Ipv4Net.lt_of_contains (hvalid.pools pool hpool).1 (hinside _ hrange (Nat.le_refl _))

/-- A block out of the pool, for a count of at most half of it. -/
theorem equipped_of_allocate (hvalid : net.Valid) (hpool : net.poolByName poolName = some pool) {count : Nat}
    (hhalf : count ≤ pool.cidr.size / 2) (hfront : db.Fronted net id poolName visibility endpoint)
    (h : db.allocateServiceBlock pool.name (.parsePoolRange pool) id count = .ok (db', block)) :
    db'.Equipped net id poolName visibility endpoint block := by
  obtain ⟨hmem, -⟩ := NetworkConfig.mem_of_poolByName hpool
  obtain ⟨k, start, t, rfl, rfl, hdvd, hle, hstop, hfree, hreserve, rfl⟩ := allocateServiceBlock_ok h
  have hrows := reserveBlock_rows hreserve
  have hpos : 0 < 2 ^ k := Nat.two_pow_pos k
  obtain ⟨hwf, hprefix⟩ := hvalid.pools pool hmem
  -- the pool ends below `2 ^ 32`, so half of it past its network address does too
  have htop : pool.cidr.network + pool.cidr.size ≤ 2 ^ 32 := by
    have hlast : pool.cidr.contains pool.cidr.broadcast = true := by
      have hsize := pool.cidr.size_pos
      have hends : ∀ first size : Nat, 0 < size → first ≤ first + size - 1 := by
        intro first size _
        omega
      exact decide_eq_true ⟨hends _ _ hsize, Nat.le_refl _⟩
    have hlt : pool.cidr.network + pool.cidr.size - 1 < 2 ^ 32 := Ipv4Net.lt_of_contains hwf hlast
    have hsub : ∀ n m : Nat, 0 < n → n - 1 < m → n ≤ m := by
      intro n m _ _
      omega
    exact hsub _ _ (Nat.add_pos_right _ pool.cidr.size_pos) hlt
  have hstart : (ParsedRange.parsePoolRange pool).start ≤ start := by
    have hnowrap : (ParsedRange.parsePoolRange pool).start + (2 ^ k - 1) < 2 ^ 32 := by
      have hsum : ∀ first size count : Nat, 0 < count → count ≤ size / 2 → first + size ≤ 2 ^ 32 →
          first + 1 + (count - 1) < 2 ^ 32 := by
        intro first size count _ _ _
        omega
      exact hsum _ _ _ hpos hhalf htop
    rw [Nat.mod_eq_of_lt hnowrap] at hle
    exact Nat.le_trans (Dyadic.align_up hpos).1 hle
  have hk : k ≤ 32 := exponent_le hstop (stop_lt_of_valid hvalid hmem)
  have hkeeps : db.Keeps { db with ipAllocations := t } id := fun r hr _ => hrows ▸ mem_append_left _ hr
  refine ⟨⟨pool, hpool⟩, hfront.mono hkeeps, Nat.sub_le _ _, fun pool' hpool' a ha => ?_⟩
  obtain rfl : pool = pool' := Option.some.inj (hpool.symm.trans hpool')
  obtain ⟨hfirst, hlast⟩ := (Ipv4Net.contains_aligned hk hdvd).mp ha
  have hnew : (⟨a, pool.name, .cluster id⟩ : IpAllocation) ∈
      (List.range' start (2 ^ k)).map fun n => ⟨n, pool.name, .cluster id⟩ :=
    mem_map.mpr ⟨a, mem_range'_1.mpr ⟨hfirst, hlast⟩, rfl⟩
  refine ⟨⟨hrows ▸ mem_append_right _ hnew, Nat.le_trans hstart hfirst, ?_⟩, fun hpublic heq => ?_⟩
  · have hend : ∀ n first size : Nat, 0 < size → n < first + size → n ≤ first + (size - 1) := by
      intro n first size _ _
      omega
    exact Nat.le_trans (hend _ _ _ hpos hlast) hstop
  · -- the endpoint has a row already, so the block's insert would have clashed
    subst heq
    have hdistinct := t.distinct
    rw [hrows] at hdistinct
    exact (pairwise_append.mp hdistinct).2.2 _ (hfront pool hpool hpublic).held _ hnew rfl

end Db

/-! ## The layer -/

/-- Phases and stages over identifiers and slots. -/
def slotted (settings : Settings) : Outline Activity Op Op.Resp Shared (Phase × Stage) (List String) :=
  identity.fst.layered (networks settings.network (List String))

theorem slotted_sound {settings : Settings} (hvalid : settings.network.Valid) (C : Cell → Event Activity → Prop) :
    (slotted settings).Sound (cellDiscipline settings) (cell settings) C :=
  (networks_sound hvalid _ C).sound ((identity_sound settings C).fst (stages_govern settings))

theorem slotted_start (settings : Settings) (effectiveCpu : Int → Int) :
    (slotted settings).inv [] [] (Shared.boot (Db.create effectiveCpu)) :=
  ⟨identity_start effectiveCpu, forall_mem_nil _⟩

theorem slotted_run {settings : Settings} (hvalid : settings.network.Valid)
    (hrun : (cell settings).run (Cell.start (Db.create effectiveCpu)) es = some c) :
    ∃ γ, (slotted settings).Annotated (cellDiscipline settings) c γ :=
  Outline.annotated_run (slotted_sound hvalid fun _ _ => True) (Outline.annotated_empty (slotted_start settings _))
    (Transition.along_of_forall fun _ _ => trivial) hrun

section Keeps

variable {settings : Settings} {s : Shared} {t : Activity} {g : Phase} {o : Op} {γ : List String} {id : ClusterId}

/-- Only its own rollback and an ack that deletes its row release a cluster's addresses. -/
theorem keeps_exec (hack : ∀ hostId vnis vmIds, o = .write (.ackTombstones hostId vnis vmIds) →
      ∀ k ∈ s.db.clusters.rows, k.id = id → ¬(k.vni ∈ vnis ∧ s.db.keptThrough hostId vmIds k.id = false))
    (hrollback : o ≠ .write (.releaseClusterIps id)) : s.db.Keeps (o.exec s).1.db id := by
  intro a ha howner
  refine o.db_elim s ha ?_
  rintro w rfl
  refine (Write.ipAllocations_exec ha).resolve_right fun hdrop => ?_
  cases w with
  | releaseVmIps v => cases howner.symm.trans hdrop
  | releaseClusterIps id' =>
    have hid : id = id' := IpOwner.cluster.inj (howner.symm.trans hdrop)
    exact hrollback (by rw [hid])
  | ackTombstones hostId vnis vmIds =>
    rcases hdrop with ⟨v, -, ho⟩ | ⟨k, hk, hvni, hdrain, ho⟩
    · cases howner.symm.trans ho
    · have hid : id = k.id := IpOwner.cluster.inj (howner.symm.trans ho)
      exact hack hostId vnis vmIds rfl k hk hid.symm ⟨hvni, hdrain⟩
  | _ => exact hdrop

theorem mem_mints {req : CreateClusterRequest} {ids : RoundIds}
    (i : Fin maxAllocationAttempts) : ids i ∈ (Activity.createCluster req ids).mints := mem_ofFn.mpr ⟨i, rfl⟩

theorem unused_of_rollback (hknown : IdsKnown t g γ) (hallow : Allows t g (.write (.releaseClusterIps id))) :
    id ∈ t.mints ∧ id ∉ γ := by
  cases hallow with
  | rollback i => exact ⟨mem_mints i, hknown.unused rfl _ (mem_mints i)⟩

/-- Addresses for a cluster are allocated by `create_cluster`, before its row is in. -/
theorem start_of_allocates {w : Write} (hallow : Allows t g (.write w)) (hw : w.allocatesFor = some (.cluster id)) :
    g = .start := by
  cases hallow <;> first | rfl | cases hw

/-- The addresses of a cluster whose row survives the step stay. -/
theorem keeps_of_survives {started : List Activity} (hrows : RowsNoted started γ s.db) (hknown : IdsKnown t g γ)
    (hallow : Allows t g o) {k' : ClusterRow} (hk : k ∈ s.db.clusters.rows) (hsame : k.SameCluster k')
    (hk' : k' ∈ (o.exec s).1.db.clusters.rows) : s.db.Keeps (o.exec s).1.db k.id := by
  refine keeps_exec ?_ ?_
  · rintro hostId vnis vmIds rfl j hj hid hdrained
    obtain ⟨hmem, hkept⟩ := Db.mem_clusters_ackTombstones.mp hk'
    obtain rfl : j = k' := eq_of_clash hj hmem (.inl (hid.trans hsame.id))
    exact hkept hdrained
  · rintro rfl
    exact (unused_of_rollback hknown hallow).2 (hrows.clusters k hk)

/-- The addresses under an identifier without a row stay, but for its own round's rollback. -/
theorem keeps_of_unused {started : List Activity} (hrows : RowsNoted started γ s.db) (hid : id ∉ γ)
    (hrollback : o ≠ .write (.releaseClusterIps id)) : s.db.Keeps (o.exec s).1.db id := by
  refine keeps_exec (fun _ _ _ _ k hk heq _ => ?_) hrollback
  exact hid (heq ▸ hrows.clusters k hk)

end Keeps

/-! ## Holdings of a round -/

/-- What is known of the addresses of a round of `create_cluster`: when it has its endpoint, when it has its block too,
    and once its row is in. -/
structure Holdings where
  front : Db → CreateClusterRequest → ClusterId → ClusterNetwork → Ipv4Addr → Prop
  full : Db → CreateClusterRequest → ClusterId → ClusterNetwork → Ipv4Addr → Ipv4Net → Prop
  row : Db → ClusterRow → Prop

namespace Holdings

/-- What the round that is going on has. -/
def hand (H : Holdings) (db : Db) : Activity → Phase → Stage → Prop
  | .createCluster req ids, g, .fronted id network endpoint =>
    g = .start ∧ (∃ i, id = ids i) ∧ H.front db req id network endpoint
  | .createCluster req ids, g, .equipped id network endpoint block =>
    g = .start ∧ (∃ i, id = ids i) ∧ H.full db req id network endpoint block
  | _, _, _ => True

/-- Each allocation gives what is said of it, and what is known stays as long as the addresses do. -/
structure Lasting (H : Holdings) (net : NetworkConfig) : Prop where
  front_mono {db db' req id network endpoint} : H.front db req id network endpoint → db.Keeps db' id →
    H.front db' req id network endpoint
  full_mono {db db' req id network endpoint block} : H.full db req id network endpoint block → db.Keeps db' id →
    H.full db' req id network endpoint block
  row_mono {db db' k k'} : H.row db k → db.Keeps db' k.id → k.SameCluster k' → H.row db' k'
  poolVip {db db' : Db} {req id network pool ip} : net.poolByName req.externalIpPool = some pool →
    ApiserverVisibility.tryFrom req.apiserverVisibility = some .apiserverPublic →
    db.allocatePoolVip pool id = .ok (db', ip) → H.front db' req id network ip
  privateVip {db db' : Db} {req id} {network : ClusterNetwork} {scope} :
    ApiserverVisibility.tryFrom req.apiserverVisibility = some .apiserverPrivate →
    db.reserveSpecificIp scope network.privateApiserverIp (.cluster id) = .ok db' →
    H.front db' req id network network.privateApiserverIp
  row_of_full {db req id network endpoint block} : H.full db req id network endpoint block →
    H.row db (.fromNetwork id req endpoint (some block) network)

section Lasting

variable {H : Holdings} {settings : Settings} {s : Shared} {t : Activity} {g : Phase} {a : Stage} {o : Op}
variable {γ : List String} {started : List Activity}
variable (hlast : H.Lasting settings.network) (hrows : RowsNoted started γ s.db) (hknown : IdsKnown t g γ)

include hlast hrows hknown

/-- What a round has stays with it through anybody's step that is not its own rollback. -/
theorem Lasting.hand_stays (h : H.hand s.db t g a)
    (hrollback : ∀ id ∈ t.mints, o ≠ .write (.releaseClusterIps id)) : H.hand (o.exec s).1.db t g a := by
  unfold hand at h ⊢
  split at h
  · obtain ⟨rfl, ⟨i, rfl⟩, hfront⟩ := h
    have hkeeps := keeps_of_unused hrows (hknown.unused rfl _ (mem_mints i)) (hrollback _ (mem_mints i))
    exact ⟨rfl, ⟨i, rfl⟩, hlast.front_mono hfront hkeeps⟩
  · obtain ⟨rfl, ⟨i, rfl⟩, hfull⟩ := h
    have hkeeps := keeps_of_unused hrows (hknown.unused rfl _ (mem_mints i)) (hrollback _ (mem_mints i))
    exact ⟨rfl, ⟨i, rfl⟩, hlast.full_mono hfull hkeeps⟩
  · trivial

/-- **A round's own step.** The block is left to the layer, which may have a condition on the request. -/
theorem Lasting.hand_next (hallow : Allows t g o) (hgrant : Grants settings t a o) (h : H.hand s.db t g a)
    (hblock : ∀ {req ids id network endpoint pool db' block}, t = .createCluster req ids →
      settings.network.poolByName req.externalIpPool = some pool → H.front s.db req id network endpoint →
      s.db.allocateServiceBlock pool.name (.parsePoolRange pool) id (req.serviceCount settings.network) =
        .ok (db', block) → H.full db' req id network endpoint block) :
    H.hand (o.exec s).1.db t (t.next g o (o.exec s).2) (a.next o (o.exec s).2) := by
  cases hgrant with
  | free _ => cases t <;> trivial
  | unwatched ho =>
    rw [Stage.next_of_unwatched ho]
    have hstay := hlast.hand_stays hrows hknown h (o := o) fun id _ heq => by rw [heq] at ho; cases ho
    cases t with
    | createCluster req ids =>
      have hphase : provisionNext g o (o.exec s).2 = g := by
        unfold provisionNext
        split
        · cases ho
        · rfl
      show H.hand _ _ (provisionNext g o (o.exec s).2) a
      rw [hphase]
      exact hstay
    | _ => trivial
  | pick =>
    cases hr : ((Op.query (.allocateClusterNetwork settings.network)).exec s).2 <;> trivial
  | @poolVip req ids network pool i hpool hvisible =>
    cases hr : ((Op.write (.allocatePoolVip pool (ids i))).exec s).2 with
    | error e => trivial
    | ok ip =>
      obtain rfl := start_of_allocates hallow rfl
      exact ⟨rfl, ⟨i, rfl⟩, hlast.poolVip hpool hvisible (Write.apply_of_ok hr)⟩
  | @privateVip req ids network i hhidden =>
    cases hr : ((Op.write (.reserveSpecificIp s!"cluster:{ids i}" network.privateApiserverIp (.cluster (ids i)))).exec
      s).2 with
    | error e => trivial
    | ok u =>
      obtain rfl := start_of_allocates hallow rfl
      exact ⟨rfl, ⟨i, rfl⟩, hlast.privateVip hhidden (Write.done_ok (Write.apply_of_ok hr))⟩
  | @serviceBlock req ids id network endpoint pool hpool =>
    obtain ⟨rfl, hid, hfront⟩ := h
    cases hr : ((Op.write (.allocateServiceBlock pool.name (.parsePoolRange pool) id
      (req.serviceCount settings.network))).exec s).2 with
    | error e =>
      refine ⟨rfl, hid, ?_⟩
      rw [Op.exec_write_db, Write.exec_of_error hr]
      exact hfront
    | ok block => exact ⟨rfl, hid, hblock rfl hpool hfront (Write.apply_of_ok hr)⟩
  | @insertCluster req ids id network endpoint block =>
    obtain ⟨rfl, hid, hfull⟩ := h
    cases hr : ((Op.write (.insertCluster (.fromNetwork id req endpoint (some block) network))).exec s).2 with
    | error e =>
      refine ⟨rfl, hid, ?_⟩
      rw [Op.exec_write_db, Write.exec_of_error hr]
      exact hfull
    | ok u => trivial
  | _ => trivial

theorem Lasting.rows_exec (hallow : Allows t g o) (hgrant : Grants settings t a o) (hhand : H.hand s.db t g a)
    (h : ∀ k ∈ s.db.clusters.rows, H.row s.db k) :
    ∀ k ∈ (o.exec s).1.db.clusters.rows, H.row (o.exec s).1.db k := by
  intro k' hk'
  have hkept : ∀ k ∈ s.db.clusters.rows, k.SameCluster k' → H.row (o.exec s).1.db k' := by
    intro k hk hsame
    exact hlast.row_mono (h k hk) (keeps_of_survives hrows hknown hallow hk hsame hk') hsame
  cases o with
  | query q => exact hkept k' hk' (.refl k')
  | mem m => exact hkept k' (Op.exec_mem_db m s ▸ hk') (.refl k')
  | write w =>
    rcases Write.clusters_exec hk' with ⟨k, hk, hsame⟩ | ⟨rfl, u, hu⟩
    · exact hkept k hk hsame
    · -- the row that went in has what the round had in hand
      cases hallow with
      | insertCluster i hid =>
        cases hgrant with
        | free hfirst => cases hfirst
        | unwatched ho => cases ho
        | insertCluster =>
          obtain ⟨-, -, hfull⟩ := hhand
          refine hlast.row_mono (hlast.row_of_full hfull) (fun a ha _ => ?_) (.refl _)
          exact (Write.ipAllocations_exec ha).resolve_right fun hdrop => hdrop

end Lasting

end Holdings

section Layer

variable {settings : Settings}

/-- The pool addresses of a round. -/
def equipment (net : NetworkConfig) : Holdings where
  front := fun db req id _ endpoint => db.Fronted net id req.externalIpPool req.apiserverVisibility endpoint
  full := fun db req id _ endpoint block => db.Equipped net id req.externalIpPool req.apiserverVisibility endpoint block
  row := fun db k => db.RowEquipped net k

theorem equipment_lasting {net : NetworkConfig} (hvalid : net.Valid) : (equipment net).Lasting net where
  front_mono := fun hfront hkeeps => hfront.mono hkeeps
  full_mono := fun hfull hkeeps => hfull.mono hkeeps
  row_mono := by
    rintro db db' k k' ⟨block, hblock, hequipped⟩ hkeeps hsame
    show db'.RowEquipped net k'
    rw [← hsame]
    exact ⟨block, hblock, hequipped.mono hkeeps⟩
  poolVip := fun hpool _ hok => Db.fronted_of_allocate hvalid hpool hok
  privateVip := by
    intro db db' req id network scope hhidden _ pool _ hpublic
    have hvisible := of_decide_eq_true hpublic
    rw [hhidden] at hvisible
    cases hvisible
  row_of_full := fun hfull => ⟨_, rfl, hfull⟩

/-- Provided that every cluster asks for at most half of its pool. -/
def external (settings : Settings) : Layer Activity Shared (Phase × Stage) (List String) where
  inv := fun started _ s => (∀ t ∈ started, t.fits settings = true) →
    ∀ k ∈ s.db.clusters.rows, s.db.RowEquipped settings.network k
  holds := fun t g _ s => t.fits settings = true → (equipment settings.network).hand s.db t g.1 g.2

/-- **Pool addresses stay with their cluster.** -/
theorem external_sound (hvalid : settings.network.Valid) (C : Cell → Event Activity → Prop) :
    (external settings).SoundOver (slotted settings) (cellDiscipline settings) (cell settings) C where
  spawn := by
    intro started γ s t _ hinv
    refine ⟨fun hfits k hk => hinv.2 (fun t' ht' => hfits t' (mem_cons_of_mem _ ht')) k hk, fun _ => ?_⟩
    show (equipment settings.network).hand s.db t .start t.firstStage
    cases t <;> trivial
  exec := by
    intro c γ i t g o hfires
    have hlast := equipment_lasting hvalid
    refine ⟨fun hfits => ?_, fun hfits => ?_⟩
    · exact hlast.rows_exec hfires.inv.1.1 hfires.holds.1.1 hfires.allowed.1 hfires.allowed.2
        (hfires.holds.2 (hfits t hfires.known)) (hfires.inv.2 hfits)
    · refine hlast.hand_next hfires.inv.1.1 hfires.holds.1.1 hfires.allowed.1 hfires.allowed.2 (hfires.holds.2 hfits) ?_
      rintro req ids id network endpoint pool db' block rfl hpool hfront hok
      have hhalf : req.serviceCount settings.network ≤ pool.cidr.size / 2 := by
        change Option.all _ (settings.network.poolByName req.externalIpPool) = true at hfits
        rw [hpool] at hfits
        exact of_decide_eq_true hfits
      exact Db.equipped_of_allocate hvalid hpool hhalf hfront hok
  frame := by
    intro c γ i t g o task g' hfires _ hapart _ hholds hfits
    refine (equipment_lasting hvalid).hand_stays hfires.inv.1.1 hholds.1.1 (hholds.2 hfits) fun id hid heq => ?_
    -- another round's rollback is for another identifier
    subst heq
    exact hapart id (unused_of_rollback hfires.holds.1.1 hfires.allowed.1).1 hid
  reboot := fun h => h
  reboot_holds := fun h => h

end Layer

/-! ## Exclusivity -/

/-- The pool addresses of a cluster: its public apiserver VIP and its service block. -/
def ClusterRow.External (k : ClusterRow) (a : Ipv4Addr) : Prop :=
  (ApiserverVisibility.isPublic k.apiserverVisibility = true ∧ a = k.controlPlaneEndpoint) ∨
    ∃ block, k.serviceBlockCidr = some block ∧ block.contains a = true

def Db.HeldBy (db : Db) (id : ClusterId) (a : Ipv4Addr) : Prop :=
  ∃ r ∈ db.ipAllocations.rows, r.ipAddress = a ∧ r.owner = .cluster id

/-- The address went to the cluster at some event of the run and has stayed with it, and no host was registered
    under it when it did. -/
def ClearWhenAllocated (settings : Settings) (c₀ : Cell) (es : List (Event Activity)) (id : ClusterId)
    (a : Ipv4Addr) : Prop :=
  ∃ es₁ e es₂ c₁ c₂, es = es₁ ++ e :: es₂ ∧ (cell settings).run c₀ es₁ = some c₁ ∧
    (cell settings).step c₁ e = some c₂ ∧ ¬c₁.shared.db.HeldBy id a ∧ c₂.shared.db.HeldBy id a ∧
    (cell settings).Along (fun c _ => c.shared.db.HeldBy id a) c₂ es₂ ∧
    ∀ host ∈ c₁.shared.db.hosts.rows, Ipv4Addr.parse host.vtepAddress ≠ some a

section Exclusive

variable {settings : Settings} {id : ClusterId} {a : Ipv4Addr}

theorem Db.RowEquipped.owns {db : Db} {net : NetworkConfig} (h : db.RowEquipped net k)
    (ha : k.External a) : ∃ pool, net.poolByName k.externalPool = some pool ∧ db.Owns pool k.id a := by
  obtain ⟨block, hblock, hequipped⟩ := h
  obtain ⟨pool, hpool⟩ := hequipped.pool
  refine ⟨pool, hpool, ?_⟩
  rcases ha with ⟨hpublic, rfl⟩ | ⟨block', hblock', hmem⟩
  · exact hequipped.fronted pool hpool hpublic
  · obtain rfl : block = block' := Option.some.inj (hblock.symm.trans hblock')
    exact (hequipped.block pool hpool a hmem).1

theorem supernet_privateApiserverIp {net : NetworkConfig} (hvalid : net.Valid) {network : ClusterNetwork}
    (h : net.Carved network) : net.clusterSupernet.contains network.privateApiserverIp = true := by
  obtain ⟨i, hi, -, rfl⟩ := h
  refine NetworkConfig.supernet_of_slot hvalid hi (decide_eq_true ?_)
  have hsize : 2 ^ 2 ≤ (net.slot i).size := by
    have hprefix := hvalid.prefix_le
    exact Nat.pow_le_pow_right (by decide) (by show 2 ≤ 32 - net.clusterPrefix; omega)
  have hbounds : ∀ first size : Nat, 2 ^ 2 ≤ size →
      first ≤ first + size - 1 - 1 ∧ first + size - 1 - 1 ≤ first + size - 1 := by
    intro first size _
    omega
  exact hbounds _ _ hsize

/-- Whoever gives a cluster an address of a pool has looked at the hosts. -/
theorem clear_of_allocated (hvalid : settings.network.Valid) {γ : List String} {i : Nat} {t : Activity}
    {g : Phase × Stage} {o : Op} {C : Cell → Event Activity → Prop}
    (hfires : (slotted settings).Fires (cellDiscipline settings) C c γ i t g o) {pool : Pool}
    (hpool : pool ∈ settings.network.pools) (hinside : pool.cidr.contains a = true)
    (hnot : ¬c.shared.db.HeldBy id a) (hheld : (o.exec c.shared).1.db.HeldBy id a) :
    ∀ host ∈ c.shared.db.hosts.rows, Ipv4Addr.parse host.vtepAddress ≠ some a := by
  obtain ⟨r, hr, rfl, howner⟩ := hheld
  have hnew : r ∉ c.shared.db.ipAllocations.rows := fun hmem => hnot ⟨r, hmem, rfl, howner⟩
  revert hr
  refine o.db_elim c.shared (fun hr => absurd hr hnew) ?_
  rintro w rfl hr
  have hfor := (Write.ipAllocations_new hr).resolve_left hnew
  cases hres : (w.exec c.shared.db).2 with
  | error e =>
    rw [Op.exec_write_db, Write.exec_of_error hres] at hr
    exact absurd hr hnew
  | ok res =>
    have happly := Write.apply_of_ok hres
    cases w with
    | allocatePoolVip pool' id' =>
      obtain ⟨⟨-, hfree⟩, tbl, hins, hdb⟩ := Db.allocateFromRange_ok happly
      rw [Op.exec_write_db, hdb] at hr
      obtain rfl := ((mem_insert hins).mp hr).resolve_left hnew
      exact Db.vtep_of_free hfree
    | allocateServiceBlock scope range id' count =>
      obtain ⟨k, start, tbl, -, -, -, -, -, hfree, hreserve, hdb⟩ := Db.allocateServiceBlock_ok happly
      rw [Op.exec_write_db, hdb] at hr
      rw [Db.reserveBlock_rows hreserve] at hr
      obtain ⟨n, hn, rfl⟩ := mem_map.mp ((mem_append.mp hr).resolve_left hnew)
      exact Db.vtep_of_free (hfree n hn)
    | reserveSpecificIp scope ip owner =>
      -- a private apiserver address is in the supernet, away from every pool
      obtain ⟨tbl, hins, hdb⟩ := Db.reserveSpecificIp_ok (Write.done_ok happly)
      rw [Op.exec_write_db, hdb] at hr
      obtain rfl := ((mem_insert hins).mp hr).resolve_left hnew
      obtain ⟨hallow, hgrant⟩ := hfires.allowed
      have hcarved : Stage.Carved settings.network g.2 := hfires.holds.2
      generalize g.1 = phase at hallow
      generalize g.2 = stage at hgrant hcarved
      have hsuper : settings.network.clusterSupernet.contains ip = true := by
        cases hgrant with
        | free hfirst =>
          cases hallow
          cases hfirst
        | unwatched ho => cases ho
        | privateVip i _ => exact supernet_privateApiserverIp hvalid hcarved
        | placed => cases hallow
      have hoverlap := cidrsOverlap_iff.mpr ⟨_, hsuper, hinside⟩
      rw [hvalid.apart pool hpool] at hoverlap
      cases hoverlap
    | allocateClusterVmIp cluster vmId =>
      rw [howner] at hfor
      cases hfor
    | _ => cases hfor

/-- An address of a pool that a cluster holds was clear of hosts when it got it. -/
theorem clearWhenAllocated (hvalid : settings.network.Valid)
    (hrun : (cell settings).run (Cell.start (Db.create effectiveCpu)) es = some c) {pool : Pool}
    (hpool : pool ∈ settings.network.pools) (hinside : pool.cidr.contains a = true)
    (hheld : c.shared.db.HeldBy id a) :
    ClearWhenAllocated settings (Cell.start (Db.create effectiveCpu)) es id a := by
  have hempty : ¬(Cell.start (Db.create effectiveCpu)).shared.db.HeldBy id a := by
    rintro ⟨r, hr, -⟩
    exact not_mem_nil hr
  obtain ⟨es₁, e, es₂, c₁, c₂, hes, hrun₁, hstep, hnot, hyes, -, halong⟩ :=
    Transition.exists_last_switch (P := fun c => c.shared.db.HeldBy id a) hempty hrun hheld
  obtain ⟨γ, hc₁⟩ := slotted_run hvalid hrun₁
  refine ⟨es₁, e, es₂, c₁, c₂, hes, hrun₁, hstep, hnot, hyes, halong, ?_⟩
  cases Machine.step_cases hstep with
  | spawn | drop | crash => exact absurd hyes hnot
  | exec =>
    obtain ⟨g, hfires, -⟩ := hc₁.fires (C := fun _ _ => True) trivial
    exact clear_of_allocated hvalid hfires hpool hinside hnot hyes

theorem rowsEquipped_run (hvalid : settings.network.Valid)
    (hrun : (cell settings).run (Cell.start (Db.create effectiveCpu)) es = some c)
    (hfits : ∀ t ∈ c.started, t.fits settings = true) :
    ∀ k ∈ c.shared.db.clusters.rows, c.shared.db.RowEquipped settings.network k := by
  have hsound := (external_sound hvalid fun _ _ => True).sound (slotted_sound hvalid _)
  obtain ⟨γ, hc⟩ := Outline.annotated_run hsound
    (Outline.annotated_empty ⟨slotted_start settings effectiveCpu, fun _ _ h => absurd h not_mem_nil⟩)
    (Transition.along_of_forall fun _ _ => trivial) hrun
  exact hc.inv.2 hfits

theorem eq_of_external {db : Db} {net : NetworkConfig} (h : ∀ k ∈ db.clusters.rows, db.RowEquipped net k)
    {k' : ClusterRow} (hk : k ∈ db.clusters.rows) (hk' : k' ∈ db.clusters.rows) (ha : k.External a)
    (ha' : k'.External a) : k = k' := by
  obtain ⟨pool, -, howns⟩ := (h k hk).owns ha
  obtain ⟨pool', -, howns'⟩ := (h k' hk').owns ha'
  have hrow := eq_of_clash howns.held howns'.held rfl
  have hid : k.id = k'.id := IpOwner.cluster.inj (congrArg IpAllocation.owner hrow)
  exact eq_of_clash hk hk' (.inl hid)

end Exclusive

/-- **External addresses are exclusive.** In every run from an empty database under a validated configuration in
    which no cluster asks for more than half of its pool: two clusters share no pool address and a public VIP is
    not in its own cluster's block; every pool address of a cluster is in the host range of the cluster's own
    pool, is held by the cluster, and was no host's when it was allocated. -/
theorem external_addresses_exclusive (settings : Settings) (hvalid : settings.network.validate = .ok ())
    (effectiveCpu : Int → Int) (es : List (Event Activity)) (c : Cell)
    (hrun : (cell settings).run (Cell.start (Db.create effectiveCpu)) es = some c)
    (hfits : ∀ t ∈ c.started, t.fits settings = true) :
    (∀ k ∈ c.shared.db.clusters.rows, ∀ k' ∈ c.shared.db.clusters.rows, k ≠ k' →
      ∀ a, ¬(k.External a ∧ k'.External a)) ∧
    ∀ k ∈ c.shared.db.clusters.rows,
      (∀ block, k.serviceBlockCidr = some block → ApiserverVisibility.isPublic k.apiserverVisibility = true →
        block.contains k.controlPlaneEndpoint = false) ∧
      ∀ a, k.External a →
        (∃ pool, settings.network.poolByName k.externalPool = some pool ∧
          (ParsedRange.parsePoolRange pool).start ≤ a ∧ a ≤ (ParsedRange.parsePoolRange pool).stop) ∧
        c.shared.db.HeldBy k.id a ∧
        ClearWhenAllocated settings (Cell.start (Db.create effectiveCpu)) es k.id a := by
  have hnet := NetworkConfig.valid_of_validate hvalid
  have hrows := rowsEquipped_run hnet hrun hfits
  refine ⟨fun k hk k' hk' hne a ⟨ha, ha'⟩ => hne (eq_of_external hrows hk hk' ha ha'), fun k hk => ⟨?_, ?_⟩⟩
  · intro block hblock hpublic
    obtain ⟨block', hblock', hequipped⟩ := hrows k hk
    obtain rfl : block' = block := Option.some.inj (hblock'.symm.trans hblock)
    obtain ⟨pool, hpool⟩ := hequipped.pool
    rw [← Bool.not_eq_true]
    exact fun hmem => (hequipped.block pool hpool _ hmem).2 hpublic rfl
  · intro a ha
    obtain ⟨pool, hpool, howns⟩ := (hrows k hk).owns ha
    have hmem := (NetworkConfig.mem_of_poolByName hpool).1
    have hinside := (Pool.range_of_valid hnet hmem).2 a howns.start_le howns.le_stop
    have hheld : c.shared.db.HeldBy k.id a := ⟨_, howns.held, rfl, rfl⟩
    exact ⟨⟨pool, hpool, howns.start_le, howns.le_stop⟩, hheld, clearWhenAllocated hnet hrun hmem hinside hheld⟩

theorem external_addresses_exclusive_smallCell :
    smallCell.network.validate = .ok () ∧
      ∃ c, (cell smallCell).run emptyCell upToBoth = some c ∧ (∀ t ∈ c.started, t.fits smallCell = true) ∧
        c.shared.db.clusters.rows.map (·.id) = ["c0", "d1"] ∧
        (∀ k ∈ c.shared.db.clusters.rows, ∀ k' ∈ c.shared.db.clusters.rows, k ≠ k' →
          ∀ a, ¬(k.External a ∧ k'.External a)) ∧
        ∀ k ∈ c.shared.db.clusters.rows, ∀ a, k.External a → c.shared.db.HeldBy k.id a := by
  have hvalid : smallCell.network.validate = .ok () := by decide +kernel
  have hrun := run_reached upToBoth (by decide +kernel)
  have hfits : ∀ t ∈ (reached upToBoth).started, t.fits smallCell = true := by
    decide +kernel
  obtain ⟨hapart, hown⟩ := external_addresses_exclusive smallCell hvalid id upToBoth _ hrun hfits
  exact ⟨hvalid, _, hrun, hfits, by decide +kernel, hapart, fun k hk a ha => ((hown k hk).2 a ha).2.1⟩

end BasisCell
