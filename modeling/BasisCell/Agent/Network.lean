import BasisCell.Agent.Handlers

/-!
# `BasisCell.Agent.Network` — the cluster networks of a host

`network/cluster.rs`: per cluster a bridge `brc<vni>` and a VXLAN device `vxc<vni>`, routes for its VIPs on the
bridge, a masquerade rule for its CIDR, and proxy-ARP entries on the uplink for the VIPs this host owns. The
kernel is a set of tables that `ip`, `bridge` and `iptables` read and write, one `NetCmd` per command line; the
agent remembers what it has programmed in the map `live`.

A command fails by not being spawned or by its exit status, which the source tells apart. `NetCmd.exec` is a
kernel on which commands fail only for want of the object they name. Devices of clusters are named by their VNI,
prefixes and addresses by their texts, which the kernel is taken to print as it was given them; of several routes
for one prefix in one table the last one stays. Connected routes are the kernel's own and left out, and so are
metrics and logging. A `BTreeSet` is a list without repetitions.
-/

namespace BasisCell.Agent.Network

open Conc Relational

/-! ## The kernel -/

/-- A tree's VRF and its routing table. -/
structure TreeVrf where
  name : String
  tableId : Nat
  deriving DecidableEq, Repr

/-- `brc<vni>`; the master is a VRF. -/
structure Bridge where
  vni : Nat
  mtu : Nat := 1500
  up : Bool := false
  master : Option String := none
  addresses : List String := []
  deriving DecidableEq, Repr

instance : Schema Bridge where
  Clash a b := a.vni = b.vni
  clash_symm h := h.symm
  decClash _ _ := inferInstance

/-- `vxc<vni>`, with the destinations that it floods to. -/
structure Vxlan where
  vni : Nat
  localAddress : String
  mtu : Nat := 1500
  up : Bool := false
  attached : Bool := false
  flood : List String := []
  deriving DecidableEq, Repr

instance : Schema Vxlan where
  Clash a b := a.vni = b.vni
  clash_symm h := h.symm
  decClash _ _ := inferInstance

structure VrfLink where
  name : String
  tableId : Nat
  up : Bool := false
  deriving DecidableEq, Repr

instance : Schema VrfLink where
  Clash a b := a.name = b.name
  clash_symm h := h.symm
  decClash _ _ := inferInstance

/-- A route through the bridge of cluster `dev`; `none` is the main table. Without a next hop it is a link route. -/
structure Route where
  table : Option Nat
  dst : String
  dev : Nat
  via : Option String := none
  deriving DecidableEq, Repr

instance : Schema Route where
  Clash a b := a.table = b.table ∧ a.dst = b.dst
  clash_symm h := h.imp Eq.symm Eq.symm
  decClash _ _ := inferInstance

/-- The two rules of a cluster: masquerading towards the uplink, and the MSS clamp. -/
inductive Rule where
  | masquerade (cidr : String)
  | clampMss (cidr : String)
  deriving DecidableEq, Repr

structure Kernel where
  bridges : Table Bridge := .empty
  vxlans : Table Vxlan := .empty
  vrfs : Table VrfLink := .empty
  routes : Table Route := .empty
  rules : List Rule := []
  /-- Proxy-ARP entries of the uplink. -/
  proxies : List String := []

namespace Kernel

def hasBridge (k : Kernel) (vni : Nat) : Bool := k.bridges.rows.any fun b => b.vni = vni

def hasVxlan (k : Kernel) (vni : Nat) : Bool := k.vxlans.rows.any fun x => x.vni = vni

def hasVrf (k : Kernel) (name : String) : Bool := k.vrfs.rows.any fun v => v.name = name

/-- `ip link set brc<vni> …`. -/
def setBridge (k : Kernel) (vni : Nat) (f : Bridge → Bridge) (hf : KeepsKey f) : Kernel :=
  { k with bridges := k.bridges.update (fun b => b.vni = vni) f hf }

def setVxlan (k : Kernel) (vni : Nat) (f : Vxlan → Vxlan) (hf : KeepsKey f) : Kernel :=
  { k with vxlans := k.vxlans.update (fun x => x.vni = vni) f hf }

def setVrf (k : Kernel) (name : String) (f : VrfLink → VrfLink) (hf : KeepsKey f) : Kernel :=
  { k with vrfs := k.vrfs.update (fun v => v.name = name) f hf }

/-- A bridge that changes its master goes down and up again, which flushes its routes. -/
def enslaved (k : Kernel) (vni : Nat) (vrf : String) : Kernel :=
  let moved := k.bridges.rows.any fun b => b.vni = vni ∧ b.master ≠ some vrf
  { k.setBridge vni (fun b => { b with master := some vrf }) (fun _ _ => Iff.rfl) with
    routes := if moved then k.routes.delete fun r => r.dev = vni else k.routes }

/-- A bridge takes its routes with it and leaves its port behind. -/
def withoutBridge (k : Kernel) (vni : Nat) : Kernel :=
  { k with
    bridges := k.bridges.delete fun b => b.vni = vni
    vxlans := k.vxlans.update (fun x => x.vni = vni) (fun x => { x with attached := false }) fun _ _ => Iff.rfl
    routes := k.routes.delete fun r => r.dev = vni }

def withoutVxlan (k : Kernel) (vni : Nat) : Kernel := { k with vxlans := k.vxlans.delete fun x => x.vni = vni }

/-- A VRF releases the bridges in it. -/
def withoutVrf (k : Kernel) (name : String) : Kernel :=
  { k with
    vrfs := k.vrfs.delete fun v => v.name = name
    bridges := k.bridges.update (fun b => b.master = some name) (fun b => { b with master := none })
      fun _ _ => Iff.rfl }

end Kernel

/-! ## Commands -/

inductive Link where
  | bridge (vni : Nat)
  | vxlan (vni : Nat)
  | vrf (name : String)
  deriving DecidableEq, Repr

def vxlanName (vni : Nat) : String := s!"vxc{vni}"

def Link.name : Link → String
  | bridge vni => bridgeName vni
  | vxlan vni => vxlanName vni
  | vrf name => name

def Kernel.has (k : Kernel) : Link → Bool
  | .bridge vni => k.hasBridge vni
  | .vxlan vni => k.hasVxlan vni
  | .vrf name => k.hasVrf name

inductive NetCmd where
  /-- The VNIs of the `brc<vni>` in `/sys/class/net`. -/
  | listBridges
  | linkShow (link : Link)
  /-- The `master` word of `ip -o link show brc<vni>`. -/
  | linkMaster (vni : Nat)
  /-- Does `ip -o link show master <vrf>` print anything? -/
  | linkSlaves (vrf : String)
  | linkAddBridge (vni : Nat)
  | linkAddVxlan (vni : Nat) (localAddress : String)
  | linkAddVrf (vrf : TreeVrf)
  | linkSetMtu (link : Link) (mtu : Nat)
  | linkSetUp (link : Link)
  /-- `ip link set brc<vni> master <vrf>`. -/
  | enslave (vni : Nat) (vrf : String)
  /-- `ip link set vxc<vni> master brc<vni>`. -/
  | attach (vni : Nat)
  | linkDelete (link : Link)
  /-- The `inet` addresses of the bridge. -/
  | addrShow (vni : Nat)
  | addrReplace (vni : Nat) (address : String)
  | ruleCheck (rule : Rule)
  | ruleAppend (rule : Rule)
  | ruleDelete (rule : Rule)
  | routeShow (vni : Nat) (table : Option Nat)
  | routeReplace (vni : Nat) (table : Option Nat) (dst : String)
  /-- The same in the main table, which this command line names. -/
  | replyRoute (vni : Nat) (dst : String)
  | routeDel (vni : Nat) (table : Option Nat) (dst : String)
  /-- `ip route replace <dst> via <nextHop> dev brc<vni>`. -/
  | viaReplace (vni : Nat) (table : Option Nat) (dst nextHop : String)
  | viaDel (vni : Nat) (table : Option Nat) (dst nextHop : String)
  | fdbShow (vni : Nat)
  | fdbAppend (vni : Nat) (dst : String)
  | fdbDel (vni : Nat) (dst : String)
  | neighShow
  | neighReplace (addr : String)
  | neighDel (addr : String)
  | arping (addr : String)
  deriving DecidableEq

/-- What is read off a command's output. -/
def NetCmd.Out : NetCmd → Type
  | .listBridges => List Nat
  | .linkMaster _ => Option String
  | .linkSlaves _ => Bool
  | .addrShow _ => List String
  | .routeShow _ _ => List Route
  | .fdbShow _ => List String
  | .neighShow => List String
  | _ => Unit

/-- How a command fails. -/
inductive CmdFailure where
  | spawn (what : String)
  | status (stderr : String)
  deriving DecidableEq, Repr

def Rule.spec (uplink : String) : Rule → String
  | masquerade cidr => s!"POSTROUTING -s {cidr} -o {uplink} -j MASQUERADE"
  | clampMss cidr => s!"FORWARD -s {cidr} -p tcp --tcp-flags SYN,RST SYN -j TCPMSS --clamp-mss-to-pmtu"

def Rule.table : Rule → String
  | masquerade _ => "nat"
  | clampMss _ => "mangle"

def tableArg : Option Nat → String
  | none => ""
  | some t => s!" table {t}"

/-- The command line, as far as an error message quotes it. -/
def NetCmd.line (uplink : String) : NetCmd → String
  | .linkAddBridge vni => s!"ip link add {bridgeName vni} type bridge"
  | .linkAddVxlan vni localAddress =>
    s!"ip link add {vxlanName vni} type vxlan id {vni} dstport 4789 local {localAddress}"
  | .linkAddVrf vrf => s!"ip link add {vrf.name} type vrf table {vrf.tableId}"
  | .linkSetMtu link mtu => s!"ip link set {link.name} mtu {mtu}"
  | .linkSetUp link => s!"ip link set {link.name} up"
  | .enslave vni vrf => s!"ip link set {bridgeName vni} master {vrf}"
  | .attach vni => s!"ip link set {vxlanName vni} master {bridgeName vni}"
  | .linkDelete link => s!"ip link delete {link.name}"
  | .addrReplace vni address => s!"ip addr replace {address} dev {bridgeName vni}"
  | .ruleAppend rule => s!"iptables -t {rule.table} -A " ++ rule.spec uplink
  | .routeReplace vni table dst => s!"ip route replace {dst} dev {bridgeName vni}" ++ tableArg table
  | .replyRoute vni dst => s!"ip route replace {dst} dev {bridgeName vni} table main"
  | .routeDel vni table dst => s!"ip route del {dst} dev {bridgeName vni}" ++ tableArg table
  | .viaReplace vni table dst nextHop =>
    s!"ip route replace {dst} via {nextHop} dev {bridgeName vni}" ++ tableArg table
  | .viaDel vni table dst nextHop => s!"ip route del {dst} via {nextHop} dev {bridgeName vni}" ++ tableArg table
  | .fdbAppend vni dst => s!"bridge fdb append 00:00:00:00:00:00 dev {vxlanName vni} dst {dst}"
  | .fdbDel vni dst => s!"bridge fdb del 00:00:00:00:00:00 dev {vxlanName vni} dst {dst}"
  | .neighReplace addr => s!"ip neigh replace proxy {addr} dev {uplink}"
  | .neighDel addr => s!"ip neigh del proxy {addr} dev {uplink}"
  | _ => ""

/-- A command on an object that has to be there. -/
def onObject {α : Type} (present : Bool) (k k' : Kernel) (out : α) : Kernel × Except CmdFailure α :=
  if present then (k', .ok out) else (k, .error (.status "Cannot find device"))

/-- A command that adds an object. -/
def onNew {α : Type} [Schema α] (table : Option (Table α)) (k : Kernel) (put : Table α → Kernel) :
    Kernel × Except CmdFailure Unit :=
  match table with
  | some table => (put table, .ok ())
  | none => (k, .error (.status "RTNETLINK answers: File exists"))

def NetCmd.exec : (c : NetCmd) → Kernel → Kernel × Except CmdFailure c.Out
  | .listBridges, k => (k, .ok (k.bridges.rows.map (·.vni)))
  | .linkShow link, k => onObject (k.has link) k k ()
  | .linkMaster vni, k =>
    onObject (k.hasBridge vni) k k ((k.bridges.find fun b => b.vni = vni).bind (·.master))
  | .linkSlaves vrf, k => onObject (k.hasVrf vrf) k k (k.bridges.rows.any fun b => b.master = some vrf)
  | .linkAddBridge vni, k => onNew (k.bridges.insert { vni }) k fun bridges => { k with bridges }
  | .linkAddVxlan vni localAddress, k =>
    onNew (k.vxlans.insert { vni, localAddress }) k fun vxlans => { k with vxlans }
  | .linkAddVrf vrf, k =>
    onNew (k.vrfs.insert { name := vrf.name, tableId := vrf.tableId }) k fun vrfs => { k with vrfs }
  | .linkSetMtu (.bridge vni) mtu, k =>
    onObject (k.hasBridge vni) k (k.setBridge vni (fun b => { b with mtu }) fun _ _ => Iff.rfl) ()
  | .linkSetMtu (.vxlan vni) mtu, k =>
    onObject (k.hasVxlan vni) k (k.setVxlan vni (fun x => { x with mtu }) fun _ _ => Iff.rfl) ()
  | .linkSetMtu (.vrf name) _, k => onObject (k.hasVrf name) k k ()
  | .linkSetUp (.bridge vni), k =>
    onObject (k.hasBridge vni) k (k.setBridge vni (fun b => { b with up := true }) fun _ _ => Iff.rfl) ()
  | .linkSetUp (.vxlan vni), k =>
    onObject (k.hasVxlan vni) k (k.setVxlan vni (fun x => { x with up := true }) fun _ _ => Iff.rfl) ()
  | .linkSetUp (.vrf name), k =>
    onObject (k.hasVrf name) k (k.setVrf name (fun v => { v with up := true }) fun _ _ => Iff.rfl) ()
  | .enslave vni vrf, k => onObject (k.hasBridge vni && k.hasVrf vrf) k (k.enslaved vni vrf) ()
  | .attach vni, k =>
    onObject (k.hasVxlan vni && k.hasBridge vni) k
      (k.setVxlan vni (fun x => { x with attached := true }) fun _ _ => Iff.rfl) ()
  | .linkDelete (.bridge vni), k => onObject (k.hasBridge vni) k (k.withoutBridge vni) ()
  | .linkDelete (.vxlan vni), k => onObject (k.hasVxlan vni) k (k.withoutVxlan vni) ()
  | .linkDelete (.vrf name), k => onObject (k.hasVrf name) k (k.withoutVrf name) ()
  | .addrShow vni, k =>
    onObject (k.hasBridge vni) k k (((k.bridges.find fun b => b.vni = vni).map (·.addresses)).getD [])
  | .addrReplace vni address, k =>
    onObject (k.hasBridge vni) k
      (k.setBridge vni (fun b =>
        { b with addresses := if address ∈ b.addresses then b.addresses else b.addresses ++ [address] })
        fun _ _ => Iff.rfl) ()
  | .ruleCheck rule, k => onObject (decide (rule ∈ k.rules)) k k ()
  | .ruleAppend rule, k => ({ k with rules := k.rules ++ [rule] }, .ok ())
  | .ruleDelete rule, k => onObject (decide (rule ∈ k.rules)) k { k with rules := k.rules.erase rule } ()
  | .routeShow vni table, k =>
    onObject (k.hasBridge vni) k k (k.routes.rows.filter fun r => r.dev = vni ∧ r.table = table)
  | .routeReplace vni table dst, k =>
    onObject (k.hasBridge vni) k { k with routes := k.routes.upsert { table, dst, dev := vni } } ()
  | .replyRoute vni dst, k =>
    onObject (k.hasBridge vni) k { k with routes := k.routes.upsert { table := none, dst, dev := vni } } ()
  | .routeDel vni table dst, k =>
    onObject (k.routes.rows.any fun r => r.table = table ∧ r.dst = dst ∧ r.dev = vni) k
      { k with routes := k.routes.delete fun r => r.table = table ∧ r.dst = dst ∧ r.dev = vni } ()
  | .viaReplace vni table dst nextHop, k =>
    onObject (k.hasBridge vni) k
      { k with routes := k.routes.upsert { table, dst, dev := vni, via := some nextHop } } ()
  | .viaDel vni table dst nextHop, k =>
    onObject (k.routes.rows.any fun r => r = { table, dst, dev := vni, via := some nextHop }) k
      { k with routes := k.routes.delete fun r => r = { table, dst, dev := vni, via := some nextHop } } ()
  | .fdbShow vni, k => onObject (k.hasVxlan vni) k k (((k.vxlans.find fun x => x.vni = vni).map (·.flood)).getD [])
  | .fdbAppend vni dst, k =>
    onObject (k.hasVxlan vni) k
      (k.setVxlan vni (fun x => { x with flood := if dst ∈ x.flood then x.flood else x.flood ++ [dst] })
        fun _ _ => Iff.rfl) ()
  | .fdbDel vni dst, k =>
    onObject (k.hasVxlan vni) k
      (k.setVxlan vni (fun x => { x with flood := x.flood.filter (· ≠ dst) }) fun _ _ => Iff.rfl) ()
  | .neighShow, k => (k, .ok k.proxies)
  | .neighReplace addr, k =>
    ({ k with proxies := if addr ∈ k.proxies then k.proxies else k.proxies ++ [addr] }, .ok ())
  | .neighDel addr, k =>
    onObject (decide (addr ∈ k.proxies)) k { k with proxies := k.proxies.filter (· ≠ addr) } ()
  | .arping _, k => (k, .ok ())

/-! ## The agent's memory -/

/-- What the agent has materialised of a cluster. -/
structure ClusterLive where
  vni : Nat
  cidr : Option String := none
  prefixes : List String := []
  proxyArpAddrs : List String := []
  vrf : Option TreeVrf := none
  deriving DecidableEq, Repr

instance : Schema ClusterLive where
  Clash a b := a.vni = b.vni
  clash_symm h := h.symm
  decClash _ _ := inferInstance

/-- The configuration of `ClusterManager`. -/
structure NetSpec where
  vtepAddress : String
  uplinkMtu : Nat
  uplinkBridge : String

/-- Kernel and memory. A restart of the agent empties `live` and `hostId`. -/
structure Net where
  kernel : Kernel := {}
  live : Table ClusterLive := .empty
  hostId : HostId := ""

/-- Operations on `live`, whose lock every caller holds, and on `host_id`. -/
inductive LiveOp where
  | find (vni : Nat)
  | insert (entry : ClusterLive)
  | remove (vni : Nat)
  | values
  | hostId

def LiveOp.Resp : LiveOp → Type
  | .find _ => Option ClusterLive
  | .remove _ => Option ClusterLive
  | .values => List ClusterLive
  | .hostId => HostId
  | .insert _ => Unit

def LiveOp.exec : (o : LiveOp) → Net → Net × o.Resp
  | .find vni, s => (s, s.live.find fun e => e.vni = vni)
  | .insert entry, s => ({ s with live := s.live.put entry }, ())
  | .remove vni, s =>
    ({ s with live := s.live.delete fun e => e.vni = vni }, s.live.find fun e => e.vni = vni)
  | .values, s => (s, s.live.rows)
  | .hostId, s => (s, s.hostId)

inductive NetOp where
  | cmd (c : NetCmd)
  | live (o : LiveOp)

def NetOp.Resp : NetOp → Type
  | .cmd c => Except CmdFailure c.Out
  | .live o => o.Resp

def NetOp.exec : (o : NetOp) → Net → Net × o.Resp
  | .cmd c, s => ({ s with kernel := (c.exec s.kernel).1 }, (c.exec s.kernel).2)
  | .live o, s => o.exec s

abbrev NetJob (α : Type) := Prog NetOp NetOp.Resp α

abbrev NetFallible (α : Type) := ExceptT NetworkError (Prog NetOp NetOp.Resp) α

def attempt (c : NetCmd) : NetJob (Except CmdFailure c.Out) := Prog.perform (NetOp.cmd c)

def live (o : LiveOp) : NetFallible o.Resp := ExceptT.lift (Prog.perform (NetOp.live o))

/-- `Command::output().await?`: an exit status is still an answer. -/
def answer {α : Type} : Except CmdFailure α → Except NetworkError (Except String α)
  | .ok out => .ok (.ok out)
  | .error (.status stderr) => .ok (.error stderr)
  | .error (.spawn what) => .error (.commandFailed what)

def spawned (c : NetCmd) : NetFallible (Except String c.Out) := ExceptT.mk do return answer (← attempt c)

/-- `run_cmd`. -/
def runCmd (spec : NetSpec) (c : NetCmd) : NetFallible c.Out := do
  match ← spawned c with
  | .ok out => return out
  | .error stderr => throw (.bridgeFailed s!"{c.line spec.uplinkBridge} failed: {stderr}")

/-- A command whose failure is only logged. -/
def logged (c : NetCmd) : NetFallible Unit := ExceptT.lift do let _ ← attempt c

/-! ## What a command says about a cluster -/

/-- `fnv1a_64`. -/
def fnv1a64 (bytes : List UInt8) : UInt64 :=
  bytes.foldl (fun h b => (h ^^^ b.toUInt64) * 0x100000001b3) 0xcbf29ce484222325

/-- Ten lower-case hex digits. -/
def hex10 (n : Nat) : String :=
  let digits := Nat.toDigits 16 n
  String.ofList (List.replicate (10 - digits.length) '0' ++ digits)

/-- `vrf_for`. -/
def vrfFor (trustDomain : String) : TreeVrf :=
  let h := (fnv1a64 trustDomain.toUTF8.toList).toNat
  ⟨"bvrf-" ++ hex10 (h % 2 ^ 40), h % 2 ^ 31 % 4000000000 + 10000⟩

/-- The VRF that the cluster's trust domain puts it in. -/
def treeVrf (cluster : ClusterState) : Option TreeVrf :=
  if cluster.trustDomain = "" then none else some (vrfFor cluster.trustDomain)

/-- `Ipv4Net::hosts`. -/
def hosts (n : Ipv4Net) : List Ipv4Addr :=
  if 31 ≤ n.prefixLen then (List.range n.size).map (n.network + ·)
  else (List.range (n.size - 2)).map (n.network + 1 + ·)

/-- The VIPs whose CIDR parses, with their networks. -/
def parsedVips (vips : List ClusterVip) : List (ClusterVip × Ipv4Net) :=
  vips.filterMap fun vip => (Ipv4Net.parse vip.cidr).map fun net => (vip, net)

/-- The prefixes of `expand_lan_vips`: every carrier routes them. -/
def lanPrefixes (vips : List ClusterVip) : List String := ((parsedVips vips).map fun p => p.1.cidr).dedup

/-- The addresses of `expand_lan_vips`: only a VIP's owner answers ARP for it. -/
def lanAddrs (vips : List ClusterVip) (selfHostId : HostId) : List String :=
  (((parsedVips vips).filter fun p => p.1.ownerHostId = selfHostId ∧ selfHostId ≠ "").flatMap fun p =>
    (hosts p.2).map Ipv4Addr.text).dedup

/-- `expand_lan_vips`. -/
def expandLanVips (vips : List ClusterVip) (selfHostId : HostId) : List String × List String :=
  (lanPrefixes vips, lanAddrs vips selfHostId)

/-- `expand_tree_prefixes`. -/
def expandTreePrefixes (prefixes : List String) : List String :=
  (prefixes.filter fun s => (Ipv4Net.parse s).isSome).dedup

/-- The link routes a cluster is to have in the main table. -/
def wantMain (cluster : ClusterState) (lan tree : List String) : List String :=
  if (treeVrf cluster).isSome then if cluster.cidr = "" then lan else (cluster.cidr :: lan).dedup
  else (lan ++ tree).dedup

/-- The link routes it is to have in its VRF's table. A transit-only host has no connected route for the CIDR. -/
def wantCombined (cluster : ClusterState) (lan tree : List String) : List String :=
  if (treeVrf cluster).isSome ∧ cluster.gatewayIp = "" ∧ cluster.cidr ≠ "" then (cluster.cidr :: (lan ++ tree)).dedup
  else (lan ++ tree).dedup

/-! ## `ensure_cluster_inner` -/

def linkExists (link : Link) : NetFallible Bool := do
  match ← spawned (.linkShow link) with
  | .ok _ => return true
  | .error _ => return false

/-- `if !link_exists(link) { add }`. -/
def createMissing (link : Link) (add : NetFallible Unit) : NetFallible Unit := do
  if ← linkExists link then return ()
  else add

def ensureVrf (spec : NetSpec) (vrf : TreeVrf) : NetFallible Unit := do
  createMissing (.vrf vrf.name) (runCmd spec (.linkAddVrf vrf))
  runCmd spec (.linkSetUp (.vrf vrf.name))

def ensureIptablesRule (spec : NetSpec) (rule : Rule) : NetFallible Unit := do
  match ← spawned (.ruleCheck rule) with
  | .ok _ => return ()
  | .error _ => runCmd spec (.ruleAppend rule)

def ensureClusterMasquerade (spec : NetSpec) (cidr : String) : NetFallible Unit := do
  ensureIptablesRule spec (.masquerade cidr)
  ensureIptablesRule spec (.clampMss cidr)

/-- `list_fdb_bum_dsts`. -/
def listFdbBumDsts (vni : Nat) : NetFallible (List String) := do
  match ← spawned (.fdbShow vni) with
  | .ok dsts => return dsts
  | .error stderr => throw (.bridgeFailed s!"bridge fdb show dev {vxlanName vni}: {stderr}")

def reconcileFdb (spec : NetSpec) (vni : Nat) (peers : List String) : NetFallible Unit := do
  let desired := (peers.filter fun p => p ≠ spec.vtepAddress ∧ p ≠ "").dedup
  let current ← listFdbBumDsts vni
  (desired.filter (· ∉ current)).forM fun dst => runCmd spec (.fdbAppend vni dst)
  (current.filter (· ∉ desired)).forM fun dst => logged (.fdbDel vni dst)

def ensureBridge (spec : NetSpec) (vni : Nat) : NetFallible Unit := do
  createMissing (.bridge vni) (runCmd spec (.linkAddBridge vni))
  runCmd spec (.linkSetMtu (.bridge vni) (spec.uplinkMtu - 50))
  runCmd spec (.linkSetUp (.bridge vni))

def ensureTreeVrf (spec : NetSpec) (cluster : ClusterState) : NetFallible Unit :=
  match treeVrf cluster with
  | none => return ()
  | some vrf => do
    ensureVrf spec vrf
    runCmd spec (.enslave cluster.vni vrf.name)

def ensureVxlan (spec : NetSpec) (vni : Nat) : NetFallible Unit := do
  createMissing (.vxlan vni) do
    runCmd spec (.linkAddVxlan vni spec.vtepAddress)
    runCmd spec (.attach vni)
  runCmd spec (.linkSetMtu (.vxlan vni) (spec.uplinkMtu - 50))
  runCmd spec (.linkSetUp (.vxlan vni))

def ensureBridgeAddress (spec : NetSpec) (cluster : ClusterState) : NetFallible Unit :=
  if cluster.gatewayIp ≠ "" ∧ 0 < cluster.prefixLen then
    runCmd spec (.addrReplace cluster.vni s!"{cluster.gatewayIp}/{cluster.prefixLen}")
  else return ()

/-- Only hosts that run VMs of the cluster masquerade for it. -/
def ensureMasquerade (spec : NetSpec) (cluster : ClusterState) : NetFallible Unit :=
  if cluster.gatewayIp ≠ "" ∧ cluster.cidr ≠ "" then ensureClusterMasquerade spec cluster.cidr else return ()

/-- The replies to masqueraded traffic come in on the uplink, outside the VRF. -/
def ensureReplyRoute (spec : NetSpec) (cluster : ClusterState) : NetFallible Unit :=
  if (treeVrf cluster).isSome ∧ cluster.gatewayIp ≠ "" ∧ cluster.cidr ≠ "" then
    runCmd spec (.replyRoute cluster.vni cluster.cidr)
  else return ()

def ensureClusterInner (spec : NetSpec) (cluster : ClusterState) : NetFallible Unit := do
  ensureBridge spec cluster.vni
  ensureTreeVrf spec cluster
  ensureVxlan spec cluster.vni
  ensureBridgeAddress spec cluster
  ensureMasquerade spec cluster
  ensureReplyRoute spec cluster
  reconcileFdb spec cluster.vni cluster.vtepAddresses

/-! ## `reconcile` -/

/-- `list_kernel_prefix_routes`: routes with a next hop belong to the route watcher. -/
def listKernelPrefixRoutes (vni : Nat) (table : Option Nat) : NetFallible (List String) := do
  match ← spawned (.routeShow vni table) with
  | .ok routes => return (routes.filter fun r => r.via = none).map (·.dst)
  | .error _ => return []

/-- Converge the link routes of a bridge in one table: add what is missing, then delete what is stale. -/
def reconcileRoutes (spec : NetSpec) (vni : Nat) (table : Option Nat) (want : List String) : NetFallible Unit := do
  let current ← listKernelPrefixRoutes vni table
  (want.filter (· ∉ current)).forM fun dst => runCmd spec (.routeReplace vni table dst)
  (current.filter (· ∉ want)).forM fun dst => logged (.routeDel vni table dst)

/-- `read_bridge_cluster_cidr`: the network of the first address that parses. -/
def readBridgeClusterCidr (vni : Nat) : NetFallible (Option String) := do
  match ← spawned (.addrShow vni) with
  | .ok addresses =>
    return (addresses.filterMap Ipv4Net.parse).head?.map fun net => (⟨net.network, net.prefixLen⟩ : Ipv4Net).text
  | .error _ => return none

/-- A bridge that the agent does not know gets an entry without contributions. -/
def seed (vni : Nat) : NetFallible Unit := do
  if (← live (.find vni)).isNone then
    let cidr ← readBridgeClusterCidr vni
    live (.insert { vni, cidr })

def reconcileVrfRoutes (spec : NetSpec) (cluster : ClusterState) (want : List String) : NetFallible Unit :=
  match treeVrf cluster with
  | none => return ()
  | some vrf => reconcileRoutes spec cluster.vni (some vrf.tableId) want

def reconcileCluster (spec : NetSpec) (cluster : ClusterState) : NetFallible Unit := do
  ensureClusterInner spec cluster
  let selfHostId ← live .hostId
  let (lan, addrs) := expandLanVips cluster.clusterVips selfHostId
  let tree := expandTreePrefixes cluster.internalClusterVips
  reconcileRoutes spec cluster.vni none (wantMain cluster lan tree)
  reconcileVrfRoutes spec cluster (wantCombined cluster lan tree)
  live (.insert
    { vni := cluster.vni
      cidr := if cluster.cidr = "" then none else some cluster.cidr
      prefixes := wantCombined cluster lan tree
      proxyArpAddrs := addrs
      vrf := treeVrf cluster })

/-- `list_kernel_proxy_arp`. -/
def listKernelProxyArp : NetFallible (List String) := do
  match ← spawned .neighShow with
  | .ok addrs => return addrs
  | .error _ => return []

/-- Proxy-ARP is one set for the whole uplink: the union of what all live clusters contribute. -/
def reconcileProxyArp (spec : NetSpec) : NetFallible Unit := do
  let entries ← live .values
  let desired := (entries.flatMap (·.proxyArpAddrs)).dedup
  let current ← listKernelProxyArp
  (desired.filter (· ∉ current)).forM fun addr => do
    runCmd spec (.neighReplace addr)
    logged (.arping addr)
  (current.filter (· ∉ desired)).forM fun addr => logged (.neighDel addr)

/-- `list_kernel_cluster_vnis`: a directory that cannot be read has no bridges. -/
def listKernelClusterVnis : NetJob (List Nat) := do
  match ← attempt .listBridges with
  | .ok vnis => return vnis
  | .error _ => return []

def reconcile (spec : NetSpec) (desired : List ClusterState) : NetFallible Unit := do
  let vnis ← ExceptT.lift listKernelClusterVnis
  vnis.forM seed
  desired.forM (reconcileCluster spec)
  reconcileProxyArp spec

/-! ## `tombstone_cluster` -/

/-- `read_link_master`. -/
def readLinkMaster (vni : Nat) : NetFallible (Option String) := do
  match ← spawned (.linkMaster vni) with
  | .ok master => return master
  | .error _ => return none

def deleteVrfIfUnused (vrf : String) : NetFallible Unit := do
  match ← spawned (.linkSlaves vrf) with
  | .ok false => logged (.linkDelete (.vrf vrf))
  | _ => return ()

/-- The VRF of the bridge, from the kernel if the memory of it was lost. -/
def vrfOf (removed : Option ClusterLive) (vni : Nat) : NetFallible (Option String) :=
  match removed.bind (·.vrf) with
  | some vrf => return some vrf.name
  | none => readLinkMaster vni

/-- Drop the addresses of a removed entry that no other cluster contributes. -/
def dropProxyArp (removed : Option ClusterLive) : NetFallible Unit :=
  match removed with
  | none => return ()
  | some entry => entry.proxyArpAddrs.forM fun addr => do
    let others ← live .values
    if others.any fun other => addr ∈ other.proxyArpAddrs then return ()
    else logged (.neighDel addr)

/-- The CIDR whose rules a tombstone removes: the controller's, or else the one remembered. -/
def masqueradeCidr (removed : Option ClusterLive) (cidr : String) : Option String :=
  if cidr ≠ "" then some cidr else removed.bind (·.cidr)

def removeClusterMasquerade (cidr : String) : NetFallible Unit := do
  logged (.ruleDelete (.masquerade cidr))
  logged (.ruleDelete (.clampMss cidr))

def removeMasquerade : Option String → NetFallible Unit
  | none => return ()
  | some cidr => removeClusterMasquerade cidr

def dropVrf : Option String → NetFallible Unit
  | none => return ()
  | some vrf => if vrf.startsWith "bvrf-" then deleteVrfIfUnused vrf else return ()

def tombstoneCluster (vni : Nat) (cidr : String) : NetFallible Unit := do
  let removed ← live (.remove vni)
  let vrf ← vrfOf removed vni
  dropProxyArp removed
  removeMasquerade (masqueradeCidr removed cidr)
  logged (.linkDelete (.vxlan vni))
  logged (.linkDelete (.bridge vni))
  dropVrf vrf

end BasisCell.Agent.Network
