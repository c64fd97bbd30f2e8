import BasisCell.Lib.Product
import BasisCell.Controller.Discipline

/-!
# `BasisCell.Controller.Stages` — what a create has in hand

`create_cluster` picks a network, takes an apiserver address and a service block under the identifier of its
round, and commits exactly these in one row; `create_machine` reads its cluster, takes an address of that
cluster, and commits it. A `Stage` is what such a handler has in hand at a moment. The stages are a second
discipline beside the phases: they say where the values in a new row come from, for these two handlers only,
and leave every other activity `free`.

`stages_govern` follows the text of the two handlers; `cellDiscipline` is both disciplines at once.
-/

namespace BasisCell

open Conc Conc.Protocol Handler

inductive Stage where
  /-- Not watched. -/
  | free
  | idle
  /-- `create_cluster` has picked a network. -/
  | picked (network : ClusterNetwork)
  /-- It has the apiserver's address too, under its round's identifier. -/
  | fronted (id : ClusterId) (network : ClusterNetwork) (endpoint : Ipv4Addr)
  /-- It has the service block too. -/
  | equipped (id : ClusterId) (network : ClusterNetwork) (endpoint : Ipv4Addr) (block : Ipv4Net)
  /-- `create_machine` has read its cluster. -/
  | found (cluster : ClusterRow)
  /-- It has an address too. -/
  | addressed (cluster : ClusterRow) (ip : Ipv4Addr)
  /-- The VM's row is in; what follows is not watched. -/
  | placed

def Activity.firstStage : Activity → Stage
  | createCluster _ _ => .idle
  | createMachine _ _ _ => .idle
  | _ => .free

/-- Operations that neither read for a new row, nor allocate for it, nor commit it. -/
def Op.unwatched : Op → Bool
  | .query (.allocateClusterNetwork _) => false
  | .query (.getCluster _) => false
  | .write (.allocatePoolVip _ _) => false
  | .write (.reserveSpecificIp _ _ _) => false
  | .write (.allocateServiceBlock _ _ _ _) => false
  | .write (.insertCluster _) => false
  | .write (.releaseClusterIps _) => false
  | .write (.allocateClusterVmIp _ _) => false
  | .write (.insertVm _ _ _) => false
  | .write (.releaseVmIps _) => false
  | _ => true

/-- Which operations a handler may run at which stage. -/
inductive Grants (settings : Settings) : Activity → Stage → Op → Prop
  | free {t : Activity} {o : Op} (h : t.firstStage = .free) : Grants settings t .free o
  | unwatched {t : Activity} {a : Stage} {o : Op} (h : o.unwatched = true) : Grants settings t a o
  -- `create_cluster`
  | pick {req ids} : Grants settings (.createCluster req ids) .idle (.query (.allocateClusterNetwork settings.network))
  | poolVip {req ids network} {pool : Pool} (i : Fin maxAllocationAttempts)
      (hpool : settings.network.poolByName req.externalIpPool = some pool)
      (hvisible : ApiserverVisibility.tryFrom req.apiserverVisibility = some .apiserverPublic) :
      Grants settings (.createCluster req ids) (.picked network) (.write (.allocatePoolVip pool (ids i)))
  | privateVip {req ids} {network : ClusterNetwork} (i : Fin maxAllocationAttempts)
      (hhidden : ApiserverVisibility.tryFrom req.apiserverVisibility = some .apiserverPrivate) :
      Grants settings (.createCluster req ids) (.picked network)
        (.write (.reserveSpecificIp s!"cluster:{ids i}" network.privateApiserverIp (.cluster (ids i))))
  | serviceBlock {req ids id network endpoint} {pool : Pool}
      (hpool : settings.network.poolByName req.externalIpPool = some pool) :
      Grants settings (.createCluster req ids) (.fronted id network endpoint)
        (.write (.allocateServiceBlock pool.name (.parsePoolRange pool) id (req.serviceCount settings.network)))
  | insertCluster {req ids id network endpoint block} :
      Grants settings (.createCluster req ids) (.equipped id network endpoint block)
        (.write (.insertCluster (.fromNetwork id req endpoint (some block) network)))
  | rollbackPicked {req ids network} (i : Fin maxAllocationAttempts) :
      Grants settings (.createCluster req ids) (.picked network) (.write (.releaseClusterIps (ids i)))
  | rollbackFronted {req ids id network endpoint} :
      Grants settings (.createCluster req ids) (.fronted id network endpoint) (.write (.releaseClusterIps id))
  | rollbackEquipped {req ids id network endpoint block} :
      Grants settings (.createCluster req ids) (.equipped id network endpoint block) (.write (.releaseClusterIps id))
  -- `create_machine`
  | find {req picks vmId} : Grants settings (.createMachine req vmId picks) .idle (.query (.getCluster req.clusterId))
  | address {req picks vmId cluster} :
      Grants settings (.createMachine req vmId picks) (.found cluster) (.write (.allocateClusterVmIp cluster vmId))
  | insertVm {req picks vmId cluster} {vm : VmRow} {gpus disks} (hcluster : vm.clusterId = req.clusterId) :
      Grants settings (.createMachine req vmId picks) (.addressed cluster vm.ipAddress)
        (.write (.insertVm vm gpus disks))
  | giveBack {req picks vmId cluster ip} :
      Grants settings (.createMachine req vmId picks) (.addressed cluster ip) (.write (.releaseVmIps vmId))
  | placed {req picks vmId o} : Grants settings (.createMachine req vmId picks) .placed o

/-- Where a response takes a handler. -/
def Stage.next : Stage → (o : Op) → o.Resp → Stage
  | .idle, .query (.allocateClusterNetwork _), .ok network => .picked network
  | .picked network, .write (.allocatePoolVip _ id), .ok ip => .fronted id network ip
  | .picked network, .write (.reserveSpecificIp _ ip (.cluster id)), .ok _ => .fronted id network ip
  | .fronted id network endpoint, .write (.allocateServiceBlock _ _ _ _), .ok block =>
      .equipped id network endpoint block
  | .equipped _ _ _ _, .write (.insertCluster _), .ok _ => .idle
  | .picked _, .write (.releaseClusterIps _), _ => .idle
  | .fronted _ _ _, .write (.releaseClusterIps _), _ => .idle
  | .equipped _ _ _ _, .write (.releaseClusterIps _), _ => .idle
  | .idle, .query (.getCluster _), .ok cluster => .found cluster
  | .found cluster, .write (.allocateClusterVmIp _ _), .ok ip => .addressed cluster ip
  | .addressed cluster _, .write (.releaseVmIps _), _ => .found cluster
  | .addressed _ _, .write (.insertVm _ _ _), .ok _ => .placed
  | a, _, _ => a

def Activity.stages (settings : Settings) (t : Activity) : Protocol Op Op.Resp Stage := ⟨Grants settings t, Stage.next⟩

def stageDiscipline (settings : Settings) : Discipline Activity Op Op.Resp (Except Status Reply) Stage where
  protocol := Activity.stages settings
  start := Activity.firstStage
  ends := fun _ _ _ => True

/-- Phases and stages together. -/
def cellDiscipline (settings : Settings) : Discipline Activity Op Op.Resp (Except Status Reply) (Phase × Stage) :=
  discipline.prod (stageDiscipline settings)

/-! ## The handlers follow their stages -/

section Follows

variable {settings : Settings} {t : Activity} {a : Stage} {o : Op} {α : Type} {Q : Stage → α → Prop}

theorem Stage.next_of_unwatched (ho : o.unwatched = true) (r : o.Resp) : a.next o r = a := by
  unfold next
  split <;> first | rfl | cases ho

theorem unwatched_of_quiet (ho : o.quiet = true) : o.unwatched = true := by
  cases o with
  | query q => cases q <;> first | rfl | cases ho
  | mem m => rfl
  | write w => cases w <;> first | rfl | cases ho

theorem idles_stages : Idles (t.stages settings) a := fun _ ho =>
  ⟨.unwatched (unwatched_of_quiet ho), Stage.next_of_unwatched (unwatched_of_quiet ho)⟩

theorem follows_free {p : Handler α} (h : t.firstStage = .free) :
    (t.stages settings).Follows (fun _ _ => True) p .free := by
  refine follows_of_free (fun _ => .free h) (fun o r => ?_) fun _ => trivial
  show Stage.free.next o r = .free
  unfold Stage.next
  split <;> first | rfl | contradiction

/-- The stage at a point of `create_cluster`. -/
def ClusterPoint.stage (ids : RoundIds) : ClusterPoint → Stage
  | picked _ _ network => .picked network
  | fronted i _ network endpoint => .fronted (ids i) network endpoint
  | equipped i _ network endpoint block => .equipped (ids i) network endpoint block
  | undoing g _ => g.stage ids
  | _ => .idle

theorem stages_createCluster {req : CreateClusterRequest} {ids : RoundIds} :
    ((Activity.createCluster req ids).stages settings).Follows (fun _ _ => True)
      (createCluster settings req ids) .idle := by
  refine (text_createCluster.map (f := ClusterPoint.stage ids) fun g o h => ?_).mono fun _ _ _ => trivial
  cases h with
  | look | lookAgain | refresh => exact ⟨.unwatched rfl, fun r => by cases r <;> rfl⟩
  | quiet ho => exact idles_clusterText.reads idles_stages ho
  | pick => exact ⟨.pick, fun r => by cases r <;> rfl⟩
  | @poolVip i _ _ _ hpool hvisible => exact ⟨.poolVip i hpool hvisible, fun r => by cases r <;> rfl⟩
  | @privateVip i _ _ hhidden => exact ⟨.privateVip i hhidden, fun r => by cases r <;> rfl⟩
  | serviceBlock hpool => exact ⟨.serviceBlock hpool, fun r => by cases r <;> rfl⟩
  | insert => exact ⟨.insertCluster, fun r => by rcases r with (_ | _) | _ <;> rfl⟩
  | @unpick i => exact ⟨.rollbackPicked i, fun _ => rfl⟩
  | unfront => exact ⟨.rollbackFronted, fun _ => rfl⟩
  | unequip hafter => exact ⟨.rollbackEquipped, fun _ => by rcases hafter with rfl | rfl | rfl <;> rfl⟩

/-- The stage at a point of `create_machine`. -/
def MachinePoint.stage : MachinePoint → Stage
  | start => .idle
  | read k => .found k
  | named k _ => .found k
  | holding k ip => .addressed k ip
  | _ => .placed

theorem stages_createMachine {req : CreateMachineRequest} {vmId : VmId}
    {picks : Picks} :
    ((Activity.createMachine req vmId picks).stages settings).Follows (fun _ _ => True)
      (createMachine settings req vmId picks) .idle := by
  refine (text_createMachine.map (f := MachinePoint.stage) fun g o h => ?_).mono fun _ _ _ => trivial
  cases h with
  | find => exact ⟨.find, fun r => by cases r <;> rfl⟩
  | look => exact ⟨.unwatched rfl, fun r => by cases r <;> rfl⟩
  | address => exact ⟨.address, fun r => by cases r <;> rfl⟩
  | @insert k ip decision =>
    exact ⟨@Grants.insertVm _ _ _ _ _ (placedRow req vmId decision ip) _ _ rfl, fun r => by cases r <;> rfl⟩
  | giveBack => exact ⟨.giveBack, fun _ => rfl⟩
  | quiet hg ho => exact (idles_machineText hg).reads idles_stages ho
  | giveUp hg => cases g <;> first | exact ⟨.placed, fun _ => rfl⟩ | cases hg
  | await => exact ⟨.placed, fun r => by rcases r with (_ | _) | _ | _ <;> rfl⟩
  | _ => exact ⟨.placed, fun r => by cases r <;> rfl⟩

/-- **Every activity keeps to its stages.** -/
theorem stages_govern (settings : Settings) : (stageDiscipline settings).Governs (cell settings) := by
  intro t
  cases t with
  | createCluster req ids => exact stages_createCluster
  | createMachine req vmId picks => exact stages_createMachine
  | _ => exact follows_free rfl

end Follows

theorem cellDiscipline_governs (settings : Settings) : (cellDiscipline settings).Governs (cell settings) :=
  (discipline_governs settings).prod (stages_govern settings)

end BasisCell
