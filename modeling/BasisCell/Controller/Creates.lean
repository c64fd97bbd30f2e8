import BasisCell.Controller.Discipline

/-!
# `BasisCell.Controller.Creates` — the course of a create

`create_machine` and `create_cluster` take addresses before they insert the row that owns them, answer with a
row that they have read or inserted, and clean up on the way out. A `Course` is how far such a handler has
come, as its row and its addresses see it: what it holds without a row, whether its row is in and has joined
its host, and which row its answer will name. Other activities are `free`: they allocate nothing and insert
no row.

`courses_govern` follows the text of the two handlers. In particular a handler never returns while it holds an
address without a row, and a successful answer names the row it has just read or inserted.
-/

namespace BasisCell

open Conc Conc.Protocol Handler

/-- How far a create has come. -/
inductive Course where
  /-- Not a create. -/
  | free
  /-- Nothing in hand. -/
  | idle
  /-- `create_machine` has read its cluster. -/
  | found (clusterId : ClusterId)
  /-- It holds an address. -/
  | addressed (clusterId : ClusterId)
  /-- Its row is in. -/
  | placed (clusterId : ClusterId) (vm : VmRow)
  /-- It has passed `ensure_host_cluster_active`. -/
  | joined (vm : VmRow)
  /-- The agent has reported the VM. -/
  | awaited (vm : VmRow)
  /-- It has given up, or lost its row. -/
  | closing
  /-- It has read the row it answers with. -/
  | answered (vm : VmRow)
  /-- `create_cluster` may hold addresses under the identifier of its round. -/
  | round (id : ClusterId)
  /-- It has inserted or read the row it answers with. -/
  | settled (row : ClusterRow)

namespace Course

/-- What a course takes notice of. -/
def notices : Course → Op → Bool
  -- all that is left to do is one read, or nothing
  | awaited _, _ => true
  | answered _, _ => true
  | _, .write (.allocateClusterVmIp _ _) => true
  | _, .write (.insertVm _ _ _) => true
  | _, .write (.ensureHostClusterActive _ _) => true
  | _, .write (.allocatePoolVip _ _) => true
  | _, .write (.reserveSpecificIp _ _ _) => true
  | _, .write (.allocateServiceBlock _ _ _ _) => true
  | _, .write (.insertCluster _) => true
  | free, _ => false
  | _, .write (.releaseVmIps _) => true
  | _, .write (.releaseClusterIps _) => true
  | _, .write (.markVmPendingTeardown _) => true
  | _, .write (.updateVmState _ _ _) => true
  | _, .write (.markVmsFailedOnHost _ _) => true
  | idle, .query (.getCluster _) => true
  | idle, .query (.getClusterByName _) => true
  | found _, .query (.getVmByName _ _) => true
  | joined _, .mem (.awaitOutcome _) => true
  | _, _ => false

def next : Course → (o : Op) → o.Resp → Course
  -- `create_machine`
  | idle, .query (.getCluster _), .ok cluster => found cluster.id
  | found _, .query (.getVmByName _ _), some vm => answered vm
  | found k, .write (.allocateClusterVmIp _ _), .ok _ => addressed k
  | addressed k, .write (.insertVm vm _ _), .ok _ => placed k vm
  | addressed k, .write (.releaseVmIps _), _ => found k
  | placed _ vm, .write (.ensureHostClusterActive _ _), .ok _ => joined vm
  | placed _ _, .write (.markVmPendingTeardown _), _ => closing
  | joined _, .write (.markVmPendingTeardown _), _ => closing
  | joined _, .write (.updateVmState _ _ _), _ => closing
  | joined vm, .mem (.awaitOutcome _), .resolved (.ok _) => awaited vm
  | awaited _, .query (.getVm _), .ok row => answered row
  | awaited _, .query (.getVm _), .error _ => closing
  -- `create_cluster`
  | idle, .query (.getClusterByName _), some row => settled row
  | idle, .write (.allocatePoolVip _ id), _ => round id
  | idle, .write (.reserveSpecificIp _ _ (.cluster id)), _ => round id
  | idle, .write (.allocateServiceBlock _ _ id _), _ => round id
  | round _, .write (.insertCluster row), .ok _ => settled row
  | round _, .write (.releaseClusterIps _), _ => idle
  | g, _, _ => g

theorem next_of_unnoticed {g : Course} {o : Op} (h : g.notices o = false) (r : o.Resp) : g.next o r = g := by
  unfold next
  split <;> first | rfl | cases h

/-- May `create_cluster` take an address for `id` here? -/
def within (id : ClusterId) (g : Course) : Prop := g = idle ∨ g = round id

end Course

/-! ## Which operations come when -/

/-- Which operations a create may run where. -/
inductive Proceeds : Activity → Course → Op → Prop
  | aside {t : Activity} {g : Course} {o : Op} (h : g.notices o = false) : Proceeds t g o
  -- `create_machine`
  | find {req vmId picks} : Proceeds (.createMachine req vmId picks) .idle (.query (.getCluster req.clusterId))
  | look {req vmId picks k} :
      Proceeds (.createMachine req vmId picks) (.found k) (.query (.getVmByName req.clusterId req.name))
  | address {req vmId picks k cluster} :
      Proceeds (.createMachine req vmId picks) (.found k) (.write (.allocateClusterVmIp cluster vmId))
  | insert {req vmId picks k} {vm : VmRow} {gpus disks} (hid : vm.id = vmId) (hcluster : vm.clusterId = req.clusterId)
      (hname : vm.name = req.name) (hstate : vm.state = .creating) :
      Proceeds (.createMachine req vmId picks) (.addressed k) (.write (.insertVm vm gpus disks))
  | giveBack {req vmId picks k} :
      Proceeds (.createMachine req vmId picks) (.addressed k) (.write (.releaseVmIps vmId))
  | join {req vmId picks} {cluster : ClusterRow} {vm : VmRow} :
      Proceeds (.createMachine req vmId picks) (.placed cluster.id vm)
        (.write (.ensureHostClusterActive cluster vm.hostId))
  | await {req vmId picks vm} :
      Proceeds (.createMachine req vmId picks) (.joined vm) (.mem (.awaitOutcome vmId))
  | read {req vmId picks vm} : Proceeds (.createMachine req vmId picks) (.awaited vm) (.query (.getVm vmId))
  | giveUpPlaced {req vmId picks k vm} :
      Proceeds (.createMachine req vmId picks) (.placed k vm) (.write (.markVmPendingTeardown vmId))
  | giveUpJoined {req vmId picks vm} :
      Proceeds (.createMachine req vmId picks) (.joined vm) (.write (.markVmPendingTeardown vmId))
  | timeOut {req vmId picks vm message} :
      Proceeds (.createMachine req vmId picks) (.joined vm) (.write (.updateVmState vmId .failed message))
  | release {req vmId picks} : Proceeds (.createMachine req vmId picks) .closing (.write (.releaseVmIps vmId))
  -- `create_cluster`
  | lookCluster {req ids} : Proceeds (.createCluster req ids) .idle (.query (.getClusterByName req.name))
  | poolVip {req ids pool} {g : Course} (i : Fin maxAllocationAttempts) (h : g.within (ids i)) :
      Proceeds (.createCluster req ids) g (.write (.allocatePoolVip pool (ids i)))
  | privateVip {req ids scope ip} {g : Course} (i : Fin maxAllocationAttempts) (h : g.within (ids i)) :
      Proceeds (.createCluster req ids) g (.write (.reserveSpecificIp scope ip (.cluster (ids i))))
  | serviceBlock {req ids scope range count} {g : Course} (i : Fin maxAllocationAttempts) (h : g.within (ids i)) :
      Proceeds (.createCluster req ids) g (.write (.allocateServiceBlock scope range (ids i) count))
  | insertCluster {req ids} {row : ClusterRow} (i : Fin maxAllocationAttempts) (hid : row.id = ids i)
      (hname : row.name = req.name) : Proceeds (.createCluster req ids) (.round (ids i)) (.write (.insertCluster row))
  | rollback {req ids} (i : Fin maxAllocationAttempts) :
      Proceeds (.createCluster req ids) (.round (ids i)) (.write (.releaseClusterIps (ids i)))

/-- Where a create may return, and with what: never with an address in hand, and successfully only with the
    row it has come to. -/
def Activity.arrives : Activity → Course → Except Status Reply → Prop
  | .createMachine _ _ _, g, .ok reply => ∃ vm, g = .answered vm ∧ reply = .machine (vmToCreateResponse vm)
  | .createMachine _ _ _, g, .error _ => g = .idle ∨ (∃ k, g = .found k) ∨ g = .closing
  | .createCluster _ _, g, .ok reply => ∃ row r, g = .settled row ∧ reply = .cluster r ∧ r.clusterId = row.id
  | .createCluster _ _, g, .error _ => g = .idle ∨ ∃ row, g = .settled row
  | _, g, _ => g = .free

def Activity.firstCourse : Activity → Course
  | .createMachine _ _ _ => .idle
  | .createCluster _ _ => .idle
  | _ => .free

def Activity.course (t : Activity) : Protocol Op Op.Resp Course := ⟨Proceeds t, Course.next⟩

/-- The courses of the controller's activities. -/
def courses : Discipline Activity Op Op.Resp (Except Status Reply) Course where
  protocol := Activity.course
  start := Activity.firstCourse
  ends := Activity.arrives

/-! ## The handlers keep to their courses -/

section Follows

variable {settings : Settings} {t : Activity} {g : Course} {o : Op} {α : Type} {Q : Course → α → Prop}

/-- Once it has left its first steps behind, a create may build and push reconcile commands. -/
def Course.pushes : Course → Bool
  | joined _ => true
  | closing => true
  | settled _ => true
  | _ => false

theorem idles_course (hg : g.pushes = true) : Idles t.course g := by
  intro o ho
  have h : g.notices o = false := by
    cases o with
    | query q => cases q <;> first | cases ho; done | (cases g <;> first | rfl | cases hg)
    | mem m => cases m <;> first | cases ho; done | (cases g <;> first | rfl | cases hg)
    | write w => cases w <;> first | cases ho; done | (cases g <;> first | rfl | cases hg)
  exact ⟨.aside h, Course.next_of_unnoticed h⟩

/-- The course at a point of `create_machine`. -/
def MachinePoint.course : MachinePoint → Course
  | start => .idle
  | read k => .found k.id
  | named _ vm => .answered vm
  | holding k _ => .addressed k.id
  | placed k vm => .placed k.id vm
  | joined _ vm => .joined vm
  | queued _ vm _ => .joined vm
  | waiting _ vm _ => .joined vm
  | reported _ vm _ => .awaited vm
  | answering _ _ vm => .answered vm
  | lost _ _ => .closing
  | closing _ => .closing

theorem courses_createMachine {req : CreateMachineRequest} {vmId : VmId}
    {picks : Picks} :
    (Activity.createMachine req vmId picks).course.Follows (Activity.createMachine req vmId picks).arrives
      (createMachine settings req vmId picks) .idle := by
  refine (text_createMachine.map (f := MachinePoint.course) fun g o h => ?_).mono ?_
  · cases h with
    | find => exact ⟨.find, fun r => by cases r <;> rfl⟩
    | look => exact ⟨.look, fun r => by cases r <;> rfl⟩
    | address => exact ⟨.address, fun r => by cases r <;> rfl⟩
    | insert => exact ⟨.insert rfl rfl rfl rfl, fun r => by cases r <;> rfl⟩
    | giveBack => exact ⟨.giveBack, fun _ => rfl⟩
    | join => exact ⟨.join, fun r => by cases r <;> rfl⟩
    | quiet hg ho => exact (idles_machineText hg).reads (idles_course (by cases g <;> first | rfl | cases hg)) ho
    | enqueue | dispatch => exact ⟨.aside rfl, fun r => by cases r <;> rfl⟩
    | markSent | leave => exact ⟨.aside rfl, fun _ => rfl⟩
    | await => exact ⟨.await, fun r => by rcases r with (_ | _) | _ | _ <;> rfl⟩
    | read => exact ⟨.read, fun r => by cases r <;> rfl⟩
    | timeOut => exact ⟨.timeOut, fun _ => rfl⟩
    | giveUp hg =>
      cases g with
      | placed => exact ⟨.giveUpPlaced, fun _ => rfl⟩
      | joined | queued | waiting => exact ⟨.giveUpJoined, fun _ => rfl⟩
      | _ => cases hg
    | release => exact ⟨.release, fun _ => rfl⟩
  · rintro _ r ⟨g, rfl, hreturns⟩
    cases r with
    | ok reply =>
      cases g with
      | named _ vm | answering _ _ vm => exact ⟨vm, rfl, hreturns⟩
      | _ => cases hreturns
    | error status =>
      cases g with
      | start => exact .inl rfl
      | read k => exact .inr (.inl ⟨k.id, rfl⟩)
      | lost | closing => exact .inr (.inr rfl)
      | _ => cases hreturns

/-- The course at a point of `create_cluster`. -/
def ClusterPoint.course (ids : RoundIds) : ClusterPoint → Course
  | found row => .settled row
  | stale row => .settled row
  | settled row => .settled row
  | inserted row => .settled row
  | fronted i _ _ _ => .round (ids i)
  | equipped i _ _ _ _ => .round (ids i)
  | undoing (picked i _ _) _ => .round (ids i)
  | undoing (fronted i _ _ _) _ => .round (ids i)
  | undoing (equipped i _ _ _ _) _ => .round (ids i)
  | _ => .idle

theorem courses_createCluster {req : CreateClusterRequest} {ids : RoundIds} :
    (Activity.createCluster req ids).course.Follows (Activity.createCluster req ids).arrives
      (createCluster settings req ids) .idle := by
  refine (text_createCluster.map (f := ClusterPoint.course ids) fun g o h => ?_).mono ?_
  · cases h with
    | look | lookAgain => exact ⟨.lookCluster, fun r => by cases r <;> rfl⟩
    | refresh | pick => exact ⟨.aside rfl, fun r => by cases r <;> rfl⟩
    | quiet ho => exact idles_clusterText.reads (idles_course rfl) ho
    | @poolVip i => exact ⟨.poolVip i (.inl rfl), fun r => by cases r <;> rfl⟩
    | @privateVip i => exact ⟨.privateVip i (.inl rfl), fun r => by cases r <;> rfl⟩
    | @serviceBlock i => exact ⟨.serviceBlock i (.inr rfl), fun r => by cases r <;> rfl⟩
    | @insert i => exact ⟨.insertCluster i rfl rfl, fun r => by rcases r with (_ | _) | _ <;> rfl⟩
    | @unpick i | @unfront i => exact ⟨.rollback i, fun _ => rfl⟩
    | @unequip i _ _ _ _ _ hafter => exact ⟨.rollback i, fun _ => by rcases hafter with rfl | rfl | rfl <;> rfl⟩
  · rintro _ r ⟨g, rfl, hreturns⟩
    cases r with
    | ok reply =>
      cases g with
      | found row | settled row | inserted row => exact ⟨row, _, rfl, hreturns, rfl⟩
      | picking rest => cases rest <;> cases hreturns
      | _ => cases hreturns
    | error status =>
      cases g with
      | stale row => exact .inr ⟨row, rfl⟩
      | start | picking | failed => exact .inl rfl
      | _ => cases hreturns

/-- An activity that creates nothing does nothing that a create is watched for. -/
theorem courses_free {p : Handler (Except Status Reply)} {a : Phase} {Q : Phase → Except Status Reply → Prop}
    (ht : t.firstCourse = .free) (hp : t.protocol.Follows Q p a) : t.course.Follows (fun g _ => g = .free) p .free := by
  have hfree : ∀ a o, t.protocol.allows a o → t.course.allows .free o ∧
      ∀ r, t.course.next .free o r = (fun _ => Course.free) (t.protocol.next a o r) := fun a o ho => ?_
  exact (hp.map (f := fun _ => Course.free) hfree).mono fun g _ hg => hg.choose_spec.1
  have h : Course.notices .free o = false := by
    cases ho with
    | query | mem _ hm => rfl
    | _ => first | rfl | cases ht
  exact ⟨.aside h, Course.next_of_unnoticed h⟩

end Follows

/-- **Every create keeps to its course.** -/
theorem courses_govern (settings : Settings) : courses.Governs (cell settings) := by
  intro t
  have free : t.firstCourse = .free → courses.At ⟨t, t.body settings⟩ .free := by
    intro ht
    refine (courses_free ht (discipline_governs settings t)).mono fun g r hg => ?_
    subst hg
    cases t <;> first | (cases r <;> rfl) | cases ht
  cases t with
  | createMachine req vmId picks => exact courses_createMachine
  | createCluster req ids => exact courses_createCluster
  | _ => exact free rfl

end BasisCell
