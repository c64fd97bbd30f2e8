import BasisCell.Lib.Product
import BasisCell.Controller.Discipline

/-!
# `BasisCell.Controller.Bids` — the rounds of `create_cluster`

A `Bid` is how far a `create_cluster` has come, with the identifiers that are left for further rounds: what it
has picked and allocated in this round, whether its insert has lost the VNI, and which row it answers with. A
call that fails in a way that does not lead to another round is `failed`, and may do anything.

`bids_govern` follows the text of the handler and its loop.
-/

namespace BasisCell

open Conc Conc.Protocol Handler

/-- How far a `create_cluster` has come, with the identifiers left for further rounds. -/
inductive Bid where
  /-- Not a `create_cluster`. -/
  | free
  | start
  /-- The name is taken, by this row. -/
  | found (row : ClusterRow)
  | picking (ids : List ClusterId)
  | picked (id : ClusterId) (rest : List ClusterId) (network : ClusterNetwork)
  | fronted (id : ClusterId) (rest : List ClusterId) (network : ClusterNetwork) (endpoint : Ipv4Addr)
  | equipped (id : ClusterId) (rest : List ClusterId) (network : ClusterNetwork) (endpoint : Ipv4Addr)
      (block : Ipv4Net)
  /-- The insert has lost the VNI. -/
  | raced (id : ClusterId) (rest : List ClusterId)
  | inserted (row : ClusterRow)
  /-- Some call has failed in a way that does not lead to another round. -/
  | failed

/-- Which operations a call may run where. -/
inductive Bids (settings : Settings) : Activity → Bid → Op → Prop
  | free {t : Activity} {o : Op} : Bids settings t .free o
  | look {req ids} : Bids settings (.createCluster req ids) .start (.query (.getClusterByName req.name))
  | refresh {req ids row domain} :
      Bids settings (.createCluster req ids) (.found row) (.write (.updateClusterTrustDomain row.id domain))
  | broadcast {req ids row} {o : Op} (h : o.quiet = true) : Bids settings (.createCluster req ids) (.found row) o
  | pick {req ids id rest} :
      Bids settings (.createCluster req ids) (.picking (id :: rest)) (.query (.allocateClusterNetwork settings.network))
  | poolVip {req ids id rest network} {pool : Pool}
      (hpool : settings.network.poolByName req.externalIpPool = some pool) :
      Bids settings (.createCluster req ids) (.picked id rest network) (.write (.allocatePoolVip pool id))
  | privateVip {req ids id rest} {network : ClusterNetwork} :
      Bids settings (.createCluster req ids) (.picked id rest network)
        (.write (.reserveSpecificIp s!"cluster:{id}" network.privateApiserverIp (.cluster id)))
  | serviceBlock {req ids id rest network endpoint} {pool : Pool}
      (hpool : settings.network.poolByName req.externalIpPool = some pool) :
      Bids settings (.createCluster req ids) (.fronted id rest network endpoint)
        (.write (.allocateServiceBlock pool.name (.parsePoolRange pool) id (req.serviceCount settings.network)))
  | insert {req ids id rest network endpoint block} :
      Bids settings (.createCluster req ids) (.equipped id rest network endpoint block)
        (.write (.insertCluster (.fromNetwork id req endpoint (some block) network)))
  | release {req ids id rest} :
      Bids settings (.createCluster req ids) (.raced id rest) (.write (.releaseClusterIps id))
  | giveUp {t : Activity} {o : Op} : Bids settings t .failed o

/-- Where a response takes a call, which has these identifiers for its rounds. -/
def Bid.next (ids : List ClusterId) : Bid → (o : Op) → o.Resp → Bid
  | .start, .query (.getClusterByName _), some row => .found row
  | .start, .query (.getClusterByName _), none => .picking ids
  | .found _, .write (.updateClusterTrustDomain _ _), .error _ => .failed
  | .picking (id :: rest), .query (.allocateClusterNetwork _), .ok network => .picked id rest network
  | .picking (_ :: _), .query (.allocateClusterNetwork _), .error _ => .failed
  | .picked id rest network, .write (.allocatePoolVip _ _), .ok ip => .fronted id rest network ip
  | .picked _ _ _, .write (.allocatePoolVip _ _), .error _ => .failed
  | .picked id rest network, .write (.reserveSpecificIp _ ip _), .ok _ => .fronted id rest network ip
  | .picked _ _ _, .write (.reserveSpecificIp _ _ _), .error _ => .failed
  | .fronted id rest network endpoint, .write (.allocateServiceBlock _ _ _ _), .ok block =>
    .equipped id rest network endpoint block
  | .fronted _ _ _ _, .write (.allocateServiceBlock _ _ _ _), .error _ => .failed
  | .equipped _ _ _ _ _, .write (.insertCluster row), .ok _ => .inserted row
  | .equipped id rest _ _ _, .write (.insertCluster _), .error (.allocationRaced _) => .raced id rest
  | .equipped _ _ _ _ _, .write (.insertCluster _), .error _ => .failed
  | .raced _ rest, .write (.releaseClusterIps _), _ => .picking rest
  | g, _, _ => g

/-- The identifiers of a call's rounds. -/
def Activity.roundIds : Activity → List ClusterId
  | createCluster _ ids => List.ofFn ids
  | _ => []

/-- Where a call may return, and with what. -/
def Activity.concludes (settings : Settings) : Activity → Bid → Except Status Reply → Prop
  | .createCluster _ _, g, .ok reply => g = .failed ∨
    ∃ row, (g = .found row ∨ g = .inserted row) ∧ reply = .cluster (createClusterResponse row settings.bgp)
  | .createCluster req _, g, .error _ => g = .failed ∨ g = .picking [] ∨ g = .start ∧ ¬req.Accepted settings
  | _, _, _ => True

def Activity.bidding (settings : Settings) (t : Activity) : Protocol Op Op.Resp Bid :=
  ⟨Bids settings t, Bid.next t.roundIds⟩

/-- The bids of the controller's activities. -/
def bids (settings : Settings) : Discipline Activity Op Op.Resp (Except Status Reply) Bid where
  protocol := Activity.bidding settings
  start
    | .createCluster _ _ => .start
    | _ => .free
  ends := Activity.concludes settings

/-! ## The handlers bid -/

section Follows

variable {settings : Settings} {req : CreateClusterRequest} {ids : RoundIds}
variable {α : Type} {Q : Bid → α → Prop} {t : Activity}

theorem Bid.next_free (rounds : List ClusterId) (o : Op) (r : o.Resp) : Bid.next rounds .free o r = .free := by
  unfold Bid.next
  split <;> first | rfl | contradiction

variable {row : ClusterRow} {rest : List ClusterId} {id : ClusterId} {visibility : ApiserverVisibility}
    {pool : Pool}

theorem Bid.next_quiet {rounds : List ClusterId} {o : Op} (ho : o.quiet = true) (r : o.Resp) :
    Bid.next rounds (.found row) o r = .found row := by
  unfold Bid.next
  split <;> first | rfl | contradiction

theorem idles_found : Idles ((Activity.createCluster req ids).bidding settings) (.found row) := by
  intro o ho
  exact ⟨.broadcast ho, Bid.next_quiet ho⟩

/-- The bid at a point of `create_cluster`. -/
def ClusterPoint.bid (ids : RoundIds) : ClusterPoint → Bid
  | start => .start
  | found row => .found row
  | picking rest => .picking (rest.map ids)
  | picked i rest network => .picked (ids i) (rest.map ids) network
  | fronted i rest network endpoint => .fronted (ids i) (rest.map ids) network endpoint
  | equipped i rest network endpoint block => .equipped (ids i) (rest.map ids) network endpoint block
  | undoing (equipped i rest _ _ _) (picking _) => .raced (ids i) (rest.map ids)
  | inserted row => .inserted row
  | _ => .failed

theorem bids_createCluster :
    ((Activity.createCluster req ids).bidding settings).Follows
      ((Activity.createCluster req ids).concludes settings) (createCluster settings req ids) .start := by
  refine (text_createCluster.map (f := ClusterPoint.bid ids) fun g o h => ?_).mono ?_
  · cases h with
    | look =>
      refine ⟨.look, fun r => ?_⟩
      cases r with
      | none => exact congrArg Bid.picking List.ofFn_eq_map
      | some row => rfl
    | lookAgain => exact ⟨.giveUp, fun r => by cases r <;> rfl⟩
    | refresh => exact ⟨.refresh, fun r => by cases r <;> rfl⟩
    | quiet ho => exact idles_clusterText.reads idles_found ho
    | pick => exact ⟨.pick, fun r => by cases r <;> rfl⟩
    | poolVip hpool => exact ⟨.poolVip hpool, fun r => by cases r <;> rfl⟩
    | privateVip => exact ⟨.privateVip, fun r => by cases r <;> rfl⟩
    | serviceBlock hpool => exact ⟨.serviceBlock hpool, fun r => by cases r <;> rfl⟩
    | insert => exact ⟨.insert, fun r => by rcases r with (_ | _) | _ <;> rfl⟩
    | unpick | unfront => exact ⟨.giveUp, fun _ => rfl⟩
    | unequip hafter =>
      rcases hafter with rfl | rfl | rfl
      · exact ⟨.release, fun _ => rfl⟩
      · exact ⟨.giveUp, fun _ => rfl⟩
      · exact ⟨.giveUp, fun _ => rfl⟩
  · rintro _ r ⟨g, rfl, hreturns⟩
    cases r with
    | ok reply =>
      cases g with
      | found row => exact .inr ⟨row, .inl rfl, hreturns⟩
      | inserted row => exact .inr ⟨row, .inr rfl, hreturns⟩
      | settled => exact .inl rfl
      | picking rest => cases rest <;> cases hreturns
      | _ => cases hreturns
    | error status =>
      cases g with
      | start => exact .inr (.inr ⟨rfl, hreturns⟩)
      | picking rest =>
        cases rest with
        | nil => exact .inr (.inl rfl)
        | cons => cases hreturns
      | stale | failed => exact .inl rfl
      | _ => cases hreturns

theorem bids_govern : (bids settings).Governs (cell settings) := by
  intro t
  cases t with
  | createCluster req ids => exact bids_createCluster
  | _ => exact follows_of_free (fun _ => .free) (Bid.next_free []) (fun _ => trivial)

end Follows

end BasisCell
