import BasisCell.Lib.Select
import BasisCell.Controller.Allocators

/-!
# `BasisCell.Controller.Ranges` — what the range allocators promise

`allocate_from_range` and `allocate_service_block` look for the lowest address, or aligned block of addresses, that
nobody holds. Both searches read the allocations of one scope, while an address is unique over all scopes; the query
of the first has a base case outside an empty range, and the alignment of the second may wrap around. Both are the
first element of an increasing list that passes a test, so `Select.lowest_free_iff` says when the test is enough.
-/

namespace BasisCell

open Relational List

/-! ## Addresses -/

/-- Is the address held in some scope, or some host's underlay address? -/
def Db.held (db : Db) (n : Ipv4Addr) : Bool :=
  (db.ipAllocations.rows.any fun a => a.ipAddress = n) ||
    db.hosts.rows.any fun h => h.vtepAddress ≠ "" ∧ h.vtepAddress = n.text

/-- The address lies in the range. -/
def ParsedRange.Has (range : ParsedRange) (n : Ipv4Addr) : Prop := range.start ≤ n ∧ n ≤ range.stop

instance (range : ParsedRange) (n : Ipv4Addr) : Decidable (range.Has n) := inferInstanceAs (Decidable (_ ∧ _))

/-- `allocate_from_range` hands out the lowest address of the range that nobody holds and stores just that row; it is
    exhausted if there is none, and never fails otherwise. -/
def Db.AllocatesLowest (db : Db) (scope : String) (range : ParsedRange) (owner : IpOwner) : Prop :=
  match db.allocateFromRange scope range owner with
  | .ok (db', n) => (range.Has n ∧ db.held n = false) ∧ (∀ m, range.Has m → db.held m = false → n ≤ m) ∧
    ∃ t, db' = { db with ipAllocations := t } ∧ t.rows = db.ipAllocations.rows ++ [⟨n, scope, owner⟩]
  | .error (.exhausted _) => ∀ n, range.Has n → db.held n = true
  | .error _ => False

section Addresses

variable {db : Db} {scope : String} {range : ParsedRange} {owner : IpOwner} {n : Ipv4Addr}

theorem held_of_taken (h : db.addressTaken scope n = true) : db.held n = true := by
  unfold Db.addressTaken at h
  unfold Db.held
  rw [Bool.or_eq_true] at h ⊢
  refine h.imp_left fun hrow => ?_
  obtain ⟨a, ha, hsel⟩ := any_eq_true.mp hrow
  exact any_eq_true.mpr ⟨a, ha, decide_eq_true (of_decide_eq_true hsel).2⟩

/-- An address that looks free in its scope is free iff no row of any scope has it. -/
theorem held_eq_false_iff (h : db.addressTaken scope n = false) :
    db.held n = false ↔ ∀ a ∈ db.ipAllocations.rows, a.ipAddress ≠ n := by
  unfold Db.addressTaken at h
  rw [Bool.or_eq_false_iff] at h
  unfold Db.held
  rw [Bool.or_eq_false_iff, and_iff_left h.2, any_eq_false]
  simp only [decide_eq_true_eq]

theorem insert_isSome_iff_held (owner : IpOwner) (h : db.addressTaken scope n = false) :
    (db.ipAllocations.insert ⟨n, scope, owner⟩).isSome = true ↔ db.held n = false := by
  rw [Table.insert_isSome_iff, held_eq_false_iff h]
  rfl

theorem candidates_of_empty (h : range.stop < range.start) : Db.candidates range = [range.start] := by
  unfold Db.candidates
  rw [Nat.sub_eq_zero_of_le h]
  rfl

/-- What the allocation does with the first address that looks free: it hands it out iff the address is free. -/
theorem allocatesLowest_of_find (hfind : (Db.candidates range).find? (fun n => !db.addressTaken scope n) = some n)
    (hfree : db.addressTaken scope n = false) : db.AllocatesLowest scope range owner ↔
      (range.Has n ∧ db.held n = false) ∧ ∀ m, range.Has m → db.held m = false → n ≤ m := by
  have hsome := insert_isSome_iff_held owner hfree
  unfold Db.AllocatesLowest Db.allocateFromRange
  rw [hfind]
  dsimp only
  cases hinsert : db.ipAllocations.insert ⟨n, scope, owner⟩ with
  | none =>
    refine iff_of_false id fun h => ?_
    rw [hinsert] at hsome
    exact nomatch hsome.mpr h.1.2
  | some t => exact ⟨fun h => ⟨h.1, h.2.1⟩, fun h => ⟨h.1, h.2, t, rfl, Table.rows_insert hinsert⟩⟩

/-- **When the lowest free address is handed out.** The base case is in the range or taken, and every address that only
    looks free lies above one that is. -/
theorem lowest_address_iff (db : Db) (scope : String) (range : ParsedRange) (owner : IpOwner) :
    db.AllocatesLowest scope range owner ↔
      (range.start ≤ range.stop ∨ db.addressTaken scope range.start = true) ∧
      ∀ n, range.Has n → db.addressTaken scope n = false → db.held n = true →
        ∃ m, range.Has m ∧ m < n ∧ db.held m = false := by
  have hbase : (range.start ≤ range.stop ∨ ∀ n ∈ Db.candidates range, db.addressTaken scope n = true) ↔
      (range.start ≤ range.stop ∨ db.addressTaken scope range.start = true) := by
    refine or_congr_right' fun hempty => ?_
    rw [candidates_of_empty (Nat.lt_of_not_le hempty), forall_mem_singleton]
  rw [← hbase]
  refine Select.lowest_free_iff pairwise_lt_range' (fun _ => held_of_taken) (fun hle _ => Db.mem_candidates hle)
    (fun hempty n hn => hempty (hn.1.trans hn.2)) ?_ fun n => allocatesLowest_of_find
  intro hfind hheld
  unfold Db.AllocatesLowest Db.allocateFromRange
  rw [hfind]
  exact hheld

end Addresses

/-- A cluster holds `0.0.0.10`, in the scope of a pool. -/
def heldInPool : Db := ((Write.reserveSpecificIp "pool" 10 (.cluster "c")).exec (Db.create id)).1

/-- An empty range hands out its start; and next to an address of another scope the allocation fails, with a free
    address in the range. -/
theorem start_of_empty_range_given :
    ((Db.create id).allocateFromRange "cluster:a" ⟨10, 9⟩ (.vm "vm-1")).map (·.2) = .ok 10 ∧
    (heldInPool.allocateFromRange "cluster:a" ⟨10, 11⟩ (.vm "vm-1")).map (·.2) =
      .error (.sqlx (.uniqueViolation "ip_allocations.ip_address")) ∧ heldInPool.held 11 = false := by
  decide +kernel

/-! ## Blocks -/

/-- Block `j` of `count` addresses lies in the range. -/
def ParsedRange.HasBlock (range : ParsedRange) (count j : Nat) : Prop :=
  range.start ≤ j * count ∧ j * count + (count - 1) ≤ range.stop

/-- `allocate_service_block` hands out the lowest aligned block of the range none of whose addresses is held, and stores
    a row for each of them and no other; it is exhausted if there is none, and never fails otherwise. An error leaves
    the database as it is. -/
def Db.AllocatesLowestBlock (db : Db) (scope : String) (range : ParsedRange) (clusterId : ClusterId)
    (count : Nat) : Prop :=
  match db.allocateServiceBlock scope range clusterId count with
  | .ok (db', net) => ∃ j, (net.addr = j * count ∧ net.size = count) ∧
    ((range.HasBlock count j ∧ Db.blockUsed db.held count j = false) ∧
      ∀ i, range.HasBlock count i → Db.blockUsed db.held count i = false → j ≤ i) ∧
    ∃ t, db' = { db with ipAllocations := t } ∧
      t.rows = db.ipAllocations.rows ++ (List.range' net.addr count).map fun n => ⟨n, scope, .cluster clusterId⟩
  | .error (.exhausted _) => (∀ j, range.HasBlock count j → Db.blockUsed db.held count j = true) ∧
    ((Write.allocateServiceBlock scope range clusterId count).exec db).1 = db
  | .error _ => False

section Blocks

variable {db : Db} {scope : String} {range : ParsedRange} {clusterId : ClusterId} {count j : Nat}

theorem held_of_blockUsed (h : Db.blockUsed (db.addressTaken scope) count j = true) :
    Db.blockUsed db.held count j = true := by
  obtain ⟨n, hn, htaken⟩ := any_eq_true.mp h
  exact any_eq_true.mpr ⟨n, hn, held_of_taken htaken⟩

/-- A block that looks free in its scope can be stored iff it is free. -/
theorem reserveBlock_isSome_iff_held (owner : IpOwner) (h : Db.blockUsed (db.addressTaken scope) count j = false) :
    (Db.reserveBlock db.ipAllocations scope owner (List.range' (j * count) count)).isSome = true ↔
      Db.blockUsed db.held count j = false := by
  rw [Db.blockUsed_eq_false] at h
  rw [Db.reserveBlock_isSome_iff nodup_range', Db.blockUsed_eq_false]
  exact forall₂_congr fun n hn => (held_eq_false_iff (h n hn)).symm

/-- With a wrap, the first block tried is the one at address zero. -/
theorem firstIndex_of_wrap (hstart : range.start < 2 ^ 32) (hcount : count < 2 ^ 32)
    (hwrap : 2 ^ 32 ≤ range.start + (count - 1)) : Db.firstIndex range count = 0 := by
  have hsmall : ∀ start size top : Nat, start < top → top ≤ start + (size - 1) → start + (size - 1) - top < size := by
    intro start size top _ _
    omega
  have hlt := hsmall _ _ _ hstart hwrap
  unfold Db.firstIndex
  rw [Nat.mod_eq_sub_mod hwrap, Nat.mod_eq_of_lt (hlt.trans hcount)]
  exact Nat.div_eq_of_lt hlt

/-- What the allocation does with the first block that looks free: it hands it out iff the block is free. -/
theorem allocatesBlock_of_find (hpower : count.isPowerOfTwo) (hcount : count < 2 ^ 32)
    (hunused : Db.blockUsed (db.addressTaken scope) count j = false)
    (halloc : db.allocateServiceBlock scope range clusterId count =
      match Db.reserveBlock db.ipAllocations scope (.cluster clusterId) (List.range' (j * count) count) with
      | none => .error (.sqlx (.uniqueViolation "ip_allocations.ip_address"))
      | some t => .ok ({ db with ipAllocations := t }, ⟨j * count, 32 - Nat.log2 count⟩)) :
    db.AllocatesLowestBlock scope range clusterId count ↔
      (range.HasBlock count j ∧ Db.blockUsed db.held count j = false) ∧
        ∀ i, range.HasBlock count i → Db.blockUsed db.held count i = false → j ≤ i := by
  have hsome := reserveBlock_isSome_iff_held (.cluster clusterId) hunused
  unfold Db.AllocatesLowestBlock
  rw [halloc]
  cases hreserve : Db.reserveBlock db.ipAllocations scope (.cluster clusterId) (List.range' (j * count) count) with
  | none =>
    refine iff_of_false id fun h => ?_
    rw [hreserve] at hsome
    exact nomatch hsome.mpr h.1.2
  | some t =>
    obtain ⟨k, rfl⟩ := hpower
    have hk : k < 32 := (Nat.pow_lt_pow_iff_right (by decide)).mp hcount
    have hsize : (⟨j * 2 ^ k, 32 - Nat.log2 (2 ^ k)⟩ : Ipv4Net).size = 2 ^ k := by
      rw [Nat.log2_two_pow]
      unfold Ipv4Net.size
      congr 1
      show 32 - (32 - k) = k
      omega
    constructor
    · rintro ⟨i, ⟨haddr, -⟩, hlowest, -⟩
      cases Nat.eq_of_mul_eq_mul_right (Nat.two_pow_pos k) haddr
      exact hlowest
    · exact fun h => ⟨j, ⟨rfl, hsize⟩, h, t, rfl, Db.reserveBlock_rows hreserve⟩

/-- **When the lowest free block is handed out.** Either the alignment of the start does not wrap, or no block from zero
    on looks free; and every block of the range that only looks free lies above one that is. -/
theorem lowest_block_iff (db : Db) (scope : String) (range : ParsedRange) (clusterId : ClusterId) (count : Nat)
    (hpower : count.isPowerOfTwo) (hcount : count < 2 ^ 32) (hstart : range.start < 2 ^ 32)
    (hstop : range.stop < 2 ^ 32) :
    db.AllocatesLowestBlock scope range clusterId count ↔
      (range.start + (count - 1) < 2 ^ 32 ∨ ∀ j, j * count + (count - 1) ≤ range.stop →
        Db.blockUsed (db.addressTaken scope) count j = true) ∧
      ∀ j, range.HasBlock count j → Db.blockUsed (db.addressTaken scope) count j = false →
        Db.blockUsed db.held count j = true →
        ∃ i, range.HasBlock count i ∧ i < j ∧ Db.blockUsed db.held count i = false := by
  have hpos := Nat.pos_of_isPowerOfTwo hpower
  have hzero : (range.start + (count - 1) < 2 ^ 32 ∨
        ∀ j ∈ Db.blockIndices range count, Db.blockUsed (db.addressTaken scope) count j = true) ↔
      (range.start + (count - 1) < 2 ^ 32 ∨ ∀ j, j * count + (count - 1) ≤ range.stop →
        Db.blockUsed (db.addressTaken scope) count j = true) := by
    refine or_congr_right' fun hwrap => forall_congr' fun j => ?_
    rw [Db.mem_blockIndices hpos, firstIndex_of_wrap hstart hcount (Nat.le_of_not_lt hwrap),
      and_iff_right (Nat.zero_le j)]
  rw [← hzero]
  have hcases := Db.allocateServiceBlock_eq db scope range clusterId hpower hstop
  refine Select.lowest_free_iff pairwise_lt_range' (fun _ => held_of_blockUsed) (fun hwrap j => ?_)
    (fun hwrap j hj => hwrap ?_) (fun hnone hheld => ?_) fun j hfind hunused => ?_
  · rw [Db.mem_blockIndices hpos, Db.firstIndex_le_iff hpos hwrap]
    rfl
  · exact Nat.lt_of_le_of_lt (Nat.le_trans (Nat.add_le_add_right hj.1 _) hj.2) hstop
  · rcases hcases with ⟨msg, -, halloc⟩ | ⟨j, hfind, -⟩
    · unfold Db.AllocatesLowestBlock
      rw [halloc]
      exact ⟨hheld, by simp only [Write.exec, Write.apply, halloc]⟩
    · cases hnone.symm.trans hfind
  · rcases hcases with ⟨msg, hnone, -⟩ | ⟨i, hfind', halloc⟩
    · cases hnone.symm.trans hfind
    · cases hfind.symm.trans hfind'
      exact allocatesBlock_of_find hpower hcount hunused halloc

end Blocks

/-- An address of the pool, one of another scope, and a host. -/
def partlyHeld : Db :=
  { Db.create id with
    ipAllocations := .ofList [⟨18, "pool", .cluster "c"⟩, ⟨33, "cluster:a", .vm "v"⟩]
    hosts := .ofList [{ id := "h1", hostname := "h1", totalCpu := 8, totalMemoryMib := 8192, lastHeartbeat := 0
                        vtepAddress := "0.0.0.20" }] }

/-- The first block of the range is taken, the second is free, and the third only looks free. -/
theorem lowest_block_iff_partlyHeld : partlyHeld.AllocatesLowestBlock "pool" ⟨10, 39⟩ "d" 8 := by
  refine (lowest_block_iff _ _ _ _ _ ⟨3, rfl⟩ (by decide) (by decide) (by decide)).mpr ⟨.inl (by decide), ?_⟩
  rintro j ⟨hstart, hstop⟩ hlooks hheld
  obtain rfl | rfl | rfl : j = 2 ∨ j = 3 ∨ j = 4 := by
    have hstart : 10 ≤ j * 8 := hstart
    have hstop : j * 8 + 7 ≤ 39 := hstop
    omega
  · exact absurd hlooks (by decide +kernel)
  · exact absurd hheld (by decide +kernel)
  · exact ⟨3, ⟨by decide, by decide⟩, by decide, by decide +kernel⟩

/-- Near the end of the address space the first block is the one at zero, far below the range; and a block with an
    address of another scope fails the allocation, with a free block after it. -/
theorem block_below_range_given :
    ((Db.create id).allocateServiceBlock "pool" ⟨4294967290, 4294967294⟩ "c" 16).map (·.2) = .ok ⟨0, 28⟩ ∧
    (heldInPool.allocateServiceBlock "lan" ⟨8, 31⟩ "c" 8).map (·.2) =
      .error (.sqlx (.uniqueViolation "ip_allocations.ip_address")) ∧
    ∀ n ∈ List.range' 16 8, heldInPool.held n = false := by
  decide +kernel

end BasisCell
