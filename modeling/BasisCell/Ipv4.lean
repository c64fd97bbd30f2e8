import BasisCell.Lib.Dyadic
import BasisCell.Lib.Fallible

/-!
# `BasisCell.Ipv4` — addresses and networks, and their texts

An IPv4 address is the number `u32::from` gives for it; a network is an address and a prefix length, and the
set of addresses that agree with it on that many leading bits. The database, the wire and gobgpd pass both
around as texts: `text` is what `to_string` writes, `parse` what `from_str` reads.
-/

namespace BasisCell

open List

/-! ## Addresses -/

/-- An IPv4 address as `u32::from` reads it. -/
abbrev Ipv4Addr := Nat

/-- The dotted form, as both `Ipv4Addr::to_string` and the allocator's `printf` write it. -/
def Ipv4Addr.text (n : Ipv4Addr) : String :=
  s!"{n / 2 ^ 24 % 256}.{n / 2 ^ 16 % 256}.{n / 2 ^ 8 % 256}.{n % 256}"

/-- The parts of a text between separators. -/
def splitAt (sep : Char) : List Char → List (List Char)
  | [] => [[]]
  | c :: cs =>
    if c = sep then [] :: splitAt sep cs
    else match splitAt sep cs with
      | [] => [[c]]
      | part :: parts => (c :: part) :: parts

/-- A decimal number: digits only, at least one. -/
def parseDecimal (cs : List Char) : Option Nat :=
  if cs ≠ [] ∧ cs.all Char.isDigit then some (cs.foldl (fun n c => n * 10 + (c.toNat - 48)) 0) else none

/-- `str::parse::<Ipv4Addr>`. Only the form that `text` writes is accepted: four decimal octets without
    leading zeros. -/
def Ipv4Addr.parse (s : String) : Option Ipv4Addr :=
  match (splitAt '.' s.toList).mapM parseDecimal with
  | some [a, b, c, d] =>
    let n := a * 2 ^ 24 + b * 2 ^ 16 + c * 2 ^ 8 + d
    if n < 2 ^ 32 ∧ Ipv4Addr.text n = s then some n else none
  | _ => none

theorem Ipv4Addr.text_of_parse {s : String} {n : Ipv4Addr} (h : Ipv4Addr.parse s = some n) :
    n < 2 ^ 32 ∧ Ipv4Addr.text n = s := by
  unfold parse at h
  split at h
  · dsimp only at h
    split at h <;> cases h
    assumption
  · cases h

example : Ipv4Addr.parse "10.0.3.255" = some 167773183 ∧ Ipv4Addr.parse "10.0.03.255" = none ∧
    Ipv4Addr.parse "10.0.256.0" = none := by
  decide +kernel

/-! ## Networks -/

/-- An IPv4 network; `addr` need not be the network address. -/
structure Ipv4Net where
  addr : Ipv4Addr
  prefixLen : Nat
  deriving DecidableEq, Repr

namespace Ipv4Net

/-- Number of addresses in the network. -/
def size (n : Ipv4Net) : Nat := 2 ^ (32 - n.prefixLen)

def network (n : Ipv4Net) : Ipv4Addr := n.addr / n.size * n.size

def broadcast (n : Ipv4Net) : Ipv4Addr := n.network + n.size - 1

def contains (n : Ipv4Net) (a : Ipv4Addr) : Bool := n.network ≤ a ∧ a ≤ n.broadcast

/-- `Ipv4Net::to_string`. -/
def text (n : Ipv4Net) : String := s!"{n.addr.text}/{n.prefixLen}"

/-- What a parsed network satisfies. -/
def wellFormed (n : Ipv4Net) : Bool := n.addr < 2 ^ 32 ∧ n.prefixLen ≤ 32

variable {n m : Ipv4Net} {a : Ipv4Addr}

theorem contains_iff : n.contains a = true ↔ a / n.size = n.addr / n.size := by
  unfold contains network broadcast network size
  rw [decide_eq_true_iff]
  exact Dyadic.mem_block

theorem size_pos (n : Ipv4Net) : 0 < n.size := Nat.two_pow_pos _

theorem contains_network (n : Ipv4Net) : n.contains n.network = true := contains_iff.mpr Dyadic.base_div

theorem contains_addr (n : Ipv4Net) : n.contains n.addr = true := contains_iff.mpr rfl

theorem lt_of_contains (hn : n.wellFormed = true) (h : n.contains a = true) : a < 2 ^ 32 := by
  obtain ⟨haddr, hlen⟩ := of_decide_eq_true hn
  have hdvd : n.size ∣ 2 ^ 32 := Nat.pow_dvd_pow 2 (Nat.sub_le _ _)
  have hlt : n.addr / n.size < 2 ^ 32 / n.size := Nat.div_lt_div_of_lt_of_dvd hdvd haddr
  rw [← contains_iff.mp h] at hlt
  exact Nat.lt_of_div_lt_div hlt

/-- A longer prefix inside a network is a subset of it. -/
theorem contains_of_subnet (hlen : n.prefixLen ≤ m.prefixLen) (hinside : n.contains m.network = true)
    (ha : m.contains a = true) : n.contains a = true := by
  rw [contains_iff] at hinside ha ⊢
  have hsize : n.size = m.size * 2 ^ (32 - n.prefixLen - (32 - m.prefixLen)) := by
    unfold size
    rw [← Nat.pow_add]
    congr 1
    omega
  have hnetwork : m.network / m.size = m.addr / m.size := contains_iff.mp m.contains_network
  rw [hsize, ← Nat.div_div_eq_div_mul, ← Nat.div_div_eq_div_mul] at hinside ⊢
  rw [ha, ← hnetwork]
  exact hinside

theorem contains_host {b : Ipv4Addr} : (⟨b, 32⟩ : Ipv4Net).contains a = true ↔ a = b := by
  rw [contains_iff]
  show a / 1 = b / 1 ↔ a = b
  rw [Nat.div_one, Nat.div_one]

end Ipv4Net

/-- `cidrs_overlap`: one contains the other's network address. -/
def cidrsOverlap (a b : Ipv4Net) : Bool := a.contains b.network || b.contains a.network

/-- **The overlap test is exact**: it finds out whether two networks share an address. -/
theorem cidrsOverlap_iff {n m : Ipv4Net} :
    cidrsOverlap n m = true ↔ ∃ a, n.contains a = true ∧ m.contains a = true := by
  unfold cidrsOverlap
  rw [Bool.or_eq_true]
  simp only [Ipv4Net.contains_iff]
  exact Dyadic.meet_iff.symm

theorem cidrsOverlap_comm (n m : Ipv4Net) : cidrsOverlap n m = cidrsOverlap m n := Bool.or_comm _ _

/-! ## Texts of networks -/

/-- The number reader of `ipnet`'s parser: so many digits, below a bound. -/
def parseNumber (maxDigits upto : Nat) (cs : List Char) : Option Nat :=
  (parseDecimal cs).filter fun n => cs.length ≤ maxDigits ∧ n < upto

/-- `str::parse::<Ipv4Net>`. -/
def Ipv4Net.parse (s : String) : Option Ipv4Net :=
  match splitAt '/' s.toList with
  | [addr, len] =>
    match (splitAt '.' addr).mapM (parseNumber 3 256), parseNumber 2 33 len with
    | some [a, b, c, d], some prefixLen => some ⟨a * 2 ^ 24 + b * 2 ^ 16 + c * 2 ^ 8 + d, prefixLen⟩
    | _, _ => none
  | _ => none

section Text

variable {sep : Char} {cs ds : List Char}

theorem splitAt_of_notMem (h : sep ∉ cs) : splitAt sep cs = [cs] := by
  induction cs with
  | nil => rfl
  | cons c cs ih =>
    rw [mem_cons, not_or] at h
    simp only [splitAt, if_neg (Ne.symm h.1), ih h.2]

theorem splitAt_append (h : sep ∉ cs) : splitAt sep (cs ++ sep :: ds) = cs :: splitAt sep ds := by
  induction cs with
  | nil => simp only [nil_append, splitAt, if_pos]
  | cons c cs ih =>
    rw [mem_cons, not_or] at h
    simp only [cons_append, splitAt, if_neg (Ne.symm h.1), ih h.2]

theorem toString_string (s : String) : toString s = s := rfl

/-- What the decimal text of an octet is to the parsers. -/
theorem octet_text : ∀ n < 256, parseNumber 3 256 (toString n).toList = some n ∧
    '.' ∉ (toString n).toList ∧ '/' ∉ (toString n).toList := by
  decide +kernel

theorem length_text : ∀ n < 33, parseNumber 2 33 (toString n).toList = some n ∧ '/' ∉ (toString n).toList := by
  decide +kernel

/-- The parts of a dotted address. -/
theorem Ipv4Addr.split_text (n : Ipv4Addr) : splitAt '.' (Ipv4Addr.text n).toList =
    [(toString (n / 2 ^ 24 % 256)).toList, (toString (n / 2 ^ 16 % 256)).toList,
      (toString (n / 2 ^ 8 % 256)).toList, (toString (n % 256)).toList] := by
  have hdot : ∀ m : Nat, '.' ∉ (toString (m % 256)).toList := fun m =>
    (octet_text _ (Nat.mod_lt _ (by decide))).2.1
  have htext : (Ipv4Addr.text n).toList = (toString (n / 2 ^ 24 % 256)).toList ++ '.' ::
      ((toString (n / 2 ^ 16 % 256)).toList ++ '.' ::
        ((toString (n / 2 ^ 8 % 256)).toList ++ '.' :: (toString (n % 256)).toList)) := by
    simp [Ipv4Addr.text, toString_string]
  rw [htext, splitAt_append (hdot _), splitAt_append (hdot _), splitAt_append (hdot _), splitAt_of_notMem (hdot _)]

theorem Ipv4Addr.slash_notMem_text (n : Ipv4Addr) : '/' ∉ (Ipv4Addr.text n).toList := by
  have hslash : ∀ m : Nat, '/' ∉ (toString (m % 256)).toList := fun m =>
    (octet_text _ (Nat.mod_lt _ (by decide))).2.2
  simp only [Ipv4Addr.text, toString_string, String.toList_append, mem_append, hslash]
  decide +kernel

namespace Ipv4Net

variable {n : Ipv4Net} {s : String}

theorem text_host (a : Ipv4Addr) : (⟨a, 32⟩ : Ipv4Net).text = s!"{a.text}/32" := by
  have hslash : "/" ++ toString 32 = "/32" := by decide +kernel
  show a.text ++ "/" ++ toString 32 = a.text ++ "/32"
  rw [String.append_assoc, hslash]

/-- **Round trip.** A network is read back from its text. -/
theorem parse_text (h : n.wellFormed = true) : parse n.text = some n := by
  obtain ⟨haddr, hlen⟩ := of_decide_eq_true h
  obtain ⟨hnum, hslash⟩ := length_text n.prefixLen (by omega)
  have htext : n.text.toList = n.addr.text.toList ++ '/' :: (toString n.prefixLen).toList := by
    simp [text, toString_string]
  have hoctet : ∀ m : Nat, parseNumber 3 256 (toString (m % 256)).toList = some (m % 256) := fun m =>
    (octet_text _ (Nat.mod_lt _ (by decide))).1
  have hsplit : splitAt '/' n.text.toList = [n.addr.text.toList, (toString n.prefixLen).toList] := by
    rw [htext, splitAt_append (Ipv4Addr.slash_notMem_text _), splitAt_of_notMem hslash]
  have hparts : (splitAt '.' n.addr.text.toList).mapM (parseNumber 3 256) =
      some [n.addr / 2 ^ 24 % 256, n.addr / 2 ^ 16 % 256, n.addr / 2 ^ 8 % 256, n.addr % 256] := by
    rw [Ipv4Addr.split_text]
    simp only [mapM_cons, mapM_nil, hoctet]
    rfl
  have hbytes : ∀ a : Nat, a < 2 ^ 32 →
      a / 2 ^ 24 % 256 * 2 ^ 24 + a / 2 ^ 16 % 256 * 2 ^ 16 + a / 2 ^ 8 % 256 * 2 ^ 8 + a % 256 = a := by
    intro a ha
    omega
  unfold parse
  rw [hsplit]
  dsimp only
  rw [hparts, hnum]
  show some (⟨_, n.prefixLen⟩ : Ipv4Net) = some n
  rw [hbytes _ haddr]

theorem addr_eq_of_text {a b : Ipv4Addr} (ha : a < 2 ^ 32) (hb : b < 2 ^ 32) (h : a.text = b.text) : a = b := by
  have hwf : ∀ c : Ipv4Addr, c < 2 ^ 32 → (⟨c, 32⟩ : Ipv4Net).wellFormed = true := by
    intro c hc
    exact decide_eq_true ⟨hc, Nat.le_refl 32⟩
  have htext : (⟨a, 32⟩ : Ipv4Net).text = (⟨b, 32⟩ : Ipv4Net).text := by
    rw [text_host, text_host, h]
  have hparse : some (⟨a, 32⟩ : Ipv4Net) = some ⟨b, 32⟩ := by
    rw [← parse_text (hwf a ha), ← parse_text (hwf b hb), htext]
  exact congrArg Ipv4Net.addr (Option.some.inj hparse)

theorem parseNumber_lt {maxDigits upto m : Nat} (h : parseNumber maxDigits upto cs = some m) : m < upto := by
  obtain ⟨-, hm⟩ := Option.filter_eq_some_iff.mp h
  exact (of_decide_eq_true hm).2

theorem wellFormed_of_parse (h : parse s = some n) : n.wellFormed = true := by
  unfold parse at h
  split at h
  swap
  · cases h
  split at h
  swap
  · cases h
  rename_i a b c d prefixLen hparts hlen
  cases h
  have hlt : ∀ x ∈ [a, b, c, d], x < 256 := by
    intro x hx
    obtain ⟨part, hpart⟩ := Fallible.exists_of_mapM hparts x hx
    exact parseNumber_lt hpart
  simp only [forall_mem_cons] at hlt
  obtain ⟨ha, hb, hc, hd, -⟩ := hlt
  have hbytes : ∀ a b c d : Nat, a < 256 → b < 256 → c < 256 → d < 256 →
      a * 2 ^ 24 + b * 2 ^ 16 + c * 2 ^ 8 + d < 2 ^ 32 := by
    intro a b c d _ _ _ _
    omega
  exact decide_eq_true ⟨hbytes a b c d ha hb hc hd, Nat.le_of_lt_succ (parseNumber_lt hlen)⟩

end Ipv4Net

end Text

end BasisCell
