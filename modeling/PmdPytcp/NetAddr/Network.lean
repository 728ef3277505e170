import PmdPytcp.Buffer
import PmdPytcp.Lib.Blocks

namespace PmdPytcp.NetAddr
open Buffer (Py PyError)

inductive IpVersion where
  | ip4 | ip6
deriving DecidableEq,Repr

-- `max_prefixlen`
def IpVersion.bits : IpVersion → Nat
  | .ip4 => 32
  | .ip6 => 128

-- An address without bits outside its mask, and the length of that mask.
@[ext] structure IpNetwork (v : IpVersion) where
  address : Nat
  prefixLen : Nat
  shorter : prefixLen ≤ v.bits
  below : address < 2^v.bits
  aligned : 2^(v.bits - prefixLen) ∣ address
deriving DecidableEq

namespace IpNetwork
variable {v : IpVersion}

theorem masked_below {a bits : Nat} (fits : a < 2^bits) (k : Nat) : a / 2^k*2^k < 2^bits :=
  Nat.lt_of_le_of_lt (Nat.div_mul_le_self _ _) fits

theorem masked_aligned (a k : Nat) : 2^k ∣ a / 2^k*2^k := Nat.dvd_mul_left _ _

-- The constructor for an address and a mask: the address is `&`-ed with the mask.
def ofPair (v : IpVersion) (address prefixLen : Nat) : Py (IpNetwork v) :=
  if fits : address < 2^v.bits then
    if shorter : prefixLen ≤ v.bits then
      .ok {
        address := address / 2^(v.bits - prefixLen)*2^(v.bits - prefixLen)
        prefixLen := prefixLen
        shorter := shorter
        below := masked_below fits (v.bits - prefixLen)
        aligned := masked_aligned address (v.bits - prefixLen) }
    else .error .netAddrError
  else .error .netAddrError

def last (n : IpNetwork v) : Nat := n.address + (2^(v.bits - n.prefixLen) - 1)

def contains (n : IpNetwork v) (address : Nat) : Bool := n.address ≤ address ∧ address ≤ n.last

def subnetOf (n other : IpNetwork v) : Bool := other.address ≤ n.address ∧ n.last ≤ other.last

-- `range(first, stop, step)`
def pyRange (first stop step : Nat) : List Nat :=
  (List.range ((stop - first + (step - 1)) / step)).map fun i => first + i*step

def subnets (n : IpNetwork v) (prefixLenDiff : Int) (newPrefix : Option Int) : Py (List (IpNetwork v)) :=
  if n.prefixLen = v.bits then .ok [n]
  else do
    let newPrefix ←
      match newPrefix with
      | some newPrefix => if newPrefix ≤ n.prefixLen then .error .netAddrError else .ok newPrefix
      | none => if prefixLenDiff < 1 then .error .netAddrError else .ok (n.prefixLen + prefixLenDiff)
    if newPrefix > v.bits then .error .netAddrError
    else
      let step := 2^(v.bits - newPrefix.toNat)
      (pyRange n.address (n.last + 1) step).mapM fun start => ofPair v start newPrefix.toNat

def block (n : IpNetwork v) : Block := ⟨n.address,v.bits - n.prefixLen,n.aligned⟩

theorem contains_iff (n : IpNetwork v) (x : Nat) : n.contains x = true ↔ n.block.Holds x := by
  have positive := Nat.two_pow_pos (v.bits - n.prefixLen)
  unfold contains
  rw [decide_eq_true_eq]
  simp only [last,block,Block.Holds]
  omega

theorem ofPair_aligned (address prefixLen : Nat) (fits : address < 2^v.bits) (shorter : prefixLen ≤ v.bits)
    (aligned : 2^(v.bits - prefixLen) ∣ address) :
    ofPair v address prefixLen = .ok ⟨address,prefixLen,shorter,fits,aligned⟩ := by
  unfold ofPair
  rw [dif_pos fits,dif_pos shorter]
  congr 1
  ext
  · exact Nat.div_mul_cancel aligned
  · rfl

theorem end_le (n : IpNetwork v) : n.address + 2^(v.bits - n.prefixLen) ≤ 2^v.bits := by
  obtain ⟨address,prefixLen,shorter,below,q,rfl⟩ := n
  have split : 2^v.bits = 2^(v.bits - prefixLen)*2^prefixLen := by
    rw [← Nat.pow_add]
    congr 1
    omega
  rw [split] at below ⊢
  have small : q < 2^prefixLen := Nat.lt_of_mul_lt_mul_left below
  calc 2^(v.bits - prefixLen)*q + 2^(v.bits - prefixLen)
      = 2^(v.bits - prefixLen)*(q + 1) := by ring
    _ ≤ 2^(v.bits - prefixLen)*2^prefixLen := Nat.mul_le_mul_left _ small

theorem last_lt (n : IpNetwork v) : n.last < 2^v.bits := by
  have := n.end_le
  have positive := Nat.two_pow_pos (v.bits - n.prefixLen)
  simp only [last]
  omega

end IpNetwork

end PmdPytcp.NetAddr
