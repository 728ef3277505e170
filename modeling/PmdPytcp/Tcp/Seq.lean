import PmdPytcp.Lib.Circle

namespace PmdPytcp.Tcp
open Arc

abbrev Seq32 := BitVec 32

def seq32Half : Nat := 0x8000_0000

-- At exactly half the space apart the raw values decide.
def lt32 (a b : Seq32) : Bool :=
  if arc a b = seq32Half then a.toNat < b.toNat else 0 < arc a b && arc a b < seq32Half

def le32 (a b : Seq32) : Bool :=
  if arc a b = seq32Half then a.toNat < b.toNat else arc a b < seq32Half

def gt32 (a b : Seq32) : Bool := lt32 b a
def ge32 (a b : Seq32) : Bool := le32 b a

def add32 (a : Seq32) (n : Int) : Seq32 := a + BitVec.ofInt 32 n
def sub32 (a : Seq32) (n : Int) : Seq32 := a - BitVec.ofInt 32 n

def inRange32 (x lo hi : Seq32) : Bool := arc lo x ≤ arc lo hi

theorem inRange32_iff {x lo hi : Seq32} : inRange32 x lo hi = true ↔ arc lo x ≤ arc lo hi := by
  simp [inRange32]

theorem lt32_iff {a b : Seq32} : lt32 a b = true ↔
    (arc a b = 0x8000_0000 ∧ a.toNat < b.toNat) ∨ (0 < arc a b ∧ arc a b < 0x8000_0000) := by
  unfold lt32 seq32Half
  by_cases half : arc a b = 0x8000_0000
  · simp [half]
  · simp [half]

theorem le32_iff {a b : Seq32} : le32 a b = true ↔
    (arc a b = 0x8000_0000 ∧ a.toNat < b.toNat) ∨ arc a b < 0x8000_0000 := by
  unfold le32 seq32Half
  by_cases half : arc a b = 0x8000_0000
  · simp [half]
  · simp [half]

theorem le32_of_lt32 {a b : Seq32} (less : lt32 a b = true) : le32 a b = true := by
  rw [lt32_iff] at less
  rw [le32_iff]
  omega

theorem lt32_near {u x y : Seq32} (nearX : arc u x < 0x8000_0000) (nearY : arc u y < 0x8000_0000) :
    lt32 x y = true ↔ arc u x < arc u y := by
  have seen := arc_seen_from u x y
  rw [lt32_iff]
  omega

theorem le32_near {u x y : Seq32} (nearX : arc u x < 0x8000_0000) (nearY : arc u y < 0x8000_0000) :
    le32 x y = true ↔ arc u x ≤ arc u y := by
  have seen := arc_seen_from u x y
  rw [le32_iff]
  omega

@[simp] theorem lt32_self (x : Seq32) : lt32 x x = false := by
  simp [lt32,seq32Half]

@[simp] theorem le32_self (x : Seq32) : le32 x x = true := by
  simp [le32,seq32Half]

-- A number that passes the two half-space tests of an acknowledgement really
-- lies between the edges, when less than half the space is in flight.
theorem between_of_le32 {lo x hi : Seq32} (short : arc lo hi < 0x8000_0000) (below : le32 lo x = true)
    (above : le32 x hi = true) : arc lo x ≤ arc lo hi := by
  have seen := arc_seen_from lo x hi
  have first := arc_values lo x
  have second := arc_values x hi
  have direct := arc_values lo hi
  have left := lo.isLt
  have middle := x.isLt
  have right := hi.isLt
  rw [le32_iff] at below above
  omega

@[simp] theorem add32_zero (a : Seq32) : add32 a 0 = a := by simp [add32]

theorem add32_nat (a : Seq32) (n : Nat) : add32 a n = a + BitVec.ofNat 32 n := by
  simp [add32]

theorem arc_add32 (a : Seq32) {n : Nat} (small : n < 2^32) : arc a (add32 a n) = n := by
  rw [add32_nat,arc_add_of_lt a small]

theorem arc_add32_from {u a : Seq32} {n : Nat} (short : arc u a + n < 2^32) :
    arc u (add32 a n) = arc u a + n := by
  have count : n < 2^32 := by omega
  have step := arc_add32 a count
  have whole := @arc_trans 32 u a (add32 a n) (by omega)
  omega

theorem add32_add (a : Seq32) (m n : Int) : add32 (add32 a m) n = add32 a (m + n) := by
  unfold add32
  rw [BitVec.ofInt_add,BitVec.add_assoc]

theorem add32_arc (a b : Seq32) : add32 a (arc a b) = b := by
  rw [add32_nat,add_arc]

theorem sub32_nat (a : Seq32) (n : Nat) : sub32 a n = a - BitVec.ofNat 32 n := by
  simp [sub32]

theorem add32_sub32 (a : Seq32) (n : Nat) : add32 (sub32 a n) n = a := by
  rw [add32_nat,sub32_nat,BitVec.sub_add_cancel]

theorem arc_sub32 (a : Seq32) {n : Nat} (small : n < 2^32) : arc (sub32 a n) a = n := by
  have step := arc_add32 (sub32 a n) small
  rwa [add32_sub32] at step

theorem add32_shift (a c : Seq32) (n : Int) : add32 (a + c) n = add32 a n + c := by
  unfold add32
  grind

theorem lt32_half_turn {a b turn : Seq32} (apart : arc a b = 0x8000_0000) (half : turn.toNat = 0x8000_0000) :
    lt32 (a + turn) (b + turn) = !lt32 a b := by
  have values := arc_values a b
  have left := a.isLt
  have right := b.isLt
  have turnA := BitVec.toNat_add a turn
  have turnB := BitVec.toNat_add b turn
  unfold lt32 seq32Half
  rw [arc_shift,if_pos apart,if_pos apart]
  by_cases order : a.toNat < b.toNat
  · have turned : ¬(a + turn).toNat < (b + turn).toNat := by omega
    simp only [order,turned,decide_true,decide_false,Bool.not_true]
  · have turned : (a + turn).toNat < (b + turn).toNat := by omega
    simp only [order,turned,decide_true,decide_false,Bool.not_false]

end PmdPytcp.Tcp
