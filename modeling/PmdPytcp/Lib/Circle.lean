import Mathlib

namespace PmdPytcp.Arc

-- Counting on the ring of `2^w` numbers: how far one must go forward from `a`
-- to reach `b`. Order facts about points are facts about these distances.
def arc (a b : BitVec w) : Nat := (b - a).toNat

theorem arc_lt (a b : BitVec w) : arc a b < 2^w := (b - a).isLt

@[simp] theorem arc_self (a : BitVec w) : arc a a = 0 := by simp [arc]

theorem arc_values (a b : BitVec w) :
    (a.toNat ≤ b.toNat ∧ arc a b = b.toNat - a.toNat) ∨
    (b.toNat < a.toNat ∧ arc a b = 2^w - a.toNat + b.toNat) := by
  have left := a.isLt
  have right := b.isLt
  unfold arc
  rw [BitVec.toNat_sub]
  by_cases before : a.toNat ≤ b.toNat
  · left
    refine ⟨before,?_⟩
    have turn : 2^w - a.toNat + b.toNat = (b.toNat - a.toNat) + 2^w := by omega
    rw [turn,Nat.add_mod_right,Nat.mod_eq_of_lt (by omega)]
  · right
    exact ⟨by omega,Nat.mod_eq_of_lt (by omega)⟩

theorem arc_eq_zero {a b : BitVec w} : arc a b = 0 ↔ a = b := by
  constructor
  · intro zero
    apply BitVec.eq_of_toNat_eq
    have left := a.isLt
    rcases arc_values a b with ⟨before,value⟩ | ⟨after,value⟩
    · omega
    · omega
  · intro same
    rw [same,arc_self]

theorem add_arc (a b : BitVec w) : a + BitVec.ofNat w (arc a b) = b := by
  unfold arc
  rw [BitVec.ofNat_toNat,BitVec.setWidth_eq,BitVec.add_comm,BitVec.sub_add_cancel]

theorem arc_add_right (a b : BitVec w) (n : Nat) : arc a (b + BitVec.ofNat w n) = (arc a b + n) % 2^w := by
  have moved : b + BitVec.ofNat w n - a = b - a + BitVec.ofNat w n := by grind
  unfold arc
  rw [moved,BitVec.toNat_add,BitVec.toNat_ofNat,Nat.add_mod_mod]

theorem arc_add (a : BitVec w) (n : Nat) : arc a (a + BitVec.ofNat w n) = n % 2^w := by
  unfold arc
  rw [BitVec.add_comm,BitVec.add_sub_cancel,BitVec.toNat_ofNat]

theorem arc_add_of_lt (a : BitVec w) (small : n < 2^w) : arc a (a + BitVec.ofNat w n) = n := by
  rw [arc_add,Nat.mod_eq_of_lt small]

theorem arc_split (a b c : BitVec w) :
    arc a b + arc b c = arc a c ∨ arc a b + arc b c = arc a c + 2^w := by
  have first := a.isLt
  have second := b.isLt
  have third := c.isLt
  have ab := arc_values a b
  have bc := arc_values b c
  have ac := arc_values a c
  omega

theorem arc_trans {a b c : BitVec w} (short : arc a b + arc b c < 2^w) :
    arc a c = arc a b + arc b c := by
  have last := arc_lt a c
  rcases arc_split a b c with same | beyond
  · exact same.symm
  · omega

theorem arc_cut {a b c : BitVec w} (inside : arc a b ≤ arc a c) :
    arc b c = arc a c - arc a b := by
  have last := arc_lt b c
  rcases arc_split a b c with same | beyond
  · omega
  · omega

-- Seen from a common point `u`, the arc from `a` to `b` is the difference of
-- their arcs, or goes once around.
theorem arc_seen_from (u a b : BitVec w) :
    (arc u a ≤ arc u b ∧ arc a b = arc u b - arc u a) ∨
    (arc u b < arc u a ∧ arc a b = 2^w - (arc u a - arc u b)) := by
  have first := arc_lt u a
  have second := arc_lt u b
  have third := arc_lt a b
  rcases arc_split u a b with same | beyond
  · left
    omega
  · right
    omega

theorem arc_swap {a b : BitVec w} (apart : a ≠ b) : arc b a = 2^w - arc a b := by
  have near := arc_lt a b
  have far := arc_lt b a
  have back := arc_self a
  have positive : arc a b ≠ 0 := fun zero => apart (arc_eq_zero.mp zero)
  rcases arc_split a b a with same | beyond
  · omega
  · omega

theorem arc_shift (a b c : BitVec w) : arc (a + c) (b + c) = arc a b := by
  unfold arc
  congr 1
  grind

end PmdPytcp.Arc
