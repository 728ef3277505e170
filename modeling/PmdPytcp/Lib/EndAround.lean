import Mathlib

namespace PmdPytcp.EndAround

-- One's-complement arithmetic with modulus `m` has two zeros, `0` and `m`.
-- A sum is `0` only when every term is, so the representative of a plain
-- total is the residue taken in `1..m`, and zero for zero alone.
def rep (m n : Nat) : Nat := if n = 0 then 0 else (n-1) % m + 1

def add (m a b : Nat) : Nat := if a + b ≤ m then a + b else a + b - m

@[simp] theorem rep_zero (m : Nat) : rep m 0 = 0 := rfl

theorem rep_of_le (small : n ≤ m) : rep m n = n := by
  unfold rep
  split
  · omega
  · rw [Nat.mod_eq_of_lt (by omega)]
    omega

theorem rep_le (positive : 0 < m) (n : Nat) : rep m n ≤ m := by
  unfold rep
  split
  · exact Nat.zero_le m
  · exact Nat.mod_lt (n-1) positive

theorem rep_eq_zero : rep m n = 0 ↔ n = 0 := by
  unfold rep
  split <;> simp_all

theorem rep_mod (m n : Nat) : rep m n % m = n % m := by
  unfold rep
  split
  · next zero => rw [zero]
  · next nonzero =>
    rw [Nat.mod_add_mod]
    congr 1
    omega

theorem rep_congr (residue : a % m = b % m) (zero : a = 0 ↔ b = 0) : rep m a = rep m b := by
  by_cases none : a = 0
  · rw [none,zero.mp none]
  · have some : b ≠ 0 := fun h => none (zero.mpr h)
    obtain ⟨x,rfl⟩ := Nat.exists_eq_succ_of_ne_zero none
    obtain ⟨y,rfl⟩ := Nat.exists_eq_succ_of_ne_zero some
    have shifted : x % m = y % m := Nat.ModEq.add_right_cancel' 1 residue
    simp [rep,shifted]

theorem rep_inj (residue : rep m a = rep m b) : a % m = b % m := by
  rw [← rep_mod m a,← rep_mod m b,residue]

theorem rep_eq_iff : rep m a = rep m b ↔ a % m = b % m ∧ (a = 0 ↔ b = 0) := by
  constructor
  · intro same
    exact ⟨rep_inj same,by rw [← rep_eq_zero (m := m),same,rep_eq_zero]⟩
  · rintro ⟨residue,zero⟩
    exact rep_congr residue zero

theorem add_rep (positive : 0 < m) (a b : Nat) : add m (rep m a) (rep m b) = rep m (a+b) := by
  have left := rep_le positive a
  have right := rep_le positive b
  have residue : (rep m a + rep m b) % m = (a + b) % m := by
    rw [Nat.add_mod,rep_mod,rep_mod,← Nat.add_mod]
  have zero : rep m a + rep m b = 0 ↔ a + b = 0 := by
    rw [Nat.add_eq_zero_iff,Nat.add_eq_zero_iff,rep_eq_zero,rep_eq_zero]
  unfold add
  split
  · next small =>
    rw [← rep_of_le small]
    exact rep_congr residue zero
  · next large =>
    rw [← rep_of_le (show rep m a + rep m b - m ≤ m by omega)]
    apply rep_congr
    · rw [← residue,Nat.mod_eq_sub_mod (by omega : rep m a + rep m b ≥ m)]
    · omega

-- Folding the terms with end-around carry gives the representative of the
-- plain total, whatever the order in which the carries appear.
theorem foldl_add (positive : 0 < m) (terms : List Nat) (start : Nat)
    (small : ∀ t ∈ terms, t ≤ m) :
    terms.foldl (add m) (rep m start) = rep m (start + terms.sum) := by
  induction terms generalizing start with
  | nil => simp
  | cons t rest ih =>
    have head : rep m t = t := rep_of_le (small t (by simp))
    have step := add_rep positive start t
    rw [head] at step
    rw [List.foldl_cons,step,ih (start+t) (fun x member => small x (by simp [member])),
      List.sum_cons,Nat.add_assoc]

-- Adding the high part of a number to its low part keeps the residue when the
-- base is one above a multiple of the modulus.
theorem fold_mod (base : (m*q+1) = B) (n : Nat) : (n % B + n / B) % m = n % m := by
  have split : n = n % B + (m*q+1) * (n / B) := by
    rw [base]
    exact (Nat.mod_add_div n B).symm
  have expand : n % B + (m*q+1) * (n / B) = n % B + n / B + m * (q * (n / B)) := by ring
  rw [expand] at split
  conv_rhs => rw [split,Nat.add_mul_mod_self_left]

theorem fold_eq_zero : n % B + n / B = 0 ↔ n = 0 := by
  constructor
  · intro zero
    obtain ⟨low,high⟩ := Nat.add_eq_zero_iff.mp zero
    have parts := Nat.mod_add_div n B
    rw [low,high] at parts
    simpa using parts.symm
  · rintro rfl
    simp

end PmdPytcp.EndAround
