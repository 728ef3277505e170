import Mathlib

namespace PmdPytcp

-- A run of 2^order numbers whose start is a multiple of its length.
structure Block where
  start : Nat
  order : Nat
  aligned : 2^order ∣ start
deriving DecidableEq

namespace Block

def Holds (b : Block) (x : Nat) : Prop := b.start ≤ x ∧ x < b.start + 2^b.order

instance (b : Block) (x : Nat) : Decidable (b.Holds x) := inferInstanceAs (Decidable (_ ∧ _))

theorem holds_start (b : Block) : b.Holds b.start :=
  ⟨Nat.le_refl _,Nat.lt_add_of_pos_right (Nat.two_pow_pos _)⟩

theorem holds_iff (b : Block) (x : Nat) : b.Holds x ↔ x / 2^b.order = b.start / 2^b.order := by
  obtain ⟨start,order,q,rfl⟩ := b
  have positive := Nat.two_pow_pos order
  simp only [Holds]
  rw [Nat.mul_div_cancel_left _ positive,Nat.div_eq_iff positive,Nat.mul_comm q]
  constructor
  · intro inside
    omega
  · intro inside
    omega

theorem nested {b c : Block} (less : b.order ≤ c.order) (inB : b.Holds x) (inC : c.Holds x) (here : b.Holds y) :
    c.Holds y := by
  rw [holds_iff] at *
  have upper : ∀ n, n / 2^c.order = n / 2^b.order / 2^(c.order - b.order) := by
    intro n
    rw [Nat.div_div_eq_div_mul,← Nat.pow_add,Nat.add_sub_cancel' less]
  rw [upper y,here,← inB,← upper x]
  exact inC

theorem start_eq_of_nested {b c : Block} (same : b.order = c.order) (inB : b.Holds x) (inC : c.Holds x) :
    b.start = c.start := by
  have one := nested (Nat.le_of_eq same) inB inC b.holds_start
  have two := nested (Nat.le_of_eq same.symm) inC inB c.holds_start
  exact Nat.le_antisymm two.1 one.1

def Maximal (inside : Nat → Prop) (g : Block) : Prop :=
  ∀ b : Block, (∀ x, b.Holds x → inside x) → b.Holds g.start → b.order ≤ g.order

theorem Maximal.holds {g b : Block} (maximal : Maximal inside g) (within : ∀ x, b.Holds x → inside x)
    (meets : b.Holds g.start) (here : b.Holds x) : g.Holds x :=
  nested (maximal b within meets) meets g.holds_start here

-- Apart from each other and largest possible, there are no fewer of them than
-- in any other collection for the same set.
theorem fewest {inside : Nat → Prop} (gs ws : List Block) (maximal : ∀ g ∈ gs, Maximal inside g)
    (apart : gs.Pairwise fun g h => ∀ x, g.Holds x → ¬h.Holds x) (covered : ∀ g ∈ gs, inside g.start)
    (within : ∀ w ∈ ws, ∀ x, w.Holds x → inside x) (covers : ∀ x, inside x → ∃ w ∈ ws, w.Holds x) :
    gs.length ≤ ws.length := by
  have pick : ∀ g : { g // g ∈ gs }, ∃ w ∈ ws, w.Holds g.1.start := fun g => covers _ (covered g.1 g.2)
  choose chosen member meets using pick
  have distinct : (gs.attach.map chosen).Nodup := by
    rw [List.Nodup,List.pairwise_map]
    have apart' : gs.attach.Pairwise fun g h => ∀ x, g.1.Holds x → ¬h.1.Holds x := by
      rw [← List.attach_map_subtype_val gs,List.pairwise_map] at apart
      exact apart
    refine apart'.imp ?_
    intro g h apart same
    have here : g.1.Holds h.1.start := by
      refine (maximal g.1 g.2).holds (within _ (member g)) (meets g) ?_
      rw [same]
      exact meets h
    exact apart _ here h.1.holds_start
  have subset : gs.attach.map chosen ⊆ ws := by
    intro w inside
    obtain ⟨g,_,rfl⟩ := List.mem_map.mp inside
    exact member g
  have fewer := (List.subperm_of_subset distinct subset).length_le
  simpa using fewer

end Block

end PmdPytcp
