import PmdPytcp.NetAddr.Summarize

namespace PmdPytcp.NetAddr
open Buffer (Py PyError)
open IpNetwork (ofPair)

variable {v : IpVersion}

namespace IpNetwork

def halve (n : IpNetwork v) : Py (IpNetwork v × IpNetwork v) := do
  match ← n.subnets 1 none with
  | [one,two] => .ok (one,two)
  | _ => .error .netAddrError

-- `none` while the loop is still running.
def excludeLoop (other : IpNetwork v) : Nat → IpNetwork v → IpNetwork v → Option (Py (List (IpNetwork v)))
  | 0,_,_ => none
  | fuel + 1,s1,s2 =>
    if s1 ≠ other ∧ s2 ≠ other then
      if other.subnetOf s1 then
        match halve s1 with
        | .error e => some (.error e)
        | .ok halves => (excludeLoop other fuel halves.1 halves.2).map (·.map (s2 :: ·))
      else if other.subnetOf s2 then
        match halve s2 with
        | .error e => some (.error e)
        | .ok halves => (excludeLoop other fuel halves.1 halves.2).map (·.map (s1 :: ·))
      else some (.error .netAddrError)
    else if s1 = other then some (.ok [s2])
    else some (.ok [s1])

def addressExclude (fuel : Nat) (n other : IpNetwork v) : Option (Py (List (IpNetwork v))) :=
  if !other.subnetOf n then some (.error .netAddrError)
  else if other = n then some (.ok [])
  else
    match halve n with
    | .error e => some (.error e)
    | .ok halves => excludeLoop other fuel halves.1 halves.2

theorem nth_below (n : IpNetwork v) (longer : n.prefixLen ≤ p) (fits : p ≤ v.bits)
    (inside : i < 2^(p - n.prefixLen)) : n.address + i*2^(v.bits - p) < 2^v.bits := by
  have final := n.end_le
  have split : 2^(v.bits - n.prefixLen) = 2^(p - n.prefixLen)*2^(v.bits - p) := by
    rw [← Nat.pow_add]
    congr 1
    omega
  have step := Nat.mul_lt_mul_of_pos_right inside (Nat.two_pow_pos (v.bits - p))
  omega

theorem nth_aligned (n : IpNetwork v) (longer : n.prefixLen ≤ p) (i : Nat) :
    2^(v.bits - p) ∣ n.address + i*2^(v.bits - p) := by
  refine Nat.dvd_add (Nat.dvd_trans ?_ n.aligned) (Nat.dvd_mul_left _ _)
  exact Nat.pow_dvd_pow 2 (by omega)

-- The subnet of a given length that starts a given number of steps in.
def nth (n : IpNetwork v) (p : Nat) (longer : n.prefixLen ≤ p) (fits : p ≤ v.bits)
    (i : Fin (2^(p - n.prefixLen))) : IpNetwork v where
  address := n.address + i*2^(v.bits - p)
  prefixLen := p
  shorter := fits
  below := n.nth_below longer fits i.isLt
  aligned := n.nth_aligned longer i

theorem mapM_ok {f : α → Py β} {g : α → β} (l : List α) (each : ∀ a ∈ l, f a = .ok (g a)) :
    l.mapM f = .ok (l.map g) := by
  induction l with
  | nil => rfl
  | cons a rest ih =>
    exact mapM_cons_ok (each a (by simp)) (ih fun b member => each b (by simp [member]))

theorem subnet_starts (n : IpNetwork v) (longer : n.prefixLen ≤ p) (fits : p ≤ v.bits) :
    pyRange n.address (n.last + 1) (2^(v.bits - p)) =
      (List.finRange (2^(p - n.prefixLen))).map fun i : Fin _ => n.address + i.val*2^(v.bits - p) := by
  have positive := Nat.two_pow_pos (v.bits - p)
  have split : 2^(v.bits - n.prefixLen) = 2^(p - n.prefixLen)*2^(v.bits - p) := by
    rw [← Nat.pow_add]
    congr 1
    omega
  have some' := Nat.two_pow_pos (v.bits - n.prefixLen)
  have count : (n.last + 1 - n.address + (2^(v.bits - p) - 1)) / 2^(v.bits - p) = 2^(p - n.prefixLen) := by
    have length : n.last + 1 - n.address = 2^(p - n.prefixLen)*2^(v.bits - p) := by
      rw [← split,last]
      omega
    rw [length,Nat.add_comm,Nat.add_mul_div_right _ _ positive,Nat.div_eq_of_lt (by omega)]
    omega
  rw [pyRange,count,← List.map_coe_finRange_eq_range,List.map_map]
  rfl

theorem subnets_legal (n : IpNetwork v) (p : Nat) (diff : Int) (longer : n.prefixLen < p) (fits : p ≤ v.bits) :
    n.subnets diff (some (p : Int)) =
      .ok ((List.finRange (2^(p - n.prefixLen))).map (n.nth p (Nat.le_of_lt longer) fits)) := by
  unfold subnets
  rw [if_neg (by omega)]
  have notShort : ¬(p : Int) ≤ n.prefixLen := by omega
  have notLong : ¬(p : Int) > v.bits := by omega
  simp only [if_neg notShort,bind,Except.bind,if_neg notLong,Int.toNat_natCast]
  rw [subnet_starts n (Nat.le_of_lt longer) fits,List.mapM_map]
  refine mapM_ok _ ?_
  intro i _
  exact ofPair_aligned _ _ (n.nth_below (Nat.le_of_lt longer) fits i.isLt) fits (n.nth_aligned (Nat.le_of_lt longer) i)

theorem subnets_diff (n : IpNetwork v) (diff : Nat) (some' : 0 < diff) :
    n.subnets diff none = n.subnets 1 (some (n.prefixLen + diff : Nat)) := by
  unfold subnets
  split
  · rfl
  · have notNone : ¬(diff : Int) < 1 := by omega
    have notShort : ¬((n.prefixLen + diff : Nat) : Int) ≤ n.prefixLen := by omega
    simp only [if_neg notNone,if_neg notShort]
    push_cast
    rfl

-- Equal consecutive parts in address order that make up the whole.
structure Partitions (n : IpNetwork v) (p : Nat) (parts : List (IpNetwork v)) : Prop where
  count : parts.length = 2^(p - n.prefixLen)
  placed : ∀ i (inside : i < parts.length),
    (parts.get ⟨i,inside⟩).prefixLen = p ∧ (parts.get ⟨i,inside⟩).address = n.address + i*2^(v.bits - p)
  apart : parts.Pairwise fun a b => a.last < b.address
  covers : ∀ x, (∃ part ∈ parts, part.contains x = true) ↔ n.contains x = true

theorem nth_partitions (n : IpNetwork v) (p : Nat) (longer : n.prefixLen ≤ p) (fits : p ≤ v.bits) :
    n.Partitions p ((List.finRange (2^(p - n.prefixLen))).map (n.nth p longer fits)) := by
  have positive := Nat.two_pow_pos (v.bits - p)
  have split : 2^(v.bits - n.prefixLen) = 2^(p - n.prefixLen)*2^(v.bits - p) := by
    rw [← Nat.pow_add]
    congr 1
    omega
  refine ⟨by simp,?_,?_,?_⟩
  · intro i inside
    simp [nth]
  · rw [List.pairwise_map]
    refine (List.pairwise_lt_finRange _).imp ?_
    intro i j less
    simp only [last,nth]
    have step : (i.val + 1)*2^(v.bits - p) ≤ j.val*2^(v.bits - p) := Nat.mul_le_mul_right _ less
    rw [Nat.add_mul,Nat.one_mul] at step
    omega
  · intro x
    simp only [contains_iff,Block.Holds,block,List.mem_map,List.mem_finRange,true_and,exists_exists_eq_and]
    constructor
    · rintro ⟨i,low,high⟩
      simp only [nth] at low high
      have step : (i.val + 1)*2^(v.bits - p) ≤ 2^(p - n.prefixLen)*2^(v.bits - p) := Nat.mul_le_mul_right _ i.isLt
      rw [Nat.add_mul,Nat.one_mul] at step
      omega
    · rintro ⟨low,high⟩
      have offset : x - n.address < 2^(v.bits - p)*2^(p - n.prefixLen) := by
        rw [Nat.mul_comm,← split]
        have := Nat.two_pow_pos (v.bits - n.prefixLen)
        omega
      refine ⟨⟨(x - n.address) / 2^(v.bits - p),Nat.div_lt_of_lt_mul offset⟩,?_⟩
      simp only [nth]
      have whole := Nat.div_add_mod (x - n.address) (2^(v.bits - p))
      have less := Nat.mod_lt (x - n.address) positive
      rw [Nat.mul_comm] at whole
      omega

theorem subnets_partition (n : IpNetwork v) (p : Nat) (longer : n.prefixLen < p) (fits : p ≤ v.bits) :
    ∃ parts, n.subnets 1 (some (p : Int)) = .ok parts ∧
      n.subnets ((p : Int) - n.prefixLen) none = .ok parts ∧ n.Partitions p parts := by
  refine ⟨_,subnets_legal n p 1 longer fits,?_,nth_partitions n p (Nat.le_of_lt longer) fits⟩
  obtain ⟨diff,rfl⟩ := Nat.exists_eq_add_of_lt longer
  have same : ((n.prefixLen + diff + 1 : Nat) : Int) - n.prefixLen = (diff + 1 : Nat) := by
    push_cast
    omega
  rw [same,subnets_diff n (diff + 1) (by omega)]
  exact subnets_legal n _ 1 longer fits

-- The two halves of a network, the one after the other.
structure Halves (n one two : IpNetwork v) : Prop where
  oneLen : one.prefixLen = n.prefixLen + 1
  twoLen : two.prefixLen = n.prefixLen + 1
  apart : one.last < two.address
  covers : ∀ x, one.contains x = true ∨ two.contains x = true ↔ n.contains x = true

theorem halve_halves (n : IpNetwork v) (room : n.prefixLen < v.bits) :
    ∃ one two, n.halve = .ok (one,two) ∧ n.Halves one two := by
  obtain ⟨parts,_,made,partitions⟩ := n.subnets_partition (n.prefixLen + 1) (by omega) room
  have one' : ((n.prefixLen + 1 : Nat) : Int) - n.prefixLen = 1 := by
    push_cast
    omega
  rw [one'] at made
  have count : parts.length = 2 := by
    rw [partitions.count,Nat.add_sub_cancel_left,Nat.pow_one]
  obtain ⟨one,two,rfl⟩ := List.length_eq_two.mp count
  refine ⟨one,two,?_,?_,?_,?_,?_⟩
  · rw [halve,made]
    rfl
  · exact (partitions.placed 0 (by simp)).1
  · exact (partitions.placed 1 (by simp)).1
  · simpa using partitions.apart
  · intro x
    rw [← partitions.covers]
    simp

theorem contains_address (n : IpNetwork v) : n.contains n.address = true := (contains_iff n _).mpr n.block.holds_start

theorem subnetOf_iff (n other : IpNetwork v) :
    n.subnetOf other = true ↔ ∀ x, n.contains x = true → other.contains x = true := by
  have order : n.address ≤ n.last := Nat.le_add_right _ _
  simp only [subnetOf,contains,decide_eq_true_eq]
  constructor
  · intro inside x held
    omega
  · intro inside
    have first := inside n.address ⟨Nat.le_refl _,order⟩
    have final := inside n.last ⟨order,Nat.le_refl _⟩
    omega

theorem subnetOf_of_meets {n other : IpNetwork v} (longer : other.prefixLen ≤ n.prefixLen)
    (inN : n.contains x = true) (inOther : other.contains x = true) : n.subnetOf other = true := by
  rw [subnetOf_iff]
  intro y held
  rw [contains_iff] at *
  have order : n.block.order ≤ other.block.order := by
    show v.bits - n.prefixLen ≤ v.bits - other.prefixLen
    omega
  exact Block.nested order inN inOther held

theorem eq_of_meets {n other : IpNetwork v} (same : n.prefixLen = other.prefixLen)
    (inN : n.contains x = true) (inOther : other.contains x = true) : n = other := by
  rw [contains_iff] at inN inOther
  have order : n.block.order = other.block.order := by
    show v.bits - n.prefixLen = v.bits - other.prefixLen
    rw [same]
  have start : n.address = other.address := Block.start_eq_of_nested order inN inOther
  ext
  · exact start
  · exact same

theorem strict_longer {inner outer : IpNetwork v} (inside : inner.subnetOf outer = true) (strict : inner ≠ outer) :
    outer.prefixLen < inner.prefixLen := by
  by_contra shorter
  have held := (subnetOf_iff inner outer).mp inside _ inner.contains_address
  have back := subnetOf_of_meets (by omega) held inner.contains_address
  refine strict ?_
  simp only [subnetOf,decide_eq_true_eq] at inside back
  have start : inner.address = outer.address := by omega
  have length : 2^(v.bits - inner.prefixLen) = 2^(v.bits - outer.prefixLen) := by
    have one := Nat.two_pow_pos (v.bits - inner.prefixLen)
    have two := Nat.two_pow_pos (v.bits - outer.prefixLen)
    simp only [last] at inside back
    omega
  have orders := Nat.pow_right_injective (by omega) length
  have := inner.shorter
  have := outer.shorter
  ext
  · exact start
  · omega

theorem Halves.side {n one two other : IpNetwork v} (halves : n.Halves one two) (inside : other.subnetOf n = true)
    (strict : other ≠ n) : other.subnetOf one = true ∨ other.subnetOf two = true := by
  have longer := strict_longer inside strict
  have held := (subnetOf_iff other n).mp inside _ other.contains_address
  rcases (halves.covers _).mpr held with inOne | inTwo
  · exact .inl (subnetOf_of_meets (by rw [halves.oneLen]; omega) other.contains_address inOne)
  · exact .inr (subnetOf_of_meets (by rw [halves.twoLen]; omega) other.contains_address inTwo)

theorem Halves.disjoint {n one two : IpNetwork v} (halves : n.Halves one two) (inOne : one.contains x = true)
    (inTwo : two.contains x = true) : False := by
  have := halves.apart
  simp only [contains,decide_eq_true_eq] at inOne inTwo
  omega

-- Networks apart from each other that make up one network without another.
structure Leaves (n other : IpNetwork v) (nets : List (IpNetwork v)) : Prop where
  count : nets.length = other.prefixLen - n.prefixLen
  apart : nets.Pairwise fun a b => ∀ x, a.contains x = true → ¬b.contains x = true
  covers : ∀ x, (∃ net ∈ nets, net.contains x = true) ↔ n.contains x = true ∧ ¬other.contains x = true

theorem Leaves.cons {n kept cut other : IpNetwork v} (longer : n.prefixLen < other.prefixLen)
    (cutLen : cut.prefixLen = n.prefixLen + 1) (inside : other.subnetOf cut = true)
    (covers : ∀ x, kept.contains x = true ∨ cut.contains x = true ↔ n.contains x = true)
    (disjoint : ∀ x, kept.contains x = true → ¬cut.contains x = true) (leaves : cut.Leaves other nets) :
    n.Leaves other (kept :: nets) := by
  have within := (subnetOf_iff other cut).mp inside
  refine ⟨?_,?_,?_⟩
  · rw [List.length_cons,leaves.count,cutLen]
    omega
  · refine List.pairwise_cons.mpr ⟨?_,leaves.apart⟩
    intro net member x inKept inNet
    exact disjoint x inKept ((leaves.covers x).mp ⟨net,member,inNet⟩).1
  · intro x
    simp only [List.mem_cons,exists_eq_or_imp]
    rw [leaves.covers,← covers]
    constructor
    · rintro (inKept | ⟨inCut,out⟩)
      · exact ⟨.inl inKept,fun held => disjoint x inKept (within x held)⟩
      · exact ⟨.inr inCut,out⟩
    · rintro ⟨inKept | inCut,out⟩
      · exact .inl inKept
      · exact .inr ⟨inCut,out⟩

theorem Leaves.single {n kept cut : IpNetwork v} (cutLen : cut.prefixLen = n.prefixLen + 1)
    (covers : ∀ x, kept.contains x = true ∨ cut.contains x = true ↔ n.contains x = true)
    (disjoint : ∀ x, kept.contains x = true → ¬cut.contains x = true) : n.Leaves cut [kept] := by
  refine ⟨?_,?_,?_⟩
  · rw [cutLen]
    simp
  · simp
  · intro x
    simp only [List.mem_singleton,exists_eq_left]
    rw [← covers]
    constructor
    · intro held
      exact ⟨.inl held,disjoint x held⟩
    · rintro ⟨inKept | inCut,out⟩
      · exact inKept
      · exact absurd inCut out

theorem excludeLoop_leaves (other : IpNetwork v) (depth : Nat) (n one two : IpNetwork v)
    (deep : other.prefixLen - n.prefixLen = depth) (inside : other.subnetOf n = true) (strict : other ≠ n)
    (halves : n.Halves one two) :
    ∃ nets, (∀ fuel, depth ≤ fuel → excludeLoop other fuel one two = some (.ok nets)) ∧ n.Leaves other nets := by
  have longer := strict_longer inside strict
  have fits := other.shorter
  have flipped : ∀ x, two.contains x = true ∨ one.contains x = true ↔ n.contains x = true :=
    fun x => or_comm.trans (halves.covers x)
  induction depth generalizing n one two with
  | zero => omega
  | succ depth ih =>
    by_cases isOne : one = other
    · subst isOne
      refine ⟨[two],?_,Leaves.single halves.oneLen flipped fun x inTwo inOne => halves.disjoint inOne inTwo⟩
      intro fuel enough
      obtain ⟨fuel,rfl⟩ := Nat.exists_eq_succ_of_ne_zero (show fuel ≠ 0 by omega)
      rw [excludeLoop,if_neg (by simp),if_pos rfl]
    · by_cases isTwo : two = other
      · subst isTwo
        refine ⟨[one],?_,Leaves.single halves.twoLen halves.covers fun x inOne inTwo => halves.disjoint inOne inTwo⟩
        intro fuel enough
        obtain ⟨fuel,rfl⟩ := Nat.exists_eq_succ_of_ne_zero (show fuel ≠ 0 by omega)
        rw [excludeLoop,if_neg (by simp),if_neg isOne]
      · by_cases inOne : other.subnetOf one = true
        · have deeper := strict_longer inOne (Ne.symm isOne)
          obtain ⟨a,b,made,halves'⟩ := halve_halves one (by omega)
          obtain ⟨nets,ran,leaves⟩ := ih one a b (by rw [halves.oneLen]; omega) inOne (Ne.symm isOne) halves' deeper
            fun x => or_comm.trans (halves'.covers x)
          refine ⟨two :: nets,?_,leaves.cons longer halves.oneLen inOne flipped fun x inTwo inOne =>
            halves.disjoint inOne inTwo⟩
          intro fuel enough
          obtain ⟨fuel,rfl⟩ := Nat.exists_eq_succ_of_ne_zero (show fuel ≠ 0 by omega)
          rw [excludeLoop,if_pos ⟨isOne,isTwo⟩,if_pos inOne,made]
          simp only [ran fuel (by omega)]
          rfl
        · have inTwo := (halves.side inside strict).resolve_left inOne
          have deeper := strict_longer inTwo (Ne.symm isTwo)
          obtain ⟨a,b,made,halves'⟩ := halve_halves two (by omega)
          obtain ⟨nets,ran,leaves⟩ := ih two a b (by rw [halves.twoLen]; omega) inTwo (Ne.symm isTwo) halves' deeper
            fun x => or_comm.trans (halves'.covers x)
          refine ⟨one :: nets,?_,leaves.cons longer halves.twoLen inTwo halves.covers fun x inOne inTwo =>
            halves.disjoint inOne inTwo⟩
          intro fuel enough
          obtain ⟨fuel,rfl⟩ := Nat.exists_eq_succ_of_ne_zero (show fuel ≠ 0 by omega)
          rw [excludeLoop,if_pos ⟨isOne,isTwo⟩,if_neg inOne,if_pos inTwo,made]
          simp only [ran fuel (by omega)]
          rfl

theorem addressExclude_leaves (outer inner : IpNetwork v) (inside : inner.subnetOf outer = true)
    (strict : inner ≠ outer) :
    ∃ nets, (∀ fuel, inner.prefixLen - outer.prefixLen ≤ fuel → addressExclude fuel outer inner = some (.ok nets)) ∧
      outer.Leaves inner nets := by
  have longer := strict_longer inside strict
  have fits := inner.shorter
  obtain ⟨one,two,made,halves⟩ := halve_halves outer (by omega)
  obtain ⟨nets,ran,leaves⟩ := excludeLoop_leaves inner _ outer one two rfl inside strict halves
  refine ⟨nets,?_,leaves⟩
  intro fuel enough
  rw [addressExclude,if_neg (by simp [inside]),if_neg strict,made]
  exact ran fuel enough

end IpNetwork

open IpNetwork

-- Excluding a strict sub-network ends and leaves one network for each bit
-- between the two lengths; subnets of any legal length partition the network.
theorem network_exclude_subnets (v : IpVersion) :
    (∀ outer inner : IpNetwork v, inner.subnetOf outer = true → inner ≠ outer →
      ∃ nets, (∀ fuel, inner.prefixLen - outer.prefixLen ≤ fuel → addressExclude fuel outer inner = some (.ok nets)) ∧
        outer.Leaves inner nets) ∧
    ∀ (n : IpNetwork v) (p : Nat), n.prefixLen < p → p ≤ v.bits →
      ∃ parts, n.subnets 1 (some (p : Int)) = .ok parts ∧
        n.subnets ((p : Int) - n.prefixLen) none = .ok parts ∧ n.Partitions p parts := by
  exact ⟨addressExclude_leaves,subnets_partition⟩

-- 10.1.0.0/16 taken out of 10.0.0.0/8, and the latter cut into /10 networks.
theorem network_exclude_subnets_ten :
    ∃ outer inner : IpNetwork .ip4, outer.address = 0x0A000000 ∧ outer.prefixLen = 8 ∧ inner.address = 0x0A010000 ∧
      inner.prefixLen = 16 ∧ (∃ nets, addressExclude 8 outer inner = some (.ok nets) ∧ nets.length = 8) ∧
      ∃ parts, outer.subnets 1 (some 10) = .ok parts ∧ parts.length = 4 := by
  refine ⟨⟨0x0A000000,8,by decide,by decide,by decide⟩,⟨0x0A010000,16,by decide,by decide,by decide⟩,rfl,rfl,rfl,rfl,?_,?_⟩
  · obtain ⟨nets,ran,leaves⟩ := (network_exclude_subnets .ip4).1
      ⟨0x0A000000,8,by decide,by decide,by decide⟩ ⟨0x0A010000,16,by decide,by decide,by decide⟩ (by decide) (by decide)
    exact ⟨nets,ran 8 (by decide),leaves.count⟩
  · obtain ⟨parts,made,_,partitions⟩ := (network_exclude_subnets .ip4).2
      ⟨0x0A000000,8,by decide,by decide,by decide⟩ 10 (by decide) (by decide)
    exact ⟨parts,made,partitions.count⟩

section canonical
open IpNetwork
variable {v : IpVersion}

theorem maximal_unique {n m : IpNetwork v} (maximalN : Block.Maximal inside n.block) (maximalM : Block.Maximal inside m.block)
    (withinN : ∀ x, n.block.Holds x → inside x) (withinM : ∀ x, m.block.Holds x → inside x)
    (meets : m.block.Holds n.block.start) : n = m := by
  have back : n.block.Holds m.block.start := maximalN.holds withinM meets m.block.holds_start
  have less : m.block.order ≤ n.block.order := maximalN m.block withinM meets
  have more : n.block.order ≤ m.block.order := maximalM n.block withinN back
  have same : n.prefixLen = m.prefixLen := by
    have short := n.shorter
    have short' := m.shorter
    simp only [block] at less more
    omega
  exact eq_of_meets same n.contains_address ((contains_iff m _).mpr meets)

theorem summarized_subset {inside : Nat → Prop} {nets others : List (IpNetwork v)}
    (covers : ∀ x, (∃ n ∈ nets, n.block.Holds x) ↔ inside x) (covers' : ∀ x, (∃ n ∈ others, n.block.Holds x) ↔ inside x)
    (maximal : ∀ n ∈ nets, Block.Maximal inside n.block) (maximal' : ∀ n ∈ others, Block.Maximal inside n.block) :
    nets ⊆ others := by
  intro n member
  obtain ⟨m,member',meets⟩ := (covers' n.block.start).mpr ((covers _).mp ⟨n,member,n.block.holds_start⟩)
  have same : n = m := maximal_unique (maximal n member) (maximal' m member') (fun x held => (covers x).mp ⟨n,member,held⟩)
    (fun x held => (covers' x).mp ⟨m,member',held⟩) meets
  rw [same]
  exact member'

theorem ordered_nodup {nets : List (IpNetwork v)} (ordered : nets.Pairwise fun a b => a.last < b.address) : nets.Nodup := by
  refine ordered.imp ?_
  intro a b less same
  subst same
  have low : a.address ≤ a.last := Nat.le_add_right _ _
  omega

theorem ordered_unique {nets others : List (IpNetwork v)} (ordered : nets.Pairwise fun a b => a.last < b.address)
    (ordered' : others.Pairwise fun a b => a.last < b.address) (subset : nets ⊆ others) (superset : others ⊆ nets) :
    nets = others := by
  have perm : nets.Perm others :=
    (List.perm_ext_iff_of_nodup (ordered_nodup ordered) (ordered_nodup ordered')).mpr
      fun n => ⟨fun member => subset member,fun member => superset member⟩
  refine perm.eq_of_pairwise ?_ ordered ordered'
  intro a b _ _ ab ba
  have lowA : a.address ≤ a.last := Nat.le_add_right _ _
  have lowB : b.address ≤ b.last := Nat.le_add_right _ _
  omega

-- The summary depends on the addresses alone: not on order, overlap or repetition.
theorem summarize_canonical (v : IpVersion) (items others : List (Item v))
    (same : ∀ x, (∃ i ∈ items, i.Covers x) ↔ ∃ i ∈ others, i.Covers x) :
    summarize (items.map (Sigma.mk v)) = summarize (others.map (Sigma.mk v)) := by
  obtain ⟨nets,made,covers,ordered,maximal⟩ := summarizeVersion_tiled v items
  obtain ⟨nets',made',covers',ordered',maximal'⟩ := summarizeVersion_tiled v others
  have alike : (fun x => ∃ i ∈ others, i.Covers x) = fun x => ∃ i ∈ items, i.Covers x :=
    funext fun x => propext (same x).symm
  have covers' : ∀ x, (∃ n ∈ nets', n.block.Holds x) ↔ ∃ i ∈ items, i.Covers x := fun x => (covers' x).trans (same x).symm
  rw [alike] at maximal'
  have equal : nets = nets' := ordered_unique ordered ordered' (summarized_subset covers covers' maximal maximal')
    (summarized_subset covers' covers maximal' maximal)
  rw [summarize_same v items nets made,summarize_same v others nets' made',equal]

theorem summarize_canonical_swapped :
    ∃ four two : IpNetwork .ip4, four.address = 4 ∧ four.prefixLen = 30 ∧ two.address = 6 ∧ two.prefixLen = 31 ∧
      summarize ([Item.network four,Item.address ⟨6,by decide⟩,Item.address ⟨9,by decide⟩].map (Sigma.mk .ip4)) =
        summarize ([Item.address ⟨9,by decide⟩,Item.network two,Item.address ⟨5,by decide⟩,Item.address ⟨4,by decide⟩].map
          (Sigma.mk .ip4)) := by
  refine ⟨⟨4,30,by decide,by decide,by decide⟩,⟨6,31,by decide,by decide,by decide⟩,rfl,rfl,rfl,rfl,?_⟩
  refine summarize_canonical .ip4 _ _ ?_
  intro x
  simp only [List.mem_cons,List.not_mem_nil,or_false,exists_eq_or_imp,exists_eq_left]
  show (4 ≤ x ∧ x ≤ 7) ∨ (6 ≤ x ∧ x ≤ 6) ∨ (9 ≤ x ∧ x ≤ 9) ↔
    (9 ≤ x ∧ x ≤ 9) ∨ (6 ≤ x ∧ x ≤ 7) ∨ (5 ≤ x ∧ x ≤ 5) ∨ 4 ≤ x ∧ x ≤ 4
  omega

theorem summarize_whole (outer : IpNetwork v) (items : List (Item v))
    (whole : ∀ x, (∃ i ∈ items, i.Covers x) ↔ outer.contains x = true) :
    summarize (items.map (Sigma.mk v)) = .ok [⟨v,outer⟩] := by
  obtain ⟨nets,made,covers,ordered,maximal⟩ := summarizeVersion_tiled v items
  have alike : (fun x => ∃ i ∈ items, i.Covers x) = fun x => outer.block.Holds x :=
    funext fun x => propext ((whole x).trans (outer.contains_iff x))
  rw [alike] at maximal
  have covers : ∀ x, (∃ n ∈ nets, n.block.Holds x) ↔ outer.block.Holds x := fun x =>
    (covers x).trans ((whole x).trans (outer.contains_iff x))
  have sole : ∀ x, (∃ n ∈ [outer], n.block.Holds x) ↔ outer.block.Holds x := by simp
  have largest : ∀ n ∈ [outer], Block.Maximal (fun x => outer.block.Holds x) n.block := by
    intro n member
    obtain rfl := List.mem_singleton.mp member
    intro b within _
    have low := within b.start b.holds_start
    have high := within (b.start + (2^b.order - 1)) ⟨by omega,by have := Nat.two_pow_pos b.order; omega⟩
    by_contra longer
    have double : 2*2^n.block.order ≤ 2^b.order := by
      rw [← Nat.pow_succ']
      exact Nat.pow_le_pow_right (by omega) (by omega)
    have positive := Nat.two_pow_pos n.block.order
    have := low.1
    have := high.2
    omega
  have equal : nets = [outer] := ordered_unique ordered (List.pairwise_singleton _ _)
    (summarized_subset covers sole maximal largest) (summarized_subset sole covers largest maximal)
  rw [summarize_same v items nets made,equal]
  rfl

theorem covers_networks (nets : List (IpNetwork v)) (x : Nat) :
    (∃ i ∈ nets.map Item.network, i.Covers x) ↔ ∃ n ∈ nets, n.contains x = true := by
  simp only [List.mem_map]
  constructor
  · rintro ⟨_,⟨n,member,rfl⟩,covered⟩
    exact ⟨n,member,(Item.covers_network n x).mp covered⟩
  · rintro ⟨n,member,held⟩
    exact ⟨_,⟨n,member,rfl⟩,(Item.covers_network n x).mpr held⟩

-- What was cut apart is put together again.
theorem summarize_undoes (v : IpVersion) :
    (∀ outer inner : IpNetwork v, inner.subnetOf outer = true → inner ≠ outer →
      ∃ nets, (∀ fuel, inner.prefixLen - outer.prefixLen ≤ fuel → addressExclude fuel outer inner = some (.ok nets)) ∧
        summarize (((inner :: nets).map Item.network).map (Sigma.mk v)) = .ok [⟨v,outer⟩]) ∧
    ∀ (n : IpNetwork v) (p : Nat), n.prefixLen < p → p ≤ v.bits →
      ∃ parts, n.subnets 1 (some (p : Int)) = .ok parts ∧
        summarize ((parts.map Item.network).map (Sigma.mk v)) = .ok [⟨v,n⟩] := by
  refine ⟨?_,?_⟩
  · intro outer inner inside strict
    obtain ⟨nets,made,leaves⟩ := addressExclude_leaves outer inner inside strict
    refine ⟨nets,made,summarize_whole outer _ ?_⟩
    intro x
    rw [covers_networks]
    have within := (subnetOf_iff inner outer).mp inside x
    have covers := leaves.covers x
    simp only [List.mem_cons,exists_eq_or_imp,covers]
    by_cases held : inner.contains x = true
    · simp [held,within held]
    · simp [held]
  · intro n p longer fits
    obtain ⟨parts,made,_,partitions⟩ := n.subnets_partition p longer fits
    refine ⟨parts,made,summarize_whole n _ ?_⟩
    intro x
    rw [covers_networks]
    exact partitions.covers x

theorem summarize_undoes_ten :
    ∃ outer inner : IpNetwork .ip4, outer.prefixLen = 8 ∧ inner.prefixLen = 16 ∧
      (∃ nets, addressExclude 8 outer inner = some (.ok nets) ∧
        summarize (((inner :: nets).map Item.network).map (Sigma.mk .ip4)) = .ok [⟨.ip4,outer⟩]) ∧
      ∃ parts, outer.subnets 1 (some 10) = .ok parts ∧
        summarize ((parts.map Item.network).map (Sigma.mk .ip4)) = .ok [⟨.ip4,outer⟩] := by
  refine ⟨⟨0x0A000000,8,by decide,by decide,by decide⟩,⟨0x0A010000,16,by decide,by decide,by decide⟩,rfl,rfl,?_,?_⟩
  · obtain ⟨nets,made,whole⟩ := (summarize_undoes .ip4).1 ⟨0x0A000000,8,by decide,by decide,by decide⟩
      ⟨0x0A010000,16,by decide,by decide,by decide⟩ (by decide) (by decide)
    exact ⟨nets,made 8 (by decide),whole⟩
  · exact (summarize_undoes .ip4).2 _ 10 (by decide) (by decide)

end canonical

end PmdPytcp.NetAddr
