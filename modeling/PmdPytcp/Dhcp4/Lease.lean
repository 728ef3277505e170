import PmdPytcp.Ip4.Address

namespace PmdPytcp.Dhcp4

structure Ip4Network where
  address : Ip4Address
  prefixLen : Nat
deriving DecidableEq,Repr

structure Ip4IfAddr where
  address : Ip4Address
  prefixLen : Nat
deriving DecidableEq,Repr

structure Dhcp4Lease where
  ip4Host : Ip4IfAddr
  leaseTimeSec : Nat
  serverId : Ip4Address
  acquiredAtMonotonic : ℚ
  gateway : Option Ip4Address := none
  t1Override : Option Nat := none
  t2Override : Option Nat := none
  classlessStaticRoutes : Option (List (Ip4Network × Ip4Address)) := none
deriving DecidableEq

-- What the client reads of a DHCPACK.
structure Ack where
  yiaddr : Ip4Address
  subnetMask : Option Nat
  leaseTime : Option Nat
  serverId : Option Ip4Address := none
  router : List Ip4Address := []
  classlessStaticRoute : Option (List (Ip4Network × Ip4Address)) := none
  renewalTime : Option Nat := none
  rebindingTime : Option Nat := none
deriving DecidableEq

-- `DHCP4__T1_FACTOR` and `DHCP4__T2_FACTOR`
def t1Factor : ℚ := 1/2
def t2Factor : ℚ := 7/8

def extractT1T2Overrides (ack : Ack) (leaseTimeSec : Nat) : Option Nat × Option Nat :=
  let t1 := ack.renewalTime.filter (· < leaseTimeSec)
  let t2 := ack.rebindingTime.filter (· < leaseTimeSec)
  match t1,t2 with
  | some a,some b => if b ≤ a then (none,none) else (some a,some b)
  | t1,t2 => (t1,t2)

-- The lease of an acknowledgement, which needs a mask and a lease time.
def leaseOf (ack : Ack) (serverId : Ip4Address) (now : ℚ) : Option Dhcp4Lease := do
  let mask ← ack.subnetMask
  let leaseTime ← ack.leaseTime
  let overrides := extractT1T2Overrides ack leaseTime
  return {
    ip4Host := ⟨ack.yiaddr,mask⟩
    leaseTimeSec := leaseTime
    serverId := serverId
    acquiredAtMonotonic := now
    gateway := ack.router.head?
    t1Override := overrides.1
    t2Override := overrides.2
    classlessStaticRoutes := ack.classlessStaticRoute }

namespace Dhcp4Lease

def t1Deadline (lease : Dhcp4Lease) : ℚ :=
  match lease.t1Override with
  | some t1 => lease.acquiredAtMonotonic + t1
  | none => lease.acquiredAtMonotonic + lease.leaseTimeSec*t1Factor

def t2Deadline (lease : Dhcp4Lease) : ℚ :=
  match lease.t2Override with
  | some t2 => lease.acquiredAtMonotonic + t2
  | none => lease.acquiredAtMonotonic + lease.leaseTimeSec*t2Factor

def expiryDeadline (lease : Dhcp4Lease) : ℚ := lease.acquiredAtMonotonic + lease.leaseTimeSec

end Dhcp4Lease

-- What a tick of RENEWING and of REBINDING does at a time.
inductive Move where
  | unicast
  | broadcast
  | escalate
  | expire
deriving DecidableEq,Repr

def renewingMove (lease : Dhcp4Lease) (now : ℚ) : Move := if lease.t2Deadline ≤ now then .escalate else .unicast

def rebindingMove (lease : Dhcp4Lease) (now : ℚ) : Move := if lease.expiryDeadline ≤ now then .expire else .broadcast

-- The deadlines in order: the client that wakes at T1 still renews by unicast,
-- and the one that wakes at T2 still broadcasts.
def Ordered (lease : Dhcp4Lease) : Prop :=
  lease.t1Deadline < lease.t2Deadline ∧ lease.t2Deadline < lease.expiryDeadline ∧
    renewingMove lease lease.t1Deadline = .unicast ∧ rebindingMove lease lease.t2Deadline = .broadcast

-- A renewal time without a usable rebinding time lies before 7/8 of the lease,
-- and a rebinding time without a usable renewal time behind half of it.
def Spaced (ack : Ack) (leaseTime : Nat) : Prop :=
  (∀ t1, ack.renewalTime = some t1 → t1 < leaseTime → (∀ t2, ack.rebindingTime = some t2 → leaseTime ≤ t2) →
    8*t1 < 7*leaseTime) ∧
  (∀ t2, ack.rebindingTime = some t2 → t2 < leaseTime → (∀ t1, ack.renewalTime = some t1 → leaseTime ≤ t1) →
    leaseTime < 2*t2)

theorem ordered_iff (lease : Dhcp4Lease) :
    Ordered lease ↔ lease.t1Deadline < lease.t2Deadline ∧ lease.t2Deadline < lease.expiryDeadline := by
  constructor
  · intro ordered
    exact ⟨ordered.1,ordered.2.1⟩
  · intro ordered
    exact ⟨ordered.1,ordered.2,if_neg (not_le.mpr ordered.1),if_neg (not_le.mpr ordered.2)⟩

-- An option's value counts when it lies before the end of the lease.
def usable (time : Option Nat) (leaseTime : Nat) : Option Nat := time.filter (· < leaseTime)

theorem usable_some : usable time leaseTime = some t ↔ time = some t ∧ t < leaseTime := by
  simp [usable,Option.filter_eq_some_iff]

theorem usable_none : usable time leaseTime = none ↔ ∀ t, time = some t → leaseTime ≤ t := by
  simp [usable,Option.filter_eq_none_iff]

theorem spaced_iff (ack : Ack) (leaseTime : Nat) : Spaced ack leaseTime ↔
    (∀ t1, usable ack.renewalTime leaseTime = some t1 → usable ack.rebindingTime leaseTime = none → 8*t1 < 7*leaseTime) ∧
    (∀ t2, usable ack.rebindingTime leaseTime = some t2 → usable ack.renewalTime leaseTime = none → leaseTime < 2*t2) := by
  simp only [Spaced,usable_some,usable_none,and_imp]

-- The deadlines of a lease are in order exactly when a time given alone leaves
-- room for the fraction the other falls back to.
theorem deadlines_ordered_exact (ack : Ack) (serverId : Ip4Address) (now : ℚ) (lease : Dhcp4Lease)
    (acknowledged : leaseOf ack serverId now = some lease) (long : 8 ≤ lease.leaseTimeSec) :
    Ordered lease ↔ Spaced ack lease.leaseTimeSec := by
  simp only [leaseOf,Option.bind_eq_bind,Option.bind_eq_some_iff] at acknowledged
  obtain ⟨mask,-,leaseTime,-,built⟩ := acknowledged
  cases built
  dsimp only at long ⊢
  have positive : (8 : ℚ) ≤ leaseTime := by exact_mod_cast long
  rw [ordered_iff,spaced_iff]
  cases first : usable ack.renewalTime leaseTime with
  | none =>
    cases second : usable ack.rebindingTime leaseTime with
    | none =>
      have none' : extractT1T2Overrides ack leaseTime = (none,none) := by
        unfold extractT1T2Overrides
        rw [show ack.renewalTime.filter _ = none from first,show ack.rebindingTime.filter _ = none from second]
      rw [none']
      simp only [Dhcp4Lease.t1Deadline,Dhcp4Lease.t2Deadline,Dhcp4Lease.expiryDeadline,t1Factor,t2Factor]
      refine iff_of_true ⟨by linarith,by linarith⟩ ⟨?_,?_⟩
      all_goals intro t impossible; cases impossible
    | some t2 =>
      have below := (usable_some.mp second).2
      have second' : extractT1T2Overrides ack leaseTime = (none,some t2) := by
        unfold extractT1T2Overrides
        rw [show ack.renewalTime.filter _ = none from first,show ack.rebindingTime.filter _ = some t2 from second]
      rw [second']
      simp only [Dhcp4Lease.t1Deadline,Dhcp4Lease.t2Deadline,Dhcp4Lease.expiryDeadline,t1Factor]
      have ends : (t2 : ℚ) < leaseTime := by exact_mod_cast below
      constructor
      · intro ordered
        refine ⟨by simp,?_⟩
        intro t same _
        cases same
        have cast : (leaseTime : ℚ) < 2*t2 := by linarith [ordered.1]
        exact_mod_cast cast
      · intro spaced
        have cast : (leaseTime : ℚ) < 2*t2 := by exact_mod_cast spaced.2 t2 rfl trivial
        exact ⟨by linarith,by linarith⟩
  | some t1 =>
    cases second : usable ack.rebindingTime leaseTime with
    | none =>
      have first' : extractT1T2Overrides ack leaseTime = (some t1,none) := by
        unfold extractT1T2Overrides
        rw [show ack.renewalTime.filter _ = some t1 from first,show ack.rebindingTime.filter _ = none from second]
      rw [first']
      simp only [Dhcp4Lease.t1Deadline,Dhcp4Lease.t2Deadline,Dhcp4Lease.expiryDeadline,t2Factor]
      constructor
      · intro ordered
        refine ⟨?_,by simp⟩
        intro t same _
        cases same
        have cast : (8 : ℚ)*t1 < 7*leaseTime := by linarith [ordered.1]
        exact_mod_cast cast
      · intro spaced
        have cast : (8 : ℚ)*t1 < 7*leaseTime := by exact_mod_cast spaced.1 t1 rfl trivial
        exact ⟨by linarith,by linarith⟩
    | some t2 =>
      have below := (usable_some.mp second).2
      have ends : (t2 : ℚ) < leaseTime := by exact_mod_cast below
      have both : extractT1T2Overrides ack leaseTime = if t2 ≤ t1 then (none,none) else (some t1,some t2) := by
        unfold extractT1T2Overrides
        rw [show ack.renewalTime.filter _ = some t1 from first,show ack.rebindingTime.filter _ = some t2 from second]
      rw [both]
      refine iff_of_true ?_ ⟨by simp,by simp⟩
      by_cases crossed : t2 ≤ t1
      · rw [if_pos crossed]
        simp only [Dhcp4Lease.t1Deadline,Dhcp4Lease.t2Deadline,Dhcp4Lease.expiryDeadline,t1Factor,t2Factor]
        exact ⟨by linarith,by linarith⟩
      · rw [if_neg crossed]
        have order : (t1 : ℚ) < t2 := by exact_mod_cast not_le.mp crossed
        simp only [Dhcp4Lease.t1Deadline,Dhcp4Lease.t2Deadline,Dhcp4Lease.expiryDeadline]
        exact ⟨by linarith,by linarith⟩

-- Lease 100 s with a renewal time of 40 s, and with one of 90 s, alone.
theorem deadlines_ordered_forty :
    8 ≤ 100 ∧ (Ordered ⟨⟨10,24⟩,100,1,0,none,some 40,none,none⟩ ↔
      Spaced { yiaddr := 10, subnetMask := some 24, leaseTime := some 100, renewalTime := some 40 } 100) :=
  ⟨by decide,deadlines_ordered_exact { yiaddr := 10, subnetMask := some 24, leaseTime := some 100, renewalTime := some 40 }
    1 0 ⟨⟨10,24⟩,100,1,0,none,some 40,none,none⟩ rfl (by decide)⟩

theorem deadlines_ordered_ninety :
    ¬∀ ack serverId now lease, leaseOf ack serverId now = some lease → 8 ≤ lease.leaseTimeSec → Ordered lease := by
  intro all
  have ordered := all { yiaddr := 10, subnetMask := some 24, leaseTime := some 100, renewalTime := some 90 }
    1 0 ⟨⟨10,24⟩,100,1,0,none,some 90,none,none⟩ rfl (by decide)
  have late := ordered.1
  norm_num [Dhcp4Lease.t1Deadline,Dhcp4Lease.t2Deadline,t2Factor] at late

end PmdPytcp.Dhcp4
