import PmdPytcp.Icmp6.Groups

namespace PmdPytcp.Icmp6.Interface

theorem SameTables.refl (i : Interface) : SameTables i i := ⟨rfl,rfl,rfl⟩

theorem SameTables.trans (one : SameTables i j) (two : SameTables j k) : SameTables i k :=
  ⟨two.now.trans one.now,two.slaacAddresses.trans one.slaacAddresses,two.tempAddresses.trans one.tempAddresses⟩

theorem SameTables.andThen {o : Outcome} {rest : Interface → Outcome} (first : SameTables i o.interface)
    (later : ∀ j,SameTables j (rest j).interface) : SameTables i (o.andThen rest).interface := by
  unfold Outcome.andThen
  split
  · exact first.trans (later _)
  · exact first

theorem assignIp6Host_tables (i : Interface) (host : Ip6IfAddr) : SameTables i (i.assignIp6Host host).interface := by
  unfold assignIp6Host
  dsimp only
  split
  · exact ⟨rfl,rfl,rfl⟩
  · exact ⟨rfl,rfl,rfl⟩

theorem removeIp6Host_tables (i : Interface) (host : Ip6IfAddr) : SameTables i (i.removeIp6Host host).interface := by
  unfold removeIp6Host
  dsimp only
  split
  · exact ⟨rfl,rfl,rfl⟩
  · exact SameTables.trans (j := { i with ip6IfAddr := i.ip6IfAddr.filter (· ≠ host) }) ⟨rfl,rfl,rfl⟩
      (removeIp6Multicast_tables _ _)

theorem leaveGroups_tables : ∀ removed i,SameTables i (leaveGroups removed i).interface
  | [],i => .refl i
  | host :: rest,i => by
    unfold leaveGroups
    split
    · exact .refl i
    · exact (removeIp6Multicast_tables i _).andThen fun j => leaveGroups_tables rest j

theorem removeAddress_tables (i : Interface) (address : Ip6Address) : SameTables i (i.removeAddress address).interface :=
  SameTables.trans (j := { i with ip6IfAddr := i.ip6IfAddr.filter (·.address ≠ address) }) ⟨rfl,rfl,rfl⟩
    (leaveGroups_tables _ _)

theorem replaceAddress_tables (i : Interface) (oldAddress : Ip6Address) (newIfAddr : Ip6IfAddr) :
    SameTables i (i.replaceAddress oldAddress newIfAddr).interface :=
  (assignIp6Host_tables i newIfAddr).andThen fun j => removeAddress_tables j oldAddress

theorem startClaim_tables (i : Interface) (c : Claim) (sysctls : Sysctls) (retries : Nat) :
    SameTables i (i.startClaim c sysctls retries).interface := by
  unfold startClaim
  dsimp only
  split
  · refine SameTables.trans (j := i.dropClaim c) ⟨rfl,rfl,rfl⟩ ((assignIp6Host_tables _ _).andThen fun j => ?_)
    unfold returns
    dsimp only
    split
    · exact ⟨rfl,rfl,rfl⟩
    · exact .refl j
  · split
    · exact ⟨rfl,rfl,rfl⟩
    · exact SameTables.trans (j := i.dropClaim c) ⟨rfl,rfl,rfl⟩ (assignIp6Host_tables _ _)

theorem joinForDad_tables (i : Interface) (c : Claim) (optimistic : Bool) :
    SameTables i (i.joinForDad c optimistic).interface := by
  unfold joinForDad
  dsimp only
  split
  · exact ⟨rfl,rfl,rfl⟩
  · split
    · exact ⟨rfl,rfl,rfl⟩
    · exact ⟨rfl,rfl,rfl⟩

theorem tearDown_tables (i : Interface) (c : Claim) (joined : Bool) :
    SameTables i ((i.dropClaim c).tearDown c joined).interface := by
  refine SameTables.trans (j := i.dropClaim c) ⟨rfl,rfl,rfl⟩ ?_
  unfold tearDown
  split
  · split
    · exact .refl _
    · exact removeIp6Multicast_tables _ _
  · exact .refl _

theorem passDad_tables (i : Interface) (c : Claim) (optimistic joined : Bool) :
    SameTables i (i.passDad c optimistic joined).interface := by
  refine (tearDown_tables i c joined).andThen fun j => ?_
  split
  · exact .refl j
  · exact assignIp6Host_tables j _

theorem revertDad_tables (i : Interface) (c : Claim) (optimistic joined : Bool) :
    SameTables i (i.revertDad c optimistic joined).interface := by
  refine (tearDown_tables i c joined).andThen fun j => ?_
  split
  · exact removeIp6Host_tables j _
  · exact .refl j

variable {stableIid : Bool → Nat → Ip6Network → BitVec 64}

theorem failDad_tables (i : Interface) (c : Claim) (optimistic joined : Bool) (draw : Draw) :
    SameTables i (i.failDad stableIid c optimistic joined draw).interface := by
  unfold failDad
  split
  · exact revertDad_tables i c optimistic joined
  · refine (revertDad_tables i c optimistic joined).andThen fun j => ?_
    split
    · exact .refl j
    · exact ⟨rfl,rfl,rfl⟩

theorem work_tables (i : Interface) (c : Claim) (turn : Turn) : SameTables i (i.work stableIid c turn).interface := by
  unfold work
  split
  · split
    · exact startClaim_tables i c _ _
    · exact startClaim_tables i c _ _
    · exact joinForDad_tables i c _
    · exact passDad_tables i c _ _
    · exact failDad_tables i c _ _ _
    · exact tearDown_tables i c _
    · exact ⟨rfl,rfl,rfl⟩
    · exact .refl i
  · exact .refl i

theorem sweepAddress_tables (i : Interface) (address : Ip6Address) : SameTables i (i.sweepAddress address).interface := by
  unfold sweepAddress
  cases i.ip6IfAddr.find? (·.address = address) with
  | none => exact .refl i
  | some host =>
    dsimp only
    split
    · exact ⟨rfl,rfl,rfl⟩
    · split
      · exact SameTables.trans (j := { i with ip6IfAddr := i.ip6IfAddr.filter (· ≠ host) }) ⟨rfl,rfl,rfl⟩
          (removeIp6Multicast_tables _ _)
      · exact ⟨rfl,rfl,rfl⟩

theorem sweepEach_tables : ∀ addresses i,SameTables i (sweepEach addresses i).interface
  | [],i => .refl i
  | address :: rest,i => (sweepAddress_tables i address).andThen fun j => sweepEach_tables rest j

theorem sweepTempAddresses_tables (i : Interface) :
    i.sweepTempAddresses.interface.now = i.now ∧ i.sweepTempAddresses.interface.slaacAddresses = i.slaacAddresses ∧
      (i.sweepTempAddresses.interface.tempAddresses = i.tempAddresses.filter (i.now < ·.validUntil) ∨
        i.sweepTempAddresses.raised.isSome ∧ i.sweepTempAddresses.interface.tempAddresses = i.tempAddresses) := by
  have tables := sweepEach_tables ((i.tempAddresses.filter (·.validUntil ≤ i.now)).map (·.address)) i
  unfold sweepTempAddresses Outcome.andThen
  split
  · refine ⟨tables.now,tables.slaacAddresses,.inl ?_⟩
    simp only [returns]
    rw [tables.tempAddresses,tables.now]
  · next raised => exact ⟨tables.now,tables.slaacAddresses,.inr ⟨by simp [raised],tables.tempAddresses⟩⟩

theorem sweepSlaacAddresses_tables (i : Interface) :
    i.sweepSlaacAddresses.interface.now = i.now ∧ i.sweepSlaacAddresses.interface.tempAddresses = i.tempAddresses ∧
      (i.sweepSlaacAddresses.interface.slaacAddresses = i.slaacAddresses.filter (i.now < ·.validUntil) ∨
        i.sweepSlaacAddresses.raised.isSome ∧ i.sweepSlaacAddresses.interface.slaacAddresses = i.slaacAddresses) := by
  have tables := sweepEach_tables ((i.slaacAddresses.filter (·.validUntil ≤ i.now)).map (·.address)) i
  unfold sweepSlaacAddresses Outcome.andThen
  split
  · refine ⟨tables.now,tables.tempAddresses,.inl ?_⟩
    simp only [returns]
    rw [tables.slaacAddresses,tables.now]
  · next raised => exact ⟨tables.now,tables.tempAddresses,.inr ⟨by simp [raised],tables.slaacAddresses⟩⟩

-- What the sweeps leave: a table is untouched, or rid of what has expired; both
-- are rid of it when the sweeps return.
structure Swept (i i' : Interface) (returned : Prop) : Prop where
  now : i'.now = i.now
  slaac : i'.slaacAddresses = i.slaacAddresses.filter (i.now < ·.validUntil) ∨
    ¬returned ∧ i'.slaacAddresses = i.slaacAddresses
  temp : i'.tempAddresses = i.tempAddresses.filter (i.now < ·.validUntil) ∨
    ¬returned ∧ i'.tempAddresses = i.tempAddresses

theorem sweeps_swept (i : Interface) : Swept i i.sweeps.interface (i.sweeps.raised = none) := by
  obtain ⟨now,slaac,temp⟩ := sweepTempAddresses_tables i
  unfold sweeps Outcome.andThen
  split
  · next returned =>
    obtain ⟨now',temp',slaac'⟩ := sweepSlaacAddresses_tables i.sweepTempAddresses.interface
    rw [now] at slaac'
    have purged := temp.resolve_right fun raised => by simp [returned] at raised
    refine ⟨now'.trans now,?_,.inl (temp'.trans purged)⟩
    rcases slaac' with purged' | ⟨raised,kept⟩
    · exact .inl (purged'.trans (by rw [slaac]))
    · exact .inr ⟨fun returned => by simp [returned] at raised,kept.trans slaac⟩
  · next raised =>
    have stopped : ¬i.sweepTempAddresses.raised = none := by simp [raised]
    refine ⟨now,.inr ⟨stopped,slaac⟩,?_⟩
    rcases temp with purged | ⟨-,kept⟩
    · exact .inl purged
    · exact .inr ⟨stopped,kept⟩

theorem next_tables (step : Step) (i : Interface) :
    SameTables i (i.next stableIid step) ∨ (∃ elapsed,step = .passed elapsed) ∨
      (∃ sysctls option routerAddress draw,step = .prefixInformation sysctls option routerAddress draw) ∨
      (∃ sysctls draws,step = .regen sysctls draws) ∨ step = .sweep := by
  cases step with
  | passed elapsed => exact .inr (.inl ⟨elapsed,rfl⟩)
  | joinAllNodes => exact .inl ⟨rfl,rfl,rfl⟩
  | add host => exact .inl (assignIp6Host_tables i host)
  | addVetted host => exact .inl ⟨rfl,rfl,rfl⟩
  | remove address => exact .inl (removeAddress_tables i address)
  | replace oldAddress newIfAddr => exact .inl (replaceAddress_tables i oldAddress newIfAddr)
  | autoconfigureLinkLocal sysctls =>
    refine .inl ?_
    simp only [next,Interface.step]
    split
    · exact .refl i
    · exact ⟨rfl,rfl,rfl⟩
  | prefixInformation sysctls option routerAddress draw => exact .inr (.inr (.inl ⟨_,_,_,_,rfl⟩))
  | advertisementDone admitted => exact .inl ⟨rfl,rfl,rfl⟩
  | bootSnapshot =>
    refine .inl ?_
    change SameTables i (if i.addressingComplete then i else { i with bootQueue := i.raPrefixes })
    split
    · exact .refl i
    · exact ⟨rfl,rfl,rfl⟩
  | bootClaim sysctls =>
    refine .inl ?_
    simp only [next,Interface.step,bootClaim]
    split
    · exact .refl i
    · split
      · exact .refl i
      · split
        · exact .refl i
        · exact ⟨rfl,rfl,rfl⟩
  | bootDone =>
    refine .inl ?_
    change SameTables i (if i.bootQueue = [] then { i with addressingComplete := true } else i)
    split
    · exact ⟨rfl,rfl,rfl⟩
    · exact .refl i
  | work claim turn => exact .inl (work_tables i claim turn)
  | regen sysctls draws => exact .inr (.inr (.inr (.inl ⟨_,_,rfl⟩)))
  | sweep => exact .inr (.inr (.inr (.inr rfl)))

end PmdPytcp.Icmp6.Interface
