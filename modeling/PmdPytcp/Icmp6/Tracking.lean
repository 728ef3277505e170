import PmdPytcp.Icmp6.Lifetimes

namespace PmdPytcp.Icmp6

theorem low_mask : (0xffffff : BitVec 128) = (BitVec.allOnes 24).setWidth 128 := by decide

theorem low_bits (a : Ip6Address) : a &&& 0xffffff = (a.setWidth 24).setWidth 128 := by
  rw [low_mask]
  ext j bound
  rw [BitVec.getElem_and,BitVec.getElem_setWidth,BitVec.getElem_setWidth,BitVec.getLsbD_setWidth,BitVec.getLsbD_allOnes,
    BitVec.getLsbD_eq_getElem bound,Bool.and_comm]

theorem mac_low_bits (a : Ip6Address) : (macOf a).setWidth 24 = a.setWidth 24 := by
  unfold macOf multicastMac solicitedGroup
  rw [BitVec.setWidth_or,BitVec.setWidth_setWidth_of_le _ (by decide),BitVec.setWidth_and,BitVec.setWidth_or,
    BitVec.setWidth_and]
  have top : (0x333300000000 : BitVec 48).setWidth 24 = 0#24 := by decide
  have host : (0xffffff : BitVec 128).setWidth 24 = BitVec.allOnes 24 := by decide
  have group : (0xff0200000000000000000001ff000000 : BitVec 128).setWidth 24 = 0#24 := by decide
  have half : (0xffffffff : BitVec 128).setWidth 24 = BitVec.allOnes 24 := by decide
  rw [top,host,group,half,BitVec.and_allOnes,BitVec.or_zero,BitVec.and_allOnes,BitVec.zero_or]

theorem solicited_mac_injective (same : macOf a = macOf b) : solicitedGroup a = solicitedGroup b := by
  have low : a.setWidth 24 = b.setWidth 24 := by rw [← mac_low_bits a,same,mac_low_bits b]
  unfold solicitedGroup
  rw [low_bits a,low_bits b,low]

namespace Interface
variable {stableIid : Bool → Nat → Ip6Network → BitVec 64}

def Paired (i : Interface) : Prop := ∀ a,solicitedGroup a ∈ i.ip6Multicast → macOf a ∈ i.macMulticast

theorem Paired.same (paired : Paired i) (groups : i'.ip6Multicast = i.ip6Multicast)
    (macs : i'.macMulticast = i.macMulticast) : Paired i' := by
  unfold Paired
  rw [groups,macs]
  exact paired

theorem assignIp6Multicast_paired (paired : Paired i) (solicited : ∃ b,group = solicitedGroup b) :
    Paired (i.assignIp6Multicast group) := by
  obtain ⟨b,rfl⟩ := solicited
  intro a listens
  rcases List.mem_append.mp listens with listens | same
  · exact List.mem_append_left _ (paired a listens)
  · refine List.mem_append_right _ (List.mem_singleton.mpr ?_)
    unfold macOf
    rw [List.mem_singleton.mp same]

theorem removeIp6Multicast_paired (paired : Paired i) (b : Ip6Address) :
    Paired (i.removeIp6Multicast (solicitedGroup b)).interface := by
  intro a listens
  unfold removeIp6Multicast at listens ⊢
  dsimp only at listens ⊢
  split at listens
  · next held =>
    rw [if_pos held]
    obtain ⟨listens,other⟩ := List.mem_filter.mp listens
    refine (List.mem_erase_of_ne fun same => ?_).mpr (paired a listens)
    exact absurd (solicited_mac_injective same) (by simpa using other)
  · next held =>
    rw [if_neg held]
    exact paired a (List.mem_filter.mp listens).1

theorem solicited_of_ok (solicited : solicitedNodeMulticast a = .ok group) : group = solicitedGroup a := by
  unfold solicitedNodeMulticast at solicited
  split at solicited
  · exact (Except.ok.inj solicited).symm
  · exact absurd solicited (by simp)

theorem Paired.andThen {o : Outcome} {rest : Interface → Outcome} (first : Paired o.interface)
    (later : ∀ j,Paired j → Paired (rest j).interface) : Paired (o.andThen rest).interface := by
  unfold Outcome.andThen
  split
  · exact later _ first
  · exact first

theorem assignIp6Host_paired (paired : Paired i) (host : Ip6IfAddr) : Paired (i.assignIp6Host host).interface := by
  unfold assignIp6Host
  dsimp only
  split
  · exact paired.same rfl rfl
  · next solicited =>
    exact assignIp6Multicast_paired (i := { i with ip6IfAddr := i.ip6IfAddr ++ [host] }) paired ⟨_,solicited_of_ok solicited⟩

theorem removeIp6Host_paired (paired : Paired i) (host : Ip6IfAddr) : Paired (i.removeIp6Host host).interface := by
  unfold removeIp6Host
  dsimp only
  split
  · exact paired.same rfl rfl
  · next solicited =>
    rw [solicited_of_ok solicited]
    exact removeIp6Multicast_paired (i := { i with ip6IfAddr := i.ip6IfAddr.filter (· ≠ host) }) paired _

theorem leaveGroups_paired : ∀ removed i,Paired i → Paired (leaveGroups removed i).interface
  | [],_,paired => paired
  | host :: rest,i,paired => by
    unfold leaveGroups
    split
    · exact paired
    · next solicited =>
      rw [solicited_of_ok solicited]
      exact (removeIp6Multicast_paired paired _).andThen (leaveGroups_paired rest)

theorem removeAddress_paired (paired : Paired i) (address : Ip6Address) : Paired (i.removeAddress address).interface :=
  leaveGroups_paired _ { i with ip6IfAddr := i.ip6IfAddr.filter (·.address ≠ address) } paired

theorem tearDown_paired (paired : Paired i) (c : Claim) (joined : Bool) :
    Paired ((i.dropClaim c).tearDown c joined).interface := by
  unfold tearDown
  split
  · split
    · exact paired
    · next solicited =>
      rw [solicited_of_ok solicited]
      exact removeIp6Multicast_paired (i := i.dropClaim c) paired _
  · exact paired

theorem startClaim_paired (paired : Paired i) : Paired (i.startClaim c sysctls retries).interface := by
  unfold startClaim
  dsimp only
  split
  · refine (assignIp6Host_paired (i := i.dropClaim c) paired c.candidate).andThen fun j paired => ?_
    unfold returns
    dsimp only
    split
    · exact paired
    · exact paired
  · split
    · exact paired
    · exact assignIp6Host_paired (i := i.dropClaim c) paired c.candidate

theorem joinForDad_paired (paired : Paired i) : Paired (i.joinForDad c optimistic).interface := by
  unfold joinForDad
  dsimp only
  split
  · exact paired
  · next solicited =>
    split
    · exact paired
    · exact assignIp6Multicast_paired (i := i.dropClaim c) paired ⟨_,solicited_of_ok solicited⟩

theorem work_paired (paired : Paired i) (c : Claim) (turn : Turn) : Paired (i.work stableIid c turn).interface := by
  have reverted : ∀ optimistic joined,Paired (i.revertDad c optimistic joined).interface := by
    intro optimistic joined
    refine (tearDown_paired paired c joined).andThen fun j paired => ?_
    split
    · exact removeIp6Host_paired paired _
    · exact paired
  unfold work
  split
  · split
    · exact startClaim_paired paired
    · exact startClaim_paired paired
    · exact joinForDad_paired paired
    · refine (tearDown_paired paired c _).andThen fun j paired => ?_
      split
      · exact paired
      · exact assignIp6Host_paired paired _
    · unfold failDad
      split
      · exact reverted _ _
      · refine (reverted _ _).andThen fun j paired => ?_
        split
        · exact paired
        · exact paired
    · exact tearDown_paired paired c _
    · exact paired
    · exact paired
  · exact paired

theorem sweepAddress_paired (paired : Paired i) (address : Ip6Address) : Paired (i.sweepAddress address).interface := by
  unfold sweepAddress
  cases i.ip6IfAddr.find? (·.address = address) with
  | none => exact paired
  | some host =>
    dsimp only
    split
    · exact paired
    · next solicited =>
      rw [solicited_of_ok solicited]
      split
      · exact removeIp6Multicast_paired (i := { i with ip6IfAddr := i.ip6IfAddr.filter (· ≠ host) }) paired _
      · exact paired

theorem sweepEach_paired : ∀ addresses i,Paired i → Paired (sweepEach addresses i).interface
  | [],_,paired => paired
  | address :: rest,_,paired => (sweepAddress_paired paired address).andThen (sweepEach_paired rest)

theorem allNodes_apart (a : Ip6Address) : solicitedGroup a ≠ allNodes := by
  intro same
  have bit := congrArg (fun group : Ip6Address => group.getLsbD 24) same
  simp [solicitedGroup,allNodes] at bit

theorem next_paired (step : Step) (paired : Paired i) : Paired (i.next stableIid step) := by
  have plans : ∀ {i'},Plans i i' → Paired i' := fun plans => paired.same plans.groups plans.macs
  cases step with
  | passed elapsed => exact paired
  | joinAllNodes =>
    intro a listens
    rcases List.mem_append.mp listens with listens | same
    · exact List.mem_append_left _ (paired a listens)
    · exact absurd (List.mem_singleton.mp same) (allNodes_apart a)
  | add host => exact assignIp6Host_paired paired host
  | addVetted host => exact paired
  | remove address => exact removeAddress_paired paired address
  | replace oldAddress newIfAddr =>
    exact (assignIp6Host_paired paired newIfAddr).andThen fun j paired => removeAddress_paired paired oldAddress
  | autoconfigureLinkLocal sysctls =>
    simp only [next,Interface.step]
    split
    · exact paired
    · exact paired
  | prefixInformation sysctls option routerAddress draw => exact plans (prefixInformation_plans _ _ _ _ _)
  | advertisementDone admitted => exact paired
  | bootSnapshot =>
    change Paired (if i.addressingComplete then i else { i with bootQueue := i.raPrefixes })
    split
    · exact paired
    · exact paired
  | bootClaim sysctls =>
    simp only [next,Interface.step]
    split
    · exact paired
    · exact plans (bootClaim_plans _ _)
  | bootDone =>
    change Paired (if i.bootQueue = [] then { i with addressingComplete := true } else i)
    split
    · exact paired
    · exact paired
  | work claim turn => exact work_paired paired claim turn
  | regen sysctls draws => exact plans (regenTempAddresses_plans _ _ _)
  | sweep =>
    refine Paired.andThen (Paired.andThen (sweepEach_paired _ _ paired) fun j paired => paired) fun j paired => ?_
    exact Paired.andThen (sweepEach_paired _ _ paired) fun k paired => paired

section Sweep
variable {i : Interface} {h : Ip6IfAddr} {address : Ip6Address}

theorem removeIp6Multicast_hosts (i : Interface) (group : Ip6Address) :
    (i.removeIp6Multicast group).interface.ip6IfAddr = i.ip6IfAddr := by
  unfold removeIp6Multicast
  dsimp only
  split <;> rfl

theorem sweepAddress_hosts (i : Interface) (address : Ip6Address) :
    (i.sweepAddress address).interface.ip6IfAddr =
      match i.ip6IfAddr.find? (·.address = address) with
      | none => i.ip6IfAddr
      | some host => i.ip6IfAddr.filter (· ≠ host) := by
  unfold sweepAddress
  cases i.ip6IfAddr.find? (·.address = address) with
  | none => rfl
  | some host =>
    dsimp only
    split
    · rfl
    · split
      · exact removeIp6Multicast_hosts _ _
      · rfl

theorem sweepAddress_fewer (kept : h ∈ (i.sweepAddress address).interface.ip6IfAddr) : h ∈ i.ip6IfAddr := by
  rw [sweepAddress_hosts] at kept
  split at kept
  · exact kept
  · exact (List.mem_filter.mp kept).1

theorem sweepAddress_gone (alone : ∀ h' ∈ i.ip6IfAddr,h'.address = h.address → h' = h) :
    h ∉ (i.sweepAddress h.address).interface.ip6IfAddr := by
  rw [sweepAddress_hosts]
  cases search : i.ip6IfAddr.find? (·.address = h.address) with
  | none =>
    intro member
    exact List.find?_eq_none.mp search h member (by simp)
  | some found =>
    have same : found = h := alone found (List.mem_of_find?_eq_some search) (by simpa using List.find?_some search)
    simp [same]

theorem sweepAddress_returns (paired : Paired i) (groupable : ∀ h ∈ i.ip6IfAddr,h.address = address → Groupable h.address) :
    (i.sweepAddress address).raised = none := by
  unfold sweepAddress
  cases search : i.ip6IfAddr.find? (·.address = address) with
  | none => rfl
  | some host =>
    have valid := groupable host (List.mem_of_find?_eq_some search) (by simpa using List.find?_some search)
    simp only [solicited_ok valid]
    split
    · next listens =>
      have held : multicastMac (solicitedGroup host.address) ∈ i.macMulticast := paired host.address listens
      simp [removeIp6Multicast,held,returns]
    · rfl

theorem sweepEach_fewer : ∀ (addresses : List Ip6Address) (i : Interface),
    h ∈ (sweepEach addresses i).interface.ip6IfAddr → h ∈ i.ip6IfAddr
  | [],_,kept => kept
  | address :: rest,i,kept => by
    unfold sweepEach Outcome.andThen at kept
    split at kept
    · exact sweepAddress_fewer (sweepEach_fewer rest _ kept)
    · exact sweepAddress_fewer kept

theorem sweepEach_returns : ∀ (addresses : List Ip6Address) (i : Interface),Paired i →
    (∀ h ∈ i.ip6IfAddr,h.address ∈ addresses → Groupable h.address) → (sweepEach addresses i).raised = none
  | [],_,_,_ => rfl
  | address :: rest,i,paired,groupable => by
    have first := sweepAddress_returns paired fun h member same => groupable h member (same ▸ List.mem_cons_self)
    unfold sweepEach Outcome.andThen
    rw [first]
    refine sweepEach_returns rest _ (sweepAddress_paired paired address) fun h member listed => ?_
    exact groupable h (sweepAddress_fewer member) (List.mem_cons_of_mem _ listed)

theorem sweepEach_gone : ∀ (addresses : List Ip6Address) (i : Interface),(sweepEach addresses i).raised = none →
    h.address ∈ addresses → (∀ h' ∈ i.ip6IfAddr,h'.address = h.address → h' = h) →
      h ∉ (sweepEach addresses i).interface.ip6IfAddr
  | [],_,_,listed,_ => absurd listed List.not_mem_nil
  | address :: rest,i,returned,listed,alone => by
    unfold sweepEach Outcome.andThen at returned ⊢
    split at returned
    · rcases List.mem_cons.mp listed with rfl | later
      · intro kept
        exact sweepAddress_gone alone (sweepEach_fewer rest _ kept)
      · exact sweepEach_gone rest _ returned later fun h' member same => alone h' (sweepAddress_fewer member) same
    · next error raised =>
      rw [raised] at returned
      exact absurd returned (by simp)

theorem sweeps_hosts (paired : Paired i) (groupable : ∀ h ∈ i.ip6IfAddr,h.address ∈ i.expired → Groupable h.address) :
    i.sweeps.raised = none ∧ (∀ h ∈ i.sweeps.interface.ip6IfAddr,h ∈ i.ip6IfAddr) ∧
      ∀ h,h.address ∈ i.expired → (∀ h' ∈ i.ip6IfAddr,h'.address = h.address → h' = h) →
        h ∉ i.sweeps.interface.ip6IfAddr := by
  have temp := sweepEach_returns ((i.tempAddresses.filter (·.validUntil ≤ i.now)).map (·.address)) i paired
    fun h member listed => groupable h member (List.mem_append_left _ listed)
  have tables := sweepEach_tables ((i.tempAddresses.filter (·.validUntil ≤ i.now)).map (·.address)) i
  have paired' := sweepEach_paired ((i.tempAddresses.filter (·.validUntil ≤ i.now)).map (·.address)) i paired
  have first : i.sweepTempAddresses = returns
      { (sweepEach ((i.tempAddresses.filter (·.validUntil ≤ i.now)).map (·.address)) i).interface with
        tempAddresses := (sweepEach ((i.tempAddresses.filter (·.validUntil ≤ i.now)).map (·.address)) i).interface.tempAddresses.filter
          ((sweepEach ((i.tempAddresses.filter (·.validUntil ≤ i.now)).map (·.address)) i).interface.now < ·.validUntil) } := by
    unfold sweepTempAddresses Outcome.andThen
    rw [temp]
  have gone := fun h => sweepEach_gone (h := h) ((i.tempAddresses.filter (·.validUntil ≤ i.now)).map (·.address)) i temp
  have fewer := fun h => sweepEach_fewer (h := h) ((i.tempAddresses.filter (·.validUntil ≤ i.now)).map (·.address)) i
  generalize sweepEach ((i.tempAddresses.filter (·.validUntil ≤ i.now)).map (·.address)) i = o at *
  generalize mid_eq : ({ o.interface with
    tempAddresses := o.interface.tempAddresses.filter (o.interface.now < ·.validUntil) } : Interface) = mid at first
  have hosts : mid.ip6IfAddr = o.interface.ip6IfAddr := by rw [← mid_eq]
  have slaac : mid.slaacAddresses = i.slaacAddresses := by rw [← mid_eq]; exact tables.slaacAddresses
  have clock : mid.now = i.now := by rw [← mid_eq]; exact tables.now
  have pairedMid : Paired mid := by rw [← mid_eq]; exact paired'
  have last := sweepEach_returns ((mid.slaacAddresses.filter (·.validUntil ≤ mid.now)).map (·.address)) mid pairedMid
    fun h member listed => by
      rw [hosts] at member
      rw [slaac,clock] at listed
      exact groupable h (fewer h member) (List.mem_append_right _ listed)
  have ended : i.sweeps.raised = none ∧ i.sweeps.interface.ip6IfAddr =
      (sweepEach ((mid.slaacAddresses.filter (·.validUntil ≤ mid.now)).map (·.address)) mid).interface.ip6IfAddr := by
    unfold sweeps
    rw [first]
    unfold Outcome.andThen returns sweepSlaacAddresses Outcome.andThen
    simp only
    rw [last]
    exact ⟨rfl,rfl⟩
  refine ⟨ended.1,?_,?_⟩
  · intro h member
    rw [ended.2] at member
    have staying := sweepEach_fewer _ _ member
    rw [hosts] at staying
    exact fewer h staying
  · intro h listed alone member
    rw [ended.2] at member
    rcases List.mem_append.mp listed with listed | listed
    · have staying := sweepEach_fewer _ _ member
      rw [hosts] at staying
      exact gone h listed alone staying
    · refine sweepEach_gone _ mid last ?_ ?_ member
      · rw [slaac,clock]
        exact listed
      · intro h' member' same
        rw [hosts] at member'
        exact alone h' (fewer h' member') same

end Sweep

def deadlines (i : Interface) (address : Ip6Address) : List ℚ :=
  (i.slaacAddresses.filter (·.address = address)).map (·.validUntil) ++
    (i.tempAddresses.filter (·.address = address)).map (·.validUntil)

theorem mem_deadlines : d ∈ deadlines i address ↔
    (∃ a ∈ i.slaacAddresses,a.address = address ∧ a.validUntil = d) ∨
      ∃ t ∈ i.tempAddresses,t.address = address ∧ t.validUntil = d := by
  simp [deadlines,and_assoc]

theorem mem_expired : address ∈ expired i ↔ ∃ d ∈ deadlines i address,d ≤ i.now := by
  simp only [expired,mem_deadlines,List.mem_append,List.mem_map,List.mem_filter,decide_eq_true_eq]
  constructor
  · rintro (⟨t,⟨member,due⟩,same⟩ | ⟨a,⟨member,due⟩,same⟩)
    · exact ⟨t.validUntil,.inr ⟨t,member,same,rfl⟩,due⟩
    · exact ⟨a.validUntil,.inl ⟨a,member,same,rfl⟩,due⟩
  · rintro ⟨d,⟨a,member,same,rfl⟩ | ⟨t,member,same,rfl⟩,due⟩
    · exact .inr ⟨a,⟨member,due⟩,same⟩
    · exact .inl ⟨t,⟨member,due⟩,same⟩

def Entered (i : Interface) (address : Ip6Address) : Prop :=
  (∃ a ∈ i.slaacAddresses,a.address = address) ∨ ∃ t ∈ i.tempAddresses,t.address = address

end Interface

-- The interface beside the addresses autoconfiguration has put on its list and
-- that are still there.
structure Autoconf where
  interface : Interface
  put : List Ip6IfAddr

namespace Autoconf
open Interface (Step Turn)
variable (stableIid : Bool → Nat → Ip6Network → BitVec 64)

def assigns : Phase → Turn → Bool
  | .spawned,.starts sysctls | .retrying,.starts sysctls => sysctls.optimisticDad || !sysctls.acceptDad
  | .probing optimistic _,.passes => !optimistic
  | _,_ => false

def granted (i : Interface) : Step → List Ip6IfAddr
  | .work claim turn => if claim ∈ i.claims ∧ claim.slaac = true ∧ assigns claim.phase turn = true then [claim.candidate] else []
  | _ => []

def next (step : Step) (w : Autoconf) : Autoconf where
  interface := w.interface.next stableIid step
  put := (w.put ++ granted w.interface step).filter (· ∈ (w.interface.next stableIid step).ip6IfAddr)

-- An address is assigned while the tables know it; no option drops the entry of
-- an address that is in use; entries that are due belong to addresses that have
-- a group and stand on the list once.
def Heeds : Step → Autoconf → Prop
  | .prefixInformation sysctls option _ _,w => (option.admitted && sysctls.acceptRaPinfo) = true → ∀ h ∈ w.put,
      (∀ a ∈ w.interface.slaacAddresses,a.network = option.network → a.address = h.address → option.validLifetime ≠ 0 ∧
        (Interface.refreshedLifetime option.validLifetime (w.interface.remaining option.network) ≠ none →
          (hostOf option.network (stableIid sysctls.useRfc7217 0 option.network)).address = h.address)) ∧
      (sysctls.useTempaddr = true → ∀ t ∈ w.interface.tempAddresses,t.network = option.network → t.address = h.address →
        option.validLifetime ≠ 0 ∧
        ∀ old,w.interface.tempAddresses.find? (·.network = option.network) = some old → old.address = h.address)
  | .work claim turn,w => claim ∈ w.interface.claims → claim.slaac = true → assigns claim.phase turn = true →
      w.interface.Entered claim.candidate.address
  | .sweep,w => (∀ h ∈ w.interface.ip6IfAddr,h.address ∈ w.interface.expired → Groupable h.address) ∧
      ∀ h ∈ w.put,h.address ∈ w.interface.expired → ∀ h' ∈ w.interface.ip6IfAddr,h'.address = h.address → h' = h
  | _,_ => True

structure Tracked (w : Autoconf) : Prop where
  paired : w.interface.Paired
  entered : ∀ h ∈ w.put,w.interface.Entered h.address

variable {stableIid}

theorem mem_next_put {w : Autoconf} (member : h ∈ (w.next stableIid step).put) :
    (h ∈ w.put ∨ h ∈ granted w.interface step) ∧ h ∈ (w.interface.next stableIid step).ip6IfAddr := by
  obtain ⟨member,held⟩ := List.mem_filter.mp member
  exact ⟨List.mem_append.mp member,by simpa using held⟩

theorem updateSlaacAddress_entered {i : Interface} {address network : _} (listed : ∃ a ∈ i.slaacAddresses,a.address = address)
    (kept : ∀ a ∈ i.slaacAddresses,a.network = network → a.address = address → validLifetime ≠ 0 ∧
      (Interface.refreshedLifetime validLifetime (i.remaining network) ≠ none →
        (hostOf network (stableIid sysctls.useRfc7217 0 network)).address = address)) :
    ∃ a ∈ (i.updateSlaacAddress stableIid sysctls network validLifetime preferredLifetime
      routerAddress).interface.slaacAddresses,a.address = address := by
  obtain ⟨a,member,same⟩ := listed
  have other : a.network ≠ network → a ∈ i.slaacAddresses.filter (·.network ≠ network) := by
    intro differs
    exact List.mem_filter.mpr ⟨member,by simpa using differs⟩
  unfold Interface.updateSlaacAddress
  dsimp only
  split
  · next zero =>
    unfold Interface.returns
    dsimp only
    split
    · refine ⟨a,other fun named => ?_,same⟩
      exact (kept a member named same).1 zero
    · exact ⟨a,member,same⟩
  · cases refreshed : Interface.refreshedLifetime validLifetime (i.remaining network) with
    | none =>
      unfold Interface.remaining Interface.slaacEntry at refreshed
      simp only [refreshed]
      exact ⟨a,member,same⟩
    | some lifetime =>
      have taken : Interface.refreshedLifetime validLifetime (i.remaining network) ≠ none := by simp [refreshed]
      unfold Interface.remaining Interface.slaacEntry at refreshed
      simp only [refreshed]
      cases derived : Interface.deriveIp6Host stableIid sysctls network with
      | error error => exact ⟨a,member,same⟩
      | ok host =>
        have host_eq : host = hostOf network (stableIid sysctls.useRfc7217 0 network) := by
          unfold Interface.deriveIp6Host at derived
          split at derived
          · exact (Except.ok.inj derived).symm
          · exact absurd derived (by simp)
        have written : ∀ new : Icmp6SlaacAddress,new.address = host.address →
            ∃ b ∈ i.slaacAddresses.filter (·.network ≠ network) ++ [new],b.address = address := by
          intro new newAddress
          by_cases named : a.network = network
          · refine ⟨new,List.mem_append_right _ (List.mem_singleton_self _),?_⟩
            rw [newAddress,host_eq]
            exact (kept a member named same).2 taken
          · exact ⟨a,List.mem_append_left _ (other named),same⟩
        unfold Interface.returns
        dsimp only
        split
        · exact written _ rfl
        · exact written _ rfl

theorem updateTempAddress_entered {i : Interface} {address network : _} (listed : ∃ t ∈ i.tempAddresses,t.address = address)
    (kept : sysctls.useTempaddr = true → ∀ t ∈ i.tempAddresses,t.network = network → t.address = address →
      validLifetime ≠ 0 ∧ ∀ old,i.tempAddresses.find? (·.network = network) = some old → old.address = address) :
    ∃ t ∈ (i.updateTempAddress sysctls network validLifetime preferredLifetime routerAddress draw).interface.tempAddresses,
      t.address = address := by
  obtain ⟨t,member,same⟩ := listed
  have other : t.network ≠ network → t ∈ i.tempAddresses.filter (·.network ≠ network) := by
    intro differs
    exact List.mem_filter.mpr ⟨member,by simpa using differs⟩
  unfold Interface.updateTempAddress
  dsimp only
  split
  · next enabled =>
    split
    · next zero =>
      unfold Interface.returns
      dsimp only
      split
      · exact ⟨t,other fun named => (kept enabled t member named same).1 zero,same⟩
      · exact ⟨t,member,same⟩
    · split
      · next old found =>
        by_cases named : t.network = network
        · exact ⟨_,List.mem_append_right _ (List.mem_singleton_self _),(kept enabled t member named same).2 old found⟩
        · exact ⟨t,List.mem_append_left _ (other named),same⟩
      · split
        · exact ⟨t,member,same⟩
        · exact ⟨t,List.mem_append_left _ member,same⟩
  · exact ⟨t,member,same⟩

theorem prefixInformation_entered {w : Autoconf} {option : PrefixInfo} (member : h ∈ w.put)
    (entered : w.interface.Entered h.address) (heeds : Heeds stableIid (.prefixInformation sysctls option routerAddress draw) w) :
    (w.interface.prefixInformation stableIid sysctls option routerAddress draw).interface.Entered h.address := by
  unfold Interface.prefixInformation
  split
  · next taken =>
    obtain ⟨slaacKept,tempKept⟩ := heeds taken h member
    have temp := (Interface.updateSlaacAddress_temp stableIid w.interface sysctls option.network option.validLifetime
      option.preferredLifetime routerAddress).1
    have slaac : (∃ a ∈ w.interface.slaacAddresses,a.address = h.address) →
        ∃ a ∈ (w.interface.updateSlaacAddress stableIid sysctls option.network option.validLifetime
          option.preferredLifetime routerAddress).interface.slaacAddresses,a.address = h.address :=
      fun listed => updateSlaacAddress_entered listed slaacKept
    generalize w.interface.updateSlaacAddress stableIid sysctls option.network option.validLifetime
      option.preferredLifetime routerAddress = o at temp slaac
    unfold Outcome.andThen
    split
    · rcases entered with listed | listed
      · refine .inl ?_
        dsimp only
        rw [(Interface.updateTempAddress_slaac o.interface sysctls option.network option.validLifetime
          option.preferredLifetime routerAddress draw).1]
        exact slaac listed
      · refine .inr (updateTempAddress_entered (by rwa [temp]) ?_)
        rw [temp]
        exact tempKept
    · rcases entered with listed | listed
      · exact .inl (slaac listed)
      · exact .inr (by rwa [temp])
  · exact entered

theorem regenPrefix_temp (i : Interface) (sysctls : Sysctls) (network : Ip6Network) (draw : Draw)
    (member : t ∈ i.tempAddresses) : t ∈ (i.regenPrefix sysctls network draw).interface.tempAddresses := by
  unfold Interface.regenPrefix
  split
  · exact member
  · split
    · exact member
    · split
      · exact member
      · exact List.mem_append_left _ member

theorem regenEach_temp (sysctls : Sysctls) (draws : Ip6Network → Draw) : ∀ networks (i : Interface),
    t ∈ i.tempAddresses → t ∈ (Interface.regenEach sysctls draws networks i).interface.tempAddresses
  | [],_,member => member
  | network :: rest,i,member => by
    have first := regenPrefix_temp i sysctls network (draws network) member
    unfold Interface.regenEach Outcome.andThen
    split
    · exact regenEach_temp sysctls draws rest _ first
    · exact first

theorem regen_entered (entered : Interface.Entered i address) :
    (i.regenTempAddresses sysctls draws).interface.Entered address := by
  rcases entered with listed | ⟨t,member,same⟩
  · refine .inl ?_
    rw [(Interface.regen_slaac i sysctls draws).2]
    exact listed
  · refine .inr ⟨t,?_,same⟩
    unfold Interface.regenTempAddresses
    split
    · exact regenEach_temp sysctls draws _ i member
    · exact member

-- An address that survives a sweep had nothing due, so its entry survives too.
theorem sweep_entered {w : Autoconf} (tracked : Tracked w) (heeds : Heeds stableIid .sweep w) (member : h ∈ w.put)
    (survives : h ∈ w.interface.sweeps.interface.ip6IfAddr) : w.interface.sweeps.interface.Entered h.address := by
  obtain ⟨returned,-,gone⟩ := Interface.sweeps_hosts tracked.paired heeds.1
  have lasting : h.address ∉ w.interface.expired := fun due => gone h due (heeds.2 h member due) survives
  have later : ∀ d ∈ w.interface.deadlines h.address,w.interface.now < d := by
    intro d deadline
    by_contra due
    exact lasting (Interface.mem_expired.mpr ⟨d,deadline,not_lt.mp due⟩)
  have swept := Interface.sweeps_swept w.interface
  have slaac := swept.slaac.resolve_right fun raised => raised.1 returned
  have temp := swept.temp.resolve_right fun raised => raised.1 returned
  rcases tracked.entered h member with ⟨a,listed,same⟩ | ⟨t,listed,same⟩
  · refine .inl ⟨a,?_,same⟩
    rw [slaac]
    exact List.mem_filter.mpr ⟨listed,by simpa using later _ (Interface.mem_deadlines.mpr (.inl ⟨a,listed,same,rfl⟩))⟩
  · refine .inr ⟨t,?_,same⟩
    rw [temp]
    exact List.mem_filter.mpr ⟨listed,by simpa using later _ (Interface.mem_deadlines.mpr (.inr ⟨t,listed,same,rfl⟩))⟩

theorem same_entered {i i' : Interface} (entered : i.Entered address) (tables : Interface.SameTables i i') : i'.Entered address := by
  unfold Interface.Entered
  rw [tables.slaacAddresses,tables.tempAddresses]
  exact entered

theorem next_tracked {w : Autoconf} (step : Step) (tracked : Tracked w) (heeds : Heeds stableIid step w) :
    Tracked (w.next stableIid step) := by
  refine ⟨Interface.next_paired step tracked.paired,fun h member => ?_⟩
  obtain ⟨source,held⟩ := mem_next_put member
  have entered : w.interface.Entered h.address := by
    rcases source with before | now
    · exact tracked.entered h before
    · unfold granted at now
      split at now
      · next claim turn =>
        split at now
        · next grants =>
          rw [List.mem_singleton.mp now]
          exact heeds grants.1 grants.2.1 grants.2.2
        · exact absurd now List.not_mem_nil
      · exact absurd now List.not_mem_nil
  rcases Interface.next_tables step w.interface with
    same | ⟨elapsed,rfl⟩ | ⟨sysctls,option,routerAddress,draw,rfl⟩ | ⟨sysctls,draws,rfl⟩ | rfl
  · exact same_entered entered same
  · exact entered
  · exact prefixInformation_entered (source.resolve_right List.not_mem_nil) entered heeds
  · exact regen_entered entered
  · exact sweep_entered tracked heeds (source.resolve_right List.not_mem_nil) held

def Start (w : Autoconf) : Prop := w.put = [] ∧ w.interface.ip6Multicast = []

theorem autoconfigured_addresses_expire (stableIid : Bool → Nat → Ip6Network → BitVec 64)
    (reached : Runs.Reached Start (fun step w => w.next stableIid step) (Heeds stableIid) w) :
    (∀ h ∈ w.put,∃ d,d ∈ w.interface.deadlines h.address) ∧
      (Heeds stableIid .sweep w → ∀ h ∈ w.put,(∃ d ∈ w.interface.deadlines h.address,d ≤ w.interface.now) →
        h ∉ w.interface.sweeps.interface.ip6IfAddr) := by
  have tracked : Tracked w := by
    refine reached.invariant Tracked (fun s first => ?_) fun s step tracked heeds => next_tracked step tracked heeds
    refine ⟨fun a listens => ?_,?_⟩
    · rw [first.2] at listens
      exact absurd listens List.not_mem_nil
    · rw [first.1]
      exact fun h member => absurd member List.not_mem_nil
  refine ⟨fun h member => ?_,fun heeds h member due => ?_⟩
  · rcases tracked.entered h member with ⟨a,listed,same⟩ | ⟨t,listed,same⟩
    · exact ⟨a.validUntil,Interface.mem_deadlines.mpr (.inl ⟨a,listed,same,rfl⟩)⟩
    · exact ⟨t.validUntil,Interface.mem_deadlines.mpr (.inr ⟨t,listed,same,rfl⟩)⟩
  · have listed := Interface.mem_expired.mpr due
    exact (Interface.sweeps_hosts tracked.paired heeds.1).2.2 h listed (heeds.2 h member listed)

def unconfigured : Autoconf := ⟨{},[]⟩

theorem unconfigured_start : Start unconfigured := ⟨rfl,rfl⟩

def claimAt (phase : Phase) (retriesLeft : Nat) : Claim :=
  { candidate := hostOf Interface.documentation 1
    regenerate := .stable Interface.documentation 0
    slaac := true
    phase := phase
    retriesLeft := retriesLeft }

-- 2001:db8::/64 is advertised for half an hour and its address passes detection.
def claimed : List Step :=
  [.bootDone,Interface.advertised 1800 900,.work (claimAt .spawned 0) (.starts {}),
    .work (claimAt (.delaying false) 3) .joins,.work (claimAt (.probing false true) 3) .passes]

def run (steps : List Step) : Autoconf := Runs.run (fun step w => w.next Interface.oneIid step) unconfigured steps

theorem claimed_heeded : Runs.Met (fun step w => next Interface.oneIid step w) (Heeds Interface.oneIid) claimed unconfigured := by
  refine ⟨trivial,?_,?_,?_,?_,trivial⟩
  · intro _ h member
    exact absurd member List.not_mem_nil
  · intro _ _ assigned
    exact absurd assigned (by decide)
  · intro _ _ assigned
    exact absurd assigned (by decide)
  · intro _ _ _
    exact .inl (by decide +kernel)

theorem autoconfigured_addresses_expire_claimed :
    (run claimed).put = [hostOf Interface.documentation 1] ∧
      ∃ d,d ∈ (run claimed).interface.deadlines (hostOf Interface.documentation 1).address := by
  have first : Runs.Reached Start (fun step w => next Interface.oneIid step w) (Heeds Interface.oneIid) unconfigured :=
    .start _ unconfigured_start
  have put : (run claimed).put = [hostOf Interface.documentation 1] := by decide +kernel
  refine ⟨put,(autoconfigured_addresses_expire Interface.oneIid (first.run claimed claimed_heeded)).1 _ ?_⟩
  exact put ▸ List.mem_singleton_self _

-- A zero lifetime drops the entry and leaves the address.
theorem withdrawn_address_stays :
    ¬∀ w,Runs.Reached Start (fun step w => next Interface.oneIid step w) (fun _ _ => True) w →
      (∀ h ∈ w.put,∃ d,d ∈ w.interface.deadlines h.address) ∧
        ∀ h ∈ w.put,(∃ d ∈ w.interface.deadlines h.address,d ≤ w.interface.now) →
          h ∉ w.interface.sweeps.interface.ip6IfAddr := by
  intro expire
  have first : Runs.Reached Start (fun step w => next Interface.oneIid step w) (fun _ _ => True) unconfigured :=
    .start _ unconfigured_start
  have put : (run (claimed ++ [Interface.advertised 0 0])).put = [hostOf Interface.documentation 1] := by decide +kernel
  have none : (run (claimed ++ [Interface.advertised 0 0])).interface.deadlines
      (hostOf Interface.documentation 1).address = [] := by decide +kernel
  obtain ⟨d,member⟩ := (expire _ (first.run (claimed ++ [Interface.advertised 0 0]) (Runs.met_true _))).1 _
    (put ▸ List.mem_singleton_self _)
  change d ∈ (run (claimed ++ [Interface.advertised 0 0])).interface.deadlines _ at member
  rw [none] at member
  exact List.not_mem_nil member

end Autoconf
end PmdPytcp.Icmp6
