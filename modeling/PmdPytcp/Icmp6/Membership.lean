import PmdPytcp.Icmp6.Groups

namespace PmdPytcp.Icmp6.Interface
variable {stableIid : Bool → Nat → Ip6Network → BitVec 64}

-- An address comes in only if it has a solicited-node group, and one goes only if
-- no address that stays shares its group; a rolled-back address is still there.
def Heeds : Step → Interface → Prop
  | .add host,_ => Groupable host.address
  | .remove address,i => (∃ h ∈ i.ip6IfAddr,h.address = address) →
      ∀ h ∈ i.ip6IfAddr,h.address ≠ address → solicitedGroup h.address ≠ solicitedGroup address
  | .replace oldAddress newIfAddr,i => Groupable newIfAddr.address ∧
      ((∃ h ∈ i.ip6IfAddr ++ [newIfAddr],h.address = oldAddress) →
        ∀ h ∈ i.ip6IfAddr ++ [newIfAddr],h.address ≠ oldAddress → solicitedGroup h.address ≠ solicitedGroup oldAddress)
  | .work claim turn,i => claim ∈ i.claims →
      match claim.phase,turn with
      | .spawned,.starts sysctls | .retrying,.starts sysctls =>
        sysctls.optimisticDad = true ∨ sysctls.acceptDad = false → Groupable claim.candidate.address
      | .probing _ joined,.passes | .probing _ joined,.cancelled => joined = true →
        ∀ h ∈ i.ip6IfAddr,solicitedGroup h.address ≠ solicitedGroup claim.candidate.address
      | .probing optimistic joined,.conflicts _ =>
        (optimistic = true ∨ joined = true → ∀ h ∈ i.ip6IfAddr,(optimistic = true → h ≠ claim.candidate) →
          solicitedGroup h.address ≠ solicitedGroup claim.candidate.address) ∧
        (optimistic = true → claim.candidate ∈ i.ip6IfAddr)
      | _,_ => True
  | .sweep,i => ∀ h ∈ i.ip6IfAddr,∀ a ∈ i.expired,solicitedGroup h.address = solicitedGroup a →
      (∃ h₀ ∈ i.ip6IfAddr,h₀.address = a) →
        h.address ∈ i.expired ∧ ∀ h' ∈ i.ip6IfAddr,h'.address = h.address → h' = h
  | _,_ => True

-- Whatever a step takes away, it takes away without an exception.
def RemovalsReturn : Step → Interface → Prop
  | .remove address,i => (i.removeAddress address).raised = none
  | .replace oldAddress newIfAddr,i => (i.replaceAddress oldAddress newIfAddr).raised = none
  | .work claim turn,i => claim ∈ i.claims →
      match claim.phase,turn with
      | .probing optimistic joined,.passes => (i.passDad claim optimistic joined).raised = none
      | .probing optimistic joined,.conflicts _ => (i.revertDad claim optimistic joined).raised = none
      | .probing _ joined,.cancelled => ((i.dropClaim claim).tearDown claim joined).raised = none
      | _,_ => True
  | .sweep,i => i.sweeps.raised = none
  | _,_ => True

-- The interface hears neighbour solicitations for each of its addresses.
def HearsSolicitations (i : Interface) : Prop :=
  ∀ h ∈ i.ip6IfAddr,∃ group,solicitedNodeMulticast h.address = .ok group ∧ group ∈ i.ip6Multicast ∧
    multicastMac group ∈ i.macMulticast

def Member (i : Interface) : Prop := Sound i ∧ Listening i

theorem Member.hears (member : Member i) : HearsSolicitations i := by
  intro h held
  exact ⟨solicitedGroup h.address,solicited_ok (member.1.groupable h held),member.2 h held,member.1.accepts held⟩

theorem Member.plans (member : Member i) (plans : Plans i i') : Member i' :=
  ⟨plans.sound member.1,plans.listening member.2⟩

theorem replaceAddress_spec (member : Member i) (heeds : Heeds (.replace oldAddress newIfAddr) i) :
    ∃ i',i.replaceAddress oldAddress newIfAddr = returns i' ∧ Sound i' ∧ Listening i' := by
  obtain ⟨groupable,alone⟩ := heeds
  obtain ⟨i',removed,kept⟩ := removeAddress_spec oldAddress (assigned_sound member.1 groupable)
    (assigned_listening member.2) alone
  refine ⟨i',?_,kept⟩
  simp only [replaceAddress,assignIp6Host_ok groupable,Outcome.andThen,returns]
  exact removed

theorem failDad_member {draw : Draw} (member : Member i) (held : c ∈ i.claims)
    (phase : c.phase = .probing optimistic joined)
    (alone : optimistic = true ∨ joined = true → ∀ h ∈ i.ip6IfAddr,(optimistic = true → h ≠ c.candidate) →
      solicitedGroup h.address ≠ solicitedGroup c.candidate.address)
    (present : optimistic = true → c.candidate ∈ i.ip6IfAddr) :
    Member (i.failDad stableIid c optimistic joined draw).interface := by
  obtain ⟨i',reverted,sound,listening⟩ := revertDad_spec member.1 member.2 held phase alone present
  unfold failDad
  split
  · rw [reverted]
    exact ⟨sound,listening⟩
  · simp only [reverted,Outcome.andThen,returns]
    split
    · exact ⟨sound,listening⟩
    · exact ⟨putClaim_sound sound rfl,listening⟩

theorem work_member {turn : Turn} (member : Member i) (heeds : Heeds (.work c turn) i) :
    Member (i.work stableIid c turn).interface := by
  unfold work
  split
  · next held =>
    have heeded := heeds held
    split
    · next spawned =>
      rw [spawned] at heeded
      exact startClaim_spec member.1 member.2 held heeded
    · next retrying =>
      rw [retrying] at heeded
      exact startClaim_spec member.1 member.2 held heeded
    · exact joinForDad_spec member.1 member.2 held
    · next probing =>
      rw [probing] at heeded
      obtain ⟨i',passed,kept⟩ := passDad_spec member.1 member.2 held probing heeded
      rw [passed]
      exact kept
    · next probing =>
      rw [probing] at heeded
      exact failDad_member member held probing heeded.1 heeded.2
    · next probing =>
      rw [probing] at heeded
      obtain ⟨i',torn,sound,hosts,others⟩ := tearDown_spec member.1 held probing
      rw [torn]
      refine ⟨sound,?_⟩
      intro h assigned
      rw [show (returns i').interface = i' from rfl,hosts] at assigned
      exact others _ (member.2 h assigned) fun by_worker => heeded by_worker h assigned
    · exact ⟨dropClaim_sound member.1 held,member.2⟩
    · exact member
  · exact member

theorem sweeping_start (member : Member i) (heeds : Heeds .sweep i) : Sweeping i.expired i :=
  ⟨member.1,fun h held => .inl (member.2 h held),heeds⟩

theorem next_member (step : Step) (member : Member i) (heeds : Heeds step i) : Member (i.next stableIid step) := by
  cases step with
  | passed elapsed => exact ⟨member.1.congr rfl rfl rfl,member.2⟩
  | joinAllNodes =>
    refine ⟨⟨member.1.groupable,member.1.probed,member.1.owned.trans ?_⟩,fun h held => List.mem_append_left _ (member.2 h held)⟩
    exact Multiset.coe_le.mpr (List.sublist_append_left _ _).subperm
  | add host =>
    change Member (i.assignIp6Host host).interface
    rw [assignIp6Host_ok heeds]
    exact ⟨assigned_sound member.1 heeds,assigned_listening member.2⟩
  | addVetted host => exact member.plans (claimIp6Address_plans _ _ _ _)
  | remove address =>
    obtain ⟨i',removed,kept⟩ := removeAddress_spec address member.1 member.2 heeds
    change Member (i.removeAddress address).interface
    rw [removed]
    exact kept
  | replace oldAddress newIfAddr =>
    obtain ⟨i',replaced,kept⟩ := replaceAddress_spec member heeds
    change Member (i.replaceAddress oldAddress newIfAddr).interface
    rw [replaced]
    exact kept
  | autoconfigureLinkLocal sysctls =>
    simp only [next,Interface.step]
    split
    · exact member
    · exact member.plans (claimIp6Address_plans _ _ _ _)
  | prefixInformation sysctls option routerAddress draw => exact member.plans (prefixInformation_plans _ _ _ _ _)
  | advertisementDone admitted => exact ⟨member.1.congr rfl rfl rfl,member.2⟩
  | bootSnapshot =>
    change Member (if i.addressingComplete then i else { i with bootQueue := i.raPrefixes })
    split
    · exact member
    · exact ⟨member.1.congr rfl rfl rfl,member.2⟩
  | bootClaim sysctls =>
    simp only [next,Interface.step]
    split
    · exact member
    · exact member.plans (bootClaim_plans _ _)
  | bootDone =>
    change Member (if i.bootQueue = [] then { i with addressingComplete := true } else i)
    split
    · exact ⟨member.1.congr rfl rfl rfl,member.2⟩
    · exact member
  | work claim turn => exact work_member member heeds
  | regen sysctls draws => exact member.plans (regenTempAddresses_plans _ _ _)
  | sweep =>
    obtain ⟨i',swept,kept⟩ := sweeps_spec (sweeping_start member heeds)
    change Member i.sweeps.interface
    rw [swept]
    exact kept

theorem removals_return (step : Step) (member : Member i) (heeds : Heeds step i) : RemovalsReturn step i := by
  cases step with
  | remove address =>
    obtain ⟨i',removed,-⟩ := removeAddress_spec address member.1 member.2 heeds
    exact congrArg Outcome.raised removed
  | replace oldAddress newIfAddr =>
    obtain ⟨i',replaced,-⟩ := replaceAddress_spec member heeds
    exact congrArg Outcome.raised replaced
  | work claim turn =>
    intro held
    have heeded := heeds held
    split
    · next probing =>
      rw [probing] at heeded
      obtain ⟨i',passed,-⟩ := passDad_spec member.1 member.2 held probing heeded
      exact congrArg Outcome.raised passed
    · next probing =>
      rw [probing] at heeded
      obtain ⟨i',reverted,-⟩ := revertDad_spec member.1 member.2 held probing heeded.1 heeded.2
      exact congrArg Outcome.raised reverted
    · next probing =>
      obtain ⟨i',torn,-⟩ := tearDown_spec member.1 held probing
      exact congrArg Outcome.raised torn
    · trivial
  | sweep =>
    obtain ⟨i',swept,-⟩ := sweeps_spec (sweeping_start member heeds)
    exact congrArg Outcome.raised swept
  | _ => trivial

-- A handler just built; the clock and the tables may hold anything.
def Fresh (i : Interface) : Prop :=
  i.ip6IfAddr = [] ∧ i.ip6Multicast = [] ∧ i.macMulticast = [] ∧ i.claims = []

theorem fresh_member (fresh : Fresh i) : Member i := by
  obtain ⟨hosts,-,-,claims⟩ := fresh
  refine ⟨⟨?_,?_,?_⟩,?_⟩
  · simp [hosts]
  · simp [claims]
  · simp [owners,hosts,claims]
  · simp [Listening,hosts]

theorem addresses_hear_solicitations (stableIid : Bool → Nat → Ip6Network → BitVec 64)
    (reached : Runs.Reached Fresh (fun step i => i.next stableIid step) Heeds i) :
    HearsSolicitations i ∧ ∀ step,Heeds step i → RemovalsReturn step i := by
  have member : Member i := reached.invariant Member (fun _ => fresh_member) fun _ step => next_member step
  exact ⟨member.hears,fun step => removals_return step member⟩

def slash64 (address : Ip6Address) : Ip6IfAddr := ⟨address,⟨highHalf address,64⟩⟩

theorem idle_fresh : Fresh idle := ⟨rfl,rfl,rfl,rfl⟩

-- Two addresses with different low bits come, and the first goes.
def renumbered : List Step :=
  [.joinAllNodes,.add (slash64 0x20010db8000000000000000000000001),.add (slash64 0x20010db8000000000000000000000002),
    .remove 0x20010db8000000000000000000000001]

theorem renumbered_heeded : Runs.Met (fun step i => Interface.next oneIid step i) Heeds renumbered idle := by
  refine ⟨trivial,?_,?_,?_,trivial⟩
  · change Groupable _
    decide +kernel
  · change Groupable _
    decide +kernel
  · intro _
    decide +kernel

theorem addresses_hear_solicitations_renumbered :
    (Runs.run (fun step i => Interface.next oneIid step i) idle renumbered).ip6IfAddr =
        [slash64 0x20010db8000000000000000000000002] ∧
      HearsSolicitations (Runs.run (fun step i => Interface.next oneIid step i) idle renumbered) := by
  have first : Runs.Reached Fresh (fun step i => Interface.next oneIid step i) Heeds idle := .start _ idle_fresh
  exact ⟨by decide +kernel,(addresses_hear_solicitations oneIid (first.run renumbered renumbered_heeded)).1⟩

-- Addresses of two prefixes share their low 24 bits, and one of them goes.
def sharedGroup : List Step :=
  [.joinAllNodes,.add (slash64 0x20010db8000000000000000000000001),.add (slash64 0x20010db8000000010000000000000001),
    .remove 0x20010db8000000000000000000000001]

theorem shared_group_left :
    ¬∀ i,Runs.Reached Fresh (fun step i => Interface.next oneIid step i) (fun _ _ => True) i →
      HearsSolicitations i ∧ ∀ step,RemovalsReturn step i := by
  intro hears
  have first : Runs.Reached Fresh (fun step i => Interface.next oneIid step i) (fun _ _ => True) idle :=
    .start _ idle_fresh
  have ended := (hears _ (first.run sharedGroup (Runs.met_true _))).1
  obtain ⟨group,solicited,listening,-⟩ := ended (slash64 0x20010db8000000010000000000000001) (by decide +kernel)
  obtain rfl : solicitedGroup 0x20010db8000000010000000000000001 = group :=
    Except.ok.inj ((solicited_ok (by decide +kernel)).symm.trans solicited)
  exact absurd listening (by decide +kernel)

end PmdPytcp.Icmp6.Interface
