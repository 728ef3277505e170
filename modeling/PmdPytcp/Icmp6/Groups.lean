import PmdPytcp.Icmp6.Interface

namespace PmdPytcp.Icmp6

def Groupable (a : Ip6Address) : Prop := (Ip6Address.isUnicast a || a == 0) = true

instance (a : Ip6Address) : Decidable (Groupable a) := inferInstanceAs (Decidable (_ = _))

theorem solicited_ok (groupable : Groupable a) : solicitedNodeMulticast a = .ok (solicitedGroup a) := if_pos groupable

def macOf (a : Ip6Address) : MacAddress := multicastMac (solicitedGroup a)

def Claim.joined (c : Claim) : Bool :=
  match c.phase with
  | .probing _ joined => joined
  | _ => false

def Claim.probing (c : Claim) : Bool :=
  match c.phase with
  | .probing _ _ => true
  | _ => false

namespace Interface

-- One for each address entry and one for each worker that joined a group itself.
def owners (i : Interface) : Multiset MacAddress :=
  (i.ip6IfAddr : Multiset Ip6IfAddr).map (fun h => macOf h.address) +
    ((i.claims : Multiset Claim).filter (·.joined)).map (fun c => macOf c.candidate.address)

structure Sound (i : Interface) : Prop where
  groupable : ∀ h ∈ i.ip6IfAddr,Groupable h.address
  probed : ∀ c ∈ i.claims,c.probing → Groupable c.candidate.address
  owned : i.owners ≤ (i.macMulticast : Multiset MacAddress)

def Listening (i : Interface) : Prop := ∀ h ∈ i.ip6IfAddr,solicitedGroup h.address ∈ i.ip6Multicast

theorem Sound.congr (sound : Sound i) (hosts : i'.ip6IfAddr = i.ip6IfAddr) (claims : i'.claims = i.claims)
    (macs : i'.macMulticast = i.macMulticast) : Sound i' := by
  refine ⟨?_,?_,?_⟩
  · rw [hosts]
    exact sound.groupable
  · rw [claims]
    exact sound.probed
  · unfold owners
    rw [hosts,claims,macs]
    exact sound.owned

theorem host_mem_owners {i : Interface} (member : h ∈ i.ip6IfAddr) : macOf h.address ∈ i.owners :=
  Multiset.mem_add.mpr (.inl (Multiset.mem_map_of_mem _ member))

theorem Sound.accepts (sound : Sound i) (member : h ∈ i.ip6IfAddr) : macOf h.address ∈ i.macMulticast :=
  Multiset.mem_coe.mp (Multiset.mem_of_le sound.owned (host_mem_owners member))

theorem assignIp6Host_ok {i : Interface} (groupable : Groupable h.address) :
    i.assignIp6Host h =
      returns (assignIp6Multicast { i with ip6IfAddr := i.ip6IfAddr ++ [h] } (solicitedGroup h.address)) := by
  simp [assignIp6Host,solicited_ok groupable]

theorem assigned_sound (sound : Sound i) (groupable : Groupable h.address) :
    Sound (assignIp6Multicast { i with ip6IfAddr := i.ip6IfAddr ++ [h] } (solicitedGroup h.address)) := by
  refine ⟨?_,sound.probed,?_⟩
  · intro host member
    rcases List.mem_append.mp member with member | member
    · exact sound.groupable host member
    · rw [List.mem_singleton.mp member]
      exact groupable
  · have grown : owners (assignIp6Multicast { i with ip6IfAddr := i.ip6IfAddr ++ [h] } (solicitedGroup h.address)) =
        i.owners + {macOf h.address} := by
      simp only [owners,assignIp6Multicast,← Multiset.coe_add,Multiset.map_add,Multiset.coe_singleton,
        Multiset.map_singleton]
      abel
    rw [grown]
    change _ ≤ ((i.macMulticast ++ [macOf h.address] : List MacAddress) : Multiset MacAddress)
    rw [← Multiset.coe_add,Multiset.coe_singleton]
    exact Multiset.add_le_add_right sound.owned

theorem assigned_listening (listening : Listening i) :
    Listening (assignIp6Multicast { i with ip6IfAddr := i.ip6IfAddr ++ [h] } (solicitedGroup h.address)) := by
  intro host member
  rcases List.mem_append.mp member with member | member
  · exact List.mem_append_left _ (listening host member)
  · rw [List.mem_singleton.mp member]
    exact List.mem_append_right _ (List.mem_singleton_self _)

structure Left (i i' : Interface) (group : Ip6Address) : Prop where
  hosts : i'.ip6IfAddr = i.ip6IfAddr
  claims : i'.claims = i.claims
  others : ∀ g ∈ i.ip6Multicast,g ≠ group → g ∈ i'.ip6Multicast

theorem removeIp6Multicast_spec (i : Interface) (group : Ip6Address) (spare : Multiset MacAddress)
    (owned : multicastMac group ::ₘ (i.owners + spare) ≤ (i.macMulticast : Multiset MacAddress)) :
    ∃ i',i.removeIp6Multicast group = returns i' ∧ Left i i' group ∧
      i'.owners + spare ≤ (i'.macMulticast : Multiset MacAddress) := by
  have held : multicastMac group ∈ i.macMulticast :=
    Multiset.mem_coe.mp (Multiset.mem_of_le owned (Multiset.mem_cons_self _ _))
  refine ⟨{ i with
    ip6Multicast := i.ip6Multicast.filter (· ≠ group)
    macMulticast := i.macMulticast.erase (multicastMac group) },?_,⟨rfl,rfl,?_⟩,?_⟩
  · simp [removeIp6Multicast,held]
  · intro g member other
    exact List.mem_filter.mpr ⟨member,by simpa using other⟩
  · have fewer := Multiset.erase_le_erase (multicastMac group) owned
    rw [Multiset.erase_cons_head,Multiset.coe_erase] at fewer
    exact fewer

theorem owners_without_host {i : Interface} (member : h ∈ i.ip6IfAddr) :
    macOf h.address ::ₘ owners { i with ip6IfAddr := i.ip6IfAddr.filter (· ≠ h) } ≤ i.owners := by
  have fewer : ((i.ip6IfAddr.filter (· ≠ h) : List Ip6IfAddr) : Multiset Ip6IfAddr) ≤ (i.ip6IfAddr : Multiset Ip6IfAddr).erase h := by
    have absent : h ∉ i.ip6IfAddr.filter (· ≠ h) := by simp
    have sub := (List.filter_sublist (p := (· ≠ h)) (l := i.ip6IfAddr)).erase h
    rw [List.erase_of_not_mem absent] at sub
    rw [Multiset.coe_erase]
    exact Multiset.coe_le.mpr sub.subperm
  unfold owners
  rw [← Multiset.cons_add,← Multiset.map_cons (fun h : Ip6IfAddr => macOf h.address)]
  refine Multiset.add_le_add_right (Multiset.map_le_map ?_)
  calc h ::ₘ ((i.ip6IfAddr.filter (· ≠ h) : List Ip6IfAddr) : Multiset Ip6IfAddr)
      ≤ h ::ₘ (i.ip6IfAddr : Multiset Ip6IfAddr).erase h := Multiset.cons_le_cons h fewer
    _ = i.ip6IfAddr := Multiset.cons_erase (Multiset.mem_coe.mpr member)

theorem dropped_hosts (i : Interface) (address : Ip6Address) :
    owners { i with ip6IfAddr := i.ip6IfAddr.filter (·.address ≠ address) } +
      ((i.ip6IfAddr.filter (·.address = address) : List Ip6IfAddr) : Multiset Ip6IfAddr).map (fun h => macOf h.address) =
        i.owners := by
  have split := Multiset.filter_add_not (fun h : Ip6IfAddr => h.address = address) (i.ip6IfAddr : Multiset Ip6IfAddr)
  unfold owners
  conv_rhs => rw [← split,Multiset.map_add]
  simp only [Multiset.filter_coe]
  abel

theorem leaveGroups_spec {address : Ip6Address} (groupable : Groupable address) :
    ∀ (removed : List Ip6IfAddr) (i : Interface),(∀ h ∈ removed,h.address = address) →
      i.owners + (removed : Multiset Ip6IfAddr).map (fun h => macOf h.address) ≤ (i.macMulticast : Multiset MacAddress) →
      ∃ i',leaveGroups removed i = returns i' ∧ Left i i' (solicitedGroup address) ∧
        i'.owners ≤ (i'.macMulticast : Multiset MacAddress)
  | [],i,_,owned => ⟨i,rfl,⟨rfl,rfl,fun _ member _ => member⟩,by simpa using owned⟩
  | host :: rest,i,same,owned => by
    obtain rfl := same host List.mem_cons_self
    rw [← Multiset.cons_coe,Multiset.map_cons,Multiset.add_cons] at owned
    obtain ⟨mid,removed,left,owned⟩ := removeIp6Multicast_spec i (solicitedGroup host.address) _ owned
    obtain ⟨i',ended,left',owned'⟩ :=
      leaveGroups_spec groupable rest mid (fun h member => same h (List.mem_cons_of_mem _ member)) owned
    refine ⟨i',?_,⟨left'.hosts.trans left.hosts,left'.claims.trans left.claims,?_⟩,owned'⟩
    · simp [leaveGroups,solicited_ok groupable,removed,Outcome.andThen,returns,ended]
    · intro g member other
      exact left'.others g (left.others g member other) other

theorem Sound.of_left (sound : Sound i) (left : Left i i' group) (owned : i'.owners ≤ (i'.macMulticast : Multiset MacAddress)) :
    Sound i' := by
  refine ⟨?_,?_,owned⟩
  · rw [left.hosts]
    exact sound.groupable
  · rw [left.claims]
    exact sound.probed

theorem removeAddress_spec (address : Ip6Address) (sound : Sound i) (listening : Listening i)
    (alone : (∃ h ∈ i.ip6IfAddr,h.address = address) →
      ∀ h ∈ i.ip6IfAddr,h.address ≠ address → solicitedGroup h.address ≠ solicitedGroup address) :
    ∃ i',i.removeAddress address = returns i' ∧ Sound i' ∧ Listening i' := by
  by_cases assigned : ∃ h ∈ i.ip6IfAddr,h.address = address
  · have kept : Sound { i with ip6IfAddr := i.ip6IfAddr.filter (·.address ≠ address) } := by
      refine ⟨fun h member => sound.groupable h (List.mem_filter.mp member).1,sound.probed,le_trans ?_ sound.owned⟩
      rw [← dropped_hosts i address]
      exact Multiset.le_add_right _ _
    have groupable : Groupable address := by
      obtain ⟨h,member,rfl⟩ := assigned
      exact sound.groupable h member
    obtain ⟨i',ended,left,owned⟩ := leaveGroups_spec groupable (i.ip6IfAddr.filter (·.address = address))
      { i with ip6IfAddr := i.ip6IfAddr.filter (·.address ≠ address) }
      (fun h member => by simpa using (List.mem_filter.mp member).2) (by
        rw [dropped_hosts]
        exact sound.owned)
    refine ⟨i',ended,kept.of_left left owned,?_⟩
    intro h member
    rw [left.hosts] at member
    obtain ⟨member,other⟩ := List.mem_filter.mp member
    exact left.others _ (listening h member) (alone assigned h member (by simpa using other))
  · have none : i.ip6IfAddr.filter (·.address = address) = [] := by
      simpa [List.filter_eq_nil_iff] using assigned
    have all : i.ip6IfAddr.filter (·.address ≠ address) = i.ip6IfAddr := by
      simpa [List.filter_eq_self] using assigned
    exact ⟨i,by simp only [removeAddress,none,all,leaveGroups],sound,listening⟩

theorem owners_dropClaim {i : Interface} (member : c ∈ i.claims) :
    i.owners = (i.dropClaim c).owners + if c.joined then {macOf c.candidate.address} else 0 := by
  have whole : (i.claims : Multiset Claim) = c ::ₘ ((i.claims.erase c : List Claim) : Multiset Claim) := by
    rw [← Multiset.coe_erase]
    exact (Multiset.cons_erase (Multiset.mem_coe.mpr member)).symm
  unfold owners dropClaim
  rw [whole,Multiset.filter_cons]
  split
  · rw [Multiset.map_add,Multiset.map_singleton]
    abel
  · simp

theorem owners_putClaim (i : Interface) (c : Claim) :
    (i.putClaim c).owners = i.owners + if c.joined then {macOf c.candidate.address} else 0 := by
  unfold owners putClaim
  rw [← Multiset.coe_add,Multiset.filter_add,Multiset.coe_singleton,Multiset.filter_singleton,Multiset.map_add]
  split
  · rw [Multiset.map_singleton,add_assoc]
  · simp

theorem dropClaim_sound (sound : Sound i) (member : c ∈ i.claims) : Sound (i.dropClaim c) := by
  refine ⟨sound.groupable,fun d held => sound.probed d (List.mem_of_mem_erase held),le_trans ?_ sound.owned⟩
  rw [owners_dropClaim member]
  exact Multiset.le_add_right _ _

theorem putClaim_sound (sound : Sound i) (idle : c.probing = false) : Sound (i.putClaim c) := by
  have apart : c.joined = false := by
    unfold Claim.probing at idle
    unfold Claim.joined
    split at idle
    · exact absurd idle (by simp)
    · rfl
  refine ⟨sound.groupable,?_,?_⟩
  · intro d held probing
    rcases List.mem_append.mp held with held | held
    · exact sound.probed d held probing
    · rw [List.mem_singleton.mp held,idle] at probing
      exact absurd probing (by simp)
  · rw [owners_putClaim,apart,if_neg Bool.false_ne_true,add_zero]
    exact sound.owned

theorem startClaim_spec (sound : Sound i) (listening : Listening i) (member : c ∈ i.claims)
    (groupable : sysctls.optimisticDad = true ∨ sysctls.acceptDad = false → Groupable c.candidate.address) :
    Sound (i.startClaim c sysctls retries).interface ∧ Listening (i.startClaim c sysctls retries).interface := by
  have rest := dropClaim_sound sound member
  unfold startClaim
  by_cases optimistic : sysctls.optimisticDad = true
  · have valid := groupable (.inl optimistic)
    simp only [optimistic,if_true,assignIp6Host_ok valid,Outcome.andThen,returns]
    split
    · exact ⟨putClaim_sound (assigned_sound rest valid) rfl,assigned_listening (i := i.dropClaim c) listening⟩
    · exact ⟨assigned_sound rest valid,assigned_listening (i := i.dropClaim c) listening⟩
  · by_cases accept : sysctls.acceptDad = true
    · simp only [optimistic,accept,if_true,returns]
      exact ⟨putClaim_sound rest rfl,listening⟩
    · have valid := groupable (.inr (by simpa using accept))
      simp only [optimistic,accept,assignIp6Host_ok valid,returns]
      exact ⟨assigned_sound rest valid,assigned_listening (i := i.dropClaim c) listening⟩

theorem joinForDad_spec (sound : Sound i) (listening : Listening i) (member : c ∈ i.claims) :
    Sound (i.joinForDad c optimistic).interface ∧ Listening (i.joinForDad c optimistic).interface := by
  have rest := dropClaim_sound sound member
  unfold joinForDad
  by_cases valid : Groupable c.candidate.address
  · have put : ∀ joined,∀ d ∈ i.claims.erase c ++ [{ c with phase := .probing optimistic joined }],d.probing →
        Groupable d.candidate.address := by
      intro joined d held probing
      rcases List.mem_append.mp held with held | held
      · exact rest.probed d held probing
      · rw [List.mem_singleton.mp held]
        exact valid
    simp only [solicited_ok valid]
    split
    · refine ⟨⟨rest.groupable,put false,?_⟩,listening⟩
      rw [returns,owners_putClaim]
      exact (add_zero (i.dropClaim c).owners).symm ▸ rest.owned
    · refine ⟨⟨rest.groupable,put true,?_⟩,fun h held => List.mem_append_left _ (listening h held)⟩
      rw [returns,owners_putClaim]
      change (i.dropClaim c).owners + {macOf c.candidate.address} ≤
        ((i.macMulticast ++ [macOf c.candidate.address] : List MacAddress) : Multiset MacAddress)
      rw [← Multiset.coe_add,Multiset.coe_singleton]
      exact Multiset.add_le_add_right rest.owned
  · have refused : solicitedNodeMulticast c.candidate.address = .error .netAddrError := if_neg valid
    simp only [refused,raises]
    exact ⟨rest,listening⟩

theorem tearDown_spec (sound : Sound i) (member : c ∈ i.claims) (phase : c.phase = .probing optimistic joined) :
    ∃ i',(i.dropClaim c).tearDown c joined = returns i' ∧ Sound i' ∧ i'.ip6IfAddr = i.ip6IfAddr ∧
      ∀ g ∈ i.ip6Multicast,(joined = true → g ≠ solicitedGroup c.candidate.address) → g ∈ i'.ip6Multicast := by
  have valid : Groupable c.candidate.address := sound.probed c member (by simp [Claim.probing,phase])
  have rest := dropClaim_sound sound member
  have owned := owners_dropClaim member ▸ sound.owned
  cases joined with
  | false => exact ⟨i.dropClaim c,rfl,rest,rfl,fun _ held _ => held⟩
  | true =>
    simp only [Claim.joined,phase,if_true] at owned
    obtain ⟨i',removed,left,owned'⟩ := removeIp6Multicast_spec (i.dropClaim c)
      (solicitedGroup c.candidate.address) 0 (by
        rw [add_zero,← Multiset.singleton_add,add_comm]
        exact owned)
    refine ⟨i',?_,rest.of_left left (by simpa using owned'),left.hosts,?_⟩
    · simp [tearDown,solicited_ok valid,removed]
    · intro g held other
      exact left.others g held (other rfl)

theorem passDad_spec (sound : Sound i) (listening : Listening i) (member : c ∈ i.claims)
    (phase : c.phase = .probing optimistic joined)
    (alone : joined = true → ∀ h ∈ i.ip6IfAddr,solicitedGroup h.address ≠ solicitedGroup c.candidate.address) :
    ∃ i',i.passDad c optimistic joined = returns i' ∧ Sound i' ∧ Listening i' := by
  obtain ⟨mid,torn,sound',hosts,others⟩ := tearDown_spec sound member phase
  have valid : Groupable c.candidate.address := sound.probed c member (by simp [Claim.probing,phase])
  have listening' : Listening mid := by
    intro h held
    rw [hosts] at held
    exact others _ (listening h held) fun by_worker => alone by_worker h held
  cases optimistic with
  | true => exact ⟨mid,by simp [passDad,torn,Outcome.andThen,returns],sound',listening'⟩
  | false =>
    refine ⟨_,?_,assigned_sound sound' valid,assigned_listening listening'⟩
    simp [passDad,torn,Outcome.andThen,returns,assignIp6Host_ok valid]

theorem revertDad_spec (sound : Sound i) (listening : Listening i) (member : c ∈ i.claims)
    (phase : c.phase = .probing optimistic joined)
    (alone : optimistic = true ∨ joined = true → ∀ h ∈ i.ip6IfAddr,(optimistic = true → h ≠ c.candidate) →
      solicitedGroup h.address ≠ solicitedGroup c.candidate.address)
    (present : optimistic = true → c.candidate ∈ i.ip6IfAddr) :
    ∃ i',i.revertDad c optimistic joined = returns i' ∧ Sound i' ∧ Listening i' := by
  obtain ⟨mid,torn,sound',hosts,others⟩ := tearDown_spec sound member phase
  cases optimistic with
  | false =>
    refine ⟨mid,by simp [revertDad,torn,Outcome.andThen,returns],sound',?_⟩
    intro h held
    rw [hosts] at held
    exact others _ (listening h held) fun by_worker => alone (.inr by_worker) h held (by simp)
  | true =>
    have held : c.candidate ∈ mid.ip6IfAddr := hosts ▸ present rfl
    obtain ⟨i',removed,left,owned⟩ := removeIp6Multicast_spec
      { mid with ip6IfAddr := mid.ip6IfAddr.filter (· ≠ c.candidate) } (solicitedGroup c.candidate.address) 0 (by
        rw [add_zero]
        exact (owners_without_host held).trans sound'.owned)
    have kept : Sound { mid with ip6IfAddr := mid.ip6IfAddr.filter (· ≠ c.candidate) } :=
      ⟨fun h member => sound'.groupable h (List.mem_filter.mp member).1,sound'.probed,
        ((Multiset.le_cons_self _ _).trans (owners_without_host held)).trans sound'.owned⟩
    refine ⟨i',?_,kept.of_left left (by simpa using owned),?_⟩
    · have valid := sound'.groupable _ held
      simp only [revertDad,torn,Outcome.andThen,returns,if_true,removeIp6Host,solicited_ok valid]
      exact removed
    · intro h staying
      rw [left.hosts] at staying
      obtain ⟨staying,other⟩ := List.mem_filter.mp staying
      rw [hosts] at staying
      have differs := alone (.inl rfl) h staying fun _ => by simpa using other
      exact left.others _ (others _ (listening h staying) fun _ => differs) differs

def expired (i : Interface) : List Ip6Address :=
  (i.tempAddresses.filter (·.validUntil ≤ i.now)).map (·.address) ++
    (i.slaacAddresses.filter (·.validUntil ≤ i.now)).map (·.address)

-- Half way through a sweep: an entry without its group is still to be swept, and
-- so is every entry whose group a pending address takes away.
structure Sweeping (pending : List Ip6Address) (i : Interface) : Prop where
  sound : Sound i
  listening : ∀ h ∈ i.ip6IfAddr,solicitedGroup h.address ∈ i.ip6Multicast ∨ h.address ∈ pending
  shared : ∀ h ∈ i.ip6IfAddr,∀ a ∈ pending,solicitedGroup h.address = solicitedGroup a →
    (∃ h₀ ∈ i.ip6IfAddr,h₀.address = a) →
      h.address ∈ pending ∧ ∀ h' ∈ i.ip6IfAddr,h'.address = h.address → h' = h

structure SameTables (i i' : Interface) : Prop where
  now : i'.now = i.now
  slaacAddresses : i'.slaacAddresses = i.slaacAddresses
  tempAddresses : i'.tempAddresses = i.tempAddresses

theorem removeIp6Multicast_tables (i : Interface) (group : Ip6Address) :
    SameTables i (i.removeIp6Multicast group).interface := by
  unfold removeIp6Multicast
  dsimp only
  split
  · exact ⟨rfl,rfl,rfl⟩
  · exact ⟨rfl,rfl,rfl⟩

theorem Sweeping.absent (sweeping : Sweeping (a :: rest) i) (absent : ∀ h ∈ i.ip6IfAddr,h.address ≠ a) :
    Sweeping rest i := by
  refine ⟨sweeping.sound,?_,?_⟩
  · intro h member
    rcases sweeping.listening h member with listens | pending
    · exact .inl listens
    · exact .inr ((List.mem_cons.mp pending).resolve_left (absent h member))
  · intro h member b held same assigned
    obtain ⟨pending,unique⟩ := sweeping.shared h member b (List.mem_cons_of_mem _ held) same assigned
    exact ⟨(List.mem_cons.mp pending).resolve_left (absent h member),unique⟩

theorem Sweeping.swept (sweeping : Sweeping (h₀.address :: rest) i) (found : h₀ ∈ i.ip6IfAddr) (sound : Sound i')
    (hosts : i'.ip6IfAddr = i.ip6IfAddr.filter (· ≠ h₀))
    (others : ∀ g ∈ i.ip6Multicast,g ≠ solicitedGroup h₀.address → g ∈ i'.ip6Multicast) : Sweeping rest i' := by
  have later : ∀ h ∈ i'.ip6IfAddr,h ∈ i.ip6IfAddr ∧ h ≠ h₀ := by
    intro h member
    rw [hosts] at member
    simpa using member
  have waits : ∀ h ∈ i'.ip6IfAddr,∀ a ∈ h₀.address :: rest,solicitedGroup h.address = solicitedGroup a →
      (∃ h₁ ∈ i.ip6IfAddr,h₁.address = a) → h.address ∈ rest := by
    intro h member a held same assigned
    obtain ⟨pending,unique⟩ := sweeping.shared h (later h member).1 a held same assigned
    refine (List.mem_cons.mp pending).resolve_left fun sameAddress => ?_
    exact (later h member).2 (unique h₀ found sameAddress.symm).symm
  refine ⟨sound,?_,?_⟩
  · intro h member
    by_cases same : solicitedGroup h.address = solicitedGroup h₀.address
    · exact .inr (waits h member h₀.address List.mem_cons_self same ⟨h₀,found,rfl⟩)
    · rcases sweeping.listening h (later h member).1 with listens | pending
      · exact .inl (others _ listens same)
      · refine .inr ((List.mem_cons.mp pending).resolve_left fun sameAddress => same ?_)
        rw [sameAddress]
  · intro h member a held same assigned
    have before : ∃ h₁ ∈ i.ip6IfAddr,h₁.address = a := by
      obtain ⟨h₁,member₁,equal⟩ := assigned
      exact ⟨h₁,(later h₁ member₁).1,equal⟩
    refine ⟨waits h member a (List.mem_cons_of_mem _ held) same before,?_⟩
    intro h' member' equal
    exact (sweeping.shared h (later h member).1 a (List.mem_cons_of_mem _ held) same before).2 h' (later h' member').1 equal

theorem sweepAddress_spec (sweeping : Sweeping (a :: rest) i) :
    ∃ i',i.sweepAddress a = returns i' ∧ Sweeping rest i' ∧ SameTables i i' := by
  unfold sweepAddress
  cases search : i.ip6IfAddr.find? (·.address = a) with
  | none =>
    refine ⟨i,rfl,sweeping.absent ?_,⟨rfl,rfl,rfl⟩⟩
    simpa using search
  | some h₀ =>
    have found : h₀ ∈ i.ip6IfAddr := List.mem_of_find?_eq_some search
    obtain rfl : h₀.address = a := by simpa using List.find?_some search
    have valid := sweeping.sound.groupable h₀ found
    have kept : Sound { i with ip6IfAddr := i.ip6IfAddr.filter (· ≠ h₀) } :=
      ⟨fun h member => sweeping.sound.groupable h (List.mem_filter.mp member).1,sweeping.sound.probed,
        ((Multiset.le_cons_self _ _).trans (owners_without_host found)).trans sweeping.sound.owned⟩
    simp only [solicited_ok valid]
    split
    · obtain ⟨i',removed,left,owned⟩ := removeIp6Multicast_spec
        { i with ip6IfAddr := i.ip6IfAddr.filter (· ≠ h₀) } (solicitedGroup h₀.address) 0 (by
          rw [add_zero]
          exact (owners_without_host found).trans sweeping.sound.owned)
      have tables := removeIp6Multicast_tables { i with ip6IfAddr := i.ip6IfAddr.filter (· ≠ h₀) } (solicitedGroup h₀.address)
      rw [removed] at tables
      exact ⟨i',removed,
        sweeping.swept found (kept.of_left left (by simpa using owned)) left.hosts left.others,
        ⟨tables.now,tables.slaacAddresses,tables.tempAddresses⟩⟩
    · exact ⟨_,rfl,sweeping.swept found kept rfl fun _ member _ => member,⟨rfl,rfl,rfl⟩⟩

theorem sweepEach_spec : ∀ (addresses rest : List Ip6Address) (i : Interface),Sweeping (addresses ++ rest) i →
    ∃ i',sweepEach addresses i = returns i' ∧ Sweeping rest i' ∧ SameTables i i'
  | [],rest,i,sweeping => ⟨i,rfl,sweeping,⟨rfl,rfl,rfl⟩⟩
  | a :: addresses,rest,i,sweeping => by
    obtain ⟨mid,swept,sweeping',tables⟩ := sweepAddress_spec sweeping
    obtain ⟨i',ended,sweeping'',tables'⟩ := sweepEach_spec addresses rest mid sweeping'
    refine ⟨i',?_,sweeping'',?_⟩
    · simp [sweepEach,swept,Outcome.andThen,returns,ended]
    · exact ⟨tables'.now.trans tables.now,tables'.slaacAddresses.trans tables.slaacAddresses,
        tables'.tempAddresses.trans tables.tempAddresses⟩

theorem Sweeping.congr (sweeping : Sweeping pending i) (hosts : i'.ip6IfAddr = i.ip6IfAddr)
    (groups : i'.ip6Multicast = i.ip6Multicast) (claims : i'.claims = i.claims)
    (macs : i'.macMulticast = i.macMulticast) : Sweeping pending i' := by
  refine ⟨sweeping.sound.congr hosts claims macs,?_,?_⟩
  · rw [hosts,groups]
    exact sweeping.listening
  · rw [hosts]
    exact sweeping.shared

theorem sweepTempAddresses_spec
    (sweeping : Sweeping ((i.tempAddresses.filter (·.validUntil ≤ i.now)).map (·.address) ++ rest) i) :
    ∃ i',i.sweepTempAddresses = returns i' ∧ Sweeping rest i' ∧ i'.now = i.now ∧
      i'.slaacAddresses = i.slaacAddresses ∧ i'.tempAddresses = i.tempAddresses.filter (i.now < ·.validUntil) := by
  obtain ⟨mid,swept,sweeping',tables⟩ := sweepEach_spec _ _ i sweeping
  refine ⟨{ mid with tempAddresses := mid.tempAddresses.filter (mid.now < ·.validUntil) },?_,
    sweeping'.congr rfl rfl rfl rfl,tables.now,tables.slaacAddresses,?_⟩
  · simp [sweepTempAddresses,swept,Outcome.andThen,returns]
  · rw [tables.tempAddresses,tables.now]

theorem sweepSlaacAddresses_spec (i : Interface) (rest : List Ip6Address)
    (sweeping : Sweeping ((i.slaacAddresses.filter (·.validUntil ≤ i.now)).map (·.address) ++ rest) i) :
    ∃ i',i.sweepSlaacAddresses = returns i' ∧ Sweeping rest i' ∧ i'.now = i.now ∧
      i'.tempAddresses = i.tempAddresses ∧ i'.slaacAddresses = i.slaacAddresses.filter (i.now < ·.validUntil) := by
  obtain ⟨mid,swept,sweeping',tables⟩ := sweepEach_spec _ _ i sweeping
  refine ⟨{ mid with slaacAddresses := mid.slaacAddresses.filter (mid.now < ·.validUntil) },?_,
    sweeping'.congr rfl rfl rfl rfl,tables.now,tables.tempAddresses,?_⟩
  · simp [sweepSlaacAddresses,swept,Outcome.andThen,returns]
  · rw [tables.slaacAddresses,tables.now]

theorem sweeps_spec (sweeping : Sweeping i.expired i) :
    ∃ i',i.sweeps = returns i' ∧ Sound i' ∧ Listening i' := by
  obtain ⟨mid,temp,sweeping',now,slaac,-⟩ := sweepTempAddresses_spec sweeping
  obtain ⟨i',ended,sweeping'',-⟩ := sweepSlaacAddresses_spec mid [] (by
    rw [List.append_nil,now,slaac]
    exact sweeping')
  refine ⟨i',?_,sweeping''.sound,?_⟩
  · simp only [sweeps,temp,Outcome.andThen,returns]
    exact ended
  · intro h member
    exact (sweeping''.listening h member).resolve_right List.not_mem_nil

-- Addresses and groups are as before; at most workers were spawned.
structure Plans (i i' : Interface) : Prop where
  hosts : i'.ip6IfAddr = i.ip6IfAddr
  groups : i'.ip6Multicast = i.ip6Multicast
  macs : i'.macMulticast = i.macMulticast
  claims : ∃ fresh,i'.claims = i.claims ++ fresh ∧ ∀ c ∈ fresh,c.phase = .spawned

theorem Plans.refl (i : Interface) : Plans i i := ⟨rfl,rfl,rfl,[],by simp⟩

theorem Plans.trans (one : Plans i j) (two : Plans j k) : Plans i k := by
  obtain ⟨fresh,claims,spawned⟩ := one.claims
  obtain ⟨fresh',claims',spawned'⟩ := two.claims
  refine ⟨two.hosts.trans one.hosts,two.groups.trans one.groups,two.macs.trans one.macs,fresh ++ fresh',?_,?_⟩
  · rw [claims',claims,List.append_assoc]
  · intro c member
    rcases List.mem_append.mp member with member | member
    · exact spawned c member
    · exact spawned' c member

theorem Plans.andThen {o : Outcome} {rest : Interface → Outcome} (first : Plans i o.interface)
    (later : ∀ j,Plans j (rest j).interface) : Plans i (o.andThen rest).interface := by
  unfold Outcome.andThen
  split
  · exact first.trans (later _)
  · exact first

theorem claimIp6Address_plans (i : Interface) (host : Ip6IfAddr) (regenerate : Regenerator) (slaac : Bool) :
    Plans i (i.claimIp6Address host regenerate slaac) :=
  ⟨rfl,rfl,rfl,[{ candidate := host, regenerate := regenerate, slaac := slaac }],rfl,by simp⟩

theorem Plans.sound (plans : Plans i i') (sound : Sound i) : Sound i' := by
  obtain ⟨fresh,claims,spawned⟩ := plans.claims
  have idle : ∀ c ∈ fresh,c.joined = false ∧ c.probing = false := by
    intro c member
    simp [Claim.joined,Claim.probing,spawned c member]
  refine ⟨?_,?_,?_⟩
  · rw [plans.hosts]
    exact sound.groupable
  · intro c member probing
    rw [claims] at member
    rcases List.mem_append.mp member with member | member
    · exact sound.probed c member probing
    · rw [(idle c member).2] at probing
      exact absurd probing (by simp)
  · have none : (fresh : Multiset Claim).filter (·.joined) = 0 := by
      refine Multiset.filter_eq_nil.mpr fun c member => ?_
      simp [(idle c member).1]
    unfold owners
    rw [plans.hosts,plans.macs,claims,← Multiset.coe_add,Multiset.filter_add,none,add_zero]
    exact sound.owned

theorem Plans.listening (plans : Plans i i') (listening : Listening i) : Listening i' := by
  unfold Listening
  rw [plans.hosts,plans.groups]
  exact listening

variable {stableIid : Bool → Nat → Ip6Network → BitVec 64}

theorem updateSlaacAddress_plans (i : Interface) (sysctls : Sysctls) (network : Ip6Network)
    (validLifetime preferredLifetime : Nat) (routerAddress : Ip6Address) :
    Plans i (i.updateSlaacAddress stableIid sysctls network validLifetime preferredLifetime routerAddress).interface := by
  unfold updateSlaacAddress
  dsimp only
  split
  · unfold returns
    dsimp only
    split
    · exact ⟨rfl,rfl,rfl,[],by simp⟩
    · exact .refl i
  · split
    · exact .refl i
    · split
      · exact .refl i
      · unfold returns
        dsimp only
        split
        · exact ⟨rfl,rfl,rfl,[_],rfl,by simp⟩
        · exact ⟨rfl,rfl,rfl,[],by simp⟩

theorem updateTempAddress_plans (i : Interface) (sysctls : Sysctls) (network : Ip6Network)
    (validLifetime preferredLifetime : Nat) (routerAddress : Ip6Address) (draw : Draw) :
    Plans i (i.updateTempAddress sysctls network validLifetime preferredLifetime routerAddress draw).interface := by
  unfold updateTempAddress
  dsimp only
  split
  · split
    · unfold returns
      dsimp only
      split
      · exact ⟨rfl,rfl,rfl,[],by simp⟩
      · exact .refl i
    · split
      · exact ⟨rfl,rfl,rfl,[],by simp [returns]⟩
      · split
        · exact .refl i
        · exact ⟨rfl,rfl,rfl,[_],rfl,by simp⟩
  · exact .refl i

theorem prefixInformation_plans (i : Interface) (sysctls : Sysctls) (option : PrefixInfo) (routerAddress : Ip6Address)
    (draw : Draw) : Plans i (i.prefixInformation stableIid sysctls option routerAddress draw).interface := by
  unfold prefixInformation
  split
  · exact (updateSlaacAddress_plans _ _ _ _ _ _).andThen fun j => updateTempAddress_plans j _ _ _ _ _ _
  · exact .refl i

theorem regenPrefix_plans (i : Interface) (sysctls : Sysctls) (network : Ip6Network) (draw : Draw) :
    Plans i (i.regenPrefix sysctls network draw).interface := by
  unfold regenPrefix
  split
  · exact .refl i
  · split
    · exact .refl i
    · split
      · exact .refl i
      · exact ⟨rfl,rfl,rfl,[_],rfl,by simp⟩

theorem regenEach_plans (sysctls : Sysctls) (draws : Ip6Network → Draw) :
    ∀ networks i,Plans i (regenEach sysctls draws networks i).interface
  | [],i => .refl i
  | network :: rest,i =>
    (regenPrefix_plans i sysctls network (draws network)).andThen fun j => regenEach_plans sysctls draws rest j

theorem regenTempAddresses_plans (i : Interface) (sysctls : Sysctls) (draws : Ip6Network → Draw) :
    Plans i (i.regenTempAddresses sysctls draws).interface := by
  unfold regenTempAddresses
  split
  · exact regenEach_plans sysctls draws _ i
  · exact .refl i

theorem bootClaim_plans (i : Interface) (sysctls : Sysctls) : Plans i (i.bootClaim stableIid sysctls).interface := by
  unfold bootClaim
  split
  · exact .refl i
  · split
    · exact .refl i
    · exact ⟨rfl,rfl,rfl,[_],rfl,by simp⟩

end Interface

end PmdPytcp.Icmp6
