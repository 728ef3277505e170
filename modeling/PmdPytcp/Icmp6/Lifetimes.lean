import PmdPytcp.Icmp6.Tables

namespace PmdPytcp.Icmp6.Interface
variable {stableIid : Bool → Nat → Ip6Network → BitVec 64}

def slaacEntry (i : Interface) (network : Ip6Network) : Option Icmp6SlaacAddress :=
  i.slaacAddresses.find? (·.network = network)

def remaining (i : Interface) (network : Ip6Network) : Option ℚ :=
  (i.slaacEntry network).map (·.validUntil - i.now)

-- RFC 4862 section 5.5.3 (e): what is left of a lifetime after an unauthenticated
-- advertisement.
def rfcLifetime (advertised : Nat) (left : ℚ) : ℚ :=
  if twoHourRule < advertised ∨ left < advertised then advertised
  else if left ≤ twoHourRule then left
  else twoHourRule

theorem le_rfcLifetime (advertised : Nat) (left : ℚ) : min left twoHourRule ≤ rfcLifetime advertised left := by
  unfold rfcLifetime
  split
  · next more =>
    rcases more with more | more
    · exact (min_le_right _ _).trans more.le
    · exact (min_le_left _ _).trans more.le
  · split
    · exact min_le_left _ _
    · exact min_le_right _ _

theorem find_replaced (entries : List Icmp6SlaacAddress) (new : Icmp6SlaacAddress) (other : Ip6Network) :
    (entries.filter (·.network ≠ new.network) ++ [new]).find? (·.network = other) =
      if other = new.network then some new else entries.find? (·.network = other) := by
  induction entries with
  | nil =>
    by_cases same : other = new.network
    · simp [same]
    · have differs : ¬new.network = other := fun equal => same equal.symm
      simp [same,differs]
  | cons head rest ih =>
    by_cases dropped : head.network = new.network
    · rw [List.filter_cons_of_neg (by simp [dropped]),ih]
      by_cases same : other = new.network
      · simp [same]
      · have differs : ¬head.network = other := fun equal => same (equal.symm.trans dropped)
        simp [same,differs]
    · rw [List.filter_cons_of_pos (by simp [dropped]),List.cons_append]
      by_cases here : head.network = other
      · have differs : ¬other = new.network := fun equal => dropped (here.trans equal)
        simp [here,differs]
      · rw [List.find?_cons_of_neg (by simpa using here),ih,List.find?_cons_of_neg (by simpa using here)]

theorem find_lasting {entries : List Icmp6SlaacAddress} {entry : Icmp6SlaacAddress} (lasting : clock < entry.validUntil)
    (found : entries.find? (·.network = network) = some entry) :
    (entries.filter (clock < ·.validUntil)).find? (·.network = network) = some entry := by
  induction entries with
  | nil => exact absurd found (by simp)
  | cons head rest ih =>
    by_cases here : head.network = network
    · obtain rfl : head = entry := by simpa [here] using found
      rw [List.filter_cons_of_pos (by simpa using lasting),List.find?_cons_of_pos (by simpa using here)]
    · rw [List.find?_cons_of_neg (by simpa using here)] at found
      by_cases kept : clock < head.validUntil
      · rw [List.filter_cons_of_pos (by simpa using kept),List.find?_cons_of_neg (by simpa using here)]
        exact ih found
      · rw [List.filter_cons_of_neg (by simpa using kept)]
        exact ih found

section Advertised
variable (stableIid : Bool → Nat → Ip6Network → BitVec 64) (i : Interface) (sysctls : Sysctls) (network : Ip6Network)
  (validLifetime preferredLifetime : Nat) (routerAddress : Ip6Address) (draw : Draw)

theorem updateSlaacAddress_now :
    (i.updateSlaacAddress stableIid sysctls network validLifetime preferredLifetime routerAddress).interface.now = i.now := by
  unfold updateSlaacAddress
  dsimp only
  split
  · unfold returns
    dsimp only
    split <;> rfl
  · split
    · rfl
    · split
      · rfl
      · unfold returns
        dsimp only
        split <;> rfl

theorem updateSlaacAddress_temp :
    (i.updateSlaacAddress stableIid sysctls network validLifetime preferredLifetime routerAddress).interface.tempAddresses =
        i.tempAddresses ∧
      ((i.updateSlaacAddress stableIid sysctls network validLifetime preferredLifetime routerAddress).raised.isSome →
        network.prefixlen ≠ 64) := by
  unfold updateSlaacAddress
  dsimp only
  split
  · unfold returns
    dsimp only
    split <;> simp
  · split
    · simp [returns]
    · cases derived : deriveIp6Host stableIid sysctls network with
      | error error =>
        refine ⟨rfl,fun _ whole => ?_⟩
        simp [deriveIp6Host,whole] at derived
      | ok host =>
        unfold returns
        dsimp only
        split <;> simp [claimIp6Address]

theorem updateSlaacAddress_entry (nonzero : validLifetime ≠ 0) (other : Ip6Network) :
    (i.updateSlaacAddress stableIid sysctls network validLifetime preferredLifetime routerAddress).interface.slaacEntry other =
        i.slaacEntry other ∧
      (network.prefixlen = 64 → other = network →
        refreshedLifetime validLifetime ((i.slaacEntry network).map (·.validUntil - i.now)) = none) ∨
    ∃ new newValidLifetime,refreshedLifetime validLifetime ((i.slaacEntry network).map (·.validUntil - i.now)) =
        some newValidLifetime ∧ new.validUntil = i.now + newValidLifetime ∧ new.network = network ∧
      (i.updateSlaacAddress stableIid sysctls network validLifetime preferredLifetime routerAddress).interface.slaacEntry other =
        if other = network then some new else i.slaacEntry other := by
  unfold updateSlaacAddress
  simp only [nonzero,if_false]
  cases refreshed : refreshedLifetime validLifetime ((i.slaacEntry network).map (·.validUntil - i.now)) with
  | none =>
    simp only [slaacEntry] at refreshed
    simp only [refreshed]
    exact .inl ⟨rfl,fun _ _ => trivial⟩
  | some newValidLifetime =>
    have refreshed' := refreshed
    simp only [slaacEntry] at refreshed'
    simp only [refreshed']
    cases derived : deriveIp6Host stableIid sysctls network with
    | error error =>
      refine .inl ⟨rfl,fun whole => ?_⟩
      simp [deriveIp6Host,whole] at derived
    | ok host =>
      refine .inr ⟨⟨host.address,network,i.now + preferredLifetime,i.now + newValidLifetime,routerAddress⟩,
        newValidLifetime,rfl,rfl,rfl,?_⟩
      unfold returns slaacEntry
      dsimp only
      split
      · exact find_replaced i.slaacAddresses
          ⟨host.address,network,i.now + preferredLifetime,i.now + newValidLifetime,routerAddress⟩ other
      · exact find_replaced i.slaacAddresses
          ⟨host.address,network,i.now + preferredLifetime,i.now + newValidLifetime,routerAddress⟩ other

theorem other_prefix_entry (differs : network ≠ other) :
    (i.updateSlaacAddress stableIid sysctls network validLifetime preferredLifetime routerAddress).interface.slaacEntry other =
      i.slaacEntry other := by
  by_cases zero : validLifetime = 0
  · unfold updateSlaacAddress
    simp only [zero,if_true]
    unfold returns slaacEntry
    dsimp only
    split
    · rw [List.find?_filter]
      congr 1
      funext a
      by_cases same : a.network = other
      · simp [same,differs.symm]
      · simp [same]
    · rfl
  · rcases updateSlaacAddress_entry stableIid i sysctls network validLifetime preferredLifetime routerAddress zero other with
      ⟨same,-⟩ | ⟨new,lifetime,-,-,-,written⟩
    · exact same
    · rw [written,if_neg fun equal => differs equal.symm]

theorem updateTempAddress_slaac :
    (i.updateTempAddress sysctls network validLifetime preferredLifetime routerAddress draw).interface.slaacAddresses =
        i.slaacAddresses ∧
      (i.updateTempAddress sysctls network validLifetime preferredLifetime routerAddress draw).interface.now = i.now := by
  unfold updateTempAddress
  dsimp only
  split
  · split
    · unfold returns
      dsimp only
      split <;> exact ⟨rfl,rfl⟩
    · split
      · exact ⟨rfl,rfl⟩
      · split
        · exact ⟨rfl,rfl⟩
        · exact ⟨rfl,rfl⟩
  · exact ⟨rfl,rfl⟩

theorem prefixInformation_slaac {option : PrefixInfo}
    (taken : (option.admitted && sysctls.acceptRaPinfo) = true) :
    (i.prefixInformation stableIid sysctls option routerAddress draw).interface.slaacAddresses =
        (i.updateSlaacAddress stableIid sysctls option.network option.validLifetime option.preferredLifetime
          routerAddress).interface.slaacAddresses ∧
      (i.prefixInformation stableIid sysctls option routerAddress draw).interface.now = i.now := by
  unfold prefixInformation Outcome.andThen
  rw [if_pos taken]
  split
  · obtain ⟨slaac,now⟩ := updateTempAddress_slaac (i.updateSlaacAddress stableIid sysctls option.network
      option.validLifetime option.preferredLifetime routerAddress).interface sysctls option.network option.validLifetime
      option.preferredLifetime routerAddress draw
    exact ⟨slaac,now.trans (updateSlaacAddress_now stableIid i sysctls _ _ _ _)⟩
  · exact ⟨rfl,updateSlaacAddress_now stableIid i sysctls _ _ _ _⟩

end Advertised

theorem refreshed_some {left : ℚ} (refreshed : refreshedLifetime advertised (some left) = some lifetime) :
    lifetime = rfcLifetime advertised left := by
  unfold refreshedLifetime at refreshed
  unfold rfcLifetime
  simp only at refreshed
  split at refreshed
  · next more =>
    rw [if_pos more]
    exact (Option.some.inj refreshed).symm
  · next less =>
    rw [if_neg less]
    split at refreshed
    · exact absurd refreshed (by simp)
    · next long =>
      rw [if_neg long]
      exact (Option.some.inj refreshed).symm

theorem refreshed_none {left : ℚ} (ignored : refreshedLifetime advertised (some left) = none) :
    rfcLifetime advertised left = left := by
  unfold refreshedLifetime at ignored
  unfold rfcLifetime
  simp only at ignored
  split at ignored
  · exact absurd ignored (by simp)
  · next less =>
    rw [if_neg less]
    split at ignored
    · next short => rw [if_pos short]
    · exact absurd ignored (by simp)

-- An advertisement that names the prefix and is not turned away.
def Advertises (network : Ip6Network) (sysctls : Sysctls) (option : PrefixInfo) : Prop :=
  option.network = network ∧ (option.admitted && sysctls.acceptRaPinfo) = true

theorem advertised_entry (stableIid : Bool → Nat → Ip6Network → BitVec 64) (routerAddress : Ip6Address) (draw : Draw)
    {i : Interface} {network : Ip6Network} {option : PrefixInfo} (advertises : Advertises network sysctls option) (nonzero : option.validLifetime ≠ 0)
    (configured : i.slaacEntry network = some entry) :
    (i.prefixInformation stableIid sysctls option routerAddress draw).interface.now = i.now ∧
      ∃ entry',(i.prefixInformation stableIid sysctls option routerAddress draw).interface.slaacEntry network = some entry' ∧
        (entry'.validUntil = i.now + rfcLifetime option.validLifetime (entry.validUntil - i.now) ∨
          network.prefixlen ≠ 64 ∧ entry' = entry) := by
  obtain ⟨rfl,taken⟩ := advertises
  obtain ⟨slaac,now⟩ := prefixInformation_slaac stableIid i sysctls routerAddress draw taken
  refine ⟨now,?_⟩
  unfold slaacEntry
  rw [slaac]
  change ∃ entry',slaacEntry _ _ = some entry' ∧ _
  rcases updateSlaacAddress_entry stableIid i sysctls option.network option.validLifetime option.preferredLifetime
    routerAddress nonzero option.network with
    ⟨same,ignored⟩ | ⟨new,lifetime,refreshed,ends,-,written⟩
  · refine ⟨entry,same.trans configured,?_⟩
    by_cases whole : option.network.prefixlen = 64
    · have none := ignored whole rfl
      rw [configured] at none
      exact .inl (by rw [refreshed_none none]; ring)
    · exact .inr ⟨whole,rfl⟩
  · rw [configured] at refreshed
    rw [if_pos rfl] at written
    exact ⟨new,written,.inl (by rw [ends,refreshed_some refreshed])⟩

def NotWithdrawn (network : Ip6Network) : Step → Interface → Prop
  | .prefixInformation sysctls option _ _,_ => Advertises network sysctls option → option.validLifetime ≠ 0
  | _,_ => True

-- Until the deadline there is an entry, and it ends no earlier.
structure Guarded (begun deadline : ℚ) (network : Ip6Network) (i : Interface) : Prop where
  later : begun ≤ i.now
  entry : i.now < deadline → ∃ entry,i.slaacEntry network = some entry ∧ deadline ≤ entry.validUntil

theorem Guarded.same (guarded : Guarded begun deadline network i) (now : i'.now = i.now)
    (slaac : i'.slaacAddresses = i.slaacAddresses) : Guarded begun deadline network i' := by
  refine ⟨now ▸ guarded.later,?_⟩
  unfold slaacEntry
  rw [now,slaac]
  exact guarded.entry

theorem Guarded.tables (guarded : Guarded begun deadline network i) (tables : SameTables i i') :
    Guarded begun deadline network i' := guarded.same tables.now tables.slaacAddresses

theorem prefixInformation_guarded {option : PrefixInfo} (soon : deadline ≤ begun + twoHourRule)
    (guarded : Guarded begun deadline network i)
    (kept : Advertises network sysctls option → option.validLifetime ≠ 0) :
    Guarded begun deadline network (i.prefixInformation stableIid sysctls option routerAddress draw).interface := by
  by_cases taken : (option.admitted && sysctls.acceptRaPinfo) = true
  · obtain ⟨slaac,now⟩ := prefixInformation_slaac stableIid i sysctls routerAddress draw taken
    refine ⟨now.symm ▸ guarded.later,?_⟩
    rw [now]
    intro before
    obtain ⟨entry,configured,ends⟩ := guarded.entry before
    by_cases named : option.network = network
    · obtain ⟨-,entry',written,refreshed⟩ := advertised_entry stableIid routerAddress draw ⟨named,taken⟩ (kept ⟨named,taken⟩) configured
      refine ⟨entry',written,?_⟩
      rcases refreshed with refreshed | ⟨-,rfl⟩
      · have longer := le_rfcLifetime option.validLifetime (entry.validUntil - i.now)
        have left : deadline - i.now ≤ min (entry.validUntil - i.now) twoHourRule := by
          refine le_min ?_ ?_
          · linarith
          · linarith [guarded.later]
        linarith
      · exact ends
    · refine ⟨entry,?_,ends⟩
      unfold slaacEntry at configured ⊢
      rw [slaac]
      exact (other_prefix_entry stableIid i sysctls _ _ _ routerAddress named).trans configured
  · unfold prefixInformation
    rw [if_neg taken]
    exact guarded

theorem regenPrefix_slaac (i : Interface) (sysctls : Sysctls) (network : Ip6Network) (draw : Draw) :
    (i.regenPrefix sysctls network draw).interface.now = i.now ∧
      (i.regenPrefix sysctls network draw).interface.slaacAddresses = i.slaacAddresses := by
  unfold regenPrefix
  split
  · exact ⟨rfl,rfl⟩
  · split
    · exact ⟨rfl,rfl⟩
    · split
      · exact ⟨rfl,rfl⟩
      · exact ⟨rfl,rfl⟩

theorem regenEach_slaac (sysctls : Sysctls) (draws : Ip6Network → Draw) : ∀ networks i,
    (regenEach sysctls draws networks i).interface.now = i.now ∧
      (regenEach sysctls draws networks i).interface.slaacAddresses = i.slaacAddresses
  | [],i => ⟨rfl,rfl⟩
  | network :: rest,i => by
    obtain ⟨now,slaac⟩ := regenPrefix_slaac i sysctls network (draws network)
    unfold regenEach Outcome.andThen
    split
    · obtain ⟨now',slaac'⟩ := regenEach_slaac sysctls draws rest (i.regenPrefix sysctls network (draws network)).interface
      exact ⟨now'.trans now,slaac'.trans slaac⟩
    · exact ⟨now,slaac⟩

theorem sweeps_guarded (guarded : Guarded begun deadline network i) :
    Guarded begun deadline network i.sweeps.interface := by
  have swept := sweeps_swept i
  refine ⟨swept.now.symm ▸ guarded.later,?_⟩
  rw [swept.now]
  intro before
  obtain ⟨entry,configured,ends⟩ := guarded.entry before
  refine ⟨entry,?_,ends⟩
  unfold slaacEntry at configured ⊢
  rcases swept.slaac with purged | ⟨-,kept⟩
  · rw [purged]
    have lasting : i.now < entry.validUntil := before.trans_le ends
    exact find_lasting lasting configured
  · rw [kept]
    exact configured

theorem regen_slaac (i : Interface) (sysctls : Sysctls) (draws : Ip6Network → Draw) :
    (i.regenTempAddresses sysctls draws).interface.now = i.now ∧
      (i.regenTempAddresses sysctls draws).interface.slaacAddresses = i.slaacAddresses := by
  unfold regenTempAddresses
  split
  · exact regenEach_slaac sysctls draws _ i
  · exact ⟨rfl,rfl⟩

theorem next_guarded (step : Step) (soon : deadline ≤ begun + twoHourRule) (guarded : Guarded begun deadline network i)
    (kept : NotWithdrawn network step i) : Guarded begun deadline network (i.next stableIid step) := by
  rcases next_tables step i with
    same | ⟨elapsed,rfl⟩ | ⟨sysctls,option,routerAddress,draw,rfl⟩ | ⟨sysctls,draws,rfl⟩ | rfl
  · exact guarded.same same.now same.slaacAddresses
  · have later : i.now ≤ i.now + (elapsed : ℚ) := le_add_of_nonneg_right elapsed.cast_nonneg
    exact ⟨guarded.later.trans later,fun before => guarded.entry (later.trans_lt before)⟩
  · exact prefixInformation_guarded soon guarded kept
  · exact guarded.same (regen_slaac i sysctls draws).1 (regen_slaac i sysctls draws).2
  · exact sweeps_guarded guarded

def Whole (i : Interface) : Prop := ∀ a ∈ i.slaacAddresses,a.network.prefixlen = 64

theorem updateSlaacAddress_whole (whole : Whole i) :
    Whole (i.updateSlaacAddress stableIid sysctls network validLifetime preferredLifetime routerAddress).interface := by
  have fewer : ∀ a ∈ i.slaacAddresses.filter (·.network ≠ network),a.network.prefixlen = 64 :=
    fun a member => whole a (List.mem_filter.mp member).1
  unfold updateSlaacAddress
  dsimp only
  split
  · unfold returns
    dsimp only
    split
    · exact fewer
    · exact whole
  · split
    · exact whole
    · cases derived : deriveIp6Host stableIid sysctls network with
      | error error => exact whole
      | ok host =>
        have size : network.prefixlen = 64 := by
          unfold deriveIp6Host at derived
          split at derived
          · next size => exact size
          · exact absurd derived (by simp)
        have more : ∀ new : Icmp6SlaacAddress,new.network = network →
            ∀ a ∈ i.slaacAddresses.filter (·.network ≠ network) ++ [new],a.network.prefixlen = 64 := by
          intro new named a member
          rcases List.mem_append.mp member with member | member
          · exact fewer a member
          · rw [List.mem_singleton.mp member,named]
            exact size
        unfold returns
        dsimp only
        split
        · exact more _ rfl
        · exact more _ rfl

theorem next_whole (step : Step) (whole : Whole i) : Whole (i.next stableIid step) := by
  rcases next_tables step i with same | ⟨elapsed,rfl⟩ | ⟨sysctls,option,routerAddress,draw,rfl⟩ | ⟨sysctls,draws,rfl⟩ | rfl
  · unfold Whole
    rw [same.slaacAddresses]
    exact whole
  · exact whole
  · by_cases taken : (option.admitted && sysctls.acceptRaPinfo) = true
    · simp only [Whole,next,Interface.step]
      rw [(prefixInformation_slaac stableIid i sysctls routerAddress draw taken).1]
      exact updateSlaacAddress_whole whole
    · simp only [Whole,next,Interface.step,prefixInformation]
      rw [if_neg taken]
      exact whole
  · simp only [Whole,next,Interface.step]
    rw [(regen_slaac i sysctls draws).2]
    exact whole
  · intro a member
    rcases (sweeps_swept i).slaac with purged | ⟨-,kept⟩
    · change a ∈ i.sweeps.interface.slaacAddresses at member
      rw [purged] at member
      exact whole a (List.mem_filter.mp member).1
    · change a ∈ i.sweeps.interface.slaacAddresses at member
      rw [kept] at member
      exact whole a member

-- Every advertisement for the prefix follows the rule.
def FollowsRule (stableIid : Bool → Nat → Ip6Network → BitVec 64) (network : Ip6Network) : Step → Interface → Prop
  | .prefixInformation sysctls option routerAddress draw,i => Advertises network sysctls option →
      ∀ left,i.remaining network = some left →
        (i.next stableIid (.prefixInformation sysctls option routerAddress draw)).remaining network =
          some (rfcLifetime option.validLifetime left)
  | _,_ => True

def Unconfigured (i : Interface) : Prop := i.slaacAddresses = []

theorem follows_rule (step : Step) (whole : Whole i) (kept : NotWithdrawn network step i) :
    FollowsRule stableIid network step i := by
  cases step with
  | prefixInformation sysctls option routerAddress draw =>
    intro advertises left held
    obtain ⟨entry,configured,rfl⟩ := Option.map_eq_some_iff.mp held
    obtain ⟨now,entry',written,refreshed⟩ := advertised_entry stableIid routerAddress draw advertises (kept advertises) configured
    have size : network.prefixlen = 64 := by
      have named : entry.network = network := by simpa using List.find?_some configured
      exact named ▸ whole entry (List.mem_of_find?_eq_some configured)
    rcases refreshed with refreshed | ⟨other,-⟩
    · simp only [remaining,next,Interface.step]
      rw [written,now,Option.map_some,refreshed]
      congr 1
      ring
    · exact absurd size other
  | _ => trivial

theorem forged_lifetimes (stableIid : Bool → Nat → Ip6Network → BitVec 64) {left : ℚ}
    (ran : Runs.Reached Unconfigured (fun step i => i.next stableIid step) (fun _ _ => True) i₀)
    (configured : i₀.remaining network = some left)
    (reached : Runs.Reached (· = i₀) (fun step i => i.next stableIid step) (NotWithdrawn network) i) :
    (∀ step,NotWithdrawn network step i → FollowsRule stableIid network step i) ∧
      (i.now < i₀.now + min left twoHourRule →
        ∃ left',i.remaining network = some left' ∧ i₀.now + min left twoHourRule ≤ i.now + left') := by
  have whole₀ : Whole i₀ := by
    refine ran.invariant Whole (fun s first => ?_) fun s step whole _ => next_whole step whole
    intro a member
    rw [first] at member
    exact absurd member List.not_mem_nil
  have whole : Whole i := by
    refine reached.invariant Whole (fun s first => ?_) fun s step whole _ => next_whole step whole
    rw [first]
    exact whole₀
  have guarded : Guarded i₀.now (i₀.now + min left twoHourRule) network i := by
    refine reached.invariant _ (fun s first => ?_) fun s step guarded kept => next_guarded step ?_ guarded kept
    · subst first
      obtain ⟨entry,found,rfl⟩ := Option.map_eq_some_iff.mp configured
      refine ⟨le_rfl,fun _ => ⟨entry,found,?_⟩⟩
      linarith [min_le_left (entry.validUntil - s.now) twoHourRule]
    · linarith [min_le_right left twoHourRule]
  refine ⟨fun step kept => follows_rule step whole kept,fun before => ?_⟩
  obtain ⟨entry,found,ends⟩ := guarded.entry before
  refine ⟨entry.validUntil - i.now,?_,by linarith⟩
  unfold remaining
  rw [found,Option.map_some]

def documentation : Ip6Network := ⟨0x20010db8000000000000000000000000,64⟩

def advertised (validLifetime preferredLifetime : Nat) : Step :=
  .prefixInformation {} ⟨true,documentation,validLifetime,preferredLifetime⟩ 0xfe800000000000000000000000000001 ⟨none,0⟩

-- Thirty days of lifetime, and an hour later a forged advertisement of one second.
theorem forged_lifetimes_one_second :
    (Runs.run (fun step i => Interface.next oneIid step i) idle
        [advertised 2592000 604800,.passed 3600,advertised 1 1]).remaining documentation = some 7200 ∧
      ∃ left,(Runs.run (fun step i => Interface.next oneIid step i) idle
        [advertised 2592000 604800,.passed 3600,advertised 1 1]).remaining documentation = some left ∧
          7200 ≤ 3600 + left := by
  have first : Runs.Reached Unconfigured (fun step i => Interface.next oneIid step i) (fun _ _ => True) idle := .start _ rfl
  have ran := first.run [advertised 2592000 604800] (Runs.met_true _)
  have begun : Runs.Reached (· = Runs.run (fun step i => Interface.next oneIid step i) idle [advertised 2592000 604800])
      (fun step i => Interface.next oneIid step i) (NotWithdrawn documentation) _ := .start _ rfl
  have reached := begun.run [.passed 3600,advertised 1 1] ⟨trivial,fun _ => Nat.one_ne_zero,trivial⟩
  have configured : (Runs.run (fun step i => Interface.next oneIid step i) idle
      [advertised 2592000 604800]).remaining documentation = some 2592000 := by decide +kernel
  refine ⟨by decide +kernel,?_⟩
  obtain ⟨left,held,later⟩ := (forged_lifetimes oneIid ran configured reached).2 (by decide +kernel)
  have clock : (Runs.run (fun step i => Interface.next oneIid step i)
      (Runs.run (fun step i => Interface.next oneIid step i) idle [advertised 2592000 604800])
      [.passed 3600,advertised 1 1]).now = 3600 := by decide +kernel
  have bound : (Runs.run (fun step i => Interface.next oneIid step i) idle [advertised 2592000 604800]).now +
      min 2592000 twoHourRule = 7200 := by decide +kernel
  rw [clock,bound] at later
  exact ⟨left,held,later⟩

-- A forged advertisement of zero takes the prefix away at once.
theorem zero_lifetime_forgets :
    ¬∀ i₀ i network left,
      Runs.Reached Unconfigured (fun step i => Interface.next oneIid step i) (fun _ _ => True) i₀ →
      i₀.remaining network = some left →
      Runs.Reached (· = i₀) (fun step i => Interface.next oneIid step i) (fun _ _ => True) i →
      (∀ step,FollowsRule oneIid network step i) ∧
        (i.now < i₀.now + min left twoHourRule →
          ∃ left',i.remaining network = some left' ∧ i₀.now + min left twoHourRule ≤ i.now + left') := by
  intro holds
  have first : Runs.Reached Unconfigured (fun step i => Interface.next oneIid step i) (fun _ _ => True) idle := .start _ rfl
  have ran := first.run [advertised 2592000 604800] (Runs.met_true _)
  have begun : Runs.Reached (· = Runs.run (fun step i => Interface.next oneIid step i) idle [advertised 2592000 604800])
      (fun step i => Interface.next oneIid step i) (fun _ _ => True) _ := .start _ rfl
  have reached := begun.run [advertised 0 0] (Runs.met_true _)
  obtain ⟨left,held,-⟩ := (holds _ _ documentation 2592000 ran (by decide +kernel) reached).2 (by decide +kernel)
  have gone : (Runs.run (fun step i => Interface.next oneIid step i)
      (Runs.run (fun step i => Interface.next oneIid step i) idle [advertised 2592000 604800])
      [advertised 0 0]).remaining documentation = none := by decide +kernel
  exact absurd (gone.symm.trans held) (by simp)

end PmdPytcp.Icmp6.Interface
