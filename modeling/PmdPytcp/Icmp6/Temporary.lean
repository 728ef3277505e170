import PmdPytcp.Icmp6.Lifetimes

namespace PmdPytcp.Icmp6
open Interface (Step)

structure Heard where
  validEnds : ℚ
  preferredEnds : ℚ

structure Hearing where
  interface : Interface
  heard : Store Ip6Network Heard

namespace Hearing
variable (stableIid : Bool → Nat → Ip6Network → BitVec 64) (c : Sysctls)

-- The tables are always updated with the same configuration.
def configure : Step → Step
  | .prefixInformation _ option routerAddress draw => .prefixInformation c option routerAddress draw
  | .regen _ draws => .regen c draws
  | step => step

def hear : Step → ℚ → Store Ip6Network Heard → Store Ip6Network Heard
  | .prefixInformation _ option _ _,now,heard =>
    if option.admitted && c.acceptRaPinfo then
      heard.set option.network ⟨now + option.validLifetime,now + option.preferredLifetime⟩
    else heard
  | _,_,heard => heard

def next (step : Step) (w : Hearing) : Hearing :=
  ⟨w.interface.next stableIid (configure c step),hear c step w.interface.now w.heard⟩

-- No deadline lies beyond the configured lifetime counted from the creation, nor
-- beyond what was last advertised.
structure Capped (heard : Store Ip6Network Heard) (t : Icmp6TempAddress) : Prop where
  valid : t.validUntil ≤ t.createdAt + c.tempValidLifetime
  preferred : t.preferredUntil ≤ t.createdAt + c.tempPreferredLifetime
  advertised : ∃ h,heard.get t.network = some h ∧ t.validUntil ≤ h.validEnds ∧ t.preferredUntil ≤ h.preferredEnds

def cutValid (option : PrefixInfo) : ℚ := min (option.validLifetime : ℚ) c.tempValidLifetime

def cutPreferred (option : PrefixInfo) (draw : Draw) : ℚ :=
  max 0 ((min option.preferredLifetime c.tempPreferredLifetime : ℚ) - draw.desync)

def mintedPreferred (draw : Draw) : ℚ := max 0 ((c.tempPreferredLifetime : ℚ) - draw.desync)

-- A refresh does not reach beyond the age the address may have, and a rotation
-- mints no address that outlasts the advertisement.
def Heeds : Step → Hearing → Prop
  | .prefixInformation _ option _ draw,w => (option.admitted && c.acceptRaPinfo) = true → option.validLifetime ≠ 0 →
      ∀ old,w.interface.tempAddresses.find? (·.network = option.network) = some old →
        w.interface.now + cutValid c option ≤ old.createdAt + c.tempValidLifetime ∧
        w.interface.now + cutPreferred c option draw ≤ old.createdAt + c.tempPreferredLifetime
  | .regen _ draws,w => ∀ network newest,
      Interface.newestOf (w.interface.tempAddresses.filter (·.network = network)) = some newest →
      newest.preferredUntil - c.regenAdvance ≤ w.interface.now → ∀ h,w.heard.get network = some h →
        w.interface.now + c.tempValidLifetime ≤ h.validEnds ∧
        w.interface.now + mintedPreferred c (draws network) ≤ h.preferredEnds
  | _,_ => True

structure Kept (w : Hearing) : Prop where
  whole : ∀ t ∈ w.interface.tempAddresses,t.network.prefixlen = 64
  capped : ∀ t ∈ w.interface.tempAddresses,Capped c w.heard t
  enabled : c.useTempaddr = false → w.interface.tempAddresses = []

variable {stableIid c}

theorem Capped.elsewhere {told : Store Ip6Network Heard} (capped : Capped c told t) (other : t.network ≠ network) :
    Capped c (told.set network h) t := by
  refine ⟨capped.valid,capped.preferred,?_⟩
  rw [Store.get_set_other _ _ other]
  exact capped.advertised

section Advertised
variable {i : Interface} {heard : Store Ip6Network Heard} {option : PrefixInfo} {routerAddress : Ip6Address} {draw : Draw}

theorem cutPreferred_le : cutPreferred c option draw ≤ option.preferredLifetime := by
  unfold cutPreferred
  refine max_le (Nat.cast_nonneg _) ?_
  have positive : (0 : ℚ) ≤ draw.desync := draw.desync.cast_nonneg
  linarith [min_le_left (option.preferredLifetime : ℚ) c.tempPreferredLifetime]

theorem cutPreferred_capped : cutPreferred c option draw ≤ c.tempPreferredLifetime := by
  unfold cutPreferred
  refine max_le (Nat.cast_nonneg _) ?_
  have positive : (0 : ℚ) ≤ draw.desync := draw.desync.cast_nonneg
  linarith [min_le_right (option.preferredLifetime : ℚ) c.tempPreferredLifetime]

theorem written_capped {t : Icmp6TempAddress} (named : t.network = option.network)
    (valid : t.validUntil = i.now + cutValid c option) (preferred : t.preferredUntil = i.now + cutPreferred c option draw)
    (young : i.now + cutValid c option ≤ t.createdAt + c.tempValidLifetime)
    (fresh : i.now + cutPreferred c option draw ≤ t.createdAt + c.tempPreferredLifetime) :
    Capped c (heard.set option.network ⟨i.now + option.validLifetime,i.now + option.preferredLifetime⟩) t := by
  refine ⟨valid ▸ young,preferred ▸ fresh,⟨i.now + option.validLifetime,i.now + option.preferredLifetime⟩,?_,?_,?_⟩
  · rw [named]
    exact Store.get_set_self _ _ _
  · rw [valid]
    exact add_le_add_right (min_le_left _ _) _
  · rw [preferred]
    exact add_le_add_right cutPreferred_le _

theorem updateTempAddress_disabled (disabled : c.useTempaddr = false) :
    i.updateTempAddress c network validLifetime preferredLifetime routerAddress draw = i.returns := by
  simp [Interface.updateTempAddress,disabled]

theorem updateTempAddress_entries (enabled : c.useTempaddr = true) :
    let after := (i.updateTempAddress c option.network option.validLifetime option.preferredLifetime routerAddress draw).interface
    ∀ t ∈ after.tempAddresses,(t ∈ i.tempAddresses ∧ t.network ≠ option.network) ∨
      (t.network = option.network ∧ option.validLifetime ≠ 0 ∧ t.validUntil = i.now + cutValid c option ∧
        t.preferredUntil = i.now + cutPreferred c option draw ∧
        ((∃ old,i.tempAddresses.find? (·.network = option.network) = some old ∧ t.createdAt = old.createdAt) ∨
          t.createdAt = i.now ∧ option.network.prefixlen = 64)) := by
  intro after t member
  have others : ∀ t ∈ i.tempAddresses.filter (·.network ≠ option.network),t ∈ i.tempAddresses ∧ t.network ≠ option.network := by
    intro t member
    simpa using member
  have unlisted : i.tempAddresses.find? (·.network = option.network) = none → ∀ t ∈ i.tempAddresses,t.network ≠ option.network := by
    intro none t member
    simpa using List.find?_eq_none.mp none t member
  unfold after Interface.updateTempAddress at member
  simp only [enabled,if_true] at member
  split at member
  · next zero =>
    unfold Interface.returns at member
    dsimp only at member
    split at member
    · exact .inl (others t member)
    · next absent =>
      exact .inl ⟨member,unlisted (by simpa using absent) t member⟩
  · next nonzero =>
    split at member
    · next old found =>
      rcases List.mem_append.mp member with member | member
      · exact .inl (others t member)
      · rw [List.mem_singleton.mp member]
        exact .inr ⟨rfl,nonzero,rfl,rfl,.inl ⟨old,found,rfl⟩⟩
    · next absent =>
      split at member
      · exact .inl ⟨member,unlisted absent t member⟩
      · next host minted =>
        rcases List.mem_append.mp member with member | member
        · exact .inl ⟨member,unlisted absent t member⟩
        · rw [List.mem_singleton.mp member]
          refine .inr ⟨rfl,nonzero,rfl,rfl,.inr ⟨rfl,?_⟩⟩
          unfold Interface.fromRfc8981Temp at minted
          split at minted
          · next whole => exact whole
          · exact absurd minted (by simp)

end Advertised

theorem prefixInformation_kept {w : Hearing} {option : PrefixInfo} (kept : Kept c w)
    (heeds : Heeds c (.prefixInformation sysctls option routerAddress draw) w) :
    Kept c (w.next stableIid c (.prefixInformation sysctls option routerAddress draw)) := by
  by_cases taken : (option.admitted && c.acceptRaPinfo) = true
  · have told : (w.next stableIid c (.prefixInformation sysctls option routerAddress draw)).heard =
        w.heard.set option.network ⟨w.interface.now + option.validLifetime,w.interface.now + option.preferredLifetime⟩ :=
      if_pos taken
    obtain ⟨temp,raising⟩ := Interface.updateSlaacAddress_temp stableIid w.interface c option.network
      option.validLifetime option.preferredLifetime routerAddress
    have clock := Interface.updateSlaacAddress_now stableIid w.interface c option.network option.validLifetime
      option.preferredLifetime routerAddress
    have after : (w.next stableIid c (.prefixInformation sysctls option routerAddress draw)).interface =
        ((w.interface.updateSlaacAddress stableIid c option.network option.validLifetime option.preferredLifetime
          routerAddress).andThen fun i => i.updateTempAddress c option.network option.validLifetime
            option.preferredLifetime routerAddress draw).interface := by
      simp only [next,configure,Interface.next,Interface.step,Interface.prefixInformation]
      rw [if_pos taken]
    generalize updated : w.interface.updateSlaacAddress stableIid c option.network option.validLifetime
      option.preferredLifetime routerAddress = o at temp raising clock after
    -- entries of other prefixes are as they were; the prefix's own are rewritten
    have entries : ∀ t ∈ (w.next stableIid c (.prefixInformation sysctls option routerAddress draw)).interface.tempAddresses,
        t.network.prefixlen = 64 ∧ Capped c
          (w.heard.set option.network ⟨w.interface.now + option.validLifetime,w.interface.now + option.preferredLifetime⟩) t := by
      intro t member
      rw [after] at member
      unfold Outcome.andThen at member
      split at member
      · cases enabled : c.useTempaddr with
        | false =>
          dsimp only at member
          rw [updateTempAddress_disabled enabled,Interface.returns,temp,kept.enabled enabled] at member
          exact absurd member List.not_mem_nil
        | true =>
          rcases updateTempAddress_entries enabled t member with ⟨old,other⟩ | ⟨named,nonzero,valid,preferred,created⟩
          · rw [temp] at old
            exact ⟨kept.whole t old,(kept.capped t old).elsewhere other⟩
          · rw [clock] at valid preferred
            rw [temp,clock] at created
            rcases created with ⟨old,found,created⟩ | ⟨created,whole⟩
            · obtain ⟨young,fresh⟩ := heeds taken nonzero old found
              have listed : old.network = option.network := by simpa using List.find?_some found
              refine ⟨?_,written_capped named valid preferred (created ▸ young) (created ▸ fresh)⟩
              rw [named,← listed]
              exact kept.whole old (List.mem_of_find?_eq_some found)
            · refine ⟨named ▸ whole,written_capped named valid preferred ?_ ?_⟩
              · rw [created]
                exact add_le_add_right (min_le_right _ _) _
              · rw [created]
                exact add_le_add_right cutPreferred_capped _
      · next raised =>
        rw [temp] at member
        have other : t.network ≠ option.network := by
          intro same
          exact raising (by simp [raised]) (same ▸ kept.whole t member)
        exact ⟨kept.whole t member,(kept.capped t member).elsewhere other⟩
    refine ⟨fun t member => (entries t member).1,fun t member => told ▸ (entries t member).2,?_⟩
    intro disabled
    rw [after]
    unfold Outcome.andThen
    split
    · dsimp only
      rw [updateTempAddress_disabled disabled,Interface.returns,temp]
      exact kept.enabled disabled
    · rw [temp]
      exact kept.enabled disabled
  · have same : w.next stableIid c (.prefixInformation sysctls option routerAddress draw) = w := by
      simp only [next,configure,Interface.next,Interface.step,Interface.prefixInformation,hear]
      rw [if_neg taken,if_neg taken]
      rfl
    rw [same]
    exact kept

theorem regenPrefix_entries (i : Interface) (network : Ip6Network) (draw : Draw) :
    (i.regenPrefix c network draw).interface.now = i.now ∧
      ((i.regenPrefix c network draw).interface.tempAddresses = i.tempAddresses ∨
        ∃ newest t,Interface.newestOf (i.tempAddresses.filter (·.network = network)) = some newest ∧
          newest.preferredUntil - c.regenAdvance ≤ i.now ∧ network.prefixlen = 64 ∧ t.network = network ∧
          t.createdAt = i.now ∧ t.validUntil = i.now + c.tempValidLifetime ∧
          t.preferredUntil = i.now + mintedPreferred c draw ∧
          (i.regenPrefix c network draw).interface.tempAddresses = i.tempAddresses ++ [t]) := by
  unfold Interface.regenPrefix
  split
  · exact ⟨rfl,.inl rfl⟩
  · next newest found =>
    split
    · exact ⟨rfl,.inl rfl⟩
    · next due =>
      cases minted : Interface.fromRfc8981Temp network draw with
      | error error => exact ⟨rfl,.inl rfl⟩
      | ok host =>
        have whole : network.prefixlen = 64 := by
          unfold Interface.fromRfc8981Temp at minted
          split at minted
          · next whole => exact whole
          · exact absurd minted (by simp)
        exact ⟨rfl,.inr ⟨newest,_,found,not_lt.mp due,whole,rfl,rfl,rfl,rfl,rfl⟩⟩

theorem foldl_choice {f : Option α → α → Option α} (choice : ∀ best t, f best t = some t ∨ f best t = best)
    (rest : List α) (best : Option α) (found : rest.foldl f best = some t) : t ∈ rest ∨ best = some t := by
  induction rest generalizing best with
  | nil => exact .inr found
  | cons head rest ih =>
    rcases ih _ found with later | here
    · exact .inl (List.mem_cons_of_mem _ later)
    · rcases choice best head with taken | kept
      · rw [taken] at here
        exact .inl (Option.some.inj here ▸ List.mem_cons_self)
      · rw [kept] at here
        exact .inr here

theorem newestOf_mem {entries : List Icmp6TempAddress} (newest : Interface.newestOf entries = some t) : t ∈ entries := by
  refine (foldl_choice ?_ entries none newest).resolve_right (by simp)
  intro best t
  cases best with
  | none => exact .inl rfl
  | some n =>
    dsimp only
    split
    · exact .inl rfl
    · exact .inr rfl

-- Enough is left of the prefix's advertisement for a fresh address.
def Room (c : Sysctls) (told : Store Ip6Network Heard) (draws : Ip6Network → Draw) (network : Ip6Network) (i : Interface) : Prop :=
  ∀ newest,Interface.newestOf (i.tempAddresses.filter (·.network = network)) = some newest →
    newest.preferredUntil - c.regenAdvance ≤ i.now → ∀ h,told.get network = some h →
      i.now + c.tempValidLifetime ≤ h.validEnds ∧ i.now + mintedPreferred c (draws network) ≤ h.preferredEnds

theorem regenEach_capped {told : Store Ip6Network Heard} {draws : Ip6Network → Draw} : ∀ networks (i : Interface),
    networks.Nodup → (∀ network ∈ networks,Room c told draws network i) →
    (∀ t ∈ i.tempAddresses,t.network.prefixlen = 64 ∧ Capped c told t) →
    ∀ t ∈ (Interface.regenEach c draws networks i).interface.tempAddresses,t.network.prefixlen = 64 ∧ Capped c told t
  | [],i,_,_,kept => kept
  | network :: rest,i,distinct,room,kept => by
    obtain ⟨clock,entries⟩ := regenPrefix_entries (c := c) i network (draws network)
    obtain ⟨fresh,distinct⟩ := List.nodup_cons.mp distinct
    have kept' : ∀ t ∈ (i.regenPrefix c network (draws network)).interface.tempAddresses,
        t.network.prefixlen = 64 ∧ Capped c told t := by
      rcases entries with same | ⟨newest,t,found,due,whole,named,created,valid,preferred,appended⟩
      · rw [same]
        exact kept
      · rw [appended]
        intro s member
        rcases List.mem_append.mp member with member | member
        · exact kept s member
        · rw [List.mem_singleton.mp member]
          obtain ⟨listed,sameNetwork⟩ := List.mem_filter.mp (newestOf_mem found)
          have sibling : newest.network = network := by simpa using sameNetwork
          obtain ⟨h,told',-⟩ := (kept newest listed).2.advertised
          rw [sibling] at told'
          obtain ⟨validRoom,preferredRoom⟩ := room network List.mem_cons_self newest found due h told'
          refine ⟨named ▸ whole,?_,?_,h,named ▸ told',?_,?_⟩
          · rw [valid,created]
          · rw [preferred,created]
            refine add_le_add_right (max_le (Nat.cast_nonneg _) ?_) _
            have positive : (0 : ℚ) ≤ (draws network).desync := (draws network).desync.cast_nonneg
            linarith
          · rw [valid]
            exact validRoom
          · rw [preferred]
            exact preferredRoom
    unfold Interface.regenEach Outcome.andThen
    split
    · refine regenEach_capped rest _ distinct ?_ kept'
      intro other member
      have differs : network ≠ other := fun same => fresh (same ▸ member)
      have siblings : (i.regenPrefix c network (draws network)).interface.tempAddresses.filter (·.network = other) =
          i.tempAddresses.filter (·.network = other) := by
        rcases entries with same | ⟨-,t,-,-,-,named,-,-,-,appended⟩
        · rw [same]
        · rw [appended,List.filter_append,List.filter_cons_of_neg (by simpa [named] using differs),List.filter_nil,
            List.append_nil]
      unfold Room
      rw [siblings,clock]
      exact room other (List.mem_cons_of_mem _ member)
    · exact kept'

theorem regen_kept {w : Hearing} {draws : Ip6Network → Draw} (kept : Kept c w) (heeds : Heeds c (.regen sysctls draws) w) :
    Kept c (w.next stableIid c (.regen sysctls draws)) := by
  cases enabled : c.useTempaddr with
  | false =>
    have same : w.next stableIid c (.regen sysctls draws) = w := by
      simp only [next,configure,Interface.next,Interface.step,Interface.regenTempAddresses,hear,enabled]
      rfl
    rw [same]
    exact kept
  | true =>
    have after : (w.next stableIid c (.regen sysctls draws)).interface =
        (Interface.regenEach c draws (w.interface.tempAddresses.map (·.network)).reverse.dedup.reverse w.interface).interface := by
      simp only [next,configure,Interface.next,Interface.step,Interface.regenTempAddresses,enabled,if_true]
    have entries := regenEach_capped (w.interface.tempAddresses.map (·.network)).reverse.dedup.reverse w.interface
      (List.nodup_reverse.mpr (List.nodup_dedup _)) (fun network _ => heeds network)
      (fun t member => ⟨kept.whole t member,kept.capped t member⟩)
    refine ⟨?_,?_,by simp [enabled]⟩
    · rw [after]
      exact fun t member => (entries t member).1
    · rw [after]
      exact fun t member => (entries t member).2

theorem sweep_kept {w : Hearing} (kept : Kept c w) : Kept c (w.next stableIid c .sweep) := by
  have fewer : ∀ t ∈ (w.next stableIid c .sweep).interface.tempAddresses,t ∈ w.interface.tempAddresses := by
    intro t member
    change t ∈ w.interface.sweeps.interface.tempAddresses at member
    rcases (Interface.sweeps_swept w.interface).temp with purged | ⟨-,same⟩
    · rw [purged] at member
      exact (List.mem_filter.mp member).1
    · exact same ▸ member
  refine ⟨fun t member => kept.whole t (fewer t member),fun t member => kept.capped t (fewer t member),?_⟩
  intro disabled
  refine List.eq_nil_iff_forall_not_mem.mpr fun t member => ?_
  have held := fewer t member
  rw [kept.enabled disabled] at held
  exact List.not_mem_nil held

theorem Kept.same {w w' : Hearing} (kept : Kept c w) (temp : w'.interface.tempAddresses = w.interface.tempAddresses)
    (told : w'.heard = w.heard) : Kept c w' := by
  refine ⟨?_,?_,?_⟩
  · rw [temp]
    exact kept.whole
  · rw [temp,told]
    exact kept.capped
  · rw [temp]
    exact kept.enabled

theorem next_kept {w : Hearing} (step : Step) (kept : Kept c w) (heeds : Heeds c step w) : Kept c (w.next stableIid c step) := by
  cases step with
  | prefixInformation sysctls option routerAddress draw => exact prefixInformation_kept kept heeds
  | regen sysctls draws => exact regen_kept kept heeds
  | sweep => exact sweep_kept kept
  | passed elapsed => exact kept.same rfl rfl
  | joinAllNodes => exact kept.same rfl rfl
  | add host => exact kept.same (Interface.assignIp6Host_tables _ host).tempAddresses rfl
  | addVetted host => exact kept.same rfl rfl
  | remove address => exact kept.same (Interface.removeAddress_tables _ address).tempAddresses rfl
  | replace oldAddress newIfAddr => exact kept.same (Interface.replaceAddress_tables _ oldAddress newIfAddr).tempAddresses rfl
  | work claim turn => exact kept.same (Interface.work_tables _ claim turn).tempAddresses rfl
  | advertisementDone admitted => exact kept.same rfl rfl
  | _ =>
    rcases Interface.next_tables _ w.interface with same | ⟨_,impossible⟩ | ⟨_,_,_,_,impossible⟩ | ⟨_,_,impossible⟩ | impossible
    · exact kept.same same.tempAddresses rfl
    all_goals cases impossible

def Start (w : Hearing) : Prop := w.interface.tempAddresses = [] ∧ w.heard = .empty

-- A sweep leaves no address older than the configured valid lifetime.
theorem temporary_addresses_capped (stableIid : Bool → Nat → Ip6Network → BitVec 64) (c : Sysctls)
    (reached : Runs.Reached Start (fun step w => w.next stableIid c step) (Heeds c) w) :
    (∀ t ∈ w.interface.tempAddresses,Capped c w.heard t) ∧
      (w.interface.sweeps.raised = none → ∀ t ∈ w.interface.sweeps.interface.tempAddresses,
        w.interface.now < t.createdAt + c.tempValidLifetime) := by
  have kept : Kept c w := by
    refine reached.invariant (Kept c) (fun s first => ?_) fun s step kept heeds => next_kept step kept heeds
    have none : ∀ t ∈ s.interface.tempAddresses,False := by
      rw [first.1]
      exact fun _ => List.not_mem_nil
    exact ⟨fun t member => (none t member).elim,fun t member => (none t member).elim,fun _ => first.1⟩
  refine ⟨kept.capped,fun returned t member => ?_⟩
  have purged := (Interface.sweeps_swept w.interface).temp.resolve_right fun raised => raised.1 returned
  rw [purged] at member
  obtain ⟨held,lasting⟩ := List.mem_filter.mp member
  exact lt_of_lt_of_le (by simpa using lasting) (kept.capped t held).valid

def privacy : Sysctls := { useTempaddr := true }

def silent : Hearing := ⟨{},.empty⟩

def neighbouring : Ip6Network := ⟨0x20010db8000000010000000000000000,64⟩

-- A router offers a prefix; the identifier is for the address minted.
def offer (network : Ip6Network) (validLifetime preferredLifetime : Nat) (iid : BitVec 64) : Step :=
  .prefixInformation {} ⟨true,network,validLifetime,preferredLifetime⟩ 0xfe800000000000000000000000000001 ⟨some iid,(60 : ℕ)⟩

-- The first prefix is refreshed and expires, the second is rotated a day later.
def rotated : List Step :=
  [offer Interface.documentation 3600 1800 5,offer neighbouring 2592000 604800 6,.passed (600 : ℕ),
    offer Interface.documentation 7200 3600 5,.passed (85735 : ℕ),.sweep,.regen privacy fun _ => ⟨some 7,(60 : ℕ)⟩]

def hearing (steps : List Step) : Hearing := Runs.run (fun step w => w.next Interface.oneIid privacy step) silent steps

theorem rotated_heeds : Runs.Met (fun step w => w.next Interface.oneIid privacy step) (Heeds privacy) rotated silent := by
  have expired : (hearing (rotated.take 6)).interface.tempAddresses =
      [⟨(hostOf neighbouring 6).address,neighbouring,86340,604800,0,0xfe800000000000000000000000000001⟩] := by
    decide +kernel
  have heard : ((hearing (rotated.take 6)).heard.get neighbouring).map (fun h => (h.validEnds,h.preferredEnds)) =
      some (2592000,604800) := by decide +kernel
  refine ⟨?_,?_,trivial,?_,trivial,trivial,?_,trivial⟩
  · intro _ _ old found
    cases found
  · intro _ _ old found
    have absent : (hearing (rotated.take 1)).interface.tempAddresses.find? (·.network = neighbouring) = none := by
      decide +kernel
    cases absent.symm.trans found
  · intro _ _ old found
    have present : (hearing (rotated.take 3)).interface.tempAddresses.find? (·.network = Interface.documentation) =
        some ⟨(hostOf Interface.documentation 5).address,Interface.documentation,1740,3600,0,
          0xfe800000000000000000000000000001⟩ := by decide +kernel
    cases Option.some.inj (present.symm.trans found)
    exact ⟨by decide +kernel,by decide +kernel⟩
  · intro network newest found due h told
    have found : Interface.newestOf ((hearing (rotated.take 6)).interface.tempAddresses.filter (·.network = network)) =
        some newest := found
    rw [expired] at found
    by_cases same : network = neighbouring
    · subst same
      have told : (hearing (rotated.take 6)).heard.get neighbouring = some h := told
      rw [told] at heard
      obtain ⟨valid,preferred⟩ := Prod.mk.inj (Option.some.inj heard)
      rw [valid,preferred]
      exact ⟨by decide +kernel,by decide +kernel⟩
    · have other : neighbouring ≠ network := fun equal => same equal.symm
      simp [Interface.newestOf,other] at found

theorem temporary_addresses_capped_offered :
    (hearing rotated).interface.tempAddresses.map (fun t => (t.createdAt,t.validUntil,t.preferredUntil)) =
        [(0,604800,86340),(86335,691135,172675)] ∧
      ∀ t ∈ (hearing rotated).interface.tempAddresses,t.validUntil ≤ t.createdAt + 604800 := by
  have first : Runs.Reached Start (fun step w => w.next Interface.oneIid privacy step) (Heeds privacy) silent :=
    .start _ ⟨rfl,rfl⟩
  have reached := first.run rotated rotated_heeds
  refine ⟨by decide +kernel,fun t member => ?_⟩
  exact ((temporary_addresses_capped Interface.oneIid privacy reached).1 t member).valid
-- The same offer again an hour later counts the lifetimes from then on.
theorem refresh_outlasts_cap :
    ¬∀ w,Runs.Reached Start (fun step w => w.next Interface.oneIid privacy step) (fun _ _ => True) w →
      (∀ t ∈ w.interface.tempAddresses,Capped privacy w.heard t) ∧
        (w.interface.sweeps.raised = none → ∀ t ∈ w.interface.sweeps.interface.tempAddresses,
          w.interface.now < t.createdAt + privacy.tempValidLifetime) := by
  intro capped
  have first : Runs.Reached Start (fun step w => w.next Interface.oneIid privacy step) (fun _ _ => True) silent :=
    .start _ ⟨rfl,rfl⟩
  have ended := (capped _ (first.run [offer Interface.documentation 2592000 604800 5,.passed 3600,offer Interface.documentation 2592000 604800 5] (Runs.met_true _))).1
  have entry : (⟨(hostOf Interface.documentation 5).address,Interface.documentation,89940,608400,0,
      0xfe800000000000000000000000000001⟩ : Icmp6TempAddress) ∈
      (Runs.run (fun step w => w.next Interface.oneIid privacy step) silent
        [offer Interface.documentation 2592000 604800 5,.passed 3600,offer Interface.documentation 2592000 604800 5]).interface.tempAddresses := by decide +kernel
  exact absurd (ended _ entry).valid (by decide +kernel)

end Hearing
end PmdPytcp.Icmp6
