import PmdPytcp.Lib.Runs
import PmdPytcp.Plpmtud

namespace PmdPytcp.Plpmtud

namespace PmtuSearch

variable {e t : PmtuSearch} {now : Nat} {size mtu : Int}

def disable (e : PmtuSearch) : PmtuSearch :=
  {e with state := .disabled,candidateMtu := none,probeTimerExpiry := none,raiseTimerExpiry := none}

inductive Call where
  | nextProbeSize
  | onProbeAck (size : Int)
  | onProbeLoss
  | onClassicalPmtu (mtu : Int)
  | confirmCurrent (size : Int)
  | onBlackHoleSuspected
  | limitMax (mtu : Int)
  | disable

def next (input : Nat × Call) (e : PmtuSearch) : PmtuSearch :=
  match input with
  | (now,.nextProbeSize) => (e.nextProbeSize now).2
  | (now,.onProbeAck size) => e.onProbeAck size now
  | (now,.onProbeLoss) => e.onProbeLoss now
  | (now,.onClassicalPmtu mtu) => e.onClassicalPmtu mtu now
  | (now,.confirmCurrent size) => e.confirmCurrent size now
  | (now,.onBlackHoleSuspected) => e.onBlackHoleSuspected now
  | (_,.limitMax mtu) => e.limitMax mtu
  | (_,.disable) => e.disable

def proposed (input : Nat × Call) (e : PmtuSearch) : Option Int :=
  match input with
  | (now,.nextProbeSize) => (e.nextProbeSize now).1
  | _ => none

def raiseDue (e : PmtuSearch) (now : Nat) : Bool := e.raiseTimerExpiry.any fun expiry => decide (expiry ≤ now)

theorem raise_waits : (e.raiseTimerExpiry.all fun expiry => decide (now < expiry)) = !e.raiseDue now := by
  unfold raiseDue
  cases e.raiseTimerExpiry with
  | none => rfl
  | some expiry =>
    show decide (now < expiry) = !decide (expiry ≤ now)
    rw [← decide_not,decide_eq_decide]
    omega

-- Sizes that an engine may hand out or run at do not exceed its maximum.
structure Bounded (e : PmtuSearch) : Prop where
  current : e.currentMtu ≤ e.maxMtu
  candidate : ∀ size ∈ e.candidateMtu, size ≤ e.maxMtu
  high : e.searchHigh ≤ e.maxMtu

-- The midpoint, aligned down but never down to the floor.
def rung (low high : Int) : Int :=
  if (low + high) / 2 / 8 * 8 ≤ low then low + 8 else (low + high) / 2 / 8 * 8

theorem rung_inside {low high : Int} (wide : 8 < high - low) : low < rung low high ∧ rung low high < high := by
  unfold rung
  split <;> omega

theorem nextCandidate_eq : e.nextCandidate =
    if e.searchHigh - e.ackSize ≤ 8 then none else some (rung e.ackSize e.searchHigh) := by
  show (if e.searchHigh - e.ackSize ≤ 8 then none
    else if e.searchHigh ≤ rung e.ackSize e.searchHigh then none else some (rung e.ackSize e.searchHigh)) = _
  split
  · rfl
  · rename_i wide
    have inside := rung_inside (not_le.mp wide)
    rw [if_neg (not_le.mpr inside.2)]

theorem nextCandidate_inside (found : e.nextCandidate = some size) : e.ackSize < size ∧ size < e.searchHigh := by
  rw [nextCandidate_eq] at found
  split at found
  · cases found
  · rename_i wide
    cases found
    exact rung_inside (not_le.mp wide)

theorem resumeSearch_bounded (current : e.currentMtu ≤ e.maxMtu) (high : e.searchHigh ≤ e.maxMtu) :
    (e.resumeSearch now).Bounded := by
  unfold resumeSearch
  cases found : e.nextCandidate with
  | none => exact ⟨current,nofun,high⟩
  | some size =>
    have inside := nextCandidate_inside found
    refine ⟨current,?_,high⟩
    intro other same
    cases same
    show size ≤ e.maxMtu
    omega

-- Whether an acknowledgement raises the working size at once.
def commits (e : PmtuSearch) (size : Int) : Bool :=
  !(e.probing && decide (e.state = .searching)) ||
    decide (validationAcks ≤ if size = e.validationSize then e.validationAcksSeen + 1 else 1)

-- What keeps a call from taking the engine past its maximum.
def Fits (input : Nat × Call) (e : PmtuSearch) : Prop :=
  match input with
  | (now,.nextProbeSize) => e.state = .error → e.raiseDue now = true → e.baseMtu ≤ e.maxMtu
  | (_,.onProbeAck size) => e.state ≠ .disabled → e.commits size = true → size ≤ e.maxMtu
  | (_,.onProbeLoss) => e.state = .base ∨ e.state = .searching → maxProbes ≤ e.probeCount + 1 → e.fallback ≤ e.maxMtu
  | (_,.onClassicalPmtu mtu) => e.state = .error → mtu ≤ e.maxMtu
  | (_,.limitMax mtu) => ∀ size ∈ e.candidateMtu, size ≤ max mtu e.minMtu
  | (_,.confirmCurrent _) | (_,.onBlackHoleSuspected) | (_,.disable) => True

instance (input : Nat × Call) (e : PmtuSearch) : Decidable (Fits input e) :=
  match input with
  | (now,.nextProbeSize) => inferInstanceAs (Decidable (e.state = .error → e.raiseDue now = true → _ ≤ _))
  | (_,.onProbeAck size) => inferInstanceAs (Decidable (e.state ≠ .disabled → e.commits size = true → _ ≤ _))
  | (_,.onProbeLoss) => inferInstanceAs (Decidable (_ ∨ _ → _ ≤ _ → e.fallback ≤ e.maxMtu))
  | (_,.onClassicalPmtu mtu) => inferInstanceAs (Decidable (e.state = .error → mtu ≤ e.maxMtu))
  | (_,.limitMax mtu) => inferInstanceAs (Decidable (∀ size ∈ e.candidateMtu, size ≤ max mtu e.minMtu))
  | (_,.confirmCurrent _) | (_,.onBlackHoleSuspected) | (_,.disable) => .isTrue trivial

theorem nextProbeSize_bounded (bounded : e.Bounded) (fits : Fits (now,.nextProbeSize) e) :
    (e.nextProbeSize now).2.Bounded ∧ ∀ size ∈ (e.nextProbeSize now).1, size ≤ e.maxMtu := by
  unfold nextProbeSize
  split
  · exact ⟨bounded,nofun⟩
  · rename_i here
    rw [raise_waits]
    split
    · exact ⟨bounded,nofun⟩
    · rename_i due
      have base : e.baseMtu ≤ e.maxMtu := fits here (by simpa using due)
      refine ⟨⟨bounded.current,?_,bounded.high⟩,?_⟩
      · intro size same
        cases same
        exact base
      · intro size same
        cases same
        exact base
  · split
    · exact ⟨bounded,nofun⟩
    · dsimp only
      cases found : ({e with
        searchHigh := e.maxMtu,raiseTimerExpiry := none,state := .searching} : PmtuSearch).nextCandidate with
      | none => exact ⟨⟨bounded.current,nofun,le_refl _⟩,nofun⟩
      | some size =>
        have inside : size < e.maxMtu := (nextCandidate_inside found).2
        refine ⟨⟨bounded.current,?_,le_refl _⟩,?_⟩
        · intro other same
          cases same
          exact le_of_lt inside
        · intro other same
          cases same
          exact le_of_lt inside
  all_goals
    split
    · rename_i size _ candidate _
      exact ⟨⟨bounded.current,fun other same => bounded.candidate other (candidate ▸ same),bounded.high⟩,
        fun other same => bounded.candidate other (candidate ▸ same)⟩
    · exact ⟨bounded,nofun⟩

theorem commitProbe_bounded (bounded : e.Bounded) (fits : size ≤ e.maxMtu) : (e.commitProbe size now).Bounded := by
  have current : max e.currentMtu size ≤ e.maxMtu := max_le bounded.current fits
  unfold commitProbe
  dsimp only
  split
  · exact resumeSearch_bounded current bounded.high
  · exact resumeSearch_bounded current bounded.high
  · exact resumeSearch_bounded current bounded.high
  · exact ⟨current,bounded.candidate,bounded.high⟩
  · exact ⟨current,bounded.candidate,bounded.high⟩

theorem onProbeAck_bounded (bounded : e.Bounded) (fits : Fits (now,.onProbeAck size) e) :
    (e.onProbeAck size now).Bounded := by
  have fits : e.state ≠ .disabled → e.commits size = true → size ≤ e.maxMtu := fits
  unfold onProbeAck
  split
  · exact bounded
  · rename_i on
    dsimp only
    split
    · rename_i searching
      generalize seen : (if size = e.validationSize then e.validationAcksSeen + 1 else 1) = count
      split
      · exact ⟨bounded.current,bounded.candidate,bounded.high⟩
      · rename_i enough
        refine commitProbe_bounded ⟨bounded.current,bounded.candidate,bounded.high⟩ (fits on ?_)
        unfold commits
        rw [seen,decide_eq_true (not_lt.mp enough),Bool.or_true]
    · rename_i elsewhere
      refine commitProbe_bounded ⟨bounded.current,bounded.candidate,bounded.high⟩ (fits on ?_)
      have elsewhere : ¬(e.probing = true ∧ e.state = .searching) := elsewhere
      unfold commits
      simp only [Bool.or_eq_true,Bool.not_eq_true',Bool.and_eq_false_iff]
      left
      by_cases probing : e.probing = true
      · right
        exact decide_eq_false fun here => elsewhere ⟨probing,here⟩
      · left
        simpa using probing

theorem onProbeLoss_bounded (bounded : e.Bounded) (fits : Fits (now,.onProbeLoss) e) : (e.onProbeLoss now).Bounded := by
  unfold onProbeLoss
  split
  · exact bounded
  · rename_i running
    simp only [not_or] at running
    dsimp only
    split
    · rename_i third
      have state : e.state = .base ∨ e.state = .searching := by
        cases here : e.state with
        | base => exact .inl rfl
        | searching => exact .inr rfl
        | disabled => exact absurd here running.1
        | searchComplete => exact absurd here running.2.1
        | error => exact absurd here running.2.2
      exact ⟨fits state third,nofun,bounded.high⟩
    · split
      · generalize lowered : (e.candidateMtu.map (· - 1)).getD e.searchHigh = high
        have below : high ≤ e.maxMtu := by
          rw [← lowered]
          cases candidate : e.candidateMtu with
          | none => exact bounded.high
          | some size =>
            have inside := bounded.candidate size candidate
            show size - 1 ≤ _
            omega
        split
        · exact ⟨bounded.current,nofun,below⟩
        · rename_i size found
          have inside : size < high := (nextCandidate_inside found).2
          refine ⟨bounded.current,?_,below⟩
          intro other same
          cases same
          show size ≤ e.maxMtu
          omega
      · exact ⟨bounded.current,bounded.candidate,bounded.high⟩

theorem onClassicalPmtu_bounded (bounded : e.Bounded) (fits : Fits (now,.onClassicalPmtu mtu) e) :
    (e.onClassicalPmtu mtu now).Bounded := by
  have floor := e.maxFloor
  unfold onClassicalPmtu
  dsimp only
  split
  · exact bounded
  · rename_i here
    have hint : mtu ≤ e.maxMtu := fits here
    have effective : max e.minMtu mtu ≤ e.maxMtu := max_le floor hint
    exact resumeSearch_bounded effective (max_le effective floor)
  all_goals exact ⟨le_trans (min_le_left _ _) bounded.current,bounded.candidate,bounded.high⟩

theorem confirmCurrent_bounded (bounded : e.Bounded) : (e.confirmCurrent size now).Bounded := by
  unfold confirmCurrent
  split
  · exact bounded
  · dsimp only
    generalize (if e.ackSize < size ∧ size ≤ e.currentMtu then size else e.ackSize) = low
    split
    · exact resumeSearch_bounded bounded.current bounded.high
    · exact ⟨bounded.current,bounded.candidate,bounded.high⟩

theorem onBlackHoleSuspected_bounded (bounded : e.Bounded) : (e.onBlackHoleSuspected now).Bounded := by
  unfold onBlackHoleSuspected
  split
  · exact bounded
  · split
    · exact bounded
    · rename_i raised
      have current := bounded.current
      have high := bounded.high
      refine resumeSearch_bounded ?_ ?_
      · show e.seedMtu ≤ e.maxMtu
        omega
      · show min e.searchHigh (e.currentMtu - 1) ≤ e.maxMtu
        omega

theorem limitMax_bounded (bounded : e.Bounded) (fits : ∀ size ∈ e.candidateMtu, size ≤ max mtu e.minMtu) :
    (e.limitMax mtu).Bounded := by
  refine ⟨min_le_right _ _,?_,min_le_right _ _⟩
  intro size pending
  exact le_min (bounded.candidate size pending) (fits size pending)

theorem next_bounded {input : Nat × Call} (bounded : e.Bounded) (fits : Fits input e) : (e.next input).Bounded := by
  obtain ⟨now,call⟩ := input
  cases call with
  | nextProbeSize => exact (nextProbeSize_bounded bounded fits).1
  | onProbeAck size => exact onProbeAck_bounded bounded fits
  | onProbeLoss => exact onProbeLoss_bounded bounded fits
  | onClassicalPmtu mtu => exact onClassicalPmtu_bounded bounded fits
  | confirmCurrent size => exact confirmCurrent_bounded bounded
  | onBlackHoleSuspected => exact onBlackHoleSuspected_bounded bounded
  | limitMax mtu => exact limitMax_bounded bounded fits
  | disable => exact ⟨bounded.current,nofun,bounded.high⟩

-- An engine for an interface of at least the family minimum, and one whose base
-- probe fits the interface.
def Started (e : PmtuSearch) : Prop :=
  ∃ version interfaceMtu probing probeTimerMs plpmtuSeed, minPlpmtu version ≤ interfaceMtu ∧
    e = init version interfaceMtu probing probeTimerMs plpmtuSeed

def StartedRoomy (e : PmtuSearch) : Prop := Started e ∧ e.baseMtu ≤ e.maxMtu

theorem started_bounded (started : StartedRoomy e) : e.Bounded := by
  obtain ⟨⟨version,interfaceMtu,probing,probeTimerMs,plpmtuSeed,_,rfl⟩,roomy⟩ := started
  have roomy : basePlpmtu version ≤ max interfaceMtu (minPlpmtu version) := roomy
  refine ⟨?_,?_,le_refl _⟩
  · show (if probing then seedFrom version interfaceMtu probing plpmtuSeed else _) ≤ _
    split
    · unfold seedFrom
      split
      · exact min_le_right _ _
      · exact roomy
    · exact le_refl _
  · intro size same
    cases same
    exact roomy

theorem sizes_within_maximum (reached : Runs.Reached StartedRoomy next Fits e) :
    (e.minMtu ≤ e.currentMtu ∧ e.currentMtu ≤ e.maxMtu) ∧
      ∀ input, Fits input e → ∀ size ∈ e.proposed input, size ≤ e.maxMtu := by
  have bounded : e.Bounded := Runs.Reached.invariant Bounded (fun _ started => started_bounded started)
    (fun _ _ before fits => next_bounded before fits) reached
  refine ⟨⟨e.currentFloor,bounded.current⟩,?_⟩
  rintro ⟨now,call⟩ fits size proposal
  cases call with
  | nextProbeSize => exact (nextProbeSize_bounded bounded fits).2 size proposal
  | _ => cases proposal

-- The peer's segment size comes in while the base probe is still to be sent.
def shortPeer : PmtuSearch := Runs.run next (init .ip4 1500 true 30_000 (some 1064)) [(0,.limitMax 1040)]

theorem proposal_past_maximum : Started (init .ip4 1500 true 30_000 (some 1064)) ∧ shortPeer.maxMtu = 1040 ∧
    shortPeer.proposed (0,.nextProbeSize) = some 1200 ∧
      (shortPeer.next (0,.nextProbeSize)).maxMtu < 1200 := by
  refine ⟨⟨.ip4,1500,true,30_000,some 1064,by decide,rfl⟩,?_,?_,?_⟩ <;> decide +kernel

-- The base probe is acknowledged, the next one lost, and the peer's segment size comes in.
def searched : List (Nat × Call) :=
  [(0,.nextProbeSize),(10,.onProbeAck 1200),(20,.nextProbeSize),(30,.onProbeLoss),(40,.limitMax 1400)]

theorem sizes_within_maximum_ethernet :
    (Runs.run next (init .ip4 1500 true 30_000 (some 1064)) searched).currentMtu = 1200 ∧
      ∃ size ∈ (Runs.run next (init .ip4 1500 true 30_000 (some 1064)) searched).proposed (50,.nextProbeSize), size ≤ 1400 := by
  have started : StartedRoomy (init .ip4 1500 true 30_000 (some 1064)) :=
    ⟨⟨.ip4,1500,true,30_000,some 1064,by decide,rfl⟩,by decide⟩
  have first : Runs.Reached StartedRoomy next Fits (init .ip4 1500 true 30_000 (some 1064)) := .start _ started
  have reached := first.run searched (by decide +kernel)
  have within := (sizes_within_maximum reached).2 (50,.nextProbeSize) (by decide +kernel) 1264 (by decide +kernel)
  exact ⟨by decide +kernel,1264,by decide +kernel,within.trans (by decide +kernel)⟩

end PmtuSearch

end PmdPytcp.Plpmtud
