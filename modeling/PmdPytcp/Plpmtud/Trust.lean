import PmdPytcp.Plpmtud.Progress

namespace PmdPytcp.Plpmtud

namespace PmtuSearch

variable {e t : PmtuSearch} {now : Nat} {size mtu : Int}

-- The acknowledgements of one size in a row, the largest size that had enough of
-- them since the last revocation, and whether the base size was confirmed.
structure Ledger where
  size : Int := 0
  count : Nat := 0
  validated : Option Int := none
  confirmed : Bool := false

def revokes (e : PmtuSearch) : Bool :=
  e.probing && decide (e.state ≠ .disabled) && decide (e.seedMtu < e.currentMtu)

def Ledger.note (e : PmtuSearch) (call : Call) (g : Ledger) : Ledger :=
  match call with
  | .onProbeAck size =>
    let count := if size = g.size then g.count + 1 else 1
    {size := size
     count := count
     validated := if validationAcks ≤ count then some (max size (g.validated.getD size)) else g.validated
     confirmed := g.confirmed || decide (e.state = .base ∧ size = e.baseMtu)}
  | .onProbeLoss => {g with count := 0}
  | .confirmCurrent size => {g with confirmed := g.confirmed || decide (e.state = .base ∧ e.baseMtu ≤ size)}
  | .onBlackHoleSuspected => if e.revokes then {g with count := 0,validated := none} else g
  | .nextProbeSize | .onClassicalPmtu _ | .limitMax _ | .disable => g

-- The larger of the seed, the base size if confirmed, and the largest validated size.
def trusted (e : PmtuSearch) (g : Ledger) : Int :=
  max e.seedMtu (max (if g.confirmed then e.baseMtu else e.seedMtu) (g.validated.getD e.seedMtu))

def observe (input : Nat × Call) (w : PmtuSearch × Ledger) : PmtuSearch × Ledger :=
  (w.1.next input,w.2.note w.1 input.2)

-- An acknowledgement that counts at once, and a hint that is taken as it is, must
-- not exceed what the path has vouched for.
def Vouched (input : Nat × Call) (w : PmtuSearch × Ledger) : Prop :=
  match input with
  | (_,.onProbeAck size) => w.1.state = .base ∨ w.1.state = .searchComplete ∨ w.1.state = .error →
      size ≤ w.1.trusted (w.2.note w.1 (.onProbeAck size))
  | (_,.onClassicalPmtu mtu) => w.1.state = .error → max w.1.minMtu mtu ≤ w.1.trusted w.2
  | _ => True

instance (input : Nat × Call) (w : PmtuSearch × Ledger) : Decidable (Vouched input w) :=
  match input with
  | (_,.onProbeAck size) => inferInstanceAs (Decidable (_ ∨ _ ∨ _ → size ≤ w.1.trusted (w.2.note w.1 (.onProbeAck size))))
  | (_,.onClassicalPmtu mtu) => inferInstanceAs (Decidable (_ → max w.1.minMtu mtu ≤ w.1.trusted w.2))
  | (_,.nextProbeSize) | (_,.onProbeLoss) | (_,.confirmCurrent _) | (_,.onBlackHoleSuspected) | (_,.limitMax _)
  | (_,.disable) => .isTrue trivial

-- The engine counts no more acknowledgements than there were.
structure Matched (e : PmtuSearch) (g : Ledger) : Prop where
  probing : e.probing = true
  streak : e.state = .searching → e.validationAcksSeen ≠ 0 → e.validationSize = g.size ∧ e.validationAcksSeen ≤ g.count
  searching : e.validationAcksSeen ≠ 0 → e.state = .searching ∨ e.state = .disabled

variable {g g' : Ledger}

theorem Matched.uncounted (matched : e.Matched g) (here : e.state = .base ∨ e.state = .searchComplete ∨ e.state = .error) :
    e.validationAcksSeen = 0 := by
  by_contra some
  rcases matched.searching some with other | other <;> rw [other] at here <;> simp at here

theorem Matched.fresh (probing : t.probing = true) (zero : t.validationAcksSeen = 0) : t.Matched g :=
  ⟨probing,fun _ some => absurd zero some,fun some => absurd zero some⟩

theorem Matched.same (matched : e.Matched g) (probing : t.probing = e.probing) (state : t.state = e.state)
    (acks : t.validationAcksSeen = e.validationAcksSeen) (size : t.validationSize = e.validationSize)
    (record : e.state = .searching → g'.size = g.size ∧ g'.count = g.count) : t.Matched g' := by
  refine ⟨probing.trans matched.probing,?_,?_⟩
  · rw [state,acks,size]
    intro here some
    rw [(record here).1,(record here).2]
    exact matched.streak here some
  · rw [state,acks]
    exact matched.searching

structure Kin (e t : PmtuSearch) : Prop where
  version : t.version = e.version
  probing : t.probing = e.probing
  seed : t.seedMtu = e.seedMtu

theorem Kin.trusted (kin : Kin e t) (g : Ledger) : t.trusted g = e.trusted g := by
  unfold PmtuSearch.trusted baseMtu
  rw [kin.version,kin.seed]

theorem resumeSearch_kin : Kin e (e.resumeSearch now) ∧ (e.resumeSearch now).currentMtu = e.currentMtu ∧
    (e.resumeSearch now).validationAcksSeen = e.validationAcksSeen := by
  unfold resumeSearch
  split <;> exact ⟨⟨rfl,rfl,rfl⟩,rfl,rfl⟩

theorem commitProbe_kin : Kin e (e.commitProbe size now) ∧ (e.commitProbe size now).currentMtu = max e.currentMtu size ∧
    (e.commitProbe size now).validationAcksSeen = e.validationAcksSeen := by
  unfold commitProbe
  dsimp only
  generalize (if e.ackSize < size then size else e.ackSize) = low
  split
  · obtain ⟨⟨version,probing,seed⟩,rest⟩ := @resumeSearch_kin {e with
      ackSize := low,currentMtu := max e.currentMtu size,probeTimerExpiry := none
      currentFloor := le_trans e.currentFloor (le_max_left _ _)} now
    exact ⟨⟨version,probing,seed⟩,rest⟩
  · obtain ⟨⟨version,probing,seed⟩,rest⟩ := @resumeSearch_kin {e with
      ackSize := low,currentMtu := max e.currentMtu size,probeTimerExpiry := none
      currentFloor := le_trans e.currentFloor (le_max_left _ _)} now
    exact ⟨⟨version,probing,seed⟩,rest⟩
  · obtain ⟨⟨version,probing,seed⟩,rest⟩ := @resumeSearch_kin {e with
      ackSize := low,currentMtu := max e.currentMtu size,probeTimerExpiry := none,raiseTimerExpiry := none
      currentFloor := le_trans e.currentFloor (le_max_left _ _)} now
    exact ⟨⟨version,probing,seed⟩,rest⟩
  · exact ⟨⟨rfl,rfl,rfl⟩,rfl,rfl⟩
  · exact ⟨⟨rfl,rfl,rfl⟩,rfl,rfl⟩

theorem seed_trusted (e : PmtuSearch) (g : Ledger) : e.seedMtu ≤ e.trusted g := le_max_left _ _

theorem trusted_mono {g g' : Ledger} (confirmed : g.confirmed = true → g'.confirmed = true)
    (validated : ∀ size ∈ g.validated, ∃ larger ∈ g'.validated, size ≤ larger) : e.trusted g ≤ e.trusted g' := by
  unfold trusted
  refine max_le (le_max_left _ _) (max_le ?_ ?_)
  · split
    · rename_i before
      rw [if_pos (confirmed before)]
      exact le_max_of_le_right (le_max_left _ _)
    · exact le_max_left _ _
  · cases before : g.validated with
    | none => exact le_max_left _ _
    | some size =>
      obtain ⟨larger,after,above⟩ := validated size before
      have after : g'.validated = some larger := after
      rw [after]
      exact le_max_of_le_right (le_max_of_le_right above)

theorem note_trusted {g : Ledger} {call : Call} (kept : call = .onBlackHoleSuspected → e.revokes = false) :
    e.trusted g ≤ e.trusted (g.note e call) := by
  cases call with
  | onProbeAck size =>
    refine trusted_mono ?_ ?_
    · intro before
      show (g.confirmed || _) = true
      rw [before]
      rfl
    · intro largest before
      have before : g.validated = some largest := before
      simp only [Ledger.note,before]
      generalize (if size = g.size then g.count + 1 else 1) = count
      split
      · exact ⟨_,rfl,le_max_right _ _⟩
      · exact ⟨largest,rfl,le_refl _⟩
  | confirmCurrent size =>
    refine trusted_mono ?_ fun largest before => ⟨largest,before,le_refl _⟩
    intro before
    show (g.confirmed || _) = true
    rw [before]
    rfl
  | onBlackHoleSuspected =>
    have same : g.note e .onBlackHoleSuspected = g := by
      simp only [Ledger.note]
      rw [if_neg (by simp [kept rfl])]
    rw [same]
  | nextProbeSize | onProbeLoss | onClassicalPmtu _ | limitMax _ | disable => exact le_refl _

theorem note_validated {g : Ledger} (enough : validationAcks ≤ if size = g.size then g.count + 1 else 1) :
    size ≤ e.trusted (g.note e (.onProbeAck size)) := by
  have validated : (g.note e (.onProbeAck size)).validated = some (max size (g.validated.getD size)) := by
    simp only [Ledger.note]
    exact if_pos enough
  unfold trusted
  rw [validated]
  exact le_max_of_le_right (le_max_of_le_right (le_max_left _ _))

theorem nextProbeSize_kin : Kin e (e.nextProbeSize now).2 ∧ (e.nextProbeSize now).2.currentMtu = e.currentMtu ∧
    (e.nextProbeSize now).2.validationAcksSeen = e.validationAcksSeen := by
  unfold nextProbeSize
  split
  · exact ⟨⟨rfl,rfl,rfl⟩,rfl,rfl⟩
  · split
    · exact ⟨⟨rfl,rfl,rfl⟩,rfl,rfl⟩
    · exact ⟨⟨rfl,rfl,rfl⟩,rfl,rfl⟩
  · split
    · exact ⟨⟨rfl,rfl,rfl⟩,rfl,rfl⟩
    · dsimp only
      split
      · exact ⟨⟨rfl,rfl,rfl⟩,rfl,rfl⟩
      · exact ⟨⟨rfl,rfl,rfl⟩,rfl,rfl⟩
  all_goals
    split
    · exact ⟨⟨rfl,rfl,rfl⟩,rfl,rfl⟩
    · exact ⟨⟨rfl,rfl,rfl⟩,rfl,rfl⟩

-- What a call does to the working size, beside what it does to the record.
structure Does (w : PmtuSearch × Ledger) (input : Nat × Call) : Prop where
  kin : Kin w.1 (observe input w).1
  matched : (observe input w).1.Matched (observe input w).2
  within : (observe input w).1.currentMtu ≤ w.1.trusted (observe input w).2 ↔ Vouched input w

theorem nextProbeSize_does (matched : e.Matched g) (within : e.currentMtu ≤ e.trusted g) : Does (e,g) (now,.nextProbeSize) := by
  obtain ⟨kin,current,acks⟩ := @nextProbeSize_kin e now
  refine ⟨kin,?_,iff_of_true (le_of_eq_of_le current within) trivial⟩
  show (e.nextProbeSize now).2.Matched g
  by_cases zero : e.validationAcksSeen = 0
  · exact .fresh (kin.probing.trans matched.probing) (acks.trans zero)
  · rcases matched.searching zero with here | here
    · rw [nextProbeSize_running (.inr here)]
      split
      · exact matched.same rfl rfl rfl rfl fun _ => ⟨rfl,rfl⟩
      · exact matched
    · have same : e.nextProbeSize now = (none,e) := by
        unfold nextProbeSize
        rw [here]
      rw [same]
      exact matched

theorem commit_within (value : t.currentMtu = e.currentMtu) (within : e.currentMtu ≤ e.trusted g') :
    (t.commitProbe size now).currentMtu ≤ e.trusted g' ↔ size ≤ e.trusted g' := by
  rw [(@commitProbe_kin t now size).2.1,value,max_le_iff]
  exact and_iff_right within

theorem commit_matched (kin : Kin e t) (probing : e.probing = true) (zero : t.validationAcksSeen = 0) :
    Kin e (t.commitProbe size now) ∧ (t.commitProbe size now).Matched g' := by
  obtain ⟨kin',_,acks⟩ := @commitProbe_kin t now size
  refine ⟨⟨kin'.version.trans kin.version,kin'.probing.trans kin.probing,kin'.seed.trans kin.seed⟩,?_⟩
  exact .fresh (kin'.probing.trans (kin.probing.trans probing)) (acks.trans zero)

theorem onProbeAck_does (matched : e.Matched g) (within : e.currentMtu ≤ e.trusted g) :
    Does (e,g) (now,.onProbeAck size) := by
  have within : e.currentMtu ≤ e.trusted (g.note e (.onProbeAck size)) := le_trans within (note_trusted nofun)
  suffices whole : Kin e (e.onProbeAck size now) ∧ (e.onProbeAck size now).Matched (g.note e (.onProbeAck size)) ∧
      ((e.onProbeAck size now).currentMtu ≤ e.trusted (g.note e (.onProbeAck size)) ↔
        (e.state = .base ∨ e.state = .searchComplete ∨ e.state = .error →
          size ≤ e.trusted (g.note e (.onProbeAck size)))) from ⟨whole.1,whole.2.1,whole.2.2⟩
  unfold onProbeAck
  split
  · rename_i here
    refine ⟨⟨rfl,rfl,rfl⟩,⟨matched.probing,?_,fun _ => .inr here⟩,iff_of_true within ?_⟩
    · intro other
      rw [here] at other
      cases other
    · rw [here]
      simp
  · dsimp only
    split
    · rename_i here
      have here : e.state = .searching := here.2
      have elsewhere : ¬(e.state = .base ∨ e.state = .searchComplete ∨ e.state = .error) := by
        rw [here]
        decide
      have counted : (if size = e.validationSize then e.validationAcksSeen + 1 else 1) ≤
          if size = g.size then g.count + 1 else 1 := by
        by_cases zero : e.validationAcksSeen = 0
        · rw [zero]
          split <;> split <;> omega
        · obtain ⟨same,few⟩ := matched.streak here zero
          rw [same]
          split <;> omega
      generalize seen : (if size = e.validationSize then e.validationAcksSeen + 1 else 1) = count at counted
      split
      · exact ⟨⟨rfl,rfl,rfl⟩,⟨matched.probing,fun _ _ => ⟨rfl,counted⟩,fun _ => .inl here⟩,
          iff_of_true within fun other => absurd other elsewhere⟩
      · rename_i enough
        have validated : size ≤ e.trusted (g.note e (.onProbeAck size)) :=
          note_validated (le_trans (not_lt.mp enough) counted)
        have committed := @commit_matched e {e with probeCount := 0,validationSize := 0,validationAcksSeen := 0} now size
          (g.note e (.onProbeAck size)) ⟨rfl,rfl,rfl⟩ matched.probing rfl
        refine ⟨committed.1,committed.2,iff_of_true ?_ fun _ => validated⟩
        exact Iff.mpr (commit_within rfl within) validated
    · rename_i on elsewhere
      have place : e.state = .base ∨ e.state = .searchComplete ∨ e.state = .error := by
        cases here : e.state with
        | base => simp
        | searchComplete => simp
        | error => simp
        | disabled => exact absurd here on
        | searching => exact absurd ⟨matched.probing,here⟩ elsewhere
      have committed := @commit_matched e {e with probeCount := 0} now size
        (g.note e (.onProbeAck size)) ⟨rfl,rfl,rfl⟩ matched.probing (matched.uncounted place)
      refine ⟨committed.1,committed.2,?_⟩
      refine Iff.trans (commit_within rfl within) ?_
      exact ⟨fun vouched _ => vouched,fun vouched => vouched place⟩

theorem onProbeLoss_does (matched : e.Matched g) (within : e.currentMtu ≤ e.trusted g) : Does (e,g) (now,.onProbeLoss) := by
  suffices whole : Kin e (e.onProbeLoss now) ∧ (e.onProbeLoss now).Matched {g with count := 0} ∧
      (e.onProbeLoss now).currentMtu ≤ e.trusted {g with count := 0} from
    ⟨whole.1,whole.2.1,iff_of_true whole.2.2 trivial⟩
  unfold onProbeLoss
  split
  · rename_i idle
    refine ⟨⟨rfl,rfl,rfl⟩,matched.same rfl rfl rfl rfl ?_,within⟩
    intro here
    rw [here] at idle
    simp at idle
  · dsimp only
    split
    · have fallback : e.fallback = e.seedMtu := by
        unfold fallback
        rw [if_pos matched.probing]
      refine ⟨⟨rfl,rfl,rfl⟩,.fresh matched.probing rfl,?_⟩
      show e.fallback ≤ _
      rw [fallback]
      exact seed_trusted e _
    · split
      · generalize (e.candidateMtu.map (· - 1)).getD e.searchHigh = high
        split
        · exact ⟨⟨rfl,rfl,rfl⟩,.fresh matched.probing rfl,within⟩
        · exact ⟨⟨rfl,rfl,rfl⟩,.fresh matched.probing rfl,within⟩
      · exact ⟨⟨rfl,rfl,rfl⟩,.fresh matched.probing rfl,within⟩

theorem resume_matched (kin : Kin e t) (probing : e.probing = true) (zero : t.validationAcksSeen = 0) :
    Kin e (t.resumeSearch now) ∧ (t.resumeSearch now).Matched g' ∧ (t.resumeSearch now).currentMtu = t.currentMtu := by
  obtain ⟨kin',current,acks⟩ := @resumeSearch_kin t now
  refine ⟨⟨kin'.version.trans kin.version,kin'.probing.trans kin.probing,kin'.seed.trans kin.seed⟩,?_,current⟩
  exact .fresh (kin'.probing.trans (kin.probing.trans probing)) (acks.trans zero)

theorem onClassicalPmtu_does (matched : e.Matched g) (within : e.currentMtu ≤ e.trusted g) :
    Does (e,g) (now,.onClassicalPmtu mtu) := by
  suffices whole : Kin e (e.onClassicalPmtu mtu now) ∧ (e.onClassicalPmtu mtu now).Matched g ∧
      ((e.onClassicalPmtu mtu now).currentMtu ≤ e.trusted g ↔ (e.state = .error → max e.minMtu mtu ≤ e.trusted g)) from
    ⟨whole.1,whole.2.1,whole.2.2⟩
  unfold onClassicalPmtu
  dsimp only
  split
  · rename_i here
    refine ⟨⟨rfl,rfl,rfl⟩,matched,iff_of_true within ?_⟩
    rw [here]
    exact nofun
  · rename_i here
    obtain ⟨kin,kept,current⟩ := @resume_matched e {e with
      searchHigh := max (max e.minMtu mtu) e.minMtu,currentMtu := max e.minMtu mtu,ackSize := e.minMtu,probeCount := 0
      probeTimerExpiry := none,raiseTimerExpiry := none,currentFloor := le_max_left _ _} now g ⟨rfl,rfl,rfl⟩
      matched.probing (matched.uncounted (.inr (.inr here)))
    refine ⟨kin,kept,?_⟩
    rw [current]
    exact ⟨fun vouched _ => vouched,fun vouched => vouched here⟩
  all_goals
    rename_i here
    refine ⟨⟨rfl,rfl,rfl⟩,matched.same rfl rfl rfl rfl fun _ => ⟨rfl,rfl⟩,iff_of_true ?_ ?_⟩
    · exact le_trans (min_le_left _ _) within
    · rw [here]
      exact nofun

theorem confirmCurrent_does (matched : e.Matched g) (within : e.currentMtu ≤ e.trusted g) :
    Does (e,g) (now,.confirmCurrent size) := by
  have within : e.currentMtu ≤ e.trusted (g.note e (.confirmCurrent size)) := le_trans within (note_trusted nofun)
  suffices whole : Kin e (e.confirmCurrent size now) ∧
      (e.confirmCurrent size now).Matched (g.note e (.confirmCurrent size)) ∧
      (e.confirmCurrent size now).currentMtu ≤ e.trusted (g.note e (.confirmCurrent size)) from
    ⟨whole.1,whole.2.1,iff_of_true whole.2.2 trivial⟩
  unfold confirmCurrent
  split
  · exact ⟨⟨rfl,rfl,rfl⟩,matched.same rfl rfl rfl rfl fun _ => ⟨rfl,rfl⟩,within⟩
  · dsimp only
    generalize (if e.ackSize < size ∧ size ≤ e.currentMtu then size else e.ackSize) = low
    split
    · rename_i here
      have here : e.state = .base := here.1
      obtain ⟨kin,kept,current⟩ := @resume_matched e {e with ackSize := low,probeCount := 0,probeTimerExpiry := none} now
        (g.note e (.confirmCurrent size)) ⟨rfl,rfl,rfl⟩ matched.probing (matched.uncounted (.inl here))
      exact ⟨kin,kept,le_of_eq_of_le current within⟩
    · exact ⟨⟨rfl,rfl,rfl⟩,matched.same rfl rfl rfl rfl fun _ => ⟨rfl,rfl⟩,within⟩

theorem onBlackHoleSuspected_does (matched : e.Matched g) (within : e.currentMtu ≤ e.trusted g) :
    Does (e,g) (now,.onBlackHoleSuspected) := by
  suffices whole : Kin e (e.onBlackHoleSuspected now) ∧
      (e.onBlackHoleSuspected now).Matched (g.note e .onBlackHoleSuspected) ∧
      (e.onBlackHoleSuspected now).currentMtu ≤ e.trusted (g.note e .onBlackHoleSuspected) from
    ⟨whole.1,whole.2.1,iff_of_true whole.2.2 trivial⟩
  have note : g.note e .onBlackHoleSuspected = if e.revokes then {g with count := 0,validated := none} else g := rfl
  have revoked : e.revokes = true ↔ ¬(!e.probing ∨ e.state = .disabled) ∧ ¬e.currentMtu ≤ e.seedMtu := by
    unfold revokes
    simp [and_assoc]
  rw [note]
  unfold onBlackHoleSuspected
  split
  · rename_i idle
    rw [if_neg fun told => (revoked.mp told).1 idle]
    exact ⟨⟨rfl,rfl,rfl⟩,matched,within⟩
  · rename_i on
    split
    · rename_i low
      rw [if_neg fun told => (revoked.mp told).2 low]
      exact ⟨⟨rfl,rfl,rfl⟩,matched,within⟩
    · rename_i raised
      rw [if_pos (revoked.mpr ⟨on,raised⟩)]
      obtain ⟨kin,kept,current⟩ := @resume_matched e {e with
        currentMtu := e.seedMtu,ackSize := min e.ackSize e.seedMtu,searchHigh := min e.searchHigh (e.currentMtu - 1)
        probeCount := 0,probeTimerExpiry := none,validationSize := 0,validationAcksSeen := 0
        currentFloor := e.seedFloor} now {g with count := 0,validated := none} ⟨rfl,rfl,rfl⟩ matched.probing rfl
      exact ⟨kin,kept,le_of_eq_of_le current (seed_trusted e _)⟩

theorem call_does {w : PmtuSearch × Ledger} (input : Nat × Call) (matched : w.1.Matched w.2)
    (within : w.1.currentMtu ≤ w.1.trusted w.2) : Does w input := by
  obtain ⟨now,call⟩ := input
  cases call with
  | nextProbeSize => exact nextProbeSize_does matched within
  | onProbeAck size => exact onProbeAck_does matched within
  | onProbeLoss => exact onProbeLoss_does matched within
  | onClassicalPmtu mtu => exact onClassicalPmtu_does matched within
  | confirmCurrent size => exact confirmCurrent_does matched within
  | onBlackHoleSuspected => exact onBlackHoleSuspected_does matched within
  | limitMax mtu =>
    exact ⟨⟨rfl,rfl,rfl⟩,matched.same rfl rfl rfl rfl fun _ => ⟨rfl,rfl⟩,
      iff_of_true (le_trans (min_le_left _ _) within) trivial⟩
  | disable =>
    refine ⟨⟨rfl,rfl,rfl⟩,⟨matched.probing,?_,fun _ => .inr rfl⟩,iff_of_true within trivial⟩
    intro here
    cases here

def Begins (w : PmtuSearch × Ledger) : Prop := Started w.1 ∧ w.1.probing = true ∧ w.2 = {}

theorem begins_matched {w : PmtuSearch × Ledger} (begins : Begins w) :
    w.1.Matched w.2 ∧ w.1.currentMtu ≤ w.1.trusted w.2 := by
  obtain ⟨e,g⟩ := w
  obtain ⟨⟨version,interfaceMtu,probing,probeTimerMs,plpmtuSeed,_,same⟩,on,_⟩ := begins
  have same : e = init version interfaceMtu probing probeTimerMs plpmtuSeed := same
  subst same
  have on : probing = true := on
  subst on
  exact ⟨.fresh rfl rfl,seed_trusted _ _⟩

theorem working_size_trusted {w : PmtuSearch × Ledger} (reached : Runs.Reached Begins observe Vouched w) :
    w.1.currentMtu ≤ w.1.trusted w.2 ∧
      ∀ input, (observe input w).1.currentMtu ≤ (observe input w).1.trusted (observe input w).2 ↔ Vouched input w := by
  obtain ⟨matched,within⟩ := Runs.Reached.invariant (fun w => w.1.Matched w.2 ∧ w.1.currentMtu ≤ w.1.trusted w.2)
    (fun _ begins => begins_matched begins) (fun w input before vouched => by
      have does := call_does input before.1 before.2
      refine ⟨does.matched,?_⟩
      rw [does.kin.trusted]
      exact does.within.mpr vouched) reached
  refine ⟨within,fun input => ?_⟩
  have does := call_does input matched within
  rw [does.kin.trusted]
  exact does.within

-- The base probe and three acknowledgements of the next size.
def validatedRun : List (Nat × Call) :=
  [(0,.nextProbeSize),(1,.onProbeAck 1200),(2,.nextProbeSize),(3,.onProbeAck 1344),(4,.nextProbeSize),
   (5,.onProbeAck 1344),(6,.nextProbeSize),(7,.onProbeAck 1344)]

def probingEthernet : PmtuSearch × Ledger := (init .ip4 1500 true 30_000 (some 1064),{})

theorem probingEthernet_begins : Begins probingEthernet := ⟨⟨.ip4,1500,true,30_000,some 1064,by decide,rfl⟩,rfl,rfl⟩

theorem working_size_trusted_validated : (Runs.run observe probingEthernet validatedRun).1.currentMtu = 1344 ∧
    (1344 : Int) ≤ (Runs.run observe probingEthernet validatedRun).1.trusted (Runs.run observe probingEthernet validatedRun).2 := by
  have reached : Runs.Reached Begins observe Vouched (Runs.run observe probingEthernet validatedRun) :=
    Runs.Reached.run (.start _ probingEthernet_begins) validatedRun (by decide +kernel)
  have current : (Runs.run observe probingEthernet validatedRun).1.currentMtu = 1344 := by decide +kernel
  refine ⟨current,?_⟩
  rw [← current]
  exact (working_size_trusted reached).1

-- Three base probes are lost, and then a router names a size of its own.
def hintedRun : List (Nat × Call) :=
  [(0,.nextProbeSize),(30_000,.onProbeLoss),(30_001,.nextProbeSize),(60_001,.onProbeLoss),(60_002,.nextProbeSize),
   (90_002,.onProbeLoss),(90_003,.onClassicalPmtu 1400)]

theorem hint_raises : Begins probingEthernet ∧ (Runs.run observe probingEthernet hintedRun).1.currentMtu = 1400 ∧
    (Runs.run observe probingEthernet hintedRun).1.trusted (Runs.run observe probingEthernet hintedRun).2 = 1064 := by
  refine ⟨probingEthernet_begins,?_,?_⟩ <;> decide +kernel

end PmtuSearch

end PmdPytcp.Plpmtud
