import PmdPytcp.Plpmtud.Run

namespace PmdPytcp.Plpmtud

namespace PmtuSearch

variable {e t : PmtuSearch} {now : Nat} {size mtu : Int}

-- A search that is on has a size to probe, and one that rests has its timer.
structure Awake (e : PmtuSearch) : Prop where
  searching : e.state = .base ∨ e.state = .searching → e.candidateMtu.isSome = true
  resting : e.state = .searchComplete ∨ e.state = .error → e.raiseTimerExpiry.isSome = true

theorem Awake.still (awake : e.Awake) (state : t.state = e.state) (candidate : t.candidateMtu = e.candidateMtu)
    (raise : t.raiseTimerExpiry = e.raiseTimerExpiry) : t.Awake := by
  refine ⟨?_,?_⟩
  · rw [state,candidate]
    exact awake.searching
  · rw [state,raise]
    exact awake.resting

theorem enterSearchComplete_awake : (e.enterSearchComplete now).Awake := by
  refine ⟨?_,fun _ => rfl⟩
  rintro (here | here) <;> cases here

theorem resumeSearch_awake : (e.resumeSearch now).Awake := by
  unfold resumeSearch
  split
  · exact enterSearchComplete_awake
  · refine ⟨fun _ => rfl,?_⟩
    rintro (here | here) <;> cases here

-- A search that is opened again must have room for a candidate.
def Climbs (input : Nat × Call) (e : PmtuSearch) : Prop :=
  match input with
  | (now,.nextProbeSize) => e.state = .searchComplete → e.raiseDue now = true → ladderGranularity < e.maxMtu - e.ackSize
  | _ => True

instance (input : Nat × Call) (e : PmtuSearch) : Decidable (Climbs input e) :=
  match input with
  | (now,.nextProbeSize) =>
    inferInstanceAs (Decidable (e.state = .searchComplete → e.raiseDue now = true → ladderGranularity < e.maxMtu - e.ackSize))
  | (_,.onProbeAck _) | (_,.onProbeLoss) | (_,.onClassicalPmtu _) | (_,.confirmCurrent _) | (_,.onBlackHoleSuspected)
  | (_,.limitMax _) | (_,.disable) => .isTrue trivial

theorem nextProbeSize_due (due : e.raiseDue now = true) (climbs : Climbs (now,.nextProbeSize) e)
    (resting : e.state = .searchComplete ∨ e.state = .error) :
    (e.nextProbeSize now).1.isSome = true ∧ (e.nextProbeSize now).2.Awake := by
  unfold nextProbeSize
  rcases resting with here | here
  · have wide : 8 < e.maxMtu - e.ackSize := climbs here due
    rw [here]
    dsimp only
    rw [raise_waits,due]
    have found : ({e with searchHigh := e.maxMtu,raiseTimerExpiry := none,state := .searching} : PmtuSearch).nextCandidate =
        some (rung e.ackSize e.maxMtu) := by
      rw [nextCandidate_eq]
      exact if_neg (not_le.mpr wide)
    rw [if_neg (by decide),found]
    refine ⟨rfl,fun _ => rfl,?_⟩
    rintro (other | other) <;> cases other
  · rw [here]
    dsimp only
    rw [raise_waits,due,if_neg (by decide)]
    refine ⟨rfl,fun _ => rfl,?_⟩
    rintro (other | other) <;> cases other

theorem nextProbeSize_early (early : e.raiseDue now = false) (resting : e.state = .searchComplete ∨ e.state = .error) :
    e.nextProbeSize now = (none,e) := by
  unfold nextProbeSize
  rcases resting with here | here <;> rw [here] <;> dsimp only <;> rw [raise_waits,early] <;> rfl

theorem nextProbeSize_running (running : e.state = .base ∨ e.state = .searching) :
    e.nextProbeSize now =
      match e.candidateMtu,e.probeTimerExpiry with
      | some size,none => (some size,{e with probeTimerExpiry := some (now + e.probeTimerMs)})
      | _,_ => (none,e) := by
  unfold nextProbeSize
  cases candidate : e.candidateMtu <;> cases timer : e.probeTimerExpiry <;>
    rcases running with here | here <;> simp only [here]

theorem nextProbeSize_awake (awake : e.Awake) (climbs : Climbs (now,.nextProbeSize) e) :
    (e.nextProbeSize now).2.Awake := by
  cases here : e.state with
  | disabled =>
    unfold nextProbeSize
    rw [here]
    exact awake
  | base | searching =>
    rw [nextProbeSize_running (by simp [here])]
    split
    · exact awake.still rfl rfl rfl
    · exact awake
  | searchComplete | error =>
    cases due : e.raiseDue now with
    | true => exact (nextProbeSize_due due climbs (by simp [here])).2
    | false =>
      rw [nextProbeSize_early due (by simp [here])]
      exact awake

theorem commitProbe_awake (awake : e.Awake) : (e.commitProbe size now).Awake := by
  unfold commitProbe
  dsimp only
  split
  · exact resumeSearch_awake
  · exact resumeSearch_awake
  · exact resumeSearch_awake
  · exact awake.still rfl rfl rfl
  · exact awake.still rfl rfl rfl

theorem onProbeAck_awake (awake : e.Awake) : (e.onProbeAck size now).Awake := by
  unfold onProbeAck
  split
  · exact awake
  · dsimp only
    split
    · generalize (if size = e.validationSize then e.validationAcksSeen + 1 else 1) = count
      split
      · exact awake.still rfl rfl rfl
      · exact commitProbe_awake (awake.still rfl rfl rfl)
    · exact commitProbe_awake (awake.still rfl rfl rfl)

theorem onProbeLoss_awake (awake : e.Awake) : (e.onProbeLoss now).Awake := by
  unfold onProbeLoss
  split
  · exact awake
  · dsimp only
    split
    · refine ⟨?_,fun _ => rfl⟩
      rintro (here | here) <;> cases here
    · split
      · rename_i here
        generalize (e.candidateMtu.map (· - 1)).getD e.searchHigh = high
        split
        · exact enterSearchComplete_awake
        · refine ⟨fun _ => rfl,?_⟩
          have here : e.state = .searching := here
          rintro (other | other)
          · have other : e.state = .searchComplete := other
            rw [here] at other
            cases other
          · have other : e.state = .error := other
            rw [here] at other
            cases other
      · exact awake.still rfl rfl rfl

theorem next_awake {input : Nat × Call} (awake : e.Awake) (climbs : Climbs input e) : (e.next input).Awake := by
  obtain ⟨now,call⟩ := input
  cases call with
  | nextProbeSize => exact nextProbeSize_awake awake climbs
  | onProbeAck size => exact onProbeAck_awake awake
  | onProbeLoss => exact onProbeLoss_awake awake
  | onClassicalPmtu mtu =>
    show (e.onClassicalPmtu mtu now).Awake
    unfold onClassicalPmtu
    dsimp only
    split
    · exact awake
    · exact resumeSearch_awake
    · exact awake.still rfl rfl rfl
    · exact awake.still rfl rfl rfl
    · exact awake.still rfl rfl rfl
  | confirmCurrent size =>
    show (e.confirmCurrent size now).Awake
    unfold confirmCurrent
    split
    · exact awake
    · dsimp only
      generalize (if e.ackSize < size ∧ size ≤ e.currentMtu then size else e.ackSize) = low
      split
      · exact resumeSearch_awake
      · exact awake.still rfl rfl rfl
  | onBlackHoleSuspected =>
    show (e.onBlackHoleSuspected now).Awake
    unfold onBlackHoleSuspected
    split
    · exact awake
    · split
      · exact awake
      · exact resumeSearch_awake
  | limitMax mtu => exact awake.still rfl rfl rfl
  | disable =>
    refine ⟨?_,?_⟩ <;> rintro (here | here) <;> cases here

theorem started_awake (started : Started e) : e.Awake := by
  obtain ⟨version,interfaceMtu,probing,probeTimerMs,plpmtuSeed,_,rfl⟩ := started
  refine ⟨fun _ => rfl,?_⟩
  rintro (here | here) <;> cases here

-- The engine has no clock of its own: a poll first gives up the probe whose time is over.
def expire (e : PmtuSearch) (now : Nat) : PmtuSearch := if e.probeTimerExpired now then e.onProbeLoss now else e

def poll (e : PmtuSearch) (now : Nat) : Option Int × PmtuSearch := (e.expire now).nextProbeSize now

def polls (e : PmtuSearch) (times : Nat → Nat) : Nat → PmtuSearch
  | 0 => e
  | n + 1 => (e.poll (times 0)).2.polls (fun k => times (k + 1)) n

def Advancing (times : Nat → Nat) : Prop := ∀ bound, ∃ n, ∀ m, n ≤ m → bound ≤ times m

def Proposes (times : Nat → Nat) (e : PmtuSearch) : Prop := ∃ n, ((e.polls times n).poll (times n)).1.isSome = true

-- No poll of the schedule opens a search again that has no room.
def Clear (times : Nat → Nat) (e : PmtuSearch) : Prop :=
  ∀ n, Climbs (times n,.nextProbeSize) ((e.polls times n).expire (times n))

variable {times : Nat → Nat}

theorem Advancing.shift (advancing : Advancing times) : Advancing fun k => times (k + 1) := by
  intro bound
  obtain ⟨n,past⟩ := advancing bound
  exact ⟨n,fun m later => past (m + 1) (by omega)⟩

theorem Proposes.later (rest : Proposes (fun k => times (k + 1)) (e.poll (times 0)).2) : Proposes times e := by
  obtain ⟨n,found⟩ := rest
  exact ⟨n + 1,found⟩

theorem Clear.shift (clear : Clear times e) : Clear (fun k => times (k + 1)) (e.poll (times 0)).2 :=
  fun n => clear (n + 1)

theorem expire_resting (resting : e.state = .searchComplete ∨ e.state = .error) : e.expire now = e := by
  unfold expire probeTimerExpired
  rcases resting with here | here <;> simp [here]

-- The induction is on how long the schedule still stays before the deadline.
theorem waits_until {due : Nat} (n : Nat) (past : ∀ m, n ≤ m → due ≤ times m)
    (still : ∀ now, now < due → (e.poll now).2 = e)
    (fires : ∀ times, Advancing times → Clear times e → due ≤ times 0 → Proposes times e)
    (advancing : Advancing times) (clear : Clear times e) : Proposes times e := by
  induction n generalizing times with
  | zero => exact fires times advancing clear (past 0 (Nat.zero_le _))
  | succ n ih =>
    by_cases ready : due ≤ times 0
    · exact fires times advancing clear ready
    · have same := still (times 0) (not_le.mp ready)
      have rest := clear.shift
      refine .later ?_
      rw [same] at rest ⊢
      exact ih (fun m later => past (m + 1) (by omega)) advancing.shift rest

theorem due_proposes (resting : (e.expire (times 0)).state = .searchComplete ∨ (e.expire (times 0)).state = .error)
    (ready : (e.expire (times 0)).raiseDue (times 0) = true) (clear : Clear times e) : Proposes times e :=
  ⟨0,(nextProbeSize_due ready (clear 0) resting).1⟩

theorem resting_proposes (awake : e.Awake) (resting : e.state = .searchComplete ∨ e.state = .error)
    (advancing : Advancing times) (clear : Clear times e) : Proposes times e := by
  obtain ⟨due,armed⟩ := Option.isSome_iff_exists.mp (awake.resting resting)
  obtain ⟨n,past⟩ := advancing due
  refine waits_until n past ?_ ?_ advancing clear
  · intro now early
    have waiting : e.raiseDue now = false := by
      unfold raiseDue
      rw [armed]
      exact decide_eq_false (not_le.mpr early)
    unfold poll
    rw [expire_resting resting,nextProbeSize_early waiting resting]
  · intro times advancing clear ready
    have whole : e.expire (times 0) = e := expire_resting resting
    refine due_proposes ?_ ?_ clear
    · rw [whole]
      exact resting
    · rw [whole]
      unfold raiseDue
      rw [armed]
      exact decide_eq_true ready

theorem onProbeLoss_frees (running : e.state = .base ∨ e.state = .searching) :
    (e.onProbeLoss now).probeTimerExpiry = none ∧ (e.onProbeLoss now).state ≠ .disabled := by
  have going : ¬(e.state = .disabled ∨ e.state = .searchComplete ∨ e.state = .error) := by
    rcases running with here | here <;> rw [here] <;> decide
  unfold onProbeLoss
  rw [if_neg going]
  dsimp only
  split
  · exact ⟨rfl,PmtuState.noConfusion⟩
  · split
    · rename_i here
      have here : e.state = .searching := here
      generalize (e.candidateMtu.map (· - 1)).getD e.searchHigh = high
      split
      · exact ⟨rfl,PmtuState.noConfusion⟩
      · refine ⟨rfl,?_⟩
        show e.state ≠ .disabled
        rw [here]
        decide
    · exact ⟨rfl,fun gone => going (.inl gone)⟩

theorem free_proposes (awake : (e.expire (times 0)).Awake) (free : (e.expire (times 0)).probeTimerExpiry = none)
    (running : (e.expire (times 0)).state = .base ∨ (e.expire (times 0)).state = .searching) : Proposes times e := by
  obtain ⟨size,candidate⟩ := Option.isSome_iff_exists.mp (awake.searching running)
  refine ⟨0,?_⟩
  show ((e.expire (times 0)).nextProbeSize (times 0)).1.isSome = true
  rw [nextProbeSize_running running,candidate,free]
  rfl

theorem running_proposes (awake : e.Awake) (running : e.state = .base ∨ e.state = .searching)
    (advancing : Advancing times) (clear : Clear times e) : Proposes times e := by
  cases timer : e.probeTimerExpiry with
  | none =>
    have whole : e.expire (times 0) = e := by
      unfold expire probeTimerExpired
      rw [timer]
      simp
    refine free_proposes ?_ ?_ ?_ <;> rw [whole]
    · exact awake
    · exact timer
    · exact running
  | some due =>
    have live : decide (e.state = .base ∨ e.state = .searching) = true := decide_eq_true running
    obtain ⟨n,past⟩ := advancing due
    refine waits_until n past ?_ ?_ advancing clear
    · intro now early
      have whole : e.expire now = e := by
        unfold expire probeTimerExpired
        rw [timer,live]
        exact if_neg (by simpa using early)
      unfold poll
      rw [whole,nextProbeSize_running running,timer]
      cases e.candidateMtu <;> rfl
    · intro times advancing clear ready
      have lost : e.expire (times 0) = e.onProbeLoss (times 0) := by
        unfold expire probeTimerExpired
        rw [timer,live]
        exact if_pos (by simpa using ready)
      obtain ⟨free,on⟩ := @onProbeLoss_frees e (times 0) running
      have awake' : (e.onProbeLoss (times 0)).Awake := onProbeLoss_awake awake
      rw [← lost] at free on awake'
      by_cases going : (e.expire (times 0)).state = .base ∨ (e.expire (times 0)).state = .searching
      · exact free_proposes awake' free going
      · have resting : (e.expire (times 0)).state = .searchComplete ∨ (e.expire (times 0)).state = .error := by
          cases here : (e.expire (times 0)).state <;> simp_all
        cases early : (e.expire (times 0)).raiseDue (times 0) with
        | true => exact due_proposes resting early clear
        | false =>
          have same : (e.poll (times 0)).2 = e.expire (times 0) := by
            unfold poll
            rw [nextProbeSize_early early resting]
          refine .later ?_
          have rest := clear.shift
          rw [same] at rest ⊢
          exact resting_proposes awake' resting advancing.shift rest

theorem search_goes_on (reached : Runs.Reached Started next Climbs e) (on : e.state ≠ .disabled) :
    (e.candidateMtu.isSome = true ∨ e.raiseTimerExpiry.isSome = true) ∧
      ∀ times, Advancing times → Clear times e → Proposes times e := by
  have awake : e.Awake := Runs.Reached.invariant Awake (fun _ started => started_awake started)
    (fun _ _ before climbs => next_awake before climbs) reached
  cases here : e.state with
  | disabled => exact absurd here on
  | base | searching =>
    have running : e.state = .base ∨ e.state = .searching := by simp [here]
    exact ⟨.inl (awake.searching running),fun _ => running_proposes awake running⟩
  | searchComplete | error =>
    have resting : e.state = .searchComplete ∨ e.state = .error := by simp [here]
    exact ⟨.inr (awake.resting resting),fun _ => resting_proposes awake resting⟩

-- Confirmed at the smallest IPv6 link and asleep: the timer will wake it.
def confirmedSmall : PmtuSearch := Runs.run next (init .ip6 1300 false 30_000 none) [(0,.nextProbeSize),(9,.onProbeAck 1280)]

theorem search_goes_on_small : confirmedSmall.state = .searching ∧ confirmedSmall.candidateMtu.isSome = true := by
  have reached : Runs.Reached Started next Climbs confirmedSmall :=
    Runs.Reached.run (.start _ ⟨.ip6,1300,false,30_000,none,by decide,rfl⟩) _ (by decide +kernel)
  have state : confirmedSmall.state = .searching := by decide +kernel
  refine ⟨state,?_⟩
  rcases (search_goes_on reached (by rw [state]; decide)).1 with found | armed
  · exact found
  · have unarmed : confirmedSmall.raiseTimerExpiry.isSome = false := by decide +kernel
    rw [unarmed] at armed
    cases armed

-- The whole link is confirmed, and ten minutes later the search opens again onto nothing.
def reopened : PmtuSearch :=
  Runs.run next (init .ip4 1500 false 30_000 none)
    [(0,.nextProbeSize),(9,.onProbeAck 1200),(10,.nextProbeSize),(19,.onProbeAck 1344),(20,.nextProbeSize),
     (29,.onProbeAck 1416),(30,.nextProbeSize),(39,.onProbeAck 1456),(40,.nextProbeSize),(49,.onProbeAck 1472),
     (50,.nextProbeSize),(59,.onProbeAck 1480),(60,.nextProbeSize),(69,.onProbeAck 1488),(70,.nextProbeSize),
     (79,.onProbeAck 1496),(600_079,.nextProbeSize)]

theorem reopened_stuck : Started (init .ip4 1500 false 30_000 none) ∧ reopened.state = .searching ∧
    reopened.candidateMtu = none ∧ reopened.raiseTimerExpiry = none ∧
      ∀ now, reopened.nextProbeSize now = (none,reopened) := by
  have state : reopened.state = .searching := by decide +kernel
  have candidate : reopened.candidateMtu = none := by decide +kernel
  refine ⟨⟨.ip4,1500,false,30_000,none,by decide,rfl⟩,state,candidate,by decide +kernel,?_⟩
  intro now
  rw [nextProbeSize_running (.inr state),candidate]

end PmtuSearch

end PmdPytcp.Plpmtud
