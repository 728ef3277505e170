import PmdPytcp.Plpmtud.Progress

namespace PmdPytcp.Plpmtud

namespace PmtuSearch

-- One probe over a path that carries sizes up to `m` and no others.
def trial (m : Int) (now : Nat) (e : PmtuSearch) : PmtuSearch :=
  match e.nextProbeSize now with
  | (none,e) => e
  | (some size,e) => if size ≤ m then e.onProbeAck size now else e.onProbeLoss now

-- Trials in BASE and SEARCHING that end in SEARCH_COMPLETE.
inductive Settles (m : Int) : (Nat → Nat) → PmtuSearch → PmtuSearch → Prop where
  | done {times : Nat → Nat} {e : PmtuSearch} (complete : e.state = .searchComplete) : Settles m times e e
  | probe {times : Nat → Nat} {e t : PmtuSearch} (running : e.state = .base ∨ e.state = .searching)
      (rest : Settles m (fun k => times (k + 1)) (e.trial m (times 0)) t) : Settles m times e t

inductive Fails (m : Int) : (Nat → Nat) → PmtuSearch → Prop where
  | gone {times : Nat → Nat} {e : PmtuSearch} (error : e.state = .error) : Fails m times e
  | probe {times : Nat → Nat} {e : PmtuSearch} (running : e.state = .base ∨ e.state = .searching)
      (rest : Fails m (fun k => times (k + 1)) (e.trial m (times 0))) : Fails m times e

-- Bisecting towards `m` never comes down as often in a row as counts for a black hole.
inductive Gentle (m : Int) : Nat → Int → Int → Prop where
  | settled {lost : Nat} {low high : Int} (near : high - low ≤ 8) : Gentle m lost low high
  | up {lost : Nat} {low high : Int} (wide : 8 < high - low) (fits : rung low high ≤ m)
      (rest : Gentle m 0 (rung low high) high) :
      Gentle m lost low high
  | down {lost : Nat} {low high : Int} (wide : 8 < high - low) (large : m < rung low high)
      (few : lost + 1 < maxProbes) (rest : Gentle m (lost + 1) low (rung low high - 1)) : Gentle m lost low high

variable {e t u : PmtuSearch} {m low high : Int} {times : Nat → Nat} {lost streak now : Nat}

theorem Settles.unique (settles : Settles m times e t) (other : Settles m times e u) : t = u := by
  induction settles with
  | done complete =>
    cases other with
    | done => rfl
    | probe running => rcases running with here | here <;> rw [here] at complete <;> cases complete
  | probe running _ ih =>
    cases other with
    | done complete => rcases running with here | here <;> rw [here] at complete <;> cases complete
    | probe _ rest => exact ih rest

theorem Settles.sound (settles : Settles m times e t) : ¬Fails m times e := by
  induction settles with
  | done complete =>
    intro fails
    cases fails with
    | gone error =>
      rw [error] at complete
      cases complete
    | probe running => rcases running with here | here <;> rw [here] at complete <;> cases complete
  | probe running _ ih =>
    intro fails
    cases fails with
    | gone error => rcases running with here | here <;> rw [here] at error <;> cases error
    | probe _ rest => exact ih rest

structure Rung (low high : Int) (lost streak : Nat) (e : PmtuSearch) : Prop where
  state : e.state = .searching
  floor : e.ackSize = low
  ceiling : e.searchHigh = high
  candidate : e.candidateMtu = some (rung low high)
  idle : e.probeTimerExpiry = none
  losses : e.probeCount = lost
  acks : e.validationAcksSeen = streak
  size : streak = 0 ∨ e.validationSize = rung low high
  classical : e.probing = false → streak = 0

-- The search goes on between two bounds, or is over when they are close.
structure Between (low high : Int) (lost : Nat) (e : PmtuSearch) : Prop where
  close : high - low ≤ 8 → e.state = .searchComplete ∧ e.ackSize = low ∧ e.searchHigh = high
  apart : 8 < high - low → Rung low high lost 0 e

theorem resumeSearch_between (idle : e.probeTimerExpiry = none) (zero : e.validationAcksSeen = 0)
    (floor : e.ackSize = low) (ceiling : e.searchHigh = high) (losses : e.probeCount = lost) :
    Between low high lost (e.resumeSearch now) := by
  subst floor ceiling losses
  unfold resumeSearch
  rw [nextCandidate_eq]
  refine ⟨?_,?_⟩
  · intro near
    rw [if_pos near]
    exact ⟨rfl,rfl,rfl⟩
  · intro wide
    rw [if_neg (not_le.mpr wide)]
    exact ⟨rfl,rfl,rfl,rfl,idle,rfl,zero,.inl rfl,fun _ => rfl⟩

theorem resumeSearch_current : (e.resumeSearch now).currentMtu = e.currentMtu := by
  unfold resumeSearch
  split <;> rfl

theorem Rung.nextProbeSize (at_ : Rung low high lost streak e) :
    e.nextProbeSize now = (some (rung low high),{e with probeTimerExpiry := some (now + e.probeTimerMs)}) := by
  rw [nextProbeSize_running (.inr at_.state),at_.candidate,at_.idle]

theorem Rung.seen (at_ : Rung low high lost streak e) :
    (if rung low high = e.validationSize then e.validationAcksSeen + 1 else 1) = streak + 1 := by
  rcases at_.size with zero | same
  · subst zero
    rw [at_.acks]
    split <;> rfl
  · rw [same,if_pos rfl,at_.acks]

theorem commit_between {size : Int} (state : e.state = .base ∨ e.state = .searching) (zero : e.validationAcksSeen = 0)
    (floor : e.ackSize ≤ size) (ceiling : e.searchHigh = high) (losses : e.probeCount = lost) :
    Between size high lost (e.commitProbe size now) ∧ (e.commitProbe size now).currentMtu = max e.currentMtu size := by
  have taken : (if e.ackSize < size then size else e.ackSize) = size := by
    split <;> omega
  unfold commitProbe
  dsimp only
  rcases state with here | here
  · rw [here,taken]
    exact ⟨resumeSearch_between rfl zero rfl ceiling losses,resumeSearch_current⟩
  · rw [here,taken]
    exact ⟨resumeSearch_between rfl zero rfl ceiling losses,resumeSearch_current⟩

theorem Rung.down (now : Nat) (at_ : Rung low high lost streak e) (large : m < rung low high) :
    (maxProbes ≤ lost + 1 → (e.trial m now).state = .error) ∧
      (lost + 1 < maxProbes → Between low (rung low high - 1) (lost + 1) (e.trial m now) ∧
        (e.trial m now).currentMtu = e.currentMtu) := by
  unfold trial
  rw [at_.nextProbeSize]
  dsimp only
  rw [if_neg (not_le.mpr large)]
  have going : ¬(e.state = .disabled ∨ e.state = .searchComplete ∨ e.state = .error) := by
    rw [at_.state]
    decide
  unfold onProbeLoss
  dsimp only
  rw [if_neg going,at_.losses,at_.candidate,at_.state]
  refine ⟨?_,?_⟩
  · intro third
    rw [if_pos third]
  · intro few
    rw [if_neg (not_le.mpr few),if_pos rfl]
    dsimp only [Option.map_some,Option.getD_some]
    rw [nextCandidate_eq]
    dsimp only
    rw [at_.floor]
    refine ⟨⟨?_,?_⟩,?_⟩
    · intro near
      rw [if_pos near]
      exact ⟨rfl,rfl,rfl⟩
    · intro wide
      rw [if_neg (not_le.mpr wide)]
      exact ⟨rfl,rfl,rfl,rfl,rfl,rfl,rfl,.inl rfl,fun _ => rfl⟩
    · split <;> rfl

theorem Rung.up (now : Nat) (at_ : Rung low high lost streak e) (wide : 8 < high - low) (fits : rung low high ≤ m) :
    (Rung low high 0 (streak + 1) (e.trial m now) ∧ streak + 1 < validationAcks ∧
        (e.trial m now).currentMtu = e.currentMtu) ∨
      Between (rung low high) high 0 (e.trial m now) ∧ (e.trial m now).currentMtu = max e.currentMtu (rung low high) := by
  have inside := rung_inside wide
  have seen := at_.seen
  unfold trial
  rw [at_.nextProbeSize]
  dsimp only
  rw [if_pos fits]
  unfold onProbeAck
  dsimp only
  have on : e.state ≠ .disabled := by
    rw [at_.state]
    decide
  rw [if_neg on,seen]
  split
  · rename_i probing
    split
    · rename_i few
      refine .inl ⟨⟨at_.state,at_.floor,at_.ceiling,at_.candidate,rfl,rfl,rfl,.inr rfl,?_⟩,few,rfl⟩
      intro classical
      have probing : e.probing = true := probing.1
      have classical : e.probing = false := classical
      rw [probing] at classical
      cases classical
    · right
      refine commit_between (.inr at_.state) rfl ?_ at_.ceiling rfl
      show e.ackSize ≤ _
      rw [at_.floor]
      exact le_of_lt inside.1
  · rename_i classical
    right
    have quiet : e.probing = false := by
      by_contra probing
      exact classical ⟨by simpa using probing,at_.state⟩
    refine commit_between (.inr at_.state) (at_.acks.trans (at_.classical quiet)) ?_ at_.ceiling rfl
    show e.ackSize ≤ _
    rw [at_.floor]
    exact le_of_lt inside.1

-- What a search from here comes to, by where the bisection leads.
structure Comes (m start : Int) (times : Nat → Nat) (lost : Nat) (low high : Int) (e : PmtuSearch) : Prop where
  settles : Gentle m lost low high → ∃ t last, Settles m times e t ∧ t.currentMtu = max start last ∧ last ≤ m ∧ m - 8 ≤ last
  fails : ¬Gentle m lost low high → Fails m times e

theorem Comes.back {start low' high' : Int} {lost' : Nat} (running : e.state = .base ∨ e.state = .searching)
    (same : Gentle m lost low high ↔ Gentle m lost' low' high')
    (rest : Comes m start (fun k => times (k + 1)) lost' low' high' (e.trial m (times 0))) :
    Comes m start times lost low high e := by
  refine ⟨?_,?_⟩
  · intro gentle
    obtain ⟨t,last,settles,bounds⟩ := rest.settles (same.mp gentle)
    exact ⟨t,last,.probe running settles,bounds⟩
  · intro rough
    exact .probe running (rest.fails fun gentle => rough (same.mpr gentle))

theorem gentle_up (wide : 8 < high - low) (fits : rung low high ≤ m) :
    Gentle m lost low high ↔ Gentle m 0 (rung low high) high := by
  refine ⟨?_,.up wide fits⟩
  intro gentle
  cases gentle with
  | settled near => omega
  | up _ _ rest => exact rest
  | down _ large => omega

theorem gentle_down (wide : 8 < high - low) (large : m < rung low high) (few : lost + 1 < maxProbes) :
    Gentle m lost low high ↔ Gentle m (lost + 1) low (rung low high - 1) := by
  refine ⟨?_,.down wide large few⟩
  intro gentle
  cases gentle with
  | settled near => omega
  | up _ fits => omega
  | down _ _ _ rest => exact rest

theorem rough_down (wide : 8 < high - low) (large : m < rung low high) (third : maxProbes ≤ lost + 1) :
    ¬Gentle m lost low high := by
  intro gentle
  cases gentle with
  | settled near => omega
  | up _ fits => omega
  | down _ _ few => omega

-- Repeating a probe that fits until it counts; the induction is on the acknowledgements still missing.
theorem Rung.climbs {start : Int} (missing : Nat) (at_ : Rung low high lost streak e)
    (count : validationAcks ≤ streak + missing) (wide : 8 < high - low) (fits : rung low high ≤ m)
    (current : e.currentMtu = max start low)
    (rest : ∀ times u, Between (rung low high) high 0 u → u.currentMtu = max start (rung low high) →
      Comes m start times 0 (rung low high) high u) : Comes m start times lost low high e := by
  have inside := rung_inside wide
  induction missing generalizing e lost streak times with
  | zero =>
    rcases at_.up (times 0) wide fits with ⟨_,few,_⟩ | ⟨between,raised⟩
    · omega
    · refine .back (.inr at_.state) (gentle_up wide fits) (rest _ _ between ?_)
      rw [raised,current]
      omega
  | succ missing ih =>
    rcases at_.up (times 0) wide fits with ⟨again,_,same⟩ | ⟨between,raised⟩
    · have alike : Gentle m lost low high ↔ Gentle m 0 low high := (gentle_up wide fits).trans (gentle_up wide fits).symm
      exact .back (.inr at_.state) alike (ih again (by omega) (same.trans current))
    · refine .back (.inr at_.state) (gentle_up wide fits) (rest _ _ between ?_)
      rw [raised,current]
      omega

-- Every rung halves the gap, so the search comes to an end one way or the other.
theorem search_comes {start : Int} (gap : Nat) (size : (high - low).toNat ≤ gap) (between : Between low high lost e)
    (floor : low ≤ m) (ceiling : m ≤ high) (current : e.currentMtu = max start low) (times : Nat → Nat) :
    Comes m start times lost low high e := by
  induction gap generalizing e lost low high times with
  | zero =>
    have near : high - low ≤ 8 := by omega
    refine ⟨fun _ => ⟨e,low,.done (between.close near).1,current,floor,by omega⟩,?_⟩
    exact fun rough => absurd (.settled near) rough
  | succ gap ih =>
    by_cases near : high - low ≤ 8
    · refine ⟨fun _ => ⟨e,low,.done (between.close near).1,current,floor,by omega⟩,?_⟩
      exact fun rough => absurd (.settled near) rough
    · have wide : 8 < high - low := not_le.mp near
      have inside := rung_inside wide
      have at_ := between.apart wide
      by_cases fits : rung low high ≤ m
      · refine at_.climbs validationAcks (by omega) wide fits current ?_
        intro times u between raised
        exact ih (by omega) between fits ceiling raised times
      · have large : m < rung low high := not_le.mp fits
        by_cases few : lost + 1 < maxProbes
        · obtain ⟨between',same⟩ := (at_.down (times 0) large).2 few
          exact .back (.inr at_.state) (gentle_down wide large few)
            (ih (by omega) between' floor (by omega) (same.trans current) _)
        · have third := not_lt.mp few
          refine ⟨fun gentle => absurd gentle (rough_down wide large third),?_⟩
          exact fun _ => .probe (.inr at_.state) (.gone ((at_.down (times 0) large).1 third))

structure Unbegun (e : PmtuSearch) : Prop where
  state : e.state = .base
  candidate : e.candidateMtu = some e.baseMtu
  floor : e.ackSize = e.minMtu
  ceiling : e.searchHigh = e.maxMtu
  idle : e.probeTimerExpiry = none
  losses : e.probeCount = 0
  acks : e.validationAcksSeen = 0

theorem init_unbegun (version : IpVersion) (interfaceMtu : Int) (probing : Bool) (probeTimerMs : Nat)
    (plpmtuSeed : Option Int) : (init version interfaceMtu probing probeTimerMs plpmtuSeed).Unbegun :=
  ⟨rfl,rfl,rfl,rfl,rfl,rfl,rfl⟩

theorem Unbegun.limited (unbegun : e.Unbegun) (mtu : Int) : (e.limitMax mtu).Unbegun := by
  refine ⟨unbegun.state,unbegun.candidate,unbegun.floor,?_,unbegun.idle,unbegun.losses,unbegun.acks⟩
  show min e.searchHigh (min e.maxMtu (max mtu e.minMtu)) = min e.maxMtu (max mtu e.minMtu)
  rw [unbegun.ceiling]
  omega

theorem Unbegun.opens (now : Nat) (unbegun : e.Unbegun) (above : e.baseMtu ≤ m) :
    Between e.baseMtu e.maxMtu 0 (e.trial m now) ∧ (e.trial m now).currentMtu = max e.currentMtu e.baseMtu := by
  unfold trial
  rw [nextProbeSize_running (.inl unbegun.state),unbegun.candidate,unbegun.idle]
  dsimp only
  rw [if_pos above]
  unfold onProbeAck
  dsimp only
  rw [unbegun.state,if_neg (by decide),if_neg (by simp)]
  refine commit_between (.inl rfl) unbegun.acks ?_ unbegun.ceiling rfl
  show e.ackSize ≤ e.baseMtu
  rw [unbegun.floor]
  exact min_le_base e.version

theorem search_converges_iff (unbegun : e.Unbegun) (above : e.baseMtu ≤ m) (below : m ≤ e.maxMtu)
    (times : Nat → Nat) :
    (∃ t, Settles m times e t ∧ t.currentMtu ≤ m ∧ min m e.maxMtu - 16 < t.currentMtu) ↔
      e.currentMtu ≤ m ∧ Gentle m 0 e.baseMtu e.maxMtu := by
  obtain ⟨between,current⟩ := unbegun.opens (times 0) above
  have comes : Comes m e.currentMtu times 0 e.baseMtu e.maxMtu e :=
    .back (.inl unbegun.state) Iff.rfl (search_comes _ (le_refl _) between above below current _)
  constructor
  · rintro ⟨t,settles,within,_⟩
    have gentle : Gentle m 0 e.baseMtu e.maxMtu := by
      by_contra rough
      exact settles.sound (comes.fails rough)
    obtain ⟨t',last,settles',value,_⟩ := comes.settles gentle
    rw [settles.unique settles'] at within
    refine ⟨?_,gentle⟩
    omega
  · rintro ⟨start,gentle⟩
    obtain ⟨t,last,settles,value,top,bottom⟩ := comes.settles gentle
    refine ⟨t,settles,?_,?_⟩
    · omega
    · omega

-- A path of 1400 bytes behind an Ethernet interface is found.
theorem search_converges_1400 : ∃ t, Settles 1400 id (init .ip4 1500 true 30_000 (some 1064)) t ∧ t.currentMtu ≤ 1400 ∧
    1384 < t.currentMtu := by
  have gentle : Gentle 1400 0 1200 1500 := by
    refine .up (by decide) (by decide) ?_
    refine .down (by decide) (by decide) (by decide) ?_
    refine .up (by decide) (by decide) ?_
    refine .up (by decide) (by decide) ?_
    refine .up (by decide) (by decide) ?_
    refine .down (by decide) (by decide) (by decide) ?_
    exact .settled (by decide)
  exact (search_converges_iff (init_unbegun .ip4 1500 true 30_000 (some 1064)) (by decide) (by decide) id).mpr
    ⟨by decide,gentle⟩

-- On a path of the base size the search comes down three times in a row.
theorem search_fails_1200 : (init .ip4 1500 true 30_000 (some 1064)).Unbegun ∧
    Fails 1200 id (init .ip4 1500 true 30_000 (some 1064)) ∧
      ¬∃ t, Settles 1200 id (init .ip4 1500 true 30_000 (some 1064)) t := by
  have fails : Fails 1200 id (init .ip4 1500 true 30_000 (some 1064)) := by
    refine .probe (by decide) (.probe (by decide +kernel) (.probe (by decide +kernel) (.probe (by decide +kernel) ?_)))
    exact .gone (by decide +kernel)
  exact ⟨init_unbegun .ip4 1500 true 30_000 (some 1064),fails,fun found => found.choose_spec.sound fails⟩

end PmtuSearch

end PmdPytcp.Plpmtud
