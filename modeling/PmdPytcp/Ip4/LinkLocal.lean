import PmdPytcp.Lib.Runs
import PmdPytcp.Ip4.Address

namespace PmdPytcp.LinkLocal

abbrev MacAddress := BitVec 48

-- 169.254.1.0, the first of the 65024 addresses the range holds.
def rangeFirst : Nat := 169*2^24 + 254*2^16 + 2^8

def rangeSize : Nat := 65024

def lcgMult : Nat := 1103515245

def lcgAdd : Nat := 12345

def lcgMask : Nat := 0x7FFFFFFF

def candidateFromMac (mac : MacAddress) (attempt : Nat) : Ip4Address :=
  let seed := mac.toNat
  let value := (seed*lcgMult + lcgAdd + attempt) &&& lcgMask
  BitVec.ofNat 32 (rangeFirst + value % rangeSize)

inductive Ip4LinkLocalState where
  | init | claiming | bound | halted
deriving DecidableEq, Repr

-- What the client does to the outside, kept newest first.
inductive Note where
  | proposed (address : Ip4Address)
  | conflicted (address : Ip4Address)
  | paused
  | claimed (address : Ip4Address)
  | defended (address : Ip4Address)
  | abandoned (address : Ip4Address)
  | released (address : Option Ip4Address)
deriving DecidableEq, Repr

structure Config where
  macAddress : MacAddress
  -- `ip4_link_local.max_conflicts`, `arp.defend_interval` and
  -- `ip4_link_local.dhcp_fallback_timeout_ms`
  maxConflicts : Nat
  defendInterval : Nat
  dhcpFallbackTimeoutMs : Nat
  -- whether an `is_dhcp_bound` getter was passed
  dhcpWired : Bool
deriving DecidableEq, Repr

structure Ip4LinkLocal where
  state : Ip4LinkLocalState
  candidate : Option Ip4Address
  conflictCount : Nat
  defendHistory : List ℚ
  dhcpUnboundSince : Option ℚ
  notes : List Note
deriving DecidableEq, Repr

-- What one tick of the loop reads: the clock of the reconciler, the DHCP
-- client, the outcome of a claim, the polled conflict and the clock at it.
structure Tick where
  now : ℚ
  dhcpBound : Bool
  claimSucceeds : Bool
  peerMac : Option MacAddress
  conflictAt : ℚ
deriving DecidableEq, Repr

def Ip4LinkLocal.start (config : Config) : Ip4LinkLocal where
  state := if 0 < config.dhcpFallbackTimeoutMs ∧ config.dhcpWired then .halted else .init
  candidate := none
  conflictCount := 0
  defendHistory := []
  dhcpUnboundSince := none
  notes := []

def doInit (config : Config) (c : Ip4LinkLocal) : Ip4LinkLocal :=
  let candidateAddress := candidateFromMac config.macAddress c.conflictCount
  { c with candidate := some candidateAddress, state := .claiming, notes := .proposed candidateAddress :: c.notes }

def onClaimConflict (config : Config) (address : Ip4Address) (c : Ip4LinkLocal) : Ip4LinkLocal :=
  let count := c.conflictCount + 1
  if config.maxConflicts ≤ count then
    { c with candidate := none, conflictCount := 0, state := .init, notes := .paused :: .conflicted address :: c.notes }
  else
    { c with candidate := none, conflictCount := count, state := .init, notes := .conflicted address :: c.notes }

-- A claim without a candidate fails the assertion and changes nothing.
def doClaiming (config : Config) (tick : Tick) (c : Ip4LinkLocal) : Ip4LinkLocal :=
  match c.candidate with
  | none => c
  | some address =>
    if tick.claimSucceeds then
      { c with conflictCount := 0, defendHistory := [], state := .bound, notes := .claimed address :: c.notes }
    else onClaimConflict config address c

def handleBoundConflict (config : Config) (tick : Tick) (c : Ip4LinkLocal) : Ip4LinkLocal :=
  match c.candidate with
  | none => c
  | some address =>
    let recent := c.defendHistory.filter fun t => tick.conflictAt - t < config.defendInterval
    if recent = [] then
      { c with defendHistory := c.defendHistory ++ [tick.conflictAt], notes := .defended address :: c.notes }
    else
      { c with candidate := none, defendHistory := [], conflictCount := c.conflictCount + 1, state := .init,
               notes := .abandoned address :: c.notes }

def releaseBoundAddress (c : Ip4LinkLocal) : Ip4LinkLocal :=
  { c with candidate := none, defendHistory := [], conflictCount := 0, notes := .released c.candidate :: c.notes }

def reconcileWithDhcp (config : Config) (tick : Tick) (c : Ip4LinkLocal) : Ip4LinkLocal :=
  if config.dhcpFallbackTimeoutMs = 0 ∨ !config.dhcpWired then c
  else if tick.dhcpBound then
    let c := if c.state = .bound then releaseBoundAddress c else c
    { c with state := .halted, dhcpUnboundSince := none }
  else
    let since := c.dhcpUnboundSince.getD tick.now
    let elapsedMs := (tick.now - since)*1000
    if c.state = .halted ∧ config.dhcpFallbackTimeoutMs ≤ elapsedMs then
      { c with state := .init, dhcpUnboundSince := none }
    else { c with dhcpUnboundSince := some since }

def body (config : Config) (tick : Tick) (c : Ip4LinkLocal) : Ip4LinkLocal :=
  match c.state with
  | .init => doInit config c
  | .claiming => doClaiming config tick c
  | .bound => if tick.peerMac.isSome then handleBoundConflict config tick c else c
  | .halted => c

def subsystemLoop (config : Config) (tick : Tick) (c : Ip4LinkLocal) : Ip4LinkLocal :=
  body config tick (reconcileWithDhcp config tick c)

-- The address whose probe was lost, while nothing has been proposed since.
def lostProbe : List Note → Option Ip4Address
  | [] => none
  | note :: rest =>
    match note with
    | .conflicted address => some address
    | .proposed _ => none
    | .abandoned _ => none
    | .paused | .claimed _ | .defended _ | .released _ => lostProbe rest

-- The bound address that was abandoned, while nothing has been proposed since.
def givenAway : List Note → Option Ip4Address
  | [] => none
  | note :: rest =>
    match note with
    | .abandoned address => some address
    | .proposed _ => none
    | .conflicted _ => none
    | .paused | .claimed _ | .defended _ | .released _ => givenAway rest

-- Conflicting claims and abandonments since the last pause.
def unpaused : List Note → Nat
  | [] => 0
  | note :: rest =>
    match note with
    | .conflicted _ | .abandoned _ => unpaused rest + 1
    | .paused => 0
    | .proposed _ | .claimed _ | .defended _ | .released _ => unpaused rest

-- The same since the counter was last reset: a successful claim and a release
-- reset it too.
def streak : List Note → Nat
  | [] => 0
  | note :: rest =>
    match note with
    | .conflicted _ | .abandoned _ => streak rest + 1
    | .paused | .claimed _ | .released _ => 0
    | .proposed _ | .defended _ => streak rest

-- No proposal repeats the address given up just before it, and a pause comes
-- after at most the configured number of conflicts and abandonments.
structure Paced (config : Config) (notes : List Note) : Prop where
  probe : ∀ address rest, .proposed address :: rest <:+ notes → lostProbe rest ≠ some address
  bound : ∀ address rest, .proposed address :: rest <:+ notes → givenAway rest ≠ some address
  rated : ∀ rest, rest <:+ notes → unpaused rest ≤ config.maxConflicts

-- Different attempts of a round give different addresses.
def Spread (config : Config) : Prop :=
  ∀ i j, i < config.maxConflicts → j < config.maxConflicts →
    candidateFromMac config.macAddress i = candidateFromMac config.macAddress j → i = j

def GivesUp (config : Config) (tick : Tick) (c : Ip4LinkLocal) : Prop :=
  c.state = .claiming ∧ tick.claimSucceeds = false ∨
    c.state = .bound ∧ tick.peerMac.isSome = true ∧ ∃ t ∈ c.defendHistory,tick.conflictAt - t < config.defendInterval

-- The counter still counts every conflict and abandonment since the last pause.
def Counted (c : Ip4LinkLocal) : Prop := unpaused c.notes = c.conflictCount

-- No success or release has made the counter forget what the tick adds to.
def Remembers (config : Config) (tick : Tick) (c : Ip4LinkLocal) : Prop :=
  GivesUp config tick (reconcileWithDhcp config tick c) → Counted (reconcileWithDhcp config tick c)

instance (config : Config) (tick : Tick) (c : Ip4LinkLocal) : Decidable (Remembers config tick c) :=
  inferInstanceAs (Decidable ((_ ∧ _ ∨ _ ∧ _ ∧ ∃ t ∈ _,_) → _ = _))

theorem streak_le_unpaused (notes : List Note) : streak notes ≤ unpaused notes := by
  induction notes with
  | nil => exact Nat.le_refl 0
  | cons note rest ih => cases note <;> simp only [streak,unpaused] <;> omega

structure Tracked (config : Config) (c : Ip4LinkLocal) : Prop where
  counted : streak c.notes = c.conflictCount
  below : c.conflictCount < config.maxConflicts
  claiming : c.state = .claiming → c.candidate = some (candidateFromMac config.macAddress c.conflictCount)
  settled : c.state = .claiming ∨ c.state = .bound → lostProbe c.notes = none ∧ givenAway c.notes = none
  bound : c.state = .bound → c.conflictCount = 0
  home : c.state = .bound → unpaused c.notes = 0 → c.candidate = some (candidateFromMac config.macAddress 0)
  probe : ∀ address, lostProbe c.notes = some address →
    address ≠ candidateFromMac config.macAddress c.conflictCount
  away : ∀ address, givenAway c.notes = some address →
    c.conflictCount = 1 ∧ address = candidateFromMac config.macAddress 0

theorem Paced.of_cons (config : Config) (note : Note) (notes : List Note) (before : Paced config notes)
    (probe : ∀ address, note = .proposed address → lostProbe notes ≠ some address)
    (bound : ∀ address, note = .proposed address → givenAway notes ≠ some address)
    (rated : unpaused (note :: notes) ≤ config.maxConflicts) : Paced config (note :: notes) := by
  refine ⟨?_,?_,?_⟩
  · intro address rest inside
    rcases List.suffix_cons_iff.mp inside with whole | inside
    · obtain ⟨rfl,rfl⟩ := List.cons.inj whole
      exact probe address rfl
    · exact before.probe address rest inside
  · intro address rest inside
    rcases List.suffix_cons_iff.mp inside with whole | inside
    · obtain ⟨rfl,rfl⟩ := List.cons.inj whole
      exact bound address rfl
    · exact before.bound address rest inside
  · intro rest inside
    rcases List.suffix_cons_iff.mp inside with rfl | inside
    · exact rated
    · exact before.rated rest inside

theorem Paced.now (paced : Paced config notes) : unpaused notes ≤ config.maxConflicts :=
  paced.rated notes (List.suffix_refl notes)

structure Kept (config : Config) (c : Ip4LinkLocal) : Prop where
  tracked : Tracked config c
  paced : Paced config c.notes

theorem Kept.start (config : Config) (several : 2 ≤ config.maxConflicts) : Kept config (.start config) := by
  have eager : (Ip4LinkLocal.start config).state ≠ .claiming ∧ (Ip4LinkLocal.start config).state ≠ .bound := by
    simp only [Ip4LinkLocal.start]
    split <;> simp
  refine ⟨⟨rfl,?_,?_,?_,?_,?_,?_,?_⟩,?_,?_,?_⟩
  · simp only [Ip4LinkLocal.start]
    omega
  · intro claiming
    exact absurd claiming eager.1
  · rintro (claiming | bound)
    · exact absurd claiming eager.1
    · exact absurd bound eager.2
  · intro bound
    exact absurd bound eager.2
  · intro bound
    exact absurd bound eager.2
  · intro address lost
    simp [Ip4LinkLocal.start,lostProbe] at lost
  · intro address away
    simp [Ip4LinkLocal.start,givenAway] at away
  · intro address rest inside
    simp [Ip4LinkLocal.start] at inside
  · intro address rest inside
    simp [Ip4LinkLocal.start] at inside
  · intro rest inside
    obtain rfl : rest = [] := by simpa [Ip4LinkLocal.start] using inside
    simp [unpaused]

theorem Kept.idle (kept : Kept config c) (state : Ip4LinkLocalState) (since : Option ℚ)
    (still : state = c.state ∨ state = .halted ∨ state = .init) :
    Kept config { c with state, dhcpUnboundSince := since } := by
  obtain ⟨⟨counted,below,claiming,settled,bound,home,probe,away⟩,paced⟩ := kept
  refine ⟨⟨counted,below,?_,?_,?_,?_,probe,away⟩,paced⟩
  · intro at'
    rcases still with rfl | rfl | rfl
    · exact claiming at'
    · cases at'
    · cases at'
  · intro at'
    rcases still with rfl | rfl | rfl
    · exact settled at'
    · simp at at'
    · simp at at'
  · intro at'
    rcases still with rfl | rfl | rfl
    · exact bound at'
    · cases at'
    · cases at'
  · intro at'
    rcases still with rfl | rfl | rfl
    · exact home at'
    · cases at'
    · cases at'

theorem Kept.release (kept : Kept config c) (bound : c.state = .bound) (since : Option ℚ) :
    Kept config { releaseBoundAddress c with state := .halted, dhcpUnboundSince := since } := by
  obtain ⟨lost,away⟩ := kept.tracked.settled (.inr bound)
  have positive := kept.tracked.below
  refine ⟨⟨rfl,?_,nofun,?_,nofun,nofun,?_,?_⟩,?_⟩
  · simp only [releaseBoundAddress]
    omega
  · rintro (at' | at') <;> cases at'
  · intro address found
    simp [releaseBoundAddress,lostProbe,lost] at found
  · intro address found
    simp [releaseBoundAddress,givenAway,away] at found
  · exact Paced.of_cons config _ _ kept.paced nofun nofun kept.paced.now

theorem Kept.reconcile (kept : Kept config c) (tick : Tick) : Kept config (reconcileWithDhcp config tick c) := by
  unfold reconcileWithDhcp
  dsimp only
  split
  · exact kept
  · split
    · by_cases bound : c.state = .bound
      · rw [if_pos bound]
        exact kept.release bound none
      · rw [if_neg bound]
        exact kept.idle .halted none (.inr (.inl rfl))
    · split
      · exact kept.idle .init none (.inr (.inr rfl))
      · exact kept.idle c.state _ (.inl rfl)

theorem Kept.doInit (kept : Kept config c) (spread : Spread config) (several : 2 ≤ config.maxConflicts) :
    Kept config (doInit config c) := by
  obtain ⟨⟨counted,below,claiming,settled,bound,home,probe,away⟩,paced⟩ := kept
  refine ⟨⟨counted,below,fun _ => rfl,fun _ => ⟨rfl,rfl⟩,nofun,nofun,nofun,nofun⟩,?_⟩
  refine Paced.of_cons config _ _ paced ?_ ?_ paced.now
  · intro address same lost
    obtain rfl := Note.proposed.inj same
    exact probe _ lost rfl
  · intro address same gone
    obtain rfl := Note.proposed.inj same
    obtain ⟨once,first⟩ := away _ gone
    rw [once] at first
    exact absurd (spread 1 0 (by omega) (by omega) first) (by decide)

-- A lost probe: with a pause the round starts again at the first candidate,
-- without one the next candidate of the round is a different one.
theorem Kept.conflict (kept : Kept config c) (spread : Spread config) (several : 2 ≤ config.maxConflicts)
    (remembered : Counted c) :
    Kept config (onClaimConflict config (candidateFromMac config.macAddress c.conflictCount) c) := by
  have counted := kept.tracked.counted
  have below := kept.tracked.below
  have lost : Paced config (.conflicted (candidateFromMac config.macAddress c.conflictCount) :: c.notes) := by
    refine Paced.of_cons config _ _ kept.paced nofun nofun ?_
    simp only [unpaused,show unpaused c.notes = c.conflictCount from remembered]
    omega
  unfold onClaimConflict
  dsimp only
  split
  case isTrue full =>
    refine ⟨⟨rfl,?_,nofun,?_,nofun,nofun,?_,?_⟩,?_⟩
    · simp only
      omega
    · rintro (at' | at') <;> cases at'
    · intro address found same
      have : address = candidateFromMac config.macAddress c.conflictCount := by
        simpa [lostProbe] using found.symm
      have := spread c.conflictCount 0 below (by omega) (this.symm.trans same)
      omega
    · intro address found
      simp [givenAway] at found
    · exact Paced.of_cons config _ _ lost nofun nofun (by simp [unpaused])
  case isFalse room =>
    refine ⟨⟨?_,?_,nofun,?_,nofun,nofun,?_,?_⟩,lost⟩
    · simp only [streak,counted]
    · simp only
      omega
    · rintro (at' | at') <;> cases at'
    · intro address found same
      have : address = candidateFromMac config.macAddress c.conflictCount := by
        simpa [lostProbe] using found.symm
      have := spread c.conflictCount (c.conflictCount + 1) below (by omega) (this.symm.trans same)
      omega
    · intro address found
      simp [givenAway] at found

theorem Kept.claim (kept : Kept config c) (claiming : c.state = .claiming) (address : Ip4Address) :
    Kept config { c with conflictCount := 0, defendHistory := [], state := .bound, notes := .claimed address :: c.notes } := by
  obtain ⟨lost,away⟩ := kept.tracked.settled (.inl claiming)
  have below := kept.tracked.below
  refine ⟨⟨rfl,?_,nofun,?_,fun _ => rfl,?_,?_,?_⟩,?_⟩
  · simp only
    omega
  · intro _
    exact ⟨lost,away⟩
  · intro _ fresh
    have first : c.conflictCount = 0 := by
      have known := streak_le_unpaused c.notes
      have fresh : unpaused c.notes = 0 := fresh
      rw [kept.tracked.counted] at known
      omega
    have candidate := kept.tracked.claiming claiming
    rw [first] at candidate
    exact candidate
  · intro address found
    simp [lostProbe,lost] at found
  · intro address found
    simp [givenAway,away] at found
  · exact Paced.of_cons config _ _ kept.paced nofun nofun kept.paced.now

theorem Kept.doClaiming (kept : Kept config c) (spread : Spread config) (several : 2 ≤ config.maxConflicts)
    (claiming : c.state = .claiming) (tick : Tick) (remembered : GivesUp config tick c → Counted c) :
    Kept config (doClaiming config tick c) := by
  have candidate := kept.tracked.claiming claiming
  unfold LinkLocal.doClaiming
  simp only [candidate]
  split
  · rw [← candidate]
    exact kept.claim claiming _
  · next refused => exact kept.conflict spread several (remembered (.inl ⟨claiming,by simpa using refused⟩))

theorem Kept.defend (kept : Kept config c) (bound : c.state = .bound) (address : Ip4Address) (history : List ℚ) :
    Kept config { c with defendHistory := history, notes := .defended address :: c.notes } := by
  obtain ⟨lost,away⟩ := kept.tracked.settled (.inr bound)
  refine ⟨⟨kept.tracked.counted,kept.tracked.below,?_,?_,kept.tracked.bound,kept.tracked.home,?_,?_⟩,?_⟩
  · intro claiming
    rw [show c.state = .claiming from claiming] at bound
    cases bound
  · intro _
    exact ⟨lost,away⟩
  · intro address found
    simp [lostProbe,lost] at found
  · intro address found
    simp [givenAway,away] at found
  · exact Paced.of_cons config _ _ kept.paced nofun nofun kept.paced.now

-- A counter that remembers everything stands at 0 with nothing behind it, so the
-- address given away is the first candidate of a round.
theorem Kept.abandon (kept : Kept config c) (several : 2 ≤ config.maxConflicts) (bound : c.state = .bound)
    (candidate : c.candidate = some address) (remembered : Counted c) :
    Kept config { c with candidate := none, defendHistory := [], conflictCount := c.conflictCount + 1, state := .init,
                         notes := .abandoned address :: c.notes } := by
  have zero := kept.tracked.bound bound
  have counted := kept.tracked.counted
  have fresh : unpaused c.notes = 0 := remembered.trans zero
  have first := kept.tracked.home bound fresh
  rw [candidate] at first
  refine ⟨⟨?_,?_,nofun,?_,nofun,nofun,?_,?_⟩,?_⟩
  · simp only [streak,counted]
  · simp only
    omega
  · rintro (at' | at') <;> cases at'
  · intro address found
    simp [lostProbe] at found
  · intro gone found
    have same : gone = address := by simpa [givenAway] using found.symm
    refine ⟨by simp only [zero],?_⟩
    rw [same]
    exact Option.some.inj first
  · refine Paced.of_cons config _ _ kept.paced nofun nofun ?_
    simp only [unpaused,fresh]
    omega

theorem Kept.handleBoundConflict (kept : Kept config c) (several : 2 ≤ config.maxConflicts)
    (bound : c.state = .bound) (tick : Tick) (polled : tick.peerMac.isSome = true)
    (remembered : GivesUp config tick c → Counted c) : Kept config (handleBoundConflict config tick c) := by
  unfold LinkLocal.handleBoundConflict
  cases candidate : c.candidate with
  | none => exact kept
  | some address =>
    dsimp only
    split
    · rw [← candidate]
      exact kept.defend bound address _
    · next recent =>
      refine kept.abandon several bound candidate (remembered (.inr ⟨bound,polled,?_⟩))
      obtain ⟨t,member⟩ := List.exists_mem_of_ne_nil _ recent
      obtain ⟨member,near⟩ := List.mem_filter.mp member
      exact ⟨t,member,of_decide_eq_true near⟩

theorem Kept.tick (kept : Kept config c) (spread : Spread config) (several : 2 ≤ config.maxConflicts) (tick : Tick)
    (remembers : Remembers config tick c) : Kept config (subsystemLoop config tick c) := by
  have kept := kept.reconcile tick
  unfold Remembers at remembers
  unfold subsystemLoop
  generalize reconcileWithDhcp config tick c = c at kept remembers ⊢
  unfold body
  cases at' : c.state with
  | init => exact kept.doInit spread several
  | claiming => exact kept.doClaiming spread several at' tick remembers
  | bound =>
    dsimp only
    split
    · next polled => exact kept.handleBoundConflict several at' tick polled remembers
    · exact kept
  | halted => exact kept

def Reached (config : Config) (c : Ip4LinkLocal) : Prop :=
  Runs.Reached (fun c => c = .start config) (subsystemLoop config) (fun _ _ => True) c

theorem link_local_paced (config : Config) (spread : Spread config) (several : 2 ≤ config.maxConflicts)
    (c : Ip4LinkLocal)
    (reached : Runs.Reached (fun c => c = .start config) (subsystemLoop config) (Remembers config) c) :
    Paced config c.notes := by
  have kept : Kept config c := by
    refine Runs.Reached.invariant (Kept config) ?_ ?_ reached
    · intro s first
      subst first
      exact Kept.start config several
    · intro s tick kept remembers
      exact kept.tick spread several tick remembers
  exact kept.paced

-- The defaults, with a host whose second candidate is taken by nobody.
def usual : Config where
  macAddress := 0x020000000007
  maxConflicts := 10
  defendInterval := 10
  dhcpFallbackTimeoutMs := 0
  dhcpWired := false

def quietTick : Tick := ⟨0,false,true,none,0⟩

def lostTick : Tick := { quietTick with claimSucceeds := false }

def conflictTick (at' : ℚ) : Tick := { quietTick with peerMac := some 5, conflictAt := at' }

-- A pause after two conflicts instead of ten.
def strict : Config := { usual with maxConflicts := 2 }

-- Two candidates lost and a pause, the first claimed, defended and abandoned,
-- the second proposed.
def pausedRun : List Tick :=
  [quietTick,lostTick,quietTick,lostTick,quietTick,quietTick,conflictTick 1,conflictTick 2,quietTick]

theorem link_local_paced_strict :
    (Runs.run (subsystemLoop strict) (.start strict) pausedRun).candidate = some (candidateFromMac strict.macAddress 1) ∧
      Paced strict (Runs.run (subsystemLoop strict) (.start strict) pausedRun).notes := by
  have apart : ∀ i < 2,∀ j < 2,candidateFromMac strict.macAddress i = candidateFromMac strict.macAddress j → i = j := by
    decide +kernel
  have spread : Spread strict := fun i j small small' => apart i small j small'
  have met : Runs.Met (subsystemLoop strict) (Remembers strict) pausedRun (.start strict) := by decide +kernel
  have started : Runs.Reached (fun c => c = .start strict) (subsystemLoop strict) (Remembers strict) (.start strict) :=
    .start _ rfl
  exact ⟨by decide +kernel,link_local_paced strict spread (by decide) _ (started.run pausedRun met)⟩

theorem usual_spread : Spread usual := by
  have apart : ∀ i < 10,∀ j < 10,candidateFromMac usual.macAddress i = candidateFromMac usual.macAddress j → i = j := by
    decide +kernel
  intro i j small small'
  exact apart i small j small'

-- The first candidate is taken, the second claimed and abandoned at the second
-- conflict: the count is one again and the second candidate comes back.
def comesBack : List Tick := [quietTick,lostTick,quietTick,quietTick,conflictTick 1,conflictTick 2,quietTick]

theorem abandoned_address_proposed_again : Spread usual ∧
    Reached usual (Runs.run (subsystemLoop usual) (.start usual) comesBack) ∧
    ¬Paced usual (Runs.run (subsystemLoop usual) (.start usual) comesBack).notes := by
  have first : Reached usual (.start usual) := .start _ rfl
  refine ⟨usual_spread,first.run comesBack (Runs.met_true _),?_⟩
  intro paced
  have again := paced.bound (candidateFromMac usual.macAddress 1)
    (Runs.run (subsystemLoop usual) (.start usual) comesBack).notes.tail (by decide +kernel)
  exact again (by decide +kernel)

-- The address that was claimed and neither abandoned nor released since.
def held : List Note → Option Ip4Address
  | [] => none
  | note :: rest =>
    match note with
    | .claimed address => some address
    | .abandoned _ | .released _ => none
    | .proposed _ | .conflicted _ | .paused | .defended _ => held rest

def InRange (address : Ip4Address) : Prop := rangeFirst ≤ address.toNat ∧ address.toNat < rangeFirst + rangeSize

def Fitting (note : Note) (before : List Note) : Prop :=
  match note with
  | .proposed address => held before = none ∧ InRange address
  | .conflicted address => held before = none ∧ before.head? = some (.proposed address)
  | .paused => held before = none ∧ ∃ address, before.head? = some (.conflicted address)
  | .claimed address => held before = none ∧ before.head? = some (.proposed address)
  | .defended address => held before = some address
  | .abandoned address => held before = some address
  | .released given => given ≠ none ∧ held before = given

def Lawful (notes : List Note) : Prop := ∀ note before, note :: before <:+ notes → Fitting note before

theorem Lawful.cons (lawful : Lawful notes) (fitting : Fitting note notes) : Lawful (note :: notes) := by
  intro last before inside
  rcases List.suffix_cons_iff.mp inside with whole | inside
  · obtain ⟨rfl,rfl⟩ := List.cons.inj whole
    exact fitting
  · exact lawful last before inside

theorem candidateFromMac_inRange (mac : MacAddress) (attempt : Nat) : InRange (candidateFromMac mac attempt) := by
  have small : ∀ value, rangeFirst + value % rangeSize < 2^32 := by
    intro value
    have below := Nat.mod_lt value (show 0 < rangeSize by decide)
    simp only [rangeFirst,rangeSize] at below ⊢
    omega
  unfold InRange candidateFromMac
  dsimp only
  rw [BitVec.toNat_ofNat,Nat.mod_eq_of_lt (small _)]
  exact ⟨Nat.le_add_right _ _,Nat.add_lt_add_left (Nat.mod_lt _ (by decide)) _⟩

structure Holding (c : Ip4LinkLocal) : Prop where
  lawful : Lawful c.notes
  bound : c.state = .bound → ∃ address, c.candidate = some address ∧ held c.notes = some address
  unbound : c.state ≠ .bound → held c.notes = none
  claiming : c.state = .claiming → ∃ address, c.candidate = some address ∧ c.notes.head? = some (.proposed address)

theorem Holding.start (config : Config) : Holding (.start config) := by
  have eager : (Ip4LinkLocal.start config).state ≠ .claiming ∧ (Ip4LinkLocal.start config).state ≠ .bound := by
    simp only [Ip4LinkLocal.start]
    split <;> simp
  refine ⟨?_,fun bound => absurd bound eager.2,fun _ => rfl,fun claiming => absurd claiming eager.1⟩
  intro note before inside
  simp [Ip4LinkLocal.start] at inside

theorem Holding.idle {c : Ip4LinkLocal} (lawful : Lawful c.notes) (free : held c.notes = none)
    (still : c.state = .halted ∨ c.state = .init) : Holding c := by
  refine ⟨lawful,?_,fun _ => free,?_⟩
  · intro bound
    rcases still with same | same <;> simp [same] at bound
  · intro claiming
    rcases still with same | same <;> simp [same] at claiming

theorem Holding.release (holding : Holding c) (bound : c.state = .bound) (since : Option ℚ) :
    Holding { releaseBoundAddress c with state := .halted, dhcpUnboundSince := since } := by
  obtain ⟨address,candidate,holds⟩ := holding.bound bound
  refine Holding.idle (holding.lawful.cons ?_) rfl (.inl rfl)
  rw [candidate]
  exact ⟨Option.some_ne_none address,holds⟩

theorem Holding.reconcile (holding : Holding c) (config : Config) (tick : Tick) :
    Holding (reconcileWithDhcp config tick c) := by
  unfold reconcileWithDhcp
  dsimp only
  split
  · exact holding
  · split
    · by_cases bound : c.state = .bound
      · rw [if_pos bound]
        exact holding.release bound none
      · rw [if_neg bound]
        exact Holding.idle holding.lawful (holding.unbound bound) (.inl rfl)
    · split
      · rename_i halted
        have free : c.state ≠ .bound := by
          rw [halted.1]
          decide
        exact Holding.idle holding.lawful (holding.unbound free) (.inr rfl)
      · exact ⟨holding.lawful,holding.bound,holding.unbound,holding.claiming⟩

theorem Holding.doInit (holding : Holding c) (fresh : c.state = .init) : Holding (doInit config c) := by
  have free : held c.notes = none := by
    apply holding.unbound
    rw [fresh]
    decide
  refine ⟨holding.lawful.cons ⟨free,candidateFromMac_inRange _ _⟩,?_,fun _ => free,fun _ => ⟨_,rfl,rfl⟩⟩
  intro bound
  cases bound

theorem Holding.doClaiming (holding : Holding c) (claiming : c.state = .claiming) (tick : Tick) :
    Holding (doClaiming config tick c) := by
  have free : held c.notes = none := by
    apply holding.unbound
    rw [claiming]
    decide
  obtain ⟨address,candidate,proposed⟩ := holding.claiming claiming
  have conflicted : Lawful (.conflicted address :: c.notes) := holding.lawful.cons ⟨free,proposed⟩
  unfold LinkLocal.doClaiming
  rw [candidate]
  dsimp only
  split
  · refine ⟨holding.lawful.cons ⟨free,proposed⟩,fun _ => ⟨address,rfl,rfl⟩,fun other => absurd rfl other,?_⟩
    intro claiming
    cases claiming
  · unfold onClaimConflict
    dsimp only
    split
    · exact Holding.idle (conflicted.cons ⟨free,address,rfl⟩) free (.inr rfl)
    · exact Holding.idle conflicted free (.inr rfl)

theorem Holding.handleBoundConflict (holding : Holding c) (bound : c.state = .bound) (tick : Tick) :
    Holding (handleBoundConflict config tick c) := by
  obtain ⟨address,candidate,holds⟩ := holding.bound bound
  unfold LinkLocal.handleBoundConflict
  rw [candidate]
  dsimp only
  split
  · refine ⟨holding.lawful.cons holds,fun _ => ⟨address,rfl,holds⟩,fun other => absurd bound other,?_⟩
    intro claiming
    rw [show c.state = .claiming from claiming] at bound
    cases bound
  · exact Holding.idle (holding.lawful.cons holds) rfl (.inr rfl)

theorem Holding.tick (holding : Holding c) (config : Config) (tick : Tick) : Holding (subsystemLoop config tick c) := by
  have holding := holding.reconcile config tick
  unfold subsystemLoop
  generalize reconcileWithDhcp config tick c = c at holding ⊢
  unfold body
  cases at' : c.state with
  | init => exact holding.doInit at'
  | claiming => exact holding.doClaiming at' tick
  | bound =>
    dsimp only
    split
    · exact holding.handleBoundConflict at' tick
    · exact holding
  | halted => exact holding

-- Every address is proposed in the range, claimed only while no other is held,
-- and given back before the next one.
theorem link_local_address_held (config : Config) (c : Ip4LinkLocal) (reached : Reached config c) :
    Lawful c.notes ∧ (c.state = .bound → ∃ address, c.candidate = some address ∧ held c.notes = some address) ∧
      (c.state ≠ .bound → held c.notes = none) := by
  have holding : Holding c := by
    refine Runs.Reached.invariant Holding ?_ ?_ reached
    · intro s first
      subst first
      exact Holding.start config
    · intro s tick holding _
      exact holding.tick config tick
  exact ⟨holding.lawful,holding.bound,holding.unbound⟩

theorem link_local_address_held_usual : ∃ address,
    (Runs.run (subsystemLoop usual) (.start usual) (comesBack.take 5)).candidate = some address ∧
      held (Runs.run (subsystemLoop usual) (.start usual) (comesBack.take 5)).notes = some address := by
  have first : Reached usual (.start usual) := .start _ rfl
  have reached := first.run (comesBack.take 5) (Runs.met_true _)
  exact (link_local_address_held usual _ reached).2.1 (by decide +kernel)

end PmdPytcp.LinkLocal
