import Mathlib

namespace PmdPytcp.Plpmtud

inductive IpVersion where
  | ip4 | ip6
  deriving DecidableEq

inductive PmtuState where
  | disabled | base | searching | searchComplete | error
  deriving DecidableEq

def maxProbes : Nat := 3
def pmtuRaiseTimerMs : Nat := 600_000
def ladderGranularity : Int := 8
def validationAcks : Nat := 3

def minPlpmtu : IpVersion → Int
  | .ip4 => 576
  | .ip6 => 1280

def basePlpmtu : IpVersion → Int
  | .ip4 => 1200
  | .ip6 => 1280

-- Times are milliseconds. The three bounds say that no size the engine hands
-- out falls under the family minimum.
structure PmtuSearch where
  version : IpVersion
  state : PmtuState
  currentMtu : Int
  candidateMtu : Option Int
  ackSize : Int
  maxMtu : Int
  searchHigh : Int
  probeCount : Nat
  probeTimerMs : Nat
  probeTimerExpiry : Option Nat
  raiseTimerExpiry : Option Nat
  probing : Bool
  validationSize : Int
  validationAcksSeen : Nat
  seedMtu : Int
  currentFloor : minPlpmtu version ≤ currentMtu
  seedFloor : minPlpmtu version ≤ seedMtu
  maxFloor : minPlpmtu version ≤ maxMtu

theorem min_le_base (version : IpVersion) : minPlpmtu version ≤ basePlpmtu version := by
  cases version with
  | ip4 => decide
  | ip6 => decide

namespace PmtuSearch

def minMtu (e : PmtuSearch) : Int := minPlpmtu e.version
def baseMtu (e : PmtuSearch) : Int := basePlpmtu e.version

-- A seed counts only while probing, and without one the base size stands in.
def seedFrom (version : IpVersion) (interfaceMtu : Int) (probing : Bool) (plpmtuSeed : Option Int) : Int :=
  match probing,plpmtuSeed with
  | true,some seed => min (max seed (minPlpmtu version)) (max interfaceMtu (minPlpmtu version))
  | _,_ => basePlpmtu version

theorem min_le_seedFrom (version : IpVersion) (interfaceMtu : Int) (probing : Bool) (plpmtuSeed : Option Int) :
    minPlpmtu version ≤ seedFrom version interfaceMtu probing plpmtuSeed := by
  unfold seedFrom
  split
  · exact le_min (le_max_right _ _) (le_max_right _ _)
  · exact min_le_base version

theorem min_le_maxMtu (version : IpVersion) (interfaceMtu : Int) :
    minPlpmtu version ≤ max interfaceMtu (minPlpmtu version) :=
  le_max_right _ _

theorem min_le_initial (version : IpVersion) (interfaceMtu : Int) (probing : Bool) (plpmtuSeed : Option Int) :
    minPlpmtu version ≤ if probing then seedFrom version interfaceMtu probing plpmtuSeed
      else max interfaceMtu (minPlpmtu version) := by
  split
  · exact min_le_seedFrom version interfaceMtu probing plpmtuSeed
  · exact min_le_maxMtu version interfaceMtu

-- `PmtuSearch.__init__` with every argument it takes.
def init (version : IpVersion) (interfaceMtu : Int) (probing : Bool) (probeTimerMs : Nat) (plpmtuSeed : Option Int) :
    PmtuSearch :=
  let seed := seedFrom version interfaceMtu probing plpmtuSeed
  let maxMtu := max interfaceMtu (minPlpmtu version)
  {version := version
   state := .base
   currentMtu := if probing then seed else maxMtu
   candidateMtu := some (basePlpmtu version)
   ackSize := minPlpmtu version
   maxMtu := maxMtu
   searchHigh := maxMtu
   probeCount := 0
   probeTimerMs := probeTimerMs
   probeTimerExpiry := none
   raiseTimerExpiry := none
   probing := probing
   validationSize := 0
   validationAcksSeen := 0
   seedMtu := seed
   currentFloor := min_le_initial version interfaceMtu probing plpmtuSeed
   seedFloor := min_le_seedFrom version interfaceMtu probing plpmtuSeed
   maxFloor := min_le_maxMtu version interfaceMtu}

def nextCandidate (e : PmtuSearch) : Option Int :=
  let mid := (e.ackSize + e.searchHigh) / 2 / ladderGranularity * ladderGranularity
  let mid := if mid ≤ e.ackSize then e.ackSize + ladderGranularity else mid
  if e.searchHigh - e.ackSize ≤ ladderGranularity then none
  else if e.searchHigh ≤ mid then none
  else some mid

def enterSearchComplete (e : PmtuSearch) (now : Nat) : PmtuSearch :=
  {e with
    state := .searchComplete
    candidateMtu := none
    probeTimerExpiry := none
    raiseTimerExpiry := some (now + pmtuRaiseTimerMs)}

-- The tail shared by the acknowledgement handlers: take the next candidate, or
-- settle when there is none.
def resumeSearch (e : PmtuSearch) (now : Nat) : PmtuSearch :=
  match e.nextCandidate with
  | none => {e with candidateMtu := none}.enterSearchComplete now
  | some size => {e with candidateMtu := some size,state := .searching}

def nextProbeSize (e : PmtuSearch) (now : Nat) : Option Int × PmtuSearch :=
  match e.state with
  | .disabled => (none,e)
  | .error =>
    if e.raiseTimerExpiry.all fun expiry => decide (now < expiry) then (none,e)
    else (some e.baseMtu,{e with
      state := .base
      candidateMtu := some e.baseMtu
      probeCount := 0
      probeTimerExpiry := some (now + e.probeTimerMs)
      raiseTimerExpiry := none})
  | .searchComplete =>
    if e.raiseTimerExpiry.all fun expiry => decide (now < expiry) then (none,e)
    else
      let e := {e with searchHigh := e.maxMtu,raiseTimerExpiry := none,state := .searching}
      match e.nextCandidate with
      | none => (none,{e with candidateMtu := none})
      | some size => (some size,{e with
          candidateMtu := some size
          probeTimerExpiry := some (now + e.probeTimerMs)})
  | .base | .searching =>
    match e.candidateMtu,e.probeTimerExpiry with
    | some size,none => (some size,{e with probeTimerExpiry := some (now + e.probeTimerMs)})
    | _,_ => (none,e)

def commitProbe (e : PmtuSearch) (size : Int) (now : Nat) : PmtuSearch :=
  let e := {e with
    ackSize := if e.ackSize < size then size else e.ackSize
    currentMtu := max e.currentMtu size
    currentFloor := le_trans e.currentFloor (le_max_left _ _)}
  match e.state with
  | .base => {e with probeTimerExpiry := none}.resumeSearch now
  | .searching => {e with probeTimerExpiry := none}.resumeSearch now
  | .error => {e with probeTimerExpiry := none,raiseTimerExpiry := none}.resumeSearch now
  | .searchComplete | .disabled => e

def onProbeAck (e : PmtuSearch) (size : Int) (now : Nat) : PmtuSearch :=
  if e.state = .disabled then e
  else
    let e := {e with probeCount := 0}
    if e.probing ∧ e.state = .searching then
      let seen := if size = e.validationSize then e.validationAcksSeen + 1 else 1
      if seen < validationAcks then
        {e with validationSize := size,validationAcksSeen := seen,probeTimerExpiry := none}
      else {e with validationSize := 0,validationAcksSeen := 0}.commitProbe size now
    else e.commitProbe size now

def fallback (e : PmtuSearch) : Int := if e.probing then e.seedMtu else e.minMtu

theorem min_le_fallback (e : PmtuSearch) : minPlpmtu e.version ≤ e.fallback := by
  unfold fallback minMtu
  split
  · exact e.seedFloor
  · exact le_refl _

def onProbeLoss (e : PmtuSearch) (now : Nat) : PmtuSearch :=
  if e.state = .disabled ∨ e.state = .searchComplete ∨ e.state = .error then e
  else
    let e := {e with
      probeCount := e.probeCount + 1
      probeTimerExpiry := none
      validationSize := 0
      validationAcksSeen := 0}
    if maxProbes ≤ e.probeCount then
      {e with
        state := .error
        currentMtu := e.fallback
        candidateMtu := none
        probeCount := 0
        raiseTimerExpiry := some (now + pmtuRaiseTimerMs)
        currentFloor := e.min_le_fallback}
    else if e.state = .searching then
      let e := {e with searchHigh := (e.candidateMtu.map (· - 1)).getD e.searchHigh}
      match e.nextCandidate with
      | none => {e with candidateMtu := none}.enterSearchComplete now
      | some size => {e with candidateMtu := some size}
    else e

def onClassicalPmtu (e : PmtuSearch) (mtu : Int) (now : Nat) : PmtuSearch :=
  let effective := max e.minMtu mtu
  match e.state with
  | .disabled => e
  | .error =>
    {e with
      searchHigh := max effective e.minMtu
      currentMtu := effective
      ackSize := e.minMtu
      probeCount := 0
      probeTimerExpiry := none
      raiseTimerExpiry := none
      currentFloor := le_max_left _ _}.resumeSearch now
  | .base | .searching | .searchComplete =>
    {e with
      currentMtu := min e.currentMtu effective
      currentFloor := le_min e.currentFloor (le_max_left _ _)}

def confirmCurrent (e : PmtuSearch) (size : Int) (now : Nat) : PmtuSearch :=
  if e.state = .disabled then e
  else
    let e := {e with ackSize := if e.ackSize < size ∧ size ≤ e.currentMtu then size else e.ackSize}
    if e.state = .base ∧ e.baseMtu ≤ size then
      {e with probeCount := 0,probeTimerExpiry := none}.resumeSearch now
    else e

def onBlackHoleSuspected (e : PmtuSearch) (now : Nat) : PmtuSearch :=
  if !e.probing ∨ e.state = .disabled then e
  else if e.currentMtu ≤ e.seedMtu then e
  else
    {e with
      currentMtu := e.seedMtu
      ackSize := min e.ackSize e.seedMtu
      searchHigh := min e.searchHigh (e.currentMtu - 1)
      probeCount := 0
      probeTimerExpiry := none
      validationSize := 0
      validationAcksSeen := 0
      currentFloor := e.seedFloor}.resumeSearch now

def probeTimerExpired (e : PmtuSearch) (now : Nat) : Bool :=
  decide (e.state = .base ∨ e.state = .searching) && (e.probeTimerExpiry.any fun expiry => decide (expiry ≤ now))

def limitMax (e : PmtuSearch) (mtu : Int) : PmtuSearch :=
  let bound := min e.maxMtu (max mtu e.minMtu)
  have floor : minPlpmtu e.version ≤ bound := le_min e.maxFloor (le_max_right _ _)
  {e with
    maxMtu := bound
    searchHigh := min e.searchHigh bound
    currentMtu := min e.currentMtu bound
    maxFloor := floor
    currentFloor := le_min e.currentFloor floor}

end PmtuSearch

end PmdPytcp.Plpmtud
