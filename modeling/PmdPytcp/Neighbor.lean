import PmdPytcp.Lib.Runs
import PmdPytcp.Lib.Store

namespace PmdPytcp.Neighbor

inductive NudState where
  | incomplete
  | reachable
  | stale
  | delay
  | probe
  | failed
  | permanent
deriving DecidableEq,Repr

-- An entry's address is its key in the cache.
structure NeighborEntry (M P : Type) where
  macAddress : Option M := none
  state : NudState := .incomplete
  stateChangedAt : ℚ := 0
  probeCount : Nat := 0
  queuedPackets : List P := []
  lastUsedAt : ℚ := 0
deriving DecidableEq

-- Seconds and counts the sysctl validators let through; the garbage-collection
-- thresholds may be zero.
structure Knobs where
  reachableTime : Nat := 30
  delayFirstProbeTime : Nat := 5
  retransTimer : Nat := 1
  maxMulticastSolicit : Nat := 3
  maxUnicastSolicit : Nat := 3
  gcThresh1 : Nat := 128
  gcThresh2 : Nat := 512
  gcThresh3 : Nat := 1024
  gcStaleTime : Nat := 60
  unresQlen : Nat := 64
  reachableTimePositive : 0 < reachableTime := by decide
  delayFirstProbeTimePositive : 0 < delayFirstProbeTime := by decide
  retransTimerPositive : 0 < retransTimer := by decide
  maxMulticastSolicitPositive : 0 < maxMulticastSolicit := by decide
  maxUnicastSolicitPositive : 0 < maxUnicastSolicit := by decide
  gcStaleTimePositive : 0 < gcStaleTime := by decide
  unresQlenPositive : 0 < unresQlen := by decide
  gcThreshOrdered : gcThresh1 ≤ gcThresh2 ∧ gcThresh2 ≤ gcThresh3 := by decide

def Knobs.standard : Knobs where
  reachableTimePositive := Nat.succ_pos 29
  delayFirstProbeTimePositive := Nat.succ_pos 4
  retransTimerPositive := Nat.succ_pos 0
  maxMulticastSolicitPositive := Nat.succ_pos 2
  maxUnicastSolicitPositive := Nat.succ_pos 2
  gcStaleTimePositive := Nat.succ_pos 59
  unresQlenPositive := Nat.succ_pos 63
  gcThreshOrdered := by decide

inductive Cause where
  | overflow
  | resolutionFailed
  | evicted (state : NudState)
  | removed
  | flushed
  | replaced
deriving DecidableEq,Repr

-- Calls of the two callbacks, and what happens to entries and queued packets.
inductive Note (A M P : Type) where
  | moved (address : A) (state : NudState) (now : ℚ)
  | solicited (address : A) (cachedMac : Option M) (now : ℚ)
  | queued (address : A) (packet : P) (bound : Nat)
  | sent (address : A) (packet : P) (macAddress : M)
  | dropped (address : A) (packet : P) (cause : Cause)
deriving DecidableEq,Repr

variable {A M P : Type}

def Note.address : Note A M P → A
  | .moved address _ _ => address
  | .solicited address _ _ => address
  | .queued address _ _ => address
  | .sent address _ _ => address
  | .dropped address _ _ => address

structure NeighborCache (A M P : Type) where
  entries : Store A (NeighborEntry M P)
  reachableTimeOverride : Option ℚ

namespace NeighborCache
variable [DecidableEq A]

def empty : NeighborCache A M P := {entries := .empty,reachableTimeOverride := none}

-- Milliseconds in, seconds kept.
def setReachableTimeOverrideMs (c : NeighborCache A M P) (valueMs : Option Int) : NeighborCache A M P :=
  {c with reachableTimeOverride := valueMs.map fun value => value / 1000}

def transition (e : NeighborEntry M P) (newState : NudState) (now : ℚ) : NeighborEntry M P :=
  {e with state := newState,stateChangedAt := now}

def findEntry (c : NeighborCache A M P) (address : A) (now : ℚ) :
    Option M × NeighborCache A M P × List (Note A M P) :=
  match c.entries.get address with
  | none =>
    let entry : NeighborEntry M P := {state := .incomplete,stateChangedAt := now,probeCount := 1,lastUsedAt := now}
    (none,{c with entries := c.entries.set address entry},[.moved address .incomplete now,.solicited address none now])
  | some found =>
    let entry := {found with lastUsedAt := now}
    match entry.state with
    | .reachable | .delay | .probe | .permanent =>
      (entry.macAddress,{c with entries := c.entries.set address entry},[])
    | .stale =>
      (entry.macAddress,{c with entries := c.entries.set address (transition entry .delay now)},
        [.moved address .delay now])
    | .failed =>
      let restarted := {transition entry .incomplete now with probeCount := 1,macAddress := none}
      (none,{c with entries := c.entries.set address restarted},
        [.moved address .incomplete now,.solicited address none now])
    | .incomplete => (none,{c with entries := c.entries.set address entry},[])

-- Both adapters install the flush callback.
def addEntry (c : NeighborCache A M P) (address : A) (macAddress : M) (now : ℚ) :
    NeighborCache A M P × List (Note A M P) :=
  match c.entries.get address with
  | none =>
    let entry : NeighborEntry M P :=
      {macAddress := some macAddress,state := .reachable,stateChangedAt := now,lastUsedAt := now}
    ({c with entries := c.entries.set address entry},[.moved address .reachable now])
  | some entry =>
    if entry.state = .permanent then (c,[])
    else
      let resolved := transition {entry with queuedPackets := [],macAddress := some macAddress,probeCount := 0}
        .reachable now
      ({c with entries := c.entries.set address resolved},
        .moved address .reachable now :: entry.queuedPackets.map fun packet => .sent address packet macAddress)

def queueOf (found : Option (NeighborEntry M P)) : List P := (found.map NeighborEntry.queuedPackets).getD []

def lose (address : A) (packets : List P) (cause : Cause) : List (Note A M P) :=
  packets.map fun packet => .dropped address packet cause

def addPermanentEntry (c : NeighborCache A M P) (address : A) (macAddress : M) (now : ℚ) :
    NeighborCache A M P × List (Note A M P) :=
  let entry : NeighborEntry M P :=
    {macAddress := some macAddress,state := .permanent,stateChangedAt := now,lastUsedAt := now}
  ({c with entries := c.entries.set address entry},
    .moved address .permanent now :: lose address (queueOf (c.entries.get address)) .replaced)

def removeEntry (c : NeighborCache A M P) (address : A) : Bool × NeighborCache A M P × List (Note A M P) :=
  ((c.entries.get address).isSome,{c with entries := c.entries.erase address},
    lose address (queueOf (c.entries.get address)) .removed)

def flush (c : NeighborCache A M P) : Nat × NeighborCache A M P × List (Note A M P) :=
  (c.entries.size,{c with entries := .empty},
    c.entries.entries.flatMap fun entry => lose entry.1 entry.2.queuedPackets .flushed)

def confirmReachability (c : NeighborCache A M P) (address : A) (now : ℚ) :
    NeighborCache A M P × List (Note A M P) :=
  match c.entries.get address with
  | none => (c,[])
  | some entry =>
    match entry.state with
    | .stale | .delay | .probe =>
      ({c with entries := c.entries.set address {transition entry .reachable now with probeCount := 0}},
        [.moved address .reachable now])
    | _ => (c,[])

-- Pops from the front until there is room for one more.
def makeRoom (bound : Nat) : List P → List P × List P
  | [] => ([],[])
  | packet :: rest =>
    if bound ≤ (packet :: rest).length then (packet :: (makeRoom bound rest).1,(makeRoom bound rest).2)
    else ([],packet :: rest)

def enqueuePending (c : NeighborCache A M P) (address : A) (packet : P) (knobs : Knobs) :
    NeighborCache A M P × List (Note A M P) :=
  match c.entries.get address with
  | none => (c,[])
  | some entry =>
    let room := makeRoom knobs.unresQlen entry.queuedPackets
    ({c with entries := c.entries.set address {entry with queuedPackets := room.2 ++ [packet]}},
      lose address room.1 .overflow ++ [.queued address packet knobs.unresQlen])

def failEntry (address : A) (e : NeighborEntry M P) (now : ℚ) : NeighborEntry M P × List (Note A M P) :=
  (transition {e with queuedPackets := []} .failed now,
    .moved address .failed now :: lose address e.queuedPackets .resolutionFailed)

-- A unicast solicitation may look its neighbor up again on its way out:
-- `touched` is the time of that lookup.
def solicit (address : A) (e : NeighborEntry M P) (cachedMac : Option M) (touched : Option ℚ) (now : ℚ) :
    NeighborEntry M P × List (Note A M P) :=
  ({e with lastUsedAt := touched.getD e.lastUsedAt},[.solicited address cachedMac now])

-- The retransmit branches of INCOMPLETE and PROBE differ in the limit and in
-- the MAC they solicit with.
def retransmit (address : A) (e : NeighborEntry M P) (limit : Nat) (cachedMac : Option M) (retransTimer : Nat)
    (touched : Option ℚ) (now : ℚ) : NeighborEntry M P × List (Note A M P) :=
  if limit ≤ e.probeCount then failEntry address e now
  else if retransTimer ≤ now - e.stateChangedAt then
    solicit address {e with probeCount := e.probeCount + 1,stateChangedAt := now} cachedMac touched now
  else (e,[])

def maintain (knobs : Knobs) (reachableTimeOverride touched : Option ℚ) (now : ℚ) (address : A)
    (e : NeighborEntry M P) : NeighborEntry M P × List (Note A M P) :=
  match e.state with
  | .reachable =>
    if reachableTimeOverride.getD knobs.reachableTime ≤ now - e.stateChangedAt then
      (transition e .stale now,[.moved address .stale now])
    else (e,[])
  | .delay =>
    if knobs.delayFirstProbeTime ≤ now - e.stateChangedAt then
      let sent := solicit address {transition e .probe now with probeCount := 1} e.macAddress touched now
      (sent.1,.moved address .probe now :: sent.2)
    else (e,[])
  | .incomplete => retransmit address e knobs.maxMulticastSolicit none knobs.retransTimer touched now
  | .probe => retransmit address e knobs.maxUnicastSolicit e.macAddress knobs.retransTimer touched now
  | .stale | .failed | .permanent => (e,[])

def evict (entries : Store A (NeighborEntry M P)) (address : A) : Store A (NeighborEntry M P) × List (Note A M P) :=
  match entries.get address with
  | none => (entries,[])
  | some entry => (entries.erase address,lose address entry.queuedPackets (.evicted entry.state))

-- Evicts in order, while the cache holds more than `cap` entries.
def evictDown (cap : Nat) (entries : Store A (NeighborEntry M P)) :
    List A → Store A (NeighborEntry M P) × List (Note A M P)
  | [] => (entries,[])
  | address :: rest =>
    if entries.size ≤ cap then (entries,[])
    else
      let gone := evict entries address
      let later := evictDown cap gone.1 rest
      (later.1,gone.2 ++ later.2)

def evictAll (entries : Store A (NeighborEntry M P)) : List A → Store A (NeighborEntry M P) × List (Note A M P)
  | [] => (entries,[])
  | address :: rest =>
    let gone := evict entries address
    let later := evictAll gone.1 rest
    (later.1,gone.2 ++ later.2)

def evictable (e : NeighborEntry M P) : Bool :=
  e.state ≠ .permanent && (e.state = .failed || e.queuedPackets.isEmpty)

-- Addresses of the entries that pass, oldest first by the given time.
def oldestFirst (time : NeighborEntry M P → ℚ) (keep : A → NeighborEntry M P → Bool)
    (entries : Store A (NeighborEntry M P)) : List A :=
  (((entries.entries.filter fun entry => evictable entry.2 && keep entry.1 entry.2).mergeSort
    fun one two => time one.2 ≤ time two.2)).map Prod.fst

def gcPass (knobs : Knobs) (now : ℚ) (entries : Store A (NeighborEntry M P)) :
    Store A (NeighborEntry M P) × List (Note A M P) :=
  if entries.size ≤ knobs.gcThresh1 then (entries,[])
  else
    let one := evictAll entries (oldestFirst NeighborEntry.stateChangedAt (fun _ e => e.state = .failed) entries)
    let two :=
      if knobs.gcThresh2 < one.1.size then
        evictDown knobs.gcThresh2 one.1 (oldestFirst NeighborEntry.stateChangedAt
          (fun address e => e.state = .stale && knobs.gcStaleTime ≤ now - e.stateChangedAt &&
            (one.1.get address).isSome) entries)
      else (one.1,[])
    let three :=
      if knobs.gcThresh3 < two.1.size then
        evictDown knobs.gcThresh3 two.1 (oldestFirst NeighborEntry.lastUsedAt
          (fun address _ => (two.1.get address).isSome) entries)
      else (two.1,[])
    (three.1,one.2 ++ two.2 ++ three.2)

def runMaintenanceOnce (c : NeighborCache A M P) (knobs : Knobs) (touched : A → Option ℚ) (now : ℚ) :
    NeighborCache A M P × List (Note A M P) :=
  let pass := fun address entry => maintain knobs c.reachableTimeOverride (touched address) now address entry
  let aged := c.entries.map fun address entry => (pass address entry).1
  let collected := gcPass knobs now aged
  ({c with entries := collected.1},
    (c.entries.entries.flatMap fun entry => (pass entry.1 entry.2).2) ++ collected.2)

end NeighborCache

inductive Call (A M P : Type) where
  | findEntry (address : A) (now : ℚ)
  | addEntry (address : A) (macAddress : M) (now : ℚ)
  | addPermanentEntry (address : A) (macAddress : M) (now : ℚ)
  | removeEntry (address : A)
  | flush
  | confirmReachability (address : A) (now : ℚ)
  | enqueuePending (address : A) (packet : P) (knobs : Knobs)
  | runMaintenanceOnce (knobs : Knobs) (touched : A → Option ℚ) (now : ℚ)
  | setReachableTimeOverrideMs (valueMs : Option Int)

variable [DecidableEq A]

def perform (call : Call A M P) (c : NeighborCache A M P) : NeighborCache A M P × List (Note A M P) :=
  match call with
  | .findEntry address now => (c.findEntry address now).2
  | .addEntry address macAddress now => c.addEntry address macAddress now
  | .addPermanentEntry address macAddress now => c.addPermanentEntry address macAddress now
  | .removeEntry address => (c.removeEntry address).2
  | .flush => c.flush.2
  | .confirmReachability address now => c.confirmReachability address now
  | .enqueuePending address packet knobs => c.enqueuePending address packet knobs
  | .runMaintenanceOnce knobs touched now => c.runMaintenanceOnce knobs touched now
  | .setReachableTimeOverrideMs valueMs => (c.setReachableTimeOverrideMs valueMs,[])

structure World (A M P : Type) where
  cache : NeighborCache A M P
  log : List (Note A M P)

def World.start : World A M P := {cache := .empty,log := []}

def World.next (call : Call A M P) (w : World A M P) : World A M P :=
  {cache := (perform call w.cache).1,log := w.log ++ (perform call w.cache).2}

end PmdPytcp.Neighbor
