import PmdPytcp.Igmp.StateChange

namespace PmdPytcp.Igmp.Queries

inductive IgmpVersion where
  | v1 | v2 | v3
deriving DecidableEq,Repr

structure Timing where
  -- `igmp.robustness` and `igmp.query_interval`
  robustness : Nat
  queryIntervalMs : Nat
deriving DecidableEq,Repr

structure IgmpMessageQuery where
  version : IgmpVersion
  -- in tenths of a second
  maxResponseTime : Nat
  groupAddress : Ip4Address
  sourceAddresses : List Ip4Address
deriving DecidableEq,Repr

def IgmpMessageQuery.isGeneralQuery (m : IgmpMessageQuery) : Bool := m.groupAddress = 0 ∧ m.sourceAddresses = []

inductive Kind where
  | general
  | group (address : Ip4Address)
deriving DecidableEq,Repr

-- A scheduled callback, and the number of the event whose query it answers.
structure Ticket where
  fireAt : Nat
  kind : Kind
  query : Nat
deriving DecidableEq,Repr

structure IgmpGroupQueryPending where
  respondAtMs : Nat
  handle : Nat
  sources : Finset Ip4Address
deriving DecidableEq

inductive Answer where
  | general (mode : IgmpVersion) (joined reported : List Ip4Address)
  | single (mode : IgmpVersion) (group : Ip4Address) (sources : Finset Ip4Address)
deriving DecidableEq

-- A response that was sent: the query it answers, and the latest change of the
-- compatibility mode before it.
structure Response where
  query : Nat
  changed : Nat
  answer : Answer
deriving DecidableEq

structure Listener where
  now : Nat
  forced : Option IgmpVersion
  v1QuerierPresentUntilMs : Option Nat
  v2QuerierPresentUntilMs : Option Nat
  ip4Multicast : List Ip4Address
  pendingResponseAtMs : Option Nat
  handle : Option Nat
  suppressedGroups : List Ip4Address
  groupPending : Store Ip4Address IgmpGroupQueryPending
  -- the timer wheel
  tickets : Store Nat Ticket
  nextHandle : Nat
  -- the history: events so far, the latest mode change, the reports of other
  -- hosts with their event, and the responses
  event : Nat
  changed : Nat
  heard : List (Ip4Address × Nat)
  responses : List Response
deriving DecidableEq

namespace Listener

def present (now : Nat) (deadline : Option Nat) : Bool :=
  match deadline with
  | none => false
  | some deadline => now < deadline

def hostCompatibilityMode (l : Listener) : IgmpVersion :=
  match l.forced with
  | some version => version
  | none =>
    if present l.now l.v1QuerierPresentUntilMs then .v1
    else if present l.now l.v2QuerierPresentUntilMs then .v2 else .v3

def marked (before : IgmpVersion) (l : Listener) : Listener :=
  if l.hostCompatibilityMode = before then l else { l with changed := l.event }

def callLater (delayMs : Nat) (kind : Kind) (query : Nat) (l : Listener) : Nat × Listener :=
  (l.nextHandle,{ l with
    tickets := l.tickets.set l.nextHandle { fireAt := l.now + delayMs, kind, query }
    nextHandle := l.nextHandle + 1 })

def cancel (handle : Nat) (l : Listener) : Listener := { l with tickets := l.tickets.erase handle }

def cancelEach : List Nat → Listener → Listener
  | [],l => l
  | handle :: rest,l => cancelEach rest (l.cancel handle)

def querySendNow (query : Nat) (l : Listener) : Listener :=
  let mode := l.hostCompatibilityMode
  let reported :=
    match mode with
    | .v3 => l.ip4Multicast.filter (· ≠ allSystems)
    | _ => (l.ip4Multicast.filter (· ∉ l.suppressedGroups)).filter (· ≠ allSystems)
  { l with
    suppressedGroups := []
    responses := { query, changed := l.changed, answer := .general mode l.ip4Multicast reported } :: l.responses }

def queryDeferredSend (query : Nat) (l : Listener) : Listener :=
  querySendNow query { l with pendingResponseAtMs := none, handle := none }

def groupQuerySendNow (group : Ip4Address) (sources : Finset Ip4Address) (query : Nat) (l : Listener) : Listener :=
  if group ∉ l.ip4Multicast then l
  else
    { l with responses :=
        { query, changed := l.changed, answer := .single l.hostCompatibilityMode group sources } :: l.responses }

def groupQueryDeferredSend (group : Ip4Address) (query : Nat) (l : Listener) : Listener :=
  let sources := ((l.groupPending.get group).map (·.sources)).getD ∅
  groupQuerySendNow group sources query { l with groupPending := l.groupPending.erase group }

-- A response already due no later stands; any other is cancelled and replaced.
def scheduleGeneral (delayMs : Nat) (l : Listener) : Listener :=
  if delayMs = 0 then l.querySendNow l.event
  else
    let responseAt := l.now + delayMs
    let arm (l : Listener) : Listener :=
      let (handle,l) := l.callLater delayMs .general l.event
      { l with pendingResponseAtMs := some responseAt, handle := some handle }
    match l.pendingResponseAtMs with
    | none => arm l
    | some pending =>
      if pending ≤ responseAt then l
      else
        let l :=
          match l.handle with
          | some handle => l.cancel handle
          | none => l
        arm { l with suppressedGroups := [] }

def recordedSources (existing : Option IgmpGroupQueryPending) (sources : Finset Ip4Address) : Finset Ip4Address :=
  match existing with
  | none => sources
  | some existing => if sources = ∅ ∨ existing.sources = ∅ then ∅ else existing.sources ∪ sources

def covered (deadline : Option Nat) (responseAt : Nat) : Bool :=
  match deadline with
  | none => false
  | some deadline => deadline ≤ responseAt

def scheduleGroup (group : Ip4Address) (sources : Finset Ip4Address) (delayMs : Nat) (l : Listener) : Listener :=
  let responseAt := l.now + delayMs
  if covered l.pendingResponseAtMs responseAt then l
  else
    let existing := l.groupPending.get group
    let recorded := recordedSources existing sources
    let arm (l : Listener) : Listener :=
      let (handle,l') := l.callLater delayMs (.group group) l.event
      let entry : IgmpGroupQueryPending := { respondAtMs := responseAt, handle, sources := recorded }
      { l' with groupPending := l'.groupPending.set group entry }
    match existing with
    | some existing =>
      if existing.respondAtMs ≤ responseAt then
        if recorded = existing.sources then l
        else { l with groupPending := l.groupPending.set group { existing with sources := recorded } }
      else if delayMs = 0 then
        let l := l.cancel existing.handle
        groupQuerySendNow group recorded l.event { l with groupPending := l.groupPending.erase group }
      else arm (l.cancel existing.handle)
    | none =>
      if delayMs = 0 then groupQuerySendNow group recorded l.event l else arm l

-- The retransmission train is cancelled as well; the suppressed groups stay.
def cancelPendingTimers (l : Listener) : Listener :=
  let l :=
    match l.handle with
    | some handle => { l.cancel handle with handle := none }
    | none => l
  let l := { l with pendingResponseAtMs := none }
  { cancelEach (l.groupPending.values.map (·.handle)) l with groupPending := .empty }

-- The Older Version Querier Present timer of the query's version.
def noteQuerier (timing : Timing) (m : IgmpMessageQuery) (l : Listener) : Listener :=
  let timeout (deci : Nat) := timing.robustness*timing.queryIntervalMs + deci*100
  match m.version with
  | .v3 => l
  | .v1 => { l with v1QuerierPresentUntilMs := some (l.now + timeout 100) }
  | .v2 => { l with v2QuerierPresentUntilMs := some (l.now + timeout m.maxResponseTime) }

def updateCompatibilityMode (timing : Timing) (m : IgmpMessageQuery) (l : Listener) : Listener :=
  let after := l.noteQuerier timing m
  if after.hostCompatibilityMode ≠ l.hostCompatibilityMode then
    (after.marked l.hostCompatibilityMode).cancelPendingTimers
  else after

-- `random.randint(0, max_resp_ms)`
def pickResponseDelayMs (draw maxRespMs : Nat) : Nat := draw % (maxRespMs + 1)

def membershipQuery (timing : Timing) (m : IgmpMessageQuery) (draw : Nat) (l : Listener) : Listener :=
  let l := l.updateCompatibilityMode timing m
  let delayMs := pickResponseDelayMs draw (m.maxResponseTime*100)
  if m.isGeneralQuery then l.scheduleGeneral delayMs
  else l.scheduleGroup m.groupAddress m.sourceAddresses.toFinset delayMs

def report (group : Ip4Address) (l : Listener) : Listener :=
  let l := { l with heard := (group,l.event) :: l.heard }
  if l.hostCompatibilityMode ≠ .v3 ∧ l.pendingResponseAtMs ≠ none ∧ group ∈ l.ip4Multicast ∧
      group ∉ l.suppressedGroups then
    { l with suppressedGroups := group :: l.suppressedGroups }
  else l

def fire (handle : Nat) (l : Listener) : Listener :=
  match l.tickets.get handle with
  | none => l
  | some ticket =>
    if l.now < ticket.fireAt then l
    else
      let l := l.cancel handle
      match ticket.kind with
      | .general => l.queryDeferredSend ticket.query
      | .group group => l.groupQueryDeferredSend group ticket.query

end Listener

inductive Event where
  | query (m : IgmpMessageQuery) (draw : Nat)
  | report (group : Ip4Address)
  | fire (handle : Nat)
  | elapse (ms : Nat)
  | force (version : Option IgmpVersion)
  | join (group : Ip4Address)
  | leave (group : Ip4Address)
deriving DecidableEq,Repr

def next (timing : Timing) (e : Event) (l : Listener) : Listener :=
  let l := { l with event := l.event + 1 }
  match e with
  | .query m draw => l.membershipQuery timing m draw
  | .report group => l.report group
  | .fire handle => l.fire handle
  | .elapse ms => { l with now := l.now + ms }.marked l.hostCompatibilityMode
  | .force version => { l with forced := version }.marked l.hostCompatibilityMode
  | .join group => if group ∈ l.ip4Multicast then l else { l with ip4Multicast := l.ip4Multicast ++ [group] }
  | .leave group =>
    if group = allSystems then l else { l with ip4Multicast := l.ip4Multicast.filter (· ≠ group) }

def Listener.start : Listener where
  now := 0
  forced := none
  v1QuerierPresentUntilMs := none
  v2QuerierPresentUntilMs := none
  ip4Multicast := [allSystems]
  pendingResponseAtMs := none
  handle := none
  suppressedGroups := []
  groupPending := .empty
  tickets := .empty
  nextHandle := 0
  event := 0
  changed := 0
  heard := []
  responses := []

-- A joined group is left out of an answer only for a report that came after
-- the query it answers.
def Justified (heard : List (Ip4Address × Nat)) (r : Response) : Prop :=
  match r.answer with
  | .general mode joined reported =>
    mode ≠ .v3 → ∀ group ∈ joined, group ≠ allSystems → group ∉ reported → ∃ k, (group,k) ∈ heard ∧ r.query < k
  | .single _ _ _ => True

structure Answered (l : Listener) : Prop where
  justified : ∀ r ∈ l.responses, Justified l.heard r
  timely : ∀ r ∈ l.responses, r.changed ≤ r.query

end PmdPytcp.Igmp.Queries
