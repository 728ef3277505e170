import PmdPytcp.Lib.Runs
import PmdPytcp.Lib.Store
import PmdPytcp.Igmp.Filter

namespace PmdPytcp.Igmp
open Ip4MulticastFilter

def allSystems : Ip4Address := 0xE0000001

structure Ip4GroupMembership where
  operator : Bool
  socketFilters : Store Nat Ip4MulticastFilter
deriving DecidableEq

def Ip4GroupMembership.fresh : Ip4GroupMembership := ⟨false,.empty⟩

def Ip4GroupMembership.contributors (m : Ip4GroupMembership) : List Ip4MulticastFilter :=
  m.socketFilters.values ++ if m.operator then [anySource] else []

structure IgmpPendingChange where
  records : List IgmpV3GroupRecord
  remaining : Nat
deriving DecidableEq

structure Config where
  -- `igmp.robustness` and `igmp.max_memberships`
  robustness : Nat
  maxMemberships : Nat
deriving DecidableEq,Repr

-- One interface in IGMPv3 mode; what it sent is kept, oldest first.
structure Interface where
  refs : Store Ip4Address Ip4GroupMembership
  filters : Store Ip4Address Ip4MulticastFilter
  pending : Store Ip4Address IgmpPendingChange
  armed : Bool
  sent : List IgmpV3GroupRecord
deriving DecidableEq

-- What the code wrote, and whether an assertion stopped it after that.
structure Outcome (σ : Type) where
  after : σ
  stopped : Bool
deriving DecidableEq

def recordLen (r : IgmpV3GroupRecord) : Nat := 8 + 4*r.sourceAddresses.length

def reportLen (records : List IgmpV3GroupRecord) : Nat := 8 + (records.map recordLen).sum

-- A report has to fit one IPv4 datagram with its Router Alert option.
def emitV3Report (records : List IgmpV3GroupRecord) (i : Interface) : Option Interface :=
  if records = [] then some i
  else if reportLen records ≤ 65535 - 20 ∧ 20 + 4 + reportLen records ≤ 65535 then
    some { i with sent := i.sent ++ records }
  else none

def armStateChangeRetransmit (i : Interface) : Interface := { i with armed := true }

def sendIgmpStateChange (config : Config) (group : Ip4Address) (old new : Ip4MulticastFilter) (i : Interface) :
    Option Interface :=
  if group = allSystems then some i
  else
    match stateChangeRecords group old new with
    | none => none
    | some records =>
      match emitV3Report records i with
      | none => none
      | some i =>
        let repeats := config.robustness - 1
        if records = [] ∨ repeats = 0 then some { i with pending := i.pending.erase group }
        else
          some (armStateChangeRetransmit { i with pending := i.pending.set group { records, remaining := repeats } })

-- One retransmission of everything pending; a report too long for a datagram
-- stops the callback before the repeats are counted.
def fireStateChangeRetransmit (i : Interface) : Outcome Interface :=
  let i := { i with armed := false }
  match emitV3Report (i.pending.values.flatMap (·.records)) i with
  | none => ⟨i,true⟩
  | some i =>
    let owed := (i.pending.filter fun _ p => 1 < p.remaining).map fun _ p => { p with remaining := p.remaining - 1 }
    let i := { i with pending := owed }
    ⟨if owed.entries = [] then i else armStateChangeRetransmit i,false⟩

def mcIsJoined (i : Interface) (group : Ip4Address) : Bool := (i.filters.get group).isSome

def contributorsOf (i : Interface) (group : Ip4Address) : List Ip4MulticastFilter :=
  match i.refs.get group with
  | none => []
  | some membership => membership.contributors

def ip4MulticastFilterFor (i : Interface) (group : Ip4Address) : Ip4MulticastFilter :=
  match i.refs.get group with
  | none => anySource
  | some membership => merge membership.contributors

-- The filter is written before the report is built.
def materialize (config : Config) (group : Ip4Address) (old new : Ip4MulticastFilter)
    (filters : Store Ip4Address Ip4MulticastFilter) (i : Interface) : Outcome Interface :=
  let i := { i with filters }
  match sendIgmpStateChange config group old new i with
  | none => ⟨i,true⟩
  | some i => ⟨i,false⟩

def assignIp4Multicast (config : Config) (group : Ip4Address) (i : Interface) : Outcome Interface :=
  let new := ip4MulticastFilterFor i group
  materialize config group nonmember new (i.filters.set group new) i

def removeIp4Multicast (config : Config) (group : Ip4Address) (old : Ip4MulticastFilter) (i : Interface) :
    Outcome Interface :=
  materialize config group old nonmember (i.filters.erase group) i

def mcRecompute (config : Config) (group : Ip4Address) (i : Interface) : Outcome Interface :=
  let merged := merge (contributorsOf i group)
  match i.filters.get group with
  | none => if merged.hasReception then assignIp4Multicast config group i else ⟨i,false⟩
  | some held =>
    if merged.hasReception then
      if merged ≠ held then materialize config group held merged (i.filters.set group merged) i else ⟨i,false⟩
    else removeIp4Multicast config group held i

def membershipOf (i : Interface) (group : Ip4Address) : Ip4GroupMembership := (i.refs.get group).getD .fresh

def mcRefAcquire (config : Config) (group : Ip4Address) (i : Interface) : Outcome Interface :=
  if group = allSystems then ⟨i,false⟩
  else mcRecompute config group { i with refs := i.refs.set group { membershipOf i group with operator := true } }

-- A membership without a contributor leaves the registry.
def putMembership (group : Ip4Address) (membership : Ip4GroupMembership) (i : Interface) : Interface :=
  if !membership.operator ∧ membership.socketFilters.entries = [] then { i with refs := i.refs.erase group }
  else { i with refs := i.refs.set group membership }

def mcRefRelease (config : Config) (group : Ip4Address) (i : Interface) : Outcome Interface :=
  if group = allSystems then ⟨i,false⟩
  else
    match i.refs.get group with
    | none => ⟨i,false⟩
    | some membership => mcRecompute config group (putMembership group { membership with operator := false } i)

def mcSetSocketFilter (config : Config) (group : Ip4Address) (token : Nat) (f : Ip4MulticastFilter) (i : Interface) :
    Outcome Interface :=
  if group = allSystems then ⟨i,false⟩
  else
    let membership := membershipOf i group
    mcRecompute config group
      { i with refs := i.refs.set group { membership with socketFilters := membership.socketFilters.set token f } }

def mcClearSocketFilter (config : Config) (group : Ip4Address) (token : Nat) (i : Interface) : Outcome Interface :=
  if group = allSystems then ⟨i,false⟩
  else
    match i.refs.get group with
    | none => ⟨i,false⟩
    | some membership =>
      mcRecompute config group
        (putMembership group { membership with socketFilters := membership.socketFilters.erase token } i)

-- The cap counts joined groups and lets a group that is joined already pass.
def capAllows (config : Config) (group : Ip4Address) (i : Interface) : Bool :=
  mcIsJoined i group || (i.filters.keys.filter (· ≠ allSystems)).length < config.maxMemberships

-- The sockets' own filters, under socket and group, beside the interface.
structure Host where
  interface : Interface
  held : Store (Nat × Ip4Address) Ip4MulticastFilter
deriving DecidableEq

inductive SourceOp where
  | addSourceMembership | dropSourceMembership | blockSource | unblockSource
deriving DecidableEq,Repr

inductive SourceChange where
  | refused
  | leaves
  | becomes (f : Ip4MulticastFilter)
deriving DecidableEq

def applySourceOp (op : SourceOp) (current : Option Ip4MulticastFilter) (source : Ip4Address) : SourceChange :=
  match op,current with
  | .addSourceMembership,none => .becomes ⟨.incl,{source}⟩
  | .addSourceMembership,some f => if f.mode = .excl then .refused else .becomes ⟨.incl,f.sources ∪ {source}⟩
  | .dropSourceMembership,none => .refused
  | .dropSourceMembership,some f =>
    if f.mode = .excl then .refused
    else if source ∉ f.sources then .refused
    else if f.sources \ {source} = ∅ then .leaves else .becomes ⟨.incl,f.sources \ {source}⟩
  | .blockSource,none => .refused
  | .blockSource,some f => if f.mode = .incl then .refused else .becomes ⟨.excl,f.sources ∪ {source}⟩
  | .unblockSource,none => .refused
  | .unblockSource,some f =>
    if f.mode = .incl then .refused
    else if source ∉ f.sources then .refused else .becomes ⟨.excl,f.sources \ {source}⟩

-- A socket keeps its new filter only once the interface has taken it.
def setFilter (config : Config) (token : Nat) (group : Ip4Address) (f : Ip4MulticastFilter) (h : Host) :
    Outcome Host :=
  if capAllows config group h.interface then
    let o := mcSetSocketFilter config group token f h.interface
    ⟨{ interface := o.after, held := if o.stopped then h.held else h.held.set (token,group) f },o.stopped⟩
  else ⟨h,false⟩

def clearFilter (config : Config) (token : Nat) (group : Ip4Address) (h : Host) : Outcome Host :=
  let o := mcClearSocketFilter config group token h.interface
  ⟨{ interface := o.after, held := if o.stopped then h.held else h.held.erase (token,group) },o.stopped⟩

def clearEach (config : Config) (token : Nat) : List Ip4Address → Interface → Outcome Interface
  | [],i => ⟨i,false⟩
  | group :: rest,i =>
    let o := mcClearSocketFilter config group token i
    if o.stopped then o else clearEach config token rest o.after

def releaseIp4Memberships (config : Config) (token : Nat) (h : Host) : Outcome Host :=
  let o := clearEach config token ((h.held.keys.filter (·.1 = token)).map (·.2)) h.interface
  ⟨{ interface := o.after, held := if o.stopped then h.held else h.held.filter fun key _ => key.1 ≠ token },o.stopped⟩

inductive Op where
  | join (group : Ip4Address)
  | leave (group : Ip4Address)
  | addMembership (token : Nat) (group : Ip4Address)
  | dropMembership (token : Nat) (group : Ip4Address)
  | source (op : SourceOp) (token : Nat) (group source : Ip4Address)
  | close (token : Nat)
  | fire
deriving DecidableEq,Repr

def onInterface (h : Host) (o : Outcome Interface) : Outcome Host := ⟨{ h with interface := o.after },o.stopped⟩

-- An operation that is refused, or raises an OSError, changes nothing.
def Host.step (config : Config) (op : Op) (h : Host) : Outcome Host :=
  match op with
  | .join group =>
    if group.isMulticast ∧ capAllows config group h.interface then
      onInterface h (mcRefAcquire config group h.interface)
    else ⟨h,false⟩
  | .leave group =>
    if group.isMulticast ∧ group ≠ allSystems then onInterface h (mcRefRelease config group h.interface)
    else ⟨h,false⟩
  | .addMembership token group =>
    if group.isMulticast ∧ h.held.get (token,group) = none then setFilter config token group anySource h
    else ⟨h,false⟩
  | .dropMembership token group =>
    if group.isMulticast ∧ h.held.get (token,group) ≠ none then clearFilter config token group h
    else ⟨h,false⟩
  | .source op token group source =>
    if group.isMulticast then
      match applySourceOp op (h.held.get (token,group)) source with
      | .refused => ⟨h,false⟩
      | .leaves => clearFilter config token group h
      | .becomes f => setFilter config token group f h
    else ⟨h,false⟩
  | .close token => releaseIp4Memberships config token h
  | .fire => onInterface h (if h.interface.armed then fireStateChangeRetransmit h.interface else ⟨h.interface,false⟩)

-- The all-systems group is joined before anything else and never reported.
def Host.start : Host where
  interface :=
    { refs := .empty, filters := Store.empty.set allSystems anySource, pending := .empty, armed := false, sent := [] }
  held := .empty

end PmdPytcp.Igmp
