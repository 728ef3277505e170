import PmdPytcp.Icmp6.Routers
import PmdPytcp.Buffer

namespace PmdPytcp.Icmp6
open Buffer (Py PyError)
open Ip6Address (isUnicast isLinkLocal)

abbrev MacAddress := BitVec 48

structure Ip6IfAddr where
  address : Ip6Address
  network : Ip6Network
deriving DecidableEq,Repr

-- The group an address's low 24 bits choose, whatever the address is.
def solicitedGroup (a : Ip6Address) : Ip6Address := a &&& 0xffffff ||| 0xff0200000000000000000001ff000000

def solicitedNodeMulticast (a : Ip6Address) : Py Ip6Address :=
  if isUnicast a || a == 0 then .ok (solicitedGroup a) else .error .netAddrError

def multicastMac (group : Ip6Address) : MacAddress := 0x333300000000 ||| (group &&& 0xffffffff).setWidth 48

def allNodes : Ip6Address := 0xff020000000000000000000000000001

def highHalf (a : Ip6Address) : Ip6Address := a &&& 0xffffffffffffffff0000000000000000

-- An address of a /64 network, with its own network derived from it.
def hostOf (network : Ip6Network) (iid : BitVec 64) : Ip6IfAddr where
  address := highHalf network.address ||| iid.setWidth 128
  network := ⟨highHalf (highHalf network.address ||| iid.setWidth 128),64⟩

structure Icmp6SlaacAddress where
  address : Ip6Address
  network : Ip6Network
  preferredUntil : ℚ
  validUntil : ℚ
  routerAddress : Ip6Address
deriving DecidableEq

structure Icmp6TempAddress where
  address : Ip6Address
  network : Ip6Network
  preferredUntil : ℚ
  validUntil : ℚ
  createdAt : ℚ
  routerAddress : Ip6Address
deriving DecidableEq

-- What a claim's worker calls for a fresh candidate after a conflict.
inductive Regenerator where
  | absent
  | stable (network : Ip6Network) (dadCounter : Nat)
  | temporary (network : Ip6Network)
deriving DecidableEq

inductive Phase where
  | spawned
  | retrying
  | delaying (optimistic : Bool)
  | probing (optimistic joined : Bool)
deriving DecidableEq

-- A worker task that claims an address; `slaac` says that a Router Advertisement
-- asked for it and is read by no code.
structure Claim where
  candidate : Ip6IfAddr
  regenerate : Regenerator
  slaac : Bool
  phase : Phase := .spawned
  retriesLeft : Nat := 0
deriving DecidableEq

structure Interface where
  now : ℚ := 0
  ip6IfAddr : List Ip6IfAddr := []
  ip6Multicast : List Ip6Address := []
  macMulticast : List MacAddress := []
  slaacAddresses : List Icmp6SlaacAddress := []
  tempAddresses : List Icmp6TempAddress := []
  raPrefixes : List Ip6Network := []
  bootQueue : List Ip6Network := []
  addressingComplete : Bool := false
  claims : List Claim := []
deriving DecidableEq

structure Sysctls where
  acceptRaPinfo : Bool := true
  useRfc7217 : Bool := true
  useTempaddr : Bool := false
  tempValidLifetime : Nat := 604800
  tempPreferredLifetime : Nat := 86400
  regenAdvance : Nat := 5
  optimisticDad : Bool := false
  acceptDad : Bool := true
  idgenRetries : Nat := 3

-- An exception keeps what was written before it.
structure Outcome where
  interface : Interface
  raised : Option PyError
deriving DecidableEq

def Outcome.andThen (o : Outcome) (rest : Interface → Outcome) : Outcome :=
  match o.raised with
  | none => rest o.interface
  | some _ => o

namespace Interface

def returns (i : Interface) : Outcome := ⟨i,none⟩
def raises (i : Interface) (error : PyError) : Outcome := ⟨i,some error⟩

def assignIp6Multicast (i : Interface) (group : Ip6Address) : Interface :=
  { i with
    ip6Multicast := i.ip6Multicast ++ [group]
    macMulticast := i.macMulticast ++ [multicastMac group] }

-- Every copy of the group goes, and one copy of its MAC address.
def removeIp6Multicast (i : Interface) (group : Ip6Address) : Outcome :=
  let left : Interface := { i with ip6Multicast := i.ip6Multicast.filter (· ≠ group) }
  if multicastMac group ∈ i.macMulticast then
    returns { left with macMulticast := i.macMulticast.erase (multicastMac group) }
  else left.raises .valueError

def assignIp6Host (i : Interface) (host : Ip6IfAddr) : Outcome :=
  let added : Interface := { i with ip6IfAddr := i.ip6IfAddr ++ [host] }
  match solicitedNodeMulticast host.address with
  | .error error => added.raises error
  | .ok group => returns (added.assignIp6Multicast group)

def removeIp6Host (i : Interface) (host : Ip6IfAddr) : Outcome :=
  let left : Interface := { i with ip6IfAddr := i.ip6IfAddr.filter (· ≠ host) }
  match solicitedNodeMulticast host.address with
  | .error error => left.raises error
  | .ok group => left.removeIp6Multicast group

def leaveGroups : List Ip6IfAddr → Interface → Outcome
  | [],i => returns i
  | host :: rest,i =>
    match solicitedNodeMulticast host.address with
    | .error error => i.raises error
    | .ok group => (i.removeIp6Multicast group).andThen (leaveGroups rest)

def removeAddress (i : Interface) (address : Ip6Address) : Outcome :=
  leaveGroups (i.ip6IfAddr.filter (·.address = address))
    { i with ip6IfAddr := i.ip6IfAddr.filter (·.address ≠ address) }

def replaceAddress (i : Interface) (oldAddress : Ip6Address) (newIfAddr : Ip6IfAddr) : Outcome :=
  (i.assignIp6Host newIfAddr).andThen (·.removeAddress oldAddress)

def claimIp6Address (i : Interface) (host : Ip6IfAddr) (regenerate : Regenerator) (slaac : Bool) : Interface :=
  { i with claims := i.claims ++ [{ candidate := host, regenerate := regenerate, slaac := slaac }] }

def sweepAddress (i : Interface) (address : Ip6Address) : Outcome :=
  match i.ip6IfAddr.find? (·.address = address) with
  | none => returns i
  | some host =>
    let left : Interface := { i with ip6IfAddr := i.ip6IfAddr.filter (· ≠ host) }
    match solicitedNodeMulticast host.address with
    | .error error => left.raises error
    | .ok group => if group ∈ i.ip6Multicast then left.removeIp6Multicast group else returns left

def sweepEach : List Ip6Address → Interface → Outcome
  | [],i => returns i
  | address :: rest,i => (i.sweepAddress address).andThen (sweepEach rest)

def sweepTempAddresses (i : Interface) : Outcome :=
  (sweepEach ((i.tempAddresses.filter (·.validUntil ≤ i.now)).map (·.address)) i).andThen fun i =>
    returns { i with tempAddresses := i.tempAddresses.filter (i.now < ·.validUntil) }

def sweepSlaacAddresses (i : Interface) : Outcome :=
  (sweepEach ((i.slaacAddresses.filter (·.validUntil ≤ i.now)).map (·.address)) i).andThen fun i =>
    returns { i with slaacAddresses := i.slaacAddresses.filter (i.now < ·.validUntil) }

def sweeps (i : Interface) : Outcome := i.sweepTempAddresses.andThen sweepSlaacAddresses

end Interface

-- Draws of a fresh temporary address: the first identifier that is not reserved
-- within the ten tries, and the desynchronisation offset.
structure Draw where
  iid : Option (BitVec 64)
  desync : ℚ≥0

structure PrefixInfo where
  flagA : Bool
  network : Ip6Network
  validLifetime : Nat
  preferredLifetime : Nat

def PrefixInfo.admitted (option : PrefixInfo) : Bool :=
  option.flagA && !isLinkLocal option.network.address && decide (option.preferredLifetime ≤ option.validLifetime)

def twoHourRule : ℚ := 7200

namespace Interface
-- The stable interface identifier: RFC 7217's hash with its DAD counter, or the
-- EUI-64 one.
variable (stableIid : Bool → Nat → Ip6Network → BitVec 64)

def deriveIp6Host (sysctls : Sysctls) (network : Ip6Network) : Py Ip6IfAddr :=
  if network.prefixlen = 64 then .ok (hostOf network (stableIid sysctls.useRfc7217 0 network)) else .error .netAddrError

def makeRegenerator (sysctls : Sysctls) (network : Ip6Network) : Regenerator :=
  if sysctls.useRfc7217 then .stable network 0 else .absent

def fromRfc8981Temp (network : Ip6Network) (draw : Draw) : Py Ip6IfAddr :=
  if network.prefixlen = 64 then
    match draw.iid with
    | some iid => .ok (hostOf network iid)
    | none => .error .netAddrError
  else .error .netAddrError

-- What the two-hour rule leaves of an advertised lifetime; nothing when the
-- advertisement is to be ignored.
def refreshedLifetime (validLifetime : Nat) (remaining : Option ℚ) : Option ℚ :=
  match remaining with
  | none => some validLifetime
  | some remaining =>
    if twoHourRule < validLifetime ∨ remaining < validLifetime then some validLifetime
    else if remaining ≤ twoHourRule then none
    else some twoHourRule

def updateSlaacAddress (i : Interface) (sysctls : Sysctls) (network : Ip6Network) (validLifetime preferredLifetime : Nat)
    (routerAddress : Ip6Address) : Outcome :=
  let existing := i.slaacAddresses.find? (·.network = network)
  let others := i.slaacAddresses.filter (·.network ≠ network)
  if validLifetime = 0 then returns (if existing.isSome then { i with slaacAddresses := others } else i)
  else
    match refreshedLifetime validLifetime (existing.map (·.validUntil - i.now)) with
    | none => returns i
    | some newValidLifetime =>
      match deriveIp6Host stableIid sysctls network with
      | .error error => i.raises error
      | .ok host =>
        let new : Icmp6SlaacAddress :=
          { address := host.address
            network := network
            preferredUntil := i.now + preferredLifetime
            validUntil := i.now + newValidLifetime
            routerAddress := routerAddress }
        let updated : Interface := { i with slaacAddresses := others ++ [new] }
        returns (if existing.isNone && i.addressingComplete then
          updated.claimIp6Address ⟨host.address,⟨highHalf host.address,64⟩⟩ (makeRegenerator sysctls network) true
        else updated)

def updateTempAddress (i : Interface) (sysctls : Sysctls) (network : Ip6Network) (validLifetime preferredLifetime : Nat)
    (routerAddress : Ip6Address) (draw : Draw) : Outcome :=
  if sysctls.useTempaddr then
    let existing := i.tempAddresses.find? (·.network = network)
    let others := i.tempAddresses.filter (·.network ≠ network)
    if validLifetime = 0 then returns (if existing.isSome then { i with tempAddresses := others } else i)
    else
      let clampedValid : ℚ := min validLifetime sysctls.tempValidLifetime
      let clampedPreferred : ℚ := max 0 ((min preferredLifetime sysctls.tempPreferredLifetime : ℚ) - draw.desync)
      match existing with
      | some old =>
        returns { i with tempAddresses := others ++
          [{ old with
             network := network
             preferredUntil := i.now + clampedPreferred
             validUntil := i.now + clampedValid
             routerAddress := routerAddress }] }
      | none =>
        match fromRfc8981Temp network draw with
        | .error error => i.raises error
        | .ok host =>
          let minted : Interface := { i with tempAddresses := i.tempAddresses ++
            [{ address := host.address
               network := network
               preferredUntil := i.now + clampedPreferred
               validUntil := i.now + clampedValid
               createdAt := i.now
               routerAddress := routerAddress }] }
          returns (minted.claimIp6Address host (.temporary network) true)
  else returns i

-- One Prefix Information option of a Router Advertisement; a raising option ends
-- the handling of the whole message.
def prefixInformation (i : Interface) (sysctls : Sysctls) (option : PrefixInfo) (routerAddress : Ip6Address) (draw : Draw) :
    Outcome :=
  if option.admitted && sysctls.acceptRaPinfo then
    (i.updateSlaacAddress stableIid sysctls option.network option.validLifetime option.preferredLifetime routerAddress).andThen
      fun i => i.updateTempAddress sysctls option.network option.validLifetime option.preferredLifetime routerAddress draw
  else returns i

-- The newest deadline of a prefix, the first of equals.
def newestOf (entries : List Icmp6TempAddress) : Option Icmp6TempAddress :=
  entries.foldl (fun newest t =>
    match newest with
    | none => some t
    | some n => if n.preferredUntil < t.preferredUntil then some t else some n) none

def regenPrefix (i : Interface) (sysctls : Sysctls) (network : Ip6Network) (draw : Draw) : Outcome :=
  match newestOf (i.tempAddresses.filter (·.network = network)) with
  | none => returns i
  | some newest =>
    if i.now < newest.preferredUntil - sysctls.regenAdvance then returns i
    else
      match fromRfc8981Temp network draw with
      | .error error => i.raises error
      | .ok host =>
        let minted : Interface := { i with tempAddresses := i.tempAddresses ++
          [{ address := host.address
             network := network
             preferredUntil := i.now + max 0 ((sysctls.tempPreferredLifetime : ℚ) - draw.desync)
             validUntil := i.now + sysctls.tempValidLifetime
             createdAt := i.now
             routerAddress := newest.routerAddress }] }
        returns (minted.claimIp6Address host (.temporary network) true)

def regenEach (sysctls : Sysctls) (draws : Ip6Network → Draw) : List Ip6Network → Interface → Outcome
  | [],i => returns i
  | network :: rest,i => (i.regenPrefix sysctls network (draws network)).andThen (regenEach sysctls draws rest)

-- Each prefix once, in the order of its first entry.
def regenTempAddresses (i : Interface) (sysctls : Sysctls) (draws : Ip6Network → Draw) : Outcome :=
  if sysctls.useTempaddr then
    regenEach sysctls draws (i.tempAddresses.map (·.network)).reverse.dedup.reverse i
  else returns i

-- The boot task claims an address of each prefix it found advertised.
def bootClaim (i : Interface) (sysctls : Sysctls) : Outcome :=
  match i.bootQueue with
  | [] => returns i
  | network :: rest =>
    match deriveIp6Host stableIid sysctls network with
    | .error error => i.raises error
    | .ok host => returns (({ i with bootQueue := rest } : Interface).claimIp6Address host (makeRegenerator sysctls network) true)

-- What a worker meets where it waits; a conflict brings the random identifier of
-- the next candidate.
inductive Turn where
  | starts (sysctls : Sysctls)
  | joins
  | passes
  | conflicts (draw : Draw)
  | cancelled

def dropClaim (i : Interface) (claim : Claim) : Interface := { i with claims := i.claims.erase claim }

def putClaim (i : Interface) (claim : Claim) : Interface := { i with claims := i.claims ++ [claim] }

-- Probing is over: a group joined for it is left again.
def tearDown (i : Interface) (claim : Claim) (joined : Bool) : Outcome :=
  if joined then
    match solicitedNodeMulticast claim.candidate.address with
    | .error error => i.raises error
    | .ok group => i.removeIp6Multicast group
  else returns i

def regenerated : Regenerator → Draw → Py (Ip6IfAddr × Regenerator)
  | .absent,_ => .error .assertionError
  | .stable network counter,_ =>
    if network.prefixlen = 64 then
      .ok (hostOf network (stableIid true (counter + 1) network),.stable network (counter + 1))
    else .error .netAddrError
  | .temporary network,draw => (fromRfc8981Temp network draw).map (·,.temporary network)

def startClaim (i : Interface) (claim : Claim) (sysctls : Sysctls) (retries : Nat) : Outcome :=
  let rest := i.dropClaim claim
  if sysctls.optimisticDad then
    (rest.assignIp6Host claim.candidate).andThen fun i =>
      returns (if sysctls.acceptDad then
        i.putClaim { claim with phase := .delaying true, retriesLeft := retries } else i)
  else if sysctls.acceptDad then returns (rest.putClaim { claim with phase := .delaying false, retriesLeft := retries })
  else rest.assignIp6Host claim.candidate

def joinForDad (i : Interface) (claim : Claim) (optimistic : Bool) : Outcome :=
  let rest := i.dropClaim claim
  match solicitedNodeMulticast claim.candidate.address with
  | .error error => rest.raises error
  | .ok group =>
    if group ∈ i.ip6Multicast then returns (rest.putClaim { claim with phase := .probing optimistic false })
    else returns ((rest.assignIp6Multicast group).putClaim { claim with phase := .probing optimistic true })

def passDad (i : Interface) (claim : Claim) (optimistic joined : Bool) : Outcome :=
  ((i.dropClaim claim).tearDown claim joined).andThen fun i =>
    if optimistic then returns i else i.assignIp6Host claim.candidate

def revertDad (i : Interface) (claim : Claim) (optimistic joined : Bool) : Outcome :=
  ((i.dropClaim claim).tearDown claim joined).andThen fun i =>
    if optimistic then i.removeIp6Host claim.candidate else returns i

def failDad (i : Interface) (claim : Claim) (optimistic joined : Bool) (draw : Draw) : Outcome :=
  match claim.retriesLeft with
  | 0 => i.revertDad claim optimistic joined
  | left + 1 => (i.revertDad claim optimistic joined).andThen fun i =>
    match regenerated stableIid claim.regenerate draw with
    | .error error => i.raises error
    | .ok (host,regenerate) =>
      returns (i.putClaim { claim with
        candidate := host, regenerate := regenerate, phase := .retrying, retriesLeft := left })

-- A turn that does not fit the phase does nothing.
def work (i : Interface) (claim : Claim) (turn : Turn) : Outcome :=
  if claim ∈ i.claims then
    match claim.phase,turn with
    | .spawned,.starts sysctls =>
      i.startClaim claim sysctls (if claim.regenerate = .absent then 0 else sysctls.idgenRetries)
    | .retrying,.starts sysctls => i.startClaim claim sysctls claim.retriesLeft
    | .delaying optimistic,.joins => i.joinForDad claim optimistic
    | .probing optimistic joined,.passes => i.passDad claim optimistic joined
    | .probing optimistic joined,.conflicts draw => i.failDad stableIid claim optimistic joined draw
    | .probing _ joined,.cancelled => (i.dropClaim claim).tearDown claim joined
    | _,.cancelled => returns (i.dropClaim claim)
    | _,_ => returns i
  else returns i

inductive Step where
  | passed (elapsed : ℚ≥0)
  | joinAllNodes
  | add (host : Ip6IfAddr)
  | addVetted (host : Ip6IfAddr)
  | remove (address : Ip6Address)
  | replace (oldAddress : Ip6Address) (newIfAddr : Ip6IfAddr)
  | autoconfigureLinkLocal (sysctls : Sysctls)
  | prefixInformation (sysctls : Sysctls) (option : PrefixInfo) (routerAddress : Ip6Address) (draw : Draw)
  | advertisementDone (admitted : List Ip6Network)
  | bootSnapshot
  | bootClaim (sysctls : Sysctls)
  | bootDone
  | work (claim : Claim) (turn : Turn)
  -- a pass of the periodic tasks mints fresh temporary addresses and then sweeps
  | regen (sysctls : Sysctls) (draws : Ip6Network → Draw)
  | sweep

def linkLocalNetwork : Ip6Network := ⟨0xfe800000000000000000000000000000,64⟩

def step : Step → Interface → Outcome
  | .passed elapsed,i => returns { i with now := i.now + elapsed }
  | .joinAllNodes,i => returns (i.assignIp6Multicast allNodes)
  | .add host,i => i.assignIp6Host host
  | .addVetted host,i => returns (i.claimIp6Address host .absent false)
  | .remove address,i => i.removeAddress address
  | .replace oldAddress newIfAddr,i => i.replaceAddress oldAddress newIfAddr
  | .autoconfigureLinkLocal sysctls,i =>
    match deriveIp6Host stableIid sysctls linkLocalNetwork with
    | .error error => i.raises error
    | .ok host => returns (i.claimIp6Address host (makeRegenerator sysctls linkLocalNetwork) false)
  | .prefixInformation sysctls option routerAddress draw,i =>
    i.prefixInformation stableIid sysctls option routerAddress draw
  | .advertisementDone admitted,i => returns { i with raPrefixes := admitted }
  | .bootSnapshot,i => returns (if i.addressingComplete then i else { i with bootQueue := i.raPrefixes })
  | .bootClaim sysctls,i => if i.addressingComplete then returns i else i.bootClaim stableIid sysctls
  | .bootDone,i => returns (if i.bootQueue = [] then { i with addressingComplete := true } else i)
  | .work claim turn,i => i.work stableIid claim turn
  | .regen sysctls draws,i => i.regenTempAddresses sysctls draws
  | .sweep,i => i.sweeps

def next (s : Step) (i : Interface) : Interface := (i.step stableIid s).interface

-- An interface before it is configured, and the simplest identifier for it.
def idle : Interface := {}

def oneIid : Bool → Nat → Ip6Network → BitVec 64 := fun _ _ _ => 1

end Interface

end PmdPytcp.Icmp6
