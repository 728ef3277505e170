import PmdPytcp.Ip4.Options
import PmdPytcp.Sockets.Registry
import PmdPytcp.Udp.Parser

namespace PmdPytcp.Udp
open InetCksum Buffer Sockets
open TcpHandler (IpAddress IpEnvelope)
open Ip4 (Ip4Option)

structure UdpMetadata where
  isIp6 : Bool
  localAddress : IpAddress
  remoteAddress : IpAddress
  localPort : Nat
  remotePort : Nat
  data : List UInt8 := []
  ip4Options : Option (List Ip4Option) := none
  tos : Nat := 0

def ip4Broadcast : IpAddress := .ip4 (.replicate 4 0xFF)

-- `ff02::1:2` and `ff02::1:3`.
def dhcp6Group (last : UInt8) : IpAddress :=
  .ip6 (.ofFn fun i => if i.1 = 0 then 0xFF else if i.1 = 1 then 0x02 else if i.1 = 13 then 1 else if i.1 = 15 then last else 0)

def UdpMetadata.socketIds (md : UdpMetadata) : List SocketId :=
  let family : AddressFamily := if md.isIp6 then .inet6 else .inet4
  if md.isIp6 = false ∧ md.localPort = 68 ∧ md.remotePort = 67 then
    [⟨.inet4,.dgram,AddressFamily.inet4.wildcard,68,md.remoteAddress,67⟩,
      ⟨.inet4,.dgram,AddressFamily.inet4.wildcard,68,ip4Broadcast,67⟩]
  else if md.isIp6 = true ∧ md.localPort = 546 ∧ md.remotePort = 547 then
    [⟨.inet6,.dgram,AddressFamily.inet6.wildcard,546,dhcp6Group 2,547⟩,
      ⟨.inet6,.dgram,AddressFamily.inet6.wildcard,546,dhcp6Group 3,547⟩]
  else
    [⟨family,.dgram,md.localAddress,md.localPort,md.remoteAddress,md.remotePort⟩,
      ⟨family,.dgram,md.localAddress,md.localPort,md.remoteAddress.unspecified,0⟩,
      ⟨family,.dgram,md.localAddress.unspecified,md.localPort,md.remoteAddress.unspecified,0⟩]

structure PacketRx where
  ip : IpEnvelope
  ip4Options : List Ip4Option
  dscp : Nat
  ecn : Nat
  payloadLen : Nat
  pshdrSum : Nat
  frame : List UInt8
  packetBytes : List UInt8

structure Stats where
  preParse : Nat := 0
  ip6ZeroCksumDrop : Nat := 0
  failedParseDrop : Nat := 0
  multicastSourceFilteredDrop : Nat := 0
  socketMatch : Nat := 0
  ipSourceUnspecified : Nat := 0
  echoNativeRespondUdp : Nat := 0
  noSocketMatchIcmp4UnreachableSuppressed : Nat := 0
  noSocketMatchIcmp6UnreachableSuppressed : Nat := 0
  noSocketMatchRespondIcmp6Unreachable : Nat := 0
  noSocketMatchRespondIcmp4Unreachable : Nat := 0
deriving DecidableEq,Repr

inductive Sent where
  | udp (src dst : IpAddress) (sport dport : Nat) (payload : List UInt8)
  | icmp6Unreachable (src dst : IpAddress) (data : List UInt8)
  | icmp4Unreachable (src dst : IpAddress) (data : List UInt8)

-- What the handler reads elsewhere: the interface's checksum switch, the
-- multicast source filters and closed marks of sockets, the echo switch and the
-- verdict of the ICMP error gates.
structure Interface where
  rxCksumValidate : Bool
  multicastSourceAdmits : Nat → IpAddress → IpAddress → Bool
  closed : Nat → Bool
  udpEchoNative : Bool
  suppression : PacketRx → Option String

structure State where
  world : World
  stats : Stats
  queues : Store Nat (List UdpMetadata)
  sent : List Sent

def dgramRxQueueMaxLen : Nat := 512

def processUdpPacket (interface : Interface) (queues : Store Nat (List UdpMetadata)) (h : Nat) (md : UdpMetadata) :
    Store Nat (List UdpMetadata) :=
  let queue := (queues.get h).getD []
  if interface.closed h then queues
  else if dgramRxQueueMaxLen ≤ queue.length then queues
  else queues.set h (queue ++ [md])

def PacketRx.context (p : PacketRx) (interface : Interface) (acceptZeroCksumIp6 : Bool) : Context :=
  ⟨p.payloadLen,p.pshdrSum,p.ip.isIp6,acceptZeroCksumIp6,interface.rxCksumValidate⟩

-- The ports are read off the raw frame: the parser has raised.
def PacketRx.candidate (p : PacketRx) : UdpMetadata where
  isIp6 := p.ip.isIp6
  localAddress := p.ip.dst
  remoteAddress := p.ip.src
  localPort := beNat (slice p.frame 2 4)
  remotePort := beNat (slice p.frame 0 2)

-- The loop of `__phrx_udp__retry_zero_cksum_ip6`. Each lookup may move a cursor.
def retryZeroCksumIp6 (interface : Interface) (p : PacketRx) (w : World) :
    List SocketId → Except UdpError (Option UdpPacket × World)
  | [] => .ok (none,w)
  | id :: rest =>
    let looked := {w with table := (w.table.get id).2}
    match ((w.table.get id).1.bind w.sockets.get).filter Socket.udpNoCheck6Rx with
    | none => retryZeroCksumIp6 interface p looked rest
    | some _ =>
      match udpParser (p.context interface true) p.frame with
      | .error e => .error e
      | .ok packet => .ok (some packet,looked)

def isIp4Multicast : IpAddress → Bool
  | .ip4 octets => octets.toList.headD 0 &&& 0xF0 = 0xE0
  | .ip6 _ => false

def multicastSourceAllowed (interface : Interface) (p : PacketRx) (h : Nat) : Bool :=
  p.ip.isIp6 || !isIp4Multicast p.ip.dst || interface.multicastSourceAdmits h p.ip.dst p.ip.src

def PacketRx.metadata (p : PacketRx) (udp : UdpPacket) : UdpMetadata where
  isIp6 := p.ip.isIp6
  localAddress := p.ip.dst
  remoteAddress := p.ip.src
  localPort := udp.header.dport
  remotePort := udp.header.sport
  data := udp.payload
  ip4Options := if p.ip.isIp6 = false ∧ p.ip4Options ≠ [] then some p.ip4Options else none
  tos := (p.dscp <<< 2) ||| p.ecn

-- The socket that takes the datagram, with the cursors and counters on the way.
def matchSocket (interface : Interface) (p : PacketRx) (w : World) (stats : Stats) :
    List SocketId → Option Nat × World × Stats
  | [] => (none,w,stats)
  | id :: rest =>
    let looked := {w with table := (w.table.get id).2}
    match (w.table.get id).1 with
    | none => matchSocket interface p looked stats rest
    | some h =>
      if multicastSourceAllowed interface p h then (some h,looked,stats)
      else matchSocket interface p looked
        {stats with multicastSourceFilteredDrop := stats.multicastSourceFilteredDrop + 1} rest

def unmatched (interface : Interface) (p : PacketRx) (udp : UdpPacket) (state : State) : State :=
  let stats := state.stats
  if isUnspecified p.ip.src then {state with stats := {stats with ipSourceUnspecified := stats.ipSourceUnspecified + 1}}
  else if interface.udpEchoNative ∧ udp.header.dport = 7 then
    {state with stats := {stats with echoNativeRespondUdp := stats.echoNativeRespondUdp + 1}
                sent := state.sent ++ [.udp p.ip.dst p.ip.src udp.header.dport udp.header.sport udp.payload]}
  else match interface.suppression p,p.ip.isIp6 with
    | some _,false =>
      {state with stats := {stats with
        noSocketMatchIcmp4UnreachableSuppressed := stats.noSocketMatchIcmp4UnreachableSuppressed + 1}}
    | some _,true =>
      {state with stats := {stats with
        noSocketMatchIcmp6UnreachableSuppressed := stats.noSocketMatchIcmp6UnreachableSuppressed + 1}}
    | none,true =>
      {state with
        stats := {stats with noSocketMatchRespondIcmp6Unreachable := stats.noSocketMatchRespondIcmp6Unreachable + 1}
        sent := state.sent ++ [.icmp6Unreachable p.ip.dst p.ip.src p.packetBytes]}
    | none,false =>
      {state with
        stats := {stats with noSocketMatchRespondIcmp4Unreachable := stats.noSocketMatchRespondIcmp4Unreachable + 1}
        sent := state.sent ++ [.icmp4Unreachable p.ip.dst p.ip.src p.packetBytes]}

def deliver (interface : Interface) (p : PacketRx) (udp : UdpPacket) (state : State) : State :=
  let md := p.metadata udp
  match matchSocket interface p state.world state.stats md.socketIds with
  | (some h,world,stats) =>
    {state with world := world,stats := {stats with socketMatch := stats.socketMatch + 1}
                queues := processUdpPacket interface state.queues h md}
  | (none,world,stats) => unmatched interface p udp {state with world := world,stats := stats}

-- An exception of the retry leaves the handler: it is raised inside the `except`
-- clause, where the other clauses do not catch it.
def phrxUdp (interface : Interface) (p : PacketRx) (before : State) : Except UdpError State :=
  let state := {before with stats := {before.stats with preParse := before.stats.preParse + 1}}
  match udpParser (p.context interface false) p.frame with
  | .ok udp => .ok (deliver interface p udp state)
  | .error (.zeroCksumIp6 _) =>
    match retryZeroCksumIp6 interface p state.world p.candidate.socketIds with
    | .error e => .error e
    | .ok (some udp,world) => .ok (deliver interface p udp {state with world := world})
    | .ok (none,world) =>
      .ok {state with world := world
                      stats := {state.stats with ip6ZeroCksumDrop := state.stats.ip6ZeroCksumDrop + 1}}
  | .error (.other (.packetIntegrity _ _)) | .error (.other (.packetSanity _ _)) =>
    .ok {state with stats := {state.stats with failedParseDrop := state.stats.failedParseDrop + 1}}
  | .error e => .error e

end PmdPytcp.Udp
