import PmdPytcp.TcpAssembler

namespace PmdPytcp.TcpHandler
open InetCksum Buffer TcpParser TcpAssembler

inductive IpAddress where
  | ip4 (octets : Vector UInt8 4)
  | ip6 (octets : Vector UInt8 16)
deriving Repr,DecidableEq

def IpAddress.unspecified : IpAddress → IpAddress
  | .ip4 _ => .ip4 (.replicate 4 0)
  | .ip6 _ => .ip6 (.replicate 16 0)

-- What the handler reads of `packet_rx.ip`: one header, so both addresses are
-- of its version.
inductive IpEnvelope where
  | ip4 (src dst : Vector UInt8 4)
  | ip6 (src dst : Vector UInt8 16)
deriving Repr,DecidableEq

namespace IpEnvelope

def src : IpEnvelope → IpAddress
  | .ip4 src _ => .ip4 src
  | .ip6 src _ => .ip6 src

def dst : IpEnvelope → IpAddress
  | .ip4 _ dst => .ip4 dst
  | .ip6 _ dst => .ip6 dst

def isIp6 : IpEnvelope → Bool
  | .ip4 _ _ => false
  | .ip6 _ _ => true

end IpEnvelope

structure SocketId where
  inet6 : Bool
  localAddress : IpAddress
  localPort : Nat
  remoteAddress : IpAddress
  remotePort : Nat
deriving Repr,DecidableEq

structure TcpSocket where
  inet6 : Bool
  ipv6V6only : Bool
deriving Repr,DecidableEq

def socketId (ip : IpEnvelope) (tcp : TcpHeader) : SocketId :=
  ⟨ip.isIp6,ip.dst,tcp.dport,ip.src,tcp.sport⟩

-- The family's own listeners first, then the IPv6 wildcard for an IPv4 packet.
def listeningSocketIds (ip : IpEnvelope) (tcp : TcpHeader) : List SocketId :=
  [⟨ip.isIp6,ip.dst,tcp.dport,ip.src.unspecified,0⟩,
    ⟨ip.isIp6,ip.dst.unspecified,tcp.dport,ip.src.unspecified,0⟩] ++
  if ip.isIp6 then []
  else [⟨true,.ip6 (.replicate 16 0),tcp.dport,.ip6 (.replicate 16 0),0⟩]

def skipsFamily (ip : IpEnvelope) (socket : TcpSocket) : Bool :=
  socket.inet6 && !ip.isIp6 && socket.ipv6V6only

def matchListening (sockets : SocketId → Option TcpSocket) (ip : IpEnvelope) (tcp : TcpHeader) : Option TcpSocket :=
  if tcp.flagSyn && !(tcp.flagAck || tcp.flagFin || tcp.flagRst) then
    (listeningSocketIds ip tcp).findSome? fun id => (sockets id).filter fun socket => !skipsFamily ip socket
  else none

-- The arguments of `_phtx_tcp`.
structure TxArguments where
  ipSrc : IpAddress
  ipDst : IpAddress
  ipTtl : Option Nat := none
  ipEcn : Nat := 0
  ipDscp : Nat := 0
  sport : Nat
  dport : Nat
  seq : Nat := 0
  ack : Nat := 0
  flagNs : Bool := false
  flagCwr : Bool := false
  flagEce : Bool := false
  flagUrg : Bool := false
  flagAck : Bool := false
  flagPsh : Bool := false
  flagRst : Bool := false
  flagSyn : Bool := false
  flagFin : Bool := false
  mss : Option Nat := none
  wscale : Option Nat := none
  sackperm : Bool := false
  sackBlocks : Option (List (Nat × Nat)) := none
  tsval : Option Nat := none
  tsecr : Option Nat := none
  fastopenCookie : Option (List UInt8) := none
  accecn0Counters : Option (Option Nat × Option Nat × Option Nat) := none
  accecn1Counters : Option (Option Nat × Option Nat × Option Nat) := none
  win : Nat := 0
  urg : Nat := 0
  payload : List UInt8 := []

namespace TxArguments

def timestamps (tx : TxArguments) : List TcpOption :=
  match tx.tsval,tx.tsecr with
  | some tsval,some tsecr => [.timestamps tsval tsecr]
  | _,_ => []

-- An option whose argument is zero or empty is not sent.
def requestedOptions (tx : TxArguments) : List TcpOption :=
  ((tx.mss.filter (· ≠ 0)).map TcpOption.mss).toList ++
  (if tx.sackperm then [.sackperm] else []) ++
  ((tx.wscale.filter (· ≠ 0)).map fun wscale => [.nop,TcpOption.wscale wscale]).getD [] ++
  ((tx.sackBlocks.filter (· ≠ [])).map TcpOption.sack).toList ++
  tx.timestamps ++
  (tx.fastopenCookie.map TcpOption.fastopen).toList ++
  (tx.accecn0Counters.map fun (ee0b,eceb,ee1b) => TcpOption.accecn0 ee0b eceb ee1b).toList ++
  (tx.accecn1Counters.map fun (ee0b,eceb,ee1b) => TcpOption.accecn1 ee0b eceb ee1b).toList

def options (tx : TxArguments) : List TcpOption :=
  tx.requestedOptions ++ List.replicate ((4 - optionsLen tx.requestedOptions % 4) % 4) .nop

def assembler (tx : TxArguments) : TcpArguments where
  sport := tx.sport
  dport := tx.dport
  seq := tx.seq
  ack := tx.ack
  flagNs := tx.flagNs
  flagCwr := tx.flagCwr
  flagEce := tx.flagEce
  flagUrg := tx.flagUrg
  flagAck := tx.flagAck
  flagPsh := tx.flagPsh
  flagRst := tx.flagRst
  flagSyn := tx.flagSyn
  flagFin := tx.flagFin
  win := tx.win
  urg := tx.urg
  options := tx.options
  payload := tx.payload

end TxArguments

-- The one call of `_phtx_ip4` or `_phtx_ip6`; TCP over IPv4 sets DF.
inductive IpRequest where
  | ip4 (src dst : Vector UInt8 4) (ttl : Option Nat) (ecn dscp : Nat) (flagDf : Bool) (payload : TcpPacket)
  | ip6 (src dst : Vector UInt8 16) (hop : Option Nat) (ecn dscp : Nat) (payload : TcpPacket)
deriving Repr,DecidableEq

def phtxTcp (tx : TxArguments) : Py IpRequest := do
  let packet ← tcpAssembler tx.assembler
  match tx.ipSrc,tx.ipDst with
  | .ip6 src,.ip6 dst => return .ip6 src dst tx.ipTtl tx.ipEcn tx.ipDscp packet
  | .ip4 src,.ip4 dst => return .ip4 src dst tx.ipTtl tx.ipEcn tx.ipDscp true packet
  | _,_ => throw .valueError

inductive Disposal where
  | forward (socket : TcpSocket)
  | drop
  | respond (request : IpRequest)
deriving Repr,DecidableEq

def resetTx (ip : IpEnvelope) (tcp : TcpHeader) (seq ack : Nat) (flagAck : Bool) : TxArguments where
  ipSrc := ip.dst
  ipDst := ip.src
  sport := tcp.dport
  dport := tcp.sport
  seq := seq
  ack := ack
  flagRst := true
  flagAck := flagAck

-- `_phrx_tcp` once the segment is parsed; `_marshal_tx` runs its argument
-- inline. The acknowledgement number is a plain integer sum.
def phrxTcp (sockets : SocketId → Option TcpSocket) (ip : IpEnvelope) (packet : TcpPacket) : Py Disposal := do
  let tcp := packet.header
  if let some socket := sockets (socketId ip tcp) then return .forward socket
  if let some socket := matchListening sockets ip tcp then return .forward socket
  if tcp.flagRst then return .drop
  let request ←
    if tcp.flagAck then phtxTcp (resetTx ip tcp tcp.ack 0 false)
    else phtxTcp (resetTx ip tcp 0 (tcp.seq + tcp.flagSyn.toNat + tcp.flagFin.toNat + packet.payload.length) true)
  return .respond request

def Unmatched (sockets : SocketId → Option TcpSocket) (ip : IpEnvelope) (tcp : TcpHeader) : Prop :=
  sockets (socketId ip tcp) = none ∧ matchListening sockets ip tcp = none

def segLen (packet : TcpPacket) : Nat :=
  packet.payload.length + packet.header.flagSyn.toNat + packet.header.flagFin.toNat

def resetHeader (tcp : TcpHeader) (seq ack : Nat) (flagAck : Bool) : TcpHeader where
  sport := tcp.dport
  dport := tcp.sport
  seq := seq
  ack := ack
  hlen := 20
  flagNs := false
  flagCwr := false
  flagEce := false
  flagUrg := false
  flagAck := flagAck
  flagPsh := false
  flagRst := true
  flagSyn := false
  flagFin := false
  win := 0
  cksum := 0
  urg := 0

def resetRequest (ip : IpEnvelope) (header : TcpHeader) : IpRequest :=
  match ip with
  | .ip4 src dst => .ip4 dst src none 0 0 true ⟨header,[],[]⟩
  | .ip6 src dst => .ip6 dst src none 0 0 ⟨header,[],[]⟩

-- `<SEQ=SEG.ACK><CTL=RST>` to a segment with ACK, and otherwise
-- `<SEQ=0><ACK=SEG.SEQ+SEG.LEN><CTL=RST,ACK>` in sequence number arithmetic.
def rfcReset (packet : TcpPacket) : TcpHeader :=
  if packet.header.flagAck then resetHeader packet.header packet.header.ack 0 false
  else resetHeader packet.header 0 ((packet.header.seq + segLen packet) % 2^32) true

def Resets (sockets : SocketId → Option TcpSocket) (ip : IpEnvelope) (packet : TcpPacket) : Prop :=
  phrxTcp sockets ip packet = .ok (.respond (resetRequest ip (rfcReset packet)))

theorem resetTx_options (ip : IpEnvelope) (tcp : TcpHeader) (seq ack : Nat) (flagAck : Bool) :
    (resetTx ip tcp seq ack flagAck).options = [] := by
  have none : (resetTx ip tcp seq ack flagAck).requestedOptions = [] := by
    simp [TxArguments.requestedOptions,TxArguments.timestamps,resetTx]
  simp [TxArguments.options,none,optionsLen]

theorem resetTx_header (ip : IpEnvelope) (tcp : TcpHeader) (seq ack : Nat) (flagAck : Bool) :
    (resetTx ip tcp seq ack flagAck).assembler.header = resetHeader tcp seq ack flagAck := by
  have options : (resetTx ip tcp seq ack flagAck).assembler.options = [] := resetTx_options ip tcp seq ack flagAck
  simp only [TcpArguments.header,options]
  simp [TxArguments.assembler,resetTx,resetHeader,optionsLen]

-- A reset has neither options nor payload, and its other fields come from the
-- segment: only the acknowledgement number can be out of range.
theorem phtxTcp_reset (ip : IpEnvelope) (ports : isUint 16 tcp.sport = true ∧ isUint 16 tcp.dport = true)
    (small : isUint 32 seq = true) (ack : Nat) (flagAck : Bool) :
    phtxTcp (resetTx ip tcp seq ack flagAck) =
      if ack < 2^32 then .ok (resetRequest ip (resetHeader tcp seq ack flagAck)) else .error .assertionError := by
  have options : (resetTx ip tcp seq ack flagAck).assembler.options = [] := resetTx_options ip tcp seq ack flagAck
  have payload : (resetTx ip tcp seq ack flagAck).assembler.payload = [] := rfl
  have range : headerPostInit (resetHeader tcp seq ack flagAck) = pyAssert (isUint 32 ack) := by
    simp only [headerPostInit,resetHeader,ports.1,ports.2,small,pyAssert_true,ok_bind]
    cases isUint 32 ack <;> rfl
  have assembled : tcpAssembler (resetTx ip tcp seq ack flagAck).assembler =
      pyAssert (isUint 32 ack) >>= fun _ => .ok ⟨resetHeader tcp seq ack flagAck,[],[]⟩ := by
    simp only [tcpAssembler,options,payload,resetTx_header,range]
    rfl
  rw [phtxTcp,assembled]
  by_cases fits : ack < 2^32
  · have uint : isUint 32 ack = true := by simpa [isUint] using fits
    rw [uint,if_pos fits]
    cases ip <;> rfl
  · have wide : isUint 32 ack = false := by simpa [isUint] using fits
    rw [wide,if_neg fits]
    rfl

theorem phrxTcp_unmatched (unmatched : Unmatched sockets ip packet.header) (plain : packet.header.flagRst = false) :
    phrxTcp sockets ip packet = (if packet.header.flagAck then phtxTcp (resetTx ip packet.header packet.header.ack 0 false)
      else phtxTcp (resetTx ip packet.header 0 (packet.header.seq + segLen packet) true)) >>= fun request =>
        .ok (.respond request) := by
  have sum : packet.header.seq + packet.header.flagSyn.toNat + packet.header.flagFin.toNat + packet.payload.length =
      packet.header.seq + segLen packet := by
    simp only [segLen]
    omega
  simp only [phrxTcp,unmatched.1,unmatched.2,plain,sum]
  cases packet.header.flagAck <;> rfl

-- The received header is an object of its class, so its fields are in range.
theorem unmatched_reset_iff (sockets : SocketId → Option TcpSocket) (ip : IpEnvelope) (packet : TcpPacket)
    (built : headerPostInit packet.header = .ok ()) (unmatched : Unmatched sockets ip packet.header)
    (plain : packet.header.flagRst = false) :
    Resets sockets ip packet ↔ packet.header.flagAck = true ∨ packet.header.seq + segLen packet < 2^32 := by
  simp only [headerPostInit,bind_ok,pyAssert_ok] at built
  obtain ⟨_,sport,_,dport,_,_,_,ack,_⟩ := built
  rw [Resets,phrxTcp_unmatched unmatched plain,rfcReset]
  by_cases acked : packet.header.flagAck = true
  · have sent := phtxTcp_reset ip ⟨sport,dport⟩ ack 0 false
    simp only [acked,if_true,sent,ok_bind,true_or,if_pos (show 0 < 2^32 by decide)]
  · have zero : isUint 32 0 = true := by decide
    have sent := phtxTcp_reset ip ⟨sport,dport⟩ zero (packet.header.seq + segLen packet) true
    rw [if_neg acked,if_neg acked,sent]
    by_cases fits : packet.header.seq + segLen packet < 2^32
    · rw [if_pos fits,Nat.mod_eq_of_lt fits]
      exact iff_of_true rfl (.inr fits)
    · rw [if_neg fits]
      refine iff_of_false ?_ (not_or.mpr ⟨acked,fits⟩)
      intro raised
      cases raised

-- A SYN to a closed port, at the end of the sequence space and before it.
def closedSyn (seq : Nat) : TcpPacket :=
  ⟨{TcpArguments.header {sport := 1,dport := 2,seq := seq,flagSyn := true,win := 1024} with cksum := 0x1234},[],[]⟩

def twoHosts : IpEnvelope := .ip4 firstHost secondHost

theorem unmatched_reset_syn : Resets (fun _ => none) twoHosts (closedSyn 7) :=
  (unmatched_reset_iff (fun _ => none) twoHosts (closedSyn 7) (by decide +kernel) ⟨rfl,rfl⟩ rfl).mpr
    (.inr (by decide +kernel))

theorem unmatched_reset_raises :
    phrxTcp (fun _ => none) twoHosts (closedSyn (2^32-1)) = .error .assertionError ∧
      ¬Resets (fun _ => none) twoHosts (closedSyn (2^32-1)) := by
  unfold Resets
  decide +kernel

end PmdPytcp.TcpHandler
