import PmdPytcp.Tcp.Receive.Run
import PmdPytcp.Tcp.Refine.Run

namespace PmdPytcp.IcmpErrors
open InetCksum Buffer TcpAssembler TcpHandler Tcp Arc

inductive IpProto where
  | udp | tcp
deriving Repr,DecidableEq

structure EmbeddedL4 where
  version : Plpmtud.IpVersion
  proto : IpProto
  localIp : IpAddress
  remoteIp : IpAddress
  localPort : Nat
  remotePort : Nat
  embeddedSeq : Option Seq32

-- The address constructors are given exactly `n` octets of the frame.
def addressAt (n : Nat) (frame : List UInt8) (offset : Nat) : Vector UInt8 n :=
  .ofFn fun i => frame[offset + i.1]?.getD 0

-- `IpProto.from_int`, of which the demux knows two values.
def protoOf (octet : UInt8) : Option IpProto :=
  if octet = 17 then some .udp else if octet = 6 then some .tcp else none

-- The ports and, for TCP, the number are in the first 8 octets of the L4 header.
def embeddedL4 (version : Plpmtud.IpVersion) (localIp remoteIp : IpAddress) (proto : IpProto) (frame : List UInt8)
    (offset : Nat) : EmbeddedL4 where
  version := version
  proto := proto
  localIp := localIp
  remoteIp := remoteIp
  localPort := beNat (slice frame offset (offset+2))
  remotePort := beNat (slice frame (offset+2) (offset+4))
  embeddedSeq :=
    match proto with
    | .tcp => some (.ofNat 32 (beNat (slice frame (offset+4) (offset+8))))
    | .udp => none

def parseEmbeddedIp4 (frame : List UInt8) : Option EmbeddedL4 :=
  let first := (frame[0]?.getD 0).toNat
  let ihlBytes := (first &&& 0x0F) <<< 2
  if frame.length < 20 then none
  else if (first &&& 0xF0) >>> 4 ≠ 4 then none
  else if ihlBytes < 20 ∨ frame.length < ihlBytes then none
  else match protoOf (frame[9]?.getD 0) with
    | none => none
    | some proto =>
      if frame.length < ihlBytes + 8 then none
      else some (embeddedL4 .ip4 (.ip4 (addressAt 4 frame 12)) (.ip4 (addressAt 4 frame 16)) proto frame ihlBytes)

-- Extension headers are not followed.
def parseEmbeddedIp6 (frame : List UInt8) : Option EmbeddedL4 :=
  let first := (frame[0]?.getD 0).toNat
  if frame.length < 40 then none
  else if (first &&& 0xF0) >>> 4 ≠ 6 then none
  else match protoOf (frame[6]?.getD 0) with
    | none => none
    | some proto =>
      if frame.length < 40 + 8 then none
      else some (embeddedL4 .ip6 (.ip6 (addressAt 16 frame 8)) (.ip6 (addressAt 16 frame 24)) proto frame 40)

def parseEmbeddedL4 (frame : List UInt8) : Plpmtud.IpVersion → Option EmbeddedL4
  | .ip4 => parseEmbeddedIp4 frame
  | .ip6 => parseEmbeddedIp6 frame

def EmbeddedL4.socketId (embedded : EmbeddedL4) : SocketId :=
  ⟨embedded.version = .ip6,embedded.localIp,embedded.localPort,embedded.remoteIp,embedded.remotePort⟩

inductive SoEeOrigin where
  | icmp | icmp6
deriving Repr,DecidableEq

inductive Errno where
  | enetunreach | ehostunreach | enoprotoopt | econnrefused | emsgsize | eopnotsupp | ehostdown | eproto | eacces
deriving Repr,DecidableEq

structure ErrorQueueEntry where
  errno : Errno
  origin : SoEeOrigin
  icmpType : Nat
  icmpCode : Nat
  eeInfo : Nat := 0
  offenderIp : IpAddress
  embeddedDatagram : List UInt8
deriving Repr,DecidableEq

def icmp4ToErrno (icmpType icmpCode : Nat) : Errno :=
  if icmpType = 3 then
    if icmpCode = 0 then .enetunreach
    else if icmpCode = 1 then .ehostunreach
    else if icmpCode = 2 then .enoprotoopt
    else if icmpCode = 3 then .econnrefused
    else if icmpCode = 4 then .emsgsize
    else if icmpCode = 5 then .eopnotsupp
    else if icmpCode = 6 ∨ icmpCode = 7 then .enetunreach
    else if icmpCode = 8 then .ehostdown
    else if icmpCode = 9 ∨ icmpCode = 11 then .enetunreach
    else .ehostunreach
  else if icmpType = 12 then .eproto
  else .ehostunreach

def icmp6ToErrno (icmpType icmpCode : Nat) : Errno :=
  if icmpType = 1 then
    if icmpCode = 0 then .enetunreach
    else if icmpCode = 1 then .eacces
    else if icmpCode = 2 ∨ icmpCode = 3 then .ehostunreach
    else if icmpCode = 4 then .econnrefused
    else if icmpCode = 5 ∨ icmpCode = 6 then .eacces
    else .ehostunreach
  else if icmpType = 2 then .emsgsize
  else if icmpType = 4 then .eproto
  else .ehostunreach

def buildIcmpErrorEntry (origin : SoEeOrigin) (icmpType icmpCode : Nat) (offenderIp : IpAddress)
    (embeddedDatagram : List UInt8) : ErrorQueueEntry where
  errno :=
    match origin with
    | .icmp6 => icmp6ToErrno icmpType icmpCode
    | .icmp => icmp4ToErrno icmpType icmpCode
  origin := origin
  icmpType := icmpType
  icmpCode := icmpCode
  offenderIp := offenderIp
  embeddedDatagram := embeddedDatagram

-- `notify_pmtu` builds its entry in place, with the MTU.
def pmtuErrorEntry (origin : SoEeOrigin) (icmpType icmpCode nextHopMtu : Nat) (offenderIp : IpAddress)
    (embeddedDatagram : List UInt8) : ErrorQueueEntry :=
  {errno := .emsgsize,origin := origin,icmpType := icmpType,icmpCode := icmpCode,eeInfo := nextHopMtu
   offenderIp := offenderIp,embeddedDatagram := embeddedDatagram}

def errorQueueMaxLen : Nat := 32

structure TcpSocket where
  inet6 : Bool
  ipRecverr : Bool
  ipv6Recverr : Bool
  tcpSession : Option TcpSession
  errorQueue : List ErrorQueueEntry
  errorQueueReady : Nat

namespace TcpSocket

def isRecverrEnabled (socket : TcpSocket) : Bool := if socket.inet6 then socket.ipv6Recverr else socket.ipRecverr

-- A full deque drops its oldest entry, and then no permit is released.
def enqueueError (entry : ErrorQueueEntry) (socket : TcpSocket) : TcpSocket :=
  if socket.isRecverrEnabled then
    if socket.errorQueue.length = errorQueueMaxLen then {socket with errorQueue := socket.errorQueue.tail ++ [entry]}
    else
      {socket with
        errorQueue := socket.errorQueue ++ [entry]
        errorQueueReady := socket.errorQueueReady + 1}
  else socket

end TcpSocket

-- The counters of `packet_stats_rx` that tell what the TCP demux did.
inductive RxCounter where
  | icmp4DestinationUnreachableFragmentationNeededNotifyPmtu
  | icmp4DestinationUnreachableTcpNotify
  | icmp4DestinationUnreachableTcpSeqOutOfWindowDrop
  | icmp4TimeExceededTcpNotify
  | icmp4TimeExceededTcpSeqOutOfWindowDrop
  | icmp4ParameterProblemTcpNotify
  | icmp4ParameterProblemTcpSeqOutOfWindowDrop
  | icmp6DestinationUnreachableTcpNotify
  | icmp6DestinationUnreachableTcpSeqOutOfWindowDrop
  | icmp6TimeExceededTcpNotify
  | icmp6TimeExceededTcpSeqOutOfWindowDrop
  | icmp6ParameterProblemTcpNotify
  | icmp6ParameterProblemTcpSeqOutOfWindowDrop
  | icmp6PacketTooBigNotifyPmtu
  | icmp6PacketTooBigTcpSeqOutOfWindowDrop
deriving Repr,DecidableEq

structure Stack where
  sockets : SocketId → Option TcpSocket
  packetStatsRx : RxCounter → Nat

namespace Stack

def bump (counter : RxCounter) (stack : Stack) : Stack :=
  {stack with packetStatsRx := fun c => if c = counter then stack.packetStatsRx c + 1 else stack.packetStatsRx c}

def write (id : SocketId) (socket : Option TcpSocket) (stack : Stack) : Stack :=
  {stack with sockets := fun i => if i = id then socket else stack.sockets i}

end Stack

-- A session that the event closes leaves the table; its socket is told all the same.
def registered (socket : TcpSocket) : Option TcpSocket :=
  if (socket.tcpSession.map TcpSession.state) = some .closed then none else some socket

-- What one of the handlers passes on to the session and to its socket.
structure Report where
  drop : RxCounter
  notified : RxCounter
  metadata : TcpSession.IcmpMetadata
  entry : ErrorQueueEntry

def dispatchTcp (e : Env) (embedded : EmbeddedL4) (report : Report) (stack : Stack) : Stack :=
  match stack.sockets embedded.socketId with
  | none => stack
  | some socket =>
    match socket.tcpSession with
    | none => stack
    | some session =>
      if embedded.embeddedSeq.any fun seq => !session.isSeqInWindow seq then stack.bump report.drop
      else
        let socket := {socket with tcpSession := some (session.tcpFsmIcmp e report.metadata)}
        (stack.write embedded.socketId (registered (socket.enqueueError report.entry))).bump report.notified

-- A Destination Unreachable of code 4 carries an MTU, and no other does.
inductive IcmpMessage where
  | icmp4DestinationUnreachable (code : Nat) (mtu : Option Nat) (data : List UInt8)
  | icmp4TimeExceeded (code : Nat) (data : List UInt8)
  | icmp4ParameterProblem (code : Nat) (data : List UInt8)
  | icmp6DestinationUnreachable (code : Nat) (data : List UInt8)
  | icmp6TimeExceeded (code : Nat) (data : List UInt8)
  | icmp6ParameterProblem (code : Nat) (data : List UInt8)
  | icmp6PacketTooBig (code mtu : Nat) (data : List UInt8)

namespace IcmpMessage

def version : IcmpMessage → Plpmtud.IpVersion
  | .icmp4DestinationUnreachable .. | .icmp4TimeExceeded .. | .icmp4ParameterProblem .. => .ip4
  | .icmp6DestinationUnreachable .. | .icmp6TimeExceeded .. | .icmp6ParameterProblem .. | .icmp6PacketTooBig .. => .ip6

def data : IcmpMessage → List UInt8
  | .icmp4DestinationUnreachable _ _ data => data
  | .icmp4TimeExceeded _ data => data
  | .icmp4ParameterProblem _ data => data
  | .icmp6DestinationUnreachable _ data => data
  | .icmp6TimeExceeded _ data => data
  | .icmp6ParameterProblem _ data => data
  | .icmp6PacketTooBig _ _ data => data

end IcmpMessage

def icmp4DispatchTcp (offender : IpAddress) (code : Nat) (mtu : Option Nat) (data : List UInt8) : Report :=
  match mtu.filter fun _ => decide (code = 4) with
  | some mtu =>
    {drop := .icmp4DestinationUnreachableTcpSeqOutOfWindowDrop
     notified := .icmp4DestinationUnreachableFragmentationNeededNotifyPmtu
     metadata := .pmtu mtu .ip4
     entry := pmtuErrorEntry .icmp 3 code mtu offender data}
  | none =>
    {drop := .icmp4DestinationUnreachableTcpSeqOutOfWindowDrop
     notified := .icmp4DestinationUnreachableTcpNotify
     metadata := .destUnreachable 3 code
     entry := buildIcmpErrorEntry .icmp 3 code offender data}

def icmp4TimeExceededDispatchTcp (offender : IpAddress) (code : Nat) (data : List UInt8) : Report where
  drop := .icmp4TimeExceededTcpSeqOutOfWindowDrop
  notified := .icmp4TimeExceededTcpNotify
  metadata := .other
  entry := buildIcmpErrorEntry .icmp 11 code offender data

def icmp4ParameterProblemDispatchTcp (offender : IpAddress) (code : Nat) (data : List UInt8) : Report where
  drop := .icmp4ParameterProblemTcpSeqOutOfWindowDrop
  notified := .icmp4ParameterProblemTcpNotify
  metadata := .other
  entry := buildIcmpErrorEntry .icmp 12 code offender data

def icmp6DispatchTcpUnreachable (offender : IpAddress) (code : Nat) (data : List UInt8) : Report where
  drop := .icmp6DestinationUnreachableTcpSeqOutOfWindowDrop
  notified := .icmp6DestinationUnreachableTcpNotify
  metadata := .destUnreachable 1 code
  entry := buildIcmpErrorEntry .icmp6 1 code offender data

def icmp6TimeExceededDispatchTcp (offender : IpAddress) (code : Nat) (data : List UInt8) : Report where
  drop := .icmp6TimeExceededTcpSeqOutOfWindowDrop
  notified := .icmp6TimeExceededTcpNotify
  metadata := .other
  entry := buildIcmpErrorEntry .icmp6 3 code offender data

def icmp6ParameterProblemDispatchTcp (offender : IpAddress) (code : Nat) (data : List UInt8) : Report where
  drop := .icmp6ParameterProblemTcpSeqOutOfWindowDrop
  notified := .icmp6ParameterProblemTcpNotify
  metadata := .other
  entry := buildIcmpErrorEntry .icmp6 4 code offender data

def icmp6DispatchTcpPmtu (offender : IpAddress) (code mtu : Nat) (data : List UInt8) : Report where
  drop := .icmp6PacketTooBigTcpSeqOutOfWindowDrop
  notified := .icmp6PacketTooBigNotifyPmtu
  metadata := .pmtu mtu .ip6
  entry := pmtuErrorEntry .icmp6 2 code mtu offender data

def IcmpMessage.report (offender : IpAddress) : IcmpMessage → Report
  | .icmp4DestinationUnreachable code mtu data => icmp4DispatchTcp offender code mtu data
  | .icmp4TimeExceeded code data => icmp4TimeExceededDispatchTcp offender code data
  | .icmp4ParameterProblem code data => icmp4ParameterProblemDispatchTcp offender code data
  | .icmp6DestinationUnreachable code data => icmp6DispatchTcpUnreachable offender code data
  | .icmp6TimeExceeded code data => icmp6TimeExceededDispatchTcp offender code data
  | .icmp6ParameterProblem code data => icmp6ParameterProblemDispatchTcp offender code data
  | .icmp6PacketTooBig code mtu data => icmp6DispatchTcpPmtu offender code mtu data

-- The UDP sockets an error can go to instead are not in this table.
def phrxIcmpError (e : Env) (offender : IpAddress) (message : IcmpMessage) (stack : Stack) : Stack :=
  match parseEmbeddedL4 message.data message.version with
  | none => stack
  | some embedded =>
    match embedded.proto with
    | .udp => stack
    | .tcp => dispatchTcp e embedded (message.report offender) stack

-- The four-tuple and the number as they stand on the wire, behind an IP header.
def l4Octets (localPort remotePort : Nat) (seq : Seq32) : List UInt8 :=
  beBytes 2 localPort ++ (beBytes 2 remotePort ++ beBytes 4 seq.toNat)

structure Ip4Header (header : List UInt8) (src dst : Vector UInt8 4) : Prop where
  version : (header[0]?.getD 0).toNat / 16 = 4
  ihl : 4 * ((header[0]?.getD 0).toNat % 16) = header.length
  fixed : 20 ≤ header.length
  proto : header[9]? = some 6
  src : ∀ i : Fin 4, header[12 + i.1]? = some src[i]
  dst : ∀ i : Fin 4, header[16 + i.1]? = some dst[i]

structure Ip6Header (header : List UInt8) (src dst : Vector UInt8 16) : Prop where
  version : (header[0]?.getD 0).toNat / 16 = 6
  fixed : header.length = 40
  proto : header[6]? = some 6
  src : ∀ i : Fin 16, header[8 + i.1]? = some src[i]
  dst : ∀ i : Fin 16, header[24 + i.1]? = some dst[i]

-- The error quotes a segment that the connection `id` sent with number `seq`.
inductive Quotes (seq : Seq32) : IcmpMessage → SocketId → Prop where
  | ip4 {message : IcmpMessage} {header rest : List UInt8} {src dst : Vector UInt8 4} {sport dport : Nat}
      (version : message.version = .ip4) (behind : Ip4Header header src dst)
      (data : message.data = header ++ (l4Octets sport dport seq ++ rest)) (ports : sport < 65536 ∧ dport < 65536) :
      Quotes seq message ⟨false,.ip4 src,sport,.ip4 dst,dport⟩
  | ip6 {message : IcmpMessage} {header rest : List UInt8} {src dst : Vector UInt8 16} {sport dport : Nat}
      (version : message.version = .ip6) (behind : Ip6Header header src dst)
      (data : message.data = header ++ (l4Octets sport dport seq ++ rest)) (ports : sport < 65536 ∧ dport < 65536) :
      Quotes seq message ⟨true,.ip6 src,sport,.ip6 dst,dport⟩

theorem high_nibble (octet : UInt8) : (octet.toNat &&& 0xF0) >>> 4 = octet.toNat / 16 := by
  have all : ∀ n : Fin 256, (n.1 &&& 0xF0) >>> 4 = n.1 / 16 := by decide +kernel
  exact all ⟨octet.toNat,octet.toNat_lt⟩

theorem header_length (octet : UInt8) : (octet.toNat &&& 0x0F) <<< 2 = 4 * (octet.toNat % 16) := by
  have all : ∀ n : Fin 256, (n.1 &&& 0x0F) <<< 2 = 4 * (n.1 % 16) := by decide +kernel
  exact all ⟨octet.toNat,octet.toNat_lt⟩

theorem l4_fields (header rest : List UInt8) {localPort remotePort : Nat} (seq : Seq32)
    (ports : localPort < 65536 ∧ remotePort < 65536) (version : Plpmtud.IpVersion) (localIp remoteIp : IpAddress) :
    embeddedL4 version localIp remoteIp .tcp (header ++ (l4Octets localPort remotePort seq ++ rest)) header.length =
      ⟨version,.tcp,localIp,remoteIp,localPort,remotePort,some seq⟩ := by
  have frame : header ++ (l4Octets localPort remotePort seq ++ rest) =
      header ++ (beBytes 2 localPort ++ (beBytes 2 remotePort ++ (beBytes 4 seq.toNat ++ rest))) := by
    simp [l4Octets]
  rw [frame]
  have first := slice_field header (beBytes 2 localPort) (beBytes 2 remotePort ++ (beBytes 4 seq.toNat ++ rest))
  have second := slice_field (header ++ beBytes 2 localPort) (beBytes 2 remotePort) (beBytes 4 seq.toNat ++ rest)
  have third := slice_field (header ++ beBytes 2 localPort ++ beBytes 2 remotePort) (beBytes 4 seq.toNat) rest
  simp only [List.append_assoc,List.length_append,beBytes_length,Nat.add_assoc,Nat.reduceAdd] at first second third
  unfold embeddedL4
  dsimp only
  rw [first,second,third,beNat_beBytes 2 _ ports.1,beNat_beBytes 2 _ ports.2,beNat_beBytes 4 _ seq.isLt,
    BitVec.ofNat_toNat,BitVec.setWidth_eq]

theorem addressAt_header {n offset : Nat} {header : List UInt8} {address : Vector UInt8 n}
    (octets : ∀ i : Fin n, header[offset + i.1]? = some address[i]) (rest : List UInt8) :
    addressAt n (header ++ rest) offset = address := by
  unfold addressAt
  ext i small
  have octet := octets ⟨i,small⟩
  obtain ⟨inside,_⟩ := List.getElem?_eq_some_iff.mp octet
  rw [Vector.getElem_ofFn,List.getElem?_append_left inside,octet]
  rfl

theorem quoted_parses {seq : Seq32} {message : IcmpMessage} {id : SocketId} (quotes : Quotes seq message id) :
    ∃ embedded, parseEmbeddedL4 message.data message.version = some embedded ∧ embedded.proto = .tcp ∧
      embedded.socketId = id ∧ embedded.embeddedSeq = some seq := by
  cases quotes with
  | @ip4 header rest src dst sport dport version behind data ports =>
    have fixed := behind.fixed
    have octets : (l4Octets sport dport seq).length = 8 := by simp [l4Octets]
    refine ⟨⟨.ip4,.tcp,.ip4 src,.ip4 dst,sport,dport,some seq⟩,?_,rfl,rfl,rfl⟩
    rw [version,data]
    unfold parseEmbeddedL4 parseEmbeddedIp4
    have first : (header ++ (l4Octets sport dport seq ++ rest))[0]? = header[0]? :=
      List.getElem?_append_left (by omega)
    have ninth : (header ++ (l4Octets sport dport seq ++ rest))[9]? = some 6 := by
      rw [List.getElem?_append_left (by omega)]
      exact behind.proto
    simp only [first,ninth,high_nibble,header_length,behind.version,behind.ihl]
    rw [if_neg (by simp; omega),if_neg (by simp),if_neg (by simp; omega)]
    show (if _ then _ else _) = _
    rw [if_neg (by simp [octets]),addressAt_header behind.src,addressAt_header behind.dst,l4_fields header rest seq ports]
  | @ip6 header rest src dst sport dport version behind data ports =>
    have fixed := behind.fixed
    have octets : (l4Octets sport dport seq).length = 8 := by simp [l4Octets]
    refine ⟨⟨.ip6,.tcp,.ip6 src,.ip6 dst,sport,dport,some seq⟩,?_,rfl,rfl,rfl⟩
    rw [version,data]
    unfold parseEmbeddedL4 parseEmbeddedIp6
    have first : (header ++ (l4Octets sport dport seq ++ rest))[0]? = header[0]? :=
      List.getElem?_append_left (by omega)
    have sixth : (header ++ (l4Octets sport dport seq ++ rest))[6]? = some 6 := by
      rw [List.getElem?_append_left (by omega)]
      exact behind.proto
    simp only [first,sixth,high_nibble,behind.version]
    rw [if_neg (by simp; omega),if_neg (by simp)]
    show (if _ then _ else _) = _
    have fields := l4_fields header rest seq ports .ip6 (.ip6 src) (.ip6 dst)
    rw [fixed] at fields
    rw [if_neg (by simp [octets]; omega),addressAt_header behind.src,addressAt_header behind.dst,fields]

-- A number between SND.UNA and SND.MAX, wherever SND.NXT stands.
def Outstanding (q : SendSeqState) (seq : Seq32) : Prop := arc q.una seq < arc q.una q.max

instance (q : SendSeqState) (seq : Seq32) : Decidable (Outstanding q seq) :=
  inferInstanceAs (Decidable (_ < _))

-- The states whose handler is `fsm__icmp__synchronized`.
def Synchronized (state : FsmState) : Prop := state ≠ .closed ∧ state ≠ .listen ∧ state ≠ .synSent

-- A path MTU report reaches the send side; any other error is only noted.
def heeded (e : Env) (metadata : TcpSession.IcmpMetadata) (s : TcpSession) : TcpSession :=
  match metadata with
  | .pmtu nextHopMtu version => (s.applyPmtuUpdate e nextHopMtu version).pumpTail e s.state true
  | _ => s.pumpTail e s.state true

structure ActedOn (e : Env) (id : SocketId) (report : Report) (socket : TcpSocket) (s : TcpSession)
    (stack after : Stack) : Prop where
  session : ∃ told, after.sockets id = some told ∧ told.tcpSession = some (heeded e report.metadata s) ∧
    (socket.isRecverrEnabled = true → told.errorQueue.getLast? = some report.entry)
  counted : after.packetStatsRx report.notified = stack.packetStatsRx report.notified + 1

structure Ignored (report : Report) (stack after : Stack) : Prop where
  sockets : after.sockets = stack.sockets
  uncounted : after.packetStatsRx report.notified = stack.packetStatsRx report.notified

def Judged (e : Env) (offender : IpAddress) (message : IcmpMessage) (id : SocketId) (seq : Seq32) (socket : TcpSocket)
    (s : TcpSession) (stack : Stack) : Prop :=
  (Outstanding s.sndSeq seq →
    ActedOn e id (message.report offender) socket s stack (phrxIcmpError e offender message stack)) ∧
  (¬Outstanding s.sndSeq seq → Ignored (message.report offender) stack (phrxIcmpError e offender message stack))

-- Where both edges are zero every number passes; elsewhere the guard's upper
-- edge is SND.NXT itself, and numbers between it and SND.MAX are misjudged.
def Telling (q : SendSeqState) (seq : Seq32) : Prop :=
  if q.nxt = 0 ∧ q.una = 0 then arc q.una seq < arc q.una q.max
  else
    ¬(arc q.una q.nxt < arc q.una seq ∧ arc q.una seq < arc q.una q.max) ∧
    ¬(arc q.una q.max ≤ arc q.una seq ∧ arc q.una seq ≤ arc q.una q.nxt)

theorem isSeqInWindow_iff {s : TcpSession} {seq : Seq32} (moved : ¬(s.sndSeq.nxt = 0 ∧ s.sndSeq.una = 0)) :
    s.isSeqInWindow seq = true ↔ arc s.sndSeq.una seq ≤ arc s.sndSeq.una s.sndSeq.nxt := by
  unfold TcpSession.isSeqInWindow
  rw [if_neg moved]
  have first := arc_values s.sndSeq.una seq
  have second := arc_values s.sndSeq.una s.sndSeq.nxt
  have bounds := And.intro s.sndSeq.una.isLt (And.intro seq.isLt s.sndSeq.nxt.isLt)
  split
  · simp only [Bool.and_eq_true,decide_eq_true_eq]
    omega
  · simp only [Bool.or_eq_true,decide_eq_true_eq]
    omega

theorem telling_iff {s : TcpSession} {seq : Seq32} :
    Telling s.sndSeq seq ↔ (s.isSeqInWindow seq = true ↔ Outstanding s.sndSeq seq) := by
  unfold Telling Outstanding
  by_cases zero : s.sndSeq.nxt = 0 ∧ s.sndSeq.una = 0
  · have passes : s.isSeqInWindow seq = true := if_pos zero
    rw [if_pos zero,passes]
    simp
  · rw [if_neg zero,isSeqInWindow_iff zero]
    omega

theorem heeded_eq {s : TcpSession} (synchronized : Synchronized s.state) (metadata : TcpSession.IcmpMetadata) :
    s.tcpFsmIcmp e metadata = heeded e metadata s := by
  obtain ⟨bound,closed,answered⟩ := synchronized
  have dispatch : s.dispatchIcmp e metadata = s.synchronizedIcmp e metadata := by
    unfold TcpSession.dispatchIcmp
    split <;> first | contradiction | rfl
  unfold TcpSession.tcpFsmIcmp
  rw [dispatch]
  cases metadata <;> rfl

theorem heeded_state {s : TcpSession} (metadata : TcpSession.IcmpMetadata) : (heeded e metadata s).state = s.state := by
  cases metadata with
  | pmtu nextHopMtu version =>
    show ((s.applyPmtuUpdate e nextHopMtu version).pumpTail e s.state true).state = s.state
    rw [TcpSession.pumpTail_state]
    exact congrArg Receiver.state (@TcpSession.applyPmtuUpdate_receiver e s .idle nextHopMtu version)
  | destUnreachable type code => exact TcpSession.pumpTail_state ..
  | other => exact TcpSession.pumpTail_state ..

theorem enqueueError_session (entry : ErrorQueueEntry) (socket : TcpSocket) :
    (socket.enqueueError entry).tcpSession = socket.tcpSession := by
  unfold TcpSocket.enqueueError
  split
  · split <;> rfl
  · rfl

theorem enqueueError_last {socket : TcpSocket} (entry : ErrorQueueEntry) (enabled : socket.isRecverrEnabled = true) :
    (socket.enqueueError entry).errorQueue.getLast? = some entry := by
  unfold TcpSocket.enqueueError
  rw [if_pos enabled]
  split <;> simp

theorem report_counters (offender : IpAddress) (message : IcmpMessage) :
    (message.report offender).notified ≠ (message.report offender).drop := by
  cases message with
  | icmp4DestinationUnreachable code mtu data =>
    show (icmp4DispatchTcp offender code mtu data).notified ≠ (icmp4DispatchTcp offender code mtu data).drop
    unfold icmp4DispatchTcp
    split <;> nofun
  | _ => nofun

section Quoted
variable {e : Env} {offender : IpAddress} {message : IcmpMessage} {id : SocketId} {seq : Seq32} {socket : TcpSocket}
  {s : TcpSession} {stack : Stack} (quotes : Quotes seq message id) (found : stack.sockets id = some socket)
  (holds : socket.tcpSession = some s)
include quotes found holds

theorem error_dispatched : phrxIcmpError e offender message stack =
    if s.isSeqInWindow seq then
      (stack.write id (registered ({socket with
        tcpSession := some (s.tcpFsmIcmp e (message.report offender).metadata)}.enqueueError
          (message.report offender).entry))).bump (message.report offender).notified
    else stack.bump (message.report offender).drop := by
  obtain ⟨embedded,parsed,proto,same,number⟩ := quoted_parses quotes
  have demux : phrxIcmpError e offender message stack = dispatchTcp e embedded (message.report offender) stack := by
    unfold phrxIcmpError
    rw [parsed]
    show (match embedded.proto with | .udp => _ | .tcp => _) = _
    rw [proto]
  rw [demux]
  unfold dispatchTcp
  rw [same,found]
  show (match socket.tcpSession with | none => stack | some session => _) = _
  rw [holds]
  cases inside : s.isSeqInWindow seq <;> simp [number,inside]

theorem refused_ignored (outside : s.isSeqInWindow seq = false) :
    Ignored (message.report offender) stack (phrxIcmpError e offender message stack) := by
  rw [error_dispatched quotes found holds,outside]
  exact ⟨rfl,if_neg (report_counters offender message)⟩

theorem accepted_acted_on (synchronized : Synchronized s.state) (inside : s.isSeqInWindow seq = true) :
    ActedOn e id (message.report offender) socket s stack (phrxIcmpError e offender message stack) := by
  rw [error_dispatched quotes found holds,inside,heeded_eq synchronized]
  generalize message.report offender = report
  let told := {socket with tcpSession := some (heeded e report.metadata s)}.enqueueError report.entry
  have session : told.tcpSession = some (heeded e report.metadata s) := enqueueError_session ..
  have kept : registered told = some told := by
    unfold registered
    rw [session,if_neg]
    intro ends
    have closes : (heeded e report.metadata s).state = .closed := Option.some.inj ends
    rw [heeded_state] at closes
    exact synchronized.1 closes
  constructor
  · refine ⟨told,?_,session,fun enabled => enqueueError_last report.entry enabled⟩
    show (if id = id then registered told else _) = _
    rw [if_pos rfl,kept]
  · exact if_pos rfl

theorem icmp_error_judged_iff (synchronized : Synchronized s.state) :
    Judged e offender message id seq socket s stack ↔ Telling s.sndSeq seq := by
  rw [telling_iff]
  constructor
  · intro judged
    cases inside : s.isSeqInWindow seq with
    | true =>
      -- an error that is acted on is counted, so it is not ignored as well
      refine ⟨fun _ => ?_,fun _ => rfl⟩
      by_contra acknowledged
      have acted : ActedOn e id (message.report offender) socket s stack (phrxIcmpError e offender message stack) :=
        accepted_acted_on quotes found holds synchronized inside
      have counted := acted.counted
      have uncounted := (judged.2 acknowledged).uncounted
      omega
    | false =>
      refine ⟨nofun,fun outstanding => ?_⟩
      have ignored : Ignored (message.report offender) stack (phrxIcmpError e offender message stack) :=
        refused_ignored quotes found holds inside
      have counted := (judged.1 outstanding).counted
      have uncounted := ignored.uncounted
      omega
  · intro tells
    constructor
    · intro outstanding
      exact accepted_acted_on quotes found holds synchronized (tells.mpr outstanding)
    · intro acknowledged
      have outside : s.isSeqInWindow seq = false := by
        cases inside : s.isSeqInWindow seq with
        | true => exact absurd (tells.mp inside) acknowledged
        | false => rfl
      exact refused_ignored quotes found holds outside

end Quoted

-- The first of the two reports walks SND.NXT back to SND.UNA.
def narrowedRun : List (Env × Event) :=
  [({nowMs := 20},.packet (peerSyn true)),
   ({nowMs := 21},.tick),
   ({nowMs := 30},.packet (peerAck 501 1001 [])),
   ({nowMs := 40},.send (List.replicate 2920 7)),
   ({nowMs := 41},.tick),
   ({nowMs := 42},.tick),
   ({nowMs := 50},.icmp (.pmtu 1000 .ip4))]

def narrowed : TcpSession := listening.run narrowedRun

def connection : SocketId := ⟨false,.ip4 #v[10,0,1,7],8080,.ip4 #v[10,0,1,91],12345⟩

def connectedSocket : TcpSocket := ⟨false,true,false,some narrowed,[],0⟩

def narrowedStack : Stack :=
  {sockets := fun id => if id = connection then some connectedSocket else none,packetStatsRx := fun _ => 0}

def quotedHeader : List UInt8 := [0x45,0,5,220,0,0,0x40,0,64,6,0,0,10,0,1,7,10,0,1,91]

def fragmentationNeeded (seq : Seq32) : IcmpMessage :=
  .icmp4DestinationUnreachable 4 (some 1000) (quotedHeader ++ (l4Octets 8080 12345 seq ++ []))

theorem quotedHeader_ip4 : Ip4Header quotedHeader #v[10,0,1,7] #v[10,0,1,91] := by
  constructor <;> decide

theorem fragmentationNeeded_quotes (seq : Seq32) : Quotes seq (fragmentationNeeded seq) connection :=
  .ip4 rfl quotedHeader_ip4 rfl (by decide)

theorem narrowed_edges : narrowed.state = .established ∧
    narrowed.sndSeq.una = 1001 ∧ narrowed.sndSeq.nxt = 1001 ∧ narrowed.sndSeq.max = 3921 := by
  refine ⟨?_,?_,?_,?_⟩ <;> decide +kernel

theorem icmp_error_judged_oldest :
    Judged {nowMs := 51} (.ip4 #v[10,0,1,1]) (fragmentationNeeded 1001) connection 1001 connectedSocket narrowed
      narrowedStack := by
  obtain ⟨state,una,nxt,top⟩ := narrowed_edges
  refine (icmp_error_judged_iff (fragmentationNeeded_quotes 1001) rfl rfl ?_).mpr ?_
  · unfold Synchronized
    rw [state]
    decide
  · unfold Telling
    rw [una,nxt,top]
    decide

-- The second report quotes an octet between SND.NXT and SND.MAX, and is dropped.
theorem outstanding_error_dropped : Opened listening ∧ Synchronized narrowed.state ∧
    Quotes 2461 (fragmentationNeeded 2461) connection ∧ Outstanding narrowed.sndSeq 2461 ∧
    ¬Judged {nowMs := 51} (.ip4 #v[10,0,1,1]) (fragmentationNeeded 2461) connection 2461 connectedSocket narrowed
      narrowedStack := by
  obtain ⟨state,una,nxt,top⟩ := narrowed_edges
  have outstanding : Outstanding narrowed.sndSeq 2461 := by
    unfold Outstanding
    rw [una,top]
    decide
  have outside : narrowed.isSeqInWindow 2461 = false := by
    unfold TcpSession.isSeqInWindow
    rw [una,nxt]
    decide
  refine ⟨listening_opened,?_,fragmentationNeeded_quotes 2461,outstanding,?_⟩
  · unfold Synchronized
    rw [state]
    decide
  · intro judged
    have ignored : Ignored ((fragmentationNeeded 2461).report (.ip4 #v[10,0,1,1])) narrowedStack
        (phrxIcmpError {nowMs := 51} (.ip4 #v[10,0,1,1]) (fragmentationNeeded 2461) narrowedStack) :=
      refused_ignored (fragmentationNeeded_quotes 2461) rfl rfl outside
    have counted := (judged.1 outstanding).counted
    have uncounted := ignored.uncounted
    omega

end PmdPytcp.IcmpErrors
