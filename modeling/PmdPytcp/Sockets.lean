import PmdPytcp.Lib.Cohorts
import PmdPytcp.Lib.Runs
import PmdPytcp.TcpHandler

namespace PmdPytcp.Sockets
open TcpHandler (IpAddress)

inductive AddressFamily where
  | inet4 | inet6
deriving DecidableEq,Repr

inductive SocketType where
  | stream | dgram
deriving DecidableEq,Repr

def familyOf : IpAddress → AddressFamily
  | .ip4 _ => .inet4
  | .ip6 _ => .inet6

def AddressFamily.wildcard : AddressFamily → IpAddress
  | .inet4 => .ip4 (.replicate 4 0)
  | .inet6 => .ip6 (.replicate 16 0)

def isUnspecified (address : IpAddress) : Bool := address = address.unspecified

-- `Ip6Address.from_ipv4_mapped`
def ipv4Mapped (octets : Vector UInt8 4) : IpAddress :=
  .ip6 (.ofFn fun i => if i.1 < 10 then 0 else if i.1 < 12 then 0xFF else octets[i.1 - 12]?.getD 0)

structure SocketId where
  addressFamily : AddressFamily
  socketType : SocketType
  localAddress : IpAddress
  localPort : Nat
  remoteAddress : IpAddress
  remotePort : Nat
deriving DecidableEq,Repr

-- Listening and bound sockets leave the remote end open.
def SocketId.Full (id : SocketId) : Prop := isUnspecified id.remoteAddress = false ∨ id.remotePort ≠ 0

instance (id : SocketId) : Decidable id.Full := inferInstanceAs (Decidable (_ ∨ _))

-- Objects go by the numbers the allocator gives them.
structure Socket where
  socketType : SocketType
  addressFamily : AddressFamily
  localIpAddress : IpAddress
  localPort : Nat
  remoteIpAddress : IpAddress
  remotePort : Nat
  soReuseaddr : Bool := false
  soReuseport : Bool := false
  ipv6V6only : Bool := true
  dualStack : Bool := false
  udpNoCheck6Rx : Bool := false
  tcpSession : Option Nat := none

def Socket.socketId (s : Socket) : SocketId :=
  ⟨s.addressFamily,s.socketType,s.localIpAddress,s.localPort,s.remoteIpAddress,s.remotePort⟩

def Socket.bound (s : Socket) : Bool := 1 ≤ s.localPort && s.localPort < 65536

-- What an accepted child of a dual-stack listener shows.
def Socket.family (s : Socket) : AddressFamily := if s.dualStack then .inet6 else s.addressFamily

def Socket.shownLocalIpAddress (s : Socket) : IpAddress :=
  match s.dualStack,s.localIpAddress with
  | true,.ip4 octets => ipv4Mapped octets
  | _,_ => s.localIpAddress

-- A session listens, carries a connection (SYN_SENT to TIME_WAIT) or is CLOSED.
inductive Phase where
  | listen | connection | closed
deriving DecidableEq,Repr

structure Session where
  localIpAddress : IpAddress
  localPort : Nat
  remoteIpAddress : IpAddress
  remotePort : Nat
  socket : Nat
  phase : Phase
deriving DecidableEq

structure World where
  sockets : Store Nat Socket
  sessions : Store Nat Session
  table : Cohorts SocketId Nat

namespace World

def start : World := {sockets := .empty,sessions := .empty,table := .empty}

def registered (w : World) : List Socket := w.table.values.filterMap w.sockets.get

def ofType (w : World) (socketType : SocketType) (h : Nat) : Option Socket :=
  (w.sockets.get h).filter fun s => s.socketType = socketType

def unregister (w : World) (h : Nat) : World :=
  match w.sockets.get h with
  | none => w
  | some s => {w with table := w.table.unregister s.socketId h}

-- The socket takes its new form between the two registry calls.
def reregister (w : World) (h : Nat) (s : Socket) : World :=
  let gone := w.unregister h
  {gone with sockets := gone.sockets.set h s,table := gone.table.register s.socketId h}

-- What a call reads of the rest of the stack: its own addresses, the choice of
-- a source address, the ephemeral range and the random or hashed offset.
structure Stack where
  localUnicast : List IpAddress
  pickLocalIpAddress : IpAddress → IpAddress
  ephemeralLow : Nat := 32768
  ephemeralHigh : Nat := 61000
  offset : Nat
  sameFamily : ∀ remote, familyOf (pickLocalIpAddress remote) = familyOf remote
  rangeAdmitted : decide (1024 ≤ ephemeralLow ∧ ephemeralHigh ≤ 65535) = true := by exact Eq.refl true

inductive SocketError where
  | einval | eaddrnotavail | eaddrinuse | overflow | gaierror | econnrefused
deriving DecidableEq,Repr

def overlaps (opened : Socket) (localIpAddress : IpAddress) (addressFamily : AddressFamily) (dualStack : Bool) : Bool :=
  if opened.family = addressFamily then
    isUnspecified opened.shownLocalIpAddress || opened.shownLocalIpAddress = localIpAddress ||
      isUnspecified localIpAddress
  else
    let openedIsDualStackIpv6Wildcard :=
      opened.family = .inet6 && !opened.ipv6V6only && isUnspecified opened.shownLocalIpAddress
    let newIsDualStackIpv6Wildcard := addressFamily = .inet6 && dualStack && isUnspecified localIpAddress
    (addressFamily = .inet4 && openedIsDualStackIpv6Wildcard) ||
      (newIsDualStackIpv6Wildcard && opened.family = .inet4)

def isAddressInUse (w : World) (localIpAddress : IpAddress) (localPort : Nat) (addressFamily : AddressFamily)
    (socketType : SocketType) (dualStack reuseport : Bool) : Bool :=
  w.registered.any fun opened =>
    opened.socketType = socketType && opened.localPort = localPort &&
      overlaps opened localIpAddress addressFamily dualStack && !(reuseport && opened.soReuseport)

def ephemeralPortPool (stack : Stack) : List Nat :=
  (List.range (stack.ephemeralHigh - stack.ephemeralLow)).map (stack.ephemeralLow + ·)

def usedPorts (w : World) : List Nat := w.registered.map Socket.localPort

def pickLocalPort (w : World) (stack : Stack) : Except SocketError Nat :=
  let available := (ephemeralPortPool stack).filter (· ∉ w.usedPorts)
  match available[stack.offset % available.length]? with
  | none => .error .eaddrinuse
  | some port => .ok port

-- `pick_local_port_for`: a scan from the hashed offset on.
def pickLocalPortFor (w : World) (stack : Stack) : Except SocketError Nat :=
  let pool := ephemeralPortPool stack
  match ((List.range pool.length).filterMap fun i => pool[(stack.offset + i) % pool.length]?).find? (· ∉ w.usedPorts) with
  | none => .error .eaddrinuse
  | some port => .ok port

def socket (w : World) (h : Nat) (socketType : SocketType) (addressFamily : AddressFamily) : World :=
  match w.sockets.get h with
  | some _ => w
  | none =>
    {w with sockets := w.sockets.set h ⟨socketType,addressFamily,addressFamily.wildcard,0,addressFamily.wildcard,0,
      false,false,true,false,false,none⟩}

-- `none` stands for an address text of the wrong format.
def parsed (s : Socket) (address : Option IpAddress) : Except SocketError IpAddress :=
  match address.filter fun address => familyOf address = s.addressFamily with
  | none => .error .gaierror
  | some address => .ok address

-- `TcpSocket.bind` and `UdpSocket.bind` are the same.
def bindPort (w : World) (s : Socket) (stack : Stack) (localIpAddress : IpAddress) (port : Int) :
    Except SocketError Nat :=
  if 0 < port then
    if !s.soReuseaddr && w.isAddressInUse localIpAddress port.toNat s.addressFamily s.socketType
        (s.addressFamily = .inet6 && !s.ipv6V6only) s.soReuseport then .error .eaddrinuse
    else .ok port.toNat
  else w.pickLocalPort stack

def bind (w : World) (h : Nat) (stack : Stack) (address : Option IpAddress) (port : Int) :
    Except SocketError World :=
  match w.sockets.get h with
  | none => .ok w
  | some s =>
    if s.bound then .error .einval
    else match parsed s address with
      | .error e => .error e
      | .ok localIpAddress =>
        if localIpAddress ∉ stack.localUnicast ∧ localIpAddress ≠ s.addressFamily.wildcard then .error .eaddrnotavail
        else if port < 0 ∨ 65535 < port then .error .overflow
        else match w.bindPort s stack localIpAddress port with
          | .error e => .error e
          | .ok localPort => .ok (w.reregister h {s with localIpAddress := localIpAddress,localPort := localPort})

-- `_get_ip_addresses` after the remote address is known.
def localFor (s : Socket) (stack : Stack) (remote : IpAddress) : Except SocketError IpAddress :=
  if isUnspecified s.localIpAddress then
    if isUnspecified (stack.pickLocalIpAddress remote) then .error .gaierror
    else .ok (stack.pickLocalIpAddress remote)
  else .ok s.localIpAddress

-- The part of `TcpSocket.connect` before the handshake. `r` is the new session.
def tcpConnect (w : World) (h r : Nat) (stack : Stack) (address : Option IpAddress) (port : Int) :
    Except SocketError World :=
  match w.ofType .stream h,w.sessions.get r with
  | some s,none =>
    if port < 0 ∨ 65535 < port then .error .overflow
    else match parsed s address with
      | .error e => .error e
      | .ok remote =>
        if isUnspecified remote then .error .econnrefused
        else match localFor s stack remote,if s.bound then .ok s.localPort else w.pickLocalPortFor stack with
          | .error e,_ => .error e
          | .ok _,.error e => .error e
          | .ok localIpAddress,.ok localPort =>
            let connected := {s with localIpAddress := localIpAddress,localPort := localPort,remoteIpAddress := remote
                                     remotePort := port.toNat,tcpSession := some r}
            let moved := w.reregister h connected
            .ok {moved with
              sessions := moved.sessions.set r ⟨localIpAddress,localPort,remote,port.toNat,h,.connection⟩}
  | _,_ => .ok w

-- DHCP clients keep their wildcard local address.
def udpLocalFor (s : Socket) (stack : Stack) (remote : IpAddress) (port : Int) : Except SocketError IpAddress :=
  if isUnspecified s.localIpAddress then
    if (s.addressFamily = .inet4 ∧ s.localPort = 68 ∧ port = 67) ∨
        (s.addressFamily = .inet6 ∧ s.localPort = 546 ∧ port = 547) then .ok s.localIpAddress
    else if isUnspecified (stack.pickLocalIpAddress remote) then .error .gaierror
    else .ok (stack.pickLocalIpAddress remote)
  else .ok s.localIpAddress

def udpConnect (w : World) (h : Nat) (stack : Stack) (address : Option IpAddress) (port : Int) :
    Except SocketError World :=
  match w.ofType .dgram h with
  | none => .ok w
  | some s =>
    if port < 0 ∨ 65535 < port then .error .overflow
    else match if s.bound then .ok s.localPort else w.pickLocalPort stack with
      | .error e => .error e
      | .ok localPort =>
        match parsed s address with
        | .error e => .error e
        | .ok remote =>
          match udpLocalFor s stack remote port with
          | .error e => .error e
          | .ok localIpAddress =>
            .ok (w.reregister h {s with localIpAddress := localIpAddress,localPort := localPort
                                        remoteIpAddress := remote,remotePort := port.toNat})

-- `UdpSocket.sendto` gives an unbound socket a port.
def udpSendto (w : World) (h : Nat) (stack : Stack) (port : Int) : Except SocketError World :=
  match w.ofType .dgram h with
  | none => .ok w
  | some s =>
    if port < 0 ∨ 65535 < port then .error .overflow
    else if s.bound then .ok w
    else match w.pickLocalPort stack with
      | .error e => .error e
      | .ok localPort => .ok (w.reregister h {s with localPort := localPort})

def listen (w : World) (h r : Nat) : World :=
  match w.ofType .stream h,w.sessions.get r with
  | some s,none =>
    let listening := {s with tcpSession := some r}
    {sockets := w.sockets.set h listening
     sessions := w.sessions.set r ⟨s.localIpAddress,s.localPort,s.remoteIpAddress,s.remotePort,h,.listen⟩
     table := w.table.register s.socketId h}
  | _,_ => w

-- Every socket without a session leaves the registry at once. With one, `close`
-- and `abort` drive the session, which leaves when it reaches CLOSED.
def close (w : World) (h : Nat) : World :=
  match w.sockets.get h with
  | none => w
  | some s => if s.tcpSession = none then w.unregister h else w

-- A session reaches CLOSED. A connection does by whatever cause; a listener ends
-- by `close` or `abort` of its socket only, which reach the session that the
-- socket has now.
def sessionCloses (w : World) (r : Nat) : World :=
  match w.sessions.get r with
  | none => w
  | some session =>
    let current := (w.sockets.get session.socket).bind Socket.tcpSession
    if session.phase = .closed ∨ session.phase = .listen ∧ current ≠ some r then w
    else {w.unregister session.socket with sessions := w.sessions.set r {session with phase := .closed}}

structure Syn where
  dst : IpAddress
  dport : Nat
  src : IpAddress
  sport : Nat
  sameFamily : familyOf src = familyOf dst
  dportRange : 1 ≤ dport ∧ dport < 65536
  sportRange : 1 ≤ sport ∧ sport < 65536

def Syn.socketId (p : Syn) : SocketId := ⟨familyOf p.dst,.stream,p.dst,p.dport,p.src,p.sport⟩

def Syn.listeningSocketIds (p : Syn) : List SocketId :=
  [⟨familyOf p.dst,.stream,p.dst,p.dport,p.src.unspecified,0⟩,
    ⟨familyOf p.dst,.stream,p.dst.unspecified,p.dport,p.src.unspecified,0⟩] ++
  if familyOf p.dst = .inet4 then
    [⟨.inet6,.stream,AddressFamily.inet6.wildcard,p.dport,AddressFamily.inet6.wildcard,0⟩]
  else []

def skipsFamily (p : Syn) (s : Socket) : Bool :=
  s.addressFamily = .inet6 && familyOf p.dst = .inet4 && s.ipv6V6only

def matchListening (w : World) (p : Syn) : List SocketId → Option Nat × World
  | [] => (none,w)
  | id :: rest =>
    let looked := {w with table := (w.table.get id).2}
    match (w.table.get id).1.bind fun h => (w.sockets.get h).map fun s => (h,s) with
    | none => looked.matchListening p rest
    | some (h,s) => if skipsFamily p s then looked.matchListening p rest else (some h,looked)

-- The LISTEN session becomes the child's; a fresh one listens in its place.
-- `child` and `fresh` are the new objects, `admitted` is the verdict of the two
-- backlog gates.
def fork (w : World) (p : Syn) (parent child fresh : Nat) (admitted : Bool) : World :=
  match (w.sockets.get parent).bind Socket.tcpSession with
  | none => w
  | some r =>
    match w.sessions.get r with
    | none => w
    | some session =>
      match w.sockets.get session.socket with
      | none => w
      | some listenSocket =>
        if session.phase = .listen ∧ admitted = true ∧ w.sockets.get child = none ∧ w.sessions.get fresh = none then
          let accepted : Socket :=
            {socketType := .stream,addressFamily := familyOf p.dst,localIpAddress := p.dst,localPort := p.dport
             remoteIpAddress := p.src,remotePort := p.sport,tcpSession := some r
             dualStack := listenSocket.addressFamily = .inet6 && !listenSocket.ipv6V6only && familyOf p.dst = .inet4}
          {sockets := (w.sockets.set session.socket {listenSocket with tcpSession := some fresh}).set child accepted
           sessions := (w.sessions.set fresh session).set r ⟨p.dst,p.dport,p.src,p.sport,child,.connection⟩
           table := w.table.register accepted.socketId child}
        else w

def receiver (w : World) (id : SocketId) : Option Nat :=
  (w.table.get id).1.bind fun h => (w.sockets.get h).bind Socket.tcpSession

def synArrives (w : World) (p : Syn) (child fresh : Nat) (admitted : Bool) : World :=
  let looked := {w with table := (w.table.get p.socketId).2}
  match (w.table.get p.socketId).1 with
  | some h => looked.fork p h child fresh admitted
  | none =>
    match looked.matchListening p p.listeningSocketIds with
    | (none,after) => after
    | (some h,after) => after.fork p h child fresh admitted

inductive Event where
  | socket (h : Nat) (socketType : SocketType) (addressFamily : AddressFamily)
  | setReuse (h : Nat) (soReuseaddr soReuseport ipv6V6only udpNoCheck6Rx : Bool)
  | bind (h : Nat) (stack : Stack) (address : Option IpAddress) (port : Int)
  | tcpConnect (h r : Nat) (stack : Stack) (address : Option IpAddress) (port : Int)
  | udpConnect (h : Nat) (stack : Stack) (address : Option IpAddress) (port : Int)
  | udpSendto (h : Nat) (stack : Stack) (port : Int)
  | listen (h r : Nat)
  | close (h : Nat)
  | syn (p : Syn) (child fresh : Nat) (admitted : Bool)
  | segment (id : SocketId)
  | sessionCloses (r : Nat)

-- A call that raises leaves everything as it was. `accept` hands out a child
-- that has been registered since its SYN.
def kept (w : World) : Except SocketError World → World
  | .ok after => after
  | .error _ => w

def next (event : Event) (w : World) : World :=
  match event with
  | .socket h socketType addressFamily => w.socket h socketType addressFamily
  | .setReuse h soReuseaddr soReuseport ipv6V6only udpNoCheck6Rx =>
    match w.sockets.get h with
    | none => w
    | some s =>
      {w with sockets := w.sockets.set h {s with soReuseaddr := soReuseaddr,soReuseport := soReuseport
                                                 ipv6V6only := ipv6V6only,udpNoCheck6Rx := udpNoCheck6Rx}}
  | .bind h stack address port => w.kept (w.bind h stack address port)
  | .tcpConnect h r stack address port => w.kept (w.tcpConnect h r stack address port)
  | .udpConnect h stack address port => w.kept (w.udpConnect h stack address port)
  | .udpSendto h stack port => w.kept (w.udpSendto h stack port)
  | .listen h r => w.listen h r
  | .close h => w.close h
  | .syn p child fresh admitted => w.synArrives p child fresh admitted
  | .segment id => {w with table := (w.table.get id).2}
  | .sessionCloses r => w.sessionCloses r

end World

end PmdPytcp.Sockets
