import PmdPytcp.Lib.Runs
import PmdPytcp.Tcp.Fsm

namespace PmdPytcp.Tcp
open Arc Plpmtud

-- The bounds are the ones the settings check, and an interface carries at least
-- the smallest datagram of its family and at most the largest an IP length field
-- can name.
def settingsAdmitted (version : IpVersion) (mtu baseMss sndMssMax : Int) (advertise : AdvertiseState) : Bool :=
  decide (minPlpmtu version ≤ mtu ∧ mtu ≤ 0xFFFF ∧ 88 ≤ baseMss ∧ (sndMssMax = 0 ∨ 88 ≤ sndMssMax) ∧
    advertise.sendSack = false)

structure Opening where
  version : IpVersion := .ip4
  iss : Seq32
  egressInterfaceMtu : Int := 1500
  probing : Bool := false
  probeTimerMs : Nat := 30_000
  baseMss : Int := 1024
  sndMssMax : Int := 0
  rcvWndMax : Nat := 65535
  advertise : AdvertiseState := {}
  keepalive : KeepaliveState := {}
  ccMode : CcMode := .cubic
  tcpNodelay : Bool := false
  userTimeoutMs : Nat := 0
  maxsegOverride : Nat := 0
  rtoInitialMs : Nat := 1000
  admitted : settingsAdmitted version egressInterfaceMtu baseMss sndMssMax advertise = true := by exact Eq.refl true

namespace Opening

theorem bounds (o : Opening) : minPlpmtu o.version ≤ o.egressInterfaceMtu ∧ o.egressInterfaceMtu ≤ 0xFFFF ∧
    88 ≤ o.baseMss ∧ (o.sndMssMax = 0 ∨ 88 ≤ o.sndMssMax) ∧ o.advertise.sendSack = false :=
  of_decide_eq_true o.admitted

theorem mtuFloor (o : Opening) : minPlpmtu o.version ≤ o.egressInterfaceMtu := o.bounds.1

theorem sackUnsettled (o : Opening) : o.advertise.sendSack = false := o.bounds.2.2.2.2

def overhead (o : Opening) : Int :=
  match o.version with
  | .ip4 => 20 + 20
  | .ip6 => 40 + 20

-- `_mss_ceiling` while the constructor runs.
def mssCeiling (o : Opening) : Int :=
  let ifaceCeiling := o.egressInterfaceMtu - o.overhead
  let ceiling := if o.probing then min (o.baseMss - o.overhead) ifaceCeiling else ifaceCeiling
  if o.sndMssMax ≠ 0 then min ceiling o.sndMssMax else ceiling

theorem overhead_bounds (o : Opening) : 40 ≤ o.overhead ∧ o.overhead ≤ 60 ∧ o.overhead < o.egressInterfaceMtu := by
  have floor := o.mtuFloor
  unfold overhead
  cases version : o.version with
  | ip4 =>
    simp only [version,minPlpmtu] at floor ⊢
    omega
  | ip6 =>
    simp only [version,minPlpmtu] at floor ⊢
    omega

theorem mssCeiling_positive (o : Opening) : 0 < o.mssCeiling := by
  obtain ⟨_,small,fits⟩ := o.overhead_bounds
  obtain ⟨_,_,base,cap,_⟩ := o.bounds
  simp only [mssCeiling]
  split <;> split <;> omega

theorem mssCeiling_small (o : Opening) : o.mssCeiling ≤ 0xFFFF := by
  obtain ⟨large,_,_⟩ := o.overhead_bounds
  obtain ⟨_,top,_⟩ := o.bounds
  simp only [mssCeiling]
  split <;> split <;> omega

def sndMss (o : Opening) : Pos := if o.probing then ⟨o.mssCeiling,o.mssCeiling_positive⟩ else ⟨536,by decide⟩

def engine (o : Opening) : PmtuSearch :=
  PmtuSearch.init o.version o.egressInterfaceMtu o.probing o.probeTimerMs
    (if o.probing then some (o.mssCeiling + o.overhead) else none)

-- `TcpSession.__init__`, and the socket options set on the fresh session.
def session (o : Opening) : TcpSession :=
  {tx := {seqMod := o.iss}
   sndSeq := ({} : SendSeqState).resetTo o.iss
   win := {sndMss := o.sndMss
           sndWnd := o.sndMss.1.toNat
           maxWindow := o.sndMss.1.toNat
           rcvMss := o.egressInterfaceMtu - o.overhead
           rcvWndMax := o.rcvWndMax}
   plpmtudProbingEnabled := o.probing
   plpmtudAdapter := {engine := o.engine}
   advertise := o.advertise
   keepalive := o.keepalive
   cc := {cwnd := o.sndMss.1,sndEwn := o.sndMss.1,ccMode := o.ccMode}
   tcpNodelay := o.tcpNodelay
   userTimeoutMs := o.userTimeoutMs
   maxsegOverride := o.maxsegOverride
   persist := {timeout := o.rtoInitialMs}}

end Opening

namespace TcpSession

-- `connect(data=...)` loads the transmit buffer before the first SYN.
def preload (data : List UInt8) (s : TcpSession) : TcpSession :=
  {s with tx := {s.tx with buffer := data},written := data}

end TcpSession

-- A socket opens each of its sessions once, by LISTEN or by CONNECT.
inductive Opened : TcpSession → Prop where
  | listening (o : Opening) (e : Env) : Opened (o.session.tcpFsmSyscall e .listen)
  | connecting (o : Opening) (e : Env) (data : List UInt8) :
      Opened ((o.session.preload data).tcpFsmSyscall e .connect)

inductive SockOption where
  | ccMode (mode : CcMode)
  | nodelay (flag : Bool)
  | userTimeout (ms : Nat)
  | maxseg (size : Nat)

inductive Event where
  | packet (p : TcpMetadata)
  | tick
  | icmp (m : TcpSession.IcmpMetadata)
  | close
  | abort
  | shutdownRead
  | shutdownWrite
  | send (data : List UInt8)
  | receive (byteCount : Option Nat)
  | option (o : SockOption)

namespace TcpSession

-- The wheel calls back once the handle is due, and the handle is spent.
def fireTimer (e : Env) (s : TcpSession) : TcpSession :=
  if s.timers.serviceHandle.any fun due => decide (due ≤ e.nowMs) then
    {s with timers := {s.timers with serviceHandle := none}}.tcpFsmTimer e
  else s

def setOption (o : SockOption) (s : TcpSession) : TcpSession :=
  match o with
  | .ccMode mode => {s with cc := {s.cc with ccMode := mode}}
  | .nodelay flag => {s with tcpNodelay := flag}
  | .userTimeout ms => {s with userTimeoutMs := ms}
  | .maxseg size => {s with maxsegOverride := size}

def handle (e : Env) (event : Event) (s : TcpSession) : Outcome :=
  match event with
  | .packet p => s.tcpFsmPacket e p
  | .tick => .ok (s.fireTimer e)
  | .icmp m => .ok (s.tcpFsmIcmp e m)
  | .close => .ok (s.tcpFsmSyscall e .close)
  | .abort => .ok (s.tcpFsmSyscall e .abort)
  | .shutdownRead => .ok s.shutdownRead
  | .shutdownWrite => .ok (s.shutdownWrite e)
  | .send data => .ok (s.send e data)
  | .receive byteCount => .ok (s.receive byteCount).2
  | .option o => .ok (s.setOption o)

def next (input : Env × Event) (s : TcpSession) : TcpSession := (s.handle input.1 input.2).session

end TcpSession

def TcpSession.run (s : TcpSession) (inputs : List (Env × Event)) : TcpSession := Runs.run TcpSession.next s inputs

abbrev Reached (meets : Env × Event → TcpSession → Prop) : TcpSession → Prop :=
  Runs.Reached Opened TcpSession.next meets

end PmdPytcp.Tcp
