import PmdPytcp.Lib.Dict
import PmdPytcp.Tcp.Seq

namespace PmdPytcp.Tcp
open Arc

inductive SysCall where
  | listen | connect | close | abort
  deriving DecidableEq

inductive FsmState where
  | closed | listen | synSent | synRcvd | established | finWait1 | finWait2
  | closing | closeWait | lastAck | timeWait
  deriving DecidableEq

inductive ConnError where
  | none | refused | timeout | canceled | reset | hostUnreachable | netUnreachable
  deriving DecidableEq

inductive CcMode where
  | reno | cubic
  deriving DecidableEq

-- The numbers the congestion helpers assert to be positive.
abbrev Pos := {n : Int // 0 < n}

-- What a Python helper can raise on the paths below.
inductive PyExc where
  | assertionError | zeroDivisionError
  deriving DecidableEq

-- The wire formats bound the window, the shift (the option parser caps it at
-- 14), the MSS and the payload of one datagram. A window scale option of 0 and
-- none at all look alike to the session: what was offered is ghost.
def wireBounds (win wscale mss : Nat) (data : List UInt8) (offered : Bool) : Bool :=
  decide (win ≤ 0xFFFF ∧ wscale ≤ 14 ∧ mss ≤ 0xFFFF ∧ data.length ≤ 0xFFFF ∧ (wscale ≠ 0 → offered = true))

-- Inbound segment as the packet handler hands it over.
structure TcpMetadata where
  ipEcn : Nat := 0
  tcpFlagSyn : Bool := false
  tcpFlagAck : Bool := false
  tcpFlagFin : Bool := false
  tcpFlagRst : Bool := false
  tcpFlagEce : Bool := false
  tcpFlagCwr : Bool := false
  tcpFlagNs : Bool := false
  tcpSeq : Seq32
  tcpAck : Seq32
  tcpWin : Nat
  tcpWscale : Nat := 0
  tcpMss : Nat := 536
  tcpSackperm : Bool := false
  tcpSackBlocks : List (Seq32 × Seq32) := []
  tcpTsval : Option (BitVec 32) := none
  tcpTsecr : Option (BitVec 32) := none
  tcpFastopenCookie : Option (List UInt8) := none
  tcpAccecn0Counters : Option (Option Nat × Option Nat × Option Nat) := none
  tcpData : List UInt8 := []
  wscaleOffered : Bool := decide (tcpWscale ≠ 0)
  onWire : wireBounds tcpWin tcpWscale tcpMss tcpData wscaleOffered = true := by exact Eq.refl true

namespace TcpMetadata

theorem bounds (p : TcpMetadata) : p.tcpWin ≤ 0xFFFF ∧ p.tcpWscale ≤ 14 ∧ p.tcpMss ≤ 0xFFFF ∧
    p.tcpData.length ≤ 0xFFFF ∧ (p.tcpWscale ≠ 0 → p.wscaleOffered = true) :=
  of_decide_eq_true p.onWire

theorem winSmall (p : TcpMetadata) : p.tcpWin ≤ 0xFFFF := p.bounds.1

theorem wscaleSmall (p : TcpMetadata) : p.tcpWscale ≤ 14 := p.bounds.2.1

theorem dataSmall (p : TcpMetadata) : p.tcpData.length ≤ 0xFFFF := p.bounds.2.2.2.1

end TcpMetadata

-- Plain ACK segments: the only ones that enter the out-of-order queue.
def TcpMetadata.OnlyAck (p : TcpMetadata) : Prop :=
  p.tcpFlagAck = true ∧ p.tcpFlagSyn = false ∧ p.tcpFlagRst = false ∧ p.tcpFlagFin = false

instance (p : TcpMetadata) : Decidable p.OnlyAck :=
  inferInstanceAs (Decidable (_ ∧ _ ∧ _ ∧ _))

def TcpMetadata.segLen (p : TcpMetadata) : Nat :=
  p.tcpData.length + p.tcpFlagSyn.toNat + p.tcpFlagFin.toNat

def TcpMetadata.segEnd (p : TcpMetadata) : Seq32 := add32 p.tcpSeq p.segLen

-- Ghost: what the receiving half held when a segment went out. `room` is the
-- free receive space, `shift` what the peer shifts the window field by, `count`
-- how far RCV.NXT had come, `held` what the out-of-order queue covered and
-- `crowded` whether more options were due than a header carries.
structure Moment where
  room : Nat := 0
  shift : Nat := 0
  count : Nat := 0
  held : List (Seq32 × Seq32) := []
  crowded : Bool := false
  deriving DecidableEq

-- Outbound segment as handed to `send_tcp_packet`, with the fields the session
-- decides; addresses, ports, TTL and DSCP belong to the socket.
structure Segment where
  flagSyn : Bool
  flagAck : Bool
  flagFin : Bool
  flagRst : Bool
  flagPsh : Bool
  flagEce : Bool
  flagCwr : Bool
  flagNs : Bool
  seq : Seq32
  ack : Seq32
  win : Int
  ipEcn : Nat
  mss : Option Int
  wscale : Option Nat
  sackperm : Bool
  sackBlocks : Option (List (Seq32 × Seq32))
  tsval : Option (BitVec 32)
  tsecr : Option (BitVec 32)
  fastopenCookie : Option (List UInt8)
  accecn0Counters : Option (Option Nat × Option Nat × Option Nat)
  accecn1Counters : Option (Option Nat × Option Nat × Option Nat)
  data : List UInt8
  moment : Moment := {}
  deriving DecidableEq

abbrev AccEcnCounters := Option Nat × Option Nat × Option Nat

-- An AccECN option leaves out the counters that are not there.
def accecnOptionLen (counters : AccEcnCounters) : Nat :=
  2 + 3 * (counters.1.toList.length + counters.2.1.toList.length + counters.2.2.toList.length)

-- The options `_phtx_tcp` puts in the header, padded to a multiple of four.
def Segment.optionBytes (seg : Segment) : Nat :=
  let bytes :=
    (if seg.mss.any fun mss => mss != 0 then 4 else 0) +
    (if seg.sackperm then 2 else 0) +
    (if seg.wscale.any fun wscale => wscale != 0 then 4 else 0) +
    (if seg.sackBlocks.any fun blocks => !blocks.isEmpty then 2 + 8 * (seg.sackBlocks.getD []).length else 0) +
    (if seg.tsval.isSome && seg.tsecr.isSome then 10 else 0) +
    (seg.fastopenCookie.elim 0 fun cookie => 2 + cookie.length) +
    seg.accecn0Counters.elim 0 accecnOptionLen +
    seg.accecn1Counters.elim 0 accecnOptionLen
  (bytes + 3) / 4 * 4

def Segment.takesSpace (seg : Segment) : Bool := !seg.data.isEmpty || seg.flagSyn || seg.flagFin

structure AdvertiseState where
  ts : Bool := true
  wscale : Bool := true
  sack : Bool := true
  ecn : Bool := true
  accecn : Bool := true
  fastopen : Bool := true
  sendSack : Bool := false

structure ClassicEcnState where
  enabled : Bool := false
  sendEce : Bool := false
  sendCwr : Bool := false
  recoveryPoint : Seq32 := 0

def ClassicEcnState.armCwrResponse (ecn : ClassicEcnState) (sndNxt : Seq32) : ClassicEcnState :=
  {ecn with sendCwr := true,recoveryPoint := sndNxt}

def ClassicEcnState.consumeCwr (ecn : ClassicEcnState) : Bool × ClassicEcnState :=
  if ecn.sendCwr then (true,{ecn with sendCwr := false}) else (false,ecn)

def accecnInitialByteCounter : Nat := 1
def accecnInitialCeByteCounter : Nat := 0
def accecnInitialCep : Nat := 5
def accecnCounterMask : Nat := 0xFF_FFFF

-- `none` in a last-emit slot is the source's sentinel -1: nothing emitted yet.
structure AccEcnState where
  enabled : Bool := false
  synackCodepoint : Nat := 0
  handshakeAckPending : Option Nat := none
  rCep : Nat := accecnInitialCep
  rEct0B : Nat := accecnInitialByteCounter
  rCeB : Nat := accecnInitialCeByteCounter
  rEct1B : Nat := accecnInitialByteCounter
  rLastEmitE0b : Option Nat := none
  rLastEmitCeb : Option Nat := none
  rLastEmitE1b : Option Nat := none
  sCep : Nat := accecnInitialCep
  sDisabled : Bool := false
  manglingDetected : Bool := false
  sEct0B : Nat := accecnInitialByteCounter
  sEct1B : Nat := accecnInitialByteCounter
  sCeB : Nat := accecnInitialCeByteCounter

def AccEcnState.recordReceivedCodepoint (a : AccEcnState) (ipEcn payloadLen : Nat) : AccEcnState :=
  if ipEcn = 3 then
    {a with rCep := (a.rCep + 1) &&& accecnCounterMask,rCeB := (a.rCeB + payloadLen) &&& accecnCounterMask}
  else if ipEcn = 2 then {a with rEct0B := (a.rEct0B + payloadLen) &&& accecnCounterMask}
  else if ipEcn = 1 then {a with rEct1B := (a.rEct1B + payloadLen) &&& accecnCounterMask}
  else a

def AccEcnState.updateSenderCountersFromOption (a : AccEcnState)
    (counters : Option Nat × Option Nat × Option Nat) : AccEcnState :=
  {a with
    sEct0B := counters.1.getD a.sEct0B
    sCeB := counters.2.1.getD a.sCeB
    sEct1B := counters.2.2.getD a.sEct1B}

def AccEcnState.nextAceField (a : AccEcnState) : Nat × AccEcnState :=
  match a.handshakeAckPending with
  | some ace => (ace,{a with handshakeAckPending := none})
  | none => (a.rCep &&& 7,a)

-- The inner test for a changed `e0b` in the first branch is dead in the source
-- too: that branch is only entered when `e0b` did not change.
def AccEcnState.nextEmitCounters (a : AccEcnState) :
    (Option (Option Nat × Option Nat × Option Nat) × Option (Option Nat × Option Nat × Option Nat)) ×
      AccEcnState :=
  let e0bChanged := some a.rEct0B ≠ a.rLastEmitE0b
  let cebChanged := some a.rCeB ≠ a.rLastEmitCeb
  let e1bChanged := some a.rEct1B ≠ a.rLastEmitE1b
  let counters :=
    if e1bChanged ∧ ¬e0bChanged then
      if e0bChanged then (none,some (some a.rEct0B,some a.rCeB,some a.rEct1B))
      else if cebChanged then (none,some (none,some a.rCeB,some a.rEct1B))
      else (none,some (none,none,some a.rEct1B))
    else if e1bChanged then (some (some a.rEct0B,some a.rCeB,some a.rEct1B),none)
    else if cebChanged then (some (some a.rEct0B,some a.rCeB,none),none)
    else if e0bChanged then (some (some a.rEct0B,none,none),none)
    else (some (none,none,none),none)
  (counters,{a with
    rLastEmitE0b := some a.rEct0B
    rLastEmitCeb := some a.rCeB
    rLastEmitE1b := some a.rEct1B})

def AccEcnState.apparentCeDelta (a : AccEcnState) (incomingAce : Nat) : Nat × AccEcnState :=
  let apparentDelta := (incomingAce + 8 - (a.sCep &&& 7)) &&& 7
  (apparentDelta,{a with sCep := (a.sCep + apparentDelta) &&& accecnCounterMask})

structure FastOpenState where
  cookieToEmit : Option (List UInt8) := none
  pendingCounted : Bool := false
  synRetransmitted : Bool := false

structure KeepaliveState where
  enabled : Bool := false
  probesUnacked : Nat := 0
  idleOverride : Option Nat := none
  intervalOverride : Option Nat := none
  maxCountOverride : Option Nat := none
  active : Bool := false

def KeepaliveState.resetForIdle (k : KeepaliveState) : KeepaliveState :=
  {k with probesUnacked := 0,active := true}

def KeepaliveState.idleTimeout (k : KeepaliveState) (default : Nat) : Nat := k.idleOverride.getD default
def KeepaliveState.intervalTimeout (k : KeepaliveState) (default : Nat) : Nat :=
  k.intervalOverride.getD default
def KeepaliveState.maxProbes (k : KeepaliveState) (default : Nat) : Nat := k.maxCountOverride.getD default

structure PersistState where
  active : Bool := false
  timeout : Nat := 0

def PersistState.deactivate (initialTimeout : Nat) : PersistState := {active := false,timeout := initialTimeout}

-- Ghost: `count` is how far RCV.NXT has come since the handshake.
structure RecvSeqState where
  ini : Seq32 := 0
  nxt : Seq32 := 0
  una : Seq32 := 0
  count : Nat := 0

-- The sequence number and the send time of the sampled segment are set and
-- cleared together.
structure RttSampleState where
  sample : Option (Seq32 × Nat) := none
  retransmitted : Bool := false
  lastSendTimeMs : Option Nat := none

def RttSampleState.record (r : RttSampleState) (seq : Seq32) (sendTimeMs : Nat) : RttSampleState :=
  {r with sample := some (seq,sendTimeMs),retransmitted := false}

def RttSampleState.clear (r : RttSampleState) : RttSampleState :=
  {r with sample := none,retransmitted := false}

def RttSampleState.taint (r : RttSampleState) : RttSampleState := {r with retransmitted := true}

structure SendSeqState where
  ini : Seq32 := 0
  una : Seq32 := 0
  nxt : Seq32 := 0
  max : Seq32 := 0
  fin : Seq32 := 0
  finSent : Bool := false
  sml : Seq32 := 0

def SendSeqState.resetTo (q : SendSeqState) (iss : Seq32) : SendSeqState :=
  {q with ini := iss,una := iss,nxt := iss,max := iss,sml := iss}

def SendSeqState.advanceNxt (q : SendSeqState) (seq : Seq32) (dataLen : Nat) (flagSyn flagFin : Bool) :
    SendSeqState :=
  {q with nxt := add32 seq (dataLen + flagSyn.toNat + flagFin.toNat)}

def SendSeqState.bumpMaxToNxt (q : SendSeqState) : SendSeqState :=
  if lt32 q.max q.nxt then {q with max := q.nxt} else q

def SendSeqState.recordFin (q : SendSeqState) : SendSeqState := {q with fin := q.nxt,finSent := true}

def SendSeqState.flight (q : SendSeqState) : Nat := arc q.una q.max

structure ShutdownState where
  rd : Bool := false
  wr : Bool := false

structure TimestampsState where
  sendTs : Bool := false
  tsRecent : BitVec 32 := 0
  tsRecentUpdatedAtMs : Nat := 0

def TimestampsState.update (t : TimestampsState) (tsval : BitVec 32) (nowMs : Nat) : TimestampsState :=
  {t with tsRecent := tsval,tsRecentUpdatedAtMs := nowMs}

structure TxBufferState where
  buffer : List UInt8 := []
  seqMod : Seq32 := 0
  retransmitRequestCounter : List (Seq32 × Nat) := []

-- `del buffer[:n]` stops at the end of the buffer; `seq_mod` moves by all of `n`.
def TxBufferState.drain (t : TxBufferState) (bytesCount : Nat) : TxBufferState :=
  {t with buffer := t.buffer.drop bytesCount,seqMod := add32 t.seqMod bytesCount}

def TxBufferState.bumpSeqModForFlags (t : TxBufferState) (flagSyn flagFin : Bool) : TxBufferState :=
  {t with seqMod := add32 t.seqMod (flagSyn.toNat + flagFin.toNat)}

def TxBufferState.requests (t : TxBufferState) (ack : Seq32) : Nat :=
  (Dict.get t.retransmitRequestCounter ack).getD 0

def TxBufferState.countRequest (t : TxBufferState) (ack : Seq32) : TxBufferState :=
  {t with retransmitRequestCounter := Dict.set t.retransmitRequestCounter ack (t.requests ack + 1)}

def TxBufferState.forgetRequestsBelow (t : TxBufferState) (ack : Seq32) : TxBufferState :=
  {t with retransmitRequestCounter := t.retransmitRequestCounter.filter fun entry => !lt32 entry.1 ack}

-- Ghost: `peerOffers` tells whether the peer's SYN carried a window scale option.
structure WindowState where
  sndMss : Pos := ⟨536,by decide⟩
  sndWnd : Nat := 0
  sndWsc : Nat := 0
  maxWindow : Nat := 0
  rcvMss : Int := 0
  rcvWsc : Nat := 7
  rcvWndMax : Nat := 65535
  peerOffers : Bool := false

def WindowState.bumpMaxWindow (w : WindowState) (sndWnd : Nat) : WindowState :=
  if w.maxWindow < sndWnd then {w with maxWindow := sndWnd} else w

end PmdPytcp.Tcp
