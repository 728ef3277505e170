import PmdPytcp.Tcp.Session

namespace PmdPytcp.Tcp
open Arc

-- The arguments of one `_transmit_packet` call; no sequence number means SND.NXT.
structure Emit where
  seq : Option Seq32 := none
  flagSyn : Bool := false
  flagAck : Bool := false
  flagFin : Bool := false
  flagRst : Bool := false
  flagPsh : Bool := false
  data : List UInt8 := []

-- Whether the segment takes sequence space: `data or flag_syn or flag_fin`.
def Emit.occupies (m : Emit) : Bool := !m.data.isEmpty || m.flagSyn || m.flagFin

def Emit.len (m : Emit) : Nat := m.data.length + m.flagSyn.toNat + m.flagFin.toNat

namespace TcpSession

def restartIdleWindow (m : Emit) (s : TcpSession) : TcpSession :=
  let rw := min (initialWindow s.win.sndMss) s.cc.cwnd
  if !m.data.isEmpty && decide (rw < s.cc.cwnd) then
    {s with cc := {s.cc with cwnd := rw,sndEwn := min rw s.win.sndWnd}}
  else s

def idleFor (e : Env) (s : TcpSession) : Bool :=
  s.rtt.lastSendTimeMs.any fun last => decide (s.rtoState.rtoMs < e.nowMs - last)

def phase0PreSendHygiene (e : Env) (seq : Seq32) (m : Emit) (s : TcpSession) : TcpSession :=
  if m.occupies then
    let s :=
      if s.idleFor e then {s with rtoState := RtoState.initialState}.restartIdleWindow m else s
    let rtt := if s.rtt.sample.isNone then s.rtt.record seq e.nowMs else s.rtt
    {s with rtt := {rtt with lastSendTimeMs := some e.nowMs}}
  else s

def buildSackBlocks (s : TcpSession) : List (Seq32 × Seq32) × TcpSession :=
  let blockCap := if s.ts.sendTs then 3 else 4
  let first := s.pendingDsack.toList
  let stored := s.oooPacketQueue.reverse.map fun p => (p.1.tcpSeq,add32 p.1.tcpSeq p.1.tcpData.length)
  (first ++ stored.take (blockCap - first.length),{s with pendingDsack := none})

def sackBlocksField (m : Emit) (s : TcpSession) : Option (List (Seq32 × Seq32)) × TcpSession :=
  if !m.flagSyn && s.advertise.sendSack && (!s.oooPacketQueue.isEmpty || s.pendingDsack.isSome) then
    (some s.buildSackBlocks.1,s.buildSackBlocks.2)
  else (none,s)

def winField (m : Emit) (s : TcpSession) : Int :=
  if m.flagSyn then min s.rcvWnd 0xFFFF
  else if 0 < s.rcvWnd ∧ (s.rcvWnd : Int) < s.win.rcvMss then 0
  else (s.rcvWnd >>> s.win.rcvWsc : Nat)

def wscaleField (m : Emit) (s : TcpSession) : Option Nat :=
  if m.flagSyn && s.advertise.wscale then some s.win.rcvWsc else if m.flagSyn then some 0 else none

def sackpermField (m : Emit) (s : TcpSession) : Bool :=
  if m.flagSyn && !m.flagAck then s.advertise.sack
  else if m.flagSyn && m.flagAck then s.advertise.sendSack
  else false

def tsFields (e : Env) (m : Emit) (s : TcpSession) : Option (BitVec 32) × Option (BitVec 32) :=
  let tsClock := BitVec.ofNat 32 e.nowMs
  if m.flagSyn && !m.flagAck then
    if s.advertise.ts then (some tsClock,some 0) else (none,none)
  else if s.ts.sendTs then (some tsClock,some s.ts.tsRecent)
  else (none,none)

def mssField (m : Emit) (s : TcpSession) : Option Int :=
  if m.flagSyn then
    some (min (min s.win.rcvMss 0xFFFF) (if 0 < s.maxsegOverride then s.maxsegOverride else 0xFFFF))
  else none

-- The three ECN bits of the header before a pending CWR is consumed, in the
-- order (ECE, CWR, NS).
def ecnBits (m : Emit) (s : TcpSession) : (Bool × Bool × Bool) × TcpSession :=
  if m.flagSyn && !m.flagAck && s.advertise.accecn then ((true,true,true),s)
  else if m.flagSyn && !m.flagAck && s.advertise.ecn then ((true,true,false),s)
  else if m.flagSyn && m.flagAck && s.accecn.enabled then
    let cp := s.accecn.synackCodepoint
    ((cp &&& 1 != 0,cp &&& 2 == 0 || cp &&& 1 != 0,cp &&& 2 != 0),s)
  else if m.flagSyn && m.flagAck && s.ecn.enabled then ((true,false,false),s)
  else if s.accecn.enabled && !m.flagRst then
    let (ace,accecn) := s.accecn.nextAceField
    ((ace &&& 1 != 0,ace &&& 2 != 0,ace &&& 4 != 0),{s with accecn := accecn})
  else if s.ecn.enabled && s.ecn.sendEce && !m.flagRst then ((true,false,false),s)
  else ((false,false,false),s)

def phase1ComposeEcnFlags (m : Emit) (s : TcpSession) : (Bool × Bool × Bool) × TcpSession :=
  let ((ece,cwr,ns),s) := s.ecnBits m
  if s.ecn.enabled && !m.data.isEmpty then
    let (consumed,ecn) := s.ecn.consumeCwr
    ((ece,cwr || consumed,ns),{s with ecn := ecn})
  else ((ece,cwr,ns),s)

def phase2BuildAccecnCounters (m : Emit) (s : TcpSession) :
    (Option (Option Nat × Option Nat × Option Nat) × Option (Option Nat × Option Nat × Option Nat)) ×
      TcpSession :=
  if !s.accecn.enabled || m.flagRst || (m.flagSyn && !m.flagAck) then ((none,none),s)
  else
    let (counters,accecn) := s.accecn.nextEmitCounters
    (counters,{s with accecn := accecn})

def phase3BuildFastopenCookie (e : Env) (m : Emit) (s : TcpSession) : Option (List UInt8) :=
  if m.flagSyn && m.flagAck && s.fastopen.cookieToEmit.isSome then s.fastopen.cookieToEmit
  else if m.flagSyn && !m.flagAck && s.advertise.fastopen then
    if e.fastopenNegative || s.fastopen.synRetransmitted then none
    else some (e.fastopenCookie.getD [])
  else none

def ipEcnField (seq : Seq32) (m : Emit) (s : TcpSession) : Nat :=
  let isRetransmit := !m.data.isEmpty && lt32 seq s.sndSeq.max
  if s.ecn.enabled && !m.data.isEmpty && !isRetransmit then 2 else 0

def accecnDue (m : Emit) (s : TcpSession) : Nat :=
  if !s.accecn.enabled || m.flagRst || (m.flagSyn && !m.flagAck) then 0
  else
    let counters := (s.accecn.nextEmitCounters.1.1.or s.accecn.nextEmitCounters.1.2).getD (none,none,none)
    counters.1.toList.length + counters.2.1.toList.length + counters.2.2.toList.length

def blocksDue (s : TcpSession) : Nat := s.pendingDsack.toList.length + s.oooPacketQueue.length

-- Ghost: the options due are more than forty octets. Either an AccECN option
-- comes on top of a full set of SACK blocks, or a SYN+ACK answers every option
-- of the SYN and carries a cookie besides.
def Crowded (m : Emit) (s : TcpSession) : Prop :=
  if m.flagSyn then
    m.flagAck = true ∧ s.mssField m ≠ some 0 ∧ s.advertise.sendSack = true ∧ s.advertise.wscale = true ∧
      s.win.rcvWsc ≠ 0 ∧ s.ts.sendTs = true ∧ (s.fastopen.cookieToEmit.getD []).length = 8 ∧ s.accecnDue m = 3
  else
    s.advertise.sendSack = true ∧
      if s.ts.sendTs then 3 ≤ s.blocksDue ∧ 1 ≤ s.accecnDue m else 4 ≤ s.blocksDue ∧ 2 ≤ s.accecnDue m

instance (m : Emit) (s : TcpSession) : Decidable (s.Crowded m) :=
  inferInstanceAs (Decidable (if m.flagSyn then _ ∧ _ ∧ _ ∧ _ ∧ _ ∧ _ ∧ _ ∧ _ else _ ∧ if s.ts.sendTs then _ ∧ _ else _ ∧ _))

-- The header fields, and what filling them in uses up: the pending DSACK, a
-- pending CWR and the AccECN bookkeeping.
def composeSegment (e : Env) (seq : Seq32) (m : Emit) (s : TcpSession) : Segment × TcpSession :=
  let (sackBlocks,s₁) := s.sackBlocksField m
  let ((ece,cwr,ns),s₂) := s₁.phase1ComposeEcnFlags m
  let ((accecn0,accecn1),s₃) := s₂.phase2BuildAccecnCounters m
  ({flagSyn := m.flagSyn
    flagAck := m.flagAck
    flagFin := m.flagFin
    flagRst := m.flagRst
    flagPsh := m.flagPsh
    flagEce := ece
    flagCwr := cwr
    flagNs := ns
    seq := seq
    ack := if m.flagAck then s.rcvSeq.nxt else 0
    win := s.winField m
    ipEcn := s.ipEcnField seq m
    mss := s.mssField m
    wscale := s.wscaleField m
    sackperm := s.sackpermField m
    sackBlocks := sackBlocks
    tsval := (s.tsFields e m).1
    tsecr := (s.tsFields e m).2
    fastopenCookie := s.phase3BuildFastopenCookie e m
    accecn0Counters := accecn0
    accecn1Counters := accecn1
    data := m.data
    moment := {s.moment with crowded := decide (s.Crowded m)}},s₃)

def drained (s : TcpSession) : Nat := s.written.length - s.tx.buffer.length

def observe (seg : Segment) (s : TcpSession) : Obs :=
  if seg.takesSpace then .sent seg s.sndSeq.una s.sndSeq.max s.win.sndWnd s.drained else .control seg

-- The model sends whatever was composed. `_phtx_tcp` refuses a segment whose
-- window or options do not fit its header; `Segment.Assembles` says which go out,
-- and the results that need it ask for it.
def sendTcpPacket (seg : Segment) (s : TcpSession) : TcpSession := {s with log := s.log ++ [s.observe seg]}

def recordRack (e : Env) (seq : Seq32) (m : Emit) (s : TcpSession) : TcpSession :=
  if m.occupies then {s with rackTlp := s.rackTlp.recordSegment seq (add32 seq m.len) e.nowMs} else s

def advanceSendSeq (seq : Seq32) (m : Emit) (q : SendSeqState) : SendSeqState :=
  let q := (q.advanceNxt seq m.data.length m.flagSyn m.flagFin).bumpMaxToNxt
  if m.flagFin then q.recordFin else q

def countPrrOut (m : Emit) (s : TcpSession) : TcpSession :=
  if s.cc.recoveryPoint ≠ 0 ∧ m.occupies = true then
    {s with cc := {s.cc with prrOut := s.cc.prrOut + m.len}}
  else s

def phase4AdvanceSendState (e : Env) (seq : Seq32) (m : Emit) (s : TcpSession) : TcpSession :=
  let s := s.recordRack e seq m
  let s := {s with
    rcvSeq := {s.rcvSeq with una := s.rcvSeq.nxt}
    sndSeq := advanceSendSeq seq m s.sndSeq
    tx := s.tx.bumpSeqModForFlags m.flagSyn m.flagFin}
  let s := s.countPrrOut m
  if m.flagAck then {s with delayedAckSegmentsPending := 0} else s

def armTlp (e : Env) (m : Emit) (s : TcpSession) : TcpSession :=
  if !m.data.isEmpty && s.cc.recoveryPoint == 0 && !s.cc.frtoActive && decide (0 < s.rtoState.srtt) then
    let ptoMs := tlpCalcPto s.rtoState.srtt s.sndSeq.flight s.win.sndMss s.rackTlp.tlpMaxAckDelayMs
      (s.timers.deadline .retransmit) e.nowMs
    if 0 < ptoMs then
      {s.armTimer e .tlp ptoMs with rackTlp := {s.rackTlp with tlpArmed := true}}
    else s
  else s

def phase5PostSendTimers (e : Env) (m : Emit) (s : TcpSession) : TcpSession :=
  let s := s.keepaliveArmIdle e
  let s := if s.state = .established then s.armTimer e .delayedAck e.delayedAckDelayMs else s
  let s :=
    if m.occupies && !s.timerArmed e .retransmit then s.armTimer e .retransmit s.rtoState.rtoMs else s
  s.armTlp e m

def transmitPacket (e : Env) (m : Emit) (s : TcpSession) : TcpSession :=
  let seq := m.seq.getD s.sndSeq.nxt
  let s := s.phase0PreSendHygiene e seq m
  let (seg,s) := s.composeSegment e seq m
  let s := s.sendTcpPacket seg
  let s := s.phase4AdvanceSendState e seq m
  s.phase5PostSendTimers e m

def emitChallengeAck (e : Env) (s : TcpSession) : TcpSession :=
  if s.timerArmed e .challengeAck then s
  else (s.transmitPacket e {flagAck := true}).armTimer e .challengeAck e.challengeAckRateLimitMs

def delayedAck (e : Env) (s : TcpSession) : TcpSession :=
  if s.timerArmed e .delayedAck then s
  else
    let s := if gt32 s.rcvSeq.nxt s.rcvSeq.una then s.transmitPacket e {flagAck := true} else s
    if s.timerExpired e .delayedAck then s.cancelTimer e .delayedAck else s

def transmitSyn (e : Env) (s : TcpSession) : TcpSession :=
  let tfoData :=
    if (e.fastopenCookie.any fun cookie => !cookie.isEmpty) && s.advertise.fastopen && !s.tx.buffer.isEmpty then
      s.tx.buffer.take s.win.sndMss.1.toNat
    else []
  s.transmitPacket e {flagSyn := true,data := tfoData}

def optionsOverhead (s : TcpSession) : Int :=
  (if s.ts.sendTs then 12 else 0) +
  (if s.advertise.sendSack && (!s.oooPacketQueue.isEmpty || s.pendingDsack.isSome) then
    (2 + 8 * (if s.ts.sendTs then 3 else 4) + 3) / 4 * 4 else 0) +
  (if s.accecn.enabled then 12 else 0)

def mssForData (s : TcpSession) : Int := max (s.win.sndMss.1 - s.optionsOverhead) 1

def remainingDataLen (s : TcpSession) : Int := (s.tx.buffer.length : Int) - s.txBufferNxt

def usableWindow (s : TcpSession) : Int := s.cc.sndEwn - s.txBufferNxt

-- The probe the path MTU search wants, when a full one fits.
def reserveProbe (e : Env) (s : TcpSession) : Option (Int × Int) × TcpSession :=
  match s.plpmtudAdapter.engine.candidateMtu with
  | none => (none,s)
  | some candidate =>
    let probePayload := candidate - s.ipTcpOverhead - s.optionsOverhead
    if s.plpmtudProbingEnabled ∧ s.win.sndMss.1 < probePayload ∧ probePayload ≤ s.usableWindow ∧
        probePayload ≤ s.remainingDataLen then
      let (reserved,adapter) := s.plpmtudAdapter.maybeProbe e.monotonicMs
      (reserved.map fun size => (size,probePayload),{s with plpmtudAdapter := adapter})
    else (none,s)

def noteSent (e : Env) (probe : Option (Int × Int)) (isRetransmit : Bool) (emitSeq endSeq : Seq32) (packetSize : Int)
    (s : TcpSession) : TcpSession :=
  match probe with
  | some (size,_) => {s with plpmtudAdapter := s.plpmtudAdapter.recordEmittedProbe endSeq size emitSeq}
  | none =>
    if !s.plpmtudProbingEnabled then s
    else if isRetransmit then
      {s with plpmtudAdapter := s.plpmtudAdapter.onRangeRetransmitted emitSeq endSeq e.monotonicMs}
    else {s with plpmtudAdapter := s.plpmtudAdapter.noteDataSegment emitSeq endSeq packetSize}

def markSmall (s : TcpSession) : TcpSession := {s with sndSeq := {s.sndSeq with sml := s.sndSeq.nxt}}

def sendData (e : Env) (probe : Option (Int × Int)) (len : Nat) (s : TcpSession) : TcpSession :=
  let isRetransmit := lt32 s.sndSeq.nxt s.sndSeq.max
  let isPartial := decide ((len : Int) < s.mssForData)
  let prevPartialInFlight := gt32 s.sndSeq.sml s.sndSeq.una
  if isPartial && prevPartialInFlight && !isRetransmit && !s.tcpNodelay then s
  else
    let emitSeq := s.sndSeq.nxt
    let endSeq := add32 emitSeq len
    let packetSize := (len : Int) + s.ipTcpOverhead + s.optionsOverhead
    let data := (s.tx.buffer.drop s.txBufferNxt).take len
    let s₁ := s.transmitPacket e {flagAck := true,flagPsh := decide ((len : Int) = s.remainingDataLen),data := data}
    let s₁ := s₁.noteSent e probe isRetransmit emitSeq endSeq packetSize
    if isPartial then s₁.markSmall else s₁

def probeZeroWindow (e : Env) (s : TcpSession) : TcpSession :=
  if s.cc.sndEwn ≠ 0 then s
  else if !s.persist.active then
    {s with persist := {active := true,timeout := e.rtoInitialMs}}.armTimer e .persist e.rtoInitialMs
  else if s.timerExpired e .persist then
    let s := (s.transmitPacket e {flagAck := true,data := (s.tx.buffer.drop s.txBufferNxt).take 1}).markSmall
    let timeout := min (s.persist.timeout * 2) e.persistTimeoutMaxMs
    {s with persist := {s.persist with timeout := timeout}}.armTimer e .persist timeout
  else s

def pumpData (e : Env) (s : TcpSession) : TcpSession :=
  let s := s.advanceSndNxtPastSacked
  let remaining := s.remainingDataLen
  let plain := min (min s.mssForData s.usableWindow) remaining
  let (probe,s) := s.reserveProbe e
  let len := (probe.map Prod.snd).getD plain
  if remaining = 0 then s
  else if 0 < len then s.sendData e probe len.toNat
  else s.probeZeroWindow e

def finState (state : FsmState) : Bool :=
  decide (state = .finWait1 ∨ state = .closing ∨ state = .lastAck)

def transmitDataOnce (e : Env) (s : TcpSession) : TcpSession :=
  if !inRange32 s.sndSeq.nxt s.sndSeq.una (add32 s.sndSeq.una s.cc.sndEwn) then s
  else if s.state = .synSent ∧ s.sndSeq.nxt = s.sndSeq.ini then s.transmitSyn e
  else if s.state = .synRcvd ∧ s.sndSeq.nxt = s.sndSeq.ini then
    s.transmitPacket e {flagSyn := true,flagAck := true}
  else if s.state = .established ∨ s.state = .closeWait then s.pumpData e
  else if finState s.state ∧ s.sndSeq.nxt ≠ s.sndSeq.fin then
    s.transmitPacket e {flagFin := true,flagAck := true}
  else s

def pumpLoop (e : Env) : Nat → TcpSession → TcpSession
  | 0,s => s
  | n + 1,s =>
    let s' := s.transmitDataOnce e
    if s'.sndSeq.nxt = s.sndSeq.nxt then s' else pumpLoop e n s'

-- `_transmit_data`: in recovery one segment a call, else until nothing moves.
def transmitData (e : Env) (s : TcpSession) : TcpSession :=
  pumpLoop e (if s.cc.recoveryPoint ≠ 0 then 1 else maxSegmentsPerPump) s

end TcpSession

end PmdPytcp.Tcp
