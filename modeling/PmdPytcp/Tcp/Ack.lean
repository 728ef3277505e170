import PmdPytcp.Tcp.Retransmit

namespace PmdPytcp.Tcp
open Arc

namespace TcpSession

def followPlpmtud (e : Env) (s : TcpSession) : TcpSession :=
  let before := s.plpmtudAdapter.currentMtu
  let adapter := s.plpmtudAdapter.onSndUnaAdvance s.sndSeq.una e.monotonicMs
  let adapter :=
    if s.plpmtudProbingEnabled then adapter.checkImplicitConfirm s.sndSeq.una e.monotonicMs else adapter
  let s := {s with plpmtudAdapter := adapter}
  if s.plpmtudProbingEnabled then
    if s.engineMss.1 ≠ s.win.sndMss.1 ∧ tcpMinMss ≤ s.engineMss.1 then
      {s with win := {s.win with sndMss := s.engineMss}}
    else s
  else if before < s.plpmtudAdapter.currentMtu ∧ s.win.sndMss.1 < s.engineMss.1 then
    {s with win := {s.win with sndMss := s.engineMss}}
  else s

def hystartRound (s : TcpSession) : TcpSession :=
  if s.cc.ssthresh ≤ s.cc.cwnd then s
  else if s.cc.hystartState.windowEndSeq = 0 then
    {s with cc := {s.cc with hystartState := {s.cc.hystartState with windowEndSeq := s.sndSeq.nxt}}}
  else if lt32 s.sndSeq.una s.cc.hystartState.windowEndSeq then s
  else
    let h := s.cc.hystartState.rotateRound s.sndSeq.nxt
    if h.inCss && h.cssRoundsRemaining == 0 then
      {s with cc := {s.cc with ssthresh := s.cc.cwnd,hystartState := h.resumeSlowStart}}
    else {s with cc := {s.cc with hystartState := h}}

def clearRecoverSeq (s : TcpSession) : TcpSession :=
  if s.cc.recoverSeq ≠ 0 ∧ ge32 s.sndSeq.una s.cc.recoverSeq = true then
    {s with cc := {s.cc with recoverSeq := 0}}
  else s

def countPrrDelivered (bytesAcked : Nat) (s : TcpSession) : TcpSession :=
  if s.cc.recoveryPoint ≠ 0 then
    {s with cc := {s.cc with prrDelivered := s.cc.prrDelivered + bytesAcked}}
  else s

-- RFC 6937: how much may go out now. The division raises when RecoverFS is 0.
def prrSndcnt (bytesAcked : Nat) (currentPipe : Int) (s : TcpSession) : Except (PyExc × TcpSession) Int :=
  if s.cc.ssthresh < currentPipe then
    if s.cc.recoverFs = 0 then .error (.zeroDivisionError,s)
    else .ok (-((-s.cc.prrDelivered * s.cc.ssthresh) / s.cc.recoverFs) - s.cc.prrOut)
  else
    let limit :=
      if s.advertise.sendSack = true ∧ 0 < bytesAcked then
        max (s.cc.prrDelivered - s.cc.prrOut) bytesAcked + s.win.sndMss.1
      else s.cc.prrDelivered - s.cc.prrOut
    .ok (min (s.cc.ssthresh - currentPipe) limit)

def proportionalReduction (bytesAcked : Nat) (s : TcpSession) : Outcome := do
  let currentPipe := pipe s.sackScoreboard s.sndSeq.una s.sndSeq.max
  let sndcnt ← s.prrSndcnt bytesAcked currentPipe
  .ok {s with cc := {s.cc with cwnd := currentPipe + max 0 sndcnt}}

def growCubic (e : Env) (bytesAcked : Nat) (s : TcpSession) : Outcome := do
  let s := {s with cc := {s.cc with cubicInCa := true}}
  let cwnd ← s.requirePositive s.cc.cwnd
  let ssthresh ← s.requirePositive s.cc.ssthresh
  let cubicCwnd := cubicGrowPerAck cwnd ssthresh s.cc.cubic.wMax s.cc.cubic.kMs s.cc.cubic.epochStartMs e.nowMs
    bytesAcked s.win.sndMss s.rtoState.srtt
  let wEstPrev := if s.cc.cubic.wEst = 0 then cwnd.1.toNat else s.cc.cubic.wEst
  let wEst := cubicWEst wEstPrev cwnd s.win.sndMss bytesAcked
  .ok {s with cc := {s.cc with cubic := {s.cc.cubic with wEst := wEst},cwnd := max cubicCwnd wEst}}

def growReno (bytesAcked : Nat) (s : TcpSession) : Outcome :=
  if s.cc.cwnd < s.cc.ssthresh ∧ s.cc.hystartState.inCss = true then
    .ok {s with cc := {s.cc with cwnd := s.cc.cwnd + cssGrowthIncrement bytesAcked s.win.sndMss}}
  else do
    let cwnd ← s.requirePositive s.cc.cwnd
    let ssthresh ← s.requirePositive s.cc.ssthresh
    .ok {s with cc := {s.cc with cwnd := cwndGrowPerAck cwnd ssthresh bytesAcked s.win.sndMss}}

def updateCwnd (e : Env) (bytesAcked : Nat) (s : TcpSession) : Outcome :=
  if s.cc.recoveryPoint ≠ 0 ∧ lt32 s.sndSeq.una s.cc.recoveryPoint = true then s.proportionalReduction bytesAcked
  else if s.cc.ccMode = .cubic ∧ s.cc.ssthresh ≤ s.cc.cwnd then s.growCubic e bytesAcked
  else s.growReno bytesAcked

def refreshEwn (s : TcpSession) : TcpSession :=
  {s with cc := {s.cc with sndEwn := min s.cc.cwnd s.win.sndWnd}}

def tlpAck (p : TcpMetadata) (s : TcpSession) : TcpSession :=
  let (endSeq,invokeCc) := tlpProcessAck s.rackTlp.tlpEndSeq s.rackTlp.tlpIsRetrans p.tcpAck
    (decide (0 < s.dsackReceived)) (!s.sackScoreboard.isEmpty)
  let s := {s with rackTlp := {s.rackTlp with tlpEndSeq := endSeq}}
  if invokeCc then
    let ssthresh := computeLossEventSsthresh s.sndSeq.flight s.win.sndMss
    {s with cc := {s.cc with ssthresh := ssthresh,cwnd := ssthresh,sndEwn := min ssthresh s.win.sndWnd}}
  else s

def rearmRetransmit (e : Env) (s : TcpSession) : TcpSession :=
  if s.sndSeq.una = s.sndSeq.max then
    let s := (s.cancelTimer e .retransmit).cancelTimer e .tlp
    {s with rackTlp := s.rackTlp.cancelTlp}
  else s.armTimer e .retransmit s.rtoState.rtoMs

def phase2FrtoSpuriousDetect (s : TcpSession) : TcpSession :=
  if !s.cc.frtoActive then s
  else
    let fullyCovered := !lt32 s.sndSeq.una s.cc.frtoPreSndMax
    if s.cc.frtoStep = 1 ∧ fullyCovered = false then {s with cc := {s.cc with frtoStep := 2}}
    else if s.cc.frtoStep = 1 ∨ s.cc.frtoStep = 2 then
      {s with cc := {s.cc with frtoStep := 0,frtoActive := false}.restoreFrtoSnapshot s.win.sndWnd}
    else s

def phase1CumAckSideEffects (e : Env) (p : TcpMetadata) (s : TcpSession) : Outcome :=
  if !lt32 s.sndSeq.una p.tcpAck then .ok s
  else do
    let bytesAcked := arc s.sndSeq.una p.tcpAck
    let s := {s with sndSeq := {s.sndSeq with una := p.tcpAck}}
    let s := ((s.followPlpmtud e).hystartRound.clearRecoverSeq).countPrrDelivered bytesAcked
    let s ← s.updateCwnd e bytesAcked
    let s := {s.refreshEwn with retransmitCount := 0}
    .ok ((s.tlpAck p).rearmRetransmit e).phase2FrtoSpuriousDetect

def hystartCheckPhaseTransition (h : HyStartState) : HyStartState :=
  if h.shouldExitSlowStartToCss then h.enterCss
  else if h.shouldResumeSlowStartFromCss then h.resumeSlowStart
  else h

def takeRttSample (e : Env) (sampleMs : Nat) (s : TcpSession) : TcpSession :=
  let s := {s with rtoState := s.rtoState.update e.rtoMinMs sampleMs}
  if s.cc.cwnd < s.cc.ssthresh ∨ s.cc.hystartState.inCss = true then
    let h := hystartCheckPhaseTransition (s.cc.hystartState.foldRttSample sampleMs)
    {s with cc := {s.cc with hystartState := h}}
  else s

def takeTsSample (e : Env) (p : TcpMetadata) (s : TcpSession) : TcpSession :=
  match p.tcpTsecr with
  | none => s
  | some tsecr =>
    if s.ts.sendTs = true ∧ tsecr ≠ 0 then
      let s := s.takeRttSample e (arc tsecr (BitVec.ofNat 32 e.nowMs))
      {s with rtt := s.rtt.clear}
    else s

def phase3HarvestRttSamples (e : Env) (p : TcpMetadata) (s : TcpSession) : TcpSession :=
  let s := s.takeTsSample e p
  match s.rtt.sample with
  | none => s
  | some (seq,sendTimeMs) =>
    if gt32 p.tcpAck seq then
      let s := if s.rtt.retransmitted then s else s.takeRttSample e (e.nowMs - sendTimeMs)
      {s with rtt := s.rtt.clear}
    else s

def exitRecovery (s : TcpSession) : TcpSession :=
  if s.cc.recoveryPoint ≠ 0 ∧ le32 s.cc.recoveryPoint s.sndSeq.una = true then
    {s with
      cc := {s.cc with
        cwnd := s.cc.ssthresh
        sndEwn := min s.cc.ssthresh s.win.sndWnd
        recoveryPoint := 0
        frCubicSnapshotValid := false
        recoverFs := 0
        prrDelivered := 0
        prrOut := 0}
      rackTlp := s.rackTlp.decayReoWndPersist}
  else s

def phase4LossDetectionAndRecoveryExit (e : Env) (p : TcpMetadata) (s : TcpSession) : TcpSession :=
  let s := s.rackProcessAck e p
  {s with rackTlp := s.rackTlp.pruneSegments s.sndSeq.una}.exitRecovery

def catchUpNxt (s : TcpSession) : TcpSession :=
  if lt32 s.sndSeq.nxt s.sndSeq.una && le32 s.sndSeq.una s.sndSeq.max then
    {s with sndSeq := {s.sndSeq with nxt := s.sndSeq.una}}
  else s

def overlapPrefix (p : TcpMetadata) (s : TcpSession) : Nat :=
  if lt32 p.tcpSeq s.rcvSeq.nxt then arc p.tcpSeq s.rcvSeq.nxt else 0

def noteOverlap (p : TcpMetadata) (s : TcpSession) : TcpSession :=
  if s.advertise.sendSack = true ∧ 0 < s.overlapPrefix p then
    {s with pendingDsack := some (p.tcpSeq,add32 p.tcpSeq (s.overlapPrefix p))}
  else s

def advanceRcvNxt (p : TcpMetadata) (s : TcpSession) : TcpSession :=
  if lt32 s.rcvSeq.nxt p.segEnd then
    {s with rcvSeq := {s.rcvSeq with nxt := p.segEnd,count := s.rcvSeq.count + arc s.rcvSeq.nxt p.segEnd}}
  else s

def ackEverySecond (e : Env) (s : TcpSession) : TcpSession :=
  let s := {s with delayedAckSegmentsPending := s.delayedAckSegmentsPending + 1}
  if 2 ≤ s.delayedAckSegmentsPending then s.transmitPacket e {flagAck := true}
  else s.armTimer e .delayedAck e.delayedAckDelayMs

def consumePayload (e : Env) (p : TcpMetadata) (s : TcpSession) : TcpSession :=
  let overlap := s.overlapPrefix p
  let s := (s.noteOverlap p).advanceRcvNxt p
  if overlap < p.tcpData.length then (s.enqueueRxBuffer (p.tcpData.drop overlap)).ackEverySecond e
  else s

def drainTx (s : TcpSession) : TcpSession := {s with tx := s.tx.drain s.txBufferUna}

def peerWnd (p : TcpMetadata) (s : TcpSession) : Nat := p.tcpWin <<< s.win.sndWsc

def takeWindow (p : TcpMetadata) (s : TcpSession) : TcpSession :=
  let s :=
    if s.win.sndWnd ≠ s.peerWnd p then
      {s with
        win := {s.win with sndWnd := s.peerWnd p}
        cc := {s.cc with sndEwn := min s.cc.cwnd (s.peerWnd p)}}
    else s
  {s with win := s.win.bumpMaxWindow s.win.sndWnd}

def leavePersist (e : Env) (s : TcpSession) : TcpSession :=
  if 0 < s.win.sndWnd ∧ s.persist.active = true then
    {s with persist := PersistState.deactivate e.rtoInitialMs}.cancelTimer e .persist
  else s

def purgeOoo (s : TcpSession) : TcpSession :=
  {s with oooPacketQueue := s.oooPacketQueue.filter fun p => !lt32 p.1.tcpSeq s.rcvSeq.nxt}

-- `replay` is `session.tcp_fsm(ooo_packet)`.
def replayOoo (replay : TcpMetadata → TcpSession → Outcome) (s : TcpSession) : Outcome :=
  match s.oooPacketQueue.find s.rcvSeq.nxt with
  | none => .ok s
  | some p => replay p.1 {s with oooPacketQueue := s.oooPacketQueue.drop s.rcvSeq.nxt}

def phase5ConsumeSegmentAndPostprocess (replay : TcpMetadata → TcpSession → Outcome) (e : Env) (p : TcpMetadata)
    (s : TcpSession) : Outcome :=
  let s := (s.catchUpNxt.consumePayload e p).drainTx
  let s := (s.takeWindow p).leavePersist e
  let s := {s with tx := s.tx.forgetRequestsBelow p.tcpAck}
  s.purgeOoo.replayOoo replay

def processAckPacket (replay : TcpMetadata → TcpSession → Outcome) (e : Env) (p : TcpMetadata) (s : TcpSession) :
    Outcome :=
  let (passed,s) := s.checkPawsAndUpdateTsRecent e p
  if !passed then .ok s
  else do
    let s ← (s.keepaliveArmIdle e).phase1CumAckSideEffects e p
    let s := ((s.phase3HarvestRttSamples e p).pruneSackScoreboard).ingestSackInfo p
    (s.phase4LossDetectionAndRecoveryExit e p).phase5ConsumeSegmentAndPostprocess replay e p

end TcpSession

end PmdPytcp.Tcp
