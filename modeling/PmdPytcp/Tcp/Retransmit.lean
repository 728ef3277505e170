import PmdPytcp.Tcp.Validate

namespace PmdPytcp.Tcp
open Arc

namespace TcpSession

theorem engine_mss_positive (s : TcpSession) : 0 < s.plpmtudAdapter.currentMtu - s.ipTcpOverhead := by
  have floor := s.plpmtudAdapter.engine.currentFloor
  unfold TcpPlpmtudAdapter.currentMtu ipTcpOverhead
  cases version : s.plpmtudAdapter.engine.version with
  | ip4 =>
    simp only [version,Plpmtud.minPlpmtu] at floor ⊢
    omega
  | ip6 =>
    simp only [version,Plpmtud.minPlpmtu] at floor ⊢
    omega

def engineMss (s : TcpSession) : Pos := ⟨s.plpmtudAdapter.currentMtu - s.ipTcpOverhead,s.engine_mss_positive⟩

def retransmitBudget (e : Env) (s : TcpSession) : Nat :=
  if 0 < s.userTimeoutMs then max 1 (s.userTimeoutMs / max 1 s.rtoState.rtoMs) else e.retransmitMaxCount

def reportTimeout (s : TcpSession) : TcpSession :=
  match s.state with
  | .established | .finWait1 | .finWait2 | .closing | .closeWait =>
    {s with connectionError := .timeout,eventRxBuffer := true}
  | .synSent | .synRcvd =>
    {s with
      connectionError :=
        if s.connectionError = .hostUnreachable ∨ s.connectionError = .netUnreachable then s.connectionError
        else .timeout
      eventConnect := s.eventConnect + 1}
  | _ => s

def abortForTimeout (e : Env) (s : TcpSession) : TcpSession :=
  let s :=
    if s.peerContacted then s.transmitPacket e {flagRst := true,flagAck := true,seq := some s.sndSeq.una} else s
  s.reportTimeout.changeState e .closed none

def backOffForTimeout (e : Env) (s : TcpSession) : TcpSession :=
  let rtt := if (s.rtt.sample.any fun sample => sample.1 == s.sndSeq.una) then s.rtt.taint else s.rtt
  {s with
    rtt := rtt
    rackTlp := s.rackTlp.markAllLost
    rtoState := s.rtoState.backOff
    retransmitCount := s.retransmitCount + 1
    plpmtudAdapter := s.plpmtudAdapter.onRtoTimeout e.monotonicMs}

def shrinkMssToEngine (s : TcpSession) : TcpSession :=
  if s.plpmtudProbingEnabled ∧ s.engineMss.1 < s.win.sndMss.1 then
    {s with win := {s.win with sndMss := s.engineMss}}
  else s

def countSynRetransmit (s : TcpSession) : TcpSession :=
  if s.state = .synSent ∨ s.state = .synRcvd then
    let fastopen :=
      if s.state = .synSent ∧ s.advertise.fastopen = true then {s.fastopen with synRetransmitted := true}
      else s.fastopen
    {s with synRetransmitCount := s.synRetransmitCount + 1,fastopen := fastopen}
  else s

def enterFrto (s : TcpSession) : TcpSession :=
  if s.cc.frtoStep ≠ 0 ∧ lt32 s.cc.frtoPreSndMax s.sndSeq.una = false then
    {s with cc := {s.cc with frtoPreSndMax := s.sndSeq.max}}
  else {s with cc := s.cc.saveFrtoSnapshot s.sndSeq.max}

theorem max_positive (x : Int) (y : Pos) : 0 < max x y.1 := by
  have positive := y.2
  have bound := le_max_right x y.1
  omega

def ssthreshForTimeout (e : Env) (s : TcpSession) : TcpSession :=
  match s.cc.ccMode with
  | .cubic =>
    let prior := s.cc.cubic.wMax
    let (ssthresh,wMax) :=
      cubicLossEventSsthresh ⟨max s.cc.cwnd s.win.sndMss.1,max_positive _ _⟩ s.win.sndMss true prior
    {s with cc := {s.cc with
      ssthresh := ssthresh
      cubicWLastMax := prior
      cubic := {
        wMax := wMax
        kMs := cubicComputeK e.cubeRoot wMax s.win.sndMss.1.toNat s.win.sndMss
        epochStartMs := e.nowMs
        wEst := 0}
      cubicInCa := false}}
  | .reno => {s with cc := {s.cc with ssthresh := computeLossEventSsthresh s.sndSeq.flight s.win.sndMss}}

def collapseWindow (s : TcpSession) : TcpSession :=
  {s with
    cc := {s.cc with
      cwnd := s.win.sndMss
      sndEwn := min s.win.sndMss.1 s.win.sndWnd
      recoveryPoint := 0
      recoverSeq := s.sndSeq.max}
    sndSeq := {s.sndSeq with nxt := s.sndSeq.una}}

-- SND.NXT stands at SND.UNA here: the octet about to be sent again is the SYN
-- or the FIN, and its `seq_mod` bump is taken back.
def walkBackSeqMod (s : TcpSession) : TcpSession :=
  if s.sndSeq.nxt = s.sndSeq.ini ∨ s.sndSeq.finSent = true ∧ s.sndSeq.nxt = sub32 s.sndSeq.fin 1 then
    {s with tx := {s.tx with seqMod := sub32 s.tx.seqMod 1}}
  else s

def retransmitPacketTimeout (e : Env) (s : TcpSession) : TcpSession :=
  if !s.timerExpired e .retransmit then s
  else if s.sndSeq.una = s.sndSeq.max then s
  else if s.retransmitBudget e ≤ s.retransmitCount then s.abortForTimeout e
  else
    let s := (s.backOffForTimeout e).shrinkMssToEngine.countSynRetransmit
    let s := s.armTimer e .retransmit s.rtoState.rtoMs
    let s := s.enterFrto.ssthreshForTimeout e
    s.collapseWindow.walkBackSeqMod

def rackNewlyAcked (s : TcpSession) : List (Seq32 × RackSegment) :=
  s.rackTlp.rackSegments.filter fun entry =>
    !s.rackTlp.rackAckedSeqs.contains entry.1 &&
      (le32 entry.2.endSeq s.sndSeq.una ||
        (s.advertise.sendSack && s.sackScoreboard.isSacked (sub32 entry.2.endSeq 1)))

def rackNoteReordering (r : RackTlpState) (seg : RackSegment) : RackTlpState :=
  {r with
    rackReorderingSeen := r.rackReorderingSeen || (r.rackFack != 0 && lt32 seg.endSeq r.rackFack)
    rackFack := if gt32 seg.endSeq r.rackFack then seg.endSeq else r.rackFack}

def rackTakeAcked (e : Env) (p : TcpMetadata) (s : TcpSession) : TcpSession :=
  let newly := s.rackNewlyAcked
  if newly.isEmpty then s
  else
    let r := {s.rackTlp with rackAckedSeqs := s.rackTlp.rackAckedSeqs ++ newly.map Prod.fst}
    let r := (newly.map Prod.snd).foldl rackNoteReordering r
    let echo := (p.tcpTsecr.map BitVec.toNat).filter fun tsecr => tsecr != 0
    let clock := rackUpdate (newly.map Prod.snd) e.nowMs echo
      {minRttMs := r.rackMinRttMs,rackRttMs := r.rackRttMs,rackXmitTs := r.rackXmitTs,rackEndSeq := r.rackEndSeq}
    {s with rackTlp := {r with
      rackMinRttMs := clock.minRttMs
      rackRttMs := clock.rackRttMs
      rackXmitTs := clock.rackXmitTs
      rackEndSeq := clock.rackEndSeq}}

def rackDetect (e : Env) (s : TcpSession) : TcpSession :=
  let (segments,timeoutMs) := rackDetectLoss s.rackTlp.rackSegments s.rackTlp.rackXmitTs s.rackTlp.rackEndSeq
    (rackComputeReoWnd s.rackTlp) e.nowMs
  let s := {s with rackTlp := {s.rackTlp with rackSegments := segments}}
  if 0 < timeoutMs then s.armTimer e .rack timeoutMs else s

def rackProcessAck (e : Env) (p : TcpMetadata) (s : TcpSession) : TcpSession :=
  let s := s.rackTakeAcked e p
  if 0 < s.rackTlp.rackXmitTs then s.rackDetect e else s

def rackReorderTick (e : Env) (s : TcpSession) : TcpSession :=
  if !s.timerExpired e .rack then s
  else
    let s := s.cancelTimer e .rack
    if s.rackTlp.rackXmitTs = 0 then s else s.rackDetect e

-- RFC 3042: the first two duplicates may each let one new segment out.
def limitedTransmit (e : Env) (count : Nat) (s : TcpSession) : TcpSession :=
  if (count = 1 ∨ count = 2) ∧ s.tx.buffer ≠ [] then
    let savedEwn := s.cc.sndEwn
    let inflated := min (s.cc.cwnd + count * s.win.sndMss.1) s.win.sndWnd
    let s := {s with cc := {s.cc with sndEwn := inflated}}.transmitData e
    {s with cc := {s.cc with sndEwn := savedEwn}}
  else s

def ssthreshForFastRetransmit (e : Env) (s : TcpSession) : Outcome :=
  match s.cc.ccMode with
  | .cubic => do
    let prior := s.cc.cubic.wMax
    let s := {s with cc := s.cc.saveFrCubicSnapshot}
    let cwnd ← s.requirePositive s.cc.cwnd
    let (ssthresh,wMax) := cubicLossEventSsthresh cwnd s.win.sndMss true prior
    .ok {s with cc := {s.cc with
      ssthresh := ssthresh
      cubicWLastMax := prior
      cubic := {
        wMax := wMax
        kMs := cubicComputeK e.cubeRoot wMax ssthresh.toNat s.win.sndMss
        epochStartMs := e.nowMs
        wEst := 0}
      cubicInCa := true}}
  | .reno => .ok {s with cc := {s.cc with ssthresh := computeLossEventSsthresh s.sndSeq.flight s.win.sndMss}}

def beginRecovery (s : TcpSession) : TcpSession :=
  let s := {s with cc := {s.cc with
    recoverFs := s.sndSeq.flight
    prrDelivered := 0
    prrOut := 0
    cwnd := s.sndSeq.flight
    sndEwn := min (s.sndSeq.flight : Int) s.win.sndWnd
    recoveryPoint := if s.sndSeq.max ≠ 0 then s.sndSeq.max else 1}}
  let ns := if s.advertise.sendSack then nextSeg s.sackScoreboard s.sndSeq.una s.sndSeq.max s.win.sndMss else none
  {s with sndSeq := {s.sndSeq with nxt := ns.getD s.sndSeq.una}}

def retransmitPacketRequest (e : Env) (p : TcpMetadata) (s : TcpSession) : Outcome :=
  let s := (s.ingestSackInfo p).rackProcessAck e p
  let s := {s with tx := s.tx.countRequest p.tcpAck}
  if s.cc.recoveryPoint ≠ 0 then .ok s
  else if s.cc.recoverSeq ≠ 0 ∧ lt32 s.sndSeq.una s.cc.recoverSeq = true then .ok s
  else
    let count := s.tx.requests p.tcpAck
    let sackTrigger := s.advertise.sendSack && isLost s.sndSeq.una s.sackScoreboard s.win.sndMss
    let s := s.limitedTransmit e count
    if count = 3 ∨ sackTrigger = true then do
      let s ← s.ssthreshForFastRetransmit e
      .ok s.beginRecovery
    else .ok s

def aimProbe (s : TcpSession) : TcpSession :=
  let txBufferMax := arc s.tx.seqMod s.sndSeq.max
  if txBufferMax < s.tx.buffer.length ∧ (txBufferMax : Int) < s.cc.sndEwn then
    {s with
      sndSeq := {s.sndSeq with nxt := s.sndSeq.max}
      rackTlp := {s.rackTlp with tlpIsRetrans := false}}
  else
    {s with
      sndSeq := {s.sndSeq with nxt := sub32 s.sndSeq.max (min s.win.sndMss.1 s.sndSeq.flight)}
      rackTlp := {s.rackTlp with tlpIsRetrans := true}}

def tlpPtoTick (e : Env) (s : TcpSession) : TcpSession :=
  if !s.timerExpired e .tlp then s
  else
    let s := s.cancelTimer e .tlp
    if !s.rackTlp.tlpArmed then s
    else if s.sndSeq.una = s.sndSeq.max then s
    else if s.rackTlp.tlpEndSeq.isSome then s
    else if 0 < s.retransmitCount ∨ s.cc.recoveryPoint ≠ 0 ∨ s.cc.frtoActive = true then s
    else
      let s := s.aimProbe.transmitData e
      let s := {s with rackTlp := {s.rackTlp with tlpEndSeq := some s.sndSeq.max,tlpArmed := false}}
      s.armTimer e .retransmit s.rtoState.rtoMs

theorem ip4Mss_positive (nextHopMtu : Nat) : 0 < max (max ((nextHopMtu : Int) - 20 - 20) 0) (536 - 20) := by omega
theorem ip6Mss_positive (nextHopMtu : Nat) : 0 < max (max ((nextHopMtu : Int) - 40 - 20) 0) (1280 - 40 - 20) := by omega

def pmtuMss (nextHopMtu : Nat) (version : Plpmtud.IpVersion) : Pos :=
  match version with
  | .ip4 => ⟨max (max ((nextHopMtu : Int) - 20 - 20) 0) (536 - 20),ip4Mss_positive nextHopMtu⟩
  | .ip6 => ⟨max (max ((nextHopMtu : Int) - 40 - 20) 0) (1280 - 40 - 20),ip6Mss_positive nextHopMtu⟩

def applyPmtuUpdate (e : Env) (nextHopMtu : Nat) (version : Plpmtud.IpVersion) (s : TcpSession) : TcpSession :=
  let newMss := pmtuMss nextHopMtu version
  let shrunk := decide (newMss.1 < s.win.sndMss.1)
  let s := if shrunk then {s with win := {s.win with sndMss := newMss}} else s
  let s := {s with plpmtudAdapter := s.plpmtudAdapter.onClassicalPmtu nextHopMtu e.monotonicMs}
  if shrunk ∧ (s.rackTlp.rackSegments.any fun entry => decide (newMss.1 < arc entry.1 entry.2.endSeq)) = true then
    {s with
      rackTlp := s.rackTlp.markAllLost
      sndSeq := {s.sndSeq with nxt := s.sndSeq.una}}
  else s

def keepaliveProbe (s : TcpSession) : Segment :=
  {flagSyn := false,flagAck := true,flagFin := false,flagRst := false,flagPsh := false
   flagEce := false,flagCwr := false,flagNs := false
   seq := sub32 s.sndSeq.nxt 1,ack := s.rcvSeq.nxt,win := (s.rcvWnd >>> s.win.rcvWsc : Nat)
   ipEcn := 0,mss := none,wscale := none,sackperm := false,sackBlocks := none,tsval := none,tsecr := none
   fastopenCookie := none,accecn0Counters := none,accecn1Counters := none,data := [],moment := s.moment}

def keepaliveTick (e : Env) (s : TcpSession) : TcpSession :=
  if !s.keepalive.enabled then s
  else if !s.keepalive.active then s.keepaliveArmIdle e
  else if !s.timerExpired e .keepalive then s
  else if s.keepalive.maxProbes e.keepaliveProbeMaxCount ≤ s.keepalive.probesUnacked then
    {s with
      connectionError := .timeout
      eventConnect := s.eventConnect + 1
      eventRxBuffer := true}.changeState e .closed none
  else
    let s := s.sendTcpPacket s.keepaliveProbe
    {s with keepalive := {s.keepalive with probesUnacked := s.keepalive.probesUnacked + 1}}.armTimer e .keepalive
      (s.keepalive.intervalTimeout e.keepaliveProbeIntervalMs)

end TcpSession

end PmdPytcp.Tcp
