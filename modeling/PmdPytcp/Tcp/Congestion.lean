import PmdPytcp.Tcp.State

namespace PmdPytcp.Tcp
open Arc

abbrev SackScoreboard := List (Seq32 × Seq32)

def overlapsOrTouches (aLeft aRight bLeft bRight : Seq32) : Bool :=
  aRight == bLeft || bRight == aLeft ||
    inRange32 bLeft aLeft (sub32 aRight 1) || inRange32 aLeft bLeft (sub32 bRight 1)

def merge (aLeft aRight bLeft bRight : Seq32) : Seq32 × Seq32 :=
  (if le32 aLeft bLeft then aLeft else bLeft,if ge32 aRight bRight then aRight else bRight)

namespace SackScoreboard

-- The loop of `add_block`: the new block swallows what it meets, in list order.
def absorb : SackScoreboard → Seq32 → Seq32 → List (Seq32 × Seq32) → SackScoreboard
  | [],left,right,survivors => survivors ++ [(left,right)]
  | (blockLeft,blockRight) :: rest,left,right,survivors =>
    if overlapsOrTouches left right blockLeft blockRight then
      absorb rest (merge left right blockLeft blockRight).1 (merge left right blockLeft blockRight).2 survivors
    else absorb rest left right (survivors ++ [(blockLeft,blockRight)])

-- The assertion of the source is the premise here; the only caller tests it.
def addBlock (board : SackScoreboard) (left right : Seq32) (_ : lt32 left right = true) : SackScoreboard :=
  absorb board left right []

def isSacked (board : SackScoreboard) (seq : Seq32) : Bool :=
  board.any fun block => inRange32 seq block.1 (sub32 block.2 1)

def pruneBelow (board : SackScoreboard) (sndUna : Seq32) : SackScoreboard :=
  (board.filter fun block => !le32 block.2 sndUna).map fun block =>
    (if lt32 block.1 sndUna then sndUna else block.1,block.2)

def totalSackedBytes (board : SackScoreboard) : Nat :=
  (board.map fun block => arc block.1 block.2).sum

def sortedFrom (board : SackScoreboard) (sndUna : Seq32) : List (Seq32 × Seq32) :=
  List.insertionSort (fun a b => arc sndUna a.1 ≤ arc sndUna b.1) board

def gapFrom : List (Seq32 × Seq32) → Seq32 → Seq32
  | [],cursor => cursor
  | (left,right) :: rest,cursor =>
    if left = cursor then gapFrom rest right
    else if lt32 left cursor then gapFrom rest cursor
    else cursor

def firstGap (board : SackScoreboard) (sndUna : Seq32) : Seq32 := gapFrom (sortedFrom board sndUna) sndUna

end SackScoreboard

theorem dupThresh_positive : (0 : Int) < 3 := by decide

def tcpDupThresh : Pos := ⟨3,dupThresh_positive⟩

-- `mss` and `dup_thresh` are positive by type: the assertions of these helpers.
def isLost (seq : Seq32) (board : SackScoreboard) (mss : Pos) (dupThresh : Pos := tcpDupThresh) : Bool :=
  let above := board.filter fun block => le32 seq block.1
  let bytesAbove := (above.map fun block => arc block.1 block.2).sum
  decide (dupThresh.1 ≤ above.length) || decide ((dupThresh.1 - 1) * mss.1 < bytesAbove)

def nextSeg (board : SackScoreboard) (sndUna sndMax : Seq32) (mss : Pos) (dupThresh : Pos := tcpDupThresh) :
    Option Seq32 :=
  let gap := board.firstGap sndUna
  if !lt32 gap sndMax then none
  else if isLost gap board mss dupThresh then some gap
  else none

def countedBytes (board : SackScoreboard) (sndUna sndMax : Seq32) : Nat :=
  ((board.filter fun block => le32 sndUna block.1 && le32 block.2 sndMax).map
    fun block => arc block.1 block.2).sum

def pipe (board : SackScoreboard) (sndUna sndMax : Seq32) : Int :=
  (arc sndUna sndMax : Int) - countedBytes board sndUna sndMax

def initialWindowFactor : Int := 10
def initialWindowBytes : Int := 14600

def cwndGrowPerAck (cwnd ssthresh : Pos) (bytesAcked : Nat) (smss : Pos) : Int :=
  if cwnd.1 < ssthresh.1 then cwnd.1 + min (bytesAcked : Int) smss.1
  else cwnd.1 + max 1 (smss.1 * smss.1 / cwnd.1)

def computeLossEventSsthresh (flightSize : Nat) (smss : Pos) : Int := max (flightSize / 2 : Int) (2 * smss.1)

def computeEcnEventSsthresh (flightSize : Nat) (smss : Pos) : Int :=
  max ((flightSize : Int) * 17 / 20) (2 * smss.1)

def initialWindow (smss : Pos) : Int :=
  min (initialWindowFactor * smss.1) (max (2 * smss.1) initialWindowBytes)

def cubicComputeK (cubeRoot : Nat → Nat) (wMax : Nat) (cwndEpoch : Nat) (smss : Pos) : Nat :=
  if wMax ≤ cwndEpoch then 0
  else cubeRoot ((wMax - cwndEpoch) * 1_000_000_000 * 5 / (smss.1.toNat * 2))

def cubicW (tMs wMax kMs : Nat) (smss : Pos) : Int :=
  let diff : Int := tMs - kMs
  max 0 (wMax + 2 * (diff * diff * diff) * smss.1 / (5 * 1_000_000_000))

def cubicTarget (cwnd : Pos) (wMax kMs tMs : Nat) (smss : Pos) : Int :=
  let rawTarget := cubicW tMs wMax kMs smss
  let upper := cwnd.1 + cwnd.1 / 2
  if rawTarget < cwnd.1 then cwnd.1 else if upper < rawTarget then upper else rawTarget

def cubicGrowPerAck (cwnd ssthresh : Pos) (wMax kMs epochStartMs nowMs bytesAcked : Nat) (smss : Pos)
    (srttMs : Nat) : Int :=
  if cwnd.1 < ssthresh.1 then cwnd.1 + min (bytesAcked : Int) smss.1
  else
    let target := cubicTarget cwnd wMax kMs ((nowMs - epochStartMs) + srttMs) smss
    if target ≤ cwnd.1 then cwnd.1
    else cwnd.1 + max 1 ((target - cwnd.1) * bytesAcked / cwnd.1)

def cubicLossEventSsthresh (cwnd smss : Pos) (fastConvActive : Bool) (priorWMax : Nat) : Int × Nat :=
  (max (cwnd.1 * 7 / 10) (2 * smss.1),
    if fastConvActive && decide (cwnd.1 < priorWMax) then (cwnd.1 * 17 / 20).toNat else cwnd.1.toNat)

def cubicWEst (wEstPrev : Nat) (cwnd smss : Pos) (bytesAcked : Nat) : Nat :=
  wEstPrev + (9 * bytesAcked * smss.1 / (17 * cwnd.1)).toNat

def hystartNRttSample : Nat := 8
def hystartCssRounds : Nat := 5

-- `none` is the source's infinity sentinel.
structure HyStartState where
  lastRoundMinRttMs : Option Nat := none
  currentRoundMinRttMs : Option Nat := none
  rttSampleCount : Nat := 0
  windowEndSeq : Seq32 := 0
  inCss : Bool := false
  cssBaselineMinRttMs : Option Nat := none
  cssRoundsRemaining : Nat := 0

def rttThreshMs (lastRoundMinRttMs : Nat) : Nat := max 4 (min (lastRoundMinRttMs / 8) 16)

namespace HyStartState

def shouldExitSlowStartToCss (h : HyStartState) : Bool :=
  match h.currentRoundMinRttMs,h.lastRoundMinRttMs with
  | some current,some last =>
    !h.inCss && decide (hystartNRttSample ≤ h.rttSampleCount) && decide (last + rttThreshMs last ≤ current)
  | _,_ => false

def shouldResumeSlowStartFromCss (h : HyStartState) : Bool :=
  match h.currentRoundMinRttMs,h.cssBaselineMinRttMs with
  | some current,some baseline =>
    h.inCss && decide (hystartNRttSample ≤ h.rttSampleCount) && decide (current < baseline)
  | _,_ => false

def foldRttSample (h : HyStartState) (rttMs : Nat) : HyStartState :=
  {h with
    currentRoundMinRttMs := some (match h.currentRoundMinRttMs with
      | none => rttMs
      | some current => min current rttMs)
    rttSampleCount := h.rttSampleCount + 1}

def rotateRound (h : HyStartState) (newWindowEndSeq : Seq32) : HyStartState :=
  {h with
    lastRoundMinRttMs := h.currentRoundMinRttMs
    currentRoundMinRttMs := none
    rttSampleCount := 0
    windowEndSeq := newWindowEndSeq
    cssRoundsRemaining := if h.inCss then h.cssRoundsRemaining - 1 else h.cssRoundsRemaining}

def enterCss (h : HyStartState) : HyStartState :=
  {h with inCss := true,cssBaselineMinRttMs := h.currentRoundMinRttMs,cssRoundsRemaining := hystartCssRounds}

def resumeSlowStart (h : HyStartState) : HyStartState :=
  {h with inCss := false,cssBaselineMinRttMs := none,cssRoundsRemaining := 0}

end HyStartState

def cssGrowthIncrement (bytesAcked : Nat) (smss : Pos) : Int := min (bytesAcked : Int) smss.1 / 4

def ssthreshInf : Int := 0x7FFF_FFFF

structure CubicVars where
  wMax : Nat := 0
  kMs : Nat := 0
  epochStartMs : Nat := 0
  wEst : Nat := 0

structure CcState where
  cwnd : Int := 0
  ssthresh : Int := ssthreshInf
  sndEwn : Int := 0
  recoveryPoint : Seq32 := 0
  recoverSeq : Seq32 := 0
  recoverFs : Nat := 0
  prrDelivered : Int := 0
  prrOut : Nat := 0
  frtoActive : Bool := false
  frtoStep : Nat := 0
  frtoPreCwnd : Int := 0
  frtoPreSsthresh : Int := 0
  frtoPreSndMax : Seq32 := 0
  frtoPreCubic : CubicVars := {}
  frPreCubic : CubicVars := {}
  frPreCwnd : Int := 0
  frPreSsthresh : Int := 0
  frCubicSnapshotValid : Bool := false
  ccMode : CcMode := .cubic
  cubic : CubicVars := {}
  cubicWLastMax : Nat := 0
  cubicInCa : Bool := false
  hystartState : HyStartState := {}

namespace CcState

def saveFrtoSnapshot (cc : CcState) (sndMax : Seq32) : CcState :=
  {cc with
    frtoActive := true
    frtoStep := 1
    frtoPreCwnd := cc.cwnd
    frtoPreSsthresh := cc.ssthresh
    frtoPreSndMax := sndMax
    frtoPreCubic := cc.cubic}

def restoreFrtoSnapshot (cc : CcState) (sndWnd : Nat) : CcState :=
  {cc with
    cwnd := cc.frtoPreCwnd
    ssthresh := cc.frtoPreSsthresh
    sndEwn := min cc.frtoPreCwnd sndWnd
    cubic := cc.frtoPreCubic}

def saveFrCubicSnapshot (cc : CcState) : CcState :=
  {cc with
    frPreCubic := cc.cubic
    frPreCwnd := cc.cwnd
    frPreSsthresh := cc.ssthresh
    frCubicSnapshotValid := true}

def restoreFrCubicSnapshot (cc : CcState) : CcState :=
  {cc with
    cubic := cc.frPreCubic
    cwnd := cc.frPreCwnd
    ssthresh := cc.frPreSsthresh
    frCubicSnapshotValid := false}

def clearFrCubicSnapshot (cc : CcState) : CcState := {cc with frCubicSnapshotValid := false}

end CcState

structure RttEstimate where
  srttMs : Nat
  rttvarMs : Nat

structure RtoState where
  estimate : Option RttEstimate
  rtoMs : Nat

def maxRtoMs : Nat := 60_000

def RtoState.initialState : RtoState := {estimate := none,rtoMs := 1000}

def clampRto (minMs rtoMs : Nat) : Nat := max minMs (min rtoMs maxRtoMs)

def RtoState.update (r : RtoState) (minMs sampleMs : Nat) : RtoState :=
  let next : RttEstimate := match r.estimate with
    | none => {srttMs := sampleMs,rttvarMs := sampleMs / 2}
    | some e =>
      {rttvarMs := (3 * e.rttvarMs + ((e.srttMs : Int) - sampleMs).natAbs) / 4
       srttMs := (7 * e.srttMs + sampleMs) / 8}
  {estimate := some next,rtoMs := clampRto minMs (next.srttMs + max 1 (4 * next.rttvarMs))}

def RtoState.backOff (r : RtoState) : RtoState := {r with rtoMs := min (r.rtoMs * 2) maxRtoMs}

def RtoState.srtt (r : RtoState) : Nat := (r.estimate.map RttEstimate.srttMs).getD 0

def infiniteTs : Nat := 0xFFFF_FFFF

structure RackSegment where
  endSeq : Seq32
  xmitTs : Nat
  retransmitted : Bool
  lost : Bool

def RackSegment.markLost (seg : RackSegment) : RackSegment := {seg with xmitTs := infiniteTs,lost := true}

def rackSentAfter (t1XmitTs : Nat) (t1EndSeq : Seq32) (t2XmitTs : Nat) (t2EndSeq : Seq32) : Bool :=
  if t1XmitTs ≠ t2XmitTs then decide (t2XmitTs < t1XmitTs) else gt32 t1EndSeq t2EndSeq

structure RackTlpState where
  rackSegments : List (Seq32 × RackSegment) := []
  rackMinRttMs : Nat := 0
  rackRttMs : Nat := 0
  rackXmitTs : Nat := 0
  rackEndSeq : Seq32 := 0
  rackAckedSeqs : List Seq32 := []
  rackReorderingSeen : Bool := false
  rackFack : Seq32 := 0
  rackReoWndMult : Nat := 1
  rackReoWndPersist : Nat := 16
  rackDsackRound : Option Seq32 := none
  tlpIsRetrans : Bool := false
  tlpEndSeq : Option Seq32 := none
  tlpMaxAckDelayMs : Nat := 25
  tlpArmed : Bool := false
  multPositive : 1 ≤ rackReoWndMult := by first | exact Nat.one_pos | decide

namespace RackTlpState

def recordSegment (r : RackTlpState) (seq endSeq : Seq32) (xmitTs : Nat) : RackTlpState :=
  let again := (Dict.get r.rackSegments seq).isSome
  let seg : RackSegment := {endSeq := endSeq,xmitTs := xmitTs,retransmitted := again,lost := false}
  {r with rackSegments := Dict.set r.rackSegments seq seg}

def pruneSegments (r : RackTlpState) (sndUna : Seq32) : RackTlpState :=
  {r with
    rackSegments := r.rackSegments.filter fun entry => !le32 entry.2.endSeq sndUna
    rackAckedSeqs := r.rackAckedSeqs.filter fun seq =>
      !((Dict.get r.rackSegments seq).any fun seg => le32 seg.endSeq sndUna)}

def markAllLost (r : RackTlpState) : RackTlpState :=
  {r with rackSegments := r.rackSegments.map fun entry => (entry.1,entry.2.markLost)}

def decayReoWndPersist (r : RackTlpState) : RackTlpState :=
  if r.rackReoWndPersist - 1 = 0 then
    {r with rackReoWndMult := 1,rackReoWndPersist := 16,multPositive := by decide}
  else {r with rackReoWndPersist := r.rackReoWndPersist - 1}

def maybeCloseDsackRound (r : RackTlpState) (sndUna sndMax : Seq32) : RackTlpState :=
  if r.rackDsackRound.all fun round => !lt32 sndUna round then
    {r with
      rackReoWndMult := r.rackReoWndMult + 1
      rackDsackRound := some sndMax
      multPositive := Nat.le_add_left 1 _}
  else r

def cancelTlp (r : RackTlpState) : RackTlpState :=
  {r with tlpEndSeq := none,tlpIsRetrans := false,tlpArmed := false}

end RackTlpState

structure RackClock where
  minRttMs : Nat
  rackRttMs : Nat
  rackXmitTs : Nat
  rackEndSeq : Seq32

def rackUpdateOne (nowMs : Nat) (tsRecentEchoMs : Option Nat) (c : RackClock) (seg : RackSegment) : RackClock :=
  let rttMs := nowMs - seg.xmitTs
  if seg.xmitTs = infiniteTs then c
  else if seg.retransmitted && (tsRecentEchoMs.any fun echo => decide (echo < seg.xmitTs)) then c
  else if seg.retransmitted && decide (0 < c.minRttMs) && decide (rttMs < c.minRttMs) then c
  else
    let later := rackSentAfter seg.xmitTs seg.endSeq c.rackXmitTs c.rackEndSeq
    {minRttMs := if c.minRttMs = 0 ∨ rttMs < c.minRttMs then rttMs else c.minRttMs
     rackRttMs := rttMs
     rackXmitTs := if later then seg.xmitTs else c.rackXmitTs
     rackEndSeq := if later then seg.endSeq else c.rackEndSeq}

def rackUpdate (newlyAcked : List RackSegment) (nowMs : Nat) (tsRecentEchoMs : Option Nat) (prior : RackClock) :
    RackClock :=
  (List.insertionSort
    (fun a b : RackSegment => a.xmitTs < b.xmitTs ∨ a.xmitTs = b.xmitTs ∧ a.endSeq.toNat ≤ b.endSeq.toNat)
    newlyAcked).foldl (rackUpdateOne nowMs tsRecentEchoMs) prior

def rackDetectLoss (segments : List (Seq32 × RackSegment)) (rackXmitTs : Nat) (rackEndSeq : Seq32)
    (reoWndMs nowMs : Nat) : List (Seq32 × RackSegment) × Nat :=
  segments.foldl (fun (done : List (Seq32 × RackSegment) × Nat) entry =>
    let seg := entry.2
    if seg.lost || !rackSentAfter rackXmitTs rackEndSeq seg.xmitTs seg.endSeq then (done.1 ++ [entry],done.2)
    else if seg.xmitTs + reoWndMs ≤ nowMs then (done.1 ++ [(entry.1,seg.markLost)],done.2)
    else
      let segTimeout := seg.xmitTs + reoWndMs - nowMs
      (done.1 ++ [entry],if done.2 = 0 ∨ segTimeout < done.2 then segTimeout else done.2))
    ([],0)

-- The assertion `reo_wnd_mult >= 1` is the field `multPositive` of the state.
def rackComputeReoWnd (r : RackTlpState) : Nat :=
  if !r.rackReorderingSeen || r.rackMinRttMs == 0 then 0
  else r.rackMinRttMs * r.rackReoWndMult / 4

def tlpCalcPto (srttMs : Nat) (flightSize : Nat) (smss : Pos) (maxAckDelayMs : Nat)
    (rtoExpirationMs : Option Nat) (nowMs : Nat) : Nat :=
  let pto :=
    if 0 < srttMs then 2 * srttMs + (if (flightSize : Int) ≤ smss.1 then maxAckDelayMs else 0) else 1000
  match rtoExpirationMs with
  | none => pto
  | some expiration =>
    let rtoRemaining := expiration - nowMs
    if 0 < rtoRemaining ∧ rtoRemaining ≤ pto then rtoRemaining - 1 else pto

def tlpProcessAck (tlpEndSeq : Option Seq32) (tlpIsRetrans : Bool) (ackSeq : Seq32)
    (hasDsackForProbe hasSackBlocks : Bool) : Option Seq32 × Bool :=
  match tlpEndSeq with
  | none => (none,false)
  | some endSeq =>
    if !tlpIsRetrans && le32 endSeq ackSeq then (none,false)
    else if hasDsackForProbe then (none,false)
    else if lt32 endSeq ackSeq then (none,true)
    else if ackSeq == endSeq && !hasSackBlocks then (none,false)
    else (some endSeq,false)

end PmdPytcp.Tcp
