import PmdPytcp.Plpmtud
import PmdPytcp.Tcp.Congestion

namespace PmdPytcp.Tcp
open Arc Plpmtud

def tcpMinMss : Int := 536
def tcpOooQueueMaxLen : Nat := 64
def tcpSynBacklogMaxCount : Nat := 128
def maxSegmentsPerPump : Nat := 512

theorem no_cookie_small : ((none : Option (List UInt8)).getD []).length ≤ 16 := by decide
theorem none_issued_small : ([] : List UInt8).length ≤ 8 := by decide

-- What one event reads from outside the session: the clocks, the settings, the
-- interface, the listening socket and the Fast Open stores, which hold cookies
-- as long as the option carries and issue eight octets. `cubeRoot` is the one
-- floating-point expression of the CUBIC code.
structure Env where
  nowMs : Nat := 0
  monotonicMs : Nat := 0
  rtoInitialMs : Nat := 1000
  rtoMinMs : Nat := 1000
  retransmitMaxCount : Nat := 6
  timeWaitDelayMs : Nat := 30000
  finWait2TimeoutMs : Nat := 60000
  delayedAckDelayMs : Nat := 100
  challengeAckRateLimitMs : Nat := 1000
  persistTimeoutMaxMs : Nat := 60_000
  keepaliveIdleTimeMs : Nat := 7_200_000
  keepaliveProbeIntervalMs : Nat := 75_000
  keepaliveProbeMaxCount : Nat := 9
  tsRecentOutdatedThresholdMs : Nat := 24 * 86_400 * 1_000
  egressInterfaceMtu : Int := 1500
  baseMss : Int := 1024
  sndMssMax : Int := 0
  newIss : Seq32 := 0
  fastopenCookie : Option (List UInt8) := none
  fastopenNegative : Bool := false
  acceptQLen : Nat := 0
  acceptQCap : Nat := 128
  embryonic : Nat := 0
  tcpFastopenQlen : Nat := 0
  fastopenPending : Nat := 0
  cookieValid : Bool := false
  generatedCookie : List UInt8 := []
  listenCcMode : CcMode := .cubic
  listenNodelay : Bool := false
  socketClosed : Bool := false
  cubeRoot : Nat → Nat := fun _ => 0
  cookieSmall : (fastopenCookie.getD []).length ≤ 16 := by first | exact no_cookie_small | decide
  issuedSmall : generatedCookie.length ≤ 8 := by first | exact none_issued_small | decide

inductive TimerName where
  | retransmit | persist | delayedAck | keepalive | rack | tlp | txPump | finWait2 | timeWait | challengeAck
  deriving DecidableEq

def servicedTimersByState : FsmState → List TimerName
  | .synSent | .synRcvd => [.retransmit,.persist,.txPump]
  | .established => [.retransmit,.persist,.delayedAck,.keepalive,.rack,.tlp,.txPump]
  | .closeWait => [.retransmit,.persist,.delayedAck,.txPump]
  | .finWait1 | .closing | .lastAck => [.retransmit,.persist,.txPump]
  | .finWait2 => [.finWait2,.txPump]
  | .timeWait => [.timeWait,.txPump]
  | .closed | .listen => []

structure TcpTimerService where
  deadlines : List (TimerName × Nat) := []
  serviceHandle : Option Nat := none

namespace TcpTimerService

def reschedule (t : TcpTimerService) (state : FsmState) (nowMs : Nat) : TcpTimerService :=
  let pending := (t.deadlines.filter fun entry => (servicedTimersByState state).contains entry.1).map Prod.snd
  {t with serviceHandle := pending.min?.map fun first => nowMs + max 1 (first - nowMs)}

def arm (t : TcpTimerService) (state : FsmState) (nowMs : Nat) (name : TimerName) (delayMs : Nat) :
    TcpTimerService :=
  {t with deadlines := Dict.set t.deadlines name (nowMs + delayMs)}.reschedule state nowMs

def cancel (t : TcpTimerService) (state : FsmState) (nowMs : Nat) (name : TimerName) : TcpTimerService :=
  {t with deadlines := Dict.erase t.deadlines name}.reschedule state nowMs

def deadline (t : TcpTimerService) (name : TimerName) : Option Nat := Dict.get t.deadlines name

theorem deadline_arm_self (t : TcpTimerService) (state : FsmState) (nowMs : Nat) (name : TimerName) (delayMs : Nat) :
    (t.arm state nowMs name delayMs).deadline name = some (nowMs + delayMs) := Dict.get_set_self _ _ _

theorem deadline_arm_other (t : TcpTimerService) (state : FsmState) (nowMs : Nat) {name other : TimerName} (delayMs : Nat)
    (differs : other ≠ name) : (t.arm state nowMs name delayMs).deadline other = t.deadline other :=
  Dict.get_set_other _ _ differs

theorem deadline_cancel (t : TcpTimerService) (state : FsmState) (nowMs : Nat) (name other : TimerName) :
    (t.cancel state nowMs name).deadline other = if other = name then none else t.deadline other := by
  have erased := Dict.get_filter_key t.deadlines (fun key => decide (key ≠ name)) other
  have same : (t.cancel state nowMs name).deadline other =
      Dict.get (t.deadlines.filter fun entry => decide (entry.1 ≠ name)) other := rfl
  rw [same,erased]
  by_cases equal : other = name
  · simp [equal]
  · simp [equal,deadline]

def armed (t : TcpTimerService) (nowMs : Nat) (name : TimerName) : Bool :=
  (t.deadline name).any fun deadline => decide (nowMs < deadline)

def expired (t : TcpTimerService) (nowMs : Nat) (name : TimerName) : Bool :=
  (t.deadline name).any fun deadline => decide (deadline ≤ nowMs)

end TcpTimerService

def seqLe (seqA seqB : Seq32) : Bool := decide (arc seqA seqB < seq32Half)

def rangesOverlap (aStart aEnd bStart bEnd : Seq32) : Bool :=
  seqLe aStart bEnd && aStart != bEnd && seqLe bStart aEnd && bStart != aEnd

structure TcpPlpmtudAdapter where
  engine : PmtuSearch
  inFlight : List (Seq32 × Seq32 × Int) := []
  implicitConfirm : Option (Seq32 × Seq32 × Int) := none

namespace TcpPlpmtudAdapter

def currentMtu (a : TcpPlpmtudAdapter) : Int := a.engine.currentMtu

def loseAll (e : PmtuSearch) (count : Nat) (now : Nat) : PmtuSearch :=
  (List.range count).foldl (fun e _ => e.onProbeLoss now) e

def maybeProbe (a : TcpPlpmtudAdapter) (now : Nat) : Option Int × TcpPlpmtudAdapter :=
  let a :=
    if !a.inFlight.isEmpty && a.engine.probeTimerExpired now then
      {a with engine := loseAll a.engine a.inFlight.length now,inFlight := []}
    else a
  let (size,engine) := a.engine.nextProbeSize now
  (size,{a with engine := engine})

def recordEmittedProbe (a : TcpPlpmtudAdapter) (seq : Seq32) (size : Int) (seqStart : Seq32) :
    TcpPlpmtudAdapter :=
  {a with inFlight := Dict.set a.inFlight seq (seqStart,size)}

def onSndUnaAdvance (a : TcpPlpmtudAdapter) (newSndUna : Seq32) (now : Nat) : TcpPlpmtudAdapter :=
  let acked := a.inFlight.filter fun entry => seqLe entry.1 newSndUna
  {a with
    engine := acked.foldl (fun e entry => e.onProbeAck entry.2.2 now) a.engine
    inFlight := a.inFlight.filter fun entry => !seqLe entry.1 newSndUna}

def onRtoTimeout (a : TcpPlpmtudAdapter) (now : Nat) : TcpPlpmtudAdapter :=
  {engine := (loseAll a.engine a.inFlight.length now).onBlackHoleSuspected now
   inFlight := []
   implicitConfirm := none}

def onRangeRetransmitted (a : TcpPlpmtudAdapter) (seqStart seqEnd : Seq32) (now : Nat) : TcpPlpmtudAdapter :=
  let hit := fun entry : Seq32 × Seq32 × Int => rangesOverlap seqStart seqEnd entry.2.1 entry.1
  {engine := loseAll a.engine (a.inFlight.filter hit).length now
   inFlight := a.inFlight.filter fun entry => !hit entry
   implicitConfirm := a.implicitConfirm.filter fun c => !rangesOverlap seqStart seqEnd c.1 c.2.1}

def noteDataSegment (a : TcpPlpmtudAdapter) (seqStart endSeq : Seq32) (packetSize : Int) : TcpPlpmtudAdapter :=
  if a.implicitConfirm.all fun c => decide (c.2.2 < packetSize) then
    {a with implicitConfirm := some (seqStart,endSeq,packetSize)}
  else a

def checkImplicitConfirm (a : TcpPlpmtudAdapter) (newSndUna : Seq32) (now : Nat) : TcpPlpmtudAdapter :=
  match a.implicitConfirm with
  | none => a
  | some (_,endSeq,packetSize) =>
    if seqLe endSeq newSndUna then
      {a with implicitConfirm := none,engine := a.engine.confirmCurrent packetSize now}
    else a

def limitMax (a : TcpPlpmtudAdapter) (mtu : Int) : TcpPlpmtudAdapter := {a with engine := a.engine.limitMax mtu}

def onClassicalPmtu (a : TcpPlpmtudAdapter) (mtu : Int) (now : Nat) : TcpPlpmtudAdapter :=
  {a with engine := a.engine.onClassicalPmtu mtu now}

end TcpPlpmtudAdapter

abbrev Stored := {p : TcpMetadata // p.OnlyAck}

-- The out-of-order dictionary, keyed by the sequence number of the segment it holds.
abbrev OooQueue := List Stored

namespace OooQueue

def has (q : OooQueue) (seq : Seq32) : Bool := q.any fun p => p.1.tcpSeq == seq

def set : OooQueue → Stored → OooQueue
  | [],p => [p]
  | head :: rest,p => if head.1.tcpSeq = p.1.tcpSeq then p :: rest else head :: set rest p

def find (q : OooQueue) (seq : Seq32) : Option Stored := q.find? fun p => p.1.tcpSeq == seq

def drop (q : OooQueue) (seq : Seq32) : OooQueue := q.filter fun p => p.1.tcpSeq != seq

end OooQueue

-- What an observer of the session sees: the segments it sends and its moves,
-- with the acknowledgement number of the ACK that caused them. A segment that
-- takes sequence space comes with the edges, the peer window and the number of
-- drained octets of that moment.
inductive Obs where
  | control (seg : Segment)
  | sent (seg : Segment) (una max : Seq32) (wnd drained : Nat)
  | moved (old new : FsmState) (cause : Option Seq32)
  deriving DecidableEq

def Obs.segment : Obs → Option Segment
  | .control seg | .sent seg .. => some seg
  | .moved .. => none

-- The window scale of the last SYN that went out; 0 stands for no option.
def lastScale (told : List Segment) : Nat :=
  ((told.filterMap fun seg => if seg.flagSyn then seg.wscale else none).getLast?).getD 0

structure TcpSession where
  state : FsmState := .closed
  rxBuffer : List UInt8 := []
  tx : TxBufferState
  rcvSeq : RecvSeqState := {}
  sndSeq : SendSeqState
  win : WindowState
  plpmtudProbingEnabled : Bool
  plpmtudAdapter : TcpPlpmtudAdapter
  advertise : AdvertiseState
  ts : TimestampsState := {}
  keepalive : KeepaliveState
  sackScoreboard : SackScoreboard := []
  cc : CcState
  fastopen : FastOpenState := {}
  ecn : ClassicEcnState := {}
  accecn : AccEcnState := {}
  pendingDsack : Option (Seq32 × Seq32) := none
  dsackReceived : Nat := 0
  rackTlp : RackTlpState := {}
  rtoState : RtoState := RtoState.initialState
  rtt : RttSampleState := {}
  retransmitCount : Nat := 0
  synRetransmitCount : Nat := 0
  peerContacted : Bool := false
  tcpNodelay : Bool
  userTimeoutMs : Nat
  maxsegOverride : Nat
  persist : PersistState
  delayedAckSegmentsPending : Nat := 0
  shut : ShutdownState := {}
  eventConnect : Nat := 0
  eventRxBuffer : Bool := false
  eventClosed : Bool := false
  closing : Bool := false
  oooPacketQueue : OooQueue := []
  connectionError : ConnError := .none
  timers : TcpTimerService := {}
  -- Ghost: the observations so far, every octet the application wrote and every
  -- octet put in the receive buffer, all since the connection began.
  log : List Obs := []
  written : List UInt8 := []
  delivered : List UInt8 := []

-- A call either returns or raises; what it changed before stays changed.
abbrev Outcome := Except (PyExc × TcpSession) TcpSession

def Outcome.session : Outcome → TcpSession
  | .ok s => s
  | .error (_,s) => s

namespace TcpSession

def ipTcpOverhead (s : TcpSession) : Int :=
  match s.plpmtudAdapter.engine.version with
  | .ip4 => 20 + 20
  | .ip6 => 40 + 20

-- `assert x > 0` of a congestion helper, seen from the call.
def requirePositive (s : TcpSession) (x : Int) : Except (PyExc × TcpSession) Pos :=
  if positive : 0 < x then .ok ⟨x,positive⟩ else .error (.assertionError,s)

def rcvWnd (s : TcpSession) : Nat := s.win.rcvWndMax - s.rxBuffer.length

-- Ghost: what an observer of the receiving half would write down now.
def moment (s : TcpSession) : Moment where
  room := s.rcvWnd
  shift := if s.win.peerOffers then lastScale (s.log.filterMap Obs.segment) else 0
  count := s.rcvSeq.count
  held := s.oooPacketQueue.map fun p => (p.1.tcpSeq,add32 p.1.tcpSeq p.1.tcpData.length)

def txBufferNxt (s : TcpSession) : Nat := arc s.tx.seqMod s.sndSeq.nxt

def txBufferUna (s : TcpSession) : Nat := arc s.tx.seqMod s.sndSeq.una

def mssCeiling (e : Env) (s : TcpSession) : Int :=
  let ifaceCeiling := e.egressInterfaceMtu - s.ipTcpOverhead
  let ceiling := if s.plpmtudProbingEnabled then min (e.baseMss - s.ipTcpOverhead) ifaceCeiling else ifaceCeiling
  if e.sndMssMax ≠ 0 then min ceiling e.sndMssMax else ceiling

def armTimer (e : Env) (name : TimerName) (delayMs : Nat) (s : TcpSession) : TcpSession :=
  {s with timers := s.timers.arm s.state e.nowMs name delayMs}

def cancelTimer (e : Env) (name : TimerName) (s : TcpSession) : TcpSession :=
  {s with timers := s.timers.cancel s.state e.nowMs name}

def timerExpired (e : Env) (name : TimerName) (s : TcpSession) : Bool := s.timers.expired e.nowMs name

def timerArmed (e : Env) (name : TimerName) (s : TcpSession) : Bool := s.timers.armed e.nowMs name

def hasPumpWork (s : TcpSession) : Bool :=
  !s.tx.buffer.isEmpty || s.sndSeq.una != s.sndSeq.max ||
    (s.closing && decide (s.state = .established ∨ s.state = .closeWait))

def pumpTail (e : Env) (stateAtEntry : FsmState) (external : Bool) (s : TcpSession) : TcpSession :=
  let s := s.cancelTimer e .txPump
  if s.state = .closed then s
  else if external || decide (s.state ≠ stateAtEntry) || s.hasPumpWork then s.armTimer e .txPump 1
  else s

def kickPump (e : Env) (s : TcpSession) : TcpSession :=
  if s.state ≠ .closed then s.armTimer e .txPump 1 else s

def keepaliveArmIdle (e : Env) (s : TcpSession) : TcpSession :=
  if s.keepalive.enabled then
    {s with keepalive := s.keepalive.resetForIdle}.armTimer e .keepalive
      (s.keepalive.idleTimeout e.keepaliveIdleTimeMs)
  else s

def leaveEstablished (old new : FsmState) (s : TcpSession) : TcpSession :=
  if old = .established ∧ new ≠ .established then
    {s with cc := {s.cc with recoveryPoint := 0,recoverFs := 0,prrDelivered := 0,prrOut := 0}}
  else s

def leaveSynRcvd (old new : FsmState) (s : TcpSession) : TcpSession :=
  if old = .synRcvd ∧ new ≠ .synRcvd then
    {s with fastopen := {s.fastopen with cookieToEmit := none,pendingCounted := false}}
  else s

def wakeReader (new : FsmState) (s : TcpSession) : TcpSession :=
  if new = .closing ∨ new = .timeWait ∨ new = .closed then {s with eventRxBuffer := true} else s

-- Closing cancels every timer. The socket table and the Fast Open counter
-- belong to the stack.
def settleTimers (new : FsmState) (s : TcpSession) : TcpSession :=
  if new = .closed then {s with eventClosed := true,timers := {}} else s

def changeState (e : Env) (new : FsmState) (cause : Option Seq32) (s : TcpSession) : TcpSession :=
  let old := s.state
  let s := {s with state := new,log := s.log ++ [.moved old new cause]}
  let s := leaveEstablished old new s
  let s := leaveSynRcvd old new s
  let s := wakeReader new s
  let s := settleTimers new s
  if new = .established then s.keepaliveArmIdle e else s

def enqueueRxBuffer (data : List UInt8) (s : TcpSession) : TcpSession :=
  if s.shut.rd then s
  else {s with rxBuffer := s.rxBuffer ++ data,eventRxBuffer := true,delivered := s.delivered ++ data}

def pruneSackScoreboard (s : TcpSession) : TcpSession :=
  if s.advertise.sendSack then {s with sackScoreboard := s.sackScoreboard.pruneBelow s.sndSeq.una} else s

def sackGate (una max : Seq32) (block : Seq32 × Seq32) : Bool :=
  le32 una block.1 && le32 block.2 max && lt32 block.1 block.2

def addSackBlock (una max : Seq32) (board : SackScoreboard) (block : Seq32 × Seq32) : SackScoreboard :=
  if gate : sackGate una max block = true then
    board.addBlock block.1 block.2 (by simp only [sackGate,Bool.and_eq_true] at gate; exact gate.2)
  else board

def isDsack (una : Seq32) : List (Seq32 × Seq32) → Bool
  | [] => false
  | first :: others =>
    le32 first.2 una || others.any fun outer => le32 outer.1 first.1 && le32 first.2 outer.2

def ingestDsack (s : TcpSession) : TcpSession :=
  let s := {s with dsackReceived := s.dsackReceived + 1}
  let s :=
    if s.cc.ccMode = .cubic ∧ s.cc.frCubicSnapshotValid = true ∧ s.cc.recoveryPoint ≠ 0 then
      {s with cc := s.cc.restoreFrCubicSnapshot}
    else s
  if s.cc.recoveryPoint = 0 then
    {s with rackTlp := s.rackTlp.maybeCloseDsackRound s.sndSeq.una s.sndSeq.max}
  else s

def ingestBlocks (blocks : List (Seq32 × Seq32)) (s : TcpSession) : TcpSession :=
  let before := s.sackScoreboard.totalSackedBytes
  let board := blocks.foldl (addSackBlock s.sndSeq.una s.sndSeq.max) s.sackScoreboard
  let cc :=
    if s.cc.recoveryPoint ≠ 0 then
      {s.cc with prrDelivered := s.cc.prrDelivered + ((board.totalSackedBytes : Int) - before)}
    else s.cc
  {s with sackScoreboard := board,cc := cc}

def ingestSackInfo (p : TcpMetadata) (s : TcpSession) : TcpSession :=
  if !s.advertise.sendSack || p.tcpSackBlocks.isEmpty then s
  else if isDsack s.sndSeq.una p.tcpSackBlocks then s.ingestDsack.ingestBlocks p.tcpSackBlocks.tail
  else s.ingestBlocks p.tcpSackBlocks

def skipSacked (nxt : Seq32) (block : Seq32 × Seq32) : Seq32 :=
  if le32 block.1 nxt && lt32 nxt block.2 then block.2 else nxt

def advanceSndNxtPastSacked (s : TcpSession) : TcpSession :=
  if s.cc.recoveryPoint = 0 ∨ s.advertise.sendSack = false then s
  else
    let nxt := (s.sackScoreboard.sortedFrom s.sndSeq.una).foldl skipSacked s.sndSeq.nxt
    {s with sndSeq := {s.sndSeq with nxt := nxt}}

end TcpSession

end PmdPytcp.Tcp
