import PmdPytcp.Tcp.Frame
import PmdPytcp.Tcp.Assembled

namespace PmdPytcp.Tcp
open Arc

-- A segment that carries an acknowledgement and nothing else.
def Segment.bareAck (seg : Segment) : Bool :=
  seg.flagAck && !seg.flagSyn && !seg.flagFin && !seg.flagRst && seg.data.isEmpty

-- The counters, without what the next segment is to report of them.
def AccEcnState.unsent (a : AccEcnState) : AccEcnState :=
  {a with handshakeAckPending := none,rLastEmitE0b := none,rLastEmitCeb := none,rLastEmitE1b := none}

namespace TcpSession

variable {e : Env} {p : TcpMetadata} {s s' : TcpSession}

-- A session without what the bookkeeping of an outgoing bare ACK touches.
def frozen (s : TcpSession) : TcpSession :=
  {s with
    keepalive := {}
    pendingDsack := none
    accecn := s.accecn.unsent
    delayedAckSegmentsPending := 0
    timers := {}
    log := []
    rcvSeq := {s.rcvSeq with una := 0}}

def Still (s s' : TcpSession) : Prop := ∃ t, s' = {s with timers := t}

-- The session sent an ACK of RCV.NXT at SND.NXT, and is otherwise as it was.
def Challenged (s s' : TcpSession) : Prop :=
  ∃ seg, s'.frozen = s.frozen ∧ s'.log = s.log ++ [Obs.control seg] ∧
    seg.bareAck = true ∧ seg.seq = s.sndSeq.nxt ∧ seg.ack = s.rcvSeq.nxt ∧ seg.Assembles

-- The ACK is one that the assembler takes, and SND.MAX is not behind SND.NXT, so
-- that sending it moves no edge.
def AcksCleanly (e : Env) (s : TcpSession) : Prop :=
  lt32 s.sndSeq.max s.sndSeq.nxt = false ∧ s.Transmits e {flagAck := true}

instance (e : Env) (s : TcpSession) : Decidable (s.AcksCleanly e) := inferInstanceAs (Decidable (_ ∧ _))

def ackSegment (e : Env) (s : TcpSession) : Segment := (s.composeSegment e s.sndSeq.nxt {flagAck := true}).1

theorem composeAck_shape : ∃ d a, (s.composeSegment e s.sndSeq.nxt {flagAck := true}).2 = {s with
    pendingDsack := d,accecn := a} ∧ a.unsent = s.accecn.unsent := by
  obtain ⟨d,first⟩ := sackBlocksField_shape (s := s) {flagAck := true}
  have bits : ∀ t : TcpSession, ∃ a, (t.phase1ComposeEcnFlags {flagAck := true}).2 = {t with accecn := a} ∧
      a.unsent = t.accecn.unsent := by
    intro t
    have field : t.accecn.nextAceField.2.unsent = t.accecn.unsent := by
      unfold AccEcnState.nextAceField
      split
      · rfl
      · rfl
    unfold phase1ComposeEcnFlags ecnBits
    cases t.accecn.enabled with
    | true => exact ⟨_,by simp,field⟩
    | false => exact ⟨t.accecn,by simp; split <;> rfl,rfl⟩
  obtain ⟨a,second,same⟩ := bits {s with pendingDsack := d}
  have counters : ∀ t : TcpSession, ∃ a, (t.phase2BuildAccecnCounters {flagAck := true}).2 = {t with accecn := a} ∧
      a.unsent = t.accecn.unsent := by
    intro t
    unfold phase2BuildAccecnCounters
    split
    · exact ⟨t.accecn,rfl,rfl⟩
    · exact ⟨_,rfl,rfl⟩
  obtain ⟨a',third,same'⟩ := counters {s with pendingDsack := d,accecn := a}
  refine ⟨d,a',?_,same'.trans same⟩
  show (((s.sackBlocksField {flagAck := true}).2.phase1ComposeEcnFlags {flagAck := true}).2.phase2BuildAccecnCounters
    {flagAck := true}).2 = _
  rw [first,second,third]

theorem ackOnly_advance : s.phase4AdvanceSendState e s.sndSeq.nxt {flagAck := true} = {s with
    sndSeq := s.sndSeq.bumpMaxToNxt,rcvSeq := {s.rcvSeq with una := s.rcvSeq.nxt},delayedAckSegmentsPending := 0} := by
  have edges : advanceSendSeq s.sndSeq.nxt {flagAck := true} s.sndSeq = s.sndSeq.bumpMaxToNxt := by
    simp [advanceSendSeq,SendSeqState.advanceNxt]
  have tx : s.tx.bumpSeqModForFlags false false = s.tx := by
    simp [TxBufferState.bumpSeqModForFlags]
  unfold phase4AdvanceSendState recordRack countPrrOut
  simp [Emit.occupies,edges,tx]

theorem ackOnly_tail : ∃ k t,
    (s.phase4AdvanceSendState e s.sndSeq.nxt {flagAck := true}).phase5PostSendTimers e {flagAck := true} = {s with
      sndSeq := s.sndSeq.bumpMaxToNxt,rcvSeq := {s.rcvSeq with una := s.rcvSeq.nxt},delayedAckSegmentsPending := 0
      keepalive := k,timers := t} := by
  rw [ackOnly_advance]
  obtain ⟨k,t,idle⟩ := keepaliveArmIdle_shape (e := e) (s := {s with
    sndSeq := s.sndSeq.bumpMaxToNxt,rcvSeq := {s.rcvSeq with una := s.rcvSeq.nxt},delayedAckSegmentsPending := 0})
  unfold phase5PostSendTimers armTlp
  rw [idle]
  simp only [Emit.occupies,List.isEmpty_nil,Bool.not_true,Bool.or_false,Bool.false_and,Bool.false_eq_true,if_false]
  split
  · exact ⟨k,_,rfl⟩
  · exact ⟨k,t,rfl⟩

theorem sendAck_shape : ∃ d a k t, s.transmitPacket e {flagAck := true} = {s with
      sndSeq := s.sndSeq.bumpMaxToNxt
      log := s.log ++ [Obs.control (s.ackSegment e)],pendingDsack := d,accecn := a
      rcvSeq := {s.rcvSeq with una := s.rcvSeq.nxt},delayedAckSegmentsPending := 0,keepalive := k,timers := t} ∧
    a.unsent = s.accecn.unsent := by
  obtain ⟨d,a,composed,same⟩ := composeAck_shape (e := e) (s := s)
  have out : s.transmitPacket e {flagAck := true} = (((s.composeSegment e s.sndSeq.nxt {flagAck := true}).2.sendTcpPacket
      (s.ackSegment e)).phase4AdvanceSendState e s.sndSeq.nxt {flagAck := true}).phase5PostSendTimers e
        {flagAck := true} := rfl
  obtain ⟨k,t,tail⟩ := ackOnly_tail (e := e) (s := {s with
    pendingDsack := d,accecn := a,log := s.log ++ [Obs.control (s.ackSegment e)]})
  rw [out,composed]
  exact ⟨d,a,k,t,tail,same⟩

theorem transmits_ack : s.Transmits e {flagAck := true} ↔ (s.ackSegment e).Assembles := Iff.rfl

theorem bumpMaxToNxt_same {q : SendSeqState} : q.bumpMaxToNxt = q ↔ lt32 q.max q.nxt = false := by
  unfold SendSeqState.bumpMaxToNxt
  cases behind : lt32 q.max q.nxt with
  | false => simp
  | true =>
    rw [if_pos rfl]
    constructor
    · intro same
      have level : q.nxt = q.max := congrArg SendSeqState.max same
      rw [level,lt32_iff,arc_self] at behind
      omega
    · intro never
      cases never

theorem noteFullDuplicate_shape : ∃ d, s.noteFullDuplicate p = {s with pendingDsack := d} := by
  unfold noteFullDuplicate
  split
  · exact ⟨_,rfl⟩
  · exact ⟨s.pendingDsack,rfl⟩

theorem sendAck_answered_iff {u : TcpSession} (noted : ∃ d, u = {s with pendingDsack := d}) (t : TcpTimerService) :
    Challenged s {u.transmitPacket e {flagAck := true} with timers := t} ↔ u.AcksCleanly e := by
  obtain ⟨d,rfl⟩ := noted
  obtain ⟨d',a,k,t',shape,kept⟩ := sendAck_shape (e := e) (s := {s with pendingDsack := d})
  have kept : a.unsent = s.accecn.unsent := kept
  rw [shape]
  constructor
  · rintro ⟨seg,frame,log,_,_,_,fits⟩
    have same : ({s with pendingDsack := d} : TcpSession).ackSegment e = seg := by
      have last := List.append_cancel_left log
      injection last with last
      injection last
    refine ⟨bumpMaxToNxt_same.mp (congrArg TcpSession.sndSeq frame),?_⟩
    rw [transmits_ack,same]
    exact fits
  · rintro ⟨sent,fits⟩
    have edges : s.sndSeq.bumpMaxToNxt = s.sndSeq := bumpMaxToNxt_same.mpr sent
    refine ⟨_,?_,rfl,rfl,rfl,rfl,fits⟩
    unfold frozen
    dsimp only
    rw [edges,kept]

theorem sendAck_not_still {u : TcpSession} (noted : ∃ d, u = {s with pendingDsack := d}) (t : TcpTimerService) :
    ¬Still s {u.transmitPacket e {flagAck := true} with timers := t} := by
  obtain ⟨d,rfl⟩ := noted
  obtain ⟨d',a,k,t',shape,_⟩ := sendAck_shape (e := e) (s := {s with pendingDsack := d})
  rw [shape]
  rintro ⟨t'',same⟩
  have longer := congrArg (fun u : TcpSession => u.log.length) same
  simp at longer

-- How a session reacts to a segment that it does not take.
inductive Reply where
  | silent | challenge | duplicate | ack
  deriving DecidableEq

def reply (e : Env) (p : TcpMetadata) (r : Reply) (s : TcpSession) : TcpSession :=
  match r with
  | .silent => s
  | .challenge => s.emitChallengeAck e
  | .duplicate => (s.noteFullDuplicate p).emitChallengeAck e
  | .ack => s.transmitPacket e {flagAck := true}

-- What keeps the reaction from leaving more behind than one ACK: it can be sent,
-- or the rate limit holds it back and there is no duplicate to report later.
def Discreet (e : Env) (p : TcpMetadata) (r : Reply) (s : TcpSession) : Prop :=
  match r with
  | .silent => True
  | .challenge => s.timerArmed e .challengeAck = true ∨ s.AcksCleanly e
  | .duplicate =>
    if s.timerArmed e .challengeAck then s.noteFullDuplicate p = s else (s.noteFullDuplicate p).AcksCleanly e
  | .ack => s.AcksCleanly e

theorem not_answered_same {u : TcpSession} (log : u.log = s.log) : ¬Challenged s u := by
  rintro ⟨seg,_,longer,_⟩
  rw [log] at longer
  simp at longer

theorem challenge_timers {u : TcpSession} (free : u.timerArmed e .challengeAck = false) (t : TcpTimerService) :
    ({u.emitChallengeAck e with timers := t} : TcpSession) =
      {u.transmitPacket e {flagAck := true} with timers := t} := by
  unfold emitChallengeAck
  rw [if_neg (by simp [free])]
  generalize u.transmitPacket e {flagAck := true} = sent
  rfl

theorem challenge_held {u : TcpSession} (armed : u.timerArmed e .challengeAck = true) : u.emitChallengeAck e = u := by
  unfold emitChallengeAck
  rw [if_pos armed]

theorem reply_discreet_iff (r : Reply) (t : TcpTimerService) :
    Still s {s.reply e p r with timers := t} ∨ Challenged s {s.reply e p r with timers := t} ↔ s.Discreet e p r := by
  have own : ∃ d, s = {s with pendingDsack := d} := ⟨s.pendingDsack,rfl⟩
  cases r with
  | silent => exact ⟨fun _ => trivial,fun _ => .inl ⟨t,rfl⟩⟩
  | ack =>
    constructor
    · rintro (still | answered)
      · exact absurd still (sendAck_not_still own t)
      · exact (sendAck_answered_iff own t).mp answered
    · exact fun clean => .inr ((sendAck_answered_iff own t).mpr clean)
  | challenge =>
    show Still s {s.emitChallengeAck e with timers := t} ∨ Challenged s {s.emitChallengeAck e with timers := t} ↔
      s.timerArmed e .challengeAck = true ∨ s.AcksCleanly e
    cases armed : s.timerArmed e .challengeAck with
    | true =>
      rw [challenge_held armed]
      exact ⟨fun _ => .inl rfl,fun _ => .inl ⟨t,rfl⟩⟩
    | false =>
      rw [challenge_timers armed,sendAck_answered_iff own]
      constructor
      · rintro (still | clean)
        · exact absurd still (sendAck_not_still own t)
        · exact .inr clean
      · rintro (never | clean)
        · cases never
        · exact .inr clean
  | duplicate =>
    obtain ⟨d,noted⟩ := noteFullDuplicate_shape (s := s) (p := p)
    have clock : (s.noteFullDuplicate p).timerArmed e .challengeAck = s.timerArmed e .challengeAck := by
      rw [noted]
      rfl
    show Still s {(s.noteFullDuplicate p).emitChallengeAck e with timers := t} ∨
      Challenged s {(s.noteFullDuplicate p).emitChallengeAck e with timers := t} ↔
      if s.timerArmed e .challengeAck = true then s.noteFullDuplicate p = s else (s.noteFullDuplicate p).AcksCleanly e
    cases armed : s.timerArmed e .challengeAck with
    | true =>
      rw [challenge_held (clock.trans armed),if_pos rfl]
      constructor
      · rintro (⟨t',same⟩ | answered)
        · rw [noted] at same ⊢
          have block : d = s.pendingDsack := congrArg TcpSession.pendingDsack same
          rw [block]
        · refine absurd answered (not_answered_same ?_)
          rw [noted]
      · intro same
        rw [same]
        exact .inl ⟨t,rfl⟩
    | false =>
      rw [challenge_timers (clock.trans armed),sendAck_answered_iff ⟨d,noted⟩,if_neg (by simp)]
      constructor
      · rintro (still | clean)
        · exact absurd still (sendAck_not_still ⟨d,noted⟩ t)
        · exact clean
      · exact .inr

-- What the ECN accounting of an inbound segment may touch.
def marks (s : TcpSession) : ClassicEcnState × AccEcnState × CcState := (s.ecn,s.accecn.unsent,s.cc)

theorem sendAck_marks : (s.transmitPacket e {flagAck := true}).marks = s.marks := by
  obtain ⟨d,a,k,t,shape,kept⟩ := sendAck_shape (e := e) (s := s)
  rw [shape]
  unfold marks
  rw [kept]

theorem armTimer_marks (name : TimerName) (delayMs : Nat) : (s.armTimer e name delayMs).marks = s.marks := rfl

theorem emitChallengeAck_marks : (s.emitChallengeAck e).marks = s.marks := by
  unfold emitChallengeAck
  split
  · rfl
  · rw [armTimer_marks,sendAck_marks]

theorem reply_marks (r : Reply) : (s.reply e p r).marks = s.marks := by
  cases r with
  | silent => rfl
  | challenge => exact emitChallengeAck_marks
  | duplicate =>
    obtain ⟨d,noted⟩ := noteFullDuplicate_shape (s := s) (p := p)
    show ((s.noteFullDuplicate p).emitChallengeAck e).marks = s.marks
    rw [emitChallengeAck_marks,noted]
    rfl
  | ack => exact sendAck_marks

theorem quiet_frozen (quiet : Still s s' ∨ Challenged s s') : s'.frozen = s.frozen := by
  rcases quiet with ⟨t,rfl⟩ | ⟨seg,frame,_⟩
  · rfl
  · exact frame

theorem quiet_log (quiet : Still s s' ∨ Challenged s s') : s'.log.length ≤ s.log.length + 1 := by
  rcases quiet with ⟨t,rfl⟩ | ⟨seg,_,log,_⟩
  · exact Nat.le_succ _
  · rw [log]
    simp

theorem quiet_marks (quiet : Still s s' ∨ Challenged s s') : s'.marks = s.marks := by
  have frame := quiet_frozen quiet
  have ecn : s'.frozen.ecn = s.frozen.ecn := by rw [frame]
  have accecn : s'.frozen.accecn = s.frozen.accecn := by rw [frame]
  have cc : s'.frozen.cc = s.frozen.cc := by rw [frame]
  exact Prod.ext ecn (Prod.ext accecn cc)

-- The window already stands where a reaction to congestion would put it.
def Reduced (s : TcpSession) : Prop :=
  let ssthresh := computeEcnEventSsthresh s.sndSeq.flight s.win.sndMss
  s.cc.ssthresh = ssthresh ∧ s.cc.cwnd = ssthresh ∧ s.cc.sndEwn = min ssthresh s.win.sndWnd

-- The ECN marks of the segment tell the session nothing new: the echo is on or
-- off as they ask, a reported congestion has been reacted to, and every AccECN
-- counter already has the value they would give it.
def Unmarked (p : TcpMetadata) (s : TcpSession) : Prop :=
  (s.ecn.enabled = true →
    (decide (p.ipEcn = 3) || (s.ecn.sendEce && !p.tcpFlagCwr)) = s.ecn.sendEce ∧
      (p.tcpFlagEce = true → s.ecnReady = true →
        s.Reduced ∧ s.ecn.sendCwr = true ∧ s.ecn.recoveryPoint = s.sndSeq.nxt)) ∧
    (s.accecn.enabled = true →
      s.accecn.recordReceivedCodepoint p.ipEcn p.tcpData.length = s.accecn ∧
        match p.tcpAccecn0Counters with
        | some counters => s.accecn.updateSenderCountersFromOption counters = s.accecn
        | none => p.tcpFlagSyn = false → (s.accecn.apparentCeDelta p.ace).2 = s.accecn)

theorem accecnCounter_ecn : (s.accecnCounter p).ecn = s.ecn ∨
    (s.accecnCounter p).ecn = {s.ecn with recoveryPoint := s.sndSeq.nxt} := by
  unfold accecnCounter
  split
  · exact .inl rfl
  · split
    · dsimp only
      split
      · exact .inr rfl
      · exact .inl rfl
    · exact .inl rfl

theorem accecnAce_ecn : (s.accecnAce p).ecn = s.ecn ∨ (s.accecnAce p).ecn = {s.ecn with recoveryPoint := s.sndSeq.nxt} := by
  unfold accecnAce
  split
  · dsimp only
    split
    · exact .inr rfl
    · exact .inl rfl
  · exact .inl rfl

theorem accecnCounter_sndSeq : (s.accecnCounter p).sndSeq = s.sndSeq := by
  obtain ⟨ec,a,shape⟩ := accecnCounter_shape (s := s) p
  rw [shape]

theorem ecnPrologue_sendEce : (s.ecnPrologue p).ecn.sendEce = (s.ecnObserve p).ecn.sendEce := by
  have echo : ((s.ecnObserve p).ecnEcho p).ecn.sendEce = (s.ecnObserve p).ecn.sendEce := by
    unfold ecnEcho
    split
    · rfl
    · rfl
  rw [← echo]
  unfold ecnPrologue
  generalize (s.ecnObserve p).ecnEcho p = t
  have first := accecnCounter_ecn (s := t) (p := p)
  have second := accecnAce_ecn (s := t.accecnCounter p) (p := p)
  rcases first with first | first <;> rcases second with second | second <;> rw [second,first]

theorem ecnPrologue_echoes (on : s.ecn.enabled = true) (ece : p.tcpFlagEce = true) (ready : s.ecnReady = true) :
    (s.ecnPrologue p).ecn.sendCwr = true ∧ (s.ecnPrologue p).ecn.recoveryPoint = s.sndSeq.nxt := by
  obtain ⟨ec,a,observed,classic,point,_⟩ := ecnObserve_shape (s := s) p
  have echo : ∃ t, (s.ecnObserve p).ecnEcho p = t ∧ t.ecn.sendCwr = true ∧ t.ecn.recoveryPoint = s.sndSeq.nxt ∧
      t.sndSeq = s.sndSeq := by
    refine ⟨_,rfl,?_⟩
    have again : ({s with ecn := ec,accecn := a} : TcpSession).ecnReady = true := by
      unfold ecnReady at ready ⊢
      rw [point]
      exact ready
    rw [observed]
    unfold ecnEcho
    rw [if_pos]
    · exact ⟨rfl,rfl,rfl⟩
    · show (ec.enabled && p.tcpFlagEce && _) = true
      rw [classic,on,ece,again]
      rfl
  obtain ⟨t,same,cwr,place,edges⟩ := echo
  have first := accecnCounter_ecn (s := t) (p := p)
  have second := accecnAce_ecn (s := t.accecnCounter p) (p := p)
  rw [accecnCounter_sndSeq,edges] at second
  rw [edges] at first
  unfold ecnPrologue
  rw [same]
  rcases first with first | first <;> rcases second with second | second <;> rw [second,first]
  · exact ⟨cwr,place⟩
  · exact ⟨cwr,rfl⟩
  · exact ⟨cwr,rfl⟩
  · exact ⟨cwr,rfl⟩

theorem ecnPrologue_accecn (on : s.accecn.enabled = true) : (s.ecnPrologue p).accecn =
    let a := s.accecn.recordReceivedCodepoint p.ipEcn p.tcpData.length
    match p.tcpAccecn0Counters with
    | some counters => a.updateSenderCountersFromOption counters
    | none => if p.tcpFlagSyn then a else (a.apparentCeDelta p.ace).2 := by
  have observed : ((s.ecnObserve p).ecnEcho p).accecn =
      s.accecn.recordReceivedCodepoint p.ipEcn p.tcpData.length := by
    have echo : ((s.ecnObserve p).ecnEcho p).accecn = (s.ecnObserve p).accecn := by
      unfold ecnEcho
      split
      · rfl
      · rfl
    have classic : ∀ t : TcpSession, t.accecn = s.accecn → (if t.accecn.enabled = true then {t with
        accecn := t.accecn.recordReceivedCodepoint p.ipEcn p.tcpData.length} else t).accecn =
          s.accecn.recordReceivedCodepoint p.ipEcn p.tcpData.length := by
      intro t same
      rw [same,if_pos on]
    rw [echo]
    unfold ecnObserve
    refine classic _ ?_
    split
    · rfl
    · rfl
  have enabled : (s.accecn.recordReceivedCodepoint p.ipEcn p.tcpData.length).enabled = true := by
    rw [← on]
    unfold AccEcnState.recordReceivedCodepoint
    split
    · rfl
    · split
      · rfl
      · split <;> rfl
  unfold ecnPrologue
  generalize (s.ecnObserve p).ecnEcho p = t at observed
  rw [← observed] at enabled ⊢
  cases counters : p.tcpAccecn0Counters with
  | some values =>
    unfold accecnAce accecnCounter
    rw [counters,if_neg (by simp)]
    dsimp only
    rw [if_pos enabled]
    split
    · rfl
    · rfl
  | none =>
    have first : t.accecnCounter p = t := by
      unfold accecnCounter
      rw [counters]
    rw [first]
    unfold accecnAce
    rw [counters,enabled]
    cases p.tcpFlagSyn with
    | true => rfl
    | false =>
      dsimp only
      rw [if_pos (by rfl)]
      split
      · rfl
      · rfl

theorem ecnObserve_sendEce (on : s.ecn.enabled = true) :
    (s.ecnObserve p).ecn.sendEce = (decide (p.ipEcn = 3) || (s.ecn.sendEce && !p.tcpFlagCwr)) := by
  unfold ecnObserve
  dsimp only
  rw [if_pos on]
  split
  · rfl
  · rfl

def received (a : AccEcnState) : Nat × Nat × Nat × Nat := (a.rCep,a.rCeB,a.rEct0B,a.rEct1B)

theorem record_same {a : AccEcnState} {ipEcn len : Nat}
    (same : received (a.recordReceivedCodepoint ipEcn len) = received a) : a.recordReceivedCodepoint ipEcn len = a := by
  have shape : a.recordReceivedCodepoint ipEcn len = {a with
      rCep := (received (a.recordReceivedCodepoint ipEcn len)).1
      rCeB := (received (a.recordReceivedCodepoint ipEcn len)).2.1
      rEct0B := (received (a.recordReceivedCodepoint ipEcn len)).2.2.1
      rEct1B := (received (a.recordReceivedCodepoint ipEcn len)).2.2.2} := by
    unfold AccEcnState.recordReceivedCodepoint received
    split
    · rfl
    · split
      · rfl
      · split
        · rfl
        · rfl
  refine shape.trans ?_
  rw [same]
  rfl

theorem unmarked_of_marks (same : (s.ecnPrologue p).marks = s.marks) : s.Unmarked p := by
  have ecn : (s.ecnPrologue p).ecn = s.ecn := congrArg Prod.fst same
  have accecn : (s.ecnPrologue p).accecn.unsent = s.accecn.unsent := congrArg (fun m => m.2.1) same
  have cc : (s.ecnPrologue p).cc = s.cc := congrArg (fun m => m.2.2) same
  refine ⟨?_,?_⟩
  · intro on
    refine ⟨?_,?_⟩
    · rw [← ecnObserve_sendEce on,← ecnPrologue_sendEce,ecn]
    · intro ece ready
      obtain ⟨cwr,place⟩ := ecnPrologue_echoes on ece ready
      rw [ecn] at cwr place
      refine ⟨?_,cwr,place⟩
      obtain ⟨ec,a,shape⟩ := ecnPrologue_shape (s := s) p
      have reacts : s.ecnReacts p = true := by
        unfold ecnReacts
        rw [ready,on,ece]
        rfl
      have reduced : s.reduceForEcn.cc = s.cc := by
        rw [← cc,shape,reacts]
        rfl
      exact ⟨(congrArg CcState.ssthresh reduced).symm,(congrArg CcState.cwnd reduced).symm,
        (congrArg CcState.sndEwn reduced).symm⟩
  · intro on
    have final := ecnPrologue_accecn (p := p) on
    have counters : received (s.ecnPrologue p).accecn.unsent = received s.accecn.unsent := congrArg received accecn
    cases offered : p.tcpAccecn0Counters with
    | some values =>
      rw [offered] at final
      dsimp only at final
      rw [final] at accecn counters
      have counted := record_same counters
      refine ⟨counted,?_⟩
      rw [counted] at accecn
      have ect0B : values.1.getD s.accecn.sEct0B = s.accecn.sEct0B := congrArg (fun a : AccEcnState => a.sEct0B) accecn
      have ceB : values.2.1.getD s.accecn.sCeB = s.accecn.sCeB := congrArg (fun a : AccEcnState => a.sCeB) accecn
      have ect1B : values.2.2.getD s.accecn.sEct1B = s.accecn.sEct1B := congrArg (fun a : AccEcnState => a.sEct1B) accecn
      show s.accecn.updateSenderCountersFromOption values = s.accecn
      unfold AccEcnState.updateSenderCountersFromOption
      rw [ect0B,ceB,ect1B]
    | none =>
      rw [offered] at final
      dsimp only at final
      have counted : s.accecn.recordReceivedCodepoint p.ipEcn p.tcpData.length = s.accecn := by
        rw [final] at counters
        split at counters
        · exact record_same counters
        · exact record_same counters
      refine ⟨counted,?_⟩
      intro syn
      rw [final,counted,if_neg (by simp [syn])] at accecn
      have cep : (s.accecn.apparentCeDelta p.ace).2.unsent.sCep = s.accecn.unsent.sCep := by rw [accecn]
      show ({s.accecn with sCep := (s.accecn.apparentCeDelta p.ace).2.unsent.sCep} : AccEcnState) = s.accecn
      rw [cep]
      rfl

theorem apparentCeDelta_same {a : AccEcnState} (same : (a.apparentCeDelta ace).2 = a) : (a.apparentCeDelta ace).1 = 0 := by
  have cep : (a.sCep + (a.apparentCeDelta ace).1) &&& accecnCounterMask = a.sCep := congrArg AccEcnState.sCep same
  have small : (a.apparentCeDelta ace).1 ≤ 7 := Nat.and_le_right
  generalize (a.apparentCeDelta ace).1 = delta at cep small
  rw [show accecnCounterMask = 2^24-1 from rfl,Nat.and_two_pow_sub_one_eq_mod] at cep
  omega

theorem ecnObserve_unmarked (quiet : s.Unmarked p) : s.ecnObserve p = s := by
  have classic : (if s.ecn.enabled = true then {s with ecn := {s.ecn with
      sendEce := decide (p.ipEcn = 3) || (s.ecn.sendEce && !p.tcpFlagCwr)}} else s) = s := by
    split
    · rename_i on
      rw [(quiet.1 on).1]
    · rfl
  unfold ecnObserve
  rw [classic]
  dsimp only
  split
  · rename_i on
    rw [(quiet.2 on).1]
  · rfl

theorem ecnPrologue_unmarked (quiet : s.Unmarked p) : s.ecnPrologue p = s := by
  have echo : s.ecnEcho p = s := by
    unfold ecnEcho
    split
    · rename_i all
      simp only [Bool.and_eq_true] at all
      obtain ⟨⟨ssthresh,cwnd,ewn⟩,cwr,place⟩ := (quiet.1 all.1.1).2 all.1.2 all.2
      have reduced : s.reduceForEcn = s := by
        have level : ({s.cc with
            ssthresh := computeEcnEventSsthresh s.sndSeq.flight s.win.sndMss
            cwnd := computeEcnEventSsthresh s.sndSeq.flight s.win.sndMss
            sndEwn := min (computeEcnEventSsthresh s.sndSeq.flight s.win.sndMss) s.win.sndWnd} : CcState) = s.cc := by
          rw [← ewn]
          nth_rewrite 1 [← cwnd]
          rw [← ssthresh]
        unfold reduceForEcn
        dsimp only
        rw [level]
      have armed : s.ecn.armCwrResponse s.sndSeq.nxt = s.ecn := by
        unfold ClassicEcnState.armCwrResponse
        rw [← cwr,← place]
      rw [reduced,armed]
    · rfl
  have counter : s.accecnCounter p = s := by
    unfold accecnCounter
    cases counters : p.tcpAccecn0Counters with
    | none => rfl
    | some values =>
      dsimp only
      split
      · rename_i on
        have known := (quiet.2 on).2
        rw [counters] at known
        have ceB : values.2.1.getD s.accecn.sCeB = s.accecn.sCeB := congrArg AccEcnState.sCeB known
        have calm : (values.2.1.any fun ceb => decide (s.accecn.sCeB < ceb)) = false := by
          cases reported : values.2.1 with
          | none => rfl
          | some ceb =>
            rw [reported] at ceB
            have level : ceb = s.accecn.sCeB := ceB
            simp [level]
        rw [calm,Bool.false_and,if_neg (by simp)]
        dsimp only at known ⊢
        rw [known]
      · rfl
  have ace : s.accecnAce p = s := by
    unfold accecnAce
    split
    · rename_i all
      simp only [Bool.and_eq_true,Bool.not_eq_true',Option.isNone_iff_eq_none] at all
      have known := (quiet.2 all.1.1).2
      rw [all.1.2] at known
      have known : (s.accecn.apparentCeDelta p.ace).2 = s.accecn := known all.2
      dsimp only
      rw [apparentCeDelta_same known,known]
      rfl
    · rfl
  unfold ecnPrologue
  rw [ecnObserve_unmarked quiet,echo,counter,ace]

end TcpSession

end PmdPytcp.Tcp
