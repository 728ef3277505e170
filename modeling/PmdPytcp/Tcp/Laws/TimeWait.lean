import PmdPytcp.Tcp.Receive.Run
import PmdPytcp.Tcp.Answer
import PmdPytcp.Tcp.Laws.Fin

namespace PmdPytcp.Tcp
open Arc
open TcpTimerService (deadline_arm_self deadline_arm_other deadline_cancel)

namespace TcpSession

variable {e : Env} {s t u : TcpSession} {p q : TcpMetadata} {m : Emit}

def waitDeadline (s : TcpSession) : Option Nat := s.timers.deadline .timeWait

theorem armTimer_waitDeadline (name : TimerName) (delayMs : Nat) (other : .timeWait ≠ name) :
    (s.armTimer e name delayMs).waitDeadline = s.waitDeadline := deadline_arm_other _ _ _ _ other

theorem keepaliveArmIdle_waitDeadline : (s.keepaliveArmIdle e).waitDeadline = s.waitDeadline := by
  unfold keepaliveArmIdle
  split
  · exact armTimer_waitDeadline (s := {s with keepalive := s.keepalive.resetForIdle}) .keepalive _ (by decide)
  · rfl

theorem phase5PostSendTimers_waitDeadline : (s.phase5PostSendTimers e m).waitDeadline = s.waitDeadline := by
  have last : ∀ t : TcpSession, (t.armTlp e m).waitDeadline = t.waitDeadline := by
    intro t
    unfold armTlp
    dsimp only
    split
    · split
      · exact armTimer_waitDeadline .tlp _ (by decide)
      · rfl
    · rfl
  unfold phase5PostSendTimers
  dsimp only
  rw [last]
  have delayed : (if (s.keepaliveArmIdle e).state = .established then
      (s.keepaliveArmIdle e).armTimer e .delayedAck e.delayedAckDelayMs else s.keepaliveArmIdle e).waitDeadline =
      s.waitDeadline := by
    split
    · exact (armTimer_waitDeadline .delayedAck _ (by decide)).trans keepaliveArmIdle_waitDeadline
    · exact keepaliveArmIdle_waitDeadline
  generalize (if (s.keepaliveArmIdle e).state = .established then
    (s.keepaliveArmIdle e).armTimer e .delayedAck e.delayedAckDelayMs else s.keepaliveArmIdle e) = t at delayed ⊢
  split
  · exact (armTimer_waitDeadline .retransmit _ (by decide)).trans delayed
  · exact delayed

theorem transmitPacket_waitDeadline : (s.transmitPacket e m).waitDeadline = s.waitDeadline := by
  obtain ⟨_,_,_,_,first,_⟩ := phase0PreSendHygiene_shape (e := e) (s := s) (m.seq.getD s.sndSeq.nxt) m
  rw [transmitPacket_eq m _ rfl,phase5PostSendTimers_waitDeadline]
  generalize s.phase0PreSendHygiene e (m.seq.getD s.sndSeq.nxt) m = t at first ⊢
  obtain ⟨_,_,_,second⟩ := composeSegment_shape (e := e) (s := t) (m.seq.getD s.sndSeq.nxt) m
  generalize t.composeSegment e (m.seq.getD s.sndSeq.nxt) m = composed at second ⊢
  obtain ⟨_,_,_,third⟩ := phase4AdvanceSendState_shape (e := e) (s := composed.2.sendTcpPacket composed.1)
    (m.seq.getD s.sndSeq.nxt) m
  rw [third]
  show composed.2.waitDeadline = _
  rw [second,first]
  rfl

-- A step into TIME_WAIT that finds `p` consumed, its FIN included: the segment
-- came with this step, or before it and the session was in CLOSING since.
structure Retires (p : TcpMetadata) (input : Env × Event) (s t : TcpSession) : Prop where
  fin : p.FinAck
  stepped : t = s.next input
  early : s.state ≠ .timeWait
  waiting : t.state = .timeWait
  consumed : p.segLen ≤ arc p.tcpSeq t.rcvSeq.nxt

-- Any later inputs, as long as the session stays in TIME_WAIT.
inductive Waits (t : TcpSession) : TcpSession → Prop where
  | here (waiting : t.state = .timeWait) : Waits t t
  | on {v : TcpSession} (input : Env × Event) (before : Waits t v) (waiting : (v.next input).state = .timeWait) :
      Waits t (v.next input)

-- The same octets and the same FIN. What the peer acknowledges, offers and
-- stamps may be newer.
structure Repeats (p q : TcpMetadata) : Prop where
  fin : q.FinAck
  seq : q.tcpSeq = p.tcpSeq
  data : q.tcpData = p.tcpData

-- PAWS lets the segment through: its timestamp is not from the past.
def Current (e : Env) (q : TcpMetadata) (s : TcpSession) : Prop := (s.checkPawsAndUpdateTsRecent e q).1 = true

-- The ACK of the segment is assembled, with the timestamp and the ECN counters
-- the segment brought.
def Acknowledges (e : Env) (q : TcpMetadata) (s : TcpSession) : Prop :=
  ((s.ecnPrologue q).checkPawsAndUpdateTsRecent e q).2.Transmits e {flagAck := true}

-- The clock has moved on since the wait was last started.
def Later (e : Env) (s : TcpSession) : Prop := ∀ due ∈ s.waitDeadline, due < e.nowMs + e.timeWaitDelayMs

-- One ACK of RCV.NXT, a full 2MSL from now, and RCV.NXT as before.
def Reanswers (e : Env) (q : TcpMetadata) (s : TcpSession) : Prop :=
  ∃ t seg, s.handle e (.packet q) = .ok t ∧
    t.log.filterMap Obs.segment = s.log.filterMap Obs.segment ++ [seg] ∧
    seg.bareAck = true ∧ seg.Assembles ∧ seg.ack = s.rcvSeq.nxt ∧ t.rcvSeq.nxt = s.rcvSeq.nxt ∧
    t.state = .timeWait ∧ t.waitDeadline = some (e.nowMs + e.timeWaitDelayMs)

theorem sendAck_reports (hand : Hand) : ∃ seg, seg.bareAck = true ∧
    (seg.Assembles ↔ s.Transmits e {flagAck := true}) ∧ seg.ack = s.rcvSeq.nxt ∧
    (s.transmitPacket e {flagAck := true}).receiver hand = (s.receiver hand).emit seg := by
  let s₀ := s.phase0PreSendHygiene e s.sndSeq.nxt {flagAck := true}
  have begun : s₀.receiver hand = s.receiver hand := phase0PreSendHygiene_receiver _ _
  refine ⟨(s₀.composeSegment e s.sndSeq.nxt {flagAck := true}).1,rfl,Iff.rfl,?_,?_⟩
  · have reports := (@composeSegment_composes e s₀ hand s.sndSeq.nxt {flagAck := true}).ack rfl
    rw [begun] at reports
    exact reports
  · rw [transmitPacket_eq {flagAck := true} _ rfl,phase5PostSendTimers_receiver,phase4AdvanceSendState_receiver,
      sendTcpPacket_receiver,composeSegment_receiver,← begun]
    rfl

def Steady (s t : TcpSession) : Prop := t.state = s.state ∧ t.rcvSeq.nxt = s.rcvSeq.nxt

theorem Steady.same (same : t.receiver .idle = s.receiver .idle) : Steady s t :=
  ⟨congrArg Receiver.state same,congrArg Receiver.nxt same⟩

theorem Steady.trans (one : Steady s t) (two : Steady t u) : Steady s u :=
  ⟨two.1.trans one.1,two.2.trans one.2⟩

theorem emitChallengeAck_steady : Steady s (s.emitChallengeAck e) := by
  unfold emitChallengeAck
  split
  · exact ⟨rfl,rfl⟩
  · obtain ⟨seg,_,_,_,out⟩ := @sendAck_reports e s .idle
    exact ⟨congrArg Receiver.state out,congrArg Receiver.nxt out⟩

theorem checkPaws_steady : Steady s (s.checkPawsAndUpdateTsRecent e p).2 := by
  rcases checkPaws_shape (e := e) (s := s) p with ⟨passed,_⟩ | ⟨_,same | challenged⟩
  · exact .same (checkPaws_receiver passed)
  · rw [same]
    exact ⟨rfl,rfl⟩
  · rw [challenged]
    exact emitChallengeAck_steady

theorem changeState_nxt (new : FsmState) (cause : Option Seq32) :
    (s.changeState e new cause).rcvSeq.nxt = s.rcvSeq.nxt :=
  congrArg Receiver.nxt (@changeState_receiver e s .idle new cause)

theorem pumpTail_nxt (entry : FsmState) (external : Bool) :
    (s.pumpTail e entry external).rcvSeq.nxt = s.rcvSeq.nxt :=
  congrArg Receiver.nxt (@pumpTail_receiver e s .idle entry external)

theorem closeSyscall_nxt (here : s.state = .timeWait) : (s.tcpFsmSyscall e .close).rcvSeq.nxt = s.rcvSeq.nxt := by
  have idle : s.closeCall e = s := by
    unfold closeCall
    rw [here]
  exact (pumpTail_nxt _ _).trans (congrArg (fun t : TcpSession => t.rcvSeq.nxt) idle)

theorem expireTo_nxt (name : TimerName) : (s.expireTo e name).rcvSeq.nxt = s.rcvSeq.nxt := by
  unfold expireTo
  split
  · exact changeState_nxt _ _
  · rfl

theorem receive_nxt (byteCount : Option Nat) : (s.receive byteCount).2.rcvSeq.nxt = s.rcvSeq.nxt := by
  unfold receive
  split
  · rfl
  split
  · rfl
  split <;> rfl

theorem timeWait_packet (here : s.state = .timeWait) :
    s.handle e (.packet p) = .ok (((s.ecnPrologue p).fsmTimeWaitPacket e p).pumpTail e .timeWait true) := by
  have kept : (s.ecnPrologue p).state = .timeWait :=
    (congrArg Receiver.state (@ecnPrologue_receiver s .idle p)).trans here
  show ((s.ecnPrologue p).dispatchPacket _ e p >>= fun t => Except.ok (t.pumpTail e s.state true)) = _
  unfold dispatchPacket
  rw [kept,here]
  rfl

theorem fsmTimeWaitPacket_steady :
    (s.fsmTimeWaitPacket e p).state = .synRcvd ∨ Steady s (s.fsmTimeWaitPacket e p) := by
  have checked := @checkPaws_steady e s p
  unfold fsmTimeWaitPacket
  dsimp only
  generalize s.checkPawsAndUpdateTsRecent e p = verdict at checked ⊢
  obtain ⟨passed,t⟩ := verdict
  dsimp only at checked ⊢
  split
  · exact .inr checked
  split
  · left
    obtain ⟨seg,_,out⟩ := @transmitPacket_receiver e ((t.reinitForRfc6191Reuse e p).changeState e .synRcvd none) .idle
      {flagSyn := true,flagAck := true}
    exact (congrArg Receiver.state out).trans
      (congrArg Receiver.state (@changeState_receiver e (t.reinitForRfc6191Reuse e p) .idle .synRcvd none))
  split
  · right
    obtain ⟨seg,_,_,_,out⟩ := @sendAck_reports e t .idle
    exact checked.trans ⟨congrArg Receiver.state out,congrArg Receiver.nxt out⟩
  split
  · exact .inr (checked.trans emitChallengeAck_steady)
  · exact .inr checked

theorem next_nxt (here : s.state = .timeWait) (input : Env × Event) (stays : (s.next input).state = .timeWait) :
    (s.next input).rcvSeq.nxt = s.rcvSeq.nxt := by
  obtain ⟨e,event⟩ := input
  cases event with
  | packet p =>
    have out : s.next (e,.packet p) = ((s.ecnPrologue p).fsmTimeWaitPacket e p).pumpTail e .timeWait true :=
      congrArg Outcome.session (timeWait_packet here)
    have entry : Steady s (s.ecnPrologue p) := .same ecnPrologue_receiver
    have tail : Steady ((s.ecnPrologue p).fsmTimeWaitPacket e p) (s.next (e,.packet p)) := by
      rw [out]
      exact .same (pumpTail_receiver _ _)
    rcases @fsmTimeWaitPacket_steady e (s.ecnPrologue p) p with anew | steady
    · cases (tail.1.trans anew).symm.trans stays
    · exact ((entry.trans steady).trans tail).2
  | tick =>
    show (s.fireTimer e).rcvSeq.nxt = s.rcvSeq.nxt
    unfold fireTimer
    split
    · generalize spent : ({s with timers := {s.timers with serviceHandle := none}} : TcpSession) = t
      have state : t.state = .timeWait := by rw [← spent]; exact here
      have nxt : t.rcvSeq.nxt = s.rcvSeq.nxt := by rw [← spent]
      unfold tcpFsmTimer dispatchTimer
      rw [state]
      exact ((pumpTail_nxt _ _).trans (expireTo_nxt _)).trans nxt
    · rfl
  | icmp m =>
    show (s.tcpFsmIcmp e m).rcvSeq.nxt = s.rcvSeq.nxt
    unfold tcpFsmIcmp dispatchIcmp
    rw [here]
    refine (pumpTail_nxt _ _).trans ?_
    cases m with
    | pmtu nextHopMtu version => exact congrArg Receiver.nxt (@applyPmtuUpdate_receiver e s .idle nextHopMtu version)
    | destUnreachable type code => rfl
    | other => rfl
  | close => exact closeSyscall_nxt here
  | abort =>
    show (s.tcpFsmSyscall e .abort).rcvSeq.nxt = s.rcvSeq.nxt
    refine (pumpTail_nxt _ _).trans ?_
    show (s.abort e).rcvSeq.nxt = s.rcvSeq.nxt
    unfold abort
    rw [here]
    exact changeState_nxt _ _
  | shutdownRead =>
    show s.shutdownRead.rcvSeq.nxt = s.rcvSeq.nxt
    unfold shutdownRead
    split <;> rfl
  | shutdownWrite =>
    show (s.shutdownWrite e).rcvSeq.nxt = s.rcvSeq.nxt
    unfold shutdownWrite
    split
    · rfl
    · exact @closeSyscall_nxt e {s with shut := {s.shut with wr := true}} here
  | send data =>
    show (s.send e data).rcvSeq.nxt = s.rcvSeq.nxt
    unfold send
    rw [here]
    split
    · rfl
    · rfl
  | receive byteCount => exact receive_nxt byteCount
  | option o => cases o <;> rfl

theorem Waits.nxt (waited : Waits t u) : u.state = .timeWait ∧ u.rcvSeq.nxt = t.rcvSeq.nxt := by
  induction waited with
  | here waiting => exact ⟨waiting,rfl⟩
  | on input before waiting ih => exact ⟨waiting,(next_nxt ih.1 input waiting).trans ih.2⟩

-- The handler looks one octet below RCV.NXT, and finds the FIN there when it
-- came alone and nothing was taken behind it.
theorem fin_recognised (fin : p.FinAck) (consumed : p.segLen ≤ arc p.tcpSeq nxt) (again : Repeats p q) :
    add32 q.tcpSeq 1 = nxt ↔ p.tcpData = [] ∧ nxt = p.segEnd := by
  have length : p.segLen = p.tcpData.length + 1 := by
    simp [TcpMetadata.segLen,fin.1,fin.2.2.1]
  rw [again.seq]
  constructor
  · rintro rfl
    have next : arc p.tcpSeq (add32 p.tcpSeq 1) = 1 := arc_add32 p.tcpSeq (n := 1) (by decide)
    rw [length,next] at consumed
    have bare : p.tcpData = [] := List.length_eq_zero_iff.mp (by omega)
    refine ⟨bare,?_⟩
    rw [TcpMetadata.segEnd,length,bare]
    rfl
  · rintro ⟨bare,rfl⟩
    rw [TcpMetadata.segEnd,length,bare]
    rfl

theorem reuse_needs_syn (tsRecent : BitVec 32) (plain : q.tcpFlagSyn = false) : s.reuseAcceptable tsRecent q = false := by
  simp [reuseAcceptable,plain]

theorem fsmTimeWaitPacket_again (current : s.Current e q) (plain : q.FinAck) :
    s.fsmTimeWaitPacket e q =
      if add32 q.tcpSeq 1 = s.rcvSeq.nxt then
        ((s.checkPawsAndUpdateTsRecent e q).2.transmitPacket e {flagAck := true}).armTimer e .timeWait e.timeWaitDelayMs
      else (s.checkPawsAndUpdateTsRecent e q).2 := by
  have kept := (@checkPaws_steady e s q).2
  unfold Current at current
  unfold fsmTimeWaitPacket
  dsimp only
  generalize s.checkPawsAndUpdateTsRecent e q = verdict at current kept ⊢
  obtain ⟨passed,t⟩ := verdict
  dsimp only at current kept ⊢
  rw [current,reuse_needs_syn _ plain.2.2.1,plain.1,plain.2.2.1,kept]
  simp

theorem pumpTail_deadline (entry : FsmState) (external : Bool) (name : TimerName) (other : name ≠ .txPump) :
    (s.pumpTail e entry external).timers.deadline name = s.timers.deadline name := by
  have cancelled : (s.cancelTimer e .txPump).timers.deadline name = s.timers.deadline name := by
    show (s.timers.cancel s.state e.nowMs .txPump).deadline name = _
    rw [deadline_cancel,if_neg other]
  unfold pumpTail
  dsimp only
  split
  · exact cancelled
  split
  · exact (deadline_arm_other _ _ _ _ other).trans cancelled
  · exact cancelled

theorem paws_passes : (s.checkPawsAndUpdateTsRecent e q).1 =
    (decide (s.pawsVerdict e q = .accept) || decide (s.pawsVerdict e q = .refresh)) := by
  unfold checkPawsAndUpdateTsRecent
  cases s.pawsVerdict e q <;> rfl

theorem prologue_current : (s.ecnPrologue q).Current e q ↔ s.Current e q := by
  obtain ⟨ec,a,shape⟩ := ecnPrologue_shape (s := s) q
  have verdict : (s.ecnPrologue q).pawsVerdict e q = s.pawsVerdict e q := by
    rw [shape]
    rfl
  unfold Current
  rw [paws_passes,paws_passes,verdict]

theorem again_entry (hand : Hand) (current : s.Current e q) :
    ((s.ecnPrologue q).checkPawsAndUpdateTsRecent e q).2.receiver hand = s.receiver hand :=
  (checkPaws_receiver (prologue_current.mpr current)).trans ecnPrologue_receiver

theorem outdated_waits (outdated : ¬s.Current e q) :
    ((s.ecnPrologue q).fsmTimeWaitPacket e q).waitDeadline = s.waitDeadline := by
  obtain ⟨ec,a,shape⟩ := ecnPrologue_shape (s := s) q
  have entry : (s.ecnPrologue q).waitDeadline = s.waitDeadline := by
    rw [shape]
    rfl
  have challenged (t : TcpSession) : (t.emitChallengeAck e).waitDeadline = t.waitDeadline := by
    unfold emitChallengeAck
    split
    · rfl
    · exact (armTimer_waitDeadline .challengeAck _ (by decide)).trans transmitPacket_waitDeadline
  rw [← prologue_current] at outdated
  rcases checkPaws_shape (e := e) (s := s.ecnPrologue q) q with ⟨passed,_⟩ | ⟨failed,left⟩
  · exact absurd passed outdated
  · have dropped : (s.ecnPrologue q).fsmTimeWaitPacket e q =
        ((s.ecnPrologue q).checkPawsAndUpdateTsRecent e q).2 := by
      unfold fsmTimeWaitPacket
      simp [failed]
    rw [dropped]
    rcases left with same | answered
    · rw [same,entry]
    · rw [answered,challenged,entry]

theorem again_answered (here : u.state = .timeWait) (current : u.Current e q) (fin : q.FinAck)
    (hit : add32 q.tcpSeq 1 = u.rcvSeq.nxt) : u.Reanswers e q ↔ u.Acknowledges e q := by
  have entry := again_entry .idle current
  have kept : (u.ecnPrologue q).rcvSeq.nxt = u.rcvSeq.nxt := congrArg Receiver.nxt (@ecnPrologue_receiver u .idle q)
  have out := @timeWait_packet e u q here
  rw [fsmTimeWaitPacket_again (prologue_current.mpr current) fin,kept,if_pos hit] at out
  unfold Acknowledges
  generalize ((u.ecnPrologue q).checkPawsAndUpdateTsRecent e q).2 = v at entry out
  obtain ⟨seg,bare,assembles,ack,sent⟩ := @sendAck_reports e v .idle
  rw [← assembles]
  generalize v.transmitPacket e {flagAck := true} = x at sent out
  have whole : ((x.armTimer e .timeWait e.timeWaitDelayMs).pumpTail e .timeWait true).receiver .idle =
      (u.receiver .idle).emit seg := by
    rw [pumpTail_receiver,← entry,← sent]
    rfl
  have told := congrArg Receiver.told whole
  constructor
  · rintro ⟨w,other,handled,log,_,assembled,_⟩
    rw [← Except.ok.inj (out.symm.trans handled)] at log
    have same := told.symm.trans log
    have last : [seg] = [other] := List.append_cancel_left same
    rw [(List.cons.inj last).1]
    exact assembled
  · intro assembled
    have same : v.rcvSeq.nxt = u.rcvSeq.nxt := congrArg Receiver.nxt entry
    refine ⟨_,seg,out,told,bare,assembled,ack.trans same,congrArg Receiver.nxt whole,
      (congrArg Receiver.state whole).trans here,?_⟩
    exact (pumpTail_deadline _ _ _ (by decide)).trans (deadline_arm_self _ _ _ _ _)

theorem again_silent (here : u.state = .timeWait) (current : u.Current e q) (fin : q.FinAck)
    (missed : add32 q.tcpSeq 1 ≠ u.rcvSeq.nxt) : ¬u.Reanswers e q := by
  have entry := again_entry .idle current
  have kept : (u.ecnPrologue q).rcvSeq.nxt = u.rcvSeq.nxt := congrArg Receiver.nxt (@ecnPrologue_receiver u .idle q)
  have out := @timeWait_packet e u q here
  rw [fsmTimeWaitPacket_again (prologue_current.mpr current) fin,kept,if_neg missed] at out
  generalize ((u.ecnPrologue q).checkPawsAndUpdateTsRecent e q).2 = v at entry out
  rintro ⟨w,seg,handled,log,_⟩
  have silent : w.log.filterMap Obs.segment = u.log.filterMap Obs.segment := by
    rw [← Except.ok.inj (out.symm.trans handled)]
    exact congrArg Receiver.told ((@pumpTail_receiver e v .idle .timeWait true).trans entry)
  rw [silent] at log
  simpa using congrArg List.length log

end TcpSession

def peerFin : TcpMetadata :=
  {tcpFlagFin := true,tcpFlagAck := true,tcpSeq := 501,tcpAck := 1002,tcpWin := 65535}

def peerDataFin : TcpMetadata :=
  {tcpFlagFin := true,tcpFlagAck := true,tcpSeq := 501,tcpAck := 1002,tcpWin := 65535,tcpData := [0x68,0x69]}

def finished : TcpSession := listening.run finishedRun

theorem finished_retires : TcpSession.Retires peerFin ({nowMs := 60},.packet peerFin) finished
    (finished.next ({nowMs := 60},.packet peerFin)) where
  fin := by decide
  stepped := rfl
  early := by decide +kernel
  waiting := by decide +kernel
  consumed := by decide +kernel

end PmdPytcp.Tcp
