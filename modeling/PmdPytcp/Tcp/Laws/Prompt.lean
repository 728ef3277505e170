import PmdPytcp.Tcp.Laws.TimeWait
import PmdPytcp.Tcp.Stale

namespace PmdPytcp.Tcp
open Arc
open TcpTimerService (deadline_arm_self)

-- Zero marks a FIN that is not out; past FIN_WAIT_1 it is out; LISTEN has nothing to send.
structure WakeLaw (v : Sender) : Prop where
  mark : v.finSent = false → v.fin = 0
  out : v.state = .finWait2 ∨ v.state = .timeWait → v.finSent = true
  empty : v.state = .listen → v.buffer = []

section Keeping
variable {v w : Sender}

theorem WakeLaw.still (law : WakeLaw v) (sent : w.finSent = v.finSent) (fin : w.fin = v.fin) (state : w.state = v.state)
    (buffer : v.state = .listen → w.buffer = v.buffer) : WakeLaw w := by
  refine ⟨?_,?_,?_⟩
  · rw [sent,fin]
    exact law.mark
  · rw [sent,state]
    exact law.out
  · intro here
    rw [state] at here
    rw [buffer here,law.empty here]

theorem WakeLaw.moved (law : WakeLaw v) (sent : w.finSent = v.finSent) (fin : w.fin = v.fin)
    (out : w.state = .finWait2 ∨ w.state = .timeWait → v.finSent = true) (past : w.state ≠ .listen) : WakeLaw w := by
  refine ⟨?_,?_,fun here => absurd here past⟩
  · rw [sent,fin]
    exact law.mark
  · rw [sent]
    exact out

theorem wake_law_kept {allowed : Slip → Prop} (step : Move allowed v w) (barred : ¬allowed .unsentFin) (law : WakeLaw v) :
    WakeLaw w := by
  cases step with
  | aim | sacked | regulate | walkBack | queue => exact law.still rfl rfl rfl fun _ => rfl
  | acknowledge a blocks cc mss wnd settled =>
    refine law.still rfl rfl rfl ?_
    intro here
    rw [here] at settled
    cases settled
  | append data transfer =>
    refine law.still rfl rfl rfl ?_
    intro here
    rw [here] at transfer
    cases transfer
  | syn seg opening kind =>
    refine law.still ?_ ?_ rfl fun _ => rfl
    · show (seg.flagFin || v.finSent) = v.finSent
      rw [kind.2]
      rfl
    · show (if seg.flagFin then _ else v.fin) = v.fin
      rw [kind.2]
      rfl
  | data seg limit transfer kind =>
    refine law.still ?_ ?_ rfl fun _ => rfl
    · show (seg.flagFin || v.finSent) = v.finSent
      rw [kind.2]
      rfl
    · show (if seg.flagFin then _ else v.fin) = v.fin
      rw [kind.2]
      rfl
  | fin seg ending kind =>
    have sent : (v.emit seg).finSent = true := by
      show (seg.flagFin || v.finSent) = true
      rw [kind.2]
      rfl
    refine ⟨?_,fun _ => sent,law.empty⟩
    intro unsent
    rw [sent] at unsent
    cases unsent
  | negotiate | connected | accepted | admitted | peerClosed | earlyClose | dropped =>
    refine law.moved rfl rfl ?_ nofun
    rintro (here | here) <;> cases here
  | finished new pair =>
    refine law.moved rfl rfl ?_ ?_
    · rcases pair with ⟨_,rfl⟩ | ⟨_,rfl⟩ <;> rintro (here | here) <;> cases here
    · rcases pair with ⟨_,rfl⟩ | ⟨_,rfl⟩ <;> exact nofun
  | finAcked new a pair covered =>
    have sent : v.finSent = true := by
      rcases covered with ⟨sent,_⟩ | slipped
      · exact sent
      · exact absurd slipped barred
    refine law.moved rfl rfl (fun _ => sent) ?_
    rcases pair with ⟨_,rfl | rfl⟩ | ⟨_,rfl⟩ | ⟨_,rfl⟩ <;> exact nofun
  | drifts new a pair =>
    refine law.moved rfl rfl ?_ ?_
    · rcases pair with ⟨_,rfl⟩ | ⟨here,_⟩ | ⟨here,_⟩
      · rintro (other | other) <;> cases other
      · exact fun _ => law.out (.inl here)
      · exact fun _ => law.out (.inr here)
    · rcases pair with ⟨_,rfl⟩ | ⟨_,rfl | rfl⟩ | ⟨_,rfl⟩ <;> exact nofun
  | reused =>
    refine ⟨fun _ => rfl,?_,nofun⟩
    rintro (here | here) <;> cases here

theorem opened_wakes {s : TcpSession} (opened : Opened s) : WakeLaw (s.senderAt none) := by
  obtain ⟨o,data,new,fresh,sender⟩ := opened_sender opened
  rw [sender]
  refine ⟨fun _ => rfl,?_,?_⟩
  · rcases fresh with ⟨rfl,_⟩ | rfl <;> rintro (here | here) <;> cases here
  · rcases fresh with ⟨rfl,rfl⟩ | rfl
    · exact fun _ => rfl
    · exact nofun

end Keeping

namespace TcpSession

variable {e : Env} {s t u : TcpSession} {p q : TcpMetadata} {m : Emit} {replay : Replay}

def Answered (s : TcpSession) : Prop := s.rcvSeq.una = s.rcvSeq.nxt

theorem transmitPacket_answered : (s.transmitPacket e m).Answered := by
  obtain ⟨_,_,_,_,_,_,_,_,_,_,_,_,_,shape,_⟩ := transmitPacket_shape (e := e) (s := s) m
  rw [shape]
  rfl

theorem transmitPacket_state : (s.transmitPacket e m).state = s.state := (transmitPacket_pumping m).state

-- In which states nothing may be owed once a tick is over, and why TIME_WAIT need not ask.
structure Prompt (s : TcpSession) : Prop where
  idle : s.state = .listen ∨ s.state = .synSent ∨ s.state = .finWait2 → s.Answered
  opening : s.state = .synRcvd → s.sndSeq.nxt = s.sndSeq.ini ∨ s.Answered
  ended : s.state = .finWait1 ∨ s.state = .lastAck → s.sndSeq.finSent = true → s.Answered
  closing : s.state = .closing → s.sndSeq.finSent = true → ge32 s.sndSeq.una s.sndSeq.fin = true → s.Answered
  waiting : s.state = .timeWait → s.waitDeadline.isSome = true

theorem Prompt.answered (answered : s.Answered) (waiting : s.state = .timeWait → s.waitDeadline.isSome = true) :
    s.Prompt :=
  ⟨fun _ => answered,fun _ => .inr answered,fun _ _ => answered,fun _ _ _ => answered,waiting⟩

theorem Prompt.busy (busy : s.state = .established ∨ s.state = .closeWait ∨ s.state = .closed) : s.Prompt := by
  refine ⟨?_,?_,?_,?_,?_⟩
  all_goals
    intro here
    rcases busy with state | state | state <;> rw [state] at here <;> simp at here

-- Nothing happens to the two halves, or an ACK goes out.
structure Tidy (s t : TcpSession) : Prop where
  state : t.state = s.state
  waits : t.waitDeadline = s.waitDeadline
  halves : t.rcvSeq = s.rcvSeq ∧ t.sndSeq = s.sndSeq ∨ t.Answered

theorem Tidy.refl (s : TcpSession) : Tidy s s := ⟨rfl,rfl,.inl ⟨rfl,rfl⟩⟩

theorem Tidy.prompt (tidy : Tidy s t) (prompt : s.Prompt) : t.Prompt := by
  obtain ⟨state,waits,halves⟩ := tidy
  rcases halves with ⟨rcv,snd⟩ | answered
  · have owed : t.Answered ↔ s.Answered := by
      unfold Answered
      rw [rcv]
    obtain ⟨idle,opening,ended,closing,waiting⟩ := prompt
    refine ⟨?_,?_,?_,?_,?_⟩ <;> rw [state]
    · rw [owed]
      exact idle
    · rw [owed,snd]
      exact opening
    · rw [owed,snd]
      exact ended
    · rw [owed,snd]
      exact closing
    · rw [waits]
      exact waiting
  · refine .answered answered ?_
    rw [state,waits]
    exact prompt.waiting

theorem Tidy.trans (one : Tidy s t) (two : Tidy t u) : Tidy s u := by
  refine ⟨two.state.trans one.state,two.waits.trans one.waits,?_⟩
  rcases two.halves with ⟨rcv,snd⟩ | answered
  · rcases one.halves with ⟨rcv',snd'⟩ | answered
    · exact .inl ⟨rcv.trans rcv',snd.trans snd'⟩
    · right
      unfold Answered at answered ⊢
      rw [rcv]
      exact answered
  · exact .inr answered

theorem transmitPacket_tidy : Tidy s (s.transmitPacket e m) :=
  ⟨transmitPacket_state,transmitPacket_waitDeadline,.inr transmitPacket_answered⟩

theorem armTimer_tidy (name : TimerName) (delayMs : Nat) (other : .timeWait ≠ name) :
    Tidy s (s.armTimer e name delayMs) :=
  ⟨rfl,armTimer_waitDeadline name delayMs other,.inl ⟨rfl,rfl⟩⟩

theorem emitChallengeAck_tidy : Tidy s (s.emitChallengeAck e) := by
  unfold emitChallengeAck
  split
  · exact .refl s
  · exact transmitPacket_tidy.trans (armTimer_tidy .challengeAck _ (by decide))

theorem checkSegmentAcceptability_tidy : Tidy s (s.checkSegmentAcceptability e p).2 := by
  unfold checkSegmentAcceptability
  split
  · exact .refl s
  · split
    · exact .refl s
    · have noted : Tidy s (s.noteFullDuplicate p) := by
        unfold noteFullDuplicate
        split <;> exact ⟨rfl,rfl,.inl ⟨rfl,rfl⟩⟩
      exact noted.trans emitChallengeAck_tidy

theorem checkPaws_tidy : Tidy s (s.checkPawsAndUpdateTsRecent e p).2 := by
  rcases checkPaws_shape (e := e) (s := s) p with ⟨_,ts,shape,_⟩ | ⟨_,same | challenged⟩
  · rw [shape]
    exact ⟨rfl,rfl,.inl ⟨rfl,rfl⟩⟩
  · rw [same]
    exact .refl s
  · rw [challenged]
    exact emitChallengeAck_tidy

theorem checkRstAcceptability_tidy : Tidy s (s.checkRstAcceptability e p).2 := by
  unfold checkRstAcceptability
  split
  · exact .refl s
  · split
    · exact emitChallengeAck_tidy
    · exact .refl s

theorem takeReset_tidy (error : Option ConnError) :
    (s.takeReset error e p).state = .closed ∨ Tidy s (s.takeReset error e p) := by
  unfold takeReset
  split
  · have checked := @checkRstAcceptability_tidy e s p
    generalize s.checkRstAcceptability e p = verdict at checked ⊢
    obtain ⟨acceptable,t⟩ := verdict
    dsimp only at checked ⊢
    split
    · exact .inl (changeState_state _ _)
    · exact .inr checked
  · exact .inr (.refl s)

theorem Tidy.answered (tidy : Tidy s t) (answered : s.Answered) : t.Answered := by
  rcases tidy.halves with ⟨rcv,_⟩ | now
  · unfold Answered at answered ⊢
    rw [rcv]
    exact answered
  · exact now

theorem changeState_rcvSeq (new : FsmState) (cause : Option Seq32) : (s.changeState e new cause).rcvSeq = s.rcvSeq := by
  obtain ⟨_,_,_,_,_,shape⟩ := changeState_shape (e := e) (s := s) new cause
  rw [shape]

theorem Answered.moved (answered : s.Answered) (new : FsmState) (cause : Option Seq32) :
    (s.changeState e new cause).Answered := by
  unfold Answered
  rw [changeState_rcvSeq]
  exact answered

theorem afterAck_bare (empty : p.tcpData = []) (only : p.OnlyAck) (here : p.tcpSeq = s.rcvSeq.nxt) :
    (s.afterAck e p).rcvSeq = s.rcvSeq := by
  obtain ⟨_,_,_,_,_,_,_,_,shape⟩ := acknowledged_frame (e := e) (s := s) (p := p)
  have rcv : ((((s.phase3HarvestRttSamples e p).pruneSackScoreboard).ingestSackInfo
      p).phase4LossDetectionAndRecoveryExit e p).catchUpNxt.rcvSeq = s.rcvSeq := by
    rw [shape]
  unfold afterAck settleAck
  generalize ((((s.phase3HarvestRttSamples e p).pruneSackScoreboard).ingestSackInfo
    p).phase4LossDetectionAndRecoveryExit e p).catchUpNxt = t at rcv ⊢
  rw [consumePayload_bare empty only (here.trans (congrArg RecvSeqState.nxt rcv.symm))]
  obtain ⟨_,_,_,_,settled,_⟩ := takeWindowAndPurge_shape (e := e) (s := t.drainTx) p
  rw [settled]
  exact rcv

-- A segment from the queue leaves nothing owed behind a FIN, and CLOSING moves on
-- only when the FIN is acknowledged.
structure Restful (replay : Replay) : Prop where
  answers : ∀ q u t, q.OnlyAck → u.state = .finWait1 ∨ u.state = .finWait2 → u.Answered → replay q u = .ok t → t.Answered
  waits : ∀ q u t, q.OnlyAck → u.state = .closing → replay q u = .ok t → t.state = .timeWait →
    ge32 t.sndSeq.una t.sndSeq.fin = true

theorem ok_of_bind {x : Outcome} {f : TcpSession → Outcome} (done : (x >>= f) = .ok t) :
    ∃ u, x = .ok u ∧ f u = .ok t := by
  cases x with
  | error failure => cases done
  | ok u => exact ⟨u,rfl,done⟩

theorem processAckPacket_cases (done : s.processAckPacket replay e p = .ok t) :
    Tidy s t ∨ ∃ u : TcpSession, u.state = s.state ∧
      (p.tcpData = [] → p.OnlyAck → p.tcpSeq = s.rcvSeq.nxt → u.rcvSeq = s.rcvSeq) ∧ u.replayOoo replay = .ok t := by
  rw [processAckPacket_eq] at done
  split at done
  · right
    rename_i passed
    obtain ⟨s₁,first,last⟩ := ok_of_bind done
    have begun : ∀ u : TcpSession, u.phase1CumAckSideEffects e p = .ok s₁ → s₁.rcvSeq = u.rcvSeq ∧ s₁.state = u.state := by
      intro u first
      obtain ⟨_,_,_,_,_,_,_,shape⟩ := phase1CumAckSideEffects_frame (e := e) (s := u) (p := p)
      rw [first] at shape
      have shape : s₁ = _ := shape
      rw [shape]
      exact ⟨rfl,rfl⟩
    obtain ⟨rcv,state⟩ := begun _ first
    obtain ⟨_,_,armed⟩ := keepaliveArmIdle_shape (e := e) (s := (s.checkPawsAndUpdateTsRecent e p).2)
    rcases checkPaws_shape (e := e) (s := s) p with ⟨_,ts,shape,_⟩ | ⟨failed,_⟩
    · rw [armed,shape] at rcv state
      refine ⟨s₁.afterAck e p,afterAck_state.trans state,?_,last⟩
      intro empty only here
      rw [afterAck_bare empty only (here.trans (congrArg RecvSeqState.nxt rcv.symm)),rcv]
    · rw [failed] at passed
      cases passed
  · left
    cases done
    exact checkPaws_tidy

theorem processAckPacket_answers (restful : Restful replay) (empty : p.tcpData = []) (only : p.OnlyAck)
    (here : p.tcpSeq = s.rcvSeq.nxt) (late : s.state = .finWait1 ∨ s.state = .finWait2) (answered : s.Answered)
    (done : s.processAckPacket replay e p = .ok t) : t.Answered := by
  rcases processAckPacket_cases done with tidy | ⟨u,state,rcv,replayed⟩
  · exact tidy.answered answered
  · have ready : u.Answered := by
      unfold Answered
      rw [rcv empty only here]
      exact answered
    rw [← state] at late
    unfold replayOoo at replayed
    split at replayed
    · cases replayed
      exact ready
    · rename_i q found
      exact restful.answers q.1 {u with oooPacketQueue := u.oooPacketQueue.drop u.rcvSeq.nxt} t q.2 late ready replayed

theorem processAckPacket_waits (restful : Restful replay) (here : s.state = .closing)
    (done : s.processAckPacket replay e p = .ok t) (waiting : t.state = .timeWait) :
    ge32 t.sndSeq.una t.sndSeq.fin = true := by
  rcases processAckPacket_cases done with tidy | ⟨u,state,_,replayed⟩
  · rw [tidy.state,here] at waiting
    cases waiting
  · rw [here] at state
    unfold replayOoo at replayed
    split at replayed
    · cases replayed
      rw [state] at waiting
      cases waiting
    · rename_i q found
      exact restful.waits q.1 {u with oooPacketQueue := u.oooPacketQueue.drop u.rcvSeq.nxt} t q.2 state replayed waiting

theorem ackIfData_answered (ready : p.tcpData = [] → s.Answered) : (s.ackIfData e p).Answered := by
  unfold ackIfData
  split
  · rename_i empty
    exact ready (List.isEmpty_iff.mp empty)
  · exact transmitPacket_answered

theorem challengeAckAbove_tidy : Tidy s (s.challengeAckAbove e p) := by
  unfold challengeAckAbove
  split
  · exact emitChallengeAck_tidy
  · exact .refl s

theorem enterFinWait2_answered (answered : s.Answered) (cause : Seq32) : (s.enterFinWait2 e cause).Answered := by
  have moved : (s.changeState e .finWait2 (some cause)).Answered := answered.moved .finWait2 (some cause)
  unfold enterFinWait2
  dsimp only
  generalize s.changeState e .finWait2 (some cause) = t at moved ⊢
  split
  · exact moved
  · exact moved

theorem finWait1Ack_answers (restful : Restful replay) (only : p.OnlyAck) (here : s.state = .finWait1)
    (answered : s.Answered) (done : s.finWait1Ack replay e p = .ok t) : t.Answered := by
  unfold finWait1Ack at done
  split at done
  · rename_i place
    obtain ⟨u,taken,last⟩ := ok_of_bind done
    cases last
    have acked : (u.ackIfData e p).Answered := ackIfData_answered fun empty =>
      processAckPacket_answers restful empty only place.1 (.inl here) answered taken
    generalize u.ackIfData e p = w at acked ⊢
    split
    · exact enterFinWait2_answered acked _
    · exact acked
  · cases done
    exact challengeAckAbove_tidy.answered answered

theorem finWait2Ack_answers (restful : Restful replay) (only : p.OnlyAck) (here : s.state = .finWait2)
    (answered : s.Answered) (done : s.finWait2Ack replay e p = .ok t) : t.Answered := by
  unfold finWait2Ack at done
  split at done
  · rename_i place
    obtain ⟨u,taken,last⟩ := ok_of_bind done
    cases last
    exact ackIfData_answered fun empty =>
      processAckPacket_answers restful empty only place.1 (.inr here) answered taken
  · cases done
    exact challengeAckAbove_tidy.answered answered

theorem enterTimeWait_waits (cause : Seq32) : (s.enterTimeWait e cause).state = .timeWait ∧
    (s.enterTimeWait e cause).waitDeadline.isSome = true ∧ (s.enterTimeWait e cause).sndSeq = s.sndSeq := by
  refine ⟨enterTimeWait_state cause,?_,?_⟩
  · unfold enterTimeWait waitDeadline
    show ((TcpTimerService.arm _ _ _ .timeWait _).deadline .timeWait).isSome = true
    rw [deadline_arm_self]
    rfl
  · obtain ⟨_,_,_,_,_,shape⟩ := changeState_shape (e := e) (s := s) .timeWait (some cause)
    unfold enterTimeWait
    rw [shape]
    rfl

theorem closingAck_cases (restful : Restful replay) (here : s.state = .closing)
    (done : s.closingAck replay e p = .ok t) :
    Tidy s t ∨ t.state = .timeWait ∧ t.waitDeadline.isSome = true ∧ ge32 t.sndSeq.una t.sndSeq.fin = true ∨
      t.state ≠ .timeWait ∧ ge32 t.sndSeq.una t.sndSeq.fin = false := by
  unfold closingAck at done
  split at done
  · obtain ⟨u,taken,last⟩ := ok_of_bind done
    cases last
    split
    · rename_i passed
      obtain ⟨state,armed,snd⟩ := enterTimeWait_waits (e := e) (s := u) p.tcpAck
      rw [snd]
      exact .inr (.inl ⟨state,armed,passed⟩)
    · rename_i short
      refine .inr (.inr ⟨?_,by simpa using short⟩)
      intro waiting
      exact short (processAckPacket_waits restful here taken waiting)
  · cases done
    exact .inl challengeAckAbove_tidy

theorem gate_shut (gate : s.segmentAcceptable p = false) : (s.checkSegmentAcceptability e p).1 = false := by
  unfold checkSegmentAcceptability
  rw [if_neg (by simp [gate])]
  split
  · rfl
  · rfl

theorem gated_cases (body : TcpSession → Outcome)
    (done : (if p.tcpFlagSyn then .ok (s.emitChallengeAck e)
      else
        let (acceptable,s) := s.checkSegmentAcceptability e p
        if !acceptable then .ok s else body s) = Except.ok t) : Tidy s t ∨ body s = .ok t := by
  split at done
  · cases done
    exact .inl emitChallengeAck_tidy
  · cases gate : s.segmentAcceptable p with
    | true =>
      rw [gate_passed gate] at done
      exact .inr done
    | false =>
      have refused := gate_shut (e := e) gate
      have tidy := @checkSegmentAcceptability_tidy e s p
      generalize s.checkSegmentAcceptability e p = verdict at done refused tidy
      obtain ⟨acceptable,u⟩ := verdict
      dsimp only at done refused tidy
      rw [refused] at done
      cases done
      exact .inl tidy

theorem ecnPrologue_tidy : Tidy s (s.ecnPrologue p) := by
  obtain ⟨_,_,shape⟩ := ecnPrologue_shape (s := s) p
  rw [shape]
  exact ⟨rfl,rfl,.inl ⟨rfl,rfl⟩⟩

theorem pumpTail_tidy (entry : FsmState) (external : Bool) : Tidy s (s.pumpTail e entry external) := by
  have waits : (s.pumpTail e entry external).waitDeadline = s.waitDeadline :=
    pumpTail_deadline entry external .timeWait (by decide)
  obtain ⟨_,shape⟩ := pumpTail_shape (e := e) (s := s) entry external
  refine ⟨?_,waits,.inl ⟨?_,?_⟩⟩ <;> rw [shape]

theorem pumpTail_sndSeq (entry : FsmState) (external : Bool) : (s.pumpTail e entry external).sndSeq = s.sndSeq := by
  obtain ⟨_,shape⟩ := pumpTail_shape (e := e) (s := s) entry external
  rw [shape]

theorem dispatch_answers (restful : Restful replay) (only : p.OnlyAck) (late : s.state = .finWait1 ∨ s.state = .finWait2)
    (answered : s.Answered) (done : s.dispatchPacket replay e p = .ok t) : t.Answered := by
  unfold dispatchPacket at done
  rcases late with here | here
  · rw [here] at done
    rcases gated_cases (fun s => if p.OnlyAck then s.finWait1Ack replay e p
      else if p.FinAck then s.finWait1Fin replay e p else .ok (s.takeReset (some .reset) e p)) done with tidy | dealt
    · exact tidy.answered answered
    · rw [if_pos only] at dealt
      exact finWait1Ack_answers restful only here answered dealt
  · rw [here] at done
    rcases gated_cases (fun s => if p.OnlyAck then s.finWait2Ack replay e p
      else if p.FinAck then s.finWait2Fin replay e p else .ok (s.takeReset (some .reset) e p)) done with tidy | dealt
    · exact tidy.answered answered
    · rw [if_pos only] at dealt
      exact finWait2Ack_answers restful only here answered dealt

theorem dispatch_waits (restful : Restful replay) (only : p.OnlyAck) (here : s.state = .closing)
    (done : s.dispatchPacket replay e p = .ok t) (waiting : t.state = .timeWait) :
    ge32 t.sndSeq.una t.sndSeq.fin = true := by
  unfold dispatchPacket at done
  rw [here] at done
  have stays : ¬Tidy s t := by
    intro tidy
    rw [tidy.state,here] at waiting
    cases waiting
  rcases gated_cases (fun s => if p.OnlyAck then s.closingAck replay e p
    else .ok (s.takeReset (some .reset) e p)) done with tidy | dealt
  · exact absurd tidy stays
  · rw [if_pos only] at dealt
    rcases closingAck_cases restful here dealt with tidy | ⟨_,_,passed⟩ | ⟨other,_⟩
    · exact absurd tidy stays
    · exact passed
    · exact absurd waiting other

theorem fsmPacket_restful (n : Nat) : Restful (fsmPacket e n) := by
  induction n with
  | zero =>
    refine ⟨?_,?_⟩
    · intro q u t _ _ answered done
      cases done
      exact answered
    · intro q u t _ here done waiting
      cases done
      rw [here] at waiting
      cases waiting
  | succ n ih =>
    refine ⟨?_,?_⟩
    · intro q u t only late answered done
      unfold fsmPacket at done
      obtain ⟨w,dealt,last⟩ := ok_of_bind done
      cases last
      have marked : Tidy u (u.ecnPrologue q) := ecnPrologue_tidy
      rw [← marked.state] at late
      exact (pumpTail_tidy _ _).answered (dispatch_answers ih only late (marked.answered answered) dealt)
    · intro q u t only here done waiting
      unfold fsmPacket at done
      obtain ⟨w,dealt,last⟩ := ok_of_bind done
      cases last
      have marked : Tidy u (u.ecnPrologue q) := ecnPrologue_tidy
      rw [pumpTail_state] at waiting
      rw [pumpTail_sndSeq]
      exact dispatch_waits ih only (marked.state.trans here) dealt waiting

theorem Prompt.closed (gone : s.state = .closed) : s.Prompt := .busy (.inr (.inr gone))

theorem takeReset_prompt (prompt : s.Prompt) (error : Option ConnError) : (s.takeReset error e p).Prompt := by
  rcases takeReset_tidy (e := e) (s := s) (p := p) error with gone | tidy
  · exact .closed gone
  · exact tidy.prompt prompt

theorem changeState_sndSeq (new : FsmState) (cause : Option Seq32) : (s.changeState e new cause).sndSeq = s.sndSeq := by
  obtain ⟨_,_,_,_,_,shape⟩ := changeState_shape (e := e) (s := s) new cause
  rw [shape]

theorem learnOptions_sndSeq : (((s.learnWscale p).learnSack p).learnTs e p).sndSeq = s.sndSeq := by
  obtain ⟨_,_,_,learnt,_⟩ := learnOptions_shape (e := e) (p := p) (s := s)
  rw [learnt]

theorem acceptSyn_sndSeq : (s.acceptSyn e p).sndSeq = s.sndSeq := by
  unfold acceptSyn
  dsimp only
  generalize begun : ({({s with
    cc := {s.cc with ccMode := e.listenCcMode},tcpNodelay := e.listenNodelay} : TcpSession).learnMss e p with
      win := _} : TcpSession) = t
  have same : t.sndSeq = s.sndSeq := by
    rw [← begun]
    rfl
  have learnt := (@learnOptions_sndSeq e t p).trans same
  generalize ((t.learnWscale p).learnSack p).learnTs e p = u at learnt ⊢
  have marked : ((u.listenEcn p).listenFastopen e p).sndSeq = s.sndSeq := by
    refine .trans ?_ learnt
    show (u.listenEcn p).sndSeq = _
    obtain ⟨_,_,shape⟩ := listenEcn_shape (p := p) (s := u)
    rw [shape]
  generalize (u.listenEcn p).listenFastopen e p = w at marked ⊢
  rw [changeState_sndSeq]
  split
  · exact marked
  · unfold enqueueRxBuffer
    split <;> exact marked

theorem listen_prompt (prompt : s.Prompt) (level : s.sndSeq.nxt = s.sndSeq.ini) : (s.fsmListenPacket e p).Prompt := by
  unfold fsmListenPacket
  split
  · split
    · exact prompt
    · split
      · exact prompt
      · have state : (s.acceptSyn e p).state = .synRcvd := changeState_state _ _
        have unsent : (s.acceptSyn e p).sndSeq.nxt = (s.acceptSyn e p).sndSeq.ini := by
          rw [acceptSyn_sndSeq]
          exact level
        refine ⟨?_,fun _ => .inl unsent,?_,?_,?_⟩ <;> rw [state] <;> simp
  · exact prompt

theorem completeConnect_state : (s.completeConnect e p).state = .established := by
  unfold completeConnect
  dsimp only
  rw [changeState_state]

theorem synSent_prompt (prompt : s.Prompt) (done : s.fsmSynSentPacket replay e p = .ok t) : t.Prompt := by
  unfold fsmSynSentPacket at done
  split at done
  · cases done
    split
    · exact prompt
    · exact Tidy.prompt (s := s) ⟨rfl,rfl,.inl ⟨rfl,rfl⟩⟩ prompt
  · split at done
    · obtain ⟨u,_,last⟩ := ok_of_bind done
      cases last
      exact .busy (.inl completeConnect_state)
    · split at done
      · cases done
        unfold openSimultaneously
        dsimp only
        refine .answered (transmitPacket_answered.moved .synRcvd none) ?_
        rw [changeState_state]
        exact nofun
      · cases done
        unfold synSentRefused
        split
        · exact .closed (changeState_state _ _)
        · exact prompt

theorem synRcvd_prompt (prompt : s.Prompt) (done : s.fsmSynRcvdPacket replay e p = .ok t) : t.Prompt := by
  unfold fsmSynRcvdPacket at done
  split at done
  · cases done
    exact emitChallengeAck_tidy.prompt prompt
  · split at done
    · obtain ⟨u,_,last⟩ := ok_of_bind done
      cases last
      exact .busy (.inl (changeState_state _ _))
    · cases done
      unfold synRcvdReset
      split
      · have checked := @checkRstAcceptability_tidy e s p
        generalize s.checkRstAcceptability e p = verdict at checked ⊢
        obtain ⟨acceptable,u⟩ := verdict
        dsimp only at checked ⊢
        split
        · exact .closed (changeState_state _ _)
        · exact checked.prompt prompt
      · exact prompt

theorem established_prompt (prompt : s.Prompt) (stays : p.OnlyAck → t.state = .established) (done : s.fsmEstablishedPacket replay e p = .ok t) : t.Prompt := by
  rcases gated_cases (fun s =>
    let (passed,s) := s.checkPawsAndUpdateTsRecent e p
    if !passed then .ok s
    else if only : p.OnlyAck then s.establishedAck replay e ⟨p,only⟩
    else if p.FinAck then s.establishedFin replay e p
    else .ok (s.takeReset (some .reset) e p)) done with tidy | dealt
  · exact tidy.prompt prompt
  · have checked := @checkPaws_tidy e s p
    generalize s.checkPawsAndUpdateTsRecent e p = verdict at checked dealt
    obtain ⟨passed,u⟩ := verdict
    dsimp only at checked dealt
    split at dealt
    · cases dealt
      exact checked.prompt prompt
    · split at dealt
      · rename_i only
        exact .busy (.inl (stays only))
      · split at dealt
        · unfold establishedFin at dealt
          split at dealt
          · obtain ⟨w,_,last⟩ := ok_of_bind dealt
            cases last
            exact .busy (.inr (.inl (changeState_state _ _)))
          · cases dealt
            exact checked.prompt prompt
        · cases dealt
          exact takeReset_prompt (checked.prompt prompt) _

theorem closeWait_prompt (prompt : s.Prompt) (stays : p.OnlyAck → t.state = .closeWait)
    (done : s.fsmCloseWaitPacket replay e p = .ok t) : t.Prompt := by
  rcases gated_cases (fun s => if p.OnlyAck then s.closeWaitAck replay e p
    else .ok (s.takeReset (some .reset) e p)) done with tidy | dealt
  · exact tidy.prompt prompt
  · split at dealt
    · rename_i only
      exact .busy (.inr (.inl (stays only)))
    · cases dealt
      exact takeReset_prompt prompt _

theorem enterTimeWait_prompt (answered : s.Answered) (cause : Seq32) : (s.enterTimeWait e cause).Prompt := by
  have moved : (s.enterTimeWait e cause).Answered := by
    show (s.changeState e .timeWait (some cause)).Answered
    exact answered.moved .timeWait (some cause)
  exact .answered moved fun _ => (enterTimeWait_waits cause).2.1

theorem finWait1_prompt (restful : Restful replay) (prompt : s.Prompt) (here : s.state = .finWait1)
    (only : p.OnlyAck → (t.state = .finWait1 ∨ t.state = .finWait2) ∧ t.sndSeq.finSent = s.sndSeq.finSent)
    (law : t.state = .finWait2 → t.sndSeq.finSent = true) (done : s.fsmFinWait1Packet replay e p = .ok t) :
    t.Prompt := by
  rcases gated_cases (fun s => if p.OnlyAck then s.finWait1Ack replay e p
    else if p.FinAck then s.finWait1Fin replay e p else .ok (s.takeReset (some .reset) e p)) done with tidy | dealt
  · exact tidy.prompt prompt
  · split at dealt
    · rename_i plain
      obtain ⟨stays,sent⟩ := only plain
      have unwaiting : t.state ≠ .timeWait := by
        rcases stays with state | state <;> rw [state] <;> decide
      cases out : s.sndSeq.finSent with
      | true =>
        have answered := finWait1Ack_answers restful plain here (prompt.ended (.inl here) out) dealt
        exact .answered answered fun waiting => absurd waiting unwaiting
      | false =>
        rw [out] at sent
        have state : t.state = .finWait1 := by
          rcases stays with state | state
          · exact state
          · rw [law state] at sent
            cases sent
        refine ⟨?_,?_,?_,?_,?_⟩ <;> rw [state]
        · simp
        · simp
        · rw [sent]
          simp
        · simp
        · simp
    · split at dealt
      · unfold finWait1Fin at dealt
        split at dealt
        · obtain ⟨u,_,last⟩ := ok_of_bind dealt
          cases last
          have acked : (u.transmitPacket e {flagAck := true}).Answered := transmitPacket_answered
          generalize u.transmitPacket e {flagAck := true} = w at acked ⊢
          split
          · exact enterTimeWait_prompt acked _
          · refine .answered (acked.moved .closing _) ?_
            rw [changeState_state]
            exact nofun
        · cases dealt
          exact prompt
      · cases dealt
        exact takeReset_prompt prompt _

theorem finWait2_prompt (restful : Restful replay) (prompt : s.Prompt) (here : s.state = .finWait2)
    (stays : p.OnlyAck → t.state = .finWait2) (done : s.fsmFinWait2Packet replay e p = .ok t) : t.Prompt := by
  rcases gated_cases (fun s => if p.OnlyAck then s.finWait2Ack replay e p
    else if p.FinAck then s.finWait2Fin replay e p else .ok (s.takeReset (some .reset) e p)) done with tidy | dealt
  · exact tidy.prompt prompt
  · split at dealt
    · rename_i plain
      refine .answered (finWait2Ack_answers restful plain here (prompt.idle (.inr (.inr here))) dealt) ?_
      rw [stays plain]
      exact nofun
    · split at dealt
      · unfold finWait2Fin at dealt
        split at dealt
        · obtain ⟨u,_,last⟩ := ok_of_bind dealt
          cases last
          have acked : ((u.transmitPacket e {flagAck := true}).changeState e .timeWait (some p.tcpAck)).Answered :=
            transmitPacket_answered.moved .timeWait (some p.tcpAck)
          generalize (u.transmitPacket e {flagAck := true}).changeState e .timeWait (some p.tcpAck) = w at acked ⊢
          refine .answered acked fun _ => ?_
          show ((TcpTimerService.arm _ _ _ .timeWait _).deadline .timeWait).isSome = true
          rw [deadline_arm_self]
          rfl
        · cases dealt
          exact takeReset_prompt prompt _
      · cases dealt
        exact takeReset_prompt prompt _

theorem closing_prompt (restful : Restful replay) (prompt : s.Prompt) (here : s.state = .closing)
    (stays : p.OnlyAck → t.state = .closing ∨ t.state = .timeWait) (done : s.fsmClosingPacket replay e p = .ok t) :
    t.Prompt := by
  rcases gated_cases (fun s => if p.OnlyAck then s.closingAck replay e p
    else .ok (s.takeReset (some .reset) e p)) done with tidy | dealt
  · exact tidy.prompt prompt
  · split at dealt
    · rename_i plain
      rcases closingAck_cases restful here dealt with tidy | ⟨state,armed,_⟩ | ⟨other,short⟩
      · exact tidy.prompt prompt
      · refine ⟨?_,?_,?_,?_,fun _ => armed⟩ <;> rw [state] <;> simp
      · have state : t.state = .closing := (stays plain).resolve_right other
        refine ⟨?_,?_,?_,?_,?_⟩ <;> rw [state]
        · simp
        · simp
        · simp
        · rw [short]
          simp
        · simp
    · cases dealt
      exact takeReset_prompt prompt _

theorem lastAck_prompt (prompt : s.Prompt) : (s.fsmLastAckPacket e p).Prompt := by
  have done : (if p.tcpFlagSyn then .ok (s.emitChallengeAck e)
      else
        let (acceptable,s) := s.checkSegmentAcceptability e p
        if !acceptable then .ok s
        else .ok (if p.OnlyAck then s.lastAckAck e p else s.takeReset none e p) : Outcome) =
      .ok (s.fsmLastAckPacket e p) := by
    unfold fsmLastAckPacket
    split
    · rfl
    · generalize s.checkSegmentAcceptability e p = verdict
      obtain ⟨acceptable,u⟩ := verdict
      cases acceptable <;> rfl
  rcases gated_cases (fun s => .ok (if p.OnlyAck then s.lastAckAck e p else s.takeReset none e p)) done with tidy | dealt
  · exact tidy.prompt prompt
  · have dealt : (if p.OnlyAck then s.lastAckAck e p else s.takeReset none e p) = s.fsmLastAckPacket e p := by
      simpa using dealt
    rw [← dealt]
    split
    · unfold lastAckAck
      split
      · exact .closed (changeState_state _ _)
      · exact challengeAckAbove_tidy.prompt prompt
    · exact takeReset_prompt prompt _

theorem timeWait_prompt (prompt : s.Prompt) : (s.fsmTimeWaitPacket e p).Prompt := by
  have checked := @checkPaws_tidy e s p
  unfold fsmTimeWaitPacket
  generalize s.checkPawsAndUpdateTsRecent e p = verdict at checked ⊢
  obtain ⟨passed,u⟩ := verdict
  dsimp only at checked ⊢
  split
  · exact checked.prompt prompt
  · split
    · have reopened : ((u.reinitForRfc6191Reuse e p).changeState e .synRcvd none).state = .synRcvd := changeState_state _ _
      generalize (u.reinitForRfc6191Reuse e p).changeState e .synRcvd none = w at reopened ⊢
      refine .answered transmitPacket_answered ?_
      rw [transmitPacket_state,reopened]
      exact nofun
    · split
      · have acked : (u.transmitPacket e {flagAck := true}).Answered := transmitPacket_answered
        generalize u.transmitPacket e {flagAck := true} = w at acked ⊢
        refine .answered acked fun _ => ?_
        show ((TcpTimerService.arm _ _ _ .timeWait _).deadline .timeWait).isSome = true
        rw [deadline_arm_self]
        rfl
      · split
        · exact (checked.trans emitChallengeAck_tidy).prompt prompt
        · exact checked.prompt prompt

theorem nxt_at_una (core : Core (s.senderAt none)) (level : s.sndSeq.una = s.sndSeq.max) :
    s.sndSeq.nxt = s.sndSeq.una := by
  have inside : arc s.sndSeq.una s.sndSeq.nxt ≤ arc s.sndSeq.una s.sndSeq.max := core.nxt
  rw [← level,arc_self] at inside
  exact (arc_eq_zero.mp (Nat.le_zero.mp inside)).symm

theorem handshake_at_ini (inv : Inv (s.senderAt none)) (early : handshaking s.state = true) :
    s.sndSeq.una = s.sndSeq.ini := (inv.handshake early).1

theorem listening_level (inv : Inv (s.senderAt none)) (here : s.state = .listen) : s.sndSeq.una = s.sndSeq.max :=
  (handshake_at_ini inv (by rw [here]; rfl)).trans (inv.listening here).symm

theorem Follows.still {old new : FsmState} (follows : Follows old new) (first : old ≠ .finWait1) (second : old ≠ .closing) :
    new = old := by
  rcases follows with same | ⟨other,_⟩ | ⟨other,_⟩
  · exact same
  · exact absurd other first
  · exact absurd other second

theorem dispatch_prompt {allowed : Slip → Prop} (restful : Restful replay) (prompt : s.Prompt)
    (inv : Inv (s.senderAt none)) (handled : Handled allowed p s (s.dispatchPacket replay e p))
    (law : t.state = .finWait2 → t.sndSeq.finSent = true) (done : s.dispatchPacket replay e p = .ok t) : t.Prompt := by
  obtain ⟨s',result,_,within⟩ := handled
  rw [done] at result
  cases result
  unfold dispatchPacket at done
  cases here : s.state with
  | closed =>
    rw [here] at done
    cases done
    exact prompt
  | listen =>
    rw [here] at done
    cases done
    have level := listening_level inv here
    exact listen_prompt prompt ((nxt_at_una inv.toCore level).trans (handshake_at_ini inv (by rw [here]; rfl)))
  | synSent =>
    rw [here] at done
    exact synSent_prompt prompt done
  | synRcvd =>
    rw [here] at done
    exact synRcvd_prompt prompt done
  | established =>
    rw [here] at done
    refine established_prompt prompt ?_ done
    intro only
    have after := (within only (by rw [here]; rfl) (by rw [here]; decide)).state
    rw [here] at after
    exact after.still (by decide) (by decide)
  | closeWait =>
    rw [here] at done
    refine closeWait_prompt prompt ?_ done
    intro only
    have after := (within only (by rw [here]; rfl) (by rw [here]; decide)).state
    rw [here] at after
    exact after.still (by decide) (by decide)
  | finWait1 =>
    rw [here] at done
    refine finWait1_prompt restful prompt here ?_ law done
    intro only
    have after := within only (by rw [here]; rfl) (by rw [here]; decide)
    refine ⟨?_,(after.edges (by rw [here]; rfl)).2.2.1⟩
    rcases after.state with same | ⟨_,state⟩ | ⟨other,_⟩
    · exact .inl (same.trans here)
    · exact .inr state
    · rw [here] at other
      cases other
  | finWait2 =>
    rw [here] at done
    refine finWait2_prompt restful prompt here ?_ done
    intro only
    have after := (within only (by rw [here]; rfl) (by rw [here]; decide)).state
    rw [here] at after
    exact after.still (by decide) (by decide)
  | closing =>
    rw [here] at done
    refine closing_prompt restful prompt here ?_ done
    intro only
    have after := within only (by rw [here]; rfl) (by rw [here]; decide)
    rcases after.state with same | ⟨other,_⟩ | ⟨_,state⟩
    · exact .inl (same.trans here)
    · rw [here] at other
      cases other
    · exact .inr state
  | lastAck =>
    rw [here] at done
    cases done
    exact lastAck_prompt prompt
  | timeWait =>
    rw [here] at done
    cases done
    exact timeWait_prompt prompt

theorem tcpFsmPacket_prompt {allowed : Slip → Prop} (prompt : s.Prompt) (inv : Inv (s.senderAt none)) (tame : s.Tame p)
    (permits : (s.ecnPrologue p).Permits allowed e p) (done : s.tcpFsmPacket e p = .ok t)
    (law : t.state = .finWait2 → t.sndSeq.finSent = true) : t.Prompt ∧ ∃ u : TcpSession, t = u.pumpTail e s.state true := by
  have before := @ecnPrologue_path _ allowed p inv
  unfold tcpFsmPacket fsmPacket at done
  obtain ⟨u,dealt,last⟩ := ok_of_bind done
  cases last
  have handled := dispatch_handled (fsmPacket_handled (e := e) s.oooPacketQueue.length) (path_inv before inv)
    tame.prologue permits
  rw [pumpTail_state,pumpTail_sndSeq] at law
  have kept := dispatch_prompt (fsmPacket_restful s.oooPacketQueue.length) (ecnPrologue_tidy.prompt prompt)
    (path_inv before inv) handled law dealt
  exact ⟨(pumpTail_tidy _ _).prompt kept,u,rfl⟩

end TcpSession

end PmdPytcp.Tcp
