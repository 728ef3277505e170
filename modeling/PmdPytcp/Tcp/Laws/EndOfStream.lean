import PmdPytcp.Tcp.Receive.Run
import PmdPytcp.Tcp.Refine.Run

namespace PmdPytcp.Tcp
open Arc

namespace TcpSession

variable {e : Env} {s s' : TcpSession} {p : TcpMetadata} {m : Emit}

def desk (s : TcpSession) : List UInt8 × Bool × FsmState := (s.rxBuffer,s.eventRxBuffer,s.state)

theorem transmitPacket_desk : (s.transmitPacket e m).desk = s.desk := by
  obtain ⟨_,_,_,_,_,_,_,_,_,_,_,_,_,shape,_⟩ := transmitPacket_shape (e := e) (s := s) m
  rw [shape]
  rfl

theorem pumps_desk : Pumps e fun s t => t.desk = s.desk :=
  .same (fun _ _ => transmitPacket_desk) (fun _ _ => rfl) (fun _ => rfl) (fun _ _ => rfl) (fun _ _ _ => rfl)

theorem transmitData_desk : (s.transmitData e).desk = s.desk := pumps_desk.transmitData

theorem keepaliveArmIdle_desk : (s.keepaliveArmIdle e).desk = s.desk := by
  obtain ⟨_,_,shape⟩ := keepaliveArmIdle_shape (e := e) (s := s)
  rw [shape]
  rfl

theorem armTimer_desk (name : TimerName) (delayMs : Nat) : (s.armTimer e name delayMs).desk = s.desk := rfl

theorem pumpTail_desk (entry : FsmState) (external : Bool) : (s.pumpTail e entry external).desk = s.desk := by
  obtain ⟨_,shape⟩ := pumpTail_shape (e := e) (s := s) entry external
  rw [shape]
  rfl

theorem ecnPrologue_desk : (s.ecnPrologue p).desk = s.desk := by
  obtain ⟨_,_,shape⟩ := ecnPrologue_shape (s := s) p
  rw [shape]
  rfl

theorem emitChallengeAck_desk : (s.emitChallengeAck e).desk = s.desk := pumps_desk.emitChallengeAck fun _ _ => rfl

theorem checkSegmentAcceptability_desk : (s.checkSegmentAcceptability e p).2.desk = s.desk := by
  unfold checkSegmentAcceptability
  split
  · rfl
  · split
    · rfl
    · rw [emitChallengeAck_desk]
      unfold noteFullDuplicate
      split <;> rfl

theorem checkPaws_desk : (s.checkPawsAndUpdateTsRecent e p).2.desk = s.desk := by
  rcases checkPaws_shape (e := e) (s := s) p with ⟨_,ts,shape,_⟩ | ⟨_,same | challenged⟩
  · rw [shape]
    rfl
  · rw [same]
  · rw [challenged]
    exact emitChallengeAck_desk

theorem checkRstAcceptability_desk : (s.checkRstAcceptability e p).2.desk = s.desk := by
  unfold checkRstAcceptability
  split
  · rfl
  · split
    · exact emitChallengeAck_desk
    · rfl

theorem delayedAck_desk : (s.delayedAck e).desk = s.desk := pumps_desk.delayedAck fun _ => rfl

theorem rackProcessAck_desk : (s.rackProcessAck e p).desk = s.desk := by
  obtain ⟨_,_,shape⟩ := rackProcessAck_shape (e := e) (s := s) p
  rw [shape]
  rfl

theorem ingestSackInfo_desk : (s.ingestSackInfo p).desk = s.desk := by
  obtain ⟨_,_,_,_,shape⟩ := ingestSackInfo_frame (s := s) (p := p)
  rw [shape]
  rfl

theorem updateSendWindow_desk : (s.updateSendWindow e p).desk = s.desk := by
  unfold updateSendWindow
  dsimp only
  rw [ingestSackInfo_desk]
  split <;> rfl

theorem limitedTransmit_desk (count : Nat) : (s.limitedTransmit e count).desk = s.desk := by
  unfold limitedTransmit
  split
  · dsimp only
    generalize shape : ({s with cc := {s.cc with sndEwn := _}} : TcpSession) = t
    have same : t.desk = s.desk := by
      rw [← shape]
      rfl
    have pumped := (@transmitData_desk e t).trans same
    generalize t.transmitData e = u at pumped ⊢
    exact pumped
  · rfl

theorem ssthreshForFastRetransmit_desk : (Outcome.session (s.ssthreshForFastRetransmit e)).desk = s.desk := by
  unfold ssthreshForFastRetransmit
  split
  · dsimp only
    rcases requirePositive_cases (s := {s with cc := s.cc.saveFrCubicSnapshot}) s.cc.saveFrCubicSnapshot.cwnd with
      failed | ⟨y,fine⟩
    · rw [failed]
      rfl
    · rw [fine]
      rfl
  · rfl

theorem retransmitPacketRequest_desk : (Outcome.session (s.retransmitPacketRequest e p)).desk = s.desk := by
  unfold retransmitPacketRequest
  dsimp only
  have ingested : ((s.ingestSackInfo p).rackProcessAck e p).desk = s.desk := by
    rw [rackProcessAck_desk,ingestSackInfo_desk]
  generalize (s.ingestSackInfo p).rackProcessAck e p = t at ingested ⊢
  split
  · exact ingested
  · split
    · exact ingested
    · have counted : ({t with tx := t.tx.countRequest p.tcpAck} : TcpSession).desk = s.desk := ingested
      have pumped := (@limitedTransmit_desk e {t with tx := t.tx.countRequest p.tcpAck}
        ((t.tx.countRequest p.tcpAck).requests p.tcpAck)).trans counted
      generalize limitedTransmit e ((t.tx.countRequest p.tcpAck).requests p.tcpAck) _ = v at pumped ⊢
      split
      · have lowered := @ssthreshForFastRetransmit_desk e v
        cases done : v.ssthreshForFastRetransmit e with
        | error failure =>
          rw [done] at lowered
          exact lowered.trans pumped
        | ok w =>
          rw [done] at lowered
          exact lowered.trans pumped
      · exact pumped

theorem phase1CumAckSideEffects_desk : (Outcome.session (s.phase1CumAckSideEffects e p)).desk = s.desk := by
  obtain ⟨_,_,_,_,_,_,_,shape⟩ := phase1CumAckSideEffects_frame (e := e) (s := s) (p := p)
  rw [shape]
  rfl

theorem afterAck_desk (empty : p.tcpData = []) : (s.afterAck e p).desk = s.desk := by
  unfold afterAck settleAck
  have caught : ((((s.phase3HarvestRttSamples e p).pruneSackScoreboard).ingestSackInfo
      p).phase4LossDetectionAndRecoveryExit e p).catchUpNxt.desk = s.desk := by
    obtain ⟨_,_,_,_,_,_,_,_,shape⟩ := acknowledged_frame (e := e) (s := s) (p := p)
    rw [shape]
    rfl
  generalize ((((s.phase3HarvestRttSamples e p).pruneSackScoreboard).ingestSackInfo
    p).phase4LossDetectionAndRecoveryExit e p).catchUpNxt = u at caught ⊢
  have consumed : (u.consumePayload e p).desk = s.desk := by
    have whole : u.consumePayload e p = (u.noteOverlap p).advanceRcvNxt p := by
      unfold consumePayload
      rw [empty]
      rfl
    rw [whole]
    refine .trans ?_ caught
    unfold advanceRcvNxt noteOverlap
    split <;> split <;> rfl
  obtain ⟨_,_,_,_,settled,_⟩ := takeWindowAndPurge_shape (e := e) (s := (u.consumePayload e p).drainTx) p
  rw [settled]
  exact consumed

-- The reader has been told once: the buffer is empty, the event stays set, and
-- the peer's FIN is in.
structure AtEnd (s : TcpSession) : Prop where
  empty : s.rxBuffer = []
  ready : s.eventRxBuffer = true
  ended : streamEnded s.state = true ∨ s.state = .lastAck

theorem AtEnd.same (atEnd : s.AtEnd) (same : s'.desk = s.desk) : s'.AtEnd := by
  have state : s'.state = s.state := congrArg (fun d => d.2.2) same
  refine ⟨(congrArg (fun d => d.1) same).trans atEnd.empty,(congrArg (fun d => d.2.1) same).trans atEnd.ready,?_⟩
  rw [state]
  exact atEnd.ended

theorem changeState_desk (new : FsmState) (cause : Option Seq32) :
    (s.changeState e new cause).desk = ((wakeReader new s).rxBuffer,(wakeReader new s).eventRxBuffer,new) := by
  have left : ∀ t : TcpSession, (leaveEstablished s.state new t).desk = t.desk := by
    intro t
    unfold leaveEstablished
    split <;> rfl
  have cleared : ∀ t : TcpSession, (leaveSynRcvd s.state new t).desk = t.desk := by
    intro t
    unfold leaveSynRcvd
    split <;> rfl
  have settled : ∀ t : TcpSession, (settleTimers new t).desk = t.desk := by
    intro t
    unfold settleTimers
    split <;> rfl
  have woken : ∀ t : TcpSession, t.desk = (s.rxBuffer,s.eventRxBuffer,new) →
      (wakeReader new t).desk = ((wakeReader new s).rxBuffer,(wakeReader new s).eventRxBuffer,new) := by
    intro t same
    unfold wakeReader
    split
    · exact congrArg (fun d => (d.1,true,d.2.2)) same
    · exact same
  unfold changeState
  dsimp only
  have whole : (settleTimers new (wakeReader new (leaveSynRcvd s.state new (leaveEstablished s.state new
      {s with state := new,log := s.log ++ [.moved s.state new cause]})))).desk =
        ((wakeReader new s).rxBuffer,(wakeReader new s).eventRxBuffer,new) := by
    rw [settled]
    refine woken _ ?_
    rw [cleared,left]
    rfl
  split
  · exact keepaliveArmIdle_desk.trans whole
  · exact whole

theorem AtEnd.moved (atEnd : s.AtEnd) (new : FsmState) (cause : Option Seq32)
    (ended : streamEnded new = true ∨ new = .lastAck) : (s.changeState e new cause).AtEnd := by
  have desk := @changeState_desk e s new cause
  have state : (s.changeState e new cause).state = new := congrArg (fun d => d.2.2) desk
  refine ⟨(congrArg (fun d => d.1) desk).trans ?_,(congrArg (fun d => d.2.1) desk).trans ?_,?_⟩
  · unfold wakeReader
    split <;> exact atEnd.empty
  · unfold wakeReader
    split
    · rfl
    · exact atEnd.ready
  · rw [state]
    exact ended

theorem AtEnd.closed (atEnd : s.AtEnd) (cause : Option Seq32) : (s.changeState e .closed cause).AtEnd :=
  atEnd.moved .closed cause (.inl rfl)

theorem retransmitPacketTimeout_atEnd (atEnd : s.AtEnd) : (s.retransmitPacketTimeout e).AtEnd := by
  unfold retransmitPacketTimeout
  split
  · exact atEnd
  · split
    · exact atEnd
    · split
      · unfold abortForTimeout
        dsimp only
        have reset : (if s.peerContacted then
            s.transmitPacket e {flagRst := true,flagAck := true,seq := some s.sndSeq.una} else s).AtEnd := by
          split
          · exact atEnd.same transmitPacket_desk
          · exact atEnd
        generalize (if s.peerContacted then
          s.transmitPacket e {flagRst := true,flagAck := true,seq := some s.sndSeq.una} else s) = t at reset ⊢
        refine AtEnd.closed ?_ none
        unfold reportTimeout
        split <;> exact ⟨reset.empty,by first | rfl | exact reset.ready,reset.ended⟩
      · dsimp only
        refine atEnd.same ?_
        have counted : (s.backOffForTimeout e).shrinkMssToEngine.countSynRetransmit.desk = s.desk := by
          unfold countSynRetransmit shrinkMssToEngine
          split <;> split <;> rfl
        generalize (s.backOffForTimeout e).shrinkMssToEngine.countSynRetransmit = t at counted ⊢
        refine .trans ?_ counted
        unfold walkBackSeqMod
        have collapsed : ((t.armTimer e .retransmit t.rtoState.rtoMs).enterFrto.ssthreshForTimeout e).collapseWindow.desk =
            t.desk := by
          unfold collapseWindow ssthreshForTimeout enterFrto
          split <;> split <;> rfl
        split
        · exact collapsed
        · exact collapsed

theorem retransmitAndPump_atEnd (atEnd : s.AtEnd) : (s.retransmitAndPump e).AtEnd :=
  (retransmitPacketTimeout_atEnd atEnd).same transmitData_desk

theorem expireTo_atEnd (atEnd : s.AtEnd) (name : TimerName) : (s.expireTo e name).AtEnd := by
  unfold expireTo
  split
  · exact atEnd.closed none
  · exact atEnd

theorem dispatchTimer_atEnd (atEnd : s.AtEnd) : (s.dispatchTimer e).AtEnd := by
  have ended := atEnd.ended
  unfold dispatchTimer
  cases state : s.state with
  | closed => exact atEnd
  | closing => exact retransmitAndPump_atEnd atEnd
  | lastAck => exact retransmitAndPump_atEnd atEnd
  | timeWait => exact expireTo_atEnd atEnd _
  | closeWait =>
    have pumped : ((s.retransmitAndPump e).delayedAck e).AtEnd :=
      (retransmitAndPump_atEnd atEnd).same delayedAck_desk
    show (finishClose e .lastAck ((s.retransmitAndPump e).delayedAck e)).AtEnd
    unfold finishClose
    split
    · exact pumped.moved .lastAck none (.inr rfl)
    · exact pumped
  | listen | synSent | synRcvd | established | finWait1 | finWait2 =>
    rw [state] at ended
    simp [streamEnded] at ended

theorem closeCall_atEnd (atEnd : s.AtEnd) : (s.closeCall e).AtEnd := by
  have ended := atEnd.ended
  unfold closeCall
  split
  all_goals rename_i state
  case h_4 | h_5 => exact ⟨atEnd.empty,atEnd.ready,atEnd.ended⟩
  case h_7 | h_8 | h_9 | h_10 | h_11 => exact atEnd
  all_goals
    rw [state] at ended
    simp [streamEnded] at ended

theorem abort_atEnd (atEnd : s.AtEnd) : (s.abort e).AtEnd := by
  have canceled : ∀ t : TcpSession, t.AtEnd → (({t with
      connectionError := .canceled,eventRxBuffer := true
      eventConnect := t.eventConnect + 1} : TcpSession).changeState e .closed none).AtEnd := by
    intro t atEnd
    exact AtEnd.closed (s := {t with
      connectionError := .canceled,eventRxBuffer := true,eventConnect := t.eventConnect + 1})
      ⟨atEnd.empty,rfl,atEnd.ended⟩ none
  have sent : (s.transmitPacket e {flagRst := true,flagAck := true,seq := some s.sndSeq.nxt}).AtEnd :=
    atEnd.same transmitPacket_desk
  unfold abort
  dsimp only
  split
  · exact canceled _ sent
  · exact canceled _ sent
  · exact canceled _ sent
  · exact canceled _ sent
  · exact canceled _ sent
  · exact canceled s atEnd

theorem applyPmtuUpdate_desk (mtu : Nat) (version : Plpmtud.IpVersion) :
    (s.applyPmtuUpdate e mtu version).desk = s.desk := by
  unfold applyPmtuUpdate
  dsimp only
  split <;> split <;> rfl

theorem dispatchIcmp_atEnd (atEnd : s.AtEnd) (m : IcmpMetadata) : (s.dispatchIcmp e m).AtEnd := by
  have synchronized : (s.synchronizedIcmp e m).AtEnd := by
    unfold synchronizedIcmp
    split
    · exact atEnd.same (applyPmtuUpdate_desk _ _)
    · exact atEnd
  have ended := atEnd.ended
  unfold dispatchIcmp
  cases state : s.state with
  | closed => exact atEnd
  | closing | lastAck | timeWait | closeWait => exact synchronized
  | listen | synSent | synRcvd | established | finWait1 | finWait2 =>
    rw [state] at ended
    simp [streamEnded] at ended

-- Payload placed after the peer's FIN, on arrival or stored before it: CLOSING
-- takes it in, where CLOSE_WAIT does not.
def PastFin (p : TcpMetadata) (s : TcpSession) : Prop :=
  s.state = .closing ∧ (p.tcpSeq = s.rcvSeq.nxt ∧ p.tcpData ≠ [] ∨ s.oooPacketQueue.find s.rcvSeq.nxt ≠ none)

theorem takeReset_atEnd (atEnd : s.AtEnd) (error : Option ConnError) : (s.takeReset error e p).AtEnd := by
  unfold takeReset
  split
  · have checked : (s.checkRstAcceptability e p).2.AtEnd := atEnd.same checkRstAcceptability_desk
    rcases verdict : s.checkRstAcceptability e p with ⟨acceptable,t⟩
    rw [verdict] at checked
    dsimp only at checked ⊢
    split
    · exact AtEnd.closed (s := {t with connectionError := error.getD t.connectionError})
        ⟨checked.empty,checked.ready,checked.ended⟩ none
    · exact checked
  · exact atEnd

theorem challengeAckAbove_atEnd (atEnd : s.AtEnd) : (s.challengeAckAbove e p).AtEnd := by
  unfold challengeAckAbove
  split
  · exact atEnd.same emitChallengeAck_desk
  · exact atEnd

theorem afterAck_stored (empty : p.tcpData = []) (only : p.OnlyAck) (here : p.tcpSeq = s.rcvSeq.nxt)
    (vacant : s.oooPacketQueue.find s.rcvSeq.nxt = none) :
    (s.afterAck e p).oooPacketQueue.find (s.afterAck e p).rcvSeq.nxt = none := by
  have begun := @acknowledged_receiver e s .idle p
  unfold afterAck settleAck
  generalize ((((s.phase3HarvestRttSamples e p).pruneSackScoreboard).ingestSackInfo
    p).phase4LossDetectionAndRecoveryExit e p).catchUpNxt = t at begun ⊢
  have nxt : t.rcvSeq.nxt = s.rcvSeq.nxt := congrArg Receiver.nxt begun
  have queue : t.oooPacketQueue = s.oooPacketQueue := congrArg Receiver.ooo begun
  have consumed : t.consumePayload e p = t := consumePayload_bare empty only (here.trans nxt.symm)
  have settled := @takeWindowAndPurge_receiver e t.drainTx .idle p
  have edge : (t.drainTx.takeWindowAndPurge e p).rcvSeq.nxt = s.rcvSeq.nxt :=
    (congrArg Receiver.nxt settled).trans nxt
  have kept : (t.drainTx.takeWindowAndPurge e p).oooPacketQueue =
      t.oooPacketQueue.filter fun q => !lt32 q.1.tcpSeq t.rcvSeq.nxt := congrArg Receiver.ooo settled
  rw [consumed,edge,kept,queue]
  unfold OooQueue.find at vacant ⊢
  rw [List.find?_eq_none] at vacant ⊢
  intro q member
  exact vacant q (List.mem_filter.mp member).1

-- A replay finds the session in CLOSE_WAIT, the one state here that stores ahead.
def ReplaysAtEnd (replay : Replay) : Prop :=
  ∀ q t, t.AtEnd → t.state = .closeWait → (Outcome.session (replay q t)).AtEnd

variable {replay : Replay}

theorem replayOoo_atEnd (restores : ReplaysAtEnd replay) (atEnd : s.AtEnd)
    (placed : s.state = .closeWait ∨ s.oooPacketQueue.find s.rcvSeq.nxt = none) :
    (Outcome.session (s.replayOoo replay)).AtEnd := by
  unfold replayOoo
  split
  · exact atEnd
  · rename_i q found
    rcases placed with waits | vacant
    · exact restores q.1 {s with oooPacketQueue := s.oooPacketQueue.drop s.rcvSeq.nxt}
        ⟨atEnd.empty,atEnd.ready,atEnd.ended⟩ waits
    · rw [vacant] at found
      cases found

theorem processAckPacket_atEnd (restores : ReplaysAtEnd replay) (atEnd : s.AtEnd) (empty : p.tcpData = [])
    (placed : s.state = .closeWait ∨
      p.OnlyAck ∧ p.tcpSeq = s.rcvSeq.nxt ∧ s.oooPacketQueue.find s.rcvSeq.nxt = none) :
    (s.processAckPacket replay e p).session.AtEnd := by
  rw [processAckPacket_eq]
  split
  · rename_i passed
    have desk : ((s.checkPawsAndUpdateTsRecent e p).2.keepaliveArmIdle e).desk = s.desk :=
      keepaliveArmIdle_desk.trans checkPaws_desk
    have begun : ((s.checkPawsAndUpdateTsRecent e p).2.keepaliveArmIdle e).receiver .idle = s.receiver .idle :=
      keepaliveArmIdle_receiver.trans (checkPaws_receiver passed)
    generalize (s.checkPawsAndUpdateTsRecent e p).2.keepaliveArmIdle e = t at desk begun ⊢
    have first : (Outcome.session (t.phase1CumAckSideEffects e p)).desk = s.desk :=
      phase1CumAckSideEffects_desk.trans desk
    have same : (Outcome.session (t.phase1CumAckSideEffects e p)).receiver .idle = s.receiver .idle :=
      phase1CumAckSideEffects_receiver.trans begun
    cases done : t.phase1CumAckSideEffects e p with
    | error failure =>
      rw [done] at first
      exact atEnd.same first
    | ok s₁ =>
      rw [done] at first same
      have first : s₁.desk = s.desk := first
      have same : s₁.receiver .idle = s.receiver .idle := same
      show (Outcome.session ((s₁.afterAck e p).replayOoo replay)).AtEnd
      have settled : (s₁.afterAck e p).AtEnd := atEnd.same ((afterAck_desk empty).trans first)
      refine replayOoo_atEnd restores settled ?_
      rcases placed with waits | ⟨only,here,vacant⟩
      · exact .inl (afterAck_state.trans ((congrArg (fun d => d.2.2) first).trans waits))
      · have nxt : s₁.rcvSeq.nxt = s.rcvSeq.nxt := congrArg Receiver.nxt same
        have queue : s₁.oooPacketQueue = s.oooPacketQueue := congrArg Receiver.ooo same
        refine .inr (afterAck_stored empty only (here.trans nxt.symm) ?_)
        rw [nxt,queue]
        exact vacant
  · exact atEnd.same checkPaws_desk

theorem closeWaitAck_atEnd (restores : ReplaysAtEnd replay) (atEnd : s.AtEnd) (here : s.state = .closeWait) :
    (s.closeWaitAck replay e p).session.AtEnd := by
  unfold closeWaitAck
  split
  · split
    · exact atEnd.same updateSendWindow_desk
    · exact atEnd.same retransmitPacketRequest_desk
  · split
    · exact atEnd.same transmitPacket_desk
    · split
      · split
        · rename_i empty
          exact processAckPacket_atEnd restores atEnd (List.isEmpty_iff.mp empty) (.inl here)
        · exact atEnd.same transmitPacket_desk
      · exact atEnd

theorem closingAck_atEnd (restores : ReplaysAtEnd replay) (atEnd : s.AtEnd) (here : s.state = .closing)
    (only : p.OnlyAck) (before : ¬s.PastFin p) : (s.closingAck replay e p).session.AtEnd := by
  unfold closingAck
  split
  · rename_i place
    have empty : p.tcpData = [] := by
      by_contra loaded
      exact before ⟨here,.inl ⟨place.1,loaded⟩⟩
    have vacant : s.oooPacketQueue.find s.rcvSeq.nxt = none := by
      by_contra stored
      exact before ⟨here,.inr stored⟩
    have taken := processAckPacket_atEnd (e := e) restores atEnd empty (.inr ⟨only,place.1,vacant⟩)
    cases done : s.processAckPacket replay e p with
    | error failure =>
      rw [done] at taken
      exact taken
    | ok t =>
      rw [done] at taken
      have taken : t.AtEnd := taken
      show (if ge32 t.sndSeq.una t.sndSeq.fin then t.enterTimeWait e p.tcpAck else t).AtEnd
      split
      · have waiting : (t.changeState e .timeWait (some p.tcpAck)).AtEnd := taken.moved .timeWait _ (.inl rfl)
        exact waiting.same (armTimer_desk _ _)
      · exact taken
  · exact challengeAckAbove_atEnd atEnd

theorem gated_atEnd (deal : TcpSession → Outcome) (atEnd : s.AtEnd) (deals : (Outcome.session (deal s)).AtEnd) :
    (Outcome.session (if p.tcpFlagSyn then .ok (s.emitChallengeAck e)
      else
        let (acceptable,s) := s.checkSegmentAcceptability e p
        if !acceptable then .ok s else deal s)).AtEnd := by
  split
  · exact atEnd.same emitChallengeAck_desk
  · have checked : (s.checkSegmentAcceptability e p).2.AtEnd := atEnd.same checkSegmentAcceptability_desk
    have passed : (s.checkSegmentAcceptability e p).1 = true → (s.checkSegmentAcceptability e p).2 = s := by
      unfold checkSegmentAcceptability
      split
      · exact fun _ => rfl
      · split <;> nofun
    generalize s.checkSegmentAcceptability e p = verdict at checked passed ⊢
    obtain ⟨acceptable,t⟩ := verdict
    cases acceptable with
    | false => exact checked
    | true =>
      have same : t = s := passed rfl
      subst same
      exact deals

theorem lastAckDeal_atEnd (atEnd : s.AtEnd) :
    (if p.OnlyAck then s.lastAckAck e p else s.takeReset none e p).AtEnd := by
  split
  · unfold lastAckAck
    split
    · exact atEnd.closed _
    · exact challengeAckAbove_atEnd atEnd
  · exact takeReset_atEnd atEnd _

theorem fsmTimeWaitPacket_atEnd (atEnd : s.AtEnd) :
    (s.fsmTimeWaitPacket e p).AtEnd ∨ (s.fsmTimeWaitPacket e p).state = .synRcvd := by
  unfold fsmTimeWaitPacket
  have checked : (s.checkPawsAndUpdateTsRecent e p).2.AtEnd := atEnd.same checkPaws_desk
  dsimp only
  generalize s.checkPawsAndUpdateTsRecent e p = verdict at checked ⊢
  obtain ⟨passed,t⟩ := verdict
  dsimp only at checked ⊢
  split
  · exact .inl checked
  · split
    · refine .inr ?_
      have sent := @transmitPacket_desk e ((t.reinitForRfc6191Reuse e p).changeState e .synRcvd none)
        {flagSyn := true,flagAck := true}
      exact (congrArg (fun d => d.2.2) sent).trans (congrArg (fun d => d.2.2) (changeState_desk _ _))
    · split
      · have sent := checked.same (@transmitPacket_desk e t {flagAck := true})
        exact .inl (sent.same (armTimer_desk _ _))
      · split
        · exact .inl (checked.same emitChallengeAck_desk)
        · exact .inl checked

theorem dispatchPacket_atEnd (restores : ReplaysAtEnd replay) (atEnd : s.AtEnd) (before : ¬s.PastFin p) :
    (s.dispatchPacket replay e p).session.AtEnd ∨
      s.state = .timeWait ∧ (s.dispatchPacket replay e p).session.state = .synRcvd := by
  have ended := atEnd.ended
  unfold dispatchPacket
  cases state : s.state with
  | closed => exact .inl atEnd
  | closing =>
    refine .inl (gated_atEnd (fun s => if p.OnlyAck then s.closingAck replay e p
      else .ok (s.takeReset (some .reset) e p)) atEnd ?_)
    split
    · rename_i only
      exact closingAck_atEnd restores atEnd state only before
    · exact takeReset_atEnd atEnd _
  | closeWait =>
    refine .inl (gated_atEnd (fun s => if p.OnlyAck then s.closeWaitAck replay e p
      else .ok (s.takeReset (some .reset) e p)) atEnd ?_)
    split
    · exact closeWaitAck_atEnd restores atEnd state
    · exact takeReset_atEnd atEnd _
  | lastAck =>
    have gated := gated_atEnd (p := p) (e := e) (fun s => .ok (if p.OnlyAck then s.lastAckAck e p
      else s.takeReset none e p)) atEnd (lastAckDeal_atEnd atEnd)
    have whole : (Outcome.session (if p.tcpFlagSyn then .ok (s.emitChallengeAck e)
        else
          let (acceptable,s) := s.checkSegmentAcceptability e p
          if !acceptable then .ok s
          else .ok (if p.OnlyAck then s.lastAckAck e p else s.takeReset none e p))) = s.fsmLastAckPacket e p := by
      unfold fsmLastAckPacket
      split
      · rfl
      · rcases s.checkSegmentAcceptability e p with ⟨acceptable,t⟩
        cases acceptable <;> rfl
    rw [whole] at gated
    exact .inl gated
  | timeWait =>
    rcases @fsmTimeWaitPacket_atEnd e s p atEnd with kept | reopened
    · exact .inl kept
    · exact .inr ⟨rfl,reopened⟩
  | listen | synSent | synRcvd | established | finWait1 | finWait2 =>
    rw [state] at ended
    simp [streamEnded] at ended

theorem PastFin.prologue (past : (s.ecnPrologue p).PastFin p) : s.PastFin p := by
  obtain ⟨_,_,shape⟩ := ecnPrologue_shape (s := s) p
  rw [shape] at past
  exact past

theorem fsmPacket_atEnd (n : Nat) (atEnd : s.AtEnd) (before : ¬s.PastFin p) :
    (Outcome.session (fsmPacket e n p s)).AtEnd ∨
      s.state = .timeWait ∧ (Outcome.session (fsmPacket e n p s)).state = .synRcvd := by
  -- the fuel counts the stored segments a call may replay
  induction n generalizing s p with
  | zero => exact .inl atEnd
  | succ n ih =>
    have restores : ReplaysAtEnd (fsmPacket e n) := by
      intro q t atEnd waits
      have before : ¬t.PastFin q := by
        rintro ⟨closing,_⟩
        rw [waits] at closing
        cases closing
      rcases ih atEnd before with kept | ⟨reused,_⟩
      · exact kept
      · rw [waits] at reused
        cases reused
    have marked : (s.ecnPrologue p).AtEnd := atEnd.same ecnPrologue_desk
    have state : (s.ecnPrologue p).state = s.state := congrArg (fun d => d.2.2) ecnPrologue_desk
    have dispatched := dispatchPacket_atEnd (e := e) restores marked (fun past => before past.prologue)
    rw [state] at dispatched
    unfold fsmPacket
    dsimp only
    cases done : (s.ecnPrologue p).dispatchPacket (fsmPacket e n) e p with
    | error failure =>
      rw [done] at dispatched
      exact dispatched
    | ok t =>
      rw [done] at dispatched
      have dispatched : t.AtEnd ∨ s.state = .timeWait ∧ t.state = .synRcvd := dispatched
      show (t.pumpTail e s.state true).AtEnd ∨ s.state = .timeWait ∧ (t.pumpTail e s.state true).state = .synRcvd
      rw [pumpTail_state]
      rcases dispatched with kept | reused
      · exact .inl (kept.same (pumpTail_desk _ _))
      · exact .inr reused

-- The session is not opened again, no payload comes after the peer's FIN, and
-- nobody reads in LAST_ACK, where the event is cleared.
def LeftAlone (input : Env × Event) (s : TcpSession) : Prop :=
  (s.next input).state ≠ .synRcvd ∧
  match input.2 with
  | .packet p => ¬s.PastFin p
  | .receive _ => s.state ≠ .lastAck
  | _ => True

theorem receive_atEnd (atEnd : s.AtEnd) (byteCount : Option Nat) (outside : s.state ≠ .lastAck) :
    s.receive byteCount =
      (if s.connectionError = .reset ∨ s.connectionError = .canceled ∨ s.connectionError = .timeout
        then .failed s.connectionError else .data [],s) := by
  have ended : streamEnded s.state = true := atEnd.ended.resolve_right outside
  unfold receive
  simp only [atEnd.ready,atEnd.empty,ended,List.isEmpty_nil,Bool.not_true,Bool.false_eq_true,if_false,true_and,
    Bool.true_and,if_true]
  split <;> rfl

theorem next_atEnd {input : Env × Event} (atEnd : s.AtEnd) (alone : LeftAlone input s) :
    (s.next input).AtEnd := by
  obtain ⟨e,event⟩ := input
  obtain ⟨kept,quiet⟩ := alone
  have tail : ∀ {t : TcpSession} (external : Bool), t.AtEnd → (t.pumpTail e s.state external).AtEnd :=
    fun external atEnd => atEnd.same (pumpTail_desk _ external)
  cases event with
  | packet p =>
    rcases fsmPacket_atEnd (e := e) (s.oooPacketQueue.length + 1) atEnd quiet with still | ⟨_,reused⟩
    · exact still
    · exact absurd reused kept
  | tick =>
    show (s.fireTimer e).AtEnd
    unfold fireTimer
    split
    · have spent : ({s with timers := {s.timers with serviceHandle := none}} : TcpSession).AtEnd :=
        ⟨atEnd.empty,atEnd.ready,atEnd.ended⟩
      exact tail false (dispatchTimer_atEnd spent)
    · exact atEnd
  | icmp m => exact tail true (dispatchIcmp_atEnd atEnd m)
  | close => exact tail true (closeCall_atEnd atEnd)
  | abort => exact tail true (abort_atEnd atEnd)
  | shutdownRead =>
    show s.shutdownRead.AtEnd
    unfold shutdownRead
    split
    · exact atEnd
    · exact ⟨atEnd.empty,rfl,atEnd.ended⟩
  | shutdownWrite =>
    show (s.shutdownWrite e).AtEnd
    unfold shutdownWrite
    split
    · exact atEnd
    · have marked : ({s with shut := {s.shut with wr := true}} : TcpSession).AtEnd :=
        ⟨atEnd.empty,atEnd.ready,atEnd.ended⟩
      exact (closeCall_atEnd marked).same (pumpTail_desk _ true)
  | send data =>
    show (s.send e data).AtEnd
    unfold send
    split
    · exact atEnd
    · split
      · unfold kickPump
        split <;> exact ⟨atEnd.empty,atEnd.ready,atEnd.ended⟩
      · exact atEnd
  | receive byteCount =>
    show (s.receive byteCount).2.AtEnd
    rw [receive_atEnd atEnd byteCount quiet]
    exact atEnd
  | option o =>
    show (s.setOption o).AtEnd
    cases o <;> exact ⟨atEnd.empty,atEnd.ready,atEnd.ended⟩

theorem eof_atEnd {byteCount : Option Nat} (ended : streamEnded s.state = true) (asked : byteCount ≠ some 0)
    (eof : (s.receive byteCount).1 = .data []) : (s.receive byteCount).2.AtEnd := by
  unfold receive at eof ⊢
  cases ready : s.eventRxBuffer with
  | false =>
    rw [ready] at eof
    cases eof
  | true =>
    rw [ready] at eof
    by_cases empty : s.rxBuffer = []
    · simp only [empty,ended,List.isEmpty_nil,Bool.not_true,Bool.false_eq_true,if_false,true_and,
        Bool.true_and,if_true] at eof ⊢
      split
      · exact ⟨empty,ready,.inl ended⟩
      · exact ⟨empty,ready,.inl ended⟩
    · -- a read of some octets of a filled buffer is not empty
      have filled : s.rxBuffer.isEmpty = false := by simpa using empty
      simp only [filled,Bool.not_true,Bool.false_eq_true,if_false,false_and,Bool.false_and,
        ReceiveResult.data.injEq,List.take_eq_nil_iff] at eof
      rcases eof with none_ | none_
      · cases byteCount with
        | none => exact absurd (List.length_eq_zero_iff.mp none_) empty
        | some n => exact absurd (congrArg some none_) asked
      · exact absurd none_ empty

theorem end_of_stream_sticks {s t : TcpSession} {byteCount : Option Nat} (ended : streamEnded s.state = true)
    (asked : byteCount ≠ some 0) (eof : (s.receive byteCount).1 = .data [])
    (reached : Runs.Reached (fun t => t = (s.receive byteCount).2) TcpSession.next LeftAlone t)
    (outside : t.state ≠ .lastAck) (later : Option Nat) :
    (t.receive later).1 =
      if t.connectionError = .reset ∨ t.connectionError = .canceled ∨ t.connectionError = .timeout
        then .failed t.connectionError else .data [] := by
  have atEnd : t.AtEnd := by
    refine Runs.Reached.invariant AtEnd ?_ (fun s input => next_atEnd) reached
    rintro s rfl
    exact eof_atEnd ended asked eof
  rw [receive_atEnd atEnd later outside]

end TcpSession

open TcpSession

instance (p : TcpMetadata) (s : TcpSession) : Decidable (s.PastFin p) :=
  inferInstanceAs (Decidable (s.state = .closing ∧
    (p.tcpSeq = s.rcvSeq.nxt ∧ p.tcpData ≠ [] ∨ s.oooPacketQueue.find s.rcvSeq.nxt ≠ none)))

instance (input : Env × Event) (s : TcpSession) : Decidable (LeftAlone input s) :=
  haveI : Decidable (match input.2 with
      | .packet p => ¬s.PastFin p
      | .receive _ => s.state ≠ .lastAck
      | _ => True) :=
    match input.2 with
    | .packet _ => inferInstanceAs (Decidable (¬_))
    | .receive _ => inferInstanceAs (Decidable (_ ≠ _))
    | .tick | .icmp _ | .close | .abort | .shutdownRead | .shutdownWrite | .send _ | .option _ =>
      inferInstanceAs (Decidable True)
  inferInstanceAs (Decidable (_ ∧ _))

def earlyFin : TcpMetadata :=
  {tcpFlagAck := true,tcpFlagFin := true,tcpSeq := 501,tcpAck := 1001,tcpWin := 65535}

def halfClosedRun : List (Env × Event) :=
  [({nowMs := 20},.packet (peerSyn false)),
   ({nowMs := 21},.tick),
   ({nowMs := 30},.packet (peerAck 501 1001 [])),
   ({nowMs := 40},.packet earlyFin)]

def halfClosed : TcpSession := listening.run halfClosedRun

theorem halfClosed_waits : halfClosed.state = .closeWait ∧ halfClosed.eventRxBuffer = true ∧ halfClosed.rxBuffer = [] ∧
    halfClosed.connectionError = .none := by
  refine ⟨?_,?_,?_,?_⟩ <;> decide +kernel

theorem halfClosed_eof : halfClosed.receive none = (.data [],halfClosed) := by
  obtain ⟨state,ready,empty,fine⟩ := halfClosed_waits
  have ended : streamEnded halfClosed.state = true := by
    rw [state]
    rfl
  have outside : halfClosed.state ≠ .lastAck := by
    rw [state]
    nofun
  rw [receive_atEnd ⟨empty,ready,.inl ended⟩ none outside,fine]
  rfl

-- The application closes too, and the peer acknowledges.
def bothClosedRun : List (Env × Event) :=
  [({nowMs := 50},.close),({nowMs := 51},.tick),({nowMs := 52},.tick),({nowMs := 53},.tick),
   ({nowMs := 60},.packet (peerAck 502 1002 []))]

theorem end_of_stream_closed :
    (halfClosed.run bothClosedRun).state = .closed ∧ ((halfClosed.run bothClosedRun).receive (some 10)).1 = .data [] := by
  have state : (halfClosed.run bothClosedRun).state = .closed := by decide +kernel
  have fine : (halfClosed.run bothClosedRun).connectionError = .none := by decide +kernel
  refine ⟨state,?_⟩
  have met : Runs.Met TcpSession.next LeftAlone bothClosedRun halfClosed := by decide +kernel
  have reached : Runs.Reached (fun t => t = (halfClosed.receive none).2) TcpSession.next LeftAlone
      (halfClosed.run bothClosedRun) := by
    have begun : Runs.Reached (fun t => t = (halfClosed.receive none).2) TcpSession.next LeftAlone halfClosed :=
      .start halfClosed (by rw [halfClosed_eof])
    exact begun.run bothClosedRun met
  have eof : (halfClosed.receive none).1 = .data [] := by rw [halfClosed_eof]
  have asked : (none : Option Nat) ≠ some 0 := nofun
  have ended : streamEnded halfClosed.state = true := by
    rw [halfClosed_waits.1]
    rfl
  have outside : (halfClosed.run bothClosedRun).state ≠ .lastAck := by
    rw [state]
    nofun
  rw [end_of_stream_sticks ended asked eof reached outside (some 10),fine]
  rfl

-- A reset after the end of the stream is reported as an error.
def resetLate : List (Env × Event) := [({nowMs := 50},.packet {tcpFlagRst := true,tcpSeq := 502,tcpAck := 0,tcpWin := 0})]

theorem end_of_stream_then_error : Opened listening ∧ (halfClosed.receive none).1 = .data [] ∧
    (((halfClosed.receive none).2.run resetLate).receive none).1 = .failed .reset := by
  have ready : (halfClosed.run resetLate).eventRxBuffer = true := by decide +kernel
  have empty : (halfClosed.run resetLate).rxBuffer = [] := by decide +kernel
  have reset : (halfClosed.run resetLate).connectionError = .reset := by decide +kernel
  refine ⟨listening_opened,by rw [halfClosed_eof],?_⟩
  rw [halfClosed_eof]
  unfold receive
  rw [ready,empty,reset]
  rfl

end PmdPytcp.Tcp
