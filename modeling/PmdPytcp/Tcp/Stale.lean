import PmdPytcp.Tcp.Reset

namespace PmdPytcp.Tcp
open Arc

namespace TcpSession

variable {e : Env} {p : TcpMetadata} {s : TcpSession}

-- The segment changes nothing in the session, apart from one ACK that it may cause.
def Ignores (e : Env) (p : TcpMetadata) (s : TcpSession) : Prop :=
  ∃ s', s.tcpFsmPacket e p = .ok s' ∧ (Still s s' ∨ Challenged s s')

-- The handlers that look at a segment before PAWS has judged it, or go on after
-- PAWS has dropped it.
def StaleSlips (e : Env) (p : TcpMetadata) (s : TcpSession) : Prop :=
  p.tcpFlagSyn = false ∧ s.segmentAcceptable p = true ∧
    match s.state with
    | .finWait1 => p.tcpSeq = s.rcvSeq.nxt ∧ s.ackInRange p = true ∧
        (p.FinAck ∨ p.OnlyAck ∧ (ge32 p.tcpAck s.sndSeq.fin = true ∨
          p.tcpData ≠ [] ∧ s.timerArmed e .challengeAck = false))
    | .finWait2 => p.tcpSeq = s.rcvSeq.nxt ∧ s.ackInRange p = true ∧
        (p.FinAck ∨ p.OnlyAck ∧ p.tcpData ≠ [] ∧ s.timerArmed e .challengeAck = false)
    | .closing => p.OnlyAck ∧ p.tcpSeq = s.rcvSeq.nxt ∧ s.ackInRange p = true ∧ ge32 s.sndSeq.una s.sndSeq.fin = true
    | .closeWait => p.OnlyAck ∧ s.isDuplicateAck p = true
    | .lastAck => p.OnlyAck ∧ p.tcpAck = s.sndSeq.nxt ∧ s.ackInRange p = true
    | _ => False

def replyAbove (p : TcpMetadata) (s : TcpSession) : Reply :=
  if gt32 p.tcpAck s.sndSeq.max then .challenge else .silent

-- The answer to an acceptable plain ACK that PAWS has dropped, or that the
-- handler did not show to PAWS.
def staleAckReply (p : TcpMetadata) (s : TcpSession) : Reply :=
  let inPlace := p.tcpSeq = s.rcvSeq.nxt ∧ s.ackInRange p = true
  match s.state with
  | .finWait1 | .finWait2 => if inPlace then if p.tcpData.isEmpty then .challenge else .ack else s.replyAbove p
  | .closing => if inPlace then .challenge else s.replyAbove p
  | .closeWait =>
    if gt32 p.tcpSeq s.rcvSeq.nxt && s.ackInRange p then .ack
    else if inPlace then if p.tcpData.isEmpty then .challenge else .ack
    else .silent
  | .lastAck => s.replyAbove p
  | _ => .challenge

def staleReply (p : TcpMetadata) (s : TcpSession) : Reply :=
  if s.state = .timeWait ∨ p.tcpFlagSyn = true then .challenge
  else if s.segmentAcceptable p = false then .duplicate
  else if p.OnlyAck ∨ s.state = .established then s.staleAckReply p
  else .silent

theorem processAckPacket_stale (replay : TcpMetadata → TcpSession → Outcome) (stale : s.pawsVerdict e p = .dropAnswered) :
    s.processAckPacket replay e p = .ok (s.emitChallengeAck e) := by
  unfold processAckPacket checkPawsAndUpdateTsRecent
  rw [stale]
  rfl

theorem takeReset_plain (error : Option ConnError) (rst : p.tcpFlagRst = false) : s.takeReset error e p = s := by
  unfold takeReset
  rw [if_neg]
  intro reset
  rw [reset.1] at rst
  cases rst

theorem challengeAckAbove_reply : s.challengeAckAbove e p = s.reply e p (s.replyAbove p) := by
  unfold challengeAckAbove replyAbove
  split
  · rfl
  · rfl

-- PAWS answers and the handler answers once more, unless there is nothing to
-- acknowledge or the first answer was held back.
theorem ackIfData_reply (once : p.tcpData = [] ∨ s.timerArmed e .challengeAck = true) :
    (s.emitChallengeAck e).ackIfData e p = s.reply e p (if p.tcpData.isEmpty then .challenge else .ack) := by
  unfold ackIfData
  by_cases empty : p.tcpData.isEmpty = true
  · rw [if_pos empty,if_pos empty]
    rfl
  · have armed := once.resolve_left fun none => empty (by rw [none]; rfl)
    rw [if_neg empty,if_neg empty,challenge_held armed]
    rfl

-- Sending an ACK moves neither SND.UNA nor the place of the FIN.
def ends (s : TcpSession) : Seq32 × Seq32 := (s.sndSeq.una,s.sndSeq.fin)

theorem sendAck_ends : (s.transmitPacket e {flagAck := true}).ends = s.ends := by
  obtain ⟨d,a,k,t,shape,_⟩ := sendAck_shape (e := e) (s := s)
  rw [shape]
  unfold ends SendSeqState.bumpMaxToNxt
  dsimp only
  split
  · rfl
  · rfl

theorem armTimer_ends (name : TimerName) (delayMs : Nat) : (s.armTimer e name delayMs).ends = s.ends := rfl

theorem emitChallengeAck_ends : (s.emitChallengeAck e).ends = s.ends := by
  unfold emitChallengeAck
  split
  · rfl
  · rw [armTimer_ends,sendAck_ends]

theorem ackIfData_ends : (s.ackIfData e p).ends = s.ends := by
  unfold ackIfData
  split
  · rfl
  · exact sendAck_ends

theorem gate_passed (gate : s.segmentAcceptable p = true) : s.checkSegmentAcceptability e p = (true,s) := by
  unfold checkSegmentAcceptability
  rw [if_pos gate]

theorem gated_reply (body : TcpSession → Outcome) (r : Reply) (rst : p.tcpFlagRst = false)
    (inner : p.tcpFlagSyn = false → s.segmentAcceptable p = true → body s = .ok (s.reply e p r)) :
    (if p.tcpFlagSyn then .ok (s.emitChallengeAck e)
      else
        let (acceptable,s) := s.checkSegmentAcceptability e p
        if !acceptable then .ok s else body s : Outcome) =
      .ok (s.reply e p (if p.tcpFlagSyn = true then .challenge else if s.segmentAcceptable p = false then .duplicate
        else r)) := by
  cases syn : p.tcpFlagSyn with
  | true => rfl
  | false =>
    cases gate : s.segmentAcceptable p with
    | true =>
      rw [gate_passed gate]
      exact inner syn gate
    | false =>
      unfold checkSegmentAcceptability
      rw [gate,rst]
      rfl

theorem staleReply_gated (awake : s.state ≠ .timeWait) : s.staleReply p =
    if p.tcpFlagSyn = true then .challenge else if s.segmentAcceptable p = false then .duplicate
      else if p.OnlyAck ∨ s.state = .established then s.staleAckReply p else .silent := by
  unfold staleReply
  simp only [awake,false_or]

section Stale
variable (replay : Replay) (stale : s.pawsVerdict e p = .dropAnswered)
  (rst : p.tcpFlagRst = false) (clean : ¬s.StaleSlips e p)
include stale rst clean

theorem finWait1_stale (here : s.state = .finWait1) :
    s.fsmFinWait1Packet replay e p = .ok (s.reply e p (s.staleReply p)) := by
  unfold StaleSlips at clean
  rw [here] at clean
  rw [staleReply_gated (by simp [here])]
  refine gated_reply (fun s => if p.OnlyAck then s.finWait1Ack replay e p
    else if p.FinAck then s.finWait1Fin replay e p else .ok (s.takeReset (some .reset) e p)) _ rst ?_
  intro syn gate
  unfold staleAckReply
  rw [here]
  by_cases only : p.OnlyAck
  · rw [if_pos only,if_pos (.inl only)]
    unfold finWait1Ack
    by_cases place : p.tcpSeq = s.rcvSeq.nxt ∧ s.ackInRange p = true
    · have notSlip : ¬ge32 p.tcpAck s.sndSeq.fin = true ∧ (p.tcpData = [] ∨ s.timerArmed e .challengeAck = true) := by
        refine ⟨fun covered => clean ⟨syn,gate,place.1,place.2,.inr ⟨only,.inl covered⟩⟩,?_⟩
        by_cases empty : p.tcpData = []
        · exact .inl empty
        · right
          cases armed : s.timerArmed e .challengeAck with
          | true => rfl
          | false => exact absurd ⟨syn,gate,place.1,place.2,.inr ⟨only,.inr ⟨empty,armed⟩⟩⟩ clean
      have kept : ((s.emitChallengeAck e).ackIfData e p).sndSeq.fin = s.sndSeq.fin :=
        congrArg Prod.snd (ackIfData_ends.trans emitChallengeAck_ends)
      rw [if_pos place,processAckPacket_stale replay stale]
      show Except.ok (if ge32 p.tcpAck ((s.emitChallengeAck e).ackIfData e p).sndSeq.fin = true then _ else _) = _
      rw [kept,if_neg notSlip.1,ackIfData_reply notSlip.2]
      dsimp only
      rw [if_pos place]
    · rw [if_neg place,challengeAckAbove_reply]
      dsimp only
      rw [if_neg place]
  · rw [if_neg only,if_neg (show ¬(p.OnlyAck ∨ FsmState.finWait1 = .established) by simp [only])]
    by_cases fin : p.FinAck
    · rw [if_pos fin]
      unfold finWait1Fin
      rw [if_neg]
      · rfl
      · intro place
        exact clean ⟨syn,gate,place.1,place.2,.inl fin⟩
    · rw [if_neg fin,takeReset_plain _ rst]
      rfl

theorem finWait2_stale (here : s.state = .finWait2) :
    s.fsmFinWait2Packet replay e p = .ok (s.reply e p (s.staleReply p)) := by
  unfold StaleSlips at clean
  rw [here] at clean
  rw [staleReply_gated (by simp [here])]
  refine gated_reply (fun s => if p.OnlyAck then s.finWait2Ack replay e p
    else if p.FinAck then s.finWait2Fin replay e p else .ok (s.takeReset (some .reset) e p)) _ rst ?_
  intro syn gate
  unfold staleAckReply
  rw [here]
  by_cases only : p.OnlyAck
  · rw [if_pos only,if_pos (.inl only)]
    unfold finWait2Ack
    by_cases place : p.tcpSeq = s.rcvSeq.nxt ∧ s.ackInRange p = true
    · have once : p.tcpData = [] ∨ s.timerArmed e .challengeAck = true := by
        by_cases empty : p.tcpData = []
        · exact .inl empty
        · right
          cases armed : s.timerArmed e .challengeAck with
          | true => rfl
          | false => exact absurd ⟨syn,gate,place.1,place.2,.inr ⟨only,empty,armed⟩⟩ clean
      rw [if_pos place,processAckPacket_stale replay stale]
      show Except.ok ((s.emitChallengeAck e).ackIfData e p) = _
      rw [ackIfData_reply once]
      dsimp only
      rw [if_pos place]
    · rw [if_neg place,challengeAckAbove_reply]
      dsimp only
      rw [if_neg place]
  · rw [if_neg only,if_neg (show ¬(p.OnlyAck ∨ FsmState.finWait2 = .established) by simp [only])]
    by_cases fin : p.FinAck
    · rw [if_pos fin]
      unfold finWait2Fin
      rw [if_neg,takeReset_plain _ rst]
      · rfl
      · intro place
        exact clean ⟨syn,gate,place.1,place.2,.inl fin⟩
    · rw [if_neg fin,takeReset_plain _ rst]
      rfl

theorem closing_stale (here : s.state = .closing) :
    s.fsmClosingPacket replay e p = .ok (s.reply e p (s.staleReply p)) := by
  unfold StaleSlips at clean
  rw [here] at clean
  rw [staleReply_gated (by simp [here])]
  refine gated_reply (fun s => if p.OnlyAck then s.closingAck replay e p
    else .ok (s.takeReset (some .reset) e p)) _ rst ?_
  intro syn gate
  unfold staleAckReply
  rw [here]
  by_cases only : p.OnlyAck
  · rw [if_pos only,if_pos (.inl only)]
    unfold closingAck
    by_cases place : p.tcpSeq = s.rcvSeq.nxt ∧ s.ackInRange p = true
    · have una : (s.emitChallengeAck e).sndSeq.una = s.sndSeq.una := congrArg Prod.fst emitChallengeAck_ends
      have fin : (s.emitChallengeAck e).sndSeq.fin = s.sndSeq.fin := congrArg Prod.snd emitChallengeAck_ends
      rw [if_pos place,processAckPacket_stale replay stale]
      show Except.ok (if ge32 (s.emitChallengeAck e).sndSeq.una (s.emitChallengeAck e).sndSeq.fin = true then _ else _) = _
      rw [una,fin,if_neg fun covered => clean ⟨syn,gate,only,place.1,place.2,covered⟩]
      dsimp only
      rw [if_pos place]
      rfl
    · rw [if_neg place,challengeAckAbove_reply]
      dsimp only
      rw [if_neg place]
  · rw [if_neg only,if_neg (show ¬(p.OnlyAck ∨ FsmState.closing = .established) by simp [only]),takeReset_plain _ rst]
    rfl

theorem closeWait_stale (here : s.state = .closeWait) :
    s.fsmCloseWaitPacket replay e p = .ok (s.reply e p (s.staleReply p)) := by
  unfold StaleSlips at clean
  rw [here] at clean
  rw [staleReply_gated (by simp [here])]
  refine gated_reply (fun s => if p.OnlyAck then s.closeWaitAck replay e p
    else .ok (s.takeReset (some .reset) e p)) _ rst ?_
  intro syn gate
  unfold staleAckReply
  rw [here]
  by_cases only : p.OnlyAck
  · rw [if_pos only,if_pos (.inl only)]
    unfold closeWaitAck
    rw [if_neg fun dup => clean ⟨syn,gate,only,dup⟩]
    dsimp only
    split
    · rfl
    · split
      · split
        · rw [processAckPacket_stale replay stale]
          rfl
        · rfl
      · rfl
  · rw [if_neg only,if_neg (show ¬(p.OnlyAck ∨ FsmState.closeWait = .established) by simp [only]),takeReset_plain _ rst]
    rfl

omit stale in
theorem lastAck_stale (here : s.state = .lastAck) : s.fsmLastAckPacket e p = s.reply e p (s.staleReply p) := by
  unfold StaleSlips at clean
  rw [here] at clean
  have through := gated_reply (e := e) (s := s)
    (fun s => .ok (if p.OnlyAck then s.lastAckAck e p else s.takeReset none e p)) (if p.OnlyAck ∨ s.state = .established
      then s.staleAckReply p else .silent) rst (by
      intro syn gate
      unfold staleAckReply
      rw [here]
      by_cases only : p.OnlyAck
      · rw [if_pos only,if_pos (.inl only)]
        unfold lastAckAck
        rw [if_neg fun place => clean ⟨syn,gate,only,place⟩,challengeAckAbove_reply]
      · rw [if_neg only,if_neg (show ¬(p.OnlyAck ∨ FsmState.lastAck = .established) by simp [only]),takeReset_plain _ rst]
        rfl)
  rw [← staleReply_gated (by simp [here])] at through
  have same : (.ok (s.fsmLastAckPacket e p) : Outcome) = if p.tcpFlagSyn then .ok (s.emitChallengeAck e)
      else
        let (acceptable,s) := s.checkSegmentAcceptability e p
        if !acceptable then .ok s else .ok (if p.OnlyAck then s.lastAckAck e p else s.takeReset none e p) := by
    unfold fsmLastAckPacket
    cases p.tcpFlagSyn with
    | true => rfl
    | false =>
      rcases s.checkSegmentAcceptability e p with ⟨acceptable,t⟩
      cases acceptable with
      | true => rfl
      | false => rfl
  exact Except.ok.inj (same.trans through)

theorem dispatch_stale (synchronized : resettable s.state = true ∨ s.state = .timeWait) :
    s.dispatchPacket replay e p = .ok (s.reply e p (s.staleReply p)) := by
  have dropped : s.checkPawsAndUpdateTsRecent e p = (false,s.emitChallengeAck e) := by
    unfold checkPawsAndUpdateTsRecent
    rw [stale]
  unfold dispatchPacket
  cases here : s.state with
  | closed | listen | synSent | synRcvd =>
    rw [here] at synchronized
    rcases synchronized with known | known <;> cases known
  | established =>
    rw [staleReply_gated (by simp [here])]
    refine gated_reply (fun s =>
        let (passed,s) := s.checkPawsAndUpdateTsRecent e p
        if !passed then .ok s
        else if only : p.OnlyAck then s.establishedAck replay e ⟨p,only⟩
        else if p.FinAck then s.establishedFin replay e p
        else .ok (s.takeReset (some .reset) e p)) _ rst ?_
    intro syn gate
    unfold staleAckReply
    rw [dropped,if_pos (.inr here),here]
    rfl
  | finWait1 => exact finWait1_stale replay stale rst clean here
  | finWait2 => exact finWait2_stale replay stale rst clean here
  | closing => exact closing_stale replay stale rst clean here
  | closeWait => exact closeWait_stale replay stale rst clean here
  | lastAck =>
    dsimp only
    rw [lastAck_stale rst clean here]
  | timeWait =>
    dsimp only
    unfold fsmTimeWaitPacket staleReply
    rw [dropped,if_pos (.inl here)]
    rfl

end Stale

-- If the call returns, the session went somewhere or answered twice.
def Moves (s : TcpSession) (out : Outcome) : Prop :=
  ∀ s', out = .ok s' → s'.state ≠ s.state ∨ s'.tx ≠ s.tx ∨ s'.win ≠ s.win ∨ s.log.length + 2 ≤ s'.log.length

theorem moves_state {s' : TcpSession} (moved : s'.state ≠ s.state) : Moves s (.ok s') := by
  intro t same
  cases same
  exact .inl moved

theorem gated_moves (body : TcpSession → Outcome) (syn : p.tcpFlagSyn = false)
    (gate : s.segmentAcceptable p = true) (inner : Moves s (body s)) :
    Moves s (if p.tcpFlagSyn then .ok (s.emitChallengeAck e)
      else
        let (acceptable,s) := s.checkSegmentAcceptability e p
        if !acceptable then .ok s else body s) := by
  rw [if_neg (by simp [syn]),gate_passed gate]
  exact inner

theorem moves_ackIfData (loaded : p.tcpData ≠ []) (free : s.timerArmed e .challengeAck = false) :
    Moves s (.ok ((s.emitChallengeAck e).ackIfData e p)) := by
  obtain ⟨_,_,_,_,first,_⟩ := sendAck_shape (e := e) (s := s)
  obtain ⟨_,_,_,_,second,_⟩ := sendAck_shape (e := e) (s := s.emitChallengeAck e)
  have challenged : (s.emitChallengeAck e).log = s.log ++ [Obs.control (s.ackSegment e)] := by
    unfold emitChallengeAck
    rw [if_neg (by simp [free]),first]
    rfl
  intro t same
  cases same
  refine .inr (.inr (.inr ?_))
  unfold ackIfData
  rw [if_neg (by simp [loaded]),second,challenged]
  simp

theorem enterTimeWait_state (cause : Seq32) : (s.enterTimeWait e cause).state = .timeWait := changeState_state _ _

theorem enterFinWait2_state (cause : Seq32) : (s.enterFinWait2 e cause).state = .finWait2 := by
  unfold enterFinWait2
  split
  · exact changeState_state _ _
  · exact changeState_state _ _

def counter (s : TcpSession) : List (Seq32 × Nat) := s.tx.retransmitRequestCounter

theorem transmitPacket_counter (m : Emit) : (s.transmitPacket e m).counter = s.counter := by
  obtain ⟨_,_,_,_,_,_,_,_,_,_,_,_,_,shape,_⟩ := transmitPacket_shape (e := e) (s := s) m
  rw [shape]
  rfl

theorem pumps_counter : Pumps e fun s t => t.counter = s.counter :=
  .same (fun _ => transmitPacket_counter) (fun _ _ => rfl) (fun _ => rfl) (fun _ _ => rfl) (fun _ _ _ => rfl)

theorem transmitData_counter : (s.transmitData e).counter = s.counter := pumps_counter.transmitData

theorem limitedTransmit_counter (count : Nat) : (s.limitedTransmit e count).counter = s.counter := by
  unfold limitedTransmit
  split
  · exact transmitData_counter
  · rfl

theorem ingestSackInfo_counter : (s.ingestSackInfo p).counter = s.counter := by
  have noted : s.ingestDsack.counter = s.counter := by
    unfold ingestDsack
    dsimp only
    split
    · split
      · rfl
      · rfl
    · split
      · rfl
      · rfl
  unfold ingestSackInfo
  split
  · rfl
  · split
    · exact noted
    · rfl

theorem ingestSackInfo_win : (s.ingestSackInfo p).win = s.win := by
  have noted : s.ingestDsack.win = s.win := by
    unfold ingestDsack
    dsimp only
    split
    · split
      · rfl
      · rfl
    · split
      · rfl
      · rfl
  unfold ingestSackInfo
  split
  · rfl
  · split
    · exact noted
    · rfl

theorem ssthreshForFastRetransmit_counter {s' : TcpSession} (done : s.ssthreshForFastRetransmit e = .ok s') :
    s'.counter = s.counter := by
  unfold ssthreshForFastRetransmit at done
  cases mode : s.cc.ccMode with
  | cubic =>
    rw [mode] at done
    dsimp only at done
    unfold requirePositive at done
    split at done
    · cases done
      rfl
    · cases done
  | reno =>
    rw [mode] at done
    cases done
    rfl

theorem answerRequest_counter {s' : TcpSession} {ack : Seq32} (done : s.answerRequest e ack = .ok s') :
    s'.counter = s.counter := by
  unfold answerRequest at done
  split at done
  · cases done
    rfl
  · split at done
    · cases done
      rfl
    · split at done
      · cases entered : (s.limitedTransmit e (s.tx.requests ack)).ssthreshForFastRetransmit e with
        | error failure =>
          rw [entered] at done
          cases done
        | ok t =>
          rw [entered] at done
          cases done
          exact (ssthreshForFastRetransmit_counter entered).trans (limitedTransmit_counter _)
      · cases done
        exact limitedTransmit_counter _

theorem retransmitPacketRequest_counts {s' : TcpSession} (done : s.retransmitPacketRequest e p = .ok s') :
    s'.tx ≠ s.tx := by
  obtain ⟨r,t,raked⟩ := rackProcessAck_shape (e := e) (s := s.ingestSackInfo p) p
  rw [retransmitPacketRequest_eq,raked] at done
  have counted : s'.counter = ((s.ingestSackInfo p).tx.countRequest p.tcpAck).retransmitRequestCounter :=
    answerRequest_counter done
  have before : (s.ingestSackInfo p).counter = s.counter := ingestSackInfo_counter
  intro same
  have value : s'.tx.requests p.tcpAck = s.tx.requests p.tcpAck := by rw [same]
  have raised : s'.tx.requests p.tcpAck = (s.ingestSackInfo p).tx.requests p.tcpAck + 1 := by
    rw [← requests_countRequest]
    unfold TxBufferState.requests
    rw [show s'.tx.retransmitRequestCounter = _ from counted]
  have kept : (s.ingestSackInfo p).tx.requests p.tcpAck = s.tx.requests p.tcpAck := by
    unfold TxBufferState.requests
    rw [show (s.ingestSackInfo p).tx.retransmitRequestCounter = _ from before]
    rfl
  omega

theorem closeWait_counts (replay : Replay) (dup : s.isDuplicateAck p = true) : Moves s (s.closeWaitAck replay e p) := by
  unfold closeWaitAck
  rw [if_pos dup]
  by_cases update : s.peerWnd p ≠ s.win.sndWnd
  · rw [if_pos update]
    have window : (s.updateSendWindow e p).win.sndWnd = s.peerWnd p := by
      unfold updateSendWindow
      dsimp only
      split
      · rw [ingestSackInfo_win]
        rfl
      · rw [ingestSackInfo_win]
    intro t same
    cases same
    refine .inr (.inr (.inl ?_))
    intro kept
    rw [kept] at window
    exact update window.symm
  · rw [if_neg update]
    intro t same
    exact .inr (.inl (retransmitPacketRequest_counts same))

theorem dispatch_moves (replay : Replay) (stale : s.pawsVerdict e p = .dropAnswered) (slips : s.StaleSlips e p) :
    Moves s (s.dispatchPacket replay e p) := by
  obtain ⟨syn,gate,slips⟩ := slips
  have notFin : p.FinAck → ¬p.OnlyAck := by
    intro fin only
    have both := fin.1.symm.trans only.2.2.2
    cases both
  have una : (s.emitChallengeAck e).sndSeq.una = s.sndSeq.una := congrArg Prod.fst emitChallengeAck_ends
  have finKept : (s.emitChallengeAck e).sndSeq.fin = s.sndSeq.fin := congrArg Prod.snd emitChallengeAck_ends
  unfold dispatchPacket
  cases here : s.state with
  | closed | listen | synSent | synRcvd | established | timeWait =>
    rw [here] at slips
    cases slips
  | finWait1 =>
    rw [here] at slips
    obtain ⟨place,range,kind⟩ := slips
    refine gated_moves (fun s => if p.OnlyAck then s.finWait1Ack replay e p
      else if p.FinAck then s.finWait1Fin replay e p else .ok (s.takeReset (some .reset) e p)) syn gate ?_
    rcases kind with fin | ⟨only,covered | ⟨loaded,free⟩⟩
    · rw [if_neg (notFin fin),if_pos fin]
      unfold finWait1Fin
      rw [if_pos ⟨place,range⟩,processAckPacket_stale replay stale]
      refine moves_state ?_
      split
      · rw [enterTimeWait_state,here]
        decide
      · rw [changeState_state,here]
        decide
    · rw [if_pos only]
      unfold finWait1Ack
      rw [if_pos ⟨place,range⟩,processAckPacket_stale replay stale]
      refine moves_state ?_
      rw [if_pos,enterFinWait2_state,here]
      · decide
      · have kept : ((s.emitChallengeAck e).ackIfData e p).sndSeq.fin = s.sndSeq.fin :=
          congrArg Prod.snd (ackIfData_ends.trans emitChallengeAck_ends)
        rw [kept]
        exact covered
    · rw [if_pos only]
      unfold finWait1Ack
      rw [if_pos ⟨place,range⟩,processAckPacket_stale replay stale]
      show Moves s (.ok (if ge32 p.tcpAck ((s.emitChallengeAck e).ackIfData e p).sndSeq.fin = true then _ else _))
      split
      · refine moves_state ?_
        rw [enterFinWait2_state,here]
        decide
      · exact moves_ackIfData loaded free
  | finWait2 =>
    rw [here] at slips
    obtain ⟨place,range,kind⟩ := slips
    refine gated_moves (fun s => if p.OnlyAck then s.finWait2Ack replay e p
      else if p.FinAck then s.finWait2Fin replay e p else .ok (s.takeReset (some .reset) e p)) syn gate ?_
    rcases kind with fin | ⟨only,loaded,free⟩
    · rw [if_neg (notFin fin),if_pos fin]
      unfold finWait2Fin
      rw [if_pos ⟨place,range⟩,processAckPacket_stale replay stale]
      refine moves_state ?_
      rw [armTimer_state,cancelTimer_state,changeState_state,here]
      decide
    · rw [if_pos only]
      unfold finWait2Ack
      rw [if_pos ⟨place,range⟩,processAckPacket_stale replay stale]
      exact moves_ackIfData loaded free
  | closing =>
    rw [here] at slips
    obtain ⟨only,place,range,covered⟩ := slips
    refine gated_moves (fun s => if p.OnlyAck then s.closingAck replay e p
      else .ok (s.takeReset (some .reset) e p)) syn gate ?_
    rw [if_pos only]
    unfold closingAck
    rw [if_pos ⟨place,range⟩,processAckPacket_stale replay stale]
    refine moves_state ?_
    rw [if_pos (by rw [una,finKept]; exact covered),enterTimeWait_state,here]
    decide
  | closeWait =>
    rw [here] at slips
    refine gated_moves (fun s => if p.OnlyAck then s.closeWaitAck replay e p
      else .ok (s.takeReset (some .reset) e p)) syn gate ?_
    rw [if_pos slips.1]
    exact closeWait_counts replay slips.2
  | lastAck =>
    rw [here] at slips
    obtain ⟨only,place,range⟩ := slips
    refine moves_state ?_
    unfold fsmLastAckPacket
    rw [if_neg (by simp [syn]),gate_passed gate]
    show (if p.OnlyAck then s.lastAckAck e p else _).state ≠ s.state
    unfold lastAckAck
    rw [if_pos only,if_pos ⟨place,range⟩,changeState_state,here]
    decide

theorem stale_outcome (synchronized : resettable s.state = true ∨ s.state = .timeWait) (rst : p.tcpFlagRst = false)
    (stale : s.pawsVerdict e p = .dropAnswered) (clean : ¬s.StaleSlips e p) :
    ∃ t, s.tcpFsmPacket e p = .ok {(s.ecnPrologue p).reply e p (s.staleReply p) with timers := t} := by
  obtain ⟨ec,a,shape⟩ := ecnPrologue_shape (s := s) p
  generalize (if s.ecnReacts p then s.reduceForEcn.cc else s.cc) = c at shape
  have dispatched := dispatch_stale (s := {s with ecn := ec,accecn := a,cc := c}) (fsmPacket e s.oooPacketQueue.length)
    stale rst clean synchronized
  rw [← shape] at dispatched
  obtain ⟨t,tail⟩ := pumpTail_shape (e := e) (s := (s.ecnPrologue p).reply e p ((s.ecnPrologue p).staleReply p))
    s.state true
  have same : (s.ecnPrologue p).staleReply p = s.staleReply p := by
    rw [shape]
    rfl
  rw [same] at dispatched tail
  exact ⟨t,by rw [tcpFsmPacket_ok dispatched,tail]⟩

theorem slips_noticed (stale : s.pawsVerdict e p = .dropAnswered) (slips : s.StaleSlips e p) : ¬s.Ignores e p := by
  rintro ⟨s',done,quiet⟩
  obtain ⟨ec,a,shape⟩ := ecnPrologue_shape (s := s) p
  obtain ⟨t,dispatched,rfl⟩ := tcpFsmPacket_inv done
  have moves := dispatch_moves (s := {s with ecn := ec,accecn := a,cc := if s.ecnReacts p then s.reduceForEcn.cc else s.cc})
    (fsmPacket e s.oooPacketQueue.length) stale slips t (by rw [← shape]; exact dispatched)
  obtain ⟨t',tail⟩ := pumpTail_shape (e := e) (s := t) s.state true
  rw [tail] at quiet
  have frame := quiet_frozen quiet
  have few := quiet_log quiet
  rcases moves with state | tx | win | twice
  · exact state (show t.frozen.state = s.frozen.state by rw [← frame]; rfl)
  · exact tx (show t.frozen.tx = s.frozen.tx by rw [← frame]; rfl)
  · exact win (show t.frozen.win = s.frozen.win by rw [← frame]; rfl)
  · have twice : s.log.length + 2 ≤ t.log.length := twice
    have few : t.log.length ≤ s.log.length + 1 := few
    omega

theorem stale_ignored_iff (e : Env) (p : TcpMetadata) (s : TcpSession)
    (synchronized : resettable s.state = true ∨ s.state = .timeWait) (rst : p.tcpFlagRst = false)
    (stale : s.pawsVerdict e p = .dropAnswered) :
    s.Ignores e p ↔ s.Unmarked p ∧ ¬s.StaleSlips e p ∧ s.Discreet e p (s.staleReply p) := by
  constructor
  · intro ignores
    have clean : ¬s.StaleSlips e p := fun slips => slips_noticed stale slips ignores
    obtain ⟨t,done⟩ := stale_outcome synchronized rst stale clean
    obtain ⟨s',same,quiet⟩ := ignores
    rw [done] at same
    cases same
    have traced := quiet_marks quiet
    have unmarked : s.Unmarked p :=
      unmarked_of_marks ((reply_marks (e := e) (p := p) (s := s.ecnPrologue p) (s.staleReply p)).symm.trans traced)
    rw [ecnPrologue_unmarked unmarked] at quiet
    exact ⟨unmarked,clean,(reply_discreet_iff _ t).mp quiet⟩
  · rintro ⟨unmarked,clean,discreet⟩
    obtain ⟨t,done⟩ := stale_outcome synchronized rst stale clean
    rw [ecnPrologue_unmarked unmarked] at done
    exact ⟨_,done,(reply_discreet_iff _ t).mpr discreet⟩

def stampedFinWait1 : TcpSession := stamped.run [({nowMs := 40},.close),({nowMs := 41},.tick),({nowMs := 42},.tick)]

def staleAck (ack : Seq32) : TcpMetadata :=
  {tcpFlagAck := true,tcpSeq := 501,tcpAck := ack,tcpWin := 65535,tcpTsval := some 50,tcpTsecr := some 42}

-- Before the peer has acknowledged the FIN.
theorem stale_ignored_finWait1 : stampedFinWait1.Ignores {nowMs := 50} (staleAck 1001) := by
  refine (stale_ignored_iff {nowMs := 50} (staleAck 1001) stampedFinWait1 (by decide +kernel) rfl
    (by decide +kernel)).mpr ⟨⟨?_,?_⟩,?_,?_⟩
  · intro on
    exact absurd on (by decide +kernel)
  · intro on
    exact absurd on (by decide +kernel)
  · rintro ⟨_,_,slips⟩
    have here : stampedFinWait1.state = .finWait1 := by decide +kernel
    rw [here] at slips
    obtain ⟨_,_,fin | ⟨_,covered | ⟨loaded,_⟩⟩⟩ := slips
    · exact absurd fin (by decide +kernel)
    · exact absurd covered (by decide +kernel)
    · exact loaded rfl
  · have reply : stampedFinWait1.staleReply (staleAck 1001) = .challenge := by decide +kernel
    rw [reply]
    exact .inr (by decide +kernel)

-- PAWS drops an old ACK of the FIN, and FIN_WAIT_1 is left all the same.
theorem stale_ack_finishes : stampedFinWait1.state = .finWait1 ∧
    stampedFinWait1.pawsVerdict {nowMs := 50} (staleAck 1002) = .dropAnswered ∧ (staleAck 1002).tcpFlagRst = false ∧
    (stampedFinWait1.tcpFsmPacket {nowMs := 50} (staleAck 1002)).session.state = .finWait2 ∧
    ¬stampedFinWait1.Ignores {nowMs := 50} (staleAck 1002) := by
  have before : stampedFinWait1.state = .finWait1 := by decide +kernel
  have after : (stampedFinWait1.tcpFsmPacket {nowMs := 50} (staleAck 1002)).session.state = .finWait2 := by
    decide +kernel
  refine ⟨before,by decide +kernel,rfl,after,?_⟩
  rintro ⟨s',done,quiet⟩
  rw [done] at after
  have kept : s'.frozen.state = stampedFinWait1.frozen.state := by rw [quiet_frozen quiet]
  have moved := kept.symm.trans after
  have moved : stampedFinWait1.state = .finWait2 := moved
  rw [before] at moved
  cases moved

end TcpSession

end PmdPytcp.Tcp
