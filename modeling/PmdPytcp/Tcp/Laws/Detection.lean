import PmdPytcp.Tcp.Refine.Run

namespace PmdPytcp.Tcp
open Arc

-- What the F-RTO detection remembers, with SND.UNA, which moves it on, and the
-- segments that may still acknowledge something.
structure Detection where
  active : Bool
  step : Nat
  sent : Seq32
  cwnd : Int
  ssthresh : Int
  cubic : CubicVars
  una : Seq32
  waiting : OooQueue

-- An acknowledgement of `a` in the terms of the detection.
def Detection.advance (a : Seq32) (d : Detection) : Detection :=
  if !d.active then {d with una := a}
  else if d.step = 1 ∧ lt32 a d.sent = true then {d with una := a,step := 2}
  else if d.step = 1 ∨ d.step = 2 then {d with una := a,step := 0,active := false}
  else {d with una := a}

namespace TcpSession

def detection (s : TcpSession) : Detection :=
  ⟨s.cc.frtoActive,s.cc.frtoStep,s.cc.frtoPreSndMax,s.cc.frtoPreCwnd,s.cc.frtoPreSsthresh,s.cc.frtoPreCubic,s.sndSeq.una,
    s.oooPacketQueue⟩

section Bystanders
variable {e : Env} {s t : TcpSession} {p : TcpMetadata}

theorem advanceSendSeq_una (seq : Seq32) (m : Emit) (q : SendSeqState) : (advanceSendSeq seq m q).una = q.una := by
  have bumped : ∀ q : SendSeqState, q.bumpMaxToNxt.una = q.una := by
    intro q
    unfold SendSeqState.bumpMaxToNxt
    split <;> rfl
  unfold advanceSendSeq
  dsimp only
  split
  · exact bumped _
  · exact bumped _

theorem transmitPacket_detection (m : Emit) : (s.transmitPacket e m).detection = s.detection := by
  obtain ⟨_,_,_,_,_,_,_,_,_,_,_,_,_,out,_⟩ := transmitPacket_shape (e := e) (s := s) m
  rw [out]
  simp only [detection,advanceSendSeq_una]

theorem pumps_detection : Pumps e fun s t => t.detection = s.detection :=
  .same (fun _ => transmitPacket_detection) (fun _ _ => rfl) (fun _ => rfl) (fun _ _ => rfl) (fun _ _ _ => rfl)

theorem transmitData_detection : (s.transmitData e).detection = s.detection := pumps_detection.transmitData

theorem emitChallengeAck_detection : (s.emitChallengeAck e).detection = s.detection :=
  pumps_detection.emitChallengeAck fun _ _ => rfl

theorem delayedAck_detection : (s.delayedAck e).detection = s.detection := pumps_detection.delayedAck fun _ => rfl

theorem changeState_detection (new : FsmState) (cause : Option Seq32) :
    (s.changeState e new cause).detection = s.detection := by
  obtain ⟨f,ev,ec,t,k,shape⟩ := changeState_shape (e := e) (s := s) new cause
  rw [shape]
  simp only [detection]
  split <;> rfl

theorem pumpTail_detection (entry : FsmState) (external : Bool) : (s.pumpTail e entry external).detection = s.detection := by
  unfold pumpTail
  dsimp only
  split
  · rfl
  · split
    · rfl
    · rfl

theorem keepaliveArmIdle_detection : (s.keepaliveArmIdle e).detection = s.detection := by
  unfold keepaliveArmIdle
  split <;> rfl

theorem checkPaws_detection : (s.checkPawsAndUpdateTsRecent e p).2.detection = s.detection := by
  rcases checkPaws_shape (e := e) (s := s) p with ⟨_,ts,same,_⟩ | ⟨_,same | challenged⟩
  · rw [same]
    rfl
  · rw [same]
  · rw [challenged]
    exact emitChallengeAck_detection

theorem checkSegmentAcceptability_detection : (s.checkSegmentAcceptability e p).2.detection = s.detection := by
  have noted : (s.noteFullDuplicate p).detection = s.detection := by
    unfold noteFullDuplicate
    split <;> rfl
  unfold checkSegmentAcceptability
  split
  · rfl
  · split
    · rfl
    · exact emitChallengeAck_detection.trans noted

theorem checkRstAcceptability_detection : (s.checkRstAcceptability e p).2.detection = s.detection := by
  unfold checkRstAcceptability
  split
  · rfl
  · split
    · exact emitChallengeAck_detection
    · rfl

theorem takeReset_detection (error : Option ConnError) : (s.takeReset error e p).detection = s.detection := by
  unfold takeReset
  split
  · dsimp only
    split
    · exact (changeState_detection _ _).trans checkRstAcceptability_detection
    · exact checkRstAcceptability_detection
  · rfl

theorem ingestSackInfo_detection : (s.ingestSackInfo p).detection = s.detection := by
  have blocks : ∀ (t : TcpSession) list, (t.ingestBlocks list).detection = t.detection := by
    intro t list
    obtain ⟨_,same⟩ := ingestBlocks_shape (s := t) list
    rw [same]
    rfl
  unfold ingestSackInfo
  split
  · rfl
  · split
    · refine (blocks _ _).trans ?_
      obtain ⟨_,_,_,_,_,_,same,_⟩ := ingestDsack_shape (s := s)
      rw [same]
      rfl
    · exact blocks _ _

theorem rackProcessAck_detection : (s.rackProcessAck e p).detection = s.detection := by
  obtain ⟨_,_,same⟩ := rackProcessAck_shape (e := e) (s := s) p
  rw [same]
  rfl

theorem ackIfData_detection : (s.ackIfData e p).detection = s.detection := by
  unfold ackIfData
  split
  · rfl
  · exact transmitPacket_detection _

theorem challengeAckAbove_detection : (s.challengeAckAbove e p).detection = s.detection := by
  unfold challengeAckAbove
  split
  · exact emitChallengeAck_detection
  · rfl

theorem armTimer_detection (name : TimerName) (delay : Nat) : (s.armTimer e name delay).detection = s.detection := rfl

theorem cancelTimer_detection (name : TimerName) : (s.cancelTimer e name).detection = s.detection := rfl

theorem announced_detection (n : Nat) : ({s with eventConnect := n} : TcpSession).detection = s.detection := rfl

theorem enterTimeWait_detection (cause : Seq32) : (s.enterTimeWait e cause).detection = s.detection := by
  unfold enterTimeWait
  rw [armTimer_detection,changeState_detection]

theorem enterFinWait2_detection (cause : Seq32) : (s.enterFinWait2 e cause).detection = s.detection := by
  unfold enterFinWait2
  dsimp only
  split
  · exact changeState_detection _ _
  · exact changeState_detection _ _

theorem updateSendWindow_detection : (s.updateSendWindow e p).detection = s.detection := by
  unfold updateSendWindow
  refine ingestSackInfo_detection.trans ?_
  dsimp only
  split <;> rfl

theorem mem_set (q : OooQueue) (p stored : Stored) (member : stored ∈ q.set p) : stored = p ∨ stored ∈ q := by
  induction q with
  | nil => exact .inl (List.mem_singleton.mp member)
  | cons head rest ih =>
    unfold OooQueue.set at member
    split at member
    · rcases List.mem_cons.mp member with first | later
      · exact .inl first
      · exact .inr (List.mem_cons_of_mem _ later)
    · rcases List.mem_cons.mp member with first | later
      · exact .inr (first ▸ List.mem_cons_self)
      · exact (ih later).imp_right (List.mem_cons_of_mem _)

theorem storeOutOfOrder_detection (q : Stored) : ∃ w, (s.storeOutOfOrder e q).detection = {s.detection with waiting := w} ∧
    ∀ stored ∈ w, stored = q ∨ stored ∈ s.oooPacketQueue := by
  have noted : (s.noteStoredDuplicate q.1).detection = s.detection := by
    unfold noteStoredDuplicate
    split <;> rfl
  have queue : (s.noteStoredDuplicate q.1).oooPacketQueue = s.oooPacketQueue := congrArg Detection.waiting noted
  unfold storeOutOfOrder
  rw [transmitPacket_detection]
  dsimp only
  split
  · refine ⟨(s.noteStoredDuplicate q.1).oooPacketQueue.set q,?_,?_⟩
    · rw [← noted]
      rfl
    · rw [queue]
      exact mem_set _ q
  · refine ⟨s.oooPacketQueue,?_,fun stored member => .inr member⟩
    rw [noted]
    rfl

theorem consumePayload_detection : (s.consumePayload e p).detection = s.detection := by
  have overlapped : ((s.noteOverlap p).advanceRcvNxt p).detection = s.detection := by
    unfold noteOverlap advanceRcvNxt
    split <;> split <;> rfl
  have counted : ∀ t : TcpSession, (t.ackEverySecond e).detection = t.detection := by
    intro t
    unfold ackEverySecond
    dsimp only
    split
    · exact transmitPacket_detection _
    · rfl
  unfold consumePayload
  dsimp only
  split
  · obtain ⟨_,queued⟩ := enqueueRxBuffer_shape (s := (s.noteOverlap p).advanceRcvNxt p)
      (p.tcpData.drop (s.overlapPrefix p))
    rw [counted,queued]
    exact overlapped
  · exact overlapped

theorem settleAck_detection : ∃ keep : Stored → Bool,
    (s.settleAck e p).detection = {s.detection with waiting := s.detection.waiting.filter keep} := by
  have caught : s.catchUpNxt.detection = s.detection := by
    unfold catchUpNxt
    split <;> rfl
  have taken : (s.catchUpNxt.consumePayload e p).drainTx.detection = s.detection := consumePayload_detection.trans caught
  unfold settleAck
  generalize (s.catchUpNxt.consumePayload e p).drainTx = t at taken ⊢
  obtain ⟨_,_,_,_,same,_⟩ := takeWindowAndPurge_shape (e := e) (s := t) p
  rw [same,← taken]
  exact ⟨fun q => !lt32 q.1.tcpSeq t.rcvSeq.nxt,rfl⟩

theorem afterAck_detection : ∃ keep : Stored → Bool,
    (s.afterAck e p).detection = {s.detection with waiting := s.detection.waiting.filter keep} := by
  have harvested : (((s.phase3HarvestRttSamples e p).pruneSackScoreboard).ingestSackInfo p).detection = s.detection := by
    rw [ingestSackInfo_detection,pruneSackScoreboard_shape]
    obtain ⟨_,_,_,third,_⟩ := phase3HarvestRttSamples_shape (e := e) (s := s) p
    rw [third]
    rfl
  unfold afterAck
  generalize ((s.phase3HarvestRttSamples e p).pruneSackScoreboard).ingestSackInfo p = t at harvested ⊢
  have left : (t.phase4LossDetectionAndRecoveryExit e p).detection = t.detection := by
    obtain ⟨_,_,_,_,_,_,_,_,_,fourth,_⟩ := phase4_shape (e := e) (s := t) p
    rw [fourth]
    rfl
  generalize t.phase4LossDetectionAndRecoveryExit e p = u at left ⊢
  rw [← harvested,← left]
  exact settleAck_detection

theorem requirePositive_detection (x : Int) {f : Pos → Outcome} (rest : ∀ y, (f y).session.detection = s.detection) :
    (Outcome.session (s.requirePositive x >>= f)).detection = s.detection := by
  unfold requirePositive
  split
  · exact rest _
  · rfl

theorem updateCwnd_detection (bytesAcked : Nat) :
    (Outcome.session (s.updateCwnd e bytesAcked)).detection = s.detection := by
  unfold updateCwnd
  split
  · unfold proportionalReduction prrSndcnt
    dsimp only
    split
    · split <;> rfl
    · rfl
  · split
    · unfold growCubic
      exact requirePositive_detection (s := {s with cc := {s.cc with cubicInCa := true}}) _ fun _ =>
        requirePositive_detection (s := {s with cc := {s.cc with cubicInCa := true}}) _ fun _ => rfl
    · unfold growReno
      split
      · rfl
      · exact requirePositive_detection _ fun _ => requirePositive_detection _ fun _ => rfl

theorem phase2_detection : s.phase2FrtoSpuriousDetect.detection = s.detection.advance s.sndSeq.una := by
  unfold Detection.advance
  rw [show s.detection.active = s.cc.frtoActive from rfl,show s.detection.step = s.cc.frtoStep from rfl,
    show s.detection.sent = s.cc.frtoPreSndMax from rfl]
  unfold phase2FrtoSpuriousDetect
  split
  · rfl
  · dsimp only
    by_cases short : s.cc.frtoStep = 1 ∧ lt32 s.sndSeq.una s.cc.frtoPreSndMax = true
    · rw [if_pos (by simpa using short),if_pos short]
      rfl
    · rw [if_neg (by simpa using short),if_neg short]
      split <;> rfl

-- SND.UNA moves here and nowhere else; an assertion of the congestion control
-- that fails comes before the detection.
theorem phase1_detection : match s.phase1CumAckSideEffects e p with
    | .ok t => t.detection = if lt32 s.sndSeq.una p.tcpAck then s.detection.advance p.tcpAck else s.detection
    | .error (_,t) => lt32 s.sndSeq.una p.tcpAck = true ∧ t.detection = {s.detection with una := p.tcpAck} := by
  unfold phase1CumAckSideEffects
  cases advances : lt32 s.sndSeq.una p.tcpAck with
  | false => rfl
  | true =>
    dsimp only [Bool.not_true]
    generalize shape : ({s with sndSeq := {s.sndSeq with una := p.tcpAck}} : TcpSession) = u
    have moved : u.detection = {s.detection with una := p.tcpAck} := by rw [← shape]; rfl
    have counted : (((u.followPlpmtud e).hystartRound.clearRecoverSeq).countPrrDelivered
        (arc s.sndSeq.una p.tcpAck)).detection = u.detection := by
      obtain ⟨_,_,first⟩ := followPlpmtud_shape (e := e) (s := u)
      obtain ⟨_,_,second,_⟩ := hystartRound_shape (s := u.followPlpmtud e)
      obtain ⟨_,third⟩ := clearRecoverSeq_shape (s := (u.followPlpmtud e).hystartRound)
      obtain ⟨_,fourth⟩ := countPrrDelivered_shape (s := (u.followPlpmtud e).hystartRound.clearRecoverSeq)
        (arc s.sndSeq.una p.tcpAck)
      rw [fourth,third,second,first]
      rfl
    generalize ((u.followPlpmtud e).hystartRound.clearRecoverSeq).countPrrDelivered (arc s.sndSeq.una p.tcpAck) = v
      at counted
    have grown := (updateCwnd_detection (e := e) (s := v) (arc s.sndSeq.una p.tcpAck)).trans (counted.trans moved)
    cases updated : v.updateCwnd e (arc s.sndSeq.una p.tcpAck) with
    | error failure =>
      rw [updated] at grown
      exact ⟨rfl,grown⟩
    | ok w =>
      rw [updated] at grown
      have grown : w.detection = {s.detection with una := p.tcpAck} := grown
      obtain ⟨_,_,_,_,first,_⟩ := tlpAck_shape (s := {w.refreshEwn with retransmitCount := 0}) p
      obtain ⟨_,_,second⟩ := rearmRetransmit_shape (e := e)
        (s := ({w.refreshEwn with retransmitCount := 0} : TcpSession).tlpAck p)
      have kept : ((({w.refreshEwn with retransmitCount := 0} : TcpSession).tlpAck p).rearmRetransmit e).detection =
          {s.detection with una := p.tcpAck} := by
        rw [second,first]
        exact grown
      show (TcpSession.phase2FrtoSpuriousDetect
        ((({w.refreshEwn with retransmitCount := 0} : TcpSession).tlpAck p).rearmRetransmit e)).detection = _
      generalize (({w.refreshEwn with retransmitCount := 0} : TcpSession).tlpAck p).rearmRetransmit e = r at kept ⊢
      have edge : r.sndSeq.una = p.tcpAck := congrArg Detection.una kept
      rw [phase2_detection,kept,edge]
      rfl

end Bystanders

section Packets

-- What a detection may become while segments that meet `src` are handled: `K`
-- of the sessions that come out, `B` of those a handler leaves when it raises.
structure Tolerates (e : Env) (src : TcpMetadata → Prop) (K B : Detection → Prop) : Prop where
  advances : ∀ q d, src q → q.tcpFlagAck = true → K d → lt32 d.una q.tcpAck = true → K (d.advance q.tcpAck)
  breaks : ∀ q d, src q → q.tcpFlagAck = true → K d → lt32 d.una q.tcpAck = true → B {d with una := q.tcpAck}
  fails : ∀ d, K d → B d
  stores : ∀ d w, K d → (∀ q ∈ w, src q.1) → K {d with waiting := w}
  stored : ∀ d, K d → ∀ q ∈ d.waiting, src q.1
  restarts : ∀ q d, src q → q.tcpFlagSyn = true → K d → K {d with una := e.newIss,waiting := []}

def Leaves (K B : Detection → Prop) : Outcome → Prop
  | .ok t => K t.detection
  | .error (_,t) => B t.detection

def Relays (src : TcpMetadata → Prop) (K B : Detection → Prop) (replay : Replay) : Prop :=
  ∀ q t, src q → K t.detection → Leaves K B (replay q t)

variable {e : Env} {s t : TcpSession} {p : TcpMetadata} {src : TcpMetadata → Prop} {K B : Detection → Prop} {replay : Replay}

theorem Leaves.ok (after : K t.detection) : Leaves K B (.ok t) := after

theorem Leaves.bind {out : Outcome} {f : TcpSession → Outcome} (first : Leaves K B out)
    (rest : ∀ u, K u.detection → Leaves K B (f u)) : Leaves K B (out >>= f) := by
  cases out with
  | error failure => exact first
  | ok u => exact rest u first

theorem Tolerates.filtered (tolerates : Tolerates e src K B) {d : Detection} (here : K d) (keep : Stored → Bool) :
    K {d with waiting := d.waiting.filter keep} :=
  tolerates.stores d _ here fun q member => tolerates.stored d here q (List.mem_of_mem_filter member)

theorem Tolerates.unchanged (tolerates : Tolerates e src K B) {out : Outcome} (same : out.session.detection = s.detection)
    (before : K s.detection) : Leaves K B out := by
  rw [← same] at before
  cases out with
  | error failure => exact tolerates.fails _ before
  | ok u => exact before

theorem gated_leaves (body : TcpSession → Outcome) (before : K s.detection)
    (inside : ∀ u, K u.detection → Leaves K B (body u)) :
    Leaves K B (if p.tcpFlagSyn then .ok (s.emitChallengeAck e)
      else
        let (acceptable,s) := s.checkSegmentAcceptability e p
        if !acceptable then .ok s else body s) := by
  have checked := checkSegmentAcceptability_detection (e := e) (s := s) (p := p)
  generalize s.checkSegmentAcceptability e p = verdict at checked ⊢
  obtain ⟨acceptable,u⟩ := verdict
  have checked : u.detection = s.detection := checked
  rw [← checked] at before
  split
  · exact .ok (by rw [emitChallengeAck_detection,← checked]; exact before)
  · dsimp only
    split
    · exact .ok before
    · exact inside u before

theorem takeReset_leaves (error : Option ConnError) (before : K s.detection) :
    Leaves K B (.ok (s.takeReset error e p)) :=
  .ok (by rw [takeReset_detection]; exact before)

theorem retransmitPacketRequest_leaves (tolerates : Tolerates e src K B) (before : K s.detection) :
    Leaves K B (s.retransmitPacketRequest e p) := by
  have limited : ∀ (u : TcpSession) (count : Nat), (u.limitedTransmit e count).detection = u.detection := by
    intro u count
    unfold limitedTransmit
    dsimp only
    split
    · generalize lent : ({u with cc := {u.cc with sndEwn := _}} : TcpSession) = v
      have pumped := transmitData_detection (e := e) (s := v)
      generalize v.transmitData e = w at pumped ⊢
      rw [← lent] at pumped
      exact pumped
    · rfl
  have seen : ({(s.ingestSackInfo p).rackProcessAck e p with
      tx := ((s.ingestSackInfo p).rackProcessAck e p).tx.countRequest p.tcpAck} : TcpSession).detection = s.detection :=
    rackProcessAck_detection.trans ingestSackInfo_detection
  have lowered : ∀ u : TcpSession, (Outcome.session (u.ssthreshForFastRetransmit e)).detection = u.detection := by
    intro u
    unfold ssthreshForFastRetransmit
    split
    · exact requirePositive_detection (s := {u with cc := u.cc.saveFrCubicSnapshot}) _ fun _ => rfl
    · rfl
  unfold retransmitPacketRequest
  dsimp only
  split
  · exact .ok (by rw [seen]; exact before)
  · split
    · exact .ok (by rw [seen]; exact before)
    · split
      · refine Leaves.bind (tolerates.unchanged (lowered _) ?_) fun u here => .ok here
        rw [limited,seen]
        exact before
      · exact .ok (by rw [limited,seen]; exact before)

theorem fsmLastAckPacket_detection : (s.fsmLastAckPacket e p).detection = s.detection := by
  have checked := checkSegmentAcceptability_detection (e := e) (s := s) (p := p)
  unfold fsmLastAckPacket
  generalize s.checkSegmentAcceptability e p = verdict at checked ⊢
  obtain ⟨acceptable,u⟩ := verdict
  have checked : u.detection = s.detection := checked
  split
  · exact emitChallengeAck_detection
  · dsimp only
    split
    · exact checked
    · split
      · unfold lastAckAck
        split
        · exact (changeState_detection _ _).trans checked
        · exact challengeAckAbove_detection.trans checked
      · exact (takeReset_detection _).trans checked

theorem learned_detection : (((s.learnWscale p).learnSack p).learnTs e p).detection = s.detection := by
  have scaled : (s.learnWscale p).detection = s.detection := by
    unfold learnWscale
    dsimp only
    split <;> rfl
  unfold learnTs
  split
  · exact scaled
  · split
    · exact scaled
    · exact scaled

theorem enqueueRxBuffer_detection (data : List UInt8) : (s.enqueueRxBuffer data).detection = s.detection := by
  unfold enqueueRxBuffer
  split <;> rfl

theorem acceptSyn_detection : (s.acceptSyn e p).detection = s.detection := by
  have answered : ∀ u : TcpSession, ((u.listenEcn p).listenFastopen e p).detection = u.detection := by
    intro u
    unfold listenEcn
    dsimp only
    split
    · rfl
    · split <;> rfl
  unfold acceptSyn
  rw [changeState_detection]
  dsimp only
  split
  · exact (answered _).trans learned_detection
  · exact (enqueueRxBuffer_detection _).trans ((answered _).trans learned_detection)

theorem fsmListenPacket_detection : (s.fsmListenPacket e p).detection = s.detection := by
  unfold fsmListenPacket
  split
  · split
    · rfl
    · split
      · rfl
      · exact acceptSyn_detection
  · rfl

theorem openWindow_detection : s.openWindow.raiseRtoAfterSyn.detection = s.detection := by
  unfold raiseRtoAfterSyn
  split <;> rfl

theorem takeSynAck_detection : (s.takeSynAck e p).detection = s.detection := by
  unfold takeSynAck
  dsimp only
  split
  · rfl
  · exact enqueueRxBuffer_detection _

theorem completeConnect_detection : (s.completeConnect e p).detection = s.detection := by
  have rewound : s.rewindToUna.detection = s.detection := by
    unfold rewindToUna
    split <;> rfl
  have marked : ∀ u : TcpSession, (u.synSentEcn p).detection = u.detection := by
    intro u
    unfold synSentEcn
    split
    · rfl
    · split
      · rfl
      · split <;> rfl
  unfold completeConnect
  dsimp only
  rw [announced_detection,changeState_detection,transmitPacket_detection,marked,learned_detection,openWindow_detection,rewound]

theorem openSimultaneously_detection : (s.openSimultaneously e p).detection = s.detection := by
  unfold openSimultaneously
  rw [changeState_detection,transmitPacket_detection]
  exact learned_detection

theorem completeAccept_detection : (s.completeAccept e p).detection = s.detection := by
  unfold completeAccept
  dsimp only
  rw [announced_detection,changeState_detection]
  split
  · exact openWindow_detection
  · rw [transmitPacket_detection]
    exact openWindow_detection

-- Reuse puts SND.UNA elsewhere and leaves the detection as it is.
theorem reinit_detection : (s.reinitForRfc6191Reuse e p).detection = {s.detection with una := e.newIss,waiting := []} := by
  have windowed : ((s.reinitSendSide e).reinitWindow e p).detection = {s.detection with una := e.newIss} := by
    unfold reinitWindow
    have scaled : ∀ u : TcpSession, (u.learnWscale p).detection = u.detection := by
      intro u
      unfold learnWscale
      dsimp only
      split <;> rfl
    exact scaled _
  have emptied : ∀ u : TcpSession, (u.reinitReceiveSide p).detection = {u.detection with waiting := []} := by
    intro u
    unfold reinitReceiveSide
    dsimp only
    split
    · rfl
    · exact enqueueRxBuffer_detection _
  unfold reinitForRfc6191Reuse
  rw [emptied,windowed]

theorem fsmTimeWaitPacket_keeps (tolerates : Tolerates e src K B) (source : src p) (before : K s.detection) :
    K (s.fsmTimeWaitPacket e p).detection := by
  have checked := checkPaws_detection (e := e) (s := s) (p := p)
  unfold fsmTimeWaitPacket
  dsimp only
  generalize s.checkPawsAndUpdateTsRecent e p = verdict at checked ⊢
  obtain ⟨passed,u⟩ := verdict
  have checked : u.detection = s.detection := checked
  rw [← checked] at before
  dsimp only
  split
  · exact before
  · split
    · rename_i reuse
      rw [transmitPacket_detection,changeState_detection,reinit_detection]
      refine tolerates.restarts p _ source ?_ before
      simp only [reuseAcceptable,Bool.and_eq_true] at reuse
      exact reuse.1.1.1
    · split
      · rw [armTimer_detection,transmitPacket_detection]
        exact before
      · split
        · rw [emitChallengeAck_detection]
          exact before
        · exact before

theorem ecnPrologue_detection : (s.ecnPrologue p).detection = s.detection := by
  obtain ⟨ec,a,shape⟩ := ecnPrologue_shape (s := s) p
  rw [shape]
  simp only [detection]
  split <;> rfl

section Handlers
variable (tolerates : Tolerates e src K B) (relays : Relays src K B replay) (source : src p) (before : K s.detection)
include tolerates relays source before

theorem processAckPacket_leaves (ack : p.tcpFlagAck = true) : Leaves K B (s.processAckPacket replay e p) := by
  have checked := checkPaws_detection (e := e) (s := s) (p := p)
  rw [processAckPacket_eq]
  split
  · have armed : ((s.checkPawsAndUpdateTsRecent e p).2.keepaliveArmIdle e).detection = s.detection :=
      keepaliveArmIdle_detection.trans checked
    generalize (s.checkPawsAndUpdateTsRecent e p).2.keepaliveArmIdle e = u at armed
    rw [← armed] at before
    have moved := phase1_detection (e := e) (s := u) (p := p)
    refine Leaves.bind ?_ fun v here => ?_
    · cases done : u.phase1CumAckSideEffects e p with
      | error failure =>
        rw [done] at moved
        obtain ⟨advances,same⟩ := moved
        show B failure.2.detection
        rw [same]
        exact tolerates.breaks p _ source ack before advances
      | ok v =>
        rw [done] at moved
        have moved : v.detection = _ := moved
        show K v.detection
        rw [moved]
        split
        · rename_i advances
          exact tolerates.advances p _ source ack before advances
        · exact before
    · obtain ⟨keep,settled⟩ := afterAck_detection (e := e) (s := v) (p := p)
      have there : K (v.afterAck e p).detection := by
        rw [settled]
        exact tolerates.filtered here keep
      unfold replayOoo
      split
      · exact there
      · rename_i q found
        refine relays q.1 _ (tolerates.stored _ there q (List.mem_of_find?_eq_some found)) ?_
        exact tolerates.filtered there fun stored => stored.1.tcpSeq != (v.afterAck e p).rcvSeq.nxt
  · exact .ok (by rw [checked]; exact before)

theorem establishedAck_leaves (only : p.OnlyAck) : Leaves K B (s.establishedAck replay e ⟨p,only⟩) := by
  unfold establishedAck
  split
  · unfold establishedDuplicateAck
    dsimp only
    split
    · exact .ok (by rw [updateSendWindow_detection,keepaliveArmIdle_detection]; exact before)
    · split
      · exact .ok (by rw [keepaliveArmIdle_detection]; exact before)
      · exact retransmitPacketRequest_leaves tolerates (by rw [keepaliveArmIdle_detection]; exact before)
  · split
    · obtain ⟨w,same,among⟩ := storeOutOfOrder_detection (e := e) (s := s) ⟨p,only⟩
      refine .ok ?_
      rw [same]
      refine tolerates.stores _ w before fun q member => ?_
      rcases among q member with rfl | older
      · exact source
      · exact tolerates.stored _ before q older
    · split
      · exact processAckPacket_leaves tolerates relays source before only.1
      · split
        · exact .ok (by rw [emitChallengeAck_detection]; exact before)
        · split
          · exact .ok (by rw [emitChallengeAck_detection]; exact before)
          · exact .ok before

theorem establishedFin_leaves (fin : p.FinAck) : Leaves K B (s.establishedFin replay e p) := by
  unfold establishedFin
  split
  · refine (processAckPacket_leaves tolerates relays source before fin.2.1).bind fun u here => .ok ?_
    rw [changeState_detection]
    show K (if p.tcpData.isEmpty then u else u.transmitPacket e {flagAck := true}).detection
    split
    · exact here
    · rw [transmitPacket_detection]
      exact here
  · exact .ok before

theorem fsmEstablishedPacket_leaves : Leaves K B (s.fsmEstablishedPacket replay e p) := by
  refine gated_leaves (fun s =>
    let (passed,s) := s.checkPawsAndUpdateTsRecent e p
    if !passed then .ok s
    else if only : p.OnlyAck then s.establishedAck replay e ⟨p,only⟩
    else if p.FinAck then s.establishedFin replay e p
    else .ok (s.takeReset (some .reset) e p)) before fun u here => ?_
  have checked := checkPaws_detection (e := e) (s := u) (p := p)
  dsimp only
  generalize u.checkPawsAndUpdateTsRecent e p = verdict at checked ⊢
  obtain ⟨passed,v⟩ := verdict
  have checked : v.detection = u.detection := checked
  rw [← checked] at here
  dsimp only
  split
  · exact .ok here
  · split
    · exact establishedAck_leaves tolerates relays source here _
    · split
      · rename_i fin
        exact establishedFin_leaves tolerates relays source here fin
      · exact takeReset_leaves _ here

theorem fsmFinWait1Packet_leaves : Leaves K B (s.fsmFinWait1Packet replay e p) := by
  refine gated_leaves (fun s => if p.OnlyAck then s.finWait1Ack replay e p
    else if p.FinAck then s.finWait1Fin replay e p
    else .ok (s.takeReset (some .reset) e p)) before fun u here => ?_
  split
  · rename_i only
    unfold finWait1Ack
    split
    · refine (processAckPacket_leaves tolerates relays source here only.1).bind fun v there => .ok ?_
      split
      · rw [enterFinWait2_detection,ackIfData_detection]
        exact there
      · rw [ackIfData_detection]
        exact there
    · exact .ok (by rw [challengeAckAbove_detection]; exact here)
  · split
    · rename_i fin
      unfold finWait1Fin
      split
      · refine (processAckPacket_leaves tolerates relays source here fin.2.1).bind fun v there => .ok ?_
        have sent := transmitPacket_detection (e := e) (s := v) {flagAck := true}
        generalize v.transmitPacket e {flagAck := true} = w at sent ⊢
        rw [← sent] at there
        split
        · rw [enterTimeWait_detection]
          exact there
        · rw [changeState_detection]
          exact there
      · exact .ok here
    · exact takeReset_leaves _ here

theorem fsmFinWait2Packet_leaves : Leaves K B (s.fsmFinWait2Packet replay e p) := by
  refine gated_leaves (fun s => if p.OnlyAck then s.finWait2Ack replay e p
    else if p.FinAck then s.finWait2Fin replay e p
    else .ok (s.takeReset (some .reset) e p)) before fun u here => ?_
  split
  · rename_i only
    unfold finWait2Ack
    split
    · exact (processAckPacket_leaves tolerates relays source here only.1).bind fun v there =>
        .ok (by rw [ackIfData_detection]; exact there)
    · exact .ok (by rw [challengeAckAbove_detection]; exact here)
  · split
    · rename_i fin
      unfold finWait2Fin
      split
      · refine (processAckPacket_leaves tolerates relays source here fin.2.1).bind fun v there => .ok ?_
        rw [armTimer_detection,cancelTimer_detection,changeState_detection,transmitPacket_detection]
        exact there
      · exact takeReset_leaves _ here
    · exact takeReset_leaves _ here

theorem fsmClosingPacket_leaves : Leaves K B (s.fsmClosingPacket replay e p) := by
  refine gated_leaves (fun s => if p.OnlyAck then s.closingAck replay e p
    else .ok (s.takeReset (some .reset) e p)) before fun u here => ?_
  split
  · rename_i only
    unfold closingAck
    split
    · refine (processAckPacket_leaves tolerates relays source here only.1).bind fun v there => .ok ?_
      split
      · rw [enterTimeWait_detection]
        exact there
      · exact there
    · exact .ok (by rw [challengeAckAbove_detection]; exact here)
  · exact takeReset_leaves _ here

theorem fsmCloseWaitPacket_leaves : Leaves K B (s.fsmCloseWaitPacket replay e p) := by
  refine gated_leaves (fun s => if p.OnlyAck then s.closeWaitAck replay e p
    else .ok (s.takeReset (some .reset) e p)) before fun u here => ?_
  split
  · rename_i only
    unfold closeWaitAck
    split
    · split
      · exact .ok (by rw [updateSendWindow_detection]; exact here)
      · exact retransmitPacketRequest_leaves tolerates here
    · split
      · exact .ok (by rw [transmitPacket_detection]; exact here)
      · split
        · split
          · exact processAckPacket_leaves tolerates relays source here only.1
          · exact .ok (by rw [transmitPacket_detection]; exact here)
        · exact .ok here
  · exact takeReset_leaves _ here

theorem fsmSynSentPacket_leaves : Leaves K B (s.fsmSynSentPacket replay e p) := by
  unfold fsmSynSentPacket
  split
  · refine .ok ?_
    split
    · exact before
    · exact before
  · split
    · rename_i answer
      refine Leaves.bind (processAckPacket_leaves tolerates relays source ?_ answer.1.2.1) fun u here => .ok ?_
      · rw [takeSynAck_detection]
        exact before
      · rw [completeConnect_detection]
        exact here
    · split
      · exact .ok (by rw [openSimultaneously_detection]; exact before)
      · refine .ok ?_
        unfold synSentRefused
        split
        · show K (s.changeState e .closed none).detection
          rw [changeState_detection]
          exact before
        · exact before

theorem fsmSynRcvdPacket_leaves : Leaves K B (s.fsmSynRcvdPacket replay e p) := by
  unfold fsmSynRcvdPacket
  split
  · exact .ok (by rw [emitChallengeAck_detection]; exact before)
  · split
    · rename_i only
      refine Leaves.bind (processAckPacket_leaves tolerates relays source ?_ only.1.1) fun u here => .ok ?_
      · have kept : (s.synRcvdAccecn p).detection = s.detection := by
          unfold synRcvdAccecn
          split <;> rfl
        rw [kept]
        exact before
      · rw [completeAccept_detection]
        exact here
    · refine .ok ?_
      unfold synRcvdReset
      split
      · have checked := checkRstAcceptability_detection (e := e) (s := s) (p := p)
        dsimp only
        split
        · rw [changeState_detection]
          show K (s.checkRstAcceptability e p).2.detection
          rw [checked]
          exact before
        · rw [checked]
          exact before
      · exact before

theorem dispatchPacket_leaves : Leaves K B (s.dispatchPacket replay e p) := by
  unfold dispatchPacket
  split
  · exact .ok before
  · exact .ok (by rw [fsmListenPacket_detection]; exact before)
  · exact fsmSynSentPacket_leaves tolerates relays source before
  · exact fsmSynRcvdPacket_leaves tolerates relays source before
  · exact fsmEstablishedPacket_leaves tolerates relays source before
  · exact fsmFinWait1Packet_leaves tolerates relays source before
  · exact fsmFinWait2Packet_leaves tolerates relays source before
  · exact fsmClosingPacket_leaves tolerates relays source before
  · exact fsmCloseWaitPacket_leaves tolerates relays source before
  · exact .ok (by rw [fsmLastAckPacket_detection]; exact before)
  · exact .ok (fsmTimeWaitPacket_keeps tolerates source before)

end Handlers

-- A segment and all that it releases.
theorem fsmPacket_relays (tolerates : Tolerates e src K B) (n : Nat) : Relays src K B (fsmPacket e n) := by
  induction n with
  | zero =>
    intro q t source before
    exact .ok before
  | succ n ih =>
    intro q t source before
    unfold fsmPacket
    refine (dispatchPacket_leaves tolerates ih source (by rw [ecnPrologue_detection]; exact before)).bind fun u here => .ok ?_
    rw [pumpTail_detection]
    exact here

theorem tcpFsmPacket_leaves (tolerates : Tolerates e src K B) (source : src p) (before : K s.detection) :
    Leaves K B (s.tcpFsmPacket e p) :=
  fsmPacket_relays tolerates _ p s source before

end Packets

section Ticks
variable {e : Env} {s t : TcpSession}

-- The states whose tick serves the retransmission timer.
def resending (state : FsmState) : Bool :=
  decide (state = .synSent ∨ state = .synRcvd ∨ state = .established ∨ state = .finWait1 ∨ state = .closing ∨
    state = .closeWait ∨ state = .lastAck)

-- A retransmission timeout that does not give the connection up.
def TimesOut (e : Env) (s : TcpSession) : Prop :=
  (s.timers.serviceHandle.any fun due => decide (due ≤ e.nowMs)) = true ∧ resending s.state = true ∧
    s.timerExpired e .retransmit = true ∧ s.sndSeq.una ≠ s.sndSeq.max ∧ s.retransmitCount < s.retransmitBudget e

instance (e : Env) (s : TcpSession) : Decidable (s.TimesOut e) :=
  inferInstanceAs (Decidable (_ = true ∧ _ = true ∧ _ = true ∧ _ ∧ _))

theorem enterFrto_congr (cc : t.cc = s.cc) (seq : t.sndSeq = s.sndSeq) (queue : t.oooPacketQueue = s.oooPacketQueue) :
    t.enterFrto.detection = s.enterFrto.detection := by
  unfold enterFrto detection
  rw [cc,seq]
  split
  · dsimp only
    rw [queue]
  · dsimp only
    rw [queue]

theorem collapseWindow_detection : s.collapseWindow.detection = s.detection := rfl

theorem retransmitPacketTimeout_detection : (s.retransmitPacketTimeout e).detection =
    if s.timerExpired e .retransmit = true ∧ s.sndSeq.una ≠ s.sndSeq.max ∧ s.retransmitCount < s.retransmitBudget e then
      s.enterFrto.detection
    else s.detection := by
  have aborted : (s.abortForTimeout e).detection = s.detection := by
    have reported : ∀ u : TcpSession, u.reportTimeout.detection = u.detection := by
      intro u
      unfold reportTimeout
      split <;> rfl
    unfold abortForTimeout
    rw [changeState_detection,reported]
    split
    · exact transmitPacket_detection _
    · rfl
  unfold retransmitPacketTimeout
  cases expired : s.timerExpired e .retransmit with
  | false => simp
  | true =>
    by_cases idle : s.sndSeq.una = s.sndSeq.max
    · simp [idle]
    by_cases spent : s.retransmitBudget e ≤ s.retransmitCount
    · simp [idle,spent,aborted]
    · rw [if_neg (by simp),if_neg idle,if_neg spent,if_pos ⟨rfl,idle,by omega⟩]
      have walked : ∀ u : TcpSession, u.walkBackSeqMod.detection = u.detection := by
        intro u
        unfold walkBackSeqMod
        split <;> rfl
      have lowered : ∀ u : TcpSession, (u.ssthreshForTimeout e).detection = u.detection := by
        intro u
        unfold ssthreshForTimeout
        split <;> rfl
      have counted : ∀ u : TcpSession, u.shrinkMssToEngine.countSynRetransmit.cc = u.cc ∧
          u.shrinkMssToEngine.countSynRetransmit.sndSeq = u.sndSeq ∧
          u.shrinkMssToEngine.countSynRetransmit.oooPacketQueue = u.oooPacketQueue := by
        intro u
        unfold countSynRetransmit shrinkMssToEngine
        split <;> split <;> exact ⟨rfl,rfl,rfl⟩
      obtain ⟨cc,seq,queue⟩ := counted (s.backOffForTimeout e)
      dsimp only
      generalize (s.backOffForTimeout e).shrinkMssToEngine.countSynRetransmit = u at cc seq queue ⊢
      rw [walked,collapseWindow_detection,lowered]
      exact enterFrto_congr cc seq queue

theorem keepaliveTick_detection : (s.keepaliveTick e).detection = s.detection := by
  unfold keepaliveTick
  split
  · rfl
  · split
    · exact keepaliveArmIdle_detection
    · split
      · rfl
      · split
        · exact changeState_detection _ _
        · rfl

theorem tlpPtoTick_detection : (s.tlpPtoTick e).detection = s.detection := by
  unfold tlpPtoTick
  split
  · rfl
  · dsimp only
    split
    · rfl
    · split
      · rfl
      · split
        · rfl
        · split
          · rfl
          · have aimed : (s.cancelTimer e .tlp).aimProbe.detection = s.detection := by
              unfold aimProbe
              dsimp only
              split <;> rfl
            have pumped := transmitData_detection (e := e) (s := (s.cancelTimer e .tlp).aimProbe)
            generalize (s.cancelTimer e .tlp).aimProbe.transmitData e = t at pumped ⊢
            exact pumped.trans aimed

theorem rackReorderTick_detection : (s.rackReorderTick e).detection = s.detection := by
  obtain ⟨_,_,same⟩ := rackReorderTick_shape (e := e) (s := s)
  rw [same]
  rfl

theorem finishClose_detection (new : FsmState) : (s.finishClose e new).detection = s.detection := by
  unfold finishClose
  split
  · exact changeState_detection _ _
  · rfl

theorem expireTo_detection (name : TimerName) : (s.expireTo e name).detection = s.detection := by
  unfold expireTo
  split
  · exact changeState_detection _ _
  · rfl

theorem dispatchTimer_detection : (s.dispatchTimer e).detection =
    if resending s.state = true ∧ s.timerExpired e .retransmit = true ∧ s.sndSeq.una ≠ s.sndSeq.max ∧
        s.retransmitCount < s.retransmitBudget e then s.enterFrto.detection
    else s.detection := by
  have pumped : (s.retransmitAndPump e).detection = _ := transmitData_detection.trans retransmitPacketTimeout_detection
  have serves : resending s.state = true → (s.retransmitAndPump e).detection =
      if resending s.state = true ∧ s.timerExpired e .retransmit = true ∧ s.sndSeq.una ≠ s.sndSeq.max ∧
          s.retransmitCount < s.retransmitBudget e then s.enterFrto.detection
      else s.detection := by
    intro here
    rw [pumped]
    simp only [here,true_and]
  have rests : resending s.state = false → s.detection =
      if resending s.state = true ∧ s.timerExpired e .retransmit = true ∧ s.sndSeq.una ≠ s.sndSeq.max ∧
          s.retransmitCount < s.retransmitBudget e then s.enterFrto.detection
      else s.detection := by
    intro here
    rw [if_neg (by simp [here])]
  unfold dispatchTimer
  split <;> rename_i here
  · exact rests (by rw [here]; rfl)
  · exact rests (by rw [here]; rfl)
  · exact serves (by rw [here]; rfl)
  · exact serves (by rw [here]; rfl)
  · exact serves (by rw [here]; rfl)
  · exact serves (by rw [here]; rfl)
  · exact serves (by rw [here]; rfl)
  · rw [finishClose_detection,tlpPtoTick_detection,rackReorderTick_detection,keepaliveTick_detection,delayedAck_detection]
    exact serves (by rw [here]; rfl)
  · rw [finishClose_detection,delayedAck_detection]
    exact serves (by rw [here]; rfl)
  · rw [expireTo_detection]
    exact rests (by rw [here]; rfl)
  · rw [expireTo_detection]
    exact rests (by rw [here]; rfl)

theorem fireTimer_detection : (s.fireTimer e).detection = if s.TimesOut e then s.enterFrto.detection else s.detection := by
  unfold fireTimer
  split
  · rename_i due
    unfold tcpFsmTimer
    rw [pumpTail_detection,dispatchTimer_detection]
    split
    · rename_i out
      rw [if_pos ⟨due,out⟩]
      exact enterFrto_congr rfl rfl rfl
    · rename_i quiet
      rw [if_neg fun out => quiet out.2]
      rfl
  · rename_i early
    rw [if_neg fun out => early out.1]

end Ticks

section Calls
variable {e : Env} {s : TcpSession}

theorem tcpFsmIcmp_detection (m : IcmpMetadata) : (s.tcpFsmIcmp e m).detection = s.detection := by
  have updated : ∀ mtu version, (s.applyPmtuUpdate e mtu version).detection = s.detection := by
    intro mtu version
    unfold applyPmtuUpdate
    dsimp only
    split
    · split <;> rfl
    · split <;> rfl
  have synchronized : (s.synchronizedIcmp e m).detection = s.detection := by
    unfold synchronizedIcmp
    split
    · exact updated _ _
    · rfl
  unfold tcpFsmIcmp
  rw [pumpTail_detection]
  unfold dispatchIcmp
  split
  · rfl
  · rfl
  · unfold synSentIcmp
    split
    · split
      · exact changeState_detection _ _
      · split
        · rfl
        · split <;> rfl
    · exact updated _ _
    · rfl
  · exact synchronized

theorem abort_detection : (s.abort e).detection = s.detection := by
  have sent := transmitPacket_detection (e := e) (s := s) {flagRst := true,flagAck := true,seq := some s.sndSeq.nxt}
  unfold abort
  dsimp only
  generalize s.transmitPacket e {flagRst := true,flagAck := true,seq := some s.sndSeq.nxt} = t at sent ⊢
  rw [changeState_detection]
  split <;> first
    | exact sent
    | rfl

theorem tcpFsmSyscall_detection (call : SysCall) : (s.tcpFsmSyscall e call).detection = s.detection := by
  have opened : ∀ new, (s.openCall e new).detection = s.detection := by
    intro new
    unfold openCall
    split
    · exact changeState_detection _ _
    · rfl
  have closed : (s.closeCall e).detection = s.detection := by
    unfold closeCall
    split <;> first
      | rfl
      | exact changeState_detection _ _
  unfold tcpFsmSyscall
  rw [pumpTail_detection]
  cases call with
  | connect => exact opened _
  | listen => exact opened _
  | close => exact closed
  | abort => exact abort_detection

theorem send_detection (data : List UInt8) : (s.send e data).detection = s.detection := by
  have kicked : ∀ u : TcpSession, (u.kickPump e).detection = u.detection := by
    intro u
    unfold kickPump
    split <;> rfl
  unfold send
  split
  · rfl
  · split
    · exact kicked _
    · rfl

theorem shutdownWrite_detection : (s.shutdownWrite e).detection = s.detection := by
  unfold shutdownWrite
  split
  · rfl
  · exact tcpFsmSyscall_detection _

theorem receive_detection (byteCount : Option Nat) : (s.receive byteCount).2.detection = s.detection := by
  unfold receive
  split
  · rfl
  · split
    · rfl
    · split <;> rfl

end Calls
end TcpSession
end PmdPytcp.Tcp
