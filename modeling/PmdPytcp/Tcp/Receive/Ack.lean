import PmdPytcp.Tcp.Receive.Retransmit
import PmdPytcp.Tcp.Refine.Ack

namespace PmdPytcp.Tcp
open Arc

namespace TcpSession

variable {o : Occasion} {e : Env} {s s' : TcpSession} {hand : Hand} {p : TcpMetadata}

theorem requirePositive_frame {f : Pos → Outcome} (x : Int)
    (rest : ∀ y, ∃ cc, Outcome.session (f y) = {s with cc := cc}) :
    ∃ cc, Outcome.session (s.requirePositive x >>= f) = {s with cc := cc} := by
  rcases requirePositive_cases (s := s) x with failed | ⟨y,fine⟩
  · rw [failed]
    exact ⟨s.cc,rfl⟩
  · rw [fine]
    exact rest y

theorem updateCwnd_frame (n : Nat) : ∃ cc, Outcome.session (s.updateCwnd e n) = {s with cc := cc} := by
  unfold updateCwnd
  split
  · unfold proportionalReduction prrSndcnt
    dsimp only
    split
    · split
      · exact ⟨s.cc,rfl⟩
      · exact ⟨_,rfl⟩
    · exact ⟨_,rfl⟩
  · split
    · unfold growCubic
      dsimp only
      exact requirePositive_frame (s := {s with cc := {s.cc with cubicInCa := true}}) _
        fun _ => requirePositive_frame (s := {s with cc := {s.cc with cubicInCa := true}}) _ fun _ => ⟨_,rfl⟩
    · unfold growReno
      split
      · exact ⟨_,rfl⟩
      · exact requirePositive_frame _ fun _ => requirePositive_frame _ fun _ => ⟨_,rfl⟩

theorem phase1CumAckSideEffects_frame : ∃ q a mss n r d cc, Outcome.session (s.phase1CumAckSideEffects e p) = {s with
    sndSeq := q,plpmtudAdapter := a,win := {s.win with sndMss := mss},retransmitCount := n,rackTlp := r,timers := d
    cc := cc} := by
  unfold phase1CumAckSideEffects
  split
  · exact ⟨s.sndSeq,s.plpmtudAdapter,s.win.sndMss,s.retransmitCount,s.rackTlp,s.timers,s.cc,rfl⟩
  · dsimp only
    generalize shape : ({s with sndSeq := {s.sndSeq with una := p.tcpAck}} : TcpSession) = t
    have counted : ∃ a mss cc, ((t.followPlpmtud e).hystartRound.clearRecoverSeq).countPrrDelivered
        (arc s.sndSeq.una p.tcpAck) = {t with plpmtudAdapter := a,win := {t.win with sndMss := mss},cc := cc} := by
      obtain ⟨a,mss,first⟩ := followPlpmtud_shape (e := e) (s := t)
      obtain ⟨_,_,second,_⟩ := hystartRound_shape (s := t.followPlpmtud e)
      obtain ⟨_,third⟩ := clearRecoverSeq_shape (s := (t.followPlpmtud e).hystartRound)
      obtain ⟨_,fourth⟩ := countPrrDelivered_shape (s := (t.followPlpmtud e).hystartRound.clearRecoverSeq)
        (arc s.sndSeq.una p.tcpAck)
      rw [fourth,third,second,first]
      exact ⟨a,mss,_,rfl⟩
    obtain ⟨a,mss,cc,counted⟩ := counted
    rw [counted]
    generalize same : ({t with plpmtudAdapter := a,win := {t.win with sndMss := mss},cc := cc} : TcpSession) = u
    obtain ⟨cc',grown⟩ := updateCwnd_frame (e := e) (s := u) (arc s.sndSeq.una p.tcpAck)
    cases done : u.updateCwnd e (arc s.sndSeq.una p.tcpAck) with
    | error failure =>
      rw [done] at grown
      have grown : failure.2 = {u with cc := cc'} := grown
      refine ⟨{s.sndSeq with una := p.tcpAck},a,mss,s.retransmitCount,s.rackTlp,s.timers,cc',?_⟩
      show failure.2 = _
      rw [grown,← same,← shape]
    | ok v =>
      rw [done] at grown
      have grown : v = {u with cc := cc'} := grown
      obtain ⟨r,_,_,_,first,_⟩ := tlpAck_shape (s := {v.refreshEwn with retransmitCount := 0}) p
      obtain ⟨r',d,second⟩ := rearmRetransmit_shape (e := e)
        (s := ({v.refreshEwn with retransmitCount := 0} : TcpSession).tlpAck p)
      obtain ⟨_,_,_,_,_,_,third,_⟩ := phase2FrtoSpuriousDetect_shape
        (s := (({v.refreshEwn with retransmitCount := 0} : TcpSession).tlpAck p).rearmRetransmit e)
      have whole : ∃ cc, ((({v.refreshEwn with retransmitCount := 0} : TcpSession).tlpAck p).rearmRetransmit
          e).phase2FrtoSpuriousDetect = {v with retransmitCount := 0,rackTlp := r',timers := d,cc := cc} := by
        rw [third,second,first]
        exact ⟨_,rfl⟩
      obtain ⟨cc'',whole⟩ := whole
      refine ⟨{s.sndSeq with una := p.tcpAck},a,mss,0,r',d,cc'',whole.trans ?_⟩
      rw [grown,← same,← shape]

theorem phase1CumAckSideEffects_receiver :
    (Outcome.session (s.phase1CumAckSideEffects e p)).receiver hand = s.receiver hand := by
  obtain ⟨_,_,_,_,_,_,_,shape⟩ := phase1CumAckSideEffects_frame (e := e) (s := s) (p := p)
  rw [shape]
  rfl

theorem ingestSackInfo_frame : ∃ n r b cc, s.ingestSackInfo p =
    {s with dsackReceived := n,rackTlp := r,sackScoreboard := b,cc := cc} := by
  unfold ingestSackInfo
  split
  · exact ⟨s.dsackReceived,s.rackTlp,s.sackScoreboard,s.cc,rfl⟩
  · split
    · obtain ⟨_,_,_,_,_,_,shape,_⟩ := ingestDsack_shape (s := s)
      rw [shape]
      exact ⟨_,_,_,_,rfl⟩
    · exact ⟨s.dsackReceived,s.rackTlp,_,_,rfl⟩

theorem acknowledged_frame : ∃ q rto rtt n r b d cc, ((((s.phase3HarvestRttSamples e p).pruneSackScoreboard).ingestSackInfo
    p).phase4LossDetectionAndRecoveryExit e p).catchUpNxt = {s with
      sndSeq := q,rtoState := rto,rtt := rtt,dsackReceived := n,rackTlp := r,sackScoreboard := b,timers := d,cc := cc} := by
  obtain ⟨rto,_,rtt,first,_⟩ := phase3HarvestRttSamples_shape (e := e) (s := s) p
  obtain ⟨n,_,b,_,second⟩ := ingestSackInfo_frame (s := (s.phase3HarvestRttSamples e p).pruneSackScoreboard) (p := p)
  obtain ⟨r,d,_,_,_,_,_,_,_,third,_⟩ := phase4_shape (e := e)
    (s := ((s.phase3HarvestRttSamples e p).pruneSackScoreboard).ingestSackInfo p) p
  have caught : ∀ t : TcpSession, ∃ q, t.catchUpNxt = {t with sndSeq := q} := by
    intro t
    unfold catchUpNxt
    split
    · exact ⟨_,rfl⟩
    · exact ⟨t.sndSeq,rfl⟩
  obtain ⟨q,fourth⟩ := caught ((((s.phase3HarvestRttSamples e p).pruneSackScoreboard).ingestSackInfo
    p).phase4LossDetectionAndRecoveryExit e p)
  have whole : ∃ cc, ((((s.phase3HarvestRttSamples e p).pruneSackScoreboard).ingestSackInfo
      p).phase4LossDetectionAndRecoveryExit e p) = {s with
        rtoState := rto,rtt := rtt,dsackReceived := n,rackTlp := r,sackScoreboard := b,timers := d,cc := cc} := by
    rw [third,second,pruneSackScoreboard_shape,first]
    exact ⟨_,rfl⟩
  obtain ⟨cc,whole⟩ := whole
  refine ⟨q,rto,rtt,n,r,b,d,cc,fourth.trans ?_⟩
  rw [whole]

theorem acknowledged_receiver : ((((s.phase3HarvestRttSamples e p).pruneSackScoreboard).ingestSackInfo
    p).phase4LossDetectionAndRecoveryExit e p).catchUpNxt.receiver hand = s.receiver hand := by
  obtain ⟨_,_,_,_,_,_,_,_,shape⟩ := acknowledged_frame (e := e) (s := s) (p := p)
  rw [shape]
  rfl

theorem noteOverlap_intakes (calm : hand ≠ .settling) :
    Intakes o (s.receiver hand) ((s.noteOverlap p).receiver hand) := by
  unfold noteOverlap
  split
  · rename_i noted
    have small : s.overlapPrefix p < 2^32 := by
      unfold overlapPrefix
      split
      · exact arc_lt _ _
      · decide
    refine .single (.note _ _ noted.1 ?_ calm)
    intro empty
    have empty : p.tcpSeq = add32 p.tcpSeq (s.overlapPrefix p) := empty
    have long := arc_add32 p.tcpSeq small
    rw [← empty,arc_self] at long
    omega
  · exact .refl

theorem noteOverlap_receiver :
    (s.noteOverlap p).receiver hand = {s.receiver hand with dsack := (s.noteOverlap p).pendingDsack} := by
  unfold noteOverlap
  split <;> rfl

theorem advanceRcvNxt_receiver : (s.advanceRcvNxt p).receiver hand = {s.receiver hand with
    nxt := if lt32 s.rcvSeq.nxt p.segEnd then p.segEnd else s.rcvSeq.nxt
    count := if lt32 s.rcvSeq.nxt p.segEnd then s.rcvSeq.count + arc s.rcvSeq.nxt p.segEnd else s.rcvSeq.count} := by
  unfold advanceRcvNxt
  split <;> rfl

theorem enqueueRxBuffer_receiver (data : List UInt8) :
    (s.enqueueRxBuffer data).receiver hand = (s.receiver hand).accept data := by
  have accepted : (s.receiver hand).accept data = {s.receiver hand with
      buffer := s.rxBuffer ++ if s.shut.rd then [] else data
      delivered := s.delivered ++ if s.shut.rd then [] else data} := rfl
  unfold enqueueRxBuffer
  rw [accepted]
  split
  · simp only [List.append_nil]
    rfl
  · rfl

theorem ackEverySecond_intakes (was : Receiver)
    (counted : ({s with delayedAckSegmentsPending := s.delayedAckSegmentsPending + 1} : TcpSession).receiver .settling =
      was) :
    Intakes o was ((s.ackEverySecond e).receiver .settling) := by
  unfold ackEverySecond
  dsimp only
  split
  · rename_i due
    obtain ⟨seg,composed,out⟩ := @transmitPacket_receiver e {s with delayedAckSegmentsPending := s.delayedAckSegmentsPending + 1} .settling {flagAck := true}
    rw [out,← counted]
    exact .single (.emit _ seg composed (.inr ⟨rfl,due⟩))
  · rw [← counted]
    exact .refl

structure Readable (p : TcpMetadata) (s : TcpSession) : Prop where
  takes : taking s.state = true
  plain : p.tcpFlagSyn = false
  joined : p.tcpSeq = s.rcvSeq.nxt ∨ lt32 p.tcpSeq s.rcvSeq.nxt = true

theorem Readable.same (readable : s.Readable p) (same : s'.receiver .idle = s.receiver .idle) : s'.Readable p := by
  have state : s'.state = s.state := congrArg Receiver.state same
  have nxt : s'.rcvSeq.nxt = s.rcvSeq.nxt := congrArg Receiver.nxt same
  refine ⟨?_,readable.plain,?_⟩
  · rw [state]
    exact readable.takes
  · rw [nxt]
    exact readable.joined

theorem consumePayload_intakes (held : hand = .fresh p ∨ hand = .stored p) (readable : s.Readable p) :
    Intakes o (s.receiver hand) ((s.consumePayload e p).receiver .settling) := by
  have calm : hand ≠ .settling := by
    rcases held with rfl | rfl <;> exact nofun
  refine (noteOverlap_intakes (p := p) calm).trans ?_
  have noted := @noteOverlap_receiver s .idle p
  have state : (s.noteOverlap p).state = s.state := congrArg Receiver.state noted
  have nxt : (s.noteOverlap p).rcvSeq.nxt = s.rcvSeq.nxt := congrArg Receiver.nxt noted
  have readable : (s.noteOverlap p).Readable p := ⟨state ▸ readable.takes,readable.plain,nxt ▸ readable.joined⟩
  have overlap : s.overlapPrefix p = ((s.noteOverlap p).receiver hand).overlap p := by
    unfold noteOverlap
    split <;> rfl
  have whole : s.consumePayload e p = if s.overlapPrefix p < p.tcpData.length then
      (((s.noteOverlap p).advanceRcvNxt p).enqueueRxBuffer (p.tcpData.drop (s.overlapPrefix p))).ackEverySecond e
    else (s.noteOverlap p).advanceRcvNxt p := rfl
  rw [whole,overlap]
  generalize s.noteOverlap p = t at readable ⊢
  refine .head (.consume _ p held readable.takes readable.plain readable.joined) ?_
  split
  · rename_i some
    apply ackEverySecond_intakes
    have loaded := @enqueueRxBuffer_receiver (t.advanceRcvNxt p) .settling
      (p.tcpData.drop ((t.receiver hand).overlap p))
    rw [advanceRcvNxt_receiver] at loaded
    generalize (t.advanceRcvNxt p).enqueueRxBuffer (p.tcpData.drop ((t.receiver hand).overlap p)) = u at loaded ⊢
    have pending : u.delayedAckSegmentsPending = t.delayedAckSegmentsPending := congrArg Receiver.pending loaded
    show {u.receiver .settling with pending := u.delayedAckSegmentsPending + 1} = _
    rw [loaded,pending]
    unfold Receiver.consume
    rw [if_pos some]
    rfl
  · rename_i nothing
    rw [advanceRcvNxt_receiver]
    have dropped : p.tcpData.drop ((t.receiver hand).overlap p) = [] := List.drop_eq_nil_of_le (by omega)
    have fresh : (t.receiver hand).fresh p = [] := by
      unfold Receiver.fresh
      rw [dropped]
      split <;> rfl
    unfold Receiver.consume
    rw [if_neg nothing,fresh,List.append_nil,List.append_nil]
    exact .refl

theorem consumePayload_bare (empty : p.tcpData = []) (only : p.OnlyAck) (here : p.tcpSeq = s.rcvSeq.nxt) :
    s.consumePayload e p = s := by
  have long : p.segLen = 0 := by
    simp [TcpMetadata.segLen,empty,only.2.1,only.2.2.2]
  have still : lt32 s.rcvSeq.nxt p.segEnd = false := by
    rw [TcpMetadata.segEnd,long,here]
    simp [add32]
  have overlap : s.overlapPrefix p = 0 := by
    unfold overlapPrefix
    rw [here,lt32_self]
    rfl
  have noted : s.noteOverlap p = s := by
    unfold noteOverlap
    rw [overlap]
    simp
  unfold consumePayload
  rw [noted,overlap,empty]
  unfold advanceRcvNxt
  rw [still]
  rfl

theorem takeWindowAndPurge_receiver : (s.takeWindowAndPurge e p).receiver hand =
    {s.receiver hand with ooo := s.oooPacketQueue.filter fun q => !lt32 q.1.tcpSeq s.rcvSeq.nxt} := by
  obtain ⟨_,_,_,_,shape,_⟩ := takeWindowAndPurge_shape (e := e) (s := s) p
  rw [shape]
  rfl

theorem afterAck_intakes (held : hand = .fresh p ∨ hand = .stored p) (readable : s.Readable p) :
    Intakes o (s.receiver hand) ((s.afterAck e p).receiver .idle) := by
  unfold afterAck settleAck
  have begun : ∀ hand, ((((s.phase3HarvestRttSamples e p).pruneSackScoreboard).ingestSackInfo
    p).phase4LossDetectionAndRecoveryExit e p).catchUpNxt.receiver hand = s.receiver hand := fun _ => acknowledged_receiver
  generalize ((((s.phase3HarvestRttSamples e p).pruneSackScoreboard).ingestSackInfo
    p).phase4LossDetectionAndRecoveryExit e p).catchUpNxt = t at begun ⊢
  rw [← begun]
  refine (consumePayload_intakes (e := e) held (readable.same (begun .idle))).trans ?_
  generalize t.consumePayload e p = u
  rw [takeWindowAndPurge_receiver]
  exact .single (.purge _ rfl)

theorem consumePayload_state : (s.consumePayload e p).state = s.state := by
  have advanced := @advanceRcvNxt_receiver (s.noteOverlap p) .idle p
  rw [noteOverlap_receiver] at advanced
  unfold consumePayload
  dsimp only
  generalize (s.noteOverlap p).advanceRcvNxt p = t at advanced ⊢
  have state : t.state = s.state := congrArg Receiver.state advanced
  split
  · have loaded := @enqueueRxBuffer_receiver t .idle (p.tcpData.drop (s.overlapPrefix p))
    generalize t.enqueueRxBuffer (p.tcpData.drop (s.overlapPrefix p)) = u at loaded ⊢
    have state : u.state = s.state := (congrArg Receiver.state loaded).trans state
    unfold ackEverySecond
    dsimp only
    split
    · obtain ⟨seg,_,out⟩ := @transmitPacket_receiver e {u with delayedAckSegmentsPending := u.delayedAckSegmentsPending + 1} .idle {flagAck := true}
      exact (congrArg Receiver.state out).trans state
    · exact state
  · exact state

theorem afterAck_state : (s.afterAck e p).state = s.state := by
  have begun := @acknowledged_receiver e s .idle p
  unfold afterAck settleAck
  generalize ((((s.phase3HarvestRttSamples e p).pruneSackScoreboard).ingestSackInfo
    p).phase4LossDetectionAndRecoveryExit e p).catchUpNxt = t at begun ⊢
  have state := consumePayload_state (e := e) (s := t) (p := p)
  generalize t.consumePayload e p = u at state ⊢
  have settled := @takeWindowAndPurge_receiver e u.drainTx .idle p
  exact (congrArg Receiver.state settled).trans (state.trans (congrArg Receiver.state begun))

theorem checkPaws_receiver (passed : (s.checkPawsAndUpdateTsRecent e p).1 = true) :
    (s.checkPawsAndUpdateTsRecent e p).2.receiver hand = s.receiver hand := by
  rcases checkPaws_shape (e := e) (s := s) p with ⟨_,ts,shape,sendTs⟩ | ⟨failed,_⟩
  · rw [shape]
    unfold receiver
    rw [sendTs]
  · cases failed.symm.trans passed

theorem checkPaws_told : Told o s (s.checkPawsAndUpdateTsRecent e p).2 := by
  rcases checkPaws_shape (e := e) (s := s) p with ⟨passed,_⟩ | ⟨_,same | challenged⟩
  · exact .same (checkPaws_receiver passed)
  · rw [same]
    exact .rfl
  · rw [challenged]
    exact emitChallengeAck_told

def Held (o : Occasion) (p : TcpMetadata) (hand : Hand) : Prop := hand = .fresh p ∨ hand = .stored p ∧ o.lossy

def Takes (o : Occasion) (hand : Hand) (s : TcpSession) (out : Outcome) : Prop :=
  Intakes o (s.receiver hand) (out.session.receiver .idle)

theorem Held.drops (held : Held o p hand) {out : Outcome} (told : Told o s out.session) : Takes o hand s out :=
  .head (.discard _ p held) told

def Restores (o : Occasion) (replay : TcpMetadata → TcpSession → Outcome) : Prop :=
  ∀ (q : Stored) (t : TcpSession), taking t.state = true → Takes o (.stored q.1) t (replay q.1 t)

theorem replayOoo_told {replay : TcpMetadata → TcpSession → Outcome} (restores : Restores o replay)
    (takes : taking s.state = true) : Told o s (s.replayOoo replay).session := by
  unfold replayOoo
  cases found : s.oooPacketQueue.find s.rcvSeq.nxt with
  | none => exact .refl
  | some q =>
    refine .head (.pop _ q found rfl) ?_
    exact restores q {s with oooPacketQueue := s.oooPacketQueue.drop s.rcvSeq.nxt} takes

theorem processAckPacket_takes {replay : TcpMetadata → TcpSession → Outcome} (held : Held o p hand)
    (readable : s.Readable p) (restores : Restores o replay) : Takes o hand s (s.processAckPacket replay e p) := by
  have held' : hand = .fresh p ∨ hand = .stored p := held.imp_right And.left
  rw [processAckPacket_eq]
  split
  · rename_i passed
    have begun : ∀ hand, ((s.checkPawsAndUpdateTsRecent e p).2.keepaliveArmIdle e).receiver hand = s.receiver hand :=
      fun _ => keepaliveArmIdle_receiver.trans (checkPaws_receiver passed)
    generalize (s.checkPawsAndUpdateTsRecent e p).2.keepaliveArmIdle e = t at begun ⊢
    have first : ∀ hand, (Outcome.session (t.phase1CumAckSideEffects e p)).receiver hand = s.receiver hand :=
      fun hand => phase1CumAckSideEffects_receiver.trans (begun hand)
    cases done : t.phase1CumAckSideEffects e p with
    | error failure =>
      rw [done] at first
      exact held.drops (.same (first .idle))
    | ok s₁ =>
      rw [done] at first
      show Intakes o (s.receiver hand) (((s₁.afterAck e p).replayOoo replay).session.receiver .idle)
      rw [← first]
      have readable := readable.same (first .idle)
      refine (afterAck_intakes held' readable).trans (replayOoo_told restores ?_)
      rw [afterAck_state]
      exact readable.takes
  · exact held.drops checkPaws_told

-- A segment with nothing new, while nothing is stored.
structure Spent (p : TcpMetadata) (s : TcpSession) : Prop where
  covered : p.tcpData.length ≤ s.overlapPrefix p
  still : lt32 s.rcvSeq.nxt p.segEnd = false
  alone : s.oooPacketQueue = []

theorem Spent.same (spent : s.Spent p) (same : s'.receiver .idle = s.receiver .idle) : s'.Spent p := by
  have nxt : s'.rcvSeq.nxt = s.rcvSeq.nxt := congrArg Receiver.nxt same
  have overlap : s'.overlapPrefix p = s.overlapPrefix p := congrArg (Receiver.overlap p) same
  have queue : s'.oooPacketQueue = s.oooPacketQueue := congrArg Receiver.ooo same
  exact ⟨overlap ▸ spent.covered,nxt ▸ spent.still,queue ▸ spent.alone⟩

theorem emitChallengeAck_state : (s.emitChallengeAck e).state = s.state := by
  unfold emitChallengeAck
  split
  · rfl
  · obtain ⟨seg,_,out⟩ := @transmitPacket_receiver e s .idle {flagAck := true}
    exact congrArg Receiver.state out

theorem checkPaws_state : (s.checkPawsAndUpdateTsRecent e p).2.state = s.state := by
  rcases checkPaws_shape (e := e) (s := s) p with ⟨_,ts,shape,_⟩ | ⟨_,same | challenged⟩
  · rw [shape]
  · rw [same]
  · rw [challenged]
    exact emitChallengeAck_state

theorem spent_afterAck (spent : s.Spent p) : ∃ block, (s.afterAck e p).receiver .idle =
    {s.receiver .idle with dsack := block} ∧ Intakes o (s.receiver .idle) {s.receiver .idle with dsack := block} := by
  have begun : ∀ hand, ((((s.phase3HarvestRttSamples e p).pruneSackScoreboard).ingestSackInfo
    p).phase4LossDetectionAndRecoveryExit e p).catchUpNxt.receiver hand = s.receiver hand := fun _ => acknowledged_receiver
  unfold afterAck settleAck
  generalize ((((s.phase3HarvestRttSamples e p).pruneSackScoreboard).ingestSackInfo
    p).phase4LossDetectionAndRecoveryExit e p).catchUpNxt = t at begun ⊢
  have beyond := spent.same (begun .idle)
  have noted := @noteOverlap_receiver t .idle p
  have nxt : (t.noteOverlap p).rcvSeq.nxt = t.rcvSeq.nxt := congrArg Receiver.nxt noted
  have queue : (t.noteOverlap p).oooPacketQueue = [] := (congrArg Receiver.ooo noted).trans beyond.alone
  have consumed : t.consumePayload e p = t.noteOverlap p := by
    have whole : t.consumePayload e p = if t.overlapPrefix p < p.tcpData.length then
        (((t.noteOverlap p).advanceRcvNxt p).enqueueRxBuffer (p.tcpData.drop (t.overlapPrefix p))).ackEverySecond e
      else (t.noteOverlap p).advanceRcvNxt p := rfl
    have covered := beyond.covered
    rw [whole,if_neg (by omega)]
    unfold advanceRcvNxt
    rw [nxt,beyond.still]
    rfl
  refine ⟨(t.noteOverlap p).pendingDsack,?_,?_⟩
  · have left : (t.noteOverlap p).oooPacketQueue.filter (fun q => !lt32 q.1.tcpSeq (t.noteOverlap p).rcvSeq.nxt) =
        (t.noteOverlap p).oooPacketQueue := by
      rw [queue]
      rfl
    rw [consumed,takeWindowAndPurge_receiver,← begun,← noted]
    show {(t.noteOverlap p).receiver .idle with
      ooo := (t.noteOverlap p).oooPacketQueue.filter fun q => !lt32 q.1.tcpSeq (t.noteOverlap p).rcvSeq.nxt} = _
    rw [left]
    rfl
  · rw [← begun,← noted]
    exact noteOverlap_intakes nofun

theorem spent_told {replay : TcpMetadata → TcpSession → Outcome} (spent : s.Spent p) :
    Told o s (s.processAckPacket replay e p).session ∧ (s.processAckPacket replay e p).session.state = s.state := by
  rw [processAckPacket_eq]
  split
  · rename_i passed
    have begun : ((s.checkPawsAndUpdateTsRecent e p).2.keepaliveArmIdle e).receiver .idle = s.receiver .idle :=
      keepaliveArmIdle_receiver.trans (checkPaws_receiver passed)
    generalize (s.checkPawsAndUpdateTsRecent e p).2.keepaliveArmIdle e = t at begun ⊢
    have first : (Outcome.session (t.phase1CumAckSideEffects e p)).receiver .idle = s.receiver .idle :=
      phase1CumAckSideEffects_receiver.trans begun
    cases done : t.phase1CumAckSideEffects e p with
    | error failure =>
      rw [done] at first
      exact ⟨.same first,congrArg Receiver.state first⟩
    | ok s₁ =>
      rw [done] at first
      have first : s₁.receiver .idle = s.receiver .idle := first
      obtain ⟨block,settled,path⟩ := spent_afterAck (o := o) (e := e) (spent.same first)
      rw [first] at settled path
      have queue : (s₁.afterAck e p).oooPacketQueue = [] := (congrArg Receiver.ooo settled).trans spent.alone
      have stopped : (s₁.afterAck e p).replayOoo replay = .ok (s₁.afterAck e p) := by
        unfold replayOoo
        rw [queue]
        rfl
      show Intakes o (s.receiver .idle) (((s₁.afterAck e p).replayOoo replay).session.receiver .idle) ∧
        ((s₁.afterAck e p).replayOoo replay).session.state = s.state
      rw [stopped]
      refine ⟨?_,congrArg Receiver.state settled⟩
      show Intakes o (s.receiver .idle) ((s₁.afterAck e p).receiver .idle)
      rw [settled]
      exact path
  · exact ⟨checkPaws_told,checkPaws_state⟩

end TcpSession

end PmdPytcp.Tcp
