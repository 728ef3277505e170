import PmdPytcp.Tcp.Receive.Options
import PmdPytcp.Tcp.Receiver
import PmdPytcp.Tcp.Frame

namespace PmdPytcp.Tcp
open Arc

namespace TcpSession

-- The receiver a session is while it deals with a segment.
def receiver (hand : Hand) (s : TcpSession) : Receiver where
  state := s.state
  nxt := s.rcvSeq.nxt
  count := s.rcvSeq.count
  buffer := s.rxBuffer
  delivered := s.delivered
  shut := s.shut.rd
  ooo := s.oooPacketQueue
  dsack := s.pendingDsack
  pending := s.delayedAckSegmentsPending
  sendSack := s.advertise.sendSack
  sendTs := s.ts.sendTs
  wndMax := s.win.rcvWndMax
  mss := s.win.rcvMss
  wsc := s.win.rcvWsc
  advertises := s.advertise.wscale
  scales := s.win.peerOffers
  cookie := s.fastopen.cookieToEmit
  told := s.log.filterMap Obs.segment
  hand := hand

variable {o : Occasion} {e : Env} {s s' s'' : TcpSession} {hand : Hand}

def Told (o : Occasion) (s s' : TcpSession) : Prop := Intakes o (s.receiver .idle) (s'.receiver .idle)

theorem Told.trans (first : Told o s s') (second : Told o s' s'') : Told o s s'' :=
  Relation.ReflTransGen.trans first second

theorem Told.same (same : s'.receiver .idle = s.receiver .idle) : Told o s s' := by
  unfold Told
  rw [same]

theorem Told.rfl : Told o s s := .same (Eq.refl _)

theorem sackBlocksField_some (m : Emit) : (s.sackBlocksField m).1 =
    if !m.flagSyn && (s.receiver hand).reports then some (s.receiver hand).blocks else none := by
  unfold sackBlocksField Receiver.reports
  rw [Bool.and_assoc]
  split
  · rename_i on
    exact (if_pos on).symm
  · rename_i off
    exact (if_neg off).symm

theorem sackBlocksField_receiver (m : Emit) : (s.sackBlocksField m).2.receiver hand =
    {s.receiver hand with dsack := if (s.sackBlocksField m).1.isSome then none else s.pendingDsack} := by
  unfold sackBlocksField
  split
  · rfl
  · rfl

theorem ecnBits_receiver (m : Emit) : (s.ecnBits m).2.receiver hand = s.receiver hand := by
  unfold ecnBits
  split
  · rfl
  · split
    · rfl
    · split
      · rfl
      · split
        · rfl
        · split
          · rfl
          · split <;> rfl

theorem phase1ComposeEcnFlags_receiver (m : Emit) : (s.phase1ComposeEcnFlags m).2.receiver hand = s.receiver hand := by
  have bits := @ecnBits_receiver s hand m
  unfold phase1ComposeEcnFlags
  rcases same : s.ecnBits m with ⟨⟨ece,cwr,ns⟩,s'⟩
  rw [same] at bits
  dsimp only at bits ⊢
  split
  · exact bits
  · exact bits

theorem phase2BuildAccecnCounters_receiver (m : Emit) :
    (s.phase2BuildAccecnCounters m).2.receiver hand = s.receiver hand := by
  unfold phase2BuildAccecnCounters
  split
  · rfl
  · rfl

theorem composeSegment_receiver (seq : Seq32) (m : Emit) : (s.composeSegment e seq m).2.receiver hand =
    {s.receiver hand with dsack := if (s.sackBlocksField m).1.isSome then none else s.pendingDsack} := by
  show (((s.sackBlocksField m).2.phase1ComposeEcnFlags m).2.phase2BuildAccecnCounters m).2.receiver hand = _
  rw [phase2BuildAccecnCounters_receiver,phase1ComposeEcnFlags_receiver,sackBlocksField_receiver]

theorem composeSegment_composes (seq : Seq32) (m : Emit) : Composes (s.receiver hand) (s.composeSegment e seq m).1 where
  ack := by
    intro flag
    have flag : m.flagAck = true := flag
    exact if_pos flag
  win := rfl
  wscale := by
    show s.wscaleField m = if m.flagSyn then some (if s.advertise.wscale then s.win.rcvWsc else 0) else none
    unfold wscaleField
    cases m.flagSyn with
    | false => rfl
    | true => cases s.advertise.wscale <;> rfl
  sack := sackBlocksField_some m
  options := by
    intro issued
    rw [composeSegment_fits seq m issued]
    show ¬s.Crowded m ↔ decide (s.Crowded m) = false
    rw [decide_eq_false_iff_not]
  moment := rfl

theorem phase0PreSendHygiene_receiver (seq : Seq32) (m : Emit) :
    (s.phase0PreSendHygiene e seq m).receiver hand = s.receiver hand := by
  obtain ⟨_,_,_,_,shape,_⟩ := phase0PreSendHygiene_shape (e := e) (s := s) seq m
  rw [shape]
  rfl

theorem sendTcpPacket_receiver (seg : Segment) :
    (s.sendTcpPacket seg).receiver hand = (s.receiver hand).told1 seg := by
  have segment : (s.observe seg).segment = some seg := by
    unfold observe
    split <;> rfl
  unfold sendTcpPacket receiver Receiver.told1
  rw [List.filterMap_append,List.filterMap_cons_some segment,List.filterMap_nil]

theorem phase4AdvanceSendState_receiver (seq : Seq32) (m : Emit) : (s.phase4AdvanceSendState e seq m).receiver hand =
    {s.receiver hand with pending := if m.flagAck then 0 else (s.receiver hand).pending} := by
  have rack : (s.recordRack e seq m).receiver hand = s.receiver hand := by
    unfold recordRack
    split <;> rfl
  have prr : ∀ t : TcpSession, (t.countPrrOut m).receiver hand = t.receiver hand := by
    intro t
    unfold countPrrOut
    split <;> rfl
  unfold phase4AdvanceSendState
  dsimp only
  generalize s.recordRack e seq m = t at rack
  cases m.flagAck with
  | true =>
    show {((_ : TcpSession).countPrrOut m).receiver hand with pending := 0} = _
    rw [prr,← rack]
    rfl
  | false =>
    show ((_ : TcpSession).countPrrOut m).receiver hand = _
    rw [prr,← rack]
    rfl

theorem phase5PostSendTimers_receiver (m : Emit) :
    (s.phase5PostSendTimers e m).receiver hand = s.receiver hand := by
  obtain ⟨_,_,_,shape⟩ := phase5PostSendTimers_shape (e := e) (s := s) m
  rw [shape]
  rfl

-- One call of `_transmit_packet` is one emission.
theorem transmitPacket_receiver (m : Emit) : ∃ seg, Composes (s.receiver hand) seg ∧
    (s.transmitPacket e m).receiver hand = (s.receiver hand).emit seg := by
  let s₀ := s.phase0PreSendHygiene e (m.seq.getD s.sndSeq.nxt) m
  have begun : s₀.receiver hand = s.receiver hand := phase0PreSendHygiene_receiver _ m
  refine ⟨(s₀.composeSegment e (m.seq.getD s.sndSeq.nxt) m).1,?_,?_⟩
  · rw [← begun]
    exact composeSegment_composes _ m
  · rw [transmitPacket_eq m _ rfl,phase5PostSendTimers_receiver,phase4AdvanceSendState_receiver,sendTcpPacket_receiver,
      composeSegment_receiver,← begun]
    rfl

theorem transmitPacket_told (m : Emit) : Told o s (s.transmitPacket e m) := by
  obtain ⟨seg,composed,out⟩ := @transmitPacket_receiver e s .idle m
  unfold Told
  rw [out]
  exact .single (.emit _ seg composed (.inl (Eq.refl _)))

theorem Told.then (first : Told o s s') (same : s''.receiver .idle = s'.receiver .idle) : Told o s s'' :=
  first.trans (.same same)

theorem Told.behind (same : s'.receiver .idle = s.receiver .idle) (second : Told o s' s'') : Told o s s'' :=
  (Told.same same).trans second

theorem keepaliveArmIdle_receiver : (s.keepaliveArmIdle e).receiver hand = s.receiver hand := by
  obtain ⟨_,_,shape⟩ := keepaliveArmIdle_shape (e := e) (s := s)
  rw [shape]
  rfl

theorem pumps_told : Pumps e (Told o) where
  refl _ := .rfl
  trans first second := first.trans second
  sends _ m := transmitPacket_told m
  skips _ _ := .same (Eq.refl _)
  marks _ := .same (Eq.refl _)
  searches _ _ := .same (Eq.refl _)
  persists _ _ _ := .same (Eq.refl _)

theorem transmitData_told : Told o s (s.transmitData e) := pumps_told.transmitData

theorem emitChallengeAck_told : Told o s (s.emitChallengeAck e) :=
  pumps_told.emitChallengeAck fun _ _ => .same (Eq.refl _)

theorem delayedAck_told : Told o s (s.delayedAck e) := pumps_told.delayedAck fun _ => .same (Eq.refl _)

theorem changeState_receiver (new : FsmState) (cause : Option Seq32) :
    (s.changeState e new cause).receiver hand = (s.receiver hand).moveTo new := by
  let s₁ : TcpSession := {s with state := new,log := s.log ++ [.moved s.state new cause]}
  have begun : s₁.receiver hand = {s.receiver hand with state := new} := by
    unfold receiver
    dsimp only
    rw [List.filterMap_append,show [Obs.moved s.state new cause].filterMap Obs.segment = [] from rfl,List.append_nil]
  have left : ∀ t : TcpSession, (leaveEstablished s.state new t).receiver hand = t.receiver hand := by
    intro t
    unfold leaveEstablished
    split <;> rfl
  have cleared : ∀ t : TcpSession, (leaveSynRcvd s.state new t).receiver hand =
      {t.receiver hand with cookie := if s.state = .synRcvd ∧ new ≠ .synRcvd then none else t.fastopen.cookieToEmit} := by
    intro t
    unfold leaveSynRcvd
    split <;> rfl
  have woken : ∀ t : TcpSession, (wakeReader new t).receiver hand = t.receiver hand := by
    intro t
    unfold wakeReader
    split <;> rfl
  have settled : ∀ t : TcpSession, (settleTimers new t).receiver hand = t.receiver hand := by
    intro t
    unfold settleTimers
    split <;> rfl
  have whole : (settleTimers new (wakeReader new (leaveSynRcvd s.state new (leaveEstablished s.state new s₁)))).receiver
      hand = (s.receiver hand).moveTo new := by
    have kept : (leaveEstablished s.state new s₁).fastopen = s.fastopen := by
      unfold leaveEstablished
      split <;> rfl
    rw [settled,woken,cleared,kept,left,begun]
    rfl
  unfold changeState
  dsimp only
  split
  · rw [keepaliveArmIdle_receiver]
    exact whole
  · exact whole

theorem changeState_told (new : FsmState) (cause : Option Seq32) (later : new ≠ .listen ∧ new ≠ .synSent)
    (answers : new = .synRcvd → s.state = .listen ∨ s.state = .synSent) :
    Told o s (s.changeState e new cause) := by
  unfold Told
  rw [changeState_receiver]
  exact .single (.move _ new (Eq.refl _) later answers)

theorem changeState_late (new : FsmState) (cause : Option Seq32) (late : handshaking new = false) :
    Told o s (s.changeState e new cause) := by
  refine changeState_told new cause ⟨?_,?_⟩ ?_
  · rintro rfl
    cases late
  · rintro rfl
    cases late
  · rintro rfl
    cases late

end TcpSession

end PmdPytcp.Tcp
