import PmdPytcp.Tcp.Receive.Tx
import PmdPytcp.Tcp.Run

namespace PmdPytcp.Tcp
open Arc

namespace TcpSession

variable {o : Occasion} {e : Env} {s s' : TcpSession} {hand : Hand} {p : TcpMetadata}

theorem reportTimeout_receiver : s.reportTimeout.receiver hand = s.receiver hand := by
  unfold reportTimeout
  split <;> rfl

theorem abortForTimeout_told : Told o s (s.abortForTimeout e) := by
  unfold abortForTimeout
  dsimp only
  have reset : Told o s
      (if s.peerContacted then s.transmitPacket e {flagRst := true,flagAck := true,seq := some s.sndSeq.una} else s) := by
    split
    · exact transmitPacket_told _
    · exact .rfl
  generalize (if s.peerContacted then s.transmitPacket e {flagRst := true,flagAck := true,seq := some s.sndSeq.una}
    else s) = t at reset ⊢
  exact (reset.then reportTimeout_receiver).trans (changeState_late .closed none rfl)

theorem countSynRetransmit_receiver : s.countSynRetransmit.receiver hand = s.receiver hand := by
  unfold countSynRetransmit
  split
  · show ({s with fastopen := _} : TcpSession).receiver hand = _
    split <;> rfl
  · rfl

theorem shrinkMssToEngine_receiver : s.shrinkMssToEngine.receiver hand = s.receiver hand := by
  unfold shrinkMssToEngine
  split <;> rfl

theorem enterFrto_receiver : s.enterFrto.receiver hand = s.receiver hand := by
  unfold enterFrto
  split <;> rfl

theorem ssthreshForTimeout_receiver : (s.ssthreshForTimeout e).receiver hand = s.receiver hand := by
  unfold ssthreshForTimeout
  split <;> rfl

theorem walkBackSeqMod_receiver : s.walkBackSeqMod.receiver hand = s.receiver hand := by
  unfold walkBackSeqMod
  split <;> rfl

theorem retransmitPacketTimeout_told : Told o s (s.retransmitPacketTimeout e) := by
  unfold retransmitPacketTimeout
  split
  · exact .rfl
  · split
    · exact .rfl
    · split
      · exact abortForTimeout_told
      · apply Told.same
        dsimp only
        have counted : (s.backOffForTimeout e).shrinkMssToEngine.countSynRetransmit.receiver .idle = s.receiver .idle := by
          rw [countSynRetransmit_receiver,shrinkMssToEngine_receiver]
          rfl
        generalize (s.backOffForTimeout e).shrinkMssToEngine.countSynRetransmit = t at counted ⊢
        rw [walkBackSeqMod_receiver]
        show ((t.armTimer e .retransmit t.rtoState.rtoMs).enterFrto.ssthreshForTimeout e).receiver .idle = _
        rw [ssthreshForTimeout_receiver,enterFrto_receiver]
        exact counted

theorem rackTakeAcked_receiver : (s.rackTakeAcked e p).receiver hand = s.receiver hand := by
  unfold rackTakeAcked
  dsimp only
  split <;> rfl

theorem rackDetect_receiver : (s.rackDetect e).receiver hand = s.receiver hand := by
  unfold rackDetect
  rcases rackDetectLoss s.rackTlp.rackSegments s.rackTlp.rackXmitTs s.rackTlp.rackEndSeq (rackComputeReoWnd s.rackTlp)
    e.nowMs with ⟨segments,timeoutMs⟩
  dsimp only
  split <;> rfl

theorem rackProcessAck_receiver : (s.rackProcessAck e p).receiver hand = s.receiver hand := by
  unfold rackProcessAck
  dsimp only
  split
  · rw [rackDetect_receiver,rackTakeAcked_receiver]
  · exact rackTakeAcked_receiver

theorem rackReorderTick_receiver : (s.rackReorderTick e).receiver hand = s.receiver hand := by
  unfold rackReorderTick
  split
  · rfl
  · dsimp only
    split
    · rfl
    · rw [rackDetect_receiver]
      rfl

theorem ingestDsack_receiver : s.ingestDsack.receiver hand = s.receiver hand := by
  unfold ingestDsack
  dsimp only
  split
  · split <;> rfl
  · split <;> rfl

theorem ingestSackInfo_receiver : (s.ingestSackInfo p).receiver hand = s.receiver hand := by
  unfold ingestSackInfo
  split
  · rfl
  · split
    · show s.ingestDsack.receiver hand = _
      exact ingestDsack_receiver
    · rfl

theorem limitedTransmit_told (count : Nat) : Told o s (s.limitedTransmit e count) := by
  unfold limitedTransmit
  split
  · dsimp only
    generalize shape : ({s with cc := {s.cc with sndEwn := _}} : TcpSession) = t
    have same : t.receiver .idle = s.receiver .idle := by
      rw [← shape]
      rfl
    have pumped := transmitData_told (o := o) (e := e) (s := t)
    generalize t.transmitData e = u at pumped ⊢
    exact (Told.behind same pumped).then (Eq.refl _)
  · exact .rfl

theorem requirePositive_cases (x : Int) :
    s.requirePositive x = .error (.assertionError,s) ∨ ∃ y, s.requirePositive x = .ok y := by
  unfold requirePositive
  split
  · exact .inr ⟨_,rfl⟩
  · exact .inl rfl

theorem ssthreshForFastRetransmit_receiver :
    (Outcome.session (s.ssthreshForFastRetransmit e)).receiver hand = s.receiver hand := by
  unfold ssthreshForFastRetransmit
  split
  · dsimp only
    rcases requirePositive_cases (s := {s with cc := s.cc.saveFrCubicSnapshot}) s.cc.saveFrCubicSnapshot.cwnd with
      failed | ⟨y,fine⟩
    · rw [failed]
      rfl
    · rw [fine]
      rfl
  · rfl

theorem retransmitPacketRequest_told :
    Told o s (Outcome.session (s.retransmitPacketRequest e p)) := by
  unfold retransmitPacketRequest
  dsimp only
  have ingested : ((s.ingestSackInfo p).rackProcessAck e p).receiver .idle = s.receiver .idle := by
    rw [rackProcessAck_receiver,ingestSackInfo_receiver]
  generalize (s.ingestSackInfo p).rackProcessAck e p = t at ingested ⊢
  split
  · exact .same ingested
  · split
    · exact .same ingested
    · have counted : ({t with tx := t.tx.countRequest p.tcpAck} : TcpSession).receiver .idle = s.receiver .idle :=
        ingested
      have pumped := Told.behind counted (limitedTransmit_told (o := o) (e := e)
        ((t.tx.countRequest p.tcpAck).requests p.tcpAck))
      generalize limitedTransmit e ((t.tx.countRequest p.tcpAck).requests p.tcpAck) _ = v at pumped ⊢
      split
      · have lowered := @ssthreshForFastRetransmit_receiver e v .idle
        cases done : v.ssthreshForFastRetransmit e with
        | error failure =>
          rw [done] at lowered
          exact pumped.then lowered
        | ok w =>
          rw [done] at lowered
          exact pumped.then lowered
      · exact pumped

theorem tlpPtoTick_told : Told o s (s.tlpPtoTick e) := by
  unfold tlpPtoTick
  split
  · exact .rfl
  · dsimp only
    have quiet : (s.cancelTimer e .tlp).receiver .idle = s.receiver .idle := rfl
    generalize s.cancelTimer e .tlp = t at quiet ⊢
    split
    · exact .same quiet
    · split
      · exact .same quiet
      · split
        · exact .same quiet
        · split
          · exact .same quiet
          · have aimed : t.aimProbe.receiver .idle = s.receiver .idle := by
              rw [← quiet]
              unfold aimProbe
              dsimp only
              split <;> rfl
            have pumped := Told.behind aimed (transmitData_told (o := o) (e := e))
            generalize t.aimProbe.transmitData e = u at pumped ⊢
            exact pumped.then (Eq.refl _)

theorem keepaliveProbe_unadorned (refused : Prop) : Unadorned refused (s.receiver hand) s.keepaliveProbe where
  flags := rfl
  sack := rfl
  options := by simp [Segment.optionBytes,keepaliveProbe]
  win := .inl rfl
  moment := rfl

theorem keepaliveTick_told : Told o s (s.keepaliveTick e) := by
  unfold keepaliveTick
  split
  · exact .rfl
  · split
    · exact .same keepaliveArmIdle_receiver
    · split
      · exact .rfl
      · split
        · have noted : ({s with
              connectionError := .timeout,eventConnect := s.eventConnect + 1
              eventRxBuffer := true} : TcpSession).receiver .idle = s.receiver .idle := rfl
          exact .behind noted (changeState_late .closed none rfl)
        · have probe := Intake.plain (o := o) (s.receiver .idle) s.keepaliveProbe (keepaliveProbe_unadorned o.refused) rfl
          rw [← sendTcpPacket_receiver] at probe
          exact .single probe

end TcpSession

end PmdPytcp.Tcp
