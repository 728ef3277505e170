import PmdPytcp.Tcp.Refine.Ack

namespace PmdPytcp.Tcp
open Arc

namespace TcpSession

variable {lent : Option Int} {e : Env} {s : TcpSession} {allowed : Slip → Prop}

theorem ingestSackInfo_path (p : TcpMetadata) (inv : Inv (s.senderAt none)) (here : s.sndSeq.una = p.tcpAck)
    (sane : s.advertise.sendSack = true → GateSound p.tcpAck s.sndSeq.max p.tcpSackBlocks)
    (undoes : s.DsackUndoes p → allowed .unlevel) :
    Path allowed (s.senderAt none) ((s.ingestSackInfo p).senderAt none) := by
  obtain ⟨n,r,b,c,t,u,v,d,shape,board,bare,place⟩ := ingestSackInfo_shape p here inv.short inv.board inv.bare
    (here ▸ sane)
  rw [shape]
  cases sack : s.advertise.sendSack with
  | false =>
    have empty : s.sackScoreboard = [] := inv.bare sack
    rcases place with ⟨window,threshold,valid⟩ | ⟨undo,_⟩
    · rw [bare sack,window,threshold,valid,← empty]
      exact .refl
    · rw [undo.1] at sack
      cases sack
  | true =>
    have noted : Path allowed (s.senderAt none) (({s with sackScoreboard := b} : TcpSession).senderAt none) :=
      .single (Move.sacked (s.senderAt none) b sack board)
    refine noted.trans ?_
    have inv' := path_inv noted inv
    rcases place with ⟨window,threshold,valid⟩ | ⟨undo,window,threshold,valid⟩
    · subst window threshold valid
      exact .refl
    · subst window threshold valid
      obtain ⟨cwnd,ssthresh⟩ := inv.cc.snapshot undo.2.2.1
      refine regulate_path (s := {s with sackScoreboard := b}) inv' rfl ?_ inv.wnd (.inr rfl) (fun _ => ⟨le_refl _,rfl⟩)
        (.inr (undoes undo))
      exact {inv.cc with cwnd := cwnd,ssthresh := ssthresh,snapshot := fun on => by cases on}

-- A duplicate that finds the connection idle for longer than the timeout lets
-- the restart lower `cwnd` under a borrowed window.
def IdleLimited (e : Env) (p : TcpMetadata) (s : TcpSession) : Prop :=
  s.idleFor e = true ∧ initialWindow s.win.sndMss < s.cc.cwnd ∧ s.tx.buffer ≠ [] ∧ s.tx.requests p.tcpAck < 2

instance (e : Env) (p : TcpMetadata) (s : TcpSession) : Decidable (s.IdleLimited e p) :=
  inferInstanceAs (Decidable (_ ∧ _ ∧ _ ∧ _))

theorem limitedTransmit_path (count : Nat) (inv : Inv (s.senderAt none)) (transfer : transferring s.state = true)
    (calm : s.cc.recoveryPoint = 0)
    (busy : count = 1 ∨ count = 2 → s.tx.buffer ≠ [] →
      allowed .unlevel ∨ (s.idleFor e = true → s.cc.cwnd ≤ initialWindow s.win.sndMss)) :
    Path allowed (s.senderAt none) ((s.limitedTransmit e count).senderAt none) ∧ Pumping s (s.limitedTransmit e count) ∧
      (count ≠ 1 → count ≠ 2 → s.limitedTransmit e count = s) := by
  unfold limitedTransmit
  split
  · rename_i early
    dsimp only
    have positive := s.win.sndMss.2
    have window : 0 < s.cc.cwnd := inv.cc.cwnd
    have loan : Loan allowed e (some s.cc.sndEwn) {s with cc := {s.cc with
        sndEwn := min (s.cc.cwnd + count * s.win.sndMss.1) s.win.sndWnd}} := by
      refine ⟨fun _ => transfer,fun _ => ⟨s.cc.cwnd + count * s.win.sndMss.1,?_,rfl⟩,fun _ => busy early.1 early.2⟩
      have nonneg : 0 ≤ (count : Int) * s.win.sndMss.1 := Int.mul_nonneg (Int.natCast_nonneg _) (le_of_lt positive)
      omega
    have pumped := transmitData_pumped (e := e) (s := {s with cc := {s.cc with
      sndEwn := min (s.cc.cwnd + count * s.win.sndMss.1) s.win.sndWnd}}) inv loan (fun _ under => absurd calm under)
    refine ⟨pumped.path,⟨pumped.frame.state,pumped.frame.point,pumped.frame.board⟩,?_⟩
    intro notOne notTwo
    rcases early.1 with one | two
    · exact absurd one notOne
    · exact absurd two notTwo
  · exact ⟨.refl,⟨rfl,rfl,rfl⟩,fun _ _ => rfl⟩

theorem ssthreshForFastRetransmit_ok (inv : Inv (s.senderAt none)) :
    ∃ s', s.ssthreshForFastRetransmit e = .ok s' ∧ Path allowed (s.senderAt none) (s'.senderAt none) ∧
      s'.sndSeq = s.sndSeq ∧ s'.advertise = s.advertise ∧ s'.state = s.state := by
  unfold ssthreshForFastRetransmit
  cases s.cc.ccMode with
  | cubic =>
    dsimp only
    rw [requirePositive_ok (show 0 < s.cc.saveFrCubicSnapshot.cwnd from inv.cc.cwnd)]
    refine ⟨_,rfl,?_,rfl,rfl,rfl⟩
    refine regulate_path inv rfl ?_ inv.wnd (.inr rfl) (fun _ => ⟨le_refl _,rfl⟩) (.inl id)
    exact {inv.cc with
      ssthresh := cubicSsthresh_positive ⟨s.cc.cwnd,inv.cc.cwnd⟩ s.win.sndMss true s.cc.cubic.wMax
      snapshot := fun _ => ⟨inv.cc.cwnd,inv.cc.ssthresh⟩}
  | reno =>
    refine ⟨_,rfl,?_,rfl,rfl,rfl⟩
    refine regulate_path inv rfl ?_ inv.wnd (.inr rfl) (fun _ => ⟨le_refl _,rfl⟩) (.inl id)
    exact {inv.cc with ssthresh := lossEventSsthresh_positive _ _}

theorem beginRecovery_path (inv : Inv (s.senderAt none)) (transfer : transferring s.state = true)
    (busy : s.sndSeq.una ≠ s.sndSeq.max) (ahead : s.advertise.sendSack = true ∨ s.sndSeq.max ≠ 0) :
    Path allowed (s.senderAt none) (s.beginRecovery.senderAt none) := by
  have flight : 0 < arc s.sndSeq.una s.sndSeq.max := by
    by_contra zero
    exact busy (arc_eq_zero.mp (by omega))
  have wnd : s.win.sndWnd ≤ windowMax := inv.wnd
  unfold beginRecovery
  dsimp only
  generalize point : (if s.sndSeq.max ≠ 0 then s.sndSeq.max else 1) = rp
  generalize aimed : Option.getD _ s.sndSeq.una = nxt
  have entered : Path allowed (s.senderAt none) (({s with cc := {s.cc with
      recoverFs := s.sndSeq.flight,prrDelivered := 0,prrOut := 0,cwnd := s.sndSeq.flight
      sndEwn := min (s.sndSeq.flight : Int) s.win.sndWnd,recoveryPoint := rp}} : TcpSession).senderAt none) := by
    refine .single (Move.regulate (s.senderAt none) _ s.win.sndMss.1 s.win.sndWnd ?_ inv.mss inv.wnd ?_ ?_ (.inl fun _ => rfl))
    · refine {inv.cc with cwnd := Int.natCast_pos.mpr flight,ewn := ?_,recovering := ?_}
      · show 0 ≤ min (s.sndSeq.flight : Int) s.win.sndWnd ∧ min (s.sndSeq.flight : Int) s.win.sndWnd ≤ windowMax
        omega
      · intro _
        refine ⟨flight,ahead.imp_right ?_⟩
        intro real
        rw [if_pos real] at point
        subst point
        exact ⟨flight,le_refl _⟩
    · intro hand
      have hand : handshaking s.state = true := hand
      simp only [transferring,decide_eq_true_eq] at transfer
      rcases transfer with here | here
      · rw [here] at hand
        cases hand
      · rw [here] at hand
        cases hand
    · intro asked
      have asked : s.state = .synSent := asked
      rw [asked] at transfer
      cases transfer
  refine entered.tail (Move.aim _ nxt ?_)
  show arc s.sndSeq.una nxt ≤ arc s.sndSeq.una s.sndSeq.max
  rw [← aimed]
  split
  · cases found : nextSeg s.sackScoreboard s.sndSeq.una s.sndSeq.max s.win.sndMss with
    | none => simp
    | some seq => exact nextSeg_within inv.board found
  · simp

theorem isLost_nil (seq : Seq32) (mss : Pos) : isLost seq [] mss = false := by
  have positive := mss.2
  unfold isLost tcpDupThresh
  simp
  omega

theorem in_flight_of_sacked (inv : Inv (s.senderAt none)) (held : s.sackScoreboard ≠ []) :
    s.sndSeq.una ≠ s.sndSeq.max ∧ s.advertise.sendSack = true := by
  refine ⟨?_,?_⟩
  · intro idle
    have board : Board s.sndSeq.una s.sndSeq.max s.sackScoreboard := inv.board
    rw [← idle] at board
    exact held board.empty_of_idle
  · cases sack : s.advertise.sendSack with
    | true => rfl
    | false => exact absurd (inv.bare sack) held

-- Entering recovery needs something in flight: the third duplicate is promised
-- it, and a block marked lost lies in the flight.
theorem answerRequest_ok (ack : Seq32) (inv : Inv (s.senderAt none)) (transfer : transferring s.state = true)
    (busy : s.cc.recoveryPoint = 0 → s.tx.requests ack = 1 ∨ s.tx.requests ack = 2 → s.tx.buffer ≠ [] →
      allowed .unlevel ∨ (s.idleFor e = true → s.cc.cwnd ≤ initialWindow s.win.sndMss))
    (third : s.tx.requests ack = 3 → s.sndSeq.una ≠ s.sndSeq.max ∧ (s.advertise.sendSack = true ∨ s.sndSeq.max ≠ 0)) :
    ∃ s', s.answerRequest e ack = .ok s' ∧ Path allowed (s.senderAt none) (s'.senderAt none) ∧ s'.state = s.state := by
  unfold answerRequest
  split
  · exact ⟨s,rfl,.refl,rfl⟩
  rename_i calm
  have calm : s.cc.recoveryPoint = 0 := by simpa using calm
  split
  · exact ⟨s,rfl,.refl,rfl⟩
  obtain ⟨moved,frame,still⟩ := limitedTransmit_path (e := e) (s.tx.requests ack) inv transfer calm (busy calm)
  split
  · rename_i trigger
    have inv' := path_inv moved inv
    have inFlight : (s.limitedTransmit e (s.tx.requests ack)).sndSeq.una ≠
          (s.limitedTransmit e (s.tx.requests ack)).sndSeq.max ∧
        ((s.limitedTransmit e (s.tx.requests ack)).advertise.sendSack = true ∨
          (s.limitedTransmit e (s.tx.requests ack)).sndSeq.max ≠ 0) := by
      rcases trigger with count | lost
      · rw [still (by omega) (by omega)]
        exact third count
      · have held : (s.limitedTransmit e (s.tx.requests ack)).sackScoreboard ≠ [] := by
          rw [frame.board]
          intro none
          rw [none,isLost_nil] at lost
          simp at lost
        obtain ⟨apart,sack⟩ := in_flight_of_sacked inv' held
        exact ⟨apart,.inl sack⟩
    generalize s.limitedTransmit e (s.tx.requests ack) = t at moved frame inv' inFlight
    obtain ⟨s',entered,lowered,edges,advertise,state⟩ := @ssthreshForFastRetransmit_ok e _ allowed inv'
    rw [entered]
    refine ⟨_,rfl,moved.trans (lowered.trans ?_),?_⟩
    · apply beginRecovery_path (path_inv lowered inv')
      · rw [state,frame.state]
        exact transfer
      · rw [edges]
        exact inFlight.1
      · rw [edges,advertise]
        exact inFlight.2
    · exact state.trans frame.state
  · exact ⟨_,rfl,moved,frame.state⟩

theorem retransmitPacketRequest_ok (p : TcpMetadata) (inv : Inv (s.senderAt none))
    (transfer : transferring s.state = true) (here : s.sndSeq.una = p.tcpAck)
    (sane : s.advertise.sendSack = true → GateSound p.tcpAck s.sndSeq.max p.tcpSackBlocks)
    (undoes : s.DsackUndoes p → allowed .unlevel) (limited : s.IdleLimited e p → allowed .unlevel)
    (third : s.tx.requests p.tcpAck = 2 →
      s.sndSeq.una ≠ s.sndSeq.max ∧ (s.advertise.sendSack = true ∨ s.sndSeq.max ≠ 0)) :
    ∃ s', s.retransmitPacketRequest e p = .ok s' ∧ Path allowed (s.senderAt none) (s'.senderAt none) ∧
      s'.state = s.state := by
  have ingested := ingestSackInfo_path p inv here sane undoes
  obtain ⟨n,r,b,c,t,u,v,d,shape,_,_,place⟩ := ingestSackInfo_shape p here inv.short inv.board inv.bare (here ▸ sane)
  rw [shape] at ingested
  have inv' := path_inv ingested inv
  rw [retransmitPacketRequest_eq,shape]
  obtain ⟨r',t',raked⟩ := rackProcessAck_shape (e := e) (s := {s with
    dsackReceived := n,rackTlp := r,sackScoreboard := b
    cc := {s.cc with cwnd := c,ssthresh := t,cubic := u,frCubicSnapshotValid := v,prrDelivered := d}}) p
  rw [raked]
  have counted := requests_countRequest s.tx p.tcpAck
  have busy : s.cc.recoveryPoint = 0 → (s.tx.countRequest p.tcpAck).requests p.tcpAck = 1 ∨
      (s.tx.countRequest p.tcpAck).requests p.tcpAck = 2 → s.tx.buffer ≠ [] →
      allowed .unlevel ∨ (s.idleFor e = true → c ≤ initialWindow s.win.sndMss) := by
    intro calm early loaded
    have same : c = s.cc.cwnd := by
      rcases place with ⟨same,_⟩ | ⟨undone,_⟩
      · exact same
      · exact absurd calm undone.2.2.2.1
    by_cases slips : s.IdleLimited e p
    · exact .inl (limited slips)
    · right
      intro idle
      by_contra large
      exact slips ⟨idle,by omega,loaded,by omega⟩
  obtain ⟨s',answered,moved,state⟩ := @answerRequest_ok e {s with
    dsackReceived := n,rackTlp := r',timers := t',sackScoreboard := b,tx := s.tx.countRequest p.tcpAck
    cc := {s.cc with cwnd := c,ssthresh := t,cubic := u,frCubicSnapshotValid := v,prrDelivered := d}} allowed p.tcpAck inv'
    transfer busy (fun count => third (by dsimp only at count; omega))
  exact ⟨s',answered,ingested.trans moved,state⟩

end TcpSession

end PmdPytcp.Tcp
