import PmdPytcp.Tcp.Refine.Fsm

namespace PmdPytcp.Tcp
open Arc

namespace TcpSession

variable {e : Env} {s : TcpSession} {allowed : Slip → Prop} {p : TcpMetadata} {replay : Replay}

theorem handled_of_path {s' : TcpSession} (other : ¬p.OnlyAck) (path : Path allowed (s.senderAt none) (s'.senderAt none)) :
    Handled allowed p s (.ok s') := ⟨s',rfl,path,fun only => absurd only other⟩

theorem handled_challenge (inv : Inv (s.senderAt none)) : Handled allowed p s (.ok (s.emitChallengeAck e)) :=
  handled_quiet (emitChallengeAck_sender inv.toCore)

theorem checkSegment_sender (inv : Inv (s.senderAt none)) :
    (s.checkSegmentAcceptability e p).2.senderAt none = s.senderAt none := by
  unfold checkSegmentAcceptability
  split
  · rfl
  · split
    · rfl
    · have noted : (s.noteFullDuplicate p).senderAt none = s.senderAt none := by
        unfold noteFullDuplicate
        split <;> rfl
      show ((s.noteFullDuplicate p).emitChallengeAck e).senderAt none = _
      rw [emitChallengeAck_sender (noted ▸ inv.toCore),noted]

theorem checkSegment_passed (passed : (s.checkSegmentAcceptability e p).1 = true) :
    (s.checkSegmentAcceptability e p).2 = s := by
  revert passed
  unfold checkSegmentAcceptability
  split
  · intro _
    rfl
  · split
    · intro absurd
      cases absurd
    · intro absurd
      cases absurd

theorem gated_handled (body : TcpSession → Outcome) (inv : Inv (s.senderAt none)) (inner : Handled allowed p s (body s)) :
    Handled allowed p s (if p.tcpFlagSyn then .ok (s.emitChallengeAck e)
      else
        let (acceptable,s) := s.checkSegmentAcceptability e p
        if !acceptable then .ok s else body s) := by
  split
  · exact handled_challenge inv
  · cases passed : (s.checkSegmentAcceptability e p).1 with
    | false =>
      rw [show s.checkSegmentAcceptability e p = (false,(s.checkSegmentAcceptability e p).2) from Prod.ext passed rfl]
      exact handled_quiet (checkSegment_sender inv)
    | true =>
      rw [show s.checkSegmentAcceptability e p = (true,s) from Prod.ext passed (checkSegment_passed passed)]
      exact inner

theorem checkRst_sender (inv : Inv (s.senderAt none)) :
    (s.checkRstAcceptability e p).2.senderAt none = s.senderAt none := by
  unfold checkRstAcceptability
  split
  · rfl
  · split
    · exact emitChallengeAck_sender inv.toCore
    · rfl

theorem takeReset_path (inv : Inv (s.senderAt none)) (error : Option ConnError) :
    Path allowed (s.senderAt none) ((s.takeReset error e p).senderAt none) := by
  unfold takeReset
  split
  · have same := checkRst_sender (e := e) (p := p) inv
    generalize s.checkRstAcceptability e p = verdict at same ⊢
    obtain ⟨acceptable,t⟩ := verdict
    dsimp only at same ⊢
    rw [← same]
    split
    · rw [changeState_none]
      exact .single (Move.dropped _)
    · exact .refl
  · exact .refl

theorem ackIfData_sender (inv : Inv (s.senderAt none)) : (s.ackIfData e p).senderAt none = s.senderAt none := by
  unfold ackIfData
  split
  · rfl
  · exact sendAck_sender inv.toCore

theorem ackInRange_reached (range : s.ackInRange p = true) :
    arc s.sndSeq.una p.tcpAck ≤ arc s.sndSeq.una s.sndSeq.max := inRange32_iff.mp range

theorem challengeAckAbove_handled (inv : Inv (s.senderAt none)) : Handled allowed p s (.ok (s.challengeAckAbove e p)) := by
  unfold challengeAckAbove
  split
  · exact handled_challenge inv
  · exact handled_quiet rfl

theorem updateSendWindow_path (inv : Inv (s.senderAt none)) (here : s.sndSeq.una = p.tcpAck)
    (sane : s.advertise.sendSack = true → GateSound p.tcpAck s.sndSeq.max p.tcpSackBlocks)
    (settled : handshaking s.state = false) (slips : allowed .unlevel) :
    Path allowed (s.senderAt none) ((s.updateSendWindow e p).senderAt none) ∧
      (s.updateSendWindow e p).state = s.state := by
  have small := peerWnd_small inv.toCore p
  have taken : Path allowed (s.senderAt none)
      (({s with win := {s.win with sndWnd := s.peerWnd p}} : TcpSession).senderAt none) := by
    refine regulate_path inv rfl inv.cc small (.inr rfl) ?_ (.inr slips)
    intro asked
    rw [asked] at settled
    cases settled
  have settle : ∀ (q : PersistState) (t : TcpTimerService), ∃ s', s' = ({s with
      win := {s.win with sndWnd := s.peerWnd p},persist := q,timers := t} : TcpSession).ingestSackInfo p ∧
      Path allowed (s.senderAt none) (s'.senderAt none) ∧ s'.state = s.state := by
    intro q t
    have inv' := path_inv taken inv
    have ingested := @ingestSackInfo_path {s with
      win := {s.win with sndWnd := s.peerWnd p},persist := q,timers := t} allowed p inv' here sane (fun _ => slips)
    obtain ⟨n,r,b,c,th,u,v,d,shape,_⟩ := ingestSackInfo_shape (s := {s with
      win := {s.win with sndWnd := s.peerWnd p},persist := q,timers := t}) p here inv.short inv.board inv.bare
      (here ▸ sane)
    refine ⟨_,rfl,taken.trans ingested,?_⟩
    rw [shape]
  unfold updateSendWindow
  dsimp only
  split
  · obtain ⟨s',result,path,state⟩ := settle (PersistState.deactivate e.rtoInitialMs)
      (s.timers.cancel s.state e.nowMs .persist)
    exact ⟨result ▸ path,result ▸ state⟩
  · obtain ⟨s',result,path,state⟩ := settle s.persist s.timers
    exact ⟨result ▸ path,result ▸ state⟩

theorem duplicate_facts (tame : s.Tame p) (duplicate : s.isDuplicateAck p = true) :
    s.sndSeq.una = p.tcpAck ∧ p.tcpData = [] ∧
      (s.advertise.sendSack = true → GateSound p.tcpAck s.sndSeq.max p.tcpSackBlocks) := by
  simp only [isDuplicateAck,Bool.and_eq_true,beq_iff_eq,List.isEmpty_iff] at duplicate
  obtain ⟨⟨_,here⟩,empty⟩ := duplicate
  refine ⟨here.symm,empty,?_⟩
  intro on
  apply tame.sack on p (List.mem_cons_self ..)
  rw [here]
  simp

theorem transferring_plain {state : FsmState} (transfer : transferring state = true) :
    handshaking state = false ∧ finPhase state = false := by
  simp only [transferring,decide_eq_true_eq] at transfer
  rcases transfer with here | here
  · rw [here]
    exact ⟨rfl,rfl⟩
  · rw [here]
    exact ⟨rfl,rfl⟩

theorem After.transferring {s' : TcpSession} (transfer : transferring s.state = true) (state : s'.state = s.state)
    (path : Path allowed (s.senderAt none) (s'.senderAt none)) : After allowed p s s' := by
  refine ⟨path,.inl state,?_,?_⟩
  · intro final
    rw [(transferring_plain transfer).2] at final
    cases final
  · intro closing
    rw [state] at closing
    rw [closing] at transfer
    cases transfer

section Duplicates
variable (inv : Inv (s.senderAt none)) (tame : s.Tame p) (permits : s.Permits allowed e p)
  (transfer : transferring s.state = true) (duplicate : s.isDuplicateAck p = true)
include inv tame permits transfer duplicate

theorem windowUpdate_handled (moved : s.peerWnd p ≠ s.win.sndWnd) :
    Handled allowed p s (.ok (s.updateSendWindow e p)) := by
  obtain ⟨here,_,sane⟩ := duplicate_facts tame duplicate
  obtain ⟨path,state⟩ := updateSendWindow_path (e := e) inv here sane (transferring_plain transfer).1
    (permits.unlevel (.inr (.inr ⟨duplicate,.inl moved⟩)))
  exact (After.transferring transfer state path).handled

theorem retransmitRequest_handled (outstanding : s.state = .established → s.sndSeq.una ≠ s.sndSeq.max) :
    Handled allowed p s (s.retransmitPacketRequest e p) := by
  obtain ⟨here,empty,sane⟩ := duplicate_facts tame duplicate
  have third : s.tx.requests p.tcpAck = 2 →
      s.sndSeq.una ≠ s.sndSeq.max ∧ (s.advertise.sendSack = true ∨ s.sndSeq.max ≠ 0) := by
    intro counted
    refine ⟨?_,?_⟩
    · simp only [transferring,decide_eq_true_eq] at transfer
      rcases transfer with est | wait
      · exact outstanding est
      · intro idle
        exact tame.third wait p (List.mem_cons_self ..) empty (here.symm.trans idle) counted
    · cases sack : s.advertise.sendSack with
      | true => exact .inl rfl
      | false =>
        right
        intro zero
        exact tame.wrapped sack zero p (List.mem_cons_self ..) empty counted
  obtain ⟨s',answered,path,state⟩ := @retransmitPacketRequest_ok e _ allowed p inv transfer here sane
    (fun undoes => permits.unlevel (.inl ⟨p,List.mem_cons_self ..,undoes⟩))
    (fun idle => permits.unlevel (.inr (.inr ⟨duplicate,.inr idle⟩))) third
  rw [answered]
  exact (After.transferring transfer state path).handled

end Duplicates

section Transfer
variable (replays : Replays allowed e replay) (inv : Inv (s.senderAt none)) (tame : s.Tame p)
  (permits : s.Permits allowed e p)
include replays inv tame permits

theorem processAck_handled (transfer : transferring s.state = true)
    (reached : arc s.sndSeq.una p.tcpAck ≤ arc s.sndSeq.una s.sndSeq.max) :
    ∃ s', s.processAckPacket replay e p = .ok s' ∧ Path allowed (s.senderAt none) (s'.senderAt none) ∧
      s'.state = s.state := by
  have notLast : s.state ≠ .lastAck := by
    intro last
    rw [last] at transfer
    cases transfer
  obtain ⟨s',called,path,follows,_⟩ := processAckPacket_after replays inv tame permits (transferring_plain transfer).1
    notLast reached
  refine ⟨s',called,path,?_⟩
  rcases follows with same | ⟨other,_⟩ | ⟨other,_⟩
  · exact same
  · rw [other] at transfer
    cases transfer
  · rw [other] at transfer
    cases transfer

theorem establishedFin_handled (here : s.state = .established) (other : ¬p.OnlyAck) :
    Handled allowed p s (s.establishedFin replay e p) := by
  unfold establishedFin
  split
  · rename_i accepted
    obtain ⟨s',called,path,state⟩ := processAck_handled replays inv tame permits (by rw [here]; rfl)
      (ackInRange_reached accepted.2)
    have answered := ackIfData_sender (e := e) (p := p) (path_inv path inv)
    rw [called]
    refine ⟨_,rfl,?_,fun only => absurd only other⟩
    rw [changeState_some]
    refine path.tail ?_
    show Move allowed (s'.senderAt none) (((s'.ackIfData e p).senderAt none).moveBy .closeWait p.tcpAck)
    rw [answered]
    exact Move.peerClosed _ _ (state.trans here)
  · exact handled_quiet rfl

end Transfer

theorem storeOutOfOrder_handled {p : Stored} (inv : Inv (s.senderAt none)) (here : s.state = .established) :
    Handled allowed p.1 s (.ok (s.storeOutOfOrder e p)) := by
  have stores : ∀ (d : Option (Seq32 × Seq32)) (ooo : OooQueue),
      Handled allowed p.1 s (.ok (({s with pendingDsack := d,oooPacketQueue := ooo} : TcpSession).transmitPacket e
        {flagAck := true})) := by
    intro d ooo
    have queued : Path allowed (s.senderAt none)
        (({s with pendingDsack := d,oooPacketQueue := ooo} : TcpSession).senderAt none) := by
      refine .single (Move.queue (s.senderAt none) ooo ?_)
      intro hand
      have hand : handshaking s.state = true := hand
      rw [here] at hand
      cases hand
    have sent := sendAck_sender (e := e) (s := {s with pendingDsack := d,oooPacketQueue := ooo})
      (path_inv queued inv).toCore
    refine (After.transferring (by rw [here]; rfl) ?_ (sent ▸ queued)).handled
    exact congrArg Sender.state sent
  unfold storeOutOfOrder noteStoredDuplicate
  dsimp only
  split <;> split
  · exact stores _ _
  · exact stores _ s.oooPacketQueue
  · exact stores s.pendingDsack _
  · exact stores s.pendingDsack s.oooPacketQueue

section Established
variable (replays : Replays allowed e replay) (inv : Inv (s.senderAt none)) (here : s.state = .established)
include replays inv here

theorem establishedAck_handled {p : Stored} (tame : s.Tame p.1) (permits : s.Permits allowed e p.1) :
    Handled allowed p.1 s (s.establishedAck replay e p) := by
  have transfer : transferring s.state = true := by
    rw [here]
    rfl
  unfold establishedAck
  split
  · rename_i duplicate
    unfold establishedDuplicateAck
    dsimp only
    obtain ⟨k,t,armed⟩ := keepaliveArmIdle_shape (e := e) (s := s)
    rw [armed]
    split
    · rename_i moved
      exact @Handled.behind _ _ _ {s with keepalive := k,timers := t} _ rfl <| windowUpdate_handled inv
        ⟨tame.sack,tame.third,tame.wrapped⟩ ⟨permits.unlevel,permits.thirdLeg,permits.unsentFin⟩ transfer duplicate moved
    · split
      · exact handled_quiet rfl
      · rename_i outstanding
        refine @Handled.behind _ _ _ {s with keepalive := k,timers := t} _ rfl <| retransmitRequest_handled inv
          ⟨tame.sack,tame.third,tame.wrapped⟩ ⟨permits.unlevel,permits.thirdLeg,permits.unsentFin⟩ transfer duplicate ?_
        intro _ idle
        have idle : s.sndSeq.una = s.sndSeq.max := idle
        have nxt : arc s.sndSeq.una s.sndSeq.nxt ≤ arc s.sndSeq.una s.sndSeq.max := inv.nxt
        rw [← idle,arc_self] at nxt
        exact outstanding (arc_eq_zero.mp (Nat.le_zero.mp nxt))
  · split
    · exact storeOutOfOrder_handled inv here
    · split
      · rename_i accepted
        simp only [ackAcceptable,Bool.and_eq_true] at accepted
        obtain ⟨s',called,path,state⟩ := processAck_handled replays inv tame permits transfer
          (between_of_le32 inv.short accepted.2.1 accepted.2.2)
        rw [called]
        exact (After.transferring transfer state path).handled
      · split
        · exact handled_challenge inv
        · split
          · exact handled_challenge inv
          · exact handled_quiet rfl

theorem established_handled (tame : s.Tame p) (permits : s.Permits allowed e p) :
    Handled allowed p s (s.fsmEstablishedPacket replay e p) := by
  refine gated_handled (fun s =>
    let (passed,s) := s.checkPawsAndUpdateTsRecent e p
    if !passed then .ok s
    else if only : p.OnlyAck then s.establishedAck replay e ⟨p,only⟩
    else if p.FinAck then s.establishedFin replay e p
    else .ok (s.takeReset (some .reset) e p)) inv ?_
  have same := checkPaws_sender (e := e) inv.toCore p
  rcases checkPaws_shape (e := e) (s := s) p with ⟨passed,ts,shape,_⟩ | ⟨failed,_⟩
  · rw [shape] at same
    have inv' : Inv (({s with ts := ts} : TcpSession).senderAt none) := same ▸ inv
    have permits' : ({s with ts := ts} : TcpSession).Permits allowed e p := by
      refine ⟨permits.unlevel,?_,permits.unsentFin⟩
      rintro ⟨asked,_⟩
      have asked : s.state = .synRcvd := asked
      rw [here] at asked
      cases asked
    have tame' : ({s with ts := ts} : TcpSession).Tame p := ⟨tame.sack,tame.third,tame.wrapped⟩
    rw [show s.checkPawsAndUpdateTsRecent e p = (true,{s with ts := ts}) from Prod.ext passed shape]
    refine @Handled.behind _ _ _ {s with ts := ts} _ same ?_
    dsimp only
    split
    · rename_i absurd
      cases absurd
    · split
      · exact establishedAck_handled replays inv' here tame' permits'
      · rename_i other
        split
        · exact establishedFin_handled replays inv' tame' permits' here other
        · exact handled_of_path other (takeReset_path inv' _)
  · rw [show s.checkPawsAndUpdateTsRecent e p = (false,(s.checkPawsAndUpdateTsRecent e p).2) from
      Prod.ext failed rfl]
    exact handled_quiet same

end Established

theorem closeWait_handled (replays : Replays allowed e replay) (inv : Inv (s.senderAt none))
    (here : s.state = .closeWait) (tame : s.Tame p) (permits : s.Permits allowed e p) :
    Handled allowed p s (s.fsmCloseWaitPacket replay e p) := by
  have transfer : transferring s.state = true := by
    rw [here]
    rfl
  refine gated_handled (fun s =>
    if p.OnlyAck then s.closeWaitAck replay e p else .ok (s.takeReset (some .reset) e p)) inv ?_
  split
  · unfold closeWaitAck
    split
    · rename_i duplicate
      split
      · rename_i moved
        exact windowUpdate_handled inv tame permits transfer duplicate moved
      · refine retransmitRequest_handled inv tame permits transfer duplicate ?_
        intro est
        rw [here] at est
        cases est
    · split
      · exact handled_quiet (sendAck_sender inv.toCore)
      · split
        · rename_i accepted
          split
          · obtain ⟨s',called,path,state⟩ := processAck_handled replays inv tame permits transfer
              (ackInRange_reached accepted.2)
            rw [called]
            exact (After.transferring transfer state path).handled
          · exact handled_quiet (sendAck_sender inv.toCore)
        · exact handled_quiet rfl
  · rename_i other
    exact handled_of_path other (takeReset_path inv _)

theorem enterTimeWait_sender (a : Seq32) : (s.enterTimeWait e a).senderAt none = (s.senderAt none).moveBy .timeWait a :=
  changeState_some (e := e) .timeWait a

theorem enterFinWait2_sender (a : Seq32) : (s.enterFinWait2 e a).senderAt none = (s.senderAt none).moveBy .finWait2 a := by
  unfold enterFinWait2
  dsimp only
  split
  · exact changeState_some .finWait2 a
  · exact changeState_some .finWait2 a

-- An acknowledgement inside the flight of a session whose data is all out.
structure Ending (allowed : Slip → Prop) (p : TcpMetadata) (s s' : TcpSession) : Prop where
  path : Path allowed (s.senderAt none) (s'.senderAt none)
  state : Follows s.state s'.state
  edges : Edges p s s'
  missed : s'.state = .closing → le32 s'.sndSeq.fin s'.sndSeq.una = true →
    s'.sndSeq.una = s.sndSeq.una ∨ s'.sndSeq.una = p.tcpAck
  near : arc p.tcpAck s'.sndSeq.max ≤ flightMax
  inv : Inv (s'.senderAt none)

section Ending
variable (replays : Replays allowed e replay) (inv : Inv (s.senderAt none)) (tame : s.Tame p)
  (permits : s.Permits allowed e p)
include replays inv tame permits

theorem processAck_ending (final : finPhase s.state = true) (notLast : s.state ≠ .lastAck)
    (range : s.ackInRange p = true) : ∃ s', s.processAckPacket replay e p = .ok s' ∧ Ending allowed p s s' := by
  have settled : handshaking s.state = false := by
    cases state : s.state <;> rw [state] at final <;> first | rfl | cases final
  have reached := ackInRange_reached range
  obtain ⟨s',called,path,follows,edges,missed⟩ := processAckPacket_after replays inv tame permits settled notLast reached
  refine ⟨s',called,path,follows,edges final,missed,?_,path_inv path inv⟩
  rw [(edges final).1]
  have rest := arc_cut reached
  have flight : arc s.sndSeq.una s.sndSeq.max ≤ flightMax := inv.flight
  omega

end Ending

theorem Ending.covered {s' : TcpSession} (ending : Ending allowed p s s') (permits : s.Permits allowed e p)
    (here : s.state = .finWait1 ∨ s.state = .closing) {a : Seq32} (passed : le32 s'.sndSeq.fin a = true)
    (among : a ∈ s.sndSeq.una :: (s.awaiting p).map TcpMetadata.tcpAck) :
    s'.sndSeq.finSent = true ∨ allowed .unsentFin := by
  obtain ⟨_,fin,sent,_⟩ := ending.edges
  cases out : s'.sndSeq.finSent with
  | true => exact .inl rfl
  | false =>
    right
    apply permits.unsentFin
    exact .inl ⟨here,sent.symm.trans out,a,among,fin ▸ passed⟩

theorem Edges.carried {s' s'' : TcpSession} {v : Sender} (edges : Edges p s s') (same : s''.senderAt none = v)
    (una : v.una = s'.sndSeq.una) (top : v.max = s'.sndSeq.max) (fin : v.fin = s'.sndSeq.fin)
    (sent : v.finSent = s'.sndSeq.finSent) : Edges p s s'' := by
  obtain ⟨top',fin',sent',una'⟩ := edges
  have here : s''.sndSeq.una = s'.sndSeq.una := (congrArg Sender.una same).trans una
  refine ⟨?_,?_,?_,here ▸ una'⟩
  · exact ((congrArg Sender.max same).trans top).trans top'
  · exact ((congrArg Sender.fin same).trans fin).trans fin'
  · exact ((congrArg Sender.finSent same).trans sent).trans sent'

theorem Ending.stays {s' s'' : TcpSession} (ending : Ending allowed p s s')
    (same : s''.senderAt none = s'.senderAt none)
    (looked : s'.state = .closing → le32 s'.sndSeq.fin s'.sndSeq.una = false) : After allowed p s s'' := by
  have state : s''.state = s'.state := congrArg Sender.state same
  have una : s''.sndSeq.una = s'.sndSeq.una := congrArg Sender.una same
  have fin : s''.sndSeq.fin = s'.sndSeq.fin := congrArg Sender.fin same
  refine ⟨same ▸ ending.path,state ▸ ending.state,fun _ => ending.edges.carried same rfl rfl rfl rfl,?_⟩
  intro closing passed
  rw [state] at closing
  rw [fin,una,looked closing] at passed
  cases passed

theorem Ending.moves {s' s'' : TcpSession} {new : FsmState} {a : Seq32} (ending : Ending allowed p s s')
    (moved : s''.senderAt none = (s'.senderAt none).moveBy new a)
    (step : Move allowed (s'.senderAt none) ((s'.senderAt none).moveBy new a)) (follows : Follows s.state new)
    (left : new ≠ .closing) : After allowed p s s'' := by
  have state : s''.state = new := congrArg Sender.state moved
  refine ⟨moved ▸ ending.path.tail step,state ▸ follows,fun _ => ending.edges.carried moved rfl rfl rfl rfl,?_⟩
  intro closing
  exact absurd (state.symm.trans closing) left

theorem Ending.place {s' : TcpSession} (ending : Ending allowed p s s') :
    (s.state = .finWait1 → s'.state = .finWait1 ∨ s'.state = .finWait2) ∧
    (s.state = .finWait2 → s'.state = .finWait2) ∧
    (s.state = .closing → s'.state = .closing ∨ s'.state = .timeWait) := by
  refine ⟨?_,?_,?_⟩
  · intro here
    rcases ending.state with same | ⟨_,moved⟩ | ⟨other,_⟩
    · exact .inl (same.trans here)
    · exact .inr moved
    · rw [here] at other
      cases other
  · intro here
    rcases ending.state with same | ⟨other,_⟩ | ⟨other,_⟩
    · exact same.trans here
    · rw [here] at other
      cases other
    · rw [here] at other
      cases other
  · intro here
    rcases ending.state with same | ⟨other,_⟩ | ⟨_,moved⟩
    · exact .inl (same.trans here)
    · rw [here] at other
      cases other
    · exact .inr moved

theorem finWait1_step {s' : TcpSession} {new : FsmState} (permits : s.Permits allowed e p) (here : s.state = .finWait1) (ending : Ending allowed p s s')
    (passed : le32 s'.sndSeq.fin p.tcpAck = true) (pair : new = .finWait2 ∨ new = .timeWait) :
    Move allowed (s'.senderAt none) ((s'.senderAt none).moveBy new p.tcpAck) := by
  rcases ending.place.1 here with first | second
  · refine Move.finAcked (s'.senderAt none) new p.tcpAck (.inl ⟨first,pair⟩) ?_
    rcases ending.covered permits (.inl here) passed (List.mem_cons_of_mem _ (List.mem_cons_self ..)) with sent | slipped
    · exact .inl ⟨sent,ending.near,.inl passed⟩
    · exact .inr slipped
  · exact Move.drifts (s'.senderAt none) new p.tcpAck (.inr (.inl ⟨second,pair⟩))

section FinWait
variable (replays : Replays allowed e replay) (inv : Inv (s.senderAt none)) (tame : s.Tame p)
  (permits : s.Permits allowed e p)
include replays inv tame permits

theorem finWait1Ack_handled (here : s.state = .finWait1) : Handled allowed p s (s.finWait1Ack replay e p) := by
  unfold finWait1Ack
  split
  · rename_i accepted
    obtain ⟨s',called,ending⟩ := processAck_ending replays inv tame permits (by rw [here]; rfl) (by rw [here]; decide)
      accepted.2
    have answered := ackIfData_sender (e := e) (p := p) ending.inv
    have fin : (s'.ackIfData e p).sndSeq.fin = s'.sndSeq.fin := congrArg Sender.fin answered
    rw [called]
    refine @After.handled _ _ _ (if ge32 p.tcpAck (s'.ackIfData e p).sndSeq.fin then
      (s'.ackIfData e p).enterFinWait2 e p.tcpAck else s'.ackIfData e p) ?_
    rw [fin]
    split
    · rename_i passed
      have entered := enterFinWait2_sender (e := e) (s := s'.ackIfData e p) p.tcpAck
      rw [answered] at entered
      exact ending.moves entered (finWait1_step permits here ending passed (.inl rfl))
        (.inr (.inl ⟨here,rfl⟩)) (by decide)
    · refine ending.stays answered ?_
      intro closing
      rcases ending.place.1 here with first | second
      · rw [first] at closing
        cases closing
      · rw [second] at closing
        cases closing
  · exact challengeAckAbove_handled inv

theorem finWait1Fin_handled (here : s.state = .finWait1) (other : ¬p.OnlyAck) :
    Handled allowed p s (s.finWait1Fin replay e p) := by
  unfold finWait1Fin
  split
  · rename_i accepted
    obtain ⟨s',called,ending⟩ := processAck_ending replays inv tame permits (by rw [here]; rfl) (by rw [here]; decide)
      accepted.2
    have answered := sendAck_sender (e := e) ending.inv.toCore
    have fin : (s'.transmitPacket e {flagAck := true}).sndSeq.fin = s'.sndSeq.fin := congrArg Sender.fin answered
    rw [called]
    refine @handled_of_path _ _ _ (if ge32 p.tcpAck (s'.transmitPacket e {flagAck := true}).sndSeq.fin then
      (s'.transmitPacket e {flagAck := true}).enterTimeWait e p.tcpAck
      else (s'.transmitPacket e {flagAck := true}).changeState e .closing (some p.tcpAck)) other ?_
    rw [fin]
    generalize s'.transmitPacket e {flagAck := true} = t at answered
    split
    · rename_i passed
      rw [enterTimeWait_sender,answered]
      exact ending.path.tail (finWait1_step permits here ending passed (.inr rfl))
    · rw [changeState_some,answered]
      exact ending.path.tail (Move.drifts (s'.senderAt none) .closing p.tcpAck (.inl ⟨ending.place.1 here,rfl⟩))
  · exact handled_quiet rfl

theorem finWait1_handled (here : s.state = .finWait1) : Handled allowed p s (s.fsmFinWait1Packet replay e p) := by
  refine gated_handled (fun s =>
    if p.OnlyAck then s.finWait1Ack replay e p
    else if p.FinAck then s.finWait1Fin replay e p
    else .ok (s.takeReset (some .reset) e p)) inv ?_
  split
  · exact finWait1Ack_handled replays inv tame permits here
  · rename_i other
    split
    · exact finWait1Fin_handled replays inv tame permits here other
    · exact handled_of_path other (takeReset_path inv _)

theorem finWait2_handled (here : s.state = .finWait2) : Handled allowed p s (s.fsmFinWait2Packet replay e p) := by
  have notLast : s.state ≠ .lastAck := by
    rw [here]
    decide
  refine gated_handled (fun s =>
    if p.OnlyAck then s.finWait2Ack replay e p
    else if p.FinAck then s.finWait2Fin replay e p
    else .ok (s.takeReset (some .reset) e p)) inv ?_
  split
  · unfold finWait2Ack
    split
    · rename_i accepted
      obtain ⟨s',called,ending⟩ := processAck_ending replays inv tame permits (by rw [here]; rfl) notLast accepted.2
      rw [called]
      refine @After.handled _ _ _ (s'.ackIfData e p) (ending.stays (ackIfData_sender ending.inv) ?_)
      intro closing
      rw [ending.place.2.1 here] at closing
      cases closing
    · exact challengeAckAbove_handled inv
  · rename_i other
    split
    · unfold finWait2Fin
      split
      · rename_i accepted
        obtain ⟨s',called,ending⟩ := processAck_ending replays inv tame permits (by rw [here]; rfl) notLast accepted.2
        have answered := sendAck_sender (e := e) ending.inv.toCore
        rw [called]
        refine @handled_of_path _ _ _ ((((s'.transmitPacket e {flagAck := true}).changeState e .timeWait
          (some p.tcpAck)).cancelTimer e .finWait2).armTimer e .timeWait e.timeWaitDelayMs) other ?_
        generalize s'.transmitPacket e {flagAck := true} = t at answered ⊢
        have moved := @changeState_some none e t .timeWait p.tcpAck
        generalize t.changeState e .timeWait (some p.tcpAck) = u at moved ⊢
        show Path allowed _ (u.senderAt none)
        rw [moved,answered]
        exact ending.path.tail (Move.drifts (s'.senderAt none) .timeWait p.tcpAck
          (.inr (.inl ⟨ending.place.2.1 here,.inr rfl⟩)))
      · exact handled_of_path other (takeReset_path inv _)
    · exact handled_of_path other (takeReset_path inv _)

theorem closing_handled (here : s.state = .closing) : Handled allowed p s (s.fsmClosingPacket replay e p) := by
  refine gated_handled (fun s =>
    if p.OnlyAck then s.closingAck replay e p else .ok (s.takeReset (some .reset) e p)) inv ?_
  split
  · unfold closingAck
    split
    · rename_i accepted
      obtain ⟨s',called,ending⟩ := processAck_ending replays inv tame permits (by rw [here]; rfl) (by rw [here]; decide)
        accepted.2
      rw [called]
      refine @After.handled _ _ _ (if ge32 s'.sndSeq.una s'.sndSeq.fin then s'.enterTimeWait e p.tcpAck else s') ?_
      split
      · rename_i passed
        refine ending.moves (enterTimeWait_sender p.tcpAck) ?_ (.inr (.inr ⟨here,rfl⟩)) (by decide)
        rcases ending.place.2.2 here with first | second
        · refine Move.finAcked (s'.senderAt none) .timeWait p.tcpAck (.inr (.inl ⟨first,rfl⟩)) ?_
          rcases ending.covered permits (.inr here) passed ending.edges.2.2.2 with sent | slipped
          · refine .inl ⟨sent,ending.near,?_⟩
            rcases ending.missed first passed with stood | came
            · right
              refine ⟨passed,?_⟩
              have reached := ackInRange_reached accepted.2
              rw [← stood,← ending.edges.1] at reached
              exact reached
            · left
              have passed : le32 s'.sndSeq.fin s'.sndSeq.una = true := passed
              rw [came] at passed
              exact passed
          · exact .inr slipped
        · exact Move.drifts (s'.senderAt none) .timeWait p.tcpAck (.inr (.inr ⟨second,rfl⟩))
      · rename_i missed
        exact ending.stays rfl (fun _ => by simpa [ge32] using missed)
    · exact challengeAckAbove_handled inv
  · rename_i other
    exact handled_of_path other (takeReset_path inv _)

end FinWait

theorem lastAckAck_path (inv : Inv (s.senderAt none)) (permits : s.Permits allowed e p) (here : s.state = .lastAck) :
    Path allowed (s.senderAt none) ((s.lastAckAck e p).senderAt none) := by
  unfold lastAckAck
  split
  · rename_i accepted
    have reached := ackInRange_reached accepted.2
    rw [changeState_some]
    refine .single (Move.finAcked (s.senderAt none) .closed p.tcpAck (.inr (.inr ⟨here,rfl⟩)) ?_)
    by_cases covered : s.sndSeq.finSent = true ∧ le32 s.sndSeq.fin p.tcpAck = true
    · left
      refine ⟨covered.1,?_,.inl covered.2⟩
      have rest := arc_cut reached
      have flight : arc s.sndSeq.una s.sndSeq.max ≤ flightMax := inv.flight
      show arc p.tcpAck s.sndSeq.max ≤ flightMax
      omega
    · exact .inr (permits.unsentFin (.inr ⟨here,accepted.1,covered⟩))
  · unfold challengeAckAbove
    split
    · rw [emitChallengeAck_sender inv.toCore]
    · exact .refl

theorem lastAck_handled (inv : Inv (s.senderAt none)) (permits : s.Permits allowed e p) (here : s.state = .lastAck) :
    Handled allowed p s (.ok (s.fsmLastAckPacket e p)) := by
  refine ⟨_,rfl,?_,fun _ _ notLast => absurd here notLast⟩
  unfold fsmLastAckPacket
  split
  · rw [emitChallengeAck_sender inv.toCore]
  · cases passed : (s.checkSegmentAcceptability e p).1 with
    | false =>
      rw [show s.checkSegmentAcceptability e p = (false,(s.checkSegmentAcceptability e p).2) from Prod.ext passed rfl]
      show Path allowed _ ((s.checkSegmentAcceptability e p).2.senderAt none)
      rw [checkSegment_sender inv]
    | true =>
      rw [show s.checkSegmentAcceptability e p = (true,s) from Prod.ext passed (checkSegment_passed passed)]
      dsimp only
      split
      · rename_i absurd
        cases absurd
      · split
        · exact lastAckAck_path inv permits here
        · exact takeReset_path inv none

end TcpSession

end PmdPytcp.Tcp
