import PmdPytcp.Tcp.Receive.Ack
import PmdPytcp.Tcp.Refine.Handshake

namespace PmdPytcp.Tcp
open Arc

namespace TcpSession

variable {o : Occasion} {e : Env} {s s' : TcpSession} {hand : Hand} {p : TcpMetadata} {replay : Replay}

theorem Takes.then {out : Outcome} {f : TcpSession → TcpSession} (takes : Takes o hand s out)
    (tail : ∀ t, Told o t (f t)) : Takes o hand s (out >>= fun t => .ok (f t)) := by
  cases out with
  | error failure => exact takes
  | ok t => exact Relation.ReflTransGen.trans takes (tail t)

theorem Takes.ok (path : Intakes o (s.receiver hand) (s'.receiver .idle)) : Takes o hand s (.ok s') := path

theorem Takes.after {out : Outcome} (same : s'.receiver hand = s.receiver hand) (takes : Takes o hand s' out) :
    Takes o hand s out := by
  unfold Takes at takes ⊢
  rw [← same]
  exact takes

theorem segLen_small (p : TcpMetadata) : p.segLen < 2^32 := by
  have small := p.dataSmall
  have syn := Bool.toNat_le p.tcpFlagSyn
  have fin := Bool.toNat_le p.tcpFlagFin
  unfold TcpMetadata.segLen
  omega

theorem noteFullDuplicate_told : Told o s (s.noteFullDuplicate p) := by
  unfold noteFullDuplicate
  split
  · rename_i noted
    simp only [Bool.and_eq_true] at noted
    obtain ⟨⟨⟨on,loaded⟩,_⟩,_⟩ := noted
    refine .single (.note _ _ on ?_ nofun)
    intro empty
    have empty : p.tcpSeq = add32 p.tcpSeq p.segLen := empty
    have long := arc_add32 p.tcpSeq (segLen_small p)
    rw [← empty,arc_self] at long
    have none : p.tcpData = [] := by
      apply List.eq_nil_of_length_eq_zero
      unfold TcpMetadata.segLen at long
      omega
    rw [none] at loaded
    cases loaded
  · exact .refl

theorem checkSegment_told : Told o s (s.checkSegmentAcceptability e p).2 := by
  unfold checkSegmentAcceptability
  split
  · exact .rfl
  · split
    · exact .rfl
    · exact noteFullDuplicate_told.trans emitChallengeAck_told

theorem checkSegment_fits (passed : (s.checkSegmentAcceptability e p).1 = true) : s.segmentAcceptable p = true := by
  unfold checkSegmentAcceptability at passed
  split at passed
  · assumption
  · split at passed
    · cases passed
    · cases passed

theorem gated_takes (body : TcpSession → Outcome) (held : Held o p hand)
    (inner : s.segmentAcceptable p = true → Takes o hand s (body s)) :
    Takes o hand s (if p.tcpFlagSyn then .ok (s.emitChallengeAck e)
      else
        let (acceptable,s) := s.checkSegmentAcceptability e p
        if !acceptable then .ok s else body s) := by
  split
  · exact held.drops emitChallengeAck_told
  · cases passed : (s.checkSegmentAcceptability e p).1 with
    | false =>
      rw [show s.checkSegmentAcceptability e p = (false,(s.checkSegmentAcceptability e p).2) from Prod.ext passed rfl]
      exact held.drops checkSegment_told
    | true =>
      rw [show s.checkSegmentAcceptability e p = (true,s) from Prod.ext passed (checkSegment_passed passed)]
      exact inner (checkSegment_fits passed)

theorem checkRst_told : Told o s (s.checkRstAcceptability e p).2 := by
  unfold checkRstAcceptability
  split
  · exact .rfl
  · split
    · exact emitChallengeAck_told
    · exact .rfl

theorem takeReset_told (error : Option ConnError) : Told o s (s.takeReset error e p) := by
  have checked := checkRst_told (o := o) (e := e) (s := s) (p := p)
  unfold takeReset
  split
  · rcases same : s.checkRstAcceptability e p with ⟨acceptable,t⟩
    rw [same] at checked
    dsimp only at checked ⊢
    split
    · have noted : ({t with connectionError := error.getD t.connectionError} : TcpSession).receiver .idle =
        t.receiver .idle := rfl
      exact (checked.then noted).trans (changeState_late .closed none rfl)
    · exact checked
  · exact .rfl

theorem ackIfData_told : Told o s (s.ackIfData e p) := by
  unfold ackIfData
  split
  · exact .rfl
  · exact transmitPacket_told _

theorem challengeAckAbove_told : Told o s (s.challengeAckAbove e p) := by
  unfold challengeAckAbove
  split
  · exact emitChallengeAck_told
  · exact .rfl

theorem updateSendWindow_receiver : (s.updateSendWindow e p).receiver hand = s.receiver hand := by
  unfold updateSendWindow
  dsimp only
  rw [ingestSackInfo_receiver]
  split <;> rfl

theorem establishedDuplicateAck_told : Told o s (s.establishedDuplicateAck e p).session := by
  unfold establishedDuplicateAck
  dsimp only
  have armed := @keepaliveArmIdle_receiver e s .idle
  generalize s.keepaliveArmIdle e = t at armed ⊢
  split
  · exact .same (updateSendWindow_receiver.trans armed)
  · split
    · exact .same armed
    · exact .behind armed retransmitPacketRequest_told

theorem duplicateOfStored_some (queue : OooQueue) {block : Seq32 × Seq32}
    (found : duplicateOfStored p queue = some block) : block.1 ≠ block.2 := by
  induction queue with
  | nil => cases found
  | cons head rest ih =>
    unfold duplicateOfStored at found
    dsimp only at found
    generalize (if ge32 head.1.tcpSeq p.tcpSeq then head.1.tcpSeq else p.tcpSeq) = left at found
    generalize (if le32 (add32 head.1.tcpSeq head.1.tcpData.length) (add32 p.tcpSeq p.tcpData.length) then
      add32 head.1.tcpSeq head.1.tcpData.length else add32 p.tcpSeq p.tcpData.length) = right at found
    split at found
    · rename_i below
      injection found with same
      rw [← same]
      intro empty
      have empty : left = right := empty
      rw [empty,lt32_self] at below
      cases below
    · exact ih found

theorem noteStoredDuplicate_intakes (calm : hand ≠ .settling) :
    Intakes o (s.receiver hand) ((s.noteStoredDuplicate p).receiver hand) := by
  unfold noteStoredDuplicate
  split
  · rename_i on
    cases found : duplicateOfStored p s.oooPacketQueue with
    | none => exact .refl
    | some block => exact .single (.note _ block on (duplicateOfStored_some _ found) calm)
  · exact .refl

theorem storeOutOfOrder_takes {p : Stored} (held : Held o p.1 hand) (here : s.state = .established)
    (fits : s.segmentAcceptable p.1 = true) (above : gt32 p.1.tcpSeq s.rcvSeq.nxt = true) :
    Takes o hand s (.ok (s.storeOutOfOrder e p)) := by
  have calm : hand ≠ .settling := by
    rcases held with rfl | ⟨rfl,_⟩ <;> exact nofun
  refine (noteStoredDuplicate_intakes (p := p.1) calm).trans ?_
  have noted : ∀ hand, (s.noteStoredDuplicate p.1).receiver hand = {s.receiver hand with
      dsack := (s.noteStoredDuplicate p.1).pendingDsack} := by
    intro hand
    unfold noteStoredDuplicate
    split <;> rfl
  unfold storeOutOfOrder
  dsimp only
  generalize s.noteStoredDuplicate p.1 = t at noted ⊢
  have state : t.state = .established := (congrArg Receiver.state (noted .idle)).trans here
  have nxt : t.rcvSeq.nxt = s.rcvSeq.nxt := congrArg Receiver.nxt (noted .idle)
  have wnd : t.rcvWnd = s.rcvWnd := congrArg Receiver.wnd (noted .idle)
  split
  · rename_i room
    refine .head (.store _ p (held.imp_right And.left) state ?_ ?_ room) ?_
    · show gt32 p.1.tcpSeq t.rcvSeq.nxt = true
      rw [nxt]
      exact above
    · show acceptable p.1.tcpSeq p.1.segLen t.rcvSeq.nxt t.rcvWnd = true
      rw [nxt,wnd]
      exact fits
    · exact transmitPacket_told (s := {t with oooPacketQueue := t.oooPacketQueue.set p}) {flagAck := true}
  · exact held.drops (transmitPacket_told {flagAck := true})

theorem establishedAck_takes {p : Stored} (held : Held o p.1 hand) (here : s.state = .established)
    (fits : s.segmentAcceptable p.1 = true)
    (absorbs : s.Readable p.1 → Takes o hand s (s.processAckPacket replay e p.1)) :
    Takes o hand s (s.establishedAck replay e p) := by
  unfold establishedAck
  split
  · exact held.drops establishedDuplicateAck_told
  · split
    · rename_i above
      simp only [Bool.and_eq_true] at above
      exact storeOutOfOrder_takes held here fits above.1
    · split
      · rename_i carries
        refine absorbs ⟨by rw [here]; rfl,p.2.2.1,?_⟩
        simp only [carriesNewData,Bool.and_eq_true,Bool.or_eq_true,beq_iff_eq] at carries
        exact carries.1.imp_right And.left
      · split
        · exact held.drops emitChallengeAck_told
        · split
          · exact held.drops emitChallengeAck_told
          · exact held.drops .rfl

theorem establishedFin_takes (held : Held o p hand) (here : s.state = .established) (plain : p.tcpFlagSyn = false)
    (absorbs : s.Readable p → Takes o hand s (s.processAckPacket replay e p)) :
    Takes o hand s (s.establishedFin replay e p) := by
  unfold establishedFin
  split
  · rename_i current
    refine (absorbs ⟨by rw [here]; rfl,plain,.inl current.1⟩).then fun t => ?_
    have answered : Told o t (if p.tcpData.isEmpty then t else t.transmitPacket e {flagAck := true}) := by
      split
      · exact .rfl
      · exact transmitPacket_told _
    generalize (if p.tcpData.isEmpty then t else t.transmitPacket e {flagAck := true}) = u at answered ⊢
    have woken : ({u with eventRxBuffer := true} : TcpSession).receiver .idle = u.receiver .idle := rfl
    exact (answered.then woken).trans (changeState_late .closeWait _ rfl)
  · exact held.drops .rfl

theorem established_takes (held : Held o p hand) (here : s.state = .established)
    (absorbs : (s.checkPawsAndUpdateTsRecent e p).2.Readable p → Takes o hand (s.checkPawsAndUpdateTsRecent e p).2
      ((s.checkPawsAndUpdateTsRecent e p).2.processAckPacket replay e p)) :
    Takes o hand s (s.fsmEstablishedPacket replay e p) := by
  refine gated_takes (fun s =>
    let (passed,s) := s.checkPawsAndUpdateTsRecent e p
    if !passed then .ok s
    else if only : p.OnlyAck then s.establishedAck replay e ⟨p,only⟩
    else if p.FinAck then s.establishedFin replay e p
    else .ok (s.takeReset (some .reset) e p)) held fun fits => ?_
  rcases checkPaws_shape (e := e) (s := s) p with ⟨passed,ts,shape,_⟩ | ⟨failed,_⟩
  · refine .after (checkPaws_receiver passed) ?_
    rw [show s.checkPawsAndUpdateTsRecent e p = (true,{s with ts := ts}) from Prod.ext passed shape] at absorbs ⊢
    dsimp only at absorbs ⊢
    split
    · rename_i absurd
      cases absurd
    · split
      · rename_i only
        exact establishedAck_takes (p := ⟨p,only⟩) held here fits absorbs
      · split
        · rename_i fin
          exact establishedFin_takes held here fin.2.2.1 absorbs
        · exact held.drops (takeReset_told _)
  · rw [show s.checkPawsAndUpdateTsRecent e p = (false,(s.checkPawsAndUpdateTsRecent e p).2) from
      Prod.ext failed rfl]
    exact held.drops checkPaws_told

theorem enterTimeWait_told (cause : Seq32) : Told o s (s.enterTimeWait e cause) := by
  unfold enterTimeWait
  have moved := changeState_late (o := o) (e := e) (s := s) .timeWait (some cause) rfl
  generalize s.changeState e .timeWait (some cause) = t at moved ⊢
  exact moved.then (Eq.refl _)

theorem enterFinWait2_told (cause : Seq32) : Told o s (s.enterFinWait2 e cause) := by
  unfold enterFinWait2
  dsimp only
  have moved := changeState_late (o := o) (e := e) (s := s) .finWait2 (some cause) rfl
  generalize s.changeState e .finWait2 (some cause) = t at moved ⊢
  split
  · exact moved.then (Eq.refl _)
  · exact moved

section Closing

variable (held : Held o p hand) (takes : taking s.state = true)
  (absorbs : s.Readable p → Takes o hand s (s.processAckPacket replay e p))
include held takes absorbs

theorem finWait1_takes : Takes o hand s (s.fsmFinWait1Packet replay e p) := by
  refine gated_takes (fun s =>
    if p.OnlyAck then s.finWait1Ack replay e p
    else if p.FinAck then s.finWait1Fin replay e p
    else .ok (s.takeReset (some .reset) e p)) held fun _ => ?_
  split
  · rename_i only
    unfold finWait1Ack
    split
    · rename_i current
      refine (absorbs ⟨takes,only.2.1,.inl current.1⟩).then fun t => ?_
      have answered := ackIfData_told (o := o) (e := e) (s := t) (p := p)
      generalize t.ackIfData e p = u at answered ⊢
      split
      · exact answered.trans (enterFinWait2_told _)
      · exact answered
    · exact held.drops challengeAckAbove_told
  · split
    · rename_i fin
      unfold finWait1Fin
      split
      · rename_i current
        refine (absorbs ⟨takes,fin.2.2.1,.inl current.1⟩).then fun t => ?_
        have answered := transmitPacket_told (o := o) (e := e) (s := t) {flagAck := true}
        generalize t.transmitPacket e {flagAck := true} = u at answered ⊢
        split
        · exact answered.trans (enterTimeWait_told _)
        · exact answered.trans (changeState_late .closing _ rfl)
      · exact held.drops .rfl
    · exact held.drops (takeReset_told _)

theorem finWait2_takes : Takes o hand s (s.fsmFinWait2Packet replay e p) := by
  refine gated_takes (fun s =>
    if p.OnlyAck then s.finWait2Ack replay e p
    else if p.FinAck then s.finWait2Fin replay e p
    else .ok (s.takeReset (some .reset) e p)) held fun _ => ?_
  split
  · rename_i only
    unfold finWait2Ack
    split
    · rename_i current
      exact (absorbs ⟨takes,only.2.1,.inl current.1⟩).then fun _ => ackIfData_told
    · exact held.drops challengeAckAbove_told
  · split
    · rename_i fin
      unfold finWait2Fin
      split
      · rename_i current
        refine (absorbs ⟨takes,fin.2.2.1,.inl current.1⟩).then fun t => ?_
        have answered := transmitPacket_told (o := o) (e := e) (s := t) {flagAck := true}
        generalize t.transmitPacket e {flagAck := true} = u at answered ⊢
        have moved := answered.trans (changeState_late (e := e) .timeWait (some p.tcpAck) rfl)
        generalize u.changeState e .timeWait (some p.tcpAck) = v at moved ⊢
        exact moved.then (Eq.refl _)
      · exact held.drops (takeReset_told _)
    · exact held.drops (takeReset_told _)

theorem closing_takes : Takes o hand s (s.fsmClosingPacket replay e p) := by
  refine gated_takes (fun s =>
    if p.OnlyAck then s.closingAck replay e p
    else .ok (s.takeReset (some .reset) e p)) held fun _ => ?_
  split
  · rename_i only
    unfold closingAck
    split
    · rename_i current
      refine (absorbs ⟨takes,only.2.1,.inl current.1⟩).then fun t => ?_
      split
      · exact enterTimeWait_told _
      · exact .rfl
    · exact held.drops challengeAckAbove_told
  · exact held.drops (takeReset_told _)

theorem closeWait_takes : Takes o hand s (s.fsmCloseWaitPacket replay e p) := by
  refine gated_takes (fun s =>
    if p.OnlyAck then s.closeWaitAck replay e p
    else .ok (s.takeReset (some .reset) e p)) held fun _ => ?_
  split
  · rename_i only
    unfold closeWaitAck
    split
    · split
      · exact held.drops (.same updateSendWindow_receiver)
      · exact held.drops retransmitPacketRequest_told
    · split
      · exact held.drops (transmitPacket_told _)
      · split
        · rename_i current
          split
          · exact absorbs ⟨takes,only.2.1,.inl current.1⟩
          · exact held.drops (transmitPacket_told _)
        · exact held.drops .rfl
  · exact held.drops (takeReset_told _)

end Closing

theorem lastAck_takes (held : Held o p hand) : Takes o hand s (.ok (s.fsmLastAckPacket e p)) := by
  have whole : (.ok (s.fsmLastAckPacket e p) : Outcome) = if p.tcpFlagSyn then .ok (s.emitChallengeAck e)
      else
        let (acceptable,s) := s.checkSegmentAcceptability e p
        if !acceptable then .ok s
        else if p.OnlyAck then .ok (s.lastAckAck e p)
        else .ok (s.takeReset none e p) := by
    unfold fsmLastAckPacket
    split
    · rfl
    · rcases s.checkSegmentAcceptability e p with ⟨acceptable,t⟩
      dsimp only
      split
      · rfl
      · split <;> rfl
  rw [whole]
  refine gated_takes (fun s =>
    if p.OnlyAck then .ok (s.lastAckAck e p) else .ok (s.takeReset none e p)) held fun _ => ?_
  split
  · unfold lastAckAck
    split
    · exact held.drops (changeState_late (e := e) .closed _ rfl)
    · exact held.drops challengeAckAbove_told
  · exact held.drops (takeReset_told _)

-- `t` is `s` after it has read the options of a SYN.
def Learnt (p : TcpMetadata) (s t : TcpSession) : Prop := ∃ wsc sendSack sendTs cookie,
  t.receiver .idle = (s.receiver .idle).learn wsc p.wscaleOffered sendSack sendTs cookie ∧
  Scales p (s.receiver .idle) wsc p.wscaleOffered ∧
  (cookie = s.fastopen.cookieToEmit ∨ ∃ bytes, cookie = some bytes ∧ bytes.length ≤ 8)

theorem learnWscale_receiver : ∃ wsc, (∀ hand, (s.learnWscale p).receiver hand = {s.receiver hand with
    wsc := wsc,scales := p.wscaleOffered}) ∧ Scales p (s.receiver .idle) wsc p.wscaleOffered := by
  unfold learnWscale
  dsimp only
  split
  · rename_i both
    refine ⟨s.win.rcvWsc,fun _ => rfl,rfl,?_⟩
    have both : (s.receiver .idle).advertises = true ∧ p.tcpWscale ≠ 0 := both
    rw [if_pos both]
    rfl
  · rename_i lacking
    refine ⟨0,fun _ => rfl,rfl,?_⟩
    have lacking : ¬((s.receiver .idle).advertises = true ∧ p.tcpWscale ≠ 0) := lacking
    rw [if_neg lacking]

theorem learnOptions_learnt : Learnt p s (((s.learnWscale p).learnSack p).learnTs e p) := by
  obtain ⟨wsc,scaled,scales⟩ := learnWscale_receiver (s := s) (p := p)
  obtain ⟨ts,timed⟩ := learnTs_shape (e := e) (s := (s.learnWscale p).learnSack p) (p := p)
  refine ⟨wsc,s.advertise.sack && p.tcpSackperm,ts.sendTs,s.fastopen.cookieToEmit,?_,scales,.inl rfl⟩
  rw [timed]
  have sack : (s.learnWscale p).advertise.sack = s.advertise.sack := by
    unfold learnWscale
    dsimp only
    split <;> rfl
  show {((s.learnWscale p).receiver .idle) with
    sendSack := (s.learnWscale p).advertise.sack && p.tcpSackperm,sendTs := ts.sendTs} = _
  rw [scaled,sack]
  rfl

theorem Learnt.behind {t u : TcpSession} (same : t.receiver .idle = s.receiver .idle) (learnt : Learnt p t u) :
    Learnt p s u := by
  obtain ⟨wsc,sendSack,sendTs,cookie,shape,scales,issued⟩ := learnt
  refine ⟨wsc,sendSack,sendTs,cookie,?_,?_,?_⟩
  · rw [shape,same]
  · rw [← same]
    exact scales
  · have cookies : t.fastopen.cookieToEmit = s.fastopen.cookieToEmit := congrArg Receiver.cookie same
    rw [← cookies]
    exact issued

theorem Learnt.same {t u : TcpSession} (learnt : Learnt p s t) (same : u.receiver .idle = t.receiver .idle) :
    Learnt p s u := by
  unfold Learnt at learnt ⊢
  rw [same]
  exact learnt

theorem listenEcn_receiver : (s.listenEcn p).receiver hand = s.receiver hand := by
  obtain ⟨ec,a,shape⟩ := listenEcn_shape (s := s) (p := p)
  rw [shape]
  rfl

theorem synSentEcn_receiver : (s.synSentEcn p).receiver hand = s.receiver hand := by
  obtain ⟨ec,a,shape⟩ := synSentEcn_shape (s := s) (p := p)
  rw [shape]
  rfl

theorem Learnt.fastopen {t : TcpSession} (learnt : Learnt p s t) : Learnt p s (t.listenFastopen e p) := by
  obtain ⟨wsc,sendSack,sendTs,cookie,shape,scales,issued⟩ := learnt
  have cookies : t.fastopen.cookieToEmit = cookie := congrArg Receiver.cookie shape
  refine ⟨wsc,sendSack,sendTs,(t.listenFastopen e p).fastopen.cookieToEmit,?_,scales,?_⟩
  · show {t.receiver .idle with cookie := (t.listenFastopen e p).fastopen.cookieToEmit} = _
    rw [shape]
    rfl
  · unfold listenFastopen
    dsimp only
    split
    · exact .inr ⟨_,rfl,e.issuedSmall⟩
    · rw [cookies]
      exact issued

theorem Learnt.told {t : TcpSession} (learnt : Learnt p s t) (new : o.arrived p)
    (early : s.state = .listen ∨ s.state = .synSent) (asked : p.tcpFlagSyn = true) : Told o s t := by
  obtain ⟨wsc,sendSack,sendTs,cookie,shape,scales,issued⟩ := learnt
  unfold Told
  rw [shape]
  exact .single (.learn _ p _ _ _ _ _ rfl new early asked scales issued)

theorem enqueueIfAny_receiver (data : List UInt8) :
    (if data.isEmpty then s else s.enqueueRxBuffer data).receiver hand = (s.receiver hand).accept data := by
  split
  · rename_i empty
    rw [List.isEmpty_iff.mp empty]
    unfold Receiver.accept
    simp only [ite_self,List.append_nil]
  · exact enqueueRxBuffer_receiver data

theorem Learnt.begins {t u : TcpSession} {nxt : Seq32} {data : List UInt8} (learnt : Learnt p s t) (new : o.arrived p)
    (early : s.state = .listen ∨ s.state = .synSent) (asked : p.tcpFlagSyn = true)
    (load : data = p.tcpData ∨ data = [])
    (placed : u.receiver .idle = {(t.receiver .idle).accept data with nxt := nxt}) :
    Intakes o (s.receiver (.fresh p)) (u.receiver .idle) := by
  obtain ⟨wsc,sendSack,sendTs,cookie,shape,scales,issued⟩ := learnt
  rw [placed,shape]
  refine .head (.begin _ p nxt data rfl early asked load) (.single ?_)
  exact .learn _ p wsc p.wscaleOffered sendSack sendTs cookie rfl new early asked scales issued

theorem acceptSyn_takes (here : s.state = .listen) (new : o.arrived p) (asked : p.tcpFlagSyn = true) :
    Intakes o (s.receiver (.fresh p)) ((s.acceptSyn e p).receiver .idle) := by
  unfold acceptSyn
  dsimp only
  generalize known : (({s with
    cc := {s.cc with ccMode := e.listenCcMode},tcpNodelay := e.listenNodelay} : TcpSession).learnMss e p) = s₁
  have same : s₁.receiver .idle = s.receiver .idle := by
    rw [← known]
    rfl
  have learnt : Learnt p s (((((({s₁ with win := {s₁.win with sndWnd := p.tcpWin}} : TcpSession).learnWscale p).learnSack
      p).learnTs e p).listenEcn p).listenFastopen e p) := by
    refine Learnt.fastopen (Learnt.same (Learnt.behind same ?_) listenEcn_receiver)
    exact Learnt.behind (t := {s₁ with win := {s₁.win with sndWnd := p.tcpWin}}) rfl learnOptions_learnt
  generalize ((((({s₁ with win := {s₁.win with sndWnd := p.tcpWin}} : TcpSession).learnWscale p).learnSack
    p).learnTs e p).listenEcn p).listenFastopen e p = t at learnt ⊢
  have load : acceptedSynData e p = p.tcpData ∨ acceptedSynData e p = [] := by
    unfold acceptedSynData
    split
    · exact .inr rfl
    · exact .inl rfl
  generalize placing : ({t with
    rcvSeq := {t.rcvSeq with ini := p.tcpSeq,nxt := _},cc := _,peerContacted := true} : TcpSession) = u
  have placed : (if (acceptedSynData e p).isEmpty then u else u.enqueueRxBuffer (acceptedSynData e p)).receiver .idle =
      {(t.receiver .idle).accept (acceptedSynData e p) with
        nxt := add32 p.tcpSeq (p.tcpFlagSyn.toNat + (acceptedSynData e p).length)} := by
    rw [enqueueIfAny_receiver,← placing]
    rfl
  refine (learnt.begins new (.inl here) asked load placed).trans ?_
  rw [changeState_receiver]
  refine .single (.move _ .synRcvd rfl ⟨nofun,nofun⟩ fun _ => .inl ?_)
  obtain ⟨_,_,_,_,shape,_⟩ := learnt
  rw [placed,shape]
  exact here

-- The segment in hand is a stored one or came with the event.
def Newcomer (o : Occasion) (p : TcpMetadata) (hand : Hand) : Prop := p.OnlyAck ∨ hand = .fresh p ∧ o.arrived p

theorem listen_takes (held : Held o p hand) (here : s.state = .listen) (new : Newcomer o p hand) :
    Takes o hand s (.ok (s.fsmListenPacket e p)) := by
  unfold fsmListenPacket
  split
  · rename_i asked
    split
    · exact held.drops .rfl
    · split
      · exact held.drops .rfl
      · rcases new with only | ⟨rfl,new⟩
        · cases asked.1.1.symm.trans only.2.1
        · exact .ok (acceptSyn_takes here new asked.1.1)
  · exact held.drops .rfl

theorem takeSynAck_receiver : (s.takeSynAck e p).receiver hand = {(s.receiver hand).accept p.tcpData with
    nxt := add32 p.tcpSeq (p.tcpFlagSyn.toNat + p.tcpData.length)} := by
  unfold takeSynAck
  dsimp only
  rw [enqueueIfAny_receiver]
  rfl

theorem takeSynAck_takes (here : s.state = .synSent) (asked : p.tcpFlagSyn = true) :
    Intakes o (s.receiver (.fresh p)) ((s.takeSynAck e p).receiver .idle) := by
  rw [takeSynAck_receiver]
  exact .single (.begin _ p _ p.tcpData rfl (.inr here) asked (.inl rfl))

theorem takeSynAck_spent (answer : p.SynAck) (empty : s.oooPacketQueue = []) : (s.takeSynAck e p).Spent p := by
  have taken := @takeSynAck_receiver e s .idle p
  have nxt : (s.takeSynAck e p).rcvSeq.nxt = add32 p.tcpSeq (p.tcpFlagSyn.toNat + p.tcpData.length) :=
    congrArg Receiver.nxt taken
  have syn : p.tcpFlagSyn.toNat = 1 := by
    rw [answer.1]
    rfl
  have fin : p.tcpFlagFin.toNat = 0 := by
    rw [answer.2.2.1]
    rfl
  have small := p.dataSmall
  have length : arc p.tcpSeq (add32 p.tcpSeq (p.tcpFlagSyn.toNat + p.tcpData.length)) =
      p.tcpFlagSyn.toNat + p.tcpData.length := arc_add32 p.tcpSeq (n := p.tcpFlagSyn.toNat + p.tcpData.length) (by omega)
  refine ⟨?_,?_,(congrArg Receiver.ooo taken).trans empty⟩
  · have behind : lt32 p.tcpSeq (add32 p.tcpSeq (p.tcpFlagSyn.toNat + p.tcpData.length)) = true := by
      rw [lt32_iff,length]
      omega
    unfold overlapPrefix
    rw [nxt,behind,if_pos rfl,length]
    omega
  · have same : p.segEnd = add32 p.tcpSeq (p.tcpFlagSyn.toNat + p.tcpData.length) := by
      unfold TcpMetadata.segEnd TcpMetadata.segLen
      congr 1
      omega
    rw [nxt,same]
    exact lt32_self _

theorem rewindToUna_receiver : s.rewindToUna.receiver hand = s.receiver hand := by
  unfold rewindToUna
  split <;> rfl

theorem raiseRtoAfterSyn_receiver : s.raiseRtoAfterSyn.receiver hand = s.receiver hand := by
  unfold raiseRtoAfterSyn
  split <;> rfl

theorem completeConnect_told (here : s.state = .synSent) (new : o.arrived p) (asked : p.tcpFlagSyn = true) :
    Told o s (s.completeConnect e p) := by
  unfold completeConnect
  dsimp only
  have opened : s.rewindToUna.openWindow.raiseRtoAfterSyn.receiver .idle = s.receiver .idle := by
    rw [raiseRtoAfterSyn_receiver]
    exact rewindToUna_receiver
  generalize s.rewindToUna.openWindow.raiseRtoAfterSyn = t at opened ⊢
  have learnt : Learnt p s ((((t.learnWscale p).learnSack p).learnTs e p).synSentEcn p) :=
    Learnt.same (Learnt.behind opened learnOptions_learnt) synSentEcn_receiver
  generalize (((t.learnWscale p).learnSack p).learnTs e p).synSentEcn p = u at learnt ⊢
  have sent := (learnt.told new (.inr here) asked).trans ((transmitPacket_told (e := e) {flagAck := true}).trans
    (changeState_late (e := e) .established (some p.tcpAck) rfl))
  generalize (u.transmitPacket e {flagAck := true}).changeState e .established (some p.tcpAck) = v at sent ⊢
  exact sent.then (Eq.refl _)

theorem openSimultaneously_takes (here : s.state = .synSent) (new : o.arrived p) (asked : p.tcpFlagSyn = true) :
    Intakes o (s.receiver (.fresh p)) ((s.openSimultaneously e p).receiver .idle) := by
  unfold openSimultaneously
  dsimp only
  have known : (s.learnMss e p).receiver .idle = s.receiver .idle := rfl
  generalize s.learnMss e p = t at known ⊢
  have learnt : Learnt p s (((({t with win := {t.win with sndWnd := p.tcpWin}} : TcpSession).learnWscale p).learnSack
      p).learnTs e p) := by
    refine Learnt.behind known ?_
    exact Learnt.behind (t := {t with win := {t.win with sndWnd := p.tcpWin}}) rfl learnOptions_learnt
  generalize ((({t with win := {t.win with sndWnd := p.tcpWin}} : TcpSession).learnWscale p).learnSack p).learnTs e p = u
    at learnt ⊢
  generalize placing : ({u with
    rcvSeq := {u.rcvSeq with ini := p.tcpSeq,nxt := _},peerContacted := true,cc := _} : TcpSession) = v
  have placed : v.receiver .idle = {(u.receiver .idle).accept [] with nxt := add32 p.tcpSeq p.tcpFlagSyn.toNat} := by
    have nothing : (u.receiver .idle).accept [] = u.receiver .idle := by
      unfold Receiver.accept
      simp only [ite_self,List.append_nil]
    rw [nothing,← placing]
    rfl
  refine (learnt.begins new (.inr here) asked (.inr rfl) placed).trans ?_
  obtain ⟨seg,composed,out⟩ := @transmitPacket_receiver e v .idle
    {flagSyn := true,flagAck := true,seq := some u.sndSeq.ini}
  rw [changeState_receiver,out]
  refine .head (.emit _ seg composed (.inl rfl)) (.single (.move _ .synRcvd rfl ⟨nofun,nofun⟩ fun _ => .inr ?_))
  obtain ⟨_,_,_,_,shape,_⟩ := learnt
  rw [placed,shape]
  exact here

theorem synSentRefused_told : Told o s (s.synSentRefused e p) := by
  unfold synSentRefused
  split
  · have moved := changeState_late (o := o) (e := e) (s := s) .closed none rfl
    dsimp only
    generalize s.changeState e .closed none = t at moved ⊢
    exact moved.then (Eq.refl _)
  · exact .rfl

def Refuses (p : TcpMetadata) (s : TcpSession) : Prop :=
  s.state = .synSent ∧ p.tcpFlagAck = true ∧ s.ackInFlight p s.sndSeq.max = false ∧ p.tcpFlagRst = false

instance (p : TcpMetadata) (s : TcpSession) : Decidable (s.Refuses p) := inferInstanceAs (Decidable (_ ∧ _ ∧ _ ∧ _))

theorem synSentRst_told (here : s.state = .synSent) (refused : o.refused) :
    Told o s (s.sendTcpPacket (s.synSentRst p)) := by
  have bare : Unadorned o.refused (s.receiver .idle) (s.synSentRst p) := {
    flags := rfl
    sack := rfl
    options := by simp [Segment.optionBytes,synSentRst]
    win := .inr ⟨rfl,here,refused⟩
    moment := rfl}
  unfold Told
  rw [sendTcpPacket_receiver]
  exact .single (.plain _ _ bare rfl)

theorem synSent_takes (held : Held o p hand) (here : s.state = .synSent) (new : Newcomer o p hand)
    (empty : ¬p.OnlyAck → s.oooPacketQueue = []) (refusing : s.Refuses p → o.refused) :
    Takes o hand s (s.fsmSynSentPacket replay e p) := by
  unfold fsmSynSentPacket
  split
  · rename_i outside
    simp only [Bool.and_eq_true,Bool.not_eq_true'] at outside
    cases reset : p.tcpFlagRst with
    | true => exact held.drops .rfl
    | false => exact held.drops (synSentRst_told here (refusing ⟨here,outside.1,outside.2,reset⟩))
  · split
    · rename_i accepted
      have asked : p.tcpFlagSyn = true := accepted.1.1
      rcases new with only | ⟨rfl,new⟩
      · cases asked.symm.trans only.2.1
      · have queue := empty fun only => by cases asked.symm.trans only.2.1
        obtain ⟨told,still⟩ := @spent_told o e _ _ replay
          (takeSynAck_spent (e := e) accepted.1 queue)
        have begun : (s.takeSynAck e p).state = .synSent :=
          (congrArg Receiver.state (@takeSynAck_receiver _ _ .idle _)).trans here
        have taken := (takeSynAck_takes (o := o) (e := e) here asked).trans told
        rw [begun] at still
        cases done : (s.takeSynAck e p).processAckPacket replay e p with
        | error failure =>
          rw [done] at taken
          exact taken
        | ok t =>
          rw [done] at taken still
          exact taken.trans (completeConnect_told still new asked)
    · split
      · rename_i asked
        rcases new with only | ⟨rfl,new⟩
        · cases asked.1.1.symm.trans only.2.1
        · exact .ok (openSimultaneously_takes here new asked.1.1)
      · exact held.drops synSentRefused_told

theorem synRcvdAccecn_receiver : (s.synRcvdAccecn p).receiver hand = s.receiver hand := by
  unfold synRcvdAccecn
  split
  · dsimp only
    split
    · rfl
    · split <;> rfl
  · rfl

theorem completeAccept_told : Told o s (s.completeAccept e p) := by
  have opened : s.openWindow.raiseRtoAfterSyn.receiver .idle = s.receiver .idle := by
    rw [raiseRtoAfterSyn_receiver]
    rfl
  unfold completeAccept
  dsimp only
  generalize s.openWindow.raiseRtoAfterSyn = t at opened ⊢
  have answered : Told o t (if p.tcpData.isEmpty then t else t.transmitPacket e {flagAck := true}) := by
    split
    · exact .rfl
    · exact transmitPacket_told _
  generalize (if p.tcpData.isEmpty then t else t.transmitPacket e {flagAck := true}) = u at answered ⊢
  have moved := (Told.behind opened answered).trans (changeState_late (e := e) .established (some p.tcpAck) rfl)
  generalize u.changeState e .established (some p.tcpAck) = v at moved ⊢
  exact moved.then (Eq.refl _)

theorem synRcvdReset_told : Told o s (s.synRcvdReset e p) := by
  have checked := checkRst_told (o := o) (e := e) (s := s) (p := p)
  unfold synRcvdReset
  split
  · rcases same : s.checkRstAcceptability e p with ⟨acceptable,t⟩
    rw [same] at checked
    dsimp only at checked ⊢
    split
    · have noted : ({t with connectionError := .refused,eventConnect := t.eventConnect + 1} : TcpSession).receiver
        .idle = t.receiver .idle := rfl
      exact (checked.then noted).trans (changeState_late .closed none rfl)
    · exact checked
  · exact .rfl

theorem synRcvd_takes (held : Held o p hand) (here : s.state = .synRcvd)
    (absorbs : (s.synRcvdAccecn p).Readable p →
      Takes o hand (s.synRcvdAccecn p) ((s.synRcvdAccecn p).processAckPacket replay e p)) :
    Takes o hand s (s.fsmSynRcvdPacket replay e p) := by
  unfold fsmSynRcvdPacket
  split
  · exact held.drops emitChallengeAck_told
  · split
    · rename_i current
      have readable : s.Readable p := ⟨by rw [here]; rfl,current.1.2.1,.inl current.2.1⟩
      have taken := absorbs (readable.same synRcvdAccecn_receiver)
      exact Takes.then (.after synRcvdAccecn_receiver taken) fun _ => completeAccept_told
    · exact held.drops synRcvdReset_told

theorem reinit_receiver (here : s.state = .timeWait) : ∃ wsc sendSack sendTs,
    ((s.reinitForRfc6191Reuse e p).changeState e .synRcvd none).receiver .idle =
      ((s.receiver (.fresh p)).restart (add32 p.tcpSeq (p.tcpFlagSyn.toNat + p.tcpData.length)) p.tcpData).learn wsc
        p.wscaleOffered sendSack sendTs s.fastopen.cookieToEmit ∧
    Scales p (s.receiver .idle) wsc p.wscaleOffered := by
  generalize fresh : ({(s.reinitSendSide e).learnMss e p with
    win := {((s.reinitSendSide e).learnMss e p).win with sndWnd := p.tcpWin,maxWindow := p.tcpWin}} : TcpSession) = t
  have cleared : t.receiver .idle = {s.receiver .idle with delivered := [],told := []} := by
    rw [← fresh]
    rfl
  obtain ⟨wsc,scaled,scales⟩ := learnWscale_receiver (s := t) (p := p)
  have window : ((s.reinitSendSide e).reinitWindow e p).receiver .idle = {t.receiver .idle with
      wsc := wsc,scales := p.wscaleOffered
      sendSack := ((t.learnWscale p).learnSack p).advertise.sendSack
      sendTs := (t.learnWscale p).advertise.ts && p.tcpTsval.isSome} := by
    unfold reinitWindow
    dsimp only
    rw [fresh]
    show {(t.learnWscale p).receiver .idle with
      sendSack := ((t.learnWscale p).learnSack p).advertise.sendSack
      sendTs := (t.learnWscale p).advertise.ts && p.tcpTsval.isSome} = _
    rw [scaled]
  refine ⟨wsc,((t.learnWscale p).learnSack p).advertise.sendSack,(t.learnWscale p).advertise.ts && p.tcpTsval.isSome,?_,?_⟩
  · rw [changeState_receiver]
    unfold reinitForRfc6191Reuse reinitReceiveSide
    dsimp only
    rw [enqueueIfAny_receiver]
    rw [cleared] at window
    generalize (s.reinitSendSide e).reinitWindow e p = u at window ⊢
    show Receiver.moveTo .synRcvd (({u.receiver .idle with
      nxt := add32 p.tcpSeq (p.tcpFlagSyn.toNat + p.tcpData.length)
      count := 0,dsack := none,ooo := [],buffer := []} : Receiver).accept p.tcpData) = _
    rw [window]
    unfold Receiver.moveTo Receiver.accept
    dsimp only
    rw [if_neg (fun both : (s.receiver .idle).state = .synRcvd ∧ _ => by cases here.symm.trans both.1)]
    rfl
  · rw [cleared] at scales
    exact scales

theorem timeWait_takes (held : Held o p hand) (here : s.state = .timeWait) (new : Newcomer o p hand) :
    Takes o hand s (.ok (s.fsmTimeWaitPacket e p)) := by
  have checked := checkPaws_told (o := o) (e := e) (s := s) (p := p)
  have state := checkPaws_state (e := e) (s := s) (p := p)
  have passing := fun hand => @checkPaws_receiver e s hand p
  unfold fsmTimeWaitPacket
  dsimp only
  generalize s.checkPawsAndUpdateTsRecent e p = verdict at checked state passing ⊢
  obtain ⟨passed,t⟩ := verdict
  dsimp only at checked state passing ⊢
  have state : t.state = .timeWait := state.trans here
  cases passed with
  | false => exact held.drops checked
  | true =>
    simp only [Bool.not_true,Bool.false_eq_true,if_false]
    refine .after (passing hand rfl) ?_
    split
    · rename_i reuse
      simp only [reuseAcceptable,Bool.and_eq_true] at reuse
      have asked : p.tcpFlagSyn = true := reuse.1.1.1
      rcases new with only | ⟨rfl,new⟩
      · cases asked.symm.trans only.2.1
      · obtain ⟨wsc,sendSack,sendTs,fresh,scales⟩ := reinit_receiver (e := e) (p := p) state
        generalize (t.reinitForRfc6191Reuse e p).changeState e .synRcvd none = u at fresh ⊢
        have sent := transmitPacket_told (o := o) (e := e) (s := u) {flagSyn := true,flagAck := true}
        generalize u.transmitPacket e {flagSyn := true,flagAck := true} = v at sent ⊢
        unfold Told at sent
        rw [fresh] at sent
        exact .head (.reuse _ p _ wsc _ sendSack sendTs rfl state asked scales) sent
    · split
      · have sent := transmitPacket_told (o := o) (e := e) (s := t) {flagAck := true}
        generalize t.transmitPacket e {flagAck := true} = u at sent ⊢
        exact held.drops (sent.then (Eq.refl _))
      · split
        · exact held.drops emitChallengeAck_told
        · exact held.drops .rfl

-- The session a handler hands to `_process_ack_packet`.
def entering (e : Env) (p : TcpMetadata) (s : TcpSession) : TcpSession :=
  match s.state with
  | .synRcvd => s.synRcvdAccecn p
  | .established => (s.checkPawsAndUpdateTsRecent e p).2
  | _ => s

theorem dispatch_takes (held : Held o p hand) (new : Newcomer o p hand) (refusing : s.Refuses p → o.refused)
    (empty : ¬p.OnlyAck → s.state = .synSent → s.oooPacketQueue = [])
    (absorbs : (s.entering e p).Readable p →
      Takes o hand (s.entering e p) ((s.entering e p).processAckPacket replay e p)) :
    Takes o hand s (s.dispatchPacket replay e p) := by
  unfold dispatchPacket
  unfold entering at absorbs
  split <;> rename_i here
  · exact held.drops .rfl
  · exact listen_takes held here new
  · exact synSent_takes held here new (fun other => empty other here) refusing
  · rw [here] at absorbs
    exact synRcvd_takes held here absorbs
  · rw [here] at absorbs
    exact established_takes held here absorbs
  · rw [here] at absorbs
    exact finWait1_takes held (by rw [here]; rfl) absorbs
  · rw [here] at absorbs
    exact finWait2_takes held (by rw [here]; rfl) absorbs
  · rw [here] at absorbs
    exact closing_takes held (by rw [here]; rfl) absorbs
  · rw [here] at absorbs
    exact closeWait_takes held (by rw [here]; rfl) absorbs
  · exact lastAck_takes held
  · exact timeWait_takes held here new

theorem ecnPrologue_receiver : (s.ecnPrologue p).receiver hand = s.receiver hand := by
  obtain ⟨ec,a,shape⟩ := ecnPrologue_shape (s := s) p
  rw [shape]
  rfl

theorem pumpTail_receiver (entry : FsmState) (external : Bool) :
    (s.pumpTail e entry external).receiver hand = s.receiver hand := by
  unfold pumpTail
  dsimp only
  split
  · rfl
  · split <;> rfl

theorem Refuses.prologue (refuses : (s.ecnPrologue p).Refuses p) : s.Refuses p := by
  obtain ⟨ec,a,shape⟩ := ecnPrologue_shape (s := s) p
  rw [shape] at refuses
  exact refuses

theorem fsmPacket_takes (n : Nat) (lossy : o.lossy) (held : Held o p hand) (new : Newcomer o p hand)
    (refusing : s.Refuses p → o.refused) (empty : ¬p.OnlyAck → s.state = .synSent → s.oooPacketQueue = []) :
    Takes o hand s (fsmPacket e n p s) := by
  induction n generalizing p s hand with
  | zero => exact held.drops .rfl
  | succ n ih =>
    have restores : Restores o (fsmPacket e n) := by
      intro q t takes
      refine ih (.inr ⟨rfl,lossy⟩) (.inl q.2) ?_ (fun other => absurd q.2 other)
      intro refuses
      rw [refuses.1] at takes
      cases takes
    have begun : ∀ hand, (s.ecnPrologue p).receiver hand = s.receiver hand := fun _ => ecnPrologue_receiver
    have calm := fun refuses => refusing (Refuses.prologue (s := s) (p := p) refuses)
    unfold fsmPacket
    dsimp only
    generalize s.ecnPrologue p = t at begun calm ⊢
    have state : t.state = s.state := congrArg Receiver.state (begun .idle)
    have queue : t.oooPacketQueue = s.oooPacketQueue := congrArg Receiver.ooo (begun .idle)
    have taken := @dispatch_takes _ e t _ _ (fsmPacket e n) held new calm (by rwa [state,queue])
      fun readable => processAckPacket_takes held readable restores
    exact .after (begun hand) (taken.then fun _ => .same (pumpTail_receiver _ _))

end TcpSession

end PmdPytcp.Tcp
