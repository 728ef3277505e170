import PmdPytcp.Tcp.Refine.States

namespace PmdPytcp.Tcp
open Arc

def Control.opened (cwnd : Int) (wnd : Nat) (cc : Control) : Control := {cc with cwnd := cwnd,ewn := min cwnd wnd}

theorem Control.opened_teaches {una top : Seq32} {cwnd mss : Int} {wnd wsc : Nat} {sendSack sack : Bool} {cc : Control}
    (sound : cc.Sound una top sack) (calm : cc.recoveryPoint = 0) (window : 0 < cwnd) (positive : 0 < mss)
    (small : wnd ≤ windowMax) (shift : wsc ≤ 14) : Teaches una top mss wnd wsc sendSack (cc.opened cwnd wnd) := {
  positive := positive
  small := small
  shift := shift
  sound := {sound with
    cwnd := window
    ewn := by
      show 0 ≤ min cwnd wnd ∧ min cwnd wnd ≤ windowMax
      omega
    recovering := fun under => absurd calm under}
  level := rfl
  calm := calm}

namespace TcpSession

variable {e : Env} {s : TcpSession} {allowed : Slip → Prop} {p : TcpMetadata} {replay : Replay}

theorem learnWscale_shape : ∃ r w, s.learnWscale p = {s with win := {s.win with rcvWsc := r,sndWsc := w,peerOffers := p.wscaleOffered}} ∧ w ≤ 14 := by
  unfold learnWscale
  dsimp only
  split
  · exact ⟨s.win.rcvWsc,_,rfl,p.wscaleSmall⟩
  · exact ⟨0,0,rfl,by decide⟩

theorem learnTs_shape : ∃ ts, s.learnTs e p = {s with ts := ts} := by
  unfold learnTs
  split
  · exact ⟨s.ts,rfl⟩
  · split
    · exact ⟨_,rfl⟩
    · exact ⟨s.ts,rfl⟩

theorem learnOptions_shape : ∃ r w ts, ((s.learnWscale p).learnSack p).learnTs e p = {s with
      win := {s.win with rcvWsc := r,sndWsc := w,peerOffers := p.wscaleOffered},ts := ts
      advertise := {s.advertise with sendSack := s.advertise.sack && p.tcpSackperm}} ∧ w ≤ 14 := by
  obtain ⟨r,w,scaled,shift⟩ := learnWscale_shape (s := s) (p := p)
  rw [scaled]
  obtain ⟨ts,timed⟩ := learnTs_shape (e := e) (p := p) (s := ({s with
    win := {s.win with rcvWsc := r,sndWsc := w,peerOffers := p.wscaleOffered}} : TcpSession).learnSack p)
  exact ⟨r,w,ts,timed,shift⟩

theorem listenEcn_shape : ∃ ec a, s.listenEcn p = {s with ecn := ec,accecn := a} := by
  unfold listenEcn
  dsimp only
  split
  · exact ⟨s.ecn,_,rfl⟩
  · split
    · exact ⟨_,s.accecn,rfl⟩
    · exact ⟨s.ecn,s.accecn,rfl⟩

theorem enqueueIfAny_sender (data : List UInt8) :
    (if data.isEmpty then s else s.enqueueRxBuffer data).senderAt none = s.senderAt none := by
  split
  · rfl
  · unfold enqueueRxBuffer
    split <;> rfl

theorem tcpWin_small (p : TcpMetadata) : p.tcpWin ≤ windowMax := by
  have small := p.winSmall
  unfold windowMax
  omega

theorem acceptSyn_path (inv : Inv (s.senderAt none)) (here : s.state = .listen) :
    Path allowed (s.senderAt none) ((s.acceptSyn e p).senderAt none) := by
  obtain ⟨_,_,calm⟩ := inv.handshake (by rw [show (s.senderAt none).state = .listen from here]; rfl)
  unfold acceptSyn
  dsimp only
  obtain ⟨r,w,ts,learned,shift⟩ := learnOptions_shape (e := e) (p := p) (s := {(({s with
    cc := {s.cc with ccMode := e.listenCcMode},tcpNodelay := e.listenNodelay} : TcpSession).learnMss e p) with
      win := {(({s with cc := {s.cc with ccMode := e.listenCcMode}
                        tcpNodelay := e.listenNodelay} : TcpSession).learnMss e p).win with sndWnd := p.tcpWin}})
  rw [learned]
  generalize before : TcpSession.listenEcn p _ = t
  obtain ⟨ec,a,marked⟩ := listenEcn_shape (p := p) (s := {s with
    cc := {s.cc with ccMode := e.listenCcMode},tcpNodelay := e.listenNodelay
    plpmtudAdapter := s.plpmtudAdapter.limitMax (p.tcpMss + s.ipTcpOverhead)
    win := {s.win with sndMss := s.handshakeMss e p,sndWnd := p.tcpWin,rcvWsc := r,sndWsc := w,peerOffers := p.wscaleOffered},ts := ts
    advertise := {s.advertise with sendSack := s.advertise.sack && p.tcpSackperm}})
  have shape := before.symm.trans marked
  rw [changeState_none,enqueueIfAny_sender]
  subst shape
  have taught := @Control.opened_teaches _ _ _ ((s.handshakeMss e p).1) _ w (s.advertise.sack && p.tcpSackperm) _ _ inv.cc calm (s.handshakeMss e p).2 (s.handshakeMss e p).2
    (tcpWin_small p) shift
  exact .single (Move.negotiate (s.senderAt none) _ _ w _ ts.sendTs _ (.inl here) taught)

theorem listen_handled (inv : Inv (s.senderAt none)) (here : s.state = .listen) :
    Handled allowed p s (.ok (s.fsmListenPacket e p)) := by
  refine ⟨_,rfl,?_,?_⟩
  · unfold fsmListenPacket
    split
    · split
      · exact .refl
      · split
        · exact .refl
        · exact acceptSyn_path inv here
    · exact .refl
  · intro _ settled
    rw [here] at settled
    cases settled

theorem synRcvdAccecn_shape : ∃ a, s.synRcvdAccecn p = {s with accecn := a} := by
  unfold synRcvdAccecn
  split
  · exact ⟨_,rfl⟩
  · exact ⟨s.accecn,rfl⟩

theorem raiseRtoAfterSyn_sender : s.raiseRtoAfterSyn.senderAt none = s.senderAt none := by
  unfold raiseRtoAfterSyn
  split <;> rfl

theorem completeAccept_sender (core : Core (s.senderAt none)) (calm : s.cc.recoveryPoint = 0) :
    (s.completeAccept e p).senderAt none =
      ({s.senderAt none with
        cc := (s.senderAt none).cc.opened (initialWindow s.win.sndMss) s.win.sndWnd} : Sender).moveBy .established
          p.tcpAck := by
  have taught := @Control.opened_teaches _ _ _ _ _ _ s.advertise.sendSack _ _ core.cc calm
    (initialWindow_positive s.win.sndMss) core.mss core.wnd core.wsc
  have opened : s.openWindow.raiseRtoAfterSyn.senderAt none = {s.senderAt none with
      cc := (s.senderAt none).cc.opened (initialWindow s.win.sndMss) s.win.sndWnd} := raiseRtoAfterSyn_sender
  have core' : Core (s.openWindow.raiseRtoAfterSyn.senderAt none) := by
    rw [opened]
    exact {core with cc := taught.sound}
  have answered : (if p.tcpData.isEmpty then s.openWindow.raiseRtoAfterSyn
      else s.openWindow.raiseRtoAfterSyn.transmitPacket e {flagAck := true}).senderAt none =
      s.openWindow.raiseRtoAfterSyn.senderAt none := by
    split
    · rfl
    · exact sendAck_sender core'
  unfold completeAccept
  dsimp only
  generalize (if p.tcpData.isEmpty then s.openWindow.raiseRtoAfterSyn
      else s.openWindow.raiseRtoAfterSyn.transmitPacket e {flagAck := true}) = t at answered ⊢
  have moved := @changeState_some none e t .established p.tcpAck
  rw [answered,opened] at moved
  exact moved

theorem checkPaws_failed (failed : (s.checkPawsAndUpdateTsRecent e p).1 = false) :
    s.pawsVerdict e p = .dropSilent ∨ s.pawsVerdict e p = .dropAnswered := by
  unfold checkPawsAndUpdateTsRecent at failed
  split at failed
  · cases failed
  · cases failed
  · rename_i verdict
    exact .inl verdict
  · rename_i verdict
    exact .inr verdict

theorem Processed.alone {s' : TcpSession} (done : Processed p s s') (empty : s.oooPacketQueue = []) :
    s'.oooPacketQueue = [] ∧ s'.replayOoo replay = .ok s' := by
  have bare : s'.oooPacketQueue = [] := by
    rw [done.queue,empty]
    rfl
  refine ⟨bare,?_⟩
  unfold replayOoo
  rw [bare]
  rfl

theorem synRcvdAck_path (inv : Inv (s.senderAt none)) (tame : s.Tame p) (permits : s.Permits allowed e p)
    (here : s.state = .synRcvd) (only : p.OnlyAck) (current : p.tcpAck = s.sndSeq.nxt) :
    ∃ s', (do
      let s ← (s.synRcvdAccecn p).processAckPacket replay e p
      .ok (s.completeAccept e p) : Outcome) = .ok s' ∧ Path allowed (s.senderAt none) (s'.senderAt none) := by
  obtain ⟨_,empty,calm⟩ := inv.handshake (by rw [show (s.senderAt none).state = .synRcvd from here]; rfl)
  have calm : s.cc.recoveryPoint = 0 := calm
  have reached : arc s.sndSeq.una p.tcpAck ≤ arc s.sndSeq.una s.sndSeq.max := by
    rw [current]
    exact inv.nxt
  have sane : s.advertise.sendSack = true → GateSound p.tcpAck s.sndSeq.max p.tcpSackBlocks :=
    fun on => tame.sack on p (List.mem_cons_self ..) reached
  obtain ⟨a,counted⟩ := synRcvdAccecn_shape (s := s) (p := p)
  rw [counted]
  rcases processAckPacket_ok (e := e) (s := {s with accecn := a}) replay p inv.toCore reached sane with
    ⟨failed,dropped⟩ | ⟨_,s',called,done⟩
  · have same := checkPaws_sender (e := e) (s := {s with accecn := a}) inv.toCore p
    rw [dropped]
    refine ⟨_,rfl,?_⟩
    generalize (({s with accecn := a} : TcpSession).checkPawsAndUpdateTsRecent e p).2 = t at same
    have same : t.senderAt none = s.senderAt none := same
    have calm' : t.cc.recoveryPoint = 0 := (congrArg (fun v => v.cc.recoveryPoint) same).trans calm
    have core : Core (t.senderAt none) := same ▸ inv.toCore
    rw [completeAccept_sender core calm',same]
    have taught := @Control.opened_teaches _ _ _ _ _ _ s.advertise.sendSack _ _ inv.cc calm
      (initialWindow_positive t.win.sndMss) inv.mss (show t.win.sndWnd ≤ windowMax from core.wnd) inv.wsc
    have slipped : allowed .thirdLeg := by
      apply permits.thirdLeg
      refine ⟨here,only,current,?_⟩
      rcases checkPaws_failed failed with silent | answered
      · exact .inl silent
      · exact .inr (.inl answered)
    have wnd : t.win.sndWnd = s.win.sndWnd := congrArg Sender.wnd same
    refine .single (Move.admitted (s.senderAt none) p.tcpAck _ here slipped taught.sound ?_ calm)
    show min _ _ = min _ _
    rw [wnd]
    rfl
  · obtain ⟨unqueued,stopped⟩ := @Processed.alone _ _ replay _ done empty
    obtain ⟨blocks,cc,mss,sender,board,bare,sound,positive,small,_⟩ := done.sender
    have calm' : s'.cc.recoveryPoint = 0 := by
      by_contra under
      exact done.point under calm
    have core : Core (s'.senderAt none) := by
      rw [sender]
      exact {acknowledge_core inv.toCore reached board bare sound positive small with}
    rw [called,stopped]
    refine ⟨_,rfl,?_⟩
    rw [completeAccept_sender core calm',sender,unqueued]
    have point : cc.recoveryPoint = 0 := by
      have same : s'.cc.recoveryPoint = cc.recoveryPoint := congrArg (fun v => v.cc.recoveryPoint) sender
      rw [← same]
      exact calm'
    have wnd : s'.win.sndWnd = s.peerWnd p := congrArg Sender.wnd sender
    have taught := @Control.opened_teaches _ _ _ _ _ _ s.advertise.sendSack _ _ sound point
      (initialWindow_positive s'.win.sndMss) positive (show s'.win.sndWnd ≤ windowMax from core.wnd) inv.wsc
    have step := @Move.accepted allowed (s.senderAt none) p.tcpAck blocks
      (cc.opened (initialWindow s'.win.sndMss) s'.win.sndWnd) mss (s.peerWnd p) here ?_ reached board bare (wnd ▸ taught)
    · have queue : s.oooPacketQueue = [] := empty
      have same : ({(s.senderAt none).acknowledge p.tcpAck blocks
          (cc.opened (initialWindow s'.win.sndMss) s'.win.sndWnd) mss (s.peerWnd p) with ooo := []} : Sender) =
          (s.senderAt none).acknowledge p.tcpAck blocks
            (cc.opened (initialWindow s'.win.sndMss) s'.win.sndWnd) mss (s.peerWnd p) := by
        rw [← queue]
        rfl
      rw [← same] at step
      exact .single step
    · by_cases fresh : 0 < arc s.sndSeq.una p.tcpAck
      · exact .inl fresh
      · right
        apply permits.thirdLeg
        refine ⟨here,only,current,.inr (.inr ?_)⟩
        rw [← current]
        exact (arc_eq_zero.mp (by omega)).symm

theorem synRcvd_handled (inv : Inv (s.senderAt none)) (tame : s.Tame p) (permits : s.Permits allowed e p)
    (here : s.state = .synRcvd) : Handled allowed p s (s.fsmSynRcvdPacket replay e p) := by
  have outside : ∀ {claim : Prop}, handshaking s.state = false → claim := by
    intro claim settled
    rw [here] at settled
    cases settled
  unfold fsmSynRcvdPacket
  split
  · exact handled_challenge inv
  · split
    · rename_i accepted
      obtain ⟨s',result,path⟩ := @synRcvdAck_path _ _ _ _ replay inv tame permits here accepted.1 accepted.2.2
      exact ⟨s',result,path,fun _ => outside⟩
    · refine ⟨_,rfl,?_,fun _ => outside⟩
      unfold synRcvdReset
      split
      · have same := checkRst_sender (e := e) (p := p) inv
        generalize s.checkRstAcceptability e p = verdict at same ⊢
        obtain ⟨acceptable,t⟩ := verdict
        dsimp only at same ⊢
        rw [← same]
        split
        · rw [changeState_none]
          exact .single (Move.dropped _)
        · exact .refl
      · exact .refl

theorem takeSynAck_sender : (s.takeSynAck e p).senderAt none = {s.senderAt none with
    mss := (s.handshakeMss e p).1,wnd := p.tcpWin
    cc := (s.senderAt none).cc.opened (s.handshakeMss e p).1 p.tcpWin} := enqueueIfAny_sender p.tcpData

theorem synSentEcn_shape : ∃ ec a, s.synSentEcn p = {s with ecn := ec,accecn := a} := by
  unfold synSentEcn
  split
  · exact ⟨s.ecn,s.accecn,rfl⟩
  · split
    · exact ⟨s.ecn,_,rfl⟩
    · split
      · exact ⟨_,s.accecn,rfl⟩
      · exact ⟨s.ecn,s.accecn,rfl⟩

theorem rewindToUna_shape (core : Core (s.senderAt none)) :
    ∃ nxt, s.rewindToUna = {s with sndSeq := {s.sndSeq with nxt := nxt}} ∧
      arc s.sndSeq.una nxt ≤ arc s.sndSeq.una s.sndSeq.max := by
  unfold rewindToUna
  split
  · exact ⟨s.sndSeq.una,rfl,by simp⟩
  · exact ⟨s.sndSeq.nxt,rfl,core.nxt⟩

-- The session that is about to acknowledge the SYN+ACK.
def readyToAck (e : Env) (p : TcpMetadata) (s : TcpSession) : TcpSession :=
  (((s.rewindToUna.openWindow.raiseRtoAfterSyn.learnWscale p).learnSack p).learnTs e p).synSentEcn p

theorem learnOptions_sender : ∃ w on ts, (((s.learnWscale p).learnSack p).learnTs e p).senderAt none =
    {s.senderAt none with wsc := w,sendSack := on,sendTs := ts} ∧ w ≤ 14 := by
  obtain ⟨r,w,ts,learned,shift⟩ := learnOptions_shape (e := e) (p := p) (s := s)
  rw [learned]
  exact ⟨w,_,ts.sendTs,rfl,shift⟩

theorem readyToAck_sender (core : Core (s.senderAt none)) :
    ∃ nxt w on ts, w ≤ 14 ∧ arc s.sndSeq.una nxt ≤ arc s.sndSeq.una s.sndSeq.max ∧
      (s.readyToAck e p).senderAt none = {s.senderAt none with
        nxt := nxt,wsc := w,sendSack := on,sendTs := ts
        cc := (s.senderAt none).cc.opened (initialWindow s.win.sndMss) s.win.sndWnd} := by
  obtain ⟨nxt,rewound,inside⟩ := rewindToUna_shape core
  obtain ⟨w,on,ts,learned,shift⟩ := learnOptions_sender (e := e) (p := p) (s := s.rewindToUna.openWindow.raiseRtoAfterSyn)
  have opened : s.rewindToUna.openWindow.raiseRtoAfterSyn.senderAt none = {s.senderAt none with
      nxt := nxt,cc := (s.senderAt none).cc.opened (initialWindow s.win.sndMss) s.win.sndWnd} := by
    rw [raiseRtoAfterSyn_sender,rewound]
    rfl
  rw [opened] at learned
  refine ⟨nxt,w,on,ts,shift,inside,?_⟩
  unfold readyToAck
  generalize ((s.rewindToUna.openWindow.raiseRtoAfterSyn.learnWscale p).learnSack p).learnTs e p = t at learned ⊢
  obtain ⟨ec,a,marked⟩ := synSentEcn_shape (p := p) (s := t)
  rw [marked]
  exact learned

theorem completeConnect_sender (core : Core (s.senderAt none)) (calm : s.cc.recoveryPoint = 0)
    (clean : s.sackScoreboard = []) :
    ∃ nxt w on ts, w ≤ 14 ∧ arc s.sndSeq.una nxt ≤ arc s.sndSeq.una s.sndSeq.max ∧
      (s.completeConnect e p).senderAt none =
        ({s.senderAt none with
          nxt := nxt,wsc := w,sendSack := on,sendTs := ts
          cc := (s.senderAt none).cc.opened (initialWindow s.win.sndMss) s.win.sndWnd} : Sender).moveBy .established
            p.tcpAck := by
  obtain ⟨nxt,w,on,ts,shift,inside,ready⟩ := readyToAck_sender (e := e) (p := p) core
  refine ⟨nxt,w,on,ts,shift,inside,?_⟩
  have taught := @Control.opened_teaches _ _ _ _ _ _ on _ _ core.cc calm (initialWindow_positive s.win.sndMss) core.mss
    core.wnd shift
  have core' : Core ((s.readyToAck e p).senderAt none) := by
    rw [ready]
    exact {core with
      nxt := inside
      bare := fun _ => clean
      wsc := shift
      cc := taught.sound}
  have moved := @changeState_some none e ((s.readyToAck e p).transmitPacket e {flagAck := true})
    .established p.tcpAck
  rw [sendAck_sender core',ready] at moved
  unfold completeConnect
  dsimp only
  show (({((s.readyToAck e p).transmitPacket e {flagAck := true}).changeState e .established (some p.tcpAck) with
    eventConnect := _}) : TcpSession).senderAt none = _
  generalize ((s.readyToAck e p).transmitPacket e {flagAck := true}).changeState e .established (some p.tcpAck) = t
    at moved ⊢
  exact moved

theorem accept_unstamped (unstamped : s.ts.sendTs = false) : (s.checkPawsAndUpdateTsRecent e p).1 = true := by
  unfold checkPawsAndUpdateTsRecent pawsVerdict
  simp [unstamped]

theorem synSentAck_path (inv : Inv (s.senderAt none)) (here : s.state = .synSent)
    (acked : s.ackInFlight p s.sndSeq.nxt = true) :
    ∃ s', (do
      let s ← (s.takeSynAck e p).processAckPacket replay e p
      .ok (s.completeConnect e p) : Outcome) = .ok s' ∧ Path allowed (s.senderAt none) (s'.senderAt none) := by
  obtain ⟨_,empty,calm⟩ := inv.handshake (by rw [show (s.senderAt none).state = .synSent from here]; rfl)
  obtain ⟨off,unstamped⟩ := inv.unanswered (.inr here)
  simp only [ackInFlight,Bool.and_eq_true] at acked
  have within : arc s.sndSeq.una s.sndSeq.nxt ≤ arc s.sndSeq.una s.sndSeq.max := inv.nxt
  have short : arc s.sndSeq.una s.sndSeq.max < 0x8000_0000 := inv.short
  have fresh : 0 < arc s.sndSeq.una p.tcpAck := by
    by_contra zero
    have same : s.sndSeq.una = p.tcpAck := arc_eq_zero.mp (by omega)
    have ahead := acked.1
    rw [← same,lt32_self] at ahead
    cases ahead
  have reached : arc s.sndSeq.una p.tcpAck ≤ arc s.sndSeq.una s.sndSeq.max :=
    le_trans (between_of_le32 (by omega) (le32_of_lt32 acked.1) acked.2) within
  have taken := takeSynAck_sender (e := e) (p := p) (s := s)
  generalize s.takeSynAck e p = t at taken ⊢
  have opening := @Control.opened_teaches _ _ _ _ _ s.win.sndWsc s.advertise.sendSack _ _ inv.cc calm
    (s.handshakeMss e p).2 (s.handshakeMss e p).2 (tcpWin_small p) inv.wsc
  have core : Core (t.senderAt none) := by
    rw [taken]
    exact {inv.toCore with
      mss := (s.handshakeMss e p).2
      wnd := tcpWin_small p
      cc := opening.sound}
  have una : t.sndSeq.una = s.sndSeq.una := congrArg Sender.una taken
  have top : t.sndSeq.max = s.sndSeq.max := congrArg Sender.max taken
  have sack : t.advertise.sendSack = false := (congrArg Sender.sendSack taken).trans off
  have stamps : t.ts.sendTs = false := (congrArg Sender.sendTs taken).trans unstamped
  have queue : t.oooPacketQueue = [] := (congrArg Sender.ooo taken).trans empty
  have point : t.cc.recoveryPoint = 0 := (congrArg (fun v => v.cc.recoveryPoint) taken).trans calm
  rcases processAckPacket_ok (e := e) (s := t) replay p core (by rw [una,top]; exact reached)
    (fun on => by rw [sack] at on; cases on) with ⟨failed,_⟩ | ⟨_,s',called,done⟩
  · rw [accept_unstamped stamps] at failed
    cases failed
  · obtain ⟨unqueued,stopped⟩ := @Processed.alone _ _ replay _ done queue
    obtain ⟨blocks,cc,mss,sender,board,bare,sound,positive,small,_⟩ := done.sender
    have clean : blocks = [] := bare sack
    subst clean
    have calm' : s'.cc.recoveryPoint = 0 := by
      by_contra under
      exact done.point under point
    have still : cc.recoveryPoint = 0 := by
      have same : s'.cc.recoveryPoint = cc.recoveryPoint := congrArg (fun v => v.cc.recoveryPoint) sender
      rw [← same]
      exact calm'
    have core' : Core (s'.senderAt none) := by
      rw [sender]
      exact {acknowledge_core core (by rw [taken]; exact reached) board bare sound positive small with}
    have una' : s'.sndSeq.una = p.tcpAck := congrArg Sender.una sender
    have top' : s'.sndSeq.max = s.sndSeq.max := (congrArg Sender.max sender).trans top
    have wnd : s'.win.sndWnd = t.peerWnd p := congrArg Sender.wnd sender
    obtain ⟨nxt,w,on,ts,shift,inside,connected⟩ := completeConnect_sender (e := e) (p := p) core' calm'
      (congrArg Sender.blocks sender)
    rw [called,stopped]
    refine ⟨_,rfl,?_⟩
    rw [connected,sender,unqueued,taken]
    rw [una',top'] at inside
    have taught := @Control.opened_teaches _ _ _ _ _ w on _ _ sound still
      (initialWindow_positive s'.win.sndMss) positive small shift
    rw [top] at taught
    have step := @Move.connected allowed (s.senderAt none) p.tcpAck mss (t.peerWnd p) w on ts
      (cc.opened (initialWindow s'.win.sndMss) (t.peerWnd p)) here fresh reached taught
    refine Relation.ReflTransGen.tail (.single step) ?_
    have aimed := @Move.aim allowed _ nxt (show arc ((((s.senderAt none).acknowledge p.tcpAck []
      (cc.opened (initialWindow s'.win.sndMss) (t.peerWnd p)) mss (t.peerWnd p)).learn mss (t.peerWnd p) w on ts
      (cc.opened (initialWindow s'.win.sndMss) (t.peerWnd p))).moveBy .established p.tcpAck).una nxt ≤ _ from inside)
    have queue' : (s.senderAt none).ooo = [] := empty
    rw [wnd,← queue']
    exact aimed

-- A session answers a crossing SYN while it is still in SYN_SENT; the sender
-- cannot tell this from answering just after the move.
theorem openSimultaneously_path (inv : Inv (s.senderAt none)) (here : s.state = .synSent) :
    Path allowed (s.senderAt none) ((s.openSimultaneously e p).senderAt none) := by
  obtain ⟨_,_,calm⟩ := inv.handshake (by rw [show (s.senderAt none).state = .synSent from here]; rfl)
  unfold openSimultaneously
  dsimp only
  obtain ⟨w,on,ts,learned,shift⟩ := learnOptions_sender (e := e) (p := p) (s := {s.learnMss e p with
    win := {(s.learnMss e p).win with sndWnd := p.tcpWin}})
  generalize (TcpSession.learnTs e p _) = t at learned ⊢
  have mss : t.win.sndMss.1 = (s.handshakeMss e p).1 := congrArg Sender.mss learned
  have wnd : t.win.sndWnd = p.tcpWin := congrArg Sender.wnd learned
  have ini : t.sndSeq.ini = s.sndSeq.ini := congrArg Sender.ini learned
  rw [changeState_none]
  have taught := @Control.opened_teaches _ _ _ ((s.handshakeMss e p).1) _ w on _ _ inv.cc calm
    (s.handshakeMss e p).2 (s.handshakeMss e p).2 (tcpWin_small p) shift
  have step := @Move.negotiate allowed (s.senderAt none) _ _ w on ts _ (.inr here) taught
  obtain ⟨seg,syn,fin,data,seq,sent⟩ := @transmitPacket_sender none e {t with
    rcvSeq := {t.rcvSeq with ini := p.tcpSeq,nxt := add32 p.tcpSeq p.tcpFlagSyn.toNat}
    peerContacted := true
    cc := {t.cc with cwnd := t.win.sndMss,sndEwn := min t.win.sndMss.1 t.win.sndWnd}}
    {flagSyn := true,flagAck := true,seq := some t.sndSeq.ini} t.sndSeq.ini rfl
  have occupies : Emit.occupies {flagSyn := true,flagAck := true,seq := some t.sndSeq.ini} = true := rfl
  rw [if_pos occupies,phase0PreSendHygiene_sender,if_neg (by simp [restarts])] at sent
  refine Relation.ReflTransGen.tail (.single step) ?_
  have out := @Move.syn allowed (((s.senderAt none).learn (s.handshakeMss e p).1 p.tcpWin w on ts
    ((s.senderAt none).cc.opened (s.handshakeMss e p).1 p.tcpWin)).moveTo .synRcvd) seg (.inr rfl) ⟨syn,fin⟩
    (seq.trans ini) (.inl data)
  have view : ({t with
      rcvSeq := {t.rcvSeq with ini := p.tcpSeq,nxt := add32 p.tcpSeq p.tcpFlagSyn.toNat}
      peerContacted := true
      cc := {t.cc with cwnd := t.win.sndMss,sndEwn := min t.win.sndMss.1 t.win.sndWnd}} : TcpSession).senderAt none =
      (s.senderAt none).learn (s.handshakeMss e p).1 p.tcpWin w on ts
        ((s.senderAt none).cc.opened (s.handshakeMss e p).1 p.tcpWin) := by
    show ({t.senderAt none with cc := (t.senderAt none).cc.opened t.win.sndMss.1 t.win.sndWnd} : Sender) = _
    rw [mss,wnd,learned]
    rfl
  rw [view] at sent
  rw [sent]
  exact out

theorem synSent_handled (inv : Inv (s.senderAt none)) (here : s.state = .synSent) :
    Handled allowed p s (s.fsmSynSentPacket replay e p) := by
  have outside : ∀ {claim : Prop}, handshaking s.state = false → claim := by
    intro claim settled
    rw [here] at settled
    cases settled
  unfold fsmSynSentPacket
  split
  · refine handled_quiet ?_
    split
    · rfl
    · rw [sendTcpPacket_sender]
      rfl
  · split
    · rename_i accepted
      obtain ⟨s',result,path⟩ := @synSentAck_path e _ allowed _ replay inv here accepted.2
      exact ⟨s',result,path,fun _ => outside⟩
    · split
      · exact ⟨_,rfl,openSimultaneously_path inv here,fun _ => outside⟩
      · refine ⟨_,rfl,?_,fun _ => outside⟩
        unfold synSentRefused
        split
        · have closed := @changeState_none none e s .closed
          dsimp only
          generalize s.changeState e .closed none = t at closed ⊢
          show Path allowed _ (t.senderAt none)
          rw [closed]
          exact .single (Move.dropped _)
        · exact .refl

theorem reinit_sender (inv : Inv (s.senderAt none)) : ∃ mss wnd wsc on ts cc,
    (s.reinitForRfc6191Reuse e p).senderAt none =
      ((s.senderAt none).restart e.newIss).learn mss wnd wsc on ts cc ∧
      Teaches e.newIss e.newIss mss wnd wsc on cc := by
  unfold reinitForRfc6191Reuse reinitReceiveSide
  dsimp only
  rw [enqueueIfAny_sender]
  unfold reinitWindow
  dsimp only
  obtain ⟨r,w,scaled,shift⟩ := learnWscale_shape (p := p) (s := {(s.reinitSendSide e).learnMss e p with
    win := {((s.reinitSendSide e).learnMss e p).win with sndWnd := p.tcpWin,maxWindow := p.tcpWin}})
  rw [scaled]
  refine ⟨_,_,w,_,_,_,rfl,?_⟩
  have positive := ((s.reinitSendSide e).handshakeMss e p).2
  have small := tcpWin_small p
  exact {
    positive := positive
    small := small
    shift := shift
    sound := {inv.cc with
      cwnd := positive
      ssthresh := by
        show (0 : Int) < ssthreshInf
        decide
      ewn := by
        show 0 ≤ min ((s.reinitSendSide e).handshakeMss e p).1 p.tcpWin ∧
          min ((s.reinitSendSide e).handshakeMss e p).1 p.tcpWin ≤ windowMax
        omega
      recovering := fun under => absurd rfl under}
    level := rfl
    calm := rfl}

theorem reuse_path (inv : Inv (s.senderAt none)) (here : s.state = .timeWait) :
    Path allowed (s.senderAt none) ((((s.reinitForRfc6191Reuse e p).changeState e .synRcvd none).transmitPacket e
      {flagSyn := true,flagAck := true}).senderAt none) := by
  obtain ⟨mss,wnd,wsc,on,ts,cc,fresh,taught⟩ := reinit_sender (e := e) (p := p) inv
  have moved := @changeState_none none e (s.reinitForRfc6191Reuse e p) .synRcvd
  rw [fresh] at moved
  generalize (s.reinitForRfc6191Reuse e p).changeState e .synRcvd none = t at moved ⊢
  have step : Path allowed (s.senderAt none) (t.senderAt none) := by
    rw [moved]
    exact .single (Move.reused (s.senderAt none) e.newIss mss wnd wsc on ts cc here taught)
  have state : t.state = .synRcvd := congrArg Sender.state moved
  have nxt : t.sndSeq.nxt = t.sndSeq.ini := by
    have first : t.sndSeq.nxt = e.newIss := congrArg Sender.nxt moved
    have ini : t.sndSeq.ini = e.newIss := congrArg Sender.ini moved
    rw [first,ini]
  exact step.trans (sendSyn_path (path_inv step inv) _ (.inr state) ⟨rfl,rfl⟩ nxt (.inl rfl))

theorem timeWait_handled (inv : Inv (s.senderAt none)) (here : s.state = .timeWait) :
    Handled allowed p s (.ok (s.fsmTimeWaitPacket e p)) := by
  have same := checkPaws_sender (e := e) inv.toCore p
  unfold fsmTimeWaitPacket
  dsimp only
  generalize s.checkPawsAndUpdateTsRecent e p = verdict at same ⊢
  obtain ⟨passed,t⟩ := verdict
  dsimp only at same ⊢
  have state : t.state = .timeWait := (congrArg Sender.state same).trans here
  have inv' : Inv (t.senderAt none) := same ▸ inv
  refine .behind same ?_
  split
  · exact handled_quiet rfl
  · split
    · rename_i reuse
      refine handled_of_path ?_ (reuse_path inv' state)
      intro only
      simp [reuseAcceptable,only.2.1] at reuse
    · split
      · refine handled_quiet ?_
        rw [armTimer_sender,sendAck_sender inv'.toCore]
      · split
        · exact handled_challenge inv'
        · exact handled_quiet rfl

end TcpSession

end PmdPytcp.Tcp
