import PmdPytcp.Tcp.Refine.Tx
import PmdPytcp.Tcp.Retransmit

namespace PmdPytcp.Tcp
open Arc

namespace TcpSession

variable {lent : Option Int} {e : Env} {s : TcpSession} {allowed : Slip → Prop}

theorem changeState_shape (new : FsmState) (cause : Option Seq32) :
    ∃ f ev ec t k, s.changeState e new cause = {s with
      state := new,log := s.log ++ [.moved s.state new cause],fastopen := f,eventRxBuffer := ev,eventClosed := ec
      timers := t,keepalive := k
      cc := if s.state = .established ∧ new ≠ .established then
          {s.cc with recoveryPoint := 0,recoverFs := 0,prrDelivered := 0,prrOut := 0}
        else s.cc} := by
  have left : ∀ t : TcpSession, leaveEstablished s.state new t = {t with
      cc := if s.state = .established ∧ new ≠ .established then
          {t.cc with recoveryPoint := 0,recoverFs := 0,prrDelivered := 0,prrOut := 0}
        else t.cc} := by
    intro t
    unfold leaveEstablished
    split <;> rfl
  have second : ∀ t : TcpSession, ∃ f, leaveSynRcvd s.state new t = {t with fastopen := f} := by
    intro t
    unfold leaveSynRcvd
    split
    · exact ⟨_,rfl⟩
    · exact ⟨t.fastopen,rfl⟩
  have third : ∀ t : TcpSession, ∃ ev, wakeReader new t = {t with eventRxBuffer := ev} := by
    intro t
    unfold wakeReader
    split
    · exact ⟨_,rfl⟩
    · exact ⟨t.eventRxBuffer,rfl⟩
  have fourth : ∀ t : TcpSession, ∃ ec d, settleTimers new t = {t with eventClosed := ec,timers := d} := by
    intro t
    unfold settleTimers
    split
    · exact ⟨_,_,rfl⟩
    · exact ⟨t.eventClosed,t.timers,rfl⟩
  unfold changeState
  dsimp only
  rw [left]
  obtain ⟨f,two⟩ := second {s with
    state := new,log := s.log ++ [.moved s.state new cause]
    cc := if s.state = .established ∧ new ≠ .established then
        {s.cc with recoveryPoint := 0,recoverFs := 0,prrDelivered := 0,prrOut := 0}
      else s.cc}
  rw [two]
  obtain ⟨ev,three⟩ := third {s with
    state := new,log := s.log ++ [.moved s.state new cause],fastopen := f
    cc := if s.state = .established ∧ new ≠ .established then
        {s.cc with recoveryPoint := 0,recoverFs := 0,prrDelivered := 0,prrOut := 0}
      else s.cc}
  rw [three]
  obtain ⟨ec,t,four⟩ := fourth {s with
    state := new,log := s.log ++ [.moved s.state new cause],fastopen := f,eventRxBuffer := ev
    cc := if s.state = .established ∧ new ≠ .established then
        {s.cc with recoveryPoint := 0,recoverFs := 0,prrDelivered := 0,prrOut := 0}
      else s.cc}
  rw [four]
  split
  · obtain ⟨k,t',five⟩ := keepaliveArmIdle_shape (e := e) (s := {s with
      state := new,log := s.log ++ [.moved s.state new cause],fastopen := f,eventRxBuffer := ev,eventClosed := ec
      timers := t
      cc := if s.state = .established ∧ new ≠ .established then
          {s.cc with recoveryPoint := 0,recoverFs := 0,prrDelivered := 0,prrOut := 0}
        else s.cc})
    exact ⟨f,ev,ec,t',k,five⟩
  · exact ⟨f,ev,ec,t,s.keepalive,rfl⟩

theorem changeState_sender (new : FsmState) (cause : Option Seq32) :
    (s.changeState e new cause).senderAt lent =
      {(s.senderAt lent).moveTo new with log := (s.log ++ [Obs.moved s.state new cause]).filter Obs.notable} := by
  obtain ⟨f,ev,ec,t,k,shape⟩ := changeState_shape (e := e) (s := s) new cause
  by_cases leaving : s.state = .established ∧ new ≠ .established
  · rw [if_pos leaving] at shape
    rw [shape,Sender.moveTo_leaving (s := s.senderAt lent) leaving]
    rfl
  · rw [if_neg leaving] at shape
    rw [shape,Sender.moveTo_staying (s := s.senderAt lent) leaving]
    rfl

theorem changeState_none (new : FsmState) :
    (s.changeState e new none).senderAt lent = (s.senderAt lent).moveTo new := by
  rw [changeState_sender,List.filter_append]
  have silent : [Obs.moved s.state new none].filter Obs.notable = [] := rfl
  rw [silent,List.append_nil]
  rfl

theorem changeState_some (new : FsmState) (a : Seq32) :
    (s.changeState e new (some a)).senderAt lent = (s.senderAt lent).moveBy new a := by
  rw [changeState_sender,List.filter_append]
  rfl

theorem regulate_path {s' : TcpSession} (inv : Inv (s.senderAt lent))
    (same : s'.senderAt lent =
      {s.senderAt lent with cc := (s'.senderAt lent).cc,mss := s'.win.sndMss.1,wnd := s'.win.sndWnd})
    (sound : (s'.senderAt lent).cc.Sound s.sndSeq.una s.sndSeq.max s.advertise.sendSack)
    (small : s'.win.sndWnd ≤ windowMax)
    (calm : s'.cc.recoveryPoint = 0 ∨ s'.cc.recoveryPoint = s.cc.recoveryPoint)
    (connecting : s.state = .synSent → s'.win.sndMss.1 ≤ s.win.sndMss.1 ∧ s'.win.sndWnd = s.win.sndWnd)
    (level : ((s.senderAt lent).cc.Level s.win.sndWnd → (s'.senderAt lent).cc.Level s'.win.sndWnd) ∨ allowed .unlevel) :
    Path allowed (s.senderAt lent) (s'.senderAt lent) := by
  rw [same]
  refine .single (Move.regulate (s.senderAt lent) _ _ _ sound s'.win.sndMss.2 small ?_ connecting level)
  intro hand
  rcases calm with zero | kept
  · exact zero
  · exact kept.trans (inv.handshake hand).2.2

theorem shrinkMssToEngine_path (inv : Inv (s.senderAt none)) :
    Path allowed (s.senderAt none) (s.shrinkMssToEngine.senderAt none) := by
  unfold shrinkMssToEngine
  split
  · rename_i smaller
    exact regulate_path inv rfl inv.cc inv.wnd (.inr rfl) (fun _ => ⟨le_of_lt smaller.2,rfl⟩) (.inl id)
  · exact .refl

theorem countSynRetransmit_sender : s.countSynRetransmit.senderAt lent = s.senderAt lent := by
  unfold countSynRetransmit
  split <;> rfl

theorem enterFrto_path (inv : Inv (s.senderAt none)) :
    Path allowed (s.senderAt none) (s.enterFrto.senderAt none) := by
  unfold enterFrto
  split
  · exact regulate_path inv rfl inv.cc inv.wnd (.inr rfl) (fun _ => ⟨le_refl _,rfl⟩) (.inl id)
  · refine regulate_path inv rfl ?_ inv.wnd (.inr rfl) (fun _ => ⟨le_refl _,rfl⟩) (.inl id)
    exact {inv.cc with frto := fun _ => ⟨inv.cc.cwnd,inv.cc.ssthresh⟩}

theorem lossEventSsthresh_positive (flightSize : Nat) (mss : Pos) : 0 < computeLossEventSsthresh flightSize mss := by
  have positive := mss.2
  unfold computeLossEventSsthresh
  omega

theorem cubicSsthresh_positive (cwnd mss : Pos) (fast : Bool) (prior : Nat) :
    0 < (cubicLossEventSsthresh cwnd mss fast prior).1 := by
  have positive := mss.2
  unfold cubicLossEventSsthresh
  dsimp only
  omega

theorem ssthreshForTimeout_path (inv : Inv (s.senderAt none)) :
    Path allowed (s.senderAt none) ((s.ssthreshForTimeout e).senderAt none) := by
  unfold ssthreshForTimeout
  split
  · refine regulate_path inv rfl ?_ inv.wnd (.inr rfl) (fun _ => ⟨le_refl _,rfl⟩) (.inl id)
    exact {inv.cc with ssthresh := cubicSsthresh_positive _ s.win.sndMss true s.cc.cubic.wMax}
  · refine regulate_path inv rfl ?_ inv.wnd (.inr rfl) (fun _ => ⟨le_refl _,rfl⟩) (.inl id)
    exact {inv.cc with ssthresh := lossEventSsthresh_positive _ _}

theorem collapseWindow_path (inv : Inv (s.senderAt none)) :
    Path allowed (s.senderAt none) (s.collapseWindow.senderAt none) := by
  have positive := s.win.sndMss.2
  have wnd : s.win.sndWnd ≤ windowMax := inv.wnd
  have shrunk : Path allowed (s.senderAt none) (({s with cc := {s.cc with
      cwnd := s.win.sndMss,sndEwn := min s.win.sndMss.1 s.win.sndWnd,recoveryPoint := 0
      recoverSeq := s.sndSeq.max}} : TcpSession).senderAt none) := by
    refine regulate_path inv rfl ?_ inv.wnd (.inl rfl) (fun _ => ⟨le_refl _,rfl⟩) (.inl fun _ => rfl)
    refine {inv.cc with cwnd := positive,ewn := ?_,recovering := fun under => absurd rfl under}
    show 0 ≤ min s.win.sndMss.1 s.win.sndWnd ∧ min s.win.sndMss.1 s.win.sndWnd ≤ windowMax
    omega
  refine shrunk.tail (Move.aim _ s.sndSeq.una ?_)
  show arc s.sndSeq.una s.sndSeq.una ≤ _
  simp

-- A timeout with SND.UNA at the ISS is taken for a lost SYN in every state.
def RewindsAtIss (e : Env) (s : TcpSession) : Prop :=
  handshaking s.state = false ∧ s.sndSeq.finSent = false ∧ s.sndSeq.una = s.sndSeq.ini ∧
    s.timerExpired e .retransmit = true ∧ s.sndSeq.una ≠ s.sndSeq.max

instance (e : Env) (s : TcpSession) : Decidable (s.RewindsAtIss e) :=
  inferInstanceAs (Decidable (_ ∧ _ ∧ _ ∧ _ ∧ _))

theorem walkBackSeqMod_path (home : s.sndSeq.nxt = s.sndSeq.una)
    (rewinds : handshaking s.state = false → s.sndSeq.finSent = false → s.sndSeq.una = s.sndSeq.ini → allowed .rewind) :
    Path allowed (s.senderAt none) (s.walkBackSeqMod.senderAt none) := by
  unfold walkBackSeqMod
  split
  · rename_i back
    refine .single (Move.walkBack (s.senderAt none) ?_)
    intro settled
    cases sent : s.sndSeq.finSent with
    | true => exact .inl sent
    | false =>
      rcases back with first | ⟨other,_⟩
      · exact .inr (rewinds settled sent (home ▸ first))
      · rw [sent] at other
        cases other
  · exact .refl

theorem reportTimeout_sender : s.reportTimeout.senderAt lent = s.senderAt lent := by
  unfold reportTimeout
  split <;> rfl

theorem abortForTimeout_closes (inv : Inv (s.senderAt none)) :
    ∃ t, Path allowed (s.senderAt none) t ∧ t.state = s.state ∧ (s.abortForTimeout e).senderAt none = t.moveTo .closed := by
  unfold abortForTimeout
  dsimp only
  rw [changeState_none,reportTimeout_sender]
  split
  · have sent : lt32 s.sndSeq.max s.sndSeq.una = false := not_past_max inv.toCore (by simp)
    rw [transmitPacket_bare {flagRst := true,flagAck := true,seq := some s.sndSeq.una} rfl sent]
    refine ⟨_,.single (Move.aim (s.senderAt none) s.sndSeq.una ?_),rfl,rfl⟩
    show arc s.sndSeq.una s.sndSeq.una ≤ _
    simp
  · exact ⟨_,.refl,rfl,rfl⟩

-- A session that goes on, or one that closed on the way.
def Ends (allowed : Slip → Prop) (v : Sender) (s' : TcpSession) : Prop :=
  ∃ t, Path allowed v t ∧ t.state = v.state ∧ (s'.senderAt none = t ∨ s'.senderAt none = t.moveTo .closed)

theorem retransmitPacketTimeout_ends (inv : Inv (s.senderAt none)) (roomy : s.Roomy)
    (rewinds : s.RewindsAtIss e → allowed .rewind) :
    (Path allowed (s.senderAt none) ((s.retransmitPacketTimeout e).senderAt none) ∧
      (s.retransmitPacketTimeout e).state = s.state ∧ (s.retransmitPacketTimeout e).Roomy) ∨
    ∃ t, Path allowed (s.senderAt none) t ∧ t.state = s.state ∧
      (s.retransmitPacketTimeout e).senderAt none = t.moveTo .closed := by
  unfold retransmitPacketTimeout
  split
  · exact .inl ⟨.refl,rfl,roomy⟩
  · rename_i expired
    split
    · exact .inl ⟨.refl,rfl,roomy⟩
    · rename_i outstanding
      split
      · exact .inr (abortForTimeout_closes inv)
      · left
        dsimp only
        generalize first : (s.backOffForTimeout e).shrinkMssToEngine = s₁
        have path₁ : Path allowed (s.senderAt none) (s₁.senderAt none) := by
          rw [← first]
          exact shrinkMssToEngine_path (s := s.backOffForTimeout e) inv
        have frame₁ : s₁.state = s.state ∧ s₁.sndSeq = s.sndSeq := by
          rw [← first]
          unfold shrinkMssToEngine
          split <;> exact ⟨rfl,rfl⟩
        generalize second : s₁.countSynRetransmit.armTimer e .retransmit s₁.countSynRetransmit.rtoState.rtoMs = s₂
        have same₂ : s₂.senderAt none = s₁.senderAt none := by
          rw [← second,armTimer_sender,countSynRetransmit_sender]
        have frame₂ : s₂.state = s.state ∧ s₂.sndSeq = s.sndSeq := by
          rw [← second]
          unfold countSynRetransmit
          split <;> exact frame₁
        generalize third : s₂.enterFrto = s₃
        have inv₂ : Inv (s₂.senderAt none) := same₂ ▸ path_inv path₁ inv
        have path₃ : Path allowed (s₂.senderAt none) (s₃.senderAt none) := third ▸ enterFrto_path inv₂
        have frame₃ : s₃.state = s.state ∧ s₃.sndSeq = s.sndSeq := by
          rw [← third]
          unfold enterFrto
          split <;> exact frame₂
        generalize fourth : s₃.ssthreshForTimeout e = s₄
        have inv₃ := path_inv path₃ inv₂
        have path₄ : Path allowed (s₃.senderAt none) (s₄.senderAt none) := fourth ▸ ssthreshForTimeout_path inv₃
        have frame₄ : s₄.state = s.state ∧ s₄.sndSeq = s.sndSeq := by
          rw [← fourth]
          unfold ssthreshForTimeout
          split <;> exact frame₃
        have path₅ : Path allowed (s₄.senderAt none) (s₄.collapseWindow.senderAt none) :=
          collapseWindow_path (path_inv path₄ inv₃)
        have back : Path allowed (s₄.collapseWindow.senderAt none) (s₄.collapseWindow.walkBackSeqMod.senderAt none) := by
          refine walkBackSeqMod_path rfl ?_
          intro settled unsent home
          have settled : handshaking s₄.state = false := settled
          have unsent : s₄.sndSeq.finSent = false := unsent
          have home : s₄.sndSeq.una = s₄.sndSeq.ini := home
          rw [frame₄.1] at settled
          rw [frame₄.2] at unsent home
          exact rewinds ⟨settled,unsent,home,by simpa using expired,outstanding⟩
        refine ⟨path₁.trans (same₂ ▸ path₃.trans (path₄.trans (path₅.trans back))),?_,?_⟩
        · unfold walkBackSeqMod
          split <;> exact frame₄.1
        · unfold walkBackSeqMod
          split <;> exact fun _ under => absurd rfl under

theorem retransmitAndPump_ends (inv : Inv (s.senderAt none)) (roomy : s.Roomy)
    (rewinds : s.RewindsAtIss e → allowed .rewind) :
    Ends allowed (s.senderAt none) ((s.retransmitPacketTimeout e).transmitData e) := by
  rcases retransmitPacketTimeout_ends inv roomy rewinds with ⟨path,state,roomy'⟩ | ⟨t,path,state,closed⟩
  · have pumped := transmitData_pumped (e := e) (path_inv path inv) (@Loan.none _ _ allowed) roomy'
    exact ⟨_,path.trans pumped.path,pumped.frame.state.trans state,.inl rfl⟩
  · have here : (s.retransmitPacketTimeout e).state = .closed := congrArg Sender.state closed
    rw [transmitData_idle (.inl here)]
    exact ⟨t,path,state,.inr closed⟩

theorem Ends.path {v : Sender} {s' : TcpSession} (ends : Ends allowed v s') : Path allowed v (s'.senderAt none) := by
  obtain ⟨t,path,_,same | closed⟩ := ends
  · rw [same]
    exact path
  · rw [closed]
    exact path.tail (Move.dropped t)

theorem rackDetect_shape : ∃ r t, s.rackDetect e = {s with rackTlp := r,timers := t} := by
  unfold rackDetect
  dsimp only
  split
  · exact ⟨_,_,rfl⟩
  · exact ⟨_,s.timers,rfl⟩

theorem rackProcessAck_shape (p : TcpMetadata) : ∃ r t, s.rackProcessAck e p = {s with rackTlp := r,timers := t} := by
  have taken : ∃ r, s.rackTakeAcked e p = {s with rackTlp := r} := by
    unfold rackTakeAcked
    dsimp only
    split
    · exact ⟨s.rackTlp,rfl⟩
    · exact ⟨_,rfl⟩
  obtain ⟨r,taken⟩ := taken
  unfold rackProcessAck
  rw [taken]
  dsimp only
  split
  · obtain ⟨r',t,detected⟩ := rackDetect_shape (e := e) (s := {s with rackTlp := r})
    exact ⟨r',t,detected⟩
  · exact ⟨r,s.timers,rfl⟩

theorem rackReorderTick_shape : ∃ r t, s.rackReorderTick e = {s with rackTlp := r,timers := t} := by
  unfold rackReorderTick
  split
  · exact ⟨s.rackTlp,s.timers,rfl⟩
  · dsimp only
    split
    · exact ⟨s.rackTlp,_,rfl⟩
    · obtain ⟨r,t,detected⟩ := rackDetect_shape (e := e) (s := s.cancelTimer e .rack)
      exact ⟨r,t,detected⟩

theorem aimProbe_shape (core : Core (s.senderAt none)) :
    ∃ x r, s.aimProbe = {s with sndSeq := {s.sndSeq with nxt := x},rackTlp := r} ∧
      arc s.sndSeq.una x ≤ arc s.sndSeq.una s.sndSeq.max := by
  unfold aimProbe
  dsimp only
  split
  · exact ⟨s.sndSeq.max,_,rfl,le_refl _⟩
  · refine ⟨_,_,rfl,?_⟩
    have positive := s.win.sndMss.2
    have short : arc s.sndSeq.una s.sndSeq.max < 0x8000_0000 := core.short
    have flight : s.sndSeq.flight = arc s.sndSeq.una s.sndSeq.max := rfl
    obtain ⟨n,count⟩ := Int.eq_ofNat_of_zero_le (a := min s.win.sndMss.1 s.sndSeq.flight) (by omega)
    rw [count]
    have rest := arc_sub32 s.sndSeq.max (n := n) (by omega)
    have seen := arc_seen_from s.sndSeq.una (sub32 s.sndSeq.max n) s.sndSeq.max
    have bound := arc_lt s.sndSeq.una (sub32 s.sndSeq.max n)
    omega

theorem tlpPtoTick_ends {v : Sender} (inv : Inv v) (ends : Ends allowed v s) :
    Ends allowed v (s.tlpPtoTick e) := by
  have inv' := path_inv ends.path inv
  unfold tlpPtoTick
  split
  · exact ends
  · dsimp only
    split
    · exact ends
    · split
      · exact ends
      · split
        · exact ends
        · split
          · exact ends
          · rename_i busy
            have calm : s.cc.recoveryPoint = 0 := by
              by_contra under
              exact busy (.inr (.inl under))
            obtain ⟨x,r,aimed,inside⟩ := aimProbe_shape (s := s.cancelTimer e .tlp) inv'.toCore
            rw [aimed]
            generalize named : ({s.cancelTimer e .tlp with
              sndSeq := {(s.cancelTimer e .tlp).sndSeq with nxt := x},rackTlp := r} : TcpSession) = s₁
            have moved : s₁.senderAt none = {s.senderAt none with nxt := x} := by
              rw [← named]
              rfl
            suffices pumped : Ends allowed v (s₁.transmitData e) from pumped
            obtain ⟨t,path,state,same | closed⟩ := ends
            · have there : Path allowed v (s₁.senderAt none) := by
                rw [moved]
                refine path.tail ?_
                rw [← same]
                exact Move.aim (s.senderAt none) x inside
              have still : s₁.cc.recoveryPoint = 0 := by
                rw [← named]
                exact calm
              have pumped := transmitData_pumped (e := e) (path_inv there inv) (@Loan.none _ _ allowed)
                (fun _ under => absurd still under)
              refine ⟨_,there.trans pumped.path,?_,.inl rfl⟩
              have before : s₁.state = s.state := congrArg Sender.state moved
              exact pumped.frame.state.trans (before.trans ((congrArg Sender.state same).trans state))
            · have here : s₁.state = .closed := (congrArg Sender.state moved).trans (congrArg Sender.state closed)
              have una : s.sndSeq.una = t.una := congrArg Sender.una closed
              have top : s.sndSeq.max = t.max := congrArg Sender.max closed
              rw [transmitData_idle (.inl here)]
              refine ⟨{t with nxt := x},path.tail (Move.aim t x ?_),state,.inr ?_⟩
              · rw [← una,← top]
                exact inside
              · rw [moved,closed]
                rfl

theorem keepaliveTick_sender : (s.keepaliveTick e).senderAt none = s.senderAt none ∨
    (s.keepaliveTick e).senderAt none = (s.senderAt none).moveTo .closed := by
  unfold keepaliveTick
  split
  · exact .inl rfl
  · split
    · exact .inl keepaliveArmIdle_sender
    · split
      · exact .inl rfl
      · split
        · right
          exact changeState_none .closed
        · left
          have quiet : (s.sendTcpPacket s.keepaliveProbe).senderAt none = s.senderAt none := by
            rw [sendTcpPacket_sender]
            rfl
          exact quiet

theorem keepaliveTick_ends {v : Sender} (ends : Ends allowed v s) : Ends allowed v (s.keepaliveTick e) := by
  obtain ⟨t,path,state,place⟩ := ends
  refine ⟨t,path,state,?_⟩
  rcases keepaliveTick_sender (e := e) (s := s) with same | closed
  · rw [same]
    exact place
  · right
    rw [closed]
    rcases place with here | gone
    · rw [here]
    · rw [gone,Sender.moveTo_closed_moveTo t (by decide)]

theorem applyPmtuUpdate_path (inv : Inv (s.senderAt none)) (nextHopMtu : Nat) (version : Plpmtud.IpVersion) :
    Path allowed (s.senderAt none) ((s.applyPmtuUpdate e nextHopMtu version).senderAt none) := by
  unfold applyPmtuUpdate
  dsimp only
  by_cases shrunk : (pmtuMss nextHopMtu version).1 < s.win.sndMss.1
  · have smaller : Path allowed (s.senderAt none)
        (({s with win := {s.win with sndMss := pmtuMss nextHopMtu version}} : TcpSession).senderAt none) :=
      regulate_path inv rfl inv.cc inv.wnd (.inr rfl) (fun _ => ⟨le_of_lt shrunk,rfl⟩) (.inl id)
    simp only [shrunk,decide_true,if_true]
    split
    · refine smaller.tail (Move.aim _ s.sndSeq.una ?_)
      show arc s.sndSeq.una s.sndSeq.una ≤ _
      simp
    · exact smaller
  · simp only [shrunk,decide_false]
    split
    · rename_i marked
      simp at marked
    · exact .refl

theorem requests_countRequest (tx : TxBufferState) (ack : Seq32) :
    (tx.countRequest ack).requests ack = tx.requests ack + 1 := by
  unfold TxBufferState.countRequest TxBufferState.requests
  rw [Dict.get_set_self]
  rfl

def answerRequest (e : Env) (ack : Seq32) (s : TcpSession) : Outcome :=
  if s.cc.recoveryPoint ≠ 0 then .ok s
  else if s.cc.recoverSeq ≠ 0 ∧ lt32 s.sndSeq.una s.cc.recoverSeq = true then .ok s
  else if s.tx.requests ack = 3 ∨
      (s.advertise.sendSack && isLost s.sndSeq.una s.sackScoreboard s.win.sndMss) = true then
    ((s.limitedTransmit e (s.tx.requests ack)).ssthreshForFastRetransmit e).map beginRecovery
  else .ok (s.limitedTransmit e (s.tx.requests ack))

theorem retransmitPacketRequest_eq (p : TcpMetadata) : s.retransmitPacketRequest e p =
    answerRequest e p.tcpAck {(s.ingestSackInfo p).rackProcessAck e p with
      tx := ((s.ingestSackInfo p).rackProcessAck e p).tx.countRequest p.tcpAck} := by
  have mapped : ∀ t : TcpSession, (do
      let s ← t.ssthreshForFastRetransmit e
      .ok s.beginRecovery : Outcome) = (t.ssthreshForFastRetransmit e).map beginRecovery := by
    intro t
    cases t.ssthreshForFastRetransmit e with
    | error failure => rfl
    | ok after => rfl
  unfold retransmitPacketRequest answerRequest
  dsimp only
  rw [mapped]

end TcpSession

end PmdPytcp.Tcp
