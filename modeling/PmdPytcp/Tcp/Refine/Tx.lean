import PmdPytcp.Tcp.Sender

namespace PmdPytcp.Tcp
open Arc

-- What the sender laws speak about: segments that take sequence space, and
-- moves that an acknowledgement causes.
def Obs.notable : Obs → Bool
  | .control _ => false
  | .sent .. => true
  | .moved _ _ cause => cause.isSome

namespace TcpSession

-- The sender a session is. While a limited transmit borrows `snd_ewn`, the
-- lender's value is the one that counts.
def senderAt (lent : Option Int) (s : TcpSession) : Sender where
  state := s.state
  ini := s.sndSeq.ini
  una := s.sndSeq.una
  nxt := s.sndSeq.nxt
  max := s.sndSeq.max
  fin := s.sndSeq.fin
  finSent := s.sndSeq.finSent
  seqMod := s.tx.seqMod
  buffer := s.tx.buffer
  written := s.written
  blocks := s.sackScoreboard
  sendSack := s.advertise.sendSack
  sendTs := s.ts.sendTs
  mss := s.win.sndMss.1
  wnd := s.win.sndWnd
  wsc := s.win.sndWsc
  cc := {
    cwnd := s.cc.cwnd
    ssthresh := s.cc.ssthresh
    ewn := lent.getD s.cc.sndEwn
    recoveryPoint := s.cc.recoveryPoint
    recoverFs := s.cc.recoverFs
    frtoActive := s.cc.frtoActive
    frtoPreCwnd := s.cc.frtoPreCwnd
    frtoPreSsthresh := s.cc.frtoPreSsthresh
    frValid := s.cc.frCubicSnapshotValid
    frPreCwnd := s.cc.frPreCwnd
    frPreSsthresh := s.cc.frPreSsthresh}
  ooo := s.oooPacketQueue
  log := s.log.filter Obs.notable

variable {lent : Option Int} {e : Env} {s : TcpSession}

theorem keepaliveArmIdle_shape : ∃ k t, s.keepaliveArmIdle e = {s with keepalive := k,timers := t} := by
  unfold keepaliveArmIdle
  split
  · exact ⟨_,_,rfl⟩
  · exact ⟨s.keepalive,s.timers,rfl⟩

theorem sackBlocksField_shape (m : Emit) : ∃ d, (s.sackBlocksField m).2 = {s with pendingDsack := d} := by
  unfold sackBlocksField
  split
  · exact ⟨_,rfl⟩
  · exact ⟨s.pendingDsack,rfl⟩

theorem ecnBits_shape (m : Emit) : ∃ a, (s.ecnBits m).2 = {s with accecn := a} := by
  unfold ecnBits
  split
  · exact ⟨s.accecn,rfl⟩
  · split
    · exact ⟨s.accecn,rfl⟩
    · split
      · exact ⟨s.accecn,rfl⟩
      · split
        · exact ⟨s.accecn,rfl⟩
        · split
          · exact ⟨_,rfl⟩
          · split <;> exact ⟨s.accecn,rfl⟩

theorem phase1ComposeEcnFlags_shape (m : Emit) :
    ∃ a c, (s.phase1ComposeEcnFlags m).2 = {s with accecn := a,ecn := c} := by
  obtain ⟨a,bits⟩ := ecnBits_shape (s := s) m
  unfold phase1ComposeEcnFlags
  rcases same : s.ecnBits m with ⟨⟨ece,cwr,ns⟩,s'⟩
  rw [same] at bits
  dsimp only at bits ⊢
  rw [bits]
  split
  · exact ⟨a,_,rfl⟩
  · exact ⟨a,s.ecn,rfl⟩

theorem phase2BuildAccecnCounters_shape (m : Emit) :
    ∃ a, (s.phase2BuildAccecnCounters m).2 = {s with accecn := a} := by
  unfold phase2BuildAccecnCounters
  split
  · exact ⟨s.accecn,rfl⟩
  · exact ⟨_,rfl⟩

theorem composeSegment_shape (seq : Seq32) (m : Emit) :
    ∃ d a c, (s.composeSegment e seq m).2 = {s with pendingDsack := d,accecn := a,ecn := c} := by
  obtain ⟨d,first⟩ := sackBlocksField_shape (s := s) m
  obtain ⟨a,c,second⟩ := phase1ComposeEcnFlags_shape (s := {s with pendingDsack := d}) m
  obtain ⟨a',third⟩ := phase2BuildAccecnCounters_shape (s := {s with pendingDsack := d,accecn := a,ecn := c}) m
  refine ⟨d,a',c,?_⟩
  show (((s.sackBlocksField m).2.phase1ComposeEcnFlags m).2.phase2BuildAccecnCounters m).2 = _
  rw [first,second,third]

theorem phase4AdvanceSendState_shape (seq : Seq32) (m : Emit) :
    ∃ r n d, s.phase4AdvanceSendState e seq m = {s with
      rackTlp := r
      rcvSeq := {s.rcvSeq with una := s.rcvSeq.nxt}
      sndSeq := advanceSendSeq seq m s.sndSeq
      tx := s.tx.bumpSeqModForFlags m.flagSyn m.flagFin
      cc := {s.cc with prrOut := n}
      delayedAckSegmentsPending := d} := by
  have rack : ∃ r, s.recordRack e seq m = {s with rackTlp := r} := by
    unfold recordRack
    split
    · exact ⟨_,rfl⟩
    · exact ⟨s.rackTlp,rfl⟩
  have prr : ∀ t : TcpSession, ∃ n, t.countPrrOut m = {t with cc := {t.cc with prrOut := n}} := by
    intro t
    unfold countPrrOut
    split
    · exact ⟨_,rfl⟩
    · exact ⟨t.cc.prrOut,rfl⟩
  obtain ⟨r,rack⟩ := rack
  unfold phase4AdvanceSendState
  rw [rack]
  dsimp only
  obtain ⟨n,counted⟩ := prr {s with
    rackTlp := r
    rcvSeq := {s.rcvSeq with una := s.rcvSeq.nxt}
    sndSeq := advanceSendSeq seq m s.sndSeq
    tx := s.tx.bumpSeqModForFlags m.flagSyn m.flagFin}
  rw [counted]
  split
  · exact ⟨r,n,0,rfl⟩
  · exact ⟨r,n,s.delayedAckSegmentsPending,rfl⟩

theorem armTlp_shape (m : Emit) : ∃ r t, s.armTlp e m = {s with rackTlp := r,timers := t} := by
  unfold armTlp
  split
  · dsimp only
    split
    · exact ⟨_,_,rfl⟩
    · exact ⟨s.rackTlp,s.timers,rfl⟩
  · exact ⟨s.rackTlp,s.timers,rfl⟩

theorem phase5PostSendTimers_shape (m : Emit) :
    ∃ k t r, s.phase5PostSendTimers e m = {s with keepalive := k,timers := t,rackTlp := r} := by
  have timed : ∀ (t : TcpSession) (test : Bool) (name : TimerName) (delayMs : Nat),
      ∃ d, (if test then t.armTimer e name delayMs else t) = {t with timers := d} := by
    intro t test name delayMs
    cases test with
    | false => exact ⟨t.timers,rfl⟩
    | true => exact ⟨_,rfl⟩
  obtain ⟨k,t₁,idle⟩ := keepaliveArmIdle_shape (e := e) (s := s)
  unfold phase5PostSendTimers
  rw [idle]
  dsimp only
  obtain ⟨t₂,second⟩ := timed {s with keepalive := k,timers := t₁} (decide (s.state = .established)) .delayedAck
    e.delayedAckDelayMs
  simp only [decide_eq_true_eq] at second
  rw [second]
  dsimp only
  obtain ⟨t₃,third⟩ := timed {s with keepalive := k,timers := t₂}
    (m.occupies && !({s with keepalive := k,timers := t₂} : TcpSession).timerArmed e .retransmit) .retransmit
    s.rtoState.rtoMs
  rw [third]
  obtain ⟨r,t₄,last⟩ := armTlp_shape (e := e) (s := {s with keepalive := k,timers := t₃}) m
  exact ⟨k,t₄,r,last⟩

@[simp] theorem armTimer_sender (name : TimerName) (delayMs : Nat) :
    (s.armTimer e name delayMs).senderAt lent = s.senderAt lent := rfl

@[simp] theorem cancelTimer_sender (name : TimerName) :
    (s.cancelTimer e name).senderAt lent = s.senderAt lent := rfl

@[simp] theorem keepaliveArmIdle_sender : (s.keepaliveArmIdle e).senderAt lent = s.senderAt lent := by
  obtain ⟨k,t,shape⟩ := keepaliveArmIdle_shape (e := e) (s := s)
  rw [shape]
  rfl

theorem composeSegment_sender (seq : Seq32) (m : Emit) :
    (s.composeSegment e seq m).2.senderAt lent = s.senderAt lent := by
  obtain ⟨d,a,c,shape⟩ := composeSegment_shape (e := e) (s := s) seq m
  rw [shape]
  rfl

theorem phase5PostSendTimers_sender (m : Emit) :
    (s.phase5PostSendTimers e m).senderAt lent = s.senderAt lent := by
  obtain ⟨k,t,r,shape⟩ := phase5PostSendTimers_shape (e := e) (s := s) m
  rw [shape]
  rfl

theorem not_past_max (core : Core (s.senderAt lent)) {x : Seq32}
    (inside : arc s.sndSeq.una x ≤ arc s.sndSeq.una s.sndSeq.max) : lt32 s.sndSeq.max x = false := by
  have short : arc s.sndSeq.una s.sndSeq.max < 0x8000_0000 := core.short
  have order : lt32 s.sndSeq.max x = true ↔ arc s.sndSeq.una s.sndSeq.max < arc s.sndSeq.una x :=
    lt32_near short (by omega)
  cases test : lt32 s.sndSeq.max x with
  | false => rfl
  | true =>
    have passed := order.mp test
    omega

-- The window restart after an idle period, when it bites.
def restarts (e : Env) (m : Emit) (s : TcpSession) : Bool :=
  m.occupies && s.idleFor e && !m.data.isEmpty && decide (initialWindow s.win.sndMss < s.cc.cwnd)

theorem phase0PreSendHygiene_sender (seq : Seq32) (m : Emit) :
    (s.phase0PreSendHygiene e seq m).senderAt lent =
      if s.restarts e m then
        {s.senderAt lent with cc := {(s.senderAt lent).cc with
          cwnd := initialWindow s.win.sndMss
          ewn := lent.getD (min (initialWindow s.win.sndMss) s.win.sndWnd)}}
      else s.senderAt lent := by
  unfold phase0PreSendHygiene restarts
  cases occupies : m.occupies with
  | false => rfl
  | true =>
    cases idle : s.idleFor e with
    | false => rfl
    | true =>
      simp only [restartIdleWindow,Bool.true_and,Bool.and_eq_true,decide_eq_true_eq,if_true]
      by_cases bites : (!m.data.isEmpty) = true ∧ initialWindow s.win.sndMss < s.cc.cwnd
      · have small : min (initialWindow s.win.sndMss) s.cc.cwnd = initialWindow s.win.sndMss := by omega
        rw [if_pos bites,if_pos ⟨bites.1,by rw [small]; exact bites.2⟩]
        rw [small]
        rfl
      · rw [if_neg bites,if_neg]
        · rfl
        · rintro ⟨loaded,smaller⟩
          exact bites ⟨loaded,by omega⟩

theorem sendTcpPacket_sender (seg : Segment) : (s.sendTcpPacket seg).senderAt lent =
    if seg.takesSpace then
      {s.senderAt lent with
        log := (s.senderAt lent).log ++ [.sent seg s.sndSeq.una s.sndSeq.max s.win.sndWnd (s.senderAt lent).drained]}
    else s.senderAt lent := by
  cases space : seg.takesSpace with
  | false => simp [sendTcpPacket,observe,space,senderAt,Obs.notable]
  | true => simp [sendTcpPacket,observe,space,senderAt,Obs.notable,drained,Sender.drained]

theorem advanceSendSeq_values (seq : Seq32) (m : Emit) (q : SendSeqState) :
    (advanceSendSeq seq m q).ini = q.ini ∧ (advanceSendSeq seq m q).una = q.una ∧
    (advanceSendSeq seq m q).nxt = add32 seq (m.data.length + m.flagSyn.toNat + m.flagFin.toNat) ∧
    (advanceSendSeq seq m q).max =
      (if lt32 q.max (add32 seq (m.data.length + m.flagSyn.toNat + m.flagFin.toNat)) then
        add32 seq (m.data.length + m.flagSyn.toNat + m.flagFin.toNat) else q.max) ∧
    (advanceSendSeq seq m q).fin =
      (if m.flagFin then add32 seq (m.data.length + m.flagSyn.toNat + m.flagFin.toNat) else q.fin) ∧
    (advanceSendSeq seq m q).finSent = (m.flagFin || q.finSent) := by
  unfold advanceSendSeq SendSeqState.bumpMaxToNxt SendSeqState.recordFin SendSeqState.advanceNxt
  generalize add32 seq (m.data.length + m.flagSyn.toNat + m.flagFin.toNat) = nxt
  cases fin : m.flagFin with
  | false => cases lt32 q.max nxt <;> simp
  | true => cases lt32 q.max nxt <;> simp

theorem phase4AdvanceSendState_sender (seq : Seq32) (m : Emit) :
    (s.phase4AdvanceSendState e seq m).senderAt lent =
      (s.senderAt lent).advance seq m.data.length m.flagSyn m.flagFin := by
  obtain ⟨ini,una,nxt,top,fin,finSent⟩ := advanceSendSeq_values seq m s.sndSeq
  obtain ⟨r,n,d,shape⟩ := phase4AdvanceSendState_shape (e := e) (s := s) seq m
  rw [shape]
  simp only [senderAt,ini,una,nxt,top,fin,finSent]
  rfl

theorem composeSegment_takesSpace (seq : Seq32) (m : Emit) :
    (s.composeSegment e seq m).1.takesSpace = m.occupies := rfl

theorem transmitPacket_eq (m : Emit) (seq : Seq32) (place : m.seq.getD s.sndSeq.nxt = seq) :
    s.transmitPacket e m =
      ((((s.phase0PreSendHygiene e seq m).composeSegment e seq m).2.sendTcpPacket
        ((s.phase0PreSendHygiene e seq m).composeSegment e seq m).1).phase4AdvanceSendState e seq
          m).phase5PostSendTimers e m := by
  subst place
  rfl

theorem transmitPacket_composed (m : Emit) (seq : Seq32) (place : m.seq.getD s.sndSeq.nxt = seq) :
    (s.transmitPacket e m).senderAt lent =
      if m.occupies then ((s.phase0PreSendHygiene e seq m).senderAt lent).emit
        ((s.phase0PreSendHygiene e seq m).composeSegment e seq m).1
      else ((s.phase0PreSendHygiene e seq m).senderAt lent).advance seq m.data.length m.flagSyn m.flagFin := by
  let s₀ := s.phase0PreSendHygiene e seq m
  have frame := @composeSegment_sender lent e s₀ seq m
  rw [transmitPacket_eq m seq place]
  show (((s₀.composeSegment e seq m).2.sendTcpPacket (s₀.composeSegment e seq m).1).phase4AdvanceSendState e seq m
    |>.phase5PostSendTimers e m).senderAt lent = _
  rw [phase5PostSendTimers_sender,phase4AdvanceSendState_sender,sendTcpPacket_sender,composeSegment_takesSpace]
  cases m.occupies with
  | false => exact congrArg (Sender.advance seq m.data.length m.flagSyn m.flagFin) frame
  | true =>
    have una : (s₀.composeSegment e seq m).2.sndSeq.una = (s₀.senderAt lent).una := congrArg Sender.una frame
    have top : (s₀.composeSegment e seq m).2.sndSeq.max = (s₀.senderAt lent).max := congrArg Sender.max frame
    have wnd : (s₀.composeSegment e seq m).2.win.sndWnd = (s₀.senderAt lent).wnd := congrArg Sender.wnd frame
    rw [if_pos rfl,if_pos rfl,frame,una,top,wnd]
    rfl

theorem transmitPacket_sender (m : Emit) (seq : Seq32) (place : m.seq.getD s.sndSeq.nxt = seq) :
    ∃ seg : Segment, seg.flagSyn = m.flagSyn ∧ seg.flagFin = m.flagFin ∧ seg.data = m.data ∧ seg.seq = seq ∧
      (s.transmitPacket e m).senderAt lent =
        if m.occupies then ((s.phase0PreSendHygiene e seq m).senderAt lent).emit seg
        else ((s.phase0PreSendHygiene e seq m).senderAt lent).advance seq m.data.length m.flagSyn m.flagFin :=
  ⟨_,rfl,rfl,rfl,rfl,transmitPacket_composed m seq place⟩

theorem transmitPacket_bare (m : Emit) (bare : m.occupies = false)
    (sent : lt32 s.sndSeq.max (m.seq.getD s.sndSeq.nxt) = false) :
    (s.transmitPacket e m).senderAt lent = {s.senderAt lent with nxt := m.seq.getD s.sndSeq.nxt} := by
  have empty : m.data = [] ∧ m.flagSyn = false ∧ m.flagFin = false := by
    simpa [Emit.occupies,and_assoc] using bare
  obtain ⟨data,syn,fin⟩ := empty
  obtain ⟨seg,_,_,_,_,result⟩ := @transmitPacket_sender lent e s m _ rfl
  rw [result,bare,if_neg (by simp),phase0PreSendHygiene_sender]
  have calm : s.restarts e m = false := by simp [restarts,bare]
  rw [calm,if_neg (by simp)]
  simp [Sender.advance,data,syn,fin,senderAt,sent]

theorem transmitPacket_control (core : Core (s.senderAt lent)) (m : Emit) (bare : m.occupies = false)
    (place : m.seq.getD s.sndSeq.nxt = s.sndSeq.nxt) : (s.transmitPacket e m).senderAt lent = s.senderAt lent := by
  have sent : lt32 s.sndSeq.max s.sndSeq.nxt = false := not_past_max core core.nxt
  rw [transmitPacket_bare m bare (by rw [place]; exact sent),place]
  rfl

theorem sendAck_sender (core : Core (s.senderAt lent)) :
    (s.transmitPacket e {flagAck := true}).senderAt lent = s.senderAt lent :=
  transmitPacket_control core _ rfl rfl

theorem emitChallengeAck_sender (core : Core (s.senderAt lent)) :
    (s.emitChallengeAck e).senderAt lent = s.senderAt lent := by
  unfold emitChallengeAck
  split
  · rfl
  · rw [armTimer_sender,sendAck_sender core]

theorem delayedAck_sender (core : Core (s.senderAt lent)) : (s.delayedAck e).senderAt lent = s.senderAt lent := by
  unfold delayedAck
  split
  · rfl
  · have sent : (if gt32 s.rcvSeq.nxt s.rcvSeq.una then s.transmitPacket e {flagAck := true} else s).senderAt lent =
        s.senderAt lent := by
      split
      · exact sendAck_sender core
      · rfl
    generalize (if gt32 s.rcvSeq.nxt s.rcvSeq.una then s.transmitPacket e {flagAck := true} else s) = t at sent
    dsimp only
    split
    · rw [cancelTimer_sender,sent]
    · exact sent

theorem initialWindow_positive (mss : Pos) : 0 < initialWindow mss := by
  have positive := mss.2
  unfold initialWindow initialWindowFactor initialWindowBytes
  omega

-- A loan lasts while data moves: the borrowed window is one the peer grants,
-- and no idle restart may write the window behind the lender's back.
structure Loan (allowed : Slip → Prop) (e : Env) (lent : Option Int) (s : TcpSession) : Prop where
  transfer : lent.isSome = true → transferring s.state = true
  granted : lent.isSome = true → ∃ x : Int, 0 < x ∧ s.cc.sndEwn = min x s.win.sndWnd
  busy : lent.isSome = true → allowed .unlevel ∨ (s.idleFor e = true → s.cc.cwnd ≤ initialWindow s.win.sndMss)

theorem Loan.none {allowed : Slip → Prop} : Loan allowed e none s := ⟨by simp,by simp,by simp⟩

variable {allowed : Slip → Prop}

theorem transmitPacket_path (inv : Inv (s.senderAt lent)) (loan : Loan allowed e lent s) (m : Emit)
    (occupies : m.occupies = true)
    (step : ∀ seg : Segment, seg.flagSyn = m.flagSyn → seg.flagFin = m.flagFin → seg.data = m.data →
      seg.seq = m.seq.getD s.sndSeq.nxt → Move allowed (s.senderAt lent) ((s.senderAt lent).emit seg)) :
    Path allowed (s.senderAt lent) ((s.transmitPacket e m).senderAt lent) := by
  obtain ⟨seg,syn,fin,data,seq,result⟩ := @transmitPacket_sender lent e s m _ rfl
  have out := step seg syn fin data seq
  have inv' := move_keeps out inv
  rw [result,if_pos occupies,phase0PreSendHygiene_sender]
  by_cases bites : s.restarts e m = true
  · rw [if_pos bites]
    have positive := initialWindow_positive s.win.sndMss
    have wnd : s.win.sndWnd ≤ windowMax := inv.wnd
    refine Relation.ReflTransGen.tail (.single out) (Move.regulate ((s.senderAt lent).emit seg) _ s.win.sndMss.1
      s.win.sndWnd ?_ inv.mss inv.wnd ?_ ?_ ?_)
    · refine {inv'.cc with cwnd := positive,ewn := ?_}
      cases lent with
      | none =>
        show 0 ≤ min (initialWindow s.win.sndMss) s.win.sndWnd ∧ min (initialWindow s.win.sndMss) s.win.sndWnd ≤ windowMax
        omega
      | some x => exact inv.cc.ewn
    · intro hand
      exact (inv.handshake hand).2.2
    · intro _
      exact ⟨le_refl _,rfl⟩
    · cases lent with
      | none =>
        left
        intro _
        rfl
      | some x =>
        right
        simp only [restarts,Bool.and_eq_true,decide_eq_true_eq] at bites
        rcases loan.busy rfl with slipped | fits
        · exact slipped
        · have small := fits bites.1.1.2
          have large := bites.2
          omega
  · rw [if_neg bites]
    exact .single out

theorem phase0PreSendHygiene_shape (seq : Seq32) (m : Emit) :
    ∃ r t c w, s.phase0PreSendHygiene e seq m =
        {s with rtoState := r,rtt := t,cc := {s.cc with cwnd := c,sndEwn := w}} ∧
      (w = s.cc.sndEwn ∨ ∃ x : Int, 0 < x ∧ w = min x s.win.sndWnd) ∧
      (m.occupies = true → t.lastSendTimeMs = some e.nowMs) ∧
      (m.occupies = false → r = s.rtoState ∧ t = s.rtt ∧ c = s.cc.cwnd ∧ w = s.cc.sndEwn) := by
  have window := initialWindow_positive s.win.sndMss
  unfold phase0PreSendHygiene
  cases occupies : m.occupies with
  | false =>
    refine ⟨s.rtoState,s.rtt,s.cc.cwnd,s.cc.sndEwn,rfl,.inl rfl,?_,fun _ => ⟨rfl,rfl,rfl,rfl⟩⟩
    intro absent
    cases absent
  | true =>
    cases idle : s.idleFor e with
    | false =>
      refine ⟨s.rtoState,_,s.cc.cwnd,s.cc.sndEwn,rfl,.inl rfl,fun _ => rfl,?_⟩
      intro absent
      cases absent
    | true =>
      simp only [if_true]
      unfold restartIdleWindow
      dsimp only
      split
      · rename_i bites
        simp only [Bool.and_eq_true,decide_eq_true_eq] at bites
        refine ⟨RtoState.initialState,_,_,_,rfl,.inr ⟨_,?_,rfl⟩,fun _ => rfl,?_⟩
        · omega
        · intro absent
          cases absent
      · refine ⟨RtoState.initialState,_,s.cc.cwnd,s.cc.sndEwn,rfl,.inl rfl,fun _ => rfl,?_⟩
        intro absent
        cases absent

-- All that a call of `_transmit_packet` can change.
theorem transmitPacket_shape (m : Emit) :
    ∃ r t c w n l k d p a ec rack timers, s.transmitPacket e m = {s with
        rtoState := r,rtt := t,cc := {s.cc with cwnd := c,sndEwn := w,prrOut := n},log := l,keepalive := k
        delayedAckSegmentsPending := d,pendingDsack := p,accecn := a,ecn := ec,rackTlp := rack,timers := timers
        rcvSeq := {s.rcvSeq with una := s.rcvSeq.nxt}
        sndSeq := advanceSendSeq (m.seq.getD s.sndSeq.nxt) m s.sndSeq
        tx := s.tx.bumpSeqModForFlags m.flagSyn m.flagFin} ∧
      (w = s.cc.sndEwn ∨ ∃ x : Int, 0 < x ∧ w = min x s.win.sndWnd) ∧
      (m.occupies = true → t.lastSendTimeMs = some e.nowMs) ∧
      (m.occupies = false → r = s.rtoState ∧ t = s.rtt ∧ c = s.cc.cwnd ∧ w = s.cc.sndEwn) := by
  obtain ⟨r,t,c,w,first,facts⟩ := phase0PreSendHygiene_shape (e := e) (s := s) (m.seq.getD s.sndSeq.nxt) m
  rw [transmitPacket_eq m _ rfl,first]
  obtain ⟨p,a,ec,second⟩ := composeSegment_shape (e := e)
    (s := {s with rtoState := r,rtt := t,cc := {s.cc with cwnd := c,sndEwn := w}}) (m.seq.getD s.sndSeq.nxt) m
  rw [second]
  unfold sendTcpPacket
  dsimp only
  generalize s.log ++ _ = l
  obtain ⟨rack,n,d,third⟩ := phase4AdvanceSendState_shape (e := e)
    (s := {s with rtoState := r,rtt := t,cc := {s.cc with cwnd := c,sndEwn := w},pendingDsack := p,accecn := a,ecn := ec,log := l})
    (m.seq.getD s.sndSeq.nxt) m
  rw [third]
  obtain ⟨k,timers,rack',fourth⟩ := phase5PostSendTimers_shape (e := e) (s := {s with
    rtoState := r,rtt := t,cc := {s.cc with cwnd := c,sndEwn := w,prrOut := n},log := l
    delayedAckSegmentsPending := d,pendingDsack := p,accecn := a,ecn := ec,rackTlp := rack
    rcvSeq := {s.rcvSeq with una := s.rcvSeq.nxt}
    sndSeq := advanceSendSeq (m.seq.getD s.sndSeq.nxt) m s.sndSeq
    tx := s.tx.bumpSeqModForFlags m.flagSyn m.flagFin}) m
  exact ⟨r,t,c,w,n,l,k,d,p,a,ec,rack',timers,fourth,facts⟩

structure Pumping (s s' : TcpSession) : Prop where
  state : s'.state = s.state
  point : s'.cc.recoveryPoint = s.cc.recoveryPoint
  board : s'.sackScoreboard = s.sackScoreboard

theorem Pumping.trans {s' s'' : TcpSession} (first : Pumping s s') (second : Pumping s' s'') : Pumping s s'' :=
  ⟨second.state.trans first.state,second.point.trans first.point,second.board.trans first.board⟩

theorem transmitPacket_pumping (m : Emit) : Pumping s (s.transmitPacket e m) := by
  obtain ⟨_,_,_,_,_,_,_,_,_,_,_,_,_,out,_⟩ := transmitPacket_shape (e := e) (s := s) m
  rw [out]
  exact ⟨rfl,rfl,rfl⟩

theorem transmitPacket_quiet (m : Emit) (bare : m.occupies = false) (place : m.seq.getD s.sndSeq.nxt = s.sndSeq.nxt)
    (sent : lt32 s.sndSeq.max s.sndSeq.nxt = false) :
    ∃ n l k d p a ec rack timers, s.transmitPacket e m = {s with
        cc := {s.cc with prrOut := n},log := l,keepalive := k,delayedAckSegmentsPending := d,pendingDsack := p
        accecn := a,ecn := ec,rackTlp := rack,timers := timers,rcvSeq := {s.rcvSeq with una := s.rcvSeq.nxt}} ∧
      l.filter Obs.notable = s.log.filter Obs.notable := by
  have empty : m.data = [] ∧ m.flagSyn = false ∧ m.flagFin = false := by
    simpa [Emit.occupies,and_assoc] using bare
  obtain ⟨data,syn,fin⟩ := empty
  have view := @transmitPacket_bare none e _ m bare (by rw [place]; exact sent)
  obtain ⟨r,t,c,w,n,l,k,d,p,a,ec,rack,timers,shape,_,_,quiet⟩ := transmitPacket_shape (e := e) (s := s) m
  obtain ⟨rto,rtt,cwnd,ewn⟩ := quiet bare
  have edges : advanceSendSeq (m.seq.getD s.sndSeq.nxt) m s.sndSeq = s.sndSeq := by
    rw [place]
    simp [advanceSendSeq,SendSeqState.advanceNxt,SendSeqState.bumpMaxToNxt,data,syn,fin,sent]
  have tx : s.tx.bumpSeqModForFlags m.flagSyn m.flagFin = s.tx := by
    simp [TxBufferState.bumpSeqModForFlags,syn,fin]
  rw [edges,tx,rto,rtt,cwnd,ewn] at shape
  refine ⟨n,l,k,d,p,a,ec,rack,timers,shape,?_⟩
  have told := congrArg Sender.log view
  rw [shape] at told
  exact told

theorem Loan.after (loan : Loan allowed e lent s) (m : Emit) : Loan allowed e lent (s.transmitPacket e m) := by
  obtain ⟨r,t,c,w,n,l,k,d,p,a,ec,rack,timers,shape,granted,fresh,quiet⟩ := transmitPacket_shape (e := e) (s := s) m
  rw [shape]
  refine ⟨loan.transfer,?_,?_⟩
  · intro some
    rcases granted with same | fresh
    · show ∃ x : Int, 0 < x ∧ w = min x s.win.sndWnd
      rw [same]
      exact loan.granted some
    · exact fresh
  · intro some
    cases occupies : m.occupies with
    | false =>
      obtain ⟨rto,rtt,cwnd,_⟩ := quiet occupies
      subst rto rtt cwnd
      exact loan.busy some
    | true =>
      right
      intro idle
      have idle : (t.lastSendTimeMs.any fun last => decide (r.rtoMs < e.nowMs - last)) = true := idle
      rw [fresh occupies] at idle
      simp at idle

theorem sendSyn_path (inv : Inv (s.senderAt none)) (m : Emit) (opening : s.state = .synSent ∨ s.state = .synRcvd)
    (kind : m.flagSyn = true ∧ m.flagFin = false) (first : m.seq.getD s.sndSeq.nxt = s.sndSeq.ini)
    (load : m.data = [] ∨ s.state = .synSent ∧ (m.data.length : Int) ≤ s.win.sndMss.1 ∧ s.tx.buffer ≠ []) :
    Path allowed (s.senderAt none) ((s.transmitPacket e m).senderAt none) := by
  apply transmitPacket_path inv Loan.none m (by simp [Emit.occupies,kind.1])
  intro seg syn fin data seq
  refine Move.syn _ seg opening ⟨syn.trans kind.1,fin.trans kind.2⟩ (seq.trans first) ?_
  rw [data]
  exact load

theorem sendFin_path (inv : Inv (s.senderAt none)) (m : Emit) (ending : finState s.state = true) (plain : m.seq = none)
    (kind : m.flagSyn = false ∧ m.flagFin = true) (bare : m.data = [])
    (inside : (arc s.sndSeq.una s.sndSeq.nxt : Int) ≤ s.cc.sndEwn) (again : s.sndSeq.nxt ≠ s.sndSeq.fin) :
    Path allowed (s.senderAt none) ((s.transmitPacket e m).senderAt none) := by
  apply transmitPacket_path inv Loan.none m (by simp [Emit.occupies,kind.2])
  intro seg syn fin data seq
  rw [plain] at seq
  exact Move.fin _ seg ending ⟨syn.trans kind.1,fin.trans kind.2⟩ seq (data.trans bare) inside again

theorem sendData_path (inv : Inv (s.senderAt lent)) (loan : Loan allowed e lent s) (m : Emit)
    (transfer : transferring s.state = true) (plain : m.seq = none) (kind : m.flagSyn = false ∧ m.flagFin = false)
    (near : arc s.sndSeq.una s.sndSeq.nxt + m.data.length ≤ flightMax) (loaded : m.data ≠ [])
    (content : m.data = (s.tx.buffer.drop s.txBufferNxt).take m.data.length)
    (fits : (s.txBufferNxt + m.data.length : Int) ≤ s.cc.sndEwn ∨ s.cc.sndEwn = 0 ∧ m.data.length = 1) :
    Path allowed (s.senderAt lent) ((s.transmitPacket e m).senderAt lent) := by
  apply transmitPacket_path inv loan m (by simp [Emit.occupies,loaded])
  intro seg syn fin data seq
  rw [plain] at seq
  have granted : (s.senderAt lent).Grants s.cc.sndEwn := by
    cases lent with
    | none => exact .inl rfl
    | some x => exact .inr (loan.granted rfl)
  refine Move.data _ seg s.cc.sndEwn transfer ⟨syn.trans kind.1,fin.trans kind.2⟩ seq granted ?_ ?_ ?_ ?_
  · rw [data]
    exact near
  · rw [data]
    exact loaded
  · rw [data]
    exact content
  · rw [data]
    exact fits

theorem reserveProbe_shape : ∃ a, (s.reserveProbe e).2 = {s with plpmtudAdapter := a} ∧
    ∀ size payload, (s.reserveProbe e).1 = some (size,payload) → payload ≤ s.usableWindow ∧ payload ≤ s.remainingDataLen := by
  unfold reserveProbe
  split
  · exact ⟨s.plpmtudAdapter,rfl,by simp⟩
  · dsimp only
    split
    · rename_i wanted
      refine ⟨_,rfl,?_⟩
      intro size payload found
      obtain ⟨reserved,_,same⟩ := Option.map_eq_some_iff.mp found
      cases same
      exact ⟨wanted.2.2.1,wanted.2.2.2⟩
    · exact ⟨s.plpmtudAdapter,rfl,by simp⟩

theorem noteSent_shape (probe : Option (Int × Int)) (isRetransmit : Bool) (emitSeq endSeq : Seq32) (packetSize : Int) :
    ∃ a, s.noteSent e probe isRetransmit emitSeq endSeq packetSize = {s with plpmtudAdapter := a} := by
  unfold noteSent
  split
  · exact ⟨_,rfl⟩
  · split
    · exact ⟨s.plpmtudAdapter,rfl⟩
    · split
      · exact ⟨_,rfl⟩
      · exact ⟨_,rfl⟩

-- One round of the pump: the sender takes a path, and a loan stays in force.
structure Pumped (allowed : Slip → Prop) (e : Env) (lent : Option Int) (s s' : TcpSession) : Prop where
  path : Path allowed (s.senderAt lent) (s'.senderAt lent)
  loan : Loan allowed e lent s'
  frame : Pumping s s'

theorem Pumped.refl (loan : Loan allowed e lent s) : Pumped allowed e lent s s := ⟨.refl,loan,rfl,rfl,rfl⟩

theorem sendData_pumped (inv : Inv (s.senderAt lent)) (loan : Loan allowed e lent s)
    (transfer : transferring s.state = true) (probe : Option (Int × Int)) (len : Nat) (some : 0 < len)
    (usable : (len : Int) ≤ s.usableWindow) (remaining : (len : Int) ≤ s.remainingDataLen)
    (near : arc s.sndSeq.una s.sndSeq.nxt + len ≤ flightMax) :
    Pumped allowed e lent s (s.sendData e probe len) := by
  unfold sendData
  dsimp only
  split
  · exact Pumped.refl loan
  · unfold usableWindow at usable
    unfold remainingDataLen at remaining
    have count : ((s.tx.buffer.drop s.txBufferNxt).take len).length = len := by
      rw [List.length_take,List.length_drop]
      omega
    generalize payload : (s.tx.buffer.drop s.txBufferNxt).take len = data at count
    have loaded : data ≠ [] := by
      intro empty
      rw [empty] at count
      simp at count
      omega
    generalize shape : (Emit.mk none false true false false (decide ((len : Int) = s.remainingDataLen)) data) = m
    have path : Path allowed (s.senderAt lent) ((s.transmitPacket e m).senderAt lent) := by
      subst shape
      refine sendData_path inv loan _ transfer rfl ⟨rfl,rfl⟩ ?_ loaded ?_ (.inl ?_)
      · show _ + data.length ≤ _
        omega
      · show data = _
        rw [count,payload]
      · show (_ + data.length : Int) ≤ _
        omega
    have kept := loan.after m
    have frame := transmitPacket_pumping (e := e) (s := s) m
    obtain ⟨a,noted⟩ := noteSent_shape (e := e) (s := s.transmitPacket e m) probe (lt32 s.sndSeq.nxt s.sndSeq.max)
      s.sndSeq.nxt (add32 s.sndSeq.nxt len) ((len : Int) + s.ipTcpOverhead + s.optionsOverhead)
    rw [noted]
    generalize s.transmitPacket e m = t at path kept frame ⊢
    split
    · exact ⟨path,⟨kept.transfer,kept.granted,kept.busy⟩,frame.state,frame.point,frame.board⟩
    · exact ⟨path,⟨kept.transfer,kept.granted,kept.busy⟩,frame.state,frame.point,frame.board⟩

theorem probeZeroWindow_pumped (inv : Inv (s.senderAt lent)) (loan : Loan allowed e lent s)
    (transfer : transferring s.state = true) (near : arc s.sndSeq.una s.sndSeq.nxt + 1 ≤ flightMax) :
    Pumped allowed e lent s (s.probeZeroWindow e) := by
  unfold probeZeroWindow
  split
  · exact Pumped.refl loan
  · rename_i shut
    split
    · exact ⟨.refl,⟨loan.transfer,loan.granted,loan.busy⟩,rfl,rfl,rfl⟩
    · split
      · generalize payload : (s.tx.buffer.drop s.txBufferNxt).take 1 = data
        have sent : Path allowed (s.senderAt lent) ((s.transmitPacket e {flagAck := true,data := data}).senderAt lent) := by
          cases data with
          | nil =>
            rw [transmitPacket_control inv.toCore {flagAck := true,data := []} rfl rfl]
          | cons octet rest =>
            have count : (octet :: rest).length = 1 := by
              have few := List.length_take_le 1 (s.tx.buffer.drop s.txBufferNxt)
              rw [payload] at few
              simp only [List.length_cons] at few ⊢
              omega
            refine sendData_path inv loan _ transfer rfl ⟨rfl,rfl⟩ ?_ (by simp) ?_ (.inr ⟨not_not.mp shut,count⟩)
            · show _ + (octet :: rest).length ≤ _
              rw [count]
              exact near
            · show octet :: rest = List.take (octet :: rest).length _
              rw [count,payload]
        have kept := loan.after (e := e) {flagAck := true,data := data}
        have frame := transmitPacket_pumping (e := e) (s := s) {flagAck := true,data := data}
        dsimp only
        generalize s.transmitPacket e {flagAck := true,data := data} = t at sent kept frame ⊢
        exact ⟨sent,⟨kept.transfer,kept.granted,kept.busy⟩,frame.state,frame.point,frame.board⟩
      · exact Pumped.refl loan

theorem advanceSndNxtPastSacked_shape (core : Core (s.senderAt lent)) :
    ∃ nxt, s.advanceSndNxtPastSacked = {s with sndSeq := {s.sndSeq with nxt := nxt}} ∧
      arc s.sndSeq.una nxt ≤ arc s.sndSeq.una s.sndSeq.max ∧
      (s.cc.recoveryPoint = 0 ∨ s.advertise.sendSack = false → nxt = s.sndSeq.nxt) := by
  unfold advanceSndNxtPastSacked
  split
  · exact ⟨s.sndSeq.nxt,rfl,core.nxt,fun _ => rfl⟩
  · rename_i under
    refine ⟨_,rfl,?_,fun off => absurd off under⟩
    apply skipSacked_within
    · intro block member
      have belongs : block ∈ s.sackScoreboard := by simpa [SackScoreboard.sortedFrom] using member
      exact core.board.inside block belongs
    · exact core.nxt

-- A pump in recovery may skip what was SACKed and start anywhere in the flight;
-- the flight must then leave room for one more window.
def Roomy (s : TcpSession) : Prop :=
  s.advertise.sendSack = true → s.cc.recoveryPoint ≠ 0 → arc s.sndSeq.una s.sndSeq.max ≤ windowMax + 2

instance (s : TcpSession) : Decidable s.Roomy := inferInstanceAs (Decidable (_ → _ → _))

theorem sndEwn_small (inv : Inv (s.senderAt lent)) (loan : Loan allowed e lent s) :
    0 ≤ s.cc.sndEwn ∧ s.cc.sndEwn ≤ windowMax := by
  cases lent with
  | none => exact inv.cc.ewn
  | some x =>
    have wnd : s.win.sndWnd ≤ windowMax := inv.wnd
    obtain ⟨y,positive,same⟩ := loan.granted rfl
    omega

def pumpLen (e : Env) (s : TcpSession) : Int :=
  ((s.reserveProbe e).1.map Prod.snd).getD (min (min s.mssForData s.usableWindow) s.remainingDataLen)

theorem pumpData_eq (s₁ : TcpSession) (skipped : s.advanceSndNxtPastSacked = s₁) :
    s.pumpData e =
      if s₁.remainingDataLen = 0 then (s₁.reserveProbe e).2
      else if 0 < s₁.pumpLen e then (s₁.reserveProbe e).2.sendData e (s₁.reserveProbe e).1 (s₁.pumpLen e).toNat
      else (s₁.reserveProbe e).2.probeZeroWindow e := by
  subst skipped
  rfl

theorem pumpLen_le : s.pumpLen e ≤ s.usableWindow ∧ s.pumpLen e ≤ s.remainingDataLen := by
  obtain ⟨_,_,fits⟩ := reserveProbe_shape (e := e) (s := s)
  unfold pumpLen
  cases found : (s.reserveProbe e).1 with
  | none =>
    show min (min s.mssForData s.usableWindow) s.remainingDataLen ≤ _ ∧
      min (min s.mssForData s.usableWindow) s.remainingDataLen ≤ _
    omega
  | some probe => exact fits probe.1 probe.2 found

theorem pumpData_pumped (inv : Inv (s.senderAt lent)) (loan : Loan allowed e lent s)
    (transfer : transferring s.state = true) (roomy : s.Roomy)
    (inside : (arc s.sndSeq.una s.sndSeq.nxt : Int) ≤ s.cc.sndEwn) : Pumped allowed e lent s (s.pumpData e) := by
  obtain ⟨nxt,skipped,within,still⟩ := advanceSndNxtPastSacked_shape inv.toCore
  obtain ⟨low,high⟩ := sndEwn_small inv loan
  have span : flightMax = 2 * windowMax + 2 := rfl
  have wide : 0 < windowMax := by decide
  have close : arc s.sndSeq.una nxt ≤ windowMax + 2 := by
    by_cases recovering : s.cc.recoveryPoint = 0 ∨ s.advertise.sendSack = false
    · rw [still recovering]
      omega
    · obtain ⟨under,sack⟩ := not_or.mp recovering
      exact le_trans within (roomy (by simpa using sack) under)
  rw [pumpData_eq _ skipped]
  generalize named : ({s with sndSeq := {s.sndSeq with nxt := nxt}} : TcpSession) = s₁
  have aimed : Path allowed (s.senderAt lent) (s₁.senderAt lent) := by
    subst named
    exact .single (Move.aim (s.senderAt lent) nxt within)
  obtain ⟨a,reserved,_⟩ := reserveProbe_shape (e := e) (s := s₁)
  have lens := pumpLen_le (e := e) (s := s₁)
  have usable : s₁.usableWindow ≤ s.cc.sndEwn := by
    subst named
    exact Int.sub_le_self _ (Int.natCast_nonneg _)
  rw [reserved]
  subst named
  have inv₁ := path_inv aimed inv
  have loan₁ : Loan allowed e lent {s with sndSeq := {s.sndSeq with nxt := nxt},plpmtudAdapter := a} :=
    ⟨loan.transfer,loan.granted,loan.busy⟩
  split
  · exact ⟨aimed,loan₁,rfl,rfl,rfl⟩
  · split
    · rename_i positive
      have whole := Int.toNat_of_nonneg (le_of_lt positive)
      have sent := sendData_pumped (s := {s with sndSeq := {s.sndSeq with nxt := nxt},plpmtudAdapter := a}) inv₁ loan₁
        transfer (({s with sndSeq := {s.sndSeq with nxt := nxt}} : TcpSession).reserveProbe e).1
        (({s with sndSeq := {s.sndSeq with nxt := nxt}} : TcpSession).pumpLen e).toNat (by omega)
        (by rw [whole]; exact lens.1) (by rw [whole]; exact lens.2)
        (by
          show arc s.sndSeq.una nxt + _ ≤ _
          omega)
      exact ⟨aimed.trans sent.path,sent.loan,sent.frame.state,sent.frame.point,sent.frame.board⟩
    · have sent := probeZeroWindow_pumped (s := {s with sndSeq := {s.sndSeq with nxt := nxt},plpmtudAdapter := a}) inv₁
        loan₁ transfer
        (by
          show arc s.sndSeq.una nxt + 1 ≤ _
          omega)
      exact ⟨aimed.trans sent.path,sent.loan,sent.frame.state,sent.frame.point,sent.frame.board⟩

theorem transmitSyn_path (inv : Inv (s.senderAt none)) (asked : s.state = .synSent) (first : s.sndSeq.nxt = s.sndSeq.ini) :
    Path allowed (s.senderAt none) ((s.transmitSyn e).senderAt none) := by
  unfold transmitSyn
  dsimp only
  refine sendSyn_path inv _ (.inl asked) ⟨rfl,rfl⟩ first ?_
  dsimp only
  split
  · rename_i loaded
    right
    simp only [Bool.and_eq_true] at loaded
    refine ⟨asked,?_,by simpa using loaded.2⟩
    have positive := s.win.sndMss.2
    have few := List.length_take_le s.win.sndMss.1.toNat s.tx.buffer
    omega
  · exact .inl rfl

theorem transmitDataOnce_pumped (inv : Inv (s.senderAt lent)) (loan : Loan allowed e lent s) (roomy : s.Roomy) :
    Pumped allowed e lent s (s.transmitDataOnce e) := by
  obtain ⟨low,high⟩ := sndEwn_small inv loan
  have notLent : transferring s.state = false → lent = none := by
    intro outside
    cases lent with
    | none => rfl
    | some x =>
      rw [loan.transfer rfl] at outside
      cases outside
  unfold transmitDataOnce
  split
  · exact Pumped.refl loan
  · rename_i range
    have inside : (arc s.sndSeq.una s.sndSeq.nxt : Int) ≤ s.cc.sndEwn := by
      have cap : windowMax < 2^32 := by decide
      have whole := Int.toNat_of_nonneg low
      have bound := inRange32_iff.mp (by simpa using range)
      rw [← whole,arc_add32 _ (by omega)] at bound
      omega
    split
    · rename_i syn
      have home := notLent (by rw [syn.1]; rfl)
      subst home
      refine ⟨transmitSyn_path inv syn.1 syn.2,Loan.none,?_⟩
      unfold transmitSyn
      exact transmitPacket_pumping _
    · split
      · rename_i synAck
        have home := notLent (by rw [synAck.1]; rfl)
        subst home
        exact ⟨sendSyn_path inv _ (.inr synAck.1) ⟨rfl,rfl⟩ synAck.2 (.inl rfl),Loan.none,transmitPacket_pumping _⟩
      · split
        · rename_i open_
          exact pumpData_pumped inv loan (by simpa [transferring] using open_) roomy inside
        · split
          · rename_i notOpen fin
            have home := notLent (by simpa [transferring] using notOpen)
            subst home
            exact ⟨sendFin_path inv _ fin.1 rfl ⟨rfl,rfl⟩ rfl inside fin.2,Loan.none,transmitPacket_pumping _⟩
          · exact Pumped.refl loan

theorem pumpLoop_pumped (n : Nat) (inv : Inv (s.senderAt lent)) (loan : Loan allowed e lent s)
    (calm : s.cc.recoveryPoint = 0) : Pumped allowed e lent s (pumpLoop e n s) := by
  induction n generalizing s with
  | zero => exact Pumped.refl loan
  | succ n ih =>
    have once := transmitDataOnce_pumped inv loan (fun _ under => absurd calm under)
    unfold pumpLoop
    dsimp only
    split
    · exact once
    · have rest := ih (path_inv once.path inv) once.loan (once.frame.point.trans calm)
      exact ⟨once.path.trans rest.path,rest.loan,once.frame.trans rest.frame⟩

theorem transmitData_pumped (inv : Inv (s.senderAt lent)) (loan : Loan allowed e lent s) (roomy : s.Roomy) :
    Pumped allowed e lent s (s.transmitData e) := by
  unfold transmitData
  by_cases calm : s.cc.recoveryPoint = 0
  · exact pumpLoop_pumped _ inv loan calm
  · have once := transmitDataOnce_pumped inv loan roomy
    rw [if_pos calm]
    unfold pumpLoop
    dsimp only
    split
    · exact once
    · exact once

theorem transmitData_idle (idle : s.state = .closed ∨ s.state = .finWait2 ∨ s.state = .timeWait ∨ s.state = .listen) :
    s.transmitData e = s := by
  have once : s.transmitDataOnce e = s := by
    unfold transmitDataOnce finState
    rcases idle with here | here | here | here <;> simp [here]
  unfold transmitData
  generalize (if s.cc.recoveryPoint ≠ 0 then 1 else maxSegmentsPerPump) = n
  cases n with
  | zero => rfl
  | succ n =>
    unfold pumpLoop
    rw [once]
    simp

end TcpSession

end PmdPytcp.Tcp
