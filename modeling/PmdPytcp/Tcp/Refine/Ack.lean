import PmdPytcp.Tcp.Refine.Retransmit
import PmdPytcp.Tcp.Ack

namespace PmdPytcp.Tcp
open Arc

namespace TcpSession

variable {lent : Option Int} {e : Env} {s : TcpSession} {allowed : Slip → Prop}

theorem requirePositive_ok {x : Int} (positive : 0 < x) : s.requirePositive x = .ok ⟨x,positive⟩ := by
  unfold requirePositive
  rw [dif_pos positive]

theorem cwndGrowPerAck_positive (cwnd ssthresh : Pos) (bytesAcked : Nat) (smss : Pos) :
    0 < cwndGrowPerAck cwnd ssthresh bytesAcked smss := by
  have window := cwnd.2
  have size := smss.2
  unfold cwndGrowPerAck
  split
  · omega
  · generalize smss.1 * smss.1 / cwnd.1 = step
    omega

theorem cubicGrowPerAck_positive (cwnd ssthresh : Pos) (wMax kMs epochStartMs nowMs bytesAcked : Nat) (smss : Pos)
    (srttMs : Nat) : 0 < cubicGrowPerAck cwnd ssthresh wMax kMs epochStartMs nowMs bytesAcked smss srttMs := by
  have window := cwnd.2
  have size := smss.2
  unfold cubicGrowPerAck
  dsimp only
  generalize cubicTarget cwnd wMax kMs ((nowMs - epochStartMs) + srttMs) smss = target
  generalize (target - cwnd.1) * (bytesAcked : Int) / cwnd.1 = step
  split
  · omega
  · split
    · exact window
    · omega

theorem growCubic_ok (bytesAcked : Nat) (cwnd : 0 < s.cc.cwnd) (ssthresh : 0 < s.cc.ssthresh) :
    ∃ c q i, s.growCubic e bytesAcked = .ok {s with cc := {s.cc with cwnd := c,cubic := q,cubicInCa := i}} ∧ 0 < c := by
  unfold growCubic
  dsimp only
  rw [requirePositive_ok (show 0 < s.cc.cwnd from cwnd),requirePositive_ok (show 0 < s.cc.ssthresh from ssthresh)]
  refine ⟨_,_,_,rfl,?_⟩
  exact lt_of_lt_of_le (cubicGrowPerAck_positive _ _ _ _ _ _ _ _ _) (le_max_left _ _)

theorem growReno_ok (bytesAcked : Nat) (cwnd : 0 < s.cc.cwnd) (ssthresh : 0 < s.cc.ssthresh) :
    ∃ c, s.growReno bytesAcked = .ok {s with cc := {s.cc with cwnd := c}} ∧ 0 < c := by
  unfold growReno
  split
  · refine ⟨_,rfl,?_⟩
    have size := s.win.sndMss.2
    unfold cssGrowthIncrement
    omega
  · rw [requirePositive_ok cwnd,requirePositive_ok ssthresh]
    exact ⟨_,rfl,cwndGrowPerAck_positive _ _ _ _⟩

-- Proportional rate reduction: without SACK the recovery point is ahead, so
-- something is in flight; with SACK the allowance itself is positive.
theorem proportionalReduction_ok (bytesAcked : Nat) (acked : 0 < bytesAcked) (ssthresh : 0 < s.cc.ssthresh)
    (fs : 0 < s.cc.recoverFs) (inFlight : 0 ≤ pipe s.sackScoreboard s.sndSeq.una s.sndSeq.max)
    (bare : s.advertise.sendSack = false → 0 < pipe s.sackScoreboard s.sndSeq.una s.sndSeq.max) :
    ∃ c, s.proportionalReduction bytesAcked = .ok {s with cc := {s.cc with cwnd := c}} ∧ 0 < c := by
  have size := s.win.sndMss.2
  unfold proportionalReduction prrSndcnt
  dsimp only
  generalize pipe s.sackScoreboard s.sndSeq.una s.sndSeq.max = current at inFlight bare
  split
  · rename_i large
    rw [if_neg (by omega)]
    refine ⟨_,rfl,?_⟩
    omega
  · refine ⟨_,rfl,?_⟩
    cases sack : s.advertise.sendSack with
    | false =>
      have flight := bare sack
      omega
    | true =>
      rw [if_pos ⟨rfl,acked⟩]
      omega

theorem updateCwnd_ok (bytesAcked : Nat) (acked : 0 < bytesAcked) (cwnd : 0 < s.cc.cwnd) (ssthresh : 0 < s.cc.ssthresh)
    (recovering : s.cc.recoveryPoint ≠ 0 → lt32 s.sndSeq.una s.cc.recoveryPoint = true → 0 < s.cc.recoverFs ∧
      0 ≤ pipe s.sackScoreboard s.sndSeq.una s.sndSeq.max ∧
      (s.advertise.sendSack = false → 0 < pipe s.sackScoreboard s.sndSeq.una s.sndSeq.max)) :
    ∃ c q i, s.updateCwnd e bytesAcked = .ok {s with cc := {s.cc with cwnd := c,cubic := q,cubicInCa := i}} ∧
      0 < c := by
  unfold updateCwnd
  split
  · rename_i under
    obtain ⟨fs,inFlight,bare⟩ := recovering under.1 under.2
    obtain ⟨c,reduced,positive⟩ := proportionalReduction_ok bytesAcked acked ssthresh fs inFlight bare
    exact ⟨c,s.cc.cubic,s.cc.cubicInCa,reduced,positive⟩
  · split
    · exact growCubic_ok bytesAcked cwnd ssthresh
    · obtain ⟨c,grown,positive⟩ := growReno_ok bytesAcked cwnd ssthresh
      exact ⟨c,s.cc.cubic,s.cc.cubicInCa,grown,positive⟩

theorem followPlpmtud_shape : ∃ a m, s.followPlpmtud e = {s with plpmtudAdapter := a,win := {s.win with sndMss := m}} := by
  unfold followPlpmtud
  dsimp only
  split
  · split
    · exact ⟨_,_,rfl⟩
    · exact ⟨_,s.win.sndMss,rfl⟩
  · split
    · exact ⟨_,_,rfl⟩
    · exact ⟨_,s.win.sndMss,rfl⟩

theorem hystartRound_shape : ∃ t h, s.hystartRound = {s with cc := {s.cc with ssthresh := t,hystartState := h}} ∧
    (t = s.cc.ssthresh ∨ t = s.cc.cwnd) := by
  unfold hystartRound
  split
  · exact ⟨s.cc.ssthresh,s.cc.hystartState,rfl,.inl rfl⟩
  · split
    · exact ⟨s.cc.ssthresh,_,rfl,.inl rfl⟩
    · split
      · exact ⟨s.cc.ssthresh,s.cc.hystartState,rfl,.inl rfl⟩
      · dsimp only
        split
        · exact ⟨s.cc.cwnd,_,rfl,.inr rfl⟩
        · exact ⟨s.cc.ssthresh,_,rfl,.inl rfl⟩

theorem clearRecoverSeq_shape : ∃ q, s.clearRecoverSeq = {s with cc := {s.cc with recoverSeq := q}} := by
  unfold clearRecoverSeq
  split
  · exact ⟨0,rfl⟩
  · exact ⟨s.cc.recoverSeq,rfl⟩

theorem countPrrDelivered_shape (bytesAcked : Nat) :
    ∃ d, s.countPrrDelivered bytesAcked = {s with cc := {s.cc with prrDelivered := d}} := by
  unfold countPrrDelivered
  split
  · exact ⟨_,rfl⟩
  · exact ⟨s.cc.prrDelivered,rfl⟩

theorem tlpAck_shape (p : TcpMetadata) : ∃ r c t w,
    s.tlpAck p = {s with rackTlp := r,cc := {s.cc with cwnd := c,ssthresh := t,sndEwn := w}} ∧
    (c = s.cc.cwnd ∧ t = s.cc.ssthresh ∧ w = s.cc.sndEwn ∨ 0 < c ∧ 0 < t ∧ w = min c s.win.sndWnd) := by
  unfold tlpAck
  dsimp only
  split
  · exact ⟨_,_,_,_,rfl,.inr ⟨lossEventSsthresh_positive _ _,lossEventSsthresh_positive _ _,rfl⟩⟩
  · exact ⟨_,s.cc.cwnd,s.cc.ssthresh,s.cc.sndEwn,rfl,.inl ⟨rfl,rfl,rfl⟩⟩

theorem rearmRetransmit_shape : ∃ r t, s.rearmRetransmit e = {s with rackTlp := r,timers := t} := by
  unfold rearmRetransmit
  split
  · exact ⟨_,_,rfl⟩
  · exact ⟨s.rackTlp,_,rfl⟩

theorem phase2FrtoSpuriousDetect_shape : ∃ c t w u f st,
    s.phase2FrtoSpuriousDetect = {s with cc := {s.cc with
      cwnd := c,ssthresh := t,sndEwn := w,cubic := u,frtoActive := f,frtoStep := st}} ∧
    (f = true → s.cc.frtoActive = true) ∧
    (c = s.cc.cwnd ∧ t = s.cc.ssthresh ∧ w = s.cc.sndEwn ∨
      s.cc.frtoActive = true ∧ c = s.cc.frtoPreCwnd ∧ t = s.cc.frtoPreSsthresh ∧ w = min c s.win.sndWnd) := by
  unfold phase2FrtoSpuriousDetect
  split
  · exact ⟨s.cc.cwnd,s.cc.ssthresh,s.cc.sndEwn,s.cc.cubic,s.cc.frtoActive,s.cc.frtoStep,rfl,id,.inl ⟨rfl,rfl,rfl⟩⟩
  · rename_i active
    have active : s.cc.frtoActive = true := by simpa using active
    dsimp only
    split
    · exact ⟨s.cc.cwnd,s.cc.ssthresh,s.cc.sndEwn,s.cc.cubic,s.cc.frtoActive,2,rfl,id,.inl ⟨rfl,rfl,rfl⟩⟩
    · split
      · exact ⟨_,_,_,_,_,_,rfl,fun _ => active,.inr ⟨active,rfl,rfl,rfl⟩⟩
      · exact ⟨s.cc.cwnd,s.cc.ssthresh,s.cc.sndEwn,s.cc.cubic,s.cc.frtoActive,s.cc.frtoStep,rfl,id,.inl ⟨rfl,rfl,rfl⟩⟩

theorem phase1_ok (p : TcpMetadata) (advances : lt32 s.sndSeq.una p.tcpAck = true) (cwnd : 0 < s.cc.cwnd)
    (ssthresh : 0 < s.cc.ssthresh)
    (frto : s.cc.frtoActive = true → 0 < s.cc.frtoPreCwnd ∧ 0 < s.cc.frtoPreSsthresh)
    (recovering : s.cc.recoveryPoint ≠ 0 → lt32 p.tcpAck s.cc.recoveryPoint = true → 0 < s.cc.recoverFs ∧
      0 ≤ pipe s.sackScoreboard p.tcpAck s.sndSeq.max ∧
      (s.advertise.sendSack = false → 0 < pipe s.sackScoreboard p.tcpAck s.sndSeq.max)) :
    ∃ ad m n r d c t w q pd f st u i h, s.phase1CumAckSideEffects e p = .ok {s with
        sndSeq := {s.sndSeq with una := p.tcpAck},plpmtudAdapter := ad,win := {s.win with sndMss := m}
        retransmitCount := n,rackTlp := r,timers := d
        cc := {s.cc with cwnd := c,ssthresh := t,sndEwn := w,recoverSeq := q,prrDelivered := pd,frtoActive := f
                         frtoStep := st,cubic := u,cubicInCa := i,hystartState := h}} ∧
      0 < c ∧ 0 < t ∧ w = min c s.win.sndWnd ∧ (f = true → s.cc.frtoActive = true) := by
  have acked : 0 < arc s.sndSeq.una p.tcpAck := by
    rcases lt32_iff.mp advances with ⟨half,_⟩ | ⟨positive,_⟩
    · omega
    · exact positive
  unfold phase1CumAckSideEffects
  rw [advances]
  simp only [Bool.not_true,Bool.false_eq_true,if_false]
  obtain ⟨ad,m,followed⟩ := followPlpmtud_shape (e := e) (s := {s with sndSeq := {s.sndSeq with una := p.tcpAck}})
  rw [followed]
  obtain ⟨t₁,h,rounds,place⟩ := hystartRound_shape (s := {s with
    sndSeq := {s.sndSeq with una := p.tcpAck},plpmtudAdapter := ad,win := {s.win with sndMss := m}})
  rw [rounds]
  have positive₁ : 0 < t₁ := by
    rcases place with same | same
    · rw [same]
      exact ssthresh
    · rw [same]
      exact cwnd
  obtain ⟨q,cleared⟩ := clearRecoverSeq_shape (s := {s with
    sndSeq := {s.sndSeq with una := p.tcpAck},plpmtudAdapter := ad,win := {s.win with sndMss := m}
    cc := {s.cc with ssthresh := t₁,hystartState := h}})
  rw [cleared]
  obtain ⟨pd,counted⟩ := countPrrDelivered_shape (s := {s with
    sndSeq := {s.sndSeq with una := p.tcpAck},plpmtudAdapter := ad,win := {s.win with sndMss := m}
    cc := {s.cc with ssthresh := t₁,hystartState := h,recoverSeq := q}}) (arc s.sndSeq.una p.tcpAck)
  rw [counted]
  obtain ⟨c₁,u₁,i,updated,positive₂⟩ := updateCwnd_ok (e := e) (s := {s with
    sndSeq := {s.sndSeq with una := p.tcpAck},plpmtudAdapter := ad,win := {s.win with sndMss := m}
    cc := {s.cc with ssthresh := t₁,hystartState := h,recoverSeq := q,prrDelivered := pd}})
    (arc s.sndSeq.una p.tcpAck) acked cwnd positive₁ recovering
  rw [updated]
  simp only [bind,Except.bind,refreshEwn]
  obtain ⟨r₁,c₂,t₂,w₂,probed,place₂⟩ := tlpAck_shape (s := {s with
    sndSeq := {s.sndSeq with una := p.tcpAck},plpmtudAdapter := ad,win := {s.win with sndMss := m},retransmitCount := 0
    cc := {s.cc with ssthresh := t₁,hystartState := h,recoverSeq := q,prrDelivered := pd,cwnd := c₁,cubic := u₁
                     cubicInCa := i,sndEwn := min c₁ s.win.sndWnd}}) p
  rw [probed]
  have positive₃ : 0 < c₂ ∧ 0 < t₂ ∧ w₂ = min c₂ s.win.sndWnd := by
    rcases place₂ with ⟨window,threshold,cached⟩ | fresh
    · rw [window,threshold,cached]
      exact ⟨positive₂,positive₁,rfl⟩
    · exact fresh
  obtain ⟨r₂,d,rearmed⟩ := rearmRetransmit_shape (e := e) (s := {s with
    sndSeq := {s.sndSeq with una := p.tcpAck},plpmtudAdapter := ad,win := {s.win with sndMss := m},retransmitCount := 0
    rackTlp := r₁
    cc := {s.cc with ssthresh := t₂,hystartState := h,recoverSeq := q,prrDelivered := pd,cwnd := c₂,cubic := u₁
                     cubicInCa := i,sndEwn := w₂}})
  rw [rearmed]
  obtain ⟨c₃,t₃,w₃,u₂,f,st,detected,still,place₃⟩ := phase2FrtoSpuriousDetect_shape (s := {s with
    sndSeq := {s.sndSeq with una := p.tcpAck},plpmtudAdapter := ad,win := {s.win with sndMss := m},retransmitCount := 0
    rackTlp := r₂,timers := d
    cc := {s.cc with ssthresh := t₂,hystartState := h,recoverSeq := q,prrDelivered := pd,cwnd := c₂,cubic := u₁
                     cubicInCa := i,sndEwn := w₂}})
  rw [detected]
  refine ⟨ad,m,0,r₂,d,c₃,t₃,w₃,q,pd,f,st,u₂,i,h,rfl,?_⟩
  rcases place₃ with ⟨window,threshold,cached⟩ | ⟨active,window,threshold,cached⟩
  · rw [window,threshold,cached]
    exact ⟨positive₃.1,positive₃.2.1,positive₃.2.2,still⟩
  · obtain ⟨before,beneath⟩ := frto active
    rw [cached,window,threshold]
    exact ⟨before,beneath,rfl,still⟩

-- A DSACK during a CUBIC recovery brings the old window back. Options are read
-- with SND.UNA at the acknowledgement number of their segment.
def DsackUndoes (p : TcpMetadata) (s : TcpSession) : Prop :=
  s.advertise.sendSack = true ∧ s.cc.ccMode = .cubic ∧ s.cc.frCubicSnapshotValid = true ∧ s.cc.recoveryPoint ≠ 0 ∧
    isDsack p.tcpAck p.tcpSackBlocks = true

instance (p : TcpMetadata) (s : TcpSession) : Decidable (s.DsackUndoes p) :=
  inferInstanceAs (Decidable (_ ∧ _ ∧ _ ∧ _ ∧ _))

theorem ingestBlocks_shape (blocks : List (Seq32 × Seq32)) :
    ∃ d, s.ingestBlocks blocks = {s with
      sackScoreboard := blocks.foldl (addSackBlock s.sndSeq.una s.sndSeq.max) s.sackScoreboard
      cc := {s.cc with prrDelivered := d}} := by
  unfold ingestBlocks
  dsimp only
  split
  · exact ⟨_,rfl⟩
  · exact ⟨s.cc.prrDelivered,rfl⟩

theorem ingestDsack_shape : ∃ n r c t u v, s.ingestDsack = {s with
      dsackReceived := n,rackTlp := r
      cc := {s.cc with cwnd := c,ssthresh := t,cubic := u,frCubicSnapshotValid := v}} ∧
    (c = s.cc.cwnd ∧ t = s.cc.ssthresh ∧ v = s.cc.frCubicSnapshotValid ∨
      s.cc.ccMode = .cubic ∧ s.cc.frCubicSnapshotValid = true ∧ s.cc.recoveryPoint ≠ 0 ∧ c = s.cc.frPreCwnd ∧
        t = s.cc.frPreSsthresh ∧ v = false) := by
  unfold ingestDsack
  dsimp only
  split
  · rename_i undo
    split
    · exact ⟨_,_,_,_,_,_,rfl,.inr ⟨undo.1,undo.2.1,undo.2.2,rfl,rfl,rfl⟩⟩
    · exact ⟨_,s.rackTlp,_,_,_,_,rfl,.inr ⟨undo.1,undo.2.1,undo.2.2,rfl,rfl,rfl⟩⟩
  · split
    · exact ⟨_,_,s.cc.cwnd,s.cc.ssthresh,s.cc.cubic,s.cc.frCubicSnapshotValid,rfl,.inl ⟨rfl,rfl,rfl⟩⟩
    · exact ⟨_,s.rackTlp,s.cc.cwnd,s.cc.ssthresh,s.cc.cubic,s.cc.frCubicSnapshotValid,rfl,.inl ⟨rfl,rfl,rfl⟩⟩

theorem ingestSackInfo_shape (p : TcpMetadata) (here : s.sndSeq.una = p.tcpAck) (short : arc s.sndSeq.una s.sndSeq.max < 0x8000_0000)
    (board : Board s.sndSeq.una s.sndSeq.max s.sackScoreboard) (bare : s.advertise.sendSack = false → s.sackScoreboard = [])
    (sane : s.advertise.sendSack = true → GateSound s.sndSeq.una s.sndSeq.max p.tcpSackBlocks) :
    ∃ n r b c t u v d, s.ingestSackInfo p = {s with
        dsackReceived := n,rackTlp := r,sackScoreboard := b
        cc := {s.cc with cwnd := c,ssthresh := t,cubic := u,frCubicSnapshotValid := v,prrDelivered := d}} ∧
      Board s.sndSeq.una s.sndSeq.max b ∧ (s.advertise.sendSack = false → b = []) ∧
      (c = s.cc.cwnd ∧ t = s.cc.ssthresh ∧ v = s.cc.frCubicSnapshotValid ∨
        s.DsackUndoes p ∧ c = s.cc.frPreCwnd ∧ t = s.cc.frPreSsthresh ∧ v = false) := by
  unfold ingestSackInfo
  split
  · exact ⟨s.dsackReceived,s.rackTlp,s.sackScoreboard,s.cc.cwnd,s.cc.ssthresh,s.cc.cubic,s.cc.frCubicSnapshotValid,
      s.cc.prrDelivered,rfl,board,bare,.inl ⟨rfl,rfl,rfl⟩⟩
  · rename_i reported
    have sack : s.advertise.sendSack = true := by
      simp only [Bool.or_eq_true,not_or] at reported
      simpa using reported.1
    have notBare : ∀ b : SackScoreboard, s.advertise.sendSack = false → b = [] := by
      intro b off
      rw [sack] at off
      cases off
    split
    · rename_i dsack
      obtain ⟨n,r,c,t,u,v,undone,place⟩ := ingestDsack_shape (s := s)
      rw [undone]
      obtain ⟨d,ingested⟩ := ingestBlocks_shape (s := {s with
        dsackReceived := n,rackTlp := r
        cc := {s.cc with cwnd := c,ssthresh := t,cubic := u,frCubicSnapshotValid := v}}) p.tcpSackBlocks.tail
      rw [ingested]
      refine ⟨n,r,_,c,t,u,v,d,rfl,?_,notBare _,?_⟩
      · apply addSackBlocks_board short board
        intro block member
        exact sane sack block (List.mem_of_mem_tail member)
      · rcases place with same | ⟨mode,valid,under,values⟩
        · exact .inl same
        · exact .inr ⟨⟨sack,mode,valid,under,here ▸ dsack⟩,values⟩
    · obtain ⟨d,ingested⟩ := ingestBlocks_shape (s := s) p.tcpSackBlocks
      rw [ingested]
      exact ⟨s.dsackReceived,s.rackTlp,_,s.cc.cwnd,s.cc.ssthresh,s.cc.cubic,s.cc.frCubicSnapshotValid,d,rfl,
        addSackBlocks_board short board (sane sack),notBare _,.inl ⟨rfl,rfl,rfl⟩⟩

theorem takeRttSample_shape (sampleMs : Nat) :
    ∃ r h, s.takeRttSample e sampleMs = {s with rtoState := r,cc := {s.cc with hystartState := h}} := by
  unfold takeRttSample
  dsimp only
  split
  · exact ⟨_,_,rfl⟩
  · exact ⟨_,s.cc.hystartState,rfl⟩

theorem takeTsSample_shape (p : TcpMetadata) : ∃ r h t, s.takeTsSample e p = {s with
    rtoState := r,cc := {s.cc with hystartState := h},rtt := t} ∧ t.lastSendTimeMs = s.rtt.lastSendTimeMs := by
  unfold takeTsSample
  split
  · exact ⟨s.rtoState,s.cc.hystartState,s.rtt,rfl,rfl⟩
  · split
    · obtain ⟨r,h,sampled⟩ := takeRttSample_shape (e := e) (s := s) (arc _ (BitVec.ofNat 32 e.nowMs))
      rw [sampled]
      exact ⟨r,h,_,rfl,rfl⟩
    · exact ⟨s.rtoState,s.cc.hystartState,s.rtt,rfl,rfl⟩

theorem phase3HarvestRttSamples_shape (p : TcpMetadata) : ∃ r h t, s.phase3HarvestRttSamples e p = {s with
    rtoState := r,cc := {s.cc with hystartState := h},rtt := t} ∧ t.lastSendTimeMs = s.rtt.lastSendTimeMs := by
  obtain ⟨r,h,t,first,last⟩ := takeTsSample_shape (e := e) (s := s) p
  unfold phase3HarvestRttSamples
  rw [first]
  dsimp only
  split
  · exact ⟨r,h,t,rfl,last⟩
  · split
    · split
      · exact ⟨r,h,_,rfl,last⟩
      · obtain ⟨r',h',second⟩ := takeRttSample_shape (e := e) (s := {s with
          rtoState := r,cc := {s.cc with hystartState := h},rtt := t}) (e.nowMs - _)
        rw [second]
        exact ⟨r',h',_,rfl,last⟩
    · exact ⟨r,h,t,rfl,last⟩

theorem pruneSackScoreboard_shape : s.pruneSackScoreboard = {s with
    sackScoreboard := if s.advertise.sendSack then s.sackScoreboard.pruneBelow s.sndSeq.una else s.sackScoreboard} := by
  unfold pruneSackScoreboard
  split <;> rfl

def prunedBoard (s : TcpSession) : SackScoreboard :=
  if s.advertise.sendSack then s.sackScoreboard.pruneBelow s.sndSeq.una else s.sackScoreboard

theorem pruneAndIngest_shape (p : TcpMetadata) (here : s.sndSeq.una = p.tcpAck)
    (short : arc s.sndSeq.una s.sndSeq.max < 0x8000_0000) (board : Board s.sndSeq.una s.sndSeq.max s.prunedBoard)
    (bare : s.advertise.sendSack = false → s.prunedBoard = [])
    (sane : s.advertise.sendSack = true → GateSound s.sndSeq.una s.sndSeq.max p.tcpSackBlocks) :
    ∃ n r b c t u v d, s.pruneSackScoreboard.ingestSackInfo p = {s with
        dsackReceived := n,rackTlp := r,sackScoreboard := b
        cc := {s.cc with cwnd := c,ssthresh := t,cubic := u,frCubicSnapshotValid := v,prrDelivered := d}} ∧
      Board s.sndSeq.una s.sndSeq.max b ∧ (s.advertise.sendSack = false → b = []) ∧
      (c = s.cc.cwnd ∧ t = s.cc.ssthresh ∧ v = s.cc.frCubicSnapshotValid ∨
        s.DsackUndoes p ∧ c = s.cc.frPreCwnd ∧ t = s.cc.frPreSsthresh ∧ v = false) := by
  rw [pruneSackScoreboard_shape]
  exact ingestSackInfo_shape (s := {s with sackScoreboard := s.prunedBoard}) p here short board bare sane

theorem exitRecovery_shape : ∃ r c w rp v fs pd po, s.exitRecovery = {s with
      rackTlp := r
      cc := {s.cc with cwnd := c,sndEwn := w,recoveryPoint := rp,frCubicSnapshotValid := v,recoverFs := fs
                       prrDelivered := pd,prrOut := po}} ∧
    (rp = s.cc.recoveryPoint ∧ fs = s.cc.recoverFs ∧ v = s.cc.frCubicSnapshotValid ∧ c = s.cc.cwnd ∧
        w = s.cc.sndEwn ∧ (rp ≠ 0 → le32 rp s.sndSeq.una = false) ∨
      rp = 0 ∧ v = false ∧ c = s.cc.ssthresh ∧ w = min s.cc.ssthresh s.win.sndWnd) := by
  unfold exitRecovery
  split
  · exact ⟨_,_,_,_,_,_,_,_,rfl,.inr ⟨rfl,rfl,rfl,rfl⟩⟩
  · rename_i under
    refine ⟨s.rackTlp,s.cc.cwnd,s.cc.sndEwn,s.cc.recoveryPoint,s.cc.frCubicSnapshotValid,s.cc.recoverFs,
      s.cc.prrDelivered,s.cc.prrOut,rfl,.inl ⟨rfl,rfl,rfl,rfl,rfl,?_⟩⟩
    intro recovering
    cases test : le32 s.cc.recoveryPoint s.sndSeq.una with
    | false => rfl
    | true => exact absurd ⟨recovering,test⟩ under

theorem phase4_shape (p : TcpMetadata) : ∃ r t c w rp v fs pd po,
    s.phase4LossDetectionAndRecoveryExit e p = {s with
      rackTlp := r,timers := t
      cc := {s.cc with cwnd := c,sndEwn := w,recoveryPoint := rp,frCubicSnapshotValid := v,recoverFs := fs
                       prrDelivered := pd,prrOut := po}} ∧
    (rp = s.cc.recoveryPoint ∧ fs = s.cc.recoverFs ∧ v = s.cc.frCubicSnapshotValid ∧ c = s.cc.cwnd ∧
        w = s.cc.sndEwn ∧ (rp ≠ 0 → le32 rp s.sndSeq.una = false) ∨
      rp = 0 ∧ v = false ∧ c = s.cc.ssthresh ∧ w = min s.cc.ssthresh s.win.sndWnd) := by
  obtain ⟨r,t,raked⟩ := rackProcessAck_shape (e := e) (s := s) p
  unfold phase4LossDetectionAndRecoveryExit
  rw [raked]
  obtain ⟨r',c,w,rp,v,fs,pd,po,left,place⟩ := exitRecovery_shape (s := {s with
    rackTlp := r.pruneSegments s.sndSeq.una,timers := t})
  exact ⟨r',t,c,w,rp,v,fs,pd,po,left,place⟩

theorem stands_of_not_lt {una a top : Seq32} (short : arc una top < 0x8000_0000) (reached : arc una a ≤ arc una top)
    (behind : lt32 una a ≠ true) : a = una := by
  have order : lt32 una a = true ↔ arc una una < arc una a := lt32_near (by simp) (by omega)
  rw [arc_self] at order
  have zero : arc una a = 0 := by
    by_contra positive
    exact behind (order.mpr (by omega))
  exact (arc_eq_zero.mp zero).symm

theorem recovering_pipe (core : Core (s.senderAt none)) {a : Seq32}
    (reached : arc s.sndSeq.una a ≤ arc s.sndSeq.una s.sndSeq.max) (under : s.cc.recoveryPoint ≠ 0)
    (ahead : lt32 a s.cc.recoveryPoint = true) : 0 < s.cc.recoverFs ∧
      0 ≤ pipe s.sackScoreboard a s.sndSeq.max ∧
      (s.advertise.sendSack = false → 0 < pipe s.sackScoreboard a s.sndSeq.max) := by
  have short : arc s.sndSeq.una s.sndSeq.max < 0x8000_0000 := core.short
  obtain ⟨fs,place⟩ := core.cc.recovering under
  refine ⟨fs,(pipe_bounds short core.board reached).1,?_⟩
  intro off
  have empty : s.sackScoreboard = [] := core.bare off
  rcases place with sack | ⟨_,inside⟩
  · have sack : s.advertise.sendSack = true := sack
    rw [off] at sack
    cases sack
  · have inside : arc s.sndSeq.una s.cc.recoveryPoint ≤ arc s.sndSeq.una s.sndSeq.max := inside
    have order := (lt32_near (u := s.sndSeq.una) (by omega) (by omega)).mp ahead
    have rest := arc_cut reached
    rw [empty]
    simp only [pipe,countedBytes,List.filter_nil,List.map_nil,List.sum_nil]
    omega

theorem phase1_any (p : TcpMetadata) (core : Core (s.senderAt none))
    (reached : arc s.sndSeq.una p.tcpAck ≤ arc s.sndSeq.una s.sndSeq.max) :
    ∃ ad m n r d c t w q pd f st u i h, s.phase1CumAckSideEffects e p = .ok {s with
        sndSeq := {s.sndSeq with una := p.tcpAck},plpmtudAdapter := ad,win := {s.win with sndMss := m}
        retransmitCount := n,rackTlp := r,timers := d
        cc := {s.cc with cwnd := c,ssthresh := t,sndEwn := w,recoverSeq := q,prrDelivered := pd,frtoActive := f
                         frtoStep := st,cubic := u,cubicInCa := i,hystartState := h}} ∧
      0 < c ∧ 0 < t ∧ (0 ≤ w ∧ w ≤ windowMax) ∧ (s.cc.sndEwn = min s.cc.cwnd s.win.sndWnd → w = min c s.win.sndWnd) ∧
      (f = true → s.cc.frtoActive = true) := by
  have wnd : s.win.sndWnd ≤ windowMax := core.wnd
  by_cases advances : lt32 s.sndSeq.una p.tcpAck = true
  · obtain ⟨ad,m,n,r,d,c,t,w,q,pd,f,st,u,i,h,result,cwnd,ssthresh,cached,still⟩ := phase1_ok (e := e) p advances
      core.cc.cwnd core.cc.ssthresh core.cc.frto (recovering_pipe core reached)
    refine ⟨ad,m,n,r,d,c,t,w,q,pd,f,st,u,i,h,result,cwnd,ssthresh,?_,fun _ => cached,still⟩
    omega
  · have stands : p.tcpAck = s.sndSeq.una := stands_of_not_lt core.short reached advances
    refine ⟨s.plpmtudAdapter,s.win.sndMss,s.retransmitCount,s.rackTlp,s.timers,s.cc.cwnd,s.cc.ssthresh,s.cc.sndEwn,
      s.cc.recoverSeq,s.cc.prrDelivered,s.cc.frtoActive,s.cc.frtoStep,s.cc.cubic,s.cc.cubicInCa,s.cc.hystartState,
      ?_,core.cc.cwnd,core.cc.ssthresh,core.cc.ewn,id,id⟩
    unfold phase1CumAckSideEffects
    rw [stands,lt32_self]
    rfl

structure Acked (p : TcpMetadata) (s s' : TcpSession) : Prop where
  edges : s'.sndSeq = {s.sndSeq with una := p.tcpAck}
  fsm : s'.state = s.state ∧ s'.oooPacketQueue = s.oooPacketQueue ∧ s'.log = s.log
  send : s'.tx = s.tx ∧ s'.written = s.written ∧ s'.advertise = s.advertise ∧ s'.ts = s.ts
  receive : s'.rcvSeq = s.rcvSeq ∧ s'.rxBuffer = s.rxBuffer ∧ s'.delivered = s.delivered ∧ s'.shut = s.shut
  win : s'.win = {s.win with sndMss := s'.win.sndMss}
  lastSend : s'.rtt.lastSendTimeMs = s.rtt.lastSendTimeMs
  board : Board p.tcpAck s.sndSeq.max s'.sackScoreboard
  bare : s.advertise.sendSack = false → s'.sackScoreboard = []
  sound : (s'.senderAt none).cc.Sound p.tcpAck s.sndSeq.max s.advertise.sendSack
  level : s.cc.sndEwn = min s.cc.cwnd s.win.sndWnd → s'.cc.sndEwn = min s'.cc.cwnd s.win.sndWnd ∨ s.DsackUndoes p
  mode : s'.cc.ccMode = s.cc.ccMode
  point : s'.cc.recoveryPoint ≠ 0 → s.cc.recoveryPoint ≠ 0
  valid : s'.cc.frCubicSnapshotValid = true → s.cc.frCubicSnapshotValid = true

theorem pruned_board {a : Seq32} (core : Core (s.senderAt none))
    (reached : arc s.sndSeq.una a ≤ arc s.sndSeq.una s.sndSeq.max) :
    Board a s.sndSeq.max (if s.advertise.sendSack then s.sackScoreboard.pruneBelow a else s.sackScoreboard) := by
  cases sack : s.advertise.sendSack with
  | false =>
    have empty : s.sackScoreboard = [] := core.bare sack
    rw [empty]
    exact Board.nil _ _
  | true => exact pruneBelow_board core.short core.board reached

-- A recovery that the acknowledgement does not end has its point ahead of it.
theorem recovering_ahead {a : Seq32} (core : Core (s.senderAt none))
    (reached : arc s.sndSeq.una a ≤ arc s.sndSeq.una s.sndSeq.max) (under : s.cc.recoveryPoint ≠ 0)
    (goesOn : le32 s.cc.recoveryPoint a = false) :
    0 < (s.senderAt none).cc.recoverFs ∧ (s.advertise.sendSack = true ∨
      0 < arc a s.cc.recoveryPoint ∧ arc a s.cc.recoveryPoint ≤ arc a s.sndSeq.max) := by
  have short : arc s.sndSeq.una s.sndSeq.max < 0x8000_0000 := core.short
  have rest := arc_cut reached
  obtain ⟨fs,place⟩ := core.cc.recovering under
  refine ⟨fs,place.imp_right ?_⟩
  rintro ⟨positive,inside⟩
  have inside : arc s.sndSeq.una s.cc.recoveryPoint ≤ arc s.sndSeq.una s.sndSeq.max := inside
  have order : le32 s.cc.recoveryPoint a = true ↔ arc s.sndSeq.una s.cc.recoveryPoint ≤ arc s.sndSeq.una a :=
    le32_near (by omega) (by omega)
  have ahead : arc s.sndSeq.una a < arc s.sndSeq.una s.cc.recoveryPoint := by
    by_contra behind
    have passed := order.mpr (by omega)
    rw [goesOn] at passed
    cases passed
  have cut := arc_cut (le_of_lt ahead)
  omega

theorem ackPhases_ok (p : TcpMetadata) (core : Core (s.senderAt none))
    (reached : arc s.sndSeq.una p.tcpAck ≤ arc s.sndSeq.una s.sndSeq.max)
    (sane : s.advertise.sendSack = true → GateSound p.tcpAck s.sndSeq.max p.tcpSackBlocks) :
    ∃ s₁, s.phase1CumAckSideEffects e p = .ok s₁ ∧
      Acked p s ((((s₁.phase3HarvestRttSamples e p).pruneSackScoreboard).ingestSackInfo p)
        |>.phase4LossDetectionAndRecoveryExit e p) := by
  have short : arc s.sndSeq.una s.sndSeq.max < 0x8000_0000 := core.short
  have rest := arc_cut reached
  have wnd : s.win.sndWnd ≤ windowMax := core.wnd
  obtain ⟨ad,m,n,r,d,c,t,w,q,pd,f,st,u,i,h,first,cwnd,ssthresh,range,cached,still⟩ := phase1_any (e := e) p core reached
  refine ⟨_,first,?_⟩
  obtain ⟨rto,h₃,rtt,third,last⟩ := phase3HarvestRttSamples_shape (e := e) (s := {s with
    sndSeq := {s.sndSeq with una := p.tcpAck},plpmtudAdapter := ad,win := {s.win with sndMss := m}
    retransmitCount := n,rackTlp := r,timers := d
    cc := {s.cc with cwnd := c,ssthresh := t,sndEwn := w,recoverSeq := q,prrDelivered := pd,frtoActive := f
                     frtoStep := st,cubic := u,cubicInCa := i,hystartState := h}}) p
  rw [third]
  have empty : s.advertise.sendSack = false →
      (if s.advertise.sendSack then s.sackScoreboard.pruneBelow p.tcpAck else s.sackScoreboard) = [] := by
    intro off
    rw [off]
    exact core.bare off
  obtain ⟨n₅,r₅,b,c₅,t₅,u₅,v,d₅,fifth,board,bare,place₅⟩ := pruneAndIngest_shape (s := {s with
    sndSeq := {s.sndSeq with una := p.tcpAck},plpmtudAdapter := ad,win := {s.win with sndMss := m}
    retransmitCount := n,rackTlp := r,timers := d,rtoState := rto,rtt := rtt
    cc := {s.cc with cwnd := c,ssthresh := t,sndEwn := w,recoverSeq := q,prrDelivered := pd,frtoActive := f
                     frtoStep := st,cubic := u,cubicInCa := i,hystartState := h₃}}) p rfl
    (by show arc p.tcpAck s.sndSeq.max < _; omega) (pruned_board (s := s) core reached) empty sane
  rw [fifth]
  obtain ⟨r₆,d₆,c₆,w₆,rp,v₆,fs,pd₆,po,sixth,place₆⟩ := phase4_shape (e := e) (s := {s with
    sndSeq := {s.sndSeq with una := p.tcpAck},plpmtudAdapter := ad,win := {s.win with sndMss := m}
    retransmitCount := n,rackTlp := r₅,timers := d,rtoState := rto,rtt := rtt,dsackReceived := n₅,sackScoreboard := b
    cc := {s.cc with cwnd := c₅,ssthresh := t₅,sndEwn := w,recoverSeq := q,prrDelivered := d₅,frtoActive := f
                     frtoStep := st,cubic := u₅,cubicInCa := i,hystartState := h₃,frCubicSnapshotValid := v}}) p
  rw [sixth]
  have positive₅ : 0 < c₅ ∧ 0 < t₅ := by
    rcases place₅ with ⟨window,threshold,_⟩ | ⟨undoes,window,threshold,_⟩
    · rw [window,threshold]
      exact ⟨cwnd,ssthresh⟩
    · rw [window,threshold]
      exact core.cc.snapshot undoes.2.2.1
  have valid₅ : v = true → s.cc.frCubicSnapshotValid = true := by
    rcases place₅ with ⟨_,_,same⟩ | ⟨_,_,_,off⟩
    · rw [same]
      exact id
    · rw [off]
      intro absurd
      cases absurd
  exact {
    edges := rfl
    fsm := ⟨rfl,rfl,rfl⟩
    send := ⟨rfl,rfl,rfl,rfl⟩
    receive := ⟨rfl,rfl,rfl,rfl⟩
    win := rfl
    lastSend := last
    board := board
    bare := bare
    sound := by
      rcases place₆ with ⟨point,flight,snap,window,cache,goesOn⟩ | ⟨point,snap,window,cache⟩
      · subst point flight snap window cache
        refine ⟨positive₅.1,positive₅.2,range,fun active => core.cc.frto (still active),
          fun on => core.cc.snapshot (valid₅ on),?_⟩
        exact fun under => recovering_ahead (s := s) core reached under (goesOn under)
      · subst point snap window cache
        refine ⟨positive₅.2,positive₅.2,?_,fun active => core.cc.frto (still active),?_,fun under => absurd rfl under⟩
        · show 0 ≤ min c₆ s.win.sndWnd ∧ min c₆ s.win.sndWnd ≤ windowMax
          omega
        · intro on
          cases on
    level := by
      intro level
      rcases place₆ with ⟨_,_,_,window,cache,_⟩ | ⟨_,_,window,cache⟩
      · subst window cache
        rcases place₅ with ⟨same,_,_⟩ | ⟨undoes,_⟩
        · left
          subst same
          exact cached level
        · exact .inr undoes
      · left
        subst window cache
        rfl
    mode := rfl
    point := by
      intro under
      rcases place₆ with ⟨same,_⟩ | ⟨zero,_⟩
      · exact same ▸ under
      · exact absurd zero under
    valid := by
      intro on
      rcases place₆ with ⟨_,_,same,_⟩ | ⟨_,off,_⟩
      · exact valid₅ (same.symm.trans on)
      · have on : v₆ = true := on
        rw [off] at on
        cases on}

theorem catchUpNxt_edges {a : Seq32} (short : arc a s.sndSeq.max < 0x8000_0000) (edge : s.sndSeq.una = a)
    {una : Seq32} (before : arc una a ≤ arc una s.sndSeq.max) (flight : arc una s.sndSeq.max < 0x8000_0000)
    (nxt : arc una s.sndSeq.nxt ≤ arc una s.sndSeq.max) :
    s.catchUpNxt = {s with
      sndSeq := {s.sndSeq with nxt := if arc una s.sndSeq.nxt < arc una a then a else s.sndSeq.nxt}} := by
  have order : lt32 s.sndSeq.nxt a = true ↔ arc una s.sndSeq.nxt < arc una a := lt32_near (by omega) (by omega)
  have below : le32 a s.sndSeq.max = true := by
    rw [le32_iff]
    omega
  unfold catchUpNxt
  rw [edge,below,Bool.and_true]
  by_cases behind : arc una s.sndSeq.nxt < arc una a
  · rw [if_pos behind,if_pos (order.mpr behind),← edge]
  · rw [if_neg behind,if_neg fun test => behind (order.mp test)]

def freshData (p : TcpMetadata) (s : TcpSession) : List UInt8 :=
  if s.shut.rd then [] else p.tcpData.drop (s.overlapPrefix p)

def rcvNxtAfter (p : TcpMetadata) (s : TcpSession) : Seq32 :=
  if lt32 s.rcvSeq.nxt p.segEnd then p.segEnd else s.rcvSeq.nxt

def rcvCountAfter (p : TcpMetadata) (s : TcpSession) : Nat :=
  if lt32 s.rcvSeq.nxt p.segEnd then s.rcvSeq.count + arc s.rcvSeq.nxt p.segEnd else s.rcvSeq.count

theorem enqueueRxBuffer_shape (data : List UInt8) : ∃ ev, s.enqueueRxBuffer data = {s with
    eventRxBuffer := ev
    rxBuffer := s.rxBuffer ++ if s.shut.rd then [] else data
    delivered := s.delivered ++ if s.shut.rd then [] else data} := by
  unfold enqueueRxBuffer
  split
  · refine ⟨s.eventRxBuffer,?_⟩
    rw [List.append_nil,List.append_nil]
  · exact ⟨_,rfl⟩

theorem ackEverySecond_shape (sent : lt32 s.sndSeq.max s.sndSeq.nxt = false) :
    ∃ n l k d q a ec rack timers u, s.ackEverySecond e = {s with
        cc := {s.cc with prrOut := n},log := l,keepalive := k,delayedAckSegmentsPending := d,pendingDsack := q
        accecn := a,ecn := ec,rackTlp := rack,timers := timers,rcvSeq := {s.rcvSeq with una := u}} ∧
      l.filter Obs.notable = s.log.filter Obs.notable := by
  unfold ackEverySecond
  dsimp only
  split
  · obtain ⟨n,l,k,d,q,a,ec,rack,timers,shape,told⟩ := transmitPacket_quiet (e := e)
      (s := {s with delayedAckSegmentsPending := s.delayedAckSegmentsPending + 1}) {flagAck := true} rfl rfl sent
    exact ⟨n,l,k,d,q,a,ec,rack,timers,_,shape,told⟩
  · exact ⟨s.cc.prrOut,s.log,s.keepalive,_,s.pendingDsack,s.accecn,s.ecn,s.rackTlp,_,s.rcvSeq.una,rfl,rfl⟩

theorem consumePayload_shape (p : TcpMetadata) (sent : lt32 s.sndSeq.max s.sndSeq.nxt = false) :
    ∃ n l k d q a ec rack timers u ev, s.consumePayload e p = {s with
        cc := {s.cc with prrOut := n},log := l,keepalive := k,delayedAckSegmentsPending := d,pendingDsack := q
        accecn := a,ecn := ec,rackTlp := rack,timers := timers
        rcvSeq := {s.rcvSeq with nxt := s.rcvNxtAfter p,una := u,count := s.rcvCountAfter p}
        eventRxBuffer := ev,rxBuffer := s.rxBuffer ++ s.freshData p,delivered := s.delivered ++ s.freshData p} ∧
      l.filter Obs.notable = s.log.filter Obs.notable := by
  have noted : ∃ q, s.noteOverlap p = {s with pendingDsack := q} := by
    unfold noteOverlap
    split
    · exact ⟨_,rfl⟩
    · exact ⟨s.pendingDsack,rfl⟩
  obtain ⟨q,noted⟩ := noted
  have advanced : ({s with pendingDsack := q} : TcpSession).advanceRcvNxt p =
      {s with pendingDsack := q,rcvSeq := {s.rcvSeq with nxt := s.rcvNxtAfter p,count := s.rcvCountAfter p}} := by
    unfold advanceRcvNxt rcvNxtAfter rcvCountAfter
    split <;> rfl
  unfold consumePayload
  rw [noted,advanced]
  dsimp only
  split
  · obtain ⟨ev,queued⟩ := enqueueRxBuffer_shape (s := {s with
      pendingDsack := q,rcvSeq := {s.rcvSeq with nxt := s.rcvNxtAfter p,count := s.rcvCountAfter p}}) (p.tcpData.drop (s.overlapPrefix p))
    rw [queued]
    obtain ⟨n,l,k,d,q',a,ec,rack,timers,u,acked,told⟩ := ackEverySecond_shape (e := e) (s := {s with
      pendingDsack := q,rcvSeq := {s.rcvSeq with nxt := s.rcvNxtAfter p,count := s.rcvCountAfter p},eventRxBuffer := ev
      rxBuffer := s.rxBuffer ++ if s.shut.rd then [] else p.tcpData.drop (s.overlapPrefix p)
      delivered := s.delivered ++ if s.shut.rd then [] else p.tcpData.drop (s.overlapPrefix p)}) sent
    exact ⟨n,l,k,d,q',a,ec,rack,timers,u,ev,acked,told⟩
  · rename_i stale
    have nothing : s.freshData p = [] := by
      unfold freshData
      split
      · rfl
      · exact List.drop_eq_nil_of_le (by omega)
    refine ⟨s.cc.prrOut,s.log,s.keepalive,s.delayedAckSegmentsPending,q,s.accecn,s.ecn,s.rackTlp,s.timers,
      s.rcvSeq.una,s.eventRxBuffer,?_,rfl⟩
    rw [nothing,List.append_nil,List.append_nil]

theorem takeWindow_shape (p : TcpMetadata) : ∃ w mx, s.takeWindow p = {s with
      win := {s.win with sndWnd := s.peerWnd p,maxWindow := mx},cc := {s.cc with sndEwn := w}} ∧
    (w = s.cc.sndEwn ∧ s.win.sndWnd = s.peerWnd p ∨ w = min s.cc.cwnd (s.peerWnd p)) := by
  have bumped : ∀ (win : WindowState) (n : Nat), ∃ mx, win.bumpMaxWindow n = {win with maxWindow := mx} := by
    intro win n
    unfold WindowState.bumpMaxWindow
    split
    · exact ⟨_,rfl⟩
    · exact ⟨win.maxWindow,rfl⟩
  unfold takeWindow
  dsimp only
  split
  · obtain ⟨mx,bump⟩ := bumped {s.win with sndWnd := s.peerWnd p} (s.peerWnd p)
    refine ⟨_,mx,?_,.inr rfl⟩
    rw [bump]
  · rename_i same
    have same : s.win.sndWnd = s.peerWnd p := by simpa using same
    obtain ⟨mx,bump⟩ := bumped s.win s.win.sndWnd
    refine ⟨s.cc.sndEwn,mx,?_,.inl ⟨rfl,same⟩⟩
    rw [bump,← same]

theorem leavePersist_shape : ∃ q t, s.leavePersist e = {s with persist := q,timers := t} := by
  unfold leavePersist
  split
  · exact ⟨_,_,rfl⟩
  · exact ⟨s.persist,s.timers,rfl⟩

theorem checkPaws_shape (p : TcpMetadata) :
    (s.checkPawsAndUpdateTsRecent e p).1 = true ∧
      (∃ ts, (s.checkPawsAndUpdateTsRecent e p).2 = {s with ts := ts} ∧ ts.sendTs = s.ts.sendTs) ∨
    (s.checkPawsAndUpdateTsRecent e p).1 = false ∧
      ((s.checkPawsAndUpdateTsRecent e p).2 = s ∨ (s.checkPawsAndUpdateTsRecent e p).2 = s.emitChallengeAck e) := by
  unfold checkPawsAndUpdateTsRecent
  split
  · exact .inl ⟨rfl,s.ts,rfl,rfl⟩
  · refine .inl ⟨rfl,?_⟩
    unfold refreshTsRecent
    split
    · exact ⟨s.ts,rfl,rfl⟩
    · exact ⟨_,rfl,rfl⟩
  · exact .inr ⟨rfl,.inl rfl⟩
  · exact .inr ⟨rfl,.inr rfl⟩

-- The session at the moment it looks for a stored segment to replay.
structure Processed (p : TcpMetadata) (s s' : TcpSession) : Prop where
  sender : ∃ blocks cc mss, s'.senderAt none =
      {(s.senderAt none).acknowledge p.tcpAck blocks cc mss (s.peerWnd p) with ooo := s'.oooPacketQueue} ∧
    Board p.tcpAck s.sndSeq.max blocks ∧ (s.advertise.sendSack = false → blocks = []) ∧
    cc.Sound p.tcpAck s.sndSeq.max s.advertise.sendSack ∧ 0 < mss ∧ s.peerWnd p ≤ windowMax ∧
    (((s.senderAt none).cc.Level s.win.sndWnd → cc.Level (s.peerWnd p)) ∨ s.DsackUndoes p)
  queue : s'.oooPacketQueue = s.oooPacketQueue.filter fun q => !lt32 q.1.tcpSeq (s.rcvNxtAfter p)
  rcvNxt : s'.rcvSeq.nxt = s.rcvNxtAfter p ∧ s'.rcvSeq.count = s.rcvCountAfter p
  received : s'.rxBuffer = s.rxBuffer ++ s.freshData p ∧ s'.delivered = s.delivered ++ s.freshData p ∧ s'.shut = s.shut
  requests : s'.tx.retransmitRequestCounter = (s.tx.forgetRequestsBelow p.tcpAck).retransmitRequestCounter
  lastSend : s'.rtt.lastSendTimeMs = s.rtt.lastSendTimeMs
  mode : s'.cc.ccMode = s.cc.ccMode
  point : s'.cc.recoveryPoint ≠ 0 → s.cc.recoveryPoint ≠ 0
  valid : s'.cc.frCubicSnapshotValid = true → s.cc.frCubicSnapshotValid = true

theorem peerWnd_small (core : Core (s.senderAt none)) (p : TcpMetadata) : s.peerWnd p ≤ windowMax := by
  have small := p.winSmall
  have shift : s.win.sndWsc ≤ 14 := core.wsc
  unfold peerWnd windowMax
  rw [Nat.shiftLeft_eq]
  exact Nat.mul_le_mul small (Nat.pow_le_pow_right (by decide) shift)

def takeWindowAndPurge (e : Env) (p : TcpMetadata) (s : TcpSession) : TcpSession :=
  let s := (s.takeWindow p).leavePersist e
  {s with tx := s.tx.forgetRequestsBelow p.tcpAck}.purgeOoo

def settleAck (e : Env) (p : TcpMetadata) (s : TcpSession) : TcpSession :=
  (s.catchUpNxt.consumePayload e p).drainTx.takeWindowAndPurge e p

theorem takeWindowAndPurge_shape (p : TcpMetadata) : ∃ w mx q t, s.takeWindowAndPurge e p = {s with
      win := {s.win with sndWnd := s.peerWnd p,maxWindow := mx},cc := {s.cc with sndEwn := w},persist := q,timers := t
      tx := s.tx.forgetRequestsBelow p.tcpAck
      oooPacketQueue := s.oooPacketQueue.filter fun q => !lt32 q.1.tcpSeq s.rcvSeq.nxt} ∧
    (w = s.cc.sndEwn ∧ s.win.sndWnd = s.peerWnd p ∨ w = min s.cc.cwnd (s.peerWnd p)) := by
  obtain ⟨w,mx,taken,place⟩ := takeWindow_shape (s := s) p
  unfold takeWindowAndPurge
  rw [taken]
  obtain ⟨q,t,left⟩ := leavePersist_shape (e := e) (s := {s with
    win := {s.win with sndWnd := s.peerWnd p,maxWindow := mx},cc := {s.cc with sndEwn := w}})
  rw [left]
  exact ⟨w,mx,q,t,rfl,place⟩

-- SND.NXT catches up with the acknowledgement and stays within SND.MAX.
theorem Acked.caught {s' : TcpSession} {p : TcpMetadata} (acked : Acked p s s') (core : Core (s.senderAt none))
    (reached : arc s.sndSeq.una p.tcpAck ≤ arc s.sndSeq.una s.sndSeq.max) {next : Seq32}
    (there : (if arc s.sndSeq.una s.sndSeq.nxt < arc s.sndSeq.una p.tcpAck then p.tcpAck else s.sndSeq.nxt) = next) :
    s'.catchUpNxt = {s' with sndSeq := {s'.sndSeq with nxt := next}} ∧ lt32 s'.sndSeq.max next = false := by
  have short : arc s.sndSeq.una s.sndSeq.max < 0x8000_0000 := core.short
  have rest := arc_cut reached
  have within := core.nxt
  have edge : s'.sndSeq.una = p.tcpAck := by rw [acked.edges]
  have top : s'.sndSeq.max = s.sndSeq.max := by rw [acked.edges]
  have nxt : s'.sndSeq.nxt = s.sndSeq.nxt := by rw [acked.edges]
  have caught := @catchUpNxt_edges s' p.tcpAck (by rw [top]; omega) edge s.sndSeq.una
    (by rw [top]; exact reached) (by rw [top]; exact short) (by rw [top,nxt]; exact within)
  rw [nxt,there] at caught
  refine ⟨caught,?_⟩
  have placed : arc p.tcpAck next ≤ arc p.tcpAck s.sndSeq.max := by
    rw [← there]
    exact caught_up core reached
  have order : lt32 s'.sndSeq.max next = true ↔ arc p.tcpAck s.sndSeq.max < arc p.tcpAck next := by
    rw [top]
    exact lt32_near (by omega) (by omega)
  cases test : lt32 s'.sndSeq.max next with
  | false => rfl
  | true =>
    have passed := order.mp test
    omega

-- The cached window is left alone or taken anew.
theorem Acked.cached_sound {s' : TcpSession} {p : TcpMetadata} {w : Int} (acked : Acked p s s')
    (core : Core (s.senderAt none))
    (place : w = s'.cc.sndEwn ∧ s.win.sndWnd = s.peerWnd p ∨ w = min s'.cc.cwnd (s.peerWnd p)) :
    ({(s'.senderAt none).cc with ewn := w} : Control).Sound p.tcpAck s.sndSeq.max s.advertise.sendSack := by
  have small := peerWnd_small core p
  have positive : 0 < s'.cc.cwnd := acked.sound.cwnd
  have range : 0 ≤ s'.cc.sndEwn ∧ s'.cc.sndEwn ≤ windowMax := acked.sound.ewn
  refine {acked.sound with ewn := ?_}
  show 0 ≤ w ∧ w ≤ windowMax
  rcases place with ⟨same,_⟩ | fresh
  · rw [same]
    exact range
  · omega

theorem Acked.cached_level {s' : TcpSession} {p : TcpMetadata} {w : Int} (acked : Acked p s s')
    (place : w = s'.cc.sndEwn ∧ s.win.sndWnd = s.peerWnd p ∨ w = min s'.cc.cwnd (s.peerWnd p)) :
    ((s.senderAt none).cc.Level s.win.sndWnd →
      ({(s'.senderAt none).cc with ewn := w} : Control).Level (s.peerWnd p)) ∨ s.DsackUndoes p := by
  by_cases undoes : s.DsackUndoes p
  · exact .inr undoes
  · left
    intro level
    have still : s'.cc.sndEwn = min s'.cc.cwnd s.win.sndWnd := (acked.level level).resolve_right undoes
    show w = min s'.cc.cwnd (s.peerWnd p)
    rcases place with ⟨same,unchanged⟩ | fresh
    · rw [same,still,← unchanged]
    · exact fresh

theorem settleAck_processed {s' : TcpSession} (p : TcpMetadata) (core : Core (s.senderAt none))
    (reached : arc s.sndSeq.una p.tcpAck ≤ arc s.sndSeq.una s.sndSeq.max) (acked : Acked p s s') :
    Processed p s (s'.settleAck e p) ∧ (s'.settleAck e p).ts = s.ts ∧
      (s'.settleAck e p).win.rcvWndMax = s.win.rcvWndMax := by
  generalize there : (if arc s.sndSeq.una s.sndSeq.nxt < arc s.sndSeq.una p.tcpAck then p.tcpAck else s.sndSeq.nxt) =
    next
  obtain ⟨caught,sent⟩ := acked.caught core reached there
  obtain ⟨n,l,k,d,q,a,ec,rack,timers,u,ev,consumed,told⟩ := consumePayload_shape (e := e) (s := {s' with
    sndSeq := {s'.sndSeq with nxt := next}}) p sent
  unfold settleAck
  rw [caught,consumed]
  generalize shape : drainTx _ = x
  obtain ⟨w,mx,q',t,taken,place⟩ := takeWindowAndPurge_shape (e := e) (s := x) p
  have peer : x.peerWnd p = s.peerWnd p := by
    rw [← shape]
    show p.tcpWin <<< s'.win.sndWsc = p.tcpWin <<< s.win.sndWsc
    rw [acked.win]
  have rcv : x.rcvSeq.nxt = s.rcvNxtAfter p ∧ x.rcvSeq.count = s.rcvCountAfter p := by
    rw [← shape]
    show s'.rcvNxtAfter p = _ ∧ s'.rcvCountAfter p = _
    unfold rcvNxtAfter rcvCountAfter
    rw [acked.receive.1]
    exact ⟨rfl,rfl⟩
  have placed : w = s'.cc.sndEwn ∧ s.win.sndWnd = s.peerWnd p ∨ w = min s'.cc.cwnd (s.peerWnd p) := by
    rw [peer,← shape] at place
    rw [show s.win.sndWnd = s'.win.sndWnd by rw [acked.win]]
    exact place
  rw [taken]
  refine ⟨{
    sender := by
      refine ⟨s'.sackScoreboard,{(s'.senderAt none).cc with ewn := w},s'.win.sndMss.1,?_,acked.board,acked.bare,
        acked.cached_sound core placed,s'.win.sndMss.2,peerWnd_small core p,acked.cached_level placed⟩
      have told : l.filter Obs.notable = s.log.filter Obs.notable := by
        rw [told,acked.fsm.2.2]
      obtain ⟨tx,written,advertise,ts⟩ := acked.send
      have wsc : s'.win.sndWsc = s.win.sndWsc := by rw [acked.win]
      rw [peer,← shape,← there]
      simp only [senderAt,Sender.acknowledge,drainTx,TxBufferState.drain,TxBufferState.forgetRequestsBelow,txBufferUna,
        acked.edges,acked.fsm.1,told,tx,written,advertise,ts,wsc,add32_arc]
      rfl
    queue := by
      show x.oooPacketQueue.filter _ = _
      rw [rcv.1,← shape]
      show s'.oooPacketQueue.filter _ = _
      rw [acked.fsm.2.1]
    rcvNxt := rcv
    received := by
      rw [← shape]
      show s'.rxBuffer ++ s'.freshData p = _ ∧ s'.delivered ++ s'.freshData p = _ ∧ s'.shut = s.shut
      obtain ⟨rcvSeq,rx,delivered,shut⟩ := acked.receive
      have fresh : s'.freshData p = s.freshData p := by
        unfold freshData overlapPrefix
        rw [rcvSeq,shut]
      rw [rx,delivered,fresh]
      exact ⟨rfl,rfl,shut⟩
    requests := by
      rw [← shape]
      show (s'.tx.forgetRequestsBelow p.tcpAck).retransmitRequestCounter = _
      rw [acked.send.1]
    lastSend := by
      rw [← shape]
      exact acked.lastSend
    mode := by
      rw [← shape]
      exact acked.mode
    point := by
      rw [← shape]
      exact acked.point
    valid := by
      rw [← shape]
      exact acked.valid},?_,?_⟩
  · rw [← shape]
    exact acked.send.2.2.2
  · rw [← shape]
    show s'.win.rcvWndMax = s.win.rcvWndMax
    rw [acked.win]

-- Everything between the cumulative acknowledgement and the replay.
def afterAck (e : Env) (p : TcpMetadata) (s : TcpSession) : TcpSession :=
  ((((s.phase3HarvestRttSamples e p).pruneSackScoreboard).ingestSackInfo p).phase4LossDetectionAndRecoveryExit e
    p).settleAck e p

theorem processAckPacket_eq (replay : TcpMetadata → TcpSession → Outcome) (p : TcpMetadata) :
    s.processAckPacket replay e p =
      if (s.checkPawsAndUpdateTsRecent e p).1 then do
        let s₁ ← ((s.checkPawsAndUpdateTsRecent e p).2.keepaliveArmIdle e).phase1CumAckSideEffects e p
        (s₁.afterAck e p).replayOoo replay
      else .ok (s.checkPawsAndUpdateTsRecent e p).2 := by
  unfold processAckPacket
  rcases s.checkPawsAndUpdateTsRecent e p with ⟨passed,t⟩
  cases passed with
  | false => rfl
  | true => rfl

theorem phases_processed (p : TcpMetadata) (core : Core (s.senderAt none))
    (reached : arc s.sndSeq.una p.tcpAck ≤ arc s.sndSeq.una s.sndSeq.max)
    (sane : s.advertise.sendSack = true → GateSound p.tcpAck s.sndSeq.max p.tcpSackBlocks)
    (passed : (s.checkPawsAndUpdateTsRecent e p).1 = true) :
    ∃ s₁, ((s.checkPawsAndUpdateTsRecent e p).2.keepaliveArmIdle e).phase1CumAckSideEffects e p = .ok s₁ ∧
      Processed p s (s₁.afterAck e p) ∧ (s₁.afterAck e p).ts = (s.checkPawsAndUpdateTsRecent e p).2.ts ∧
      (s₁.afterAck e p).win.rcvWndMax = s.win.rcvWndMax := by
  rcases checkPaws_shape (e := e) (s := s) p with ⟨_,ts,shape,sendTs⟩ | ⟨failed,_⟩
  · obtain ⟨k,t,armed⟩ := keepaliveArmIdle_shape (e := e) (s := {s with ts := ts})
    have same : ({s with ts := ts,keepalive := k,timers := t} : TcpSession).senderAt none = s.senderAt none := by
      simp only [senderAt,sendTs]
    obtain ⟨s₁,first,acked⟩ := ackPhases_ok (e := e) (s := {s with ts := ts,keepalive := k,timers := t}) p
      (same ▸ core) reached sane
    obtain ⟨done,stamp,window⟩ := settleAck_processed (e := e) (s := {s with ts := ts,keepalive := k,timers := t}) p
      (same ▸ core) reached acked
    rw [shape,armed]
    refine ⟨s₁,first,⟨?_,done.queue,done.rcvNxt,done.received,done.requests,done.lastSend,done.mode,done.point,
      done.valid⟩,stamp,window⟩
    obtain ⟨blocks,cc,mss,sender,facts⟩ := done.sender
    rw [same] at sender facts
    exact ⟨blocks,cc,mss,sender,facts⟩
  · rw [failed] at passed
    cases passed

theorem processAckPacket_ok (replay : TcpMetadata → TcpSession → Outcome) (p : TcpMetadata)
    (core : Core (s.senderAt none)) (reached : arc s.sndSeq.una p.tcpAck ≤ arc s.sndSeq.una s.sndSeq.max)
    (sane : s.advertise.sendSack = true → GateSound p.tcpAck s.sndSeq.max p.tcpSackBlocks) :
    (s.checkPawsAndUpdateTsRecent e p).1 = false ∧
      s.processAckPacket replay e p = .ok (s.checkPawsAndUpdateTsRecent e p).2 ∨
    (s.checkPawsAndUpdateTsRecent e p).1 = true ∧
      ∃ s', s.processAckPacket replay e p = s'.replayOoo replay ∧ Processed p s s' := by
  rw [processAckPacket_eq]
  cases passed : (s.checkPawsAndUpdateTsRecent e p).1 with
  | true =>
    right
    obtain ⟨s₁,first,done,_⟩ := phases_processed (e := e) p core reached sane passed
    rw [first]
    exact ⟨rfl,_,rfl,done⟩
  | false => exact .inl ⟨rfl,rfl⟩

theorem checkPaws_sender (core : Core (s.senderAt lent)) (p : TcpMetadata) :
    (s.checkPawsAndUpdateTsRecent e p).2.senderAt lent = s.senderAt lent := by
  rcases checkPaws_shape (e := e) (s := s) p with ⟨_,ts,shape,sendTs⟩ | ⟨_,same | challenged⟩
  · rw [shape]
    simp only [senderAt,sendTs]
  · rw [same]
  · rw [challenged]
    exact emitChallengeAck_sender core

end TcpSession

end PmdPytcp.Tcp
