import PmdPytcp.Tcp.Laws.Stream

namespace PmdPytcp.Tcp
open Arc TcpSession

-- No octet beyond the window that held when it went out, but for the probe of
-- a closed window.
def Within : Obs → Prop
  | .sent seg una _ wnd _ => seg.data ≠ [] → arc una seg.seq + seg.data.length ≤ wnd ∨ wnd = 0 ∧ seg.data.length = 1
  | _ => True

instance (obs : Obs) : Decidable (Within obs) :=
  match obs with
  | .sent seg .. => inferInstanceAs (Decidable (seg.data ≠ [] → _ ∨ _ ∧ _))
  | .control _ | .moved .. => .isTrue trivial

structure WindowLaw (s : Sender) : Prop where
  level : s.cc.Level s.wnd
  mark : transferring s.state = true → s.seqMod = s.una
  log : ∀ obs ∈ s.log, Within obs

section Law
variable {s t : Sender}

theorem Control.Level.leave {wnd : Nat} {cc : Control} (level : cc.Level wnd) : cc.leaveRecovery.Level wnd := level

theorem moveTo_level (new : FsmState) (level : s.cc.Level s.wnd) : (s.moveTo new).cc.Level s.wnd := by
  show (if s.state = .established ∧ new ≠ .established then s.cc.leaveRecovery else s.cc).Level s.wnd
  split
  · exact level.leave
  · exact level

-- The window a level cache grants is no larger than the peer's, and it is
-- closed only when the peer's is.
theorem Sender.Grants.within (inv : Inv s) (level : s.cc.Level s.wnd) {limit : Int} (granted : s.Grants limit) :
    limit ≤ s.wnd ∧ (limit = 0 → s.wnd = 0) := by
  have positive := inv.cc.cwnd
  have level : s.cc.ewn = min s.cc.cwnd s.wnd := level
  rcases granted with same | ⟨x,above,same⟩
  · omega
  · omega

theorem WindowLaw.sent (law : WindowLaw s) {seg : Segment} (level : (s.emit seg).cc.Level (s.emit seg).wnd)
    (mark : transferring s.state = true → (s.emit seg).seqMod = s.una)
    (within : seg.data ≠ [] → arc s.una seg.seq + seg.data.length ≤ s.wnd ∨ s.wnd = 0 ∧ seg.data.length = 1) :
    WindowLaw (s.emit seg) := by
  refine ⟨level,mark,?_⟩
  intro obs member
  rcases List.mem_append.mp member with before | last
  · exact law.log obs before
  · rw [List.mem_singleton.mp last]
    exact within

theorem moved_within {log : List Obs} {old new : FsmState} {cause : Option Seq32} (fine : ∀ obs ∈ log, Within obs) :
    ∀ obs ∈ log ++ [.moved old new cause], Within obs := by
  intro obs member
  rcases List.mem_append.mp member with before | last
  · exact fine obs before
  · rw [List.mem_singleton.mp last]
    trivial

theorem WindowLaw.wound (law : WindowLaw s) {new : FsmState} {a : Seq32} (next : transferring new = false) :
    WindowLaw (s.moveBy new a) := by
  refine ⟨moveTo_level new law.level,?_,moved_within law.log⟩
  intro moving
  have moving : transferring new = true := moving
  rw [next] at moving
  cases moving

theorem WindowLaw.moved (law : WindowLaw s) {new : FsmState} (next : transferring new = false) :
    WindowLaw (s.moveTo new) := by
  refine ⟨moveTo_level new law.level,?_,law.log⟩
  intro moving
  have moving : transferring new = true := moving
  rw [next] at moving
  cases moving

theorem window_law_kept {allowed : Slip → Prop} (step : Move allowed s t) (unlevel : ¬allowed .unlevel)
    (third : ¬allowed .thirdLeg) (rewind : ¬allowed .rewind) (inv : Inv s) (law : WindowLaw s) : WindowLaw t := by
  cases step with
  | aim | sacked | queue => exact ⟨law.level,law.mark,law.log⟩
  | append => exact ⟨law.level,law.mark,law.log⟩
  | syn seg opening kind first load =>
    have hand : handshaking s.state = true := by
      rcases opening with here | here
      · rw [here]; rfl
      · rw [here]; rfl
    refine law.sent law.level ?_ ?_
    · intro moving
      rw [(handshaking_still hand).1] at moving
      cases moving
    · intro loaded
      rcases load with bare | ⟨asked,few,_⟩
      · exact absurd bare loaded
      · have fits := (inv.connecting asked).2.1
        rw [first,(inv.handshake hand).1,arc_self]
        omega
  | data seg limit transfer kind here granted near loaded content fits =>
    have mark := law.mark transfer
    obtain ⟨most,closed⟩ := granted.within inv law.level
    refine law.sent law.level ?_ ?_
    · intro _
      show add32 s.seqMod (seg.flagSyn.toNat + seg.flagFin.toNat) = s.una
      rw [kind.1,kind.2]
      exact (add32_zero _).trans mark
    · intro _
      rw [here,← mark]
      rcases fits with inside | ⟨none,one⟩
      · left
        omega
      · exact .inr ⟨closed none,one⟩
  | fin seg ending kind here bare inside again =>
    refine law.sent law.level ?_ (fun loaded => absurd bare loaded)
    intro moving
    simp only [TcpSession.finState,decide_eq_true_eq] at ending
    rcases ending with here | here | here <;> rw [here] at moving <;> cases moving
  | acknowledge a blocks cc mss wnd settled reached board bare sound positive small level =>
    exact ⟨(level.resolve_right unlevel) law.level,fun _ => rfl,law.log⟩
  | regulate cc mss wnd sound positive small calm connecting level =>
    exact ⟨(level.resolve_right unlevel) law.level,law.mark,law.log⟩
  | walkBack settled =>
    refine ⟨law.level,?_,law.log⟩
    intro moving
    have moving : transferring s.state = true := moving
    obtain ⟨past,open'⟩ := transferring_plain moving
    rcases settled past with sent | slipped
    · exact inv.early open' sent
    · exact absurd slipped rewind
  | negotiate mss wnd wsc sendSack sendTs cc fresh taught =>
    have learned : WindowLaw (s.learn mss wnd wsc sendSack sendTs cc) := ⟨taught.level,law.mark,law.log⟩
    exact learned.moved rfl
  | connected a mss wnd wsc sendSack sendTs cc asked fresh reached taught =>
    exact ⟨moveTo_level (s := (s.acknowledge a [] cc mss wnd).learn mss wnd wsc sendSack sendTs cc) _ taught.level,
      fun _ => rfl,moved_within law.log⟩
  | accepted a blocks cc mss wnd asked fresh reached board bare taught =>
    exact ⟨moveTo_level (s := s.acknowledge a blocks cc mss wnd) _ taught.level,fun _ => rfl,moved_within law.log⟩
  | admitted a cc asked slipped sound level calm => exact absurd slipped third
  | peerClosed a asked =>
    refine ⟨moveTo_level (s := s) .closeWait law.level,?_,moved_within law.log⟩
    intro _
    exact law.mark (by rw [asked]; rfl)
  | finished new pair empty =>
    rcases pair with ⟨_,rfl⟩ | ⟨_,rfl⟩
    · exact law.moved rfl
    · exact law.moved rfl
  | earlyClose asked slipped => exact law.moved rfl
  | finAcked new a pair covered =>
    rcases pair with ⟨_,rfl | rfl⟩ | ⟨_,rfl⟩ | ⟨_,rfl⟩ <;> exact law.wound rfl
  | drifts new a pair =>
    rcases pair with ⟨_,rfl⟩ | ⟨_,rfl | rfl⟩ | ⟨_,rfl⟩ <;> exact law.wound rfl
  | dropped => exact law.moved rfl
  | reused iss mss wnd wsc sendSack sendTs cc asked taught =>
    have begun : WindowLaw ((s.restart iss).learn mss wnd wsc sendSack sendTs cc) := by
      refine ⟨taught.level,fun _ => rfl,?_⟩
      intro obs member
      cases member
    exact begun.moved rfl

end Law

theorem opened_window {s : TcpSession} (opened : Opened s) : WindowLaw (s.senderAt none) := by
  obtain ⟨o,data,new,fresh,sender⟩ := opened_sender opened
  have still : transferring new = false := by
    rcases fresh with ⟨rfl,_⟩ | rfl
    · rfl
    · rfl
  have begun : WindowLaw ((o.session.preload data).senderAt none) := by
    have positive := o.sndMss.2
    refine ⟨?_,fun _ => rfl,?_⟩
    · show o.sndMss.1 = min o.sndMss.1 (o.sndMss.1.toNat : Int)
      omega
    · intro obs member
      cases member
  rw [sender]
  exact begun.moved still

-- The peer shrinks its window to two octets by an ACK without data, and the
-- three octets written afterwards all go out.
def shrunkRun : List (Env × Event) :=
  [({nowMs := 20},.packet (peerSyn false)),
   ({nowMs := 21},.tick),
   ({nowMs := 30},.packet (peerAck 501 1001 [])),
   ({nowMs := 35},.packet {tcpFlagAck := true,tcpSeq := 501,tcpAck := 1001,tcpWin := 2}),
   ({nowMs := 40},.send [1,2,3]),
   ({nowMs := 41},.tick)]

end PmdPytcp.Tcp
