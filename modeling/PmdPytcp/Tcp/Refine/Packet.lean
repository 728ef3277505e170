import PmdPytcp.Tcp.Refine.Handshake

namespace PmdPytcp.Tcp
open Arc

namespace TcpSession

variable {e : Env} {s : TcpSession} {allowed : Slip → Prop} {p : TcpMetadata} {replay : Replay}

theorem dispatch_handled (replays : Replays allowed e replay) (inv : Inv (s.senderAt none)) (tame : s.Tame p)
    (permits : s.Permits allowed e p) : Handled allowed p s (s.dispatchPacket replay e p) := by
  unfold dispatchPacket
  split
  · exact handled_quiet rfl
  · exact listen_handled inv ‹_›
  · exact synSent_handled inv ‹_›
  · exact synRcvd_handled inv tame permits ‹_›
  · exact established_handled replays inv ‹_› tame permits
  · exact finWait1_handled replays inv tame permits ‹_›
  · exact finWait2_handled replays inv tame permits ‹_›
  · exact closing_handled replays inv tame permits ‹_›
  · exact closeWait_handled replays inv ‹_› tame permits
  · exact lastAck_handled inv permits ‹_›
  · exact timeWait_handled inv ‹_›

theorem ecnEventSsthresh_positive (flight : Nat) (mss : Pos) : 0 < computeEcnEventSsthresh flight mss := by
  have positive := mss.2
  unfold computeEcnEventSsthresh
  omega

theorem ecnPrologue_path (inv : Inv (s.senderAt none)) :
    Path allowed (s.senderAt none) ((s.ecnPrologue p).senderAt none) := by
  obtain ⟨ec,a,shape⟩ := ecnPrologue_shape (s := s) p
  rw [shape]
  split
  · have positive := ecnEventSsthresh_positive s.sndSeq.flight s.win.sndMss
    have wnd : s.win.sndWnd ≤ windowMax := inv.wnd
    refine regulate_path inv rfl ?_ inv.wnd (.inr rfl) (fun _ => ⟨le_refl _,rfl⟩) (.inl fun _ => rfl)
    refine {inv.cc with
      cwnd := positive
      ssthresh := positive
      ewn := ?_}
    show 0 ≤ min (computeEcnEventSsthresh s.sndSeq.flight s.win.sndMss) s.win.sndWnd ∧
      min (computeEcnEventSsthresh s.sndSeq.flight s.win.sndMss) s.win.sndWnd ≤ windowMax
    omega
  · exact .refl

theorem ecnPrologue_frame : (s.ecnPrologue p).state = s.state ∧ (s.ecnPrologue p).sndSeq = s.sndSeq ∧
    (s.ecnPrologue p).oooPacketQueue = s.oooPacketQueue ∧ (s.ecnPrologue p).advertise = s.advertise ∧
    (s.ecnPrologue p).tx = s.tx := by
  obtain ⟨ec,a,shape⟩ := ecnPrologue_shape (s := s) p
  rw [shape]
  exact ⟨rfl,rfl,rfl,rfl,rfl⟩

theorem Tame.prologue (tame : s.Tame p) : (s.ecnPrologue p).Tame p := by
  obtain ⟨ec,a,shape⟩ := ecnPrologue_shape (s := s) p
  rw [shape]
  exact ⟨tame.sack,tame.third,tame.wrapped⟩

theorem Handled.following {s₁ : TcpSession} {out : Outcome} (before : Path allowed (s.senderAt none) (s₁.senderAt none))
    (state : s₁.state = s.state) (edges : s₁.sndSeq = s.sndSeq) (queue : s₁.oooPacketQueue = s.oooPacketQueue)
    (handled : Handled allowed p s₁ out) : Handled allowed p s out := by
  obtain ⟨s',result,path,within⟩ := handled
  refine ⟨s',result,before.trans path,?_⟩
  intro only settled notLast
  rw [← state] at settled notLast
  have after := within only settled notLast
  refine ⟨before.trans path,state ▸ after.state,?_,edges ▸ after.missed⟩
  intro final
  have kept := after.edges (state ▸ final)
  unfold Edges awaiting at kept ⊢
  rw [edges,queue] at kept
  exact kept

theorem Handled.map {out : Outcome} {f : TcpSession → TcpSession} (handled : Handled allowed p s out)
    (quiet : ∀ t : TcpSession, (f t).senderAt none = t.senderAt none) :
    Handled allowed p s (do
      let s ← out
      .ok (f s)) := by
  obtain ⟨s',result,path,within⟩ := handled
  have same := quiet s'
  rw [result]
  refine ⟨f s',rfl,same ▸ path,?_⟩
  intro only settled notLast
  have after := within only settled notLast
  have state : (f s').state = s'.state := congrArg Sender.state same
  have una : (f s').sndSeq.una = s'.sndSeq.una := congrArg Sender.una same
  have fin : (f s').sndSeq.fin = s'.sndSeq.fin := congrArg Sender.fin same
  refine ⟨same ▸ path,state ▸ after.state,?_,?_⟩
  · intro final
    exact (after.edges final).carried same rfl rfl rfl rfl
  · rw [state,una,fin]
    exact after.missed

theorem pumpTail_sender (entry : FsmState) (external : Bool) :
    (s.pumpTail e entry external).senderAt none = s.senderAt none := by
  obtain ⟨t,shape⟩ := pumpTail_shape (e := e) (s := s) entry external
  rw [shape]
  rfl

theorem fsmPacket_handled (n : Nat) : Replays allowed e (fsmPacket e n) := by
  induction n with
  | zero =>
    intro q s inv tame permits
    exact handled_quiet rfl
  | succ n ih =>
    intro q s inv tame permits
    obtain ⟨state,edges,queue,_⟩ := ecnPrologue_frame (s := s) (p := q)
    have before := @ecnPrologue_path _ allowed q inv
    unfold fsmPacket
    refine Handled.map ?_ (fun t => pumpTail_sender s.state true)
    refine .following before state edges queue ?_
    exact dispatch_handled ih (path_inv before inv) tame.prologue permits

theorem tcpFsmPacket_path (inv : Inv (s.senderAt none)) (tame : s.Tame p)
    (permits : (s.ecnPrologue p).Permits allowed e p) :
    ∃ s', s.tcpFsmPacket e p = .ok s' ∧ Path allowed (s.senderAt none) (s'.senderAt none) := by
  obtain ⟨s',result,path,_⟩ := @fsmPacket_handled e allowed (s.oooPacketQueue.length + 1) p s inv tame
    permits
  exact ⟨s',result,path⟩

end TcpSession

end PmdPytcp.Tcp
