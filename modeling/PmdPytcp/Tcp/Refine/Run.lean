import PmdPytcp.Tcp.Refine.Packet
import PmdPytcp.Tcp.Assembled

namespace PmdPytcp.Tcp
open Arc

namespace TcpSession

variable {e : Env} {s : TcpSession} {allowed : Slip → Prop}

theorem Ends.quiet {v : Sender} {s' : TcpSession} (ends : Ends allowed v s)
    (same : s'.senderAt none = s.senderAt none) : Ends allowed v s' := by
  obtain ⟨t,path,state,place⟩ := ends
  refine ⟨t,path,state,?_⟩
  rw [same]
  exact place

theorem Ends.core {v : Sender} (ends : Ends allowed v s) (inv : Inv v) : Core (s.senderAt none) :=
  (path_inv ends.path inv).toCore

theorem delayedAck_ends {v : Sender} (inv : Inv v) (ends : Ends allowed v s) : Ends allowed v (s.delayedAck e) :=
  ends.quiet (delayedAck_sender (ends.core inv))

theorem rackReorderTick_ends {v : Sender} (ends : Ends allowed v s) : Ends allowed v (s.rackReorderTick e) := by
  obtain ⟨r,t,shape⟩ := rackReorderTick_shape (e := e) (s := s)
  rw [shape]
  exact ends.quiet rfl

theorem finishClose_path {v : Sender} {new : FsmState} (ends : Ends allowed v s)
    (pair : v.state = .established ∧ new = .finWait1 ∨ v.state = .closeWait ∧ new = .lastAck) :
    Path allowed v ((s.finishClose e new).senderAt none) := by
  unfold finishClose
  split
  · rename_i done
    obtain ⟨t,path,state,place⟩ := ends
    have left : new ≠ .established := by
      rcases pair with ⟨_,rfl⟩ | ⟨_,rfl⟩
      · decide
      · decide
    have empty : t.buffer = [] := by
      rcases place with same | closed
      · rw [← same]
        exact done.2
      · exact (congrArg Sender.buffer closed).symm.trans done.2
    have moved : (s.changeState e new none).senderAt none = t.moveTo new := by
      rw [changeState_none]
      rcases place with same | closed
      · rw [same]
      · rw [closed,Sender.moveTo_closed_moveTo t left]
    rw [moved]
    exact path.tail (Move.finished t new (by rw [state]; exact pair) empty)
  · exact ends.path

theorem expireTo_path (name : TimerName) : Path allowed (s.senderAt none) ((s.expireTo e name).senderAt none) := by
  unfold expireTo
  split
  · rw [changeState_none]
    exact .single (Move.dropped _)
  · exact .refl

theorem dispatchTimer_path (inv : Inv (s.senderAt none)) (roomy : s.Roomy)
    (rewinds : s.RewindsAtIss e → allowed .rewind) :
    Path allowed (s.senderAt none) ((s.dispatchTimer e).senderAt none) := by
  have pumped : Ends allowed (s.senderAt none) (s.retransmitAndPump e) := retransmitAndPump_ends inv roomy rewinds
  unfold dispatchTimer
  split
  · exact .refl
  · exact .refl
  · exact pumped.path
  · exact pumped.path
  · exact pumped.path
  · exact pumped.path
  · exact pumped.path
  · rename_i here
    refine finishClose_path ?_ (.inl ⟨here,rfl⟩)
    exact tlpPtoTick_ends inv (rackReorderTick_ends (keepaliveTick_ends (delayedAck_ends inv pumped)))
  · rename_i here
    exact finishClose_path (delayedAck_ends inv pumped) (.inr ⟨here,rfl⟩)
  · exact expireTo_path _
  · exact expireTo_path _

theorem fireTimer_path (inv : Inv (s.senderAt none)) (roomy : s.Roomy)
    (rewinds : s.RewindsAtIss e → allowed .rewind) :
    Path allowed (s.senderAt none) ((s.fireTimer e).senderAt none) := by
  unfold fireTimer
  split
  · unfold tcpFsmTimer
    rw [pumpTail_sender]
    exact dispatchTimer_path (s := {s with timers := {s.timers with serviceHandle := none}}) inv roomy rewinds
  · exact .refl

theorem dispatchIcmp_path (inv : Inv (s.senderAt none)) (m : IcmpMetadata) :
    Path allowed (s.senderAt none) ((s.dispatchIcmp e m).senderAt none) := by
  have synchronized : Path allowed (s.senderAt none) ((s.synchronizedIcmp e m).senderAt none) := by
    unfold synchronizedIcmp
    split
    · exact applyPmtuUpdate_path inv _ _
    · exact .refl
  unfold dispatchIcmp
  split
  · exact .refl
  · exact .refl
  · unfold synSentIcmp
    split
    · split
      · rw [changeState_none]
        exact .single (Move.dropped _)
      · split
        · exact .refl
        · split
          · exact .refl
          · exact .refl
    · exact applyPmtuUpdate_path inv _ _
    · exact .refl
  · exact synchronized

theorem abort_path (inv : Inv (s.senderAt none)) : Path allowed (s.senderAt none) ((s.abort e).senderAt none) := by
  have reset : ∀ t : TcpSession, t.senderAt none = s.senderAt none →
      Path allowed (s.senderAt none) ((({t with
        connectionError := .canceled,eventRxBuffer := true
        eventConnect := t.eventConnect + 1} : TcpSession).changeState e .closed none).senderAt none) := by
    intro t same
    rw [changeState_none]
    show Path allowed _ ((t.senderAt none).moveTo .closed)
    rw [same]
    exact .single (Move.dropped _)
  have sent : (s.transmitPacket e {flagRst := true,flagAck := true,seq := some s.sndSeq.nxt}).senderAt none =
      s.senderAt none := transmitPacket_control inv.toCore _ rfl rfl
  unfold abort
  dsimp only
  split
  · exact reset _ sent
  · exact reset _ sent
  · exact reset _ sent
  · exact reset _ sent
  · exact reset _ sent
  · exact reset s rfl

theorem closeCall_path (early : s.state = .synRcvd → allowed .earlyClose) :
    Path allowed (s.senderAt none) ((s.closeCall e).senderAt none) := by
  unfold closeCall
  split
  · rw [changeState_none]
    exact .single (Move.dropped _)
  · rw [changeState_none]
    exact .single (Move.dropped _)
  · rename_i here
    rw [changeState_none]
    exact .single (Move.earlyClose (s.senderAt none) here (early here))
  all_goals exact .refl

theorem closeSyscall_path (early : s.state = .synRcvd → allowed .earlyClose) :
    Path allowed (s.senderAt none) ((s.tcpFsmSyscall e .close).senderAt none) := by
  unfold tcpFsmSyscall
  rw [pumpTail_sender]
  exact closeCall_path early

theorem send_path (data : List UInt8) : Path allowed (s.senderAt none) ((s.send e data).senderAt none) := by
  unfold send
  split
  · exact .refl
  · split
    · rename_i open_
      have kicked : ∀ t : TcpSession, (t.kickPump e).senderAt none = t.senderAt none := by
        intro t
        unfold kickPump
        split <;> rfl
      rw [kicked]
      have transfer : transferring s.state = true := by simpa [transferring] using open_
      exact .single (Move.append (s.senderAt none) data transfer)
    · exact .refl

theorem receive_sender (byteCount : Option Nat) : (s.receive byteCount).2.senderAt none = s.senderAt none := by
  unfold receive
  split
  · rfl
  · split
    · rfl
    · split
      · rfl
      · rfl

theorem setOption_sender (o : SockOption) : (s.setOption o).senderAt none = s.senderAt none := by
  cases o <;> rfl

-- What an event must not do for the sender to stay within its laws at all.
def TameEvent (input : Env × Event) (s : TcpSession) : Prop :=
  match input.2 with
  | .packet p => s.Tame p
  | .tick => s.Roomy
  | _ => True

instance (input : Env × Event) : Decidable (s.TameEvent input) :=
  match input with
  | (_,.packet p) => inferInstanceAs (Decidable (s.Tame p))
  | (_,.tick) => inferInstanceAs (Decidable s.Roomy)
  | (_,.icmp _) | (_,.close) | (_,.abort) | (_,.shutdownRead) | (_,.shutdownWrite) | (_,.send _) | (_,.receive _)
  | (_,.option _) => .isTrue trivial

def Shows (input : Env × Event) (s : TcpSession) (slip : Slip) : Prop :=
  match input.2 with
  | .packet p =>
    slip = .unlevel ∧ (s.ecnPrologue p).Unlevels input.1 p ∨ slip = .thirdLeg ∧ s.HalfOpens input.1 p ∨
      slip = .unsentFin ∧ s.FinTooEarly p
  | .tick => slip = .rewind ∧ s.RewindsAtIss input.1
  | .close | .shutdownWrite => slip = .earlyClose ∧ s.state = .synRcvd
  | _ => False

instance (input : Env × Event) (slip : Slip) : Decidable (s.Shows input slip) :=
  match input with
  | (e,.packet p) => inferInstanceAs (Decidable (_ ∧ (s.ecnPrologue p).Unlevels e p ∨ _ ∧ s.HalfOpens e p ∨
      _ ∧ s.FinTooEarly p))
  | (e,.tick) => inferInstanceAs (Decidable (_ ∧ s.RewindsAtIss e))
  | (_,.close) | (_,.shutdownWrite) => inferInstanceAs (Decidable (_ ∧ s.state = .synRcvd))
  | (_,.icmp _) | (_,.abort) | (_,.shutdownRead) | (_,.send _) | (_,.receive _) | (_,.option _) => .isFalse id

theorem permits_of_shows {p : TcpMetadata} (shows : ∀ slip, s.Shows (e,.packet p) slip → allowed slip) :
    (s.ecnPrologue p).Permits allowed e p := {
  unlevel := fun slips => shows .unlevel (.inl ⟨rfl,slips⟩)
  thirdLeg := by
    intro slips
    refine shows .thirdLeg (.inr (.inl ⟨rfl,?_⟩))
    obtain ⟨ec,a,shape⟩ := ecnPrologue_shape (s := s) p
    rw [shape] at slips
    exact slips
  unsentFin := by
    intro slips
    refine shows .unsentFin (.inr (.inr ⟨rfl,?_⟩))
    obtain ⟨ec,a,shape⟩ := ecnPrologue_shape (s := s) p
    rw [shape] at slips
    exact slips}

theorem handle_path (event : Event) (inv : Inv (s.senderAt none)) (tame : s.TameEvent (e,event))
    (shows : ∀ slip, s.Shows (e,event) slip → allowed slip) :
    ∃ s', s.handle e event = .ok s' ∧ Path allowed (s.senderAt none) (s'.senderAt none) := by
  unfold handle
  cases event with
  | packet p => exact tcpFsmPacket_path inv tame (permits_of_shows shows)
  | tick => exact ⟨_,rfl,fireTimer_path inv tame (fun rewinds => shows .rewind ⟨rfl,rewinds⟩)⟩
  | icmp m =>
    refine ⟨_,rfl,?_⟩
    unfold tcpFsmIcmp
    rw [pumpTail_sender]
    exact dispatchIcmp_path inv m
  | close => exact ⟨_,rfl,closeSyscall_path (fun here => shows .earlyClose ⟨rfl,here⟩)⟩
  | abort =>
    refine ⟨_,rfl,?_⟩
    unfold tcpFsmSyscall
    rw [pumpTail_sender]
    exact abort_path inv
  | shutdownRead =>
    refine ⟨_,rfl,?_⟩
    unfold shutdownRead
    split
    · exact .refl
    · exact .refl
  | shutdownWrite =>
    refine ⟨_,rfl,?_⟩
    unfold shutdownWrite
    split
    · exact .refl
    · exact closeSyscall_path (s := {s with shut := {s.shut with wr := true}})
        (fun here => shows .earlyClose ⟨rfl,here⟩)
  | send data => exact ⟨_,rfl,send_path data⟩
  | receive byteCount => exact ⟨_,rfl,receive_sender (s := s) byteCount ▸ .refl⟩
  | option o => exact ⟨_,rfl,setOption_sender (s := s) o ▸ .refl⟩

end TcpSession

theorem Opening.sndMss_small (o : Opening) : o.sndMss.1 ≤ 0xFFFF := by
  unfold sndMss
  split
  · exact o.mssCeiling_small
  · exact (by decide : (536 : Int) ≤ 0xFFFF)

theorem Opening.core (o : Opening) (data : List UInt8) : Core ((o.session.preload data).senderAt none) := by
  have small := o.sndMss_small
  have positive := o.sndMss.2
  have cap : windowMax = 0xFFFF * 2^14 := rfl
  exact {
    flight := by
      show arc o.iss o.iss ≤ flightMax
      simp
    nxt := le_refl _
    board := Board.nil _ _
    bare := fun _ => rfl
    mss := positive
    wnd := by
      show o.sndMss.1.toNat ≤ windowMax
      omega
    wsc := by
      show 0 ≤ 14
      decide
    cc := {
      cwnd := positive
      ssthresh := by
        show (0 : Int) < ssthreshInf
        decide
      ewn := by
        show 0 ≤ o.sndMss.1 ∧ o.sndMss.1 ≤ windowMax
        omega
      frto := by
        intro active
        cases active
      snapshot := by
        intro valid
        cases valid
      recovering := fun under => absurd rfl under}}

theorem opened_sender {s : TcpSession} (opened : Opened s) : ∃ (o : Opening) (data : List UInt8) (new : FsmState),
    (new = .listen ∧ data = [] ∨ new = .synSent) ∧
      s.senderAt none = ((o.session.preload data).senderAt none).moveTo new := by
  cases opened with
  | listening o e =>
    refine ⟨o,[],.listen,.inl ⟨rfl,rfl⟩,?_⟩
    unfold TcpSession.tcpFsmSyscall
    rw [TcpSession.pumpTail_sender]
    exact TcpSession.changeState_none (e := e) (s := o.session) .listen
  | connecting o e data =>
    refine ⟨o,data,.synSent,.inr rfl,?_⟩
    unfold TcpSession.tcpFsmSyscall
    rw [TcpSession.pumpTail_sender]
    exact TcpSession.changeState_none (e := e) (s := o.session.preload data) .synSent

theorem opened_inv {s : TcpSession} (opened : Opened s) : Inv (s.senderAt none) := by
  obtain ⟨o,data,new,fresh,sender⟩ := opened_sender opened
  have small := o.sndMss_small
  have positive := o.sndMss.2
  rw [sender]
  exact {moveTo_core (o.core data) new with
    finSent := by
      intro sent
      cases sent
    handshake := fun _ => ⟨rfl,rfl,rfl⟩
    unanswered := fun _ => ⟨o.sackUnsettled,rfl⟩
    listening := fun _ => rfl
    connecting := by
      intro _
      refine ⟨small,?_,?_⟩
      · show o.sndMss.1 ≤ (o.sndMss.1.toNat : Int)
        omega
      · show arc o.iss o.iss ≤ _
        simp}

-- The conditions of a law: the events are tame and show none of its slips.
def Keeps (forbidden : List Slip) (input : Env × Event) (s : TcpSession) : Prop :=
  s.TameEvent input ∧ ∀ slip ∈ forbidden, ¬s.Shows input slip

instance (forbidden : List Slip) (input : Env × Event) (s : TcpSession) : Decidable (Keeps forbidden input s) :=
  inferInstanceAs (Decidable (_ ∧ ∀ slip ∈ forbidden, ¬s.Shows input slip))

-- The same, and no segment sent is refused by the assembler.
def KeepsSending (forbidden : List Slip) (input : Env × Event) (s : TcpSession) : Prop :=
  Keeps forbidden input s ∧ s.Sends input

instance (forbidden : List Slip) (input : Env × Event) (s : TcpSession) : Decidable (KeepsSending forbidden input s) :=
  inferInstanceAs (Decidable (_ ∧ _))

theorem next_path {forbidden : List Slip} {s : TcpSession} {input : Env × Event} (inv : Inv (s.senderAt none))
    (keeps : Keeps forbidden input s) : s.handle input.1 input.2 = .ok (s.next input) ∧
      Path (fun slip => slip ∉ forbidden) (s.senderAt none) ((s.next input).senderAt none) := by
  obtain ⟨s',result,path⟩ := @TcpSession.handle_path _ _ (fun slip => slip ∉ forbidden) input.2 inv keeps.1
    (fun slip shown barred => keeps.2 slip barred shown)
  have next : s.next input = s' := by
    unfold TcpSession.next
    rw [result]
    rfl
  rw [next]
  exact ⟨result,path⟩

theorem reached_law {start : TcpSession → Prop} {forbidden : List Slip} (law : Sender → Prop) {s : TcpSession}
    (opens : ∀ s, start s → Opened s) (initial : ∀ s, start s → law (s.senderAt none))
    (kept : ∀ a b, Move (fun slip => slip ∉ forbidden) a b → Inv a → law a → law b)
    (reached : Runs.Reached start TcpSession.next (Keeps forbidden) s) :
    Inv (s.senderAt none) ∧ law (s.senderAt none) := by
  refine Runs.Reached.invariant (fun s => Inv (s.senderAt none) ∧ law (s.senderAt none)) ?_ ?_ reached
  · intro s opened
    exact ⟨opened_inv (opens s opened),initial s opened⟩
  · intro s input both keeps
    have path := (next_path both.1 keeps).2
    exact Runs.path_keeps (fun v => Inv v ∧ law v)
      (fun a b step before => ⟨move_keeps step before.1,kept a b step before.1 before.2⟩) path both

def listening : TcpSession := ({iss := 1000} : Opening).session.tcpFsmSyscall {nowMs := 10} .listen

theorem listening_opened : Opened listening := .listening {iss := 1000} {nowMs := 10}

def peerAck (seq ack : Seq32) (blocks : List (Seq32 × Seq32)) : TcpMetadata :=
  {tcpFlagAck := true,tcpSeq := seq,tcpAck := ack,tcpWin := 65535,tcpSackBlocks := blocks}

def peerSyn (sackperm : Bool) : TcpMetadata :=
  {tcpFlagSyn := true,tcpSeq := 500,tcpAck := 0,tcpWin := 65535,tcpMss := 1460,tcpSackperm := sackperm}

end PmdPytcp.Tcp
