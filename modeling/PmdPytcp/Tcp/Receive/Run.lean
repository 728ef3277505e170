import PmdPytcp.Tcp.Receive.Packet

namespace PmdPytcp.Tcp
open Arc

namespace Event

def hand : Event → Hand
  | .packet p => .fresh p
  | _ => .idle

end Event

namespace TcpSession

variable {o : Occasion} {e : Env} {s s' : TcpSession} {hand : Hand}

theorem finishClose_told {new : FsmState} (late : handshaking new = false) :
    Told o s (s.finishClose e new) := by
  unfold finishClose
  split
  · exact changeState_late new none late
  · exact .rfl

theorem expireTo_told (name : TimerName) : Told o s (s.expireTo e name) := by
  unfold expireTo
  split
  · exact changeState_late .closed none rfl
  · exact .rfl

theorem retransmitAndPump_told : Told o s (s.retransmitAndPump e) :=
  retransmitPacketTimeout_told.trans transmitData_told

theorem dispatchTimer_told : Told o s (s.dispatchTimer e) := by
  have pumped := retransmitAndPump_told (o := o) (e := e) (s := s)
  unfold dispatchTimer
  split
  · exact .rfl
  · exact .rfl
  · exact pumped
  · exact pumped
  · exact pumped
  · exact pumped
  · exact pumped
  · have ticked := (pumped.trans (delayedAck_told (e := e))).trans (keepaliveTick_told (e := e))
    have reordered := ticked.then (rackReorderTick_receiver (e := e))
    exact (reordered.trans tlpPtoTick_told).trans (finishClose_told rfl)
  · exact (pumped.trans delayedAck_told).trans (finishClose_told rfl)
  · exact expireTo_told _
  · exact expireTo_told _

theorem fireTimer_told : Told o s (s.fireTimer e) := by
  unfold fireTimer
  split
  · have spent : ({s with timers := {s.timers with serviceHandle := none}} : TcpSession).receiver .idle =
      s.receiver .idle := rfl
    unfold tcpFsmTimer
    exact (Told.behind spent dispatchTimer_told).then (pumpTail_receiver _ _)
  · exact .rfl

theorem applyPmtuUpdate_receiver (mtu : Nat) (version : Plpmtud.IpVersion) :
    (s.applyPmtuUpdate e mtu version).receiver hand = s.receiver hand := by
  unfold applyPmtuUpdate
  dsimp only
  cases decide ((pmtuMss mtu version).1 < s.win.sndMss.1) with
  | false => rfl
  | true =>
    rw [if_pos rfl]
    dsimp only
    split <;> rfl

theorem dispatchIcmp_told (m : IcmpMetadata) : Told o s (s.dispatchIcmp e m) := by
  have synchronized : Told o s (s.synchronizedIcmp e m) := by
    unfold synchronizedIcmp
    split
    · exact .same (applyPmtuUpdate_receiver _ _)
    · exact .rfl
  unfold dispatchIcmp
  split
  · exact .rfl
  · exact .rfl
  · unfold synSentIcmp
    split
    · split
      · have noted : ({s with
            connectionError := .refused,eventRxBuffer := true
            eventConnect := s.eventConnect + 1} : TcpSession).receiver .idle = s.receiver .idle := rfl
        exact .behind noted (changeState_late .closed none rfl)
      · split
        · exact .same (Eq.refl _)
        · split
          · exact .same (Eq.refl _)
          · exact .rfl
    · exact .same (applyPmtuUpdate_receiver _ _)
    · exact .rfl
  · exact synchronized

theorem abort_told : Told o s (s.abort e) := by
  have closed : ∀ t : TcpSession, Told o t (({t with
      connectionError := .canceled,eventRxBuffer := true
      eventConnect := t.eventConnect + 1} : TcpSession).changeState e .closed none) := by
    intro t
    have noted : ({t with
        connectionError := .canceled,eventRxBuffer := true
        eventConnect := t.eventConnect + 1} : TcpSession).receiver .idle = t.receiver .idle := rfl
    exact .behind noted (changeState_late .closed none rfl)
  have sent := transmitPacket_told (o := o) (e := e) (s := s)
    {flagRst := true,flagAck := true,seq := some s.sndSeq.nxt}
  unfold abort
  dsimp only
  split
  · exact sent.trans (closed _)
  · exact sent.trans (closed _)
  · exact sent.trans (closed _)
  · exact sent.trans (closed _)
  · exact sent.trans (closed _)
  · exact closed s

theorem closeCall_told : Told o s (s.closeCall e) := by
  have canceled : ({s with connectionError := .canceled,eventConnect := s.eventConnect + 1} : TcpSession).receiver
    .idle = s.receiver .idle := rfl
  unfold closeCall
  split
  · exact changeState_late .closed none rfl
  · exact .behind canceled (changeState_late .closed none rfl)
  · exact .behind canceled (changeState_late .finWait1 none rfl)
  all_goals exact .same (Eq.refl _)

theorem closeSyscall_told : Told o s (s.tcpFsmSyscall e .close) := by
  unfold tcpFsmSyscall
  exact Told.then closeCall_told (pumpTail_receiver _ _)

theorem send_told (data : List UInt8) : Told o s (s.send e data) := by
  unfold send
  split
  · exact .rfl
  · split
    · unfold kickPump
      split <;> exact .same (Eq.refl _)
    · exact .rfl

theorem shutdownRead_told : Told o s s.shutdownRead := by
  unfold shutdownRead
  split
  · exact .refl
  · exact .single (.close _ rfl)

theorem shutdownWrite_told : Told o s (s.shutdownWrite e) := by
  unfold shutdownWrite
  split
  · exact .rfl
  · have noted : ({s with shut := {s.shut with wr := true}} : TcpSession).receiver .idle = s.receiver .idle := rfl
    exact .behind noted closeSyscall_told

theorem receive_told (byteCount : Option Nat) : Told o s (s.receive byteCount).2 := by
  unfold receive
  split
  · exact .refl
  · split
    · exact .refl
    · split
      · exact .refl
      · exact .single (.read _ _ rfl)

def occasion (lossy : Prop) (input : Env × Event) (s : TcpSession) : Occasion where
  lossy := lossy
  arrived := fun p => input.2 = .packet p
  refused := ∃ p, input.2 = .packet p ∧ s.Refuses p

def Untouched (s : TcpSession) : Prop := s.state = .listen ∨ s.state = .synSent → s.oooPacketQueue = []

theorem call_told (event : Event) (call : ∀ p, event ≠ .packet p) : Told o s (s.next (e,event)) := by
  unfold next handle
  cases event with
  | packet p => exact absurd rfl (call p)
  | tick => exact fireTimer_told
  | icmp m => exact Told.then (dispatchIcmp_told m) (pumpTail_receiver _ _)
  | close => exact closeSyscall_told
  | abort => exact @Told.then _ _ (s.abort e) _ abort_told (pumpTail_receiver _ _)
  | shutdownRead => exact shutdownRead_told
  | shutdownWrite => exact shutdownWrite_told
  | send data => exact send_told data
  | receive byteCount => exact receive_told byteCount
  | option o => cases o <;> exact .refl

theorem next_intakes (input : Env × Event) (untouched : s.Untouched) :
    Intakes (s.occasion True input) (s.receiver input.2.hand) ((s.next input).receiver .idle) := by
  obtain ⟨e,event⟩ := input
  cases event with
  | packet p =>
    refine fsmPacket_takes _ trivial (.inl rfl) (.inr ⟨rfl,rfl⟩) ?_ fun _ here => untouched (.inr here)
    exact fun refuses => ⟨p,rfl,refuses⟩
  | tick => exact call_told .tick fun _ => nofun
  | icmp m => exact call_told (.icmp m) fun _ => nofun
  | close => exact call_told .close fun _ => nofun
  | abort => exact call_told .abort fun _ => nofun
  | shutdownRead => exact call_told .shutdownRead fun _ => nofun
  | shutdownWrite => exact call_told .shutdownWrite fun _ => nofun
  | send data => exact call_told (.send data) fun _ => nofun
  | receive byteCount => exact call_told (.receive byteCount) fun _ => nofun
  | option o => exact call_told (.option o) fun _ => nofun

end TcpSession

namespace Receiver

def Untouched (r : Receiver) : Prop := r.state = .listen ∨ r.state = .synSent → r.ooo = []

theorem untouched_kept {o : Occasion} (r r' : Receiver) (intake : Intake o r r') (untouched : r.Untouched) :
    r'.Untouched := by
  cases intake with
  | emit | plain | note | consume | discard | read | close | begin | learn => exact untouched
  | purge =>
    intro early
    have empty := untouched early
    show r.ooo.filter _ = []
    rw [empty]
    rfl
  | pop q found =>
    intro early
    have empty := untouched early
    rw [empty] at found
    cases found
  | store p held here =>
    intro early
    rw [show ({r with ooo := _,hand := .idle} : Receiver).state = .established from here] at early
    rcases early with early | early <;> cases early
  | move new _ later =>
    rintro (early | early)
    · exact absurd early later.1
    · exact absurd early later.2
  | reuse =>
    intro _
    rfl

end Receiver

variable {start : TcpSession → Prop} {meets : Env × Event → TcpSession → Prop} {law : Receiver → Prop}

theorem reached_receiver (law : Receiver → Prop) (initial : ∀ s, start s → s.Untouched ∧ law (s.receiver .idle))
    (handed : ∀ s input, meets input s → law (s.receiver .idle) → law (s.receiver input.2.hand))
    (kept : ∀ s input, meets input s → ∀ r r', Intake (s.occasion True input) r r' → law r → law r')
    {s : TcpSession} (reached : Runs.Reached start TcpSession.next meets s) : law (s.receiver .idle) := by
  have both : s.Untouched ∧ law (s.receiver .idle) := by
    refine Runs.Reached.invariant (fun s => s.Untouched ∧ law (s.receiver .idle)) initial ?_ reached
    rintro s input ⟨untouched,lawful⟩ met
    have path := TcpSession.next_intakes input untouched
    refine ⟨?_,?_⟩
    · exact Runs.path_keeps Receiver.Untouched Receiver.untouched_kept path untouched
    · exact Runs.path_keeps _ (kept s input met) path (handed s input met lawful)
  exact both.2

theorem opened_receiver {s : TcpSession} (opened : Opened s) : ∃ (o : Opening) (data : List UInt8) (new : FsmState),
    (new = .listen ∨ new = .synSent) ∧ s.receiver .idle = {(o.session.preload data).receiver .idle with state := new} := by
  cases opened with
  | listening o e =>
    refine ⟨o,[],.listen,.inl rfl,?_⟩
    unfold TcpSession.tcpFsmSyscall
    rw [TcpSession.pumpTail_receiver]
    exact TcpSession.changeState_receiver (e := e) (s := o.session) .listen none
  | connecting o e data =>
    refine ⟨o,data,.synSent,.inr rfl,?_⟩
    unfold TcpSession.tcpFsmSyscall
    rw [TcpSession.pumpTail_receiver]
    exact TcpSession.changeState_receiver (e := e) (s := o.session.preload data) .synSent none

theorem opened_untouched {s : TcpSession} (opened : Opened s) : s.Untouched := by
  obtain ⟨o,data,new,_,same⟩ := opened_receiver opened
  intro _
  exact congrArg Receiver.ooo same

end PmdPytcp.Tcp
