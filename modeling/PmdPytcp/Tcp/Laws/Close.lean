import PmdPytcp.Tcp.Laws.Fin
import PmdPytcp.Tcp.Laws.Stream

namespace PmdPytcp.Tcp
open Arc TcpSession

def Obs.isFin : Obs → Bool
  | .sent seg .. => seg.flagFin
  | _ => false

-- The number just after the last octet the application wrote.
def Sender.finSeq (s : Sender) : Seq32 := add32 s.ini (1 + s.written.length)

-- A segment with the FIN flag stands at `place`.
def FinAt (place : Seq32) : Obs → Prop
  | .sent seg .. => seg.flagFin = true → seg.seq = place
  | _ => True

instance (place : Seq32) (obs : Obs) : Decidable (FinAt place obs) :=
  match obs with
  | .sent seg .. => inferInstanceAs (Decidable (seg.flagFin = true → _))
  | .control _ | .moved .. => .isTrue trivial

theorem FinAt.of_plain {place : Seq32} {obs : Obs} (plain : obs.isFin = false) : FinAt place obs := by
  cases obs with
  | sent seg una max wnd drained =>
    intro flag
    have plain : seg.flagFin = false := plain
    rw [flag] at plain
    cases plain
  | control seg => trivial
  | moved old new cause => trivial

structure CloseLaw (s : Sender) : Prop where
  unsent : s.finSent = false → s.fin = 0
  sent : s.finSent = true → s.fin = add32 s.finSeq 1 ∧ ∃ obs ∈ s.log, obs.isFin = true
  closing : finPhase s.state = true → s.state ≠ .closed →
    arc s.una s.max ≤ s.finSent.toNat ∧ s.max = add32 s.finSeq s.finSent.toNat
  quiet : s.finSent = false → ∀ obs ∈ s.log, obs.isFin = false
  placed : ∀ obs ∈ s.log, FinAt s.finSeq obs

section Law
variable {s t : Sender}

theorem CloseLaw.kept (law : CloseLaw s) (finSent : t.finSent = s.finSent) (fin : t.fin = s.fin)
    (place : s.finSent = true → t.finSeq = s.finSeq)
    (closing : finPhase t.state = true → t.state ≠ .closed →
      arc t.una t.max ≤ t.finSent.toNat ∧ t.max = add32 t.finSeq t.finSent.toNat)
    (earlier : ∀ obs ∈ s.log, obs ∈ t.log) (log : ∀ obs ∈ t.log, obs ∈ s.log ∨ obs.isFin = false) : CloseLaw t := by
  refine ⟨?_,?_,closing,?_,?_⟩
  · rw [finSent,fin]
    exact law.unsent
  · intro out
    rw [finSent] at out
    obtain ⟨value,obs,member,flag⟩ := law.sent out
    rw [fin,place out]
    exact ⟨value,obs,earlier obs member,flag⟩
  · intro out obs member
    rw [finSent] at out
    rcases log obs member with old | plain
    · exact law.quiet out obs old
    · exact plain
  · intro obs member
    rcases log obs member with old | plain
    · cases out : s.finSent with
      | true =>
        rw [place out]
        exact law.placed obs old
      | false => exact .of_plain (law.quiet out obs old)
    · exact .of_plain plain

theorem emit_logged (s : Sender) (seg : Segment) : Obs.sent seg s.una s.max s.wnd s.drained ∈ (s.emit seg).log :=
  List.mem_append_right _ (List.mem_singleton.mpr rfl)

theorem CloseLaw.finned (law : CloseLaw s) (inv : Inv s) {seg : Segment} (phase : finPhase s.state = true)
    (opened : s.state ≠ .closed) (kind : seg.flagSyn = false ∧ seg.flagFin = true) (here : seg.seq = s.nxt)
    (bare : seg.data = []) (again : s.nxt ≠ s.fin) : CloseLaw (s.emit seg) := by
  obtain ⟨short,top⟩ := law.closing phase opened
  have nxt := inv.nxt
  have cap := flightMax_short
  have atUna : s.nxt = s.una ∧ s.una = s.finSeq := by
    cases out : s.finSent with
    | false =>
      rw [out] at short top
      have whole : s.una = s.max := arc_eq_zero.mp (Nat.le_zero.mp short)
      have same : s.una = s.nxt := arc_eq_zero.mp (by rw [← whole,arc_self] at nxt; exact Nat.le_zero.mp nxt)
      exact ⟨same.symm,by rw [whole,top]; exact add32_zero _⟩
    | true =>
      rw [out] at short top
      have value : s.fin = s.max := (law.sent out).1.trans top.symm
      have apart : arc s.una s.nxt ≠ arc s.una s.max := by
        intro same
        apply again
        rw [value,← add32_arc s.una s.nxt,same,add32_arc]
      have short : arc s.una s.max ≤ 1 := short
      have none : arc s.una s.nxt = 0 := by omega
      have one : arc s.una s.max = 1 := by omega
      refine ⟨(arc_eq_zero.mp none).symm,?_⟩
      have step := add32_arc s.una s.max
      have top : s.max = add32 s.finSeq (1 : Nat) := top
      rw [one,top,add32_nat,add32_nat] at step
      exact (BitVec.add_left_inj _).mp step
  have place : seg.seq = s.finSeq := here.trans (atUna.1.trans atUna.2)
  have after : (s.emit seg).nxt = add32 s.finSeq 1 := by
    show add32 seg.seq (seg.data.length + seg.flagSyn.toNat + seg.flagFin.toNat) = _
    rw [place,bare,kind.1,kind.2]
    rfl
  have far : arc s.una (s.emit seg).nxt = 1 := by
    rw [after,← atUna.2]
    exact arc_add32 s.una (n := 1) (by decide)
  have out : (s.emit seg).finSent = true := by
    show (seg.flagFin || s.finSent) = true
    simp [kind.2]
  have value : (s.emit seg).fin = add32 s.finSeq 1 := by
    show (if seg.flagFin then (s.emit seg).nxt else s.fin) = _
    rw [if_pos kind.2,after]
  have room : 1 ≤ flightMax := by decide
  have grown := emit_max inv.toCore seg (by omega)
  have edge : arc s.una (s.emit seg).max = 1 := by
    have most : s.finSent.toNat ≤ 1 := by cases s.finSent <;> decide
    omega
  refine ⟨?_,?_,?_,?_,?_⟩
  · intro unsent
    rw [out] at unsent
    cases unsent
  · intro _
    exact ⟨value,_,emit_logged s seg,kind.2⟩
  · intro _ _
    rw [out]
    refine ⟨edge.le,?_⟩
    have whole := add32_arc s.una (s.emit seg).max
    rw [edge,atUna.2] at whole
    exact whole.symm
  · intro unsent
    rw [out] at unsent
    cases unsent
  · intro obs member
    rcases List.mem_append.mp member with before | last
    · exact law.placed obs before
    · rw [List.mem_singleton.mp last]
      intro _
      exact place

theorem CloseLaw.sentPlain (law : CloseLaw s) {seg : Segment} (plain : seg.flagFin = false)
    (begun : finPhase s.state = false) : CloseLaw (s.emit seg) := by
  refine law.kept ?_ ?_ (fun _ => rfl) ?_ (fun obs member => List.mem_append_left _ member) ?_
  · show (seg.flagFin || s.finSent) = s.finSent
    simp [plain]
  · show (if seg.flagFin then _ else s.fin) = s.fin
    simp [plain]
  · intro phase
    have phase : finPhase s.state = true := phase
    rw [begun] at phase
    cases phase
  · intro obs member
    rcases List.mem_append.mp member with before | last
    · exact .inl before
    · rw [List.mem_singleton.mp last]
      exact .inr plain

theorem CloseLaw.advanced (law : CloseLaw s) (begun : finPhase t.state = false) (finSent : t.finSent = s.finSent)
    (fin : t.fin = s.fin) (place : t.finSeq = s.finSeq) (log : ∃ told, t.log = s.log ++ told ∧
      ∀ obs ∈ told, obs.isFin = false) : CloseLaw t := by
  obtain ⟨told,same,plain⟩ := log
  refine law.kept finSent fin (fun _ => place) ?_ ?_ ?_
  · intro phase
    rw [begun] at phase
    cases phase
  · intro obs member
    rw [same]
    exact List.mem_append_left _ member
  · intro obs member
    rw [same] at member
    exact (List.mem_append.mp member).imp_right (plain obs)

theorem moved_plain {old new : FsmState} {cause : Option Seq32} :
    ∀ obs ∈ [Obs.moved old new cause], obs.isFin = false := by
  intro obs member
  rw [List.mem_singleton.mp member]
  rfl

theorem CloseLaw.wound (law : CloseLaw s) {new : FsmState} {a : Seq32} (phase : finPhase s.state = true)
    (opened : s.state ≠ .closed) : CloseLaw (s.moveBy new a) := by
  refine law.kept rfl rfl (fun _ => rfl) (fun _ _ => law.closing phase opened)
    (fun obs member => List.mem_append_left _ member) ?_
  intro obs member
  rcases List.mem_append.mp member with before | last
  · exact .inl before
  · rw [List.mem_singleton.mp last]
    exact .inr rfl

theorem close_law_kept {allowed : Slip → Prop} (step : Move allowed s t) (early : ¬allowed .earlyClose) (inv : Inv s)
    (stream : StreamLaw s) (law : CloseLaw s) : CloseLaw t := by
  cases step with
  | aim | sacked | regulate | walkBack | queue =>
    exact law.kept rfl rfl (fun _ => rfl) law.closing (fun _ => id) (fun _ => .inl)
  | syn seg opening kind first load =>
    have begun : finPhase s.state = false := by
      rcases opening with here | here
      · rw [here]; rfl
      · rw [here]; rfl
    exact law.sentPlain kind.2 begun
  | data seg limit transfer kind here granted near loaded content fits =>
    exact law.sentPlain kind.2 (transferring_plain transfer).2
  | fin seg ending kind here bare inside again =>
    have phase : finPhase s.state = true ∧ s.state ≠ .closed := by
      simp only [TcpSession.finState,decide_eq_true_eq] at ending
      rcases ending with here | here | here <;> rw [here] <;> decide
    exact law.finned inv phase.1 phase.2 kind here bare again
  | acknowledge a blocks cc mss wnd settled reached board bare sound positive small level =>
    refine law.kept rfl rfl (fun _ => rfl) ?_ (fun _ => id) (fun _ => .inl)
    intro phase opened
    obtain ⟨short,top⟩ := law.closing phase opened
    have rest := arc_cut reached
    refine ⟨?_,top⟩
    show arc a s.max ≤ s.finSent.toNat
    omega
  | append data transfer =>
    have open' := (transferring_plain transfer).2
    refine law.kept rfl rfl (fun sent => inv.early open' sent) ?_ (fun _ => id) (fun _ => .inl)
    intro phase
    have phase : finPhase s.state = true := phase
    rw [open'] at phase
    cases phase
  | negotiate mss wnd wsc sendSack sendTs cc fresh taught =>
    exact law.advanced rfl rfl rfl rfl ⟨[],(List.append_nil _).symm,fun _ member => by cases member⟩
  | connected a mss wnd wsc sendSack sendTs cc asked fresh reached taught => exact law.advanced rfl rfl rfl rfl ⟨_,rfl,moved_plain⟩
  | accepted a blocks cc mss wnd asked fresh reached board bare taught => exact law.advanced rfl rfl rfl rfl ⟨_,rfl,moved_plain⟩
  | admitted a cc asked slipped sound level calm => exact law.advanced rfl rfl rfl rfl ⟨_,rfl,moved_plain⟩
  | peerClosed a asked => exact law.advanced rfl rfl rfl rfl ⟨_,rfl,moved_plain⟩
  | finished new pair empty =>
    have moving : transferring s.state = true := by
      rcases pair with ⟨here,_⟩ | ⟨here,_⟩
      · rw [here]; rfl
      · rw [here]; rfl
    refine law.kept rfl rfl (fun _ => rfl) ?_ (fun _ => id) (fun _ => .inl)
    intro _ _
    have flow := stream.flow (.inl moving)
    have cover := flow.cover
    have total := stream.length
    rw [empty,List.length_nil] at cover total
    have unsent := inv.unsent (transferring_plain moving).2
    show arc s.una s.max ≤ s.finSent.toNat ∧ s.max = add32 s.finSeq s.finSent.toNat
    rw [unsent]
    refine ⟨cover,?_⟩
    have whole : s.una = s.max := arc_eq_zero.mp (Nat.le_zero.mp cover)
    rw [← whole,flow.edge]
    show add32 s.ini (1 + s.drained) = add32 s.finSeq 0
    rw [add32_zero,Sender.finSeq,← total]
    rfl
  | earlyClose asked slipped => exact absurd slipped early
  | finAcked new a pair covered =>
    rcases pair with ⟨here,_⟩ | ⟨here,_⟩ | ⟨here,_⟩ <;> exact law.wound (by rw [here]; rfl) (by simp [here])
  | drifts new a pair =>
    rcases pair with ⟨here | here,_⟩ | ⟨here,_⟩ | ⟨here,_⟩ <;> exact law.wound (by rw [here]; rfl) (by simp [here])
  | dropped =>
    refine law.kept rfl rfl (fun _ => rfl) ?_ (fun _ => id) (fun _ => .inl)
    intro _ opened
    exact absurd rfl opened
  | reused iss mss wnd wsc sendSack sendTs cc asked taught =>
    refine ⟨fun _ => rfl,?_,?_,?_,?_⟩
    · intro sent
      cases sent
    · intro phase
      cases phase
    · intro _ obs member
      cases member
    · intro obs member
      cases member

end Law

namespace TcpSession
variable {e : Env} {s : TcpSession}

def finSeq (s : TcpSession) : Seq32 := add32 s.sndSeq.ini (1 + s.written.length)

theorem transmitDataOnce_finned (ending : finState s.state = true) (sent : s.sndSeq.nxt = s.sndSeq.fin) :
    s.transmitDataOnce e = s := by
  simp only [finState,decide_eq_true_eq] at ending
  unfold transmitDataOnce finState
  rcases ending with here | here | here <;> simp [here,sent]

theorem pumpLoop_finned (n : Nat) (ending : finState s.state = true) (sent : s.sndSeq.nxt = s.sndSeq.fin) :
    pumpLoop e n s = s := by
  cases n with
  | zero => rfl
  | succ n =>
    unfold pumpLoop
    rw [transmitDataOnce_finned ending sent]
    simp

theorem transmitDataOnce_fin (ending : finState s.state = true) (level : s.sndSeq.nxt = s.sndSeq.una)
    (unsent : s.sndSeq.nxt ≠ s.sndSeq.fin) :
    s.transmitDataOnce e = s.transmitPacket e {flagFin := true,flagAck := true} := by
  have range : inRange32 s.sndSeq.nxt s.sndSeq.una (add32 s.sndSeq.una s.cc.sndEwn) = true := by
    rw [inRange32_iff,level,arc_self]
    exact Nat.zero_le _
  unfold transmitDataOnce
  rw [range]
  simp only [finState,decide_eq_true_eq] at ending
  rcases ending with here | here | here <;> simp [here,finState,unsent]

theorem transmitData_fin (ending : finState s.state = true) (level : s.sndSeq.nxt = s.sndSeq.una)
    (unsent : s.sndSeq.nxt ≠ s.sndSeq.fin) :
    s.transmitData e = s.transmitPacket e {flagFin := true,flagAck := true} := by
  have once := transmitDataOnce_fin (e := e) ending level unsent
  obtain ⟨seg,syn,fin,data,seq,sender⟩ := @transmitPacket_sender none e s
    {flagFin := true,flagAck := true} s.sndSeq.nxt rfl
  have frame := transmitPacket_pumping (e := e) (s := s) {flagFin := true,flagAck := true}
  generalize s.transmitPacket e {flagFin := true,flagAck := true} = s₁ at once sender frame ⊢
  have occupies : ({flagFin := true,flagAck := true} : Emit).occupies = true := rfl
  rw [if_pos occupies] at sender
  have nxt : s₁.sndSeq.nxt = s₁.sndSeq.fin := by
    have left := congrArg Sender.nxt sender
    have right := congrArg Sender.fin sender
    have right : s₁.sndSeq.fin = if seg.flagFin then _ else _ := right
    rw [if_pos fin] at right
    exact left.trans right.symm
  have ending' : finState s₁.state = true := by
    rw [frame.state]
    exact ending
  unfold transmitData
  have turns : ∃ n, (if s.cc.recoveryPoint ≠ 0 then 1 else maxSegmentsPerPump) = n + 1 := by
    split
    · exact ⟨0,rfl⟩
    · exact ⟨maxSegmentsPerPump - 1,rfl⟩
  obtain ⟨n,count⟩ := turns
  rw [count]
  unfold pumpLoop
  rw [once]
  dsimp only
  split
  · rfl
  · exact pumpLoop_finned n ending' nxt

end TcpSession

theorem opened_close {s : TcpSession} (opened : Opened s) : CloseLaw (s.senderAt none) := by
  obtain ⟨o,data,new,fresh,sender⟩ := opened_sender opened
  have begun : finPhase new = false := by
    rcases fresh with ⟨rfl,_⟩ | rfl
    · rfl
    · rfl
  rw [sender]
  refine ⟨fun _ => rfl,?_,?_,?_,?_⟩
  · intro sent
    cases sent
  · intro phase
    have phase : finPhase new = true := phase
    rw [begun] at phase
    cases phase
  · intro _ obs member
    cases member
  · intro obs member
    cases member

theorem isFin_notable {obs : Obs} (flag : obs.isFin = true) : obs.notable = true := by
  cases obs with
  | sent seg una max wnd drained => rfl
  | control seg => cases flag
  | moved old new cause => cases flag

def FinSent (seq : Seq32) (obs : Obs) : Prop :=
  obs.isFin = true ∧ FinAt seq obs ∧ ∃ seg ∈ obs.segment, seg.Assembles

theorem fin_transmitted {e : Env} {s : TcpSession} (silent : ∀ obs ∈ s.log, obs.isFin = false)
    (place : s.sndSeq.nxt = s.finSeq) :
    (∃ obs ∈ (s.transmitPacket e {flagFin := true,flagAck := true}).log, FinSent s.finSeq obs) ↔
      s.Transmits e {flagFin := true,flagAck := true} := by
  have sender := @transmitPacket_composed none e s {flagFin := true,flagAck := true} s.sndSeq.nxt rfl
  rw [if_pos (show ({flagFin := true,flagAck := true} : Emit).occupies = true from rfl)] at sender
  have earlier : ((s.phase0PreSendHygiene e s.sndSeq.nxt {flagFin := true,flagAck := true}).senderAt none).log =
      (s.senderAt none).log := by
    rw [phase0PreSendHygiene_sender]
    split
    · rfl
    · rfl
  have log := congrArg Sender.log sender
  constructor
  · rintro ⟨obs,member,flag,_,seg,own,assembled⟩
    have member : obs ∈ ((s.transmitPacket e {flagFin := true,flagAck := true}).senderAt none).log :=
      List.mem_filter.mpr ⟨member,isFin_notable flag⟩
    rw [log] at member
    rcases List.mem_append.mp member with before | last
    · rw [earlier] at before
      rw [silent obs (List.mem_filter.mp before).1] at flag
      cases flag
    · rw [List.mem_singleton.mp last] at own
      cases own
      exact assembled
  · intro assembled
    have last := emit_logged
      ((s.phase0PreSendHygiene e s.sndSeq.nxt {flagFin := true,flagAck := true}).senderAt none)
      ((s.phase0PreSendHygiene e s.sndSeq.nxt {flagFin := true,flagAck := true}).composeSegment e s.sndSeq.nxt
        {flagFin := true,flagAck := true}).1
    rw [← sender] at last
    exact ⟨_,(List.mem_filter.mp last).1,rfl,fun _ => place,_,rfl,assembled⟩

-- The number after the SYN is 0, and FIN_WAIT_1 never sends its FIN.
def wrapped : TcpSession := ({iss := 0xFFFF_FFFF} : Opening).session.tcpFsmSyscall {nowMs := 10} .listen

def closedAtZero : List (Env × Event) :=
  [({nowMs := 20},.packet (peerSyn false)),({nowMs := 21},.tick),({nowMs := 30},.packet (peerAck 501 0 [])),
   ({nowMs := 40},.close),({nowMs := 41},.tick),({nowMs := 42},.tick)]

end PmdPytcp.Tcp
