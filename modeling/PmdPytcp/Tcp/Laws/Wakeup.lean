import PmdPytcp.Tcp.Laws.Close
import PmdPytcp.Tcp.Laws.Prompt

namespace PmdPytcp.Tcp
open Arc
open TcpTimerService (deadline_arm_self deadline_arm_other deadline_cancel)

namespace TcpSession

variable {e : Env} {s t u : TcpSession} {p q : TcpMetadata} {m : Emit} {replay : Replay}

-- The deadlines that may wake the session in its state.
def relevant (s : TcpSession) : List Nat :=
  (s.timers.deadlines.filter fun entry => (servicedTimersByState s.state).contains entry.1).map Prod.snd

-- The service timer stands at the earliest of them, a millisecond from now at the soonest.
def Punctual (now : Nat) (s : TcpSession) : Prop :=
  s.timers.serviceHandle = s.relevant.min?.map fun first => max (now + 1) first

instance (now : Nat) (s : TcpSession) : Decidable (s.Punctual now) := inferInstanceAs (Decidable (_ = _))

def Armed (s : TcpSession) : Prop := ∃ name ∈ servicedTimersByState s.state, (s.timers.deadline name).isSome = true

instance (s : TcpSession) : Decidable s.Armed := inferInstanceAs (Decidable (∃ name ∈ _,_))

theorem reschedule_punctual (timers : TcpTimerService) (now : Nat) :
    Punctual now {s with timers := timers.reschedule s.state now} := by
  show (timers.reschedule s.state now).serviceHandle = _
  unfold TcpTimerService.reschedule relevant
  dsimp only
  congr 1
  funext first
  omega

theorem armTimer_punctual (name : TimerName) (delayMs : Nat) : (s.armTimer e name delayMs).Punctual e.nowMs :=
  reschedule_punctual _ _

theorem cancelTimer_punctual (name : TimerName) : (s.cancelTimer e name).Punctual e.nowMs :=
  reschedule_punctual _ _

theorem pumpTail_punctual (entry : FsmState) (external : Bool) : (s.pumpTail e entry external).Punctual e.nowMs := by
  unfold pumpTail
  dsimp only
  split
  · exact cancelTimer_punctual _
  · split
    · exact armTimer_punctual _ _
    · exact cancelTimer_punctual _

theorem pump_serviced {state : FsmState} (on : state ≠ .closed) (past : state ≠ .listen) :
    .txPump ∈ servicedTimersByState state := by
  cases state <;> simp_all [servicedTimersByState]

theorem armPump_armed (on : s.state ≠ .closed) (past : s.state ≠ .listen) : (s.armTimer e .txPump 1).Armed := by
  refine ⟨.txPump,pump_serviced on past,?_⟩
  show ((s.timers.arm s.state e.nowMs .txPump 1).deadline .txPump).isSome = true
  rw [deadline_arm_self]
  rfl

theorem pumpTail_armed (entry : FsmState) (external : Bool)
    (asked : external = true ∨ s.state ≠ entry ∨ s.hasPumpWork = true) (on : s.state ≠ .closed)
    (past : s.state ≠ .listen) : (s.pumpTail e entry external).Armed := by
  unfold pumpTail
  dsimp only
  rw [if_neg (show ¬(s.cancelTimer e .txPump).state = .closed from on)]
  have told : (external || decide ((s.cancelTimer e .txPump).state ≠ entry) ||
      (s.cancelTimer e .txPump).hasPumpWork) = true := by
    rcases asked with outside | moved | work
    · rw [outside]
      rfl
    · have moved : (s.cancelTimer e .txPump).state ≠ entry := moved
      rw [decide_eq_true moved]
      simp
    · have work : (s.cancelTimer e .txPump).hasPumpWork = true := work
      simp [work]
  rw [if_pos told]
  exact armPump_armed on past

def UnsentFin (s : TcpSession) : Prop :=
  s.closing = true ∧ transferring s.state = true ∨ finPhase s.state = true ∧ s.sndSeq.finSent = false

-- An ACK is owed: the peer has sent past the last acknowledged number.
def HeldAck (s : TcpSession) : Prop := gt32 s.rcvSeq.nxt s.rcvSeq.una = true

def Pending (s : TcpSession) : Prop :=
  s.tx.buffer ≠ [] ∨ s.state = .synSent ∨ s.state = .synRcvd ∨ s.sndSeq.una ≠ s.sndSeq.max ∨ s.UnsentFin ∨ s.HeldAck

instance (s : TcpSession) : Decidable s.Pending := inferInstanceAs (Decidable (_ ∨ _ ∨ _ ∨ _ ∨ (_ ∨ _) ∨ _ = true))

-- CLOSED is the end: whatever is left there is given up.
def Attended (s : TcpSession) : Prop := s.state ≠ .closed → s.Pending → s.Armed

theorem Answered.unheld (answered : s.Answered) : ¬s.HeldAck := by
  unfold HeldAck
  rw [answered]
  simp [gt32,lt32]

theorem pending_idle (idle : s.hasPumpWork = false) (pending : s.Pending) : s.sndSeq.una = s.sndSeq.max ∧
    (s.state = .synSent ∨ s.state = .synRcvd ∨ finPhase s.state = true ∧ s.sndSeq.finSent = false ∨ s.HeldAck) := by
  unfold hasPumpWork at idle
  simp only [Bool.or_eq_false_iff,Bool.not_eq_false',List.isEmpty_iff,bne_eq_false_iff_eq,Bool.and_eq_false_iff] at idle
  obtain ⟨⟨empty,level⟩,unclosed⟩ := idle
  refine ⟨level,?_⟩
  rcases pending with loaded | asked | answered | flying | (⟨closing,transfer⟩ | unsent) | held
  · exact absurd empty loaded
  · exact .inl asked
  · exact .inr (.inl answered)
  · exact absurd level flying
  · rcases unclosed with other | other
    · rw [closing] at other
      cases other
    · unfold transferring at transfer
      rw [transfer] at other
      cases other
  · exact .inr (.inr (.inl unsent))
  · exact .inr (.inr (.inr held))

theorem pumpTail_attended (entry : FsmState) (external : Bool) (deaf : s.state = .listen → ¬s.Pending)
    (quiet : external = false → s.state = entry → s.hasPumpWork = false → s.Pending →
      ∃ name ∈ servicedTimersByState s.state, name ≠ .txPump ∧ (s.timers.deadline name).isSome = true) :
    (s.pumpTail e entry external).Attended := by
  intro on pending
  rw [pumpTail_state] at on
  have pending : s.Pending := by
    obtain ⟨_,shape⟩ := pumpTail_shape (e := e) (s := s) entry external
    rw [shape] at pending
    exact pending
  have past : s.state ≠ .listen := fun here => deaf here pending
  by_cases asked : external = true ∨ s.state ≠ entry ∨ s.hasPumpWork = true
  · exact pumpTail_armed entry external asked on past
  · simp only [not_or,Bool.not_eq_true,not_not] at asked
    obtain ⟨name,serviced,other,armed⟩ := quiet asked.1 asked.2.1 asked.2.2 pending
    refine ⟨name,?_,?_⟩
    · rw [pumpTail_state]
      exact serviced
    · rw [pumpTail_deadline entry external name other]
      exact armed

def settling (state : FsmState) : Bool := decide (state = .synSent ∨ state = .synRcvd) || finState state

theorem transmitPacket_outstanding (core : Core ((s.transmitPacket e m).senderAt none)) (plain : m.seq = none)
    (occupies : m.occupies = true) (near : arc s.sndSeq.una s.sndSeq.nxt + m.data.length + 2 < 2^32) :
    (s.transmitPacket e m).sndSeq.una ≠ (s.transmitPacket e m).sndSeq.max := by
  obtain ⟨seg,syn,fin,data,seq,sender⟩ := @transmitPacket_sender none e s m s.sndSeq.nxt (by rw [plain]; rfl)
  obtain ⟨_,_,_,_,hygiene,_⟩ := phase0PreSendHygiene_shape (e := e) (s := s) s.sndSeq.nxt m
  rw [if_pos occupies,hygiene] at sender
  have una : (s.transmitPacket e m).sndSeq.una = s.sndSeq.una := congrArg Sender.una sender
  have nxt : (s.transmitPacket e m).sndSeq.nxt =
      add32 seg.seq (seg.data.length + seg.flagSyn.toNat + seg.flagFin.toNat) := congrArg Sender.nxt sender
  have takes : 0 < seg.data.length + seg.flagSyn.toNat + seg.flagFin.toNat := by
    rw [syn,fin,data]
    unfold Emit.occupies at occupies
    cases opens : m.flagSyn with
    | true => simp
    | false =>
      cases ends : m.flagFin with
      | true => simp
      | false =>
        rw [opens,ends] at occupies
        simpa [List.length_pos_iff] using occupies
  have few := seg.flagSyn.toNat_le
  have few' := seg.flagFin.toNat_le
  have count := congrArg List.length data
  intro level
  have inside : arc (s.transmitPacket e m).sndSeq.una (s.transmitPacket e m).sndSeq.nxt ≤
    arc (s.transmitPacket e m).sndSeq.una (s.transmitPacket e m).sndSeq.max := core.nxt
  have far : arc s.sndSeq.una (add32 s.sndSeq.nxt
      ((seg.data.length + seg.flagSyn.toNat + seg.flagFin.toNat : Nat) : Int)) = _ := arc_add32_from (by omega)
  rw [← level,arc_self,nxt,una,seq] at inside
  push_cast at far
  rw [far] at inside
  omega

structure Sent (s t : TcpSession) : Prop where
  state : t.state = s.state
  answered : t.Answered
  outstanding : t.sndSeq.una ≠ t.sndSeq.max

-- The pump leaves a level sender alone only behind its FIN.
def Rested (s : TcpSession) : Prop :=
  s.sndSeq.nxt = s.sndSeq.una → finState s.state = true ∧ s.sndSeq.nxt = s.sndSeq.fin

theorem transmitDataOnce_settling (inv : Inv (s.senderAt none)) (roomy : s.Roomy) (early : settling s.state = true) :
    s.transmitDataOnce e = s ∧ s.Rested ∨ Sent s (s.transmitDataOnce e) := by
  have post := path_inv (transmitDataOnce_pumped (e := e) inv (@Loan.none _ _ (fun _ => True)) roomy).path inv
  have flight := inv.short
  have place : arc s.sndSeq.una s.sndSeq.nxt ≤ arc s.sndSeq.una s.sndSeq.max := inv.toCore.nxt
  have short : arc s.sndSeq.una s.sndSeq.max < 0x8000_0000 := flight
  have home : s.state = .synSent ∨ s.state = .synRcvd → s.sndSeq.una = s.sndSeq.ini := by
    intro here
    exact (inv.handshake (by rcases here with here | here <;> (show handshaking s.state = true) <;> rw [here] <;> rfl)).1
  have range : s.sndSeq.nxt = s.sndSeq.una → inRange32 s.sndSeq.nxt s.sndSeq.una (add32 s.sndSeq.una s.cc.sndEwn) = true := by
    intro level
    rw [inRange32_iff,level,arc_self]
    exact Nat.zero_le _
  unfold transmitDataOnce at post ⊢
  split
  · rename_i outside
    refine .inl ⟨rfl,fun level => ?_⟩
    rw [range level] at outside
    cases outside
  · rename_i inside
    rw [if_neg inside] at post
    split
    · rename_i syn
      rw [if_pos syn] at post
      right
      have mss : s.win.sndMss.1 ≤ 0xFFFF := (inv.connecting syn.1).1
      have positive := s.win.sndMss.2
      unfold transmitSyn at post ⊢
      dsimp only at post ⊢
      refine ⟨transmitPacket_state,transmitPacket_answered,
        transmitPacket_outstanding post.toCore rfl (by simp [Emit.occupies]) ?_⟩
      rw [syn.2,home (.inl syn.1),arc_self]
      dsimp only
      split
      · have few := List.length_take_le s.win.sndMss.1.toNat s.tx.buffer
        omega
      · simp
    · rename_i notSyn
      rw [if_neg notSyn] at post
      split
      · rename_i synAck
        rw [if_pos synAck] at post
        refine .inr ⟨transmitPacket_state,transmitPacket_answered,transmitPacket_outstanding post.toCore rfl rfl ?_⟩
        show _ + 0 + 2 < _
        omega
      · rename_i notSynAck
        rw [if_neg notSynAck] at post
        have closed : ¬(s.state = .established ∨ s.state = .closeWait) := by
          intro here
          rcases here with here | here <;> rw [here] at early <;> cases early
        rw [if_neg closed] at post ⊢
        split
        · rename_i fin
          rw [if_pos fin] at post
          refine .inr ⟨transmitPacket_state,transmitPacket_answered,transmitPacket_outstanding post.toCore rfl rfl ?_⟩
          show _ + 0 + 2 < _
          omega
        · rename_i notFin
          refine .inl ⟨rfl,fun level => ?_⟩
          have ending : finState s.state = true := by
            unfold settling at early
            rcases (Bool.or_eq_true _ _).mp early with opening | ending
            · have opening := of_decide_eq_true opening
              have first := level.trans (home opening)
              rcases opening with here | here
              · exact absurd ⟨here,first⟩ notSyn
              · exact absurd ⟨here,first⟩ notSynAck
            · exact ending
          refine ⟨ending,?_⟩
          by_contra other
          exact notFin ⟨ending,other⟩

theorem pumpLoop_settling (n : Nat) (inv : Inv (s.senderAt none)) (roomy : s.Roomy)
    (calm : n = 0 ∨ s.cc.recoveryPoint = 0) (early : settling s.state = true) :
    pumpLoop e (n + 1) s = s ∧ s.Rested ∨ Sent s (pumpLoop e (n + 1) s) := by
  induction n generalizing s with
  | zero =>
    unfold pumpLoop
    dsimp only [pumpLoop]
    rw [ite_id]
    exact transmitDataOnce_settling inv roomy early
  | succ n ih =>
    have calm : s.cc.recoveryPoint = 0 := calm.resolve_left (by omega)
    have pumped := transmitDataOnce_pumped (e := e) inv (@Loan.none _ _ (fun _ => True)) roomy
    have once := transmitDataOnce_settling (e := e) inv roomy early
    unfold pumpLoop
    dsimp only
    generalize s.transmitDataOnce e = t at pumped once ⊢
    split
    · exact once
    · rename_i moved
      rcases once with ⟨same,_⟩ | sent
      · exact absurd (congrArg (fun x : TcpSession => x.sndSeq.nxt) same) moved
      · have calm' := pumped.frame.point.trans calm
        rcases ih (path_inv pumped.path inv) (fun _ under => absurd calm' under) (.inr calm')
          (by rw [sent.state]; exact early) with ⟨same,_⟩ | more
        · rw [same]
          exact .inr sent
        · exact .inr ⟨more.state.trans sent.state,more.answered,more.outstanding⟩

theorem transmitData_settling (inv : Inv (s.senderAt none)) (roomy : s.Roomy) (early : settling s.state = true) :
    s.transmitData e = s ∧ s.Rested ∨ Sent s (s.transmitData e) := by
  unfold transmitData
  split
  · exact pumpLoop_settling 0 inv roomy (.inl rfl) early
  · rename_i calm
    exact pumpLoop_settling (maxSegmentsPerPump - 1) inv roomy (.inr (not_not.mp calm)) early

theorem retransmitPacketTimeout_level (level : s.sndSeq.una = s.sndSeq.max) : s.retransmitPacketTimeout e = s := by
  unfold retransmitPacketTimeout
  split
  · rfl
  · rfl

theorem retransmitPacketTimeout_cases :
    (s.retransmitPacketTimeout e).state = .closed ∨
      (s.retransmitPacketTimeout e).state = s.state ∧ (s.retransmitPacketTimeout e).rcvSeq = s.rcvSeq ∧
      ∃ nxt, (nxt = s.sndSeq.nxt ∨ nxt = s.sndSeq.una) ∧
        (s.retransmitPacketTimeout e).sndSeq = {s.sndSeq with nxt := nxt} := by
  unfold retransmitPacketTimeout
  split
  · exact .inr ⟨rfl,rfl,_,.inl rfl,rfl⟩
  · split
    · exact .inr ⟨rfl,rfl,_,.inl rfl,rfl⟩
    · split
      · exact .inl (changeState_state _ _)
      · right
        dsimp only
        generalize first : (s.backOffForTimeout e).shrinkMssToEngine = s₁
        have frame₁ : s₁.state = s.state ∧ s₁.rcvSeq = s.rcvSeq ∧ s₁.sndSeq = s.sndSeq := by
          rw [← first]
          unfold shrinkMssToEngine
          split <;> exact ⟨rfl,rfl,rfl⟩
        generalize second : s₁.countSynRetransmit.armTimer e .retransmit s₁.countSynRetransmit.rtoState.rtoMs = s₂
        have frame₂ : s₂.state = s.state ∧ s₂.rcvSeq = s.rcvSeq ∧ s₂.sndSeq = s.sndSeq := by
          rw [← second]
          unfold countSynRetransmit
          split <;> exact frame₁
        generalize third : s₂.enterFrto = s₃
        have frame₃ : s₃.state = s.state ∧ s₃.rcvSeq = s.rcvSeq ∧ s₃.sndSeq = s.sndSeq := by
          rw [← third]
          unfold enterFrto
          split <;> exact frame₂
        generalize fourth : s₃.ssthreshForTimeout e = s₄
        have frame₄ : s₄.state = s.state ∧ s₄.rcvSeq = s.rcvSeq ∧ s₄.sndSeq = s.sndSeq := by
          rw [← fourth]
          unfold ssthreshForTimeout
          split <;> exact frame₃
        have back : s₄.collapseWindow.walkBackSeqMod.state = s₄.state ∧
            s₄.collapseWindow.walkBackSeqMod.rcvSeq = s₄.rcvSeq ∧
            s₄.collapseWindow.walkBackSeqMod.sndSeq = {s₄.sndSeq with nxt := s₄.sndSeq.una} := by
          unfold walkBackSeqMod
          split <;> exact ⟨rfl,rfl,rfl⟩
        refine ⟨back.1.trans frame₄.1,back.2.1.trans frame₄.2.1,s.sndSeq.una,.inr rfl,?_⟩
        rw [back.2.2,frame₄.2.2]

-- Zero stands for no FIN, and a FIN numbered zero passes for one that is out.
def ZeroFin (s : TcpSession) : Prop :=
  finState s.state = true ∧ s.sndSeq.finSent = false ∧ s.sndSeq.una = 0 ∧ s.sndSeq.max = 0

instance (s : TcpSession) : Decidable s.ZeroFin := inferInstanceAs (Decidable (_ ∧ _ ∧ _ ∧ _))

theorem settling_unwaiting (early : settling s.state = true) : s.state ≠ .timeWait ∧ s.state ≠ .listen := by
  constructor <;> intro here <;> rw [here] at early <;> cases early

-- The FIN is out and acknowledged, so nothing is owed.
theorem Prompt.rested (prompt : s.Prompt) (law : WakeLaw (s.senderAt none)) (core : Core (s.senderAt none))
    (clear : ¬s.ZeroFin) (rested : s.Rested) (level : s.sndSeq.una = s.sndSeq.max) :
    finState s.state = true ∧ s.sndSeq.finSent = true ∧ s.Answered := by
  have nxt := nxt_at_una core level
  obtain ⟨ending,fin⟩ := rested nxt
  rw [nxt] at fin
  have sent : s.sndSeq.finSent = true := by
    by_contra unsent
    have unsent : s.sndSeq.finSent = false := by simpa using unsent
    have zero : s.sndSeq.fin = 0 := law.mark unsent
    exact clear ⟨ending,unsent,fin.trans zero,level.symm.trans (fin.trans zero)⟩
  refine ⟨ending,sent,?_⟩
  unfold finState at ending
  rcases of_decide_eq_true ending with here | here | here
  · exact prompt.ended (.inl here) sent
  · refine prompt.closing here sent ?_
    rw [fin]
    simp [ge32]
  · exact prompt.ended (.inr here) sent

theorem Prompt.rewound {nxt : Seq32} (prompt : s.Prompt) (inv : Inv (s.senderAt none)) (state : t.state = s.state)
    (rcv : t.rcvSeq = s.rcvSeq) (place : nxt = s.sndSeq.nxt ∨ nxt = s.sndSeq.una)
    (snd : t.sndSeq = {s.sndSeq with nxt := nxt}) (waits : s.state = .timeWait → t.waitDeadline = s.waitDeadline) :
    t.Prompt := by
  have owed : t.Answered ↔ s.Answered := by
    unfold Answered
    rw [rcv]
  refine ⟨?_,?_,?_,?_,?_⟩ <;> rw [state]
  · rw [owed]
    exact prompt.idle
  · rw [owed,snd]
    intro here
    rcases place with same | back
    · rw [same]
      exact prompt.opening here
    · left
      exact back.trans (handshake_at_ini inv (by rw [here]; rfl))
  · rw [owed,snd]
    exact prompt.ended
  · rw [owed,snd]
    exact prompt.closing
  · intro here
    rw [waits here]
    exact prompt.waiting here

theorem settling_tick {allowed : Slip → Prop} (inv : Inv (s.senderAt none)) (law : WakeLaw (s.senderAt none))
    (prompt : s.Prompt) (roomy : s.Roomy) (rewinds : s.RewindsAtIss e → allowed .rewind)
    (clear : ¬s.ZeroFin) (early : settling s.state = true) :
    ((s.retransmitAndPump e).pumpTail e s.state false).Prompt ∧
      ((s.retransmitAndPump e).pumpTail e s.state false).Attended := by
  unfold retransmitAndPump
  have ends := retransmitPacketTimeout_ends inv roomy rewinds
  have cases_ := @retransmitPacketTimeout_cases e s
  have still := @retransmitPacketTimeout_level e s
  generalize s.retransmitPacketTimeout e = t at ends cases_ still ⊢
  by_cases gone : t.state = .closed
  · rw [transmitData_idle (.inl gone)]
    refine ⟨.closed ((pumpTail_state _ _).trans gone),?_⟩
    intro on
    rw [pumpTail_state] at on
    exact absurd gone on
  · obtain ⟨state,rcv,nxt,place,snd⟩ := cases_.resolve_left gone
    obtain ⟨path,_,roomy'⟩ := ends.resolve_right (by
      rintro ⟨_,_,_,closed⟩
      exact gone (congrArg Sender.state closed))
    have inv' := path_inv path inv
    have early' : settling t.state = true := by rw [state]; exact early
    obtain ⟨unwaiting,past⟩ := settling_unwaiting early'
    rcases transmitData_settling (e := e) inv' roomy' early' with ⟨same,rested⟩ | sent
    · rw [same]
      have kept : t.Prompt := prompt.rewound inv state rcv place snd fun waiting => by
        rw [state] at unwaiting
        exact absurd waiting unwaiting
      refine ⟨(pumpTail_tidy _ _).prompt kept,pumpTail_attended _ _ (fun here => absurd here past) ?_⟩
      intro _ _ idle pending
      obtain ⟨level,owing⟩ := pending_idle idle pending
      have untouched : t = s := by
        apply still
        rw [snd] at level
        exact level
      rw [untouched] at rested level owing
      obtain ⟨ending,out,answered⟩ := prompt.rested law inv.toCore clear rested level
      rcases owing with here | here | ⟨_,unsent⟩ | held
      · rw [here] at ending
        cases ending
      · rw [here] at ending
        cases ending
      · rw [out] at unsent
        cases unsent
      · exact absurd held answered.unheld
    · generalize t.transmitData e = u at sent ⊢
      refine ⟨(pumpTail_tidy _ _).prompt (.answered sent.answered ?_),?_⟩
      · intro waiting
        rw [sent.state] at waiting
        exact absurd waiting unwaiting
      · refine pumpTail_attended _ _ ?_ ?_
        · intro here
          rw [sent.state] at here
          exact absurd here past
        · intro _ _ idle pending
          exact absurd (pending_idle idle pending).1 sent.outstanding

def ackDeadline (s : TcpSession) : Option Nat := s.timers.deadline .delayedAck

-- An ACK goes out, or what is owed and its timer stay.
structure Heeds (s t : TcpSession) : Prop where
  state : t.state = s.state
  ack : t.Answered ∨ t.rcvSeq = s.rcvSeq ∧ t.ackDeadline = s.ackDeadline

theorem Heeds.refl (s : TcpSession) : Heeds s s := ⟨rfl,.inr ⟨rfl,rfl⟩⟩

theorem Heeds.trans (one : Heeds s t) (two : Heeds t u) : Heeds s u := by
  refine ⟨two.state.trans one.state,?_⟩
  rcases two.ack with answered | ⟨rcv,timer⟩
  · exact .inl answered
  · rcases one.ack with answered | ⟨rcv',timer'⟩
    · left
      unfold Answered at answered ⊢
      rw [rcv]
      exact answered
    · exact .inr ⟨rcv.trans rcv',timer.trans timer'⟩

theorem transmitPacket_heeds : Heeds s (s.transmitPacket e m) := ⟨transmitPacket_state,.inl transmitPacket_answered⟩

theorem Heeds.arm (heeds : Heeds s t) (name : TimerName) (delayMs : Nat) (other : .delayedAck ≠ name) :
    Heeds s (t.armTimer e name delayMs) := heeds.trans ⟨rfl,.inr ⟨rfl,deadline_arm_other _ _ _ _ other⟩⟩

theorem cancelTimer_heeds (name : TimerName) (other : .delayedAck ≠ name) : Heeds s (s.cancelTimer e name) := by
  refine ⟨rfl,.inr ⟨rfl,?_⟩⟩
  show (s.timers.cancel s.state e.nowMs name).deadline .delayedAck = _
  rw [deadline_cancel,if_neg other]
  rfl

theorem pumps_heeds : Pumps e Heeds where
  refl := .refl
  trans one two := one.trans two
  sends _ _ := transmitPacket_heeds
  skips _ _ := ⟨rfl,.inr ⟨rfl,rfl⟩⟩
  marks _ := ⟨rfl,.inr ⟨rfl,rfl⟩⟩
  searches _ _ := ⟨rfl,.inr ⟨rfl,rfl⟩⟩
  persists s q timeout := by
    have written : Heeds s {s with persist := q} := ⟨rfl,.inr ⟨rfl,rfl⟩⟩
    exact written.arm .persist timeout (by decide)

theorem transmitData_heeds : Heeds s (s.transmitData e) := pumps_heeds.transmitData

theorem rackReorderTick_heeds : Heeds s (s.rackReorderTick e) := by
  unfold rackReorderTick
  split
  · exact .refl s
  · dsimp only
    have cancelled := @cancelTimer_heeds e s .rack (by decide)
    generalize s.cancelTimer e .rack = t at cancelled ⊢
    split
    · exact cancelled
    · unfold rackDetect
      dsimp only
      split
      · refine Heeds.arm ?_ .rack _ (by decide)
        exact cancelled.trans ⟨rfl,.inr ⟨rfl,rfl⟩⟩
      · exact cancelled.trans ⟨rfl,.inr ⟨rfl,rfl⟩⟩

theorem tlpPtoTick_heeds : Heeds s (s.tlpPtoTick e) := by
  unfold tlpPtoTick
  split
  · exact .refl s
  · dsimp only
    have cancelled := @cancelTimer_heeds e s .tlp (by decide)
    generalize s.cancelTimer e .tlp = t at cancelled ⊢
    split
    · exact cancelled
    · split
      · exact cancelled
      · split
        · exact cancelled
        · split
          · exact cancelled
          · have aimed : Heeds t t.aimProbe := by
              unfold aimProbe
              dsimp only
              split <;> exact ⟨rfl,.inr ⟨rfl,rfl⟩⟩
            generalize t.aimProbe = u at aimed ⊢
            have pumped := cancelled.trans (aimed.trans (@transmitData_heeds e u))
            generalize u.transmitData e = w at pumped ⊢
            refine Heeds.arm ?_ .retransmit _ (by decide)
            exact pumped.trans ⟨rfl,.inr ⟨rfl,rfl⟩⟩

theorem keepaliveTick_heeds : (s.keepaliveTick e).state = .closed ∨ Heeds s (s.keepaliveTick e) := by
  unfold keepaliveTick
  split
  · exact .inr (.refl s)
  · split
    · right
      unfold keepaliveArmIdle
      split
      · refine Heeds.arm ?_ .keepalive _ (by decide)
        exact ⟨rfl,.inr ⟨rfl,rfl⟩⟩
      · exact .refl s
    · split
      · exact .inr (.refl s)
      · split
        · exact .inl (changeState_state _ _)
        · right
          dsimp only
          refine Heeds.arm ?_ .keepalive _ (by decide)
          exact ⟨rfl,.inr ⟨rfl,rfl⟩⟩

def Heard (s : TcpSession) : Prop := s.HeldAck → s.ackDeadline.isSome = true

theorem Heeds.heard (heeds : Heeds s t) (heard : s.Heard) : t.Heard := by
  intro held
  rcases heeds.ack with answered | ⟨rcv,timer⟩
  · exact absurd held answered.unheld
  · rw [timer]
    apply heard
    unfold HeldAck at held ⊢
    rw [rcv] at held
    exact held

theorem delayedAck_heard : (s.delayedAck e).Heard := by
  unfold delayedAck
  split
  · rename_i armed
    intro _
    unfold timerArmed TcpTimerService.armed at armed
    unfold ackDeadline
    cases found : s.timers.deadline .delayedAck with
    | none =>
      rw [found] at armed
      cases armed
    | some _ => rfl
  · have quiet : ¬(if gt32 s.rcvSeq.nxt s.rcvSeq.una then s.transmitPacket e {flagAck := true} else s).HeldAck := by
      split
      · exact transmitPacket_answered.unheld
      · assumption
    dsimp only
    generalize (if gt32 s.rcvSeq.nxt s.rcvSeq.una then s.transmitPacket e {flagAck := true} else s) = t at quiet ⊢
    intro held
    split at held
    · exact absurd held quiet
    · exact absurd held quiet

theorem finishClose_tick {allowed : Slip → Prop} {entry new : FsmState} (inv : Inv (s.senderAt none))
    (here : s.state = entry) (ends : Ends allowed (s.senderAt none) t) (heard : t.state = .closed ∨ t.Heard)
    (pair : entry = .established ∧ new = .finWait1 ∨ entry = .closeWait ∧ new = .lastAck) :
    ((t.finishClose e new).pumpTail e entry false).Prompt ∧ ((t.finishClose e new).pumpTail e entry false).Attended := by
  obtain ⟨v,path,before,place⟩ := ends
  have before : v.state = entry := before.trans here
  unfold finishClose
  split
  · have state : (t.changeState e new none).state = new := changeState_state _ _
    have unsent : (t.changeState e new none).sndSeq.finSent = false := by
      have early : v.finSent = false := by
        refine (path_inv path inv).unsent ?_
        rw [before]
        rcases pair with ⟨rfl,_⟩ | ⟨rfl,_⟩ <;> rfl
      rw [changeState_sndSeq]
      rcases place with same | closed
      · exact (congrArg Sender.finSent same).trans early
      · exact (congrArg Sender.finSent closed).trans early
    generalize t.changeState e new none = u at state unsent ⊢
    refine ⟨(pumpTail_tidy _ _).prompt ⟨?_,?_,?_,?_,?_⟩,pumpTail_attended _ _ ?_ ?_⟩
    · rw [state]
      rcases pair with ⟨_,rfl⟩ | ⟨_,rfl⟩ <;> simp
    · rw [state]
      rcases pair with ⟨_,rfl⟩ | ⟨_,rfl⟩ <;> simp
    · rw [unsent]
      simp
    · rw [unsent]
      simp
    · rw [state]
      rcases pair with ⟨_,rfl⟩ | ⟨_,rfl⟩ <;> simp
    · rw [state]
      rcases pair with ⟨_,rfl⟩ | ⟨_,rfl⟩ <;> simp
    · intro _ same
      rw [state] at same
      rcases pair with ⟨rfl,rfl⟩ | ⟨rfl,rfl⟩ <;> cases same
  · have stays : t.state = .closed ∨ t.state = entry := by
      rcases place with same | closed
      · exact .inr ((congrArg Sender.state same).trans before)
      · exact .inl (congrArg Sender.state closed)
    have busy : t.state = .established ∨ t.state = .closeWait ∨ t.state = .closed := by
      rcases stays with state | state <;> rw [state] <;> rcases pair with ⟨rfl,_⟩ | ⟨rfl,_⟩ <;> simp
    refine ⟨(pumpTail_tidy _ _).prompt (.busy busy),pumpTail_attended _ _ ?_ ?_⟩
    · intro listening
      rw [listening] at busy
      simp at busy
    · intro _ same idle pending
      have heard : t.Heard := heard.resolve_left (by
        rw [same]
        rcases pair with ⟨rfl,_⟩ | ⟨rfl,_⟩ <;> decide)
      rw [same]
      obtain ⟨_,owing⟩ := pending_idle idle pending
      rw [same] at owing
      rcases pair with ⟨rfl,_⟩ | ⟨rfl,_⟩
      · simp only [reduceCtorEq,finPhase,or_self,decide_false,Bool.false_eq_true,false_and,false_or] at owing
        exact ⟨.delayedAck,by decide,by decide,heard owing⟩
      · simp only [reduceCtorEq,finPhase,or_self,decide_false,Bool.false_eq_true,false_and,false_or] at owing
        exact ⟨.delayedAck,by decide,by decide,heard owing⟩

theorem expireTo_cases (name : TimerName) : (s.expireTo e name).state = .closed ∨ s.expireTo e name = s := by
  unfold expireTo
  split
  · exact .inl (changeState_state _ _)
  · exact .inr rfl

theorem closed_tick (entry : FsmState) (gone : s.state = .closed) :
    (s.pumpTail e entry false).Prompt ∧ (s.pumpTail e entry false).Attended := by
  refine ⟨.closed ((pumpTail_state _ _).trans gone),?_⟩
  intro on
  rw [pumpTail_state] at on
  exact absurd gone on

theorem listening_unpending (inv : Inv (s.senderAt none)) (law : WakeLaw (s.senderAt none)) (prompt : s.Prompt)
    (here : s.state = .listen) : ¬s.Pending := by
  intro pending
  have answered := prompt.idle (.inl here)
  have empty : s.tx.buffer = [] := law.empty here
  have idle : s.hasPumpWork = false := by
    unfold hasPumpWork
    rw [empty,listening_level inv here,here]
    simp
  obtain ⟨_,owing⟩ := pending_idle idle pending
  rw [here] at owing
  simp only [reduceCtorEq,finPhase,or_self,decide_false,Bool.false_eq_true,false_and,false_or] at owing
  exact answered.unheld owing

theorem dispatchTimer_tick {allowed : Slip → Prop} (inv : Inv (s.senderAt none)) (law : WakeLaw (s.senderAt none))
    (prompt : s.Prompt) (roomy : s.Roomy) (rewinds : s.RewindsAtIss e → allowed .rewind) (clear : ¬s.ZeroFin) :
    ((s.dispatchTimer e).pumpTail e s.state false).Prompt ∧ ((s.dispatchTimer e).pumpTail e s.state false).Attended := by
  have settle := settling_tick inv law prompt roomy rewinds clear
  have pumped : Ends allowed (s.senderAt none) (s.retransmitAndPump e) := retransmitAndPump_ends inv roomy rewinds
  unfold dispatchTimer
  split
  · rename_i here
    exact closed_tick _ here
  · rename_i here
    exact ⟨(pumpTail_tidy _ _).prompt prompt,pumpTail_attended _ _ (listening_unpending inv law prompt)
      fun _ _ _ pending => absurd pending (listening_unpending inv law prompt here)⟩
  · rename_i here
    exact settle (by rw [here]; rfl)
  · rename_i here
    exact settle (by rw [here]; rfl)
  · rename_i here
    exact settle (by rw [here]; rfl)
  · rename_i here
    exact settle (by rw [here]; rfl)
  · rename_i here
    exact settle (by rw [here]; rfl)
  · rename_i here
    have acked := delayedAck_ends (e := e) inv pumped
    have heard := @delayedAck_heard e (s.retransmitAndPump e)
    generalize (s.retransmitAndPump e).delayedAck e = t at acked heard ⊢
    have ends := tlpPtoTick_ends (e := e) inv (rackReorderTick_ends (e := e) (keepaliveTick_ends (e := e) acked))
    refine finishClose_tick inv rfl ends ?_ (.inl ⟨here,rfl⟩)
    have rest : Heeds (t.keepaliveTick e) (((t.keepaliveTick e).rackReorderTick e).tlpPtoTick e) :=
      rackReorderTick_heeds.trans tlpPtoTick_heeds
    rcases keepaliveTick_heeds (e := e) (s := t) with gone | heeds
    · exact .inl (rest.state.trans gone)
    · exact .inr (rest.heard (heeds.heard heard))
  · rename_i here
    exact finishClose_tick inv rfl (delayedAck_ends inv pumped) (.inr delayedAck_heard) (.inr ⟨here,rfl⟩)
  · rename_i here
    rcases expireTo_cases (e := e) (s := s) .finWait2 with gone | same
    · exact closed_tick _ gone
    · rw [same]
      refine ⟨(pumpTail_tidy _ _).prompt prompt,pumpTail_attended _ _ ?_ ?_⟩
      · intro other
        rw [other] at here
        cases here
      · intro _ _ idle pending
        obtain ⟨_,owing⟩ := pending_idle idle pending
        have sent : s.sndSeq.finSent = true := law.out (.inl here)
        rw [here,sent] at owing
        simp only [reduceCtorEq,and_false,false_or,Bool.true_eq_false] at owing
        exact absurd owing (prompt.idle (.inr (.inr here))).unheld
  · rename_i here
    rcases expireTo_cases (e := e) (s := s) .timeWait with gone | same
    · exact closed_tick _ gone
    · rw [same]
      refine ⟨(pumpTail_tidy _ _).prompt prompt,pumpTail_attended _ _ ?_ ?_⟩
      · intro other
        rw [other] at here
        cases here
      · intro _ _ _ _
        refine ⟨.timeWait,?_,by decide,prompt.waiting here⟩
        rw [here]
        decide

theorem applyPmtuUpdate_prompt (inv : Inv (s.senderAt none)) (prompt : s.Prompt) (nextHopMtu : Nat)
    (version : Plpmtud.IpVersion) : (s.applyPmtuUpdate e nextHopMtu version).Prompt := by
  unfold applyPmtuUpdate
  dsimp only
  by_cases shrunk : (pmtuMss nextHopMtu version).1 < s.win.sndMss.1
  · simp only [shrunk,decide_true,if_true]
    split
    · exact prompt.rewound inv rfl rfl (.inr rfl) rfl fun _ => rfl
    · exact Tidy.prompt (s := s) ⟨rfl,rfl,.inl ⟨rfl,rfl⟩⟩ prompt
  · simp only [shrunk,decide_false,Bool.false_eq_true,if_false,false_and]
    exact Tidy.prompt (s := s) ⟨rfl,rfl,.inl ⟨rfl,rfl⟩⟩ prompt

theorem dispatchIcmp_prompt (inv : Inv (s.senderAt none)) (prompt : s.Prompt) (m : IcmpMetadata) :
    (s.dispatchIcmp e m).Prompt := by
  have noted : ∀ error, ({s with connectionError := error} : TcpSession).Prompt :=
    fun _ => Tidy.prompt (s := s) ⟨rfl,rfl,.inl ⟨rfl,rfl⟩⟩ prompt
  unfold dispatchIcmp
  split
  · exact prompt
  · exact prompt
  · unfold synSentIcmp
    split
    · split
      · exact .closed (changeState_state _ _)
      · split
        · exact noted _
        · split
          · exact noted _
          · exact prompt
    · exact applyPmtuUpdate_prompt inv prompt _ _
    · exact prompt
  · unfold synchronizedIcmp
    split
    · exact applyPmtuUpdate_prompt inv prompt _ _
    · exact prompt

theorem closeCall_prompt (inv : Inv (s.senderAt none)) (prompt : s.Prompt) : (s.closeCall e).Prompt := by
  unfold closeCall
  split
  · exact .closed (changeState_state _ _)
  · exact .closed (changeState_state _ _)
  · rename_i here
    have unsent : s.sndSeq.finSent = false := inv.unsent (by show finPhase s.state = false; rw [here]; rfl)
    generalize named : ({s with connectionError := .canceled,eventConnect := s.eventConnect + 1} : TcpSession) = t
    have same : t.sndSeq = s.sndSeq := by rw [← named]
    have state : (t.changeState e .finWait1 none).state = .finWait1 := changeState_state _ _
    have out : (t.changeState e .finWait1 none).sndSeq.finSent = false := by
      rw [changeState_sndSeq,same]
      exact unsent
    refine ⟨?_,?_,?_,?_,?_⟩
    · rw [state]
      simp
    · rw [state]
      simp
    · rw [out]
      simp
    · rw [out]
      simp
    · rw [state]
      simp
  · exact Tidy.prompt (s := s) ⟨rfl,rfl,.inl ⟨rfl,rfl⟩⟩ prompt
  · exact Tidy.prompt (s := s) ⟨rfl,rfl,.inl ⟨rfl,rfl⟩⟩ prompt
  · exact (armTimer_tidy .finWait2 _ (by decide)).prompt prompt
  all_goals exact prompt

theorem abort_state : (s.abort e).state = .closed := changeState_state _ _

theorem send_cases (data : List UInt8) : s.send e data = s ∨ (s.send e data).Prompt ∧ (s.send e data).Armed ∧
    (s.send e data).Punctual e.nowMs := by
  unfold send
  split
  · exact .inl rfl
  · split
    · rename_i transfer
      right
      unfold kickPump
      have on : s.state ≠ .closed ∧ s.state ≠ .listen := by
        rcases transfer with here | here <;> rw [here] <;> decide
      rw [if_pos on.1]
      refine ⟨.busy ?_,armPump_armed on.1 on.2,armTimer_punctual _ _⟩
      exact transfer.imp_right .inl
    · exact .inl rfl

-- A session that only its reader or its options were changed of.
structure Unmoved (s t : TcpSession) : Prop where
  state : t.state = s.state
  timers : t.timers = s.timers
  halves : t.rcvSeq = s.rcvSeq ∧ t.sndSeq = s.sndSeq
  rest : t.tx = s.tx ∧ t.closing = s.closing

theorem Unmoved.prompt (same : Unmoved s t) (prompt : s.Prompt) : t.Prompt := by
  refine Tidy.prompt ⟨same.state,?_,.inl same.halves⟩ prompt
  unfold waitDeadline
  rw [same.timers]

theorem Unmoved.attended (same : Unmoved s t) (attended : s.Attended) : t.Attended := by
  obtain ⟨state,timers,⟨rcv,snd⟩,tx,closing⟩ := same
  unfold Attended Pending UnsentFin HeldAck Armed at attended ⊢
  rw [state,timers,rcv,snd,tx,closing]
  exact attended

theorem Unmoved.punctual {now : Nat} (same : Unmoved s t) (punctual : s.Punctual now) : t.Punctual now := by
  obtain ⟨state,timers,_⟩ := same
  unfold Punctual relevant at punctual ⊢
  rw [state,timers]
  exact punctual

theorem shutdownRead_unmoved : Unmoved s s.shutdownRead := by
  unfold shutdownRead
  split <;> exact ⟨rfl,rfl,⟨rfl,rfl⟩,rfl,rfl⟩

theorem receive_unmoved (byteCount : Option Nat) : Unmoved s (s.receive byteCount).2 := by
  unfold receive
  split
  · exact ⟨rfl,rfl,⟨rfl,rfl⟩,rfl,rfl⟩
  · split
    · exact ⟨rfl,rfl,⟨rfl,rfl⟩,rfl,rfl⟩
    · split
      · exact ⟨rfl,rfl,⟨rfl,rfl⟩,rfl,rfl⟩
      · exact ⟨rfl,rfl,⟨rfl,rfl⟩,rfl,rfl⟩

theorem setOption_unmoved (o : SockOption) : Unmoved s (s.setOption o) := by
  cases o <;> exact ⟨rfl,rfl,⟨rfl,rfl⟩,rfl,rfl⟩

theorem external_attended (inv : Inv (t.senderAt none)) (law : WakeLaw (t.senderAt none)) (prompt : t.Prompt)
    (entry : FsmState) (tail : t = u.pumpTail e entry true) : t.Attended ∧ t.Punctual e.nowMs := by
  constructor
  · intro on pending
    have past : t.state ≠ .listen := fun here => listening_unpending inv law prompt here pending
    rw [tail,pumpTail_state] at on past
    rw [tail]
    exact pumpTail_armed entry true (.inl rfl) on past
  · rw [tail]
    exact pumpTail_punctual entry true

-- The events of the state machine and the application's sends and closes.
def stirs : Event → Bool
  | .shutdownRead | .receive _ | .option _ => false
  | _ => true

def ticks : Event → Bool
  | .tick => true
  | _ => false

-- No FIN is acknowledged before it is sent, none is numbered zero, and every
-- segment sent is assembled.
def Wakeful (input : Env × Event) (s : TcpSession) : Prop :=
  KeepsSending [.unsentFin] input s ∧ (ticks input.2 = true → ¬s.ZeroFin)

instance (input : Env × Event) (s : TcpSession) : Decidable (Wakeful input s) :=
  inferInstanceAs (Decidable (_ ∧ (_ = true → ¬_)))

structure Watched (s : TcpSession) : Prop where
  inv : Inv (s.senderAt none)
  law : WakeLaw (s.senderAt none)
  prompt : s.Prompt
  attended : s.Attended
  scheduled : ∃ now, s.Punctual now

theorem fireTimer_watched {allowed : Slip → Prop} (watched : s.Watched) (roomy : s.Roomy)
    (rewinds : s.RewindsAtIss e → allowed .rewind) (clear : ¬s.ZeroFin) :
    s.fireTimer e = s ∨ (s.fireTimer e).Prompt ∧ (s.fireTimer e).Attended ∧ (s.fireTimer e).Punctual e.nowMs := by
  unfold fireTimer
  split
  · right
    have fired := dispatchTimer_tick (e := e) (s := {s with timers := {s.timers with serviceHandle := none}})
      watched.inv watched.law (Tidy.prompt (s := s) ⟨rfl,rfl,.inl ⟨rfl,rfl⟩⟩ watched.prompt) roomy rewinds clear
    exact ⟨fired.1,fired.2,pumpTail_punctual _ _⟩
  · exact .inl rfl

theorem next_watched {input : Env × Event} (watched : s.Watched) (wakeful : Wakeful input s) :
    (s.next input).Watched ∧
      (stirs input.2 = true → s.next input = s ∨ (s.next input).Punctual input.1.nowMs) := by
  obtain ⟨⟨keeps,_⟩,clear⟩ := wakeful
  obtain ⟨result,path⟩ := next_path watched.inv keeps
  have inv := path_inv path watched.inv
  have law : WakeLaw ((s.next input).senderAt none) :=
    Runs.path_keeps WakeLaw (fun _ _ step => wake_law_kept step (by simp)) path watched.law
  obtain ⟨e,event⟩ := input
  -- The tail of an outside event leaves only the promptness to show.
  have outside : ∀ u : TcpSession, ∀ entry, u.Prompt → s.next (e,event) = u.pumpTail e entry true →
      (s.next (e,event)).Watched ∧ (s.next (e,event)).Punctual e.nowMs := by
    intro u entry prompt tail
    have kept : (s.next (e,event)).Prompt := by
      rw [tail]
      exact (pumpTail_tidy _ _).prompt prompt
    obtain ⟨attended,punctual⟩ := external_attended inv law kept entry tail
    exact ⟨⟨inv,law,kept,attended,e.nowMs,punctual⟩,punctual⟩
  have settled : Unmoved s (s.next (e,event)) → (s.next (e,event)).Watched := by
    intro same
    obtain ⟨now,punctual⟩ := watched.scheduled
    exact ⟨inv,law,same.prompt watched.prompt,same.attended watched.attended,now,same.punctual punctual⟩
  have idle : s.next (e,event) = s → (s.next (e,event)).Watched := by
    intro same
    rw [same]
    exact watched
  cases event with
  | packet p =>
    obtain ⟨prompt,u,tail⟩ := tcpFsmPacket_prompt watched.prompt watched.inv keeps.1
      (permits_of_shows fun slip shown barred => keeps.2 slip barred shown) result (fun here => law.out (.inl here))
    obtain ⟨attended,punctual⟩ := external_attended inv law prompt s.state tail
    exact ⟨⟨inv,law,prompt,attended,e.nowMs,punctual⟩,fun _ => .inr punctual⟩
  | tick =>
    rcases @fireTimer_watched e s (fun _ => True) watched keeps.1 (fun _ => trivial) (clear rfl) with
      same | ⟨prompt,attended,punctual⟩
    · exact ⟨idle same,fun _ => .inl same⟩
    · exact ⟨⟨inv,law,prompt,attended,e.nowMs,punctual⟩,fun _ => .inr punctual⟩
  | icmp m =>
    obtain ⟨kept,punctual⟩ := outside _ _ (dispatchIcmp_prompt watched.inv watched.prompt m) rfl
    exact ⟨kept,fun _ => .inr punctual⟩
  | close =>
    obtain ⟨kept,punctual⟩ := outside _ _ (closeCall_prompt watched.inv watched.prompt) rfl
    exact ⟨kept,fun _ => .inr punctual⟩
  | abort =>
    obtain ⟨kept,punctual⟩ := outside (s.abort e) _ (.closed abort_state) rfl
    exact ⟨kept,fun _ => .inr punctual⟩
  | shutdownWrite =>
    by_cases shut : (s.shut.wr || s.closing) = true
    · have same : s.next (e,.shutdownWrite) = s := by
        show s.shutdownWrite e = s
        unfold shutdownWrite
        rw [if_pos shut]
      exact ⟨idle same,fun _ => .inl same⟩
    · have prompt : ({s with shut := {s.shut with wr := true}} : TcpSession).Prompt :=
        Tidy.prompt (s := s) ⟨rfl,rfl,.inl ⟨rfl,rfl⟩⟩ watched.prompt
      have closed := closeCall_prompt (e := e) (s := {s with shut := {s.shut with wr := true}}) watched.inv prompt
      obtain ⟨kept,punctual⟩ := outside _ s.state closed (by
        show s.shutdownWrite e = _
        unfold shutdownWrite
        rw [if_neg shut]
        rfl)
      exact ⟨kept,fun _ => .inr punctual⟩
  | send data =>
    rcases send_cases (e := e) (s := s) data with same | ⟨prompt,armed,punctual⟩
    · exact ⟨idle same,fun _ => .inl same⟩
    · exact ⟨⟨inv,law,prompt,fun _ _ => armed,e.nowMs,punctual⟩,fun _ => .inr punctual⟩
  | shutdownRead => exact ⟨settled shutdownRead_unmoved,nofun⟩
  | receive byteCount => exact ⟨settled (receive_unmoved byteCount),nofun⟩
  | option o => exact ⟨settled (setOption_unmoved o),nofun⟩

theorem openCall_state {new : FsmState} (o : Opening) (data : List UInt8) :
    ((o.session.preload data).openCall e new).state = new := by
  have fresh : (o.session.preload data).state = .closed := rfl
  unfold openCall
  rw [if_pos fresh]
  exact changeState_state _ _

theorem openCall_answered {new : FsmState} (o : Opening) (data : List UInt8) :
    ((o.session.preload data).openCall e new).Answered := by
  have fresh : (o.session.preload data).Answered := rfl
  unfold openCall
  split
  · exact fresh.moved new none
  · exact fresh

theorem opened_watched (opened : Opened s) : s.Watched := by
  have inv := opened_inv opened
  have law := opened_wakes opened
  have opens : ∃ (e : Env) (u : TcpSession), s = u.pumpTail e .closed true ∧ u.Answered ∧ u.state ≠ .timeWait := by
    cases opened with
    | listening o e =>
      refine ⟨e,o.session.openCall e .listen,rfl,openCall_answered o [],?_⟩
      have state : (o.session.openCall e .listen).state = .listen := openCall_state o []
      rw [state]
      decide
    | connecting o e data =>
      refine ⟨e,(o.session.preload data).openCall e .synSent,rfl,openCall_answered o data,?_⟩
      rw [openCall_state o data]
      decide
  obtain ⟨e,u,tail,answered,unwaiting⟩ := opens
  have prompt : s.Prompt := by
    rw [tail]
    exact (pumpTail_tidy _ _).prompt (.answered answered fun waiting => absurd waiting unwaiting)
  obtain ⟨attended,punctual⟩ := external_attended inv law prompt .closed tail
  exact ⟨inv,law,prompt,attended,e.nowMs,punctual⟩

theorem reached_watched (reached : Reached Wakeful s) : s.Watched :=
  Runs.Reached.invariant Watched (fun _ opened => opened_watched opened)
    (fun _ _ watched wakeful => (next_watched watched wakeful).1) reached

end TcpSession

end PmdPytcp.Tcp
