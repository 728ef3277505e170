import PmdPytcp.Tcp.Fsm
import PmdPytcp.Tcp.Refine.Tx

namespace PmdPytcp.Tcp
open Arc

namespace TcpSession

variable {e : Env} {s : TcpSession}

theorem pumpTail_shape (entry : FsmState) (external : Bool) :
    ∃ t, s.pumpTail e entry external = {s with timers := t} := by
  unfold pumpTail
  dsimp only
  split
  · exact ⟨_,rfl⟩
  · split
    · exact ⟨_,rfl⟩
    · exact ⟨_,rfl⟩

@[simp] theorem pumpTail_log (entry : FsmState) (external : Bool) : (s.pumpTail e entry external).log = s.log := by
  obtain ⟨t,shape⟩ := pumpTail_shape (e := e) (s := s) entry external
  rw [shape]

@[simp] theorem pumpTail_state (entry : FsmState) (external : Bool) :
    (s.pumpTail e entry external).state = s.state := by
  obtain ⟨t,shape⟩ := pumpTail_shape (e := e) (s := s) entry external
  rw [shape]

@[simp] theorem armTimer_state (name : TimerName) (delayMs : Nat) : (s.armTimer e name delayMs).state = s.state := rfl

@[simp] theorem cancelTimer_state (name : TimerName) : (s.cancelTimer e name).state = s.state := rfl

theorem ecnObserve_shape (p : TcpMetadata) : ∃ ec a, s.ecnObserve p = {s with ecn := ec,accecn := a} ∧
    ec.enabled = s.ecn.enabled ∧ ec.recoveryPoint = s.ecn.recoveryPoint ∧ a.enabled = s.accecn.enabled ∧
    a.sCeB = s.accecn.sCeB ∧ a.sCep = s.accecn.sCep := by
  have classic : ∃ ec : ClassicEcnState, (if s.ecn.enabled = true then {s with ecn := {s.ecn with
      sendEce := decide (p.ipEcn = 3) || (s.ecn.sendEce && !p.tcpFlagCwr)}} else s) = {s with ecn := ec} ∧
      ec.enabled = s.ecn.enabled ∧ ec.recoveryPoint = s.ecn.recoveryPoint := by
    split
    · exact ⟨_,rfl,rfl,rfl⟩
    · exact ⟨s.ecn,rfl,rfl,rfl⟩
  have counted : ∀ a : AccEcnState, (a.recordReceivedCodepoint p.ipEcn p.tcpData.length).enabled = a.enabled ∧
      (a.recordReceivedCodepoint p.ipEcn p.tcpData.length).sCeB = a.sCeB ∧
      (a.recordReceivedCodepoint p.ipEcn p.tcpData.length).sCep = a.sCep := by
    intro a
    unfold AccEcnState.recordReceivedCodepoint
    split
    · exact ⟨rfl,rfl,rfl⟩
    · split
      · exact ⟨rfl,rfl,rfl⟩
      · split <;> exact ⟨rfl,rfl,rfl⟩
  obtain ⟨ec,first,enabled,point⟩ := classic
  unfold ecnObserve
  rw [first]
  dsimp only
  split
  · exact ⟨ec,_,rfl,enabled,point,counted _⟩
  · exact ⟨ec,s.accecn,rfl,enabled,point,rfl,rfl,rfl⟩

def accecnReports (p : TcpMetadata) (s : TcpSession) : Bool :=
  s.accecn.enabled &&
    match p.tcpAccecn0Counters with
    | some counters => counters.2.1.any fun ceb => decide (s.accecn.sCeB < ceb)
    | none => !p.tcpFlagSyn && decide (0 < (s.accecn.apparentCeDelta p.ace).1)

theorem accecnCounter_shape (p : TcpMetadata) : ∃ ec a, s.accecnCounter p = {s with
    ecn := ec,accecn := a
    cc := if s.ecnReady && p.tcpAccecn0Counters.isSome && s.accecnReports p then s.reduceForEcn.cc else s.cc} := by
  unfold accecnCounter accecnReports
  cases counters : p.tcpAccecn0Counters with
  | none => exact ⟨s.ecn,s.accecn,by rw [if_neg (by simp)]⟩
  | some values =>
    cases on : s.accecn.enabled with
    | false => exact ⟨s.ecn,s.accecn,by simp⟩
    | true =>
      dsimp only
      rw [if_pos rfl]
      cases more : (values.2.1.any fun ceb => decide (s.accecn.sCeB < ceb)) && s.ecnReady with
      | false =>
        rw [if_neg (by simp),if_neg]
        · exact ⟨s.ecn,_,rfl⟩
        · rw [Bool.and_comm] at more
          simpa using more
      | true =>
        rw [if_pos rfl,if_pos]
        · exact ⟨_,_,rfl⟩
        · simpa [and_comm] using more

theorem accecnAce_shape (p : TcpMetadata) : ∃ ec a, s.accecnAce p = {s with
    ecn := ec,accecn := a
    cc := if s.ecnReady && p.tcpAccecn0Counters.isNone && s.accecnReports p then s.reduceForEcn.cc else s.cc} := by
  unfold accecnAce accecnReports
  cases counters : p.tcpAccecn0Counters with
  | some values => exact ⟨s.ecn,s.accecn,by simp⟩
  | none =>
    cases runs : s.accecn.enabled && !p.tcpFlagSyn with
    | false =>
      rw [if_neg,if_neg]
      · exact ⟨s.ecn,s.accecn,rfl⟩
      · simp only [Bool.and_eq_false_iff] at runs
        rcases runs with off | syn
        · simp [off]
        · simp [syn]
      · simpa using runs
    | true =>
      simp only [Bool.and_eq_true] at runs
      rw [if_pos (by simp [runs])]
      cases more : decide (0 < (s.accecn.apparentCeDelta p.ace).1) && s.ecnReady with
      | false =>
        rw [if_neg (show ¬(s.ecnReady && _ && _) = true by
          intro both
          simp only [Bool.and_eq_true] at both
          simp [both.1.1,both.2.2.2] at more)]
        refine ⟨s.ecn,_,if_neg ?_⟩
        intro both
        rw [show (decide (0 < (s.accecn.apparentCeDelta p.ace).1) && s.ecnReady) = true from both] at more
        cases more
      | true =>
        rw [if_pos (show (s.ecnReady && _ && _) = true by
          simp only [Bool.and_eq_true] at more
          simp [runs,more])]
        exact ⟨_,_,if_pos more⟩

theorem accecn_shape (p : TcpMetadata) : ∃ ec a, (s.accecnCounter p).accecnAce p = {s with
    ecn := ec,accecn := a,cc := if s.ecnReady && s.accecnReports p then s.reduceForEcn.cc else s.cc} := by
  cases counters : p.tcpAccecn0Counters with
  | some values =>
    obtain ⟨ec,a,shape⟩ := accecnCounter_shape (s := s) p
    have last : ∀ t : TcpSession, t.accecnAce p = t := by
      intro t
      unfold accecnAce
      rw [counters,if_neg (by simp)]
    rw [counters,Option.isSome_some,Bool.and_true] at shape
    exact ⟨ec,a,by rw [last,shape]⟩
  | none =>
    obtain ⟨ec,a,shape⟩ := accecnAce_shape (s := s) p
    have first : s.accecnCounter p = s := by
      unfold accecnCounter
      rw [counters]
    rw [counters,Option.isNone_none,Bool.and_true] at shape
    exact ⟨ec,a,by rw [first,shape]⟩

-- The segment reports congestion that the session has not reacted to yet.
def ecnReacts (p : TcpMetadata) (s : TcpSession) : Bool :=
  s.ecnReady && (s.ecn.enabled && p.tcpFlagEce || s.accecnReports p)

theorem ecnEcho_shape (p : TcpMetadata) : ∃ ec, s.ecnEcho p = {s with
    ecn := ec
    cc := if s.ecnReady && (s.ecn.enabled && p.tcpFlagEce) then s.reduceForEcn.cc else s.cc} ∧
    ((s.ecnReady && (s.ecn.enabled && p.tcpFlagEce)) = false → ec = s.ecn) := by
  unfold ecnEcho
  cases echo : s.ecnReady && (s.ecn.enabled && p.tcpFlagEce) with
  | false =>
    rw [if_neg,if_neg (by simp)]
    · exact ⟨s.ecn,rfl,fun _ => rfl⟩
    · intro all
      simp only [Bool.and_eq_true] at all
      simp [all] at echo
  | true =>
    rw [if_pos,if_pos rfl]
    · exact ⟨_,rfl,by simp⟩
    · simp only [Bool.and_eq_true] at echo ⊢
      exact ⟨echo.2,echo.1⟩

theorem ecnPrologue_shape (p : TcpMetadata) : ∃ ec a, s.ecnPrologue p = {s with
    ecn := ec,accecn := a,cc := if s.ecnReacts p then s.reduceForEcn.cc else s.cc} := by
  obtain ⟨ec,a,observed,classic,point,accurate,ceb,cep⟩ := ecnObserve_shape (s := s) p
  obtain ⟨ec₁,echo,kept⟩ := ecnEcho_shape (s := {s with ecn := ec,accecn := a}) p
  have ready : ({s with ecn := ec,accecn := a} : TcpSession).ecnReady = s.ecnReady := by
    unfold ecnReady
    rw [point]
  have reports : ({s with ecn := ec,accecn := a} : TcpSession).accecnReports p = s.accecnReports p := by
    unfold accecnReports AccEcnState.apparentCeDelta
    rw [accurate,ceb,cep]
  unfold ecnPrologue
  rw [observed,echo]
  rw [ready] at kept ⊢
  cases echoes : s.ecnReady && (ec.enabled && p.tcpFlagEce) with
  | true =>
    obtain ⟨ec₂,a₂,shape⟩ := accecn_shape (s := {s with ecn := ec₁,accecn := a,cc := s.reduceForEcn.cc}) p
    have reacts : s.ecnReacts p = true := by
      rw [classic] at echoes
      unfold ecnReacts
      simp only [Bool.and_eq_true] at echoes
      simp [echoes]
    -- A second reaction finds nothing left to reduce.
    have once : ∀ again : Bool, (if again then
        ({s with ecn := ec₁,accecn := a,cc := s.reduceForEcn.cc} : TcpSession).reduceForEcn.cc
        else s.reduceForEcn.cc) = s.reduceForEcn.cc := by
      intro again
      cases again with
      | false => rfl
      | true => rfl
    dsimp only at shape
    rw [once] at shape
    rw [reacts,if_pos rfl,if_pos rfl]
    exact ⟨ec₂,a₂,shape⟩
  | false =>
    obtain ⟨ec₂,a₂,shape⟩ := accecn_shape (s := {s with ecn := ec,accecn := a}) p
    refine ⟨ec₂,a₂,?_⟩
    rw [kept echoes,if_neg (by simp)]
    refine shape.trans ?_
    rw [ready,reports]
    have same : s.ecnReacts p = (s.ecnReady && s.accecnReports p) := by
      rw [classic] at echoes
      unfold ecnReacts
      cases ok : s.ecnReady with
      | false => rfl
      | true =>
        rw [ok,Bool.true_and] at echoes
        rw [echoes]
        rfl
    rw [same]
    rfl

section Pump
variable {rel : TcpSession → TcpSession → Prop}

-- A relation that every write of the pump respects: what it sends, SND.NXT past
-- what the peer holds, the small segment, the path-MTU search, the persist timer.
structure Pumps (e : Env) (rel : TcpSession → TcpSession → Prop) : Prop where
  refl : ∀ s, rel s s
  trans : ∀ {s t u}, rel s t → rel t u → rel s u
  sends : ∀ s m, rel s (s.transmitPacket e m)
  skips : ∀ (s : TcpSession) nxt, rel s {s with sndSeq := {s.sndSeq with nxt := nxt}}
  marks : ∀ s : TcpSession, rel s s.markSmall
  searches : ∀ (s : TcpSession) a, rel s {s with plpmtudAdapter := a}
  persists : ∀ (s : TcpSession) q timeout, rel s ({s with persist := q}.armTimer e .persist timeout)

-- An observation that none of these writes changes.
theorem Pumps.same {α : Type} {f : TcpSession → α} (sends : ∀ s m, f (s.transmitPacket e m) = f s)
    (skips : ∀ (s : TcpSession) nxt, f {s with sndSeq := {s.sndSeq with nxt := nxt}} = f s)
    (marks : ∀ s : TcpSession, f s.markSmall = f s) (searches : ∀ (s : TcpSession) a, f {s with plpmtudAdapter := a} = f s)
    (persists : ∀ (s : TcpSession) q timeout, f ({s with persist := q}.armTimer e .persist timeout) = f s) :
    Pumps e fun s t => f t = f s :=
  ⟨fun _ => rfl,fun first second => second.trans first,sends,skips,marks,searches,persists⟩

theorem Pumps.sendData (pumps : Pumps e rel) (probe : Option (Int × Int)) (len : Nat) : rel s (s.sendData e probe len) := by
  unfold TcpSession.sendData
  dsimp only
  split
  · exact pumps.refl s
  · generalize shape : ({flagAck := true,flagPsh := _,data := _} : Emit) = m
    have sent := pumps.sends s m
    generalize s.transmitPacket e m = t at sent ⊢
    obtain ⟨a,noted⟩ := noteSent_shape (e := e) (s := t) probe (lt32 s.sndSeq.nxt s.sndSeq.max)
      s.sndSeq.nxt (add32 s.sndSeq.nxt len) ((len : Int) + s.ipTcpOverhead + s.optionsOverhead)
    rw [noted]
    have searched := pumps.trans sent (pumps.searches t a)
    split
    · exact pumps.trans searched (pumps.marks _)
    · exact searched

theorem Pumps.probeZeroWindow (pumps : Pumps e rel) : rel s (s.probeZeroWindow e) := by
  unfold TcpSession.probeZeroWindow
  split
  · exact pumps.refl s
  · split
    · exact pumps.persists s _ _
    · split
      · dsimp only
        generalize shape : ({flagAck := true,data := _} : Emit) = m
        have sent := pumps.trans (pumps.sends s m) (pumps.marks _)
        exact pumps.trans sent (pumps.persists _ _ _)
      · exact pumps.refl s

theorem Pumps.pumpData (pumps : Pumps e rel) : rel s (s.pumpData e) := by
  rw [pumpData_eq s.advanceSndNxtPastSacked rfl]
  have skipped : rel s s.advanceSndNxtPastSacked := by
    unfold advanceSndNxtPastSacked
    split
    · exact pumps.refl s
    · exact pumps.skips s _
  generalize s.advanceSndNxtPastSacked = t at skipped ⊢
  obtain ⟨a,reserved,_⟩ := reserveProbe_shape (e := e) (s := t)
  have searched : rel s (t.reserveProbe e).2 := by
    rw [reserved]
    exact pumps.trans skipped (pumps.searches t a)
  generalize (t.reserveProbe e).2 = u at searched ⊢
  split
  · exact searched
  · split
    · exact pumps.trans searched (pumps.sendData _ _)
    · exact pumps.trans searched pumps.probeZeroWindow

theorem Pumps.transmitDataOnce (pumps : Pumps e rel) : rel s (s.transmitDataOnce e) := by
  unfold TcpSession.transmitDataOnce
  split
  · exact pumps.refl s
  · split
    · exact pumps.sends s _
    · split
      · exact pumps.sends s _
      · split
        · exact pumps.pumpData
        · split
          · exact pumps.sends s _
          · exact pumps.refl s

theorem Pumps.pumpLoop (pumps : Pumps e rel) (n : Nat) : rel s (pumpLoop e n s) := by
  induction n generalizing s with
  | zero => exact pumps.refl s
  | succ n ih =>
    unfold TcpSession.pumpLoop
    dsimp only
    split
    · exact pumps.transmitDataOnce
    · exact pumps.trans pumps.transmitDataOnce ih

theorem Pumps.transmitData (pumps : Pumps e rel) : rel s (s.transmitData e) := pumps.pumpLoop _

theorem Pumps.emitChallengeAck (pumps : Pumps e rel)
    (arms : ∀ (s : TcpSession) timeout, rel s (s.armTimer e .challengeAck timeout)) : rel s (s.emitChallengeAck e) := by
  unfold TcpSession.emitChallengeAck
  split
  · exact pumps.refl s
  · exact pumps.trans (pumps.sends s _) (arms _ _)

theorem Pumps.delayedAck (pumps : Pumps e rel) (cancels : ∀ s : TcpSession, rel s (s.cancelTimer e .delayedAck)) :
    rel s (s.delayedAck e) := by
  unfold TcpSession.delayedAck
  split
  · exact pumps.refl s
  · dsimp only
    have acked : rel s (if gt32 s.rcvSeq.nxt s.rcvSeq.una then s.transmitPacket e {flagAck := true} else s) := by
      split
      · exact pumps.sends s _
      · exact pumps.refl s
    generalize (if gt32 s.rcvSeq.nxt s.rcvSeq.una then s.transmitPacket e {flagAck := true} else s) = t at acked ⊢
    split
    · exact pumps.trans acked (cancels t)
    · exact acked

end Pump

end TcpSession

end PmdPytcp.Tcp
