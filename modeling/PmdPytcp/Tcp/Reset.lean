import PmdPytcp.Tcp.Acceptance
import PmdPytcp.Tcp.Answer
import PmdPytcp.Tcp.Refine.Retransmit

namespace PmdPytcp.Tcp
open Arc

-- What the parser lets through (`validate_sanity`): the flags that contradict
-- each other never come together, and FIN never without ACK.
def TcpMetadata.Sane (p : TcpMetadata) : Prop :=
  ¬(p.tcpFlagSyn = true ∧ p.tcpFlagFin = true) ∧ ¬(p.tcpFlagSyn = true ∧ p.tcpFlagRst = true) ∧
    ¬(p.tcpFlagFin = true ∧ p.tcpFlagRst = true) ∧ (p.tcpFlagFin = true → p.tcpFlagAck = true)

-- The synchronized states other than TIME_WAIT.
def resettable (state : FsmState) : Bool :=
  decide (state = .established ∨ state = .finWait1 ∨ state = .finWait2 ∨ state = .closing ∨ state = .closeWait ∨
    state = .lastAck)

namespace TcpSession

variable {e : Env} {p : TcpMetadata} {s s' : TcpSession}

theorem not_onlyAck (rst : p.tcpFlagRst = true) : ¬p.OnlyAck := by
  intro only
  rw [only.2.2.1] at rst
  cases rst

theorem not_finAck (rst : p.tcpFlagRst = true) : ¬p.FinAck := by
  intro fin
  rw [fin.2.2.2] at rst
  cases rst

theorem Sane.reset (sane : p.Sane) (rst : p.tcpFlagRst = true) : p.Reset := by
  obtain ⟨_,syn,fin,_⟩ := sane
  refine ⟨rst,?_,?_⟩
  · simpa using fun set => fin ⟨set,rst⟩
  · simpa using fun set => syn ⟨set,rst⟩

-- In LAST_ACK the application has nobody to tell.
def resetError (state : FsmState) : Option ConnError := if state = .lastAck then none else some .reset

-- Only ESTABLISHED shows RSTs to PAWS.
def resetVerdict (e : Env) (p : TcpMetadata) (s : TcpSession) : PawsVerdict :=
  if s.state = .established then s.pawsVerdict e p else .accept

def judgeReset (e : Env) (p : TcpMetadata) (s : TcpSession) : TcpSession :=
  match s.resetVerdict e p with
  | .accept => s.takeReset (resetError s.state) e p
  | .refresh => (s.refreshTsRecent e p).takeReset (resetError s.state) e p
  | .dropSilent => s
  | .dropAnswered => s.emitChallengeAck e

theorem dispatch_reset (replay : Replay) (sane : p.Sane) (rst : p.tcpFlagRst = true) (here : resettable s.state = true) :
    s.dispatchPacket replay e p = .ok (if s.segmentAcceptable p = true then s.judgeReset e p else s) := by
  have syn : p.tcpFlagSyn = false := (Sane.reset sane rst).2.2
  have only := not_onlyAck rst
  have fin := not_finAck rst
  unfold dispatchPacket judgeReset resetVerdict resetError
  cases state : s.state with
  | closed | listen | synSent | synRcvd | timeWait =>
    rw [state] at here
    cases here
  | established =>
    unfold fsmEstablishedPacket checkSegmentAcceptability checkPawsAndUpdateTsRecent
    cases gate : s.segmentAcceptable p with
    | false => simp [syn,rst]
    | true => cases verdict : s.pawsVerdict e p <;> simp [syn,only,fin,verdict]
  | finWait1 =>
    unfold fsmFinWait1Packet checkSegmentAcceptability
    cases gate : s.segmentAcceptable p with
    | false => simp [syn,rst]
    | true => simp [syn,only,fin]
  | finWait2 =>
    unfold fsmFinWait2Packet checkSegmentAcceptability
    cases gate : s.segmentAcceptable p with
    | false => simp [syn,rst]
    | true => simp [syn,only,fin]
  | closing =>
    unfold fsmClosingPacket checkSegmentAcceptability
    cases gate : s.segmentAcceptable p with
    | false => simp [syn,rst]
    | true => simp [syn,only]
  | closeWait =>
    unfold fsmCloseWaitPacket checkSegmentAcceptability
    cases gate : s.segmentAcceptable p with
    | false => simp [syn,rst]
    | true => simp [syn,only]
  | lastAck =>
    unfold fsmLastAckPacket checkSegmentAcceptability
    cases gate : s.segmentAcceptable p with
    | false => simp [syn,rst]
    | true => simp [syn,only]

@[simp] theorem changeState_state (new : FsmState) (cause : Option Seq32) : (s.changeState e new cause).state = new := by
  obtain ⟨f,ev,ec,t,k,shape⟩ := changeState_shape (e := e) (s := s) new cause
  rw [shape]

theorem rstAcceptable_iff : s.rstAcceptable p = true ↔ p.tcpSeq = s.rcvSeq.nxt ∧
    (p.tcpFlagAck = true → arc s.sndSeq.una p.tcpAck ≤ arc s.sndSeq.una s.sndSeq.max) := by
  unfold rstAcceptable
  rw [Bool.and_eq_true,beq_iff_eq,Bool.or_eq_true,inRange32_iff]
  cases p.tcpFlagAck with
  | false => simp
  | true => simp

theorem takeReset_closes (error : Option ConnError) (reset : p.Reset) (exact_ : s.rstAcceptable p = true) :
    (s.takeReset error e p).state = .closed := by
  have verdict : s.checkRstAcceptability e p = (true,s) := by
    unfold checkRstAcceptability
    rw [if_pos exact_]
  unfold takeReset
  rw [if_pos reset,verdict]
  dsimp only
  rw [if_pos rfl,changeState_state]

theorem inside_iff {nxt seq : Seq32} {wnd : Nat} (narrow : wnd < 0x8000_0000) :
    (lt32 nxt seq && lt32 seq (add32 nxt wnd)) = true ↔ seq ≠ nxt ∧ arc nxt seq < wnd := by
  have values := arc_values nxt seq
  have back := arc_split nxt seq nxt
  have far := arc_lt nxt seq
  have place := @arc_eq_zero 32 nxt seq
  have left := nxt.isLt
  have right := seq.isLt
  have sum := BitVec.toNat_add nxt (BitVec.ofNat 32 wnd)
  rw [arc_self] at back
  rw [Bool.and_eq_true,lt32_iff,lt32_iff,arc_add32_right,ne_comm,Ne,← place,add32_nat]
  rw [BitVec.toNat_ofNat] at sum
  omega

theorem takeReset_stays (error : Option ConnError) (mismatch : s.rstAcceptable p = false)
    (narrow : s.rcvWnd < 0x8000_0000) : s.takeReset error e p =
      if p.Reset ∧ p.tcpSeq ≠ s.rcvSeq.nxt ∧ arc s.rcvSeq.nxt p.tcpSeq < s.rcvWnd then s.emitChallengeAck e else s := by
  have verdict : s.checkRstAcceptability e p =
      if p.tcpSeq ≠ s.rcvSeq.nxt ∧ arc s.rcvSeq.nxt p.tcpSeq < s.rcvWnd then (false,s.emitChallengeAck e)
      else (false,s) := by
    unfold checkRstAcceptability
    rw [if_neg (by simp [mismatch])]
    by_cases inside : p.tcpSeq ≠ s.rcvSeq.nxt ∧ arc s.rcvSeq.nxt p.tcpSeq < s.rcvWnd
    · rw [if_pos inside,if_pos ((inside_iff narrow).mpr inside)]
    · rw [if_neg inside,if_neg fun test => inside ((inside_iff narrow).mp test)]
  unfold takeReset
  rw [verdict]
  by_cases reset : p.Reset
  · rw [if_pos reset]
    by_cases inside : p.tcpSeq ≠ s.rcvSeq.nxt ∧ arc s.rcvSeq.nxt p.tcpSeq < s.rcvWnd
    · rw [if_pos inside,if_pos ⟨reset,inside⟩]
      rfl
    · rw [if_neg inside,if_neg (not_and_of_not_right _ inside)]
      rfl
  · rw [if_neg reset,if_neg (not_and_of_not_left _ reset)]

theorem acceptable_overlaps {seq nxt : Seq32} {segLen wnd : Nat} (short : segLen ≤ 0x1_0000) (narrow : wnd ≤ windowMax)
    (inner : ¬AtRightEdge seq segLen nxt wnd) :
    acceptable seq segLen nxt wnd = true ↔ MeetsWindow seq segLen nxt wnd := by
  have cap : windowMax = 0x3FFF_C000 := rfl
  refine acceptable_meets (by omega) (by omega) inner ?_
  unfold SpansHalf
  omega

theorem segLen_reset (reset : p.Reset) : p.segLen = p.tcpData.length := by
  unfold TcpMetadata.segLen
  rw [reset.2.1,reset.2.2]
  rfl

theorem tcpFsmPacket_ok {s' : TcpSession} (done : (s.ecnPrologue p).dispatchPacket (fsmPacket e s.oooPacketQueue.length)
    e p = .ok s') : s.tcpFsmPacket e p = .ok (s'.pumpTail e s.state true) := by
  unfold tcpFsmPacket fsmPacket
  dsimp only
  rw [done]
  rfl

theorem tcpFsmPacket_inv {s' : TcpSession} (done : s.tcpFsmPacket e p = .ok s') : ∃ t,
    (s.ecnPrologue p).dispatchPacket (fsmPacket e s.oooPacketQueue.length) e p = .ok t ∧ t.pumpTail e s.state true = s' := by
  unfold tcpFsmPacket fsmPacket at done
  dsimp only at done
  cases dispatched : (s.ecnPrologue p).dispatchPacket (fsmPacket e s.oooPacketQueue.length) e p with
  | error failure =>
    rw [dispatched] at done
    cases done
  | ok t =>
    rw [dispatched] at done
    cases done
    exact ⟨t,rfl,rfl⟩

theorem reset_gate_at (reset : p.Reset) (narrow : s.rcvWnd ≤ windowMax) (place : p.tcpSeq = s.rcvSeq.nxt) :
    s.segmentAcceptable p = true ↔ p.tcpData = [] ∨ 0 < s.rcvWnd := by
  have data := p.dataSmall
  unfold segmentAcceptable
  rw [acceptable_overlaps (by rw [segLen_reset reset]; omega) narrow,place,segLen_reset reset]
  · unfold MeetsWindow
    split
    · rename_i none
      rw [arc_self]
      refine ⟨fun _ => .inl (List.length_eq_zero_iff.mp none),fun _ => ?_⟩
      split
      · rfl
      · omega
    · rename_i loaded
      constructor
      · rintro ⟨i,_,inside⟩
        exact .inr (by omega)
      · intro opened
        refine ⟨0,by omega,?_⟩
        rw [Int.natCast_zero,add32_zero,arc_self]
        exact opened.resolve_left fun empty => loaded (by rw [empty]; rfl)
  · rintro ⟨_,opened,edge⟩
    rw [place,arc_self] at edge
    omega

theorem reset_gate_inside (reset : p.Reset) (narrow : s.rcvWnd ≤ windowMax)
    (inside : arc s.rcvSeq.nxt p.tcpSeq < s.rcvWnd) : s.segmentAcceptable p = true := by
  have data := p.dataSmall
  unfold segmentAcceptable
  rw [acceptable_overlaps (by rw [segLen_reset reset]; omega) narrow]
  · unfold MeetsWindow
    split
    · rw [if_neg (by omega)]
      exact inside
    · refine ⟨0,by omega,?_⟩
      rwa [Int.natCast_zero,add32_zero]
  · rintro ⟨_,_,edge⟩
    omega

theorem off_mismatch (off : p.tcpSeq ≠ s.rcvSeq.nxt) : s.rstAcceptable p = false := by
  cases test : s.rstAcceptable p with
  | false => rfl
  | true => exact absurd (rstAcceptable_iff.mp test).1 off

theorem refreshTsRecent_shape : ∃ stamps, s.refreshTsRecent e p = {s with ts := stamps} := by
  unfold refreshTsRecent
  split
  · exact ⟨s.ts,rfl⟩
  · exact ⟨_,rfl⟩

theorem judgeReset_off (reset : p.Reset) (narrow : s.rcvWnd ≤ windowMax) (off : p.tcpSeq ≠ s.rcvSeq.nxt) :
    s.judgeReset e p = match s.resetVerdict e p with
      | .accept => if arc s.rcvSeq.nxt p.tcpSeq < s.rcvWnd then s.emitChallengeAck e else s
      | .refresh => if arc s.rcvSeq.nxt p.tcpSeq < s.rcvWnd then (s.refreshTsRecent e p).emitChallengeAck e
          else s.refreshTsRecent e p
      | .dropSilent => s
      | .dropAnswered => s.emitChallengeAck e := by
  have cap : windowMax = 0x3FFF_C000 := rfl
  have strict : (p.Reset ∧ p.tcpSeq ≠ s.rcvSeq.nxt ∧ arc s.rcvSeq.nxt p.tcpSeq < s.rcvWnd) =
      (arc s.rcvSeq.nxt p.tcpSeq < s.rcvWnd) := by simp [reset,off]
  unfold judgeReset
  cases s.resetVerdict e p with
  | accept =>
    dsimp only
    rw [takeReset_stays _ (off_mismatch off) (by omega)]
    simp only [strict]
  | refresh =>
    obtain ⟨stamps,shape⟩ := refreshTsRecent_shape (e := e) (p := p) (s := s)
    have rest := takeReset_stays (e := e) (s := {s with ts := stamps}) (resetError s.state) (off_mismatch off)
      (show s.rcvWnd < 0x8000_0000 by omega)
    dsimp only at rest ⊢
    rw [shape]
    refine rest.trans ?_
    show (if p.Reset ∧ p.tcpSeq ≠ s.rcvSeq.nxt ∧ arc s.rcvSeq.nxt p.tcpSeq < s.rcvWnd then _ else _) = _
    simp only [strict]
  | dropSilent => rfl
  | dropAnswered => rfl

theorem judgeReset_marks (reset : p.Reset) (narrow : s.rcvWnd ≤ windowMax) (off : p.tcpSeq ≠ s.rcvSeq.nxt) :
    (s.judgeReset e p).marks = s.marks := by
  have refreshed : (s.refreshTsRecent e p).marks = s.marks := by
    obtain ⟨stamps,shape⟩ := refreshTsRecent_shape (e := e) (p := p) (s := s)
    rw [shape]
    rfl
  rw [judgeReset_off reset narrow off]
  cases s.resetVerdict e p with
  | accept =>
    dsimp only
    split
    · exact emitChallengeAck_marks
    · rfl
  | refresh =>
    dsimp only
    split
    · rw [emitChallengeAck_marks,refreshed]
    · exact refreshed
  | dropSilent => rfl
  | dropAnswered => exact emitChallengeAck_marks

theorem refresh_moves (verdict : s.resetVerdict e p = .refresh) (syn : p.tcpFlagSyn = false)
    (ahead : le32 p.tcpSeq s.rcvSeq.nxt = false) : (s.refreshTsRecent e p).ts ≠ s.ts := by
  unfold resetVerdict at verdict
  split at verdict
  · unfold pawsVerdict at verdict
    unfold refreshTsRecent
    cases stamp : p.tcpTsval with
    | none =>
      rw [stamp,syn] at verdict
      split at verdict <;> cases verdict
    | some tsval =>
      rw [stamp,syn,ahead] at verdict
      dsimp only at verdict ⊢
      intro same
      have level : tsval = s.ts.tsRecent := congrArg TimestampsState.tsRecent same
      have young : lt32 tsval s.ts.tsRecent = false := by
        cases test : lt32 tsval s.ts.tsRecent with
        | false => rfl
        | true =>
          rw [level,lt32_iff,arc_self] at test
          omega
      rw [young] at verdict
      split at verdict <;> simp at verdict
  · cases verdict

theorem emitChallengeAck_ts : (s.emitChallengeAck e).ts = s.ts := by
  unfold emitChallengeAck
  split
  · rfl
  · obtain ⟨d,a,k,t,shape,_⟩ := sendAck_shape (e := e) (s := s)
    rw [shape]
    rfl

theorem quiet_ts (quiet : Still s s' ∨ Challenged s s') : s'.ts = s.ts := by
  have same : s'.frozen.ts = s.frozen.ts := by rw [quiet_frozen quiet]
  exact same

-- RFC 5961 section 3.2: at RCV.NXT the RST closes the connection; elsewhere in
-- the window it is challenged, within the rate limit; outside nothing happens.
def HandlesReset (e : Env) (p : TcpMetadata) (s : TcpSession) : Prop :=
  ∃ s', s.tcpFsmPacket e p = .ok s' ∧
    if p.tcpSeq = s.rcvSeq.nxt then s'.state = .closed
    else if arc s.rcvSeq.nxt p.tcpSeq < s.rcvWnd ∧ s.timerArmed e .challengeAck = false then Challenged s s'
    else Still s s'

def HearsReset (e : Env) (p : TcpMetadata) (s : TcpSession) : Prop :=
  if p.tcpSeq = s.rcvSeq.nxt then
    s.rstAcceptable p = true ∧ (p.tcpData = [] ∨ 0 < s.rcvWnd) ∧
      (s.resetVerdict e p = .accept ∨ s.resetVerdict e p = .refresh)
  else
    s.Unmarked p ∧
      if arc s.rcvSeq.nxt p.tcpSeq < s.rcvWnd then
        match s.resetVerdict e p with
        | .accept | .dropAnswered => s.timerArmed e .challengeAck = true ∨ s.AcksCleanly e
        | .dropSilent => s.timerArmed e .challengeAck = true
        | .refresh => False
      else s.segmentAcceptable p = true →
        match s.resetVerdict e p with
        | .accept | .dropSilent => True
        | .dropAnswered => s.timerArmed e .challengeAck = true
        | .refresh => s.refreshTsRecent e p = s

theorem judgeReset_closes_iff (reset : p.Reset) (here : resettable s.state = true) (narrow : s.rcvWnd ≤ windowMax)
    (place : p.tcpSeq = s.rcvSeq.nxt) : (s.judgeReset e p).state = .closed ↔
      s.rstAcceptable p = true ∧ (s.resetVerdict e p = .accept ∨ s.resetVerdict e p = .refresh) := by
  have cap : windowMax = 0x3FFF_C000 := rfl
  have alive : s.state ≠ .closed := by
    intro closed
    rw [closed] at here
    cases here
  have taken : ∀ t : TcpSession, t.state = s.state → t.rcvSeq = s.rcvSeq → t.rcvWnd = s.rcvWnd →
      t.rstAcceptable p = s.rstAcceptable p → ∀ error, (t.takeReset error e p).state = .closed ↔ s.rstAcceptable p = true := by
    intro t state seq wnd verdict error
    cases test : s.rstAcceptable p with
    | true => simp [takeReset_closes error reset (verdict.trans test)]
    | false =>
      rw [takeReset_stays error (verdict.trans test) (by omega),if_neg]
      · simp [state,alive]
      · rw [seq]
        exact fun all => all.2.1 place
  unfold judgeReset
  cases s.resetVerdict e p with
  | accept =>
    have closes := taken s rfl rfl rfl rfl (resetError s.state)
    simpa using closes
  | refresh =>
    obtain ⟨stamps,shape⟩ := refreshTsRecent_shape (e := e) (p := p) (s := s)
    have closes := taken {s with ts := stamps} rfl rfl rfl rfl (resetError s.state)
    rw [shape]
    simpa using closes
  | dropSilent => simp [alive]
  | dropAnswered =>
    have kept : (s.emitChallengeAck e).state = s.state := by
      unfold emitChallengeAck
      split
      · rfl
      · obtain ⟨d,a,k,t,shape,_⟩ := sendAck_shape (e := e) (s := s)
        rw [shape]
        rfl
    simp [kept,alive]

section Off
variable (reset : p.Reset) (narrow : s.rcvWnd ≤ windowMax) (off : p.tcpSeq ≠ s.rcvSeq.nxt) (t : TcpTimerService)
include reset narrow off

theorem reset_inside_iff (inside : arc s.rcvSeq.nxt p.tcpSeq < s.rcvWnd) :
    (if s.timerArmed e .challengeAck = false then Challenged s {s.judgeReset e p with timers := t}
      else Still s {s.judgeReset e p with timers := t}) ↔
      match s.resetVerdict e p with
      | .accept | .dropAnswered => s.timerArmed e .challengeAck = true ∨ s.AcksCleanly e
      | .dropSilent => s.timerArmed e .challengeAck = true
      | .refresh => False := by
  have own : ∃ d, s = {s with pendingDsack := d} := ⟨s.pendingDsack,rfl⟩
  have challenged : (if s.timerArmed e .challengeAck = false then Challenged s {s.emitChallengeAck e with timers := t}
      else Still s {s.emitChallengeAck e with timers := t}) ↔ s.timerArmed e .challengeAck = true ∨ s.AcksCleanly e := by
    cases armed : s.timerArmed e .challengeAck with
    | true =>
      rw [challenge_held armed]
      simp [Still]
    | false => rw [challenge_timers armed,if_pos rfl,sendAck_answered_iff own]; simp
  rw [judgeReset_off reset narrow off]
  cases verdict : s.resetVerdict e p with
  | accept =>
    dsimp only
    rw [if_pos inside]
    exact challenged
  | dropAnswered => exact challenged
  | dropSilent =>
    dsimp only
    split
    · rename_i free
      simp [free,not_answered_same (s := s) (u := {s with timers := t}) rfl]
    · rename_i armed
      simp only [Bool.not_eq_false] at armed
      simp [armed,Still]
  | refresh =>
    have ahead : le32 p.tcpSeq s.rcvSeq.nxt = false := by
      have cap : windowMax = 0x3FFF_C000 := rfl
      have back := arc_swap off
      have apart : arc p.tcpSeq s.rcvSeq.nxt ≠ 0 := fun zero => off (arc_eq_zero.mp zero)
      cases behind : le32 p.tcpSeq s.rcvSeq.nxt with
      | false => rfl
      | true =>
        rw [le32_iff] at behind
        omega
    dsimp only
    rw [if_pos inside,iff_false]
    intro quiet
    have kept : ({(s.refreshTsRecent e p).emitChallengeAck e with timers := t} : TcpSession).ts = s.ts := by
      split at quiet
      · exact quiet_ts (.inr quiet)
      · exact quiet_ts (.inl quiet)
    exact refresh_moves verdict reset.2.2 ahead (emitChallengeAck_ts.symm.trans kept)

theorem reset_outside_iff (outside : ¬arc s.rcvSeq.nxt p.tcpSeq < s.rcvWnd) :
    Still s {s.judgeReset e p with timers := t} ↔
      match s.resetVerdict e p with
      | .accept | .dropSilent => True
      | .dropAnswered => s.timerArmed e .challengeAck = true
      | .refresh => s.refreshTsRecent e p = s := by
  have own : ∃ d, s = {s with pendingDsack := d} := ⟨s.pendingDsack,rfl⟩
  rw [judgeReset_off reset narrow off]
  cases verdict : s.resetVerdict e p with
  | accept =>
    dsimp only
    rw [if_neg outside]
    simp [Still]
  | dropSilent => simp [Still]
  | dropAnswered =>
    dsimp only
    cases armed : s.timerArmed e .challengeAck with
    | true =>
      rw [challenge_held armed]
      simp [Still]
    | false =>
      rw [challenge_timers armed]
      simp [sendAck_not_still own]
  | refresh =>
    obtain ⟨stamps,shape⟩ := refreshTsRecent_shape (e := e) (p := p) (s := s)
    dsimp only
    rw [if_neg outside,shape]
    constructor
    · rintro ⟨t',same⟩
      have level : stamps = s.ts := congrArg TcpSession.ts same
      rw [level]
    · intro same
      have level : stamps = s.ts := congrArg TcpSession.ts same
      rw [level]
      exact ⟨t,rfl⟩

end Off

theorem reset_outcome (sane : p.Sane) (rst : p.tcpFlagRst = true) (here : resettable s.state = true) :
    ∃ t, s.tcpFsmPacket e p = .ok {(if s.segmentAcceptable p = true then (s.ecnPrologue p).judgeReset e p
      else s.ecnPrologue p) with timers := t} := by
  obtain ⟨ec,a,shape⟩ := ecnPrologue_shape (s := s) p
  generalize (if s.ecnReacts p then s.reduceForEcn.cc else s.cc) = c at shape
  have dispatched := dispatch_reset (e := e) (s := {s with ecn := ec,accecn := a,cc := c})
    (fsmPacket e s.oooPacketQueue.length) sane rst here
  rw [← shape] at dispatched
  have gate : (s.ecnPrologue p).segmentAcceptable p = s.segmentAcceptable p := by
    rw [shape]
    rfl
  rw [gate] at dispatched
  obtain ⟨t,tail⟩ := pumpTail_shape (e := e)
    (s := if s.segmentAcceptable p = true then (s.ecnPrologue p).judgeReset e p else s.ecnPrologue p) s.state true
  exact ⟨t,by rw [tcpFsmPacket_ok dispatched,tail]⟩

-- A passive open from 1000 with timestamps, met by a peer that starts at 500.
def stamped : TcpSession :=
  (({iss := 1000} : Opening).session.tcpFsmSyscall {nowMs := 10} .listen).run
    [({nowMs := 20},.packet {tcpFlagSyn := true,tcpSeq := 500,tcpAck := 0,tcpWin := 65535,tcpMss := 1460
                             tcpTsval := some 100,tcpTsecr := some 0}),
     ({nowMs := 21},.tick),
     ({nowMs := 30},.packet {tcpFlagAck := true,tcpSeq := 501,tcpAck := 1001,tcpWin := 65535
                             tcpTsval := some 101,tcpTsecr := some 21})]

def resetAt (seq : Seq32) (stamp : Option (BitVec 32)) : TcpMetadata :=
  {tcpFlagRst := true,tcpSeq := seq,tcpAck := 0,tcpWin := 0,tcpTsval := stamp}

theorem resetAt_sane (seq : Seq32) (stamp : Option (BitVec 32)) : (resetAt seq stamp).Sane := by
  simp [TcpMetadata.Sane,resetAt]

theorem stamped_unmarked (seq : Seq32) (stamp : Option (BitVec 32)) : stamped.Unmarked (resetAt seq stamp) := by
  refine ⟨?_,?_⟩
  · intro on
    exact absurd on (by decide +kernel)
  · intro on
    exact absurd on (by decide +kernel)

end TcpSession

end PmdPytcp.Tcp
