import PmdPytcp.Tcp.Refine.Run

namespace PmdPytcp.Tcp
open Arc TcpSession

theorem le32_before {x y top : Seq32} (nearX : arc x top < 0x8000_0000) (nearY : arc y top < 0x8000_0000) :
    le32 x y = true ↔ arc y top ≤ arc x top := by
  have split := arc_split x y top
  have bound := arc_lt x y
  rw [le32_iff]
  omega

theorem lt32_before {x y top : Seq32} (nearX : arc x top < 0x8000_0000) (nearY : arc y top < 0x8000_0000) :
    lt32 x y = true ↔ arc y top < arc x top := by
  have split := arc_split x y top
  have bound := arc_lt x y
  rw [lt32_iff]
  omega

def FinMove (old new : FsmState) : Prop :=
  old = .finWait1 ∧ (new = .finWait2 ∨ new = .timeWait) ∨ old = .closing ∧ new = .timeWait ∨
    old = .lastAck ∧ new = .closed

instance (old new : FsmState) : Decidable (FinMove old new) := inferInstanceAs (Decidable (_ ∧ _ ∨ _ ∧ _ ∨ _ ∧ _))

def Obs.finBelow (a : Seq32) : Obs → Bool
  | .sent seg .. => seg.flagFin && lt32 seg.seq a
  | _ => false

-- A FIN that `a` covers went out before.
def Covered (a : Seq32) (log : List Obs) : Prop := ∃ obs ∈ log, obs.finBelow a = true

instance (a : Seq32) (log : List Obs) : Decidable (Covered a log) := inferInstanceAs (Decidable (∃ obs ∈ log,_))

-- Every such move of a log comes after the FIN it needs.
def Warranted (log : List Obs) : Prop :=
  ∀ pre old new a, (pre ++ [Obs.moved old new (some a)]) <+: log → FinMove old new → Covered a pre

theorem Warranted.nil : Warranted [] := by
  intro pre old new a begins
  simp at begins

theorem Warranted.snoc {log : List Obs} {last : Obs} (warranted : Warranted log)
    (fine : ∀ old new a, last = .moved old new (some a) → FinMove old new → Covered a log) :
    Warranted (log ++ [last]) := by
  intro pre old new a begins closing
  rcases List.prefix_concat_iff.mp begins with whole | shorter
  · obtain ⟨same,tail⟩ := List.append_inj' whole rfl
    rw [same]
    exact fine old new a (by simpa using tail.symm) closing
  · exact warranted pre old new a shorter closing

theorem Warranted.sent {log : List Obs} {seg : Segment} {una max : Seq32} {wnd drained : Nat}
    (warranted : Warranted log) : Warranted (log ++ [.sent seg una max wnd drained]) := by
  refine warranted.snoc ?_
  intro old new a same
  cases same

theorem Warranted.other {log : List Obs} {old new : FsmState} {a : Seq32} (warranted : Warranted log)
    (other : ¬FinMove old new) : Warranted (log ++ [.moved old new (some a)]) := by
  refine warranted.snoc ?_
  intro old' new' a' same closing
  cases same
  exact absurd closing other

structure FinLaw (s : Sender) : Prop where
  recorded : s.finSent = true → arc s.fin s.max ≤ flightMax ∧
    ∃ seg una max wnd drained, Obs.sent seg una max wnd drained ∈ s.log ∧ seg.flagFin = true ∧ add32 seg.seq 1 = s.fin
  warranted : Warranted s.log

-- The number after the FIN is what the comparison uses, so the FIN itself is covered.
theorem FinLaw.covers {s : Sender} {a : Seq32} (law : FinLaw s) (inv : Inv s) (sent : s.finSent = true)
    (near : arc a s.max ≤ flightMax)
    (passed : le32 s.fin a = true ∨ le32 s.fin s.una = true ∧ arc s.una a ≤ arc s.una s.max) : Covered a s.log := by
  have cap := flightMax_short
  have flight := inv.flight
  obtain ⟨place,seg,una,max,wnd,drained,member,flag,seq⟩ := law.recorded sent
  have behind : arc a s.max ≤ arc s.fin s.max := by
    rcases passed with direct | ⟨below,inside⟩
    · exact (@le32_before _ _ s.max (by omega) (by omega)).mp direct
    · have order := (@le32_before _ _ s.max (by omega) (by omega)).mp below
      have rest := arc_cut inside
      omega
  have before : arc seg.seq s.max = arc s.fin s.max + 1 := by
    have one : arc seg.seq s.fin = 1 := by
      rw [← seq]
      exact arc_add32 seg.seq (n := 1) (by decide)
    rw [arc_trans (b := s.fin) (by omega),one]
    omega
  have below : lt32 seg.seq a = true := (@lt32_before _ _ s.max (by omega) (by omega)).mpr (by omega)
  exact ⟨_,member,by simp [Obs.finBelow,flag,below]⟩

section Keeping
variable {s : Sender}

theorem FinLaw.unsent (inv : Inv s) (early : finPhase s.state = false) {t : Sender} (sent : t.finSent = s.finSent)
    (warranted : Warranted t.log) : FinLaw t := by
  refine ⟨?_,warranted⟩
  intro out
  rw [sent] at out
  exact inv.early early out

theorem FinLaw.still (law : FinLaw s) {t : Sender} (sent : t.finSent = s.finSent) (fin : t.fin = s.fin)
    (top : t.max = s.max) (log : t.log = s.log) : FinLaw t := by
  refine ⟨?_,log ▸ law.warranted⟩
  intro out
  rw [sent] at out
  rw [fin,top,log]
  exact law.recorded out

theorem FinLaw.moved (law : FinLaw s) {new : FsmState} {a : Seq32} (warranted : Warranted (s.moveBy new a).log) :
    FinLaw (s.moveBy new a) := by
  refine ⟨?_,warranted⟩
  intro out
  obtain ⟨place,seg,una,max,wnd,drained,member,facts⟩ := law.recorded out
  exact ⟨place,seg,una,max,wnd,drained,List.mem_append_left _ member,facts⟩

theorem fin_law_kept {t : Sender} {allowed : Slip → Prop} (step : Move allowed s t) (barred : ¬allowed .unsentFin)
    (inv : Inv s) (law : FinLaw s) : FinLaw t := by
  have inv' := move_keeps step inv
  cases step with
  | aim | acknowledge | sacked | regulate | walkBack | append | queue => exact law.still rfl rfl rfl rfl
  | negotiate | finished | earlyClose | dropped => exact law.still rfl rfl rfl rfl
  | syn seg opening kind first load =>
    have early : finPhase s.state = false := by
      rcases opening with here | here
      · rw [here]; rfl
      · rw [here]; rfl
    refine FinLaw.unsent inv early ?_ law.warranted.sent
    show (seg.flagFin || s.finSent) = s.finSent
    simp [kind.2]
  | data seg limit transfer kind here granted near loaded content fits =>
    refine FinLaw.unsent inv (transferring_plain transfer).2 ?_ law.warranted.sent
    show (seg.flagFin || s.finSent) = s.finSent
    simp [kind.2]
  | fin seg ending kind here bare inside again =>
    refine ⟨?_,law.warranted.sent⟩
    intro _
    have fin : (s.emit seg).fin = (s.emit seg).nxt := by
      show (if seg.flagFin then _ else s.fin) = _
      rw [if_pos kind.2]
      rfl
    have cut := arc_cut inv'.nxt
    have flight := inv'.flight
    refine ⟨by rw [fin]; omega,seg,s.una,s.max,s.wnd,s.drained,?_,kind.2,?_⟩
    · exact List.mem_append_right _ (List.mem_singleton.mpr rfl)
    · rw [fin]
      show add32 seg.seq 1 = add32 seg.seq (seg.data.length + seg.flagSyn.toNat + seg.flagFin.toNat)
      rw [bare,kind.1,kind.2]
      rfl
  | connected a mss wnd wsc sendSack sendTs cc asked fresh reached taught =>
    refine FinLaw.unsent inv (by rw [asked]; rfl) rfl (law.warranted.other ?_)
    simp [FinMove,show ((s.acknowledge a [] cc mss wnd).learn mss wnd wsc sendSack sendTs cc).state = .synSent from asked]
  | accepted a blocks cc mss wnd asked fresh reached board bare taught =>
    refine FinLaw.unsent inv (by rw [asked]; rfl) rfl (law.warranted.other ?_)
    simp [FinMove,show (s.acknowledge a blocks cc mss wnd).state = .synRcvd from asked]
  | admitted a cc asked slipped sound level calm =>
    refine FinLaw.unsent inv (by rw [asked]; rfl) rfl (law.warranted.other ?_)
    simp [FinMove,asked]
  | peerClosed a asked =>
    refine law.moved (law.warranted.other ?_)
    simp [FinMove,asked]
  | finAcked new a pair covered =>
    refine law.moved (law.warranted.snoc ?_)
    intro old' new' a' same _
    cases same
    rcases covered with ⟨sent,near,passed⟩ | slipped
    · exact law.covers inv sent near passed
    · exact absurd slipped barred
  | drifts new a pair =>
    refine law.moved (law.warranted.other ?_)
    rcases pair with ⟨here,rfl⟩ | ⟨here,rfl | rfl⟩ | ⟨here,rfl⟩
    · rcases here with here | here
      · simp [FinMove,here]
      · simp [FinMove,here]
    · simp [FinMove,here]
    · simp [FinMove,here]
    · simp [FinMove,here]
  | reused iss mss wnd wsc sendSack sendTs cc asked taught =>
    refine ⟨?_,Warranted.nil⟩
    intro out
    cases out

end Keeping

theorem fin_moves_covered {s : TcpSession} (reached : Reached (Keeps [.unsentFin]) s) (pre post : List Obs)
    (old new : FsmState) (a : Seq32) (log : s.log = pre ++ .moved old new (some a) :: post)
    (closing : FinMove old new) : Covered a pre := by
  have initial : ∀ s, Opened s → FinLaw (s.senderAt none) := by
    intro s opened
    obtain ⟨o,data,new,_,sender⟩ := opened_sender opened
    rw [sender]
    refine ⟨?_,Warranted.nil⟩
    intro out
    cases out
  obtain ⟨_,law⟩ := reached_law FinLaw (fun _ => id) initial
    (fun _ _ step inv law => fin_law_kept step (by simp) inv law) reached
  have begins : (pre.filter Obs.notable ++ [Obs.moved old new (some a)]) <+: s.log.filter Obs.notable := by
    rw [log,List.filter_append,List.filter_cons_of_pos rfl]
    exact ⟨post.filter Obs.notable,by simp⟩
  obtain ⟨obs,member,below⟩ := law.warranted _ old new a begins closing
  exact ⟨obs,List.mem_of_mem_filter member,below⟩

def finishedRun : List (Env × Event) :=
  [({nowMs := 20},.packet (peerSyn false)),({nowMs := 21},.tick),({nowMs := 30},.packet (peerAck 501 1001 [])),
   ({nowMs := 40},.close),({nowMs := 41},.tick),({nowMs := 42},.tick),({nowMs := 50},.packet (peerAck 501 1002 []))]

theorem fin_moves_covered_finished : FinMove .finWait1 .finWait2 ∧
    Covered 1002 ((listening.run finishedRun).log.take 6) := by
  have reached : Reached (Keeps [.unsentFin]) (listening.run finishedRun) :=
    Runs.Reached.run (.start listening listening_opened) finishedRun (by decide +kernel)
  refine ⟨by decide,?_⟩
  exact fin_moves_covered reached ((listening.run finishedRun).log.take 6) [] .finWait1 .finWait2 1002 (by decide +kernel)
    (by decide)

-- An ACK between the move to FIN_WAIT_1 and the tick that sends the FIN.
def earlyAckRun : List (Env × Event) :=
  [({nowMs := 20},.packet (peerSyn false)),({nowMs := 21},.tick),({nowMs := 30},.packet (peerAck 501 1001 [])),
   ({nowMs := 40},.close),({nowMs := 41},.tick),({nowMs := 42},.packet (peerAck 501 1001 []))]

theorem fin_move_uncovered : Opened listening ∧ (listening.run earlyAckRun).log =
      (listening.run earlyAckRun).log.take 5 ++ [.moved .finWait1 .finWait2 (some 1001)] ∧
    FinMove .finWait1 .finWait2 ∧ (listening.run earlyAckRun).sndSeq.finSent = false ∧
    ¬Covered 1001 ((listening.run earlyAckRun).log.take 5) := by
  refine ⟨listening_opened,?_,?_,?_,?_⟩ <;> decide +kernel

end PmdPytcp.Tcp
