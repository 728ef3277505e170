import PmdPytcp.Tcp.Refine.Run

namespace PmdPytcp.Tcp
open Arc TcpSession

-- The payload of a segment is the stream from the octet its sequence number
-- names, counted from the first octet that was not drained yet.
def streamOffset (ini : Seq32) (seg : Segment) (drained : Nat) : Nat :=
  drained + arc (add32 ini (1 + drained)) (add32 seg.seq seg.flagSyn.toNat)

def Carries (ini : Seq32) (written : List UInt8) : Obs → Prop
  | .sent seg _ _ _ drained => seg.data ≠ [] →
      streamOffset ini seg drained + seg.data.length ≤ written.length ∧
      seg.data = (written.drop (streamOffset ini seg drained)).take seg.data.length
  | _ => True

instance (ini : Seq32) (written : List UInt8) (obs : Obs) : Decidable (Carries ini written obs) :=
  match obs with
  | .sent seg .. => inferInstanceAs (Decidable (seg.data ≠ [] → _ ∧ _))
  | .control _ | .moved .. => .isTrue trivial

theorem Carries.grow {ini : Seq32} {written more : List UInt8} {obs : Obs} (carries : Carries ini written obs) :
    Carries ini (written ++ more) obs := by
  cases obs with
  | sent seg una max wnd drained =>
    intro loaded
    obtain ⟨fits,content⟩ := carries loaded
    refine ⟨by simp; omega,?_⟩
    rw [List.drop_append_of_le_length (by omega),List.take_append_of_le_length (by simp; omega)]
    exact content
  | control seg => trivial
  | moved old new cause => trivial

-- `seq_mod` names the first octet of the buffer, and the flight lies in it.
structure Flow (s : Sender) : Prop where
  edge : s.una = add32 s.ini (1 + s.drained)
  mark : s.seqMod = s.una
  cover : arc s.una s.max ≤ s.buffer.length

structure StreamLaw (s : Sender) : Prop where
  suffix : s.buffer = s.written.drop s.drained
  early : handshaking s.state = true → s.buffer = [] ∧ s.written = [] ∧ arc s.ini s.max ≤ 1
  flow : transferring s.state = true ∨ s.buffer ≠ [] → Flow s
  late : finPhase s.state = true → s.state ≠ .closed → s.buffer = []
  finished : s.finSent = true → s.buffer = []
  log : ∀ obs ∈ s.log, Carries s.ini s.written obs

section Law
variable {s t : Sender}

theorem StreamLaw.length (law : StreamLaw s) : s.drained + s.buffer.length = s.written.length := by
  have same := congrArg List.length law.suffix
  unfold Sender.drained at same ⊢
  rw [List.length_drop] at same
  omega

-- What a move that leaves the stream alone has to show.
structure SameStream (s t : Sender) : Prop where
  ini : t.ini = s.ini
  una : t.una = s.una
  max : t.max = s.max
  seqMod : t.seqMod = s.seqMod
  buffer : t.buffer = s.buffer
  written : t.written = s.written
  finSent : t.finSent = s.finSent

theorem SameStream.flow (same : SameStream s t) (flow : Flow s) : Flow t := by
  have drained : t.drained = s.drained := by
    unfold Sender.drained
    rw [same.written,same.buffer]
  refine ⟨?_,?_,?_⟩
  · rw [same.una,same.ini,drained]
    exact flow.edge
  · rw [same.seqMod,same.una]
    exact flow.mark
  · rw [same.una,same.max,same.buffer]
    exact flow.cover

theorem StreamLaw.sameStream (law : StreamLaw s) (same : SameStream s t)
    (early : handshaking t.state = true → handshaking s.state = true)
    (transfer : transferring t.state = true → transferring s.state = true ∨ Flow s)
    (late : finPhase t.state = true → t.state ≠ .closed → s.buffer = [])
    (log : ∀ obs ∈ t.log, obs ∈ s.log ∨ ∃ old new cause, obs = .moved old new cause) : StreamLaw t := by
  have drained : t.drained = s.drained := by
    unfold Sender.drained
    rw [same.written,same.buffer]
  refine ⟨?_,?_,?_,?_,?_,?_⟩
  · rw [same.buffer,same.written,drained]
    exact law.suffix
  · intro hand
    rw [same.buffer,same.written,same.ini,same.max]
    exact law.early (early hand)
  · intro place
    apply same.flow
    rw [same.buffer] at place
    rcases place with moving | loaded
    · rcases transfer moving with before | flow
      · exact law.flow (.inl before)
      · exact flow
    · exact law.flow (.inr loaded)
  · rw [same.buffer]
    exact late
  · rw [same.buffer,same.finSent]
    exact law.finished
  · intro obs member
    rw [same.ini,same.written]
    rcases log obs member with old | ⟨_,_,_,rfl⟩
    · exact law.log obs old
    · trivial

theorem StreamLaw.still (law : StreamLaw s) (same : SameStream s t) (state : t.state = s.state) (log : t.log = s.log) :
    StreamLaw t := by
  refine law.sameStream same ?_ ?_ ?_ ?_
  · rw [state]
    exact id
  · rw [state]
    exact .inl
  · rw [state]
    exact law.late
  · rw [log]
    exact fun obs member => .inl member

theorem Flow.drain (flow : Flow s) {a : Seq32} (reached : arc s.una a ≤ arc s.una s.max) :
    arc s.seqMod a = arc s.una a ∧ arc s.una a ≤ s.buffer.length := by
  have cover := flow.cover
  rw [flow.mark]
  exact ⟨rfl,by omega⟩

theorem StreamLaw.acknowledged (law : StreamLaw s) {a : Seq32} {blocks : SackScoreboard} {cc : Control} {mss : Int}
    {wnd : Nat} (settled : handshaking s.state = false) (reached : arc s.una a ≤ arc s.una s.max) :
    StreamLaw (s.acknowledge a blocks cc mss wnd) := by
  have total := law.length
  have shown : (s.acknowledge a blocks cc mss wnd).buffer = s.buffer.drop (arc s.seqMod a) := rfl
  have emptied : s.buffer = [] → (s.acknowledge a blocks cc mss wnd).buffer = [] := by
    intro empty
    rw [shown,empty,List.drop_nil]
  have flowing : Flow s → Flow (s.acknowledge a blocks cc mss wnd) ∧
      (s.acknowledge a blocks cc mss wnd).drained = s.drained + arc s.una a := by
    intro flow
    obtain ⟨same,few⟩ := flow.drain reached
    have drained : (s.acknowledge a blocks cc mss wnd).drained = s.drained + arc s.una a := by
      show s.written.length - (s.buffer.drop (arc s.seqMod a)).length = _
      rw [same,List.length_drop]
      omega
    refine ⟨⟨?_,rfl,?_⟩,drained⟩
    · rw [drained]
      calc a = add32 s.una (arc s.una a) := (add32_arc s.una a).symm
        _ = add32 (add32 s.ini (1 + s.drained)) (arc s.una a) := congrArg (add32 · (arc s.una a)) flow.edge
        _ = add32 s.ini (1 + (s.drained + arc s.una a : Nat)) := by
          rw [add32_add]
          congr 1
          omega
    · show arc a s.max ≤ (s.buffer.drop (arc s.seqMod a)).length
      rw [same,List.length_drop,arc_cut reached]
      have cover := flow.cover
      omega
  refine ⟨?_,?_,?_,?_,?_,law.log⟩
  · by_cases place : transferring s.state = true ∨ s.buffer ≠ []
    · have flow := law.flow place
      rw [(flowing flow).2,shown,(flow.drain reached).1,law.suffix,List.drop_drop]
      rfl
    · have empty : s.buffer = [] := by
        by_contra loaded
        exact place (.inr loaded)
      have all : (s.acknowledge a blocks cc mss wnd).drained = s.written.length := by
        unfold Sender.drained
        rw [emptied empty]
        rfl
      rw [emptied empty,all]
      exact (List.drop_length).symm
  · intro hand
    have hand : handshaking s.state = true := hand
    rw [settled] at hand
    cases hand
  · intro place
    refine (flowing (law.flow ?_)).1
    rcases place with moving | loaded
    · exact .inl moving
    · exact .inr fun empty => loaded (emptied empty)
  · intro phase opened
    exact emptied (law.late phase opened)
  · intro sent
    exact emptied (law.finished sent)

theorem StreamLaw.established (law : StreamLaw s) (inv : Inv s) (hand : handshaking s.state = true) {a : Seq32}
    (fresh : 0 < arc s.una a) (reached : arc s.una a ≤ arc s.una s.max) (state : t.state = .established)
    (ini : t.ini = s.ini) (una : t.una = a) (mark : t.seqMod = a) (top : t.max = s.max)
    (buffer : t.buffer = s.buffer.drop (arc s.seqMod a)) (written : t.written = s.written)
    (log : ∃ old new cause, t.log = s.log ++ [.moved old new cause]) : StreamLaw t := by
  obtain ⟨empty,nothing,short⟩ := law.early hand
  have begun := (inv.handshake hand).1
  rw [← begun] at short
  have bare : t.buffer = [] := by
    rw [buffer,empty,List.drop_nil]
  have plain : t.written = [] := by
    rw [written,nothing]
  have drained : t.drained = 0 := by
    unfold Sender.drained
    rw [plain]
    exact Nat.zero_sub _
  refine ⟨?_,?_,?_,?_,fun _ => bare,?_⟩
  · rw [bare,plain,List.drop_nil]
  · intro hand'
    rw [state] at hand'
    cases hand'
  · intro _
    refine ⟨?_,by rw [mark,una],?_⟩
    · have place := add32_arc s.una a
      have one : arc s.una a = 1 := by omega
      rw [una,ini,drained,← begun,← place,one]
      rfl
    · have rest := arc_cut reached
      rw [una,top,bare]
      show arc a s.max ≤ 0
      omega
  · intro phase
    rw [state] at phase
    cases phase
  · intro obs member
    obtain ⟨old,new,cause,same⟩ := log
    rw [same] at member
    rw [ini,written]
    rcases List.mem_append.mp member with before | last
    · exact law.log obs before
    · rw [List.mem_singleton.mp last]
      trivial

theorem StreamLaw.sent (law : StreamLaw s) (inv : Inv s) {seg : Segment} (transfer : transferring s.state = true)
    (kind : seg.flagSyn = false ∧ seg.flagFin = false) (here : seg.seq = s.nxt)
    (near : arc s.una s.nxt + seg.data.length ≤ flightMax) (loaded : seg.data ≠ [])
    (content : seg.data = (s.buffer.drop (arc s.seqMod s.nxt)).take seg.data.length) : StreamLaw (s.emit seg) := by
  have cap := flightMax_short
  have flow := law.flow (.inl transfer)
  have total := law.length
  have some : 0 < seg.data.length := List.length_pos_iff.mpr loaded
  rw [flow.mark] at content
  have room : arc s.una s.nxt + seg.data.length ≤ s.buffer.length := by
    have size := congrArg List.length content
    rw [List.length_take,List.length_drop] at size
    omega
  have offset : streamOffset s.ini seg s.drained = s.drained + arc s.una s.nxt := by
    unfold streamOffset
    rw [← flow.edge,here,kind.1]
    simp
  have place := @emit_nxt s seg seg.data.length (by simp [kind.1,kind.2])
    (by rw [here]; omega)
  rw [here] at place
  have top := emit_max inv.toCore seg (by omega)
  have sent : (s.emit seg).finSent = s.finSent := by
    show (seg.flagFin || s.finSent) = s.finSent
    simp [kind.2]
  refine ⟨law.suffix,?_,?_,law.late,?_,?_⟩
  · intro hand
    have hand : handshaking s.state = true := hand
    rw [(transferring_plain transfer).1] at hand
    cases hand
  · intro _
    refine ⟨flow.edge,?_,?_⟩
    · show add32 s.seqMod (seg.flagSyn.toNat + seg.flagFin.toNat) = s.una
      rw [kind.1,kind.2]
      exact (add32_zero _).trans flow.mark
    · show arc s.una (s.emit seg).max ≤ s.buffer.length
      have cover := flow.cover
      omega
  · rw [sent]
    exact law.finished
  · intro obs member
    rcases List.mem_append.mp member with before | last
    · exact law.log obs before
    · rw [List.mem_singleton.mp last]
      intro _
      show streamOffset s.ini seg s.drained + _ ≤ s.written.length ∧ _
      rw [offset]
      refine ⟨by omega,?_⟩
      show seg.data = (s.written.drop (streamOffset s.ini seg s.drained)).take _
      rw [offset,← List.drop_drop,← law.suffix]
      exact content

theorem StreamLaw.bare (law : StreamLaw s) {seg : Segment} (data : seg.data = []) (empty : s.buffer = [])
    (still : transferring s.state = false)
    (early : handshaking s.state = true → arc s.ini (s.emit seg).max ≤ 1) : StreamLaw (s.emit seg) := by
  refine ⟨law.suffix,?_,?_,law.late,fun _ => empty,?_⟩
  · intro hand
    exact ⟨empty,(law.early hand).2.1,early hand⟩
  · intro place
    rcases place with moving | loaded
    · have moving : transferring s.state = true := moving
      rw [still] at moving
      cases moving
    · exact absurd empty loaded
  · intro obs member
    rcases List.mem_append.mp member with before | last
    · exact law.log obs before
    · rw [List.mem_singleton.mp last]
      intro loaded
      exact absurd data loaded

theorem finPhase_still {state : FsmState} (phase : finPhase state = true) : transferring state = false := by
  cases state <;> first | rfl | cases phase

theorem handshaking_still {state : FsmState} (hand : handshaking state = true) :
    transferring state = false ∧ finPhase state = false := by
  cases state <;> first | exact ⟨rfl,rfl⟩ | cases hand

theorem StreamLaw.wound (law : StreamLaw s) {new : FsmState} {a : Seq32} (phase : finPhase s.state = true)
    (opened : s.state ≠ .closed) (next : finPhase new = true) : StreamLaw (s.moveBy new a) := by
  refine law.sameStream ⟨rfl,rfl,rfl,rfl,rfl,rfl,rfl⟩ ?_ ?_ (fun _ _ => law.late phase opened) ?_
  · intro hand
    have hand : handshaking new = true := hand
    rw [(handshaking_still hand).2] at next
    cases next
  · intro moving
    have moving : transferring new = true := moving
    rw [finPhase_still next] at moving
    cases moving
  · intro obs member
    rcases List.mem_append.mp member with before | last
    · exact .inl before
    · exact .inr ⟨_,_,_,List.mem_singleton.mp last⟩

theorem StreamLaw.opens (law : StreamLaw s) (inv : Inv s) {seg : Segment}
    (opening : s.state = .synSent ∨ s.state = .synRcvd) (kind : seg.flagSyn = true ∧ seg.flagFin = false)
    (first : seg.seq = s.ini) (load : seg.data = [] ∨ s.state = .synSent ∧ (seg.data.length : Int) ≤ s.mss ∧ s.buffer ≠ []) :
    StreamLaw (s.emit seg) := by
  have hand : handshaking s.state = true := by
    rcases opening with here | here
    · rw [here]; rfl
    · rw [here]; rfl
  obtain ⟨empty,_,short⟩ := law.early hand
  have data : seg.data = [] := by
    rcases load with none | ⟨_,_,loaded⟩
    · exact none
    · exact absurd empty loaded
  refine law.bare data empty (handshaking_still hand).1 ?_
  intro _
  have begun := (inv.handshake hand).1
  have place := @emit_nxt s seg 1 (by simp [data,kind.1,kind.2])
    (by rw [first,begun,arc_self]; decide)
  rw [first,begun,arc_self] at place
  have room : 1 ≤ flightMax := by decide
  have top := emit_max inv.toCore seg (by rw [begun]; omega)
  rw [begun] at top
  omega

theorem StreamLaw.ends (law : StreamLaw s) {seg : Segment} (ending : TcpSession.finState s.state = true)
    (bare : seg.data = []) : StreamLaw (s.emit seg) := by
  have phase : finPhase s.state = true ∧ s.state ≠ .closed := by
    simp only [TcpSession.finState,decide_eq_true_eq] at ending
    rcases ending with here | here | here <;> rw [here] <;> decide
  refine law.bare bare (law.late phase.1 phase.2) (finPhase_still phase.1) ?_
  intro hand
  rw [(handshaking_still hand).2] at phase
  cases phase.1

-- What a timeout takes back is the number of a SYN or a FIN.
theorem StreamLaw.walksBack {allowed : Slip → Prop} (law : StreamLaw s) (inv : Inv s) (rewind : ¬allowed .rewind)
    (settled : handshaking s.state = false → s.finSent = true ∨ allowed .rewind) :
    StreamLaw {s with seqMod := sub32 s.seqMod 1} := by
  have quiet : s.buffer = [] ∧ transferring s.state = false := by
    cases hand : handshaking s.state with
    | true => exact ⟨(law.early hand).1,(handshaking_still hand).1⟩
    | false =>
      rcases settled hand with sent | slipped
      · exact ⟨law.finished sent,finPhase_still (inv.finSent sent)⟩
      · exact absurd slipped rewind
  refine ⟨law.suffix,law.early,?_,law.late,law.finished,law.log⟩
  intro place
  rcases place with moving | loaded
  · have moving : transferring s.state = true := moving
    rw [quiet.2] at moving
    cases moving
  · exact absurd quiet.1 loaded

theorem StreamLaw.appends (law : StreamLaw s) (inv : Inv s) (data : List UInt8)
    (transfer : transferring s.state = true) :
    StreamLaw {s with buffer := s.buffer ++ data,written := s.written ++ data} := by
  obtain ⟨settled,open'⟩ := transferring_plain transfer
  have flow := law.flow (.inl transfer)
  have total := law.length
  have drained : ({s with buffer := s.buffer ++ data,written := s.written ++ data} : Sender).drained = s.drained := by
    show (s.written ++ data).length - (s.buffer ++ data).length = s.written.length - s.buffer.length
    rw [List.length_append,List.length_append]
    omega
  refine ⟨?_,?_,?_,?_,?_,?_⟩
  · rw [drained]
    show s.buffer ++ data = (s.written ++ data).drop s.drained
    rw [List.drop_append_of_le_length (by omega),← law.suffix]
  · intro hand
    have hand : handshaking s.state = true := hand
    rw [settled] at hand
    cases hand
  · intro _
    refine ⟨?_,flow.mark,?_⟩
    · rw [drained]
      exact flow.edge
    · show arc s.una s.max ≤ (s.buffer ++ data).length
      have cover := flow.cover
      rw [List.length_append]
      omega
  · intro phase
    have phase : finPhase s.state = true := phase
    rw [open'] at phase
    cases phase
  · intro sent
    exact inv.early open' sent
  · intro obs member
    exact (law.log obs member).grow

theorem StreamLaw.negotiates (law : StreamLaw s) (mss : Int) (wnd wsc : Nat) (sendSack sendTs : Bool) (cc : Control)
    (fresh : s.state = .listen ∨ s.state = .synSent) :
    StreamLaw ((s.learn mss wnd wsc sendSack sendTs cc).moveTo .synRcvd) := by
  refine law.sameStream ⟨rfl,rfl,rfl,rfl,rfl,rfl,rfl⟩ ?_ ?_ ?_ (fun obs member => .inl member)
  · intro _
    rcases fresh with here | here
    · rw [here]; rfl
    · rw [here]; rfl
  · intro moving
    cases moving
  · intro phase
    cases phase

theorem StreamLaw.finishes (law : StreamLaw s) {new : FsmState}
    (pair : s.state = .established ∧ new = .finWait1 ∨ s.state = .closeWait ∧ new = .lastAck) (empty : s.buffer = []) :
    StreamLaw (s.moveTo new) := by
  have closes : handshaking new = false ∧ transferring new = false := by
    rcases pair with ⟨_,rfl⟩ | ⟨_,rfl⟩
    · exact ⟨rfl,rfl⟩
    · exact ⟨rfl,rfl⟩
  refine law.sameStream ⟨rfl,rfl,rfl,rfl,rfl,rfl,rfl⟩ ?_ ?_ (fun _ _ => empty) (fun obs member => .inl member)
  · intro hand
    have hand : handshaking new = true := hand
    rw [closes.1] at hand
    cases hand
  · intro moving
    have moving : transferring new = true := moving
    rw [closes.2] at moving
    cases moving

theorem StreamLaw.restarts (s : Sender) (iss : Seq32) (mss : Int) (wnd wsc : Nat) (sendSack sendTs : Bool)
    (cc : Control) : StreamLaw (((s.restart iss).learn mss wnd wsc sendSack sendTs cc).moveTo .synRcvd) := by
  refine ⟨rfl,?_,?_,?_,fun _ => rfl,?_⟩
  · intro _
    refine ⟨rfl,rfl,?_⟩
    show arc iss iss ≤ 1
    simp
  · intro place
    rcases place with moving | loaded
    · cases moving
    · exact absurd rfl loaded
  · intro phase
    cases phase
  · intro obs member
    cases member

theorem stream_law_kept {allowed : Slip → Prop} (step : Move allowed s t) (third : ¬allowed .thirdLeg)
    (rewind : ¬allowed .rewind) (inv : Inv s) (law : StreamLaw s) : StreamLaw t := by
  cases step with
  | aim | sacked | regulate | queue => exact law.still ⟨rfl,rfl,rfl,rfl,rfl,rfl,rfl⟩ rfl rfl
  | syn seg opening kind first load => exact law.opens inv opening kind first load
  | data seg limit transfer kind here granted near loaded content fits =>
    exact law.sent inv transfer kind here near loaded content
  | fin seg ending kind here bare inside again => exact law.ends ending bare
  | acknowledge a blocks cc mss wnd settled reached board bare sound positive small level =>
    exact law.acknowledged settled reached
  | walkBack settled => exact law.walksBack inv rewind settled
  | append data transfer => exact law.appends inv data transfer
  | negotiate mss wnd wsc sendSack sendTs cc fresh taught => exact law.negotiates _ _ _ _ _ _ fresh
  | connected a mss wnd wsc sendSack sendTs cc asked fresh reached taught =>
    exact law.established inv (by rw [asked]; rfl) fresh reached rfl rfl rfl rfl rfl rfl rfl ⟨_,_,_,rfl⟩
  | accepted a blocks cc mss wnd asked fresh reached board bare taught =>
    rcases fresh with fresh | slipped
    · exact law.established inv (by rw [asked]; rfl) fresh reached rfl rfl rfl rfl rfl rfl rfl ⟨_,_,_,rfl⟩
    · exact absurd slipped third
  | admitted a cc asked slipped sound level calm => exact absurd slipped third
  | peerClosed a asked =>
    refine law.sameStream ⟨rfl,rfl,rfl,rfl,rfl,rfl,rfl⟩ ?_ ?_ ?_ ?_
    · intro hand
      cases hand
    · intro _
      left
      rw [asked]
      rfl
    · intro phase
      cases phase
    · intro obs member
      rcases List.mem_append.mp member with before | last
      · exact .inl before
      · exact .inr ⟨_,_,_,List.mem_singleton.mp last⟩
  | finished new pair empty => exact law.finishes pair empty
  | earlyClose asked slipped =>
    refine law.sameStream ⟨rfl,rfl,rfl,rfl,rfl,rfl,rfl⟩ ?_ ?_ ?_ (fun obs member => .inl member)
    · intro hand
      cases hand
    · intro moving
      cases moving
    · intro _ _
      exact (law.early (by rw [asked]; rfl)).1
  | finAcked new a pair covered =>
    rcases pair with ⟨here,rfl | rfl⟩ | ⟨here,rfl⟩ | ⟨here,rfl⟩ <;>
      exact law.wound (by rw [here]; rfl) (by simp [here]) rfl
  | drifts new a pair =>
    rcases pair with ⟨here | here,rfl⟩ | ⟨here,rfl | rfl⟩ | ⟨here,rfl⟩ <;>
      exact law.wound (by rw [here]; rfl) (by simp [here]) rfl
  | dropped =>
    refine law.sameStream ⟨rfl,rfl,rfl,rfl,rfl,rfl,rfl⟩ ?_ ?_ ?_ (fun obs member => .inl member)
    · intro hand
      cases hand
    · intro moving
      cases moving
    · intro _ opened
      exact absurd rfl opened
  | reused iss mss wnd wsc sendSack sendTs cc asked taught => exact StreamLaw.restarts _ _ _ _ _ _ _ _

end Law

-- Opened by LISTEN, or by CONNECT without data for the SYN.
def OpenedBare (s : TcpSession) : Prop := Opened s ∧ s.tx.buffer = []

theorem opened_stream {s : TcpSession} (opened : OpenedBare s) : StreamLaw (s.senderAt none) := by
  obtain ⟨o,data,new,fresh,sender⟩ := opened_sender opened.1
  have bare : data = [] := (congrArg Sender.buffer sender).symm.trans opened.2
  have still : transferring new = false ∧ finPhase new = false := by
    rcases fresh with ⟨rfl,_⟩ | rfl
    · exact ⟨rfl,rfl⟩
    · exact ⟨rfl,rfl⟩
  rw [sender,bare]
  refine ⟨rfl,?_,?_,?_,fun _ => rfl,?_⟩
  · intro _
    refine ⟨rfl,rfl,?_⟩
    show arc o.iss o.iss ≤ 1
    simp
  · intro place
    rcases place with moving | loaded
    · have moving : transferring new = true := moving
      rw [still.1] at moving
      cases moving
    · exact absurd rfl loaded
  · intro phase
    have phase : finPhase new = true := phase
    rw [still.2] at phase
    cases phase
  · intro obs member
    cases member

-- Every segment carries the stream, and an acknowledgement drains its octets.
theorem stream_carried {s : TcpSession}
    (reached : Runs.Reached OpenedBare TcpSession.next (KeepsSending [.thirdLeg,.rewind]) s) :
    (∀ obs ∈ s.log, Carries s.sndSeq.ini s.written obs) ∧ s.tx.buffer = s.written.drop s.drained ∧
    (transferring s.state = true ∨ s.tx.buffer ≠ [] → s.sndSeq.una = add32 s.sndSeq.ini (1 + s.drained) ∧
      s.tx.seqMod = s.sndSeq.una ∧ arc s.sndSeq.una s.sndSeq.max ≤ s.tx.buffer.length) := by
  obtain ⟨_,law⟩ := reached_law StreamLaw (fun _ opened => opened.1) (fun _ => opened_stream)
    (fun _ _ step inv law => stream_law_kept step (by simp) (by simp) inv law) (reached.imp fun _ _ => And.left)
  refine ⟨?_,law.suffix,?_⟩
  · intro obs member
    cases obs with
    | sent seg una max wnd drained => exact law.log _ (List.mem_filter.mpr ⟨member,rfl⟩)
    | control seg => trivial
    | moved old new cause => trivial
  · intro place
    have flow := law.flow place
    exact ⟨flow.edge,flow.mark,flow.cover⟩

-- Three octets, sent, lost, sent again and acknowledged in part.
def resentRun : List (Env × Event) :=
  [({nowMs := 20},.packet (peerSyn false)),
   ({nowMs := 21},.tick),
   ({nowMs := 30},.packet (peerAck 501 1001 [])),
   ({nowMs := 40},.send [1,2,3]),
   ({nowMs := 41},.tick),
   ({nowMs := 1100},.tick),
   ({nowMs := 1200},.packet (peerAck 501 1003 []))]

theorem stream_carried_resent : (listening.run resentRun).written = [1,2,3] ∧
    (listening.run resentRun).tx.buffer = [3] ∧ (listening.run resentRun).tx.seqMod = 1003 ∧
    ∀ obs ∈ (listening.run resentRun).log, Carries 1000 [1,2,3] obs := by
  have reached : Runs.Reached OpenedBare TcpSession.next (KeepsSending [.thirdLeg,.rewind]) (listening.run resentRun) :=
    Runs.Reached.run (.start listening ⟨listening_opened,rfl⟩) resentRun (by decide +kernel)
  obtain ⟨carried,_,placed⟩ := stream_carried reached
  have loaded : (listening.run resentRun).tx.buffer = [3] := by decide +kernel
  have una : (listening.run resentRun).sndSeq.una = 1003 := by decide +kernel
  have ini : (listening.run resentRun).sndSeq.ini = 1000 := by decide +kernel
  have written : (listening.run resentRun).written = [1,2,3] := by decide +kernel
  obtain ⟨_,mark,_⟩ := placed (.inr (by rw [loaded]; simp))
  rw [ini,written] at carried
  exact ⟨written,loaded,mark.trans una,carried⟩

-- The ACK of the SYN is dropped as too old, and the handshake ends all the same:
-- the timeout then steps `seq_mod` back as if a SYN had to go out again.
def halfOpenRun : List (Env × Event) :=
  [({nowMs := 20},.packet {peerSyn false with tcpTsval := some 100,tcpTsecr := some 0}),
   ({nowMs := 21},.tick),
   ({nowMs := 30},.packet {peerAck 501 1001 [] with tcpTsval := some 50,tcpTsecr := some 21}),
   ({nowMs := 40},.send [1,2,3]),
   ({nowMs := 41},.tick),
   ({nowMs := 1100},.tick)]

theorem stream_misplaced : OpenedBare listening ∧ (listening.run halfOpenRun).sndSeq.ini = 1000 ∧
    (listening.run halfOpenRun).written = [1,2,3] ∧ (listening.run halfOpenRun).tx.buffer = [1,2,3] ∧
    (listening.run halfOpenRun).tx.seqMod = 1000 ∧
    ¬∀ obs ∈ (listening.run halfOpenRun).log, Carries 1000 [1,2,3] obs := by
  refine ⟨⟨listening_opened,rfl⟩,?_,?_,?_,?_,?_⟩ <;> decide +kernel

end PmdPytcp.Tcp
