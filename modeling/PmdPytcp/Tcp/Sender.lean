import PmdPytcp.Lib.Runs
import PmdPytcp.Tcp.Scoreboard
import PmdPytcp.Tcp.Tx

namespace PmdPytcp.Tcp
open Arc

-- The largest window a header can name, and what can be in flight at most: a
-- peer may shrink its window and open it again.
def windowMax : Nat := 0xFFFF * 2^14
def flightMax : Nat := 2 * windowMax + 2

theorem flightMax_short : flightMax + 1 < 0x8000_0000 := by decide

structure Control where
  cwnd : Int
  ssthresh : Int
  ewn : Int
  recoveryPoint : Seq32
  recoverFs : Nat
  frtoActive : Bool
  frtoPreCwnd : Int
  frtoPreSsthresh : Int
  frValid : Bool
  frPreCwnd : Int
  frPreSsthresh : Int

structure Control.Sound (una top : Seq32) (sendSack : Bool) (cc : Control) : Prop where
  cwnd : 0 < cc.cwnd
  ssthresh : 0 < cc.ssthresh
  ewn : 0 ≤ cc.ewn ∧ cc.ewn ≤ windowMax
  frto : cc.frtoActive = true → 0 < cc.frtoPreCwnd ∧ 0 < cc.frtoPreSsthresh
  snapshot : cc.frValid = true → 0 < cc.frPreCwnd ∧ 0 < cc.frPreSsthresh
  recovering : cc.recoveryPoint ≠ 0 → 0 < cc.recoverFs ∧
    (sendSack = true ∨ 0 < arc una cc.recoveryPoint ∧ arc una cc.recoveryPoint ≤ arc una top)

def Control.Level (wnd : Nat) (cc : Control) : Prop := cc.ewn = min cc.cwnd wnd

def Control.leaveRecovery (cc : Control) : Control := {cc with recoveryPoint := 0,recoverFs := 0}

structure Sender where
  state : FsmState
  ini : Seq32
  una : Seq32
  nxt : Seq32
  max : Seq32
  fin : Seq32
  finSent : Bool
  seqMod : Seq32
  buffer : List UInt8
  written : List UInt8
  blocks : SackScoreboard
  sendSack : Bool
  sendTs : Bool
  mss : Int
  wnd : Nat
  wsc : Nat
  cc : Control
  ooo : OooQueue
  log : List Obs

def handshaking (state : FsmState) : Bool :=
  decide (state = .listen ∨ state = .synSent ∨ state = .synRcvd)

def finPhase (state : FsmState) : Bool :=
  decide (state = .finWait1 ∨ state = .finWait2 ∨ state = .closing ∨ state = .lastAck ∨ state = .timeWait ∨
    state = .closed)

def transferring (state : FsmState) : Bool := decide (state = .established ∨ state = .closeWait)

namespace Sender

def drained (s : Sender) : Nat := s.written.length - s.buffer.length

-- The edges after a segment at `seq`.
def advance (seq : Seq32) (dataLen : Nat) (flagSyn flagFin : Bool) (s : Sender) : Sender :=
  let nxt := add32 seq (dataLen + flagSyn.toNat + flagFin.toNat)
  {s with
    nxt := nxt
    max := if lt32 s.max nxt then nxt else s.max
    fin := if flagFin then nxt else s.fin
    finSent := flagFin || s.finSent
    seqMod := add32 s.seqMod (flagSyn.toNat + flagFin.toNat)}

def emit (seg : Segment) (s : Sender) : Sender :=
  let told : Sender := {s with log := s.log ++ [.sent seg s.una s.max s.wnd s.drained]}
  told.advance seg.seq seg.data.length seg.flagSyn seg.flagFin

-- The whole of what one acceptable acknowledgement changes.
def acknowledge (a : Seq32) (blocks : SackScoreboard) (cc : Control) (mss : Int) (wnd : Nat) (s : Sender) : Sender :=
  {s with
    una := a
    nxt := if arc s.una s.nxt < arc s.una a then a else s.nxt
    seqMod := a
    buffer := s.buffer.drop (arc s.seqMod a)
    blocks := blocks
    cc := cc
    mss := mss
    wnd := wnd}

-- Leaving ESTABLISHED ends a recovery.
def moveTo (new : FsmState) (s : Sender) : Sender :=
  {s with
    state := new
    cc := if s.state = .established ∧ new ≠ .established then s.cc.leaveRecovery else s.cc}

theorem moveTo_leaving {s : Sender} {new : FsmState} (leaving : s.state = .established ∧ new ≠ .established) :
    s.moveTo new = {s with state := new,cc := s.cc.leaveRecovery} := by
  unfold moveTo
  rw [if_pos leaving]

theorem moveTo_staying {s : Sender} {new : FsmState} (staying : ¬(s.state = .established ∧ new ≠ .established)) :
    s.moveTo new = {s with state := new} := by
  unfold moveTo
  rw [if_neg staying]

theorem moveTo_closed_moveTo (s : Sender) {new : FsmState} (left : new ≠ .established) :
    (s.moveTo .closed).moveTo new = s.moveTo new := by
  by_cases est : s.state = .established
  · rw [moveTo_leaving ⟨est,by decide⟩,moveTo_leaving ⟨est,left⟩]
    exact moveTo_staying (by simp)
  · rw [@moveTo_staying _ .closed (fun leaving => est leaving.1),moveTo_staying fun leaving => est leaving.1]
    exact moveTo_staying (by simp)

def moveBy (new : FsmState) (a : Seq32) (s : Sender) : Sender :=
  {s.moveTo new with log := s.log ++ [.moved s.state new (some a)]}

-- What a SYN, with or without ACK, teaches about the peer.
def learn (mss : Int) (wnd wsc : Nat) (sendSack sendTs : Bool) (cc : Control) (s : Sender) : Sender :=
  {s with mss := mss,wnd := wnd,wsc := wsc,sendSack := sendSack,sendTs := sendTs,cc := cc}

def restart (iss : Seq32) (s : Sender) : Sender :=
  {s with
    ini := iss,una := iss,nxt := iss,max := iss,fin := 0,finSent := false,seqMod := iss
    buffer := [],written := [],blocks := [],ooo := [],log := []}

-- The window a pump may fill: the cached one, or a limited-transmit allowance.
def Grants (s : Sender) (limit : Int) : Prop := limit = s.cc.ewn ∨ ∃ x : Int, 0 < x ∧ limit = min x s.wnd

end Sender

-- Where the code departs from what its own comments promise; which departures
-- a run shows decides which of the laws below it keeps.
inductive Slip where
  | unlevel     -- the cached window is left behind
  | rewind      -- a timeout takes back a `seq_mod` step that no SYN or FIN made
  | thirdLeg    -- the handshake completes without the SYN being acknowledged
  | earlyClose  -- CLOSE finds the SYN of a SYN_RCVD session unacknowledged
  | unsentFin   -- an ACK is taken for the ACK of a FIN that is not out
  deriving DecidableEq

-- What a SYN may teach: fields in range, the window level, no recovery under way.
structure Teaches (una top : Seq32) (mss : Int) (wnd wsc : Nat) (sendSack : Bool) (cc : Control) : Prop where
  positive : 0 < mss
  small : wnd ≤ windowMax
  shift : wsc ≤ 14
  sound : cc.Sound una top sendSack
  level : cc.Level wnd
  calm : cc.recoveryPoint = 0

-- One thing a sender does. Guards are what the code has tested at that point.
inductive Move (allowed : Slip → Prop) : Sender → Sender → Prop where
  | aim (s : Sender) (nxt : Seq32) (inside : arc s.una nxt ≤ arc s.una s.max) : Move allowed s {s with nxt := nxt}
  | syn (s : Sender) (seg : Segment) (opening : s.state = .synSent ∨ s.state = .synRcvd)
      (kind : seg.flagSyn = true ∧ seg.flagFin = false) (first : seg.seq = s.ini)
      (load : seg.data = [] ∨ s.state = .synSent ∧ (seg.data.length : Int) ≤ s.mss ∧ s.buffer ≠ []) :
      Move allowed s (s.emit seg)
  | data (s : Sender) (seg : Segment) (limit : Int) (transfer : transferring s.state = true)
      (kind : seg.flagSyn = false ∧ seg.flagFin = false) (here : seg.seq = s.nxt) (granted : s.Grants limit)
      (near : arc s.una s.nxt + seg.data.length ≤ flightMax) (loaded : seg.data ≠ [])
      (content : seg.data = (s.buffer.drop (arc s.seqMod s.nxt)).take seg.data.length)
      (fits : (arc s.seqMod s.nxt + seg.data.length : Int) ≤ limit ∨ limit = 0 ∧ seg.data.length = 1) :
      Move allowed s (s.emit seg)
  | fin (s : Sender) (seg : Segment) (ending : TcpSession.finState s.state = true)
      (kind : seg.flagSyn = false ∧ seg.flagFin = true) (here : seg.seq = s.nxt) (bare : seg.data = [])
      (inside : (arc s.una s.nxt : Int) ≤ s.cc.ewn) (again : s.nxt ≠ s.fin) : Move allowed s (s.emit seg)
  | acknowledge (s : Sender) (a : Seq32) (blocks : SackScoreboard) (cc : Control) (mss : Int) (wnd : Nat)
      (settled : handshaking s.state = false) (reached : arc s.una a ≤ arc s.una s.max)
      (board : Board a s.max blocks) (bare : s.sendSack = false → blocks = [])
      (sound : cc.Sound a s.max s.sendSack) (positive : 0 < mss) (small : wnd ≤ windowMax)
      (level : (s.cc.Level s.wnd → cc.Level wnd) ∨ allowed .unlevel) :
      Move allowed s (s.acknowledge a blocks cc mss wnd)
  | sacked (s : Sender) (blocks : SackScoreboard) (negotiated : s.sendSack = true)
      (board : Board s.una s.max blocks) : Move allowed s {s with blocks := blocks}
  | regulate (s : Sender) (cc : Control) (mss : Int) (wnd : Nat) (sound : cc.Sound s.una s.max s.sendSack)
      (positive : 0 < mss) (small : wnd ≤ windowMax) (calm : handshaking s.state = true → cc.recoveryPoint = 0)
      (connecting : s.state = .synSent → mss ≤ s.mss ∧ wnd = s.wnd)
      (level : (s.cc.Level s.wnd → cc.Level wnd) ∨ allowed .unlevel) :
      Move allowed s {s with cc := cc,mss := mss,wnd := wnd}
  | walkBack (s : Sender) (settled : handshaking s.state = false → s.finSent = true ∨ allowed .rewind) :
      Move allowed s {s with seqMod := sub32 s.seqMod 1}
  | append (s : Sender) (data : List UInt8) (transfer : transferring s.state = true) :
      Move allowed s {s with buffer := s.buffer ++ data,written := s.written ++ data}
  | queue (s : Sender) (ooo : OooQueue) (empty : handshaking s.state = true → ooo = []) :
      Move allowed s {s with ooo := ooo}
  | negotiate (s : Sender) (mss : Int) (wnd wsc : Nat) (sendSack sendTs : Bool) (cc : Control)
      (fresh : s.state = .listen ∨ s.state = .synSent) (taught : Teaches s.una s.max mss wnd wsc sendSack cc) :
      Move allowed s ((s.learn mss wnd wsc sendSack sendTs cc).moveTo .synRcvd)
  | connected (s : Sender) (a : Seq32) (mss : Int) (wnd wsc : Nat) (sendSack sendTs : Bool) (cc : Control)
      (asked : s.state = .synSent) (fresh : 0 < arc s.una a) (reached : arc s.una a ≤ arc s.una s.max)
      (taught : Teaches a s.max mss wnd wsc sendSack cc) :
      Move allowed s (((s.acknowledge a [] cc mss wnd).learn mss wnd wsc sendSack sendTs cc).moveBy .established a)
  | accepted (s : Sender) (a : Seq32) (blocks : SackScoreboard) (cc : Control) (mss : Int) (wnd : Nat)
      (asked : s.state = .synRcvd) (fresh : 0 < arc s.una a ∨ allowed .thirdLeg)
      (reached : arc s.una a ≤ arc s.una s.max) (board : Board a s.max blocks)
      (bare : s.sendSack = false → blocks = []) (taught : Teaches a s.max mss wnd s.wsc s.sendSack cc) :
      Move allowed s ((s.acknowledge a blocks cc mss wnd).moveBy .established a)
  | admitted (s : Sender) (a : Seq32) (cc : Control) (asked : s.state = .synRcvd) (slipped : allowed .thirdLeg)
      (sound : cc.Sound s.una s.max s.sendSack) (level : cc.Level s.wnd) (calm : cc.recoveryPoint = 0) :
      Move allowed s ({s with cc := cc}.moveBy .established a)
  | peerClosed (s : Sender) (a : Seq32) (asked : s.state = .established) : Move allowed s (s.moveBy .closeWait a)
  | finished (s : Sender) (new : FsmState)
      (pair : s.state = .established ∧ new = .finWait1 ∨ s.state = .closeWait ∧ new = .lastAck)
      (empty : s.buffer = []) : Move allowed s (s.moveTo new)
  | earlyClose (s : Sender) (asked : s.state = .synRcvd) (slipped : allowed .earlyClose) :
      Move allowed s (s.moveTo .finWait1)
  | finAcked (s : Sender) (new : FsmState) (a : Seq32)
      (pair : s.state = .finWait1 ∧ (new = .finWait2 ∨ new = .timeWait) ∨ s.state = .closing ∧ new = .timeWait ∨
        s.state = .lastAck ∧ new = .closed)
      (covered : s.finSent = true ∧ arc a s.max ≤ flightMax ∧
          (le32 s.fin a = true ∨ le32 s.fin s.una = true ∧ arc s.una a ≤ arc s.una s.max) ∨
        allowed .unsentFin) :
      Move allowed s (s.moveBy new a)
  | drifts (s : Sender) (new : FsmState) (a : Seq32)
      (pair : (s.state = .finWait1 ∨ s.state = .finWait2) ∧ new = .closing ∨
        s.state = .finWait2 ∧ (new = .finWait2 ∨ new = .timeWait) ∨ s.state = .timeWait ∧ new = .timeWait) :
      Move allowed s (s.moveBy new a)
  | dropped (s : Sender) : Move allowed s (s.moveTo .closed)
  | reused (s : Sender) (iss : Seq32) (mss : Int) (wnd wsc : Nat) (sendSack sendTs : Bool) (cc : Control)
      (asked : s.state = .timeWait) (taught : Teaches iss iss mss wnd wsc sendSack cc) :
      Move allowed s (((s.restart iss).learn mss wnd wsc sendSack sendTs cc).moveTo .synRcvd)

abbrev Path (allowed : Slip → Prop) : Sender → Sender → Prop := Relation.ReflTransGen (Move allowed)

structure Core (s : Sender) : Prop where
  flight : arc s.una s.max ≤ flightMax
  nxt : arc s.una s.nxt ≤ arc s.una s.max
  board : Board s.una s.max s.blocks
  bare : s.sendSack = false → s.blocks = []
  mss : 0 < s.mss
  wnd : s.wnd ≤ windowMax
  wsc : s.wsc ≤ 14
  cc : s.cc.Sound s.una s.max s.sendSack

structure Inv (s : Sender) : Prop extends Core s where
  finSent : s.finSent = true → finPhase s.state = true
  handshake : handshaking s.state = true → s.una = s.ini ∧ s.ooo = [] ∧ s.cc.recoveryPoint = 0
  unanswered : s.state = .listen ∨ s.state = .synSent → s.sendSack = false ∧ s.sendTs = false
  listening : s.state = .listen → s.max = s.ini
  connecting : s.state = .synSent → s.mss ≤ 0xFFFF ∧ s.mss ≤ s.wnd ∧ arc s.una s.max ≤ 0x1_0000

section Keeping
variable {s : Sender}

theorem Core.short (core : Core s) : arc s.una s.max < 0x8000_0000 := by
  have cap := flightMax_short
  have flight := core.flight
  omega

theorem Control.Sound.grow {una top later : Seq32} {sendSack : Bool} {cc : Control} (sound : cc.Sound una top sendSack)
    (farther : arc una top ≤ arc una later) : cc.Sound una later sendSack :=
  {sound with
    recovering := by
      intro under
      obtain ⟨fs,place⟩ := sound.recovering under
      refine ⟨fs,place.imp_right ?_⟩
      intro ahead
      omega}

theorem Control.Sound.leave {una top : Seq32} {sendSack : Bool} {cc : Control} (sound : cc.Sound una top sendSack) :
    cc.leaveRecovery.Sound una top sendSack :=
  {sound with recovering := fun under => absurd rfl under}

theorem Board.grow {una top later : Seq32} {blocks : SackScoreboard} (board : Board una top blocks)
    (farther : arc una top ≤ arc una later) : Board una later blocks :=
  ⟨fun block member => ⟨(board.inside block member).1,le_trans (board.inside block member).2 farther⟩,board.apart⟩

theorem Inv.past (core : Core s) (settled : handshaking s.state = false)
    (finSent : s.finSent = true → finPhase s.state = true) : Inv s := by
  have notFresh : ¬(s.state = .listen ∨ s.state = .synSent) := by
    intro fresh
    rcases fresh with fresh | fresh
    · rw [fresh] at settled
      cases settled
    · rw [fresh] at settled
      cases settled
  exact {core with
    finSent := finSent
    handshake := by
      intro hand
      rw [settled] at hand
      cases hand
    unanswered := fun fresh => absurd fresh notFresh
    listening := fun fresh => absurd (Or.inl fresh) notFresh
    connecting := fun fresh => absurd (Or.inr fresh) notFresh}

theorem emit_max (core : Core s) (seg : Segment) (near : arc s.una (s.emit seg).nxt ≤ flightMax) :
    arc s.una (s.emit seg).max = max (arc s.una s.max) (arc s.una (s.emit seg).nxt) := by
  have cap := flightMax_short
  have short := core.short
  have order : lt32 s.max (s.emit seg).nxt = true ↔ arc s.una s.max < arc s.una (s.emit seg).nxt :=
    lt32_near short (by omega)
  have choice : (s.emit seg).max = if lt32 s.max (s.emit seg).nxt then (s.emit seg).nxt else s.max := rfl
  rw [choice]
  by_cases passed : arc s.una s.max < arc s.una (s.emit seg).nxt
  · rw [if_pos (order.mpr passed)]
    omega
  · rw [if_neg fun holds => passed (order.mp holds)]
    omega

theorem emit_core (core : Core s) (seg : Segment) (near : arc s.una (s.emit seg).nxt ≤ flightMax) :
    Core (s.emit seg) := by
  have top := emit_max core seg near
  have flight := core.flight
  have farther : arc s.una s.max ≤ arc s.una (s.emit seg).max := by omega
  exact {core with
    flight := by
      show arc s.una (s.emit seg).max ≤ flightMax
      omega
    nxt := by
      show arc s.una (s.emit seg).nxt ≤ arc s.una (s.emit seg).max
      omega
    board := core.board.grow farther
    cc := core.cc.grow farther}

theorem emit_nxt {seg : Segment} {count : Nat}
    (takes : seg.data.length + seg.flagSyn.toNat + seg.flagFin.toNat = count)
    (few : arc s.una seg.seq + count < 2^32) : arc s.una (s.emit seg).nxt = arc s.una seg.seq + count := by
  have place : (s.emit seg).nxt = add32 seg.seq (count : Nat) := by
    show add32 seg.seq (seg.data.length + seg.flagSyn.toNat + seg.flagFin.toNat) = add32 seg.seq count
    congr 1
    omega
  rw [place,arc_add32_from few]

theorem caught_up (core : Core s) {a : Seq32} (reached : arc s.una a ≤ arc s.una s.max) :
    arc a (if arc s.una s.nxt < arc s.una a then a else s.nxt) ≤ arc a s.max := by
  have whole := arc_cut reached
  have nxt := core.nxt
  split
  · simp
  · rename_i ahead
    have part : arc a s.nxt = arc s.una s.nxt - arc s.una a := arc_cut (by omega)
    omega

theorem acknowledge_core (core : Core s) {a : Seq32} {blocks : SackScoreboard} {cc : Control} {mss : Int} {wnd : Nat}
    (reached : arc s.una a ≤ arc s.una s.max) (board : Board a s.max blocks)
    (bare : s.sendSack = false → blocks = []) (sound : cc.Sound a s.max s.sendSack) (positive : 0 < mss)
    (small : wnd ≤ windowMax) : Core (s.acknowledge a blocks cc mss wnd) := by
  have whole := arc_cut reached
  have flight := core.flight
  exact {
    flight := by
      show arc a s.max ≤ flightMax
      omega
    nxt := caught_up core reached
    board := board
    bare := bare
    mss := positive
    wnd := small
    wsc := core.wsc
    cc := sound}

theorem moveTo_core (core : Core s) (new : FsmState) : Core (s.moveTo new) := by
  have sound : (s.moveTo new).cc.Sound s.una s.max s.sendSack := by
    show (if s.state = .established ∧ new ≠ .established then s.cc.leaveRecovery else s.cc).Sound _ _ _
    split
    · exact core.cc.leave
    · exact core.cc
  exact {core with cc := sound}

theorem learn_core {mss : Int} {wnd wsc : Nat} {sendSack : Bool} {cc : Control} (sendTs : Bool) (core : Core s)
    (taught : Teaches s.una s.max mss wnd wsc sendSack cc) (clean : s.blocks = []) :
    Core (s.learn mss wnd wsc sendSack sendTs cc) :=
  {core with
    bare := fun _ => clean
    mss := taught.positive
    wnd := taught.small
    wsc := taught.shift
    cc := taught.sound}

theorem restart_core (iss : Seq32) {mss : Int} {wnd wsc : Nat} {sendSack sendTs : Bool} {cc : Control}
    (taught : Teaches iss iss mss wnd wsc sendSack cc) :
    Core ((s.restart iss).learn mss wnd wsc sendSack sendTs cc) := {
  flight := by
    show arc iss iss ≤ flightMax
    simp
  nxt := le_refl _
  board := Board.nil _ _
  bare := fun _ => rfl
  mss := taught.positive
  wnd := taught.small
  wsc := taught.shift
  cc := taught.sound}

theorem Inv.answering (core : Core s) (here : s.state = .synRcvd) (unsent : s.finSent = false) (first : s.una = s.ini)
    (empty : s.ooo = []) (calm : s.cc.recoveryPoint = 0) : Inv s :=
  {core with
    finSent := by simp [unsent]
    handshake := fun _ => ⟨first,empty,calm⟩
    unanswered := by simp [here]
    listening := by simp [here]
    connecting := by simp [here]}

theorem Inv.unsent (inv : Inv s) (early : finPhase s.state = false) : s.finSent = false := by
  cases sent : s.finSent with
  | false => rfl
  | true =>
    rw [inv.finSent sent] at early
    cases early

theorem Inv.early (inv : Inv s) (early : finPhase s.state = false) {claim : Prop} (sent : s.finSent = true) : claim := by
  rw [inv.unsent early] at sent
  cases sent

theorem Core.observed (core : Core s) (log : List Obs) : Core {s with log := log} := {core with}

theorem syn_keeps (inv : Inv s) {seg : Segment} (opening : s.state = .synSent ∨ s.state = .synRcvd)
    (kind : seg.flagSyn = true ∧ seg.flagFin = false) (first : seg.seq = s.ini)
    (load : seg.data = [] ∨ s.state = .synSent ∧ (seg.data.length : Int) ≤ s.mss ∧ s.buffer ≠ []) :
    Inv (s.emit seg) := by
  have begun : s.una = s.ini := by
    rcases opening with here | here
    · exact (inv.handshake (by rw [here]; rfl)).1
    · exact (inv.handshake (by rw [here]; rfl)).1
  have few : seg.data.length ≤ 0xFFFF := by
    rcases load with empty | ⟨asked,fits,_⟩
    · simp [empty]
    · have small := (inv.connecting asked).1
      omega
  have away : arc s.una seg.seq = 0 := by
    rw [first,begun,arc_self]
  have place := @emit_nxt s seg (seg.data.length + 1) (by simp [kind.1,kind.2]) (by omega)
  have near : arc s.una (s.emit seg).nxt ≤ flightMax := by
    have room : 0x1_0000 ≤ flightMax := by decide
    omega
  have core := emit_core inv.toCore seg near
  have top := emit_max inv.toCore seg near
  refine {core with
    finSent := ?_
    handshake := inv.handshake
    unanswered := inv.unanswered
    listening := ?_
    connecting := ?_}
  · intro sent
    apply inv.finSent
    have sent : (seg.flagFin || s.finSent) = true := sent
    simpa [kind.2] using sent
  · intro listen
    have listen : s.state = .listen := listen
    rcases opening with here | here
    · rw [listen] at here
      cases here
    · rw [listen] at here
      cases here
  · intro asked
    obtain ⟨small,fits,flight⟩ := inv.connecting asked
    refine ⟨small,fits,?_⟩
    show arc s.una (s.emit seg).max ≤ 0x1_0000
    omega

theorem data_keeps (inv : Inv s) {seg : Segment} (transfer : transferring s.state = true)
    (kind : seg.flagSyn = false ∧ seg.flagFin = false) (here : seg.seq = s.nxt)
    (near : arc s.una s.nxt + seg.data.length ≤ flightMax) : Inv (s.emit seg) := by
  have cap := flightMax_short
  have place := @emit_nxt s seg seg.data.length (by simp [kind.1,kind.2])
    (by rw [here]; omega)
  rw [here] at place
  have core := emit_core inv.toCore seg (by omega)
  have outside : handshaking s.state = false ∧ finPhase s.state = false := by
    simp only [transferring,decide_eq_true_eq] at transfer
    rcases transfer with est | wait
    · rw [est]
      exact ⟨rfl,rfl⟩
    · rw [wait]
      exact ⟨rfl,rfl⟩
  refine Inv.past core outside.1 ?_
  intro sent
  apply inv.finSent
  have sent : (seg.flagFin || s.finSent) = true := sent
  simpa [kind.2] using sent

theorem fin_keeps (inv : Inv s) {seg : Segment} (ending : TcpSession.finState s.state = true)
    (kind : seg.flagSyn = false ∧ seg.flagFin = true) (here : seg.seq = s.nxt) (bare : seg.data = [])
    (inside : (arc s.una s.nxt : Int) ≤ s.cc.ewn) : Inv (s.emit seg) := by
  have cap := flightMax_short
  have span : flightMax = 2 * windowMax + 2 := rfl
  obtain ⟨low,high⟩ := inv.cc.ewn
  have place := @emit_nxt s seg 1 (by simp [kind.1,kind.2,bare]) (by rw [here]; omega)
  rw [here] at place
  have core := emit_core inv.toCore seg (by omega)
  simp only [TcpSession.finState,decide_eq_true_eq] at ending
  refine Inv.past core ?_ ?_
  · show handshaking s.state = false
    rcases ending with wait | both | last
    · rw [wait]; rfl
    · rw [both]; rfl
    · rw [last]; rfl
  · intro _
    show finPhase s.state = true
    rcases ending with wait | both | last
    · rw [wait]; rfl
    · rw [both]; rfl
    · rw [last]; rfl

theorem regulate_keeps (inv : Inv s) {cc : Control} {mss : Int} {wnd : Nat} (sound : cc.Sound s.una s.max s.sendSack)
    (positive : 0 < mss) (small : wnd ≤ windowMax) (calm : handshaking s.state = true → cc.recoveryPoint = 0)
    (connecting : s.state = .synSent → mss ≤ s.mss ∧ wnd = s.wnd) : Inv {s with cc := cc,mss := mss,wnd := wnd} := by
  refine {inv with
    mss := positive
    wnd := small
    cc := sound
    handshake := ?_
    connecting := ?_}
  · intro hand
    obtain ⟨first,empty,_⟩ := inv.handshake hand
    exact ⟨first,empty,calm hand⟩
  · intro asked
    obtain ⟨small,fits,flight⟩ := inv.connecting asked
    obtain ⟨shrunk,same⟩ := connecting asked
    refine ⟨by show mss ≤ 0xFFFF; omega,?_,flight⟩
    show mss ≤ wnd
    omega

theorem negotiate_keeps (inv : Inv s) {mss : Int} {wnd wsc : Nat} {sendSack : Bool} (sendTs : Bool) {cc : Control}
    (fresh : s.state = .listen ∨ s.state = .synSent) (taught : Teaches s.una s.max mss wnd wsc sendSack cc) :
    Inv ((s.learn mss wnd wsc sendSack sendTs cc).moveTo .synRcvd) := by
  have clean : s.blocks = [] := inv.bare (inv.unanswered fresh).1
  have marks : handshaking s.state = true ∧ finPhase s.state = false := by
    rcases fresh with here | here
    · rw [here]
      exact ⟨rfl,rfl⟩
    · rw [here]
      exact ⟨rfl,rfl⟩
  obtain ⟨first,empty,_⟩ := inv.handshake marks.1
  have core := moveTo_core (learn_core sendTs inv.toCore taught clean) .synRcvd
  refine Inv.answering core rfl (inv.unsent marks.2) first empty ?_
  have stays : ¬(s.state = .established ∧ FsmState.synRcvd ≠ .established) := by
    rcases fresh with here | here
    · simp [here]
    · simp [here]
  show (if s.state = .established ∧ FsmState.synRcvd ≠ .established then cc.leaveRecovery else cc).recoveryPoint = 0
  rw [if_neg stays]
  exact taught.calm

theorem move_keeps {allowed : Slip → Prop} {t : Sender} (step : Move allowed s t) (inv : Inv s) : Inv t := by
  cases step with
  | aim nxt inside => exact {inv with nxt := inside}
  | syn seg opening kind first load => exact syn_keeps inv opening kind first load
  | data seg limit transfer kind here granted near loaded content fits => exact data_keeps inv transfer kind here near
  | fin seg ending kind here bare inside again => exact fin_keeps inv ending kind here bare inside
  | acknowledge a blocks cc mss wnd settled reached board bare sound positive small level =>
    exact Inv.past (acknowledge_core inv.toCore reached board bare sound positive small) settled inv.finSent
  | sacked blocks negotiated board =>
    exact {inv with
      board := board
      bare := fun off => absurd negotiated (by simp [show s.sendSack = false from off])}
  | regulate cc mss wnd sound positive small calm connecting level =>
    exact regulate_keeps inv sound positive small calm connecting
  | walkBack settled => exact {inv with}
  | append data transfer => exact {inv with}
  | queue ooo empty =>
    exact {inv with
      handshake := by
        intro hand
        obtain ⟨first,_,calm⟩ := inv.handshake hand
        exact ⟨first,empty hand,calm⟩}
  | negotiate mss wnd wsc sendSack sendTs cc fresh taught => exact negotiate_keeps inv sendTs fresh taught
  | connected a mss wnd wsc sendSack sendTs cc asked fresh reached taught =>
    have sound : cc.Sound a s.max s.sendSack := {taught.sound with recovering := fun under => absurd taught.calm under}
    have acked := acknowledge_core inv.toCore reached (Board.nil a s.max) (fun _ => rfl) sound taught.positive
      taught.small
    have learned := learn_core sendTs acked taught rfl
    exact Inv.past ((moveTo_core learned .established).observed _) rfl (inv.early (by rw [asked]; rfl))
  | accepted a blocks cc mss wnd asked fresh reached board bare taught =>
    have acked := acknowledge_core inv.toCore reached board bare taught.sound taught.positive taught.small
    exact Inv.past ((moveTo_core acked .established).observed _) rfl (inv.early (by rw [asked]; rfl))
  | admitted a cc asked slipped sound level calm =>
    have core : Core {s with cc := cc} := {inv.toCore with cc := sound}
    exact Inv.past ((moveTo_core core .established).observed _) rfl (inv.early (by rw [asked]; rfl))
  | peerClosed a asked =>
    exact Inv.past ((moveTo_core inv.toCore .closeWait).observed _) rfl (inv.early (by rw [asked]; rfl))
  | finished new pair empty =>
    have core := moveTo_core inv.toCore new
    rcases pair with ⟨_,rfl⟩ | ⟨_,rfl⟩
    · exact Inv.past core rfl (fun _ => rfl)
    · exact Inv.past core rfl (fun _ => rfl)
  | earlyClose asked slipped => exact Inv.past (moveTo_core inv.toCore .finWait1) rfl (fun _ => rfl)
  | finAcked new a pair covered =>
    have core := (moveTo_core inv.toCore new).observed (s.log ++ [.moved s.state new (some a)])
    rcases pair with ⟨_,rfl | rfl⟩ | ⟨_,rfl⟩ | ⟨_,rfl⟩ <;> exact Inv.past core rfl (fun _ => rfl)
  | drifts new a pair =>
    have core := (moveTo_core inv.toCore new).observed (s.log ++ [.moved s.state new (some a)])
    rcases pair with ⟨_,rfl⟩ | ⟨_,rfl | rfl⟩ | ⟨_,rfl⟩ <;> exact Inv.past core rfl (fun _ => rfl)
  | dropped => exact Inv.past (moveTo_core inv.toCore .closed) rfl (fun _ => rfl)
  | reused iss mss wnd wsc sendSack sendTs cc asked taught =>
    refine Inv.answering (moveTo_core (restart_core iss taught) .synRcvd) rfl rfl rfl rfl ?_
    show (if s.state = .established ∧ FsmState.synRcvd ≠ .established then cc.leaveRecovery else cc).recoveryPoint = 0
    rw [if_neg (by simp [asked])]
    exact taught.calm

theorem path_inv {allowed : Slip → Prop} {t : Sender} (path : Path allowed s t) (inv : Inv s) : Inv t :=
  Runs.path_keeps _ (fun _ _ step => move_keeps step) path inv

end Keeping

end PmdPytcp.Tcp
