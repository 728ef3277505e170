import PmdPytcp.Tcp.Frame
import PmdPytcp.Tcp.Refine.Recovery

namespace PmdPytcp.Tcp
open Arc

namespace TcpSession

-- The segment, and those its processing may pull out of the queue after it.
def awaiting (p : TcpMetadata) (s : TcpSession) : List TcpMetadata := p :: s.oooPacketQueue.map Subtype.val

-- What the code relies on and does not check.
structure Tame (p : TcpMetadata) (s : TcpSession) : Prop where
  sack : s.advertise.sendSack = true → ∀ q ∈ s.awaiting p, arc s.sndSeq.una q.tcpAck ≤ arc s.sndSeq.una s.sndSeq.max →
    GateSound q.tcpAck s.sndSeq.max q.tcpSackBlocks
  third : s.state = .closeWait → ∀ q ∈ s.awaiting p, q.tcpData = [] → q.tcpAck = s.sndSeq.max →
    s.tx.requests q.tcpAck ≠ 2
  wrapped : s.advertise.sendSack = false → s.sndSeq.max = 0 → ∀ q ∈ s.awaiting p, q.tcpData = [] →
    s.tx.requests q.tcpAck ≠ 2

instance (p : TcpMetadata) (s : TcpSession) : Decidable (s.Tame p) :=
  decidable_of_iff (_ ∧ _ ∧ _) ⟨fun ⟨sack,third,wrapped⟩ => ⟨sack,third,wrapped⟩,
    fun tame => ⟨tame.sack,tame.third,tame.wrapped⟩⟩

-- The window cache is left behind by a DSACK undo, by a window update without
-- data and by a limited transmit that finds the connection idle.
def Unlevels (e : Env) (p : TcpMetadata) (s : TcpSession) : Prop :=
  (∃ q ∈ s.awaiting p, s.DsackUndoes q) ∨ (∃ q ∈ s.oooPacketQueue, q.1.tcpData = []) ∨
    s.isDuplicateAck p = true ∧ (s.peerWnd p ≠ s.win.sndWnd ∨ s.IdleLimited e p)

instance (e : Env) (p : TcpMetadata) (s : TcpSession) : Decidable (s.Unlevels e p) :=
  inferInstanceAs (Decidable ((∃ q ∈ s.awaiting p,_) ∨ (∃ q ∈ s.oooPacketQueue,_) ∨ _ ∧ _))

-- The handshake ends although the ACK failed PAWS, or before the SYN is out.
def HalfOpens (e : Env) (p : TcpMetadata) (s : TcpSession) : Prop :=
  s.state = .synRcvd ∧ p.OnlyAck ∧ p.tcpAck = s.sndSeq.nxt ∧
    (s.pawsVerdict e p = .dropSilent ∨ s.pawsVerdict e p = .dropAnswered ∨ s.sndSeq.nxt = s.sndSeq.una)

instance (e : Env) (p : TcpMetadata) (s : TcpSession) : Decidable (s.HalfOpens e p) :=
  inferInstanceAs (Decidable (_ ∧ _ ∧ _ ∧ _))

-- The FIN test compares with a FIN that was never sent.
def FinTooEarly (p : TcpMetadata) (s : TcpSession) : Prop :=
  (s.state = .finWait1 ∨ s.state = .closing) ∧ s.sndSeq.finSent = false ∧
      (∃ a ∈ s.sndSeq.una :: (s.awaiting p).map TcpMetadata.tcpAck, le32 s.sndSeq.fin a = true) ∨
    s.state = .lastAck ∧ p.tcpAck = s.sndSeq.nxt ∧ ¬(s.sndSeq.finSent = true ∧ le32 s.sndSeq.fin p.tcpAck = true)

instance (p : TcpMetadata) (s : TcpSession) : Decidable (s.FinTooEarly p) :=
  inferInstanceAs (Decidable (_ ∧ _ ∧ (∃ a ∈ _,_) ∨ _))

structure Permits (allowed : Slip → Prop) (e : Env) (p : TcpMetadata) (s : TcpSession) : Prop where
  unlevel : s.Unlevels e p → allowed .unlevel
  thirdLeg : s.HalfOpens e p → allowed .thirdLeg
  unsentFin : s.FinTooEarly p → allowed .unsentFin

variable {e : Env} {s : TcpSession} {allowed : Slip → Prop} {p : TcpMetadata} {replay : Replay}

-- The moves a replayed segment, a plain ACK, can make.
def Follows (old new : FsmState) : Prop :=
  new = old ∨ old = .finWait1 ∧ new = .finWait2 ∨ old = .closing ∧ new = .timeWait

theorem Follows.trans {a b c : FsmState} (first : Follows a b) (second : Follows b c) : Follows a c := by
  rcases first with rfl | ⟨rfl,rfl⟩ | ⟨rfl,rfl⟩
  · exact second
  · rcases second with rfl | ⟨other,_⟩ | ⟨other,_⟩
    · exact .inr (.inl ⟨rfl,rfl⟩)
    · cases other
    · cases other
  · rcases second with rfl | ⟨other,_⟩ | ⟨other,_⟩
    · exact .inr (.inr ⟨rfl,rfl⟩)
    · cases other
    · cases other

theorem Follows.settled {a b : FsmState} (follows : Follows a b) (settled : handshaking a = false) :
    handshaking b = false := by
  rcases follows with rfl | ⟨_,rfl⟩ | ⟨_,rfl⟩
  · exact settled
  · rfl
  · rfl

-- Past the last data octet the edges of the flight stand still but for SND.UNA.
def Edges (p : TcpMetadata) (s s' : TcpSession) : Prop :=
  s'.sndSeq.max = s.sndSeq.max ∧ s'.sndSeq.fin = s.sndSeq.fin ∧ s'.sndSeq.finSent = s.sndSeq.finSent ∧
    s'.sndSeq.una ∈ s.sndSeq.una :: (s.awaiting p).map TcpMetadata.tcpAck

theorem Edges.same (una : s'.sndSeq = s.sndSeq) : Edges p s s' := by
  rw [Edges,una]
  exact ⟨rfl,rfl,rfl,List.mem_cons_self ..⟩

-- A session that stays in CLOSING with its FIN acknowledged did not look.
structure After (allowed : Slip → Prop) (p : TcpMetadata) (s s' : TcpSession) : Prop where
  path : Path allowed (s.senderAt none) (s'.senderAt none)
  state : Follows s.state s'.state
  edges : finPhase s.state = true → Edges p s s'
  missed : s'.state = .closing → le32 s'.sndSeq.fin s'.sndSeq.una = true → s'.sndSeq.una = s.sndSeq.una

theorem After.quiet {s' : TcpSession} (same : s'.senderAt none = s.senderAt none) : After allowed p s s' := by
  have state : s'.state = s.state := congrArg Sender.state same
  have una : s'.sndSeq.una = s.sndSeq.una := congrArg Sender.una same
  have top : s'.sndSeq.max = s.sndSeq.max := congrArg Sender.max same
  have fin : s'.sndSeq.fin = s.sndSeq.fin := congrArg Sender.fin same
  have sent : s'.sndSeq.finSent = s.sndSeq.finSent := congrArg Sender.finSent same
  refine ⟨same ▸ .refl,.inl state,?_,fun _ _ => una⟩
  intro _
  refine ⟨top,fin,sent,?_⟩
  rw [una]
  exact List.mem_cons_self ..

-- Every segment leads along a path; a plain ACK past the handshake, the only
-- kind that is ever replayed, leads no further than `After` says.
def Handled (allowed : Slip → Prop) (p : TcpMetadata) (s : TcpSession) (out : Outcome) : Prop :=
  ∃ s', out = .ok s' ∧ Path allowed (s.senderAt none) (s'.senderAt none) ∧
    (p.OnlyAck → handshaking s.state = false → s.state ≠ .lastAck → After allowed p s s')

theorem After.handled {s' : TcpSession} (after : After allowed p s s') : Handled allowed p s (.ok s') :=
  ⟨s',rfl,after.path,fun _ _ _ => after⟩

theorem handled_quiet {s' : TcpSession} (same : s'.senderAt none = s.senderAt none) : Handled allowed p s (.ok s') :=
  (After.quiet same).handled

theorem Handled.behind {s₁ : TcpSession} {out : Outcome} (same : s₁.senderAt none = s.senderAt none)
    (handled : Handled allowed p s₁ out) : Handled allowed p s out := by
  obtain ⟨s',result,path,within⟩ := handled
  have state : s₁.state = s.state := congrArg Sender.state same
  have una : s₁.sndSeq.una = s.sndSeq.una := congrArg Sender.una same
  have top : s₁.sndSeq.max = s.sndSeq.max := congrArg Sender.max same
  have fin : s₁.sndSeq.fin = s.sndSeq.fin := congrArg Sender.fin same
  have sent : s₁.sndSeq.finSent = s.sndSeq.finSent := congrArg Sender.finSent same
  have queue : s₁.oooPacketQueue = s.oooPacketQueue := congrArg Sender.ooo same
  rw [same] at path
  refine ⟨s',result,path,?_⟩
  intro only settled notLast
  rw [state] at within
  have after := within only settled notLast
  refine ⟨path,state ▸ after.state,?_,una ▸ after.missed⟩
  intro final
  have edges := after.edges (state ▸ final)
  unfold Edges awaiting at edges ⊢
  rw [top,fin,sent,una,queue] at edges
  exact edges

def Replays (allowed : Slip → Prop) (e : Env) (replay : Replay) : Prop :=
  ∀ (q : TcpMetadata) (s : TcpSession), Inv (s.senderAt none) → s.Tame q → (s.ecnPrologue q).Permits allowed e q →
    Handled allowed q s (replay q s)

theorem requests_forget {t : TxBufferState} {ack a : Seq32} {n : Nat} (positive : 0 < n)
    (counted : (t.forgetRequestsBelow ack).requests a = n) : t.requests a = n := by
  unfold TxBufferState.forgetRequestsBelow TxBufferState.requests at counted
  rw [Dict.get_filter_key t.retransmitRequestCounter (fun key => !lt32 key ack) a] at counted
  split at counted
  · exact counted
  · simp only [Option.getD_none] at counted
    omega

-- What the state at a replay has in common with the state before the segment.
structure Chained (p : TcpMetadata) (q : Stored) (s t : TcpSession) : Prop where
  state : t.state = s.state
  una : t.sndSeq.una = p.tcpAck
  max : t.sndSeq.max = s.sndSeq.max
  fin : t.sndSeq.fin = s.sndSeq.fin ∧ t.sndSeq.finSent = s.sndSeq.finSent
  sack : t.advertise.sendSack = s.advertise.sendSack
  among : ∀ r ∈ t.awaiting q.1, ∃ stored ∈ s.oooPacketQueue, stored.1 = r
  requests : ∀ a n, 0 < n → t.tx.requests a = n → s.tx.requests a = n
  undoes : ∀ r, t.DsackUndoes r → s.DsackUndoes r

theorem Processed.chained {s' : TcpSession} {q : Stored} (done : Processed p s s')
    (found : s'.oooPacketQueue.find s'.rcvSeq.nxt = some q) :
    Chained p q s {s' with oooPacketQueue := s'.oooPacketQueue.drop s'.rcvSeq.nxt} := by
  obtain ⟨blocks,cc,mss,sender,_⟩ := done.sender
  have inner : ∀ r ∈ s'.oooPacketQueue, r ∈ s.oooPacketQueue := by
    intro r member
    rw [done.queue] at member
    exact List.mem_of_mem_filter member
  exact {
    state := congrArg Sender.state sender
    una := congrArg Sender.una sender
    max := congrArg Sender.max sender
    fin := ⟨congrArg Sender.fin sender,congrArg Sender.finSent sender⟩
    sack := congrArg Sender.sendSack sender
    among := by
      intro r member
      rcases List.mem_cons.mp member with rfl | later
      · exact ⟨q,inner q (List.mem_of_find?_eq_some found),rfl⟩
      · obtain ⟨stored,belongs,same⟩ := List.mem_map.mp later
        exact ⟨stored,inner stored (List.mem_of_mem_filter belongs),same⟩
    requests := by
      intro a n positive counted
      apply @requests_forget _ p.tcpAck _ _ positive
      unfold TxBufferState.requests at counted ⊢
      rw [← done.requests]
      exact counted
    undoes := by
      intro r undone
      obtain ⟨on,mode,valid,under,dsack⟩ := undone
      have on : s'.advertise.sendSack = true := on
      have sack : s'.advertise.sendSack = s.advertise.sendSack := congrArg Sender.sendSack sender
      exact ⟨sack ▸ on,done.mode ▸ mode,done.valid valid,done.point under,dsack⟩}

section Chain
variable {q : Stored} {t : TcpSession} (chained : Chained p q s t)
include chained

theorem Chained.awaiting {r : TcpMetadata} (member : r ∈ t.awaiting q.1) : r ∈ s.awaiting p := by
  obtain ⟨stored,belongs,same⟩ := chained.among r member
  exact List.mem_cons_of_mem _ (List.mem_map.mpr ⟨stored,belongs,same⟩)

theorem Chained.tame (tame : s.Tame p) (reached : arc s.sndSeq.una p.tcpAck ≤ arc s.sndSeq.una s.sndSeq.max) :
    t.Tame q.1 := {
  sack := by
    intro on r member inside
    rw [chained.sack] at on
    rw [chained.una,chained.max] at inside
    rw [chained.max]
    apply tame.sack on r (chained.awaiting member)
    have whole := arc_cut reached
    have bound := arc_lt s.sndSeq.una s.sndSeq.max
    rw [arc_trans (b := p.tcpAck) (by omega)]
    omega
  third := by
    intro here r member empty top counted
    rw [chained.state] at here
    rw [chained.max] at top
    exact tame.third here r (chained.awaiting member) empty top (chained.requests _ 2 (by decide) counted)
  wrapped := by
    intro off zero r member empty counted
    rw [chained.sack] at off
    rw [chained.max] at zero
    exact tame.wrapped off zero r (chained.awaiting member) empty (chained.requests _ 2 (by decide) counted)}

theorem Chained.permits (permits : s.Permits allowed e p) (settled : handshaking s.state = false)
    (notLast : s.state ≠ .lastAck) : t.Permits allowed e q.1 := {
  unlevel := by
    intro slips
    apply permits.unlevel
    rcases slips with ⟨r,member,undoes⟩ | ⟨r,member,empty⟩ | ⟨duplicate,_⟩
    · exact .inl ⟨r,chained.awaiting member,chained.undoes r undoes⟩
    · obtain ⟨stored,belongs,same⟩ := chained.among r.1
        (List.mem_cons_of_mem _ (List.mem_map.mpr ⟨r,member,rfl⟩))
      exact .inr (.inl ⟨stored,belongs,same ▸ empty⟩)
    · obtain ⟨stored,belongs,same⟩ := chained.among q.1 (List.mem_cons_self ..)
      refine .inr (.inl ⟨stored,belongs,?_⟩)
      simp only [isDuplicateAck,Bool.and_eq_true,List.isEmpty_iff] at duplicate
      rw [same]
      exact duplicate.2
  thirdLeg := by
    rintro ⟨here,_⟩
    rw [chained.state] at here
    rw [here] at settled
    cases settled
  unsentFin := by
    intro slips
    apply permits.unsentFin
    rcases slips with ⟨here,unsent,a,member,passed⟩ | ⟨here,_⟩
    · rw [chained.state] at here
      rw [chained.fin.2] at unsent
      rw [chained.fin.1] at passed
      refine .inl ⟨here,unsent,a,?_,passed⟩
      rcases List.mem_cons.mp member with rfl | later
      · rw [chained.una]
        exact List.mem_cons_of_mem _ (List.mem_cons_self ..)
      · obtain ⟨r,belongs,rfl⟩ := List.mem_map.mp later
        exact List.mem_cons_of_mem _ (List.mem_map.mpr ⟨r,chained.awaiting belongs,rfl⟩)
    · rw [chained.state] at here
      exact absurd here notLast}

end Chain

theorem Processed.path {s' : TcpSession} (done : Processed p s s') (permits : s.Permits allowed e p) (settled : handshaking s.state = false)
    (reached : arc s.sndSeq.una p.tcpAck ≤ arc s.sndSeq.una s.sndSeq.max) (ooo : OooQueue) :
    Path allowed (s.senderAt none) (({s' with oooPacketQueue := ooo} : TcpSession).senderAt none) := by
  obtain ⟨blocks,cc,mss,sender,board,bare,sound,positive,small,level⟩ := done.sender
  have step : Move allowed (s.senderAt none) ((s.senderAt none).acknowledge p.tcpAck blocks cc mss (s.peerWnd p)) := by
    refine Move.acknowledge (s.senderAt none) p.tcpAck blocks cc mss (s.peerWnd p) settled reached board bare sound
      positive small ?_
    rcases level with kept | undoes
    · exact .inl kept
    · exact .inr (permits.unlevel (.inl ⟨p,List.mem_cons_self ..,undoes⟩))
  refine Relation.ReflTransGen.tail (.single step) ?_
  have shape : ({s' with oooPacketQueue := ooo} : TcpSession).senderAt none = {s'.senderAt none with ooo := ooo} := rfl
  rw [shape,sender]
  refine Move.queue _ ooo ?_
  intro hand
  have hand : handshaking s.state = true := hand
  rw [settled] at hand
  cases hand

theorem Chained.prologue {q : Stored} {t : TcpSession} (chained : Chained p q s t) :
    Chained p q s (t.ecnPrologue q.1) := by
  obtain ⟨ec,a,shape⟩ := ecnPrologue_shape (s := t) q.1
  rw [shape]
  have flags : ∀ c : CcState, c = (if t.ecnReacts q.1 then t.reduceForEcn.cc else t.cc) →
      c.ccMode = t.cc.ccMode ∧ c.frCubicSnapshotValid = t.cc.frCubicSnapshotValid ∧
        c.recoveryPoint = t.cc.recoveryPoint := by
    intro c same
    rw [same]
    split <;> exact ⟨rfl,rfl,rfl⟩
  obtain ⟨mode,valid,point⟩ := flags _ rfl
  refine {chained with undoes := ?_}
  intro r undone
  apply chained.undoes
  obtain ⟨on,cubic,kept,under,dsack⟩ := undone
  exact ⟨on,mode ▸ cubic,valid ▸ kept,point ▸ under,dsack⟩

theorem processAckPacket_after (replays : Replays allowed e replay) (inv : Inv (s.senderAt none)) (tame : s.Tame p)
    (permits : s.Permits allowed e p) (settled : handshaking s.state = false) (notLast : s.state ≠ .lastAck)
    (reached : arc s.sndSeq.una p.tcpAck ≤ arc s.sndSeq.una s.sndSeq.max) :
    ∃ s', s.processAckPacket replay e p = .ok s' ∧ Path allowed (s.senderAt none) (s'.senderAt none) ∧
      Follows s.state s'.state ∧ (finPhase s.state = true → Edges p s s') ∧
      (s'.state = .closing → le32 s'.sndSeq.fin s'.sndSeq.una = true →
        s'.sndSeq.una = s.sndSeq.una ∨ s'.sndSeq.una = p.tcpAck) := by
  have sane : s.advertise.sendSack = true → GateSound p.tcpAck s.sndSeq.max p.tcpSackBlocks :=
    fun on => tame.sack on p (List.mem_cons_self ..) reached
  rcases processAckPacket_ok (e := e) replay p inv.toCore reached sane with ⟨_,dropped⟩ | ⟨_,s',called,done⟩
  · have after : After allowed p s _ := .quiet (checkPaws_sender (e := e) inv.toCore p)
    exact ⟨_,dropped,after.path,after.state,after.edges,fun here passed => .inl (after.missed here passed)⟩
  obtain ⟨blocks,cc,mss,sender,_⟩ := done.sender
  have state : s'.state = s.state := congrArg Sender.state sender
  rw [called]
  unfold replayOoo
  cases found : s'.oooPacketQueue.find s'.rcvSeq.nxt with
  | none =>
    have una : s'.sndSeq.una = p.tcpAck := congrArg Sender.una sender
    refine ⟨s',rfl,done.path permits settled reached s'.oooPacketQueue,.inl state,?_,fun _ _ => .inr una⟩
    intro _
    refine ⟨congrArg Sender.max sender,congrArg Sender.fin sender,congrArg Sender.finSent sender,?_⟩
    rw [una]
    exact List.mem_cons_of_mem _ (List.mem_cons_self ..)
  | some q =>
    have chained := done.chained found
    have path := done.path permits settled reached (s'.oooPacketQueue.drop s'.rcvSeq.nxt)
    dsimp only
    generalize ({s' with oooPacketQueue := s'.oooPacketQueue.drop s'.rcvSeq.nxt} : TcpSession) = t at chained path ⊢
    obtain ⟨s'',replayed,_,within⟩ := replays q.1 t (path_inv path inv) (chained.tame tame reached)
      (chained.prologue.permits permits settled notLast)
    have after := within q.2 (chained.state ▸ settled) (chained.state ▸ notLast)
    refine ⟨s'',replayed,path.trans after.path,chained.state ▸ after.state,?_,?_⟩
    · intro final
      obtain ⟨top,fin,sent,una⟩ := after.edges (chained.state ▸ final)
      refine ⟨top.trans chained.max,fin.trans chained.fin.1,sent.trans chained.fin.2,?_⟩
      rcases List.mem_cons.mp una with same | later
      · rw [same,chained.una]
        exact List.mem_cons_of_mem _ (List.mem_cons_self ..)
      · obtain ⟨r,belongs,same⟩ := List.mem_map.mp later
        rw [← same]
        exact List.mem_cons_of_mem _ (List.mem_map.mpr ⟨r,chained.awaiting belongs,rfl⟩)
    · intro here passed
      exact .inr ((after.missed here passed).trans chained.una)

end TcpSession

end PmdPytcp.Tcp
