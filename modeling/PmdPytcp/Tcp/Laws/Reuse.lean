import PmdPytcp.Tcp.Laws.TimeWait

namespace PmdPytcp.Tcp
open Arc

variable {e e₀ : Env} {o : Opening} {s : TcpSession} {p : TcpMetadata}

def Opening.spawned (o : Opening) (e₀ e : Env) (p : TcpMetadata) : TcpSession :=
  (o.session.tcpFsmSyscall e₀ .listen).acceptSyn e p

structure Admits (e : Env) (p : TcpMetadata) : Prop where
  syn : p.OnlySyn ∧ p.tcpAck = 0
  acceptQueue : e.acceptQLen < e.acceptQCap
  backlog : e.embryonic < tcpSynBacklogMaxCount

theorem Admits.handled (admits : Admits e p) (o : Opening) :
    (o.session.tcpFsmSyscall e₀ .listen).fsmListenPacket e p = o.spawned e₀ e p := by
  unfold TcpSession.fsmListenPacket
  rw [if_pos admits.syn,if_neg (Nat.not_le.mpr admits.acceptQueue),if_neg (Nat.not_le.mpr admits.backlog)]
  rfl

namespace TcpSession

def reused (e : Env) (p : TcpMetadata) (s : TcpSession) : TcpSession :=
  ((s.checkPawsAndUpdateTsRecent e p).2.reinitForRfc6191Reuse e p).changeState e .synRcvd none

structure ReuseSyn (e : Env) (p : TcpMetadata) (s : TcpSession) : Prop where
  waiting : s.state = .timeWait
  passes : (s.checkPawsAndUpdateTsRecent e p).1 = true
  acceptable : (s.checkPawsAndUpdateTsRecent e p).2.reuseAcceptable s.ts.tsRecent p = true

theorem ReuseSyn.handled (reuse : s.ReuseSyn e p) :
    s.fsmTimeWaitPacket e p = (s.reused e p).transmitPacket e {flagSyn := true,flagAck := true} := by
  obtain ⟨_,passes,acceptable⟩ := reuse
  unfold fsmTimeWaitPacket reused
  generalize s.checkPawsAndUpdateTsRecent e p = verdict at passes acceptable ⊢
  obtain ⟨passed,t⟩ := verdict
  dsimp only at passes acceptable ⊢
  rw [passes,acceptable,if_neg (by simp),if_pos (Eq.refl _)]

-- Without clock readings and without what only the observer keeps.
def timeless (s : TcpSession) : TcpSession :=
  {s with
    timers := {}
    ts := {s.ts with tsRecentUpdatedAtMs := 0}
    log := []
    written := []
    delivered := []}

-- What a SYN that passes PAWS leaves in TS.Recent.
def tsRecentAfter (p : TcpMetadata) (s : TcpSession) : BitVec 32 :=
  if s.ts.sendTs then p.tcpTsval.getD s.ts.tsRecent else s.ts.tsRecent

theorem paws_passed (passes : (s.checkPawsAndUpdateTsRecent e p).1 = true) (syn : p.tcpFlagSyn = true) :
    ∃ ms, (s.checkPawsAndUpdateTsRecent e p).2 =
      {s with ts := {s.ts with tsRecent := s.tsRecentAfter p,tsRecentUpdatedAtMs := ms}} := by
  unfold tsRecentAfter
  unfold checkPawsAndUpdateTsRecent at passes ⊢
  cases verdict : s.pawsVerdict e p with
  | dropSilent =>
    rw [verdict] at passes
    cases passes
  | dropAnswered =>
    rw [verdict] at passes
    cases passes
  | accept =>
    refine ⟨s.ts.tsRecentUpdatedAtMs,?_⟩
    -- a SYN with a timestamp is accepted without a refresh only when none are in use
    have kept : (if s.ts.sendTs then p.tcpTsval.getD s.ts.tsRecent else s.ts.tsRecent) = s.ts.tsRecent := by
      unfold pawsVerdict at verdict
      cases sends : s.ts.sendTs with
      | false => rfl
      | true =>
        rw [sends] at verdict
        cases offered : p.tcpTsval with
        | none => rfl
        | some tsval =>
          rw [offered,syn] at verdict
          simp only [Bool.not_true,Bool.false_eq_true,if_false,Bool.true_or,if_true] at verdict
          split at verdict
          · split at verdict <;> cases verdict
          · cases verdict
    rw [kept]
  | refresh =>
    unfold refreshTsRecent
    have sends : s.ts.sendTs = true := by
      by_contra off
      unfold pawsVerdict at verdict
      simp only [Bool.not_eq_true] at off
      rw [off] at verdict
      cases verdict
    cases offered : p.tcpTsval with
    | none => exact ⟨s.ts.tsRecentUpdatedAtMs,by simp⟩
    | some tsval => exact ⟨e.nowMs,by rw [sends]; rfl⟩

def scaled (p : TcpMetadata) (s : TcpSession) : Bool := s.advertise.wscale && decide (p.tcpWscale ≠ 0)

theorem learnWscale_eq : s.learnWscale p = {s with win := {s.win with
    peerOffers := p.wscaleOffered
    sndWsc := if s.scaled p then p.tcpWscale else 0
    rcvWsc := if s.scaled p then s.win.rcvWsc else 0}} := by
  unfold learnWscale scaled
  dsimp only
  by_cases negotiated : s.advertise.wscale = true ∧ p.tcpWscale ≠ 0
  · rw [if_pos negotiated]
    simp [negotiated.1,negotiated.2]
  · have off : (s.advertise.wscale && decide (p.tcpWscale ≠ 0)) = false := by
      simpa using negotiated
    rw [if_neg negotiated,off]
    rfl

def synEnd (p : TcpMetadata) : Seq32 := add32 p.tcpSeq (p.tcpFlagSyn.toNat + p.tcpData.length)

theorem reinitWindow_eq : s.reinitWindow e p = {s with
    win := {s.win with
      sndMss := s.handshakeMss e p
      sndWnd := p.tcpWin
      maxWindow := p.tcpWin
      peerOffers := p.wscaleOffered
      sndWsc := if s.scaled p then p.tcpWscale else 0
      rcvWsc := if s.scaled p then s.win.rcvWsc else 0}
    plpmtudAdapter := s.plpmtudAdapter.limitMax (p.tcpMss + s.ipTcpOverhead)
    advertise := {s.advertise with sendSack := s.advertise.sack && p.tcpSackperm}
    ts := {s.ts with sendTs := s.advertise.ts && p.tcpTsval.isSome}
    cc := {s.cc with
      cwnd := (s.handshakeMss e p).1
      ssthresh := ssthreshInf
      sndEwn := min (s.handshakeMss e p).1 p.tcpWin
      recoveryPoint := 0
      recoverFs := 0
      prrDelivered := 0
      prrOut := 0}} := by
  unfold reinitWindow
  dsimp only
  rw [learnWscale_eq]
  rfl

theorem enqueueIfAny_eq (data : List UInt8) : (if data.isEmpty then s else s.enqueueRxBuffer data) = {s with
    rxBuffer := s.rxBuffer ++ if s.shut.rd then [] else data
    eventRxBuffer := s.eventRxBuffer || (!s.shut.rd && !data.isEmpty)
    delivered := s.delivered ++ if s.shut.rd then [] else data} := by
  cases data with
  | nil => simp
  | cons octet rest =>
    unfold enqueueRxBuffer
    cases s.shut.rd with
    | true => simp
    | false => simp

theorem reopen_eq (quiet : s.state = .timeWait ∨ s.state = .listen) : s.changeState e .synRcvd none =
    {s with state := .synRcvd,log := s.log ++ [.moved s.state .synRcvd none]} := by
  unfold changeState leaveEstablished leaveSynRcvd wakeReader settleTimers
  rcases quiet with state | state <;> simp [state]

theorem reused_eq (waiting : s.state = .timeWait) (passes : (s.checkPawsAndUpdateTsRecent e p).1 = true)
    (syn : p.tcpFlagSyn = true) : (s.reused e p).timeless = {s with
      state := .synRcvd
      rxBuffer := if s.shut.rd then [] else p.tcpData
      tx := {s.tx with seqMod := e.newIss,buffer := []}
      rcvSeq := {ini := p.tcpSeq,nxt := synEnd p,una := synEnd p}
      sndSeq := ({} : SendSeqState).resetTo e.newIss
      win := {s.win with
        sndMss := s.handshakeMss e p
        sndWnd := p.tcpWin
        maxWindow := p.tcpWin
        peerOffers := p.wscaleOffered
        sndWsc := if s.scaled p then p.tcpWscale else 0
        rcvWsc := if s.scaled p then s.win.rcvWsc else 0}
      plpmtudAdapter := s.plpmtudAdapter.limitMax (p.tcpMss + s.ipTcpOverhead)
      advertise := {s.advertise with sendSack := s.advertise.sack && p.tcpSackperm}
      ts := {sendTs := s.advertise.ts && p.tcpTsval.isSome,tsRecent := s.tsRecentAfter p,tsRecentUpdatedAtMs := 0}
      sackScoreboard := []
      cc := {s.cc with
        cwnd := (s.handshakeMss e p).1
        ssthresh := ssthreshInf
        sndEwn := min (s.handshakeMss e p).1 p.tcpWin
        recoveryPoint := 0
        recoverFs := 0
        prrDelivered := 0
        prrOut := 0}
      pendingDsack := none
      dsackReceived := 0
      rtoState := RtoState.initialState
      rtt := {}
      retransmitCount := 0
      peerContacted := true
      eventRxBuffer := s.eventRxBuffer || (!s.shut.rd && !p.tcpData.isEmpty)
      oooPacketQueue := []
      timers := {}
      log := []
      written := []
      delivered := []} := by
  obtain ⟨ms,same⟩ := paws_passed passes syn
  unfold reused
  rw [same]
  generalize shape : ({s with ts := {s.ts with tsRecent := s.tsRecentAfter p,tsRecentUpdatedAtMs := ms}} : TcpSession) = t
  have placed : t.reinitForRfc6191Reuse e p = {(t.reinitSendSide e).reinitWindow e p with
      rcvSeq := {ini := p.tcpSeq,nxt := synEnd p,una := synEnd p}
      peerContacted := true
      rtoState := RtoState.initialState
      retransmitCount := 0
      rtt := {}
      sackScoreboard := []
      pendingDsack := none
      dsackReceived := 0
      oooPacketQueue := []
      rxBuffer := if ((t.reinitSendSide e).reinitWindow e p).shut.rd then [] else p.tcpData
      eventRxBuffer := ((t.reinitSendSide e).reinitWindow e p).eventRxBuffer ||
        (!((t.reinitSendSide e).reinitWindow e p).shut.rd && !p.tcpData.isEmpty)
      delivered := ((t.reinitSendSide e).reinitWindow e p).delivered ++
        if ((t.reinitSendSide e).reinitWindow e p).shut.rd then [] else p.tcpData} := by
    unfold reinitForRfc6191Reuse reinitReceiveSide
    dsimp only
    rw [enqueueIfAny_eq]
    rfl
  rw [placed,reinitWindow_eq,reopen_eq]
  · rw [← shape]
    rfl
  · rw [← shape]
    exact .inl waiting

def freshEcn (a : AdvertiseState) (p : TcpMetadata) : ClassicEcnState :=
  {enabled := a.ecn && (!p.tcpFlagNs && p.tcpFlagCwr && p.tcpFlagEce)}

def freshAccecn (a : AdvertiseState) (p : TcpMetadata) : AccEcnState :=
  let asked := a.accecn && (p.tcpFlagNs || p.tcpFlagCwr || p.tcpFlagEce) && !(!p.tcpFlagNs && p.tcpFlagCwr && p.tcpFlagEce)
  {enabled := asked,synackCodepoint := if asked then p.ipEcn else 0}

def freshFastopen (e : Env) (p : TcpMetadata) : FastOpenState :=
  {cookieToEmit := if listenTfoEnabled e && p.tcpFastopenCookie.isSome then some e.generatedCookie else none
   pendingCounted := tfoCookieValid e p}

theorem listenEcn_eq (classic : s.ecn = {}) (accurate : s.accecn = {}) : s.listenEcn p =
    {s with ecn := freshEcn s.advertise p,accecn := freshAccecn s.advertise p} := by
  have whole : s = {s with ecn := {},accecn := {}} := by rw [← classic,← accurate]
  conv_lhs => rw [whole]
  unfold listenEcn freshEcn freshAccecn
  dsimp only
  cases s.advertise.ecn <;> cases s.advertise.accecn <;> cases p.tcpFlagNs <;> cases p.tcpFlagCwr <;>
    cases p.tcpFlagEce <;> rfl

theorem listenFastopen_eq (early : s.fastopen = {}) : s.listenFastopen e p =
    {s with fastopen := freshFastopen e p} := by
  unfold listenFastopen freshFastopen
  rw [early]
  rfl

theorem learnTs_eq (early : s.ts = {}) : ∃ ms, s.learnTs e p = {s with ts := {
    sendTs := s.advertise.ts && p.tcpTsval.isSome
    tsRecent := if s.advertise.ts then p.tcpTsval.getD 0 else 0
    tsRecentUpdatedAtMs := ms}} := by
  have whole : s = {s with ts := {}} := by rw [← early]
  unfold learnTs
  cases p.tcpTsval with
  | none =>
    refine ⟨0,?_⟩
    conv_lhs => rw [whole]
    cases s.advertise.ts <;> rfl
  | some tsval =>
    cases s.advertise.ts with
    | true => exact ⟨e.nowMs,rfl⟩
    | false =>
      refine ⟨0,?_⟩
      conv_lhs => rw [whole]
      rfl

structure Unacquainted (s : TcpSession) : Prop where
  listening : s.state = .listen
  ts : s.ts = {}
  ecn : s.ecn = {}
  accecn : s.accecn = {}
  fastopen : s.fastopen = {}

theorem learnMss_eq : s.learnMss e p = {s with
    win := {s.win with sndMss := s.handshakeMss e p}
    plpmtudAdapter := s.plpmtudAdapter.limitMax (p.tcpMss + s.ipTcpOverhead)} := rfl

theorem acceptSyn_eq (fresh : s.Unacquainted) : ∃ ms, s.acceptSyn e p = {s with
    state := .synRcvd
    rxBuffer := s.rxBuffer ++ if s.shut.rd then [] else acceptedSynData e p
    rcvSeq := {s.rcvSeq with
      ini := p.tcpSeq
      nxt := add32 p.tcpSeq (p.tcpFlagSyn.toNat + (acceptedSynData e p).length)}
    win := {s.win with
      sndMss := s.handshakeMss e p
      sndWnd := p.tcpWin
      peerOffers := p.wscaleOffered
      sndWsc := if s.scaled p then p.tcpWscale else 0
      rcvWsc := if s.scaled p then s.win.rcvWsc else 0}
    plpmtudAdapter := s.plpmtudAdapter.limitMax (p.tcpMss + s.ipTcpOverhead)
    advertise := {s.advertise with sendSack := s.advertise.sack && p.tcpSackperm}
    ts := {
      sendTs := s.advertise.ts && p.tcpTsval.isSome
      tsRecent := if s.advertise.ts then p.tcpTsval.getD 0 else 0
      tsRecentUpdatedAtMs := ms}
    cc := {s.cc with
      cwnd := (s.handshakeMss e p).1
      sndEwn := min (s.handshakeMss e p).1 p.tcpWin
      ccMode := e.listenCcMode}
    fastopen := freshFastopen e p
    ecn := freshEcn s.advertise p
    accecn := freshAccecn s.advertise p
    peerContacted := true
    tcpNodelay := e.listenNodelay
    eventRxBuffer := s.eventRxBuffer || (!s.shut.rd && !(acceptedSynData e p).isEmpty)
    log := s.log ++ [.moved s.state .synRcvd none]
    delivered := s.delivered ++ if s.shut.rd then [] else acceptedSynData e p} := by
  obtain ⟨listening,unstamped,classic,accurate,unasked⟩ := fresh
  unfold acceptSyn
  dsimp only
  rw [learnMss_eq,learnWscale_eq]
  generalize learnt : learnSack p _ = u
  have early : u.ts = {} := by rw [← learnt]; exact unstamped
  obtain ⟨ms,stamped⟩ := learnTs_eq (e := e) (p := p) early
  refine ⟨ms,?_⟩
  rw [stamped]
  generalize dated : ({u with ts := {
    sendTs := u.advertise.ts && p.tcpTsval.isSome
    tsRecent := if u.advertise.ts then p.tcpTsval.getD 0 else 0
    tsRecentUpdatedAtMs := ms}} : TcpSession) = v
  have plain : v.ecn = {} ∧ v.accecn = {} ∧ v.fastopen = {} := by
    rw [← dated,← learnt]
    exact ⟨classic,accurate,unasked⟩
  rw [listenEcn_eq plain.1 plain.2.1]
  generalize marked : ({v with ecn := freshEcn v.advertise p,accecn := freshAccecn v.advertise p} : TcpSession) = w
  have unopened : w.fastopen = {} := by rw [← marked]; exact plain.2.2
  rw [listenFastopen_eq unopened,enqueueIfAny_eq,reopen_eq]
  · rw [← marked,← dated,← learnt]
    rfl
  · rw [← marked,← dated,← learnt]
    exact .inr listening

theorem listen_eq (e₀ : Env) (o : Opening) : ∃ l t, o.session.tcpFsmSyscall e₀ .listen =
    {o.session with state := .listen,log := l,timers := t} ∧ ∀ name, name ≠ .txPump → t.deadline name = none := by
  unfold tcpFsmSyscall
  have pump := fun name other => pumpTail_deadline (e := e₀) (s := o.session.dispatchSyscall e₀ .listen)
    o.session.state true name other
  obtain ⟨t,shape⟩ := pumpTail_shape (e := e₀) (s := o.session.dispatchSyscall e₀ .listen) o.session.state true
  rw [shape] at pump
  exact ⟨_,t,shape,pump⟩

theorem spawned_eq : (o.spawned e₀ e p).timeless = {o.session with
    state := .synRcvd
    rxBuffer := acceptedSynData e p
    rcvSeq := {ini := p.tcpSeq,nxt := add32 p.tcpSeq (p.tcpFlagSyn.toNat + (acceptedSynData e p).length)}
    win := {o.session.win with
      sndMss := o.session.handshakeMss e p
      sndWnd := p.tcpWin
      peerOffers := p.wscaleOffered
      sndWsc := if o.session.scaled p then p.tcpWscale else 0
      rcvWsc := if o.session.scaled p then o.session.win.rcvWsc else 0}
    plpmtudAdapter := o.session.plpmtudAdapter.limitMax (p.tcpMss + o.session.ipTcpOverhead)
    advertise := {o.advertise with sendSack := o.advertise.sack && p.tcpSackperm}
    ts := {sendTs := o.advertise.ts && p.tcpTsval.isSome,tsRecent := if o.advertise.ts then p.tcpTsval.getD 0 else 0}
    cc := {cwnd := (o.session.handshakeMss e p).1,sndEwn := min (o.session.handshakeMss e p).1 p.tcpWin
           ccMode := e.listenCcMode}
    fastopen := freshFastopen e p
    ecn := freshEcn o.advertise p
    accecn := freshAccecn o.advertise p
    peerContacted := true
    tcpNodelay := e.listenNodelay
    eventRxBuffer := !(acceptedSynData e p).isEmpty} := by
  obtain ⟨l,t,shape,_⟩ := listen_eq e₀ o
  have unacquainted : (o.session.tcpFsmSyscall e₀ .listen).Unacquainted := by
    rw [shape]
    exact ⟨rfl,rfl,rfl,rfl,rfl⟩
  obtain ⟨ms,accepted⟩ := acceptSyn_eq (e := e) (p := p) unacquainted
  unfold Opening.spawned
  rw [accepted,shape]
  rfl

-- Equal but for clock readings; the fresh session's pump wakes it for the SYN+ACK
-- that the re-initialised one sends at once.
structure Alike (a b : TcpSession) : Prop where
  session : a.timeless = b.timeless
  timers : ∀ name, name ≠ .txPump → a.timers.deadline name = b.timers.deadline name

-- The listener is set up as the old session was, and its session got the sequence
-- number the old one draws now.
structure SameSettings (o : Opening) (e : Env) (s : TcpSession) : Prop where
  iss : o.iss = e.newIss
  version : s.plpmtudAdapter.engine.version = o.version
  probing : s.plpmtudProbingEnabled = o.probing
  rcvMss : s.win.rcvMss = o.egressInterfaceMtu - o.overhead
  rcvWndMax : s.win.rcvWndMax = o.rcvWndMax
  advertise : {s.advertise with sendSack := false} = o.advertise
  keepalive : {s.keepalive with probesUnacked := 0,active := false} = {o.keepalive with probesUnacked := 0,active := false}
  ccMode : s.cc.ccMode = e.listenCcMode
  nodelay : s.tcpNodelay = e.listenNodelay
  userTimeout : s.userTimeoutMs = o.userTimeoutMs
  maxseg : s.maxsegOverride = o.maxsegOverride

-- What the old session left where the reset does not reach is what a fresh one has there.
structure Pristine (o : Opening) (e : Env) (p : TcpMetadata) (s : TcpSession) : Prop where
  requests : s.tx.retransmitRequestCounter = []
  unread : synEnd p = 0
  maxWindow : p.tcpWin = o.sndMss.1.toNat
  rcvWsc : s.scaled p = true → s.win.rcvWsc = 7
  probes : s.plpmtudAdapter.limitMax (p.tcpMss + s.ipTcpOverhead) =
    ({engine := o.engine} : TcpPlpmtudAdapter).limitMax (p.tcpMss + s.ipTcpOverhead)
  tsRecent : s.tsRecentAfter p = if s.advertise.ts then p.tcpTsval.getD 0 else 0
  keepalive : s.keepalive.probesUnacked = o.keepalive.probesUnacked ∧ s.keepalive.active = o.keepalive.active
  cc : {s.cc with cwnd := 0,ssthresh := ssthreshInf,sndEwn := 0,recoveryPoint := 0,recoverFs := 0,prrDelivered := 0
                  prrOut := 0} = {ccMode := s.cc.ccMode}
  fastopen : s.fastopen = freshFastopen e p
  ecn : s.ecn = freshEcn s.advertise p
  accecn : s.accecn = freshAccecn s.advertise p
  rackTlp : s.rackTlp = {}
  synRetransmitCount : s.synRetransmitCount = 0
  persist : s.persist = {timeout := o.rtoInitialMs}
  delayedAck : s.delayedAckSegmentsPending = 0
  shut : s.shut = {}
  eventConnect : s.eventConnect = 0
  eventRxBuffer : s.eventRxBuffer = true → p.tcpData ≠ []
  eventClosed : s.eventClosed = false
  closing : s.closing = false
  connectionError : s.connectionError = .none
  synData : acceptedSynData e p = p.tcpData

namespace SameSettings

variable (same : SameSettings o e s)
include same

theorem overhead_eq : s.ipTcpOverhead = o.session.ipTcpOverhead := by
  unfold ipTcpOverhead
  rw [same.version]
  rfl

theorem handshakeMss_eq : s.handshakeMss e p = o.session.handshakeMss e p := by
  have ceiling : s.mssCeiling e = o.session.mssCeiling e := by
    unfold mssCeiling
    rw [same.overhead_eq,same.probing]
    rfl
  apply Subtype.ext
  unfold handshakeMss
  dsimp only
  rw [ceiling]

theorem asks_eq (ask : AdvertiseState → Bool) (unset : ∀ a : AdvertiseState, ask {a with sendSack := false} = ask a) :
    ask s.advertise = ask o.advertise := by
  rw [← same.advertise,unset]

theorem scaled_eq : s.scaled p = o.session.scaled p := by
  unfold scaled
  rw [same.asks_eq (·.wscale) fun _ => rfl]
  rfl

theorem settled_eq (on : Bool) : ({s.advertise with sendSack := on} : AdvertiseState) = {o.advertise with sendSack := on} := by
  rw [← same.advertise]

end SameSettings

theorem timeless_alike_iff (same : SameSettings o e s) (reuse : s.ReuseSyn e p) (admits : Admits e p) :
    (s.reused e p).timeless = (o.spawned e₀ e p).timeless ↔ s.Pristine o e p := by
  rw [reused_eq reuse.waiting reuse.passes admits.syn.1.1,spawned_eq,TcpSession.mk.injEq]
  constructor
  · rintro ⟨-,rx,tx,rcv,-,win,-,probes,-,ts,keepalive,-,cc,fastopen,ecn,accecn,-,-,rackTlp,-,-,-,synRetransmits,-,-,-,-,
      persist,delayed,shut,connect,event,closed,closing,-,error,-⟩
    have data : acceptedSynData e p = p.tcpData := by
      rw [shut] at rx
      exact rx.symm
    refine ⟨congrArg TxBufferState.retransmitRequestCounter tx,congrArg RecvSeqState.una rcv,
      congrArg WindowState.maxWindow win,?_,?_,?_,⟨congrArg KeepaliveState.probesUnacked keepalive,
      congrArg KeepaliveState.active keepalive⟩,?_,fastopen,?_,?_,rackTlp,synRetransmits,persist,delayed,shut,connect,?_,
      closed,closing,error,data⟩
    · intro scales
      have wsc := congrArg WindowState.rcvWsc win
      dsimp only at wsc
      rw [← same.scaled_eq,scales] at wsc
      exact wsc
    · rw [probes,same.overhead_eq]
      rfl
    · rw [same.asks_eq (·.ts) fun _ => rfl]
      exact congrArg TimestampsState.tsRecent ts
    · rw [same.ccMode]
      exact congrArg (fun c : CcState => {c with
        cwnd := 0,ssthresh := ssthreshInf,sndEwn := 0,recoveryPoint := 0,recoverFs := 0,prrDelivered := 0,prrOut := 0}) cc
    · rw [ecn,← same.advertise]
      rfl
    · rw [accecn,← same.advertise]
      rfl
    · intro woken empty
      rw [woken,data,empty] at event
      cases event
  · intro pristine
    have mss := same.handshakeMss_eq (p := p)
    have alive : s.keepalive = o.keepalive := by
      have kept := congrArg (fun k : KeepaliveState => {k with
        probesUnacked := s.keepalive.probesUnacked,active := s.keepalive.active}) same.keepalive
      dsimp only at kept
      rw [pristine.keepalive.1,pristine.keepalive.2] at kept
      rw [← show ({s.keepalive with
        probesUnacked := o.keepalive.probesUnacked,active := o.keepalive.active} : KeepaliveState) = s.keepalive by
          rw [← pristine.keepalive.1,← pristine.keepalive.2]]
      exact kept
    refine ⟨rfl,?_,?_,?_,?_,?_,same.probing,?_,?_,?_,alive,rfl,?_,pristine.fastopen,?_,?_,rfl,rfl,pristine.rackTlp,rfl,rfl,
      rfl,pristine.synRetransmitCount,rfl,same.nodelay,same.userTimeout,same.maxseg,pristine.persist,pristine.delayedAck,
      pristine.shut,pristine.eventConnect,?_,pristine.eventClosed,pristine.closing,rfl,pristine.connectionError,rfl,rfl,
      rfl,rfl⟩
    · rw [pristine.shut,pristine.synData]
      rfl
    · dsimp only
      rw [pristine.requests,← same.iss]
      rfl
    · rw [pristine.synData,pristine.unread,show add32 p.tcpSeq (p.tcpFlagSyn.toNat + p.tcpData.length) = 0 from pristine.unread]
    · rw [← same.iss]
      rfl
    · have scale : (if s.scaled p then s.win.rcvWsc else 0) = if s.scaled p then 7 else 0 := by
        split
        · next scales => exact pristine.rcvWsc scales
        · rfl
      dsimp only
      rw [scale,same.rcvMss,same.rcvWndMax,pristine.maxWindow,mss,same.scaled_eq]
      rfl
    · rw [pristine.probes,same.overhead_eq]
      rfl
    · rw [same.asks_eq (·.sack) fun _ => rfl]
      exact same.settled_eq _
    · rw [pristine.tsRecent,same.asks_eq (·.ts) fun _ => rfl]
    · rw [← mss,← same.ccMode]
      exact congrArg (fun c : CcState => {c with
        cwnd := (s.handshakeMss e p).1,sndEwn := min (s.handshakeMss e p).1 p.tcpWin}) pristine.cc
    · rw [pristine.ecn,← same.advertise]
      rfl
    · rw [pristine.accecn,← same.advertise]
      rfl
    · rw [pristine.shut,pristine.synData]
      cases woken : s.eventRxBuffer with
      | false => rfl
      | true => cases data : p.tcpData with
        | nil => exact absurd data (pristine.eventRxBuffer woken)
        | cons octet rest => rfl

theorem reused_timers (waiting : s.state = .timeWait) (passes : (s.checkPawsAndUpdateTsRecent e p).1 = true)
    (syn : p.tcpFlagSyn = true) : (s.reused e p).timers = {} := by
  obtain ⟨ms,same⟩ := paws_passed passes syn
  unfold reused
  rw [same]
  generalize shape : ({s with ts := {s.ts with tsRecent := s.tsRecentAfter p,tsRecentUpdatedAtMs := ms}} : TcpSession) = t
  have placed : (t.reinitForRfc6191Reuse e p).timers = {} ∧ (t.reinitForRfc6191Reuse e p).state = t.state := by
    unfold reinitForRfc6191Reuse reinitReceiveSide
    dsimp only
    rw [enqueueIfAny_eq,reinitWindow_eq]
    exact ⟨rfl,rfl⟩
  rw [reopen_eq]
  · exact placed.1
  · rw [placed.2,← shape]
    exact .inl waiting

theorem spawned_timers (name : TimerName) (other : name ≠ .txPump) : (o.spawned e₀ e p).timers.deadline name = none := by
  obtain ⟨l,t,shape,unarmed⟩ := listen_eq e₀ o
  have unacquainted : (o.session.tcpFsmSyscall e₀ .listen).Unacquainted := by
    rw [shape]
    exact ⟨rfl,rfl,rfl,rfl,rfl⟩
  obtain ⟨ms,accepted⟩ := acceptSyn_eq (e := e) (p := p) unacquainted
  unfold Opening.spawned
  rw [accepted,shape]
  exact unarmed name other

theorem reuse_alike_iff (same : SameSettings o e s) (reuse : s.ReuseSyn e p) (admits : Admits e p) (e₀ : Env) :
    Alike (s.reused e p) (o.spawned e₀ e p) ↔ s.Pristine o e p := by
  constructor
  · intro alike
    exact (timeless_alike_iff same reuse admits).mp alike.session
  · intro pristine
    refine ⟨(timeless_alike_iff same reuse admits).mpr pristine,fun name other => ?_⟩
    rw [reused_timers reuse.waiting reuse.passes admits.syn.1.1,spawned_timers name other]
    rfl

end TcpSession

-- A session at the end of a lossy transfer: everything the reset reaches is
-- dirty, and what it does not reach is as the constructor left it.
def spentWaiting : TcpSession :=
  {({iss := 1000} : Opening).session with
    state := .timeWait
    rxBuffer := [7,8]
    tx := {buffer := [1,2,3],seqMod := 2461}
    rcvSeq := {ini := 500,nxt := 0xFFFF_0000,una := 0xFFFE_FFFE}
    sndSeq := {ini := 1000,una := 2461,nxt := 2465,max := 2465,sml := 2464,fin := 2465,finSent := true}
    sackScoreboard := [(2462,2464)]
    cc := {cwnd := 5840,ssthresh := 2920,sndEwn := 4096,recoveryPoint := 2465,recoverFs := 1460,prrDelivered := 536
           prrOut := 1072}
    pendingDsack := some (400,450)
    dsackReceived := 2
    rtoState := {estimate := some {srttMs := 200,rttvarMs := 100},rtoMs := 4000}
    rtt := {sample := some (2461,90),retransmitted := true,lastSendTimeMs := some 95}
    retransmitCount := 3
    timers := ({} : TcpTimerService).arm .timeWait 90 .timeWait 30_000
    log := [.moved .finWait2 .timeWait (some 2465)]
    written := [1,2,3]
    delivered := [7,8]}

def lastSyn : TcpMetadata := {tcpFlagSyn := true,tcpSeq := 0xFFFF_FFFF,tcpAck := 0,tcpWin := 536}

theorem reuse_alike_spent : spentWaiting.ReuseSyn {nowMs := 100,newIss := 7000} lastSyn ∧
    TcpSession.Alike (spentWaiting.reused {nowMs := 100,newIss := 7000} lastSyn)
      (({iss := 7000} : Opening).spawned {nowMs := 10} {nowMs := 100,newIss := 7000} lastSyn) := by
  have same : TcpSession.SameSettings {iss := 7000} {nowMs := 100,newIss := 7000} spentWaiting :=
    ⟨rfl,rfl,rfl,rfl,rfl,rfl,rfl,rfl,rfl,rfl,rfl⟩
  have reuse : spentWaiting.ReuseSyn {nowMs := 100,newIss := 7000} lastSyn := ⟨rfl,by decide +kernel,by decide +kernel⟩
  have admits : Admits {nowMs := 100,newIss := 7000} lastSyn := ⟨by decide,by decide,by decide⟩
  refine ⟨reuse,(TcpSession.reuse_alike_iff same reuse admits {nowMs := 10}).mpr ?_⟩
  exact ⟨rfl,by decide,rfl,fun _ => rfl,rfl,rfl,⟨rfl,rfl⟩,rfl,rfl,rfl,rfl,rfl,rfl,rfl,rfl,rfl,rfl,nofun,rfl,rfl,rfl,rfl⟩

-- The application closed the old connection, and the new one starts out closing.
def timeWaiting : TcpSession := finished.next ({nowMs := 60},.packet peerFin)

def reopeningSyn : TcpMetadata := {tcpFlagSyn := true,tcpSeq := 5000,tcpAck := 0,tcpWin := 65535}

theorem reuse_keeps_closing : Reached (fun _ _ => True) timeWaiting ∧
    TcpSession.SameSettings {iss := 7000} {nowMs := 70,newIss := 7000} timeWaiting ∧
    timeWaiting.ReuseSyn {nowMs := 70,newIss := 7000} reopeningSyn ∧ Admits {nowMs := 70,newIss := 7000} reopeningSyn ∧
    (timeWaiting.reused {nowMs := 70,newIss := 7000} reopeningSyn).closing = true ∧
    ¬TcpSession.Alike (timeWaiting.reused {nowMs := 70,newIss := 7000} reopeningSyn)
      (({iss := 7000} : Opening).spawned {nowMs := 10} {nowMs := 70,newIss := 7000} reopeningSyn) := by
  have survives : (timeWaiting.reused {nowMs := 70,newIss := 7000} reopeningSyn).closing = true := by decide +kernel
  refine ⟨?_,?_,⟨by decide +kernel,by decide +kernel,by decide +kernel⟩,⟨by decide,by decide,by decide⟩,survives,?_⟩
  · exact .step _ _ (Runs.Reached.run (.start listening listening_opened) finishedRun (by decide +kernel)) trivial
  · refine ⟨rfl,?_,?_,?_,?_,?_,?_,?_,?_,?_,?_⟩
    · decide +kernel
    · decide +kernel
    · decide +kernel
    · decide +kernel
    · dsimp only
      rw [AdvertiseState.mk.injEq]
      decide +kernel
    · dsimp only
      rw [KeepaliveState.mk.injEq]
      decide +kernel
    · decide +kernel
    · decide +kernel
    · decide +kernel
    · decide +kernel
  · intro alike
    have closing := congrArg TcpSession.closing alike.session
    exact absurd (survives.symm.trans closing) (by decide +kernel)

end PmdPytcp.Tcp
