import PmdPytcp.Tcp.Tx

namespace PmdPytcp.Tcp
open Arc

-- The window test of one segment, by its place and its length.
def acceptable (seq : Seq32) (segLen : Nat) (nxt : Seq32) (wnd : Nat) : Bool :=
  if segLen = 0 then
    if 0 < wnd then inRange32 seq nxt (add32 nxt wnd) else seq == nxt
  else
    decide (0 < wnd) && lt32 seq (add32 nxt wnd) && gt32 (add32 seq segLen) nxt

namespace TcpSession

def segmentAcceptable (p : TcpMetadata) (s : TcpSession) : Bool :=
  acceptable p.tcpSeq p.segLen s.rcvSeq.nxt s.rcvWnd

def noteFullDuplicate (p : TcpMetadata) (s : TcpSession) : TcpSession :=
  if s.advertise.sendSack && !p.tcpData.isEmpty && lt32 p.tcpSeq s.rcvSeq.nxt && le32 p.segEnd s.rcvSeq.nxt then
    {s with pendingDsack := some (p.tcpSeq,p.segEnd)}
  else s

def checkSegmentAcceptability (e : Env) (p : TcpMetadata) (s : TcpSession) : Bool × TcpSession :=
  if s.segmentAcceptable p then (true,s)
  else if p.tcpFlagRst then (false,s)
  else (false,(s.noteFullDuplicate p).emitChallengeAck e)

-- How PAWS sees a segment: `accept`, with or without refreshing TS.Recent, or
-- `drop`, silent (no timestamp) or answered.
inductive PawsVerdict where
  | accept | refresh | dropSilent | dropAnswered
  deriving DecidableEq

def pawsVerdict (e : Env) (p : TcpMetadata) (s : TcpSession) : PawsVerdict :=
  if !s.ts.sendTs then .accept
  else match p.tcpTsval with
  | none => if p.tcpFlagSyn then .accept else .dropSilent
  | some tsval =>
    if lt32 tsval s.ts.tsRecent then
      if s.ts.tsRecentUpdatedAtMs ≠ 0 ∧ e.tsRecentOutdatedThresholdMs < e.nowMs - s.ts.tsRecentUpdatedAtMs then
        .refresh
      else .dropAnswered
    else if p.tcpFlagSyn || le32 p.tcpSeq s.rcvSeq.nxt then .refresh
    else .accept

def refreshTsRecent (e : Env) (p : TcpMetadata) (s : TcpSession) : TcpSession :=
  match p.tcpTsval with
  | none => s
  | some tsval => {s with ts := s.ts.update tsval e.nowMs}

def checkPawsAndUpdateTsRecent (e : Env) (p : TcpMetadata) (s : TcpSession) : Bool × TcpSession :=
  match s.pawsVerdict e p with
  | .accept => (true,s)
  | .refresh => (true,s.refreshTsRecent e p)
  | .dropSilent => (false,s)
  | .dropAnswered => (false,s.emitChallengeAck e)

def rstAcceptable (p : TcpMetadata) (s : TcpSession) : Bool :=
  p.tcpSeq == s.rcvSeq.nxt && (!p.tcpFlagAck || inRange32 p.tcpAck s.sndSeq.una s.sndSeq.max)

def checkRstAcceptability (e : Env) (p : TcpMetadata) (s : TcpSession) : Bool × TcpSession :=
  if s.rstAcceptable p then (true,s)
  else if lt32 s.rcvSeq.nxt p.tcpSeq && lt32 p.tcpSeq (add32 s.rcvSeq.nxt s.rcvWnd) then (false,s.emitChallengeAck e)
  else (false,s)

-- `max(TCP__MIN_MSS, min(peer MSS, ceiling))`.
def handshakeMss (e : Env) (p : TcpMetadata) (s : TcpSession) : Pos :=
  ⟨max tcpMinMss (min (p.tcpMss : Int) (s.mssCeiling e)),by
    have floor := le_max_left tcpMinMss (min (p.tcpMss : Int) (s.mssCeiling e))
    have positive : 0 < tcpMinMss := by decide
    omega⟩

def learnMss (e : Env) (p : TcpMetadata) (s : TcpSession) : TcpSession :=
  {s with
    win := {s.win with sndMss := s.handshakeMss e p}
    plpmtudAdapter := s.plpmtudAdapter.limitMax (p.tcpMss + s.ipTcpOverhead)}

def learnWscale (p : TcpMetadata) (s : TcpSession) : TcpSession :=
  let s := {s with win := {s.win with peerOffers := p.wscaleOffered}}
  if s.advertise.wscale = true ∧ p.tcpWscale ≠ 0 then {s with win := {s.win with sndWsc := p.tcpWscale}}
  else {s with win := {s.win with rcvWsc := 0,sndWsc := 0}}

def learnSack (p : TcpMetadata) (s : TcpSession) : TcpSession :=
  {s with advertise := {s.advertise with sendSack := s.advertise.sack && p.tcpSackperm}}

def learnTs (e : Env) (p : TcpMetadata) (s : TcpSession) : TcpSession :=
  match p.tcpTsval with
  | none => s
  | some tsval =>
    if s.advertise.ts then {s with ts := {sendTs := true,tsRecent := tsval,tsRecentUpdatedAtMs := e.nowMs}}
    else s

-- RFC 6191 reuse of a TIME_WAIT session by a new SYN.
def reinitSendSide (e : Env) (s : TcpSession) : TcpSession :=
  {s with
    timers := {}
    sndSeq := {ini := e.newIss,una := e.newIss,nxt := e.newIss,max := e.newIss,sml := e.newIss
               fin := 0,finSent := false}
    tx := {s.tx with seqMod := e.newIss,buffer := []}
    log := []
    written := []
    delivered := []}

def reinitWindow (e : Env) (p : TcpMetadata) (s : TcpSession) : TcpSession :=
  let s := s.learnMss e p
  let s := {s with win := {s.win with sndWnd := p.tcpWin,maxWindow := p.tcpWin}}
  let s := s.learnWscale p
  let s := s.learnSack p
  {s with
    ts := {s.ts with sendTs := s.advertise.ts && p.tcpTsval.isSome}
    cc := {s.cc with
      cwnd := s.win.sndMss
      ssthresh := ssthreshInf
      sndEwn := min s.win.sndMss.1 s.win.sndWnd
      recoveryPoint := 0
      recoverFs := 0
      prrDelivered := 0
      prrOut := 0}}

def reinitReceiveSide (p : TcpMetadata) (s : TcpSession) : TcpSession :=
  let nxt := add32 p.tcpSeq (p.tcpFlagSyn.toNat + p.tcpData.length)
  let s := {s with
    rcvSeq := {ini := p.tcpSeq,nxt := nxt,una := nxt}
    peerContacted := true
    rtoState := RtoState.initialState
    retransmitCount := 0
    rtt := {s.rtt.clear with lastSendTimeMs := none}
    sackScoreboard := []
    pendingDsack := none
    dsackReceived := 0
    oooPacketQueue := []
    rxBuffer := []}
  if p.tcpData.isEmpty then s else s.enqueueRxBuffer p.tcpData

def reinitForRfc6191Reuse (e : Env) (p : TcpMetadata) (s : TcpSession) : TcpSession :=
  ((s.reinitSendSide e).reinitWindow e p).reinitReceiveSide p

def isSeqInWindow (seq : Seq32) (s : TcpSession) : Bool :=
  if s.sndSeq.nxt = 0 ∧ s.sndSeq.una = 0 then true
  else if s.sndSeq.una.toNat ≤ s.sndSeq.nxt.toNat then
    decide (s.sndSeq.una.toNat ≤ seq.toNat) && decide (seq.toNat ≤ s.sndSeq.nxt.toNat)
  else decide (s.sndSeq.una.toNat ≤ seq.toNat) || decide (seq.toNat ≤ s.sndSeq.nxt.toNat)

end TcpSession

end PmdPytcp.Tcp
