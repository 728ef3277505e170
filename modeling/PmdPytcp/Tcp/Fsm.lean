import PmdPytcp.Tcp.Ack

namespace PmdPytcp.Tcp
open Arc

namespace TcpMetadata

def OnlySyn (p : TcpMetadata) : Prop :=
  p.tcpFlagSyn = true ∧ p.tcpFlagAck = false ∧ p.tcpFlagFin = false ∧ p.tcpFlagRst = false

instance (p : TcpMetadata) : Decidable p.OnlySyn := inferInstanceAs (Decidable (_ ∧ _ ∧ _ ∧ _))

def SynAck (p : TcpMetadata) : Prop :=
  p.tcpFlagSyn = true ∧ p.tcpFlagAck = true ∧ p.tcpFlagFin = false ∧ p.tcpFlagRst = false

instance (p : TcpMetadata) : Decidable p.SynAck := inferInstanceAs (Decidable (_ ∧ _ ∧ _ ∧ _))

def FinAck (p : TcpMetadata) : Prop :=
  p.tcpFlagFin = true ∧ p.tcpFlagAck = true ∧ p.tcpFlagSyn = false ∧ p.tcpFlagRst = false

instance (p : TcpMetadata) : Decidable p.FinAck := inferInstanceAs (Decidable (_ ∧ _ ∧ _ ∧ _))

def Reset (p : TcpMetadata) : Prop := p.tcpFlagRst = true ∧ p.tcpFlagFin = false ∧ p.tcpFlagSyn = false

instance (p : TcpMetadata) : Decidable p.Reset := inferInstanceAs (Decidable (_ ∧ _ ∧ _))

def ace (p : TcpMetadata) : Nat := 4 * p.tcpFlagNs.toNat + 2 * p.tcpFlagCwr.toNat + p.tcpFlagEce.toNat

end TcpMetadata

namespace TcpSession

abbrev Replay := TcpMetadata → TcpSession → Outcome

def abort (e : Env) (s : TcpSession) : TcpSession :=
  let s :=
    match s.state with
    | .synRcvd | .established | .finWait1 | .finWait2 | .closeWait =>
      s.transmitPacket e {flagRst := true,flagAck := true,seq := some s.sndSeq.nxt}
    | _ => s
  {s with
    connectionError := .canceled
    eventRxBuffer := true
    eventConnect := s.eventConnect + 1}.changeState e .closed none

-- The RST branch of the synchronized states.
def takeReset (error : Option ConnError) (e : Env) (p : TcpMetadata) (s : TcpSession) : TcpSession :=
  if p.Reset then
    let (acceptable,s) := s.checkRstAcceptability e p
    if acceptable then
      {s with connectionError := error.getD s.connectionError}.changeState e .closed none
    else s
  else s

def listenEcn (p : TcpMetadata) (s : TcpSession) : TcpSession :=
  let isClassicEcnSyn := !p.tcpFlagNs && p.tcpFlagCwr && p.tcpFlagEce
  let anyEcnBit := p.tcpFlagNs || p.tcpFlagCwr || p.tcpFlagEce
  if s.advertise.accecn && anyEcnBit && !isClassicEcnSyn then
    {s with accecn := {s.accecn with enabled := true,synackCodepoint := p.ipEcn}}
  else if s.advertise.ecn && isClassicEcnSyn then {s with ecn := {s.ecn with enabled := true}}
  else s

def listenTfoEnabled (e : Env) : Bool :=
  decide (0 < e.tcpFastopenQlen) && decide (e.fastopenPending < e.tcpFastopenQlen)

def tfoCookieValid (e : Env) (p : TcpMetadata) : Bool :=
  listenTfoEnabled e && (p.tcpFastopenCookie.any fun cookie => !cookie.isEmpty) && e.cookieValid

def acceptedSynData (e : Env) (p : TcpMetadata) : List UInt8 :=
  if (listenTfoEnabled e && p.tcpFastopenCookie.isSome) && !tfoCookieValid e p then [] else p.tcpData

def listenFastopen (e : Env) (p : TcpMetadata) (s : TcpSession) : TcpSession :=
  let cookie :=
    if listenTfoEnabled e && p.tcpFastopenCookie.isSome then some e.generatedCookie else s.fastopen.cookieToEmit
  {s with fastopen := {s.fastopen with
    cookieToEmit := cookie
    pendingCounted := s.fastopen.pendingCounted || tfoCookieValid e p}}

-- The listening session itself becomes the connection; its replacement on the
-- listening socket is a fresh session of its own.
def acceptSyn (e : Env) (p : TcpMetadata) (s : TcpSession) : TcpSession :=
  let s := {s with cc := {s.cc with ccMode := e.listenCcMode},tcpNodelay := e.listenNodelay}
  let s := s.learnMss e p
  let s := {s with win := {s.win with sndWnd := p.tcpWin}}
  let s := ((s.learnWscale p).learnSack p).learnTs e p
  let s := (s.listenEcn p).listenFastopen e p
  let synData := acceptedSynData e p
  let s := {s with
    rcvSeq := {s.rcvSeq with ini := p.tcpSeq,nxt := add32 p.tcpSeq (p.tcpFlagSyn.toNat + synData.length)}
    cc := {s.cc with cwnd := s.win.sndMss,sndEwn := min s.win.sndMss.1 s.win.sndWnd}
    peerContacted := true}
  let s := if synData.isEmpty then s else s.enqueueRxBuffer synData
  s.changeState e .synRcvd none

def fsmListenPacket (e : Env) (p : TcpMetadata) (s : TcpSession) : TcpSession :=
  if p.OnlySyn ∧ p.tcpAck = 0 then
    if e.acceptQCap ≤ e.acceptQLen then s
    else if tcpSynBacklogMaxCount ≤ e.embryonic then s
    else s.acceptSyn e p
  else s

def synSentRst (p : TcpMetadata) (s : TcpSession) : Segment :=
  {flagSyn := false,flagAck := false,flagFin := false,flagRst := true,flagPsh := false
   flagEce := false,flagCwr := false,flagNs := false
   seq := p.tcpAck,ack := 0,win := s.rcvWnd
   ipEcn := 0,mss := none,wscale := none,sackperm := false,sackBlocks := none,tsval := none,tsecr := none
   fastopenCookie := none,accecn0Counters := none,accecn1Counters := none,data := [],moment := s.moment}

def ackInFlight (p : TcpMetadata) (upper : Seq32) (s : TcpSession) : Bool :=
  lt32 s.sndSeq.una p.tcpAck && le32 p.tcpAck upper

def synSentEcn (p : TcpMetadata) (s : TcpSession) : TcpSession :=
  if p.tcpFlagNs && p.tcpFlagCwr && p.tcpFlagEce then s
  else if s.advertise.accecn && (p.tcpFlagNs || p.tcpFlagCwr) then
    let pending := match p.ipEcn with
      | 0 => 0b010
      | 1 => 0b011
      | 2 => 0b100
      | _ => 0b110
    {s with accecn := {s.accecn with
      enabled := true
      handshakeAckPending := some pending
      rCep := if p.ipEcn = 3 then 6 else s.accecn.rCep
      manglingDetected := s.accecn.manglingDetected || p.tcpFlagNs || p.tcpFlagEce}}
  else if s.advertise.ecn && p.tcpFlagEce && !p.tcpFlagCwr then {s with ecn := {s.ecn with enabled := true}}
  else s

-- RFC 6298 section 5.7.
def raiseRtoAfterSyn (s : TcpSession) : TcpSession :=
  if 0 < s.synRetransmitCount ∧ s.rtoState.rtoMs < 3000 then {s with rtoState := {s.rtoState with rtoMs := 3000}}
  else s

def openWindow (s : TcpSession) : TcpSession :=
  let window := initialWindow s.win.sndMss
  {s with cc := {s.cc with cwnd := window,sndEwn := min window s.win.sndWnd}}

def takeSynAck (e : Env) (p : TcpMetadata) (s : TcpSession) : TcpSession :=
  let s := s.learnMss e p
  let s := {s with
    win := {s.win with sndWnd := p.tcpWin}
    rcvSeq := {s.rcvSeq with ini := p.tcpSeq,nxt := add32 p.tcpSeq (p.tcpFlagSyn.toNat + p.tcpData.length)}
    peerContacted := true
    cc := {s.cc with cwnd := s.win.sndMss,sndEwn := min s.win.sndMss.1 p.tcpWin}}
  if p.tcpData.isEmpty then s else s.enqueueRxBuffer p.tcpData

def rewindToUna (s : TcpSession) : TcpSession :=
  if lt32 s.sndSeq.una s.sndSeq.nxt then {s with sndSeq := {s.sndSeq with nxt := s.sndSeq.una}} else s

def completeConnect (e : Env) (p : TcpMetadata) (s : TcpSession) : TcpSession :=
  let s := s.rewindToUna.openWindow.raiseRtoAfterSyn
  let s := (((s.learnWscale p).learnSack p).learnTs e p).synSentEcn p
  let s := (s.transmitPacket e {flagAck := true}).changeState e .established (some p.tcpAck)
  {s with eventConnect := s.eventConnect + 1}

def openSimultaneously (e : Env) (p : TcpMetadata) (s : TcpSession) : TcpSession :=
  let s := s.learnMss e p
  let s := {s with win := {s.win with sndWnd := p.tcpWin}}
  let s := ((s.learnWscale p).learnSack p).learnTs e p
  let s := {s with
    rcvSeq := {s.rcvSeq with ini := p.tcpSeq,nxt := add32 p.tcpSeq p.tcpFlagSyn.toNat}
    peerContacted := true
    cc := {s.cc with cwnd := s.win.sndMss,sndEwn := min s.win.sndMss.1 s.win.sndWnd}}
  (s.transmitPacket e {flagSyn := true,flagAck := true,seq := some s.sndSeq.ini}).changeState e .synRcvd none

def synSentRefused (e : Env) (p : TcpMetadata) (s : TcpSession) : TcpSession :=
  if p.tcpFlagRst = true ∧ p.tcpFlagAck = true ∧ p.tcpFlagFin = false ∧ p.tcpFlagSyn = false ∧
      p.tcpSeq = 0 ∧ p.tcpAck = s.sndSeq.nxt then
    let s := s.changeState e .closed none
    {s with connectionError := .refused,eventConnect := s.eventConnect + 1}
  else s

def fsmSynSentPacket (replay : Replay) (e : Env) (p : TcpMetadata) (s : TcpSession) : Outcome :=
  if p.tcpFlagAck && !s.ackInFlight p s.sndSeq.max then
    .ok (if p.tcpFlagRst then s else s.sendTcpPacket (s.synSentRst p))
  else if p.SynAck ∧ s.ackInFlight p s.sndSeq.nxt = true then do
    let s ← (s.takeSynAck e p).processAckPacket replay e p
    .ok (s.completeConnect e p)
  else if p.OnlySyn ∧ p.tcpAck = 0 ∧ p.tcpData = [] then .ok (s.openSimultaneously e p)
  else .ok (s.synSentRefused e p)

def synRcvdAccecn (p : TcpMetadata) (s : TcpSession) : TcpSession :=
  if s.accecn.enabled && p.tcpSackBlocks.isEmpty then
    let accecn :=
      if p.ace = 0 then {s.accecn with sDisabled := true}
      else if p.ace = 0b110 then {s.accecn with sCep := 6}
      else {s.accecn with sCep := 5}
    let mangled := p.ace = 0b011 ∨ p.ace = 0b100 ∨ p.ace = 0b110
    {s with accecn := {accecn with manglingDetected := accecn.manglingDetected || decide mangled}}
  else s

def completeAccept (e : Env) (p : TcpMetadata) (s : TcpSession) : TcpSession :=
  let s := s.openWindow.raiseRtoAfterSyn
  let s := if p.tcpData.isEmpty then s else s.transmitPacket e {flagAck := true}
  let s := s.changeState e .established (some p.tcpAck)
  {s with eventConnect := s.eventConnect + 1}

def synRcvdReset (e : Env) (p : TcpMetadata) (s : TcpSession) : TcpSession :=
  if p.Reset then
    let (acceptable,s) := s.checkRstAcceptability e p
    if acceptable then
      {s with connectionError := .refused,eventConnect := s.eventConnect + 1}.changeState e .closed none
    else s
  else s

def fsmSynRcvdPacket (replay : Replay) (e : Env) (p : TcpMetadata) (s : TcpSession) : Outcome :=
  if p.tcpFlagSyn && !p.tcpFlagRst then .ok (s.emitChallengeAck e)
  else if p.OnlyAck ∧ p.tcpSeq = s.rcvSeq.nxt ∧ p.tcpAck = s.sndSeq.nxt then do
    let s ← (s.synRcvdAccecn p).processAckPacket replay e p
    .ok (s.completeAccept e p)
  else .ok (s.synRcvdReset e p)

-- The window-update half of the duplicate-acknowledgement branch.
def updateSendWindow (e : Env) (p : TcpMetadata) (s : TcpSession) : TcpSession :=
  let s := {s with win := {s.win with sndWnd := s.peerWnd p}}
  let s :=
    if 0 < s.win.sndWnd ∧ s.persist.active = true then
      {s with persist := PersistState.deactivate e.rtoInitialMs}.cancelTimer e .persist
    else s
  s.ingestSackInfo p

def duplicateOfStored (p : TcpMetadata) : OooQueue → Option (Seq32 × Seq32)
  | [] => none
  | existing :: rest =>
    let left := existing.1.tcpSeq
    let right := add32 left existing.1.tcpData.length
    let segRight := add32 p.tcpSeq p.tcpData.length
    let ovlLeft := if ge32 left p.tcpSeq then left else p.tcpSeq
    let ovlRight := if le32 right segRight then right else segRight
    if lt32 ovlLeft ovlRight then some (ovlLeft,ovlRight) else duplicateOfStored p rest

def noteStoredDuplicate (p : TcpMetadata) (s : TcpSession) : TcpSession :=
  if s.advertise.sendSack then
    {s with pendingDsack := (duplicateOfStored p s.oooPacketQueue).or s.pendingDsack}
  else s

def storeOutOfOrder (e : Env) (p : Stored) (s : TcpSession) : TcpSession :=
  let s := s.noteStoredDuplicate p.1
  let s :=
    if s.oooPacketQueue.length < tcpOooQueueMaxLen ∨ s.oooPacketQueue.has p.1.tcpSeq = true then
      {s with oooPacketQueue := s.oooPacketQueue.set p}
    else s
  s.transmitPacket e {flagAck := true}

def ackAcceptable (p : TcpMetadata) (s : TcpSession) : Bool :=
  le32 s.sndSeq.una p.tcpAck && le32 p.tcpAck s.sndSeq.max

def ackInRange (p : TcpMetadata) (s : TcpSession) : Bool := inRange32 p.tcpAck s.sndSeq.una s.sndSeq.max

def isDuplicateAck (p : TcpMetadata) (s : TcpSession) : Bool :=
  p.tcpSeq == s.rcvSeq.nxt && p.tcpAck == s.sndSeq.una && p.tcpData.isEmpty

def carriesNewData (p : TcpMetadata) (s : TcpSession) : Bool :=
  p.tcpSeq == s.rcvSeq.nxt || (lt32 p.tcpSeq s.rcvSeq.nxt && lt32 s.rcvSeq.nxt p.segEnd)

def establishedDuplicateAck (e : Env) (p : TcpMetadata) (s : TcpSession) : Outcome :=
  let s := s.keepaliveArmIdle e
  if s.peerWnd p ≠ s.win.sndWnd then .ok (s.updateSendWindow e p)
  else if s.sndSeq.una = s.sndSeq.nxt then .ok s
  else s.retransmitPacketRequest e p

def establishedAck (replay : Replay) (e : Env) (p : Stored) (s : TcpSession) : Outcome :=
  if s.isDuplicateAck p.1 then s.establishedDuplicateAck e p.1
  else if gt32 p.1.tcpSeq s.rcvSeq.nxt && s.ackAcceptable p.1 then .ok (s.storeOutOfOrder e p)
  else if s.carriesNewData p.1 && s.ackAcceptable p.1 then s.processAckPacket replay e p.1
  else if gt32 p.1.tcpAck s.sndSeq.max then .ok (s.emitChallengeAck e)
  else if lt32 p.1.tcpAck (sub32 s.sndSeq.una s.win.maxWindow) then .ok (s.emitChallengeAck e)
  else .ok s

def establishedFin (replay : Replay) (e : Env) (p : TcpMetadata) (s : TcpSession) : Outcome :=
  if p.tcpSeq = s.rcvSeq.nxt ∧ s.ackInRange p = true then do
    let s ← s.processAckPacket replay e p
    let s := if p.tcpData.isEmpty then s else s.transmitPacket e {flagAck := true}
    .ok ({s with eventRxBuffer := true}.changeState e .closeWait (some p.tcpAck))
  else .ok s

def fsmEstablishedPacket (replay : Replay) (e : Env) (p : TcpMetadata) (s : TcpSession) : Outcome :=
  if p.tcpFlagSyn then .ok (s.emitChallengeAck e)
  else
    let (acceptable,s) := s.checkSegmentAcceptability e p
    if !acceptable then .ok s
    else
      let (passed,s) := s.checkPawsAndUpdateTsRecent e p
      if !passed then .ok s
      else if only : p.OnlyAck then s.establishedAck replay e ⟨p,only⟩
      else if p.FinAck then s.establishedFin replay e p
      else .ok (s.takeReset (some .reset) e p)

def challengeAckAbove (e : Env) (p : TcpMetadata) (s : TcpSession) : TcpSession :=
  if gt32 p.tcpAck s.sndSeq.max then s.emitChallengeAck e else s

def ackIfData (e : Env) (p : TcpMetadata) (s : TcpSession) : TcpSession :=
  if p.tcpData.isEmpty then s else s.transmitPacket e {flagAck := true}

def enterTimeWait (e : Env) (cause : Seq32) (s : TcpSession) : TcpSession :=
  (s.changeState e .timeWait (some cause)).armTimer e .timeWait e.timeWaitDelayMs

def enterFinWait2 (e : Env) (cause : Seq32) (s : TcpSession) : TcpSession :=
  let s := s.changeState e .finWait2 (some cause)
  if e.socketClosed then s.armTimer e .finWait2 e.finWait2TimeoutMs else s

def finWait1Ack (replay : Replay) (e : Env) (p : TcpMetadata) (s : TcpSession) : Outcome :=
  if p.tcpSeq = s.rcvSeq.nxt ∧ s.ackInRange p = true then do
    let s ← s.processAckPacket replay e p
    let s := s.ackIfData e p
    .ok (if ge32 p.tcpAck s.sndSeq.fin then s.enterFinWait2 e p.tcpAck else s)
  else .ok (s.challengeAckAbove e p)

def finWait1Fin (replay : Replay) (e : Env) (p : TcpMetadata) (s : TcpSession) : Outcome :=
  if p.tcpSeq = s.rcvSeq.nxt ∧ s.ackInRange p = true then do
    let s ← s.processAckPacket replay e p
    let s := s.transmitPacket e {flagAck := true}
    .ok (if ge32 p.tcpAck s.sndSeq.fin then s.enterTimeWait e p.tcpAck
      else s.changeState e .closing (some p.tcpAck))
  else .ok s

def fsmFinWait1Packet (replay : Replay) (e : Env) (p : TcpMetadata) (s : TcpSession) : Outcome :=
  if p.tcpFlagSyn then .ok (s.emitChallengeAck e)
  else
    let (acceptable,s) := s.checkSegmentAcceptability e p
    if !acceptable then .ok s
    else if p.OnlyAck then s.finWait1Ack replay e p
    else if p.FinAck then s.finWait1Fin replay e p
    else .ok (s.takeReset (some .reset) e p)

def finWait2Ack (replay : Replay) (e : Env) (p : TcpMetadata) (s : TcpSession) : Outcome :=
  if p.tcpSeq = s.rcvSeq.nxt ∧ s.ackInRange p = true then do
    let s ← s.processAckPacket replay e p
    .ok (s.ackIfData e p)
  else .ok (s.challengeAckAbove e p)

def finWait2Fin (replay : Replay) (e : Env) (p : TcpMetadata) (s : TcpSession) : Outcome :=
  if p.tcpSeq = s.rcvSeq.nxt ∧ s.ackInRange p = true then do
    let s ← s.processAckPacket replay e p
    let s := (s.transmitPacket e {flagAck := true}).changeState e .timeWait (some p.tcpAck)
    .ok ((s.cancelTimer e .finWait2).armTimer e .timeWait e.timeWaitDelayMs)
  else .ok (s.takeReset (some .reset) e p)

def fsmFinWait2Packet (replay : Replay) (e : Env) (p : TcpMetadata) (s : TcpSession) : Outcome :=
  if p.tcpFlagSyn then .ok (s.emitChallengeAck e)
  else
    let (acceptable,s) := s.checkSegmentAcceptability e p
    if !acceptable then .ok s
    else if p.OnlyAck then s.finWait2Ack replay e p
    else if p.FinAck then s.finWait2Fin replay e p
    else .ok (s.takeReset (some .reset) e p)

def closingAck (replay : Replay) (e : Env) (p : TcpMetadata) (s : TcpSession) : Outcome :=
  if p.tcpSeq = s.rcvSeq.nxt ∧ s.ackInRange p = true then do
    let s ← s.processAckPacket replay e p
    .ok (if ge32 s.sndSeq.una s.sndSeq.fin then s.enterTimeWait e p.tcpAck else s)
  else .ok (s.challengeAckAbove e p)

def fsmClosingPacket (replay : Replay) (e : Env) (p : TcpMetadata) (s : TcpSession) : Outcome :=
  if p.tcpFlagSyn then .ok (s.emitChallengeAck e)
  else
    let (acceptable,s) := s.checkSegmentAcceptability e p
    if !acceptable then .ok s
    else if p.OnlyAck then s.closingAck replay e p
    else .ok (s.takeReset (some .reset) e p)

def closeWaitAck (replay : Replay) (e : Env) (p : TcpMetadata) (s : TcpSession) : Outcome :=
  if s.isDuplicateAck p then
    if s.peerWnd p ≠ s.win.sndWnd then .ok (s.updateSendWindow e p) else s.retransmitPacketRequest e p
  else if gt32 p.tcpSeq s.rcvSeq.nxt && s.ackInRange p then .ok (s.transmitPacket e {flagAck := true})
  else if p.tcpSeq = s.rcvSeq.nxt ∧ s.ackInRange p = true then
    if p.tcpData.isEmpty then s.processAckPacket replay e p else .ok (s.transmitPacket e {flagAck := true})
  else .ok s

def fsmCloseWaitPacket (replay : Replay) (e : Env) (p : TcpMetadata) (s : TcpSession) : Outcome :=
  if p.tcpFlagSyn then .ok (s.emitChallengeAck e)
  else
    let (acceptable,s) := s.checkSegmentAcceptability e p
    if !acceptable then .ok s
    else if p.OnlyAck then s.closeWaitAck replay e p
    else .ok (s.takeReset (some .reset) e p)

def lastAckAck (e : Env) (p : TcpMetadata) (s : TcpSession) : TcpSession :=
  if p.tcpAck = s.sndSeq.nxt ∧ s.ackInRange p = true then s.changeState e .closed (some p.tcpAck)
  else s.challengeAckAbove e p

def fsmLastAckPacket (e : Env) (p : TcpMetadata) (s : TcpSession) : TcpSession :=
  if p.tcpFlagSyn then s.emitChallengeAck e
  else
    let (acceptable,s) := s.checkSegmentAcceptability e p
    if !acceptable then s
    else if p.OnlyAck then s.lastAckAck e p
    else s.takeReset none e p

def reuseAcceptable (tsRecentAtEntry : BitVec 32) (p : TcpMetadata) (s : TcpSession) : Bool :=
  p.tcpFlagSyn && !p.tcpFlagAck && !p.tcpFlagRst &&
    (gt32 p.tcpSeq s.rcvSeq.nxt || (p.tcpTsval.any fun tsval => gt32 tsval tsRecentAtEntry))

def fsmTimeWaitPacket (e : Env) (p : TcpMetadata) (s : TcpSession) : TcpSession :=
  let tsRecentAtEntry := s.ts.tsRecent
  let (passed,s) := s.checkPawsAndUpdateTsRecent e p
  if !passed then s
  else if s.reuseAcceptable tsRecentAtEntry p then
    ((s.reinitForRfc6191Reuse e p).changeState e .synRcvd none).transmitPacket e {flagSyn := true,flagAck := true}
  else if p.tcpFlagFin && add32 p.tcpSeq 1 == s.rcvSeq.nxt then
    (s.transmitPacket e {flagAck := true}).armTimer e .timeWait e.timeWaitDelayMs
  else if p.tcpFlagSyn then s.emitChallengeAck e
  else s

def ecnObserve (p : TcpMetadata) (s : TcpSession) : TcpSession :=
  let s :=
    if s.ecn.enabled then
      {s with ecn := {s.ecn with sendEce := decide (p.ipEcn = 3) || (s.ecn.sendEce && !p.tcpFlagCwr)}}
    else s
  if s.accecn.enabled then {s with accecn := s.accecn.recordReceivedCodepoint p.ipEcn p.tcpData.length} else s

def ecnReady (s : TcpSession) : Bool := s.ecn.recoveryPoint == 0 || le32 s.ecn.recoveryPoint s.sndSeq.una

def reduceForEcn (s : TcpSession) : TcpSession :=
  let ssthresh := computeEcnEventSsthresh s.sndSeq.flight s.win.sndMss
  {s with cc := {s.cc with ssthresh := ssthresh,cwnd := ssthresh,sndEwn := min ssthresh s.win.sndWnd}}

def ecnEcho (p : TcpMetadata) (s : TcpSession) : TcpSession :=
  if s.ecn.enabled && p.tcpFlagEce && s.ecnReady then
    {s.reduceForEcn with ecn := s.ecn.armCwrResponse s.sndSeq.nxt}
  else s

def accecnCounter (p : TcpMetadata) (s : TcpSession) : TcpSession :=
  match p.tcpAccecn0Counters with
  | none => s
  | some counters =>
    if s.accecn.enabled then
      let s :=
        if (counters.2.1.any fun ceb => decide (s.accecn.sCeB < ceb)) && s.ecnReady then
          {s.reduceForEcn with ecn := {s.ecn with recoveryPoint := s.sndSeq.nxt}}
        else s
      {s with accecn := s.accecn.updateSenderCountersFromOption counters}
    else s

def accecnAce (p : TcpMetadata) (s : TcpSession) : TcpSession :=
  if s.accecn.enabled && p.tcpAccecn0Counters.isNone && !p.tcpFlagSyn then
    let (delta,accecn) := s.accecn.apparentCeDelta p.ace
    let s := {s with accecn := accecn}
    if decide (0 < delta) && s.ecnReady then
      {s.reduceForEcn with ecn := {s.ecn with recoveryPoint := s.sndSeq.nxt}}
    else s
  else s

def dispatchPacket (replay : Replay) (e : Env) (p : TcpMetadata) (s : TcpSession) : Outcome :=
  match s.state with
  | .closed => .ok s
  | .listen => .ok (s.fsmListenPacket e p)
  | .synSent => s.fsmSynSentPacket replay e p
  | .synRcvd => s.fsmSynRcvdPacket replay e p
  | .established => s.fsmEstablishedPacket replay e p
  | .finWait1 => s.fsmFinWait1Packet replay e p
  | .finWait2 => s.fsmFinWait2Packet replay e p
  | .closing => s.fsmClosingPacket replay e p
  | .closeWait => s.fsmCloseWaitPacket replay e p
  | .lastAck => .ok (s.fsmLastAckPacket e p)
  | .timeWait => .ok (s.fsmTimeWaitPacket e p)

def ecnPrologue (p : TcpMetadata) (s : TcpSession) : TcpSession :=
  (((s.ecnObserve p).ecnEcho p).accecnCounter p).accecnAce p

-- `tcp_fsm(packet_rx_md)`. A call replays at most the segments stored when it
-- starts, so the fuel is their number plus one (`fsmPacket_enough_fuel`).
def fsmPacket (e : Env) : Nat → TcpMetadata → TcpSession → Outcome
  | 0,_,s => .ok s
  | n + 1,p,s => do
    let entry := s.state
    let s ← (s.ecnPrologue p).dispatchPacket (fsmPacket e n) e p
    .ok (s.pumpTail e entry true)

def tcpFsmPacket (e : Env) (p : TcpMetadata) (s : TcpSession) : Outcome :=
  fsmPacket e (s.oooPacketQueue.length + 1) p s

def closeCall (e : Env) (s : TcpSession) : TcpSession :=
  match s.state with
  | .listen => s.changeState e .closed none
  | .synSent =>
    {s with connectionError := .canceled,eventConnect := s.eventConnect + 1}.changeState e .closed none
  | .synRcvd =>
    {s with connectionError := .canceled,eventConnect := s.eventConnect + 1}.changeState e .finWait1 none
  | .established | .closeWait => {s with closing := true}
  | .finWait2 => s.armTimer e .finWait2 e.finWait2TimeoutMs
  | .closed | .finWait1 | .closing | .lastAck | .timeWait => s

def openCall (e : Env) (new : FsmState) (s : TcpSession) : TcpSession :=
  if s.state = .closed then s.changeState e new none else s

def dispatchSyscall (e : Env) (call : SysCall) (s : TcpSession) : TcpSession :=
  match call with
  | .connect => s.openCall e .synSent
  | .listen => s.openCall e .listen
  | .close => s.closeCall e
  | .abort => s.abort e

def tcpFsmSyscall (e : Env) (call : SysCall) (s : TcpSession) : TcpSession :=
  (s.dispatchSyscall e call).pumpTail e s.state true

def finishClose (e : Env) (new : FsmState) (s : TcpSession) : TcpSession :=
  if s.closing = true ∧ s.tx.buffer = [] then s.changeState e new none else s

def retransmitAndPump (e : Env) (s : TcpSession) : TcpSession := (s.retransmitPacketTimeout e).transmitData e

def expireTo (e : Env) (name : TimerName) (s : TcpSession) : TcpSession :=
  if s.timerExpired e name then s.changeState e .closed none else s

def dispatchTimer (e : Env) (s : TcpSession) : TcpSession :=
  match s.state with
  | .closed | .listen => s
  | .synSent | .synRcvd | .finWait1 | .closing | .lastAck => s.retransmitAndPump e
  | .established =>
    ((((s.retransmitAndPump e).delayedAck e).keepaliveTick e).rackReorderTick e).tlpPtoTick e |>.finishClose e .finWait1
  | .closeWait => ((s.retransmitAndPump e).delayedAck e).finishClose e .lastAck
  | .finWait2 => s.expireTo e .finWait2
  | .timeWait => s.expireTo e .timeWait

def tcpFsmTimer (e : Env) (s : TcpSession) : TcpSession := (s.dispatchTimer e).pumpTail e s.state false

inductive IcmpMetadata where
  | destUnreachable (type code : Nat)
  | pmtu (nextHopMtu : Nat) (version : Plpmtud.IpVersion)
  | other

def hardDestUnreachable (type code : Nat) : Bool :=
  [(3,2),(3,3),(1,1),(1,4)].contains (type,code)

def synSentIcmp (e : Env) (m : IcmpMetadata) (s : TcpSession) : TcpSession :=
  match m with
  | .destUnreachable type code =>
    if hardDestUnreachable type code then
      {s with
        connectionError := .refused
        eventRxBuffer := true
        eventConnect := s.eventConnect + 1}.changeState e .closed none
    else if [(3,1),(1,3)].contains (type,code) then {s with connectionError := .hostUnreachable}
    else if [(3,0),(1,0)].contains (type,code) then {s with connectionError := .netUnreachable}
    else s
  | .pmtu nextHopMtu version => s.applyPmtuUpdate e nextHopMtu version
  | .other => s

def synchronizedIcmp (e : Env) (m : IcmpMetadata) (s : TcpSession) : TcpSession :=
  match m with
  | .pmtu nextHopMtu version => s.applyPmtuUpdate e nextHopMtu version
  | _ => s

def dispatchIcmp (e : Env) (m : IcmpMetadata) (s : TcpSession) : TcpSession :=
  match s.state with
  | .closed | .listen => s
  | .synSent => s.synSentIcmp e m
  | _ => s.synchronizedIcmp e m

def tcpFsmIcmp (e : Env) (m : IcmpMetadata) (s : TcpSession) : TcpSession :=
  (s.dispatchIcmp e m).pumpTail e s.state true

def send (e : Env) (data : List UInt8) (s : TcpSession) : TcpSession :=
  if s.closing || s.shut.wr then s
  else if s.state = .established ∨ s.state = .closeWait then
    {s with tx := {s.tx with buffer := s.tx.buffer ++ data},written := s.written ++ data}.kickPump e
  else s

def shutdownRead (s : TcpSession) : TcpSession :=
  if s.shut.rd then s else {s with shut := {s.shut with rd := true},eventRxBuffer := true}

def shutdownWrite (e : Env) (s : TcpSession) : TcpSession :=
  if s.shut.wr || s.closing then s
  else {s with shut := {s.shut with wr := true}}.tcpFsmSyscall e .close

inductive ReceiveResult where
  | data (bytes : List UInt8)
  | failed (error : ConnError)
  | timedOut

def streamEnded (state : FsmState) : Bool :=
  decide (state = .closeWait ∨ state = .closing ∨ state = .timeWait ∨ state = .closed)

def receive (byteCount : Option Nat) (s : TcpSession) : ReceiveResult × TcpSession :=
  if !s.eventRxBuffer then (.timedOut,s)
  else if s.rxBuffer.isEmpty ∧ (s.connectionError = .reset ∨ s.connectionError = .canceled ∨
      s.connectionError = .timeout) then
    (.failed s.connectionError,s)
  else if s.rxBuffer.isEmpty && streamEnded s.state then (.data [],s)
  else
    let count := byteCount.getD s.rxBuffer.length
    let rest := s.rxBuffer.drop count
    let ready := if rest.isEmpty && !streamEnded s.state then false else s.eventRxBuffer
    (.data (s.rxBuffer.take count),{s with rxBuffer := rest,eventRxBuffer := ready})

end TcpSession

end PmdPytcp.Tcp
