import PmdPytcp.Lib.Runs
import PmdPytcp.Tcp.Validate

namespace PmdPytcp.Tcp
open Arc

-- The segment a session is dealing with: just arrived, taken back from the
-- out-of-order queue, or taken in while the queue still holds what it covers.
inductive Hand where
  | idle
  | fresh (p : TcpMetadata)
  | stored (p : TcpMetadata)
  | settling

structure Receiver where
  state : FsmState
  nxt : Seq32
  count : Nat
  buffer : List UInt8
  delivered : List UInt8
  shut : Bool
  ooo : OooQueue
  dsack : Option (Seq32 × Seq32)
  pending : Nat
  sendSack : Bool
  sendTs : Bool
  wndMax : Nat
  mss : Int
  wsc : Nat
  advertises : Bool
  scales : Bool
  cookie : Option (List UInt8)
  told : List Segment
  hand : Hand

def storedRange (p : Stored) : Seq32 × Seq32 := (p.1.tcpSeq,add32 p.1.tcpSeq p.1.tcpData.length)

namespace Receiver

def wnd (r : Receiver) : Nat := r.wndMax - r.buffer.length

def moment (r : Receiver) : Moment where
  room := r.wnd
  shift := if r.scales then lastScale r.told else 0
  count := r.count
  held := r.ooo.map storedRange

def winField (syn : Bool) (r : Receiver) : Int :=
  if syn then min r.wnd 0xFFFF else if 0 < r.wnd ∧ (r.wnd : Int) < r.mss then 0 else (r.wnd >>> r.wsc : Nat)

def reports (r : Receiver) : Bool := r.sendSack && (!r.ooo.isEmpty || r.dsack.isSome)

-- A pending DSACK comes first and takes one of the places.
def blocks (r : Receiver) : List (Seq32 × Seq32) :=
  let first := r.dsack.toList
  first ++ (r.ooo.reverse.map storedRange).take ((if r.sendTs then 3 else 4) - first.length)

def told1 (seg : Segment) (r : Receiver) : Receiver := {r with told := r.told ++ [seg]}

def emit (seg : Segment) (r : Receiver) : Receiver :=
  {r with
    told := r.told ++ [seg]
    dsack := if seg.sackBlocks.isSome then none else r.dsack
    pending := if seg.flagAck then 0 else r.pending}

def overlap (p : TcpMetadata) (r : Receiver) : Nat := if lt32 p.tcpSeq r.nxt then arc p.tcpSeq r.nxt else 0

def fresh (p : TcpMetadata) (r : Receiver) : List UInt8 := if r.shut then [] else p.tcpData.drop (r.overlap p)

-- What one segment adds, with the queue still as it was.
def consume (p : TcpMetadata) (r : Receiver) : Receiver :=
  {r with
    nxt := if lt32 r.nxt p.segEnd then p.segEnd else r.nxt
    count := if lt32 r.nxt p.segEnd then r.count + arc r.nxt p.segEnd else r.count
    buffer := r.buffer ++ r.fresh p
    delivered := r.delivered ++ r.fresh p
    pending := if r.overlap p < p.tcpData.length then r.pending + 1 else r.pending
    hand := .settling}

def accept (data : List UInt8) (r : Receiver) : Receiver :=
  {r with
    buffer := r.buffer ++ if r.shut then [] else data
    delivered := r.delivered ++ if r.shut then [] else data}

def moveTo (new : FsmState) (r : Receiver) : Receiver :=
  {r with
    state := new
    cookie := if r.state = .synRcvd ∧ new ≠ .synRcvd then none else r.cookie}

def learn (wsc : Nat) (scales sendSack sendTs : Bool) (cookie : Option (List UInt8)) (r : Receiver) : Receiver :=
  {r with wsc := wsc,scales := scales,sendSack := sendSack,sendTs := sendTs,cookie := cookie}

def restart (nxt : Seq32) (data : List UInt8) (r : Receiver) : Receiver :=
  {r with
    state := .synRcvd
    nxt := nxt
    count := 0
    buffer := if r.shut then [] else data
    delivered := if r.shut then [] else data
    ooo := []
    dsack := none
    told := []
    hand := .idle}

end Receiver

-- What the header of a composed segment tells about the receiver.
structure Composes (r : Receiver) (seg : Segment) : Prop where
  ack : seg.flagAck = true → seg.ack = r.nxt
  win : seg.win = r.winField seg.flagSyn
  wscale : seg.wscale = if seg.flagSyn then some (if r.advertises then r.wsc else 0) else none
  sack : seg.sackBlocks = if !seg.flagSyn && r.reports then some r.blocks else none
  options : (r.cookie.getD []).length ≤ 8 → (seg.optionBytes ≤ 40 ↔ seg.moment.crowded = false)
  moment : seg.moment = {r.moment with crowded := seg.moment.crowded}

-- A keepalive probe, or the RST that answers a refused ACK in SYN_SENT.
structure Unadorned (refused : Prop) (r : Receiver) (seg : Segment) : Prop where
  flags : seg.flagSyn = false
  sack : seg.sackBlocks = none
  options : seg.optionBytes = 0
  win : seg.win = (r.wnd >>> r.wsc : Nat) ∨ seg.win = r.wnd ∧ r.state = .synSent ∧ refused
  moment : seg.moment = r.moment

def Scales (p : TcpMetadata) (r : Receiver) (wsc : Nat) (scales : Bool) : Prop :=
  scales = p.wscaleOffered ∧ if r.advertises = true ∧ p.tcpWscale ≠ 0 then wsc = r.wsc else wsc = 0

-- The states in which a segment may carry payload for the application.
def taking : FsmState → Bool
  | .synRcvd | .established | .finWait1 | .finWait2 | .closing | .closeWait => true
  | _ => false

-- What is known of the event: whether a stored segment may be let go unread,
-- which segment came, and whether SYN_SENT refuses its ACK.
structure Occasion where
  lossy : Prop
  arrived : TcpMetadata → Prop
  refused : Prop

inductive Intake (o : Occasion) : Receiver → Receiver → Prop where
  | emit (r : Receiver) (seg : Segment) (composed : Composes r seg)
      (due : r.hand = .idle ∨ r.hand = .settling ∧ 2 ≤ r.pending) : Intake o r (r.emit seg)
  | plain (r : Receiver) (seg : Segment) (bare : Unadorned o.refused r seg) (idle : r.hand = .idle) :
      Intake o r (r.told1 seg)
  | note (r : Receiver) (block : Seq32 × Seq32) (on : r.sendSack = true) (some : block.1 ≠ block.2)
      (calm : r.hand ≠ .settling) : Intake o r {r with dsack := block}
  | consume (r : Receiver) (p : TcpMetadata) (held : r.hand = .fresh p ∨ r.hand = .stored p)
      (takes : taking r.state = true) (plain : p.tcpFlagSyn = false)
      (joined : p.tcpSeq = r.nxt ∨ lt32 p.tcpSeq r.nxt = true) : Intake o r (r.consume p)
  | purge (r : Receiver) (settling : r.hand = .settling) :
      Intake o r {r with ooo := r.ooo.filter fun q => !lt32 q.1.tcpSeq r.nxt,hand := .idle}
  | pop (r : Receiver) (q : Stored) (found : r.ooo.find r.nxt = some q) (idle : r.hand = .idle) :
      Intake o r {r with ooo := r.ooo.drop r.nxt,hand := .stored q.1}
  | store (r : Receiver) (p : Stored) (held : r.hand = .fresh p.1 ∨ r.hand = .stored p.1)
      (here : r.state = .established) (above : gt32 p.1.tcpSeq r.nxt = true)
      (fits : acceptable p.1.tcpSeq p.1.segLen r.nxt r.wnd = true)
      (room : r.ooo.length < tcpOooQueueMaxLen ∨ r.ooo.has p.1.tcpSeq = true) :
      Intake o r {r with ooo := r.ooo.set p,hand := .idle}
  | discard (r : Receiver) (p : TcpMetadata) (held : r.hand = .fresh p ∨ r.hand = .stored p ∧ o.lossy) :
      Intake o r {r with hand := .idle}
  | read (r : Receiver) (n : Nat) (idle : r.hand = .idle) : Intake o r {r with buffer := r.buffer.drop n}
  | close (r : Receiver) (idle : r.hand = .idle) : Intake o r {r with shut := true}
  | move (r : Receiver) (new : FsmState) (idle : r.hand = .idle) (later : new ≠ .listen ∧ new ≠ .synSent)
      (answers : new = .synRcvd → r.state = .listen ∨ r.state = .synSent) : Intake o r (r.moveTo new)
  | begin (r : Receiver) (p : TcpMetadata) (nxt : Seq32) (data : List UInt8) (held : r.hand = .fresh p)
      (early : r.state = .listen ∨ r.state = .synSent) (asked : p.tcpFlagSyn = true)
      (load : data = p.tcpData ∨ data = []) : Intake o r {r.accept data with nxt := nxt,hand := .idle}
  | learn (r : Receiver) (p : TcpMetadata) (wsc : Nat) (scales sendSack sendTs : Bool) (cookie : Option (List UInt8))
      (idle : r.hand = .idle) (new : o.arrived p) (early : r.state = .listen ∨ r.state = .synSent)
      (asked : p.tcpFlagSyn = true) (scaled : Scales p r wsc scales)
      (issued : cookie = r.cookie ∨ ∃ bytes, cookie = some bytes ∧ bytes.length ≤ 8) :
      Intake o r (r.learn wsc scales sendSack sendTs cookie)
  | reuse (r : Receiver) (p : TcpMetadata) (nxt : Seq32) (wsc : Nat) (scales sendSack sendTs : Bool)
      (held : r.hand = .fresh p) (waited : r.state = .timeWait) (asked : p.tcpFlagSyn = true)
      (scaled : Scales p r wsc scales) :
      Intake o r ((r.restart nxt p.tcpData).learn wsc scales sendSack sendTs r.cookie)

abbrev Intakes (o : Occasion) : Receiver → Receiver → Prop := Relation.ReflTransGen (Intake o)

end PmdPytcp.Tcp
