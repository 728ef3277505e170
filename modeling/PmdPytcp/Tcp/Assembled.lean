import PmdPytcp.TcpHandler
import PmdPytcp.Tcp.Run

namespace PmdPytcp.Tcp
open InetCksum Buffer TcpHandler TcpAssembler

-- The call of `_phtx_tcp` behind `send_tcp_packet`. The addresses and ports are
-- the socket's.
def Segment.txArguments (ipSrc ipDst : IpAddress) (sport dport : Nat) (seg : Segment) : TxArguments where
  ipSrc := ipSrc
  ipDst := ipDst
  ipEcn := seg.ipEcn
  sport := sport
  dport := dport
  seq := seg.seq.toNat
  ack := seg.ack.toNat
  flagNs := seg.flagNs
  flagCwr := seg.flagCwr
  flagEce := seg.flagEce
  flagAck := seg.flagAck
  flagPsh := seg.flagPsh
  flagRst := seg.flagRst
  flagSyn := seg.flagSyn
  flagFin := seg.flagFin
  mss := seg.mss.map Int.toNat
  wscale := seg.wscale
  sackperm := seg.sackperm
  sackBlocks := seg.sackBlocks.map fun blocks => blocks.map fun block => (block.1.toNat,block.2.toNat)
  tsval := seg.tsval.map BitVec.toNat
  tsecr := seg.tsecr.map BitVec.toNat
  fastopenCookie := seg.fastopenCookie
  accecn0Counters := seg.accecn0Counters
  accecn1Counters := seg.accecn1Counters
  win := seg.win.toNat
  payload := seg.data

def noAddress : IpAddress := .ip4 (.replicate 4 0)

-- No assertion on the way into the packet fails. The segment decides that: its
-- socket's ports are in range.
def Segment.Assembles (seg : Segment) : Prop :=
  0 ≤ seg.win ∧ (∀ mss ∈ seg.mss, 0 ≤ mss) ∧ (tcpAssembler (seg.txArguments noAddress noAddress 0 0).assembler).isOk = true

instance (seg : Segment) : Decidable seg.Assembles := inferInstanceAs (Decidable (_ ∧ _ ∧ _ = true))

theorem tcpAssembler_isOk (args : TcpArguments) : (tcpAssembler args).isOk = true ↔
    (∀ option ∈ args.options, optionPostInit option = .ok ()) ∧ optionsLen args.options ≤ 40 ∧
      optionsLen args.options % 4 = 0 ∧ (.eol ∉ args.options ∨ args.options.getLast? = some .eol) ∧
      headerPostInit args.header = .ok () := by
  have accepted (result : Py TcpParser.TcpPacket) : result.isOk = true ↔ ∃ packet, result = .ok packet := by
    cases result with
    | error failed => simp [Except.isOk,Except.toBool]
    | ok packet => simp [Except.isOk,Except.toBool]
  rw [accepted]
  simp only [tcpAssembler,bind_ok,pyAssert_ok,forM_ok,decide_eq_true_eq,pure_eq]
  constructor
  · rintro ⟨packet,_,built,_,short,_,aligned,_,ending,_,header,_⟩
    exact ⟨built,short,aligned,ending,header⟩
  · rintro ⟨built,short,aligned,ending,header⟩
    exact ⟨_,(),built,(),short,(),aligned,(),ending,(),header,rfl⟩

theorem assembles_ports (seg : Segment) (ipSrc ipDst : IpAddress) (sports : isUint 16 sport = true)
    (dports : isUint 16 dport = true) :
    (tcpAssembler (seg.txArguments ipSrc ipDst sport dport).assembler).isOk = true ↔
      (tcpAssembler (seg.txArguments noAddress noAddress 0 0).assembler).isOk = true := by
  have zero : isUint 16 0 = true := by decide
  have header : headerPostInit (seg.txArguments ipSrc ipDst sport dport).assembler.header =
      headerPostInit (seg.txArguments noAddress noAddress 0 0).assembler.header := by
    show (do pyAssert (isUint 16 sport); pyAssert (isUint 16 dport); _) =
      (do pyAssert (isUint 16 0); pyAssert (isUint 16 0); _)
    rw [sports,dports,zero]
    rfl
  rw [tcpAssembler_isOk,tcpAssembler_isOk,header]
  rfl

namespace TcpSession

-- The segment `_transmit_packet` hands over is assembled.
def Transmits (e : Env) (m : Emit) (s : TcpSession) : Prop :=
  let seq := m.seq.getD s.sndSeq.nxt
  ((s.phase0PreSendHygiene e seq m).composeSegment e seq m).1.Assembles

instance (e : Env) (m : Emit) (s : TcpSession) : Decidable (s.Transmits e m) :=
  inferInstanceAs (Decidable (Segment.Assembles _))

-- A refused segment raises out of `_transmit_packet` after `_phase0` to `_phase3`,
-- and what the event had still to do is left undone. `sendTcpPacket` does not
-- raise, so a run stands for the program as long as each step sends only what
-- is assembled.
def Sends (input : Env × Event) (s : TcpSession) : Prop :=
  ∀ seg ∈ (s.next input).log.filterMap Obs.segment, seg.Assembles

instance (input : Env × Event) (s : TcpSession) : Decidable (s.Sends input) :=
  inferInstanceAs (Decidable (∀ seg ∈ _, Segment.Assembles seg))

end TcpSession

end PmdPytcp.Tcp
