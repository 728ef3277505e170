import PmdPytcp.Buffer

namespace PmdPytcp.Udp
open InetCksum Buffer

-- `UdpZeroCksumIp6Error` is an integrity error of its own class: the handler
-- tells it from the others before it looks for `PacketValidationError`.
inductive UdpError where
  | zeroCksumIp6 (message : String)
  | other (error : PyError)
deriving Repr,DecidableEq

def udpIntegrityError (message : String) : UdpError :=
  .other (.packetIntegrity ("[INTEGRITY ERROR]" ++ ("[UDP] " ++ message)) none)

def udpSanityError (message : String) : UdpError :=
  .other (.packetSanity ("[SANITY ERROR]" ++ ("[UDP] " ++ message)) none)

def udpZeroCksumIp6Error (message : String) : UdpError :=
  .zeroCksumIp6 ("[INTEGRITY ERROR]" ++ ("[UDP] " ++ message))

structure UdpHeader where
  sport : Nat
  dport : Nat
  plen : Nat
  cksum : Nat
deriving Repr,DecidableEq

structure UdpPacket where
  header : UdpHeader
  payload : List UInt8
deriving Repr,DecidableEq

def headerFromBuffer (buffer : List UInt8) : Py UdpHeader := do
  let fixed := buffer.take 8
  if fixed.length ≠ 8 then throw .structError
  let header : UdpHeader := {
    sport := beNat (slice fixed 0 2)
    dport := beNat (slice fixed 2 4)
    plen := beNat (slice fixed 4 6)
    cksum := beNat (slice fixed 6 8) }
  pyAssert (isUint 16 header.sport)
  pyAssert (isUint 16 header.dport)
  pyAssert (isUint 16 header.plen)
  pyAssert (isUint 16 header.cksum)
  return header

-- What the parser takes from the IP layer and from its caller.
structure Context where
  payloadLen : Nat
  pshdrSum : Nat
  isIp6 : Bool
  acceptZeroCksumIp6 : Bool
  validateChecksum : Bool

def validateIntegrity (context : Context) (frame : List UInt8) : Except UdpError Unit :=
  let payloadLen := context.payloadLen
  let plen := beNat (slice frame 4 6)
  if ¬(8 ≤ payloadLen ∧ payloadLen ≤ frame.length) then
    .error (udpIntegrityError s!"The condition 'UDP__HEADER__LEN <= self._ip__payload_len <= len(self._frame)' must be met. Got: UDP__HEADER__LEN=8, self._ip__payload_len={payloadLen}, len(self._frame)={frame.length}")
  else if ¬(8 ≤ plen ∧ plen = payloadLen ∧ payloadLen ≤ frame.length) then
    .error (udpIntegrityError s!"The condition 'UDP__HEADER__LEN <= plen == self._ip__payload_len <= len(self._frame)' must be met. Got: UDP__HEADER__LEN=8, plen={plen}, self._ip__payload_len={payloadLen}, len(self._frame)={frame.length}")
  else if beNat (slice frame 6 8) = 0 then
    if context.isIp6 ∧ ¬context.acceptZeroCksumIp6 then
      .error (udpZeroCksumIp6Error "IPv6 UDP datagram with zero checksum on a port not configured for RFC 6935 zero-checksum mode.")
    else .ok ()
  else if context.validateChecksum ∧ inetCksum [frame.take payloadLen] context.pshdrSum ≠ 0 then
    .error (udpIntegrityError "The packet checksum must be valid.")
  else .ok ()

def validateSanity (header : UdpHeader) : Except UdpError Unit :=
  if header.dport = 0 then
    .error (udpSanityError s!"The 'dport' field must be greater than 0. Got: {header.dport}")
  else .ok ()

-- `UdpParser.__init__`.
def udpParser (context : Context) (frame : List UInt8) : Except UdpError UdpPacket :=
  match validateIntegrity context frame with
  | .error e => .error e
  | .ok () =>
    match headerFromBuffer frame with
    | .error e => .error (.other e)
    | .ok header =>
      match validateSanity header with
      | .error e => .error e
      | .ok () => .ok ⟨header,slice frame 8 header.plen⟩

variable {context : Context} {frame : List UInt8}

def wireHeader (frame : List UInt8) : UdpHeader :=
  ⟨beNat (slice frame 0 2),beNat (slice frame 2 4),beNat (slice frame 4 6),beNat (slice frame 6 8)⟩

theorem slice_take (frame : List UInt8) (start stop bound : Nat) (within : stop ≤ bound) :
    slice (frame.take bound) start stop = slice frame start stop := by
  simp [slice,List.take_take,Nat.min_eq_left within]

theorem headerFromBuffer_ok (fits : 8 ≤ frame.length) : headerFromBuffer frame = .ok (wireHeader frame) := by
  have full : (frame.take 8).length = 8 := by simp [fits]
  unfold headerFromBuffer wireHeader
  simp only [full,ne_eq,not_true_eq_false,if_false,slice_take frame _ _ 8 (by decide : 2 ≤ 8),
    slice_take frame _ _ 8 (by decide : 4 ≤ 8),slice_take frame _ _ 8 (by decide : 6 ≤ 8),
    slice_take frame _ _ 8 (by decide : 8 ≤ 8),isUint_slice 16 0 2 frame (by decide),
    isUint_slice 16 2 4 frame (by decide),isUint_slice 16 4 6 frame (by decide),
    isUint_slice 16 6 8 frame (by decide)]
  rfl

-- The checksum field is absent, and both lengths agree and fit the frame.
structure Unsummed (payloadLen : Nat) (frame : List UInt8) : Prop where
  least : 8 ≤ payloadLen
  fits : payloadLen ≤ frame.length
  declared : beNat (slice frame 4 6) = payloadLen
  zero : beNat (slice frame 6 8) = 0

theorem validateIntegrity_unsummed (context : Context) (unsummed : Unsummed context.payloadLen frame) :
    validateIntegrity context frame =
      if context.isIp6 ∧ ¬context.acceptZeroCksumIp6 then
        .error (udpZeroCksumIp6Error "IPv6 UDP datagram with zero checksum on a port not configured for RFC 6935 zero-checksum mode.")
      else .ok () := by
  obtain ⟨least,fits,declared,zero⟩ := unsummed
  unfold validateIntegrity
  dsimp only
  rw [if_neg (not_not.mpr ⟨least,fits⟩),declared,if_neg (not_not.mpr ⟨least,rfl,fits⟩),if_pos zero]

theorem validateIntegrity_lengths (context : Context) (zero : beNat (slice frame 6 8) = 0) :
    Unsummed context.payloadLen frame ∨ ∃ message, validateIntegrity context frame = .error (udpIntegrityError message) := by
  unfold validateIntegrity
  dsimp only
  split
  · exact .inr ⟨_,rfl⟩
  next lengths =>
  split
  · exact .inr ⟨_,rfl⟩
  next declared =>
  exact .inl ⟨by omega,by omega,by omega,zero⟩

theorem udpParser_unsummed (context : Context) (unsummed : Unsummed context.payloadLen frame)
    (accepted : validateIntegrity context frame = .ok ()) (dport : beNat (slice frame 2 4) ≠ 0) :
    udpParser context frame = .ok ⟨wireHeader frame,slice frame 8 context.payloadLen⟩ := by
  have sane : validateSanity (wireHeader frame) = .ok () := if_neg dport
  unfold udpParser
  rw [accepted,headerFromBuffer_ok (unsummed.least.trans unsummed.fits)]
  dsimp only
  rw [sane]
  show Except.ok _ = _
  rw [wireHeader,unsummed.declared]

theorem udpParser_rejected {e : UdpError} (rejected : validateIntegrity context frame = .error e) :
    udpParser context frame = .error e := by
  unfold udpParser
  rw [rejected]

end PmdPytcp.Udp
