import PmdPytcp.Buffer
import PmdPytcp.Ip6.Address

namespace PmdPytcp.Ip6
open InetCksum Buffer

def integrityError (message : String) : PyError := .packetIntegrity ("[INTEGRITY ERROR]" ++ message) none
def sanityError (message : String) (pointer : Option Nat) : PyError :=
  .packetSanity ("[SANITY ERROR]" ++ message) pointer

-- Addresses as the header fields hold them.
def isLoopback (address : Nat) : Bool := Ip6Address.isLoopback (.ofNat 128 address)
def isMulticast (address : Nat) : Bool := Ip6Address.isMulticast (.ofNat 128 address)

def hex (n : Nat) : String := String.ofList (Nat.toDigits 16 n)

-- The first of the longest runs of zero groups, as its start and length.
def zeroRun : List Nat → Nat → Nat × Nat → Nat × Nat → Nat × Nat
  | [],_,current,best => if best.2 < current.2 then current else best
  | word :: rest,i,current,best =>
    if word = 0 then zeroRun rest (i+1) (if current.2 = 0 then (i,1) else (current.1,current.2+1)) best
    else zeroRun rest (i+1) (0,0) (if best.2 < current.2 then current else best)

-- `socket.inet_ntop(AF_INET6, …)`: a run of two or more groups is shortened,
-- and an embedded IPv4 address is written with dots.
def inetNtop (address : Nat) : String :=
  let words := (List.range 8).map fun i => address / 2^(16*(7-i)) % 2^16
  let run := zeroRun words 0 (0,0) (0,0)
  let dotted := s!"{address/2^24%256}.{address/2^16%256}.{address/2^8%256}.{address%256}"
  let written (groups : List Nat) := ":".intercalate (groups.map hex)
  if run.2 < 2 then written words
  else if run.1 = 0 ∧ run.2 = 6 then "::" ++ dotted
  else if run.1 = 0 ∧ run.2 = 5 ∧ words[5]? = some 0xFFFF then "::ffff:" ++ dotted
  else written (words.take run.1) ++ "::" ++ written (words.drop (run.1 + run.2))

def addressRepr (address : Nat) : String := s!"Ip6Address('{inetNtop address}')"

structure Ip6Header where
  dscp : Nat
  ecn : Nat
  flow : Nat
  dlen : Nat
  next : Nat
  hop : Nat
  src : Nat
  dst : Nat
deriving Repr,DecidableEq

def headerFromBuffer (buffer : List UInt8) : Py Ip6Header := do
  let fixed := buffer.take 40
  if fixed.length ≠ 40 then throw .structError
  let word := beNat (slice fixed 0 4)
  let header : Ip6Header := {
    dscp := (word >>> 22) &&& 0x3F
    ecn := (word >>> 20) &&& 0x03
    flow := word &&& 0xFFFFF
    dlen := beNat (slice fixed 4 6)
    next := beNat (slice fixed 6 7)
    hop := beNat (slice fixed 7 8)
    src := beNat (slice fixed 8 24)
    dst := beNat (slice fixed 24 40) }
  pyAssert (isUint 6 header.dscp)
  pyAssert (isUint 2 header.ecn)
  pyAssert (isUint 20 header.flow)
  pyAssert (isUint 16 header.dlen)
  pyAssert (isUint 8 header.hop)
  return header

structure Ip6Packet where
  frame : List UInt8
  header : Ip6Header
  payload : List UInt8
deriving Repr,DecidableEq

def Ip6Packet.headerBytes (packet : Ip6Packet) : List UInt8 := packet.frame.take 40
def Ip6Packet.payloadBytes (packet : Ip6Packet) : List UInt8 := packet.payload
def Ip6Packet.packetBytes (packet : Ip6Packet) : List UInt8 := packet.frame.take (40 + packet.header.dlen)

def validateIntegrity (frame : List UInt8) : Py Unit := do
  if frame.length < 40 then
    throw (integrityError ("[IPv6] " ++ s!"The condition 'IP6__HEADER__LEN <= len(self._frame)' must be met. Got: IP6__HEADER__LEN=40, len(self._frame)={frame.length}"))
  let first ← byteAt frame 0
  if first >>> 4 ≠ 6 then
    throw (integrityError ("[IPv6] " ++ s!"The 'ver' field must be 6. Got: {first >>> 4}"))
  let dlen := beNat (slice frame 4 6)
  if dlen ≠ frame.length - 40 then
    throw (integrityError ("[IPv6] " ++ s!"The condition 'dlen == len(self._frame) - IP6__HEADER__LEN' must be met. Got: dlen={dlen}, len(self._frame)={frame.length}, IP6__HEADER__LEN=40"))

-- Each violation points at its field: 7 hop limit, 8 source.
def validateSanity (header : Ip6Header) : Py Unit := do
  if header.hop = 0 then
    throw (sanityError ("[IPv6] " ++ s!"The 'hop' field must not be 0. Got: {header.hop}") (some 7))
  if isLoopback header.src then
    throw (sanityError ("[IPv6] " ++ s!"The 'src' field must not be a loopback address. Got: {addressRepr header.src}") (some 8))
  if isMulticast header.src then
    throw (sanityError ("[IPv6] " ++ s!"The 'src' field must not be a multicast address. Got: {addressRepr header.src}") (some 8))

-- `Ip6Parser.__init__`
def ip6Parser (frame : List UInt8) : Py Ip6Packet := do
  validateIntegrity frame
  let header ← headerFromBuffer frame
  let packet : Ip6Packet := ⟨frame,header,slice frame 40 (40 + header.dlen)⟩
  validateSanity header
  return packet

def headerFields (frame : List UInt8) : Ip6Header where
  dscp := (beNat (slice frame 0 4) >>> 22) &&& 0x3F
  ecn := (beNat (slice frame 0 4) >>> 20) &&& 0x03
  flow := beNat (slice frame 0 4) &&& 0xFFFFF
  dlen := beNat (slice frame 4 6)
  next := beNat (slice frame 6 7)
  hop := beNat (slice frame 7 8)
  src := beNat (slice frame 8 24)
  dst := beNat (slice frame 24 40)

theorem header_reads (long : 40 ≤ frame.length) : headerFromBuffer frame = .ok (headerFields frame) := by
  have whole : (frame.take 40).length = 40 := by simp [Nat.min_eq_left long]
  have width (w start stop : Nat) (wide : 8*(stop-start) ≤ w) := isUint_slice w start stop frame wide
  have masked (w n mask : Nat) (small : mask < 2^w) : isUint w (n &&& mask) = true := by
    simp only [isUint,decide_eq_true_eq]
    exact Nat.lt_of_le_of_lt Nat.and_le_right small
  have cut (start stop : Nat) (inside : stop ≤ 40) := take_slice frame start stop 40 inside
  simp only [headerFromBuffer,whole,ne_eq,not_true_eq_false,if_false,masked 6 _ 0x3F (by norm_num),
    masked 2 _ 0x03 (by norm_num),masked 20 _ 0xFFFFF (by norm_num),width 16 4 6 (by omega),width 8 7 8 (by omega),
    pyAssert_true,ok_bind,pure_eq,cut 0 4 (by omega),cut 4 6 (by omega),cut 6 7 (by omega),cut 7 8 (by omega),
    cut 8 24 (by omega),cut 24 40 (by omega)]
  rfl

structure Accepted (frame : List UInt8) : Prop where
  long : 40 ≤ frame.length
  version : (frame[0]?.getD 0).toNat >>> 4 = 6
  dlen : (headerFields frame).dlen = frame.length - 40
  hop : (headerFields frame).hop ≠ 0
  loopback : isLoopback (headerFields frame).src = false
  multicast : isMulticast (headerFields frame).src = false

def packetOf (frame : List UInt8) : Ip6Packet := ⟨frame,headerFields frame,frame.drop 40⟩

theorem accepted_parses (accepted : Accepted frame) : ip6Parser frame = .ok (packetOf frame) := by
  obtain ⟨long,version,dlen,hop,loopback,multicast⟩ := accepted
  have first : byteAt frame 0 = .ok (frame[0]?.getD 0).toNat := by
    have here : frame[0]? = some frame[0] := List.getElem?_eq_getElem (by omega)
    simp [byteAt,here]
  have integrity : validateIntegrity frame = .ok () := by
    have field : beNat (slice frame 4 6) = frame.length - 40 := dlen
    simp only [validateIntegrity,if_neg (Nat.not_lt.mpr long),first,ok_bind,version,field,ne_eq,not_true_eq_false,
      if_false,pure_eq]
  have sanity : validateSanity (headerFields frame) = .ok () := by
    simp only [validateSanity,if_neg hop,loopback,multicast,Bool.false_eq_true,if_false,pure_eq]
  have rest : slice frame 40 (40 + (headerFields frame).dlen) = frame.drop 40 := by
    rw [dlen,slice,List.take_of_length_le (by omega)]
  simp only [ip6Parser,integrity,header_reads long,sanity,rest,ok_bind,pure_eq]
  rfl

theorem rejected_raises (rejected : ¬Accepted frame) : ∃ e, ip6Parser frame = .error e ∧ e.PacketValidation := by
  have refused (message : String) (failed : validateIntegrity frame = .error (integrityError message)) :
      ∃ e, ip6Parser frame = .error e ∧ e.PacketValidation := 
    ⟨integrityError message,by rw [ip6Parser,failed]; rfl,trivial⟩
  by_cases long : frame.length < 40
  · exact refused _ (by simp only [validateIntegrity,if_pos long]; rfl)
  have first : byteAt frame 0 = .ok (frame[0]?.getD 0).toNat := by
    have here : frame[0]? = some frame[0] := List.getElem?_eq_getElem (by omega)
    simp [byteAt,here]
  by_cases version : (frame[0]?.getD 0).toNat >>> 4 = 6
  case neg => exact refused _ (by
    simp only [validateIntegrity,if_neg long,first,ok_bind,ne_eq,version,not_false_eq_true,if_true]; rfl)
  by_cases dlen : beNat (slice frame 4 6) = frame.length - 40
  case neg => exact refused _ (by
    simp only [validateIntegrity,if_neg long,first,ok_bind,ne_eq,version,not_true_eq_false,if_false,dlen,
      not_false_eq_true,if_true]; rfl)
  have integrity : validateIntegrity frame = .ok () := by
    simp only [validateIntegrity,if_neg long,first,ok_bind,version,dlen,ne_eq,not_true_eq_false,if_false,pure_eq]
  have insane (message : String) (pointer : Nat)
      (failed : validateSanity (headerFields frame) = .error (sanityError message (some pointer))) :
      ∃ e, ip6Parser frame = .error e ∧ e.PacketValidation :=
    ⟨sanityError message (some pointer),by
      simp only [ip6Parser,integrity,header_reads (Nat.not_lt.mp long),ok_bind,failed]; rfl,trivial⟩
  by_cases hop : (headerFields frame).hop = 0
  · exact insane _ _ (by simp only [validateSanity,if_pos hop]; rfl)
  cases loopback : isLoopback (headerFields frame).src with
  | true => exact insane _ _ (by simp only [validateSanity,if_neg hop,loopback,if_true]; rfl)
  | false =>
    cases multicast : isMulticast (headerFields frame).src with
    | true => exact insane _ _ (by
        simp only [validateSanity,if_neg hop,loopback,multicast,Bool.false_eq_true,if_false,if_true]; rfl)
    | false => exact absurd ⟨Nat.not_lt.mp long,version,dlen,hop,loopback,multicast⟩ rejected

theorem ip6Parser_ok_iff : ip6Parser frame = .ok packet ↔ Accepted frame ∧ packet = packetOf frame := by
  constructor
  · intro parsed
    by_cases accepted : Accepted frame
    · rw [accepted_parses accepted] at parsed
      cases parsed
      exact ⟨accepted,rfl⟩
    · obtain ⟨e,failed,_⟩ := rejected_raises accepted
      rw [failed] at parsed
      cases parsed
  · rintro ⟨accepted,same⟩
    rw [same]
    exact accepted_parses accepted

structure Ip6Frag where
  next : Nat
  offset : Nat
  flagMf : Bool
  id : Nat
  payload : List UInt8
deriving Repr,DecidableEq

-- `Ip6FragParser.__init__`
def ip6FragParser (frame : List UInt8) : Py Ip6Frag := do
  if frame.length < 8 then
    throw (integrityError ("[IPv6 Frag] " ++ s!"The condition 'IP6_FRAG__HEADER__LEN <= len(self._frame)' must be met. Got: IP6_FRAG__HEADER__LEN=8, len(self._frame)={frame.length}"))
  let field := beNat (slice frame 2 4)
  let frag : Ip6Frag := {
    next := beNat (slice frame 0 1)
    offset := field &&& 0xFFF8
    flagMf := field &&& 0x0001 ≠ 0
    id := beNat (slice frame 4 8)
    payload := frame.drop 8 }
  pyAssert (isUint 13 (frag.offset >>> 3))
  pyAssert (frag.offset % 8 = 0)
  pyAssert (isUint 32 frag.id)
  if frag.flagMf ∧ frag.payload.length % 8 ≠ 0 then
    throw (sanityError ("[IPv6 Frag] " ++ s!"Non-final fragment payload length must be a multiple of 8. Got: len(self._payload)={frag.payload.length}, self._header.flag_mf=True") none)
  return frag

def fragFields (frame : List UInt8) : Ip6Frag where
  next := beNat (slice frame 0 1)
  offset := beNat (slice frame 2 4) &&& 0xFFF8
  flagMf := beNat (slice frame 2 4) &&& 0x0001 ≠ 0
  id := beNat (slice frame 4 8)
  payload := frame.drop 8

-- Fragments other than the last carry whole units of eight octets.
def Uneven (frag : Ip6Frag) : Prop := frag.flagMf = true ∧ frag.payload.length % 8 ≠ 0

instance (frag : Ip6Frag) : Decidable (Uneven frag) := inferInstanceAs (Decidable (_ ∧ _))

theorem ip6FragParser_ok_iff :
    ip6FragParser frame = .ok frag ↔ 8 ≤ frame.length ∧ ¬Uneven (fragFields frame) ∧ frag = fragFields frame := by
  have width (w start stop : Nat) (wide : 8*(stop-start) ≤ w) := isUint_slice w start stop frame wide
  have units : isUint 13 ((beNat (slice frame 2 4) &&& 0xFFF8) >>> 3) = true := by
    have field : beNat (slice frame 2 4) &&& 0xFFF8 ≤ 0xFFF8 := Nat.and_le_right
    simp only [isUint,decide_eq_true_eq,Nat.shiftRight_eq_div_pow]
    omega
  have aligned : (beNat (slice frame 2 4) &&& 0xFFF8) % 8 = 0 := by
    rw [show 8 = 2^3 from rfl,← Nat.and_two_pow_sub_one_eq_mod,Nat.and_assoc]
    exact Nat.and_zero _
  by_cases short : frame.length < 8
  · have raised : ∃ e, ip6FragParser frame = .error e := ⟨_,by simp only [ip6FragParser,if_pos short]; rfl⟩
    obtain ⟨e,failed⟩ := raised
    rw [failed]
    exact iff_of_false (by simp) (fun accepted => short.not_ge accepted.1)
  have whole : ip6FragParser frame =
      if Uneven (fragFields frame) then
        .error (sanityError ("[IPv6 Frag] " ++ s!"Non-final fragment payload length must be a multiple of 8. Got: len(self._payload)={(frame.drop 8).length}, self._header.flag_mf=True") none)
      else .ok (fragFields frame) := by
    simp only [ip6FragParser,if_neg short,units,aligned,width 32 4 8 (by omega),decide_true,pyAssert_true,ok_bind]
    rfl
  rw [whole]
  split
  · next uneven => exact iff_of_false (by simp) (fun accepted => accepted.2.1 uneven)
  · next even =>
    constructor
    · intro same
      cases same
      exact ⟨by omega,even,rfl⟩
    · rintro ⟨_,_,same⟩
      rw [same]

theorem fragFields_next (frame : List UInt8) (long : 8 ≤ frame.length) : (fragFields frame).next ≤ 255 := by
  have octet := beNat_lt (slice frame 0 1)
  rw [slice_length _ _ _ (by omega)] at octet
  simp only [fragFields]
  omega

end PmdPytcp.Ip6
