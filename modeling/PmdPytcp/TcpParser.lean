import PmdPytcp.Buffer

namespace PmdPytcp.TcpParser
open InetCksum Buffer

def tcpIntegrityError (message : String) : PyError :=
  .packetIntegrity ("[INTEGRITY ERROR]" ++ ("[TCP] " ++ message)) none
def tcpSanityError (message : String) : PyError :=
  .packetSanity ("[SANITY ERROR]" ++ ("[TCP] " ++ message)) none

inductive TcpOption where
  | eol
  | nop
  | mss (mss : Nat)
  | wscale (wscale : Nat)
  | sackperm
  | sack (blocks : List (Nat × Nat))
  | timestamps (tsval tsecr : Nat)
  | fastopen (cookie : List UInt8)
  | accecn0 (ee0b eceb ee1b : Option Nat)
  | accecn1 (ee0b eceb ee1b : Option Nat)
  | unknown (type : Nat) (data : List UInt8)
deriving Repr,DecidableEq

-- The wire length that a truncatable counter list stands for.
def accecnLen (first second third : Option Nat) : Nat :=
  if third.isSome then 11 else if second.isSome then 8 else if first.isSome then 5 else 2

def TcpOption.len : TcpOption → Nat
  | .eol => 1
  | .nop => 1
  | .mss _ => 4
  | .wscale _ => 3
  | .sackperm => 2
  | .sack blocks => 2 + 8*blocks.length
  | .timestamps _ _ => 10
  | .fastopen cookie => 2 + cookie.length
  | .accecn0 ee0b eceb ee1b => accecnLen ee0b eceb ee1b
  | .accecn1 ee0b eceb ee1b => accecnLen ee1b eceb ee0b
  | .unknown _ data => 2 + data.length

def knownTypes : List Nat := [0,1,2,3,4,5,8,34,172,174]

-- Shared opening of every `from_buffer`: a minimum length and the kind byte.
def optionPrefix (minimum kind : Nat) (buffer : List UInt8) : Py Unit := do
  pyAssert (minimum ≤ buffer.length)
  let value ← byteAt buffer 0
  pyAssert (value = kind)

def fitsBuffer (name : String) (buffer : List UInt8) : Py Unit := do
  let value ← byteAt buffer 1
  if value > buffer.length then
    throw (tcpIntegrityError s!"The {name} option length value must be less than or equal to the length of provided bytes ({buffer.length}). Got: {value}")

def exactLen (name : String) (len : Nat) (buffer : List UInt8) : Py Unit := do
  let value ← byteAt buffer 1
  if value ≠ len then
    throw (tcpIntegrityError s!"The {name} option length value must be {len} bytes. Got: {value}")

def eolFromBuffer (buffer : List UInt8) : Py TcpOption := do
  optionPrefix 1 0 buffer
  return .eol

def nopFromBuffer (buffer : List UInt8) : Py TcpOption := do
  optionPrefix 1 1 buffer
  return .nop

def mssFromBuffer (buffer : List UInt8) : Py TcpOption := do
  optionPrefix 2 2 buffer
  exactLen "TCP Mss" 4 buffer
  fitsBuffer "TCP Mss" buffer
  let mss := beNat (slice buffer 2 4)
  pyAssert (isUint 16 mss)
  return .mss mss

def wscaleFromBuffer (buffer : List UInt8) : Py TcpOption := do
  optionPrefix 2 3 buffer
  exactLen "TCP Wscale" 3 buffer
  fitsBuffer "TCP Wscale" buffer
  -- shift counts above 14 are clamped, not rejected
  let wscale := min (← byteAt buffer 2) 14
  pyAssert (isUint 8 wscale)
  pyAssert (wscale ≤ 14)
  return .wscale wscale

def sackpermFromBuffer (buffer : List UInt8) : Py TcpOption := do
  optionPrefix 2 4 buffer
  exactLen "TCP Sackperm" 2 buffer
  return .sackperm

def sackBlock (buffer : List UInt8) (offset : Nat) : Py (Nat × Nat) := do
  let left := beNat (slice buffer offset (offset+4))
  let right := beNat (slice buffer (offset+4) (offset+8))
  pyAssert (isUint 32 left)
  pyAssert (isUint 32 right)
  return (left,right)

def sackFromBuffer (buffer : List UInt8) : Py TcpOption := do
  optionPrefix 2 5 buffer
  fitsBuffer "TCP Sack" buffer
  let value ← byteAt buffer 1
  let blocksLen : Int := value-2
  if blocksLen % 8 ≠ 0 then
    throw (tcpIntegrityError s!"The TCP Sack option blocks length value must be a multiple of 8. Got: {blocksLen}")
  if blocksLen/8 > 4 then
    throw (tcpIntegrityError s!"The TCP Sack option must carry at most 4 blocks. Got: {blocksLen/8}")
  let blocks ← (List.range (blocksLen/8).toNat).mapM (fun i => sackBlock buffer (2+8*i))
  pyAssert (blocks.length ≤ 4)
  return .sack blocks

def timestampsFromBuffer (buffer : List UInt8) : Py TcpOption := do
  optionPrefix 2 8 buffer
  exactLen "TCP Timestamps" 10 buffer
  fitsBuffer "TCP Timestamps" buffer
  if buffer.length < 10 then throw .structError
  let tsval := beNat (slice buffer 2 6)
  let tsecr := beNat (slice buffer 6 10)
  pyAssert (isUint 32 tsval)
  pyAssert (isUint 32 tsecr)
  return .timestamps tsval tsecr

def fastopenFromBuffer (buffer : List UInt8) : Py TcpOption := do
  optionPrefix 2 34 buffer
  let value ← byteAt buffer 1
  if value < 2 then
    throw (tcpIntegrityError s!"The TCP Fast Open option length value must be at least 2 bytes. Got: {value}")
  fitsBuffer "TCP Fast Open" buffer
  let cookieLen := value-2
  if cookieLen ≠ 0 ∧ ¬(4 ≤ cookieLen ∧ cookieLen ≤ 16) then
    throw (tcpIntegrityError s!"The TCP Fast Open option cookie length must be 0 or 4..16 bytes. Got: {cookieLen}")
  let cookie := slice buffer 2 value
  pyAssert (cookie.length = 0 ∨ (4 ≤ cookie.length ∧ cookie.length ≤ 16))
  return .fastopen cookie

-- The three counters of an AccECN option in wire order.
def accecnCounters (name : String) (kind : Nat) (buffer : List UInt8) :
    Py (Option Nat × Option Nat × Option Nat) := do
  optionPrefix 2 kind buffer
  let value ← byteAt buffer 1
  if value ∉ [2,5,8,11] then
    throw (tcpIntegrityError s!"The TCP {name} option length value must be one of [2, 5, 8, 11]. Got: {value}")
  fitsBuffer s!"TCP {name}" buffer
  let first := if 5 ≤ value then some (beNat (slice buffer 2 5)) else none
  let second := if 8 ≤ value then some (beNat (slice buffer 5 8)) else none
  let third := if 11 ≤ value then some (beNat (slice buffer 8 11)) else none
  pyAssert (!third.isSome || (second.isSome && first.isSome))
  pyAssert (!second.isSome || first.isSome)
  pyAssert (first.all (isUint 24))
  pyAssert (second.all (isUint 24))
  pyAssert (third.all (isUint 24))
  return (first,second,third)

def accecn0FromBuffer (buffer : List UInt8) : Py TcpOption := do
  let (ee0b,eceb,ee1b) ← accecnCounters "AccECN0" 172 buffer
  return .accecn0 ee0b eceb ee1b

def accecn1FromBuffer (buffer : List UInt8) : Py TcpOption := do
  let (ee1b,eceb,ee0b) ← accecnCounters "AccECN1" 174 buffer
  return .accecn1 ee0b eceb ee1b

def unknownFromBuffer (buffer : List UInt8) : Py TcpOption := do
  pyAssert (2 ≤ buffer.length)
  let kind ← byteAt buffer 0
  pyAssert (kind ∉ knownTypes)
  let value ← byteAt buffer 1
  if value > buffer.length then
    throw (tcpIntegrityError s!"The unknown TCP option length value must be less than or equal to the length of provided bytes ({buffer.length}). Got: {value}")
  let data := slice buffer 2 value
  pyAssert (isUint 8 (2 + data.length))
  return .unknown kind data

def optionFromBuffer (buffer : List UInt8) : Py TcpOption :=
  match buffer.head? with
  | some 0 => eolFromBuffer buffer
  | some 1 => nopFromBuffer buffer
  | some 2 => mssFromBuffer buffer
  | some 3 => wscaleFromBuffer buffer
  | some 4 => sackpermFromBuffer buffer
  | some 5 => sackFromBuffer buffer
  | some 8 => timestampsFromBuffer buffer
  | some 34 => fastopenFromBuffer buffer
  | some 172 => accecn0FromBuffer buffer
  | some 174 => accecn1FromBuffer buffer
  | _ => unknownFromBuffer buffer

theorem len_pos (option : TcpOption) : 0 < option.len := by
  cases option <;> simp only [TcpOption.len,accecnLen] <;> grind

-- `TcpOptions.from_buffer`, from `offset` on.
def optionsFromBuffer (buffer : List UInt8) (offset : Nat) : Py (List TcpOption) :=
  if _ : offset < buffer.length then
    match optionFromBuffer (buffer.drop offset) with
    | .error e => .error e
    | .ok .eol => .ok [.eol]
    | .ok option =>
      match optionsFromBuffer buffer (offset + option.len) with
      | .error e => .error e
      | .ok rest => .ok (option :: rest)
  else .ok []
termination_by buffer.length - offset
decreasing_by
  have := len_pos option
  omega

-- `TcpOptions.validate_integrity`, from `offset` on.
def validateOptions (frame : List UInt8) (hlen offset : Nat) : Py Unit :=
  if _ : offset < hlen then
    match byteAt frame offset with
    | .error e => .error e
    | .ok 0 => .ok ()
    | .ok 1 => validateOptions frame hlen (offset+1)
    | .ok _ =>
      match byteAt frame (offset+1) with
      | .error e => .error e
      | .ok value =>
        if _ : value < 2 then
          .error (tcpIntegrityError s!"The TCP option length must be greater than 1. Got: {value}.")
        else if hlen < offset + value then
          .error (tcpIntegrityError s!"The TCP option length must not extend past the header length. Got: offset={offset+value}, hlen={hlen}")
        else validateOptions frame hlen (offset + value)
  else .ok ()
termination_by hlen - offset

structure TcpHeader where
  sport : Nat
  dport : Nat
  seq : Nat
  ack : Nat
  hlen : Nat
  flagNs : Bool
  flagCwr : Bool
  flagEce : Bool
  flagUrg : Bool
  flagAck : Bool
  flagPsh : Bool
  flagRst : Bool
  flagSyn : Bool
  flagFin : Bool
  win : Nat
  cksum : Nat
  urg : Nat
deriving Repr,DecidableEq

def headerFromBuffer (buffer : List UInt8) : Py TcpHeader := do
  let fixed := buffer.take 20
  if fixed.length ≠ 20 then throw .structError
  let hlenFlags := beNat (slice fixed 12 14)
  let flag (mask : Nat) : Bool := hlenFlags &&& mask ≠ 0
  let header : TcpHeader := {
    sport := beNat (slice fixed 0 2)
    dport := beNat (slice fixed 2 4)
    seq := beNat (slice fixed 4 8)
    ack := beNat (slice fixed 8 12)
    hlen := (hlenFlags &&& 0xF000) >>> 10
    flagNs := flag 0x100
    flagCwr := flag 0x80
    flagEce := flag 0x40
    flagUrg := flag 0x20
    flagAck := flag 0x10
    flagPsh := flag 0x08
    flagRst := flag 0x04
    flagSyn := flag 0x02
    flagFin := flag 0x01
    win := beNat (slice fixed 14 16)
    cksum := beNat (slice fixed 16 18)
    urg := beNat (slice fixed 18 20) }
  pyAssert (isUint 16 header.sport)
  pyAssert (isUint 16 header.dport)
  pyAssert (isUint 32 header.seq)
  pyAssert (isUint 32 header.ack)
  pyAssert (isUint 6 header.hlen)
  pyAssert (header.hlen % 4 = 0)
  pyAssert (isUint 16 header.win)
  pyAssert (isUint 16 header.cksum)
  pyAssert (isUint 16 header.urg)
  return header

structure TcpPacket where
  header : TcpHeader
  options : List TcpOption
  payload : List UInt8
deriving Repr,DecidableEq

def headerLen (frame : List UInt8) : Py Nat := do
  return ((← byteAt frame 12) &&& 0xF0) >>> 2

def validateIntegrity (frame : List UInt8) (payloadLen pshdrSum : Nat) (validateChecksum : Bool) :
    Py Unit := do
  if ¬(20 ≤ payloadLen ∧ payloadLen ≤ frame.length) then
    throw (tcpIntegrityError s!"The condition 'TCP__HEADER__LEN <= self._ip__payload_len <= len(self._frame)' must be met. Got: TCP__HEADER__LEN=20, self._ip__payload_len={payloadLen}, len(self._frame)={frame.length}")
  let hlen ← headerLen frame
  if ¬(20 ≤ hlen ∧ hlen ≤ payloadLen ∧ payloadLen ≤ frame.length) then
    throw (tcpIntegrityError s!"The condition 'TCP__HEADER__LEN <= hlen <= self._ip__payload_len <= len(self._frame)' must be met. Got: TCP__HEADER__LEN=20, hlen={hlen}, self._ip__payload_len={payloadLen}, len(self._frame)={frame.length}")
  if validateChecksum ∧ inetCksum [frame.take payloadLen] pshdrSum ≠ 0 then
    throw (tcpIntegrityError "The packet checksum must be valid.")
  validateOptions frame hlen 20

def parsePacket (frame : List UInt8) (payloadLen : Nat) : Py TcpPacket := do
  let header ← headerFromBuffer frame
  let options ← optionsFromBuffer (slice frame 20 header.hlen) 0
  return ⟨header,options,slice frame header.hlen payloadLen⟩

def validateSanity (header : TcpHeader) : Py Unit := do
  if header.sport = 0 then
    throw (tcpSanityError s!"The 'sport' field must be greater than 0. Got: {header.sport}")
  if header.dport = 0 then
    throw (tcpSanityError s!"The 'dport' field must be greater than 0. Got: {header.dport}")
  if header.flagSyn ∧ header.flagFin then
    throw (tcpSanityError "The 'flag_syn' and 'flag_fin' must not be set simultaneously.")
  if header.flagSyn ∧ header.flagRst then
    throw (tcpSanityError "The 'flag_syn' and 'flag_rst' must not be set simultaneously.")
  if header.flagFin ∧ header.flagRst then
    throw (tcpSanityError "The 'flag_fin' and 'flag_rst' must not be set simultaneously.")
  if header.flagFin ∧ ¬header.flagAck then
    throw (tcpSanityError "The 'flag_ack' must be set when 'flag_fin' is set.")

-- `TcpParser.__init__`. The IP layer supplies the payload length and the
-- pseudo-header sum; the remaining frame is the packet's payload.
def tcpParser (frame : List UInt8) (payloadLen pshdrSum : Nat) (validateChecksum : Bool) :
    Py TcpPacket := do
  validateIntegrity frame payloadLen pshdrSum validateChecksum
  let packet ← parsePacket frame payloadLen
  validateSanity packet.header
  return packet

-- Past the walk an option either reads, with its own wire length, or is
-- rejected as malformed.
def Reads (result : Py TcpOption) (len : Nat) : Prop :=
  (∃ option, result = .ok option ∧ option.len = len ∧ option ≠ .eol) ∨
    ∃ message, result = .error (tcpIntegrityError message)

section Options
variable {k l : UInt8} {rest : List UInt8}

@[simp] theorem byteAt_one : byteAt (k :: l :: rest) 1 = .ok l.toNat := rfl

theorem exactLen_eq (name : String) (len : Nat) :
    exactLen name len (k :: l :: rest) = if l.toNat = len then .ok () else
      .error (tcpIntegrityError s!"The {name} option length value must be {len} bytes. Got: {l.toNat}") := by
  by_cases same : l.toNat = len <;> simp [exactLen,same]

theorem fitsBuffer_eq (name : String) (fits : l.toNat ≤ (k :: l :: rest).length) :
    fitsBuffer name (k :: l :: rest) = .ok () := by
  simp [fitsBuffer] at fits ⊢
  omega

theorem optionPrefix_eq : optionPrefix 2 k.toNat (k :: l :: rest) = .ok () := by
  simp [optionPrefix,byteAt]

theorem mss_reads (fits : l.toNat ≤ (2 :: l :: rest).length) :
    Reads (mssFromBuffer (2 :: l :: rest)) l.toNat := by
  have opened : optionPrefix 2 2 (2 :: l :: rest) = .ok () := optionPrefix_eq
  have width := isUint_slice 16 2 4 (2 :: l :: rest) (by omega)
  simp only [mssFromBuffer,opened,exactLen_eq,fitsBuffer_eq _ fits,width]
  by_cases exact : l.toNat = 4
  · exact .inl ⟨.mss (beNat (slice (2 :: l :: rest) 2 4)),by simp [exact],exact.symm,by simp⟩
  · exact .inr ⟨_,by simp only [if_neg exact]; rfl⟩

theorem wscale_reads (fits : l.toNat ≤ (3 :: l :: rest).length) :
    Reads (wscaleFromBuffer (3 :: l :: rest)) l.toNat := by
  have opened : optionPrefix 2 3 (3 :: l :: rest) = .ok () := optionPrefix_eq
  simp only [wscaleFromBuffer,opened,exactLen_eq,fitsBuffer_eq _ fits]
  by_cases exact : l.toNat = 3
  · cases rest with
    | nil => simp [exact] at fits
    | cons shift rest =>
      have clamped : isUint 8 (min shift.toNat 14) = true := by simp [isUint]
      exact .inl ⟨.wscale (min shift.toNat 14),by simp [exact,byteAt,clamped],exact.symm,by simp⟩
  · exact .inr ⟨_,by simp only [if_neg exact]; rfl⟩

theorem sackperm_reads : Reads (sackpermFromBuffer (4 :: l :: rest)) l.toNat := by
  have opened : optionPrefix 2 4 (4 :: l :: rest) = .ok () := optionPrefix_eq
  simp only [sackpermFromBuffer,opened,exactLen_eq]
  by_cases exact : l.toNat = 2
  · exact .inl ⟨.sackperm,by simp [exact],exact.symm,by simp⟩
  · exact .inr ⟨_,by simp only [if_neg exact]; rfl⟩

theorem sackBlock_ok (buffer : List UInt8) (offset : Nat) :
    sackBlock buffer offset = .ok (beNat (slice buffer offset (offset+4)),
      beNat (slice buffer (offset+4) (offset+8))) := by
  have left := isUint_slice 32 offset (offset+4) buffer (by omega)
  have right := isUint_slice 32 (offset+4) (offset+8) buffer (by omega)
  simp [sackBlock,left,right]

theorem sack_reads (long : 2 ≤ l.toNat) (fits : l.toNat ≤ (5 :: l :: rest).length) :
    Reads (sackFromBuffer (5 :: l :: rest)) l.toNat := by
  have opened : optionPrefix 2 5 (5 :: l :: rest) = .ok () := optionPrefix_eq
  simp only [sackFromBuffer,opened,fitsBuffer_eq _ fits,byteAt_one,ok_bind,sackBlock_ok,mapM_ok]
  by_cases whole : ((l.toNat : Int)-2) % 8 = 0
  · by_cases few : ((l.toNat : Int)-2)/8 > 4
    · right
      simp only [whole,few,ne_eq,not_true_eq_false,if_false,if_true]
      exact ⟨_,rfl⟩
    · left
      have limit : (((l.toNat : Int)-2)/8).toNat ≤ 4 := by omega
      simp only [whole,few,ne_eq,not_true_eq_false,if_false,List.length_map,List.length_range,
        limit,decide_true,pyAssert_true,ok_bind,pure_eq]
      refine ⟨_,rfl,?_,by simp⟩
      simp [TcpOption.len]
      omega
  · right
    simp only [whole,ne_eq,not_false_eq_true,if_true]
    exact ⟨_,rfl⟩

theorem timestamps_reads (fits : l.toNat ≤ (8 :: l :: rest).length) :
    Reads (timestampsFromBuffer (8 :: l :: rest)) l.toNat := by
  have opened : optionPrefix 2 8 (8 :: l :: rest) = .ok () := optionPrefix_eq
  have tsval := isUint_slice 32 2 6 (8 :: l :: rest) (by omega)
  have tsecr := isUint_slice 32 6 10 (8 :: l :: rest) (by omega)
  simp only [timestampsFromBuffer,opened,exactLen_eq,fitsBuffer_eq _ fits,tsval,tsecr]
  by_cases exact : l.toNat = 10
  · have present : ¬(8 :: l :: rest).length < 10 := by omega
    left
    simp only [exact,present,if_true,if_false,ok_bind,pyAssert_true,pure_eq]
    exact ⟨_,rfl,rfl,by simp⟩
  · exact .inr ⟨_,by simp only [if_neg exact]; rfl⟩

theorem fastopen_reads (long : 2 ≤ l.toNat) (fits : l.toNat ≤ (34 :: l :: rest).length) :
    Reads (fastopenFromBuffer (34 :: l :: rest)) l.toNat := by
  have opened : optionPrefix 2 34 (34 :: l :: rest) = .ok () := optionPrefix_eq
  have enough : ¬l.toNat < 2 := by omega
  simp only [fastopenFromBuffer,opened,fitsBuffer_eq _ fits,byteAt_one,ok_bind,enough,if_false,
    slice_length _ 2 _ fits]
  by_cases malformed : l.toNat-2 ≠ 0 ∧ ¬(4 ≤ l.toNat-2 ∧ l.toNat-2 ≤ 16)
  · right
    simp only [if_pos malformed]
    exact ⟨_,rfl⟩
  · left
    have legal : l.toNat-2 = 0 ∨ (4 ≤ l.toNat-2 ∧ l.toNat-2 ≤ 16) := by omega
    simp only [if_neg malformed,legal,decide_true,pyAssert_true,ok_bind,pure_eq]
    refine ⟨_,rfl,?_,by simp⟩
    simp only [TcpOption.len,slice_length _ 2 _ fits]
    omega

theorem accecn_reads (name : String)
    (fits : l.toNat ≤ (k :: l :: rest).length) :
    (∃ first second third, accecnCounters name k.toNat (k :: l :: rest) = .ok (first,second,third) ∧
      accecnLen first second third = l.toNat) ∨
    ∃ message, accecnCounters name k.toNat (k :: l :: rest) = .error (tcpIntegrityError message) := by
  have one := isUint_slice 24 2 5 (k :: l :: rest) (by omega)
  have two := isUint_slice 24 5 8 (k :: l :: rest) (by omega)
  have three := isUint_slice 24 8 11 (k :: l :: rest) (by omega)
  simp only [accecnCounters,optionPrefix_eq,fitsBuffer_eq _ fits,byteAt_one,ok_bind]
  by_cases known : l.toNat ∈ [2,5,8,11]
  · left
    simp only [List.mem_cons,List.not_mem_nil,or_false] at known
    rcases known with same | same | same | same
    · exact ⟨none,none,none,by simp [same],by simp [accecnLen,same]⟩
    · exact ⟨some (beNat (slice (k :: l :: rest) 2 5)),none,none,
        by simp [same,one],by simp [accecnLen,same]⟩
    · exact ⟨some (beNat (slice (k :: l :: rest) 2 5)),some (beNat (slice (k :: l :: rest) 5 8)),none,
        by simp [same,one,two],by simp [accecnLen,same]⟩
    · exact ⟨some (beNat (slice (k :: l :: rest) 2 5)),some (beNat (slice (k :: l :: rest) 5 8)),
        some (beNat (slice (k :: l :: rest) 8 11)),by simp [same,one,two,three],by simp [accecnLen,same]⟩
  · right
    simp only [if_pos known]
    exact ⟨_,rfl⟩

theorem accecn0_reads (fits : l.toNat ≤ (172 :: l :: rest).length) :
    Reads (accecn0FromBuffer (172 :: l :: rest)) l.toNat := by
  rcases accecn_reads "AccECN0" fits with ⟨first,second,third,read,len⟩ | ⟨message,failed⟩
  · exact .inl ⟨.accecn0 first second third,by simp only [accecn0FromBuffer]; exact congrArg (· >>= _) read,
      len,by simp⟩
  · exact .inr ⟨message,by simp only [accecn0FromBuffer]; exact congrArg (· >>= _) failed⟩

theorem accecn1_reads (fits : l.toNat ≤ (174 :: l :: rest).length) :
    Reads (accecn1FromBuffer (174 :: l :: rest)) l.toNat := by
  rcases accecn_reads "AccECN1" fits with ⟨first,second,third,read,len⟩ | ⟨message,failed⟩
  · exact .inl ⟨.accecn1 third second first,by simp only [accecn1FromBuffer]; exact congrArg (· >>= _) read,
      len,by simp⟩
  · exact .inr ⟨message,by simp only [accecn1FromBuffer]; exact congrArg (· >>= _) failed⟩

theorem unknown_reads (new : k.toNat ∉ knownTypes) (long : 2 ≤ l.toNat)
    (fits : l.toNat ≤ (k :: l :: rest).length) :
    Reads (unknownFromBuffer (k :: l :: rest)) l.toNat := by
  have byte := l.toNat_lt
  have size := slice_length (k :: l :: rest) 2 l.toNat fits
  have width : isUint 8 (2 + (l.toNat-2)) = true := by
    simp only [isUint,decide_eq_true_eq]
    omega
  left
  simp only [unknownFromBuffer,byteAt_one,ok_bind,Nat.not_lt.mpr fits,size,width]
  refine ⟨.unknown k.toNat (slice (k :: l :: rest) 2 l.toNat),?_,?_,by simp⟩
  · simp [byteAt,new]
  · simp only [TcpOption.len,size]
    omega

theorem option_reads (notEol : k ≠ 0) (notNop : k ≠ 1) (long : 2 ≤ l.toNat)
    (fits : l.toNat ≤ (k :: l :: rest).length) :
    Reads (optionFromBuffer (k :: l :: rest)) l.toNat := by
  unfold optionFromBuffer
  split
  case h_1 same => simp_all
  case h_2 same => simp_all
  case h_3 same => cases Option.some.inj same; exact mss_reads fits
  case h_4 same => cases Option.some.inj same; exact wscale_reads fits
  case h_5 same => cases Option.some.inj same; exact sackperm_reads
  case h_6 same => cases Option.some.inj same; exact sack_reads long fits
  case h_7 same => cases Option.some.inj same; exact timestamps_reads fits
  case h_8 same => cases Option.some.inj same; exact fastopen_reads long fits
  case h_9 same => cases Option.some.inj same; exact accecn0_reads fits
  case h_10 same => cases Option.some.inj same; exact accecn1_reads fits
  case h_11 =>
    apply unknown_reads _ long fits
    simp_all [knownTypes,← UInt8.toNat_inj]

end Options

-- What the walk over the kind and length bytes accepts.
inductive WalkOk : List UInt8 → Prop where
  | nil : WalkOk []
  | eol : WalkOk (0 :: rest)
  | nop : WalkOk rest → WalkOk (1 :: rest)
  | tlv : k ≠ 0 → k ≠ 1 → 2 ≤ l.toNat → l.toNat ≤ (k :: l :: rest).length →
      WalkOk ((k :: l :: rest).drop l.toNat) → WalkOk (k :: l :: rest)

-- A kind byte other than EOL and NOP in the last octet of the option region.
def lastKindOpen : List UInt8 → Bool
  | [] => false
  | [k] => k != 0 && k != 1
  | k :: l :: rest =>
    if k = 0 then false
    else if k = 1 then lastKindOpen (l :: rest)
    else if l.toNat < 2 || (k :: l :: rest).length < l.toNat then false
    else lastKindOpen (rest.drop (l.toNat-2))
termination_by region => region.length
decreasing_by
  · simp
  · simp; omega

theorem region_cons (frame : List UInt8) (hlen offset : Nat) (inside : offset < hlen)
    (covered : hlen ≤ frame.length) :
    ∃ k, frame[offset]? = some k ∧
      slice frame offset hlen = k :: slice frame (offset+1) hlen := by
  have short : offset < (frame.take hlen).length := by simp; omega
  refine ⟨frame[offset],List.getElem?_eq_getElem (by omega),?_⟩
  rw [slice,List.drop_eq_getElem_cons short]
  simp [slice]

theorem slice_drop (frame : List UInt8) (hlen offset n : Nat) :
    slice frame (offset+n) hlen = (slice frame offset hlen).drop n := by
  simp [slice,List.drop_drop]

theorem slice_empty (frame : List UInt8) (past : hlen ≤ offset) : slice frame offset hlen = [] := by
  simp only [slice]
  exact List.drop_of_length_le (by simp; omega)

theorem lastKindOpen_nop (rest : List UInt8) : lastKindOpen (1 :: rest) = lastKindOpen rest := by
  cases rest with
  | nil => simp [lastKindOpen]
  | cons l rest => simp [lastKindOpen]

theorem lastKindOpen_eol (rest : List UInt8) : lastKindOpen (0 :: rest) = false := by
  cases rest <;> simp [lastKindOpen]

theorem lastKindOpen_tlv (notEol : k ≠ 0) (notNop : k ≠ 1) (long : 2 ≤ l.toNat)
    (fits : l.toNat ≤ (k :: l :: rest).length) :
    lastKindOpen (k :: l :: rest) = lastKindOpen ((k :: l :: rest).drop l.toNat) := by
  obtain ⟨n,size⟩ : ∃ n, l.toNat = n+2 := ⟨l.toNat-2,by omega⟩
  rw [lastKindOpen]
  simp only [List.length_cons] at fits
  simp [notEol,notNop,size]
  omega

-- The outcome of the walk on the part of the header it has not seen.
def WalkOutcome (result : Py Unit) (frame : List UInt8) (hlen offset : Nat) : Prop :=
  if hlen = frame.length ∧ lastKindOpen (slice frame offset hlen) then result = .error .indexError
  else (result = .ok () ∧ WalkOk (slice frame offset hlen)) ∨
    ∃ message, result = .error (tcpIntegrityError message)

theorem lastKindOpen_malformed (notEol : k ≠ 0) (notNop : k ≠ 1)
    (bad : l.toNat < 2 ∨ (k :: l :: rest).length < l.toNat) :
    lastKindOpen (k :: l :: rest) = false := by
  have refused : (decide (l.toNat < 2) || decide ((k :: l :: rest).length < l.toNat)) = true := by
    rw [Bool.or_eq_true,decide_eq_true_iff,decide_eq_true_iff]
    exact bad
  rw [lastKindOpen,if_neg notEol,if_neg notNop,if_pos refused]

-- The two bytes the walk looks at, as they lie in the header region. The
-- length byte may be the first octet of the payload instead.
theorem tlv_region (inside : offset < hlen) (covered : hlen ≤ frame.length)
    (kind : byteAt frame offset = .ok a) (notEol : a = 0 → False) (notNop : a = 1 → False) :
    ∃ k : UInt8, k ≠ 0 ∧ k ≠ 1 ∧
      ((offset+1 = hlen ∧ slice frame offset hlen = [k]) ∨
        ∃ l rest, byteAt frame (offset+1) = .ok l.toNat ∧ slice frame offset hlen = k :: l :: rest ∧
          (k :: l :: rest).length = hlen-offset) := by
  obtain ⟨k,here,region⟩ := region_cons frame hlen offset inside covered
  have value : k.toNat = a := by simpa [byteAt,here] using kind
  refine ⟨k,fun zero => notEol (by rw [← value,zero]; rfl),
    fun one => notNop (by rw [← value,one]; rfl),?_⟩
  by_cases last : offset+1 = hlen
  · exact .inl ⟨last,by rw [region,slice_empty frame (by omega)]⟩
  · obtain ⟨l,next,tail⟩ := region_cons frame hlen (offset+1) (by omega) covered
    rw [tail] at region
    have size := slice_length frame offset hlen covered
    rw [region] at size
    exact .inr ⟨l,_,by simp [byteAt,next],region,size⟩

theorem walk_outcome (frame : List UInt8) (hlen offset : Nat) (covered : hlen ≤ frame.length) :
    WalkOutcome (validateOptions frame hlen offset) frame hlen offset := by
  fun_induction validateOptions frame hlen offset with
  | case1 offset inside e failed =>
    obtain ⟨k,here,_⟩ := region_cons frame hlen offset inside covered
    simp [byteAt,here] at failed
  | case2 offset inside eol =>
    obtain ⟨k,here,region⟩ := region_cons frame hlen offset inside covered
    have zero : k = 0 := by simpa [byteAt,here,← UInt8.toNat_inj] using eol
    subst zero
    rw [WalkOutcome,region,lastKindOpen_eol,if_neg (by simp)]
    exact .inl ⟨rfl,.eol⟩
  | case3 offset inside nop ih =>
    obtain ⟨k,here,region⟩ := region_cons frame hlen offset inside covered
    have one : k = 1 := by simpa [byteAt,here,← UInt8.toNat_inj] using nop
    subst one
    rw [WalkOutcome] at ih ⊢
    rw [region,lastKindOpen_nop]
    split
    · next opened => rwa [if_pos opened] at ih
    · next closed =>
      rw [if_neg closed] at ih
      exact ih.imp_left (fun ok => ⟨ok.1,.nop ok.2⟩)
  | case4 offset inside a notEol notNop kind e failed =>
    obtain ⟨k,notZero,notOne,⟨last,region⟩ | ⟨l,rest,next,region,_⟩⟩ :=
      tlv_region inside covered kind notEol notNop
    · have ended : hlen = frame.length := by
        by_contra longer
        simp [byteAt,List.getElem?_eq_getElem (show offset+1 < frame.length by omega)] at failed
      have raised : e = .indexError := by
        simpa [byteAt,show offset+1 = frame.length by omega] using failed.symm
      rw [WalkOutcome,region,if_pos ⟨ended,by simp [lastKindOpen,notZero,notOne]⟩,raised]
    · simp [next] at failed
  | case5 offset inside a notEol notNop kind value length short =>
    obtain ⟨k,notZero,notOne,⟨last,region⟩ | ⟨l,rest,next,region,_⟩⟩ :=
      tlv_region inside covered kind notEol notNop
    · rw [WalkOutcome,if_neg]
      · exact .inr ⟨_,rfl⟩
      · rintro ⟨ended,_⟩
        simp [byteAt,show offset+1 = frame.length by omega] at length
    · have same : l.toNat = value := by simpa [next] using length
      rw [WalkOutcome,region,lastKindOpen_malformed notZero notOne (.inl (by omega)),if_neg (by simp)]
      exact .inr ⟨_,rfl⟩
  | case6 offset inside a notEol notNop kind value length long past =>
    obtain ⟨k,notZero,notOne,⟨last,region⟩ | ⟨l,rest,next,region,size⟩⟩ :=
      tlv_region inside covered kind notEol notNop
    · rw [WalkOutcome,if_neg]
      · exact .inr ⟨_,rfl⟩
      · rintro ⟨ended,_⟩
        simp [byteAt,show offset+1 = frame.length by omega] at length
    · have same : l.toNat = value := by simpa [next] using length
      rw [WalkOutcome,region,lastKindOpen_malformed notZero notOne (.inr (by omega)),if_neg (by simp)]
      exact .inr ⟨_,rfl⟩
  | case7 offset inside a notEol notNop kind value length long within ih =>
    obtain ⟨k,notZero,notOne,⟨last,region⟩ | ⟨l,rest,next,region,size⟩⟩ :=
      tlv_region inside covered kind notEol notNop
    · omega
    · have same : l.toNat = value := by simpa [next] using length
      subst same
      have fits : l.toNat ≤ (k :: l :: rest).length := by omega
      rw [WalkOutcome,slice_drop,region] at ih
      rw [WalkOutcome,region,lastKindOpen_tlv notZero notOne (by omega) fits]
      split
      · next opened => rwa [if_pos opened] at ih
      · next closed =>
        rw [if_neg closed] at ih
        exact ih.imp_left (fun ok => ⟨ok.1,.tlv notZero notOne (by omega) fits ok.2⟩)
  | case8 offset outside =>
    rw [WalkOutcome,slice_empty frame (by omega),if_neg (by simp [lastKindOpen])]
    exact .inl ⟨rfl,.nil⟩

theorem options_read (buffer : List UInt8) (offset : Nat) (accepted : WalkOk (buffer.drop offset)) :
    (∃ options, optionsFromBuffer buffer offset = .ok options) ∨
      ∃ message, optionsFromBuffer buffer offset = .error (tcpIntegrityError message) := by
  generalize here : buffer.drop offset = region at accepted
  induction accepted generalizing offset with
  | nil =>
    have past : ¬offset < buffer.length := by
      intro inside
      have := congrArg List.length here
      simp at this
      omega
    left
    rw [optionsFromBuffer,dif_neg past]
    exact ⟨[],rfl⟩
  | @eol rest =>
    have inside : offset < buffer.length := by
      have := congrArg List.length here
      simp at this
      omega
    left
    rw [optionsFromBuffer,dif_pos inside,here]
    exact ⟨[.eol],rfl⟩
  | @nop rest _ ih =>
    have inside : offset < buffer.length := by
      have := congrArg List.length here
      simp at this
      omega
    have next : buffer.drop (offset+1) = rest := by
      rw [← List.drop_drop,here]
      rfl
    rw [optionsFromBuffer,dif_pos inside,here]
    have read : optionFromBuffer (1 :: rest) = .ok .nop := rfl
    rw [read]
    rcases ih (offset+1) next with ⟨options,ok⟩ | ⟨message,failed⟩
    · exact .inl ⟨.nop :: options,by simp [TcpOption.len,ok]⟩
    · exact .inr ⟨message,by simp [TcpOption.len,failed]⟩
  | @tlv k l rest notEol notNop long fits _ ih =>
    have inside : offset < buffer.length := by
      have := congrArg List.length here
      simp at this
      omega
    have next : buffer.drop (offset+l.toNat) = (k :: l :: rest).drop l.toNat := by
      rw [← List.drop_drop,here]
    rw [optionsFromBuffer,dif_pos inside,here]
    rcases option_reads notEol notNop long fits with ⟨option,read,len,notEnd⟩ | ⟨message,failed⟩
    · rw [read]
      rcases ih (offset+l.toNat) next with ⟨options,ok⟩ | ⟨message,failed⟩
      · exact .inl ⟨option :: options,by cases option <;> simp_all⟩
      · exact .inr ⟨message,by cases option <;> simp_all⟩
    · exact .inr ⟨message,by rw [failed]⟩

theorem hlen_eq (a b : UInt8) :
    ((beNat [a,b]) &&& 0xF000) >>> 10 = (a.toNat &&& 0xF0) >>> 2 := by
  have byte := b.toNat_lt
  have quotient : (a.toNat*256 + b.toNat) >>> 10 = a.toNat >>> 2 := by
    simp only [Nat.shiftRight_eq_div_pow]
    omega
  have value : beNat [a,b] = a.toNat*256 + b.toNat := by simp [beNat]
  rw [value,Nat.shiftRight_and_distrib,Nat.shiftRight_and_distrib,quotient]
  rfl

theorem hlen_legal (a : UInt8) :
    isUint 6 ((a.toNat &&& 0xF0) >>> 2) = true ∧ ((a.toNat &&& 0xF0) >>> 2) % 4 = 0 := by
  have every : ∀ n < 256, isUint 6 ((n &&& 0xF0) >>> 2) = true ∧ ((n &&& 0xF0) >>> 2) % 4 = 0 := by
    decide +kernel
  exact every a.toNat a.toNat_lt

theorem header_reads (frame : List UInt8) (long : 20 ≤ frame.length) (hlen : Nat)
    (announced : headerLen frame = .ok hlen) :
    ∃ header, headerFromBuffer frame = .ok header ∧ header.hlen = hlen := by
  have whole : (frame.take 20).length = 20 := by simp [Nat.min_eq_left long]
  have pair : slice (frame.take 20) 12 14 = [frame[12],frame[13]] := by
    obtain ⟨a,first,tail⟩ := region_cons (frame.take 20) 14 12 (by omega) (by omega)
    obtain ⟨b,second,rest⟩ := region_cons (frame.take 20) 14 13 (by omega) (by omega)
    rw [tail,rest,slice_empty _ (by omega)]
    simp [List.getElem?_eq_getElem (show 12 < frame.length by omega)] at first
    simp [List.getElem?_eq_getElem (show 13 < frame.length by omega)] at second
    rw [first,second]
  have value : (frame[12].toNat &&& 0xF0) >>> 2 = hlen := by
    simpa [headerLen,byteAt,List.getElem?_eq_getElem (show 12 < frame.length by omega)] using announced
  obtain ⟨six,aligned⟩ := hlen_legal frame[12]
  have width (w start stop : Nat) (wide : 8*(stop-start) ≤ w) :=
    isUint_slice w start stop (frame.take 20) wide
  simp only [headerFromBuffer,whole,pair,hlen_eq,ne_eq,not_true_eq_false,if_false,
    width 16 0 2 (by omega),width 16 2 4 (by omega),width 32 4 8 (by omega),width 32 8 12 (by omega),
    width 16 14 16 (by omega),width 16 16 18 (by omega),width 16 18 20 (by omega),six,aligned,
    decide_true,pyAssert_true,ok_bind,pure_eq]
  exact ⟨_,rfl,value⟩

-- A segment without payload whose last header octet opens an option, and
-- which nothing rejects before the walk gets there.
def TruncatedAtFrameEnd (frame : List UInt8) (payloadLen pshdrSum : Nat) (validateChecksum : Bool) :
    Prop :=
  ∃ offset, frame[12]? = some offset ∧
    let hlen := (offset.toNat &&& 0xF0) >>> 2
    20 ≤ hlen ∧ hlen = payloadLen ∧ payloadLen = frame.length ∧
      (validateChecksum = true → inetCksum [frame] pshdrSum = 0) ∧
      lastKindOpen (slice frame 20 hlen) = true

theorem settled_integrity (message : String) :
    Settled (.error (tcpIntegrityError message) : Py α) := .inr ⟨_,rfl,trivial⟩

theorem sanity_settled (header : TcpHeader) : Settled (validateSanity header) := by
  have rejected (message : String) : Settled (.error (tcpSanityError message) : Py Unit) :=
    .inr ⟨_,rfl,trivial⟩
  unfold validateSanity
  repeat' split
  all_goals first | exact rejected _ | exact .inl ⟨(),rfl⟩

theorem tcpParser_integrity (failed : validateIntegrity frame payloadLen pshdrSum check = .error e) :
    tcpParser frame payloadLen pshdrSum check = .error e := by
  simp [tcpParser,failed]

theorem parsed_settled (frame : List UInt8) (long : 20 ≤ frame.length) (hlen payloadLen : Nat)
    (announced : headerLen frame = .ok hlen)
    (passed : validateIntegrity frame payloadLen pshdrSum check = .ok ())
    (accepted : WalkOk (slice frame 20 hlen)) :
    Settled (tcpParser frame payloadLen pshdrSum check) := by
  obtain ⟨header,read,same⟩ := header_reads frame long hlen announced
  have region : WalkOk ((slice frame 20 header.hlen).drop 0) := by simpa [same] using accepted
  simp only [tcpParser,passed,ok_bind,parsePacket,read]
  rcases options_read _ 0 region with ⟨options,ok⟩ | ⟨message,failed⟩
  · simp only [ok,ok_bind,pure_eq]
    rcases sanity_settled header with ⟨_,sane⟩ | ⟨e,raised,valid⟩
    · exact .inl ⟨_,by rw [sane]; rfl⟩
    · exact .inr ⟨e,by rw [raised]; rfl,valid⟩
  · simp only [failed,error_bind]
    exact settled_integrity message

-- Parsing ends in a packet or a validation error on every input but these.
theorem parser_settles_iff (frame : List UInt8) (payloadLen pshdrSum : Nat) (validateChecksum : Bool) :
    ((∃ packet, tcpParser frame payloadLen pshdrSum validateChecksum = .ok packet) ∨
      ∃ e, tcpParser frame payloadLen pshdrSum validateChecksum = .error e ∧ e.PacketValidation) ↔
    ¬TruncatedAtFrameEnd frame payloadLen pshdrSum validateChecksum := by
  change Settled _ ↔ _
  by_cases sized : 20 ≤ payloadLen ∧ payloadLen ≤ frame.length
  case neg =>
    refine iff_of_true ?_ ?_
    · rw [tcpParser_integrity (by simp only [validateIntegrity,if_pos sized]; rfl)]
      exact settled_integrity _
    · rintro ⟨offset,_,enough,same,whole,_⟩
      exact sized ⟨by omega,by omega⟩
  have twelve : frame[12]? = some frame[12] := List.getElem?_eq_getElem (by omega)
  have announced : headerLen frame = .ok ((frame[12].toNat &&& 0xF0) >>> 2) := by
    simp [headerLen,byteAt,twelve]
  generalize length : (frame[12].toNat &&& 0xF0) >>> 2 = hlen at announced
  by_cases fits : 20 ≤ hlen ∧ hlen ≤ payloadLen ∧ payloadLen ≤ frame.length
  case neg =>
    refine iff_of_true ?_ ?_
    · rw [tcpParser_integrity (by
        simp only [validateIntegrity,not_not.mpr sized,announced,ok_bind,if_pos fits,if_false]; rfl)]
      exact settled_integrity _
    · rintro ⟨offset,here,enough,same,whole,_⟩
      cases Option.some.inj (twelve.symm.trans here)
      exact fits ⟨by omega,by omega,by omega⟩
  by_cases corrupt : validateChecksum = true ∧ inetCksum [frame.take payloadLen] pshdrSum ≠ 0
  case pos =>
    refine iff_of_true ?_ ?_
    · rw [tcpParser_integrity (by
        simp only [validateIntegrity,not_not.mpr sized,announced,ok_bind,not_not.mpr fits,if_false,
          if_pos corrupt]; rfl)]
      exact settled_integrity _
    · rintro ⟨_,_,_,_,whole,valid,_⟩
      exact corrupt.2 (by rw [whole,List.take_length]; exact valid corrupt.1)
  have walked : validateIntegrity frame payloadLen pshdrSum validateChecksum =
      validateOptions frame hlen 20 := by
    simp only [validateIntegrity,not_not.mpr sized,announced,ok_bind,not_not.mpr fits,if_false,
      if_neg corrupt]
  have outcome := walk_outcome frame hlen 20 (by omega)
  by_cases truncated : hlen = frame.length ∧ lastKindOpen (slice frame 20 hlen)
  case pos =>
    rw [WalkOutcome,if_pos truncated] at outcome
    refine iff_of_false ?_ (not_not.mpr ?_)
    · rw [tcpParser_integrity (walked.trans outcome)]
      rintro (⟨_,impossible⟩ | ⟨e,same,valid⟩)
      · cases impossible
      · cases same; exact valid
    · refine ⟨frame[12],twelve,?_⟩
      rw [length]
      refine ⟨fits.1,by omega,by omega,?_,truncated.2⟩
      intro on
      by_contra wrong
      exact corrupt ⟨on,by rwa [List.take_of_length_le (by omega)]⟩
  case neg =>
    rw [WalkOutcome,if_neg truncated] at outcome
    refine iff_of_true ?_ ?_
    · rcases outcome with ⟨ok,accepted⟩ | ⟨message,failed⟩
      · exact parsed_settled frame (by omega) hlen payloadLen announced (walked.trans ok) accepted
      · rw [tcpParser_integrity (walked.trans failed)]
        exact settled_integrity message
    · rintro ⟨offset,here,enough,same,whole,_,opened⟩
      cases Option.some.inj (twelve.symm.trans here)
      rw [length] at same opened
      exact truncated ⟨by omega,opened⟩

-- 10.0.0.1 to 10.0.0.2, ports 1 and 2, data offset 6, valid checksum, options
-- `01 01 01 02` and no payload.
def openKindFrame : List UInt8 :=
  [0,1,0,2,0,0,0,0,0,0,0,0,0x60,0,0,0,0x89,0xD8,0,0,1,1,1,2]

def firstHost : Vector UInt8 4 := #v[10,0,0,1]
def secondHost : Vector UInt8 4 := #v[10,0,0,2]

def openKindSum : Nat :=
  (Caller.ip4 firstHost secondHost 6 24).pshdrSum

theorem parser_index_error :
    tcpParser openKindFrame 24 openKindSum true = .error .indexError ∧
      ¬((∃ packet, tcpParser openKindFrame 24 openKindSum true = .ok packet) ∨
        ∃ e, tcpParser openKindFrame 24 openKindSum true = .error e ∧ e.PacketValidation) := by
  have valid : inetCksum [openKindFrame] openKindSum = 0 := by decide
  have raised : tcpParser openKindFrame 24 openKindSum true = .error .indexError := by
    apply tcpParser_integrity
    have whole : openKindFrame.take 24 = openKindFrame := rfl
    simp only [validateIntegrity,whole,valid]
    simp [openKindFrame,headerLen,byteAt,validateOptions]
  refine ⟨raised,?_⟩
  rw [raised]
  rintro (⟨_,impossible⟩ | ⟨e,same,validation⟩)
  · cases impossible
  · cases same; exact validation

end PmdPytcp.TcpParser
