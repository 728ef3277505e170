import PmdPytcp.Ip4.Address
import PmdPytcp.Ip4.Options

namespace PmdPytcp.Ip4
open InetCksum Buffer

def ip4SanityError (message : String) (pointer : Nat) : PyError :=
  .packetSanity ("[SANITY ERROR]" ++ ("[IPv4] " ++ message)) (some pointer)

structure Ip4Header where
  hlen : Nat
  dscp : Nat
  ecn : Nat
  plen : Nat
  id : Nat
  flagDf : Bool
  flagMf : Bool
  offset : Nat
  ttl : Nat
  proto : Nat
  cksum : Nat
  src : Nat
  dst : Nat
deriving Repr,DecidableEq

def headerFromBuffer (buffer : List UInt8) : Py Ip4Header := do
  let fixed := buffer.take 20
  if fixed.length ≠ 20 then throw .structError
  let verHlen := beNat (slice fixed 0 1)
  let dscpEcn := beNat (slice fixed 1 2)
  let flagOffset := beNat (slice fixed 6 8)
  let header : Ip4Header := {
    hlen := (verHlen &&& 0x0F) <<< 2
    dscp := dscpEcn >>> 2
    ecn := dscpEcn &&& 0x03
    plen := beNat (slice fixed 2 4)
    id := beNat (slice fixed 4 6)
    flagDf := (flagOffset >>> 8) &&& 0x40 ≠ 0
    flagMf := (flagOffset >>> 8) &&& 0x20 ≠ 0
    offset := (flagOffset &&& 0x1FFF) <<< 3
    ttl := beNat (slice fixed 8 9)
    proto := beNat (slice fixed 9 10)
    cksum := beNat (slice fixed 10 12)
    src := beNat (slice fixed 12 16)
    dst := beNat (slice fixed 16 20) }
  pyAssert (20 ≤ header.hlen ∧ header.hlen ≤ 60)
  pyAssert (header.hlen % 4 = 0)
  pyAssert (isUint 6 header.dscp)
  pyAssert (isUint 2 header.ecn)
  pyAssert (isUint 16 header.plen)
  pyAssert (20 ≤ header.plen)
  pyAssert (isUint 16 header.id)
  pyAssert (isUint 13 (header.offset >>> 3))
  pyAssert (header.offset % 8 = 0)
  pyAssert (isUint 8 header.ttl)
  pyAssert (isUint 16 header.cksum)
  return header

-- The parser keeps the frame it was given; its byte views are cut from it.
structure Ip4Packet where
  frame : List UInt8
  header : Ip4Header
  options : List Ip4Option
  payload : List UInt8
deriving Repr,DecidableEq

def Ip4Packet.headerBytes (packet : Ip4Packet) : List UInt8 := packet.frame.take 20
def Ip4Packet.payloadBytes (packet : Ip4Packet) : List UInt8 := packet.payload
def Ip4Packet.packetBytes (packet : Ip4Packet) : List UInt8 :=
  packet.frame.take (20 + optionsLen packet.options + packet.payload.length)

def validateIntegrity (frame : List UInt8) : Py Unit := do
  if frame.length < 20 then
    throw (ip4IntegrityError s!"The condition 'IP4__HEADER__LEN <= len(self._frame)' must be met. Got: IP4__HEADER__LEN=20, len(self._frame)={frame.length}")
  let first ← byteAt frame 0
  if first >>> 4 ≠ 4 then
    throw (ip4IntegrityError s!"The 'ver' field must be 4. Got: {first >>> 4}")
  let hlen := (first &&& 0x0F) <<< 2
  let plen := beNat (slice frame 2 4)
  if ¬(20 ≤ hlen ∧ hlen ≤ plen ∧ plen ≤ frame.length) then
    throw (ip4IntegrityError s!"The condition 'IP4__HEADER__LEN <= hlen <= plen <= len(self._frame)' must be met. Got: IP4__HEADER__LEN=20, hlen={hlen}, plen={plen}, len(self._frame)={frame.length}")
  if inetCksum [frame.take hlen] 0 ≠ 0 then
    throw (ip4IntegrityError "The packet checksum must be valid.")
  validateOptions frame hlen 20

def parsePacket (frame : List UInt8) : Py Ip4Packet := do
  let header ← headerFromBuffer frame
  let options ← optionsFromBuffer (slice frame 20 header.hlen) 0
  return ⟨frame,header,options,slice frame header.hlen header.plen⟩

def Ip4Header.source (header : Ip4Header) : Ip4Address := .ofNat 32 header.src

-- `repr` of an `Ip4Address`.
def addressRepr (address : Nat) : String :=
  s!"Ip4Address('{address/2^24}.{address/2^16%256}.{address/2^8%256}.{address%256}')"

-- Each violation points at its field: 6 flags and offset, 8 TTL, 12 source.
def validateSanity (header : Ip4Header) : Py Unit :=
  if header.ttl = 0 then
    .error (ip4SanityError s!"The 'ttl' field must be greater than 0. Got: {header.ttl}" 8)
  else if Ip4Address.isInvalid header.source then
    .error (ip4SanityError s!"The 'src' field must not be in the 'this network' range (0.0.0.0/8). Got: {addressRepr header.src}" 12)
  else if Ip4Address.isLoopback header.source then
    .error (ip4SanityError s!"The 'src' field must not be a loopback address. Got: {addressRepr header.src}" 12)
  else if Ip4Address.isMulticast header.source then
    .error (ip4SanityError s!"The 'src' field must not be a multicast address. Got: {addressRepr header.src}" 12)
  else if Ip4Address.isReserved header.source then
    .error (ip4SanityError s!"The 'src' field must not be a reserved address. Got: {addressRepr header.src}" 12)
  else if Ip4Address.isLimitedBroadcast header.source then
    .error (ip4SanityError s!"The 'src' field must not be a limited broadcast address. Got: {addressRepr header.src}" 12)
  else if header.flagDf ∧ header.flagMf then
    .error (ip4SanityError "The 'flag_df' and 'flag_mf' flags must not be set simultaneously. Got: self.flag_df=True, self.flag_mf=True" 6)
  else if header.flagDf ∧ header.offset ≠ 0 then
    .error (ip4SanityError s!"The 'offset' field must be 0 when the 'flag_df' flag is set. Got: {header.offset}" 6)
  else .ok ()

-- `Ip4Parser.__init__`
def ip4Parser (frame : List UInt8) : Py Ip4Packet := do
  validateIntegrity frame
  let packet ← parsePacket frame
  validateSanity packet.header
  return packet

def ihl (frame : List UInt8) : Nat := ((frame[0]?.getD 0).toNat &&& 0x0F) <<< 2
def totalLength (frame : List UInt8) : Nat := beNat (slice frame 2 4)

-- What the fixed header is checked for before anything else is read.
structure HeaderSound (frame : List UInt8) : Prop where
  long : 20 ≤ frame.length
  version : (frame[0]?.getD 0).toNat >>> 4 = 4
  least : 20 ≤ ihl frame
  inside : ihl frame ≤ totalLength frame
  present : totalLength frame ≤ frame.length
  cksum : inetCksum [frame.take (ihl frame)] 0 = 0

instance (frame : List UInt8) : Decidable (HeaderSound frame) :=
  decidable_of_iff (20 ≤ frame.length ∧ (frame[0]?.getD 0).toNat >>> 4 = 4 ∧ 20 ≤ ihl frame ∧
      ihl frame ≤ totalLength frame ∧ totalLength frame ≤ frame.length ∧
      inetCksum [frame.take (ihl frame)] 0 = 0)
    ⟨fun ⟨a,b,c,d,e,f⟩ => ⟨a,b,c,d,e,f⟩,fun ⟨a,b,c,d,e,f⟩ => ⟨a,b,c,d,e,f⟩⟩

theorem validateIntegrity_sound (sound : HeaderSound frame) :
    validateIntegrity frame = validateOptions frame (ihl frame) 20 := by
  obtain ⟨long,version,least,inside,present,cksum⟩ := sound
  have first : byteAt frame 0 = .ok (frame[0]?.getD 0).toNat := by
    have here : frame[0]? = some frame[0] := List.getElem?_eq_getElem (by omega)
    simp [byteAt,here]
  simp only [ihl,totalLength] at least inside present cksum ⊢
  simp only [validateIntegrity,first,ok_bind,if_neg (Nat.not_lt.mpr long),version,least,inside,present,cksum,
    ne_eq,not_true_eq_false,true_and,if_false]

theorem validateIntegrity_unsound (unsound : ¬HeaderSound frame) :
    ∃ message, validateIntegrity frame = .error (ip4IntegrityError message) := by
  by_cases long : frame.length < 20
  · exact ⟨_,by simp only [validateIntegrity,if_pos long]; rfl⟩
  have first : byteAt frame 0 = .ok (frame[0]?.getD 0).toNat := by
    have here : frame[0]? = some frame[0] := List.getElem?_eq_getElem (by omega)
    simp [byteAt,here]
  by_cases version : (frame[0]?.getD 0).toNat >>> 4 = 4
  case neg => exact ⟨_,by simp only [validateIntegrity,if_neg long,first,ok_bind,ne_eq,version,not_false_eq_true,if_true]; rfl⟩
  by_cases lengths : 20 ≤ ihl frame ∧ ihl frame ≤ totalLength frame ∧ totalLength frame ≤ frame.length
  case neg =>
    simp only [ihl,totalLength] at lengths
    exact ⟨_,by simp only [validateIntegrity,if_neg long,first,ok_bind,ne_eq,version,not_true_eq_false,if_false,
      lengths,not_false_eq_true,if_true]; rfl⟩
  have corrupt : inetCksum [frame.take (ihl frame)] 0 ≠ 0 := by
    intro valid
    exact unsound ⟨by omega,version,lengths.1,lengths.2.1,lengths.2.2,valid⟩
  simp only [ihl,totalLength] at lengths corrupt
  exact ⟨_,by simp only [validateIntegrity,if_neg long,first,ok_bind,ne_eq,version,not_true_eq_false,if_false,
    lengths,and_self,corrupt,not_false_eq_true,if_true]; rfl⟩

theorem slice_single (frame : List UInt8) (inside : i < frame.length) :
    slice frame i (i+1) = [frame[i]?.getD 0] := by
  obtain ⟨k,here,region⟩ := TcpParser.region_cons frame (i+1) i (by omega) (by omega)
  rw [region,TcpParser.slice_empty frame (by omega),here]
  rfl

def headerFields (frame : List UInt8) : Ip4Header where
  hlen := ihl frame
  dscp := beNat (slice frame 1 2) >>> 2
  ecn := beNat (slice frame 1 2) &&& 0x03
  plen := totalLength frame
  id := beNat (slice frame 4 6)
  flagDf := (beNat (slice frame 6 8) >>> 8) &&& 0x40 ≠ 0
  flagMf := (beNat (slice frame 6 8) >>> 8) &&& 0x20 ≠ 0
  offset := (beNat (slice frame 6 8) &&& 0x1FFF) <<< 3
  ttl := beNat (slice frame 8 9)
  proto := beNat (slice frame 9 10)
  cksum := beNat (slice frame 10 12)
  src := beNat (slice frame 12 16)
  dst := beNat (slice frame 16 20)

@[simp] theorem headerFields_hlen (frame : List UInt8) : (headerFields frame).hlen = ihl frame := rfl
@[simp] theorem headerFields_plen (frame : List UInt8) : (headerFields frame).plen = totalLength frame := rfl

theorem header_reads (sound : HeaderSound frame) : headerFromBuffer frame = .ok (headerFields frame) := by
  obtain ⟨long,version,least,inside,present,cksum⟩ := sound
  have whole : (frame.take 20).length = 20 := by simp [Nat.min_eq_left long]
  have cut (start stop : Nat) (inside : stop ≤ 20) := take_slice frame start stop 20 inside
  have width (w start stop : Nat) (wide : 8*(stop-start) ≤ w) := isUint_slice w start stop frame wide
  have octet : beNat (slice frame 0 1) = (frame[0]?.getD 0).toNat := by
    rw [slice_single frame (by omega)]
    simp [beNat]
  have tos : beNat (slice frame 1 2) < 256 := by
    have value := beNat_lt (slice frame 1 2)
    rwa [slice_length _ _ _ (by omega)] at value
  have dscp : isUint 6 (beNat (slice frame 1 2) >>> 2) = true := by
    simp only [isUint,decide_eq_true_eq,Nat.shiftRight_eq_div_pow]
    omega
  have ecn (n : Nat) : isUint 2 (n &&& 0x03) = true := by
    simp only [isUint,decide_eq_true_eq]
    exact Nat.lt_of_le_of_lt Nat.and_le_right (by decide)
  have words (n : Nat) : 20 ≤ (n &&& 0x0F) <<< 2 → (n &&& 0x0F) <<< 2 ≤ 60 ∧ ((n &&& 0x0F) <<< 2) % 4 = 0 := by
    intro _
    have nibble : n &&& 0x0F ≤ 15 := Nat.and_le_right
    rw [Nat.shiftLeft_eq]
    omega
  have units (n : Nat) : isUint 13 (((n &&& 0x1FFF) <<< 3) >>> 3) = true ∧ ((n &&& 0x1FFF) <<< 3) % 8 = 0 := by
    have field : n &&& 0x1FFF ≤ 0x1FFF := Nat.and_le_right
    simp only [isUint,decide_eq_true_eq,Nat.shiftLeft_eq,Nat.shiftRight_eq_div_pow]
    omega
  have plen : beNat (slice frame 2 4) = totalLength frame := rfl
  have total : 20 ≤ totalLength frame := by omega
  obtain ⟨top,aligned⟩ := words (frame[0]?.getD 0).toNat least
  have lengths : 20 ≤ ((frame[0]?.getD 0).toNat &&& 0x0F) <<< 2 ∧ ((frame[0]?.getD 0).toNat &&& 0x0F) <<< 2 ≤ 60 :=
    ⟨least,top⟩
  have length16 : isUint 16 (totalLength frame) = true := plen ▸ width 16 2 4 (by omega)
  obtain ⟨thirteen,eight⟩ := units (beNat (slice frame 6 8))
  simp only [headerFromBuffer,whole,cut 0 1 (by omega),cut 1 2 (by omega),cut 2 4 (by omega),cut 4 6 (by omega),
    cut 6 8 (by omega),cut 8 9 (by omega),cut 9 10 (by omega),cut 10 12 (by omega),cut 12 16 (by omega),
    cut 16 20 (by omega),octet,plen,ne_eq,not_true_eq_false,if_false,lengths,aligned,dscp,
    ecn,length16,total,width 16 4 6 (by omega),thirteen,eight,width 8 8 9 (by omega),
    width 16 10 12 (by omega),and_self,decide_true,pyAssert_true,ok_bind,pure_eq]
  rfl

def optionArea (frame : List UInt8) : List UInt8 := slice frame 20 (ihl frame)

-- An option that opens in the last octet of a frame without payload, or one
-- with less room than its constructor asserts.
def OptionOverrun (frame : List UInt8) : Prop :=
  HeaderSound frame ∧
    ((ihl frame = frame.length ∧ TcpParser.lastKindOpen (optionArea frame) = true) ∨
      (validateOptions frame (ihl frame) 20 = .ok () ∧ cramped (optionArea frame) = true))

theorem settled_integrity (message : String) : Settled (.error (ip4IntegrityError message) : Py α) :=
  .inr ⟨_,rfl,trivial⟩

theorem sanity_settled (header : Ip4Header) : Settled (validateSanity header) := by
  have rejected (message : String) (pointer : Nat) : Settled (.error (ip4SanityError message pointer) : Py Unit) :=
    .inr ⟨_,rfl,trivial⟩
  unfold validateSanity
  repeat' split
  all_goals first | exact rejected _ _ | exact .inl ⟨(),rfl⟩

structure SaneSource (header : Ip4Header) : Prop where
  alive : header.ttl ≠ 0
  valid : Ip4Address.isInvalid header.source = false
  remote : Ip4Address.isLoopback header.source = false
  unicast : Ip4Address.isMulticast header.source = false
  assigned : Ip4Address.isReserved header.source = false
  single : Ip4Address.isLimitedBroadcast header.source = false

theorem sane_source (sane : validateSanity header = .ok ()) : SaneSource header := by
  unfold validateSanity at sane
  repeat' split at sane
  all_goals cases sane
  next alive valid remote unicast assigned single _ _ =>
    simp only [Bool.not_eq_true] at valid remote unicast assigned single
    exact ⟨alive,valid,remote,unicast,assigned,single⟩

theorem sane_unfragmented (source : SaneSource header) (df : header.flagDf = false) :
    validateSanity header = .ok () := by
  obtain ⟨alive,valid,remote,unicast,assigned,single⟩ := source
  unfold validateSanity
  rw [if_neg alive,if_neg (by simp [valid]),if_neg (by simp [remote]),if_neg (by simp [unicast]),
    if_neg (by simp [assigned]),if_neg (by simp [single]),if_neg (by simp [df]),if_neg (by simp [df])]

theorem ip4Parser_integrity (failed : validateIntegrity frame = .error e) : ip4Parser frame = .error e := by
  simp [ip4Parser,failed]

structure Parsed (frame : List UInt8) (packet : Ip4Packet) : Prop where
  sound : HeaderSound frame
  walked : TcpParser.WalkOk (optionArea frame)
  valid : validateOptions frame (ihl frame) 20 = .ok ()
  whole : packet.frame = frame
  fields : packet.header = headerFields frame
  options : optionsFromBuffer (optionArea frame) 0 = .ok packet.options
  reach : optionsLen packet.options = optionsReach (optionArea frame)
  payload : packet.payload = slice frame (ihl frame) (totalLength frame)
  sane : validateSanity packet.header = .ok ()

theorem ip4Parser_cases (frame : List UInt8) :
    (∃ packet, ip4Parser frame = .ok packet ∧ Parsed frame packet) ∨
      (∃ e, ip4Parser frame = .error e ∧ e.PacketValidation) ∨ OptionOverrun frame := by
  by_cases sound : HeaderSound frame
  case neg =>
    obtain ⟨message,failed⟩ := validateIntegrity_unsound sound
    exact .inr (.inl ⟨_,ip4Parser_integrity failed,trivial⟩)
  have covered : ihl frame ≤ frame.length := Nat.le_trans sound.inside sound.present
  have outcome := walk_outcome frame (ihl frame) 20 covered
  split at outcome
  · next opened => exact .inr (.inr ⟨sound,.inl opened⟩)
  · rcases outcome with ⟨valid,walked⟩ | ⟨message,failed⟩
    case inr => exact .inr (.inl ⟨_,ip4Parser_integrity ((validateIntegrity_sound sound).trans failed),trivial⟩)
    have passed := (validateIntegrity_sound sound).trans valid
    have read := header_reads sound
    have region := options_read (optionArea frame) 0 walked
    simp only [List.drop_zero] at region
    split at region
    · next tight => exact .inr (.inr ⟨sound,.inr ⟨valid,tight⟩⟩)
    · simp only [ip4Parser,passed,ok_bind,parsePacket,read]
      rw [show slice frame 20 (headerFields frame).hlen = optionArea frame from rfl]
      rcases region with ⟨options,ok,reach⟩ | ⟨message,failed⟩
      · simp only [ok,ok_bind,pure_eq]
        rcases sanity_settled (headerFields frame) with ⟨_,sane⟩ | ⟨e,raised,valid⟩
        · refine .inl ⟨_,by rw [sane]; rfl,?_⟩
          exact ⟨sound,walked,valid,rfl,rfl,ok,reach,rfl,sane⟩
        · exact .inr (.inl ⟨e,by rw [raised]; rfl,valid⟩)
      · exact .inr (.inl ⟨ip4IntegrityError message,by rw [failed]; rfl,trivial⟩)

theorem OptionOverrun.raises (overrun : OptionOverrun frame) :
    ip4Parser frame = .error .indexError ∨ ip4Parser frame = .error .assertionError := by
  obtain ⟨sound,opened | ⟨valid,tight⟩⟩ := overrun
  · have outcome := walk_outcome frame (ihl frame) 20 (Nat.le_trans sound.inside sound.present)
    unfold optionArea at opened
    rw [if_pos opened] at outcome
    exact .inl (ip4Parser_integrity ((validateIntegrity_sound sound).trans outcome))
  · right
    have outcome := walk_outcome frame (ihl frame) 20 (Nat.le_trans sound.inside sound.present)
    have walked : TcpParser.WalkOk (optionArea frame) := by
      split at outcome
      · rw [valid] at outcome
        cases outcome
      · rcases outcome with ⟨_,walked⟩ | ⟨_,failed⟩
        · exact walked
        · rw [valid] at failed
          cases failed
    have region := options_read (optionArea frame) 0 walked
    rw [List.drop_zero,if_pos tight] at region
    simp only [ip4Parser,(validateIntegrity_sound sound).trans valid,ok_bind,parsePacket,header_reads sound]
    rw [show slice frame 20 (headerFields frame).hlen = optionArea frame from rfl,region]
    rfl

theorem parsed_of_ok (accepted : ip4Parser frame = .ok packet) : Parsed frame packet := by
  rcases ip4Parser_cases frame with ⟨other,ok,parsed⟩ | ⟨e,failed,_⟩ | overrun
  · rw [accepted] at ok
    cases ok
    exact parsed
  · rw [accepted] at failed
    cases failed
  · rcases overrun.raises with raised | raised
    · rw [accepted] at raised
      cases raised
    · rw [accepted] at raised
      cases raised

-- A frame is read when its header is sound, its options walk and read, and
-- its fields are sane.
theorem ip4Parser_accepts (sound : HeaderSound frame) (walked : TcpParser.WalkOk (optionArea frame))
    (read : optionsFromBuffer (optionArea frame) 0 = .ok options) (sane : validateSanity (headerFields frame) = .ok ()) :
    ip4Parser frame = .ok ⟨frame,headerFields frame,options,slice frame (ihl frame) (totalLength frame)⟩ := by
  have valid := walk_accepted (Nat.le_trans sound.inside sound.present) walked
  simp only [ip4Parser,(validateIntegrity_sound sound).trans valid,ok_bind,parsePacket,header_reads sound]
  rw [show slice frame 20 (headerFields frame).hlen = optionArea frame from rfl,read]
  simp only [ok_bind,pure_eq,sane]
  rfl

-- The views of an accepted packet. The header view is the fixed header; the
-- packet view is the whole packet when nothing follows an EOL.
theorem Parsed.views (parsed : Parsed frame packet) :
    packet.headerBytes = frame.take 20 ∧
      packet.headerBytes ++ optionArea frame ++ packet.payloadBytes = frame.take (totalLength frame) ∧
      (optionsReach (optionArea frame) = (optionArea frame).length →
        packet.packetBytes = frame.take (totalLength frame)) := by
  have sound := parsed.sound
  have least := sound.least
  have inside := sound.inside
  have present := sound.present
  have header : packet.headerBytes = frame.take 20 := by rw [Ip4Packet.headerBytes,parsed.whole]
  refine ⟨header,?_,?_⟩
  · rw [header,Ip4Packet.payloadBytes,parsed.payload,optionArea,take_slice_append frame least,
      take_slice_append frame inside]
  · intro reach
    rw [Ip4Packet.packetBytes,parsed.whole,parsed.reach,reach,parsed.payload]
    simp only [optionArea]
    rw [slice_length frame 20 _ (by omega),slice_length frame _ _ present]
    congr 1
    omega

theorem ip4_parser_views (frame : List UInt8) (clear : ¬OptionOverrun frame) :
    ((∃ packet, ip4Parser frame = .ok packet) ∨
      ∃ e, ip4Parser frame = .error e ∧ e.PacketValidation) ∧
    ∀ packet, ip4Parser frame = .ok packet →
      packet.headerBytes = frame.take 20 ∧
      packet.headerBytes ++ optionArea frame ++ packet.payloadBytes = frame.take (totalLength frame) ∧
      (optionsReach (optionArea frame) = (optionArea frame).length →
        packet.packetBytes = frame.take (totalLength frame)) := by
  refine ⟨?_,fun packet accepted => (parsed_of_ok accepted).views⟩
  rcases ip4Parser_cases frame with ⟨packet,ok,_⟩ | rejected | overrun
  · exact .inl ⟨packet,ok⟩
  · exact .inr rejected
  · exact absurd overrun clear

-- 10.0.0.1 to 10.0.0.2 with four NOP octets and two octets of payload.
def nopFrame : List UInt8 :=
  [0x46,0,0,26,0,0,0,0,64,17,0x63,0xCF,10,0,0,1,10,0,0,2,1,1,1,1,0xAB,0xCD]

def nopPacket : Ip4Packet where
  frame := nopFrame
  header := ⟨24,0,0,26,0,false,false,0,64,17,0x63CF,0x0A000001,0x0A000002⟩
  options := [.nop,.nop,.nop,.nop]
  payload := [0xAB,0xCD]

theorem nopFrame_parsed : ip4Parser nopFrame = .ok nopPacket := by decide +kernel

theorem ip4_parser_views_nop :
    ¬OptionOverrun nopFrame ∧ nopPacket.packetBytes = nopFrame ∧
      nopPacket.headerBytes ++ optionArea nopFrame ++ nopPacket.payloadBytes = nopFrame := by
  have clear : ¬OptionOverrun nopFrame := by
    intro overrun
    rcases overrun.raises with raised | raised
    · rw [nopFrame_parsed] at raised
      cases raised
    · rw [nopFrame_parsed] at raised
      cases raised
  obtain ⟨_,whole,packet⟩ := (ip4_parser_views nopFrame clear).2 nopPacket nopFrame_parsed
  exact ⟨clear,packet (by decide +kernel),whole⟩

-- With options the fixed header and the payload are not the packet.
theorem ip4_header_view_misses_options :
    ip4Parser nopFrame = .ok nopPacket ∧
      nopPacket.headerBytes ++ nopPacket.payloadBytes ≠ nopFrame.take (totalLength nopFrame) := by
  decide +kernel

end PmdPytcp.Ip4
