import PmdPytcp.TcpAssembler

namespace PmdPytcp.Ipc
open InetCksum Buffer TcpAssembler

-- What the two codecs raise: their own frame error, and what the
-- interpreter's conversions refuse.
inductive CodecError where
  | ipcFrame (message : String)
  | valueError
  | overflowError
  | osError
deriving Repr,DecidableEq

abbrev Codec := Except CodecError

-- `int.to_bytes(width, "big")`
def toBytes (width : Nat) (n : Int) : Codec (List UInt8) :=
  if 0 ≤ n ∧ n < 256^width then .ok (beBytes width n.toNat) else .error .overflowError

-- `int.from_bytes(data, "big")`
def fromBytes (data : List UInt8) : Int := beNat data

-- `bytes([n])`
def oneByte (n : Nat) : Codec (List UInt8) :=
  if n < 256 then .ok [n.toUInt8] else .error .valueError

-- The platform's address conversions: texts in any accepted spelling in, packed
-- octets and the platform's own spelling out.
structure Inet where
  pton4 : String → Option (List UInt8)
  pton6 : String → Option (List UInt8)
  ntop4 : List UInt8 → String
  ntop6 : List UInt8 → String
  pton4_length : pton4 host = some packed → packed.length = 4
  pton6_length : pton6 host = some packed → packed.length = 16

structure Cmsg where
  level : Int
  ctype : Int
  data : List UInt8
deriving Repr,DecidableEq

structure Datagram where
  address : Option (String × Int)
  cmsg : List Cmsg
  payload : List UInt8
deriving Repr,DecidableEq

def tagNone : Nat := 0
def tagIp4 : Nat := 4
def tagIp6 : Nat := 6
def cmsgMetaLen : Nat := 6

def encodeAddress (inet : Inet) : Option (String × Int) → Codec (List UInt8)
  | none => .ok [tagNone.toUInt8]
  | some (host,port) =>
    match inet.pton4 host with
    | some packed => do
      let port ← toBytes 2 port
      return [tagIp4.toUInt8] ++ port ++ packed
    | none =>
      match inet.pton6 host with
      | some packed => do
        let port ← toBytes 2 port
        return [tagIp6.toUInt8] ++ port ++ packed
      | none => .error .osError

def encodeCmsg (cmsg : Cmsg) : Codec (List UInt8) := do
  let level ← toBytes 2 cmsg.level
  let ctype ← toBytes 2 cmsg.ctype
  let length ← toBytes 2 cmsg.data.length
  return level ++ ctype ++ length ++ cmsg.data

def encodeDgram (inet : Inet) (record : Datagram) : Codec (List UInt8) := do
  let front ← encodeAddress inet record.address
  let count ← oneByte record.cmsg.length
  let parts ← record.cmsg.mapM encodeCmsg
  return front ++ count ++ parts.flatten ++ record.payload

def decodeAddress (inet : Inet) (data : List UInt8) : Codec (Option (String × Int) × Nat) :=
  match data[0]? with
  | none => .error (.ipcFrame "Datagram frame is empty (no address-family tag).")
  | some tag =>
    if tag.toNat = tagNone then .ok (none,1)
    else if tag.toNat = tagIp4 then
      if data.length < 7 then .error (.ipcFrame "Datagram frame is truncated before the end of its address.")
      else .ok (some (inet.ntop4 (slice data 3 7),fromBytes (slice data 1 3)),7)
    else if tag.toNat = tagIp6 then
      if data.length < 19 then .error (.ipcFrame "Datagram frame is truncated before the end of its address.")
      else .ok (some (inet.ntop6 (slice data 3 19),fromBytes (slice data 1 3)),19)
    else .error (.ipcFrame ("Datagram frame has an unknown address-family tag " ++ toString tag.toNat ++ "."))

-- `ncmsg` turns of the loop from an offset on, with the offset behind them.
def decodeCmsgs (data : List UInt8) : Nat → Nat → Codec (List Cmsg × Nat)
  | 0,offset => .ok ([],offset)
  | count+1,offset =>
    if data.length < offset + cmsgMetaLen then
      .error (.ipcFrame "Datagram frame is truncated inside a cmsg header.")
    else
      let level := fromBytes (slice data offset (offset+2))
      let ctype := fromBytes (slice data (offset+2) (offset+4))
      let datalen := beNat (slice data (offset+4) (offset+6))
      let start := offset + cmsgMetaLen
      if data.length < start + datalen then
        .error (.ipcFrame "Datagram frame is truncated inside a cmsg payload.")
      else do
        let (rest,stop) ← decodeCmsgs data count (start+datalen)
        return (⟨level,ctype,slice data start (start+datalen)⟩ :: rest,stop)

def decodeDgram (inet : Inet) (data : List UInt8) : Codec Datagram := do
  let (address,offset) ← decodeAddress inet data
  match data[offset]? with
  | none => .error (.ipcFrame "Datagram frame is truncated before its cmsg count.")
  | some ncmsg =>
    let (cmsg,stop) ← decodeCmsgs data ncmsg.toNat (offset+1)
    return ⟨address,cmsg,data.drop stop⟩

-- `EtherType`: an unknown codepoint is a member of its own, and never one of
-- the values that has a name.
inductive EtherType where
  | arp | ip4 | ip6 | raw
  | unknown (value : Int) (fresh : value ∉ [(0x0806 : Int),0x0800,0x86DD,0xFFFF])
deriving DecidableEq

def EtherType.value : EtherType → Int
  | .arp => 0x0806
  | .ip4 => 0x0800
  | .ip6 => 0x86DD
  | .raw => 0xFFFF
  | .unknown value _ => value

def EtherType.fromInt (value : Int) : EtherType :=
  if known : value ∈ [(0x0806 : Int),0x0800,0x86DD,0xFFFF] then
    if value = 0x0806 then .arp
    else if value = 0x0800 then .ip4
    else if value = 0x86DD then .ip6
    else .raw
  else .unknown value known

inductive PacketType where
  | host | broadcast | multicast | otherhost | outgoing
deriving Repr,DecidableEq

def PacketType.value : PacketType → Nat
  | .host => 0
  | .broadcast => 1
  | .multicast => 2
  | .otherhost => 3
  | .outgoing => 4

-- `PacketType(value)`, the strict lookup.
def PacketType.ofValue : Nat → Codec PacketType
  | 0 => .ok .host
  | 1 => .ok .broadcast
  | 2 => .ok .multicast
  | 3 => .ok .otherhost
  | 4 => .ok .outgoing
  | _ => .error .valueError

-- The `ethertype` field holds a member or a plain integer.
inductive Filter where
  | member (ethertype : EtherType)
  | plain (value : Int)
deriving DecidableEq

def Filter.value : Filter → Int
  | .member ethertype => ethertype.value
  | .plain value => value

-- `ETH_P_ALL`
def ethPAll : Int := 3

structure SockAddrLl where
  ifindex : Int := 0
  ethertype : Filter := .plain ethPAll
  pkttype : PacketType := .host
  mac : BitVec 48 := 0
deriving DecidableEq

def packetHeaderLen : Nat := 13

def encodePacket (sockaddr : SockAddrLl) (frame : List UInt8) : Codec (List UInt8) := do
  let ifindex ← toBytes 4 sockaddr.ifindex
  let ethertype ← toBytes 2 sockaddr.ethertype.value
  let pkttype ← toBytes 1 sockaddr.pkttype.value
  return ifindex ++ ethertype ++ pkttype ++ beBytes 6 sockaddr.mac.toNat ++ frame

def decodePacket (data : List UInt8) : Codec (SockAddrLl × List UInt8) :=
  if data.length < packetHeaderLen then
    .error (.ipcFrame "AF_PACKET frame is truncated before the end of its sockaddr_ll.")
  else do
    let pkttype ← PacketType.ofValue (beNat (slice data 6 7))
    return (⟨fromBytes (slice data 0 4),.member (.fromInt (fromBytes (slice data 4 6))),pkttype,
      BitVec.ofNat 48 (beNat (slice data 7 13))⟩,data.drop packetHeaderLen)

inductive Turn where
  | running
  | ended
deriving Repr,DecidableEq

-- One turn of `_pump_tx`: a frame error and a refusal of the stack drop the
-- blob, any other exception ends the task.
def pumpTx (decode : List UInt8 → Codec ρ) (send : ρ → Codec Unit) (blob : List UInt8) : Turn :=
  if blob = [] then .running
  else
    match decode blob with
    | .error (.ipcFrame _) => .running
    | .error _ => .ended
    | .ok record =>
      match send record with
      | .ok _ => .running
      | .error .osError => .running
      | .error _ => .ended

@[simp] theorem codec_ok_bind (a : α) (f : α → Codec β) : (Except.ok a >>= f) = f a := rfl
@[simp] theorem codec_error_bind (e : CodecError) (f : α → Codec β) : (Except.error e >>= f) = .error e := rfl
@[simp] theorem codec_pure (a : α) : (pure a : Codec α) = .ok a := rfl

theorem codec_bind_ok {x : Codec α} {f : α → Codec β} : (x >>= f) = .ok b ↔ ∃ a, x = .ok a ∧ f a = .ok b := by
  cases x with
  | error e => simp
  | ok a => simp

theorem toBytes_ok (packed : toBytes width n = .ok bytes) : bytes.length = width ∧ fromBytes bytes = n := by
  unfold toBytes at packed
  split at packed
  · next fits =>
    cases packed
    have small : n.toNat < 256^width := by
      zify
      rw [Int.toNat_of_nonneg fits.1]
      exact fits.2
    refine ⟨beBytes_length _ _,?_⟩
    rw [fromBytes,beNat_beBytes _ _ small]
    exact Int.toNat_of_nonneg fits.1
  · cases packed

-- A record or the codec's own error: nothing else escapes.
def Framed (result : Codec α) : Prop := (∃ value, result = .ok value) ∨ ∃ message, result = .error (.ipcFrame message)

@[simp] theorem Framed.ok (value : α) : Framed (.ok value : Codec α) := .inl ⟨value,rfl⟩
@[simp] theorem Framed.error (message : String) : Framed (.error (.ipcFrame message) : Codec α) := .inr ⟨message,rfl⟩

theorem Framed.bind {x : Codec α} {f : α → Codec β} (first : Framed x) (then_ : ∀ a, Framed (f a)) : Framed (x >>= f) := by
  obtain ⟨a,rfl⟩ | ⟨message,rfl⟩ := first
  · exact then_ a
  · exact Framed.error message

theorem slice_at (front field rest : List UInt8) (start stop : Nat) (begins : start = front.length) (ends : stop = start + field.length) :
    slice (front ++ (field ++ rest)) start stop = field := by
  subst ends begins
  exact slice_field front field rest

theorem encodeCmsg_ok (packed : encodeCmsg cmsg = .ok part) :
    ∃ level ctype length, part = level ++ (ctype ++ (length ++ cmsg.data)) ∧
      level.length = 2 ∧ ctype.length = 2 ∧ length.length = 2 ∧
      fromBytes level = cmsg.level ∧ fromBytes ctype = cmsg.ctype ∧ beNat length = cmsg.data.length := by
  simp only [encodeCmsg,codec_bind_ok] at packed
  obtain ⟨level,first,ctype,second,length,third,whole⟩ := packed
  cases whole
  obtain ⟨levelSize,levelValue⟩ := toBytes_ok first
  obtain ⟨typeSize,typeValue⟩ := toBytes_ok second
  obtain ⟨lengthSize,lengthValue⟩ := toBytes_ok third
  refine ⟨level,ctype,length,by simp,levelSize,typeSize,lengthSize,levelValue,typeValue,?_⟩
  exact Int.ofNat.inj lengthValue

theorem decodeCmsgs_turn (front tail : List UInt8) (count : Nat) (packed : encodeCmsg cmsg = .ok part) :
    decodeCmsgs (front ++ (part ++ tail)) (count+1) front.length =
      (decodeCmsgs (front ++ (part ++ tail)) count (front ++ part).length >>= fun found =>
        .ok (cmsg :: found.1,found.2)) := by
  obtain ⟨level,ctype,length,rfl,two,two',two'',levelValue,typeValue,lengthValue⟩ := encodeCmsg_ok packed
  have whole : front ++ (level ++ (ctype ++ (length ++ cmsg.data)) ++ tail) =
      front ++ (level ++ (ctype ++ (length ++ (cmsg.data ++ tail)))) := by simp
  rw [whole]
  have atLevel : slice (front ++ (level ++ (ctype ++ (length ++ (cmsg.data ++ tail))))) front.length (front.length+2) = level :=
    slice_at front level _ _ _ rfl (by omega)
  have atType : slice (front ++ (level ++ (ctype ++ (length ++ (cmsg.data ++ tail))))) (front.length+2) (front.length+4) = ctype := by
    have field := slice_at (front ++ level) ctype (length ++ (cmsg.data ++ tail)) (front.length+2) _
      (by simp; omega) rfl
    rw [two'] at field
    simpa using field
  have atLength : slice (front ++ (level ++ (ctype ++ (length ++ (cmsg.data ++ tail))))) (front.length+4) (front.length+6) = length := by
    have field := slice_at (front ++ level ++ ctype) length (cmsg.data ++ tail) (front.length+4) _
      (by simp; omega) rfl
    rw [two''] at field
    simpa using field
  have atData : slice (front ++ (level ++ (ctype ++ (length ++ (cmsg.data ++ tail))))) (front.length+cmsgMetaLen)
      (front.length+cmsgMetaLen+cmsg.data.length) = cmsg.data := by
    have field := slice_at (front ++ level ++ ctype ++ length) cmsg.data tail (front.length+cmsgMetaLen) _
      (by simp [cmsgMetaLen]; omega) rfl
    simpa using field
  have behind : (front ++ (level ++ (ctype ++ (length ++ cmsg.data)))).length = front.length + cmsgMetaLen + cmsg.data.length := by
    simp [cmsgMetaLen]
    omega
  have header : ¬(front ++ (level ++ (ctype ++ (length ++ (cmsg.data ++ tail))))).length < front.length + cmsgMetaLen := by
    simp [cmsgMetaLen]
    omega
  have body : ¬(front ++ (level ++ (ctype ++ (length ++ (cmsg.data ++ tail))))).length <
      front.length + cmsgMetaLen + cmsg.data.length := by
    simp [cmsgMetaLen]
    omega
  rw [decodeCmsgs,if_neg header]
  dsimp only
  rw [atLevel,atType,atLength,lengthValue,if_neg body,atData,levelValue,typeValue,behind]
  rfl

theorem decodeCmsgs_encoded (front rest : List UInt8) (packed : cmsgs.mapM encodeCmsg = .ok parts) :
    decodeCmsgs (front ++ (parts.flatten ++ rest)) cmsgs.length front.length =
      .ok (cmsgs,(front ++ parts.flatten).length) := by
  induction cmsgs generalizing front parts with
  | nil =>
    cases packed
    simp [decodeCmsgs]
  | cons cmsg cmsgs ih =>
    rw [List.mapM_cons] at packed
    simp only [codec_bind_ok] at packed
    obtain ⟨part,one,others,more,whole⟩ := packed
    cases whole
    have rest' := ih (front ++ part) more
    rw [List.flatten_cons,List.append_assoc,List.length_cons,decodeCmsgs_turn front _ _ one]
    rw [List.append_assoc] at rest'
    rw [rest']
    simp

-- The spelling the platform itself gives the address.
def Inet.Canonical (inet : Inet) (host : String) : Prop :=
  match inet.pton4 host with
  | some packed => inet.ntop4 packed = host
  | none => ∀ packed, inet.pton6 host = some packed → inet.ntop6 packed = host

theorem address_fields (tag : UInt8) (port octets rest : List UInt8) (two : port.length = 2) :
    slice ([tag] ++ port ++ octets ++ rest) 1 3 = port ∧
      slice ([tag] ++ port ++ octets ++ rest) 3 (3 + octets.length) = octets := by
  constructor
  · have field := slice_at [tag] port (octets ++ rest) 1 3 rfl (by omega)
    simpa using field
  · have field := slice_at ([tag] ++ port) octets rest 3 _ (by simp [two]) rfl
    simpa using field

theorem decodeAddress_encoded (inet : Inet) (rest : List UInt8) (packed : encodeAddress inet address = .ok front)
    (canonical : ∀ host port, address = some (host,port) → inet.Canonical host) :
    decodeAddress inet (front ++ rest) = .ok (address,front.length) := by
  cases address with
  | none =>
    cases packed
    rfl
  | some pair =>
    obtain ⟨host,port⟩ := pair
    have spelling := canonical host port rfl
    unfold Inet.Canonical at spelling
    simp only [encodeAddress] at packed
    cases four : inet.pton4 host with
    | some octets =>
      rw [four] at packed spelling
      simp only [codec_bind_ok] at packed
      obtain ⟨portBytes,ported,whole⟩ := packed
      cases whole
      obtain ⟨two,value⟩ := toBytes_ok ported
      have size := inet.pton4_length four
      obtain ⟨atPort,atHost⟩ := address_fields tagIp4.toUInt8 portBytes octets rest two
      rw [size] at atHost
      have long : ¬([tagIp4.toUInt8] ++ portBytes ++ octets ++ rest).length < 7 := by
        simp
        omega
      rw [decodeAddress,atPort,atHost,if_neg long,value,spelling]
      simp [tagIp4,tagNone,two,size]
    | none =>
      rw [four] at packed spelling
      dsimp only at packed
      cases six : inet.pton6 host with
      | none =>
        rw [six] at packed
        cases packed
      | some octets =>
        rw [six] at packed
        simp only [codec_bind_ok] at packed
        obtain ⟨portBytes,ported,whole⟩ := packed
        cases whole
        obtain ⟨two,value⟩ := toBytes_ok ported
        have size := inet.pton6_length six
        obtain ⟨atPort,atHost⟩ := address_fields tagIp6.toUInt8 portBytes octets rest two
        rw [size] at atHost
        have long : ¬([tagIp6.toUInt8] ++ portBytes ++ octets ++ rest).length < 19 := by
          simp
          omega
        rw [decodeAddress,atPort,atHost,if_neg long,value,spelling octets six]
        simp [tagIp6,tagIp4,tagNone,two,size]

theorem decodeDgram_encoded (inet : Inet) (packed : encodeDgram inet record = .ok blob)
    (canonical : ∀ host port, record.address = some (host,port) → inet.Canonical host) :
    decodeDgram inet blob = .ok record := by
  simp only [encodeDgram,codec_bind_ok] at packed
  obtain ⟨front,addressed,count,counted,parts,listed,whole⟩ := packed
  cases whole
  unfold oneByte at counted
  split at counted
  · next few =>
    cases counted
    have address := decodeAddress_encoded inet ([record.cmsg.length.toUInt8] ++ (parts.flatten ++ record.payload)) addressed canonical
    have cmsgs := decodeCmsgs_encoded (front ++ [record.cmsg.length.toUInt8]) record.payload listed
    have number : record.cmsg.length.toUInt8.toNat = record.cmsg.length := octet_value few
    have tag : (front ++ ([record.cmsg.length.toUInt8] ++ (parts.flatten ++ record.payload)))[front.length]? =
        some record.cmsg.length.toUInt8 := by simp
    rw [List.append_assoc,List.append_assoc]
    rw [List.append_assoc,List.length_append,List.length_singleton] at cmsgs
    rw [decodeDgram,address,codec_ok_bind]
    dsimp only
    rw [tag]
    dsimp only
    rw [number,cmsgs,codec_ok_bind]
    simp
  · cases counted

theorem decodeCmsgs_framed (data : List UInt8) (count offset : Nat) : Framed (decodeCmsgs data count offset) := by
  induction count generalizing offset with
  | zero => exact Framed.ok _
  | succ count ih =>
    rw [decodeCmsgs]
    split
    · exact Framed.error _
    · dsimp only
      split
      · exact Framed.error _
      · exact (ih _).bind (fun _ => Framed.ok _)

theorem decodeAddress_framed (inet : Inet) (data : List UInt8) : Framed (decodeAddress inet data) := by
  unfold decodeAddress
  split
  · exact Framed.error _
  · repeat' split
    all_goals first | exact Framed.ok _ | exact Framed.error _

theorem decodeDgram_framed (inet : Inet) (data : List UInt8) : Framed (decodeDgram inet data) := by
  refine (decodeAddress_framed inet data).bind fun found => ?_
  obtain ⟨address,offset⟩ := found
  dsimp only
  cases data[offset]? with
  | none => exact Framed.error _
  | some ncmsg => exact (decodeCmsgs_framed _ _ _).bind (fun _ => Framed.ok _)

@[simp] theorem EtherType.fromInt_value (ethertype : EtherType) : EtherType.fromInt ethertype.value = ethertype := by
  cases ethertype with
  | unknown value fresh => exact dif_neg fresh
  | _ => rfl

theorem PacketType.ofValue_value (pkttype : PacketType) : PacketType.ofValue pkttype.value = .ok pkttype := by
  cases pkttype <;> rfl

theorem PacketType.ofValue_known {code : Nat} (small : code ≤ 4) : ∃ pkttype, PacketType.ofValue code = .ok pkttype := by
  interval_cases code <;> exact ⟨_,rfl⟩

theorem decodePacket_encoded (packed : encodePacket sockaddr frame = .ok blob)
    (typed : sockaddr.ethertype = .member ethertype) : decodePacket blob = .ok (sockaddr,frame) := by
  simp only [encodePacket,codec_bind_ok] at packed
  obtain ⟨ifindex,indexed,kind,kinded,pkttype,packeted,whole⟩ := packed
  cases whole
  obtain ⟨four,indexValue⟩ := toBytes_ok indexed
  obtain ⟨two,kindValue⟩ := toBytes_ok kinded
  obtain ⟨one,packetValue⟩ := toBytes_ok packeted
  have six : (beBytes 6 sockaddr.mac.toNat).length = 6 := beBytes_length _ _
  generalize mac : beBytes 6 sockaddr.mac.toNat = octets at six ⊢
  have shape : ifindex ++ kind ++ pkttype ++ octets ++ frame = ifindex ++ (kind ++ (pkttype ++ (octets ++ frame))) := by simp
  rw [shape]
  have atIndex : slice (ifindex ++ (kind ++ (pkttype ++ (octets ++ frame)))) 0 4 = ifindex :=
    slice_at [] ifindex _ _ _ rfl (by omega)
  have atKind : slice (ifindex ++ (kind ++ (pkttype ++ (octets ++ frame)))) 4 6 = kind :=
    slice_at ifindex kind _ _ _ (by omega) (by omega)
  have atType : slice (ifindex ++ (kind ++ (pkttype ++ (octets ++ frame)))) 6 7 = pkttype := by
    have field := slice_at (ifindex ++ kind) pkttype (octets ++ frame) 6 7 (by simp; omega) (by omega)
    simpa using field
  have atMac : slice (ifindex ++ (kind ++ (pkttype ++ (octets ++ frame)))) 7 13 = octets := by
    have field := slice_at (ifindex ++ kind ++ pkttype) octets frame 7 13 (by simp; omega) (by omega)
    simpa using field
  have long : ¬(ifindex ++ (kind ++ (pkttype ++ (octets ++ frame)))).length < packetHeaderLen := by
    simp [packetHeaderLen]
    omega
  have behind : (ifindex ++ (kind ++ (pkttype ++ (octets ++ frame)))).drop packetHeaderLen = frame := by
    have cut : (ifindex ++ kind ++ pkttype ++ octets ++ frame).drop packetHeaderLen = frame :=
      List.drop_left' (by simp [packetHeaderLen]; omega)
    simpa using cut
  have code : beNat pkttype = sockaddr.pkttype.value := Int.ofNat.inj packetValue
  have address : BitVec.ofNat 48 (beNat octets) = sockaddr.mac := by
    rw [← mac,beNat_beBytes 6 _ (by have := sockaddr.mac.isLt; omega)]
    simp
  rw [decodePacket,if_neg long,atIndex,atKind,atType,atMac,behind,code,PacketType.ofValue_value,codec_ok_bind,
    indexValue,kindValue,address,typed]
  simp only [Filter.value,EtherType.fromInt_value]
  rw [← typed]
  rfl

-- A header with one of the five packet types, or none at all.
def PacketFramed (data : List UInt8) : Prop := ∀ octet, packetHeaderLen ≤ data.length → data[6]? = some octet → octet.toNat ≤ 4

theorem decodePacket_framed (plain : PacketFramed data) : Framed (decodePacket data) := by
  unfold decodePacket
  split
  · exact Framed.error _
  · next long =>
    have enough : packetHeaderLen ≤ data.length := by omega
    have inside : 6 < data.length := by
      unfold packetHeaderLen at enough
      omega
    have octet : slice data 6 7 = [data[6]] := by
      apply List.ext_getElem?
      intro i
      rw [slice_getElem?]
      rcases i with _ | i
      · simp [inside]
      · simp
        omega
    have small := plain data[6] enough (List.getElem?_eq_getElem inside)
    have known : beNat (slice data 6 7) ≤ 4 := by
      rw [octet]
      simpa [beNat] using small
    obtain ⟨pkttype,found⟩ := PacketType.ofValue_known known
    rw [found]
    exact Framed.ok _

theorem pumpTx_malformed {decode : List UInt8 → Codec ρ} (send : ρ → Codec Unit) (framed : Framed (decode blob))
    (malformed : ∀ record, decode blob ≠ .ok record) : pumpTx decode send blob = .running := by
  unfold pumpTx
  split
  · rfl
  · obtain ⟨record,found⟩ | ⟨message,raised⟩ := framed
    · exact absurd found (malformed record)
    · rw [raised]

-- What the encoders accept comes back as it was, and what no encoder wrote
-- ends in the codec's own error; the packet frames so only with one of the
-- five packet types in their header.
theorem frames_come_back (inet : Inet) :
    (∀ record blob, encodeDgram inet record = .ok blob →
      (∀ host port, record.address = some (host,port) → inet.Canonical host) → decodeDgram inet blob = .ok record) ∧
    (∀ blob, Framed (decodeDgram inet blob)) ∧
    (∀ send blob, (∀ record, decodeDgram inet blob ≠ .ok record) → pumpTx (decodeDgram inet) send blob = .running) ∧
    (∀ sockaddr ethertype frame blob, encodePacket sockaddr frame = .ok blob → sockaddr.ethertype = .member ethertype →
      decodePacket blob = .ok (sockaddr,frame)) ∧
    (∀ blob, PacketFramed blob → Framed (decodePacket blob)) ∧
    (∀ send blob, PacketFramed blob → (∀ record, decodePacket blob ≠ .ok record) → pumpTx decodePacket send blob = .running) := by
  refine ⟨?_,decodeDgram_framed inet,?_,?_,?_,?_⟩
  · intro record blob packed canonical
    exact decodeDgram_encoded inet packed canonical
  · intro send blob malformed
    exact pumpTx_malformed send (decodeDgram_framed inet blob) malformed
  · intro sockaddr ethertype frame blob packed typed
    exact decodePacket_encoded packed typed
  · intro blob plain
    exact decodePacket_framed plain
  · intro send blob plain malformed
    exact pumpTx_malformed send (decodePacket_framed plain) malformed

-- The conversions at two addresses and in two spellings of one of them.
def loopbackPton4 (host : String) : Option (List UInt8) := if host = "127.0.0.1" then some [127,0,0,1] else none

def loopbackPton6 (host : String) : Option (List UInt8) :=
  if host = "::1" ∨ host = "0::1" then some (List.replicate 15 0 ++ [1]) else none

theorem loopbackPton4_length (found : loopbackPton4 host = some packed) : packed.length = 4 := by
  unfold loopbackPton4 at found
  split at found <;> cases found
  rfl

theorem loopbackPton6_length (found : loopbackPton6 host = some packed) : packed.length = 16 := by
  unfold loopbackPton6 at found
  split at found <;> cases found
  rfl

def loopbackInet : Inet where
  pton4 := loopbackPton4
  pton6 := loopbackPton6
  ntop4 packed := ".".intercalate (packed.map fun b => toString b.toNat)
  ntop6 packed := if packed = List.replicate 15 0 ++ [1] then "::1" else "::"
  pton4_length := loopbackPton4_length
  pton6_length := loopbackPton6_length

theorem frames_come_back_loopback :
    decodeDgram loopbackInet ([6,0,53] ++ List.replicate 15 0 ++ [1,1,0,41,0,67,0,1,7,104,105]) =
      .ok ⟨some ("::1",53),[⟨41,67,[7]⟩],[104,105]⟩ ∧
    decodePacket [0,0,0,1,8,6,1,255,255,255,255,255,255,9] =
      .ok (⟨1,.member .arp,.broadcast,BitVec.allOnes 48⟩,[9]) := by
  obtain ⟨datagrams,-,-,packets,-,-⟩ := frames_come_back loopbackInet
  refine ⟨datagrams _ _ (by decide +kernel) ?_,packets _ .arp _ _ (by decide +kernel) rfl⟩
  rintro host port same
  cases same
  intro packed found
  cases found
  decide +kernel

-- The default address carries a plain integer, which comes back as a member;
-- another spelling of a host comes back in the platform's own; and a packet type
-- without a name raises what the pump does not catch.
theorem frames_differ :
    (¬∀ inet record blob, encodeDgram inet record = .ok blob → decodeDgram inet blob = .ok record) ∧
    (¬∀ sockaddr frame blob, encodePacket sockaddr frame = .ok blob → decodePacket blob = .ok (sockaddr,frame)) ∧
    (¬∀ blob, Framed (decodePacket blob)) ∧
    pumpTx decodePacket (fun _ => .ok ()) [0,0,0,1,8,6,9,255,255,255,255,255,255,9] = .ended := by
  refine ⟨?_,?_,?_,by decide +kernel⟩
  · intro all
    have spelled := all loopbackInet ⟨some ("0::1",53),[],[]⟩ ([6,0,53] ++ List.replicate 15 0 ++ [1,0]) (by decide +kernel)
    exact absurd spelled (by decide +kernel)
  · intro all
    have plain := all {} [] [0,0,0,0,0,3,0,0,0,0,0,0,0] (by decide +kernel)
    exact absurd plain (by decide +kernel)
  · intro all
    obtain ⟨value,found⟩ | ⟨message,raised⟩ := all [0,0,0,1,8,6,9,255,255,255,255,255,255,9]
    · have refused : decodePacket [0,0,0,1,8,6,9,255,255,255,255,255,255,9] = .error .valueError := by decide +kernel
      rw [refused] at found
      cases found
    · have refused : decodePacket [0,0,0,1,8,6,9,255,255,255,255,255,255,9] = .error .valueError := by decide +kernel
      rw [refused] at raised
      cases raised

end PmdPytcp.Ipc
