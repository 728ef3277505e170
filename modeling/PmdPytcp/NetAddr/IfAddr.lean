import PmdPytcp.NetAddr.Text

namespace PmdPytcp.NetAddr
open Split

structure Ip4Address where
  value : Nat
  below : value < 2^32
deriving DecidableEq

-- `_is_zoneable`: link-local, loopback, or multicast of a scope that is not global
def zoneable (value : Nat) : Bool :=
  value/2^118 = 0x3fa ∨ value = 1 ∨ (value/2^120 = 0xff ∧ 0 < value/2^112 % 16 ∧ value/2^112 % 16 < 0xe)

-- What the address constructor lets through as a zone.
structure Zone (value : Nat) (zone : Text) : Prop where
  scope : zoneable value = true
  nonempty : zone ≠ []
  single : percent ∉ zone
  closed : ∀ c, zone.getLast? = some c → isSpace c = false

structure Ip6Address where
  value : Nat
  scopeId : Option Text
  below : value < 2^128
  zoned : ∀ zone, scopeId = some zone → Zone value zone

structure IpMask (v : IpVersion) where
  len : Nat
  shorter : len ≤ v.bits

def IpMask.value (mask : IpMask v) : Nat := 2^v.bits - 2^(v.bits - mask.len)

def IpNetwork.masked (value : Nat) (below : value < 2^v.bits) (mask : IpMask v) : IpNetwork v where
  address := value / 2^(v.bits - mask.len)*2^(v.bits - mask.len)
  prefixLen := mask.len
  shorter := mask.shorter
  below := IpNetwork.masked_below below (v.bits - mask.len)
  aligned := IpNetwork.masked_aligned value (v.bits - mask.len)

-- `_is_contiguous_mask`, with the length of the mask found
def contiguousMask (v : IpVersion) (value : Nat) : Option (IpMask v) :=
  ((List.range (v.bits + 1)).filterMap fun len => if shorter : len ≤ v.bits then some ⟨len,shorter⟩ else none).find?
    fun mask => mask.value = value

-- What the platform gives: the conversions of IPv6 texts, where the parser takes
-- back what the printer wrote, and `int()` of a text.
structure Platform where
  pton6 : Text → Option (Fin (2^128))
  ntop6 : Fin (2^128) → Text
  parseInt : Text → Option Int
  pton6_ntop6 : pton6 (ntop6 n) = some n
  ntop6_plain : ∀ c ∈ ntop6 n, isDigit c = true ∨ c ∈ [dot,0x3a,0x61,0x62,0x63,0x64,0x65,0x66]

inductive Raised where
  | netAddrError
  | valueError
  | typeError
deriving DecidableEq,Repr

-- NUL and the surrogates have no C string.
def unencodable (c : Nat) : Bool := c = 0 ∨ (0xd800 ≤ c ∧ c ≤ 0xdfff)

-- `socket.inet_pton(AF_INET6, t)`, with none for its `OSError`
def Platform.inetPton (p : Platform) (t : Text) : Except Raised (Option (Fin (2^128))) :=
  if t.any unencodable then .error .valueError else .ok (p.pton6 t)

-- The arguments a constructor can be handed. An interface address keeps
-- whatever object its constructor stored as its address.
inductive Obj where
  | none
  | int (n : Int)
  | str (t : Text)
  | ip4Address (a : Ip4Address)
  | ip6Address (a : Ip6Address)
  | mask (v : IpVersion) (mask : IpMask v)
  | network (v : IpVersion) (network : IpNetwork v)
  | ifAddr (v : IpVersion) (address : Obj) (network : IpNetwork v)
  | tuple (items : List Obj)
  | other (asInt : Option Int)

-- `int(obj)`
def objInt (p : Platform) : Obj → Except Raised Int
  | .int n => .ok n
  | .str t =>
    match p.parseInt t with
    | some n => .ok n
    | Option.none => .error .valueError
  | .ip4Address a => .ok a.value
  | .ip6Address a => .ok a.value
  | .mask _ mask => .ok mask.value
  | .other (some n) => .ok n
  | _ => .error .typeError

-- `obj in network`
def IpNetwork.holds (p : Platform) (network : IpNetwork v) : Obj → Except Raised Bool
  | .ip4Address a => .ok (v = .ip4 && network.contains a.value)
  | .ip6Address a => .ok (v = .ip6 && network.contains a.value)
  | .ifAddr w address _ =>
    if v = w then do
      let value ← objInt p address
      return decide ((network.address : Int) ≤ value ∧ value ≤ network.last)
    else .ok false
  | _ => .ok false

theorem zone_accepted (parted : partition percent (stripped t) = (part,some zone)) (fine : ¬(zone = [] ∨ percent ∈ zone))
    (scope : zoneable n = true) : ∀ z, some zone = some z → Zone n z := by
  intro z same
  cases same
  rw [not_or] at fine
  refine ⟨scope,fine.1,fine.2,?_⟩
  intro c last
  have whole : (strip isSpace t).getLast? = some c := by
    change (stripped t).getLast? = some c
    rw [(partition_some parted).1,List.getLast?_append,List.getLast?_cons,last]
    rfl
  exact strip_last whole

theorem no_zone (n : Nat) : ∀ z, (none : Option Text) = some z → Zone n z := by
  intro z never
  cases never

def ip6AddressOfText (p : Platform) (t : Text) : Except Raised Ip6Address :=
  match parted : partition percent (stripped t) with
  | (part,none) =>
    match p.inetPton part with
    | .error e => .error e
    | .ok none => .error .netAddrError
    | .ok (some n) => .ok ⟨n,none,n.isLt,no_zone n⟩
  | (part,some zone) =>
    if refused : zone = [] ∨ percent ∈ zone then .error .netAddrError
    else
      match p.inetPton part with
      | .error e => .error e
      | .ok none => .error .netAddrError
      | .ok (some n) =>
        if scope : zoneable n = true then .ok ⟨n,some zone,n.isLt,zone_accepted parted refused scope⟩
        else .error .netAddrError

def ip4AddressOfText (t : Text) : Option Ip4Address :=
  match parsed : parseIp4DottedDecimal (stripped t) with
  | some n => some ⟨n,parseIp4_below parsed⟩
  | none => none

def ip6MaskOfText (t : Text) : Option (IpMask .ip6) :=
  match found : prefixOfText .ip6 (stripped t) with
  | some len => some ⟨len,prefixOfText_le found⟩
  | none => none

def ip4MaskOfText (t : Text) : Option (IpMask .ip4) :=
  match found : prefixOfText .ip4 (stripped t) with
  | some len => some ⟨len,prefixOfText_le found⟩
  | none =>
    match parseIp4DottedDecimal (stripped t) with
    | some value => contiguousMask .ip4 value
    | none => none

-- `str.isdigit`; the digits outside ASCII make no mask with or without a slash
def allDigits (t : Text) : Bool := t ≠ [] && t.all isDigit

def ip4NetworkOf (address : Text) (mask : Option (IpMask .ip4)) : Option (IpNetwork .ip4) := do
  let mask ← mask
  let address ← ip4AddressOfText address
  return IpNetwork.masked address.value address.below mask

def ip4NetworkOfText (t : Text) : Option (IpNetwork .ip4) :=
  match partition slash (stripped t) with
  | (address,some mask) =>
    if slash ∈ mask then none
    else ip4NetworkOf address (ip4MaskOfText (if allDigits mask then slash :: mask else mask))
  | (_,none) =>
    match partition space (stripped t) with
    | (address,some mask) => ip4NetworkOf address (ip4MaskOfText mask)
    | (address,none) => ip4NetworkOf address (ip4MaskOfText (slash :: decimal 32))

structure IfAddr (v : IpVersion) where
  address : Obj
  network : IpNetwork v

def ip4IfAddrOfText (t : Text) : Except Raised (IfAddr .ip4) :=
  let text := stripped t
  let address := if slash ∈ text then (partition slash text).1 else (partition space text).1
  match ip4AddressOfText address with
  | none => .error .netAddrError
  | some a =>
    match ip4NetworkOfText text with
    | none => .error .netAddrError
    | some network => .ok ⟨.ip4Address a,network⟩

def ip4IfAddrOfPair (p : Platform) (address : Obj) : Obj → Except Raised (IfAddr .ip4)
  | .network .ip4 network => do
    if ← network.holds p address then .ok ⟨address,network⟩ else .error .netAddrError
  | .mask .ip4 mask =>
    match address with
    | .ip4Address a => .ok ⟨address,IpNetwork.masked a.value a.below mask⟩
    | _ => .error .netAddrError
  | _ => .error .netAddrError

def ip4IfAddr (p : Platform) : Obj → Except Raised (IfAddr .ip4)
  | .ifAddr .ip4 address network => .ok ⟨address,network⟩
  | .tuple items =>
    match items with
    | [address,other] => ip4IfAddrOfPair p address other
    | _ => .error .valueError
  | .str t => ip4IfAddrOfText t
  | _ => .error .netAddrError

def fullMask : IpMask .ip6 := ⟨128,Nat.le_refl _⟩

def ip6IfAddrOfText (p : Platform) (t : Text) : Except Raised (IfAddr .ip6) :=
  let parts := partition slash (stripped t)
  match ip6AddressOfText p parts.1 with
  | .error e => .error e
  | .ok a =>
    match (match parts.2 with
      | some mask => ip6MaskOfText (slash :: mask)
      | none => some fullMask) with
    | none => .error .netAddrError
    | some mask => .ok ⟨.ip6Address a,IpNetwork.masked a.value a.below mask⟩

def ip6IfAddrOfPair (p : Platform) (address : Obj) : Obj → Except Raised (IfAddr .ip6)
  | .network .ip6 network => do
    if ← network.holds p address then .ok ⟨address,network⟩ else .error .netAddrError
  | .mask .ip6 mask => do
    let value ← objInt p address
    if inside : 0 ≤ value ∧ value.toNat < 2^128 then .ok ⟨address,IpNetwork.masked value.toNat inside.2 mask⟩
    else .error .netAddrError
  | _ => .error .netAddrError

def ip6IfAddr (p : Platform) : Obj → Except Raised (IfAddr .ip6)
  | .ifAddr .ip6 address network => .ok ⟨address,network⟩
  | .tuple items =>
    match items with
    | [address,other] => ip6IfAddrOfPair p address other
    | _ => .error .valueError
  | .str t => ip6IfAddrOfText p t
  | _ => .error .netAddrError

def ip6Str (p : Platform) (a : Ip6Address) : Text :=
  match a.scopeId with
  | none => p.ntop6 ⟨a.value,a.below⟩
  | some zone => p.ntop6 ⟨a.value,a.below⟩ ++ percent :: zone

def ifAddrStr (address : Text) (network : IpNetwork v) : Text := address ++ slash :: decimal network.prefixLen

end PmdPytcp.NetAddr
