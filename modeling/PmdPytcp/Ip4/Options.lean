import PmdPytcp.TcpParser

namespace PmdPytcp.Ip4
open InetCksum Buffer

def ip4IntegrityError (message : String) : PyError :=
  .packetIntegrity ("[INTEGRITY ERROR]" ++ ("[IPv4] " ++ message)) none

-- `Ip4Address(bytes)`
def ip4Address (bytes : List UInt8) : Py Nat :=
  if bytes.length = 4 then .ok (beNat bytes) else .error .netAddrError

structure Ip4TimestampEntry where
  timestamp : Nat
  address : Option Nat
deriving Repr,DecidableEq

inductive Ip4Option where
  | eol
  | nop
  | rr (pointer : Nat) (route : List Nat)
  | timestamp (pointer overflow flag : Nat) (entries : List Ip4TimestampEntry)
  | cipso (doi : Nat) (tags : List (List UInt8))
  | lsrr (pointer : Nat) (route : List Nat)
  | ssrr (pointer : Nat) (route : List Nat)
  | routerAlert (value : Nat)
  | unknown (type : Nat) (data : List UInt8)
deriving Repr,DecidableEq

def entryLenForFlag (flag : Nat) : Nat := if flag ∈ [1,3] then 8 else 4

def Ip4Option.len : Ip4Option → Nat
  | .eol => 1
  | .nop => 1
  | .rr _ route => 3 + 4*route.length
  | .timestamp _ _ flag entries => 4 + entryLenForFlag flag * entries.length
  | .cipso _ tags => 6 + (tags.map List.length).sum
  | .lsrr _ route => 3 + 4*route.length
  | .ssrr _ route => 3 + 4*route.length
  | .routerAlert _ => 4
  | .unknown _ data => 2 + data.length

def knownTypes : List Nat := [0,1,7,68,134,131,137,148]

def optionPrefix (minimum kind : Nat) (buffer : List UInt8) : Py Unit := do
  pyAssert (minimum ≤ buffer.length)
  let value ← byteAt buffer 0
  pyAssert (value = kind)

def fitsBuffer (name : String) (buffer : List UInt8) : Py Unit := do
  let value ← byteAt buffer 1
  if value > buffer.length then
    throw (ip4IntegrityError s!"The {name} option length value must be less than or equal to the length of provided bytes ({buffer.length}). Got: {value}")

def eolFromBuffer (buffer : List UInt8) : Py Ip4Option := do
  optionPrefix 1 0 buffer
  return .eol

def nopFromBuffer (buffer : List UInt8) : Py Ip4Option := do
  optionPrefix 1 1 buffer
  return .nop

-- Record Route and the two source routes read and check alike.
def routeFromBuffer (name : String) (kind : Nat) (buffer : List UInt8) : Py (Nat × List Nat) := do
  optionPrefix 7 kind buffer
  let value ← byteAt buffer 1
  if value < 7 then
    throw (ip4IntegrityError s!"The {name} option length must be at least 7 bytes. Got: {value}")
  if (value - 3) % 4 ≠ 0 then
    throw (ip4IntegrityError s!"The {name} option route data length must be a multiple of 4 bytes. Got: {value}")
  fitsBuffer name buffer
  let pointer ← byteAt buffer 2
  if pointer < 4 then
    throw (ip4IntegrityError s!"The {name} option pointer must be at least 4. Got: {pointer}")
  if (pointer - 4) % 4 ≠ 0 then
    throw (ip4IntegrityError s!"The {name} option pointer must be aligned to the 4-byte slot boundary. Got: {pointer}")
  let route ← (strides 3 value 4).mapM fun offset => ip4Address (slice buffer offset (offset+4))
  pyAssert (isUint 8 pointer)
  pyAssert (4 ≤ pointer)
  pyAssert ((pointer - 4) % 4 = 0)
  pyAssert (1 ≤ route.length)
  pyAssert (isUint 8 (3 + 4*route.length))
  return (pointer,route)

def lsrrFromBuffer (buffer : List UInt8) : Py Ip4Option := do
  let (pointer,route) ← routeFromBuffer "IPv4 Lsrr" 131 buffer
  return .lsrr pointer route

def ssrrFromBuffer (buffer : List UInt8) : Py Ip4Option := do
  let (pointer,route) ← routeFromBuffer "IPv4 Ssrr" 137 buffer
  return .ssrr pointer route

def rrFromBuffer (buffer : List UInt8) : Py Ip4Option := do
  let (pointer,route) ← routeFromBuffer "IPv4 Record Route" 7 buffer
  return .rr pointer route

def routerAlertFromBuffer (buffer : List UInt8) : Py Ip4Option := do
  optionPrefix 4 148 buffer
  let value ← byteAt buffer 1
  if value ≠ 4 then
    throw (ip4IntegrityError s!"The IPv4 Router Alert option length value must be 4 bytes. Got: {value}")
  fitsBuffer "IPv4 Router Alert" buffer
  let value := beNat (slice buffer 2 4)
  pyAssert (isUint 16 value)
  return .routerAlert value

def timestampEntry (entryLen : Nat) (buffer : List UInt8) (offset : Nat) : Py Ip4TimestampEntry :=
  if entryLen = 8 then do
    let address ← ip4Address (slice buffer offset (offset+4))
    return ⟨beNat (slice buffer (offset+4) (offset+8)),some address⟩
  else return ⟨beNat (slice buffer offset (offset+4)),none⟩

def timestampFromBuffer (buffer : List UInt8) : Py Ip4Option := do
  optionPrefix 4 68 buffer
  let flags ← byteAt buffer 3
  let flag := flags &&& 0x0F
  if flag ∉ [0,1,3] then
    throw (ip4IntegrityError s!"The IPv4 Timestamp option flag value must be one of \x7b0, 1, 3\x7d. Got: {flag}")
  let entryLen := entryLenForFlag flag
  let minLen := 4 + entryLen
  let value ← byteAt buffer 1
  if value < minLen then
    throw (ip4IntegrityError s!"The IPv4 Timestamp option length must be at least {minLen} bytes for flag={flag}. Got: {value}")
  if (value - 4) % entryLen ≠ 0 then
    throw (ip4IntegrityError s!"The IPv4 Timestamp option entries length must be a multiple of {entryLen} bytes for flag={flag}. Got: {value}")
  fitsBuffer "IPv4 Timestamp" buffer
  let pointer ← byteAt buffer 2
  if pointer < 5 then
    throw (ip4IntegrityError s!"The IPv4 Timestamp option pointer must be at least 5. Got: {pointer}")
  if (pointer - 5) % entryLen ≠ 0 then
    throw (ip4IntegrityError s!"The IPv4 Timestamp option pointer must be aligned to the {entryLen}-byte entry boundary for flag={flag}. Got: {pointer}")
  let overflow := (flags >>> 4) &&& 0x0F
  let entries ← (strides 4 value entryLen).mapM (timestampEntry entryLen buffer)
  pyAssert (isUint 8 pointer)
  pyAssert (5 ≤ pointer)
  pyAssert (overflow ≤ 15)
  pyAssert (flag ∈ [0,1,3])
  pyAssert ((pointer - 5) % entryLen = 0)
  pyAssert (1 ≤ entries.length)
  pyAssert (if flag = 0 then entries.all (·.address.isNone) else entries.all (·.address.isSome))
  pyAssert (isUint 8 (4 + entryLen*entries.length))
  return .timestamp pointer overflow flag entries

-- The tag walk of `Ip4OptionCipso._validate_integrity`.
def validateTags (buffer : List UInt8) (stop offset : Nat) : Py Unit :=
  if _ : offset < stop then
    if stop - offset < 2 then
      .error (ip4IntegrityError s!"An IPv4 CIPSO tag must be at least 2 bytes (type + length). Got remaining: {stop - offset}")
    else match byteAt buffer (offset+1) with
      | .error e => .error e
      | .ok tagLen =>
        if _ : tagLen < 2 then
          .error (ip4IntegrityError s!"An IPv4 CIPSO tag's length byte must be at least 2. Got: {tagLen}")
        else if offset + tagLen > stop then
          .error (ip4IntegrityError s!"An IPv4 CIPSO tag's length byte must not extend past the option boundary. Got tag at offset {offset}: tag_len={tagLen}, option_end={stop}")
        else validateTags buffer stop (offset + tagLen)
  else .ok ()
termination_by stop - offset

-- The reading loop behind it; a tag of length zero would never end it.
def readTags (buffer : List UInt8) (stop offset : Nat) : Nat → Py (List (List UInt8))
  | 0 => .ok []
  | fuel+1 =>
    if offset < stop then do
      let tagLen ← byteAt buffer (offset+1)
      let rest ← readTags buffer stop (offset + tagLen) fuel
      return slice buffer offset (offset + tagLen) :: rest
    else .ok []

def tagSound (tag : List UInt8) : Bool :=
  decide (2 ≤ tag.length) && ((tag[1]?.getD 0).toNat == tag.length)

def cipsoFromBuffer (buffer : List UInt8) : Py Ip4Option := do
  optionPrefix 6 134 buffer
  let value ← byteAt buffer 1
  if value < 6 then
    throw (ip4IntegrityError s!"The IPv4 CIPSO option length must be at least 6 bytes. Got: {value}")
  fitsBuffer "IPv4 CIPSO" buffer
  validateTags buffer value 6
  let doi := beNat (slice buffer 2 6)
  let tags ← readTags buffer value 6 (value - 6)
  pyAssert (isUint 32 doi)
  pyAssert (tags.all tagSound)
  pyAssert (6 + (tags.map List.length).sum ≤ 255)
  return .cipso doi tags

def unknownFromBuffer (buffer : List UInt8) : Py Ip4Option := do
  pyAssert (2 ≤ buffer.length)
  let kind ← byteAt buffer 0
  pyAssert (kind ∉ knownTypes)
  let value ← byteAt buffer 1
  if value > buffer.length then
    throw (ip4IntegrityError s!"The unknown IPv4 option length value must be less than or equal to the length of provided bytes ({buffer.length}). Got: {value}")
  let data := slice buffer 2 value
  pyAssert (isUint 8 (2 + data.length))
  return .unknown kind data

def optionFromBuffer (buffer : List UInt8) : Py Ip4Option :=
  match buffer.head? with
  | some 0 => eolFromBuffer buffer
  | some 1 => nopFromBuffer buffer
  | some 131 => lsrrFromBuffer buffer
  | some 137 => ssrrFromBuffer buffer
  | some 148 => routerAlertFromBuffer buffer
  | some 7 => rrFromBuffer buffer
  | some 68 => timestampFromBuffer buffer
  | some 134 => cipsoFromBuffer buffer
  | _ => unknownFromBuffer buffer

theorem len_pos (option : Ip4Option) : 0 < option.len := by
  cases option <;> simp only [Ip4Option.len] <;> omega

-- `Ip4Options.from_buffer`, from `offset` on.
def optionsFromBuffer (buffer : List UInt8) (offset : Nat) : Py (List Ip4Option) :=
  if _ : offset < buffer.length then
    match optionFromBuffer (buffer.drop offset) with
    | .error e => .error e
    | .ok .eol => .ok [.eol]
    | .ok option =>
      match optionsFromBuffer buffer (offset + option.len) with
      | .error e => .error e
      | .ok rest => .ok (option :: rest)
  else .ok []
termination_by buffer.length - offset
decreasing_by
  have := len_pos option
  omega

-- `Ip4Options.validate_integrity`, from `offset` on.
def validateOptions (frame : List UInt8) (hlen offset : Nat) : Py Unit :=
  if _ : offset < hlen then
    match byteAt frame offset with
    | .error e => .error e
    | .ok 0 => .ok ()
    | .ok 1 => validateOptions frame hlen (offset+1)
    | .ok _ =>
      match byteAt frame (offset+1) with
      | .error e => .error e
      | .ok value =>
        if _ : value < 2 then
          .error (ip4IntegrityError s!"The IPv4 option length must be greater than 1. Got: {value}.")
        else if hlen < offset + value then
          .error (ip4IntegrityError s!"The IPv4 option length must not extend past the header length. Got: offset={offset+value}, hlen={hlen}")
        else validateOptions frame hlen (offset + value)
  else .ok ()
termination_by hlen - offset

-- `Ip4Options.__len__`
def optionsLen (options : List Ip4Option) : Nat := (options.map Ip4Option.len).sum

-- The room that an option constructor asserts before it looks at anything.
def minimum (kind : UInt8) : Nat :=
  if kind ∈ [7,131,137] then 7 else if kind = 134 then 6 else if kind ∈ [68,148] then 4 else 2

-- Past the walk an option that has its room either reads, with its own wire
-- length, or is rejected as malformed.
def Reads (result : Py Ip4Option) (len : Nat) : Prop :=
  (∃ option, result = .ok option ∧ option.len = len ∧ option ≠ .eol) ∨
    ∃ message, result = .error (ip4IntegrityError message)

section Options
variable {k l : UInt8} {rest : List UInt8}

theorem byteAt_length : byteAt (k :: l :: rest) 1 = .ok l.toNat := rfl

theorem optionPrefix_room (room : least ≤ (k :: l :: rest).length) :
    optionPrefix least k.toNat (k :: l :: rest) = .ok () := by
  simp only [optionPrefix,room,decide_true,pyAssert_true,ok_bind]
  simp [byteAt]

theorem optionPrefix_cramped (short : (k :: l :: rest).length < least) :
    optionPrefix least kind (k :: l :: rest) = .error .assertionError := by
  have none : ¬least ≤ (k :: l :: rest).length := by omega
  simp only [optionPrefix,none,decide_false]
  rfl

theorem fitsBuffer_fits (name : String) (fits : l.toNat ≤ (k :: l :: rest).length) :
    fitsBuffer name (k :: l :: rest) = .ok () := by
  simp only [fitsBuffer,byteAt_length,ok_bind,gt_iff_lt,Nat.not_lt.mpr fits,if_false]
  rfl

theorem byteAt_ok (buffer : List UInt8) (inside : offset < buffer.length) :
    ∃ b : UInt8, byteAt buffer offset = .ok b.toNat :=
  ⟨buffer[offset],by simp [byteAt,inside]⟩

theorem ip4Address_slice (buffer : List UInt8) (inside : offset + 4 ≤ buffer.length) :
    ip4Address (slice buffer offset (offset+4)) = .ok (beNat (slice buffer offset (offset+4))) := by
  have size := slice_length buffer offset (offset+4) inside
  simp only [ip4Address]
  rw [if_pos (by omega)]

theorem route_reads (name : String) (room : 7 ≤ (k :: l :: rest).length)
    (fits : l.toNat ≤ (k :: l :: rest).length) :
    (∃ pointer route, routeFromBuffer name k.toNat (k :: l :: rest) = .ok (pointer,route) ∧
      3 + 4*route.length = l.toNat) ∨
    ∃ message, routeFromBuffer name k.toNat (k :: l :: rest) = .error (ip4IntegrityError message) := by
  have byte := l.toNat_lt
  obtain ⟨p,pointer⟩ := @byteAt_ok 2 (k :: l :: rest) (by omega)
  have small : isUint 8 p.toNat = true := by simpa [isUint] using p.toNat_lt
  simp only [routeFromBuffer,optionPrefix_room room,byteAt_length,ok_bind,fitsBuffer_fits name fits,pointer]
  by_cases short : l.toNat < 7
  · exact .inr ⟨_,by simp only [if_pos short]; rfl⟩
  by_cases whole : (l.toNat - 3) % 4 = 0
  case neg => exact .inr ⟨_,by simp only [if_neg short,if_pos whole]; rfl⟩
  by_cases low : p.toNat < 4
  · exact .inr ⟨_,by simp only [if_neg short,whole,ne_eq,not_true_eq_false,if_false,if_pos low]; rfl⟩
  by_cases aligned : (p.toNat - 4) % 4 = 0
  case neg =>
    exact .inr ⟨_,by simp only [if_neg short,whole,ne_eq,not_true_eq_false,if_false,if_neg low,if_pos aligned]; rfl⟩
  have read : (strides 3 l.toNat 4).mapM (fun offset => ip4Address (slice (k :: l :: rest) offset (offset+4))) =
      .ok ((strides 3 l.toNat 4).map fun offset => beNat (slice (k :: l :: rest) offset (offset+4))) := by
    apply mapM_all_ok
    intro offset member
    have inside := mem_strides (by omega) whole (by omega) member
    exact ip4Address_slice _ (by omega)
  have count := @strides_length _ _ 4 (by omega) whole
  have some : 1 ≤ (strides 3 l.toNat 4).length := by omega
  have total : isUint 8 (3 + 4*(strides 3 l.toNat 4).length) = true := by
    simp only [isUint,decide_eq_true_eq]
    omega
  left
  simp only [if_neg short,whole,ne_eq,not_true_eq_false,if_false,if_neg low,aligned,read,ok_bind,small,
    Nat.not_lt.mp low,List.length_map,some,total,decide_true,pyAssert_true,pure_eq]
  exact ⟨_,_,rfl,by simp only [List.length_map]; omega⟩

theorem routerAlert_reads (room : 4 ≤ (148 :: l :: rest).length) (fits : l.toNat ≤ (148 :: l :: rest).length) :
    Reads (routerAlertFromBuffer (148 :: l :: rest)) l.toNat := by
  have opened : optionPrefix 4 148 (148 :: l :: rest) = .ok () := optionPrefix_room room
  have width := isUint_slice 16 2 4 (148 :: l :: rest) (by omega)
  simp only [routerAlertFromBuffer,opened,byteAt_length,ok_bind,fitsBuffer_fits _ fits,width,pyAssert_true,pure_eq]
  by_cases exact : l.toNat = 4
  · exact .inl ⟨.routerAlert (beNat (slice (148 :: l :: rest) 2 4)),by simp [exact],exact.symm,by simp⟩
  · exact .inr ⟨_,by simp only [ne_eq,exact,not_false_eq_true,if_true]; rfl⟩

def timestampEntryAt (entryLen : Nat) (buffer : List UInt8) (offset : Nat) : Ip4TimestampEntry :=
  if entryLen = 8 then
    ⟨beNat (slice buffer (offset+4) (offset+8)),some (beNat (slice buffer offset (offset+4)))⟩
  else ⟨beNat (slice buffer offset (offset+4)),none⟩

theorem timestampEntry_ok (buffer : List UInt8) (inside : offset + entryLen ≤ buffer.length) :
    timestampEntry entryLen buffer offset = .ok (timestampEntryAt entryLen buffer offset) := by
  unfold timestampEntry timestampEntryAt
  split
  · rw [ip4Address_slice buffer (by omega)]
    rfl
  · rfl

theorem timestampEntryAt_address (flag : Nat) (known : flag ∈ [0,1,3]) (buffer : List UInt8) (offsets : List Nat) :
    (if flag = 0 then (offsets.map (timestampEntryAt (entryLenForFlag flag) buffer)).all (·.address.isNone)
      else (offsets.map (timestampEntryAt (entryLenForFlag flag) buffer)).all (·.address.isSome)) = true := by
  simp only [List.mem_cons,List.not_mem_nil,or_false] at known
  rcases known with rfl | rfl | rfl
  · simp [entryLenForFlag,timestampEntryAt]
  · simp [entryLenForFlag,timestampEntryAt]
  · simp [entryLenForFlag,timestampEntryAt]

theorem timestamp_reads (room : 4 ≤ (68 :: l :: rest).length) (fits : l.toNat ≤ (68 :: l :: rest).length) :
    Reads (timestampFromBuffer (68 :: l :: rest)) l.toNat := by
  have opened : optionPrefix 4 68 (68 :: l :: rest) = .ok () := optionPrefix_room room
  have byte := l.toNat_lt
  obtain ⟨p,pointer⟩ := @byteAt_ok 2 (68 :: l :: rest) (by omega)
  obtain ⟨b,flags⟩ := @byteAt_ok 3 (68 :: l :: rest) (by omega)
  have small : isUint 8 p.toNat = true := by simpa [isUint] using p.toNat_lt
  have overflow : (b.toNat >>> 4) &&& 0x0F ≤ 15 := Nat.and_le_right
  simp only [timestampFromBuffer,opened,byteAt_length,ok_bind,fitsBuffer_fits _ fits,pointer,flags]
  generalize b.toNat &&& 0x0F = flag
  by_cases known : flag ∈ [0,1,3]
  case neg => exact .inr ⟨_,by simp only [known,not_false_eq_true,if_true]; rfl⟩
  have wide : entryLenForFlag flag = 4 ∨ entryLenForFlag flag = 8 := by
    unfold entryLenForFlag
    split
    · exact .inr rfl
    · exact .inl rfl
  have addressed := timestampEntryAt_address flag known (68 :: l :: rest)
  generalize width : entryLenForFlag flag = entryLen at wide addressed
  simp only [known,not_true_eq_false,if_false]
  by_cases short : l.toNat < 4 + entryLen
  · exact .inr ⟨_,by simp only [if_pos short]; rfl⟩
  by_cases whole : (l.toNat - 4) % entryLen = 0
  case neg => exact .inr ⟨_,by simp only [if_neg short,if_pos whole]; rfl⟩
  by_cases low : p.toNat < 5
  · exact .inr ⟨_,by simp only [if_neg short,whole,ne_eq,not_true_eq_false,if_false,if_pos low]; rfl⟩
  by_cases aligned : (p.toNat - 5) % entryLen = 0
  case neg =>
    exact .inr ⟨_,by simp only [if_neg short,whole,ne_eq,not_true_eq_false,if_false,if_neg low,if_pos aligned]; rfl⟩
  have read : (strides 4 l.toNat entryLen).mapM (timestampEntry entryLen (68 :: l :: rest)) =
      .ok ((strides 4 l.toNat entryLen).map (timestampEntryAt entryLen (68 :: l :: rest))) := by
    apply mapM_all_ok
    intro offset member
    have inside := mem_strides (by omega) whole (by omega) member
    exact timestampEntry_ok _ (by omega)
  have count := @strides_length _ _ entryLen (by omega) whole
  have some : 1 ≤ (strides 4 l.toNat entryLen).length := by
    by_contra empty
    rw [show (strides 4 l.toNat entryLen).length = 0 by omega] at count
    omega
  have total : isUint 8 (4 + entryLen*(strides 4 l.toNat entryLen).length) = true := by
    simp only [isUint,decide_eq_true_eq,count]
    omega
  left
  simp only [if_neg short,whole,ne_eq,not_true_eq_false,if_false,if_neg low,aligned,read,ok_bind,small,overflow,
    Nat.not_lt.mp low,List.length_map,some,total,addressed (strides 4 l.toNat entryLen),decide_true,
    pyAssert_true,pure_eq]
  refine ⟨_,rfl,?_,by simp⟩
  simp only [Ip4Option.len,List.length_map,width,count]
  omega

theorem tags_read (buffer : List UInt8) (stop offset fuel : Nat) (inside : stop ≤ buffer.length)
    (start : offset ≤ stop) (enough : stop - offset ≤ fuel) :
    (∃ tags, validateTags buffer stop offset = .ok () ∧ readTags buffer stop offset fuel = .ok tags ∧
      tags.all tagSound = true ∧ (tags.map List.length).sum = stop - offset) ∨
    ∃ message, validateTags buffer stop offset = .error (ip4IntegrityError message) := by
  induction fuel generalizing offset with
  | zero =>
    left
    refine ⟨[],?_,rfl,rfl,by simp; omega⟩
    rw [validateTags,dif_neg (by omega)]
  | succ fuel ih =>
    rw [validateTags]
    by_cases more : offset < stop
    case neg =>
      left
      refine ⟨[],by rw [dif_neg more],?_,rfl,by simp; omega⟩
      rw [readTags,if_neg more]
    rw [dif_pos more]
    by_cases single : stop - offset < 2
    · exact .inr ⟨_,by rw [if_pos single]⟩
    rw [if_neg single]
    obtain ⟨b,length⟩ := @byteAt_ok (offset+1) buffer (by omega)
    rw [length]
    simp only []
    by_cases short : b.toNat < 2
    · exact .inr ⟨_,by rw [dif_pos short]⟩
    rw [dif_neg short]
    by_cases past : offset + b.toNat > stop
    · exact .inr ⟨_,by rw [if_pos past]⟩
    rw [if_neg past]
    rcases ih (offset + b.toNat) (by omega) (by omega) with ⟨tags,valid,read,sound,total⟩ | ⟨message,failed⟩
    · left
      have size := slice_length buffer offset (offset + b.toNat) (by omega)
      have second : (slice buffer offset (offset + b.toNat))[1]? = some b := by
        have here : buffer[offset+1]? = some b := by
          simp only [byteAt] at length
          split at length
          · next found => rw [found]; simpa [← UInt8.toNat_inj] using length
          · cases length
        simp [slice,List.getElem?_drop,List.getElem?_take,here]
        omega
      refine ⟨slice buffer offset (offset + b.toNat) :: tags,valid,?_,?_,?_⟩
      · rw [readTags,if_pos more,length,ok_bind,read]
        rfl
      · simp only [List.all_cons,sound,Bool.and_true,tagSound,second,Option.getD_some,size]
        simp only [Bool.and_eq_true,decide_eq_true_eq,beq_iff_eq]
        omega
      · simp only [List.map_cons,List.sum_cons,size,total]
        omega
    · exact .inr ⟨message,failed⟩

theorem cipso_reads (room : 6 ≤ (134 :: l :: rest).length) (fits : l.toNat ≤ (134 :: l :: rest).length) :
    Reads (cipsoFromBuffer (134 :: l :: rest)) l.toNat := by
  have opened : optionPrefix 6 134 (134 :: l :: rest) = .ok () := optionPrefix_room room
  have byte := l.toNat_lt
  have width := isUint_slice 32 2 6 (134 :: l :: rest) (by omega)
  simp only [cipsoFromBuffer,opened,byteAt_length,ok_bind,fitsBuffer_fits _ fits,width]
  by_cases short : l.toNat < 6
  · exact .inr ⟨_,by simp only [if_pos short]; rfl⟩
  simp only [if_neg short]
  rcases tags_read (134 :: l :: rest) l.toNat 6 (l.toNat - 6) fits (by omega) (Nat.le_refl _) with
    ⟨tags,valid,read,sound,total⟩ | ⟨message,failed⟩
  · left
    have bounded : 6 + (tags.map List.length).sum ≤ 255 := by omega
    simp only [valid,read,ok_bind,sound,bounded,decide_true,pyAssert_true,pure_eq]
    refine ⟨_,rfl,?_,by simp⟩
    simp only [Ip4Option.len,total]
    omega
  · exact .inr ⟨message,by rw [failed]; rfl⟩

theorem unknown_reads (new : k.toNat ∉ knownTypes) (long : 2 ≤ l.toNat)
    (fits : l.toNat ≤ (k :: l :: rest).length) : Reads (unknownFromBuffer (k :: l :: rest)) l.toNat := by
  have byte := l.toNat_lt
  have size := slice_length (k :: l :: rest) 2 l.toNat fits
  have width : isUint 8 (2 + (l.toNat-2)) = true := by
    simp only [isUint,decide_eq_true_eq]
    omega
  left
  simp only [unknownFromBuffer,byteAt_length,ok_bind,Nat.not_lt.mpr fits,size,width]
  refine ⟨.unknown k.toNat (slice (k :: l :: rest) 2 l.toNat),?_,?_,by simp⟩
  · simp [byteAt,new]
  · simp only [Ip4Option.len,size]
    omega

theorem option_reads (notEol : k ≠ 0) (notNop : k ≠ 1) (long : 2 ≤ l.toNat)
    (fits : l.toNat ≤ (k :: l :: rest).length) (room : minimum k ≤ (k :: l :: rest).length) :
    Reads (optionFromBuffer (k :: l :: rest)) l.toNat := by
  have routed {name : String} {make : Nat → List Nat → Ip4Option}
      (size : ∀ pointer route, (make pointer route).len = 3 + 4*route.length ∧ make pointer route ≠ .eol)
      (space : 7 ≤ (k :: l :: rest).length) :
      Reads (do let (pointer,route) ← routeFromBuffer name k.toNat (k :: l :: rest); return make pointer route)
        l.toNat := by
    rcases route_reads name space fits with ⟨pointer,route,read,len⟩ | ⟨message,failed⟩
    · refine .inl ⟨make pointer route,?_,(size pointer route).1.trans len,(size pointer route).2⟩
      rw [read]
      rfl
    · exact .inr ⟨message,by rw [failed]; rfl⟩
  unfold optionFromBuffer
  split
  case h_1 same => simp_all
  case h_2 same => simp_all
  case h_3 same => cases Option.some.inj same; exact routed (by simp [Ip4Option.len]) room
  case h_4 same => cases Option.some.inj same; exact routed (by simp [Ip4Option.len]) room
  case h_5 same => cases Option.some.inj same; exact routerAlert_reads room fits
  case h_6 same => cases Option.some.inj same; exact routed (by simp [Ip4Option.len]) room
  case h_7 same => cases Option.some.inj same; exact timestamp_reads room fits
  case h_8 same => cases Option.some.inj same; exact cipso_reads room fits
  case h_9 =>
    apply unknown_reads _ long fits
    simp_all [knownTypes,← UInt8.toNat_inj]

theorem option_cramped (notEol : k ≠ 0) (notNop : k ≠ 1) (short : (k :: l :: rest).length < minimum k) :
    optionFromBuffer (k :: l :: rest) = .error .assertionError := by
  have routed {name : String} {make : Nat → List Nat → Ip4Option} (tight : (k :: l :: rest).length < 7) :
      (do let (pointer,route) ← routeFromBuffer name k.toNat (k :: l :: rest); return make pointer route) =
        .error .assertionError := by
    simp only [routeFromBuffer,optionPrefix_cramped tight]
    rfl
  unfold optionFromBuffer
  split
  case h_1 same => simp_all
  case h_2 same => simp_all
  case h_3 same => cases Option.some.inj same; exact routed short
  case h_4 same => cases Option.some.inj same; exact routed short
  case h_5 same =>
    cases Option.some.inj same
    simp only [routerAlertFromBuffer,@optionPrefix_cramped _ _ _ 4 _ short]
    rfl
  case h_6 same => cases Option.some.inj same; exact routed short
  case h_7 same =>
    cases Option.some.inj same
    simp only [timestampFromBuffer,@optionPrefix_cramped _ _ _ 4 _ short]
    rfl
  case h_8 same =>
    cases Option.some.inj same
    simp only [cipsoFromBuffer,@optionPrefix_cramped _ _ _ 6 _ short]
    rfl
  case h_9 =>
    have least : minimum k = 2 := by
      simp_all [minimum]
    simp only [least,List.length_cons] at short
    omega

end Options

open TcpParser (WalkOk lastKindOpen WalkOutcome)

-- The walk is the one TCP does over its options, with its own error text.
def Alike (ip4 tcp : Py Unit) : Prop :=
  (ip4 = .ok () ∧ tcp = .ok ()) ∨ (ip4 = .error .indexError ∧ tcp = .error .indexError) ∨
    ∃ said heard, ip4 = .error (ip4IntegrityError said) ∧ tcp = .error (TcpParser.tcpIntegrityError heard)

theorem byteAt_error (failed : byteAt buffer offset = .error e) : e = .indexError := by
  unfold byteAt at failed
  split at failed
  · cases failed
  · exact (Except.error.inj failed).symm

theorem walks_alike (frame : List UInt8) (hlen offset : Nat) :
    Alike (validateOptions frame hlen offset) (TcpParser.validateOptions frame hlen offset) := by
  fun_induction validateOptions frame hlen offset with
  | case1 offset inside e failed =>
    rw [TcpParser.validateOptions,dif_pos inside,failed,byteAt_error failed]
    exact .inr (.inl ⟨rfl,rfl⟩)
  | case2 offset inside eol =>
    rw [TcpParser.validateOptions,dif_pos inside,eol]
    exact .inl ⟨rfl,rfl⟩
  | case3 offset inside nop ih =>
    rw [TcpParser.validateOptions,dif_pos inside,nop]
    exact ih
  | case4 offset inside a notEol notNop kind e failed =>
    rw [TcpParser.validateOptions,dif_pos inside]
    simp only [kind,failed,byteAt_error failed]
    exact .inr (.inl ⟨rfl,rfl⟩)
  | case5 offset inside a notEol notNop kind value length short =>
    rw [TcpParser.validateOptions,dif_pos inside]
    simp only [kind,length,dif_pos short]
    exact .inr (.inr ⟨_,_,rfl,rfl⟩)
  | case6 offset inside a notEol notNop kind value length long past =>
    rw [TcpParser.validateOptions,dif_pos inside]
    simp only [kind,length,dif_neg long,if_pos past]
    exact .inr (.inr ⟨_,_,rfl,rfl⟩)
  | case7 offset inside a notEol notNop kind value length long within ih =>
    rw [TcpParser.validateOptions,dif_pos inside]
    simp only [kind,length,dif_neg long,if_neg within]
    exact ih
  | case8 offset outside =>
    rw [TcpParser.validateOptions,dif_neg outside]
    exact .inl ⟨rfl,rfl⟩

theorem walk_outcome (frame : List UInt8) (hlen offset : Nat) (covered : hlen ≤ frame.length) :
    if hlen = frame.length ∧ lastKindOpen (slice frame offset hlen) then
      validateOptions frame hlen offset = .error .indexError
    else (validateOptions frame hlen offset = .ok () ∧ WalkOk (slice frame offset hlen)) ∨
      ∃ message, validateOptions frame hlen offset = .error (ip4IntegrityError message) := by
  have tcp := TcpParser.walk_outcome frame hlen offset covered
  unfold WalkOutcome at tcp
  rcases walks_alike frame hlen offset with ⟨ip4,same⟩ | ⟨ip4,same⟩ | ⟨said,heard,ip4,same⟩
  · rw [same] at tcp
    rw [ip4]
    split at tcp
    · cases tcp
    · next closed =>
      rw [if_neg closed]
      rcases tcp with ⟨_,walked⟩ | ⟨_,failed⟩
      · exact .inl ⟨rfl,walked⟩
      · cases failed
  · rw [same] at tcp
    rw [ip4]
    split at tcp
    · next opened => rw [if_pos opened]
    · rcases tcp with ⟨failed,_⟩ | ⟨_,failed⟩
      · cases failed
      · cases failed
  · rw [same] at tcp
    rw [ip4]
    split at tcp
    · cases tcp
    · next closed =>
      rw [if_neg closed]
      exact .inr ⟨said,rfl⟩

theorem walk_accepted (covered : hlen ≤ frame.length) (walked : WalkOk (slice frame offset hlen)) :
    validateOptions frame hlen offset = .ok () := by
  have size (offset : Nat) := slice_length frame offset hlen covered
  have octet (offset : Nat) (k : UInt8) (rest : List UInt8) (here : slice frame offset hlen = k :: rest) :
      offset < hlen ∧ byteAt frame offset = .ok k.toNat := by
    have long := size offset
    rw [here,List.length_cons] at long
    have inside : offset < hlen := by omega
    obtain ⟨first,found,region⟩ := TcpParser.region_cons frame hlen offset inside covered
    rw [here] at region
    cases region
    exact ⟨inside,by simp [byteAt,found]⟩
  generalize here : slice frame offset hlen = region at walked
  induction walked generalizing offset with
  | nil =>
    have long := size offset
    rw [here] at long
    rw [validateOptions,dif_neg (by simp at long; omega)]
  | eol =>
    obtain ⟨inside,kind⟩ := octet offset _ _ here
    rw [validateOptions,dif_pos inside,kind]
    rfl
  | @nop rest _ ih =>
    obtain ⟨inside,kind⟩ := octet offset _ _ here
    have next := @ih (offset+1) (by rw [TcpParser.slice_drop,here]; rfl)
    rw [validateOptions,dif_pos inside,kind]
    exact next
  | @tlv k l rest notEol notNop long fits _ ih =>
    obtain ⟨inside,kind⟩ := octet offset _ _ here
    obtain ⟨_,value⟩ := octet (offset+1) l rest (by rw [TcpParser.slice_drop,here]; rfl)
    have next := @ih (offset + l.toNat) (by rw [TcpParser.slice_drop,here])
    have room := size offset
    rw [here] at room
    rw [validateOptions,dif_pos inside,kind]
    split
    · next failed => cases failed
    · next zero => exact absurd (UInt8.toNat_inj.mp (Except.ok.inj zero)) notEol
    · next one => exact absurd (UInt8.toNat_inj.mp (Except.ok.inj one)) notNop
    · next =>
      simp only [value]
      rw [dif_neg (by omega),if_neg (by omega)]
      exact next

-- The reading runs into an option with less room than its constructor asserts.
def cramped (region : List UInt8) : Bool :=
  match region with
  | [] => false
  | [_] => false
  | k :: l :: rest =>
    if k = 0 then false
    else if k = 1 then cramped (l :: rest)
    else if (k :: l :: rest).length < minimum k then true
    else match optionFromBuffer (k :: l :: rest) with
      | .error _ => false
      | .ok _ => if l.toNat < 2 then false else cramped (rest.drop (l.toNat-2))
termination_by region.length
decreasing_by
  · simp
  · simp; omega

-- How far the options reach: to the first EOL, or to the end of their area.
def optionsReach (region : List UInt8) : Nat :=
  match region with
  | [] => 0
  | [_] => 1
  | k :: l :: rest =>
    if k = 0 then 1
    else if k = 1 then 1 + optionsReach (l :: rest)
    else if l.toNat < 2 then 0
    else l.toNat + optionsReach (rest.drop (l.toNat-2))
termination_by region.length
decreasing_by
  · simp
  · simp; omega

theorem drop_tlv (k l : UInt8) (rest : List UInt8) (long : 2 ≤ l.toNat) :
    (k :: l :: rest).drop l.toNat = rest.drop (l.toNat-2) := by
  obtain ⟨n,size⟩ : ∃ n, l.toNat = n+2 := ⟨l.toNat-2,by omega⟩
  simp [size]

theorem cramped_nop (rest : List UInt8) : cramped (1 :: rest) = cramped rest := by
  cases rest with
  | nil => simp [cramped]
  | cons l rest =>
    conv_lhs => rw [cramped]
    simp

theorem optionsReach_nop (rest : List UInt8) : optionsReach (1 :: rest) = 1 + optionsReach rest := by
  cases rest with
  | nil => simp [optionsReach]
  | cons l rest =>
    conv_lhs => rw [optionsReach]
    simp

-- Behind an accepted walk the constructors stay inside the region; the options
-- they make are as long as what they were read from.
theorem options_read (buffer : List UInt8) (offset : Nat) (walked : WalkOk (buffer.drop offset)) :
    if cramped (buffer.drop offset) then optionsFromBuffer buffer offset = .error .assertionError
    else (∃ options, optionsFromBuffer buffer offset = .ok options ∧
        optionsLen options = optionsReach (buffer.drop offset)) ∨
      ∃ message, optionsFromBuffer buffer offset = .error (ip4IntegrityError message) := by
  generalize here : buffer.drop offset = region at walked
  have size := congrArg List.length here
  simp only [List.length_drop] at size
  induction walked generalizing offset with
  | nil =>
    have past : ¬offset < buffer.length := by
      simp only [List.length_nil] at size
      omega
    rw [optionsFromBuffer,dif_neg past]
    simp [cramped,optionsReach,optionsLen]
  | @eol rest =>
    have inside : offset < buffer.length := by
      simp only [List.length_cons] at size
      omega
    have quiet : cramped (0 :: rest) = false := by cases rest <;> simp [cramped]
    have reach : optionsReach (0 :: rest) = 1 := by cases rest <;> simp [optionsReach]
    rw [optionsFromBuffer,dif_pos inside,here,quiet,reach]
    exact .inl ⟨[.eol],rfl,rfl⟩
  | @nop rest _ ih =>
    have inside : offset < buffer.length := by
      simp only [List.length_cons] at size
      omega
    have next : buffer.drop (offset+1) = rest := by
      rw [← List.drop_drop,here]
      rfl
    have others := ih (offset+1) next (by simp only [List.length_cons] at size; omega)
    have read : optionFromBuffer (1 :: rest) = .ok .nop := rfl
    rw [optionsFromBuffer,dif_pos inside,here,read,cramped_nop,optionsReach_nop]
    simp only [Ip4Option.len]
    split at others
    · next full => simp [full,others]
    · next roomy =>
      rw [if_neg roomy]
      rcases others with ⟨options,ok,reach⟩ | ⟨message,failed⟩
      · exact .inl ⟨.nop :: options,by rw [ok],by simp [optionsLen,Ip4Option.len,← reach]⟩
      · exact .inr ⟨message,by rw [failed]⟩
  | @tlv k l rest notEol notNop long fits _ ih =>
    have inside : offset < buffer.length := by
      simp only [List.length_cons] at size
      omega
    have next : buffer.drop (offset+l.toNat) = (k :: l :: rest).drop l.toNat := by
      rw [← List.drop_drop,here]
    have reach : optionsReach (k :: l :: rest) = l.toNat + optionsReach ((k :: l :: rest).drop l.toNat) := by
      rw [drop_tlv k l rest long]
      conv_lhs => rw [optionsReach]
      simp only [notEol,notNop,if_false]
      rw [if_neg (by omega)]
    rw [optionsFromBuffer,dif_pos inside,here,reach]
    by_cases room : minimum k ≤ (k :: l :: rest).length
    case neg =>
      have tight : cramped (k :: l :: rest) = true := by
        rw [cramped]
        simp only [notEol,notNop,if_false]
        rw [if_pos (by omega)]
      rw [if_pos tight,option_cramped notEol notNop (by omega)]
    rcases option_reads notEol notNop long fits room with ⟨option,read,len,notEnd⟩ | ⟨message,failed⟩
    · have onward : cramped (k :: l :: rest) = cramped ((k :: l :: rest).drop l.toNat) := by
        rw [drop_tlv k l rest long]
        conv_lhs => rw [cramped]
        simp only [notEol,notNop,if_false,read]
        rw [if_neg (by omega),if_neg (by omega)]
      have others := ih (offset+l.toNat) next (by rw [← next,List.length_drop])
      rw [read,onward]
      simp only [len]
      split at others
      · next full => rw [if_pos full]; cases option <;> simp_all
      · next roomy =>
        rw [if_neg roomy]
        rcases others with ⟨options,ok,further⟩ | ⟨message,failed⟩
        · refine .inl ⟨option :: options,by cases option <;> simp_all,?_⟩
          simp [optionsLen,len] at further ⊢
          omega
        · exact .inr ⟨message,by cases option <;> simp_all⟩
    · have quiet : cramped (k :: l :: rest) = false := by
        rw [cramped]
        simp only [notEol,notNop,if_false,failed]
        rw [if_neg (by omega)]
      rw [quiet,failed]
      exact .inr ⟨message,rfl⟩

end PmdPytcp.Ip4
