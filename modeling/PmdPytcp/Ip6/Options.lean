import PmdPytcp.Ip6.Parser

namespace PmdPytcp.Ip6
open InetCksum Buffer

-- The Hop-by-Hop and Destination Options headers share one layout; they differ
-- in their names and in the options they know.
inductive Area where
  | hbh
  | destOpts
deriving Repr,DecidableEq

def Area.name : Area → String
  | .hbh => "HBH"
  | .destOpts => "Dest Opts"

def Area.constant : Area → String
  | .hbh => "IP6_HBH"
  | .destOpts => "IP6_DEST_OPTS"

def Area.label : Area → String
  | .hbh => "HBH"
  | .destOpts => "DestOpts"

-- `Ip6HbhOptionType.get_known_values()`, `Ip6DestOptsOptionType.get_known_values()`
def Area.knownValues : Area → List Nat
  | .hbh => [0x00,0x01,0x05,0x07,0xC2]
  | .destOpts => [0x00,0x01,0x04]

def Area.integrityError (area : Area) (message : String) : PyError :=
  Ip6.integrityError (s!"[IPv6 {area.name}] " ++ message)

def Area.sanityError (area : Area) (message : String) (pointer : Option Nat) : PyError :=
  Ip6.sanityError (s!"[IPv6 {area.name}] " ++ message) pointer

inductive Ip6Option where
  | pad1
  | padN (data : List UInt8)
  | routerAlert (value : Nat)
  | calipso (doi sensLevel checksum : Nat) (compartmentBitmap : List UInt8)
  | jumboPayload (value : Nat)
  | tunnelEncapsulationLimit (value : Nat)
  | unknown (type : Nat) (data : List UInt8)
deriving Repr,DecidableEq

def Ip6Option.len : Ip6Option → Nat
  | .pad1 => 1
  | .padN data => 2 + data.length
  | .routerAlert _ => 4
  | .calipso _ _ _ bitmap => 10 + bitmap.length
  | .jumboPayload _ => 6
  | .tunnelEncapsulationLimit _ => 3
  | .unknown _ data => 2 + data.length

-- The two assertions every option constructor starts with.
def optionOpens (minimum kind : Nat) (buffer : List UInt8) : Py Unit := do
  pyAssert (minimum ≤ buffer.length)
  let value ← byteAt buffer 0
  pyAssert (value = kind)

def optionFits (area : Area) (name : String) (buffer : List UInt8) : Py Unit := do
  let size ← byteAt buffer 1
  raiseIf (size + 2 > buffer.length)
    (area.integrityError s!"The {name} option length value must not extend past the length of provided bytes ({buffer.length}). Got: {size + 2}")

def pad1FromBuffer (buffer : List UInt8) : Py Ip6Option := do
  optionOpens 1 0x00 buffer
  return .pad1

def padNFromBuffer (area : Area) (buffer : List UInt8) : Py Ip6Option := do
  optionOpens 2 0x01 buffer
  optionFits area s!"IPv6 {area.name} PadN" buffer
  let size ← byteAt buffer 1
  let data := slice buffer 2 (2 + size)
  pyAssert (isUint 8 (2 + data.length))
  return .padN data

def routerAlertFromBuffer (buffer : List UInt8) : Py Ip6Option := do
  optionOpens 4 0x05 buffer
  let size ← byteAt buffer 1
  raiseIf (size ≠ 2)
    (Area.hbh.integrityError s!"The IPv6 HBH Router Alert option Opt Data Len must be 2. Got: {size}")
  let value := beNat (slice buffer 2 4)
  pyAssert (isUint 16 value)
  return .routerAlert value

def calipsoFromBuffer (buffer : List UInt8) : Py Ip6Option := do
  optionOpens 10 0x07 buffer
  let size ← byteAt buffer 1
  let cmptLength ← byteAt buffer 6
  raiseIf (size ≠ 8 + cmptLength*4)
    (Area.hbh.integrityError s!"The IPv6 HBH CALIPSO Opt Data Len must equal 8 + cmpt_length * 4. Got: opt_data_len={size}, cmpt_length={cmptLength}")
  raiseIf (buffer.length < 2 + size)
    (Area.hbh.integrityError s!"The buffer must hold the full CALIPSO option declared by Opt Data Len. Got: opt_data_len={size}, buffer_len={buffer.length}")
  let doi := beNat (slice buffer 2 6)
  let sensLevel ← byteAt buffer 7
  let checksum := beNat (slice buffer 8 10)
  let bitmap := slice buffer 10 (10 + cmptLength*4)
  pyAssert (isUint 32 doi)
  pyAssert (isUint 8 sensLevel)
  pyAssert (isUint 16 checksum)
  pyAssert (bitmap.length % 4 = 0)
  pyAssert (isUint 8 (10 + bitmap.length))
  return .calipso doi sensLevel checksum bitmap

def jumboPayloadFromBuffer (buffer : List UInt8) : Py Ip6Option := do
  optionOpens 6 0xC2 buffer
  let size ← byteAt buffer 1
  raiseIf (size ≠ 4)
    (Area.hbh.integrityError s!"The IPv6 HBH Jumbo Payload option Opt Data Len must be 4. Got: {size}")
  let value := beNat (slice buffer 2 6)
  raiseIf (value ≤ 65535)
    (Area.hbh.integrityError s!"The IPv6 HBH Jumbo Payload option value must be greater than 65535 (jumbograms only — RFC 2675 §3). Got: {value}")
  pyAssert (isUint 32 value)
  pyAssert (value > 65535)
  return .jumboPayload value

def tunnelEncapsulationLimitFromBuffer (buffer : List UInt8) : Py Ip6Option := do
  optionOpens 3 0x04 buffer
  let size ← byteAt buffer 1
  raiseIf (size ≠ 1)
    (Area.destOpts.integrityError s!"The IPv6 Dest Opts Tunnel Encap Limit option Opt Data Len must be 1. Got: {size}")
  let value ← byteAt buffer 2
  pyAssert (isUint 8 value)
  return .tunnelEncapsulationLimit value

def unknownFromBuffer (area : Area) (buffer : List UInt8) : Py Ip6Option := do
  pyAssert (2 ≤ buffer.length)
  let kind ← byteAt buffer 0
  pyAssert (kind ∉ area.knownValues)
  optionFits area s!"unknown IPv6 {area.name}" buffer
  let size ← byteAt buffer 1
  let data := slice buffer 2 (2 + size)
  pyAssert (isUint 8 (2 + data.length))
  return .unknown kind data

def optionFromBuffer (area : Area) (buffer : List UInt8) : Py Ip6Option :=
  match area,buffer.head? with
  | _,some 0x00 => pad1FromBuffer buffer
  | _,some 0x01 => padNFromBuffer area buffer
  | .hbh,some 0x05 => routerAlertFromBuffer buffer
  | .hbh,some 0x07 => calipsoFromBuffer buffer
  | .hbh,some 0xC2 => jumboPayloadFromBuffer buffer
  | .destOpts,some 0x04 => tunnelEncapsulationLimitFromBuffer buffer
  | _,_ => unknownFromBuffer area buffer

theorem optionLen_pos (option : Ip6Option) : 0 < option.len := by
  cases option <;> simp only [Ip6Option.len] <;> omega

-- `Ip6HbhOptions.from_buffer`, from `offset` on.
def optionsFromBuffer (area : Area) (buffer : List UInt8) (offset : Nat) : Py (List Ip6Option) :=
  if _ : offset < buffer.length then
    match optionFromBuffer area (buffer.drop offset) with
    | .error e => .error e
    | .ok option =>
      match optionsFromBuffer area buffer (offset + option.len) with
      | .error e => .error e
      | .ok rest => .ok (option :: rest)
  else .ok []
termination_by buffer.length - offset
decreasing_by
  have := optionLen_pos option
  omega

-- `Ip6HbhOptions.validate_integrity`, from `offset` on.
def validateOptions (area : Area) (buffer : List UInt8) (offset : Nat) : Py Unit :=
  if _ : offset < buffer.length then
    match byteAt buffer offset with
    | .error e => .error e
    | .ok 0x00 => validateOptions area buffer (offset + 1)
    | .ok _ =>
      if offset + 2 > buffer.length then
        .error (area.integrityError s!"The IPv6 {area.name} option must carry a 1-byte Opt Data Len following its Type byte. Got truncated tail at offset {offset} (block length {buffer.length}).")
      else match byteAt buffer (offset + 1) with
        | .error e => .error e
        | .ok size =>
          if offset + (2 + size) > buffer.length then
            .error (area.integrityError s!"The IPv6 {area.name} option must not extend past the options block. Got: option at offset {offset} declares total length {2 + size}, block length {buffer.length}.")
          else validateOptions area buffer (offset + (2 + size))
  else .ok ()
termination_by buffer.length - offset

def hexByte (n : Nat) : String := if n < 16 then "0" ++ hex n else hex n

-- The high two bits of an option type say what to do with an option that the
-- receiver does not know.
inductive Action where
  | skip
  | discard
  | discardParamProblem
  | discardParamProblemUnicast
deriving Repr,DecidableEq

def optionAction (kind : Nat) : Action :=
  match (kind >>> 6) &&& 0b11 with
  | 0 => .skip
  | 1 => .discard
  | 2 => .discardParamProblem
  | _ => .discardParamProblemUnicast

-- The error that the action on an unknown option asks for.
def unknownVerdict (area : Area) (multicast : Bool) (kind offset : Nat) : Option PyError :=
  let unrecognized := s!"Unrecognized {area.label} option type 0x{hexByte kind} at offset {offset} "
  match optionAction kind with
  | .skip => none
  | .discard => some (area.sanityError (unrecognized ++ "with action 01 (silent discard).") none)
  | .discardParamProblem =>
    some (area.sanityError (unrecognized ++ "with action 10 (discard + Param Problem code 2).") (some offset))
  | .discardParamProblemUnicast =>
    if multicast then
      some (area.sanityError (unrecognized ++ "with action 11 (silent discard on multicast dst).") none)
    else
      some (area.sanityError (unrecognized ++ "with action 11 (discard + Param Problem code 2 on unicast dst).")
        (some offset))

-- `Ip6HbhOptions.validate_sanity`, from `offset` on.
def validateOptionsSanity (area : Area) (multicast : Bool) (buffer : List UInt8) (offset : Nat) : Py Unit :=
  if _ : offset < buffer.length then
    match byteAt buffer offset with
    | .error e => .error e
    | .ok kind =>
      if kind = 0x00 then validateOptionsSanity area multicast buffer (offset + 1)
      else match (if kind ∈ area.knownValues then none else unknownVerdict area multicast kind offset) with
        | some e => .error e
        | none =>
          match byteAt buffer (offset + 1) with
          | .error e => .error e
          | .ok size => validateOptionsSanity area multicast buffer (offset + (2 + size))
  else .ok ()
termination_by buffer.length - offset

structure OptionsHeader where
  next : Nat
  hdrExtLen : Nat
  options : List Ip6Option
  payload : List UInt8
deriving Repr,DecidableEq

def optionsIntegrity (area : Area) (frame : List UInt8) : Py Unit := do
  raiseIf (frame.length < 2)
    (area.integrityError s!"The condition '{area.constant}__HEADER__LEN <= len(self._frame)' must be met. Got: {area.constant}__HEADER__LEN=2, len(self._frame)={frame.length}")
  let hdrExtLen ← byteAt frame 1
  let total := (hdrExtLen + 1)*8
  raiseIf (total > frame.length)
    (area.integrityError s!"The condition '(hdr_ext_len + 1) * 8 <= len(self._frame)' must be met. Got: hdr_ext_len={hdrExtLen}, total_hbh_len={total}, len(self._frame)={frame.length}")
  validateOptions area (slice frame 2 total) 0

def optionsHeader (area : Area) (frame : List UInt8) : Py OptionsHeader := do
  let fixed := frame.take 2
  raiseIf (fixed.length ≠ 2) .structError
  let next := beNat (slice fixed 0 1)
  let hdrExtLen := beNat (slice fixed 1 2)
  pyAssert (isUint 8 hdrExtLen)
  let total := (hdrExtLen + 1)*8
  let options ← optionsFromBuffer area (slice frame 2 total) 0
  return ⟨next,hdrExtLen,options,frame.drop total⟩

def optionsParser (area : Area) (frame : List UInt8) (multicast : Bool) : Py OptionsHeader := do
  optionsIntegrity area frame
  let header ← optionsHeader area frame
  validateOptionsSanity area multicast (slice frame 2 ((header.hdrExtLen + 1)*8)) 0
  return header

-- `Ip6HbhParser.__init__`
def ip6HbhParser := optionsParser .hbh

-- `Ip6DestOptsParser.__init__`
def ip6DestOptsParser := optionsParser .destOpts

def octet (buffer : List UInt8) (offset : Nat) : Nat := (buffer[offset]?.getD 0).toNat

theorem octet_drop (buffer : List UInt8) (start i : Nat) : octet (buffer.drop start) i = octet buffer (start + i) := by
  rw [octet,octet,List.getElem?_drop]

theorem beNat_octet (buffer : List UInt8) (inside : offset < buffer.length) :
    beNat (slice buffer offset (offset+1)) = octet buffer offset := by
  have single : slice buffer offset (offset+1) = [buffer[offset]] := by
    refine List.ext_getElem? ?_
    intro i
    rw [slice_getElem?]
    cases i with
    | zero => simp [inside]
    | succ i => simp
  simp [single,beNat,octet,List.getElem?_eq_getElem inside]

theorem byteAt_octet (inside : offset < buffer.length) : byteAt buffer offset = .ok (octet buffer offset) :=
  byteAt_ok inside

-- The length an extension header announces for itself.
def headerLen (frame : List UInt8) : Nat := (octet frame 1 + 1)*8

structure ReadsHeader (frame : List UInt8) (header : OptionsHeader) : Prop where
  fits : headerLen frame ≤ frame.length
  next : header.next = octet frame 0
  hdrExtLen : header.hdrExtLen = octet frame 1
  payload : header.payload = frame.drop (headerLen frame)

theorem optionsHeader_reads (long : 2 ≤ frame.length) (fits : headerLen frame ≤ frame.length)
    (read : optionsHeader area frame = .ok header) : ReadsHeader frame header := by
  have whole : (frame.take 2).length = 2 := by simp [Nat.min_eq_left long]
  have first : beNat (slice (frame.take 2) 0 1) = octet frame 0 := by
    rw [take_slice _ _ _ _ (by omega),beNat_octet frame (by omega)]
  have second : beNat (slice (frame.take 2) 1 2) = octet frame 1 := by
    rw [take_slice _ _ _ _ (by omega),beNat_octet frame (by omega)]
  simp only [optionsHeader,bind_ok,pure_eq,first,second] at read
  obtain ⟨_,_,_,_,options,_,same⟩ := read
  cases same
  exact ⟨fits,rfl,rfl,rfl⟩

theorem optionsIntegrity_ok (passed : optionsIntegrity area frame = .ok ()) :
    2 ≤ frame.length ∧ headerLen frame ≤ frame.length := by
  simp only [optionsIntegrity,bind_ok,raiseIf_ok] at passed
  obtain ⟨_,long,hdrExtLen,extent,_,fits,_⟩ := passed
  rw [byteAt_octet (by omega)] at extent
  cases extent
  exact ⟨by omega,Nat.not_lt.mp fits⟩

theorem optionsParser_reads (parsed : optionsParser area frame multicast = .ok header) : ReadsHeader frame header := by
  simp only [optionsParser,bind_ok,pure_eq] at parsed
  obtain ⟨_,integrity,read,header_ok,_,_,same⟩ := parsed
  cases same
  obtain ⟨long,fits⟩ := optionsIntegrity_ok integrity
  exact optionsHeader_reads long fits header_ok

-- Only the walk over the option types raises sanity errors.
def Sober (result : Py α) : Prop := ∀ message pointer, result ≠ .error (.packetSanity message pointer)

section Sober

theorem Sober.ok (a : α) : Sober (.ok a) := fun _ _ same => nomatch same

theorem Sober.integrity (area : Area) (message : String) : Sober (α := α) (.error (area.integrityError message)) :=
  fun _ _ same => nomatch same

theorem Sober.fails {x : Py α} (sober : Sober x) (failed : x = .error e) : Sober (α := β) (.error e) := by
  intro message pointer same
  cases same
  exact sober message pointer failed

theorem Sober.bind {x : Py α} {f : α → Py β} (first : Sober x) (rest : ∀ a, Sober (f a)) : Sober (x >>= f) := by
  cases x with
  | ok a => exact rest a
  | error e =>
    intro message pointer same
    exact first message pointer (by simpa using same)

theorem Sober.assert (condition : Bool) : Sober (pyAssert condition) := by
  cases condition <;> intro _ _ same <;> cases same

theorem Sober.byte (buffer : List UInt8) (offset : Nat) : Sober (byteAt buffer offset) := by
  unfold byteAt
  split <;> intro _ _ same <;> cases same

theorem Sober.raise [Decidable condition] (area : Area) (message : String) :
    Sober (raiseIf condition (area.integrityError message)) := by
  unfold raiseIf
  split
  · exact .integrity area message
  · exact .ok ()

theorem option_sober (area : Area) (buffer : List UInt8) : Sober (optionFromBuffer area buffer) := by
  have opens (minimum kind : Nat) : Sober (optionOpens minimum kind buffer) :=
    .bind (.assert _) fun _ => .bind (.byte _ _) fun _ => .assert _
  have fits (name : String) : Sober (optionFits area name buffer) := .bind (.byte _ _) fun _ => .raise _ _
  unfold optionFromBuffer
  split
  · exact .bind (opens _ _) fun _ => .ok _
  · exact .bind (opens _ _) fun _ => .bind (fits _) fun _ => .bind (.byte _ _) fun _ => .bind (.assert _) fun _ => .ok _
  · exact .bind (opens _ _) fun _ => .bind (.byte _ _) fun _ => .bind (.raise _ _) fun _ => .bind (.assert _) fun _ => .ok _
  · exact .bind (opens _ _) fun _ => .bind (.byte _ _) fun _ => .bind (.byte _ _) fun _ => .bind (.raise _ _) fun _ =>
      .bind (.raise _ _) fun _ => .bind (.byte _ _) fun _ => .bind (.assert _) fun _ => .bind (.assert _) fun _ =>
      .bind (.assert _) fun _ => .bind (.assert _) fun _ => .bind (.assert _) fun _ => .ok _
  · exact .bind (opens _ _) fun _ => .bind (.byte _ _) fun _ => .bind (.raise _ _) fun _ => .bind (.raise _ _) fun _ =>
      .bind (.assert _) fun _ => .bind (.assert _) fun _ => .ok _
  · exact .bind (opens _ _) fun _ => .bind (.byte _ _) fun _ => .bind (.raise _ _) fun _ => .bind (.byte _ _) fun _ =>
      .bind (.assert _) fun _ => .ok _
  · exact .bind (.assert _) fun _ => .bind (.byte _ _) fun _ => .bind (.assert _) fun _ => .bind (fits _) fun _ =>
      .bind (.byte _ _) fun _ => .bind (.assert _) fun _ => .ok _

theorem options_sober (area : Area) (buffer : List UInt8) (offset : Nat) :
    Sober (optionsFromBuffer area buffer offset) := by
  fun_induction optionsFromBuffer area buffer offset with
  | case1 offset _ e failed => exact (option_sober area _).fails failed
  | case2 offset _ option _ e failed ih => exact ih.fails failed
  | case3 => exact .ok _
  | case4 => exact .ok _

theorem validateOptions_sober (area : Area) (buffer : List UInt8) (offset : Nat) :
    Sober (validateOptions area buffer offset) := by
  fun_induction validateOptions area buffer offset with
  | case1 offset _ e failed => exact (Sober.byte buffer offset).fails failed
  | case2 _ _ _ ih => exact ih
  | case3 => exact .integrity _ _
  | case4 offset _ _ _ _ _ e failed => exact (Sober.byte buffer (offset+1)).fails failed
  | case5 => exact .integrity _ _
  | case6 _ _ _ _ _ _ _ _ _ ih => exact ih
  | case7 => exact .ok _

end Sober

-- An option the receiver passes over: one it knows, or one whose type says so.
def PassedOver (area : Area) (kind : Nat) : Prop := kind ∈ area.knownValues ∨ optionAction kind = .skip

-- The options of an area start at these offsets, as far as nothing before them
-- has stopped the receiver.
inductive OptionAt (area : Area) (buffer : List UInt8) : Nat → Prop where
  | first : OptionAt area buffer 0
  | pad : OptionAt area buffer offset → octet buffer offset = 0x00 → OptionAt area buffer (offset + 1)
  | option : OptionAt area buffer offset → octet buffer offset ≠ 0x00 → PassedOver area (octet buffer offset) →
      OptionAt area buffer (offset + (2 + octet buffer (offset + 1)))

-- An option that stops the packet and is to be reported to its source.
def Reported (area : Area) (multicast : Bool) (kind : Nat) : Prop :=
  kind ∉ area.knownValues ∧
    (optionAction kind = .discardParamProblem ∨ optionAction kind = .discardParamProblemUnicast ∧ multicast = false)

instance (area : Area) (multicast : Bool) (kind : Nat) : Decidable (Reported area multicast kind) :=
  inferInstanceAs (Decidable (_ ∧ _))

theorem unknownVerdict_points
    (asked : unknownVerdict area multicast kind offset = some (.packetSanity message (some pointer)))
    (unknown : kind ∉ area.knownValues) : pointer = offset ∧ Reported area multicast kind := by
  unfold unknownVerdict at asked
  cases action : optionAction kind with
  | skip => simp [action] at asked
  | discard => simp [action,Area.sanityError,sanityError] at asked
  | discardParamProblem =>
    simp only [action,Area.sanityError,sanityError,Option.some.injEq,PyError.packetSanity.injEq] at asked
    exact ⟨asked.2.symm,unknown,.inl action⟩
  | discardParamProblemUnicast =>
    cases multicast with
    | true => simp [action,Area.sanityError,sanityError] at asked
    | false =>
      simp only [action,Bool.false_eq_true,if_false,Area.sanityError,sanityError,Option.some.injEq,
        PyError.packetSanity.injEq] at asked
      exact ⟨asked.2.symm,unknown,.inr ⟨action,rfl⟩⟩

theorem unknownVerdict_none (none : unknownVerdict area multicast kind offset = none) : optionAction kind = .skip := by
  unfold unknownVerdict at none
  cases action : optionAction kind with
  | skip => rfl
  | discard => simp [action] at none
  | discardParamProblem => simp [action] at none
  | discardParamProblemUnicast => cases multicast <;> simp [action] at none

theorem sanity_points (reached : OptionAt area buffer offset)
    (raised : validateOptionsSanity area multicast buffer offset = .error (.packetSanity message (some pointer))) :
    OptionAt area buffer pointer ∧ pointer < buffer.length ∧ Reported area multicast (octet buffer pointer) := by
  fun_induction validateOptionsSanity area multicast buffer offset with
  | case1 offset _ e failed => exact absurd raised ((Sober.byte buffer offset).fails failed _ _)
  | case2 offset inside read ih =>
    rw [byteAt_octet inside] at read
    exact ih (.pad reached (Except.ok.inj read)) raised
  | case3 offset inside kind read other e verdict =>
    rw [byteAt_octet inside] at read
    cases read
    cases raised
    split at verdict
    · cases verdict
    · next unknown =>
      obtain ⟨rfl,reported⟩ := unknownVerdict_points verdict unknown
      exact ⟨reached,inside,reported⟩
  | case4 offset _ kind _ _ _ e failed => exact absurd raised ((Sober.byte buffer (offset+1)).fails failed _ _)
  | case5 offset inside kind read other verdict size length ih =>
    rw [byteAt_octet inside] at read
    cases read
    have passed : PassedOver area (octet buffer offset) := by
      split at verdict
      · next known => exact .inl known
      · exact .inr (unknownVerdict_none verdict)
    have same : size = octet buffer (offset+1) := by
      unfold byteAt at length
      cases here : buffer[offset+1]? with
      | none => simp [here] at length
      | some b => simpa [octet,here] using length.symm
    exact ih (same ▸ .option reached other passed) raised
  | case6 => cases raised

theorem optionsParser_points
    (raised : optionsParser area frame multicast = .error (.packetSanity message (some pointer))) :
    headerLen frame ≤ frame.length ∧ OptionAt area (slice frame 2 (headerLen frame)) pointer ∧
      pointer < (slice frame 2 (headerLen frame)).length ∧
      Reported area multicast (octet (slice frame 2 (headerLen frame)) pointer) := by
  have integrity : Sober (optionsIntegrity area frame) :=
    .bind (.raise _ _) fun _ => .bind (.byte _ _) fun _ => .bind (.raise _ _) fun _ => validateOptions_sober _ _ _
  have header : Sober (optionsHeader area frame) :=
    .bind (fun _ _ same => by unfold raiseIf at same; split at same <;> cases same) fun _ =>
      .bind (.assert _) fun _ => .bind (options_sober _ _ _) fun _ => .ok _
  unfold optionsParser at raised
  cases passed : optionsIntegrity area frame with
  | error e =>
    rw [passed] at raised
    cases raised
    exact absurd passed (integrity _ _)
  | ok _ =>
    cases read : optionsHeader area frame with
    | error e =>
      rw [passed,ok_bind,read] at raised
      cases raised
      exact absurd read (header _ _)
    | ok parsed =>
      obtain ⟨long,fits⟩ := optionsIntegrity_ok passed
      have extent := (optionsHeader_reads long fits read).hdrExtLen
      rw [passed,ok_bind,read,ok_bind,extent] at raised
      cases sane : validateOptionsSanity area multicast (slice frame 2 ((octet frame 1 + 1)*8)) 0 with
      | ok _ => rw [sane] at raised; cases raised
      | error e =>
        rw [sane] at raised
        cases raised
        exact ⟨fits,sanity_points .first sane⟩

end PmdPytcp.Ip6
