import PmdPytcp.Ip6.Chain

namespace PmdPytcp.Ip6
open InetCksum Buffer

-- Pad1 is one octet; any other option is its type, its length and its data.
def wireLen (buffer : List UInt8) (offset : Nat) : Nat :=
  if octet buffer offset = 0x00 then 1 else 2 + octet buffer (offset + 1)

theorem wireLen_pos (buffer : List UInt8) (offset : Nat) : 0 < wireLen buffer offset := by
  unfold wireLen
  split <;> omega

def wirePad (buffer : List UInt8) (offset : Nat) : Nat :=
  if octet buffer offset = 0x00 ∨ octet buffer offset = 0x01 then wireLen buffer offset else 0

def wireUnknown (area : Area) (buffer : List UInt8) (offset : Nat) : Nat :=
  if octet buffer offset ∈ area.knownValues then 0 else 1

-- What an options area holds, octet by octet: options, padding and options of a
-- type the header kind does not define.
structure Tally where
  options : Nat
  pads : Nat
  unknown : Nat
deriving Repr,DecidableEq

def tally (area : Area) (buffer : List UInt8) (offset : Nat) : Tally :=
  if _ : offset < buffer.length then
    let rest := tally area buffer (offset + wireLen buffer offset)
    ⟨rest.options + 1,rest.pads + wirePad buffer offset,rest.unknown + wireUnknown area buffer offset⟩
  else ⟨0,0,0⟩
termination_by buffer.length - offset
decreasing_by
  have := wireLen_pos buffer offset
  omega

def Tally.Exceeds (caps : Caps) (counts : Tally) : Prop :=
  (caps.maxOptions ≠ 0 ∧ counts.options > caps.maxOptions) ∨ (caps.maxPadBytes ≠ 0 ∧ counts.pads > caps.maxPadBytes) ∨
    (caps.maxUnknown ≠ 0 ∧ counts.unknown > caps.maxUnknown)

structure ReadAs (area : Area) (buffer : List UInt8) (offset : Nat) (option : Ip6Option) : Prop where
  len : option.len = wireLen buffer offset
  pad : padBytes .hbh option = wirePad buffer offset
  unknown : unknownCount .hbh option = wireUnknown area buffer offset

theorem byteAt_read (read : byteAt buffer offset = .ok value) : value = octet buffer offset := by
  unfold byteAt at read
  cases here : buffer[offset]? with
  | none => simp [here] at read
  | some b => simpa [octet,here] using read.symm

theorem optionOpens_read (opened : optionOpens minimum kind buffer = .ok u) : octet buffer 0 = kind := by
  simp only [optionOpens,bind_ok,pyAssert_ok,decide_eq_true_eq] at opened
  obtain ⟨_,_,value,read,same⟩ := opened
  rw [← byteAt_read read]
  exact same

theorem optionFits_read (fits : optionFits area name buffer = .ok u) : octet buffer 1 + 2 ≤ buffer.length := by
  simp only [optionFits,bind_ok,raiseIf_ok] at fits
  obtain ⟨size,read,inside⟩ := fits
  rw [← byteAt_read read]
  omega

theorem pad1_read (read : pad1FromBuffer buffer = .ok option) : ReadAs area buffer 0 option := by
  simp only [pad1FromBuffer,bind_ok,pure_eq] at read
  obtain ⟨_,opened,same⟩ := read
  cases same
  have kind := optionOpens_read opened
  refine ⟨?_,?_,?_⟩ <;> simp [Ip6Option.len,padBytes,unknownCount,wireLen,wirePad,wireUnknown,kind]
  cases area <;> simp [Area.knownValues]

theorem padN_read (read : padNFromBuffer area buffer = .ok option) : ReadAs area buffer 0 option := by
  simp only [padNFromBuffer,bind_ok,pure_eq] at read
  obtain ⟨_,opened,_,fits,size,sized,_,_,same⟩ := read
  cases same
  have kind := optionOpens_read opened
  have inside := optionFits_read fits
  have length : (slice buffer 2 (2 + size)).length = octet buffer 1 := by
    rw [byteAt_read sized,slice_length _ _ _ (by omega)]
    omega
  refine ⟨?_,?_,?_⟩ <;> simp [Ip6Option.len,padBytes,unknownCount,wireLen,wirePad,wireUnknown,kind,length]
  cases area <;> simp [Area.knownValues]

theorem unknown_read (read : unknownFromBuffer area buffer = .ok option) : ReadAs area buffer 0 option := by
  simp only [unknownFromBuffer,bind_ok,pure_eq,pyAssert_ok,decide_eq_true_eq] at read
  obtain ⟨_,_,type,typed,_,strange,_,fits,size,sized,_,_,same⟩ := read
  cases same
  have inside := optionFits_read fits
  have length : (slice buffer 2 (2 + size)).length = octet buffer 1 := by
    rw [byteAt_read sized,slice_length _ _ _ (by omega)]
    omega
  rw [byteAt_read typed] at strange
  have zero : octet buffer 0 ≠ 0x00 := by
    intro zero
    rw [zero] at strange
    cases area <;> simp [Area.knownValues] at strange
  have one : octet buffer 0 ≠ 0x01 := by
    intro one
    rw [one] at strange
    cases area <;> simp [Area.knownValues] at strange
  refine ⟨?_,?_,?_⟩
  · simp [Ip6Option.len,wireLen,zero,length]
  · simp [padBytes,wirePad,zero,one]
  · simp [unknownCount,wireUnknown,strange]

theorem ReadAs.defined (kind : octet buffer 0 ∈ area.knownValues) (zero : octet buffer 0 ≠ 0x00)
    (one : octet buffer 0 ≠ 0x01) (len : option.len = 2 + octet buffer 1) (unpadded : padBytes .hbh option = 0)
    (known : unknownCount .hbh option = 0) : ReadAs area buffer 0 option where
  len := by simp [wireLen,zero,len]
  pad := by simp [wirePad,zero,one,unpadded]
  unknown := by simp [wireUnknown,kind,known]

theorem routerAlert_read (read : routerAlertFromBuffer buffer = .ok option) : ReadAs .hbh buffer 0 option := by
  simp only [routerAlertFromBuffer,bind_ok,pure_eq,raiseIf_ok] at read
  obtain ⟨_,opened,size,sized,_,two,_,_,same⟩ := read
  cases same
  have kind := optionOpens_read opened
  rw [byteAt_read sized] at two
  refine .defined ?_ ?_ ?_ ?_ rfl rfl
  · simp [kind,Area.knownValues]
  · simp [kind]
  · simp [kind]
  · simp only [Ip6Option.len]
    omega

theorem calipso_read (read : calipsoFromBuffer buffer = .ok option) : ReadAs .hbh buffer 0 option := by
  simp only [calipsoFromBuffer,bind_ok,pure_eq,raiseIf_ok] at read
  obtain ⟨_,opened,size,sized,cmpt,_,_,sizes,_,whole,_,_,_,_,_,_,_,_,_,_,_,_,same⟩ := read
  cases same
  have kind := optionOpens_read opened
  have length : (slice buffer 10 (10 + cmpt*4)).length = cmpt*4 := by
    rw [slice_length _ _ _ (by omega)]
    omega
  rw [byteAt_read sized] at sizes
  refine .defined ?_ ?_ ?_ ?_ rfl rfl
  · simp [kind,Area.knownValues]
  · simp [kind]
  · simp [kind]
  · simp only [Ip6Option.len,length]
    omega

theorem jumboPayload_read (read : jumboPayloadFromBuffer buffer = .ok option) : ReadAs .hbh buffer 0 option := by
  simp only [jumboPayloadFromBuffer,bind_ok,pure_eq,raiseIf_ok] at read
  obtain ⟨_,opened,size,sized,_,four,_,_,_,_,_,_,same⟩ := read
  cases same
  have kind := optionOpens_read opened
  rw [byteAt_read sized] at four
  refine .defined ?_ ?_ ?_ ?_ rfl rfl
  · simp [kind,Area.knownValues]
  · simp [kind]
  · simp [kind]
  · simp only [Ip6Option.len]
    omega

theorem tunnelEncapsulationLimit_read (read : tunnelEncapsulationLimitFromBuffer buffer = .ok option) :
    ReadAs .destOpts buffer 0 option := by
  simp only [tunnelEncapsulationLimitFromBuffer,bind_ok,pure_eq,raiseIf_ok] at read
  obtain ⟨_,opened,size,sized,_,single,_,_,_,_,same⟩ := read
  cases same
  have kind := optionOpens_read opened
  rw [byteAt_read sized] at single
  refine .defined ?_ ?_ ?_ ?_ rfl rfl
  · simp [kind,Area.knownValues]
  · simp [kind]
  · simp [kind]
  · simp only [Ip6Option.len]
    omega

theorem option_read (read : optionFromBuffer area buffer = .ok option) : ReadAs area buffer 0 option := by
  unfold optionFromBuffer at read
  split at read
  · exact pad1_read read
  · exact padN_read read
  · exact routerAlert_read read
  · exact calipso_read read
  · exact jumboPayload_read read
  · exact tunnelEncapsulationLimit_read read
  · exact unknown_read read

theorem ReadAs.drop (read : ReadAs area (buffer.drop offset) 0 option) : ReadAs area buffer offset option := by
  obtain ⟨len,pad,unknown⟩ := read
  simp only [wireLen,wirePad,wireUnknown,octet_drop,Nat.add_zero,Nat.zero_add] at len pad unknown
  exact ⟨len,pad,unknown⟩

-- Induction along the option list: what `from_buffer` read is what the octets
-- say, whichever family of classes it was read into.
theorem options_tally (read : optionsFromBuffer area buffer offset = .ok options) :
    tally area buffer offset =
      ⟨options.length,(options.map (padBytes .hbh)).sum,(options.map (unknownCount .hbh)).sum⟩ := by
  fun_induction optionsFromBuffer area buffer offset generalizing options with
  | case1 => cases read
  | case2 => cases read
  | case3 offset inside option first rest later ih =>
    cases read
    have here := (option_read first).drop
    unfold tally
    rw [dif_pos inside,← here.len,ih later,← here.pad,← here.unknown]
    simp only [List.length_cons,List.map_cons,List.sum_cons,Nat.add_comm]
  | case4 offset outside =>
    cases read
    unfold tally
    rw [dif_neg outside]
    rfl

-- The options area of a frame that starts with an options header.
def wireTally (area : Area) (frame : List UInt8) : Tally := tally area (slice frame 2 (headerLen frame)) 0

theorem parser_tally (parsed : optionsParser area frame multicast = .ok header) :
    wireTally area frame =
      ⟨header.options.length,(header.options.map (padBytes .hbh)).sum,
        (header.options.map (unknownCount .hbh)).sum⟩ := by
  simp only [optionsParser,bind_ok,pure_eq] at parsed
  obtain ⟨_,integrity,read,header_ok,_,_,same⟩ := parsed
  cases same
  obtain ⟨long,fits⟩ := optionsIntegrity_ok integrity
  have extent := (optionsHeader_reads long fits header_ok).hdrExtLen
  simp only [optionsHeader,bind_ok,pure_eq] at header_ok
  obtain ⟨_,_,_,_,options,walked,same⟩ := header_ok
  cases same
  change beNat (slice (frame.take 2) 1 2) = octet frame 1 at extent
  rw [extent] at walked
  exact options_tally walked

theorem destOpts_unpadded (options : List Ip6Option) : (options.map (padBytes .destOpts)).sum = 0 := by
  induction options with
  | nil => rfl
  | cons option rest ih => cases option <;> simpa [padBytes] using ih

theorem destOpts_known (options : List Ip6Option) : (options.map (unknownCount .destOpts)).sum = 0 := by
  induction options with
  | nil => rfl
  | cons option rest ih => cases option <;> simpa [unknownCount] using ih

theorem caps_error_iff (caps : Caps) (area : Area) (options : List Ip6Option) :
    checkExtHdrOptionCaps caps area options ≠ .ok () ↔
      Tally.Exceeds caps ⟨options.length,(options.map (padBytes area)).sum,(options.map (unknownCount area)).sum⟩ := by
  unfold checkExtHdrOptionCaps Tally.Exceeds
  dsimp only
  split
  · rename_i many
    exact iff_of_true nofun (.inl many)
  · split
    · rename_i padded
      exact iff_of_true nofun (.inr (.inl padded))
    · split
      · rename_i unknown
        exact iff_of_true nofun (.inr (.inr unknown))
      · rename_i few lean known
        refine iff_of_false (fun wrong => wrong rfl) ?_
        rintro (many | padded | unknown)
        · exact few many
        · exact lean padded
        · exact known unknown

def Dropped (interface : Interface) (area : Area) (walk : Walk) (seen : Bool) : Prop :=
  phrxIp6Options interface area walk seen = .ok (.stop (.dropped none))

theorem dropped_iff (parsed : optionsParser area walk.frame (isMulticast walk.ip6.header.dst) = .ok header) :
    Dropped interface area walk seen ↔ checkExtHdrOptionCaps interface.caps area header.options ≠ .ok () := by
  unfold Dropped phrxIp6Options
  rw [parsed]
  dsimp only
  cases checkExtHdrOptionCaps interface.caps area header.options with
  | error _ => simp
  | ok _ => simp

def OverOptions (caps : Caps) (counts : Tally) : Prop := caps.maxOptions ≠ 0 ∧ counts.options > caps.maxOptions

theorem option_caps_enforced_iff (interface : Interface) (area : Area) (walk : Walk) (seen : Bool)
    (parsed : optionsParser area walk.frame (isMulticast walk.ip6.header.dst) = .ok header) :
    (Dropped interface area walk seen ↔ (wireTally area walk.frame).Exceeds interface.caps) ↔
      (area = .hbh ∨ OverOptions interface.caps (wireTally area walk.frame) ∨
        ¬(wireTally area walk.frame).Exceeds interface.caps) := by
  rw [dropped_iff parsed,caps_error_iff]
  have counted := parser_tally parsed
  cases area with
  | hbh =>
    rw [counted]
    exact iff_of_true Iff.rfl (.inl rfl)
  | destOpts =>
    rw [destOpts_unpadded,destOpts_known]
    have options : (wireTally .destOpts walk.frame).options = header.options.length := by rw [counted]
    have only : Tally.Exceeds interface.caps ⟨header.options.length,0,0⟩ ↔
        OverOptions interface.caps (wireTally .destOpts walk.frame) := by
      unfold Tally.Exceeds OverOptions
      rw [options]
      simp
    rw [only]
    have included : OverOptions interface.caps (wireTally .destOpts walk.frame) →
        (wireTally .destOpts walk.frame).Exceeds interface.caps := .inl
    constructor
    · intro same
      by_cases exceeds : (wireTally .destOpts walk.frame).Exceeds interface.caps
      · exact .inr (.inl (same.mpr exceeds))
      · exact .inr (.inr exceeds)
    · rintro (wrong | many | within)
      · cases wrong
      · exact iff_of_true many (included many)
      · exact iff_of_false (fun more => within (included more)) within

-- Options the same octets hold in either header: one of an unknown type to be
-- skipped, then four octets of padding, where three are allowed.
def padded : List UInt8 := [59,0,0x1E,0,1,2,0,0]

def padInterface : Interface := ⟨[],fun _ => false,⟨8,3,8⟩⟩

def padWalk (next : UInt8) : Walk where
  frame := padded
  currentNext := next.toNat
  chainOffset := 40
  nonHbhSeen := false
  ip6 := packetOf (datagram next padded)

def paddedHeader : OptionsHeader := ⟨59,0,[.unknown 0x1E [],.padN [0,0]],[]⟩

theorem option_caps_enforced_hbh :
    Dropped padInterface .hbh (padWalk 0) false ↔ (wireTally .hbh padded).Exceeds padInterface.caps := by
  have read : optionsParser .hbh (padWalk 0).frame (isMulticast (padWalk 0).ip6.header.dst) = .ok paddedHeader := by
    decide +kernel
  exact (option_caps_enforced_iff padInterface .hbh (padWalk 0) false read).mpr (.inl rfl)

theorem dest_opts_padding_passes :
    (wireTally .destOpts padded).Exceeds padInterface.caps ∧
      ¬Dropped padInterface .destOpts (padWalk 60) true ∧ Dropped padInterface .hbh (padWalk 0) false := by
  have counts : wireTally .destOpts padded = ⟨2,4,1⟩ := by decide +kernel
  have there : optionsParser .destOpts (padWalk 60).frame (isMulticast (padWalk 60).ip6.header.dst) =
      .ok paddedHeader := by decide +kernel
  have here : optionsParser .hbh (padWalk 0).frame (isMulticast (padWalk 0).ip6.header.dst) = .ok paddedHeader := by
    decide +kernel
  refine ⟨.inr (.inl ?_),?_,?_⟩
  · rw [counts]
    decide
  · rw [dropped_iff there]
    exact fun wrong => wrong (by decide +kernel)
  · rw [dropped_iff here]
    decide +kernel

end PmdPytcp.Ip6
