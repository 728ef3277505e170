import PmdPytcp.Ip6.Options

namespace PmdPytcp.Ip6
open InetCksum Buffer

structure Ip6Routing where
  next : Nat
  hdrExtLen : Nat
  routingType : Nat
  segmentsLeft : Nat
  data : List UInt8
  payload : List UInt8
deriving Repr,DecidableEq

def routingError (message : String) (pointer : Option Nat) : PyError :=
  .packetIntegrity ("[INTEGRITY ERROR]" ++ ("[IPv6 Routing] " ++ message)) pointer

-- `Ip6RoutingParser.__init__`: every type but 0 is carried along unread.
def ip6RoutingParser (frame : List UInt8) : Py Ip6Routing := do
  raiseIf (frame.length < 4)
    (routingError s!"The condition 'IP6_ROUTING__HEADER__LEN <= len(self._frame)' must be met. Got: IP6_ROUTING__HEADER__LEN=4, len(self._frame)={frame.length}" none)
  let hdrExtLen ← byteAt frame 1
  let total := (hdrExtLen + 1)*8
  raiseIf (total > frame.length)
    (routingError s!"The condition '(hdr_ext_len + 1) * 8 <= len(self._frame)' must be met. Got: hdr_ext_len={hdrExtLen}, total_routing_len={total}, len(self._frame)={frame.length}" none)
  let routingType ← byteAt frame 2
  raiseIf (routingType = 0)
    (routingError "RFC 5095 §3: Type 0 Routing Header (RH0) is deprecated; drop with ICMPv6 Parameter Problem code 0 (erroneous header field)." (some 2))
  let fixed := frame.take 4
  raiseIf (fixed.length ≠ 4) .structError
  let hdrExtLen := beNat (slice fixed 1 2)
  let segmentsLeft := beNat (slice fixed 3 4)
  pyAssert (isUint 8 hdrExtLen)
  pyAssert (isUint 8 segmentsLeft)
  let total := (hdrExtLen + 1)*8
  return ⟨beNat (slice fixed 0 1),hdrExtLen,beNat (slice fixed 2 3),segmentsLeft,slice frame 4 total,frame.drop total⟩

structure ReadsRouting (frame : List UInt8) (header : Ip6Routing) : Prop where
  long : 4 ≤ frame.length
  fits : headerLen frame ≤ frame.length
  type : octet frame 2 ≠ 0
  next : header.next = octet frame 0
  hdrExtLen : header.hdrExtLen = octet frame 1
  payload : header.payload = frame.drop (headerLen frame)

theorem routing_reads (parsed : ip6RoutingParser frame = .ok header) : ReadsRouting frame header := by
  simp only [ip6RoutingParser,bind_ok,raiseIf_ok,pure_eq] at parsed
  obtain ⟨_,long,hdrExtLen,extent,_,fits,routingType,type,_,other,_,_,_,_,_,_,same⟩ := parsed
  rw [byteAt_octet (by omega)] at extent type
  cases extent
  cases type
  have field (i : Nat) (inside : i + 1 ≤ 4) : beNat (slice (frame.take 4) i (i+1)) = octet frame i := by
    rw [take_slice _ _ _ _ inside,beNat_octet frame (by omega)]
  rw [field 0 (by omega),field 1 (by omega)] at same
  cases same
  exact ⟨Nat.not_lt.mp long,Nat.not_lt.mp fits,other,rfl,rfl,rfl⟩

theorem routing_points (raised : ip6RoutingParser frame = .error (.packetIntegrity message (some pointer))) :
    pointer = 2 ∧ octet frame 2 = 0 := by
  unfold ip6RoutingParser at raised
  by_cases long : frame.length < 4
  · rw [raiseIf_pos long] at raised
    cases raised
  rw [raiseIf_neg long,ok_bind,byteAt_octet (by omega),ok_bind] at raised
  by_cases past : (octet frame 1 + 1)*8 > frame.length
  · simp only [raiseIf_pos past,error_bind] at raised
    cases raised
  simp only [raiseIf_neg past,ok_bind,@byteAt_octet 2 frame (by omega)] at raised
  by_cases type : octet frame 2 = 0
  · simp only [raiseIf_pos type,error_bind] at raised
    cases raised
    exact ⟨rfl,type⟩
  have whole : (frame.take 4).length = 4 := by simp; omega
  have one (i : Nat) (inside : i + 1 ≤ 4) : isUint 8 (beNat (slice (frame.take 4) i (i+1))) = true :=
    isUint_slice 8 i (i+1) _ (by omega)
  simp only [raiseIf_neg type,ok_bind,whole,ne_eq,not_true_eq_false,raiseIf_neg,one 1 (by omega),
    one 3 (by omega),pyAssert_true,pure_eq,not_false_eq_true] at raised
  cases raised

structure Caps where
  maxOptions : Nat
  maxPadBytes : Nat
  maxUnknown : Nat
deriving Repr,DecidableEq

-- `check_ext_hdr_option_caps`: the padding and the unknown options are those of
-- the Hop-by-Hop classes, so Destination Options count towards neither budget.
def padBytes (area : Area) : Ip6Option → Nat
  | .pad1 => if area = .hbh then 1 else 0
  | .padN data => if area = .hbh then 2 + data.length else 0
  | _ => 0

def unknownCount (area : Area) : Ip6Option → Nat
  | .unknown _ _ => if area = .hbh then 1 else 0
  | _ => 0

def checkExtHdrOptionCaps (caps : Caps) (area : Area) (options : List Ip6Option) : Except String Unit :=
  let padBytes := (options.map (padBytes area)).sum
  let unknownCount := (options.map (unknownCount area)).sum
  if caps.maxOptions ≠ 0 ∧ options.length > caps.maxOptions then
    .error s!"RFC 8504 §5.3: option count {options.length} exceeds ip6.ext_hdr_max_options cap {caps.maxOptions}."
  else if caps.maxPadBytes ≠ 0 ∧ padBytes > caps.maxPadBytes then
    .error s!"RFC 8504 §5.3: total Pad bytes {padBytes} exceeds ip6.ext_hdr_max_pad_bytes cap {caps.maxPadBytes}."
  else if caps.maxUnknown ≠ 0 ∧ unknownCount > caps.maxUnknown then
    .error s!"RFC 8504 §5.3: unknown-option count {unknownCount} exceeds ip6.ext_hdr_max_unknown_options cap {caps.maxUnknown}."
  else .ok ()

inductive Icmp6ParameterProblemCode where
  | erroneousHeaderField
  | unrecognizedNextHeader
  | unrecognizedIpv6Option
deriving Repr,DecidableEq

structure ParameterProblem where
  src : Nat
  dst : Nat
  code : Icmp6ParameterProblemCode
  pointer : Nat
  data : List UInt8
deriving Repr,DecidableEq

-- What the walk reads of the interface. `suppresses` is the verdict of
-- `try_emit_icmp_error` on the packet, with `is_param_problem_code_2` or not.
structure Interface where
  unicast : List Nat
  suppresses : Bool → Bool
  caps : Caps

def emit (interface : Interface) (ip6 : Ip6Packet) (code : Icmp6ParameterProblemCode) (pointer : Nat) :
    Option ParameterProblem :=
  if interface.unicast = [] then none
  else if interface.suppresses (code = .unrecognizedIpv6Option) then none
  else some ⟨ip6.header.dst,ip6.header.src,code,pointer,ip6.packetBytes⟩

def emitParameterProblem (interface : Interface) (ip6 : Ip6Packet) (pointer : Nat) :=
  emit interface ip6 .erroneousHeaderField pointer

def emitParameterProblemUnrecognizedNextHeader (interface : Interface) (ip6 : Ip6Packet) (pointer : Nat) :=
  emit interface ip6 .unrecognizedNextHeader pointer

def emitParameterProblemUnrecognizedOption (interface : Interface) (ip6 : Ip6Packet) (pointer : Nat) :=
  emit interface ip6 .unrecognizedIpv6Option pointer

theorem emit_sends (sent : emit interface ip6 code pointer = some problem) :
    problem.code = code ∧ problem.pointer = pointer := by
  unfold emit at sent
  split at sent
  · cases sent
  split at sent
  · cases sent
  · cases sent
    exact ⟨rfl,rfl⟩

structure Walk where
  frame : List UInt8
  currentNext : Nat
  chainOffset : Nat
  nonHbhSeen : Bool
  ip6 : Ip6Packet

inductive Ending where
  | transport (proto : Nat) (frame : List UInt8) (ip6 : Ip6Packet)
  | fragment (frame : List UInt8) (ip6 : Ip6Packet)
  | dropped (sent : Option ParameterProblem)
deriving Repr,DecidableEq

inductive Step where
  | stop (ending : Ending)
  | next (walk : Walk)

-- The header is stripped and `_payload` re-anchored behind it.
def Walk.behind (walk : Walk) (next hdrExtLen : Nat) (payload : List UInt8) (nonHbhSeen : Bool) : Walk where
  frame := payload
  currentNext := next
  chainOffset := walk.chainOffset + (hdrExtLen + 1)*8
  nonHbhSeen := nonHbhSeen
  ip6 := { walk.ip6 with payload := payload }

-- `__phrx_ip6__handle_options_sanity_error`
def handleOptionsSanityError (interface : Interface) (walk : Walk) : Option Nat → Option ParameterProblem
  | none => none
  | some pointer => emitParameterProblemUnrecognizedOption interface walk.ip6 (walk.chainOffset + 2 + pointer)

-- `_phrx_ip6_hbh` and `_phrx_ip6_dest_opts` catch the validation errors only.
def phrxIp6Options (interface : Interface) (area : Area) (walk : Walk) (nonHbhSeen : Bool) : Py Step :=
  match optionsParser area walk.frame (isMulticast walk.ip6.header.dst) with
  | .error (.packetIntegrity _ _) => .ok (.stop (.dropped none))
  | .error (.packetSanity _ pointer) => .ok (.stop (.dropped (handleOptionsSanityError interface walk pointer)))
  | .error e => .error e
  | .ok header =>
    match checkExtHdrOptionCaps interface.caps area header.options with
    | .error _ => .ok (.stop (.dropped none))
    | .ok () => .ok (.next (walk.behind header.next header.hdrExtLen header.payload nonHbhSeen))

def phrxIp6Hbh (interface : Interface) (walk : Walk) := phrxIp6Options interface .hbh walk walk.nonHbhSeen
def phrxIp6DestOpts (interface : Interface) (walk : Walk) := phrxIp6Options interface .destOpts walk true

def phrxIp6Routing (interface : Interface) (walk : Walk) : Py Step :=
  match ip6RoutingParser walk.frame with
  | .error (.packetIntegrity _ none) => .ok (.stop (.dropped none))
  | .error (.packetIntegrity _ (some pointer)) =>
    .ok (.stop (.dropped (emitParameterProblem interface walk.ip6 (walk.chainOffset + pointer))))
  | .error e => .error e
  | .ok header => .ok (.next (walk.behind header.next header.hdrExtLen header.payload true))

-- Hop-by-Hop 0, Routing 43, Fragment 44, Destination Options 60; ICMPv6 58, UDP
-- 17 and TCP 6 are registered, 59 ends the chain.
def walkStep (interface : Interface) (walk : Walk) : Py Step :=
  if walk.currentNext = 0 then
    if walk.nonHbhSeen then
      .ok (.stop (.dropped (emitParameterProblemUnrecognizedNextHeader interface walk.ip6 walk.chainOffset)))
    else phrxIp6Hbh interface walk
  else if walk.currentNext = 43 then phrxIp6Routing interface walk
  else if walk.currentNext = 44 then .ok (.stop (.fragment walk.frame walk.ip6))
  else if walk.currentNext = 60 then phrxIp6DestOpts interface walk
  else if walk.currentNext ∈ [58,17,6] then .ok (.stop (.transport walk.currentNext walk.frame walk.ip6))
  else if walk.currentNext = 59 then .ok (.stop (.dropped none))
  else .ok (.stop (.dropped (emitParameterProblemUnrecognizedNextHeader interface walk.ip6 walk.chainOffset)))

-- A header that the walk strips: in its place, accepted by its parser and
-- within the limits.
def OptionsPass (interface : Interface) (area : Area) (multicast : Bool) (frame : List UInt8) : Prop :=
  ∃ header, optionsParser area frame multicast = .ok header ∧
    checkExtHdrOptionCaps interface.caps area header.options = .ok ()

def Passes (interface : Interface) (multicast : Bool) (next : Nat) (seen : Bool) (frame : List UInt8) : Prop :=
  (next = 0 ∧ seen = false ∧ OptionsPass interface .hbh multicast frame) ∨
    (next = 43 ∧ ∃ header, ip6RoutingParser frame = .ok header) ∨
    (next = 60 ∧ OptionsPass interface .destOpts multicast frame)

def Walk.stripped (walk : Walk) : Walk :=
  walk.behind (octet walk.frame 0) (octet walk.frame 1) (walk.frame.drop (headerLen walk.frame))
    (walk.nonHbhSeen || walk.currentNext != 0)

theorem options_next (stepped : phrxIp6Options interface area walk seen = .ok (.next after)) :
    OptionsPass interface area (isMulticast walk.ip6.header.dst) walk.frame ∧
      headerLen walk.frame ≤ walk.frame.length ∧
      after = walk.behind (octet walk.frame 0) (octet walk.frame 1) (walk.frame.drop (headerLen walk.frame)) seen := by
  unfold phrxIp6Options at stepped
  split at stepped
  · cases stepped
  · cases stepped
  · cases stepped
  · next header parsed =>
    split at stepped
    · cases stepped
    · next within =>
      cases stepped
      obtain ⟨fits,next,extent,payload⟩ := optionsParser_reads parsed
      refine ⟨⟨header,parsed,within⟩,fits,?_⟩
      rw [next,extent,payload]

theorem walkStep_next (stepped : walkStep interface walk = .ok (.next after)) :
    Passes interface (isMulticast walk.ip6.header.dst) walk.currentNext walk.nonHbhSeen walk.frame ∧
      headerLen walk.frame ≤ walk.frame.length ∧ after = walk.stripped := by
  unfold walkStep at stepped
  split at stepped
  · next hbh =>
    split at stepped
    · cases stepped
    · next unseen =>
      obtain ⟨pass,fits,same⟩ := options_next stepped
      refine ⟨.inl ⟨hbh,Bool.eq_false_iff.mpr unseen,pass⟩,fits,?_⟩
      rw [same,Walk.stripped,hbh]
      simp
  split at stepped
  · next routing =>
    unfold phrxIp6Routing at stepped
    split at stepped
    · cases stepped
    · cases stepped
    · cases stepped
    · next header parsed =>
      cases stepped
      obtain ⟨_,fits,_,next,extent,payload⟩ := routing_reads parsed
      refine ⟨.inr (.inl ⟨routing,header,parsed⟩),fits,?_⟩
      rw [Walk.stripped,next,extent,payload,routing]
      simp
  split at stepped
  · cases stepped
  split at stepped
  · next destOpts =>
    obtain ⟨pass,fits,same⟩ := options_next stepped
    refine ⟨.inr (.inr ⟨destOpts,pass⟩),fits,?_⟩
    rw [same,Walk.stripped,destOpts]
    simp
  split at stepped
  · cases stepped
  split at stepped <;> cases stepped

theorem walkStep_passes
    (pass : Passes interface (isMulticast walk.ip6.header.dst) walk.currentNext walk.nonHbhSeen walk.frame) :
    ∃ after, walkStep interface walk = .ok (.next after) := by
  rcases pass with ⟨hbh,unseen,header,parsed,within⟩ | ⟨routing,header,parsed⟩ | ⟨destOpts,header,parsed,within⟩
  · refine ⟨walk.behind header.next header.hdrExtLen header.payload walk.nonHbhSeen,?_⟩
    simp only [walkStep,hbh,if_true,unseen,Bool.false_eq_true,if_false,phrxIp6Hbh,phrxIp6Options,parsed,within]
  · refine ⟨walk.behind header.next header.hdrExtLen header.payload true,?_⟩
    simp only [walkStep,routing,phrxIp6Routing,parsed]
    rfl
  · refine ⟨walk.behind header.next header.hdrExtLen header.payload true,?_⟩
    simp only [walkStep,destOpts,phrxIp6DestOpts,phrxIp6Options,parsed,within]
    rfl

theorem walkStep_shrinks (stepped : walkStep interface walk = .ok (.next after)) :
    after.frame.length < walk.frame.length := by
  obtain ⟨_,fits,same⟩ := walkStep_next stepped
  rw [same]
  simp only [Walk.stripped,Walk.behind,List.length_drop]
  have long : 8 ≤ headerLen walk.frame := by unfold headerLen; omega
  omega

def walkChain (interface : Interface) (walk : Walk) : Py Ending :=
  match _ : walkStep interface walk with
  | .error e => .error e
  | .ok (.stop ending) => .ok ending
  | .ok (.next after) => walkChain interface after
termination_by walk.frame.length
decreasing_by exact walkStep_shrinks ‹_›

-- `_phrx_ip6__walk_chain`
def phrxIp6WalkChain (interface : Interface) (packet : Ip6Packet) : Py Ending :=
  walkChain interface ⟨packet.payload,packet.header.next,40,false,packet⟩

-- A place in the chain: where a header starts, which Next Header field names
-- it and with what value, and whether a header other than Hop-by-Hop stands
-- before it. All offsets count from the start of the IPv6 header.
structure Spot where
  offset : Nat
  field : Nat
  next : Nat
  nonHbhSeen : Bool
deriving Repr,DecidableEq

def Spot.first (frame : List UInt8) : Spot := ⟨40,6,octet frame 6,false⟩

def Spot.following (frame : List UInt8) (spot : Spot) : Spot where
  offset := spot.offset + headerLen (frame.drop spot.offset)
  field := spot.offset
  next := octet frame spot.offset
  nonHbhSeen := spot.nonHbhSeen || spot.next != 0

def Follows (interface : Interface) (frame : List UInt8) (spot after : Spot) : Prop :=
  Passes interface (isMulticast (headerFields frame).dst) spot.next spot.nonHbhSeen (frame.drop spot.offset) ∧
    after = spot.following frame

-- The places that the headers in front of them let the receiver reach.
def OnChain (interface : Interface) (frame : List UInt8) : Spot → Prop :=
  Relation.ReflTransGen (Follows interface frame) (.first frame)

theorem follows_unique (interface : Interface) (frame : List UInt8) :
    Relator.RightUnique (Follows interface frame) := by
  rintro spot a b ⟨_,one⟩ ⟨_,other⟩
  rw [one,other]

theorem stuck_unique (one : OnChain interface frame a) (other : OnChain interface frame b)
    (stuckOne : ∀ c, ¬Follows interface frame a c) (stuckOther : ∀ c, ¬Follows interface frame b c) : a = b := by
  rcases Relation.ReflTransGen.total_of_right_unique (follows_unique interface frame) one other with path | path
  · rcases Relation.ReflTransGen.cases_head path with same | ⟨c,step,_⟩
    · exact same
    · exact absurd step (stuckOne c)
  · rcases Relation.ReflTransGen.cases_head path with same | ⟨c,step,_⟩
    · exact same.symm
    · exact absurd step (stuckOther c)

theorem field_before (reached : OnChain interface frame spot) : spot.field < spot.offset := by
  induction reached with
  | refl => exact (by decide : 6 < 40)
  | tail _ step _ =>
    rw [step.2]
    simp only [Spot.following,headerLen]
    omega

-- A walk stands at a spot when its loop variables describe it.
structure StandsAt (interface : Interface) (frame : List UInt8) (spot : Spot) (walk : Walk) : Prop where
  chain : OnChain interface frame spot
  rest : walk.frame = frame.drop spot.offset
  next : walk.currentNext = spot.next
  offset : walk.chainOffset = spot.offset
  seen : walk.nonHbhSeen = spot.nonHbhSeen
  header : walk.ip6.header = headerFields frame

theorem stands_next (stands : StandsAt interface frame spot walk)
    (stepped : walkStep interface walk = .ok (.next after)) :
    StandsAt interface frame (spot.following frame) after := by
  obtain ⟨pass,fits,same⟩ := walkStep_next stepped
  obtain ⟨chain,rest,next,offset,seen,header⟩ := stands
  rw [next,seen,rest,header] at pass
  have first : octet walk.frame 0 = octet frame spot.offset := by rw [rest,octet_drop,Nat.add_zero]
  refine ⟨chain.tail ⟨pass,rfl⟩,?_,?_,?_,?_,?_⟩
  · rw [same]
    simp only [Walk.stripped,Walk.behind,Spot.following,rest,List.drop_drop]
  · rw [same]
    exact first
  · rw [same]
    simp only [Walk.stripped,Walk.behind,Spot.following,headerLen,rest,offset]
  · rw [same]
    simp only [Walk.stripped,Walk.behind,Spot.following,next,seen]
  · rw [same]
    exact header

-- Every walk that comes to an end does so at a spot of the chain.
theorem walk_ends (stands : StandsAt interface frame spot walk) (walked : walkChain interface walk = .ok ending) :
    ∃ last finish, StandsAt interface frame last finish ∧ walkStep interface finish = .ok (.stop ending) := by
  fun_induction walkChain interface walk generalizing spot with
  | case1 => cases walked
  | case2 walk ending stopped =>
    cases walked
    exact ⟨spot,walk,stands,stopped⟩
  | case3 walk after stepped ih => exact ih (stands_next stands stepped) walked

theorem first_stands (accepted : Accepted frame) :
    StandsAt interface frame (.first frame)
      ⟨(packetOf frame).payload,(packetOf frame).header.next,40,false,packetOf frame⟩ := by
  have next : (headerFields frame).next = octet frame 6 := beNat_octet frame (by have := accepted.long; omega)
  exact ⟨.refl,rfl,next,rfl,rfl,rfl⟩

def Unrecognized (next : Nat) : Prop := next ∉ [0,43,44,60] ∧ next ∉ [58,17,6] ∧ next ≠ 59

-- The Next Header field in front of this place holds a value that the receiver
-- does not know, or names a Hop-by-Hop header behind another header.
def Faulty (spot : Spot) : Prop := spot.next = 0 ∧ spot.nonHbhSeen = true ∨ Unrecognized spot.next

instance (next : Nat) : Decidable (Unrecognized next) := inferInstanceAs (Decidable (_ ∧ _))
instance (spot : Spot) : Decidable (Faulty spot) := inferInstanceAs (Decidable (_ ∨ _))

def NextHeaderFault (interface : Interface) (frame : List UInt8) : Prop :=
  ∃ spot, OnChain interface frame spot ∧ Faulty spot

def Area.proto : Area → Nat
  | .hbh => 0
  | .destOpts => 60

def optionsArea (frame : List UInt8) (spot : Spot) : List UInt8 :=
  slice (frame.drop spot.offset) 2 (headerLen (frame.drop spot.offset))

-- The octet that each code of a Parameter Problem blames.
inductive Offends (interface : Interface) (frame : List UInt8) : Icmp6ParameterProblemCode → Nat → Prop where
  | nextHeader : OnChain interface frame spot → Faulty spot →
      Offends interface frame .unrecognizedNextHeader spot.field
  | option {area : Area} : OnChain interface frame spot → spot.next = area.proto → OptionAt area (optionsArea frame spot) option →
      option < (optionsArea frame spot).length →
      Reported area (isMulticast (headerFields frame).dst) (octet frame (spot.offset + 2 + option)) →
      Offends interface frame .unrecognizedIpv6Option (spot.offset + 2 + option)
  | routingType : OnChain interface frame spot → spot.next = 43 → octet frame (spot.offset + 2) = 0 →
      Offends interface frame .erroneousHeaderField (spot.offset + 2)

theorem faulty_stuck (faulty : Faulty spot) (after : Spot) : ¬Follows interface frame spot after := by
  rintro ⟨pass,_⟩
  rcases faulty with ⟨hbh,seen⟩ | ⟨extension,_,_⟩
  · rcases pass with ⟨_,unseen,_⟩ | ⟨routing,_⟩ | ⟨destOpts,_⟩
    · rw [seen] at unseen
      cases unseen
    · omega
    · omega
  · rcases pass with ⟨hbh,_⟩ | ⟨routing,_⟩ | ⟨destOpts,_⟩ <;> simp_all

theorem options_report {area : Area} (stands : StandsAt interface frame spot walk) (here : spot.next = area.proto)
    (stopped : phrxIp6Options interface area walk seen = .ok (.stop (.dropped (some problem)))) :
    Offends interface frame problem.code problem.pointer := by
  obtain ⟨chain,rest,next,offset,_,header⟩ := stands
  unfold phrxIp6Options at stopped
  split at stopped
  · cases stopped
  · next message pointer raised =>
    cases pointer with
    | none => cases stopped
    | some pointer =>
      have sent := (Step.stop.inj (Except.ok.inj stopped))
      have sent := Ending.dropped.inj sent
      obtain ⟨code,points⟩ := emit_sends sent
      obtain ⟨fits,place,inside,reported⟩ := optionsParser_points raised
      rw [rest] at place inside reported fits
      have within : pointer + 2 < headerLen (frame.drop spot.offset) := by
        rw [slice_length _ _ _ fits] at inside
        omega
      have same : octet (optionsArea frame spot) pointer = octet frame (spot.offset + 2 + pointer) := by
        rw [octet,octet,optionsArea,slice_getElem?,if_pos (by omega),List.getElem?_drop,Nat.add_assoc]
      rw [header] at reported
      rw [code,points,offset]
      exact .option chain here place inside (same ▸ reported)
  · cases stopped
  · split at stopped <;> cases stopped

theorem stop_reports (stands : StandsAt interface frame spot walk)
    (stopped : walkStep interface walk = .ok (.stop (.dropped (some problem)))) :
    (Faulty spot ∧ problem.code = .unrecognizedNextHeader ∧ problem.pointer = spot.offset) ∨
      (¬Faulty spot ∧ Offends interface frame problem.code problem.pointer) := by
  have misplaced (sent : emitParameterProblemUnrecognizedNextHeader interface walk.ip6 walk.chainOffset =
      some problem) : problem.code = .unrecognizedNextHeader ∧ problem.pointer = spot.offset := by
    obtain ⟨code,points⟩ := emit_sends sent
    exact ⟨code,points.trans stands.offset⟩
  unfold walkStep at stopped
  rw [stands.next,stands.seen] at stopped
  split at stopped
  · next hbh =>
    split at stopped
    · next seen => exact .inl ⟨.inl ⟨hbh,seen⟩,misplaced (Ending.dropped.inj (Step.stop.inj (Except.ok.inj stopped)))⟩
    · next unseen =>
      refine .inr ⟨?_,@options_report _ _ _ _ _ _ .hbh stands hbh stopped⟩
      rintro (⟨_,seen⟩ | ⟨extension,_⟩)
      · exact unseen seen
      · exact extension (by simp [hbh])
  split at stopped
  · next routing =>
    refine .inr ⟨?_,?_⟩
    · rintro (⟨hbh,_⟩ | ⟨extension,_⟩)
      · omega
      · exact extension (by simp [routing])
    unfold phrxIp6Routing at stopped
    split at stopped
    · cases stopped
    · next message pointer raised =>
      obtain ⟨rfl,zero⟩ := routing_points raised
      obtain ⟨code,points⟩ := emit_sends (Ending.dropped.inj (Step.stop.inj (Except.ok.inj stopped)))
      rw [stands.rest,octet_drop] at zero
      rw [code,points,stands.offset]
      exact .routingType stands.chain routing zero
    · cases stopped
    · cases stopped
  split at stopped
  · cases stopped
  split at stopped
  · next destOpts =>
    refine .inr ⟨?_,@options_report _ _ _ _ _ _ .destOpts stands destOpts stopped⟩
    rintro (⟨hbh,_⟩ | ⟨extension,_⟩)
    · omega
    · exact extension (by simp [destOpts])
  split at stopped
  · cases stopped
  split at stopped
  · cases stopped
  · have unknown : Unrecognized spot.next := ⟨by simp; omega,by assumption,by assumption⟩
    exact .inl ⟨.inr unknown,misplaced (Ending.dropped.inj (Step.stop.inj (Except.ok.inj stopped)))⟩

-- Behind a faulty Next Header field the report points at the header it names,
-- never at the field.
theorem fault_misses (reached : OnChain interface frame spot) (faulty : Faulty spot) :
    ¬Offends interface frame .unrecognizedNextHeader spot.offset := by
  intro offends
  generalize pointed : spot.offset = pointer at offends
  cases offends with
  | nextHeader other otherFaulty =>
    have same := stuck_unique reached other (faulty_stuck faulty) (faulty_stuck otherFaulty)
    have before := field_before reached
    rw [same] at pointed before
    omega

-- A Parameter Problem points at the offending octet exactly when no Next
-- Header field is what is at fault.
theorem parameter_problem_points_iff (parsed : ip6Parser frame = .ok packet)
    (sent : phrxIp6WalkChain interface packet = .ok (.dropped (some problem))) :
    Offends interface frame problem.code problem.pointer ↔ ¬NextHeaderFault interface frame := by
  obtain ⟨accepted,rfl⟩ := ip6Parser_ok_iff.mp parsed
  obtain ⟨spot,walk,stands,stopped⟩ := walk_ends (first_stands accepted) sent
  rcases stop_reports stands stopped with ⟨faulty,code,pointer⟩ | ⟨sound,offends⟩
  · rw [code,pointer]
    exact iff_of_false (fault_misses stands.chain faulty) (fun fine => fine ⟨spot,stands.chain,faulty⟩)
  · refine iff_of_true offends ?_
    rintro ⟨other,reached,faulty⟩
    have stuck (after : Spot) : ¬Follows interface frame spot after := by
      rintro ⟨pass,_⟩
      rw [← stands.header,← stands.next,← stands.seen,← stands.rest] at pass
      obtain ⟨after,stepped⟩ := walkStep_passes pass
      rw [stepped] at stopped
      cases stopped
    have same := stuck_unique stands.chain reached stuck (faulty_stuck faulty)
    exact sound (same ▸ faulty)

-- 2001:db8::1 to 2001:db8::2
def datagram (next : UInt8) (payload : List UInt8) : List UInt8 :=
  [0x60,0,0,0] ++ be16 payload.length ++ [next,64] ++ [0x20,0x01,0x0D,0xB8,0,0,0,0,0,0,0,0,0,0,0,1] ++
    [0x20,0x01,0x0D,0xB8,0,0,0,0,0,0,0,0,0,0,0,2] ++ payload

def host : Interface := ⟨[0x20010DB8_00000000_00000000_00000002],fun _ => false,⟨8,16,4⟩⟩

-- A Destination Options header with an option to be reported, behind an empty
-- Hop-by-Hop header.
theorem parameter_problem_points_dest_opts :
    let frame := datagram 0 [60,0,1,4,0,0,0,0,6,0,1,0,0x8A,2,0,0]
    phrxIp6WalkChain host (packetOf frame) = .ok (.dropped (some
        ⟨(headerFields frame).dst,(headerFields frame).src,.unrecognizedIpv6Option,52,frame⟩)) ∧
      (Offends host frame .unrecognizedIpv6Option 52 ↔ ¬NextHeaderFault host frame) := by
  intro frame
  have sent : phrxIp6WalkChain host (packetOf frame) = .ok (.dropped (some
      ⟨(headerFields frame).dst,(headerFields frame).src,.unrecognizedIpv6Option,52,frame⟩)) := by decide +kernel
  exact ⟨sent,parameter_problem_points_iff (by decide +kernel) sent⟩

-- Protocol 200 behind a plain header: the pointer is 40, not the Next Header
-- field at 6.
theorem unrecognized_next_header_misses :
    let frame := datagram 200 [1,2,3,4]
    ip6Parser frame = .ok (packetOf frame) ∧
      phrxIp6WalkChain host (packetOf frame) = .ok (.dropped (some
        ⟨(headerFields frame).dst,(headerFields frame).src,.unrecognizedNextHeader,40,frame⟩)) ∧
      ¬Offends host frame .unrecognizedNextHeader 40 := by
  intro frame
  have faulty : Faulty (.first frame) := by decide +kernel
  exact ⟨by decide +kernel,by decide +kernel,fault_misses .refl faulty⟩

end PmdPytcp.Ip6
