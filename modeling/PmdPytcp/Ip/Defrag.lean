import PmdPytcp.Ip4.Parser
import PmdPytcp.Ip6.Parser
import PmdPytcp.Ip.Reassembly

namespace PmdPytcp.Ip
open InetCksum Buffer Tiles Runs

-- The keyword arguments that `__defragment_ip4_packet` hands to the table.
def fragmentIp4 (packet : Ip4.Ip4Packet) : Fragment where
  flowId := ⟨packet.header.src,packet.header.dst,packet.header.id,some packet.header.proto⟩
  offset := packet.header.offset
  payload := packet.payloadBytes
  flagMf := packet.header.flagMf
  header := packet.packetBytes.take packet.header.hlen
  ecn := packet.header.ecn

def rewriteIp4Header (header : List UInt8) (ecn payloadLen : Nat) : Py (List UInt8) := do
  let tos ← byteAt header 1
  let header ← setByte header 1 ((tos &&& 0xFC) ||| (ecn &&& 0x03))
  let header ← packH header 2 (header.length + payloadLen)
  let header ← setByte header 6 0
  let header ← setByte header 7 0
  let header ← setByte header 10 0
  let header ← setByte header 11 0
  packH header 10 (inetCksum [header] 0)

def reassembleIp4 (answer : IpFragAddResult) : Py (Option Ip4.Ip4Packet) := do
  let header ← rewriteIp4Header answer.header answer.ecn answer.payload.length
  let packet ← Ip4.ip4Parser (header ++ answer.payload)
  return some packet

-- `__defragment_ip4_packet`; the packet is parsed here, and nothing is caught.
def defragmentIp4Packet (now : Int) (packet : Ip4.Ip4Packet) (table : IpFragTable) :
    Py (Option Ip4.Ip4Packet) × IpFragTable :=
  match table.addFragment now (fragmentIp4 packet) with
  | (.error e,table) => (.error e,table)
  | (.ok answer,table) =>
    if answer.outcome = .complete then (reassembleIp4 answer,table) else (.ok none,table)

def fragmentIp6 (packet : Ip6.Ip6Packet) (frag : Ip6.Ip6Frag) : Fragment where
  flowId := ⟨packet.header.src,packet.header.dst,frag.id,none⟩
  offset := frag.offset
  payload := frag.payload
  flagMf := frag.flagMf
  header := packet.headerBytes
  ecn := packet.header.ecn

def rewriteIp6Header (header : List UInt8) (ecn payloadLen next : Nat) : Py (List UInt8) := do
  let octet ← byteAt header 1
  let header ← setByte header 1 ((octet &&& 0xCF) ||| ((ecn &&& 0x03) <<< 4))
  let header ← packH header 4 payloadLen
  setByte header 6 next

structure PacketRx where
  frame : List UInt8
  wasFragmented : Bool
deriving Repr,DecidableEq

def reassembleIp6 (answer : IpFragAddResult) (next : Nat) : Py (Option PacketRx) := do
  let header ← rewriteIp6Header answer.header answer.ecn answer.payload.length next
  return some ⟨header ++ answer.payload,true⟩

-- `__defragment_ip6_packet`; the packet goes back to the IPv6 receive path.
def defragmentIp6Packet (now : Int) (packet : Ip6.Ip6Packet) (frag : Ip6.Ip6Frag) (table : IpFragTable) :
    Py (Option PacketRx) × IpFragTable :=
  match table.addFragment now (fragmentIp6 packet frag) with
  | (.error e,table) => (.error e,table)
  | (.ok answer,table) =>
    if answer.outcome = .complete then (reassembleIp6 answer frag.next,table) else (.ok none,table)

theorem defragmentIp4_answer (answered : (table.addFragment now (fragmentIp4 packet)).1 = .ok answer) :
    (defragmentIp4Packet now packet table).1 =
      if answer.outcome = .complete then reassembleIp4 answer else .ok none := by
  simp only [defragmentIp4Packet]
  rcases pair : table.addFragment now (fragmentIp4 packet) with ⟨first,second⟩
  rw [pair] at answered
  obtain rfl : first = .ok answer := answered
  simp only
  split
  · rfl
  · rfl

theorem defragmentIp6_answer (answered : (table.addFragment now (fragmentIp6 packet frag)).1 = .ok answer) :
    (defragmentIp6Packet now packet frag table).1 =
      if answer.outcome = .complete then reassembleIp6 answer frag.next else .ok none := by
  simp only [defragmentIp6Packet]
  rcases pair : table.addFragment now (fragmentIp6 packet frag) with ⟨first,second⟩
  rw [pair] at answered
  obtain rfl : first = .ok answer := answered
  simp only
  split
  · rfl
  · rfl

theorem defragmentIp4_table (now : Int) (packet : Ip4.Ip4Packet) (table : IpFragTable) :
    (defragmentIp4Packet now packet table).2 = (table.addFragment now (fragmentIp4 packet)).2 := by
  simp only [defragmentIp4Packet]
  split
  · next same => rw [same]
  · next same =>
    rw [same]
    split
    · rfl
    · rfl

theorem defragmentIp6_table (now : Int) (packet : Ip6.Ip6Packet) (frag : Ip6.Ip6Frag) (table : IpFragTable) :
    (defragmentIp6Packet now packet frag table).2 = (table.addFragment now (fragmentIp6 packet frag)).2 := by
  simp only [defragmentIp6Packet]
  split
  · next same => rw [same]
  · next same =>
    rw [same]
    split
    · rfl
    · rfl

-- DSCP of the first fragment with the aggregated ECN.
def tosOctet (header : List UInt8) (ecn : Nat) : UInt8 :=
  UInt8.ofNat (((header[1]?.getD 0).toNat &&& 0xFC) ||| (ecn &&& 0x03))

def ip4Patches (header : List UInt8) (ecn total : Nat) : List (Nat × List UInt8) :=
  [(1,[tosOctet header ecn]),(2,be16 total),(6,[0]),(7,[0]),(10,[0]),(11,[0])]

def blankIp4Header (header : List UInt8) (ecn total : Nat) : List UInt8 :=
  patched header (ip4Patches header ecn total)

theorem masked_octet (tos ecn : Nat) : (tos &&& 0xFC) ||| (ecn &&& 0x03) ≤ 255 := by
  have front : tos &&& 0xFC < 2^8 := Nat.lt_of_le_of_lt Nat.and_le_right (by decide)
  have back : ecn &&& 0x03 < 2^8 := Nat.lt_of_le_of_lt Nat.and_le_right (by decide)
  have both := Nat.or_lt_two_pow front back
  omega

section Ip4Header
variable {header : List UInt8} {ecn total : Nat}

theorem ip4Patches_fit (long : 20 ≤ header.length) : PatchesFit header (ip4Patches header ecn total) := by
  intro patch member
  simp only [ip4Patches,List.mem_cons,List.not_mem_nil,or_false] at member
  rcases member with rfl | rfl | rfl | rfl | rfl | rfl <;> simp [be16] <;> omega

theorem blank_length (long : 20 ≤ header.length) : (blankIp4Header header ecn total).length = header.length :=
  patched_length (ip4Patches_fit long)

theorem rewriteIp4Header_eq (long : 20 ≤ header.length) (small : header.length + size < 65536) :
    rewriteIp4Header header ecn size =
      packH (blankIp4Header header ecn (header.length + size)) 10
        (inetCksum [blankIp4Header header ecn (header.length + size)] 0) := by
  have none : PatchesFit header [] := by simp [PatchesFit]
  have tos := none.snoc 1 [tosOctet header ecn] (by simp; omega)
  have lengths := tos.snoc 2 (be16 (header.length + size)) (by simp [be16]; omega)
  have flags := lengths.snoc 6 [UInt8.ofNat 0] (by simp; omega)
  have offsets := flags.snoc 7 [UInt8.ofNat 0] (by simp; omega)
  have high := offsets.snoc 10 [UInt8.ofNat 0] (by simp; omega)
  have first : setByte header 1 (((header[1]?.getD 0).toNat &&& 0xFC) ||| (ecn &&& 0x03)) = .ok _ :=
    setByte_patched none (by omega) (masked_octet _ _)
  simp only [rewriteIp4Header,byteAt_ok (show 1 < header.length by omega),ok_bind,first]
  change (packH (patched header ([] ++ [(1,[tosOctet header ecn])])) 2
    ((patched header ([] ++ [(1,[tosOctet header ecn])])).length + size) >>= _) = _
  rw [patched_length tos,packH_patched tos (by omega) small,ok_bind,setByte_patched lengths (by omega) (by omega),
    ok_bind,setByte_patched flags (by omega) (by omega),ok_bind,setByte_patched offsets (by omega) (by omega),ok_bind,
    setByte_patched high (by omega) (by omega),ok_bind]
  have blank : patched header ([] ++ [(1,[tosOctet header ecn])] ++ [(2,be16 (header.length + size))] ++
      [(6,[UInt8.ofNat 0])] ++ [(7,[UInt8.ofNat 0])] ++ [(10,[UInt8.ofNat 0])] ++ [(11,[UInt8.ofNat 0])]) =
      blankIp4Header header ecn (header.length + size) := rfl
  rw [blank]

theorem inetCksum_lt (bytes : List UInt8) (short : bytes.length ≤ 65600) : inetCksum [bytes] 0 < 65536 := by
  rcases inetCksum_cases [bytes] .plain (by simpa using short) with ⟨_,value⟩ | ⟨_,value⟩
  · rw [show Caller.plain.pshdrSum = 0 from rfl] at value
    omega
  · rw [show Caller.plain.pshdrSum = 0 from rfl] at value
    omega

def newIp4Header (header : List UInt8) (ecn total : Nat) : List UInt8 :=
  patched header (ip4Patches header ecn total ++ [(10,be16 (inetCksum [blankIp4Header header ecn total] 0))])

theorem newPatches_fit (long : 20 ≤ header.length) :
    PatchesFit header (ip4Patches header ecn total ++ [(10,be16 (inetCksum [blankIp4Header header ecn total] 0))]) :=
  (ip4Patches_fit long).snoc _ _ (by simp [be16]; omega)

theorem newIp4Header_length (long : 20 ≤ header.length) :
    (newIp4Header header ecn total).length = header.length :=
  patched_length (newPatches_fit long)

theorem rewriteIp4Header_ok (long : 20 ≤ header.length) (small : header.length + size < 65536) :
    rewriteIp4Header header ecn size = .ok (newIp4Header header ecn (header.length + size)) := by
  rw [rewriteIp4Header_eq long small]
  unfold newIp4Header
  exact packH_patched (ip4Patches_fit long) (by omega) (inetCksum_lt _ (by rw [blank_length long]; omega))

theorem rewriteIp4Header_oversize (long : 20 ≤ header.length) (big : 65536 ≤ header.length + size) :
    rewriteIp4Header header ecn size = .error .structError := by
  have none : PatchesFit header [] := by simp [PatchesFit]
  have tos := none.snoc 1 [tosOctet header ecn] (by simp; omega)
  have first : setByte header 1 (((header[1]?.getD 0).toNat &&& 0xFC) ||| (ecn &&& 0x03)) = .ok _ :=
    setByte_patched none (by omega) (masked_octet _ _)
  simp only [rewriteIp4Header,byteAt_ok (show 1 < header.length by omega),ok_bind,first]
  change (packH (patched header ([] ++ [(1,[tosOctet header ecn])])) 2
    ((patched header ([] ++ [(1,[tosOctet header ecn])])).length + size) >>= _) = _
  rw [patched_length tos,packH,if_neg (by omega)]
  rfl

-- Every octet but the type of service, the lengths, the fragment fields and
-- the checksum is the first fragment's.
theorem newIp4Header_kept (long : 20 ≤ header.length)
    (apart : b ≤ 1 ∨ (4 ≤ a ∧ b ≤ 6) ∨ (8 ≤ a ∧ b ≤ 10) ∨ 12 ≤ a) :
    slice (newIp4Header header ecn total) a b = slice header a b := by
  refine slice_patched_apart (newPatches_fit long) ?_
  intro patch member
  simp only [ip4Patches,List.cons_append,List.nil_append,List.mem_cons,List.not_mem_nil,or_false] at member
  rcases member with rfl | rfl | rfl | rfl | rfl | rfl | rfl <;> simp [be16] <;> omega

theorem newIp4Header_total (long : 20 ≤ header.length) :
    slice (newIp4Header header ecn total) 2 4 = be16 total :=
  slice_patched_self [(1,[tosOctet header ecn])] (2,be16 total) (newPatches_fit long)
    (by simp [be16])

theorem newIp4Header_fragment (long : 20 ≤ header.length) :
    slice (newIp4Header header ecn total) 6 8 = [0,0] := by
  have high : slice (newIp4Header header ecn total) 6 7 = [0] :=
    slice_patched_self [(1,[tosOctet header ecn]),(2,be16 total)] (6,[0])
      (newPatches_fit long) (by simp [be16])
  have low : slice (newIp4Header header ecn total) 7 8 = [0] :=
    slice_patched_self [(1,[tosOctet header ecn]),(2,be16 total),(6,[0])] (7,[0])
      (newPatches_fit long) (by simp [be16])
  rw [← slice_append_slice _ (show 6 ≤ 7 by omega) (show 7 ≤ 8 by omega),high,low]
  rfl

theorem newIp4Header_tos (long : 20 ≤ header.length) :
    slice (newIp4Header header ecn total) 1 2 = [tosOctet header ecn] :=
  slice_patched_self [] (1,[tosOctet header ecn]) (newPatches_fit long) (by simp [be16])

theorem newIp4Header_verifies (long : 20 ≤ header.length) (short : header.length ≤ 60)
    (kept : ¬CarryLost [blankIp4Header header ecn total] .plain) :
    inetCksum [newIp4Header header ecn total] 0 = 0 := by
  have size := @blank_length _ ecn total long
  have high : slice (blankIp4Header header ecn total) 10 11 = [0] :=
    slice_patched_self [(1,[tosOctet header ecn]),(2,be16 total),(6,[0]),(7,[0])] (10,[0])
      (ip4Patches_fit long) (by simp)
  have low : slice (blankIp4Header header ecn total) 11 12 = [0] :=
    slice_patched_self [(1,[tosOctet header ecn]),(2,be16 total),(6,[0]),(7,[0]),(10,[0])]
      (11,[0]) (ip4Patches_fit long) (by simp)
  have field : slice (blankIp4Header header ecn total) 10 12 = [0,0] := by
    rw [← slice_append_slice _ (show 10 ≤ 11 by omega) (show 11 ≤ 12 by omega),high,low]
    rfl
  have whole : (blankIp4Header header ecn total).take 10 ++ [0,0] ++ (blankIp4Header header ecn total).drop 12 =
      blankIp4Header header ecn total := by
    rw [← field,take_slice_append _ (by omega),List.take_append_drop]
  have written : newIp4Header header ecn total =
      (blankIp4Header header ecn total).take 10 ++ be16 (inetCksum [blankIp4Header header ecn total] 0) ++
        (blankIp4Header header ecn total).drop 12 := by
    rw [newIp4Header,patched_append]
    rfl
  have verified := filled_verifies .plain ((blankIp4Header header ecn total).take 10)
    ((blankIp4Header header ecn total).drop 12) (by rw [List.length_take,size,Nat.min_eq_left (by omega)])
    (by rw [whole,size]; omega) (by rwa [whole])
  rw [whole] at verified
  rw [written]
  exact verified

end Ip4Header

-- What one accepted fragment's whole header turns into.
section Reassembled
variable {frame payload : List UInt8} {packet : Ip4.Ip4Packet} {ecn : Nat}

theorem take_getElem? (same : slice after 0 1 = slice before 0 1) : after[0]? = before[0]? := by
  have first := congrArg (fun octets => octets[0]?) same
  simpa [slice_getElem?] using first

def wholeIp4 (frame payload : List UInt8) (ecn : Nat) : List UInt8 :=
  newIp4Header (frame.take (Ip4.ihl frame)) ecn (Ip4.ihl frame + payload.length) ++ payload

theorem header_taken (sound : Ip4.HeaderSound frame) : (frame.take (Ip4.ihl frame)).length = Ip4.ihl frame := by
  rw [List.length_take,Nat.min_eq_left (Nat.le_trans sound.inside sound.present)]

theorem ihl_le (frame : List UInt8) : Ip4.ihl frame ≤ 60 := by
  have nibble : (frame[0]?.getD 0).toNat &&& 0x0F ≤ 15 := Nat.and_le_right
  rw [Ip4.ihl,Nat.shiftLeft_eq]
  omega

theorem wholeIp4_kept (sound : Ip4.HeaderSound frame) (apart : b ≤ 1 ∨ (4 ≤ a ∧ b ≤ 6) ∨ (8 ≤ a ∧ b ≤ 10) ∨ 12 ≤ a)
    (inside : b ≤ Ip4.ihl frame) : slice (wholeIp4 frame payload ecn) a b = slice frame a b := by
  have size := header_taken sound
  have long : 20 ≤ (frame.take (Ip4.ihl frame)).length := by rw [size]; exact sound.least
  unfold wholeIp4
  rw [slice_append_left _ _ (by rw [newIp4Header_length long,size]; exact inside),newIp4Header_kept long apart,
    take_slice _ _ _ _ inside]

theorem wholeIp4_ihl (sound : Ip4.HeaderSound frame) : Ip4.ihl (wholeIp4 frame payload ecn) = Ip4.ihl frame := by
  have least := sound.least
  unfold Ip4.ihl
  rw [take_getElem? (@wholeIp4_kept _ payload ecn _ _ sound (.inl (by omega)) (by omega))]

theorem wholeIp4_length (sound : Ip4.HeaderSound frame) :
    (wholeIp4 frame payload ecn).length = Ip4.ihl frame + payload.length := by
  have size := header_taken sound
  have long : 20 ≤ (frame.take (Ip4.ihl frame)).length := by rw [size]; exact sound.least
  rw [wholeIp4,List.length_append,newIp4Header_length long,size]

theorem wholeIp4_total (sound : Ip4.HeaderSound frame) (small : Ip4.ihl frame + payload.length < 65536) :
    Ip4.totalLength (wholeIp4 frame payload ecn) = Ip4.ihl frame + payload.length := by
  have size := header_taken sound
  have least := sound.least
  have long : 20 ≤ (frame.take (Ip4.ihl frame)).length := by omega
  rw [Ip4.totalLength,wholeIp4,slice_append_left _ _ (by rw [newIp4Header_length long]; omega),
    newIp4Header_total long,beNat_be16 _ small]

theorem wholeIp4_sound (sound : Ip4.HeaderSound frame) (small : Ip4.ihl frame + payload.length < 65536)
    (kept : ¬CarryLost [blankIp4Header (frame.take (Ip4.ihl frame)) ecn (Ip4.ihl frame + payload.length)] .plain) :
    Ip4.HeaderSound (wholeIp4 frame payload ecn) := by
  have size := header_taken sound
  have least := sound.least
  have long : 20 ≤ (frame.take (Ip4.ihl frame)).length := by omega
  have ihl := @wholeIp4_ihl _ payload ecn sound
  have length := @wholeIp4_length _ payload ecn sound
  have total := @wholeIp4_total _ _ ecn sound small
  refine ⟨by omega,?_,by omega,by omega,by omega,?_⟩
  · rw [take_getElem? (wholeIp4_kept sound (.inl (by omega)) (by omega))]
    exact sound.version
  · have header : (wholeIp4 frame payload ecn).take (Ip4.ihl frame) =
        newIp4Header (frame.take (Ip4.ihl frame)) ecn (Ip4.ihl frame + payload.length) := by
      rw [wholeIp4,List.take_left' (by rw [newIp4Header_length long,size])]
    rw [ihl,header]
    exact newIp4Header_verifies long (by have := ihl_le frame; omega) kept

theorem wholeIp4_fragment (sound : Ip4.HeaderSound frame) : slice (wholeIp4 frame payload ecn) 6 8 = [0,0] := by
  have size := header_taken sound
  have least := sound.least
  have long : 20 ≤ (frame.take (Ip4.ihl frame)).length := by omega
  rw [wholeIp4,slice_append_left _ _ (by rw [newIp4Header_length long]; omega),newIp4Header_fragment long]

theorem wholeIp4_area (sound : Ip4.HeaderSound frame) :
    Ip4.optionArea (wholeIp4 frame payload ecn) = Ip4.optionArea frame := by
  unfold Ip4.optionArea
  rw [wholeIp4_ihl sound,wholeIp4_kept sound (.inr (.inr (.inr (by omega)))) (by omega)]

-- The packet read back: the opening fragment's header over the joined payload.
def rebuilt (frame : List UInt8) (packet : Ip4.Ip4Packet) (payload : List UInt8) (ecn : Nat) : Ip4.Ip4Packet :=
  ⟨wholeIp4 frame payload ecn,Ip4.headerFields (wholeIp4 frame payload ecn),packet.options,payload⟩

@[simp] theorem rebuilt_frame : (rebuilt frame packet payload ecn).frame = wholeIp4 frame payload ecn := rfl
@[simp] theorem rebuilt_header :
    (rebuilt frame packet payload ecn).header = Ip4.headerFields (wholeIp4 frame payload ecn) := rfl
@[simp] theorem rebuilt_payload : (rebuilt frame packet payload ecn).payload = payload := rfl

theorem wholeIp4_parses (parsed : Ip4.Parsed frame packet) (small : Ip4.ihl frame + payload.length < 65536)
    (kept : ¬CarryLost [blankIp4Header (frame.take (Ip4.ihl frame)) ecn (Ip4.ihl frame + payload.length)] .plain) :
    Ip4.ip4Parser (wholeIp4 frame payload ecn) = .ok (rebuilt frame packet payload ecn) := by
  have sound := parsed.sound
  have size := header_taken sound
  have least := sound.least
  have after := wholeIp4_sound sound small kept
  have area := @wholeIp4_area _ payload ecn sound
  have sane : Ip4.validateSanity (Ip4.headerFields (wholeIp4 frame payload ecn)) = .ok () := by
    have before := Ip4.sane_source parsed.sane
    rw [parsed.fields] at before
    have ttl : (Ip4.headerFields (wholeIp4 frame payload ecn)).ttl = (Ip4.headerFields frame).ttl := by
      simp only [Ip4.headerFields]
      rw [wholeIp4_kept sound (.inr (.inr (.inl ⟨by omega,by omega⟩))) (by omega)]
    have src : (Ip4.headerFields (wholeIp4 frame payload ecn)).source = (Ip4.headerFields frame).source := by
      simp only [Ip4.Ip4Header.source,Ip4.headerFields]
      rw [wholeIp4_kept sound (.inr (.inr (.inr (by omega)))) (by omega)]
    have df : (Ip4.headerFields (wholeIp4 frame payload ecn)).flagDf = false := by
      simp only [Ip4.headerFields,wholeIp4_fragment sound]
      decide
    obtain ⟨alive,valid,remote,unicast,assigned,single⟩ := before
    rw [← src] at valid remote unicast assigned single
    exact Ip4.sane_unfragmented ⟨by rw [ttl]; exact alive,valid,remote,unicast,assigned,single⟩ df
  have read := Ip4.ip4Parser_accepts after (by rw [area]; exact parsed.walked) (by rw [area]; exact parsed.options) sane
  have rest : slice (wholeIp4 frame payload ecn) (Ip4.ihl (wholeIp4 frame payload ecn))
      (Ip4.totalLength (wholeIp4 frame payload ecn)) = payload := by
    rw [wholeIp4_ihl sound,wholeIp4_total sound small,← @wholeIp4_length _ _ ecn sound,slice_rest]
    rw [wholeIp4,List.drop_left' (by rw [newIp4Header_length (by omega),size])]
  rw [rest] at read
  exact read

theorem reassembleIp4_eq (sound : Ip4.HeaderSound frame) (small : Ip4.ihl frame + payload.length < 65536) :
    reassembleIp4 ⟨.complete,frame.take (Ip4.ihl frame),payload,ecn⟩ =
      (Ip4.ip4Parser (wholeIp4 frame payload ecn) >>= fun packet => .ok (some packet)) := by
  have size := header_taken sound
  have least := sound.least
  have written := @rewriteIp4Header_ok _ ecn _ (show 20 ≤ (frame.take (Ip4.ihl frame)).length by omega)
    (show (frame.take (Ip4.ihl frame)).length + payload.length < 65536 by omega)
  rw [size] at written
  simp only [reassembleIp4,written,ok_bind,pure_eq,wholeIp4]

structure Unfragmented (payload : List UInt8) (whole : Ip4.Ip4Packet) : Prop where
  parses : Ip4.ip4Parser whole.frame = .ok whole
  plen : whole.header.plen = whole.frame.length
  bounded : whole.frame.length ≤ 65535
  df : whole.header.flagDf = false
  mf : whole.header.flagMf = false
  offset : whole.header.offset = 0
  payload : whole.payload = payload

theorem reassembleIp4_ok (parsed : Ip4.Parsed frame packet) (small : Ip4.ihl frame + payload.length < 65536)
    (kept : ¬CarryLost [blankIp4Header (frame.take (Ip4.ihl frame)) ecn (Ip4.ihl frame + payload.length)] .plain) :
    reassembleIp4 ⟨.complete,frame.take (Ip4.ihl frame),payload,ecn⟩ = .ok (some (rebuilt frame packet payload ecn)) ∧
      Unfragmented payload (rebuilt frame packet payload ecn) := by
  have sound := parsed.sound
  have parses := wholeIp4_parses parsed small kept
  have length := @wholeIp4_length _ payload ecn sound
  have total := @wholeIp4_total _ _ ecn sound small
  have field := @wholeIp4_fragment _ payload ecn sound
  have flags : (Ip4.headerFields (wholeIp4 frame payload ecn)).flagDf = false ∧
      (Ip4.headerFields (wholeIp4 frame payload ecn)).flagMf = false ∧
      (Ip4.headerFields (wholeIp4 frame payload ecn)).offset = 0 := by
    simp only [Ip4.headerFields,field]
    decide
  refine ⟨by rw [reassembleIp4_eq sound small,parses,ok_bind],?_⟩
  have plen : (Ip4.headerFields (wholeIp4 frame payload ecn)).plen = (wholeIp4 frame payload ecn).length := by
    rw [Ip4.headerFields_plen,total,length]
  constructor
  case parses => rw [rebuilt_frame]; exact parses
  case plen => rw [rebuilt_frame,rebuilt_header]; exact plen
  case bounded => rw [rebuilt_frame]; omega
  case df => rw [rebuilt_header]; exact flags.1
  case mf => rw [rebuilt_header]; exact flags.2.1
  case offset => rw [rebuilt_header]; exact flags.2.2
  case payload => exact rebuilt_payload

end Reassembled

section Ip6Header
variable {header frame payload : List UInt8} {ecn next : Nat}

-- Traffic class of the first fragment with the aggregated ECN.
def classOctet (header : List UInt8) (ecn : Nat) : UInt8 :=
  UInt8.ofNat (((header[1]?.getD 0).toNat &&& 0xCF) ||| ((ecn &&& 0x03) <<< 4))

def ip6Patches (header : List UInt8) (ecn size next : Nat) : List (Nat × List UInt8) :=
  [(1,[classOctet header ecn]),(4,be16 size),(6,[UInt8.ofNat next])]

def newIp6Header (header : List UInt8) (ecn size next : Nat) : List UInt8 :=
  patched header (ip6Patches header ecn size next)

theorem class_octet (octet ecn : Nat) : (octet &&& 0xCF) ||| ((ecn &&& 0x03) <<< 4) ≤ 255 := by
  have front : octet &&& 0xCF < 2^8 := Nat.lt_of_le_of_lt Nat.and_le_right (by decide)
  have low : ecn &&& 0x03 ≤ 0x03 := Nat.and_le_right
  have back : (ecn &&& 0x03) <<< 4 < 2^8 := by
    rw [Nat.shiftLeft_eq]
    omega
  have both := Nat.or_lt_two_pow front back
  omega

theorem ip6Patches_fit (long : header.length = 40) : PatchesFit header (ip6Patches header ecn size next) := by
  intro patch member
  simp only [ip6Patches,List.mem_cons,List.not_mem_nil,or_false] at member
  rcases member with rfl | rfl | rfl <;> simp [be16] <;> omega

theorem newIp6Header_length (long : header.length = 40) : (newIp6Header header ecn size next).length = 40 :=
  (patched_length (ip6Patches_fit long)).trans long

theorem rewriteIp6Header_ok (long : header.length = 40) (small : size < 65536) (octet : next ≤ 255) :
    rewriteIp6Header header ecn size next = .ok (newIp6Header header ecn size next) := by
  have none : PatchesFit header [] := by simp [PatchesFit]
  have class1 := none.snoc 1 [classOctet header ecn] (by simp; omega)
  have length2 := class1.snoc 4 (be16 size) (by simp [be16]; omega)
  have first : setByte header 1 (((header[1]?.getD 0).toNat &&& 0xCF) ||| ((ecn &&& 0x03) <<< 4)) = .ok _ :=
    setByte_patched none (by omega) (class_octet _ _)
  simp only [rewriteIp6Header,byteAt_ok (show 1 < header.length by omega),ok_bind,first]
  change (packH (patched header ([] ++ [(1,[classOctet header ecn])])) 4 size >>= _) = _
  rw [packH_patched class1 (by omega) small,ok_bind,setByte_patched length2 (by omega) octet]
  rfl

theorem rewriteIp6Header_oversize (long : header.length = 40) (big : 65536 ≤ size) :
    rewriteIp6Header header ecn size next = .error .structError := by
  have none : PatchesFit header [] := by simp [PatchesFit]
  have first : setByte header 1 (((header[1]?.getD 0).toNat &&& 0xCF) ||| ((ecn &&& 0x03) <<< 4)) = .ok _ :=
    setByte_patched none (by omega) (class_octet _ _)
  simp only [rewriteIp6Header,byteAt_ok (show 1 < header.length by omega),ok_bind,first]
  rw [packH,if_neg (by omega)]
  rfl

theorem newIp6Header_kept (long : header.length = 40) (apart : b ≤ 1 ∨ (2 ≤ a ∧ b ≤ 4) ∨ 7 ≤ a) :
    slice (newIp6Header header ecn size next) a b = slice header a b := by
  refine slice_patched_apart (ip6Patches_fit long) ?_
  intro patch member
  simp only [ip6Patches,List.mem_cons,List.not_mem_nil,or_false] at member
  rcases member with rfl | rfl | rfl <;> simp [be16] <;> omega

theorem newIp6Header_dlen (long : header.length = 40) :
    slice (newIp6Header header ecn size next) 4 6 = be16 size :=
  slice_patched_self [(1,[classOctet header ecn])] (4,be16 size) (ip6Patches_fit long)
    (by simp [be16])

def wholeIp6 (frame payload : List UInt8) (ecn next : Nat) : List UInt8 :=
  newIp6Header (frame.take 40) ecn payload.length next ++ payload

theorem wholeIp6_length (long : 40 ≤ frame.length) : (wholeIp6 frame payload ecn next).length = 40 + payload.length := by
  rw [wholeIp6,List.length_append,newIp6Header_length (by rw [List.length_take]; omega)]

theorem wholeIp6_kept (long : 40 ≤ frame.length) (apart : b ≤ 1 ∨ (2 ≤ a ∧ b ≤ 4) ∨ 7 ≤ a) (inside : b ≤ 40) :
    slice (wholeIp6 frame payload ecn next) a b = slice frame a b := by
  have size : (frame.take 40).length = 40 := by rw [List.length_take]; omega
  unfold wholeIp6
  rw [slice_append_left _ _ (by rw [newIp6Header_length size]; exact inside),newIp6Header_kept size apart,
    take_slice _ _ _ _ inside]

theorem wholeIp6_dlen (long : 40 ≤ frame.length) (small : payload.length < 65536) :
    (Ip6.headerFields (wholeIp6 frame payload ecn next)).dlen = payload.length := by
  have size : (frame.take 40).length = 40 := by rw [List.length_take]; omega
  simp only [Ip6.headerFields]
  rw [wholeIp6,slice_append_left _ _ (by rw [newIp6Header_length size]; omega),newIp6Header_dlen size,
    beNat_be16 _ small]

theorem wholeIp6_next (long : 40 ≤ frame.length) (octet : next ≤ 255) :
    (Ip6.headerFields (wholeIp6 frame payload ecn next)).next = next := by
  have size : (frame.take 40).length = 40 := by rw [List.length_take]; omega
  have field : slice (newIp6Header (frame.take 40) ecn payload.length next) 6 7 = [UInt8.ofNat next] :=
    slice_patched_self [(1,[classOctet (frame.take 40) ecn]),(4,be16 payload.length)]
      (6,[UInt8.ofNat next]) (ip6Patches_fit size) (by simp)
  simp only [Ip6.headerFields]
  rw [wholeIp6,slice_append_left _ _ (by rw [newIp6Header_length size]; omega),field]
  simp only [beNat,List.foldl_cons,List.foldl_nil,UInt8.toNat_ofNat']
  omega

theorem wholeIp6_accepted (accepted : Ip6.Accepted frame) (small : payload.length < 65536) :
    Ip6.Accepted (wholeIp6 frame payload ecn next) := by
  have long := accepted.long
  have length := @wholeIp6_length _ payload ecn next long
  have src : (Ip6.headerFields (wholeIp6 frame payload ecn next)).src = (Ip6.headerFields frame).src := by
    simp only [Ip6.headerFields]
    rw [wholeIp6_kept long (.inr (.inr (by omega))) (by omega)]
  refine ⟨by omega,?_,?_,?_,by rw [src]; exact accepted.loopback,by rw [src]; exact accepted.multicast⟩
  · rw [take_getElem? (wholeIp6_kept long (.inl (by omega)) (by omega))]
    exact accepted.version
  · rw [wholeIp6_dlen long small]
    omega
  · have hop := accepted.hop
    simp only [Ip6.headerFields] at hop ⊢
    rwa [wholeIp6_kept long (.inr (.inr (by omega))) (by omega)]

theorem wholeIp6_payload (long : 40 ≤ frame.length) : (wholeIp6 frame payload ecn next).drop 40 = payload := by
  rw [wholeIp6,List.drop_left' (newIp6Header_length (by rw [List.length_take]; omega))]

theorem reassembleIp6_ok (long : 40 ≤ frame.length) (small : payload.length < 65536) (octet : next ≤ 255) :
    reassembleIp6 ⟨.complete,frame.take 40,payload,ecn⟩ next = .ok (some ⟨wholeIp6 frame payload ecn next,true⟩) := by
  have size : (frame.take 40).length = 40 := by rw [List.length_take]; omega
  simp only [reassembleIp6,rewriteIp6Header_ok size small octet,ok_bind]
  rfl

end Ip6Header

end PmdPytcp.Ip
