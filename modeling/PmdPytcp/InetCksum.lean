import PmdPytcp.Lib.EndAround

namespace PmdPytcp.InetCksum

-- `sum(struct.unpack_from(f"!{count}Q", ...))`, and `H`, `L` for the other widths.
def beNat (bytes : List UInt8) : Nat := bytes.foldl (fun value b => value*256 + b.toNat) 0

def unpackSum (width : Nat) : Nat → List UInt8 → Nat
  | 0,_ => 0
  | count+1,bytes => beNat (bytes.take width) + unpackSum width count (bytes.drop width)

structure Sum where
  cksum : Nat
  carry : Nat
deriving Repr,DecidableEq

-- The three unpacking stages of one buffer, from `offset` on.
def absorbFrom (sum : Sum) (buffer : List UInt8) (offset : Nat) : Sum :=
  let remainder := buffer.length - offset
  let quads := if 8 ≤ remainder then remainder >>> 3 else 0
  let cksum := sum.cksum + unpackSum 8 quads (buffer.drop offset)
  let offset := offset + quads <<< 3
  -- `& ~1` on a length
  let even := 2*((buffer.length - offset)/2)
  let cksum := cksum + unpackSum 2 (even >>> 1) (buffer.drop offset)
  let offset := offset + even
  if buffer.length - offset = 1 then ⟨cksum,(buffer[offset]?.getD 0).toNat⟩ else ⟨cksum,sum.carry⟩

-- One round of the loop. The pending odd byte is tested by its value, so a
-- pending zero byte is the same as no pending byte.
def absorb (sum : Sum) (buffer : List UInt8) : Sum :=
  if sum.carry ≠ 0 then
    match buffer with
    | [] => sum
    | first :: _ => absorbFrom ⟨sum.cksum + (sum.carry <<< 8 ||| first.toNat),0⟩ buffer 1
  else absorbFrom sum buffer 0

def foldSum (cksum : Nat) : Nat :=
  let cksum := (cksum &&& 0xFFFF_FFFF_FFFF_FFFF) + cksum >>> 64
  let cksum := (cksum &&& 0xFFFF_FFFF) + cksum >>> 32
  let cksum := (cksum &&& 0xFFFF) + cksum >>> 16
  (cksum &&& 0xFFFF) + cksum >>> 16

def inetCksum (buffers : List (List UInt8)) (init : Nat) : Nat :=
  let sum := buffers.foldl absorb ⟨init,0⟩
  0xFFFF ^^^ (foldSum (sum.cksum + sum.carry <<< 8) &&& 0xFFFF)

-- The callers' `init`: nothing for the IPv4 header, ICMPv4 and IGMP, and the
-- sum over the packed pseudo header for TCP, UDP and ICMPv6.
inductive Caller where
  | plain
  | ip4 (src dst : Vector UInt8 4) (proto : UInt8) (payloadLen : UInt16)
  | ip6 (src dst : Vector UInt8 16) (dlen : UInt16) (next : UInt8)

def be16 (n : Nat) : List UInt8 := [(n / 256).toUInt8,n.toUInt8]

def Caller.pseudoHeader : Caller → List UInt8
  | .plain => []
  | .ip4 src dst proto len => src.toList ++ dst.toList ++ [0,proto] ++ be16 len.toNat
  | .ip6 src dst dlen next => src.toList ++ dst.toList ++ [0,0] ++ be16 dlen.toNat ++ [0,0,0,next]

def Caller.pshdrSum : Caller → Nat
  | .plain => 0
  | .ip4 src dst proto len => unpackSum 4 3 (Caller.ip4 src dst proto len).pseudoHeader
  | .ip6 src dst dlen next => unpackSum 8 5 (Caller.ip6 src dst dlen next).pseudoHeader

-- RFC 1071, stated on its own: big-endian 16-bit words of the whole packet,
-- the last one zero padded, added with end-around carry, then complemented.
def words : List UInt8 → List Nat
  | [] => []
  | [last] => [last.toNat*256]
  | hi :: lo :: rest => (hi.toNat*256 + lo.toNat) :: words rest

def rfc1071 (bytes : List UInt8) : Nat := 0xFFFF - (words bytes).foldl (EndAround.add 0xFFFF) 0

example : inetCksum [[0x45,0x00],[0x12]] 0 = rfc1071 [0x45,0x00,0x12] := by decide

-- The weight of a run of bytes that starts on a high (`false`) or a low
-- (`true`) half of a 16-bit word.
def weigh : Bool → List UInt8 → Nat
  | _,[] => 0
  | low,b :: rest => b.toNat * (if low then 1 else 256) + weigh (!low) rest

-- How the machine words lie over one buffer: eight bytes at a time while eight
-- remain, then pairs, then a high half.
def groupTotal : List UInt8 → Nat
  | a::b::c::d::e::f::g::h::rest => beNat [a,b,c,d,e,f,g,h] + groupTotal rest
  | a::b::rest => beNat [a,b] + groupTotal rest
  | [a] => a.toNat*256
  | [] => 0

-- A boundary inside a 16-bit word is kept for the next buffer only when the
-- high byte standing before it is nonzero.
def pending (low : Bool) (buffer : List UInt8) : Bool :=
  match buffer.getLast? with
  | none => low
  | some last => (low ^^ buffer.length % 2 = 1) && last != 0

def bufferTotal : Bool → List UInt8 → Nat
  | true,first :: tail => first.toNat + groupTotal tail
  | _,buffer => groupTotal buffer

def machineTotal : Bool → List (List UInt8) → Nat
  | _,[] => 0
  | low,buffer :: rest => bufferTotal low buffer + machineTotal (pending low buffer) rest

-- The weight of the bytes that the loop adds on the other half of a word than
-- the one they stand on in the packet.
def displaced : Bool → Bool → List (List UInt8) → Nat
  | _,_,[] => 0
  | low,seen,buffer :: rest =>
    (if low = seen then 0 else weigh low buffer) +
      displaced (low ^^ buffer.length % 2 = 1) (pending seen buffer) rest

-- The four folds leave one carry unabsorbed exactly here.
def CarryLost (buffers : List (List UInt8)) (caller : Caller) : Prop :=
  let total := caller.pshdrSum + machineTotal false buffers
  let folded := total % 2^64 + total / 2^64
  total % 65535 = 1 ∧ 2^32 < folded % 2^32 + folded / 2^32

def Aligned (buffers : List (List UInt8)) : Prop := displaced false false buffers % 257 = 0

theorem weigh_append (low : Bool) (front back : List UInt8) :
    weigh low (front ++ back) = weigh low front + weigh (low ^^ front.length % 2 = 1) back := by
  induction front generalizing low with
  | nil => simp [weigh]
  | cons b rest ih =>
    have parity : ((!low) ^^ decide (rest.length % 2 = 1)) =
        (low ^^ decide ((b :: rest).length % 2 = 1)) := by
      rcases Nat.mod_two_eq_zero_or_one rest.length with even | odd
      · cases low <;> simp [even,Nat.add_mod]
      · cases low <;> simp [odd,Nat.add_mod]
    rw [List.cons_append,weigh,weigh,ih,parity,Nat.add_assoc]

-- Moving a run to the other half of its words multiplies it by 256, because
-- 256*256 is 1 modulo 65535.
theorem weigh_not (low : Bool) (bytes : List UInt8) :
    weigh (!low) bytes % 65535 = 256 * weigh low bytes % 65535 := by
  induction bytes generalizing low with
  | nil => simp [weigh]
  | cons b rest ih =>
    have tail := ih (!low)
    cases low <;> simp [weigh] at tail ⊢ <;> omega

theorem weigh_eq_zero (low : Bool) (bytes : List UInt8) :
    weigh low bytes = 0 ↔ ∀ b ∈ bytes, b.toNat = 0 := by
  induction bytes generalizing low with
  | nil => simp [weigh]
  | cons b rest ih =>
    cases low <;> simp [weigh,Nat.add_eq_zero_iff,ih]

theorem groupTotal_mod (bytes : List UInt8) :
    groupTotal bytes % 65535 = weigh false bytes % 65535 := by
  fun_induction groupTotal bytes with
  | case1 a b c d e f g h rest ih =>
    simp [beNat,weigh]
    omega
  | case2 a b rest short ih =>
    simp [beNat,weigh]
    omega
  | case3 => simp [weigh]
  | case4 => rfl

theorem groupTotal_eq_zero (bytes : List UInt8) :
    groupTotal bytes = 0 ↔ ∀ b ∈ bytes, b.toNat = 0 := by
  fun_induction groupTotal bytes with
  | case1 a b c d e f g h rest ih =>
    simp [beNat,← ih]
    omega
  | case2 a b rest short ih =>
    simp [beNat,← ih]
    omega
  | case3 => simp
  | case4 => simp

theorem groupTotal_le (bytes : List UInt8) : groupTotal bytes ≤ bytes.length * 2^64 := by
  fun_induction groupTotal bytes with
  | case1 a b c d e f g h rest ih =>
    have bounds := And.intro a.toNat_lt (And.intro b.toNat_lt (And.intro c.toNat_lt d.toNat_lt))
    have bounds' := And.intro e.toNat_lt (And.intro f.toNat_lt (And.intro g.toNat_lt h.toNat_lt))
    simp [beNat] at ih bounds bounds' ⊢
    omega
  | case2 a b rest short ih =>
    have bounds := And.intro a.toNat_lt b.toNat_lt
    simp [beNat] at ih bounds ⊢
    omega
  | case3 a =>
    have bound := a.toNat_lt
    simp at bound ⊢
    omega
  | case4 => simp

theorem groupTotal_quads (count : Nat) (bytes : List UInt8) (fits : 8*count ≤ bytes.length) :
    groupTotal bytes = unpackSum 8 count bytes + groupTotal (bytes.drop (8*count)) := by
  induction count generalizing bytes with
  | zero => simp [unpackSum]
  | succ count ih =>
    match bytes,fits with
    | a::b::c::d::e::f::g::h::rest,fits =>
      have shorter : 8*count ≤ rest.length := by simp at fits; omega
      have tail := ih rest shorter
      have skip : (a::b::c::d::e::f::g::h::rest).drop (8*(count+1)) = rest.drop (8*count) := by
        simp [Nat.mul_add]
      rw [skip,groupTotal,tail]
      simp [unpackSum,Nat.add_assoc]

theorem groupTotal_pairs (count : Nat) (bytes : List UInt8) (fits : 2*count ≤ bytes.length)
    (short : bytes.length < 8) :
    groupTotal bytes = unpackSum 2 count bytes + groupTotal (bytes.drop (2*count)) := by
  induction count generalizing bytes with
  | zero => simp [unpackSum]
  | succ count ih =>
    match bytes,fits,short with
    | a::b::rest,fits,short =>
      have shorter : 2*count ≤ rest.length := by simp at fits; omega
      have tail := ih rest shorter (by simp at short; omega)
      have skip : (a::b::rest).drop (2*(count+1)) = rest.drop (2*count) := by
        simp [Nat.mul_add]
      have head : groupTotal (a::b::rest) = beNat [a,b] + groupTotal rest := by
        rw [groupTotal]
        rintro c d e f g h more rfl
        simp at short
        omega
      rw [skip,head,tail]
      simp [unpackSum,Nat.add_assoc]

theorem drop_last (bytes : List UInt8) (k : Nat) (single : bytes.length - k = 1) :
    bytes.drop k = [bytes[k]?.getD 0] := by
  have inside : k < bytes.length := by omega
  rw [List.drop_eq_getElem_cons inside,List.drop_of_length_le (by omega),
    List.getElem?_eq_getElem inside,Option.getD_some]

def Sum.value (sum : Sum) : Nat := sum.cksum + sum.carry*256

theorem absorbFrom_eq (sum : Sum) (buffer : List UInt8) (offset : Nat) :
    absorbFrom sum buffer offset =
      let quads := (buffer.length - offset)/8
      let pairs := (buffer.length - (offset + 8*quads))/2
      let cksum := sum.cksum + unpackSum 8 quads (buffer.drop offset) +
        unpackSum 2 pairs (buffer.drop (offset + 8*quads))
      let last := offset + 8*quads + 2*pairs
      if buffer.length - last = 1 then ⟨cksum,(buffer[last]?.getD 0).toNat⟩ else ⟨cksum,sum.carry⟩ := by
  have quadCount : (if 8 ≤ buffer.length - offset then (buffer.length - offset) >>> 3 else 0) =
      (buffer.length - offset)/8 := by
    rw [Nat.shiftRight_eq_div_pow]
    split <;> omega
  have pairCount (n : Nat) : (2*(n/2)) >>> 1 = n/2 := by
    rw [Nat.shiftRight_eq_div_pow]
    omega
  have scale (n : Nat) : n <<< 3 = 8*n := by
    rw [Nat.shiftLeft_eq]
    omega
  simp only [absorbFrom,quadCount,pairCount,scale]

theorem absorbFrom_value (cksum : Nat) (buffer : List UInt8) (offset : Nat)
    (inside : offset ≤ buffer.length) :
    (absorbFrom ⟨cksum,0⟩ buffer offset).value = cksum + groupTotal (buffer.drop offset) := by
  have quads := groupTotal_quads ((buffer.length - offset)/8) (buffer.drop offset)
    (by simp; omega)
  have pairs := groupTotal_pairs ((buffer.length - (offset + 8*((buffer.length - offset)/8)))/2)
    (buffer.drop (offset + 8*((buffer.length - offset)/8))) (by simp; omega) (by simp; omega)
  rw [List.drop_drop] at quads pairs
  rw [absorbFrom_eq,quads,pairs]
  dsimp only
  split
  · next single =>
    rw [drop_last buffer _ single]
    simp [Sum.value,groupTotal,Nat.add_assoc]
  · next several =>
    rw [List.drop_of_length_le (i := _ + 2*_) (by omega)]
    simp [Sum.value,groupTotal,Nat.add_assoc]

theorem absorbFrom_carry (cksum : Nat) (buffer : List UInt8) (offset : Nat) :
    (absorbFrom ⟨cksum,0⟩ buffer offset).carry =
      if (buffer.length - offset) % 2 = 1 then (buffer.getLast?.getD 0).toNat else 0 := by
  rw [absorbFrom_eq,List.getLast?_eq_getElem?]
  dsimp only
  split
  · next single =>
    rw [if_pos (by omega)]
    dsimp only
    congr 3
    omega
  · next several => rw [if_neg (by omega)]

theorem absorb_value (sum : Sum) (buffer : List UInt8) :
    (absorb sum buffer).value = sum.value + bufferTotal (sum.carry != 0) buffer := by
  obtain ⟨cksum,carry⟩ := sum
  by_cases none : carry = 0
  · subst none
    simpa [absorb,bufferTotal,Sum.value] using absorbFrom_value cksum buffer 0 (Nat.zero_le _)
  · have some : (carry != 0) = true := by simpa using none
    rw [some]
    cases buffer with
    | nil => simp [absorb,none,bufferTotal,groupTotal]
    | cons first tail =>
      have joined : carry <<< 8 ||| first.toNat = carry*256 + first.toNat := by
        rw [← Nat.shiftLeft_add_eq_or_of_lt first.toNat_lt,Nat.shiftLeft_eq]
      have rest := absorbFrom_value (cksum + (carry*256 + first.toNat)) (first :: tail) 1 (by simp)
      simp only [absorb,none,bufferTotal,joined,ne_eq,not_false_eq_true,if_true]
      rw [rest]
      simp [Sum.value,Nat.add_assoc]

theorem absorb_pending (sum : Sum) (buffer : List UInt8) :
    ((absorb sum buffer).carry != 0) = pending (sum.carry != 0) buffer := by
  obtain ⟨cksum,carry⟩ := sum
  have value (b : UInt8) : (b.toNat != 0) = (b != 0) := by
    rw [Bool.eq_iff_iff]
    simp [← UInt8.toNat_inj]
  rcases List.eq_nil_or_concat buffer with rfl | ⟨front,last,rfl⟩
  · by_cases none : carry = 0
    · simp [absorb,none,pending,absorbFrom_carry]
    · simp [absorb,none,pending]
  · rw [List.concat_eq_append]
    have shape : front ++ [last] ≠ [] := by simp
    by_cases none : carry = 0
    · subst none
      simp only [absorb,pending,ne_eq,not_true_eq_false,if_false,absorbFrom_carry,
        List.getLast?_concat,Nat.sub_zero,Option.getD_some]
      split <;> simp_all
    · obtain ⟨first,tail,cons⟩ := List.exists_cons_of_ne_nil shape
      have final : (first :: tail).getLast? = some last := by rw [← cons,List.getLast?_concat]
      rw [cons]
      simp only [absorb,pending,none,ne_eq,not_false_eq_true,if_true,absorbFrom_carry,final,
        Option.getD_some]
      rcases Nat.mod_two_eq_zero_or_one tail.length with even | odd
      · simp [even,none,Nat.add_mod]
      · simp [odd,none,Nat.add_mod,value]

theorem foldl_absorb (buffers : List (List UInt8)) (sum : Sum) :
    (buffers.foldl absorb sum).value = sum.value + machineTotal (sum.carry != 0) buffers := by
  induction buffers generalizing sum with
  | nil => simp [machineTotal]
  | cons buffer rest ih =>
    rw [List.foldl_cons,ih,absorb_value,absorb_pending,machineTotal,Nat.add_assoc]

theorem inetCksum_eq (buffers : List (List UInt8)) (init : Nat) :
    inetCksum buffers init = 0xFFFF ^^^ (foldSum (init + machineTotal false buffers) &&& 0xFFFF) := by
  have total := foldl_absorb buffers ⟨init,0⟩
  simp only [Sum.value,Nat.zero_mul,Nat.add_zero,bne_self_eq_false] at total
  simp only [inetCksum,Nat.shiftLeft_eq]
  rw [show (2:Nat)^8 = 256 from rfl,total]

theorem bufferTotal_mod (low : Bool) (buffer : List UInt8) :
    bufferTotal low buffer % 65535 = weigh low buffer % 65535 := by
  cases low with
  | false => simpa [bufferTotal] using groupTotal_mod buffer
  | true =>
    cases buffer with
    | nil => rfl
    | cons first tail =>
      have rest := groupTotal_mod tail
      simp only [bufferTotal,weigh,Bool.not_true,if_true,Nat.mul_one]
      omega

theorem bufferTotal_eq_zero (low : Bool) (buffer : List UInt8) :
    bufferTotal low buffer = 0 ↔ ∀ b ∈ buffer, b.toNat = 0 := by
  cases low with
  | false => simpa [bufferTotal] using groupTotal_eq_zero buffer
  | true =>
    cases buffer with
    | nil => simp [bufferTotal,groupTotal]
    | cons first tail => simp [bufferTotal,groupTotal_eq_zero]

theorem bufferTotal_le (low : Bool) (buffer : List UInt8) :
    bufferTotal low buffer ≤ buffer.length * 2^64 := by
  cases low with
  | false => simpa [bufferTotal] using groupTotal_le buffer
  | true =>
    cases buffer with
    | nil => simp [bufferTotal,groupTotal]
    | cons first tail =>
      have rest := groupTotal_le tail
      have bound := first.toNat_lt
      simp [bufferTotal] at rest bound ⊢
      omega

-- The loop's total against the packet's own: equal but for the displaced
-- bytes, which count 256 times instead of once.
theorem machineTotal_mod (low seen : Bool) (buffers : List (List UInt8)) :
    machineTotal seen buffers % 65535 =
      (weigh low buffers.flatten + 255 * displaced low seen buffers) % 65535 := by
  induction buffers generalizing low seen with
  | nil => simp [machineTotal,weigh,displaced]
  | cons buffer rest ih =>
    have tail := ih (low ^^ buffer.length % 2 = 1) (pending seen buffer)
    have head := bufferTotal_mod seen buffer
    simp only [machineTotal,displaced,List.flatten_cons,weigh_append]
    by_cases same : low = seen
    · subst same
      simp only [if_true]
      omega
    · have other : seen = !low := by cases low <;> cases seen <;> simp_all
      subst other
      have moved := weigh_not low buffer
      simp only [if_neg same]
      omega

theorem machineTotal_eq_zero (low : Bool) (buffers : List (List UInt8)) :
    machineTotal low buffers = 0 ↔ ∀ b ∈ buffers.flatten, b.toNat = 0 := by
  induction buffers generalizing low with
  | nil => simp [machineTotal]
  | cons buffer rest ih =>
    rw [machineTotal,Nat.add_eq_zero_iff,ih,bufferTotal_eq_zero,List.flatten_cons,
      List.forall_mem_append]

theorem machineTotal_le (low : Bool) (buffers : List (List UInt8)) :
    machineTotal low buffers ≤ buffers.flatten.length * 2^64 := by
  induction buffers generalizing low with
  | nil => simp [machineTotal]
  | cons buffer rest ih =>
    have head := bufferTotal_le low buffer
    have tail := ih (pending low buffer)
    rw [machineTotal,List.flatten_cons,List.length_append,Nat.add_mul]
    omega

theorem foldSum_eq (total : Nat) :
    foldSum total =
      let first := total % 2^64 + total / 2^64
      let second := first % 2^32 + first / 2^32
      let third := second % 2^16 + second / 2^16
      third % 2^16 + third / 2^16 := by
  simp only [foldSum,Nat.shiftRight_eq_div_pow,show 0xFFFF_FFFF_FFFF_FFFF = 2^64-1 from rfl,
    show 0xFFFF_FFFF = 2^32-1 from rfl,show 0xFFFF = 2^16-1 from rfl,
    Nat.and_two_pow_sub_one_eq_mod]

theorem foldSum_mod (total : Nat) : foldSum total % 65535 = total % 65535 := by
  rw [foldSum_eq]
  dsimp only
  rw [EndAround.fold_mod (q := 1) (B := 2^16) (by norm_num),
    EndAround.fold_mod (q := 1) (B := 2^16) (by norm_num),
    EndAround.fold_mod (q := 65537) (B := 2^32) (by norm_num),
    EndAround.fold_mod (q := 65537*4294967297) (B := 2^64) (by norm_num)]

theorem foldSum_eq_zero (total : Nat) : foldSum total = 0 ↔ total = 0 := by
  rw [foldSum_eq]
  dsimp only
  rw [EndAround.fold_eq_zero,EndAround.fold_eq_zero,EndAround.fold_eq_zero,EndAround.fold_eq_zero]

-- The last fold is one short for a single value of the sum before it,
-- 0x1FFFF, which needs a carry out of the 32-bit fold.
theorem last_folds (second : Nat) (bounded : second ≤ 2^33-2) :
    let third := second % 2^16 + second / 2^16
    (second % 65535 = 1 ∧ 2^32 < second → third % 2^16 + third / 2^16 = 65536) ∧
    (¬(second % 65535 = 1 ∧ 2^32 < second) → third % 2^16 + third / 2^16 ≤ 65535) := by
  dsimp only
  constructor
  · rintro ⟨residue,carried⟩
    have third : second % 2^16 + second / 2^16 = 0x1FFFF := by omega
    rw [third]
    norm_num
  · intro kept
    by_cases only : second % 2^16 + second / 2^16 = 0x1FFFF
    · exact absurd (by omega) kept
    · omega

theorem foldSum_cases (total : Nat) (bounded : total < 2^64 * (2^32-1)) :
    let first := total % 2^64 + total / 2^64
    (total % 65535 = 1 ∧ 2^32 < first % 2^32 + first / 2^32 → foldSum total = 65536) ∧
    (¬(total % 65535 = 1 ∧ 2^32 < first % 2^32 + first / 2^32) → foldSum total ≤ 65535) := by
  have residue : (total % 2^64 + total / 2^64) % 65535 = total % 65535 :=
    EndAround.fold_mod (q := 65537*4294967297) (B := 2^64) (by norm_num) total
  have small : total % 2^64 + total / 2^64 ≤ 2^64 + 2^32 - 3 := by omega
  rw [foldSum_eq]
  dsimp only
  generalize total % 2^64 + total / 2^64 = first at residue small ⊢
  have again : (first % 2^32 + first / 2^32) % 65535 = first % 65535 :=
    EndAround.fold_mod (q := 65537) (B := 2^32) (by norm_num) first
  have last := last_folds (first % 2^32 + first / 2^32) (by omega)
  dsimp only at last
  rwa [again,residue] at last

theorem weigh_words (bytes : List UInt8) : (words bytes).sum = weigh false bytes := by
  fun_induction words bytes with
  | case1 => rfl
  | case2 last => simp [weigh]
  | case3 hi lo rest ih => simp [weigh,ih,Nat.add_assoc]

theorem words_le (bytes : List UInt8) : ∀ w ∈ words bytes, w ≤ 65535 := by
  fun_induction words bytes with
  | case1 => simp
  | case2 last =>
    have bound := last.toNat_lt
    simp at bound ⊢
    omega
  | case3 hi lo rest ih =>
    have bounds := And.intro hi.toNat_lt lo.toNat_lt
    simp at bounds ⊢
    exact ⟨by omega,ih⟩

theorem rfc1071_eq (bytes : List UInt8) :
    rfc1071 bytes = 65535 - EndAround.rep 65535 (weigh false bytes) := by
  have folded := EndAround.foldl_add (m := 65535) (by norm_num) (words bytes) 0 (words_le bytes)
  rw [EndAround.rep_zero,Nat.zero_add,weigh_words] at folded
  rw [rfc1071,folded]

-- What the sum of a buffer's words says of its octets.
structure SumsTo (total : Nat) (bytes : List UInt8) : Prop where
  residue : total % 65535 = weigh false bytes % 65535
  zero : total = 0 ↔ ∀ b ∈ bytes, b.toNat = 0
  bound : total ≤ bytes.length * 2^64

theorem longs_sumsTo (count : Nat) (bytes : List UInt8) (exact : bytes.length = 4*count) :
    SumsTo (unpackSum 4 count bytes) bytes := by
  induction count generalizing bytes with
  | zero =>
    have none : bytes = [] := List.eq_nil_of_length_eq_zero (by simpa using exact)
    subst none
    exact ⟨rfl,by simp [unpackSum],by simp [unpackSum]⟩
  | succ count ih =>
    match bytes,exact with
    | a::b::c::d::rest,exact =>
      obtain ⟨residue,zero,bound⟩ := ih rest (by simp at exact; omega)
      have bounds := And.intro a.toNat_lt (And.intro b.toNat_lt (And.intro c.toNat_lt d.toNat_lt))
      refine ⟨?_,?_,?_⟩
      · simp [unpackSum,beNat,weigh]
        omega
      · simp [unpackSum,beNat,← zero]
        omega
      · simp [unpackSum,beNat] at bound bounds ⊢
        omega

theorem quads_sumsTo (count : Nat) (bytes : List UInt8) (exact : bytes.length = 8*count) :
    SumsTo (unpackSum 8 count bytes) bytes := by
  have total := groupTotal_quads count bytes (by omega)
  rw [List.drop_of_length_le (by omega),groupTotal,Nat.add_zero] at total
  rw [← total]
  exact ⟨groupTotal_mod bytes,groupTotal_eq_zero bytes,groupTotal_le bytes⟩

theorem header_length (caller : Caller) :
    caller.pseudoHeader.length ≤ 40 ∧ caller.pseudoHeader.length % 2 = 0 := by
  cases caller <;> simp [Caller.pseudoHeader,be16]

theorem pshdrSum_sumsTo (caller : Caller) : SumsTo caller.pshdrSum caller.pseudoHeader := by
  cases caller with
  | plain => exact ⟨rfl,by simp [Caller.pshdrSum,Caller.pseudoHeader],by simp [Caller.pshdrSum]⟩
  | ip4 src dst proto len =>
    exact longs_sumsTo 3 _ (by simp [Caller.pseudoHeader,be16])
  | ip6 src dst dlen next =>
    exact quads_sumsTo 5 _ (by simp [Caller.pseudoHeader,be16])

-- The plain total of the packet the checksum is about.
def packetTotal (caller : Caller) (bytes : List UInt8) : Nat :=
  weigh false (caller.pseudoHeader ++ bytes)

theorem packetTotal_eq (caller : Caller) (bytes : List UInt8) :
    packetTotal caller bytes = weigh false caller.pseudoHeader + weigh false bytes := by
  rw [packetTotal,weigh_append,(header_length caller).2]
  rfl

theorem total_mod (buffers : List (List UInt8)) (caller : Caller) :
    (caller.pshdrSum + machineTotal false buffers) % 65535 =
      (packetTotal caller buffers.flatten + 255 * displaced false false buffers) % 65535 := by
  have header := (pshdrSum_sumsTo caller).residue
  have body := machineTotal_mod false false buffers
  rw [packetTotal_eq]
  omega

theorem total_eq_zero (buffers : List (List UInt8)) (caller : Caller) :
    caller.pshdrSum + machineTotal false buffers = 0 ↔ packetTotal caller buffers.flatten = 0 := by
  rw [packetTotal_eq,Nat.add_eq_zero_iff,Nat.add_eq_zero_iff,(pshdrSum_sumsTo caller).zero,
    machineTotal_eq_zero,weigh_eq_zero,weigh_eq_zero]

theorem total_bounded (buffers : List (List UInt8)) (caller : Caller)
    (bounded : buffers.flatten.length ≤ 65600) :
    caller.pshdrSum + machineTotal false buffers < 2^64 * (2^32-1) := by
  have header := (pshdrSum_sumsTo caller).bound
  have short := (header_length caller).1
  have body := machineTotal_le false buffers
  omega

theorem complement (n : Nat) (small : n ≤ 65535) : 0xFFFF ^^^ (n &&& 0xFFFF) = 65535 - n := by
  have masked : n &&& 0xFFFF = n := by
    rw [show 0xFFFF = 2^16-1 from rfl,Nat.and_two_pow_sub_one_eq_mod,Nat.mod_eq_of_lt (by omega)]
  rw [masked]
  have flipped := BitVec.toNat_not (x := BitVec.ofNat 16 n)
  have direct : (~~~BitVec.ofNat 16 n).toNat = 0xFFFF ^^^ n := by
    rw [BitVec.not_def,BitVec.toNat_xor]
    simp [Nat.mod_eq_of_lt (show n < 65536 by omega)]
  rw [direct] at flipped
  simpa [Nat.mod_eq_of_lt (show n < 65536 by omega)] using flipped

-- Everything the function can return: the complement of the representative of
-- its own total, or all ones when a carry is lost.
theorem inetCksum_cases (buffers : List (List UInt8)) (caller : Caller)
    (bounded : buffers.flatten.length ≤ 65600) :
    (CarryLost buffers caller ∧ inetCksum buffers caller.pshdrSum = 65535) ∨
    (¬CarryLost buffers caller ∧ inetCksum buffers caller.pshdrSum =
      65535 - EndAround.rep 65535 (caller.pshdrSum + machineTotal false buffers)) := by
  obtain ⟨carried,small⟩ := foldSum_cases _ (total_bounded buffers caller bounded)
  rw [inetCksum_eq]
  by_cases lost : CarryLost buffers caller
  · left
    rw [carried lost]
    exact ⟨lost,rfl⟩
  · right
    have folds := small lost
    have value : foldSum (caller.pshdrSum + machineTotal false buffers) =
        EndAround.rep 65535 (caller.pshdrSum + machineTotal false buffers) := by
      rw [← EndAround.rep_of_le folds]
      exact EndAround.rep_congr (foldSum_mod _) (foldSum_eq_zero _)
    exact ⟨lost,by rw [complement _ folds,value]⟩

theorem rfc1071_rep (caller : Caller) (bytes : List UInt8) :
    rfc1071 (caller.pseudoHeader ++ bytes) =
      65535 - EndAround.rep 65535 (packetTotal caller bytes) := rfc1071_eq _

theorem cksum_eq_rfc1071_iff (buffers : List (List UInt8)) (caller : Caller)
    (bounded : buffers.flatten.length ≤ 65600) :
    inetCksum buffers caller.pshdrSum = rfc1071 (caller.pseudoHeader ++ buffers.flatten) ↔
      Aligned buffers ∧ ¬CarryLost buffers caller := by
  have limit := EndAround.rep_le (m := 65535) (by norm_num) (packetTotal caller buffers.flatten)
  have zero := total_eq_zero buffers caller
  rw [rfc1071_rep]
  rcases inetCksum_cases buffers caller bounded with ⟨lost,value⟩ | ⟨kept,value⟩
  · -- All ones would mean an all-zero packet, whose total is not 1.
    rw [value]
    have wrong : EndAround.rep 65535 (packetTotal caller buffers.flatten) ≠ 0 := by
      intro none
      have residue := lost.1
      rw [zero.mpr (EndAround.rep_eq_zero.mp none)] at residue
      exact absurd residue (by norm_num)
    constructor
    · intro same; omega
    · rintro ⟨_,kept⟩; exact absurd lost kept
  · have limit' := EndAround.rep_le (m := 65535) (by norm_num)
      (caller.pshdrSum + machineTotal false buffers)
    have residue := total_mod buffers caller
    have cancel : (65535 - EndAround.rep 65535 (caller.pshdrSum + machineTotal false buffers) =
        65535 - EndAround.rep 65535 (packetTotal caller buffers.flatten)) ↔
        EndAround.rep 65535 (caller.pshdrSum + machineTotal false buffers) =
          EndAround.rep 65535 (packetTotal caller buffers.flatten) := by omega
    rw [value,cancel,EndAround.rep_eq_iff,Aligned]
    constructor
    · rintro ⟨same,_⟩
      exact ⟨by omega,kept⟩
    · rintro ⟨aligned,_⟩
      exact ⟨by omega,zero⟩

theorem single_displaced (bytes : List UInt8) : displaced false false [bytes] = 0 := by
  simp [displaced]

theorem be16_weigh (n : Nat) (small : n ≤ 65535) : weigh false (be16 n) = n := by
  simp [be16,weigh]
  omega

-- The receiver checks one contiguous buffer; the field goes on a word boundary.
def padded (bytes : List UInt8) : List UInt8 :=
  if bytes.length % 2 = 1 then bytes ++ [0] else bytes

theorem padded_spec (bytes : List UInt8) :
    weigh false (padded bytes) = weigh false bytes ∧ (padded bytes).length % 2 = 0 ∧
      (padded bytes).length ≤ bytes.length + 1 := by
  unfold padded
  split
  · next odd => exact ⟨by simp [weigh_append,weigh],by simp; omega,by simp⟩
  · next even => exact ⟨rfl,by omega,by omega⟩

theorem verifies_to_zero (caller : Caller) (bytes : List UInt8) (bounded : bytes.length ≤ 65575) :
    inetCksum [padded bytes ++ be16 (rfc1071 (caller.pseudoHeader ++ bytes))] caller.pshdrSum = 0 := by
  have limit := EndAround.rep_le (m := 65535) (by norm_num) (packetTotal caller bytes)
  obtain ⟨weight,even,longer⟩ := padded_spec bytes
  let packet := padded bytes ++ be16 (rfc1071 (caller.pseudoHeader ++ bytes))
  have field := rfc1071_rep caller bytes
  have total : packetTotal caller packet =
      packetTotal caller bytes + (65535 - EndAround.rep 65535 (packetTotal caller bytes)) := by
    rw [packetTotal_eq,weigh_append,weight,even,packetTotal_eq,field,packetTotal_eq]
    simp [be16_weigh _ (Nat.sub_le _ _),Nat.add_assoc]
  have residue := EndAround.rep_mod 65535 (packetTotal caller bytes)
  have nonzero : packetTotal caller packet ≠ 0 := by
    intro none
    rw [total,Nat.add_eq_zero_iff] at none
    rw [none.1] at none
    exact absurd none.2 (by simp)
  have short : [packet].flatten.length ≤ 65600 := by
    simp [packet,be16]
    omega
  have machine := total_mod [packet] caller
  rw [single_displaced] at machine
  simp only [List.flatten_cons,List.flatten_nil,List.append_nil] at machine
  have kept : ¬CarryLost [packet] caller := by
    rintro ⟨one,_⟩
    rw [one,total] at machine
    omega
  have correct := (cksum_eq_rfc1071_iff [packet] caller short).mpr ⟨by simp [Aligned,displaced],kept⟩
  have full : EndAround.rep 65535 (packetTotal caller packet) = 65535 := by
    rw [EndAround.rep,if_neg nonzero]
    omega
  rw [correct,rfc1071_rep]
  simp [full]

-- A buffer passes the receiver's check exactly when its words sum to a
-- multiple of 65535 other than zero.
theorem single_zero_iff (caller : Caller) (bytes : List UInt8) (bounded : bytes.length ≤ 65600) :
    inetCksum [bytes] caller.pshdrSum = 0 ↔
      packetTotal caller bytes ≠ 0 ∧ packetTotal caller bytes % 65535 = 0 := by
  have machine := total_mod [bytes] caller
  have zero := total_eq_zero [bytes] caller
  rw [single_displaced] at machine
  simp only [List.flatten_cons,List.flatten_nil,List.append_nil] at machine zero
  have limit := EndAround.rep_le (m := 65535) (by norm_num) (caller.pshdrSum + machineTotal false [bytes])
  rcases inetCksum_cases [bytes] caller (by simpa using bounded) with ⟨lost,value⟩ | ⟨_,value⟩
  · have residue := lost.1
    rw [value]
    exact iff_of_false (by norm_num) (fun both => by omega)
  · rw [value]
    have full : EndAround.rep 65535 (caller.pshdrSum + machineTotal false [bytes]) = 65535 ↔
        caller.pshdrSum + machineTotal false [bytes] ≠ 0 ∧
          (caller.pshdrSum + machineTotal false [bytes]) % 65535 = 0 := by
      unfold EndAround.rep
      split
      · next none => simp [none]
      · next some => omega
    have complete : 65535 - EndAround.rep 65535 (caller.pshdrSum + machineTotal false [bytes]) = 0 ↔
        EndAround.rep 65535 (caller.pshdrSum + machineTotal false [bytes]) = 65535 := by omega
    rw [complete,full,Ne,zero,machine]
    simp

theorem weigh_field (front back : List UInt8) (even : front.length % 2 = 0) (n : Nat) (small : n ≤ 65535) :
    weigh false (front ++ be16 n ++ back) = weigh false (front ++ [0,0] ++ back) + n := by
  have field := be16_weigh n small
  have two : (be16 n).length = 2 := rfl
  simp only [List.append_assoc,weigh_append,even,two,List.length_cons,List.length_nil]
  simp [weigh,field]
  omega

theorem field_verifies (caller : Caller) (front back : List UInt8) (even : front.length % 2 = 0)
    (bounded : (front ++ [0,0] ++ back).length ≤ 65600) :
    inetCksum [front ++ be16 (rfc1071 (caller.pseudoHeader ++ (front ++ [0,0] ++ back))) ++ back]
      caller.pshdrSum = 0 := by
  have limit := EndAround.rep_le (m := 65535) (by norm_num) (packetTotal caller (front ++ [0,0] ++ back))
  have residue := EndAround.rep_mod 65535 (packetTotal caller (front ++ [0,0] ++ back))
  rw [single_zero_iff caller _ (by simpa [be16] using bounded),packetTotal_eq,
    weigh_field front back even _ (by rw [rfc1071_rep]; omega),← Nat.add_assoc,← packetTotal_eq,rfc1071_rep]
  have total := EndAround.rep_eq_zero (m := 65535) (n := packetTotal caller (front ++ [0,0] ++ back))
  omega

theorem filled_verifies (caller : Caller) (front back : List UInt8) (even : front.length % 2 = 0)
    (bounded : (front ++ [0,0] ++ back).length ≤ 65600) (kept : ¬CarryLost [front ++ [0,0] ++ back] caller) :
    inetCksum [front ++ be16 (inetCksum [front ++ [0,0] ++ back] caller.pshdrSum) ++ back] caller.pshdrSum = 0 := by
  have correct := (cksum_eq_rfc1071_iff [front ++ [0,0] ++ back] caller (by simpa using bounded)).mpr
    ⟨by simp [Aligned,displaced],kept⟩
  simp only [List.flatten_cons,List.flatten_nil,List.append_nil] at correct
  rw [correct]
  exact field_verifies caller front back even bounded

-- Any split of a packet of legal size, with any caller's pseudo header. The
-- second part is the independence from the split.
theorem inet_cksum_rfc1071_iff (buffers : List (List UInt8)) (caller : Caller)
    (bounded : buffers.flatten.length ≤ 65535 + 40) :
    ((inetCksum buffers caller.pshdrSum = rfc1071 (caller.pseudoHeader ++ buffers.flatten) ∧
        inetCksum [padded buffers.flatten ++ be16 (inetCksum buffers caller.pshdrSum)]
          caller.pshdrSum = 0) ↔
      Aligned buffers ∧ ¬CarryLost buffers caller) ∧
    ∀ other, other.flatten = buffers.flatten →
      Aligned buffers ∧ ¬CarryLost buffers caller → Aligned other ∧ ¬CarryLost other caller →
      inetCksum other caller.pshdrSum = inetCksum buffers caller.pshdrSum := by
  have correct := cksum_eq_rfc1071_iff buffers caller (by omega)
  refine ⟨⟨fun met => correct.mp met.1,?_⟩,?_⟩
  · intro good
    have value := correct.mpr good
    exact ⟨value,by rw [value]; exact verifies_to_zero caller _ bounded⟩
  · intro other same good otherGood
    rw [correct.mpr good,(cksum_eq_rfc1071_iff other caller (by rw [same]; omega)).mpr otherGood,same]

theorem inet_cksum_rfc1071_split_echo :
    inetCksum [[0x08,0x00,0x11],[],[0x22,0x00]] Caller.plain.pshdrSum =
        rfc1071 (Caller.plain.pseudoHeader ++ [[0x08,0x00,0x11],[],[0x22,0x00]].flatten) ∧
      inetCksum [padded [[0x08,0x00,0x11],[],[0x22,0x00]].flatten ++
        be16 (inetCksum [[0x08,0x00,0x11],[],[0x22,0x00]] Caller.plain.pshdrSum)]
          Caller.plain.pshdrSum = 0 :=
  (inet_cksum_rfc1071_iff [[0x08,0x00,0x11],[],[0x22,0x00]] .plain (by decide)).1.mpr
    ⟨by unfold Aligned; decide,by unfold CarryLost; decide⟩

-- A pending zero byte is forgotten at a buffer boundary; and the echo request
-- `08 00 00 00 00 01 00 00 F7 FF FF FF 00 00 00 00` loses its last carry.
theorem inet_cksum_misses_rfc1071 :
    inetCksum [[0x00],[0x01,0x02]] Caller.plain.pshdrSum ≠
        rfc1071 (Caller.plain.pseudoHeader ++ [[0x00],[0x01,0x02]].flatten) ∧
      inetCksum [[0x08,0,0,0,0,0x01,0,0],[0xF7,0xFF,0xFF,0xFF,0,0,0,0]] Caller.plain.pshdrSum ≠
        rfc1071 (Caller.plain.pseudoHeader ++
          [[0x08,0,0,0,0,0x01,0,0],[0xF7,0xFF,0xFF,0xFF,0,0,0,0]].flatten) := by
  decide

end PmdPytcp.InetCksum
