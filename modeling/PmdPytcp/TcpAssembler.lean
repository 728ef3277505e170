import PmdPytcp.TcpParser

namespace PmdPytcp.TcpAssembler
open InetCksum Buffer TcpParser

-- `int.to_bytes(width, "big")`, and the unsigned fields of `struct.pack`.
def beBytes : Nat → Nat → List UInt8
  | 0,_ => []
  | width+1,n => beBytes width (n/256) ++ [n.toUInt8]

-- The counters in wire order: a present one needs those before it.
def accecnPostInit (first second third : Option Nat) : Py Unit := do
  pyAssert (!third.isSome || (second.isSome && first.isSome))
  pyAssert (!second.isSome || first.isSome)

def sackBlockPostInit (block : Nat × Nat) : Py Unit := do
  pyAssert (isUint 32 block.1)
  pyAssert (isUint 32 block.2)

-- `__post_init__` of the option classes.
def optionPostInit : TcpOption → Py Unit
  | .eol => .ok ()
  | .nop => .ok ()
  | .mss mss => pyAssert (isUint 16 mss)
  | .wscale wscale => do
    pyAssert (isUint 8 wscale)
    pyAssert (wscale ≤ 14)
  | .sackperm => .ok ()
  | .sack blocks => do
    blocks.forM sackBlockPostInit
    pyAssert (blocks.length ≤ 4)
  | .timestamps tsval tsecr => do
    pyAssert (isUint 32 tsval)
    pyAssert (isUint 32 tsecr)
  | .fastopen cookie => pyAssert (cookie.length = 0 ∨ (4 ≤ cookie.length ∧ cookie.length ≤ 16))
  | .accecn0 ee0b eceb ee1b => do
    accecnPostInit ee0b eceb ee1b
    pyAssert (ee0b.all (isUint 24))
    pyAssert (eceb.all (isUint 24))
    pyAssert (ee1b.all (isUint 24))
  | .accecn1 ee0b eceb ee1b => do
    accecnPostInit ee1b eceb ee0b
    pyAssert (ee0b.all (isUint 24))
    pyAssert (eceb.all (isUint 24))
    pyAssert (ee1b.all (isUint 24))
  | .unknown type data => do
    -- a `TcpOptionType` is a value stored in 8 bits
    pyAssert (isUint 8 type)
    pyAssert (type ∉ knownTypes)
    pyAssert (isUint 8 (2 + data.length))

def blockBytes (block : Nat × Nat) : List UInt8 := beBytes 4 block.1 ++ beBytes 4 block.2
def counterBytes (counter : Option Nat) : List UInt8 := (counter.map (beBytes 3)).getD []

-- `__buffer__` of the option classes.
def optionBytes : TcpOption → List UInt8
  | .eol => [0]
  | .nop => [1]
  | .mss mss => [2,4] ++ beBytes 2 mss
  | .wscale wscale => [3,3] ++ beBytes 1 wscale
  | .sackperm => [4,2]
  | .sack blocks => [5,(TcpOption.sack blocks).len.toUInt8] ++ blocks.flatMap blockBytes
  | .timestamps tsval tsecr => [8,10] ++ (beBytes 4 tsval ++ beBytes 4 tsecr)
  | .fastopen cookie => [34,(TcpOption.fastopen cookie).len.toUInt8] ++ cookie
  | .accecn0 ee0b eceb ee1b => [172,(accecnLen ee0b eceb ee1b).toUInt8] ++
      (counterBytes ee0b ++ (counterBytes eceb ++ counterBytes ee1b))
  | .accecn1 ee0b eceb ee1b => [174,(accecnLen ee1b eceb ee0b).toUInt8] ++
      (counterBytes ee1b ++ (counterBytes eceb ++ counterBytes ee0b))
  | .unknown type data => [type.toUInt8,(TcpOption.unknown type data).len.toUInt8] ++ data

def optionsLen (options : List TcpOption) : Nat := (options.map TcpOption.len).sum
def optionsBytes (options : List TcpOption) : List UInt8 := options.flatMap optionBytes

def headerPostInit (header : TcpHeader) : Py Unit := do
  pyAssert (isUint 16 header.sport)
  pyAssert (isUint 16 header.dport)
  pyAssert (isUint 32 header.seq)
  pyAssert (isUint 32 header.ack)
  pyAssert (isUint 6 header.hlen)
  pyAssert (header.hlen % 4 = 0)
  pyAssert (isUint 16 header.win)
  pyAssert (isUint 16 header.cksum)
  pyAssert (isUint 16 header.urg)

def hlenFlags (header : TcpHeader) : Nat :=
  header.hlen <<< 10 ||| header.flagNs.toNat <<< 8 ||| header.flagCwr.toNat <<< 7 |||
    header.flagEce.toNat <<< 6 ||| header.flagUrg.toNat <<< 5 ||| header.flagAck.toNat <<< 4 |||
    header.flagPsh.toNat <<< 3 ||| header.flagRst.toNat <<< 2 ||| header.flagSyn.toNat <<< 1 |||
    header.flagFin.toNat

-- `TcpHeader.__buffer__`: the checksum goes out as zero.
def headerBytes (header : TcpHeader) : List UInt8 :=
  beBytes 2 header.sport ++ (beBytes 2 header.dport ++ (beBytes 4 header.seq ++ (beBytes 4 header.ack ++
    (beBytes 2 (hlenFlags header) ++ (beBytes 2 header.win ++ (beBytes 2 0 ++ beBytes 2 header.urg))))))

-- The arguments of `TcpAssembler.__init__`.
structure TcpArguments where
  sport : Nat := 0
  dport : Nat := 0
  seq : Nat := 0
  ack : Nat := 0
  flagNs : Bool := false
  flagCwr : Bool := false
  flagEce : Bool := false
  flagUrg : Bool := false
  flagAck : Bool := false
  flagPsh : Bool := false
  flagRst : Bool := false
  flagSyn : Bool := false
  flagFin : Bool := false
  win : Nat := 0
  urg : Nat := 0
  options : List TcpOption := []
  payload : List UInt8 := []
deriving Repr,DecidableEq

def TcpArguments.header (args : TcpArguments) : TcpHeader where
  sport := args.sport
  dport := args.dport
  seq := args.seq
  ack := args.ack
  hlen := 20 + optionsLen args.options
  flagNs := args.flagNs
  flagCwr := args.flagCwr
  flagEce := args.flagEce
  flagUrg := args.flagUrg
  flagAck := args.flagAck
  flagPsh := args.flagPsh
  flagRst := args.flagRst
  flagSyn := args.flagSyn
  flagFin := args.flagFin
  win := args.win
  cksum := 0
  urg := args.urg

-- The options are objects already, so their own assertions come first.
def tcpAssembler (args : TcpArguments) : Py TcpPacket := do
  args.options.forM optionPostInit
  pyAssert (optionsLen args.options ≤ 40)
  pyAssert (optionsLen args.options % 4 = 0)
  pyAssert (.eol ∉ args.options ∨ args.options.getLast? = some .eol)
  headerPostInit args.header
  return ⟨args.header,args.options,args.payload⟩

def segmentCksum (packet : TcpPacket) (pshdrSum : Nat) : Nat :=
  inetCksum [headerBytes packet.header,optionsBytes packet.options,packet.payload] pshdrSum

-- `TcpAssembler.assemble`: the three buffers, one after the other.
def assemble (packet : TcpPacket) (pshdrSum : Nat) : List UInt8 :=
  overwrite (headerBytes packet.header) 16 (be16 (segmentCksum packet pshdrSum)) ++
    (optionsBytes packet.options ++ packet.payload)

@[simp] theorem beBytes_length (width n : Nat) : (beBytes width n).length = width := by
  induction width generalizing n with
  | zero => rfl
  | succ width ih => simp [beBytes,ih]

theorem beNat_snoc (bytes : List UInt8) (b : UInt8) :
    beNat (bytes ++ [b]) = beNat bytes * 256 + b.toNat := by
  simp [beNat]

theorem beNat_beBytes (width n : Nat) (small : n < 256^width) : beNat (beBytes width n) = n := by
  induction width generalizing n with
  | zero =>
    have zero : n = 0 := by simpa using small
    subst zero
    rfl
  | succ width ih =>
    have high : n/256 < 256^width := by
      rw [Nat.div_lt_iff_lt_mul (by decide)]
      rwa [Nat.pow_succ] at small
    rw [beBytes,beNat_snoc,ih _ high]
    simp
    omega

theorem two_bytes (small : isUint 16 n = true) : ∃ a b, beBytes 2 n = [a,b] ∧ beNat [a,b] = n :=
  ⟨_,_,rfl,beNat_beBytes 2 n (by simpa [isUint] using small)⟩

theorem three_bytes (small : isUint 24 n = true) :
    ∃ a b c, beBytes 3 n = [a,b,c] ∧ beNat [a,b,c] = n :=
  ⟨_,_,_,rfl,beNat_beBytes 3 n (by simpa [isUint] using small)⟩

theorem four_bytes (small : isUint 32 n = true) :
    ∃ a b c d, beBytes 4 n = [a,b,c,d] ∧ beNat [a,b,c,d] = n :=
  ⟨_,_,_,_,rfl,beNat_beBytes 4 n (by simpa [isUint] using small)⟩

theorem octet_value (small : n < 256) : n.toUInt8.toNat = n := by
  simp
  omega

theorem slice_field (front field rest : List UInt8) :
    slice (front ++ (field ++ rest)) front.length (front.length + field.length) = field := by
  rw [← List.append_assoc,slice_append_left _ _ (by simp)]
  exact slice_append_right front field

theorem forM_ok {f : α → Py Unit} {items : List α} {u : Unit} :
    items.forM f = .ok u ↔ ∀ x ∈ items, f x = .ok () := by
  induction items with
  | nil => exact ⟨fun _ _ member => absurd member List.not_mem_nil,fun _ => rfl⟩
  | cons x rest ih =>
    show (f x >>= fun _ => rest.forM f) = .ok u ↔ _
    rw [bind_ok,List.forall_mem_cons,← ih]
    exact ⟨fun both => both.elim fun _ both => both,fun both => ⟨(),both⟩⟩

section Options
variable (rest : List UInt8)

theorem mss_returns (built : optionPostInit (.mss mss) = .ok ()) :
    mssFromBuffer (optionBytes (.mss mss) ++ rest) = .ok (.mss mss) := by
  have small : isUint 16 mss = true := pyAssert_ok.mp built
  obtain ⟨a,b,bytes,value⟩ := two_bytes small
  have opened : optionPrefix 2 2 (2 :: 4 :: a :: b :: rest) = .ok () := optionPrefix_eq
  have fits : fitsBuffer "TCP Mss" (2 :: 4 :: a :: b :: rest) = .ok () := fitsBuffer_eq _ (by simp)
  simp [mssFromBuffer,optionBytes,bytes,opened,exactLen_eq,fits,slice,value,small]

theorem wscale_returns (built : optionPostInit (.wscale wscale) = .ok ()) :
    wscaleFromBuffer (optionBytes (.wscale wscale) ++ rest) = .ok (.wscale wscale) := by
  simp only [optionPostInit,bind_ok,pyAssert_ok,decide_eq_true_eq] at built
  obtain ⟨_,octet,small⟩ := built
  obtain ⟨shift,same⟩ : ∃ shift, wscale.toUInt8 = shift := ⟨_,rfl⟩
  have value : shift.toNat = wscale := by rw [← same]; exact octet_value (by omega)
  have opened : optionPrefix 2 3 (3 :: 3 :: shift :: rest) = .ok () := optionPrefix_eq
  have fits : fitsBuffer "TCP Wscale" (3 :: 3 :: shift :: rest) = .ok () := fitsBuffer_eq _ (by simp)
  have bytes : optionBytes (.wscale wscale) ++ rest = 3 :: 3 :: shift :: rest := by
    simp [optionBytes,beBytes,← same]
  rw [bytes]
  simp [wscaleFromBuffer,opened,exactLen_eq,fits,byteAt,value,small,octet]

theorem timestamps_returns (built : optionPostInit (.timestamps tsval tsecr) = .ok ()) :
    timestampsFromBuffer (optionBytes (.timestamps tsval tsecr) ++ rest) = .ok (.timestamps tsval tsecr) := by
  simp only [optionPostInit,bind_ok,pyAssert_ok] at built
  obtain ⟨_,left,right⟩ := built
  obtain ⟨a,b,c,d,bytes,value⟩ := four_bytes left
  obtain ⟨e,f,g,h,others,other⟩ := four_bytes right
  obtain ⟨buffer,same⟩ : ∃ buffer, 8 :: 10 :: a :: b :: c :: d :: e :: f :: g :: h :: rest = buffer := ⟨_,rfl⟩
  have opened : optionPrefix 2 8 buffer = .ok () := by rw [← same]; exact optionPrefix_eq
  have fits : fitsBuffer "TCP Timestamps" buffer = .ok () := by rw [← same]; exact fitsBuffer_eq _ (by simp)
  have exact : exactLen "TCP Timestamps" 10 buffer = .ok () := by rw [← same,exactLen_eq]; rfl
  have long : ¬buffer.length < 10 := by simp [← same]
  have first : beNat (slice buffer 2 6) = tsval := by simp [← same,slice,value]
  have second : beNat (slice buffer 6 10) = tsecr := by simp [← same,slice,other]
  have whole : optionBytes (.timestamps tsval tsecr) ++ rest = buffer := by
    simp [optionBytes,bytes,others,← same]
  simp only [whole,timestampsFromBuffer,opened,exact,fits,long,first,second,left,right,if_false,ok_bind,
    pyAssert_true,pure_eq]

theorem fastopen_returns (built : optionPostInit (.fastopen cookie) = .ok ()) :
    fastopenFromBuffer (optionBytes (.fastopen cookie) ++ rest) = .ok (.fastopen cookie) := by
  have size : cookie.length = 0 ∨ (4 ≤ cookie.length ∧ cookie.length ≤ 16) := by
    simpa [optionPostInit,pyAssert_ok] using built
  obtain ⟨l,same⟩ : ∃ l, (2 + cookie.length).toUInt8 = l := ⟨_,rfl⟩
  have value : l.toNat = 2 + cookie.length := by rw [← same]; exact octet_value (by omega)
  have opened : optionPrefix 2 34 (34 :: l :: (cookie ++ rest)) = .ok () := optionPrefix_eq
  have fits : fitsBuffer "TCP Fast Open" (34 :: l :: (cookie ++ rest)) = .ok () :=
    fitsBuffer_eq _ (by rw [value]; simp; omega)
  have data : slice (34 :: l :: (cookie ++ rest)) 2 (2 + cookie.length) = cookie := slice_field [34,l] cookie rest
  have legal : ¬(2 + cookie.length - 2 ≠ 0 ∧ ¬(4 ≤ 2 + cookie.length - 2 ∧ 2 + cookie.length - 2 ≤ 16)) := by omega
  have enough : ¬2 + cookie.length < 2 := by omega
  have whole : optionBytes (.fastopen cookie) ++ rest = 34 :: l :: (cookie ++ rest) := by
    simp only [optionBytes,TcpOption.len,same,List.cons_append,List.nil_append]
  simp only [whole,fastopenFromBuffer,opened,fits,byteAt_one,value,data,size,legal,enough,if_false,ok_bind,
    decide_true,pyAssert_true,pure_eq]

theorem unknown_returns (built : optionPostInit (.unknown type data) = .ok ()) :
    optionFromBuffer (optionBytes (.unknown type data) ++ rest) = .ok (.unknown type data) := by
  simp only [optionPostInit,bind_ok,pyAssert_ok,decide_eq_true_eq] at built
  obtain ⟨_,octet,_,new,size⟩ := built
  obtain ⟨k,kind⟩ : ∃ k, type.toUInt8 = k := ⟨_,rfl⟩
  obtain ⟨l,same⟩ : ∃ l, (2 + data.length).toUInt8 = l := ⟨_,rfl⟩
  have tag : k.toNat = type := by rw [← kind]; exact octet_value (by simpa [isUint] using octet)
  have value : l.toNat = 2 + data.length := by rw [← same]; exact octet_value (by simpa [isUint] using size)
  have body : slice (k :: l :: (data ++ rest)) 2 (2 + data.length) = data := slice_field [k,l] data rest
  have whole : optionBytes (.unknown type data) ++ rest = k :: l :: (data ++ rest) := by
    simp only [optionBytes,TcpOption.len,same,kind,List.cons_append,List.nil_append]
  have other : optionFromBuffer (k :: l :: (data ++ rest)) = unknownFromBuffer (k :: l :: (data ++ rest)) := by
    rw [← tag] at new
    unfold optionFromBuffer
    simp only [List.head?_cons]
    split <;> simp_all [knownTypes]
  have fits : ¬2 + data.length > (k :: l :: (data ++ rest)).length := by simp; omega
  rw [whole,other]
  simp only [unknownFromBuffer,byteAt_one,value,fits,body,if_false,ok_bind,size]
  simp [byteAt,tag,new]

theorem block_returns (built : sackBlockPostInit block = .ok ()) (front : List UInt8) :
    sackBlock (front ++ (blockBytes block ++ rest)) front.length = .ok block := by
  simp only [sackBlockPostInit,bind_ok,pyAssert_ok] at built
  obtain ⟨_,left,right⟩ := built
  have first := slice_field front (beBytes 4 block.1) (beBytes 4 block.2 ++ rest)
  have second := slice_field (front ++ beBytes 4 block.1) (beBytes 4 block.2) rest
  simp only [beBytes_length,List.length_append,List.append_assoc] at first second
  rw [sackBlock_ok,blockBytes,List.append_assoc,first,second,
    beNat_beBytes 4 block.1 (by simpa [isUint] using left),beNat_beBytes 4 block.2 (by simpa [isUint] using right)]

theorem blocks_return (blocks : List (Nat × Nat)) (front : List UInt8)
    (built : ∀ block ∈ blocks, sackBlockPostInit block = .ok ()) :
    (List.range blocks.length).mapM (fun i =>
      sackBlock (front ++ (blocks.flatMap blockBytes ++ rest)) (front.length + 8*i)) = .ok blocks := by
  induction blocks generalizing front with
  | nil => rfl
  | cons block others ih =>
    have first := block_returns (others.flatMap blockBytes ++ rest) (built block (by simp)) front
    have remaining := ih (front ++ blockBytes block) fun other member => built other (by simp [member])
    have size : (blockBytes block).length = 8 := by simp [blockBytes]
    have shift (i : Nat) : front.length + 8 + 8*i = front.length + 8*(i+1) := by omega
    simp only [List.length_append,size,List.append_assoc,shift] at remaining
    simp only [List.length_cons,List.range_succ_eq_map,List.flatMap_cons,List.append_assoc,List.mapM_cons,
      List.mapM_map,Nat.mul_zero,Nat.add_zero,first,ok_bind,Function.comp_def,Nat.succ_eq_add_one,remaining,pure_eq]

theorem sack_returns (built : optionPostInit (.sack blocks) = .ok ()) :
    sackFromBuffer (optionBytes (.sack blocks) ++ rest) = .ok (.sack blocks) := by
  simp only [optionPostInit,bind_ok,pyAssert_ok,forM_ok,decide_eq_true_eq] at built
  obtain ⟨_,each,few⟩ := built
  obtain ⟨l,same⟩ : ∃ l, (2 + 8*blocks.length).toUInt8 = l := ⟨_,rfl⟩
  have value : l.toNat = 2 + 8*blocks.length := by rw [← same]; exact octet_value (by omega)
  have size : (blocks.flatMap blockBytes).length = 8*blocks.length := by
    simp [List.length_flatMap,blockBytes]
    omega
  have opened : optionPrefix 2 5 (5 :: l :: (blocks.flatMap blockBytes ++ rest)) = .ok () := optionPrefix_eq
  have fits : fitsBuffer "TCP Sack" (5 :: l :: (blocks.flatMap blockBytes ++ rest)) = .ok () :=
    fitsBuffer_eq _ (by simp only [value,List.length_cons,List.length_append,size]; omega)
  have length : ((2 + 8*blocks.length : Nat) : Int) - 2 = 8 * (blocks.length : Int) := by omega
  have aligned : 8 * (blocks.length : Int) % 8 = 0 := by omega
  have count : 8 * (blocks.length : Int) / 8 = blocks.length := by omega
  have limit : ¬(blocks.length : Int) > 4 := by omega
  have read := blocks_return rest blocks [5,l] each
  have whole : optionBytes (.sack blocks) ++ rest = 5 :: l :: (blocks.flatMap blockBytes ++ rest) := by
    simp only [optionBytes,TcpOption.len,same,List.cons_append,List.nil_append]
  simp only [List.cons_append,List.nil_append,List.length_cons,List.length_nil,Nat.zero_add,Nat.reduceAdd] at read
  simp only [whole,sackFromBuffer,opened,fits,byteAt_one,value,length,aligned,count,limit,ne_eq,not_true_eq_false,
    if_false,ok_bind,Int.toNat_natCast,read,few,decide_true,pyAssert_true,pure_eq]

theorem accecn_shapes (built : accecnPostInit first second third = .ok ()) :
    (first = none ∧ second = none ∧ third = none) ∨ (∃ a, first = some a ∧ second = none ∧ third = none) ∨
      (∃ a b, first = some a ∧ second = some b ∧ third = none) ∨
      ∃ a b c, first = some a ∧ second = some b ∧ third = some c := by
  cases first <;> cases second <;> cases third <;> simp [accecnPostInit] at built ⊢

theorem accecn_returns (name : String) (k : UInt8) (built : accecnPostInit first second third = .ok ())
    (one : first.all (isUint 24) = true) (two : second.all (isUint 24) = true) (three : third.all (isUint 24) = true) :
    accecnCounters name k.toNat (k :: (accecnLen first second third).toUInt8 ::
      (counterBytes first ++ (counterBytes second ++ (counterBytes third ++ rest)))) = .ok (first,second,third) := by
  rcases accecn_shapes built with ⟨rfl,rfl,rfl⟩ | ⟨a,rfl,rfl,rfl⟩ | ⟨a,b,rfl,rfl,rfl⟩ | ⟨a,b,c,rfl,rfl,rfl⟩
  · have fits : fitsBuffer s!"TCP {name}" (k :: 2 :: rest) = .ok () := fitsBuffer_eq _ (by simp)
    simp [accecnCounters,accecnLen,counterBytes,optionPrefix_eq,fits]
  · obtain ⟨p,q,r,bytes,value⟩ := three_bytes (by simpa using one)
    have fits : fitsBuffer s!"TCP {name}" (k :: 5 :: p :: q :: r :: rest) = .ok () := fitsBuffer_eq _ (by simp)
    have small : isUint 24 a = true := by simpa using one
    simp [accecnCounters,accecnLen,counterBytes,bytes,optionPrefix_eq,fits,slice,value,small]
  · obtain ⟨p,q,r,bytes,value⟩ := three_bytes (by simpa using one)
    obtain ⟨t,u,v,others,other⟩ := three_bytes (by simpa using two)
    have fits : fitsBuffer s!"TCP {name}" (k :: 8 :: p :: q :: r :: t :: u :: v :: rest) = .ok () :=
      fitsBuffer_eq _ (by simp)
    have left : isUint 24 a = true := by simpa using one
    have right : isUint 24 b = true := by simpa using two
    simp [accecnCounters,accecnLen,counterBytes,bytes,others,optionPrefix_eq,fits,slice,value,other,left,right]
  · obtain ⟨p,q,r,bytes,value⟩ := three_bytes (by simpa using one)
    obtain ⟨t,u,v,others,other⟩ := three_bytes (by simpa using two)
    obtain ⟨x,y,z,last,final⟩ := three_bytes (by simpa using three)
    have fits : fitsBuffer s!"TCP {name}" (k :: 11 :: p :: q :: r :: t :: u :: v :: x :: y :: z :: rest) = .ok () :=
      fitsBuffer_eq _ (by simp)
    have left : isUint 24 a = true := by simpa using one
    have middle : isUint 24 b = true := by simpa using two
    have right : isUint 24 c = true := by simpa using three
    simp [accecnCounters,accecnLen,counterBytes,bytes,others,last,optionPrefix_eq,fits,slice,value,other,final,
      left,middle,right]

theorem accecn0_returns (built : optionPostInit (.accecn0 ee0b eceb ee1b) = .ok ()) :
    accecn0FromBuffer (optionBytes (.accecn0 ee0b eceb ee1b) ++ rest) = .ok (.accecn0 ee0b eceb ee1b) := by
  simp only [optionPostInit,bind_ok,pyAssert_ok] at built
  obtain ⟨_,shape,_,one,_,two,three⟩ := built
  have read := accecn_returns rest "AccECN0" 172 shape one two three
  simp only [optionBytes,List.cons_append,List.nil_append,List.append_assoc,accecn0FromBuffer]
  exact congrArg (· >>= _) read

theorem accecn1_returns (built : optionPostInit (.accecn1 ee0b eceb ee1b) = .ok ()) :
    accecn1FromBuffer (optionBytes (.accecn1 ee0b eceb ee1b) ++ rest) = .ok (.accecn1 ee0b eceb ee1b) := by
  simp only [optionPostInit,bind_ok,pyAssert_ok] at built
  obtain ⟨_,shape,_,three,_,two,one⟩ := built
  have read := accecn_returns rest "AccECN1" 174 shape one two three
  simp only [optionBytes,List.cons_append,List.nil_append,List.append_assoc,accecn1FromBuffer]
  exact congrArg (· >>= _) read

theorem option_returns (built : optionPostInit option = .ok ()) :
    optionFromBuffer (optionBytes option ++ rest) = .ok option := by
  cases option with
  | eol => simp [optionBytes,optionFromBuffer,eolFromBuffer,optionPrefix,byteAt]
  | nop => simp [optionBytes,optionFromBuffer,nopFromBuffer,optionPrefix,byteAt]
  | mss mss => exact mss_returns rest built
  | wscale wscale => exact wscale_returns rest built
  | sackperm => simp [optionBytes,optionFromBuffer,sackpermFromBuffer,optionPrefix,exactLen,byteAt]
  | sack blocks => exact sack_returns rest built
  | timestamps tsval tsecr => exact timestamps_returns rest built
  | fastopen cookie => exact fastopen_returns rest built
  | accecn0 ee0b eceb ee1b => exact accecn0_returns rest built
  | accecn1 ee0b eceb ee1b => exact accecn1_returns rest built
  | unknown type data => exact unknown_returns rest built

end Options

theorem accecn_length (built : accecnPostInit first second third = .ok ()) :
    (counterBytes first ++ (counterBytes second ++ counterBytes third)).length + 2 = accecnLen first second third := by
  rcases accecn_shapes built with ⟨rfl,rfl,rfl⟩ | ⟨a,rfl,rfl,rfl⟩ | ⟨a,b,rfl,rfl,rfl⟩ | ⟨a,b,c,rfl,rfl,rfl⟩ <;>
    simp [counterBytes,accecnLen]

theorem optionBytes_length (built : optionPostInit option = .ok ()) : (optionBytes option).length = option.len := by
  cases option with
  | sack blocks =>
    simp [optionBytes,TcpOption.len,List.length_flatMap,blockBytes]
    omega
  | accecn0 ee0b eceb ee1b =>
    simp only [optionPostInit,bind_ok] at built
    obtain ⟨_,shape,_⟩ := built
    simpa [optionBytes,TcpOption.len] using accecn_length shape
  | accecn1 ee0b eceb ee1b =>
    simp only [optionPostInit,bind_ok] at built
    obtain ⟨_,shape,_⟩ := built
    simpa [optionBytes,TcpOption.len] using accecn_length shape
  | fastopen cookie =>
    simp [optionBytes,TcpOption.len]
    omega
  | unknown type data =>
    simp [optionBytes,TcpOption.len]
    omega
  | _ => simp [optionBytes,TcpOption.len]

theorem option_tlv (built : optionPostInit option = .ok ()) (notEol : option ≠ .eol) (notNop : option ≠ .nop) :
    ∃ k l data, optionBytes option = k :: l :: data ∧ k ≠ 0 ∧ k ≠ 1 ∧ l.toNat = option.len := by
  cases option with
  | eol => exact absurd rfl notEol
  | nop => exact absurd rfl notNop
  | mss mss => exact ⟨2,4,_,rfl,by decide,by decide,rfl⟩
  | wscale wscale => exact ⟨3,3,_,rfl,by decide,by decide,rfl⟩
  | sackperm => exact ⟨4,2,_,rfl,by decide,by decide,rfl⟩
  | sack blocks =>
    simp only [optionPostInit,bind_ok,pyAssert_ok,decide_eq_true_eq] at built
    obtain ⟨_,_,few⟩ := built
    exact ⟨5,_,_,rfl,by decide,by decide,octet_value (by simp only [TcpOption.len]; omega)⟩
  | timestamps tsval tsecr => exact ⟨8,10,_,rfl,by decide,by decide,rfl⟩
  | fastopen cookie =>
    have size : cookie.length = 0 ∨ (4 ≤ cookie.length ∧ cookie.length ≤ 16) := by
      simpa [optionPostInit,pyAssert_ok] using built
    exact ⟨34,_,_,rfl,by decide,by decide,octet_value (by simp only [TcpOption.len]; omega)⟩
  | accecn0 ee0b eceb ee1b =>
    exact ⟨172,_,_,rfl,by decide,by decide,octet_value (by unfold accecnLen; split_ifs <;> decide)⟩
  | accecn1 ee0b eceb ee1b =>
    exact ⟨174,_,_,rfl,by decide,by decide,octet_value (by unfold accecnLen; split_ifs <;> decide)⟩
  | unknown type data =>
    simp only [optionPostInit,bind_ok,pyAssert_ok,decide_eq_true_eq] at built
    obtain ⟨_,octet,_,new,size⟩ := built
    have tag : type.toUInt8.toNat = type := octet_value (by simpa [isUint] using octet)
    simp only [knownTypes,List.mem_cons,not_or] at new
    refine ⟨_,_,_,rfl,?_,?_,octet_value (by simpa [isUint,TcpOption.len] using size)⟩
    · rintro zero
      rw [zero] at tag
      exact new.1 tag.symm
    · rintro one
      rw [one] at tag
      exact new.2.1 tag.symm

theorem optionsBytes_cons (option : TcpOption) (rest : List TcpOption) :
    optionsBytes (option :: rest) = optionBytes option ++ optionsBytes rest := rfl

theorem optionsBytes_length {options : List TcpOption} (built : ∀ option ∈ options, optionPostInit option = .ok ()) :
    (optionsBytes options).length = optionsLen options := by
  induction options with
  | nil => rfl
  | cons option rest ih =>
    have tail := ih fun other member => built other (by simp [member])
    rw [optionsBytes_cons,List.length_append,optionBytes_length (built option (by simp)),tail]
    simp [optionsLen]

-- By induction on the options still to be read. An EOL can only be the last of
-- them, so nothing is lost where the walk breaks off.
theorem options_return {options : List TcpOption} (built : ∀ option ∈ options, optionPostInit option = .ok ())
    (ending : .eol ∉ options.dropLast) (buffer : List UInt8) (offset : Nat)
    (here : buffer.drop offset = optionsBytes options) :
    optionsFromBuffer buffer offset = .ok options := by
  induction options generalizing offset with
  | nil =>
    have past : ¬offset < buffer.length := by
      have empty : (buffer.drop offset).length = 0 := by rw [here]; rfl
      rw [List.length_drop] at empty
      omega
    rw [optionsFromBuffer,dif_neg past]
  | cons option rest ih =>
    have ready := built option (by simp)
    have size := optionBytes_length ready
    have positive := len_pos option
    rw [optionsBytes_cons] at here
    have inside : offset < buffer.length := by
      have some : (buffer.drop offset).length ≠ 0 := by
        rw [here,List.length_append]
        omega
      rw [List.length_drop] at some
      omega
    have next : buffer.drop (offset + option.len) = optionsBytes rest := by
      rw [← List.drop_drop,here,← size,List.drop_left]
    have read := option_returns (optionsBytes rest) ready
    rw [optionsFromBuffer,dif_pos inside,here,read]
    by_cases last : option = .eol
    · subst last
      cases rest with
      | nil => rfl
      | cons other others => exact absurd (by simp) ending
    · have tail : .eol ∉ rest.dropLast := by
        cases rest with
        | nil => simp
        | cons other others =>
          intro member
          exact ending (by simp [member])
      have remaining := ih (fun other member => built other (by simp [member])) tail _ next
      cases option <;> simp_all

theorem walk_passes {options : List TcpOption} (built : ∀ option ∈ options, optionPostInit option = .ok ())
    (frame : List UInt8) (hlen offset : Nat) (covered : hlen ≤ frame.length)
    (here : slice frame offset hlen = optionsBytes options) :
    validateOptions frame hlen offset = .ok () := by
  have total := slice_length frame offset hlen covered
  induction options generalizing offset with
  | nil =>
    rw [here] at total
    have past : ¬offset < hlen := by
      simp [optionsBytes] at total
      omega
    rw [validateOptions,dif_neg past]
  | cons option rest ih =>
    have ready := built option (by simp)
    have size := optionBytes_length ready
    have positive := len_pos option
    have next : slice frame (offset + option.len) hlen = optionsBytes rest := by
      rw [slice_drop,here,optionsBytes_cons,← size,List.drop_left]
    have remaining := ih (fun other member => built other (by simp [member])) _ next
      (slice_length frame _ hlen covered)
    have room : option.len ≤ hlen-offset := by
      rw [← total,here,optionsBytes_cons,List.length_append]
      omega
    have inside : offset < hlen := by omega
    obtain ⟨k,kind,region⟩ := region_cons frame hlen offset inside covered
    rw [here,optionsBytes_cons] at region
    rw [validateOptions,dif_pos inside]
    by_cases last : option = .eol
    · subst last
      have zero : k = 0 := (List.cons.inj region).1.symm
      simp [byteAt,kind,zero]
    by_cases blank : option = .nop
    · subst blank
      have one : k = 1 := (List.cons.inj region).1.symm
      simpa [byteAt,kind,one,TcpOption.len] using remaining
    obtain ⟨k',l,data,bytes,notZero,notOne,value⟩ := option_tlv ready last blank
    rw [bytes] at region size
    have same : k' = k := (List.cons.inj region).1
    subst same
    have long : offset+1 < hlen := by
      rw [List.length_cons,List.length_cons] at size
      omega
    obtain ⟨l',length,tail⟩ := region_cons frame hlen (offset+1) long covered
    have also : l = l' := by
      rw [tail] at region
      exact (List.cons.inj (List.cons.inj region).2).1
    subst also
    have enough : ¬l.toNat < 2 := by
      rw [List.length_cons,List.length_cons] at size
      omega
    have within : ¬hlen < offset + l.toNat := by omega
    have first : byteAt frame offset = .ok k'.toNat := by simp [byteAt,kind]
    have second : byteAt frame (offset+1) = .ok l.toNat := by simp [byteAt,length]
    rw [first,second]
    simp only [dif_neg enough,if_neg within]
    rw [← value] at remaining
    split
    · next failed => cases failed
    · rfl
    · next one => exact absurd (UInt8.toNat_inj.mp (Except.ok.inj one)) notOne
    · exact remaining

theorem mask_testBit (word i : Nat) : decide (word &&& 2^i ≠ 0) = word.testBit i := by
  rw [Nat.and_two_pow]
  cases word.testBit i <;> simp

theorem hlenFlags_bits (header : TcpHeader) :
    (hlenFlags header).testBit 8 = header.flagNs ∧ (hlenFlags header).testBit 7 = header.flagCwr ∧
      (hlenFlags header).testBit 6 = header.flagEce ∧ (hlenFlags header).testBit 5 = header.flagUrg ∧
      (hlenFlags header).testBit 4 = header.flagAck ∧ (hlenFlags header).testBit 3 = header.flagPsh ∧
      (hlenFlags header).testBit 2 = header.flagRst ∧ (hlenFlags header).testBit 1 = header.flagSyn ∧
      (hlenFlags header).testBit 0 = header.flagFin := by
  have lowest (flag : Bool) : decide (flag.toNat % 2 = 1) = flag := by cases flag <;> rfl
  simp [hlenFlags,Nat.testBit_bool_toNat,lowest]

theorem hlenFlags_hlen (header : TcpHeader) : hlenFlags header >>> 10 = header.hlen := by
  have bit (flag : Bool) (i : Nat) (low : i < 10) : flag.toNat <<< i >>> 10 = 0 := by
    rw [Nat.shiftLeft_eq,Nat.shiftRight_eq_div_pow]
    have power : 2^i < 2^10 := Nat.pow_lt_pow_right (by decide) low
    cases flag
    · simp
    · simp
      omega
  have last : header.flagFin.toNat >>> 10 = 0 := by cases header.flagFin <;> rfl
  simp only [hlenFlags,Nat.shiftRight_or_distrib,Nat.shiftLeft_shiftRight,last,bit _ 8 (by decide),bit _ 7 (by decide),
    bit _ 6 (by decide),bit _ 5 (by decide),bit _ 4 (by decide),bit _ 3 (by decide),bit _ 2 (by decide),
    bit _ 1 (by decide),Nat.or_zero]

theorem hlen_kept (small : isUint 6 hlen = true) (aligned : hlen % 4 = 0) : hlen &&& 60 = hlen := by
  have every : ∀ quarter < 16, 4*quarter &&& 60 = 4*quarter := by decide
  have quarter := every (hlen/4) (by simp [isUint] at small; omega)
  rwa [show 4*(hlen/4) = hlen by omega] at quarter

theorem hlenFlags_returns (small : isUint 6 header.hlen = true) (aligned : header.hlen % 4 = 0) :
    isUint 16 (hlenFlags header) = true ∧ (hlenFlags header &&& 0xF000) >>> 10 = header.hlen := by
  have shifted := hlenFlags_hlen header
  constructor
  · rw [Nat.shiftRight_eq_div_pow] at shifted
    simp only [isUint,decide_eq_true_eq] at small ⊢
    omega
  · rw [Nat.shiftRight_and_distrib,shifted]
    exact hlen_kept small aligned

theorem headerBytes_length (header : TcpHeader) : (headerBytes header).length = 20 := by
  simp [headerBytes]

theorem header_returns (built : headerPostInit header = .ok ()) (small : cksum < 65536) (rest : List UInt8) :
    headerFromBuffer (overwrite (headerBytes header) 16 (be16 cksum) ++ rest) = .ok {header with cksum := cksum} ∧
      headerLen (overwrite (headerBytes header) 16 (be16 cksum) ++ rest) = .ok header.hlen := by
  simp only [headerPostInit,bind_ok,pyAssert_ok,decide_eq_true_eq] at built
  obtain ⟨_,sport,_,dport,_,seq,_,ack,_,hlen,_,aligned,_,win,_,_,urg⟩ := built
  obtain ⟨word,offset⟩ := hlenFlags_returns hlen aligned
  obtain ⟨ns,cwr,ece,urgent,acked,psh,rst,syn,fin⟩ := hlenFlags_bits header
  obtain ⟨a1,a2,aBytes,aValue⟩ := two_bytes sport
  obtain ⟨b1,b2,bBytes,bValue⟩ := two_bytes dport
  obtain ⟨c1,c2,c3,c4,cBytes,cValue⟩ := four_bytes seq
  obtain ⟨d1,d2,d3,d4,dBytes,dValue⟩ := four_bytes ack
  obtain ⟨e1,e2,eBytes,eValue⟩ := two_bytes word
  obtain ⟨f1,f2,fBytes,fValue⟩ := two_bytes win
  obtain ⟨g1,g2,gBytes,gValue⟩ : ∃ a b, be16 cksum = [a,b] ∧ beNat [a,b] = cksum := ⟨_,_,rfl,beNat_be16 cksum small⟩
  obtain ⟨h1,h2,hBytes,hValue⟩ := two_bytes urg
  have zero : beBytes 2 0 = [0,0] := rfl
  have frame : overwrite (headerBytes header) 16 (be16 cksum) ++ rest =
      a1::a2::b1::b2::c1::c2::c3::c4::d1::d2::d3::d4::e1::e2::f1::f2::g1::g2::h1::h2::rest := by
    simp [headerBytes,overwrite,aBytes,bBytes,cBytes,dBytes,eBytes,fBytes,gBytes,hBytes,zero]
  have field : isUint 16 cksum = true := by simpa [isUint] using small
  rw [frame]
  constructor
  · have masked {i : Nat} {flag : Bool} (bit : (hlenFlags header).testBit i = flag) :
        decide (hlenFlags header &&& 2^i ≠ 0) = flag := (mask_testBit _ i).trans bit
    have m8 : decide (hlenFlags header &&& 0x100 ≠ 0) = header.flagNs := masked ns
    have m7 : decide (hlenFlags header &&& 0x80 ≠ 0) = header.flagCwr := masked cwr
    have m6 : decide (hlenFlags header &&& 0x40 ≠ 0) = header.flagEce := masked ece
    have m5 : decide (hlenFlags header &&& 0x20 ≠ 0) = header.flagUrg := masked urgent
    have m4 : decide (hlenFlags header &&& 0x10 ≠ 0) = header.flagAck := masked acked
    have m3 : decide (hlenFlags header &&& 0x08 ≠ 0) = header.flagPsh := masked psh
    have m2 : decide (hlenFlags header &&& 0x04 ≠ 0) = header.flagRst := masked rst
    have m1 : decide (hlenFlags header &&& 0x02 ≠ 0) = header.flagSyn := masked syn
    have m0 : decide (hlenFlags header &&& 0x01 ≠ 0) = header.flagFin := masked fin
    simp only [headerFromBuffer,slice,List.take_succ_cons,List.take_zero,List.drop_succ_cons,List.drop_zero,
      List.length_cons,List.length_nil,aValue,bValue,cValue,dValue,eValue,fValue,gValue,hValue,offset,
      m8,m7,m6,m5,m4,m3,m2,m1,m0,sport,dport,seq,ack,hlen,aligned,win,urg,field,ne_eq,not_true_eq_false,
      decide_true,if_false,ok_bind,pyAssert_true,pure_eq]
  · rw [← eValue,hlen_eq] at offset
    simp [headerLen,byteAt,offset]

theorem assembler_accepts (accepted : tcpAssembler args = .ok packet) :
    (∀ option ∈ args.options, optionPostInit option = .ok ()) ∧ optionsLen args.options % 4 = 0 ∧
      headerPostInit args.header = .ok () ∧ packet = ⟨args.header,args.options,args.payload⟩ := by
  simp only [tcpAssembler,bind_ok,forM_ok,pyAssert_ok,decide_eq_true_eq,pure_eq,Except.ok.injEq] at accepted
  obtain ⟨_,built,_,_,_,aligned,_,_,_,header,same⟩ := accepted
  exact ⟨built,aligned,header,same.symm⟩

theorem inetCksum_lt (buffers : List (List UInt8)) (init : Nat) : inetCksum buffers init < 65536 :=
  Nat.xor_lt_two_pow (by decide) (Nat.and_lt_two_pow _ (by decide) : _ < 2^16)

section Segment
variable {args : TcpArguments} {packet : TcpPacket}

theorem assemble_length (accepted : tcpAssembler args = .ok packet) (pshdrSum : Nat) :
    (assemble packet pshdrSum).length = args.header.hlen + args.payload.length := by
  obtain ⟨built,_,_,rfl⟩ := assembler_accepts accepted
  have header : (overwrite (headerBytes args.header) 16
      (be16 (segmentCksum ⟨args.header,args.options,args.payload⟩ pshdrSum))).length = 20 := by
    rw [overwrite_length (by simp [headerBytes_length,be16]),headerBytes_length]
  simp only [assemble,List.length_append,header,optionsBytes_length built]
  show _ = 20 + optionsLen args.options + _
  omega

-- The header and the options end on word boundaries, so the three buffers are
-- summed as the receiver sums the one it gets.
theorem segment_aligned (accepted : tcpAssembler args = .ok packet) :
    Aligned [headerBytes packet.header,optionsBytes packet.options,packet.payload] := by
  obtain ⟨built,aligned,_,rfl⟩ := assembler_accepts accepted
  have header := headerBytes_length args.header
  have options : (optionsBytes args.options).length % 2 = 0 := by
    rw [optionsBytes_length built]
    omega
  have quiet (buffer : List UInt8) (even : buffer.length % 2 = 0) : pending false buffer = false := by
    unfold pending
    split <;> simp [even]
  simp [Aligned,displaced,quiet _ options,quiet (headerBytes args.header) (by rw [header]),header,options]

theorem segment_verifies (accepted : tcpAssembler args = .ok packet) (caller : Caller)
    (bounded : (assemble packet caller.pshdrSum).length ≤ 65535)
    (kept : ¬CarryLost [headerBytes packet.header,optionsBytes packet.options,packet.payload] caller) :
    inetCksum [assemble packet caller.pshdrSum] caller.pshdrSum = 0 := by
  obtain ⟨front,back,split,even⟩ : ∃ front back, headerBytes packet.header = front ++ [0,0] ++ back ∧
      front.length = 16 := by
    refine ⟨(headerBytes packet.header).take 16,(headerBytes packet.header).drop 18,?_,?_⟩
    · simp [headerBytes,beBytes]
    · simp [headerBytes_length]
  have written (n : Nat) : overwrite (headerBytes packet.header) 16 (be16 n) = front ++ be16 n ++ back := by
    rw [split,overwrite,show 16 + (be16 n).length = (front ++ [0,0]).length by simp [even,be16],List.drop_left,
      List.append_assoc front [0,0] back,← even,List.take_left]
  have whole : [headerBytes packet.header,optionsBytes packet.options,packet.payload].flatten =
      front ++ [0,0] ++ (back ++ (optionsBytes packet.options ++ packet.payload)) := by
    simp [split]
  have size : (assemble packet caller.pshdrSum).length =
      (front ++ [0,0] ++ (back ++ (optionsBytes packet.options ++ packet.payload))).length := by
    rw [assemble,written]
    simp [be16]
  have correct := (cksum_eq_rfc1071_iff _ caller (by rw [whole,← size]; omega)).mpr ⟨segment_aligned accepted,kept⟩
  rw [whole] at correct
  have verified := field_verifies caller front (back ++ (optionsBytes packet.options ++ packet.payload))
    (by rw [even]) (by rw [← size]; omega)
  rw [← correct] at verified
  rw [assemble,written]
  simpa [segmentCksum,List.append_assoc] using verified

-- Whatever the receiver's own sanity rules say of the header, it sees the
-- header, the options and the payload that were assembled.
theorem segment_parses (accepted : tcpAssembler args = .ok packet) (caller : Caller)
    (bounded : (assemble packet caller.pshdrSum).length ≤ 65535)
    (kept : ¬CarryLost [headerBytes packet.header,optionsBytes packet.options,packet.payload] caller)
    (ending : .eol ∉ args.options.dropLast) (validateChecksum : Bool) :
    tcpParser (assemble packet caller.pshdrSum) (assemble packet caller.pshdrSum).length caller.pshdrSum
        validateChecksum =
      validateSanity args.header >>= fun _ =>
        .ok ⟨{args.header with cksum := segmentCksum packet caller.pshdrSum},args.options,args.payload⟩ := by
  have verified := segment_verifies accepted caller bounded kept
  have length := assemble_length accepted caller.pshdrSum
  obtain ⟨built,_,header,rfl⟩ := assembler_accepts accepted
  obtain ⟨frame,same⟩ : ∃ frame, assemble ⟨args.header,args.options,args.payload⟩ caller.pshdrSum = frame := ⟨_,rfl⟩
  obtain ⟨cksum,value⟩ : ∃ cksum, segmentCksum ⟨args.header,args.options,args.payload⟩ caller.pshdrSum = cksum := ⟨_,rfl⟩
  have small : cksum < 65536 := value ▸ inetCksum_lt _ _
  have layout : frame = overwrite (headerBytes args.header) 16 (be16 cksum) ++
      (optionsBytes args.options ++ args.payload) := by rw [← same,assemble,value]
  obtain ⟨read,announced⟩ := header_returns header small (optionsBytes args.options ++ args.payload)
  rw [← layout] at read announced
  rw [same] at verified length ⊢
  have first : (overwrite (headerBytes args.header) 16 (be16 cksum)).length = 20 := by
    rw [overwrite_length (by simp [headerBytes_length,be16]),headerBytes_length]
  have hlen : args.header.hlen = 20 + (optionsBytes args.options).length := by
    rw [optionsBytes_length built]
    rfl
  have region : slice frame 20 args.header.hlen = optionsBytes args.options := by
    rw [layout,hlen,← first]
    exact slice_field _ _ _
  have rest : slice frame args.header.hlen frame.length = args.payload := by
    rw [slice_rest,layout,hlen,← first,← List.append_assoc,← List.length_append,List.drop_left]
  have walked := walk_passes built frame args.header.hlen 20 (by omega) region
  have options := options_return built ending (optionsBytes args.options) 0 rfl
  have bounds : ¬¬(20 ≤ frame.length ∧ frame.length ≤ frame.length) := by
    rw [not_not]
    omega
  have inner : ¬¬(20 ≤ args.header.hlen ∧ args.header.hlen ≤ frame.length ∧ frame.length ≤ frame.length) := by
    rw [not_not]
    omega
  have valid : ¬(validateChecksum = true ∧ inetCksum [frame.take frame.length] caller.pshdrSum ≠ 0) := by
    rw [List.take_length,verified]
    simp
  simp only [tcpParser,validateIntegrity,bounds,inner,valid,announced,walked,parsePacket,read,region,options,rest,
    value,if_false,ok_bind,pure_eq]
  rfl

-- A round trip of any accepted segment that an IP packet can carry. The
-- receiver's sanity rules, a second EOL and a lost checksum carry stay outside.
theorem assembled_segment_returns (args : TcpArguments) (packet : TcpPacket) (caller : Caller)
    (accepted : tcpAssembler args = .ok packet) (bounded : (assemble packet caller.pshdrSum).length ≤ 65535)
    (kept : ¬CarryLost [headerBytes packet.header,optionsBytes packet.options,packet.payload] caller)
    (ending : .eol ∉ args.options.dropLast) (sane : validateSanity args.header = .ok ()) (validateChecksum : Bool) :
    tcpParser (assemble packet caller.pshdrSum) (assemble packet caller.pshdrSum).length caller.pshdrSum
        validateChecksum =
      .ok ⟨{args.header with cksum := segmentCksum packet caller.pshdrSum},args.options,args.payload⟩ ∧
    inetCksum [assemble packet caller.pshdrSum] caller.pshdrSum = 0 := by
  refine ⟨?_,segment_verifies accepted caller bounded kept⟩
  rw [segment_parses accepted caller bounded kept ending,sane]
  rfl

end Segment

-- A SYN with options of most kinds, from 10.0.0.1 to 10.0.0.2.
def synArguments : TcpArguments where
  sport := 1
  dport := 2
  seq := 7
  flagSyn := true
  win := 65535
  options := [.mss 1460,.sackperm,.wscale 14,.timestamps 1 0,.accecn0 (some 1) (some 0) none,.fastopen [],
    .unknown 253 [1,2],.accecn1 none none (some 3),.nop,.eol]
  payload := [0x68,0x69,0x21]

def synPacket : TcpPacket := ⟨synArguments.header,synArguments.options,synArguments.payload⟩
def synCaller : Caller := .ip4 firstHost secondHost 6 63

theorem assembled_segment_returns_syn :
    tcpParser (assemble synPacket synCaller.pshdrSum) (assemble synPacket synCaller.pshdrSum).length
        synCaller.pshdrSum true =
      .ok ⟨{synArguments.header with cksum := segmentCksum synPacket synCaller.pshdrSum},
        synArguments.options,synArguments.payload⟩ :=
  (assembled_segment_returns synArguments synPacket synCaller (by decide +kernel) (by decide +kernel)
    (by unfold CarryLost; decide +kernel) (by decide) (by decide +kernel) true).1

-- The parser's own rules refuse port 0. The assembler takes a second EOL, which
-- the parser does not see, and the last carry of a checksum can be lost.
def portless : TcpArguments := {dport := 2,flagAck := true}
def twoEnds : TcpArguments := {sport := 1,dport := 2,flagAck := true,options := [.eol,.nop,.nop,.eol]}
def carryLoser : TcpArguments where
  sport := 1
  dport := 2
  seq := 577090037
  flagAck := true
  payload := [0x91,0xB7,0x58,0x4A,0,0,0xDD,0x6B]

def TcpArguments.packet (args : TcpArguments) : TcpPacket := ⟨args.header,args.options,args.payload⟩

def ackCaller (length : UInt16) : Caller := .ip4 firstHost secondHost 6 length

theorem assembled_segments_lost :
    (tcpAssembler portless = .ok portless.packet ∧
      ∀ packet, tcpParser (assemble portless.packet (ackCaller 20).pshdrSum) 20 (ackCaller 20).pshdrSum true ≠
        .ok packet) ∧
    (tcpAssembler twoEnds = .ok twoEnds.packet ∧
      ∀ packet, tcpParser (assemble twoEnds.packet (ackCaller 24).pshdrSum) 24 (ackCaller 24).pshdrSum true =
        .ok packet → packet.options ≠ twoEnds.options) ∧
    (tcpAssembler carryLoser = .ok carryLoser.packet ∧
      inetCksum [assemble carryLoser.packet (ackCaller 28).pshdrSum] (ackCaller 28).pshdrSum ≠ 0) := by
  refine ⟨⟨by decide +kernel,?_⟩,⟨by decide +kernel,?_⟩,by decide +kernel,by decide +kernel⟩
  · have read := @segment_parses portless portless.packet (by decide +kernel) (ackCaller 20)
      (by decide +kernel) (by unfold CarryLost; decide +kernel) (by decide) true
    have length : (assemble portless.packet (ackCaller 20).pshdrSum).length = 20 := by decide +kernel
    rw [length] at read
    rw [read]
    intro packet
    simp [validateSanity,portless,TcpArguments.header]
  · intro packet read
    have header : headerFromBuffer (assemble twoEnds.packet (ackCaller 24).pshdrSum) =
        .ok {twoEnds.header with cksum := segmentCksum twoEnds.packet (ackCaller 24).pshdrSum} :=
      (header_returns (by decide +kernel) (inetCksum_lt _ _) _).1
    have region : slice (assemble twoEnds.packet (ackCaller 24).pshdrSum) 20 24 = [0,1,1,0] := by decide +kernel
    have options : optionsFromBuffer [0,1,1,0] 0 = .ok [.eol] := by
      rw [optionsFromBuffer]
      rfl
    have hlen : twoEnds.header.hlen = 24 := rfl
    simp only [tcpParser,parsePacket,header,hlen,region,options,ok_bind,bind_ok,pure_eq,Except.ok.injEq] at read
    obtain ⟨_,_,_,_,_,rfl⟩ := read
    simp [twoEnds]

end PmdPytcp.TcpAssembler
