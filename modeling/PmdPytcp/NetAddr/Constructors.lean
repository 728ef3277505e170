import PmdPytcp.NetAddr.IfAddr

namespace PmdPytcp.NetAddr
open Split

theorem masked_contains (value : Nat) (below : value < 2^v.bits) (mask : IpMask v) :
    (IpNetwork.masked value below mask).contains value = true := by
  have positive := Nat.two_pow_pos (v.bits - mask.len)
  have low := Nat.div_mul_le_self value (2^(v.bits - mask.len))
  have high := Nat.lt_div_mul_add (a := value) positive
  unfold IpNetwork.contains
  rw [decide_eq_true_eq]
  simp only [IpNetwork.last,IpNetwork.masked]
  omega

theorem masked_of_contains {network : IpNetwork v} (below : value < 2^v.bits) (inside : network.contains value = true) :
    IpNetwork.masked value below ⟨network.prefixLen,network.shorter⟩ = network := by
  unfold IpNetwork.contains at inside
  rw [decide_eq_true_eq] at inside
  have positive := Nat.two_pow_pos (v.bits - network.prefixLen)
  obtain ⟨q,aligned⟩ := network.aligned
  have quotient : value / 2^(v.bits - network.prefixLen) = q := by
    simp only [IpNetwork.last] at inside
    refine Nat.div_eq_of_lt_le ?_ ?_
    · rw [Nat.mul_comm,← aligned]
      exact inside.1
    · rw [Nat.add_mul,Nat.mul_comm q,← aligned]
      omega
  apply IpNetwork.ext
  · simp only [IpNetwork.masked]
    rw [quotient,Nat.mul_comm,← aligned]
  · rfl

theorem stripped_of_ends {t : Text} (first : ∀ c, t.head? = some c → isSpace c = false)
    (last : ∀ c, t.getLast? = some c → isSpace c = false) : stripped t = t :=
  strip_tight ⟨first,last⟩

theorem stripped_stripped (t : Text) : stripped (stripped t) = stripped t := strip_strip

theorem decimal_last (len : Nat) (small : len < 256) {front : Text} (last : (front ++ slash :: decimal len).getLast? = some c) :
    isSpace c = false := by
  obtain ⟨-,digits,nonempty⟩ := decimal_short len small
  rw [List.getLast?_append,List.getLast?_cons,List.getLast?_eq_some_getLast nonempty] at last
  cases last
  exact isDigit_not_space (List.all_eq_true.mp digits _ (List.getLast_mem nonempty))

theorem stripped_decimal (len : Nat) (small : len < 256) (front : Text)
    (first : ∀ c, (front ++ slash :: decimal len).head? = some c → isSpace c = false) :
    stripped (front ++ slash :: decimal len) = front ++ slash :: decimal len :=
  stripped_of_ends first (fun _ => decimal_last len small)

theorem stripped_slash (len : Nat) (small : len < 256) (front : Text) :
    stripped (slash :: (front ++ slash :: decimal len)) = slash :: (front ++ slash :: decimal len) := by
  refine stripped_decimal len small (slash :: front) ?_
  intro c head
  cases head
  decide

theorem stripped_length (len : Nat) (small : len < 256) : stripped (slash :: decimal len) = slash :: decimal len := by
  refine stripped_decimal len small [] ?_
  intro c head
  cases head
  decide

theorem bits_small (v : IpVersion) (fits : len ≤ v.bits) : len < 256 := by
  cases v <;> simp only [IpVersion.bits] at fits <;> omega

theorem ntop6_plain (p : Platform) (n : Fin (2^128)) (inside : c ∈ p.ntop6 n) :
    isSpace c = false ∧ c ≠ percent ∧ c ≠ slash ∧ unencodable c = false := by
  obtain digit | letter := p.ntop6_plain c inside
  · refine ⟨isDigit_not_space digit,isDigit_ne digit (by decide),isDigit_ne digit (by decide),?_⟩
    unfold isDigit at digit
    rw [decide_eq_true_eq] at digit
    unfold unencodable
    rw [decide_eq_false_iff_not]
    omega
  · have table : ∀ c ∈ [dot,0x3a,0x61,0x62,0x63,0x64,0x65,0x66],
        isSpace c = false ∧ c ≠ percent ∧ c ≠ slash ∧ unencodable c = false := by decide
    exact table c letter

theorem ip6Str_first (p : Platform) (a : Ip6Address) (head : (ip6Str p a).head? = some c) : isSpace c = false := by
  unfold ip6Str at head
  cases zoned : a.scopeId with
  | none =>
    rw [zoned] at head
    exact (ntop6_plain p _ (List.mem_of_mem_head? head)).1
  | some zone =>
    rw [zoned] at head
    cases printed : p.ntop6 ⟨a.value,a.below⟩ with
    | nil =>
      rw [printed] at head
      cases head
      decide
    | cons d rest =>
      rw [printed] at head
      cases head
      exact (ntop6_plain p ⟨a.value,a.below⟩ (printed ▸ List.mem_cons_self)).1

theorem ip6Str_last (p : Platform) (a : Ip6Address) (last : (ip6Str p a).getLast? = some c) : isSpace c = false := by
  unfold ip6Str at last
  cases zoned : a.scopeId with
  | none =>
    rw [zoned] at last
    exact (ntop6_plain p _ (List.mem_of_getLast? last)).1
  | some zone =>
    rw [zoned] at last
    have fine := a.zoned zone zoned
    rw [List.getLast?_append,List.getLast?_cons,List.getLast?_eq_some_getLast fine.nonempty] at last
    cases last
    exact fine.closed _ (List.getLast?_eq_some_getLast fine.nonempty)

theorem ip6Str_part (p : Platform) (a : Ip6Address) :
    partition percent (ip6Str p a) = (p.ntop6 ⟨a.value,a.below⟩,a.scopeId) := by
  have absent : percent ∉ p.ntop6 ⟨a.value,a.below⟩ := fun inside => (ntop6_plain p _ inside).2.1 rfl
  unfold ip6Str
  cases zoned : a.scopeId with
  | none => exact partition_absent absent
  | some zone => exact partition_found absent

theorem inetPton_ntop6 (p : Platform) (n : Fin (2^128)) : p.inetPton (p.ntop6 n) = .ok (some n) := by
  have encodable : (p.ntop6 n).any unencodable = false := by
    rw [List.any_eq_false]
    intro c inside
    rw [(ntop6_plain p n inside).2.2.2]
    decide
  rw [Platform.inetPton,encodable,p.pton6_ntop6]
  rfl

theorem ip6AddressOfText_str (p : Platform) (a : Ip6Address) : ip6AddressOfText p (ip6Str p a) = .ok a := by
  have tight : stripped (ip6Str p a) = ip6Str p a :=
    stripped_of_ends (fun _ => ip6Str_first p a) (fun _ => ip6Str_last p a)
  have parts := ip6Str_part p a
  rw [← tight] at parts
  have printed := inetPton_ntop6 p ⟨a.value,a.below⟩
  unfold ip6AddressOfText
  split
  · next part parted =>
    rw [parts] at parted
    obtain ⟨rfl,zoneless⟩ := Prod.mk.inj parted
    rw [printed]
    obtain ⟨value,scopeId,below,zoned⟩ := a
    dsimp only at zoneless ⊢
    subst zoneless
    rfl
  · next part zone parted =>
    rw [parts] at parted
    obtain ⟨rfl,zoned⟩ := Prod.mk.inj parted
    have fine := a.zoned zone zoned
    rw [dif_neg (not_or.mpr ⟨fine.nonempty,fine.single⟩),printed]
    dsimp only
    rw [dif_pos fine.scope]
    obtain ⟨value,scopeId,below,_⟩ := a
    dsimp only at zoned ⊢
    subst zoned
    rfl

theorem ip6MaskOfText_decimal (fits : len ≤ IpVersion.bits .ip6) : ip6MaskOfText (slash :: decimal len) = some ⟨len,fits⟩ := by
  have found := prefixOfText_decimal .ip6 fits
  rw [← stripped_length len (bits_small .ip6 fits)] at found
  unfold ip6MaskOfText
  split
  · next other parsed =>
    rw [found] at parsed
    cases parsed
    rfl
  · next parsed =>
    rw [found] at parsed
    cases parsed

def SlashFree (a : Ip6Address) : Prop := ∀ zone, a.scopeId = some zone → slash ∉ zone

theorem ip6Str_slash (p : Platform) (a : Ip6Address) : slash ∉ ip6Str p a ↔ SlashFree a := by
  have printed : slash ∉ p.ntop6 ⟨a.value,a.below⟩ := fun inside => (ntop6_plain p _ inside).2.2.1 rfl
  unfold ip6Str SlashFree
  cases zoned : a.scopeId with
  | none => simpa using printed
  | some zone =>
    have differs : slash ≠ percent := by decide
    simp [printed,differs]

theorem ifAddrStr_stripped (p : Platform) (a : Ip6Address) (network : IpNetwork .ip6) :
    stripped (ifAddrStr (ip6Str p a) network) = ifAddrStr (ip6Str p a) network := by
  refine stripped_decimal _ (bits_small .ip6 network.shorter) _ ?_
  intro c head
  rw [List.head?_append] at head
  cases first : (ip6Str p a).head? with
  | none =>
    rw [first] at head
    cases head
    decide
  | some d =>
    rw [first] at head
    cases head
    exact ip6Str_first p a first

theorem ip6IfAddrOfText_str (p : Platform) (a : Ip6Address) (network : IpNetwork .ip6) (plain : SlashFree a)
    (inside : network.contains a.value = true) :
    ip6IfAddrOfText p (ifAddrStr (ip6Str p a) network) = .ok ⟨.ip6Address a,network⟩ := by
  have parts : partition slash (ifAddrStr (ip6Str p a) network) = (ip6Str p a,some (decimal network.prefixLen)) :=
    partition_found ((ip6Str_slash p a).mpr plain)
  unfold ip6IfAddrOfText
  rw [ifAddrStr_stripped,parts]
  dsimp only
  rw [ip6AddressOfText_str,ip6MaskOfText_decimal network.shorter]
  dsimp only
  rw [masked_of_contains a.below inside]

theorem ip6IfAddrOfText_slash (p : Platform) (a : Ip6Address) (network : IpNetwork .ip6) (slashed : ¬SlashFree a)
    (h : IfAddr .ip6) : ip6IfAddrOfText p (ifAddrStr (ip6Str p a) network) ≠ .ok h := by
  have inside : slash ∈ ip6Str p a := by
    by_contra absent
    exact slashed ((ip6Str_slash p a).mp absent)
  obtain ⟨before,after,whole,absent⟩ := List.eq_append_cons_of_mem inside
  have parts : partition slash (ifAddrStr (ip6Str p a) network) =
      (before,some (after ++ slash :: decimal network.prefixLen)) := by
    rw [ifAddrStr,whole,List.append_assoc,List.cons_append]
    exact partition_found absent
  have refused : ip6MaskOfText (slash :: (after ++ slash :: decimal network.prefixLen)) = none := by
    unfold ip6MaskOfText
    split
    · next len found =>
      rw [stripped_slash _ (bits_small .ip6 network.shorter)] at found
      have digits := prefixOfText_digits found
      exact absurd (List.mem_append_right _ List.mem_cons_self) (not_mem_digits digits (d := slash) (by decide))
    · rfl
  unfold ip6IfAddrOfText
  rw [ifAddrStr_stripped,parts]
  dsimp only
  rw [refused]
  split <;> simp

-- The part of an address text that reaches the platform's parser can be spelled in C.
def SpelledAddress (t : Text) : Prop :=
  match partition percent (stripped t) with
  | (part,none) => part.any unencodable = false
  | (part,some zone) => zone = [] ∨ percent ∈ zone ∨ part.any unencodable = false

def Spelled (t : Text) : Prop := SpelledAddress (partition slash (stripped t)).1

theorem spelledAddress_bare (parted : partition percent (stripped t) = (part,none)) :
    SpelledAddress t ↔ part.any unencodable = false := by
  rw [SpelledAddress,parted]

theorem spelledAddress_zoned (parted : partition percent (stripped t) = (part,some zone)) :
    SpelledAddress t ↔ zone = [] ∨ percent ∈ zone ∨ part.any unencodable = false := by
  rw [SpelledAddress,parted]

theorem inetPton_spelled (p : Platform) (spelled : part.any unencodable = false) : p.inetPton part = .ok (p.pton6 part) := by
  rw [Platform.inetPton,spelled]
  rfl

theorem inetPton_unspelled (p : Platform) (unspelled : ¬part.any unencodable = false) :
    p.inetPton part = .error .valueError := by
  rw [Platform.inetPton,Bool.eq_true_of_not_eq_false unspelled]
  rfl

theorem ip6AddressOfText_raises (p : Platform) (t : Text) :
    (∀ e, ip6AddressOfText p t = .error e → e = .netAddrError) ↔ SpelledAddress t := by
  unfold ip6AddressOfText
  split
  · next part parted =>
    rw [spelledAddress_bare parted]
    by_cases spelled : part.any unencodable = false
    · rw [inetPton_spelled p spelled]
      refine ⟨fun _ => spelled,fun _ e raised => ?_⟩
      cases found : p.pton6 part <;> rw [found] at raised <;> cases raised
      rfl
    · rw [inetPton_unspelled p spelled]
      exact ⟨fun all => absurd (all .valueError rfl) (by decide),fun fine => absurd fine spelled⟩
  · next part zone parted =>
    rw [spelledAddress_zoned parted]
    by_cases refused : zone = [] ∨ percent ∈ zone
    · rw [dif_pos refused]
      refine ⟨fun _ => refused.imp id .inl,fun _ e raised => ?_⟩
      cases raised
      rfl
    · rw [dif_neg refused]
      rw [not_or] at refused
      by_cases spelled : part.any unencodable = false
      · rw [inetPton_spelled p spelled]
        refine ⟨fun _ => .inr (.inr spelled),fun _ e raised => ?_⟩
        cases found : p.pton6 part with
        | none =>
          rw [found] at raised
          cases raised
          rfl
        | some n =>
          rw [found] at raised
          dsimp only at raised
          split at raised <;> cases raised
          rfl
      · rw [inetPton_unspelled p spelled]
        refine ⟨fun all => absurd (all .valueError rfl) (by decide),fun fine => ?_⟩
        simp [refused,spelled] at fine

theorem ip6AddressOfText_slashFree (p : Platform) (parsed : ip6AddressOfText p t = .ok a) (absent : slash ∉ t) :
    SlashFree a := by
  intro zone zoned inside
  unfold ip6AddressOfText at parsed
  split at parsed
  · split at parsed <;> cases parsed
    cases zoned
  · next part other parted =>
    split at parsed
    · cases parsed
    · split at parsed
      · cases parsed
      · cases parsed
      · split at parsed <;> cases parsed
        cases zoned
        have whole := (partition_some parted).1
        have within : slash ∈ stripped t := by
          rw [whole]
          exact List.mem_append_right _ (List.mem_cons_of_mem _ inside)
        exact absent (mem_strip within)

-- Refused with the package's own error, or an address of the class inside its
-- network that the object's text gives back.
def Settles6 (p : Platform) : Except Raised (IfAddr .ip6) → Prop
  | .error e => e = .netAddrError
  | .ok h => ∃ a, h.address = .ip6Address a ∧ h.network.contains a.value = true ∧
      ip6IfAddr p (.str (ifAddrStr (ip6Str p a) h.network)) = .ok h

def Settles4 (p : Platform) : Except Raised (IfAddr .ip4) → Prop
  | .error e => e = .netAddrError
  | .ok h => ∃ a, h.address = .ip4Address a ∧ h.network.contains a.value = true ∧
      ip4IfAddr p (.str (ifAddrStr (ntoa a.value) h.network)) = .ok h

-- An interface address handed over as an address is found outside the network.
def Outside (p : Platform) (inner : Obj) (network : IpNetwork v) : Prop :=
  ∃ value : Int, objInt p inner = .ok value ∧ ¬((network.address : Int) ≤ value ∧ value ≤ network.last)

def ProperPair6 (p : Platform) (address : Obj) : Obj → Prop
  | .network .ip6 network =>
    match address with
    | .ip6Address a => network.contains a.value = true → SlashFree a
    | .ifAddr .ip6 inner _ => Outside p inner network
    | _ => True
  | .mask .ip6 _ =>
    match address with
    | .ip6Address a => SlashFree a
    | _ => ∃ value : Int, objInt p address = .ok value ∧ ¬(0 ≤ value ∧ value < 2^128)
  | _ => True

def Proper6 (p : Platform) : Obj → Prop
  | .ifAddr .ip6 address network => ∃ a, address = .ip6Address a ∧ network.contains a.value = true ∧ SlashFree a
  | .tuple items =>
    match items with
    | [address,other] => ProperPair6 p address other
    | _ => False
  | .str t => Spelled t
  | _ => True

def ProperPair4 (p : Platform) (address : Obj) : Obj → Prop
  | .network .ip4 network =>
    match address with
    | .ifAddr .ip4 inner _ => Outside p inner network
    | _ => True
  | _ => True

def Proper4 (p : Platform) : Obj → Prop
  | .ifAddr .ip4 address network => ∃ a, address = .ip4Address a ∧ network.contains a.value = true
  | .tuple items =>
    match items with
    | [address,other] => ProperPair4 p address other
    | _ => False
  | _ => True

theorem good6_iff (p : Platform) (a : Ip6Address) (network : IpNetwork .ip6) (inside : network.contains a.value = true) :
    ip6IfAddr p (.str (ifAddrStr (ip6Str p a) network)) = .ok ⟨.ip6Address a,network⟩ ↔ SlashFree a := by
  change ip6IfAddrOfText p _ = _ ↔ _
  constructor
  · intro same
    by_contra slashed
    exact ip6IfAddrOfText_slash p a network slashed _ same
  · intro plain
    exact ip6IfAddrOfText_str p a network plain inside

theorem settles6_refused (p : Platform) : Settles6 p (.error .netAddrError) ↔ True := iff_true_intro rfl

theorem settles6_address (p : Platform) (a : Ip6Address) (network : IpNetwork .ip6) (inside : network.contains a.value = true) :
    Settles6 p (.ok ⟨.ip6Address a,network⟩) ↔ SlashFree a := by
  constructor
  · rintro ⟨b,same,-,back⟩
    cases same
    exact (good6_iff p a network inside).mp back
  · intro plain
    exact ⟨a,rfl,inside,(good6_iff p a network inside).mpr plain⟩

theorem settles6_other (p : Platform) (network : IpNetwork .ip6) (other : ∀ a, address ≠ .ip6Address a) :
    ¬Settles6 p (.ok ⟨address,network⟩) := by
  rintro ⟨a,same,-,-⟩
  exact other a same

theorem objInt_error (raised : objInt p x = .error e) : e ≠ .netAddrError := by
  unfold objInt at raised
  split at raised
  · cases raised
  · split at raised <;> cases raised
    decide
  all_goals cases raised
  decide

theorem holds_ifAddr (p : Platform) (network : IpNetwork v) (inner : Obj) (own : IpNetwork v) :
    (Outside p inner network ∧ network.holds p (.ifAddr v inner own) = .ok false) ∨
      (¬Outside p inner network ∧ (network.holds p (.ifAddr v inner own) = .ok true ∨
        ∃ e, e ≠ .netAddrError ∧ network.holds p (.ifAddr v inner own) = .error e)) := by
  unfold IpNetwork.holds Outside
  dsimp only
  rw [if_pos rfl]
  cases found : objInt p inner with
  | error e =>
    refine .inr ⟨?_,.inr ⟨e,objInt_error found,rfl⟩⟩
    rintro ⟨value,impossible,-⟩
    cases impossible
  | ok value =>
    by_cases inside : (network.address : Int) ≤ value ∧ value ≤ network.last
    · refine .inr ⟨?_,.inl ?_⟩
      · rintro ⟨other,same,outside⟩
        cases same
        exact outside inside
      · exact congrArg Except.ok (decide_eq_true inside)
    · exact .inl ⟨⟨value,rfl,inside⟩,congrArg Except.ok (decide_eq_false inside)⟩

theorem ip6IfAddrOfPair_network (p : Platform) (address : Obj) (network : IpNetwork .ip6) :
    Settles6 p (ip6IfAddrOfPair p address (.network .ip6 network)) ↔ ProperPair6 p address (.network .ip6 network) := by
  cases address with
  | ip6Address a =>
    change Settles6 p (if network.contains a.value = true then .ok ⟨.ip6Address a,network⟩ else .error .netAddrError) ↔
      (network.contains a.value = true → SlashFree a)
    by_cases inside : network.contains a.value = true
    · rw [if_pos inside,settles6_address p a network inside]
      exact ⟨fun plain _ => plain,fun plain => plain inside⟩
    · rw [if_neg inside,settles6_refused]
      exact ⟨fun _ within => absurd within inside,fun _ => trivial⟩
  | ifAddr w inner own =>
    cases w with
    | ip4 => exact settles6_refused p
    | ip6 =>
      change Settles6 p (network.holds p (.ifAddr .ip6 inner own) >>= fun within =>
        if within = true then .ok ⟨.ifAddr .ip6 inner own,network⟩ else .error .netAddrError) ↔ Outside p inner network
      obtain ⟨outside,none⟩ | ⟨inside,found | ⟨e,other,raised⟩⟩ := holds_ifAddr p network inner own
      · rw [none]
        exact (settles6_refused p).trans (iff_of_true trivial outside)
      · rw [found]
        exact iff_of_false (settles6_other p network (by simp)) inside
      · rw [raised]
        exact iff_of_false other inside
  | _ => exact settles6_refused p

theorem ip6IfAddrOfPair_mask (p : Platform) (address : Obj) (mask : IpMask .ip6) (other : ∀ a, address ≠ .ip6Address a) :
    Settles6 p (ip6IfAddrOfPair p address (.mask .ip6 mask)) ↔
      ∃ value : Int, objInt p address = .ok value ∧ ¬(0 ≤ value ∧ value < 2^128) := by
  unfold ip6IfAddrOfPair
  cases found : objInt p address with
  | error e =>
    refine iff_of_false (objInt_error found) ?_
    rintro ⟨value,impossible,-⟩
    cases impossible
  | ok value =>
    change Settles6 p (if inside : 0 ≤ value ∧ value.toNat < 2^128 then
      .ok ⟨address,IpNetwork.masked value.toNat inside.2 mask⟩ else .error .netAddrError) ↔ _
    by_cases inside : 0 ≤ value ∧ value.toNat < 2^128
    · rw [dif_pos inside]
      refine iff_of_false (settles6_other p _ other) ?_
      rintro ⟨same,equal,outside⟩
      cases equal
      omega
    · rw [dif_neg inside]
      exact (settles6_refused p).trans (iff_of_true trivial ⟨value,rfl,by omega⟩)

theorem ip6IfAddrOfPair_settles (p : Platform) (address other : Obj) :
    Settles6 p (ip6IfAddrOfPair p address other) ↔ ProperPair6 p address other := by
  cases other with
  | network v network =>
    cases v with
    | ip4 => exact settles6_refused p
    | ip6 => exact ip6IfAddrOfPair_network p address network
  | mask v mask =>
    cases v with
    | ip4 => exact settles6_refused p
    | ip6 =>
      cases address with
      | ip6Address a =>
        have below : (a.value : Int).toNat < 2^128 := a.below
        have inside : 0 ≤ (a.value : Int) ∧ (a.value : Int).toNat < 2^128 := ⟨by omega,below⟩
        change Settles6 p (if inside : 0 ≤ (a.value : Int) ∧ (a.value : Int).toNat < 2^128 then
          .ok ⟨.ip6Address a,IpNetwork.masked (a.value : Int).toNat inside.2 mask⟩ else .error .netAddrError) ↔ SlashFree a
        rw [dif_pos inside]
        exact settles6_address p a _ (masked_contains (v := .ip6) a.value a.below mask)
      | _ => exact ip6IfAddrOfPair_mask p _ mask (by simp)
  | _ => exact settles6_refused p

theorem ip6IfAddrOfText_settles (p : Platform) (t : Text) : Settles6 p (ip6IfAddrOfText p t) ↔ Spelled t := by
  have raises := ip6AddressOfText_raises p (partition slash (stripped t)).1
  unfold ip6IfAddrOfText Spelled
  dsimp only
  cases parsed : ip6AddressOfText p (partition slash (stripped t)).1 with
  | error e =>
    rw [← raises,parsed]
    change e = .netAddrError ↔ _
    constructor
    · intro own other same
      cases same
      exact own
    · intro all
      exact all e rfl
  | ok a =>
    have spelled : SpelledAddress (partition slash (stripped t)).1 := by
      rw [← raises,parsed]
      intro e impossible
      cases impossible
    have absent : slash ∉ (partition slash (stripped t)).1 := by
      cases parts : partition slash (stripped t) with
      | mk front back =>
        cases back with
        | none =>
          obtain ⟨rfl,fresh⟩ := partition_none parts
          exact fresh
        | some rest => exact (partition_some parts).2
    have plain := ip6AddressOfText_slashFree p parsed absent
    dsimp only
    split
    · exact (settles6_refused p).trans (iff_of_true trivial spelled)
    · next mask _ =>
      rw [settles6_address p a _ (masked_contains (v := .ip6) a.value a.below mask)]
      exact iff_of_true plain spelled

theorem ip6IfAddr_settles (p : Platform) (arg : Obj) : Settles6 p (ip6IfAddr p arg) ↔ Proper6 p arg := by
  cases arg with
  | str t => exact ip6IfAddrOfText_settles p t
  | ifAddr v address network =>
    cases v with
    | ip4 => exact settles6_refused p
    | ip6 =>
      change Settles6 p (.ok ⟨address,network⟩) ↔ _
      constructor
      · rintro ⟨a,rfl,inside,back⟩
        exact ⟨a,rfl,inside,(good6_iff p a network inside).mp back⟩
      · rintro ⟨a,rfl,inside,plain⟩
        exact (settles6_address p a network inside).mpr plain
  | tuple items =>
    match items with
    | [] => exact iff_of_false (by simp [Settles6,ip6IfAddr]) id
    | [_] => exact iff_of_false (by simp [Settles6,ip6IfAddr]) id
    | [address,other] => exact ip6IfAddrOfPair_settles p address other
    | _ :: _ :: _ :: _ => exact iff_of_false (by simp [Settles6,ip6IfAddr]) id
  | _ => exact settles6_refused p

theorem ntoa_plain (inside : c ∈ ntoa address) : isSpace c = false ∧ c ≠ slash := by
  obtain rfl | digit := mem_ntoa inside
  · decide
  · exact ⟨isDigit_not_space digit,isDigit_ne digit (by decide)⟩

theorem ip4AddressOfText_ntoa (a : Ip4Address) : ip4AddressOfText (ntoa a.value) = some a := by
  have tight : stripped (ntoa a.value) = ntoa a.value :=
    stripped_of_ends (fun _ head => (ntoa_plain (List.mem_of_mem_head? head)).1)
      (fun _ last => (ntoa_plain (List.mem_of_getLast? last)).1)
  have back := parseIp4_ntoa a.below
  rw [← tight] at back
  unfold ip4AddressOfText
  split
  · next n parsed =>
    rw [back] at parsed
    cases parsed
    rfl
  · next parsed =>
    rw [back] at parsed
    cases parsed

theorem ip4MaskOfText_decimal (fits : len ≤ IpVersion.bits .ip4) : ip4MaskOfText (slash :: decimal len) = some ⟨len,fits⟩ := by
  have found := prefixOfText_decimal .ip4 fits
  rw [← stripped_length len (bits_small .ip4 fits)] at found
  unfold ip4MaskOfText
  split
  · next other parsed =>
    rw [found] at parsed
    cases parsed
    rfl
  · next parsed =>
    rw [found] at parsed
    cases parsed

theorem ip4IfAddrOfText_str (a : Ip4Address) (network : IpNetwork .ip4) (inside : network.contains a.value = true) :
    ip4IfAddrOfText (ifAddrStr (ntoa a.value) network) = .ok ⟨.ip4Address a,network⟩ := by
  have small := bits_small .ip4 network.shorter
  obtain ⟨-,digits,nonempty⟩ := decimal_short network.prefixLen small
  have tight : stripped (ifAddrStr (ntoa a.value) network) = ifAddrStr (ntoa a.value) network := by
    refine stripped_decimal _ small _ ?_
    intro c head
    rcases List.mem_append.mp (List.mem_of_mem_head? head) with here | behind
    · exact (ntoa_plain here).1
    · rcases List.mem_cons.mp behind with rfl | digit
      · decide
      · exact isDigit_not_space (List.all_eq_true.mp digits c digit)
  have parts : partition slash (ifAddrStr (ntoa a.value) network) = (ntoa a.value,some (decimal network.prefixLen)) :=
    partition_found (fun within => (ntoa_plain within).2 rfl)
  have slashed : slash ∈ ifAddrStr (ntoa a.value) network := List.mem_append_right _ List.mem_cons_self
  have single : slash ∉ decimal network.prefixLen := not_mem_digits digits (by decide)
  have length : allDigits (decimal network.prefixLen) = true := by
    rw [allDigits,digits]
    simpa using nonempty
  have found : ip4NetworkOfText (ifAddrStr (ntoa a.value) network) = some network := by
    unfold ip4NetworkOfText
    rw [tight,parts]
    dsimp only
    rw [if_neg single,if_pos length,ip4MaskOfText_decimal network.shorter,ip4NetworkOf,ip4AddressOfText_ntoa]
    exact congrArg some (masked_of_contains a.below inside)
  unfold ip4IfAddrOfText
  dsimp only
  rw [tight,if_pos slashed,parts,ip4AddressOfText_ntoa,found]

theorem ip4IfAddrOfText_ok (parsed : ip4IfAddrOfText t = .ok h) :
    ∃ a, h.address = .ip4Address a ∧ h.network.contains a.value = true := by
  unfold ip4IfAddrOfText at parsed
  dsimp only at parsed
  split at parsed
  · cases parsed
  · next a front =>
    split at parsed
    · cases parsed
    · next network found =>
      cases parsed
      refine ⟨a,rfl,?_⟩
      have built : ∃ mask, ip4NetworkOf (if slash ∈ stripped t then (partition slash (stripped t)).1
          else (partition space (stripped t)).1) mask = some network := by
        unfold ip4NetworkOfText at found
        rw [stripped_stripped] at found
        split at found
        · next address mask parts =>
          have slashed : slash ∈ stripped t := by
            rw [(partition_some parts).1]
            exact List.mem_append_right _ List.mem_cons_self
          rw [if_pos slashed,parts]
          split at found
          · cases found
          · exact ⟨_,found⟩
        · next whole parts =>
          rw [if_neg (partition_none parts).2]
          split at found
          · next address mask spaced =>
            rw [spaced]
            exact ⟨_,found⟩
          · next address spaced =>
            rw [spaced]
            exact ⟨_,found⟩
      obtain ⟨mask,built⟩ := built
      rw [ip4NetworkOf,front] at built
      cases mask with
      | none => cases built
      | some mask =>
        cases built
        exact masked_contains (v := .ip4) a.value a.below mask

theorem ip4IfAddrOfText_error (raised : ip4IfAddrOfText t = .error e) : e = .netAddrError := by
  unfold ip4IfAddrOfText at raised
  dsimp only at raised
  split at raised
  · cases raised
    rfl
  · split at raised <;> cases raised
    rfl

theorem settles4_refused (p : Platform) : Settles4 p (.error .netAddrError) ↔ True := iff_true_intro rfl

theorem settles4_address (p : Platform) (a : Ip4Address) (network : IpNetwork .ip4) (inside : network.contains a.value = true) :
    Settles4 p (.ok ⟨.ip4Address a,network⟩) :=
  ⟨a,rfl,inside,ip4IfAddrOfText_str a network inside⟩

theorem settles4_other (p : Platform) (network : IpNetwork .ip4) (other : ∀ a, address ≠ .ip4Address a) :
    ¬Settles4 p (.ok ⟨address,network⟩) := by
  rintro ⟨a,same,-,-⟩
  exact other a same

theorem ip4IfAddrOfPair_settles (p : Platform) (address other : Obj) :
    Settles4 p (ip4IfAddrOfPair p address other) ↔ ProperPair4 p address other := by
  cases other with
  | network v network =>
    cases v with
    | ip6 => exact settles4_refused p
    | ip4 =>
      cases address with
      | ip4Address a =>
        change Settles4 p (if network.contains a.value = true then .ok ⟨.ip4Address a,network⟩ else .error .netAddrError) ↔ True
        by_cases inside : network.contains a.value = true
        · rw [if_pos inside]
          exact iff_true_intro (settles4_address p a network inside)
        · rw [if_neg inside,settles4_refused]
      | ifAddr w inner own =>
        cases w with
        | ip6 => exact settles4_refused p
        | ip4 =>
          change Settles4 p (network.holds p (.ifAddr .ip4 inner own) >>= fun within =>
            if within = true then .ok ⟨.ifAddr .ip4 inner own,network⟩ else .error .netAddrError) ↔ Outside p inner network
          obtain ⟨outside,none⟩ | ⟨inside,found | ⟨e,other,raised⟩⟩ := holds_ifAddr p network inner own
          · rw [none]
            exact (settles4_refused p).trans (iff_of_true trivial outside)
          · rw [found]
            exact iff_of_false (settles4_other p network (by simp)) inside
          · rw [raised]
            exact iff_of_false other inside
      | _ => exact settles4_refused p
  | mask v mask =>
    cases v with
    | ip6 => exact settles4_refused p
    | ip4 =>
      cases address with
      | ip4Address a => exact iff_true_intro (settles4_address p a _ (masked_contains (v := .ip4) a.value a.below mask))
      | _ => exact settles4_refused p
  | _ => exact settles4_refused p

theorem ip4IfAddr_settles (p : Platform) (arg : Obj) : Settles4 p (ip4IfAddr p arg) ↔ Proper4 p arg := by
  cases arg with
  | str t =>
    refine iff_true_intro ?_
    change Settles4 p (ip4IfAddrOfText t)
    cases parsed : ip4IfAddrOfText t with
    | error e => exact ip4IfAddrOfText_error parsed
    | ok h =>
      obtain ⟨address,network⟩ := h
      obtain ⟨a,rfl,inside⟩ := ip4IfAddrOfText_ok parsed
      exact settles4_address p a network inside
  | ifAddr v address network =>
    cases v with
    | ip6 => exact settles4_refused p
    | ip4 =>
      change Settles4 p (.ok ⟨address,network⟩) ↔ _
      constructor
      · rintro ⟨a,rfl,inside,-⟩
        exact ⟨a,rfl,inside⟩
      · rintro ⟨a,rfl,inside⟩
        exact settles4_address p a network inside
  | tuple items =>
    match items with
    | [] => exact iff_of_false (by simp [Settles4,ip4IfAddr]) id
    | [_] => exact iff_of_false (by simp [Settles4,ip4IfAddr]) id
    | [address,other] => exact ip4IfAddrOfPair_settles p address other
    | _ :: _ :: _ :: _ => exact iff_of_false (by simp [Settles4,ip4IfAddr]) id
  | _ => exact settles4_refused p

-- Each constructor settles exactly the arguments described above: not a tuple of
-- another size than two, not another object in the place of the address, not a
-- text C cannot spell and, for IPv6, not a zone with a slash in it.
theorem ifAddr_constructors_exact (p : Platform) (arg : Obj) :
    (Settles4 p (ip4IfAddr p arg) ↔ Proper4 p arg) ∧ (Settles6 p (ip6IfAddr p arg) ↔ Proper6 p arg) :=
  ⟨ip4IfAddr_settles p arg,ip6IfAddr_settles p arg⟩

def hexDigit (n : Nat) : Nat := if n < 10 then 0x30 + n else 0x57 + n
def hexValue (c : Nat) : Nat := if c ≤ 0x39 then c - 0x30 else c - 0x57

theorem hexDigit_plain : ∀ n < 16, hexValue (hexDigit n) = n ∧ hexDigit n ≠ 0x3a ∧
    (isDigit (hexDigit n) = true ∨ hexDigit n ∈ [dot,0x3a,0x61,0x62,0x63,0x64,0x65,0x66]) := by decide

def groupText (n : Nat) : Text := [hexDigit (n/4096 % 16),hexDigit (n/256 % 16),hexDigit (n/16 % 16),hexDigit (n % 16)]
def groupValue (t : Text) : Nat := t.foldl (fun n c => n*16 + hexValue c) 0

theorem groupValue_groupText (n : Nat) : groupValue (groupText n) = n % 65536 := by
  have digit : ∀ k, hexValue (hexDigit (k % 16)) = k % 16 := fun k => (hexDigit_plain _ (Nat.mod_lt k (by decide))).1
  simp only [groupValue,groupText,List.foldl,digit]
  omega

theorem groupText_plain (inside : c ∈ groupText n) :
    c ≠ 0x3a ∧ (isDigit c = true ∨ c ∈ [dot,0x3a,0x61,0x62,0x63,0x64,0x65,0x66]) := by
  have digit : ∀ k, hexDigit (k % 16) ≠ 0x3a ∧
      (isDigit (hexDigit (k % 16)) = true ∨ hexDigit (k % 16) ∈ [dot,0x3a,0x61,0x62,0x63,0x64,0x65,0x66]) :=
    fun k => (hexDigit_plain _ (Nat.mod_lt k (by decide))).2
  simp only [groupText,List.mem_cons,List.not_mem_nil,or_false] at inside
  obtain rfl | rfl | rfl | rfl := inside
  all_goals exact digit _

-- The top `count` groups of a value, the highest first.
def groupsOf : Nat → Nat → List Nat
  | 0,_ => []
  | count+1,n => groupsOf count (n/65536) ++ [n % 65536]

theorem groupsOf_length (count n : Nat) : (groupsOf count n).length = count := by
  induction count generalizing n with
  | zero => rfl
  | succ count ih => simp [groupsOf,ih]

theorem groupsOf_value (count n : Nat) :
    ((groupsOf count n).map groupText).foldl (fun value t => value*65536 + groupValue t) 0 = n % 65536^count := by
  induction count generalizing n with
  | zero =>
    rw [Nat.pow_zero,Nat.mod_one]
    rfl
  | succ count ih =>
    rw [groupsOf,List.map_append,List.foldl_append,ih]
    simp only [List.map_cons,List.map_nil,List.foldl,groupValue_groupText]
    rw [Nat.pow_succ',Nat.mod_mul,Nat.mod_mod]
    ring

-- Eight groups of four digits, as the platform prints every address whose
-- groups have no leading zero.
def plainNtop6 (n : Fin (2^128)) : Text := join 0x3a ((groupsOf 8 n).map groupText)

def plainPton6 (t : Text) : Option (Fin (2^128)) :=
  let parts := fields 0x3a t
  if parts.length = 8 then some (Fin.ofNat (2^128) (parts.foldl (fun value t => value*65536 + groupValue t) 0)) else none

theorem plainPton6_plainNtop6 (n : Fin (2^128)) : plainPton6 (plainNtop6 n) = some n := by
  have parts : fields 0x3a (plainNtop6 n) = (groupsOf 8 n).map groupText := by
    apply fields_join
    · rw [ne_eq,← List.length_eq_zero_iff,List.length_map,groupsOf_length]
      decide
    · intro part member inside
      obtain ⟨g,-,rfl⟩ := List.mem_map.mp member
      exact (groupText_plain inside).1 rfl
  unfold plainPton6
  dsimp only
  rw [parts,List.length_map,groupsOf_length,if_pos rfl,groupsOf_value]
  congr 1
  apply Fin.ext
  have small : n.val < 65536^8 := n.isLt
  rw [Fin.val_ofNat,Nat.mod_eq_of_lt small,Nat.mod_eq_of_lt n.isLt]

theorem plainNtop6_plain (n : Fin (2^128)) (c : Nat) (inside : c ∈ plainNtop6 n) :
    isDigit c = true ∨ c ∈ [dot,0x3a,0x61,0x62,0x63,0x64,0x65,0x66] := by
  obtain rfl | ⟨part,member,here⟩ := mem_join inside
  · exact .inr (by decide)
  · obtain ⟨g,-,rfl⟩ := List.mem_map.mp member
    exact (groupText_plain here).2

def plainPlatform : Platform where
  pton6 := plainPton6
  ntop6 := plainNtop6
  parseInt t := if allDigits t then some (number t) else none
  pton6_ntop6 := plainPton6_plainNtop6 _
  ntop6_plain := plainNtop6_plain _

-- fe80:1111:2222:3333:4444:5555:6666:7777%a/b
def slashedValue : Nat := 0xfe80111122223333_4444555566667777

theorem slashedValue_below : slashedValue < 2^128 := by decide

theorem slashed_zoned (zone : Text) (same : some [0x61,slash,0x62] = some zone) : Zone slashedValue zone := by
  cases same
  refine ⟨by decide,by decide,by decide,?_⟩
  intro c last
  cases last
  decide

def slashedAddress : Ip6Address := ⟨slashedValue,some [0x61,slash,0x62],slashedValue_below,slashed_zoned⟩

-- A tuple of three, an IPv4 address with an IPv6 mask, a NUL and a slash in a zone.
theorem ifAddr_constructors_fail :
    ¬Settles4 plainPlatform (ip4IfAddr plainPlatform (.tuple [.none,.none,.none])) ∧
    ¬Settles6 plainPlatform (ip6IfAddr plainPlatform (.tuple [.ip4Address ⟨0,Nat.two_pow_pos 32⟩,.mask .ip6 fullMask])) ∧
    ¬Settles6 plainPlatform (ip6IfAddr plainPlatform (.str [0])) ∧
    ¬Settles6 plainPlatform (ip6IfAddr plainPlatform (.tuple [.ip6Address slashedAddress,.mask .ip6 fullMask])) := by
  refine ⟨?_,?_,?_,?_⟩
  · intro settled
    exact absurd settled (by simp [Settles4,ip4IfAddr])
  · rw [ip6IfAddr_settles]
    rintro ⟨value,same,outside⟩
    cases same
    exact outside (by decide)
  · rw [ip6IfAddr_settles]
    intro spelled
    have part : partition percent (stripped (partition slash (stripped [0])).1) = ([0],none) := by decide +kernel
    exact absurd ((spelledAddress_bare part).mp spelled) (by decide)
  · rw [ip6IfAddr_settles]
    intro plain
    exact plain _ rfl (by decide)

end PmdPytcp.NetAddr
