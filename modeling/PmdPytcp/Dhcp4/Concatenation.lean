import PmdPytcp.Lib.Split
import PmdPytcp.Dhcp4.Options

namespace PmdPytcp.Dhcp4
open InetCksum Buffer TcpAssembler

def clear (route : ClasslessRoute) : ClasslessRoute := (networkOf route.1.address.toNat route.1.prefixLen,route.2)

def Masked (routes : List ClasslessRoute) : Prop := ∀ route ∈ routes, route.1.prefixLen ≤ 32

theorem significant_le (narrow : p ≤ 32) : significantOctetCount p ≤ 4 ∧ p ≤ 8*significantOctetCount p := by
  unfold significantOctetCount
  omega

theorem padded_value (a n : Nat) (small : a < 2^32) (few : n ≤ 4) :
    beNat ((beBytes 4 a).take n ++ List.replicate (4 - n) 0) = a / 2^(8*(4 - n))*2^(8*(4 - n)) := by
  interval_cases n
  all_goals simp [beBytes,beNat]
  all_goals omega

theorem networkOf_padded (a p : Nat) (small : a < 2^32) (narrow : p ≤ 32) :
    networkOf (beNat ((beBytes 4 a).take (significantOctetCount p) ++ List.replicate (4 - significantOctetCount p) 0)) p =
      networkOf a p := by
  obtain ⟨few,covers⟩ := significant_le narrow
  rw [padded_value a _ small few]
  have split : 2^(32 - p) = 2^(8*(4 - significantOctetCount p))*2^(8*significantOctetCount p - p) := by
    rw [← Nat.pow_add]
    congr 1
    omega
  unfold networkOf
  rw [split,← Nat.div_div_eq_div_mul,Nat.mul_div_cancel _ (Nat.two_pow_pos _),Nat.div_div_eq_div_mul]

theorem encodeRoute_length (narrow : route.1.prefixLen ≤ 32) :
    (encodeRoute route).length = significantOctetCount route.1.prefixLen + 5 := by
  have few := (significant_le narrow).1
  simp only [encodeRoute,List.length_cons,List.length_append,List.length_take,beBytes_length]
  omega

theorem decodeRoutesFrom_route (narrow : route.1.prefixLen ≤ 32) (rest : List UInt8) (fuel : Nat) :
    decodeRoutesFrom (fuel + 1) (encodeRoute route ++ rest) =
      (decodeRoutesFrom fuel rest >>= fun others => .ok (clear route :: others)) := by
  obtain ⟨few,-⟩ := significant_le narrow
  have width : route.1.prefixLen.toUInt8.toNat = route.1.prefixLen := octet_value (by omega)
  have size : ((beBytes 4 route.1.address.toNat).take (significantOctetCount route.1.prefixLen)).length =
      significantOctetCount route.1.prefixLen := by
    rw [List.length_take,beBytes_length]
    omega
  have padded := networkOf_padded route.1.address.toNat route.1.prefixLen route.1.address.isLt narrow
  have router : BitVec.ofNat 32 (beNat (beBytes 4 route.2.toNat)) = route.2 := by
    rw [beNat_beBytes 4 _ (by have := route.2.isLt; omega)]
    simp
  rw [encodeRoute,List.cons_append,decodeRoutesFrom]
  dsimp only
  rw [width]
  generalize (beBytes 4 route.1.address.toNat).take (significantOctetCount route.1.prefixLen) = octets at size padded ⊢
  have four : (beBytes 4 route.2.toNat).length = 4 := beBytes_length _ _
  generalize beBytes 4 route.2.toNat = routerOctets at four router ⊢
  rw [List.append_assoc,if_neg (by omega),if_neg (by simp; omega)]
  have taken : (octets ++ (routerOctets ++ rest)).take (significantOctetCount route.1.prefixLen) = octets :=
    List.take_left' size
  have dropped : (octets ++ (routerOctets ++ rest)).drop (significantOctetCount route.1.prefixLen) = routerOctets ++ rest :=
    List.drop_left' size
  have behind : (octets ++ (routerOctets ++ rest)).drop (significantOctetCount route.1.prefixLen + 4) = rest := by
    rw [← List.drop_drop,dropped]
    exact List.drop_left' four
  rw [taken,dropped,behind,List.take_left' four,padded,router]
  rfl

theorem encodeRoutes_length (masked : Masked routes) : routes.length ≤ (encodeRoutes routes).length := by
  induction routes with
  | nil => exact Nat.zero_le _
  | cons route rest ih =>
    have more := ih (fun r member => masked r (List.mem_cons_of_mem _ member))
    have size := encodeRoute_length (masked route List.mem_cons_self)
    have whole : encodeRoutes (route :: rest) = encodeRoute route ++ encodeRoutes rest := rfl
    rw [whole,List.length_append,List.length_cons]
    omega

theorem decodeRoutesFrom_encoded (masked : Masked routes) (enough : routes.length ≤ fuel) :
    decodeRoutesFrom fuel (encodeRoutes routes) = .ok (routes.map clear) := by
  induction routes generalizing fuel with
  | nil =>
    cases fuel with
    | zero => rfl
    | succ fuel => rfl
  | cons route rest ih =>
    obtain ⟨fuel,rfl⟩ : ∃ k, fuel = k + 1 := ⟨fuel - 1,by simp at enough; omega⟩
    have whole : encodeRoutes (route :: rest) = encodeRoute route ++ encodeRoutes rest := rfl
    rw [whole,decodeRoutesFrom_route (masked route List.mem_cons_self),
      ih (fun r member => masked r (List.mem_cons_of_mem _ member)) (by simpa using enough)]
    rfl

theorem decodeRoutes_encoded (masked : Masked routes) : decodeRoutes (encodeRoutes routes) = .ok (routes.map clear) :=
  decodeRoutesFrom_encoded masked (encodeRoutes_length masked)

theorem decodeRoutesFrom_cut (masked : Masked routes) (cut : data ++ missing = encodeRoutes routes) (some : missing ≠ [])
    (enough : data.length ≤ fuel) (decoded : decodeRoutesFrom fuel data = .ok found) : found.length < routes.length := by
  induction routes generalizing data fuel found with
  | nil =>
    have empty : missing = [] := (List.append_eq_nil_iff.mp cut).2
    exact absurd empty some
  | cons route rest ih =>
    have narrow := masked route List.mem_cons_self
    have size := encodeRoute_length narrow
    have whole : encodeRoutes (route :: rest) = encodeRoute route ++ encodeRoutes rest := rfl
    cases data with
    | nil =>
      have none' : found = [] := by
        cases fuel with
        | zero => cases decoded; rfl
        | succ fuel => cases decoded; rfl
      simp [none']
    | cons width tail =>
      obtain ⟨fuel,rfl⟩ : ∃ k, fuel = k + 1 := ⟨fuel - 1,by simp at enough; omega⟩
      rw [whole] at cut
      obtain ⟨left,front,lost⟩ | ⟨later,split,remaining⟩ := Split.cut_cases cut
      · -- the first descriptor itself is cut
        have first : width = route.1.prefixLen.toUInt8 := by
          have heads := congrArg List.head? front
          simpa [encodeRoute] using heads
        have value : width.toNat = route.1.prefixLen := by
          rw [first]
          exact octet_value (by omega)
        have short := congrArg List.length front
        rw [List.length_append,List.length_cons,size] at short
        have some' := List.length_pos_iff.mpr lost
        rw [decodeRoutesFrom] at decoded
        dsimp only at decoded
        rw [value,if_neg (by omega),if_pos (by omega)] at decoded
        cases decoded
      · have lengths := congrArg List.length split
        rw [split,decodeRoutesFrom_route narrow,bind_ok] at decoded
        obtain ⟨others,deeper,same⟩ := decoded
        cases same
        have fewer := ih (fun r member => masked r (List.mem_cons_of_mem _ member)) remaining
          (by simp only [List.length_cons,List.length_append] at lengths enough; omega) deeper
        simp only [List.length_cons]
        omega

-- What a server puts into a block: pads and options, the route instances with
-- whatever piece of the list they carry.
inductive Piece where
  | pad
  | option (code : UInt8) (data : List UInt8)

def Piece.bytes : Piece → List UInt8
  | .pad => [0]
  | .option code data => code :: data.length.toUInt8 :: data

def Piece.Fits : Piece → Prop
  | .pad => True
  | .option code data => code ≠ 0 ∧ code ≠ 255 ∧ data.length < 256 ∧
      (code ≠ 121 → checkLength code data.length = .ok () ∧ checkData code data = .ok ())

def chunks : List Piece → List (List UInt8)
  | [] => []
  | .option code data :: rest => if code = 121 then data :: chunks rest else chunks rest
  | .pad :: rest => chunks rest

def overloadOf : List Piece → Option Nat
  | [] => none
  | .option code data :: rest => if code = 52 then some (beNat data) else overloadOf rest
  | .pad :: rest => overloadOf rest

-- Pieces up to the end of the field or up to an end mark and anything behind it.
structure Block where
  pieces : List Piece
  tail : List UInt8
  fits : ∀ piece ∈ pieces, piece.Fits
  closes : tail = [] ∨ ∃ junk, tail = 255 :: junk

def Block.bytes (block : Block) : List UInt8 := block.pieces.flatMap Piece.bytes ++ block.tail

theorem pieces_length (pieces : List Piece) : pieces.length ≤ (pieces.flatMap Piece.bytes).length := by
  induction pieces with
  | nil => exact Nat.zero_le _
  | cons piece rest ih =>
    have some' : 1 ≤ piece.bytes.length := by cases piece <;> simp [Piece.bytes]
    rw [List.flatMap_cons,List.length_append,List.length_cons]
    omega

theorem Block.fuel (block : Block) : ∃ k, block.bytes.length = block.pieces.length + k := by
  refine ⟨block.bytes.length - block.pieces.length,?_⟩
  have enough := pieces_length block.pieces
  rw [Block.bytes,List.length_append]
  omega

section walkers
variable {code : UInt8} {data rest tail : List UInt8} {pieces : List Piece}

theorem validateIntegrity_option (fits : (Piece.option code data).Fits) (fuel offset : Nat) (rest : List UInt8) :
    validateIntegrity hlen (fuel + 1) offset ((Piece.option code data).bytes ++ rest) =
      validateIntegrity hlen fuel (offset + 2 + data.length) rest := by
  obtain ⟨pad,mark,short,-⟩ := fits
  have length : data.length.toUInt8.toNat = data.length := octet_value short
  rw [Piece.bytes,List.cons_append,List.cons_append,validateIntegrity,if_neg mark,if_neg pad]
  rw [length,if_neg (by simp),List.drop_left]

theorem validateIntegrity_pieces (fits : ∀ piece ∈ pieces, piece.Fits) (closes : tail = [] ∨ ∃ junk, tail = 255 :: junk)
    (k offset : Nat) :
    validateIntegrity hlen (pieces.length + k) offset (pieces.flatMap Piece.bytes ++ tail) = .ok () := by
  induction pieces generalizing offset with
  | nil =>
    rw [List.length_nil,Nat.zero_add,List.flatMap_nil,List.nil_append]
    cases k with
    | zero => rfl
    | succ k =>
      obtain rfl | ⟨junk,rfl⟩ := closes
      · rfl
      · rfl
  | cons piece rest ih =>
    have later := ih (fun p member => fits p (List.mem_cons_of_mem _ member))
    rw [List.flatMap_cons,List.append_assoc,List.length_cons,Nat.add_right_comm]
    cases piece with
    | pad => exact later (offset + 1)
    | option code data =>
      rw [validateIntegrity_option (fits _ List.mem_cons_self)]
      exact later _

theorem concatenated_pieces (fits : ∀ piece ∈ pieces, piece.Fits) (closes : tail = [] ∨ ∃ junk, tail = 255 :: junk)
    (k : Nat) :
    concatenatedRouteDataFrom (pieces.length + k) (pieces.flatMap Piece.bytes ++ tail) = .ok (chunks pieces).flatten := by
  induction pieces with
  | nil =>
    rw [List.length_nil,Nat.zero_add,List.flatMap_nil,List.nil_append]
    cases k with
    | zero => rfl
    | succ k =>
      obtain rfl | ⟨junk,rfl⟩ := closes
      · rfl
      · rfl
  | cons piece rest ih =>
    have later := ih (fun p member => fits p (List.mem_cons_of_mem _ member))
    rw [List.flatMap_cons,List.append_assoc,List.length_cons,Nat.add_right_comm]
    cases piece with
    | pad => exact later
    | option code data =>
      obtain ⟨pad,mark,short,-⟩ := fits _ List.mem_cons_self
      have length : data.length.toUInt8.toNat = data.length := octet_value short
      rw [Piece.bytes,List.cons_append,List.cons_append,concatenatedRouteDataFrom,if_neg mark,if_neg pad]
      rw [length,List.drop_left,List.take_left,later,ok_bind,chunks]
      split
      · rfl
      · rfl

theorem optionFrom_piece (fits : (Piece.option code data).Fits) (other : code ≠ 121) (rest : List UInt8) :
    optionFrom code data.length (data ++ rest) = .ok (optionOf code data) := by
  obtain ⟨-,-,-,checks⟩ := fits
  obtain ⟨length,content⟩ := checks other
  rw [optionFrom,length,ok_bind,raiseIf_neg (by simp),ok_bind,List.take_left,content]
  rfl

theorem optionsFrom_other (fits : (Piece.option code data).Fits) (other : code ≠ 121) (joined : List UInt8) (fuel : Nat)
    (emitted : Bool) (rest : List UInt8) :
    optionsFrom joined (fuel + 1) emitted ((Piece.option code data).bytes ++ rest) =
      (optionsFrom joined fuel emitted rest >>= fun others => .ok (optionOf code data :: others)) := by
  have length : data.length.toUInt8.toNat = data.length := octet_value fits.2.2.1
  rw [Piece.bytes,List.cons_append,List.cons_append,optionsFrom,if_neg fits.2.1,if_neg fits.1]
  rw [if_neg other,length,optionFrom_piece fits other,List.drop_left]
  rfl

theorem optionsFrom_route (fits : (Piece.option 121 data).Fits) (joined : List UInt8) (fuel : Nat) (emitted : Bool)
    (rest : List UInt8) :
    optionsFrom joined (fuel + 1) emitted ((Piece.option 121 data).bytes ++ rest) =
      if emitted then optionsFrom joined fuel true rest
      else routeOption joined >>= fun option => optionsFrom joined fuel true rest >>= fun others => .ok (option :: others) := by
  have length : data.length.toUInt8.toNat = data.length := octet_value fits.2.2.1
  rw [Piece.bytes,List.cons_append,List.cons_append,optionsFrom,if_neg fits.2.1,if_neg fits.1]
  rw [if_pos rfl,length,List.drop_left]
  rfl

-- The routes a walk hands on: those of the joined data at the first instance.
def handed (routes : List ClasslessRoute) (emitted : Bool) (pieces : List Piece) : Option (List ClasslessRoute) :=
  if emitted = true ∨ chunks pieces = [] then none else some routes

theorem classless_optionOf (code : UInt8) (data : List UInt8) (others : List Dhcp4Option) :
    classlessStaticRoute (optionOf code data :: others) = classlessStaticRoute others := by
  unfold optionOf
  split <;> rfl

theorem overload_optionOf (code : UInt8) (data : List UInt8) (others : List Dhcp4Option) :
    optionOverload (optionOf code data :: others) = if code = 52 then some (beNat data) else optionOverload others := by
  unfold optionOf
  split <;> rfl

theorem optionsFrom_pieces (fits : ∀ piece ∈ pieces, piece.Fits) (closes : tail = [] ∨ ∃ junk, tail = 255 :: junk)
    (k : Nat) (emitted : Bool) (joined : List UInt8) (routes : List ClasslessRoute)
    (decoded : emitted = true ∨ chunks pieces = [] ∨ routeOption joined = .ok (.classlessStaticRoute routes)) :
    ∃ options, optionsFrom joined (pieces.length + k) emitted (pieces.flatMap Piece.bytes ++ tail) = .ok options ∧
      classlessStaticRoute options = handed routes emitted pieces ∧ optionOverload options = overloadOf pieces := by
  induction pieces generalizing emitted with
  | nil =>
    rw [List.length_nil,Nat.zero_add,List.flatMap_nil,List.nil_append]
    have nothing : handed routes emitted [] = none := if_pos (.inr rfl)
    rw [nothing]
    cases k with
    | zero => exact ⟨[],rfl,rfl,rfl⟩
    | succ k =>
      obtain rfl | ⟨junk,rfl⟩ := closes
      · exact ⟨[],rfl,rfl,rfl⟩
      · exact ⟨[.endMark],rfl,rfl,rfl⟩
  | cons piece rest ih =>
    have fits' : ∀ p ∈ rest, p.Fits := fun p member => fits p (List.mem_cons_of_mem _ member)
    rw [List.flatMap_cons,List.append_assoc,List.length_cons,Nat.add_right_comm]
    cases piece with
    | pad =>
      obtain ⟨options,read,route,overload⟩ := ih fits' emitted decoded
      refine ⟨.pad :: options,?_,route,overload⟩
      change (optionsFrom joined (rest.length + k) emitted (rest.flatMap Piece.bytes ++ tail) >>= fun others =>
        .ok (.pad :: others)) = _
      rw [read]
      rfl
    | option code data =>
      have own := fits _ List.mem_cons_self
      by_cases instance' : code = 121
      · subst instance'
        have some' : chunks (.option 121 data :: rest) ≠ [] := by simp [chunks]
        rw [optionsFrom_route own]
        obtain ⟨options,read,route,overload⟩ := ih fits' true (.inl rfl)
        have silent : handed routes true rest = none := if_pos (.inl rfl)
        cases emitted with
        | true =>
          refine ⟨options,by rw [if_pos rfl,read],?_,overload⟩
          rw [route,silent]
          exact (if_pos (.inl rfl)).symm
        | false =>
          have made := (decoded.resolve_left (by decide)).resolve_left some'
          refine ⟨.classlessStaticRoute routes :: options,?_,?_,overload⟩
          · rw [if_neg (by decide),made,ok_bind,read]
            rfl
          · exact (if_neg (by simp [some'])).symm
      · have same : chunks (.option code data :: rest) = chunks rest := by rw [chunks,if_neg instance']
        rw [same] at decoded
        obtain ⟨options,read,route,overload⟩ := ih fits' emitted decoded
        refine ⟨optionOf code data :: options,?_,?_,?_⟩
        · rw [optionsFrom_other own instance',read]
          rfl
        · rw [classless_optionOf,route,handed,handed,same]
        · rw [overload_optionOf,overload]
          rfl

theorem optionsFrom_refused (fits : ∀ piece ∈ pieces, piece.Fits) (k : Nat) (joined : List UInt8)
    (refused : routeOption joined = .error e) (present : chunks pieces ≠ []) :
    optionsFrom joined (pieces.length + k) false (pieces.flatMap Piece.bytes ++ tail) = .error e := by
  induction pieces with
  | nil => exact absurd rfl present
  | cons piece rest ih =>
    have fits' : ∀ p ∈ rest, p.Fits := fun p member => fits p (List.mem_cons_of_mem _ member)
    rw [List.flatMap_cons,List.append_assoc,List.length_cons,Nat.add_right_comm]
    cases piece with
    | pad =>
      have later := ih fits' present
      change (optionsFrom joined (rest.length + k) false (rest.flatMap Piece.bytes ++ tail) >>= fun others =>
        .ok (.pad :: others)) = _
      rw [later]
      rfl
    | option code data =>
      have own := fits _ List.mem_cons_self
      by_cases instance' : code = 121
      · subst instance'
        rw [optionsFrom_route own,if_neg (by decide),refused]
        rfl
      · rw [chunks,if_neg instance'] at present
        rw [optionsFrom_other own instance',ih fits' present]
        rfl

end walkers

def Block.carries (block : Block) : Bool := !(chunks block.pieces).isEmpty

def Block.joined (block : Block) : List UInt8 := (chunks block.pieces).flatten

-- Nothing without an instance, else the routes of its own instances.
def Block.routes (block : Block) : Py (Option (List ClasslessRoute)) :=
  if block.carries then do
    let routes ← decodeRoutes block.joined
    if routes = [] then
      .error (integrity
        "The DHCPv4 Classless Static Route option must carry at least one route (RFC 3442 minimum length 5 octets).")
    else .ok (some routes)
  else .ok none

theorem Block.carries_iff (block : Block) : block.carries = true ↔ chunks block.pieces ≠ [] := by
  simp [Block.carries]

theorem Block.joined_silent {block : Block} (silent : block.carries = false) : block.joined = [] := by
  have none' : chunks block.pieces = [] := by simpa [Block.carries] using silent
  rw [Block.joined,none']
  rfl

theorem validateIntegrity_block (block : Block) (hlen offset : Nat) (enough : block.bytes.length ≤ fuel) :
    validateIntegrity hlen fuel offset block.bytes = .ok () := by
  obtain ⟨k,size⟩ := block.fuel
  obtain ⟨more,rfl⟩ := Nat.exists_eq_add_of_le enough
  rw [size,Nat.add_assoc]
  exact validateIntegrity_pieces block.fits block.closes _ offset

theorem fromBuffer_joined (block : Block) :
    fromBuffer block.bytes = optionsFrom block.joined block.bytes.length false block.bytes := by
  obtain ⟨k,size⟩ := block.fuel
  have joined : concatenatedRouteData block.bytes = .ok block.joined := by
    rw [concatenatedRouteData,size]
    exact concatenated_pieces block.fits block.closes k
  rw [fromBuffer,joined,ok_bind]

theorem fromBuffer_ok {block : Block} (yields : block.routes = .ok found) :
    ∃ options, fromBuffer block.bytes = .ok options ∧ classlessStaticRoute options = found ∧
      optionOverload options = overloadOf block.pieces := by
  obtain ⟨k,size⟩ := block.fuel
  rw [fromBuffer_joined,size]
  unfold Block.routes at yields
  split at yields
  · rename_i carries
    have present := block.carries_iff.mp carries
    rw [bind_ok] at yields
    obtain ⟨routes,decoded,kept⟩ := yields
    split at kept
    · cases kept
    · rename_i nonempty
      cases kept
      have made : routeOption block.joined = .ok (.classlessStaticRoute routes) := by
        rw [routeOption,decoded,ok_bind,if_neg nonempty]
      obtain ⟨options,read,route,overload⟩ := optionsFrom_pieces block.fits block.closes k false block.joined routes
        (.inr (.inr made))
      refine ⟨options,read,?_,overload⟩
      rw [route]
      exact if_neg (by simp [present])
  · rename_i silent
    cases yields
    have none' : chunks block.pieces = [] := by simpa [Block.carries] using silent
    obtain ⟨options,read,route,overload⟩ := optionsFrom_pieces block.fits block.closes k false block.joined []
      (.inr (.inl none'))
    refine ⟨options,read,?_,overload⟩
    rw [route]
    exact if_pos (.inr none')

theorem fromBuffer_error {block : Block} (fails : block.routes = .error e) : fromBuffer block.bytes = .error e := by
  obtain ⟨k,size⟩ := block.fuel
  rw [fromBuffer_joined,size]
  unfold Block.routes at fails
  split at fails
  · rename_i carries
    refine optionsFrom_refused block.fits k block.joined ?_ (block.carries_iff.mp carries)
    unfold routeOption
    cases decoded : decodeRoutes block.joined with
    | error e' =>
      rw [decoded,error_bind] at fails
      cases fails
      rfl
    | ok routes =>
      rw [decoded,ok_bind] at fails
      rw [ok_bind]
      split at fails
      · rename_i empty
        rw [if_pos empty]
        cases fails
        rfl
      · cases fails
  · cases fails

structure Areas where
  main : Block
  file : Option Block
  sname : Option Block

def Areas.blocks (areas : Areas) : List Block := areas.main :: (areas.file.toList ++ areas.sname.toList)

-- A packet that carries them: the fields are areas just when the main block's option 52 says so.
structure Carried (frame : List UInt8) (areas : Areas) : Prop where
  header : headerLen ≤ frame.length
  main : frame.drop headerLen = areas.main.bytes
  fileSaid : areas.file.isSome = ((overloadOf areas.main.pieces).map includesFile).getD false
  snameSaid : areas.sname.isSome = ((overloadOf areas.main.pieces).map includesSname).getD false
  file : ∀ block ∈ areas.file, slice frame fileOffset cookieOffset = block.bytes
  sname : ∀ block ∈ areas.sname, slice frame snameOffset fileOffset = block.bytes

def gathered : List Block → Py (Option (List ClasslessRoute))
  | [] => .ok none
  | block :: rest => do
    let own ← block.routes
    let others ← gathered rest
    return own.or others

theorem classless_append (front back : List Dhcp4Option) :
    classlessStaticRoute (front ++ back) = (classlessStaticRoute front).or (classlessStaticRoute back) := by
  induction front with
  | nil => rfl
  | cons option rest ih =>
    cases option with
    | classlessStaticRoute routes => rfl
    | endMark => exact ih
    | pad => exact ih
    | overload value => exact ih
    | other code data => exact ih

theorem overloadedField_area (area : Option Block) (said : area.isSome = included)
    (holds : ∀ block ∈ area, field = block.bytes) :
    (overloadedField included field).map classlessStaticRoute = gathered area.toList := by
  cases area with
  | none =>
    subst said
    rfl
  | some block =>
    subst said
    rw [holds block rfl]
    have checked := validateIntegrity_block block block.bytes.length 0 (Nat.le_refl _)
    simp only [overloadedField,Option.isSome_some,if_true,checked,ok_bind,Option.toList_some,gathered]
    cases yields : block.routes with
    | error e =>
      rw [fromBuffer_error yields]
      rfl
    | ok found =>
      obtain ⟨options,read,route,-⟩ := fromBuffer_ok yields
      rw [read]
      change Except.ok (classlessStaticRoute options) = Except.ok (found.or none)
      rw [route,Option.or_none]

theorem gathered_append (front back : List Block) :
    gathered (front ++ back) = (gathered front >>= fun own => gathered back >>= fun others => .ok (own.or others)) := by
  induction front with
  | nil =>
    cases later : gathered back <;> simp [gathered,later]
  | cons block rest ih =>
    rw [List.cons_append,gathered,gathered,ih]
    cases block.routes with
    | error e => rfl
    | ok own =>
      cases gathered rest with
      | error e => rfl
      | ok mid =>
        cases gathered back with
        | error e => rfl
        | ok others => exact congrArg Except.ok (Option.or_assoc).symm

theorem map_ok {x : Py α} {f : α → β} (mapped : x.map f = .ok b) : ∃ a, x = .ok a ∧ f a = b := by
  cases x with
  | error e => cases mapped
  | ok a => exact ⟨a,rfl,Except.ok.inj mapped⟩

theorem map_error {x : Py α} {f : α → β} (mapped : x.map f = .error e) : x = .error e := by
  cases x with
  | error e' => cases mapped; rfl
  | ok a => cases mapped

theorem parse_areas (carried : Carried frame areas) :
    (parseOptions frame).map classlessStaticRoute = gathered areas.blocks := by
  have size : areas.main.bytes.length ≤ frame.length := by
    rw [← carried.main,List.length_drop]
    omega
  have header : ¬frame.length < headerLen := Nat.not_lt.mpr carried.header
  unfold parseOptions
  rw [raiseIf_neg header,ok_bind,carried.main,validateIntegrity_block areas.main _ _ size,ok_bind,Areas.blocks,gathered]
  cases yields : areas.main.routes with
  | error e =>
    rw [fromBuffer_error yields]
    rfl
  | ok own =>
    obtain ⟨options,read,route,overload⟩ := fromBuffer_ok yields
    rw [read,ok_bind,ok_bind,overload]
    have fileSaid := carried.fileSaid
    have snameSaid := carried.snameSaid
    cases announced : overloadOf areas.main.pieces with
    | none =>
      rw [announced] at fileSaid snameSaid
      have noFile : areas.file = none := Option.isSome_eq_false_iff.mp fileSaid |> Option.isNone_iff_eq_none.mp
      have noSname : areas.sname = none := Option.isSome_eq_false_iff.mp snameSaid |> Option.isNone_iff_eq_none.mp
      rw [noFile,noSname]
      change Except.ok (classlessStaticRoute options) = Except.ok (own.or none)
      rw [route,Option.or_none]
    | some value =>
      rw [announced,Option.map_some,Option.getD_some] at fileSaid snameSaid
      have fileArea := overloadedField_area areas.file fileSaid carried.file
      have snameArea := overloadedField_area areas.sname snameSaid carried.sname
      rw [gathered_append]
      dsimp only
      cases fromFile : gathered areas.file.toList with
      | error e =>
        rw [fromFile] at fileArea
        rw [map_error fileArea]
        rfl
      | ok fileRoutes =>
        rw [fromFile] at fileArea
        obtain ⟨fileOptions,fileRead,rfl⟩ := map_ok fileArea
        rw [fileRead,ok_bind,ok_bind]
        cases fromSname : gathered areas.sname.toList with
        | error e =>
          rw [fromSname] at snameArea
          rw [map_error snameArea]
          rfl
        | ok snameRoutes =>
          rw [fromSname] at snameArea
          obtain ⟨snameOptions,snameRead,rfl⟩ := map_ok snameArea
          rw [snameRead]
          change Except.ok (classlessStaticRoute (options ++ fileOptions ++ snameOptions)) = Except.ok (own.or _)
          rw [classless_append,classless_append,route,Option.or_assoc]

def Together (blocks : List Block) : Prop := blocks.countP Block.carries ≤ 1

theorem routes_silent {block : Block} (silent : block.carries = false) : block.routes = .ok none := by
  rw [Block.routes,silent]
  rfl

theorem gathered_silent {blocks : List Block} (silent : ∀ block ∈ blocks, block.carries = false) :
    gathered blocks = .ok none := by
  induction blocks with
  | nil => rfl
  | cons block rest ih =>
    rw [gathered,routes_silent (silent block List.mem_cons_self),ih (fun b member => silent b (List.mem_cons_of_mem _ member))]
    rfl

theorem joined_silent_all {blocks : List Block} (silent : ∀ block ∈ blocks, block.carries = false) :
    blocks.flatMap Block.joined = [] := by
  rw [List.flatMap_eq_nil_iff]
  exact fun block member => Block.joined_silent (silent block member)

theorem routes_empty {block : Block} (carries : block.carries = true) (empty : block.joined = []) :
    ∃ e, block.routes = .error e := by
  rw [Block.routes,if_pos carries,empty]
  exact ⟨_,rfl⟩

theorem gathered_fails {blocks : List Block} (member : block ∈ blocks) (fails : block.routes = .error e) :
    ∃ e', gathered blocks = .error e' := by
  induction blocks with
  | nil => cases member
  | cons first rest ih =>
    rw [gathered]
    cases own : first.routes with
    | error e' => exact ⟨e',rfl⟩
    | ok found =>
      obtain rfl | later := List.mem_cons.mp member
      · rw [fails] at own
        cases own
      · obtain ⟨e',rest⟩ := ih later
        rw [rest]
        exact ⟨e',rfl⟩

theorem routes_whole (masked : Masked routes) {block : Block} (carries : block.carries = true)
    (whole : block.joined = encodeRoutes routes) (some' : routes ≠ []) : block.routes = .ok (some (routes.map clear)) := by
  rw [Block.routes,if_pos carries,whole,decodeRoutes_encoded masked,ok_bind,if_neg (by simpa using some')]

theorem gathered_iff (masked : Masked routes) {blocks : List Block}
    (cut : blocks.flatMap Block.joined = encodeRoutes routes) :
    (gathered blocks).map (fun found => found.getD []) = .ok (routes.map clear) ↔
      Together blocks ∧ (routes = [] → ∀ block ∈ blocks, block.carries = false) := by
  induction blocks with
  | nil =>
    have none' : routes = [] := by
      have sizes := encodeRoutes_length masked
      rw [← cut,List.flatMap_nil] at sizes
      exact List.length_eq_zero_iff.mp (by simpa using sizes)
    subst none'
    simp [gathered,Together,Except.map]
  | cons block rest ih =>
    rw [List.flatMap_cons] at cut
    cases carries : block.carries with
    | false =>
      have same : gathered (block :: rest) = gathered rest := by
        rw [gathered,routes_silent carries,ok_bind]
        cases gathered rest <;> rfl
      rw [Block.joined_silent carries,List.nil_append] at cut
      rw [same,ih cut]
      simp [Together,carries]
    | true =>
      by_cases alone : ∀ other ∈ rest, other.carries = false
      · have none' := joined_silent_all alone
        have count : rest.countP Block.carries = 0 := by
          rw [List.countP_eq_zero]
          intro other member
          simp [alone other member]
        have together : Together (block :: rest) := by simp [Together,carries,count]
        rw [none',List.append_nil] at cut
        by_cases empty : routes = []
        · -- the only instances carry nothing, and the block is refused
          subst empty
          obtain ⟨e,fails⟩ := routes_empty carries cut
          rw [gathered,fails,error_bind]
          simp [Except.map,carries]
        · rw [gathered,routes_whole masked carries cut empty,gathered_silent alone]
          simp [Except.map,together,empty]
      · have several : ¬Together (block :: rest) := by
          obtain ⟨other,member,more⟩ : ∃ other ∈ rest, other.carries = true := by simpa using alone
          have count : 0 < rest.countP Block.carries := List.countP_pos_iff.mpr ⟨other,member,more⟩
          simp only [Together,List.countP_cons,carries,if_true]
          omega
        refine iff_of_false ?_ (fun holds => several holds.1)
        intro yields
        obtain ⟨found,gets,same⟩ := map_ok yields
        rw [gathered,bind_ok] at gets
        obtain ⟨own,ownRoutes,gets⟩ := gets
        rw [bind_ok] at gets
        obtain ⟨others,otherRoutes,whole⟩ := gets
        cases whole
        by_cases missing : rest.flatMap Block.joined = []
        · -- a later instance is empty, so its block is refused
          obtain ⟨other,member,more⟩ : ∃ other ∈ rest, other.carries = true := by simpa using alone
          obtain ⟨e,fails⟩ := routes_empty more (List.flatMap_eq_nil_iff.mp missing other member)
          obtain ⟨e',refused⟩ := gathered_fails member fails
          rw [refused] at otherRoutes
          cases otherRoutes
        · rw [Block.routes,if_pos carries,bind_ok] at ownRoutes
          obtain ⟨decoded,reads,kept⟩ := ownRoutes
          have fewer := decodeRoutesFrom_cut masked cut missing (Nat.le_refl _) reads
          split at kept
          · cases kept
          · cases kept
            have lengths := congrArg List.length same
            simp at lengths
            omega

-- The instances are joined within a block only.
theorem routes_concatenated_iff (masked : Masked routes) (carried : Carried frame areas)
    (cut : areas.blocks.flatMap Block.joined = encodeRoutes routes) :
    ((parseOptions frame).map routesOf = .ok (routes.map clear) ↔
      Together areas.blocks ∧ (routes = [] → ∀ block ∈ areas.blocks, block.carries = false)) ∧
    decodeRoutes (encodeRoutes routes) = .ok (routes.map clear) := by
  refine ⟨?_,decodeRoutes_encoded masked⟩
  rw [← gathered_iff masked cut,← parse_areas carried]
  cases parseOptions frame with
  | error e => rfl
  | ok options => rfl

def bootReply (sname file : List UInt8) (main : Block) : List UInt8 :=
  [2,1,6,0] ++ List.replicate 40 0 ++ (sname ++ (file ++ ([0x63,0x82,0x53,0x63] ++ main.bytes)))

section reply
variable {sname file : List UInt8}

theorem bootReply_length (main : Block) (wide : sname.length = 64) (long : file.length = 128) :
    headerLen ≤ (bootReply sname file main).length := by
  simp [bootReply,headerLen,wide,long]
  omega

theorem bootReply_fixed : ([2,1,6,0] ++ List.replicate 40 0 : List UInt8).length = 44 := by
  simp

theorem bootReply_main (main : Block) (wide : sname.length = 64) (long : file.length = 128) :
    (bootReply sname file main).drop headerLen = main.bytes := by
  have offset : headerLen = 44 + (64 + (128 + 4)) := rfl
  rw [bootReply,offset,← List.drop_drop,List.drop_left' bootReply_fixed,← List.drop_drop,List.drop_left' wide,
    ← List.drop_drop,List.drop_left' long]
  rfl

theorem bootReply_file (main : Block) (wide : sname.length = 64) (long : file.length = 128) :
    slice (bootReply sname file main) fileOffset cookieOffset = file := by
  have start : fileOffset = 44 + 64 := rfl
  have width : cookieOffset - (44 + 64) = 128 := rfl
  rw [slice,start,List.drop_take,width,bootReply,← List.drop_drop,List.drop_left' bootReply_fixed,List.drop_left' wide,
    List.take_left' long]

end reply

theorem instance_fits (short : data.length < 256) : (Piece.option 121 data).Fits :=
  ⟨by decide,by decide,short,fun other => absurd rfl other⟩

def twoRoutes : List ClasslessRoute :=
  [(⟨0x0a000000#32,8⟩,0xc0a80101#32),(⟨0x00000000#32,0⟩,0xc0a801fe#32)]

theorem twoRoutes_masked : Masked twoRoutes := by
  intro route member
  simp only [twoRoutes,List.mem_cons,List.not_mem_nil,or_false] at member
  obtain rfl | rfl := member
  · decide
  · decide

-- The list cut inside a descriptor, with the server identifier in between.
def splitPieces : List Piece :=
  [.option 53 [5],.option 121 [8,10,192],.option 54 [192,168,1,1],.option 121 [168,1,1,0,192,168,1,254]]

theorem splitPieces_fit : ∀ piece ∈ splitPieces, piece.Fits := by
  intro piece member
  simp only [splitPieces,List.mem_cons,List.not_mem_nil,or_false] at member
  obtain rfl | rfl | rfl | rfl := member
  · exact ⟨by decide,by decide,by decide,fun _ => ⟨rfl,rfl⟩⟩
  · exact instance_fits (by decide)
  · exact ⟨by decide,by decide,by decide,fun _ => ⟨rfl,rfl⟩⟩
  · exact instance_fits (by decide)

theorem endMark_closes (junk : List UInt8) : 255 :: junk = [] ∨ ∃ more, 255 :: junk = 255 :: more := .inr ⟨junk,rfl⟩

def splitMain : Block := ⟨splitPieces,[255],splitPieces_fit,endMark_closes []⟩

def splitReply : List UInt8 := bootReply (List.replicate 64 0) (List.replicate 128 0) splitMain

theorem splitReply_carried : Carried splitReply ⟨splitMain,none,none⟩ := by
  have wide : (List.replicate 64 (0 : UInt8)).length = 64 := List.length_replicate
  have long : (List.replicate 128 (0 : UInt8)).length = 128 := List.length_replicate
  refine ⟨bootReply_length _ wide long,bootReply_main _ wide long,rfl,rfl,?_,?_⟩
  · intro block none'
    cases none'
  · intro block none'
    cases none'

theorem routes_concatenated_split : (parseOptions splitReply).map routesOf = .ok (twoRoutes.map clear) := by
  refine (routes_concatenated_iff twoRoutes_masked splitReply_carried rfl).1.mpr ⟨?_,?_⟩
  · exact Nat.le_refl 1
  · intro empty
    cases empty

-- The same list cut between the main area and the file field.
def overloadedPieces : List Piece :=
  [.option 53 [5],.option 54 [192,168,1,1],.option 52 [1],.option 121 [8,10,192,168,1,1]]

theorem overloadedPieces_fit : ∀ piece ∈ overloadedPieces, piece.Fits := by
  intro piece member
  simp only [overloadedPieces,List.mem_cons,List.not_mem_nil,or_false] at member
  obtain rfl | rfl | rfl | rfl := member
  · exact ⟨by decide,by decide,by decide,fun _ => ⟨rfl,rfl⟩⟩
  · exact ⟨by decide,by decide,by decide,fun _ => ⟨rfl,rfl⟩⟩
  · exact ⟨by decide,by decide,by decide,fun _ => ⟨rfl,rfl⟩⟩
  · exact instance_fits (by decide)

theorem filePieces_fit : ∀ piece ∈ [Piece.option 121 [0,192,168,1,254]], piece.Fits := by
  intro piece member
  cases List.mem_singleton.mp member
  exact instance_fits (by decide)

def overloadedMain : Block := ⟨overloadedPieces,[255],overloadedPieces_fit,endMark_closes []⟩

def overloadedFile : Block :=
  ⟨[.option 121 [0,192,168,1,254]],255 :: List.replicate 120 0,filePieces_fit,endMark_closes (List.replicate 120 0)⟩

def overloadedReply : List UInt8 := bootReply (List.replicate 64 0) overloadedFile.bytes overloadedMain

theorem overloadedReply_carried : Carried overloadedReply ⟨overloadedMain,some overloadedFile,none⟩ := by
  have wide : (List.replicate 64 (0 : UInt8)).length = 64 := List.length_replicate
  have long : overloadedFile.bytes.length = 128 := by
    simp [overloadedFile,Block.bytes,Piece.bytes]
  refine ⟨bootReply_length _ wide long,bootReply_main _ wide long,rfl,rfl,?_,?_⟩
  · intro block same
    cases same
    exact bootReply_file _ wide long
  · intro block none'
    cases none'

theorem overloadedReply_routes :
    (parseOptions overloadedReply).map classlessStaticRoute = .ok (some [(⟨0x0a000000#32,8⟩,0xc0a80101#32)]) :=
  parse_areas overloadedReply_carried

theorem routes_lost_across_areas :
    Masked twoRoutes ∧ Carried overloadedReply ⟨overloadedMain,some overloadedFile,none⟩ ∧
      [overloadedMain,overloadedFile].flatMap Block.joined = encodeRoutes twoRoutes ∧
      (parseOptions overloadedReply).map routesOf ≠ .ok (twoRoutes.map clear) := by
  refine ⟨twoRoutes_masked,overloadedReply_carried,rfl,?_⟩
  obtain ⟨options,read,first⟩ := map_ok overloadedReply_routes
  rw [read]
  change Except.ok ((classlessStaticRoute options).getD []) ≠ _
  rw [first]
  intro same
  have lengths := congrArg List.length (Except.ok.inj same)
  exact absurd lengths (by decide)

end PmdPytcp.Dhcp4
