import PmdPytcp.TcpAssembler
import PmdPytcp.Dhcp4.Lease

namespace PmdPytcp.Dhcp4
open InetCksum Buffer TcpAssembler

abbrev ClasslessRoute := Ip4Network × Ip4Address

def significantOctetCount (prefixLen : Nat) : Nat := (prefixLen + 7) / 8

-- `Ip4Network((address, mask))`: the bits outside the mask are cleared.
def networkOf (address prefixLen : Nat) : Ip4Network :=
  ⟨BitVec.ofNat 32 (address / 2^(32 - prefixLen)*2^(32 - prefixLen)),prefixLen⟩

def encodeRoute (route : ClasslessRoute) : List UInt8 :=
  route.1.prefixLen.toUInt8 :: ((beBytes 4 route.1.address.toNat).take (significantOctetCount route.1.prefixLen) ++
    beBytes 4 route.2.toNat)

def encodeRoutes (routes : List ClasslessRoute) : List UInt8 := routes.flatMap encodeRoute

def integrity (message : String) : PyError :=
  .packetIntegrity ("[INTEGRITY ERROR]" ++ ("[DHCPv4] " ++ message)) none

-- The loop over the descriptors; each turn takes at least one octet.
def decodeRoutesFrom : Nat → List UInt8 → Py (List ClasslessRoute)
  | 0,_ => .ok []
  | _+1,[] => .ok []
  | fuel+1,width :: rest =>
    let prefixLen := width.toNat
    let nSig := significantOctetCount prefixLen
    if 32 < prefixLen then
      .error (integrity ("The Classless Static Route subnet-mask width must be 0-32 (RFC 3442). Got: " ++ toString prefixLen))
    else if rest.length < nSig + 4 then
      .error (integrity ("The Classless Static Route descriptor truncates the option data. Got: prefixlen=" ++
        toString prefixLen ++ ", n_sig=" ++ toString nSig ++ ", remaining=" ++ toString rest.length))
    else do
      let address := beNat (rest.take nSig ++ List.replicate (4 - nSig) 0)
      let router := BitVec.ofNat 32 (beNat ((rest.drop nSig).take 4))
      let others ← decodeRoutesFrom fuel (rest.drop (nSig + 4))
      return (networkOf address prefixLen,router) :: others

def decodeRoutes (data : List UInt8) : Py (List ClasslessRoute) := decodeRoutesFrom data.length data

-- The options the parser itself looks at, and the rest with their data.
inductive Dhcp4Option where
  | endMark
  | pad
  | classlessStaticRoute (routes : List ClasslessRoute)
  | overload (value : Nat)
  | other (code : UInt8) (data : List UInt8)
deriving DecidableEq

-- The option classes' names; the class of every other code is the unknown one.
def optionName (code : UInt8) : Option String :=
  match code.toNat with
  | 1 => "Subnet Mask"
  | 3 => "Router"
  | 12 => "Host Name"
  | 50 => "Requested IP Address"
  | 51 => "IP Address Lease Time"
  | 52 => "Option Overload"
  | 53 => "Message Type"
  | 54 => "Server Identifier"
  | 55 => "Parameter Request List"
  | 57 => "Maximum DHCP Message Size"
  | 58 => "Renewal Time"
  | 59 => "Rebinding Time"
  | 61 => "Client Identifier"
  | _ => none

def optionTitle (code : UInt8) : String :=
  match optionName code with
  | some name => "The DHCPv4 " ++ name ++ " option"
  | none => "The unknown DHCPv4 option"

def exactLength (code : UInt8) (total len : Nat) : Py Unit :=
  raiseIf (2 + len ≠ total) (integrity (optionTitle code ++ " length value must be " ++ toString total ++
    " bytes. Got: " ++ toString (2 + len)))

def leastLength (code : UInt8) (least : String) (bound len : Nat) : Py Unit :=
  raiseIf (len < bound) (integrity (optionTitle code ++ " minimum length is " ++ least ++ ". Got: " ++ toString len))

-- The length checks of the option classes. The router option checks its data
-- first.
def checkLength (code : UInt8) (len : Nat) : Py Unit :=
  match code.toNat with
  | 1 | 50 | 51 | 54 | 58 | 59 => exactLength code 6 len
  | 12 => leastLength code "1 octet (RFC 2132 §3.14)" 1 len
  | 52 | 53 => exactLength code 3 len
  | 55 => leastLength code "1 octet (RFC 2132 §9.8)" 1 len
  | 57 => exactLength code 4 len
  | 61 => leastLength code "2 (RFC 2132 §9.14)" 2 len
  | _ => .ok ()

def hexPadded (width n : Nat) : String :=
  let digits := Nat.toDigits 16 n
  String.ofList (List.replicate (width - digits.length) '0' ++ digits)

-- `bytes.decode("utf-8")` names the octets it stopped at and why.
def utf8Width (lead : Nat) : Option Nat :=
  if lead < 0x80 then some 1
  else if lead < 0xC2 then none
  else if lead < 0xE0 then some 2
  else if lead < 0xF0 then some 3
  else if lead < 0xF5 then some 4
  else none

def continues (lead index byte : Nat) : Bool :=
  decide (0x80 ≤ byte ∧ byte < 0xC0 ∧ (index = 1 → (lead = 0xE0 → 0xA0 ≤ byte) ∧ (lead = 0xED → byte < 0xA0) ∧
    (lead = 0xF0 → 0x90 ≤ byte) ∧ (lead = 0xF4 → byte < 0x90)))

def sequenceError (lead : Nat) : Nat → Nat → List UInt8 → Option (Nat × String)
  | _,0,_ => none
  | index,_+1,[] => some (index,"unexpected end of data")
  | index,left+1,byte :: rest =>
    if continues lead index byte.toNat then sequenceError lead (index + 1) left rest
    else some (index,"invalid continuation byte")

def unicodeDecodeError (lead start count : Nat) (reason : String) : String :=
  if count = 1 then
    "'utf-8' codec can't decode byte 0x" ++ hexPadded 2 lead ++ " in position " ++ toString start ++ ": " ++ reason
  else
    "'utf-8' codec can't decode bytes in position " ++ toString start ++ "-" ++ toString (start + count - 1) ++ ": " ++
      reason

def decodeErrorFrom : Nat → Nat → List UInt8 → Option String
  | 0,_,_ => none
  | _+1,_,[] => none
  | fuel+1,start,lead :: rest =>
    match utf8Width lead.toNat with
    | none => some (unicodeDecodeError lead.toNat start 1 "invalid start byte")
    | some width =>
      match sequenceError lead.toNat 1 (width - 1) rest with
      | some (count,reason) => some (unicodeDecodeError lead.toNat start count reason)
      | none => decodeErrorFrom fuel (start + width) (rest.drop (width - 1))

def decodeError (data : List UInt8) : Option String := decodeErrorFrom data.length 0 data

def checkData (code : UInt8) (data : List UInt8) : Py Unit :=
  match code.toNat with
  | 1 =>
    let candidate := beNat data
    let inverted := 0xFFFFFFFF - candidate
    raiseIf (inverted &&& (inverted + 1) ≠ 0) (integrity
      ("The DHCPv4 Subnet Mask must consist of contiguous high-order ones (RFC 950 §2.1). Got: 0x" ++
        hexPadded 8 candidate))
  | 3 => do
    leastLength code "4 octets (RFC 2132 §3.5)" 4 data.length
    raiseIf (data.length % 4 ≠ 0) (integrity
      ("The DHCPv4 Router option length value (less header) must be a multiple of 4. Got: " ++ toString (data.length % 4)))
  | 12 =>
    match decodeError data with
    | some error => .error (integrity ("The DHCPv4 Host Name option payload must be valid UTF-8. Got: " ++ error))
    | none => .ok ()
  | 52 => raiseIf (beNat data ∉ [1,2,3]) (integrity
      ("The DHCPv4 Option Overload value must be 1, 2, or 3. Got: " ++ toString (beNat data)))
  | 57 => raiseIf (beNat data < 576) (integrity
      ("The DHCPv4 Maximum DHCP Message Size option value must be at least 576 bytes (RFC 2132 §9.10). Got: " ++
        toString (beNat data)))
  | _ => .ok ()

def optionOf (code : UInt8) (data : List UInt8) : Dhcp4Option :=
  if code = 52 then .overload (beNat data) else .other code data

-- `from_buffer` of the option classes but the route one.
def optionFrom (code : UInt8) (len : Nat) (rest : List UInt8) : Py Dhcp4Option := do
  checkLength code len
  raiseIf (rest.length < len) (integrity (optionTitle code ++
    " length value must be less than or equal to the length of provided bytes (" ++ toString (2 + rest.length) ++
    "). Got: " ++ toString (2 + len)))
  checkData code (rest.take len)
  return optionOf code (rest.take len)

def validateIntegrity (hlen : Nat) : Nat → Nat → List UInt8 → Py Unit
  | 0,_,_ => .ok ()
  | _+1,_,[] => .ok ()
  | fuel+1,offset,code :: rest =>
    if code = 255 then .ok ()
    else if code = 0 then validateIntegrity hlen fuel (offset + 1) rest
    else
      match rest with
      | [] => .error (integrity ("The DHCPv4 option is missing its length byte. Got: offset=" ++ toString offset ++
          ", hlen=" ++ toString hlen))
      | len :: rest =>
        if rest.length < len.toNat then
          .error (integrity ("The DHCPv4 option length must not extend past the header length. Got: offset=" ++
            toString (offset + 2 + len.toNat) ++ ", hlen=" ++ toString hlen))
        else validateIntegrity hlen fuel (offset + 2 + len.toNat) (rest.drop len.toNat)

def concatenatedRouteDataFrom : Nat → List UInt8 → Py (List UInt8)
  | 0,_ => .ok []
  | _+1,[] => .ok []
  | fuel+1,code :: rest =>
    if code = 255 then .ok []
    else if code = 0 then concatenatedRouteDataFrom fuel rest
    else
      match rest with
      | [] => .error .indexError
      | len :: rest => do
        let others ← concatenatedRouteDataFrom fuel (rest.drop len.toNat)
        return (if code = 121 then rest.take len.toNat else []) ++ others

def concatenatedRouteData (buffer : List UInt8) : Py (List UInt8) := concatenatedRouteDataFrom buffer.length buffer

-- The one route option of a block, made of the data of all its instances.
def routeOption (data : List UInt8) : Py Dhcp4Option := do
  let routes ← decodeRoutes data
  if routes = [] then
    .error (integrity
      "The DHCPv4 Classless Static Route option must carry at least one route (RFC 3442 minimum length 5 octets).")
  else .ok (.classlessStaticRoute routes)

def optionsFrom (data : List UInt8) : Nat → Bool → List UInt8 → Py (List Dhcp4Option)
  | 0,_,_ => .ok []
  | _+1,_,[] => .ok []
  | fuel+1,emitted,code :: rest =>
    if code = 255 then .ok [.endMark]
    else if code = 0 then do
      let others ← optionsFrom data fuel emitted rest
      return .pad :: others
    else
      match rest with
      | [] => .error .indexError
      | len :: rest =>
        if code = 121 then
          if emitted then optionsFrom data fuel true (rest.drop len.toNat)
          else do
            let option ← routeOption data
            let others ← optionsFrom data fuel true (rest.drop len.toNat)
            return option :: others
        else do
          let option ← optionFrom code len.toNat rest
          let others ← optionsFrom data fuel emitted (rest.drop len.toNat)
          return option :: others

def fromBuffer (buffer : List UInt8) : Py (List Dhcp4Option) := do
  let data ← concatenatedRouteData buffer
  optionsFrom data buffer.length false buffer

def classlessStaticRoute : List Dhcp4Option → Option (List ClasslessRoute)
  | [] => none
  | .classlessStaticRoute routes :: _ => some routes
  | _ :: rest => classlessStaticRoute rest

def routesOf (options : List Dhcp4Option) : List ClasslessRoute := (classlessStaticRoute options).getD []

def optionOverload : List Dhcp4Option → Option Nat
  | [] => none
  | .overload value :: _ => some value
  | _ :: rest => optionOverload rest

def includesFile (value : Nat) : Bool := value = 1 ∨ value = 3
def includesSname (value : Nat) : Bool := value = 2 ∨ value = 3

-- An overloaded field, checked and read as a block of its own.
def overloadedField (included : Bool) (field : List UInt8) : Py (List Dhcp4Option) :=
  if included then do
    validateIntegrity field.length field.length 0 field
    fromBuffer field
  else .ok []

def headerLen : Nat := 240
def snameOffset : Nat := 44
def fileOffset : Nat := 108
def cookieOffset : Nat := 236

-- The options of a packet with a well-formed header: the main block, then the fields option 52 announces.
def parseOptions (frame : List UInt8) : Py (List Dhcp4Option) := do
  raiseIf (frame.length < headerLen) (integrity ("The minimum packet length must be 240 bytes. Got: " ++
    toString frame.length ++ " bytes."))
  validateIntegrity frame.length frame.length headerLen (frame.drop headerLen)
  let options ← fromBuffer (frame.drop headerLen)
  match optionOverload options with
  | none => return options
  | some value => do
    let fileOptions ← overloadedField (includesFile value) (slice frame fileOffset cookieOffset)
    let snameOptions ← overloadedField (includesSname value) (slice frame snameOffset fileOffset)
    return options ++ fileOptions ++ snameOptions

def Clean (x : Py α) : Prop := ∀ e, x = .error e → ∃ message, e = integrity message

theorem Clean.ok (a : α) : Clean (Except.ok a : Py α) := by
  intro e failed
  cases failed

theorem Clean.integrity (message : String) : Clean (Except.error (integrity message) : Py α) := by
  intro e failed
  exact ⟨message,(Except.error.inj failed).symm⟩

theorem Clean.bind {x : Py α} {f : α → Py β} (first : Clean x) (later : ∀ a, x = .ok a → Clean (f a)) : Clean (x >>= f) := by
  cases result : x with
  | error e =>
    intro e' failed
    exact first e' (by rw [result]; exact congrArg Except.error (Except.error.inj failed))
  | ok a => exact later a result

theorem Clean.raiseIf [Decidable condition] (message : String) : Clean (raiseIf condition (Dhcp4.integrity message)) := by
  by_cases holds : condition
  · rw [raiseIf_pos holds]
    exact .integrity message
  · rw [raiseIf_neg holds]
    exact .ok ()

theorem decodeRoutesFrom_clean (fuel : Nat) (data : List UInt8) : Clean (decodeRoutesFrom fuel data) := by
  induction fuel generalizing data with
  | zero => exact .ok []
  | succ fuel ih =>
    cases data with
    | nil => exact .ok []
    | cons width rest =>
      rw [decodeRoutesFrom]
      dsimp only
      split
      · exact .integrity _
      · split
        · exact .integrity _
        · exact .bind (ih _) (fun others _ => .ok _)

theorem routeOption_clean (data : List UInt8) : Clean (routeOption data) := by
  refine .bind (decodeRoutesFrom_clean _ _) (fun routes _ => ?_)
  split
  · exact .integrity _
  · exact .ok _

theorem checkLength_clean (code : UInt8) (len : Nat) : Clean (checkLength code len) := by
  unfold checkLength exactLength leastLength
  split
  all_goals first | exact .raiseIf _ | exact .ok ()

theorem checkData_clean (code : UInt8) (data : List UInt8) : Clean (checkData code data) := by
  unfold checkData leastLength
  split
  case h_2 => exact .bind (.raiseIf _) (fun _ _ => .raiseIf _)
  case h_3 =>
    split
    · exact .integrity _
    · exact .ok ()
  all_goals first | exact .raiseIf _ | exact .ok ()

theorem optionFrom_clean (code : UInt8) (len : Nat) (rest : List UInt8) : Clean (optionFrom code len rest) :=
  .bind (checkLength_clean _ _) (fun _ _ => .bind (.raiseIf _) (fun _ _ => .bind (checkData_clean _ _) (fun _ _ => .ok _)))

theorem validateIntegrity_clean (hlen fuel offset : Nat) (buffer : List UInt8) :
    Clean (validateIntegrity hlen fuel offset buffer) := by
  induction fuel generalizing offset buffer with
  | zero => exact .ok ()
  | succ fuel ih =>
    cases buffer with
    | nil => exact .ok ()
    | cons code rest =>
      unfold validateIntegrity
      split
      · exact .ok ()
      · split
        · exact ih _ _
        · cases rest with
          | nil => exact .integrity _
          | cons len tail =>
            dsimp only
            split
            · exact .integrity _
            · exact ih _ _

def Walkable (buffer : List UInt8) : Prop :=
  ∃ hlen fuel offset, buffer.length ≤ fuel ∧ validateIntegrity hlen fuel offset buffer = .ok ()

theorem Walkable.cases (walkable : Walkable (code :: rest)) :
    code = 255 ∨ code = 0 ∧ Walkable rest ∨
      code ≠ 255 ∧ code ≠ 0 ∧ ∃ len tail, rest = len :: tail ∧ Walkable (tail.drop len.toNat) := by
  obtain ⟨hlen,fuel,offset,enough,valid⟩ := walkable
  obtain ⟨fuel,rfl⟩ : ∃ k, fuel = k + 1 := ⟨fuel - 1,by simp at enough; omega⟩
  simp only [List.length_cons] at enough
  by_cases mark : code = 255
  · exact .inl mark
  by_cases pad : code = 0
  · subst pad
    exact .inr (.inl ⟨rfl,hlen,fuel,offset + 1,by omega,valid⟩)
  cases rest with
  | nil =>
    rw [validateIntegrity,if_neg mark,if_neg pad] at valid
    cases valid
  | cons len tail =>
    rw [validateIntegrity,if_neg mark,if_neg pad] at valid
    split at valid
    · cases valid
    · refine .inr (.inr ⟨mark,pad,len,tail,rfl,hlen,fuel,_,?_,valid⟩)
      simp only [List.length_cons,List.length_drop] at enough ⊢
      omega

theorem concatenatedRouteDataFrom_clean (fuel : Nat) (buffer : List UInt8) (walkable : Walkable buffer) :
    Clean (concatenatedRouteDataFrom fuel buffer) := by
  induction fuel generalizing buffer with
  | zero => exact .ok []
  | succ fuel ih =>
    cases buffer with
    | nil => exact .ok []
    | cons code rest =>
      obtain rfl | ⟨rfl,later⟩ | ⟨mark,pad,len,tail,rfl,later⟩ := walkable.cases
      · exact .ok []
      · exact ih rest later
      · rw [concatenatedRouteDataFrom,if_neg mark,if_neg pad]
        exact .bind (ih _ later) (fun others _ => .ok _)

theorem optionsFrom_clean (data : List UInt8) (fuel : Nat) (emitted : Bool) (buffer : List UInt8)
    (walkable : Walkable buffer) : Clean (optionsFrom data fuel emitted buffer) := by
  induction fuel generalizing emitted buffer with
  | zero => exact .ok []
  | succ fuel ih =>
    cases buffer with
    | nil => exact .ok []
    | cons code rest =>
      obtain rfl | ⟨rfl,later⟩ | ⟨mark,pad,len,tail,rfl,later⟩ := walkable.cases
      · exact .ok _
      · exact .bind (ih emitted rest later) (fun others _ => .ok _)
      · rw [optionsFrom,if_neg mark,if_neg pad]
        split
        · split
          · exact ih true _ later
          · exact .bind (routeOption_clean data) (fun option _ => .bind (ih true _ later) (fun others _ => .ok _))
        · exact .bind (optionFrom_clean _ _ _) (fun option _ => .bind (ih emitted _ later) (fun others _ => .ok _))

theorem fromBuffer_clean (walkable : Walkable buffer) : Clean (fromBuffer buffer) :=
  .bind (concatenatedRouteDataFrom_clean _ _ walkable) (fun data _ => optionsFrom_clean data _ _ _ walkable)

theorem overloadedField_clean (included : Bool) (field : List UInt8) : Clean (overloadedField included field) := by
  unfold overloadedField
  split
  · exact .bind (validateIntegrity_clean _ _ _ _) (fun _ valid => fromBuffer_clean ⟨_,_,_,Nat.le_refl _,valid⟩)
  · exact .ok []

-- The length bytes were in bounds when the options are read.
theorem parse_refuses_cleanly (frame : List UInt8) : Clean (parseOptions frame) := by
  refine .bind (.raiseIf _) (fun _ _ => .bind (validateIntegrity_clean _ _ _ _) (fun _ valid => ?_))
  have walkable : Walkable (frame.drop headerLen) := ⟨_,_,_,by simp,valid⟩
  refine .bind (fromBuffer_clean walkable) (fun options _ => ?_)
  split
  · exact .ok _
  · exact .bind (overloadedField_clean _ _) (fun _ _ => .bind (overloadedField_clean _ _) (fun _ _ => .ok _))

end PmdPytcp.Dhcp4
