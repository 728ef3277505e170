import PmdPytcp.Lib.Split
import PmdPytcp.NetAddr.Network

namespace PmdPytcp.NetAddr
open Split

-- A Python string as its code points.
abbrev Text := List Nat

def percent : Nat := 0x25
def dot : Nat := 0x2e
def slash : Nat := 0x2f
def space : Nat := 0x20

-- `str.isspace` for one character
def isSpace (c : Nat) : Bool :=
  c ∈ [0x09,0x0a,0x0b,0x0c,0x0d,0x1c,0x1d,0x1e,0x1f,0x20,0x85,0xa0,0x1680,0x2028,0x2029,0x202f,0x205f,0x3000] ∨
    (0x2000 ≤ c ∧ c ≤ 0x200a)

def isDigit (c : Nat) : Bool := 0x30 ≤ c ∧ c ≤ 0x39

def stripped (t : Text) : Text := strip isSpace t

-- `int(t)` of ASCII digits
def number (t : Text) : Nat := t.foldl (fun n c => n*10 + (c - 0x30)) 0

-- `(0|[1-9][0-9]{0,extra})`
def canonicalNumber (extra : Nat) : Text → Option Nat
  | [] => none
  | c :: rest =>
    if c = 0x30 then if rest = [] then some 0 else none
    else if isDigit c ∧ rest.length ≤ extra ∧ rest.all isDigit then some (number (c :: rest))
    else none

-- `str(n)`
def decimal (n : Nat) : Text := (Nat.toDigits 10 n).map Char.toNat

theorem decimal_short : ∀ n < 256, canonicalNumber 2 (decimal n) = some n ∧ (decimal n).all isDigit ∧ decimal n ≠ [] := by
  decide +kernel

theorem decimal_two : ∀ n ≤ 32, canonicalNumber 1 (decimal n) = some n := by decide +kernel

theorem isDigit_ne (digit : isDigit c = true) (other : isDigit d = false) : c ≠ d := by
  rintro rfl
  rw [digit] at other
  cases other

theorem isDigit_not_space (digit : isDigit c = true) : isSpace c = false := by
  unfold isDigit at digit
  rw [decide_eq_true_eq] at digit
  unfold isSpace
  rw [decide_eq_false_iff_not]
  simp only [List.mem_cons,List.not_mem_nil,or_false]
  omega

theorem not_mem_digits {t : Text} (digits : t.all isDigit = true) (other : isDigit d = false) : d ∉ t := by
  intro inside
  exact isDigit_ne (List.all_eq_true.mp digits d inside) other rfl

def prefixExtra : IpVersion → Nat
  | .ip4 => 1
  | .ip6 => 2

-- `^/(0|[1-9][0-9]…)$` and the bound of the version
def prefixOfText (v : IpVersion) : Text → Option Nat
  | [] => none
  | c :: digits =>
    if c = slash then
      match canonicalNumber (prefixExtra v) digits with
      | some len => if len ≤ v.bits then some len else none
      | none => none
    else none

theorem prefixOfText_le (found : prefixOfText v t = some len) : len ≤ v.bits := by
  unfold prefixOfText at found
  split at found
  · cases found
  · split at found
    · split at found
      · split at found
        · next fits => cases found; exact fits
        · cases found
      · cases found
    · cases found

theorem prefixOfText_decimal (v : IpVersion) (fits : len ≤ v.bits) : prefixOfText v (slash :: decimal len) = some len := by
  have parsed : canonicalNumber (prefixExtra v) (decimal len) = some len := by
    cases v with
    | ip4 => exact decimal_two len fits
    | ip6 => exact (decimal_short len (by simp only [IpVersion.bits] at fits; omega)).1
  rw [prefixOfText,if_pos rfl,parsed]
  simp only [if_pos fits]

theorem prefixOfText_digits {t : Text} (found : prefixOfText v (slash :: t) = some len) : t.all isDigit = true := by
  rw [prefixOfText,if_pos rfl] at found
  cases t with
  | nil => rfl
  | cons c rest =>
    by_cases zero : c = 0x30
    · by_cases alone : rest = []
      · subst zero alone
        rfl
      · simp [canonicalNumber,zero,alone] at found
    · by_cases digits : isDigit c = true ∧ rest.length ≤ prefixExtra v ∧ rest.all isDigit = true
      · rw [List.all_cons,digits.1,digits.2.2]
        rfl
      · rw [canonicalNumber,if_neg zero,if_neg digits] at found
        cases found

def parseIp4DottedDecimal (t : Text) : Option Nat :=
  match fields dot t with
  | [a,b,c,d] => do
    let a ← canonicalNumber 2 a
    let b ← canonicalNumber 2 b
    let c ← canonicalNumber 2 c
    let d ← canonicalNumber 2 d
    if a ≤ 255 ∧ b ≤ 255 ∧ c ≤ 255 ∧ d ≤ 255 then some (a*2^24 + b*2^16 + c*2^8 + d) else none
  | _ => none

-- `socket.inet_ntoa`
def ntoa (address : Nat) : Text :=
  join dot [decimal (address/2^24 % 256),decimal (address/2^16 % 256),decimal (address/2^8 % 256),decimal (address % 256)]

theorem parseIp4_below (parsed : parseIp4DottedDecimal t = some n) : n < 2^32 := by
  unfold parseIp4DottedDecimal at parsed
  split at parsed
  · simp only [Option.bind_eq_bind,Option.bind_eq_some_iff] at parsed
    obtain ⟨a,-,b,-,c,-,d,-,last⟩ := parsed
    split at last
    · cases last
      omega
    · cases last
  · cases parsed

theorem mem_ntoa (inside : c ∈ ntoa address) : c = dot ∨ isDigit c = true := by
  obtain same | ⟨part,member,here⟩ := mem_join inside
  · exact .inl same
  · have octet : ∃ n < 256, part = decimal n := by
      simp only [List.mem_cons,List.not_mem_nil,or_false] at member
      obtain rfl | rfl | rfl | rfl := member
      all_goals exact ⟨_,Nat.mod_lt _ (by decide),rfl⟩
    obtain ⟨n,small,rfl⟩ := octet
    exact .inr (List.all_eq_true.mp (decimal_short n small).2.1 c here)

theorem parseIp4_ntoa (small : address < 2^32) : parseIp4DottedDecimal (ntoa address) = some address := by
  have octets : ∀ n, dot ∉ decimal (n % 256) := fun n =>
    not_mem_digits (decimal_short _ (Nat.mod_lt n (by decide))).2.1 (by decide)
  have split : fields dot (ntoa address) =
      [decimal (address/2^24 % 256),decimal (address/2^16 % 256),decimal (address/2^8 % 256),decimal (address % 256)] := by
    apply fields_join
    · simp
    · intro part member
      simp only [List.mem_cons,List.not_mem_nil,or_false] at member
      obtain rfl | rfl | rfl | rfl := member
      all_goals exact octets _
  have value : ∀ n, canonicalNumber 2 (decimal (n % 256)) = some (n % 256) := fun n =>
    (decimal_short _ (Nat.mod_lt n (by decide))).1
  unfold parseIp4DottedDecimal
  rw [split]
  simp only [value,Option.bind_eq_bind,Option.bind_some]
  rw [if_pos (by omega)]
  congr 1
  omega

end PmdPytcp.NetAddr
