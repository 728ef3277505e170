import PmdPytcp.Icmp6.Routers

namespace PmdPytcp.SourceSelection
open Ip6Address (isMulticast isLoopback isLinkLocal)

-- The zone is part of what an address is.
structure Ip6Scoped where
  address : Ip6Address
  scopeId : Option String
deriving DecidableEq,Repr

structure Ip6IfAddr where
  address : Ip6Scoped
  prefixLen : Nat
deriving DecidableEq,Repr

-- An autoconfigured or a temporary address with its lifetimes.
structure Tracked where
  address : Ip6Scoped
  preferredUntil : ℚ
  validUntil : ℚ
deriving DecidableEq,Repr

structure AddressBook where
  ip6IfAddr : List Ip6IfAddr
  slaacAddresses : List Tracked
  tempAddresses : List Tracked
  -- `icmp6.use_tempaddr`
  useTempaddr : Nat
deriving DecidableEq,Repr

def interfaceLocal : Nat := 0x1

def linkLocal : Nat := 0x2

def globalScope : Nat := 0xE

def ip6AddressScope (a : Ip6Address) : Nat :=
  if isMulticast a then (a.toNat >>> 112) &&& 0xF
  else if isLoopback a then interfaceLocal
  else if isLinkLocal a then linkLocal
  else globalScope

def commonPrefixLen (a b : Ip6Address) : Nat :=
  let xor := a.toNat ^^^ b.toNat
  if xor = 0 then 128 else 128 - xor.size

structure PolicyEntry where
  first : Nat
  prefixLen : Nat
  precedence : Nat
  label : Nat
deriving DecidableEq,Repr

def PolicyEntry.contains (e : PolicyEntry) (a : Ip6Address) : Bool :=
  e.first ≤ a.toNat ∧ a.toNat ≤ e.first + (2^(128 - e.prefixLen) - 1)

def defaultPolicyTable : List PolicyEntry :=
  [⟨1,128,50,0⟩,
   ⟨0xFFFF*2^32,96,35,4⟩,
   ⟨0,96,1,3⟩,
   ⟨0x2001*2^112,32,5,5⟩,
   ⟨0x2002*2^112,16,30,2⟩,
   ⟨0x3FFE*2^112,16,1,12⟩,
   ⟨0xFEC0*2^112,10,1,11⟩,
   ⟨0xFC00*2^112,7,3,13⟩,
   ⟨0,0,40,1⟩]

-- The first row that holds the address; the last row holds every address.
def lookup (a : Ip6Address) : Option (Nat × Nat) :=
  (defaultPolicyTable.find? (·.contains a)).map fun e => (e.precedence,e.label)

def policyLabel (a : Ip6Address) : Option Nat := (lookup a).map Prod.snd

def deprecated (book : AddressBook) (now : ℚ) (a : Ip6Scoped) : Bool :=
  (book.slaacAddresses.any fun entry => entry.address = a ∧ now < entry.validUntil ∧ entry.preferredUntil ≤ now) ||
    book.tempAddresses.any fun entry => entry.address = a ∧ entry.preferredUntil ≤ now ∧ now < entry.validUntil

def temporary (book : AddressBook) (a : Ip6Scoped) : Bool :=
  book.useTempaddr = 2 ∧ book.tempAddresses.any (·.address = a)

abbrev Key := (ℤ ×ₗ ℤ) ×ₗ ℤ ×ₗ ℤ ×ₗ ℤ ×ₗ ℤ

def rule2 (dst src : Ip6Scoped) : ℤ ×ₗ ℤ :=
  let srcScope := ip6AddressScope src.address
  let dstScope := ip6AddressScope dst.address
  if dstScope ≤ srcScope then toLex (1,-(srcScope : ℤ)) else toLex (0,(srcScope : ℤ))

def score (b : Bool) : ℤ := if b then 1 else 0

def sortKey (book : AddressBook) (now : ℚ) (dst src : Ip6Scoped) : Key :=
  toLex (rule2 dst src,
    toLex (score (!deprecated book now src),
      toLex (score (policyLabel src.address = policyLabel dst.address),
        toLex (score (temporary book src),
          (commonPrefixLen src.address dst.address : ℤ)))))

def candidates (book : AddressBook) : List Ip6Scoped := book.ip6IfAddr.map (·.address)

-- `candidates.sort(key=sort_key, reverse=True)`, which keeps ties in order
def sorted (book : AddressBook) (now : ℚ) (dst : Ip6Scoped) : List Ip6Scoped :=
  (candidates book).mergeSort fun a b => sortKey book now dst b ≤ sortKey book now dst a

def selectIp6Source (book : AddressBook) (now : ℚ) (dst : Ip6Scoped) : Option Ip6Scoped :=
  if dst ∈ candidates book then some dst
  else
    match sorted book now dst with
    | [] => none
    | winner :: _ =>
      if ip6AddressScope winner.address < ip6AddressScope dst.address then none else some winner

-- A candidate is better by the first rule that tells the two apart.
def firstOf {α : Type} : List (α → α → Prop) → α → α → Prop
  | [],_,_ => False
  | rule :: rest,a,b => rule a b ∨ ¬rule b a ∧ firstOf rest a b

def sameAddress (dst a b : Ip6Scoped) : Prop := a = dst ∧ b ≠ dst

-- The smaller scope, unless it is too small for the destination.
def appropriateScope (dst a b : Ip6Scoped) : Prop :=
  let scope (x : Ip6Scoped) := ip6AddressScope x.address
  (scope a < scope b ∧ ¬scope a < scope dst) ∨ (scope b < scope a ∧ scope b < scope dst)

def avoidDeprecated (book : AddressBook) (now : ℚ) (a b : Ip6Scoped) : Prop :=
  deprecated book now a = false ∧ deprecated book now b = true

-- The row of the policy table with the longest prefix that holds the address.
def LongestMatch (a : Ip6Address) (e : PolicyEntry) : Prop :=
  e ∈ defaultPolicyTable ∧ e.contains a ∧ ∀ other ∈ defaultPolicyTable, other.contains a → other.prefixLen ≤ e.prefixLen

def LabelsMatch (a b : Ip6Address) : Prop :=
  ∃ ea eb, LongestMatch a ea ∧ LongestMatch b eb ∧ ea.label = eb.label

def matchingLabel (dst a b : Ip6Scoped) : Prop :=
  LabelsMatch a.address dst.address ∧ ¬LabelsMatch b.address dst.address

def preferTemporary (book : AddressBook) (a b : Ip6Scoped) : Prop :=
  temporary book a = true ∧ temporary book b = false

def longestPrefix (dst a b : Ip6Scoped) : Prop :=
  commonPrefixLen b.address dst.address < commonPrefixLen a.address dst.address

def Beats (book : AddressBook) (now : ℚ) (dst : Ip6Scoped) : Ip6Scoped → Ip6Scoped → Prop :=
  firstOf [sameAddress dst,appropriateScope dst,avoidDeprecated book now,matchingLabel dst,preferTemporary book,
    longestPrefix dst]

-- The same with the common prefix counted up to the source's own prefix length.
def longestOwnPrefix (dst : Ip6Scoped) (a b : Ip6IfAddr) : Prop :=
  min (commonPrefixLen b.address.address dst.address) b.prefixLen <
    min (commonPrefixLen a.address.address dst.address) a.prefixLen

def BeatsByOwnPrefix (book : AddressBook) (now : ℚ) (dst : Ip6Scoped) : Ip6IfAddr → Ip6IfAddr → Prop :=
  firstOf [fun a b => sameAddress dst a.address b.address,fun a b => appropriateScope dst a.address b.address,
    fun a b => avoidDeprecated book now a.address b.address,fun a b => matchingLabel dst a.address b.address,
    fun a b => preferTemporary book a.address b.address,longestOwnPrefix dst]

theorem table_descends : defaultPolicyTable.Pairwise fun e e' => e'.prefixLen ≤ e.prefixLen := by
  decide

theorem table_apart : ∀ e ∈ defaultPolicyTable, ∀ e' ∈ defaultPolicyTable, e.prefixLen = e'.prefixLen →
    e = e' ∨ e.first + (2^(128 - e.prefixLen) - 1) < e'.first ∨ e'.first + (2^(128 - e'.prefixLen) - 1) < e.first := by
  decide +kernel

theorem lookup_longest (a : Ip6Address) : ∃ e, LongestMatch a e ∧ policyLabel a = some e.label := by
  have hit : (defaultPolicyTable.find? (·.contains a)).isSome := by
    rw [List.find?_isSome]
    refine ⟨⟨0,0,40,1⟩,by decide,?_⟩
    have small := a.isLt
    simp only [PolicyEntry.contains,Nat.zero_le,true_and,decide_eq_true_eq]
    omega
  obtain ⟨e,found⟩ := Option.isSome_iff_exists.mp hit
  refine ⟨e,⟨List.mem_of_find?_eq_some found,(List.find?_eq_some_iff_append.mp found).1,?_⟩,?_⟩
  · intro other member holds
    obtain ⟨_,before,after,split,missed⟩ := List.find?_eq_some_iff_append.mp found
    have descends := table_descends
    rw [split] at descends member
    rcases List.mem_append.mp member with early | late
    · have := missed other early
      simp [holds] at this
    · rcases List.mem_cons.mp late with rfl | late
      · exact Nat.le_refl _
      · exact (List.pairwise_cons.mp (List.pairwise_append.mp descends).2.1).1 other late
  · rw [policyLabel,lookup,found]
    rfl

theorem longestMatch_unique (one : LongestMatch a e) (two : LongestMatch a e') : e = e' := by
  obtain ⟨member,holds,longest⟩ := one
  obtain ⟨member',holds',longest'⟩ := two
  have same : e.prefixLen = e'.prefixLen := Nat.le_antisymm (longest' e member holds) (longest e' member' holds')
  simp only [PolicyEntry.contains,decide_eq_true_eq] at holds holds'
  rcases table_apart e member e' member' same with equal | apart | apart
  · exact equal
  · omega
  · omega

theorem labelsMatch_iff (a b : Ip6Address) : LabelsMatch a b ↔ policyLabel a = policyLabel b := by
  obtain ⟨ea,longestA,labelA⟩ := lookup_longest a
  obtain ⟨eb,longestB,labelB⟩ := lookup_longest b
  rw [labelA,labelB]
  constructor
  · rintro ⟨ea',eb',la,lb,same⟩
    obtain rfl := longestMatch_unique longestA la
    obtain rfl := longestMatch_unique longestB lb
    rw [same]
  · intro same
    exact ⟨ea,eb,longestA,longestB,Option.some.inj same⟩

theorem firstOf_cons {α κ κ' : Type} [LinearOrder κ] [LinearOrder κ'] (rule : α → α → Prop)
    {rest : List (α → α → Prop)} (key : α → κ) (key' : α → κ') (ruled : ∀ a b, rule a b ↔ key b < key a)
    (rested : ∀ a b, firstOf rest a b ↔ key' b < key' a) (a b : α) :
    firstOf (rule :: rest) a b ↔ toLex (key b,key' b) < toLex (key a,key' a) := by
  rw [firstOf,ruled,ruled,rested,Prod.Lex.toLex_lt_toLex]
  constructor
  · rintro (less | ⟨notMore,less⟩)
    · exact .inl less
    · rcases lt_trichotomy (key b) (key a) with less' | same | more
      · exact .inl less'
      · exact .inr ⟨same,less⟩
      · exact absurd more notMore
  · rintro (less | ⟨same,less⟩)
    · exact .inl less
    · exact .inr ⟨by simp [show key b = key a from same],less⟩

theorem firstOf_last {α κ : Type} [LinearOrder κ] {rule : α → α → Prop} (key : α → κ)
    (ruled : ∀ a b, rule a b ↔ key b < key a) (a b : α) : firstOf [rule] a b ↔ key b < key a := by
  simp [firstOf,ruled]

theorem score_lt {x y : Bool} : score x < score y ↔ y = true ∧ x = false := by
  cases x <;> cases y <;> simp [score]

theorem appropriateScope_iff (dst a b : Ip6Scoped) : appropriateScope dst a b ↔ rule2 dst b < rule2 dst a := by
  unfold appropriateScope rule2
  dsimp only
  split
  · split
    · rw [Prod.Lex.toLex_lt_toLex]
      simp only [lt_self_iff_false,false_or,true_and,neg_lt_neg_iff,Nat.cast_lt]
      omega
    · rw [Prod.Lex.toLex_lt_toLex]
      simp
      omega
  · split
    · rw [Prod.Lex.toLex_lt_toLex]
      simp
      omega
    · rw [Prod.Lex.toLex_lt_toLex]
      simp only [lt_self_iff_false,false_or,true_and,Nat.cast_lt]
      omega

theorem beats_iff (book : AddressBook) (now : ℚ) (dst : Ip6Scoped) (a b : Ip6Scoped) :
    firstOf [appropriateScope dst,avoidDeprecated book now,matchingLabel dst,preferTemporary book,longestPrefix dst]
      a b ↔ sortKey book now dst b < sortKey book now dst a := by
  let k8 (x : Ip6Scoped) : ℤ := commonPrefixLen x.address dst.address
  let k7 (x : Ip6Scoped) : ℤ := score (temporary book x)
  let k6 (x : Ip6Scoped) : ℤ := score (policyLabel x.address = policyLabel dst.address)
  let k3 (x : Ip6Scoped) : ℤ := score (!deprecated book now x)
  have byPrefix : ∀ a b, firstOf [longestPrefix dst] a b ↔ k8 b < k8 a := by
    refine firstOf_last k8 ?_
    intro a b
    exact Nat.cast_lt.symm
  have byTemporary := firstOf_cons (preferTemporary book) k7 k8 (fun _ _ => score_lt.symm) byPrefix
  have byLabel := firstOf_cons (matchingLabel dst) k6 (fun x => toLex (k7 x,k8 x)) (by
    intro a b
    rw [score_lt,matchingLabel,labelsMatch_iff,labelsMatch_iff]
    simp) byTemporary
  have byLifetime := firstOf_cons (avoidDeprecated book now) k3 (fun x => toLex (k6 x,toLex (k7 x,k8 x))) (by
    intro a b
    rw [score_lt]
    simp [avoidDeprecated]) byLabel
  exact firstOf_cons (appropriateScope dst) (rule2 dst) (fun x => toLex (k3 x,toLex (k6 x,toLex (k7 x,k8 x))))
    (appropriateScope_iff dst) byLifetime a b

theorem sorted_mem (member : x ∈ sorted book clock dst) : x ∈ candidates book :=
  (List.mergeSort_perm _ _).mem_iff.mp member

theorem sorted_head (first : sorted book clock dst = winner :: rest) (c : Ip6Scoped) (member : c ∈ candidates book) :
    sortKey book clock dst c ≤ sortKey book clock dst winner := by
  have ordered : (sorted book clock dst).Pairwise fun a b =>
      decide (sortKey book clock dst b ≤ sortKey book clock dst a) = true := by
    refine List.pairwise_mergeSort ?_ ?_ _
    · intro x y z xy yz
      simp only [decide_eq_true_eq] at xy yz ⊢
      exact le_trans yz xy
    · intro x y
      simpa using le_total (sortKey book clock dst y) (sortKey book clock dst x)
  have inside : c ∈ sorted book clock dst := (List.mergeSort_perm _ _).mem_iff.mpr member
  rw [first] at ordered inside
  rcases List.mem_cons.mp inside with rfl | later
  · exact le_refl _
  · simpa using (List.pairwise_cons.mp ordered).1 c later

theorem rule2_short (dst x y : Ip6Scoped) (below : ip6AddressScope y.address < ip6AddressScope dst.address)
    (less : rule2 dst x ≤ rule2 dst y) : ip6AddressScope x.address < ip6AddressScope dst.address := by
  by_contra enough
  have first : rule2 dst x = toLex (1,-(ip6AddressScope x.address : ℤ)) := by
    rw [rule2]
    exact if_pos (by omega)
  have second : rule2 dst y = toLex (0,(ip6AddressScope y.address : ℤ)) := by
    rw [rule2]
    exact if_neg (by omega)
  rw [first,second,Prod.Lex.toLex_le_toLex] at less
  simp at less

theorem sortKey_rule2 (less : sortKey book clock dst x ≤ sortKey book clock dst y) : rule2 dst x ≤ rule2 dst y := by
  rcases Prod.Lex.toLex_le_toLex.mp less with less | ⟨same,_⟩
  · exact le_of_lt less
  · exact le_of_eq same

theorem Beats.of_absent (absent : dst ∉ candidates book) (inA : a ∈ candidates book) (inB : b ∈ candidates book) :
    Beats book clock dst a b ↔ sortKey book clock dst b < sortKey book clock dst a := by
  have notA : a ≠ dst := fun same => absent (same ▸ inA)
  have notB : b ≠ dst := fun same => absent (same ▸ inB)
  rw [← beats_iff,Beats,firstOf]
  simp [sameAddress,notA,notB]

theorem Beats.not_self_destination (book : AddressBook) (now : ℚ) (dst c : Ip6Scoped) :
    ¬Beats book now dst c dst := by
  by_cases same : c = dst
  · subst same
    have tie : ¬firstOf [appropriateScope c,avoidDeprecated book now,matchingLabel c,preferTemporary book,
        longestPrefix c] c c := by
      rw [beats_iff]
      exact lt_irrefl _
    rintro (⟨_,other⟩ | ⟨_,less⟩)
    · exact other rfl
    · exact tie less
  · rintro (⟨equal,_⟩ | ⟨notRule,_⟩)
    · exact same equal
    · exact notRule ⟨rfl,same⟩

-- What the stack's selection guarantees.
structure Chosen (book : AddressBook) (now : ℚ) (dst : Ip6Scoped) : Prop where
  member : ∀ winner, selectIp6Source book now dst = some winner → winner ∈ candidates book
  unbeaten : ∀ winner, selectIp6Source book now dst = some winner → ∀ c ∈ candidates book, ¬Beats book now dst c winner
  unanswered : selectIp6Source book now dst = none ↔
    ∀ c ∈ candidates book, ip6AddressScope c.address < ip6AddressScope dst.address
  -- another order of the addresses gives an answer exactly when this one does,
  -- and one that no rule tells from it
  order : ∀ other : AddressBook, other.ip6IfAddr.Perm book.ip6IfAddr →
    other.slaacAddresses = book.slaacAddresses → other.tempAddresses = book.tempAddresses →
    other.useTempaddr = book.useTempaddr →
    (selectIp6Source other now dst = none ↔ selectIp6Source book now dst = none) ∧
      ∀ winner winner', selectIp6Source book now dst = some winner → selectIp6Source other now dst = some winner' →
        ¬Beats book now dst winner winner' ∧ ¬Beats book now dst winner' winner

theorem select_cases (book : AddressBook) (now : ℚ) (dst : Ip6Scoped) :
    (dst ∈ candidates book ∧ selectIp6Source book now dst = some dst) ∨
    (dst ∉ candidates book ∧ candidates book = [] ∧ selectIp6Source book now dst = none) ∨
    (dst ∉ candidates book ∧ ∃ winner ∈ candidates book,
      (∀ c ∈ candidates book, sortKey book now dst c ≤ sortKey book now dst winner) ∧
      selectIp6Source book now dst =
        if ip6AddressScope winner.address < ip6AddressScope dst.address then none else some winner) := by
  unfold selectIp6Source
  by_cases own : dst ∈ candidates book
  · exact .inl ⟨own,if_pos own⟩
  · rw [if_neg own]
    cases first : sorted book now dst with
    | nil =>
      refine .inr (.inl ⟨own,?_,rfl⟩)
      have empty : (sorted book now dst).length = (candidates book).length := (List.mergeSort_perm _ _).length_eq
      rw [first] at empty
      exact List.length_eq_zero_iff.mp empty.symm
    | cons winner rest =>
      refine .inr (.inr ⟨own,winner,sorted_mem (first ▸ List.mem_cons_self),?_,rfl⟩)
      exact sorted_head first

theorem select_unbeaten (book : AddressBook) (now : ℚ) (dst winner : Ip6Scoped)
    (chosen : selectIp6Source book now dst = some winner) :
    winner ∈ candidates book ∧ ∀ c ∈ candidates book, ¬Beats book now dst c winner := by
  rcases select_cases book now dst with ⟨own,first⟩ | ⟨_,_,first⟩ | ⟨absent,best,member,most,first⟩
  · obtain rfl := Option.some.inj (first.symm.trans chosen)
    exact ⟨own,fun c _ => Beats.not_self_destination book now dst c⟩
  · rw [first] at chosen
    cases chosen
  · rw [first] at chosen
    split at chosen
    · cases chosen
    · obtain rfl := Option.some.inj chosen
      refine ⟨member,?_⟩
      intro c inside
      rw [Beats.of_absent absent inside member]
      exact not_lt_of_ge (most c inside)

theorem select_none (book : AddressBook) (now : ℚ) (dst : Ip6Scoped) :
    selectIp6Source book now dst = none ↔
      ∀ c ∈ candidates book, ip6AddressScope c.address < ip6AddressScope dst.address := by
  rcases select_cases book now dst with ⟨own,first⟩ | ⟨_,empty,first⟩ | ⟨absent,best,member,most,first⟩
  · rw [first]
    refine ⟨nofun,fun short => ?_⟩
    exact absurd (short dst own) (Nat.lt_irrefl _)
  · rw [first,empty]
    simp
  · rw [first]
    split
    · next below =>
      refine ⟨fun _ c inside => ?_,fun _ => rfl⟩
      exact rule2_short dst c best below (sortKey_rule2 (most c inside))
    · next enough =>
      refine ⟨nofun,fun short => ?_⟩
      exact absurd (short best member) enough

theorem ip6_source_chosen (book : AddressBook) (now : ℚ) (dst : Ip6Scoped) : Chosen book now dst := by
  refine ⟨fun winner chosen => (select_unbeaten book now dst winner chosen).1,
    fun winner chosen => (select_unbeaten book now dst winner chosen).2,select_none book now dst,?_⟩
  intro other perm slaac temp use
  have same : ∀ c, c ∈ candidates other ↔ c ∈ candidates book := by
    intro c
    exact (perm.map _).mem_iff
  have beats : Beats other now dst = Beats book now dst := by
    unfold Beats avoidDeprecated preferTemporary deprecated temporary
    rw [slaac,temp,use]
  refine ⟨?_,?_⟩
  · rw [select_none,select_none]
    simp [same]
  · intro winner winner' chosen chosen'
    obtain ⟨member,unbeaten⟩ := select_unbeaten book now dst winner chosen
    obtain ⟨member',unbeaten'⟩ := select_unbeaten other now dst winner' chosen'
    rw [beats] at unbeaten'
    exact ⟨unbeaten' winner ((same winner).mpr member),unbeaten winner' ((same winner').mp member')⟩

-- A /32 that shares 124 bits with the destination and a /64 that shares 62.
def wide : Ip6IfAddr := ⟨⟨0x20010db8000100010000000000000005,none⟩,32⟩

def narrow : Ip6IfAddr := ⟨⟨0x20010db8000100020000000000000005,none⟩,64⟩

def near : Ip6Scoped := ⟨0x20010db8000100010000000000000009,none⟩

def twoHosts : AddressBook := ⟨[narrow,wide],[],[],0⟩

theorem twoHosts_select : selectIp6Source twoHosts 0 near = some wide.address := by
  cases chosen : selectIp6Source twoHosts 0 near with
  | none =>
    have short := (select_none twoHosts 0 near).mp chosen wide.address (by decide +kernel)
    exact absurd short (by decide +kernel)
  | some winner =>
    obtain ⟨member,unbeaten⟩ := select_unbeaten twoHosts 0 near winner chosen
    have absent : near ∉ candidates twoHosts := by decide +kernel
    have inside : wide.address ∈ candidates twoHosts := by decide +kernel
    have lost : ¬sortKey twoHosts 0 near narrow.address < sortKey twoHosts 0 near wide.address ∨
        winner ≠ narrow.address := by
      by_contra both
      push Not at both
      obtain ⟨less,rfl⟩ := both
      exact unbeaten wide.address inside ((Beats.of_absent absent inside member).mpr less)
    have less : sortKey twoHosts 0 near narrow.address < sortKey twoHosts 0 near wide.address := by decide +kernel
    have which : winner = narrow.address ∨ winner = wide.address := by
      simpa [candidates,twoHosts] using member
    rcases which with rfl | rfl
    · exact absurd rfl (lost.resolve_left fun no => no less)
    · rfl

-- The common prefix is counted past the source's own prefix length.
theorem own_prefix_length_ignored :
    ¬∀ book now dst winner, selectIp6Source book now dst = some winner →
      ∀ host ∈ book.ip6IfAddr, host.address = winner → ∀ c ∈ book.ip6IfAddr, ¬BeatsByOwnPrefix book now dst c host := by
  intro always
  have unbeaten := always twoHosts 0 near _ twoHosts_select wide (by decide +kernel) rfl narrow (by decide +kernel)
  have label : LabelsMatch narrow.address.address near.address := by
    rw [labelsMatch_iff]
    decide +kernel
  refine unbeaten (.inr ⟨?_,.inr ⟨?_,.inr ⟨?_,.inr ⟨?_,.inr ⟨?_,.inl ?_⟩⟩⟩⟩⟩)
  · rintro ⟨same,_⟩
    exact absurd same (by decide +kernel)
  · rintro (⟨less,_⟩ | ⟨less,_⟩)
    · exact absurd less (by decide +kernel)
    · exact absurd less (by decide +kernel)
  · rintro ⟨_,lapsed⟩
    exact absurd lapsed (by decide +kernel)
  · rintro ⟨_,other⟩
    exact other label
  · rintro ⟨temporary,_⟩
    exact absurd temporary (by decide +kernel)
  · show min _ _ < min _ _
    decide +kernel

end PmdPytcp.SourceSelection
