import PmdPytcp.NetAddr.Network

namespace PmdPytcp.NetAddr
open Buffer (Py PyError)
open IpNetwork (ofPair)

-- `lo & -lo`
def lowestBit (n : Nat) : Nat := n &&& (2^n.size - n)

def summarizeStep (bits lo hi : Nat) : Nat :=
  let align := if lo = 0 then bits else (lowestBit lo).size - 1
  let span := (hi - lo + 1).size - 1
  min align span

def summarizeInts (bits lo hi : Nat) : List (Nat × Nat) :=
  if lo ≤ hi then
    let step := summarizeStep bits lo hi
    (lo,bits - step) :: summarizeInts bits (lo + 2^step) hi
  else []
termination_by hi + 1 - lo
decreasing_by
  have := Nat.two_pow_pos (summarizeStep bits lo hi)
  omega

abbrev Span := Nat × Nat

def Span.before (a b : Span) : Bool := a.1 < b.1 ∨ a.1 = b.1 ∧ a.2 ≤ b.2

-- The last span merged so far takes in what overlaps it or is next to it.
def mergeFrom (last : Span) : List Span → List Span
  | [] => [last]
  | (lo,hi) :: rest =>
    if lo ≤ last.2 + 1 then mergeFrom (last.1,max last.2 hi) rest else last :: mergeFrom (lo,hi) rest

def mergeSpans (spans : List Span) : List Span :=
  match spans.mergeSort Span.before with
  | [] => []
  | first :: rest => mergeFrom first rest

inductive Item (v : IpVersion) where
  | address (a : Fin (2^v.bits))
  | network (n : IpNetwork v)

def Item.span : Item v → Span
  | .address a => (a,a)
  | .network n => (n.address,n.last)

def spansOf (v : IpVersion) (items : List ((v : IpVersion) × Item v)) : List Span :=
  items.filterMap fun item => if item.1 = v then some item.2.span else none

def summarizeVersion (v : IpVersion) (spans : List Span) : Py (List ((v : IpVersion) × IpNetwork v)) :=
  ((mergeSpans spans).flatMap fun span => summarizeInts v.bits span.1 span.2).mapM fun pair =>
    (ofPair v pair.1 pair.2).map (Sigma.mk v)

def summarize (items : List ((v : IpVersion) × Item v)) : Py (List ((v : IpVersion) × IpNetwork v)) := do
  let spans4 := spansOf .ip4 items
  let spans6 := spansOf .ip6 items
  if spans4 ≠ [] ∧ spans6 ≠ [] then .error .netAddrError
  else
    let nets4 ← summarizeVersion .ip4 spans4
    let nets6 ← summarizeVersion .ip6 spans6
    return nets4 ++ nets6

theorem land_double (a b : Nat) : 2*a &&& 2*b = 2*(a &&& b) := by
  refine Nat.eq_of_testBit_eq ?_
  intro i
  cases i with
  | zero => simp
  | succ i =>
    rw [Nat.testBit_and]
    simp [Nat.testBit_succ]

theorem land_complement (q w : Nat) (small : q < 2^w) : q &&& (2^w - (q + 1)) = 0 := by
  refine Nat.eq_of_testBit_eq ?_
  intro i
  rw [Nat.testBit_and,Nat.testBit_two_pow_sub_succ small]
  cases q.testBit i <;> simp

theorem land_neg (n w : Nat) (positive : 0 < n) (small : n < 2^w) :
    ∃ k, n &&& (2^w - n) = 2^k ∧ 2^k ∣ n ∧ ¬2^(k + 1) ∣ n := by
  induction n using Nat.strong_induction_on generalizing w with
  | _ n ih =>
    have wide : 0 < w := by
      rcases Nat.eq_zero_or_pos w with rfl | wide
      · simp at small
        omega
      · exact wide
    obtain ⟨w,rfl⟩ := Nat.exists_eq_succ_of_ne_zero (Nat.pos_iff_ne_zero.mp wide)
    rw [Nat.succ_eq_add_one,Nat.pow_succ] at small ⊢
    rcases Nat.even_or_odd' n with ⟨m,rfl | rfl⟩
    · obtain ⟨k,bit,divides,not⟩ := ih m (by omega) w (by omega) (by omega)
      refine ⟨k + 1,?_,?_,?_⟩
      · have halves : 2^w*2 - 2*m = 2*(2^w - m) := by omega
        rw [halves,land_double,bit,Nat.pow_succ,Nat.mul_comm]
      · rw [Nat.pow_succ,Nat.mul_comm]
        exact Nat.mul_dvd_mul_left 2 divides
      · rw [Nat.pow_succ,Nat.mul_comm]
        intro divides'
        exact not (Nat.dvd_of_mul_dvd_mul_left (by omega) divides')
    · refine ⟨0,?_,by simp,by omega⟩
      have odd : 2^w*2 - (2*m + 1) = 2*(2^w - (m + 1)) + 1 := by omega
      rw [odd]
      refine Nat.eq_of_testBit_eq ?_
      intro i
      cases i with
      | zero => simp [Nat.testBit_zero,Nat.add_mod]
      | succ i =>
        have half : ∀ a, (2*a + 1) / 2 = a := by omega
        rw [Nat.testBit_and,Nat.testBit_succ,Nat.testBit_succ,half,half,← Nat.testBit_and,
          land_complement m w (by omega)]
        simp [Nat.testBit_succ]

theorem summarizeStep_spec (bits lo hi : Nat) (here : lo ≤ hi) :
    2^summarizeStep bits lo hi ∣ lo ∧ lo + 2^summarizeStep bits lo hi ≤ hi + 1 ∧
      ∀ order, order ≤ bits → 2^order ∣ lo → lo + 2^order ≤ hi + 1 → order ≤ summarizeStep bits lo hi := by
  have span : ∀ k, k ≤ (hi - lo + 1).size - 1 ↔ 2^k ≤ hi - lo + 1 := by
    intro k
    have positive : 0 < (hi - lo + 1).size := Nat.size_pos.mpr (by omega)
    rw [Nat.le_sub_one_iff_lt positive,Nat.lt_size]
  unfold summarizeStep
  dsimp only
  by_cases zero : lo = 0
  · subst zero
    rw [if_pos rfl]
    refine ⟨Nat.dvd_zero _,?_,?_⟩
    · have := (span (min bits ((hi - 0 + 1).size - 1))).mp (Nat.min_le_right _ _)
      omega
    · intro order small _ ends
      exact Nat.le_min.mpr ⟨small,(span order).mpr (by omega)⟩
  · rw [if_neg zero]
    obtain ⟨k,bit,divides,not⟩ := land_neg lo lo.size (by omega) (Nat.lt_size_self lo)
    have align : (lowestBit lo).size - 1 = k := by
      rw [lowestBit,bit,Nat.size_pow]
      rfl
    rw [align]
    refine ⟨?_,?_,?_⟩
    · exact Nat.dvd_trans (Nat.pow_dvd_pow 2 (Nat.min_le_left _ _)) divides
    · have := (span (min k ((hi - lo + 1).size - 1))).mp (Nat.min_le_right _ _)
      omega
    · intro order _ aligned ends
      refine Nat.le_min.mpr ⟨?_,(span order).mpr (by omega)⟩
      by_contra more
      exact not (Nat.dvd_trans (Nat.pow_dvd_pow 2 (by omega)) aligned)

-- No block inside the set reaches the start of the run from before it.
def Edge (inside : Nat → Prop) (lo : Nat) : Prop :=
  ∀ b : Block, (∀ x, b.Holds x → inside x) → b.Holds lo → b.start = lo

theorem greedy_maximal (bits lo hi : Nat) (inside : Nat → Prop) (here : lo ≤ hi) (ends : ¬inside (hi + 1))
    (fits : ∀ x, inside x → x < 2^bits) (edge : Edge inside lo) (b : Block) (within : ∀ x, b.Holds x → inside x)
    (meets : b.Holds lo) : b.order ≤ summarizeStep bits lo hi := by
  have start := edge b within meets
  have finish : lo + 2^b.order ≤ hi + 1 := by
    by_contra past
    refine ends (within _ ⟨?_,?_⟩)
    · omega
    · omega
  have small : b.order ≤ bits := by
    have positive := Nat.two_pow_pos b.order
    have final := fits _ (within (b.start + (2^b.order - 1)) ⟨by omega,by omega⟩)
    exact (Nat.pow_le_pow_iff_right (by omega)).mp (show 2^b.order ≤ 2^bits by omega)
  exact (summarizeStep_spec bits lo hi here).2.2 b.order small (start ▸ b.aligned) finish

theorem greedy_edge (bits lo hi : Nat) (inside : Nat → Prop) (here : lo ≤ hi) (ends : ¬inside (hi + 1))
    (fits : ∀ x, inside x → x < 2^bits) (edge : Edge inside lo) :
    Edge inside (lo + 2^summarizeStep bits lo hi) := by
  intro b within meets
  obtain ⟨aligned,_,_⟩ := summarizeStep_spec bits lo hi here
  let g : Block := ⟨lo,summarizeStep bits lo hi,aligned⟩
  have positive := Nat.two_pow_pos (summarizeStep bits lo hi)
  by_contra earlier
  have inB : b.Holds (lo + 2^summarizeStep bits lo hi - 1) := by
    obtain ⟨low,high⟩ := meets
    exact ⟨by omega,by omega⟩
  have inG : g.Holds (lo + 2^summarizeStep bits lo hi - 1) := by
    refine ⟨?_,?_⟩
    · change lo ≤ _
      omega
    · change _ < lo + 2^summarizeStep bits lo hi
      omega
  have outside : ¬g.Holds (lo + 2^summarizeStep bits lo hi) := fun held => absurd held.2 (Nat.lt_irrefl _)
  rcases Nat.le_total b.order g.order with less | more
  · exact outside (Block.nested less inB inG meets)
  · have holds : b.Holds lo := Block.nested more inG inB g.holds_start
    have order := greedy_maximal bits lo hi inside here ends fits edge b within holds
    have same : b.order = g.order := Nat.le_antisymm order more
    exact outside (Block.nested (Nat.le_of_eq same) inB inG meets)

-- The networks of one run: in order, exactly the run, each as large as can be.
structure Tiled (inside : Nat → Prop) (lo hi : Nat) (nets : List (IpNetwork v)) : Prop where
  covers : ∀ x, (∃ n ∈ nets, n.block.Holds x) ↔ lo ≤ x ∧ x ≤ hi
  ordered : nets.Pairwise fun a b => a.last < b.address
  maximal : ∀ n ∈ nets, Block.Maximal inside n.block

theorem mapM_cons_ok {f : α → Py β} (head : f a = .ok b) (tail : rest.mapM f = .ok bs) :
    (a :: rest).mapM f = .ok (b :: bs) := by
  rw [List.mapM_cons,head,tail]
  rfl

theorem summarizeInts_tiled (v : IpVersion) (lo hi : Nat) (inside : Nat → Prop)
    (run : ∀ x, lo ≤ x → x ≤ hi → inside x) (ends : ¬inside (hi + 1)) (fits : ∀ x, inside x → x < 2^v.bits)
    (edge : Edge inside lo) :
    ∃ nets : List (IpNetwork v),
      (summarizeInts v.bits lo hi).mapM (fun pair => ofPair v pair.1 pair.2) = .ok nets ∧ Tiled inside lo hi nets := by
  induction measure : hi + 1 - lo using Nat.strong_induction_on generalizing lo with
  | _ n ih =>
    unfold summarizeInts
    split
    · next here =>
      dsimp only
      obtain ⟨aligned,finish,_⟩ := summarizeStep_spec v.bits lo hi here
      have positive := Nat.two_pow_pos (summarizeStep v.bits lo hi)
      have inSpace : lo < 2^v.bits := fits lo (run lo (Nat.le_refl _) here)
      have small : summarizeStep v.bits lo hi ≤ v.bits := by
        have final := fits _ (run (lo + 2^summarizeStep v.bits lo hi - 1) (by omega) (by omega))
        exact (Nat.pow_le_pow_iff_right (by omega)).mp
          (show 2^summarizeStep v.bits lo hi ≤ 2^v.bits by omega)
      have order : v.bits - (v.bits - summarizeStep v.bits lo hi) = summarizeStep v.bits lo hi := by omega
      let g : IpNetwork v :=
        ⟨lo,v.bits - summarizeStep v.bits lo hi,Nat.sub_le _ _,inSpace,by rw [order]; exact aligned⟩
      have gBlock : g.block = ⟨lo,summarizeStep v.bits lo hi,aligned⟩ := by
        simp only [IpNetwork.block,g,order]
      obtain ⟨rest,made,covers,ordered,maximal⟩ := ih (hi + 1 - (lo + 2^summarizeStep v.bits lo hi)) (by omega)
        (lo + 2^summarizeStep v.bits lo hi) (fun x low high => run x (by omega) high)
        (greedy_edge v.bits lo hi inside here ends fits edge) rfl
      refine ⟨g :: rest,mapM_cons_ok (IpNetwork.ofPair_aligned _ _ inSpace _ _) made,?_,?_,?_⟩
      · intro x
        simp only [List.mem_cons,exists_eq_or_imp]
        rw [covers,gBlock]
        simp only [Block.Holds]
        omega
      · refine List.pairwise_cons.mpr ⟨?_,ordered⟩
        intro n member
        have later := ((covers n.address).mp ⟨n,member,n.block.holds_start⟩).1
        simp only [IpNetwork.last,g,order]
        omega
      · intro n member
        rcases List.mem_cons.mp member with rfl | member
        · rw [gBlock]
          intro b within meets
          exact greedy_maximal v.bits lo hi inside here ends fits edge b within meets
        · exact maximal n member
    · next past =>
      refine ⟨[],rfl,?_,.nil,fun _ member => absurd member List.not_mem_nil⟩
      intro x
      simp
      omega

def Span.Holds (s : Span) (x : Nat) : Prop := s.1 ≤ x ∧ x ≤ s.2

structure Separated (spans : List Span) : Prop where
  gaps : spans.Pairwise fun a b => a.2 + 1 < b.1
  some' : ∀ s ∈ spans, s.1 ≤ s.2

theorem mergeFrom_spec (last : Span) (rest : List Span) (valid : ∀ s ∈ last :: rest, s.1 ≤ s.2)
    (sorted : (last :: rest).Pairwise fun a b => a.1 ≤ b.1) :
    Separated (mergeFrom last rest) ∧ (∀ s ∈ mergeFrom last rest, last.1 ≤ s.1) ∧
      ∀ x, (∃ s ∈ mergeFrom last rest, s.Holds x) ↔ ∃ s ∈ last :: rest, s.Holds x := by
  induction rest generalizing last with
  | nil =>
    refine ⟨⟨?_,?_⟩,?_,?_⟩
    · simp [mergeFrom]
    · simpa [mergeFrom] using valid
    · simp [mergeFrom]
    · simp [mergeFrom]
  | cons next rest ih =>
    obtain ⟨lo,hi⟩ := next
    obtain ⟨first,others⟩ := List.pairwise_cons.mp sorted
    obtain ⟨second,tail⟩ := List.pairwise_cons.mp others
    have whole := valid last (by simp)
    have part := valid (lo,hi) (by simp)
    have after := first (lo,hi) (by simp)
    dsimp only at part after
    unfold mergeFrom
    split
    · next meets =>
      obtain ⟨separated,least,covers⟩ := ih (last.1,max last.2 hi) (by
        intro s member
        rcases List.mem_cons.mp member with rfl | member
        · exact Nat.le_trans whole (Nat.le_max_left _ _)
        · exact valid s (by simp [member])) (by
        refine List.pairwise_cons.mpr ⟨?_,tail⟩
        intro s member
        exact first s (by simp [member]))
      refine ⟨separated,least,?_⟩
      intro x
      rw [covers]
      simp only [List.mem_cons,exists_eq_or_imp,Span.Holds]
      rw [← or_assoc]
      refine or_congr ?_ Iff.rfl
      omega
    · next gap =>
      obtain ⟨separated,least,covers⟩ := ih (lo,hi) (fun s member => valid s (by simp [member])) others
      refine ⟨⟨?_,?_⟩,?_,?_⟩
      · refine List.pairwise_cons.mpr ⟨?_,separated.gaps⟩
        intro s member
        have := least s member
        dsimp only at this
        omega
      · intro s member
        rcases List.mem_cons.mp member with rfl | member
        · exact whole
        · exact separated.some' s member
      · intro s member
        rcases List.mem_cons.mp member with rfl | member
        · exact Nat.le_refl _
        · exact Nat.le_trans after (least s member)
      · intro x
        simp only [List.mem_cons,exists_eq_or_imp] at covers ⊢
        rw [covers]

theorem mergeSpans_spec (spans : List Span) (valid : ∀ s ∈ spans, s.1 ≤ s.2) :
    Separated (mergeSpans spans) ∧ ∀ x, (∃ s ∈ mergeSpans spans, s.Holds x) ↔ ∃ s ∈ spans, s.Holds x := by
  have perm : (spans.mergeSort Span.before).Perm spans := List.mergeSort_perm _ _
  have sorted : (spans.mergeSort Span.before).Pairwise fun a b => Span.before a b = true := by
    refine List.pairwise_mergeSort ?_ ?_ spans
    · intro a b c ab bc
      simp only [Span.before,decide_eq_true_eq] at ab bc ⊢
      omega
    · intro a b
      simp only [Span.before,Bool.or_eq_true,decide_eq_true_eq]
      omega
  have starts : (spans.mergeSort Span.before).Pairwise fun a b => a.1 ≤ b.1 := by
    refine sorted.imp ?_
    intro a b before
    simp only [Span.before,decide_eq_true_eq] at before
    omega
  have same : ∀ x, (∃ s ∈ spans.mergeSort Span.before, s.Holds x) ↔ ∃ s ∈ spans, s.Holds x := by
    intro x
    simp only [perm.mem_iff]
  unfold mergeSpans
  cases form : spans.mergeSort Span.before with
  | nil =>
    rw [form] at same
    exact ⟨⟨.nil,nofun⟩,same⟩
  | cons first rest =>
    rw [form] at starts same perm
    obtain ⟨separated,_,covers⟩ := mergeFrom_spec first rest (fun s member => valid s (perm.mem_iff.mp member)) starts
    exact ⟨separated,fun x => (covers x).trans (same x)⟩

theorem runs_tiled (v : IpVersion) (inside : Nat → Prop) (fits : ∀ x, inside x → x < 2^v.bits) (spans : List Span)
    (separated : Separated spans)
    (runs : ∀ s ∈ spans, (∀ x, s.Holds x → inside x) ∧ ¬inside (s.2 + 1) ∧ Edge inside s.1) :
    ∃ nets : List (IpNetwork v),
      (spans.flatMap fun span => summarizeInts v.bits span.1 span.2).mapM (fun pair => ofPair v pair.1 pair.2) =
        .ok nets ∧
      (∀ x, (∃ n ∈ nets, n.block.Holds x) ↔ ∃ s ∈ spans, s.Holds x) ∧
      (nets.Pairwise fun a b => a.last < b.address) ∧ ∀ n ∈ nets, Block.Maximal inside n.block := by
  induction spans with
  | nil => exact ⟨[],rfl,by simp,.nil,nofun⟩
  | cons span rest ih =>
    obtain ⟨gap,gaps⟩ := List.pairwise_cons.mp separated.gaps
    obtain ⟨run,ends,edge⟩ := runs span (by simp)
    obtain ⟨nets,made,tiled⟩ :=
      summarizeInts_tiled v span.1 span.2 inside (fun x low high => run x ⟨low,high⟩) ends fits edge
    obtain ⟨nets',made',covers',ordered',maximal'⟩ := ih ⟨gaps,fun s member => separated.some' s (by simp [member])⟩
      (fun s member => runs s (by simp [member]))
    refine ⟨nets ++ nets',?_,?_,?_,?_⟩
    · rw [List.flatMap_cons,List.mapM_append,made,made']
      rfl
    · intro x
      simp only [List.mem_append,or_and_right,exists_or,tiled.covers,covers',List.mem_cons,exists_eq_left,Span.Holds]
    · refine List.pairwise_append.mpr ⟨tiled.ordered,ordered',?_⟩
      intro a inA b inB
      have positive := Nat.two_pow_pos (v.bits - a.prefixLen)
      have early := ((tiled.covers a.last).mp ⟨a,inA,by
        simp only [IpNetwork.block,Block.Holds,IpNetwork.last]
        omega⟩).2
      obtain ⟨s,member,low,_⟩ := (covers' b.address).mp ⟨b,inB,b.block.holds_start⟩
      have := gap s member
      omega
    · intro n member
      rcases List.mem_append.mp member with member | member
      · exact tiled.maximal n member
      · exact maximal' n member

theorem Separated.gap_after (separated : Separated spans) (member : s ∈ spans) (other : t ∈ spans) :
    ¬t.Holds (s.2 + 1) := by
  have whole := separated.some' s member
  obtain ⟨i,inI,rfl⟩ := List.getElem_of_mem member
  obtain ⟨j,inJ,rfl⟩ := List.getElem_of_mem other
  intro held
  simp only [Span.Holds] at held
  rcases Nat.lt_trichotomy i j with less | rfl | more
  · have := List.pairwise_iff_getElem.mp separated.gaps i j inI inJ less
    omega
  · omega
  · have := List.pairwise_iff_getElem.mp separated.gaps j i inJ inI more
    omega

theorem Separated.gap_before (separated : Separated spans) (member : s ∈ spans) (other : t ∈ spans)
    (some' : 0 < s.1) : ¬t.Holds (s.1 - 1) := by
  have whole := separated.some' s member
  obtain ⟨i,inI,rfl⟩ := List.getElem_of_mem member
  obtain ⟨j,inJ,rfl⟩ := List.getElem_of_mem other
  intro held
  simp only [Span.Holds] at held
  rcases Nat.lt_trichotomy i j with less | rfl | more
  · have := List.pairwise_iff_getElem.mp separated.gaps i j inI inJ less
    omega
  · omega
  · have := List.pairwise_iff_getElem.mp separated.gaps j i inJ inI more
    omega

theorem Separated.runs (separated : Separated spans) (member : s ∈ spans) :
    (∀ x, s.Holds x → ∃ t ∈ spans, t.Holds x) ∧ (¬∃ t ∈ spans, t.Holds (s.2 + 1)) ∧
      Edge (fun x => ∃ t ∈ spans, t.Holds x) s.1 := by
  refine ⟨fun x held => ⟨s,member,held⟩,?_,?_⟩
  · rintro ⟨t,other,held⟩
    exact separated.gap_after member other held
  · intro b within meets
    by_contra earlier
    have before := meets.1
    obtain ⟨t,other,held⟩ := within (s.1 - 1) ⟨by omega,by have := meets.2; omega⟩
    exact separated.gap_before member other (by omega) held

def Item.Covers (item : Item v) (x : Nat) : Prop := item.span.Holds x

theorem Item.span_valid (item : Item v) : item.span.1 ≤ item.span.2 ∧ item.span.2 < 2^v.bits := by
  cases item with
  | address a => exact ⟨Nat.le_refl _,a.isLt⟩
  | network n => exact ⟨Nat.le_add_right _ _,n.last_lt⟩

theorem Item.covers_network (n : IpNetwork v) (x : Nat) : (Item.network n).Covers x ↔ n.contains x = true := by
  simp [Item.Covers,Item.span,Span.Holds,IpNetwork.contains]

theorem spansOf_same (v : IpVersion) (items : List (Item v)) :
    spansOf v (items.map (Sigma.mk v)) = items.map Item.span := by
  induction items with
  | nil => rfl
  | cons item rest ih =>
    rw [List.map_cons,List.map_cons,← ih]
    simp [spansOf]

theorem spansOf_other (other : v ≠ w) (items : List (Item v)) : spansOf w (items.map (Sigma.mk v)) = [] := by
  rw [spansOf,List.filterMap_eq_nil_iff]
  intro item member
  obtain ⟨_,_,rfl⟩ := List.mem_map.mp member
  exact if_neg other

theorem mapM_tagged {l : List α} {f : α → Py β} (tag : β → γ) (made : l.mapM f = .ok bs) :
    l.mapM (fun a => (f a).map tag) = .ok (bs.map tag) := by
  induction l generalizing bs with
  | nil =>
    obtain rfl := Except.ok.inj made
    rfl
  | cons a rest ih =>
    rw [List.mapM_cons] at made
    cases head : f a with
    | error e => simp [head,bind,Except.bind] at made
    | ok b =>
      cases tail : rest.mapM f with
      | error e => simp [head,tail,bind,Except.bind] at made
      | ok bs' =>
        obtain rfl : b :: bs' = bs := by
          simpa [head,tail,bind,Except.bind,pure,Except.pure] using made
        refine mapM_cons_ok ?_ (ih tail)
        rw [head]
        rfl

theorem summarizeVersion_tiled (v : IpVersion) (items : List (Item v)) :
    ∃ nets : List (IpNetwork v),
      summarizeVersion v (items.map Item.span) = .ok (nets.map (Sigma.mk v)) ∧
      (∀ x, (∃ n ∈ nets, n.block.Holds x) ↔ ∃ i ∈ items, i.Covers x) ∧
      (nets.Pairwise fun a b => a.last < b.address) ∧
      ∀ n ∈ nets, Block.Maximal (fun x => ∃ i ∈ items, i.Covers x) n.block := by
  obtain ⟨separated,covers⟩ := mergeSpans_spec (items.map Item.span) (by
    intro s member
    obtain ⟨i,_,rfl⟩ := List.mem_map.mp member
    exact i.span_valid.1)
  have same : ∀ x, (∃ s ∈ mergeSpans (items.map Item.span), s.Holds x) ↔ ∃ i ∈ items, i.Covers x := by
    intro x
    rw [covers]
    simp [Item.Covers]
  have alike : (fun x => ∃ s ∈ mergeSpans (items.map Item.span), s.Holds x) = fun x => ∃ i ∈ items, i.Covers x :=
    funext fun x => propext (same x)
  obtain ⟨nets,made,tiled,ordered,maximal⟩ := runs_tiled v (fun x => ∃ i ∈ items, i.Covers x) (by
    rintro x ⟨i,_,_,high⟩
    exact Nat.lt_of_le_of_lt high i.span_valid.2) (mergeSpans (items.map Item.span)) separated (by
    intro s member
    obtain ⟨run,ends,edge⟩ := separated.runs member
    refine ⟨fun x held => (same x).mp (run x held),fun held => ends ((same _).mpr held),?_⟩
    rw [← alike]
    exact edge)
  exact ⟨nets,mapM_tagged (Sigma.mk v) made,fun x => (tiled x).trans (same x),ordered,maximal⟩

theorem summarize_same (v : IpVersion) (items : List (Item v)) (nets : List (IpNetwork v))
    (made : summarizeVersion v (items.map Item.span) = .ok (nets.map (Sigma.mk v))) :
    summarize (items.map (Sigma.mk v)) = .ok (nets.map (Sigma.mk v)) := by
  unfold summarize
  cases v with
  | ip4 =>
    rw [spansOf_same,spansOf_other (by decide)]
    dsimp only
    rw [made]
    simp [summarizeVersion,mergeSpans,bind,Except.bind,pure,Except.pure]
  | ip6 =>
    rw [spansOf_same,spansOf_other (by decide)]
    dsimp only
    rw [made]
    simp [summarizeVersion,mergeSpans,bind,Except.bind,pure,Except.pure]

theorem summarize_minimal (v : IpVersion) (items : List (Item v)) :
    ∃ nets : List (IpNetwork v), summarize (items.map (Sigma.mk v)) = .ok (nets.map (Sigma.mk v)) ∧
      (nets.Pairwise fun a b => a.last < b.address) ∧
      (∀ x, (∃ n ∈ nets, n.contains x = true) ↔ ∃ i ∈ items, i.Covers x) ∧
      ∀ others : List (IpNetwork v), (∀ x, (∃ n ∈ others, n.contains x = true) ↔ ∃ i ∈ items, i.Covers x) →
        nets.length ≤ others.length := by
  obtain ⟨nets,made,covers,ordered,maximal⟩ := summarizeVersion_tiled v items
  refine ⟨nets,summarize_same v items nets made,ordered,?_,?_⟩
  · intro x
    rw [← covers]
    simp only [IpNetwork.contains_iff]
  · intro others same
    have fewest := Block.fewest (nets.map IpNetwork.block) (others.map IpNetwork.block) (by
      intro g member
      obtain ⟨n,inside,rfl⟩ := List.mem_map.mp member
      exact maximal n inside) (by
      rw [List.pairwise_map]
      refine ordered.imp ?_
      intro a b less x inA inB
      have low := inB.1
      have high := (IpNetwork.contains_iff a x).mpr inA
      simp only [IpNetwork.contains,decide_eq_true_eq] at high
      simp only [IpNetwork.block] at low
      omega) (by
      intro g member
      obtain ⟨n,inside,rfl⟩ := List.mem_map.mp member
      exact (covers n.address).mp ⟨n,inside,n.block.holds_start⟩) (by
      intro w member x held
      obtain ⟨n,inside,rfl⟩ := List.mem_map.mp member
      exact (same x).mp ⟨n,inside,(IpNetwork.contains_iff n x).mpr held⟩) (by
      intro x held
      obtain ⟨n,inside,holds⟩ := (same x).mpr held
      exact ⟨n.block,List.mem_map_of_mem inside,(IpNetwork.contains_iff n x).mp holds⟩)
    simpa using fewest

end PmdPytcp.NetAddr
