import PmdPytcp.Tcp.Congestion

namespace PmdPytcp.Tcp
open Arc

def rank (base : Seq32) (xmitTs : Nat) (endSeq : Seq32) : Nat := xmitTs * 2^32 + arc base endSeq

theorem rank_lt_of_lt {base : Seq32} {x y : Nat} (earlier : x < y) (d e : Seq32) : rank base x d < rank base y e := by
  have first := arc_lt base d
  unfold rank
  omega

theorem rank_inj {base : Seq32} {x y : Nat} {d e : Seq32} (same : rank base x d = rank base y e) : x = y ∧ d = e := by
  have first := arc_lt base d
  have second := arc_lt base e
  unfold rank at same
  have times : x = y := by omega
  have ends : arc base d = arc base e := by omega
  refine ⟨times,?_⟩
  rw [← add_arc base d,ends,add_arc]

theorem sentAfter_rank {base : Seq32} {x y : Nat} {d e : Seq32}
    (near : x = y → arc base d < 0x8000_0000 ∧ arc base e < 0x8000_0000) :
    rackSentAfter x d y e = true ↔ rank base y e < rank base x d := by
  unfold rackSentAfter
  by_cases same : x = y
  · obtain ⟨nearD,nearE⟩ := near same
    rw [if_neg (not_not.mpr same)]
    unfold gt32 rank
    rw [lt32_near nearE nearD]
    omega
  · rw [if_pos same,decide_eq_true_iff]
    constructor
    · exact fun earlier => rank_lt_of_lt earlier e d
    · intro less
      by_contra late
      have reverse := @rank_lt_of_lt base x y (lt_of_le_of_ne (not_lt.mp late) same) d e
      omega

theorem rank_shift (base : Seq32) (x : Nat) (d turn : Seq32) : rank (base + turn) x (d + turn) = rank base x d := by
  unfold rank
  rw [arc_shift]

-- Lost segments carry no time, and an echo may speak of an earlier copy.
def Eligible (echo : Option Nat) (s : RackSegment) : Prop :=
  s.xmitTs ≠ infiniteTs ∧ (s.retransmitted = true → echo.any (fun e => decide (e < s.xmitTs)) = false)

def Original (s : RackSegment) : Prop := s.retransmitted = false ∧ s.xmitTs ≠ infiniteTs

-- Its RTT is not below the floor the acknowledgement found, or there was none.
def Unhurried (minRttMs nowMs : Nat) (echo : Option Nat) (segs : List RackSegment) (s : RackSegment) : Prop :=
  if minRttMs = 0 then ∀ e ∈ segs, Eligible echo e → s.xmitTs ≤ e.xmitTs else minRttMs ≤ nowMs - s.xmitTs

-- A hurried copy counts behind an original of its own millisecond.
def Behind (segs : List RackSegment) (s : RackSegment) : Prop :=
  ∃ o ∈ segs, Original o ∧ o.xmitTs = s.xmitTs ∧ o.endSeq.toNat < s.endSeq.toNat

def Accepts (minRttMs nowMs : Nat) (echo : Option Nat) (segs : List RackSegment) (s : RackSegment) : Prop :=
  Eligible echo s ∧ (s.retransmitted = false ∨ Unhurried minRttMs nowMs echo segs s ∨ Behind segs s)

theorem Original.eligible (original : Original s) : Eligible echo s :=
  ⟨original.2,fun again => by rw [original.1] at again; cases again⟩

theorem Original.accepts (original : Original s) : Accepts m now echo segs s := ⟨original.eligible,.inl original.1⟩

def floorOf (minRttMs rttMs : Nat) : Nat := if minRttMs = 0 then rttMs else min minRttMs rttMs

-- The sort key of `rack_update`: plain integers.
def Keyed (a b : RackSegment) : Prop := a.xmitTs < b.xmitTs ∨ a.xmitTs = b.xmitTs ∧ a.endSeq.toNat ≤ b.endSeq.toNat

instance : DecidableRel Keyed := fun _ _ => inferInstanceAs (Decidable (_ ∨ _ ∧ _))
instance : Std.Total Keyed := ⟨fun _ _ => by unfold Keyed; omega⟩
instance : IsTrans RackSegment Keyed := ⟨fun _ _ _ => by unfold Keyed; omega⟩

section Loop
variable {base : Seq32} {prior : RackClock} {now : Nat} {echo : Option Nat} {whole : List RackSegment}

-- After the segments of `done`, those of `taken` have been counted.
structure Looped (base : Seq32) (prior : RackClock) (now : Nat) (echo : Option Nat) (whole done taken : List RackSegment)
    (c : RackClock) : Prop where
  counted : ∀ s ∈ done, Accepts prior.minRttMs now echo whole s → s ∈ taken
  reason : ∀ s ∈ taken, ∃ a ∈ done, Accepts prior.minRttMs now echo whole a ∧ a.xmitTs = s.xmitTs ∧ a.endSeq = s.endSeq
  idle : taken = [] → c = prior
  clock : taken ≠ [] → ∃ t ∈ taken, (∀ s ∈ taken, s.xmitTs ≤ t.xmitTs) ∧ c.rackRttMs = now - t.xmitTs ∧
    c.minRttMs = floorOf prior.minRttMs (now - t.xmitTs)
  rack : c.rackXmitTs = prior.rackXmitTs ∧ c.rackEndSeq = prior.rackEndSeq ∨
    ∃ s ∈ taken, c.rackXmitTs = s.xmitTs ∧ c.rackEndSeq = s.endSeq
  top : ∀ s ∈ taken, rank base s.xmitTs s.endSeq ≤ rank base c.rackXmitTs c.rackEndSeq
  kept : rank base prior.rackXmitTs prior.rackEndSeq ≤ rank base c.rackXmitTs c.rackEndSeq

-- The ends compared belong to one flight, and the clock does not run back.
structure Comparable (base : Seq32) (prior : RackClock) (now : Nat) (segs : List RackSegment) : Prop where
  near : ∀ s ∈ segs, arc base s.endSeq < 0x8000_0000
  prior : (∃ s ∈ segs, s.xmitTs = prior.rackXmitTs) → arc base prior.rackEndSeq < 0x8000_0000
  sent : ∀ s ∈ segs, s.xmitTs = infiniteTs ∨ s.xmitTs ≤ now

theorem Looped.start : Looped base prior now echo whole [] [] prior where
  counted := by simp
  reason := by simp
  idle := fun _ => rfl
  clock := fun some => absurd rfl some
  rack := .inl ⟨rfl,rfl⟩
  top := by simp
  kept := Nat.le_refl _

theorem Looped.skip (looped : Looped base prior now echo whole done taken c) (out : ¬Accepts prior.minRttMs now echo whole s) :
    Looped base prior now echo whole (done ++ [s]) taken c where
  counted := by
    intro d member accepts
    rcases List.mem_append.mp member with old | fresh
    · exact looped.counted d old accepts
    · rw [List.mem_singleton.mp fresh] at accepts
      exact absurd accepts out
  reason := by
    intro t member
    obtain ⟨a,belongs,holds⟩ := looped.reason t member
    exact ⟨a,List.mem_append_left _ belongs,holds⟩
  idle := looped.idle
  clock := looped.clock
  rack := looped.rack
  top := looped.top
  kept := looped.kept

theorem Looped.count (looped : Looped base prior now echo whole done taken c) (s : RackSegment)
    (reason : ∃ a ∈ done ++ [s], Accepts prior.minRttMs now echo whole a ∧ a.xmitTs = s.xmitTs ∧ a.endSeq = s.endSeq)
    (last : ∀ d ∈ taken, d.xmitTs ≤ s.xmitTs)
    (compare : rackSentAfter s.xmitTs s.endSeq c.rackXmitTs c.rackEndSeq = true ↔
      rank base c.rackXmitTs c.rackEndSeq < rank base s.xmitTs s.endSeq) :
    Looped base prior now echo whole (done ++ [s]) (taken ++ [s])
      {minRttMs := if c.minRttMs = 0 ∨ now - s.xmitTs < c.minRttMs then now - s.xmitTs else c.minRttMs
       rackRttMs := now - s.xmitTs
       rackXmitTs := if rackSentAfter s.xmitTs s.endSeq c.rackXmitTs c.rackEndSeq then s.xmitTs else c.rackXmitTs
       rackEndSeq := if rackSentAfter s.xmitTs s.endSeq c.rackXmitTs c.rackEndSeq then s.endSeq else c.rackEndSeq} := by
  refine ⟨?_,?_,by simp,?_,?_,?_,?_⟩
  · intro d member accepts
    rcases List.mem_append.mp member with old | fresh
    · exact List.mem_append_left _ (looped.counted d old accepts)
    · exact List.mem_append_right _ fresh
  · intro t member
    rcases List.mem_append.mp member with old | fresh
    · obtain ⟨a,belongs,holds⟩ := looped.reason t old
      exact ⟨a,List.mem_append_left _ belongs,holds⟩
    · rw [List.mem_singleton.mp fresh]
      exact reason
  · intro _
    refine ⟨s,List.mem_append_right _ (List.mem_singleton_self s),?_,rfl,?_⟩
    · intro t member
      rcases List.mem_append.mp member with old | fresh
      · exact last t old
      · rw [List.mem_singleton.mp fresh]
    · simp only [floorOf]
      by_cases none : taken = []
      · rw [looped.idle none]
        split <;> split <;> omega
      · obtain ⟨t,belongs,_,_,floor⟩ := looped.clock none
        have before := last t belongs
        simp only [floorOf] at floor
        rw [floor]
        split <;> split <;> omega
  · cases after : rackSentAfter s.xmitTs s.endSeq c.rackXmitTs c.rackEndSeq with
    | true => exact .inr ⟨s,List.mem_append_right _ (List.mem_singleton_self s),by simp,by simp⟩
    | false =>
      simp only [Bool.false_eq_true,if_false]
      rcases looped.rack with same | ⟨t,belongs,same⟩
      · exact .inl same
      · exact .inr ⟨t,List.mem_append_left _ belongs,same⟩
  · intro t member
    cases after : rackSentAfter s.xmitTs s.endSeq c.rackXmitTs c.rackEndSeq with
    | true =>
      simp only [if_true]
      rcases List.mem_append.mp member with old | fresh
      · exact (looped.top t old).trans (compare.mp after).le
      · rw [List.mem_singleton.mp fresh]
    | false =>
      simp only [Bool.false_eq_true,if_false]
      rcases List.mem_append.mp member with old | fresh
      · exact looped.top t old
      · rw [List.mem_singleton.mp fresh]
        rw [after] at compare
        simpa using compare
  · cases after : rackSentAfter s.xmitTs s.endSeq c.rackXmitTs c.rackEndSeq with
    | true => exact looped.kept.trans (compare.mp after).le
    | false => exact looped.kept

-- The list is sorted, so what was done stands before what is next.
structure Sorted (whole done : List RackSegment) (s : RackSegment) (rest : List RackSegment) : Prop where
  split : whole = done ++ s :: rest
  order : whole.Pairwise Keyed

theorem Sorted.before (sorted : Sorted whole done s rest) (member : d ∈ done) : Keyed d s := by
  have order := sorted.order
  rw [sorted.split,List.pairwise_append] at order
  exact order.2.2 d member s (List.mem_cons_self ..)

theorem Sorted.earlier (sorted : Sorted whole done s rest) (member : o ∈ whole) (known : a ∈ done ++ [s])
    (same : o.xmitTs = a.xmitTs) (less : o.endSeq.toNat < a.endSeq.toNat) : o ∈ done := by
  have order := sorted.order
  rw [sorted.split] at member order
  have whole := List.pairwise_append.mp order
  rcases List.mem_append.mp member with old | later
  · exact old
  · exfalso
    have sBefore : o = s ∨ Keyed s o := by
      rcases List.mem_cons.mp later with here | after
      · exact .inl here
      · exact .inr ((List.pairwise_cons.mp whole.2.1).1 o after)
    have aBefore : a = s ∨ Keyed a s := by
      rcases List.mem_append.mp known with old | here
      · exact .inr (whole.2.2 a old s (List.mem_cons_self ..))
      · exact .inl (List.mem_singleton.mp here)
    simp only [Keyed] at sBefore aBefore
    rcases sBefore with rfl | sBefore <;> rcases aBefore with rfl | aBefore <;> omega

theorem Looped.eligible (looped : Looped base prior now echo whole done taken c) (member : t ∈ taken) :
    ∃ a ∈ done, Accepts prior.minRttMs now echo whole a ∧ a.xmitTs = t.xmitTs := by
  obtain ⟨a,belongs,accepts,time,_⟩ := looped.reason t member
  exact ⟨a,belongs,accepts,time⟩

theorem Looped.hurried (looped : Looped base prior now echo whole done taken c) (sorted : Sorted whole done s rest)
    (again : s.retransmitted = true) (floor : 0 < c.minRttMs) (below : now - s.xmitTs < c.minRttMs) :
    ¬Accepts prior.minRttMs now echo whole s := by
  have clock : taken = [] ∧ c.minRttMs = prior.minRttMs ∨
      ∃ t ∈ taken, (∀ d ∈ taken, d.xmitTs ≤ t.xmitTs) ∧ c.minRttMs = floorOf prior.minRttMs (now - t.xmitTs) := by
    by_cases none : taken = []
    · exact .inl ⟨none,by rw [looped.idle none]⟩
    · obtain ⟨t,belongs,latest,_,value⟩ := looped.clock none
      exact .inr ⟨t,belongs,latest,value⟩
  rintro ⟨_,original | unhurried | ⟨o,member,original,same,less⟩⟩
  · rw [again] at original
    cases original
  · unfold Unhurried at unhurried
    rcases clock with ⟨_,value⟩ | ⟨t,belongs,_,value⟩
    · split at unhurried <;> omega
    · obtain ⟨a,aDone,accepts,time⟩ := looped.eligible belongs
      have aWhole : a ∈ whole := by
        rw [sorted.split]
        exact List.mem_append_left _ aDone
      unfold floorOf at value
      split at unhurried
      · have bound := unhurried a aWhole accepts.1
        split at value <;> omega
      · split at value <;> omega
  · have done := sorted.earlier member (List.mem_append_right _ (List.mem_singleton_self s)) same less
    have counted := looped.counted o done original.accepts
    rcases clock with ⟨none,_⟩ | ⟨t,belongs,latest,value⟩
    · rw [none] at counted
      cases counted
    · have bound := latest o counted
      unfold floorOf at value
      split at value <;> omega

theorem Looped.unhurried (looped : Looped base prior now echo whole done taken c) (sorted : Sorted whole done s rest)
    (comparable : Comparable base prior now whole) (eligible : Eligible echo s)
    (passes : s.retransmitted = true → 0 < c.minRttMs → c.minRttMs ≤ now - s.xmitTs) :
    ∃ a ∈ done ++ [s], Accepts prior.minRttMs now echo whole a ∧ a.xmitTs = s.xmitTs ∧ a.endSeq = s.endSeq := by
  have here : s ∈ done ++ [s] := List.mem_append_right _ (List.mem_singleton_self s)
  have mem_done {d : RackSegment} (member : d ∈ done) : d ∈ whole := by
    rw [sorted.split]
    exact List.mem_append_left _ member
  by_cases stale : s.retransmitted = false ∨ Unhurried prior.minRttMs now echo whole s
  · exact ⟨s,here,⟨eligible,stale.imp id .inl⟩,rfl,rfl⟩
  obtain ⟨again,hurried⟩ := not_or.mp stale
  have sSent : s.xmitTs ≤ now := by
    have sWhole : s ∈ whole := by
      rw [sorted.split]
      exact List.mem_append_right _ (List.mem_cons_self ..)
    exact (comparable.sent s sWhole).resolve_left eligible.1
  -- something was counted in this very millisecond
  have counted : ∃ t ∈ taken, t.xmitTs = s.xmitTs := by
    have passed := passes (by simpa using again)
    by_cases none : taken = []
    · exfalso
      have value : c.minRttMs = prior.minRttMs := by rw [looped.idle none]
      unfold Unhurried at hurried
      split at hurried
      · rename_i unset
        push Not at hurried
        obtain ⟨e,member,eEligible,earlier⟩ := hurried
        classical
        obtain ⟨first,firstMem,least⟩ := Finset.exists_min_image
          (whole.toFinset.filter fun e => Eligible echo e) (fun e => e.xmitTs)
          ⟨e,Finset.mem_filter.mpr ⟨List.mem_toFinset.mpr member,eEligible⟩⟩
        obtain ⟨firstWhole,firstEligible⟩ := Finset.mem_filter.mp firstMem
        have bound := least e (Finset.mem_filter.mpr ⟨List.mem_toFinset.mpr member,eEligible⟩)
        have accepts : Accepts prior.minRttMs now echo whole first := by
          refine ⟨firstEligible,.inr (.inl ?_)⟩
          unfold Unhurried
          rw [if_pos unset]
          intro d dMember dEligible
          exact least d (Finset.mem_filter.mpr ⟨List.mem_toFinset.mpr dMember,dEligible⟩)
        have done : first ∈ done := by
          have firstIn := List.mem_toFinset.mp firstWhole
          have order := sorted.order
          rw [sorted.split] at firstIn order
          rcases List.mem_append.mp firstIn with old | later
          · exact old
          · exfalso
            rcases List.mem_cons.mp later with same | after
            · rw [same] at bound
              omega
            · have key := (List.pairwise_cons.mp (List.pairwise_append.mp order).2.1).1 first after
              simp only [Keyed] at key
              omega
        have member := looped.counted first done accepts
        rw [none] at member
        cases member
      · omega
    · obtain ⟨t,belongs,latest,_,value⟩ := looped.clock none
      refine ⟨t,belongs,?_⟩
      obtain ⟨a,aDone,accepts,time⟩ := looped.eligible belongs
      have key := sorted.before aDone
      have aSent := (comparable.sent a (mem_done aDone)).resolve_left accepts.1.1
      simp only [Keyed] at key
      unfold floorOf at value
      unfold Unhurried at hurried
      split at hurried
      · split at value <;> omega
      · split at value <;> omega
  obtain ⟨t,belongs,time⟩ := counted
  obtain ⟨a,aDone,accepts,aTime⟩ := looped.eligible belongs
  -- so an original was
  have original : ∃ o ∈ done, Original o ∧ o.xmitTs = s.xmitTs := by
    rcases accepts with ⟨aEligible,original | unhurried | ⟨o,member,original,same,less⟩⟩
    · exact ⟨a,aDone,⟨original,aEligible.1⟩,by omega⟩
    · exfalso
      unfold Unhurried at hurried unhurried
      rw [aTime,time] at unhurried
      exact hurried unhurried
    · exact ⟨o,sorted.earlier member (List.mem_append_left _ aDone) same less,original,by omega⟩
  obtain ⟨o,oDone,oOriginal,oTime⟩ := original
  have key := sorted.before oDone
  simp only [Keyed] at key
  by_cases less : o.endSeq.toNat < s.endSeq.toNat
  · exact ⟨s,here,⟨eligible,.inr (.inr ⟨o,mem_done oDone,oOriginal,oTime,less⟩)⟩,rfl,rfl⟩
  · exact ⟨o,List.mem_append_left _ oDone,oOriginal.accepts,oTime,BitVec.eq_of_toNat_eq (by omega)⟩

theorem rackUpdateOne_cases (now : Nat) (echo : Option Nat) (c : RackClock) (s : RackSegment) :
    rackUpdateOne now echo c s = c ∧
      (¬Eligible echo s ∨ s.retransmitted = true ∧ 0 < c.minRttMs ∧ now - s.xmitTs < c.minRttMs) ∨
    rackUpdateOne now echo c s =
      {minRttMs := if c.minRttMs = 0 ∨ now - s.xmitTs < c.minRttMs then now - s.xmitTs else c.minRttMs
       rackRttMs := now - s.xmitTs
       rackXmitTs := if rackSentAfter s.xmitTs s.endSeq c.rackXmitTs c.rackEndSeq then s.xmitTs else c.rackXmitTs
       rackEndSeq := if rackSentAfter s.xmitTs s.endSeq c.rackXmitTs c.rackEndSeq then s.endSeq else c.rackEndSeq} ∧
      Eligible echo s ∧ (s.retransmitted = true → 0 < c.minRttMs → c.minRttMs ≤ now - s.xmitTs) := by
  unfold rackUpdateOne Eligible
  simp only
  split
  · rename_i lost
    exact .inl ⟨rfl,.inl fun eligible => eligible.1 lost⟩
  split
  · rename_i timed echoed
    rw [Bool.and_eq_true] at echoed
    refine .inl ⟨rfl,.inl fun eligible => ?_⟩
    rw [eligible.2 echoed.1] at echoed
    cases echoed.2
  split
  · rename_i timed silent hurried
    simp only [Bool.and_eq_true,decide_eq_true_eq] at hurried
    exact .inl ⟨rfl,.inr ⟨hurried.1.1,hurried.1.2,hurried.2⟩⟩
  · rename_i timed silent calm
    refine .inr ⟨rfl,⟨timed,?_⟩,?_⟩
    · intro again
      simpa [again] using silent
    · intro again floor
      simpa [again,floor] using calm

theorem Looped.step (looped : Looped base prior now echo whole done taken c) (sorted : Sorted whole done s rest)
    (comparable : Comparable base prior now whole) :
    ∃ taken, Looped base prior now echo whole (done ++ [s]) taken (rackUpdateOne now echo c s) := by
  have sWhole : s ∈ whole := by
    rw [sorted.split]
    exact List.mem_append_right _ (List.mem_cons_self ..)
  have mem_done {d : RackSegment} (member : d ∈ done) : d ∈ whole := by
    rw [sorted.split]
    exact List.mem_append_left _ member
  rcases rackUpdateOne_cases now echo c s with ⟨same,out | ⟨again,floor,below⟩⟩ | ⟨moved,eligible,passes⟩
  · rw [same]
    exact ⟨taken,looped.skip fun accepts => out accepts.1⟩
  · rw [same]
    exact ⟨taken,looped.skip (looped.hurried sorted again floor below)⟩
  · rw [moved]
    refine ⟨taken ++ [s],looped.count s (looped.unhurried sorted comparable eligible passes) ?_ ?_⟩
    · intro t member
      obtain ⟨a,aDone,_,time⟩ := looped.eligible member
      have key := sorted.before aDone
      simp only [Keyed] at key
      omega
    · apply sentAfter_rank
      intro time
      refine ⟨comparable.near s sWhole,?_⟩
      rcases looped.rack with ⟨x,e⟩ | ⟨t,member,x,e⟩
      · rw [e]
        exact comparable.prior ⟨s,sWhole,by omega⟩
      · rw [e]
        obtain ⟨a,aDone,_,_,ends⟩ := looped.reason t member
        rw [← ends]
        exact comparable.near a (mem_done aDone)

theorem Looped.run (looped : Looped base prior now echo whole done taken c) (rest : List RackSegment)
    (split : whole = done ++ rest) (order : whole.Pairwise Keyed) (comparable : Comparable base prior now whole) :
    ∃ taken, Looped base prior now echo whole whole taken (rest.foldl (rackUpdateOne now echo) c) := by
  induction rest generalizing done taken c with
  | nil =>
    rw [List.append_nil] at split
    rw [← split] at looped
    exact ⟨taken,looped⟩
  | cons s rest ih =>
    obtain ⟨more,stepped⟩ := looped.step ⟨split,order⟩ comparable
    exact ih stepped (by rw [split,List.append_assoc]; rfl)

end Loop

structure Settles (base : Seq32) (prior : RackClock) (now : Nat) (counts : RackSegment → Prop) (segs : List RackSegment)
    (c : RackClock) : Prop where
  idle : (∀ s ∈ segs, ¬counts s) → c = prior
  clock : ∀ t ∈ segs, counts t → (∀ s ∈ segs, counts s → s.xmitTs ≤ t.xmitTs) →
    c.rackRttMs = now - t.xmitTs ∧ c.minRttMs = floorOf prior.minRttMs (now - t.xmitTs)
  rack : c.rackXmitTs = prior.rackXmitTs ∧ c.rackEndSeq = prior.rackEndSeq ∨
    ∃ s ∈ segs, counts s ∧ c.rackXmitTs = s.xmitTs ∧ c.rackEndSeq = s.endSeq
  top : ∀ s ∈ segs, counts s → rank base s.xmitTs s.endSeq ≤ rank base c.rackXmitTs c.rackEndSeq
  kept : rank base prior.rackXmitTs prior.rackEndSeq ≤ rank base c.rackXmitTs c.rackEndSeq

theorem rackUpdate_settles {base : Seq32} {prior : RackClock} {now : Nat} {segs : List RackSegment} (echo : Option Nat)
    (comparable : Comparable base prior now segs) :
    Settles base prior now (Accepts prior.minRttMs now echo segs) segs (rackUpdate segs now echo prior) := by
  have members : ∀ s, s ∈ segs.insertionSort Keyed ↔ s ∈ segs := fun s => List.mem_insertionSort Keyed
  have order : (segs.insertionSort Keyed).Pairwise Keyed := List.pairwise_insertionSort _ _
  have same (s : RackSegment) : Accepts prior.minRttMs now echo (segs.insertionSort Keyed) s ↔
      Accepts prior.minRttMs now echo segs s := by
    simp only [Accepts,Unhurried,Behind,members]
  have all : Comparable base prior now (segs.insertionSort Keyed) := by
    refine ⟨?_,?_,?_⟩
    · simpa only [members] using comparable.near
    · simpa only [members] using comparable.prior
    · simpa only [members] using comparable.sent
  obtain ⟨taken,looped⟩ := Looped.start.run (segs.insertionSort Keyed) (List.nil_append _).symm order all
  have update : (segs.insertionSort Keyed).foldl (rackUpdateOne now echo) prior = rackUpdate segs now echo prior := rfl
  rw [update] at looped
  have counted : ∀ s ∈ segs, Accepts prior.minRttMs now echo segs s → s ∈ taken := fun s member accepts =>
    looped.counted s ((members s).mpr member) ((same s).mpr accepts)
  have reason : ∀ s ∈ taken, ∃ a ∈ segs, Accepts prior.minRttMs now echo segs a ∧ a.xmitTs = s.xmitTs ∧
      a.endSeq = s.endSeq := by
    intro s member
    obtain ⟨a,belongs,accepts,key⟩ := looped.reason s member
    exact ⟨a,(members a).mp belongs,(same a).mp accepts,key⟩
  refine ⟨?_,?_,?_,?_,looped.kept⟩
  · intro none
    apply looped.idle
    rw [List.eq_nil_iff_forall_not_mem]
    intro s member
    obtain ⟨a,belongs,accepts,_⟩ := reason s member
    exact none a belongs accepts
  · intro t member accepts latest
    obtain ⟨l,belongs,last,rtt,floor⟩ := looped.clock (List.ne_nil_of_mem (counted t member accepts))
    obtain ⟨a,aMember,aAccepts,time,_⟩ := reason l belongs
    have forth := latest a aMember aAccepts
    have back := last t (counted t member accepts)
    have equal : l.xmitTs = t.xmitTs := by omega
    rw [equal] at rtt floor
    exact ⟨rtt,floor⟩
  · rcases looped.rack with prior | ⟨s,member,x,e⟩
    · exact .inl prior
    · obtain ⟨a,belongs,accepts,time,ends⟩ := reason s member
      exact .inr ⟨a,belongs,accepts,by omega,by rw [ends]; exact e⟩
  · intro s member accepts
    exact looped.top s (counted s member accepts)

def RackSegment.turned (turn : Seq32) (s : RackSegment) : RackSegment := {s with endSeq := s.endSeq + turn}

def RackClock.turned (turn : Seq32) (c : RackClock) : RackClock := {c with rackEndSeq := c.rackEndSeq + turn}

def Counted (minRttMs nowMs : Nat) (echo : Option Nat) (segs : List RackSegment) (s : RackSegment) : Prop :=
  Eligible echo s ∧ (s.retransmitted = false ∨ Unhurried minRttMs nowMs echo segs s)

-- A copy below the floor that shares its millisecond with an original and was
-- sent after all of them, and after everything delivered before. It counts when
-- the plain order of the ends puts an original first, and not otherwise.
structure Overtakes (prior : RackClock) (now : Nat) (echo : Option Nat) (segs : List RackSegment) (a : RackSegment) : Prop where
  again : a.retransmitted = true
  eligible : Eligible echo a
  hurried : ¬Unhurried prior.minRttMs now echo segs a
  original : ∃ o ∈ segs, Original o ∧ o.xmitTs = a.xmitTs
  beyond : ∀ o ∈ segs, Original o → rackSentAfter a.xmitTs a.endSeq o.xmitTs o.endSeq = true
  newest : rackSentAfter a.xmitTs a.endSeq prior.rackXmitTs prior.rackEndSeq = true

section Turn
variable {base : Seq32} {prior : RackClock} {now : Nat} {echo : Option Nat} {segs : List RackSegment}

theorem Comparable.after (comparable : Comparable base prior now segs) (first : a ∈ segs) (second : b ∈ segs) :
    rackSentAfter a.xmitTs a.endSeq b.xmitTs b.endSeq = true ↔
      rank base b.xmitTs b.endSeq < rank base a.xmitTs a.endSeq :=
  sentAfter_rank fun _ => ⟨comparable.near a first,comparable.near b second⟩

theorem Comparable.after_prior (comparable : Comparable base prior now segs) (member : a ∈ segs) :
    rackSentAfter a.xmitTs a.endSeq prior.rackXmitTs prior.rackEndSeq = true ↔
      rank base prior.rackXmitTs prior.rackEndSeq < rank base a.xmitTs a.endSeq :=
  sentAfter_rank fun time => ⟨comparable.near a member,comparable.prior ⟨a,member,time⟩⟩

theorem Original.counted (original : Original s) : Counted m now echo segs s := ⟨original.eligible,.inl original.1⟩

theorem Counted.accepts (counted : Counted m now echo segs s) : Accepts m now echo segs s :=
  ⟨counted.1,counted.2.imp id .inl⟩

theorem Accepts.counted (accepts : Accepts m now echo segs s) : Counted m now echo segs s ∨
    s.retransmitted = true ∧ ¬Unhurried m now echo segs s ∧ ∃ o ∈ segs, Original o ∧ o.xmitTs = s.xmitTs := by
  by_cases counted : Counted m now echo segs s
  · exact .inl counted
  · right
    obtain ⟨eligible,original | unhurried | ⟨o,member,original,same,_⟩⟩ := accepts
    · exact absurd ⟨eligible,.inl original⟩ counted
    · exact absurd ⟨eligible,.inr unhurried⟩ counted
    · refine ⟨?_,fun unhurried => counted ⟨eligible,.inr unhurried⟩,o,member,original,same⟩
      by_contra once
      exact counted ⟨eligible,.inl (by simpa using once)⟩

theorem Settles.counted (settles : Settles base prior now (Accepts prior.minRttMs now echo segs) segs c)
    (comparable : Comparable base prior now segs) (plain : ¬∃ a ∈ segs, Overtakes prior now echo segs a) :
    Settles base prior now (Counted prior.minRttMs now echo segs) segs c where
  idle := by
    intro none
    apply settles.idle
    intro s member accepts
    rcases accepts.counted with counted | ⟨_,_,o,belongs,original,_⟩
    · exact none s member counted
    · exact none o belongs original.counted
  clock := by
    intro t member counted latest
    apply settles.clock t member counted.accepts
    intro s belongs accepts
    rcases accepts.counted with other | ⟨_,_,o,oMember,original,time⟩
    · exact latest s belongs other
    · have bound := latest o oMember original.counted
      omega
  rack := by
    rcases settles.rack with old | ⟨s,member,accepts,x,e⟩
    · exact .inl old
    · rcases accepts.counted with counted | ⟨again,hurried,original⟩
      · exact .inr ⟨s,member,counted,x,e⟩
      · have rest : ¬((∀ o ∈ segs, Original o → rackSentAfter s.xmitTs s.endSeq o.xmitTs o.endSeq = true) ∧
            rackSentAfter s.xmitTs s.endSeq prior.rackXmitTs prior.rackEndSeq = true) := fun ends =>
          plain ⟨s,member,again,accepts.1,hurried,original,ends.1,ends.2⟩
        have key : rank base c.rackXmitTs c.rackEndSeq = rank base s.xmitTs s.endSeq := by rw [x,e]
        rcases not_and_or.mp rest with earlier | older
        · push Not at earlier
          obtain ⟨o,oMember,oOriginal,later⟩ := earlier
          have order := mt (comparable.after member oMember).mpr later
          have bound := settles.top o oMember oOriginal.accepts
          obtain ⟨times,ends⟩ := rank_inj (by omega : rank base c.rackXmitTs c.rackEndSeq =
            rank base o.xmitTs o.endSeq)
          exact .inr ⟨o,oMember,oOriginal.counted,times,ends⟩
        · have order := mt (comparable.after_prior member).mpr older
          have bound := settles.kept
          exact .inl (rank_inj (by omega : rank base c.rackXmitTs c.rackEndSeq =
            rank base prior.rackXmitTs prior.rackEndSeq))
  top := fun s member counted => settles.top s member counted.accepts
  kept := settles.kept

theorem settles_rank (one : Settles base prior now counts segs c) (two : Settles base prior now counts segs d) :
    rank base c.rackXmitTs c.rackEndSeq ≤ rank base d.rackXmitTs d.rackEndSeq := by
  rcases one.rack with ⟨x,e⟩ | ⟨s,member,counted,x,e⟩
  · rw [x,e]
    exact two.kept
  · rw [x,e]
    exact two.top s member counted

theorem settles_unique (one : Settles base prior now counts segs c) (two : Settles base prior now counts segs d) : c = d := by
  obtain ⟨times,ends⟩ := rank_inj (le_antisymm (settles_rank one two) (settles_rank two one))
  by_cases none : ∀ s ∈ segs, ¬counts s
  · rw [one.idle none,two.idle none]
  · push Not at none
    obtain ⟨s,member,counted⟩ := none
    classical
    obtain ⟨t,belongs,latest⟩ := Finset.exists_max_image (segs.toFinset.filter counts) (fun s => s.xmitTs)
      ⟨s,Finset.mem_filter.mpr ⟨List.mem_toFinset.mpr member,counted⟩⟩
    obtain ⟨tMember,tCounted⟩ := Finset.mem_filter.mp belongs
    have last : ∀ s ∈ segs, counts s → s.xmitTs ≤ t.xmitTs := fun s member counted =>
      latest s (Finset.mem_filter.mpr ⟨List.mem_toFinset.mpr member,counted⟩)
    obtain ⟨rttC,floorC⟩ := one.clock t (List.mem_toFinset.mp tMember) tCounted last
    obtain ⟨rttD,floorD⟩ := two.clock t (List.mem_toFinset.mp tMember) tCounted last
    cases c
    cases d
    simp only at times ends rttC rttD floorC floorD
    rw [times,ends,rttC,rttD,floorC,floorD]

def Moved (turn : Seq32) (segs moved : List RackSegment) : Prop := ∀ x, x ∈ moved ↔ ∃ s ∈ segs, s.turned turn = x

theorem moved_perm {other : List RackSegment} (same : other.Perm segs) (turn : Seq32) :
    Moved turn segs (other.map (RackSegment.turned turn)) := by
  intro x
  rw [List.mem_map]
  simp only [same.mem_iff]

theorem Moved.mem (moved : Moved turn segs segs') (member : s ∈ segs) : s.turned turn ∈ segs' :=
  (moved _).mpr ⟨s,member,rfl⟩

theorem Moved.unhurried (moved : Moved turn segs segs') :
    Unhurried m now echo segs' (s.turned turn) ↔ Unhurried m now echo segs s := by
  have all : (∀ e ∈ segs', Eligible echo e → s.xmitTs ≤ e.xmitTs) ↔ ∀ e ∈ segs, Eligible echo e → s.xmitTs ≤ e.xmitTs := by
    constructor
    · exact fun every e member eligible => every (e.turned turn) (moved.mem member) eligible
    · intro every x member eligible
      obtain ⟨e,belongs,rfl⟩ := (moved x).mp member
      exact every e belongs eligible
  unfold Unhurried
  split
  · exact all
  · exact Iff.rfl

theorem Moved.counted (moved : Moved turn segs segs') :
    Counted m now echo segs' (s.turned turn) ↔ Counted m now echo segs s := by
  unfold Counted
  rw [moved.unhurried]
  exact Iff.rfl

theorem Moved.comparable (moved : Moved turn segs segs') (comparable : Comparable base prior now segs) :
    Comparable (base + turn) (prior.turned turn) now segs' where
  near := by
    intro x member
    obtain ⟨s,belongs,rfl⟩ := (moved x).mp member
    have near := comparable.near s belongs
    simpa only [RackSegment.turned,arc_shift] using near
  prior := by
    rintro ⟨x,member,time⟩
    obtain ⟨s,belongs,rfl⟩ := (moved x).mp member
    have near := comparable.prior ⟨s,belongs,time⟩
    simpa only [RackClock.turned,arc_shift] using near
  sent := by
    intro x member
    obtain ⟨s,belongs,rfl⟩ := (moved x).mp member
    exact comparable.sent s belongs

theorem Moved.overtakes (moved : Moved turn segs segs') (comparable : Comparable base prior now segs)
    (found : ∃ a ∈ segs', Overtakes (prior.turned turn) now echo segs' a) : ∃ a ∈ segs, Overtakes prior now echo segs a := by
  obtain ⟨x,member,overtakes⟩ := found
  obtain ⟨a,belongs,rfl⟩ := (moved x).mp member
  have turnedComparable := moved.comparable comparable
  refine ⟨a,belongs,overtakes.again,overtakes.eligible,fun unhurried => overtakes.hurried (moved.unhurried.mpr unhurried),?_,?_,?_⟩
  · obtain ⟨y,yMember,original,time⟩ := overtakes.original
    obtain ⟨o,oMember,rfl⟩ := (moved y).mp yMember
    exact ⟨o,oMember,original,time⟩
  · intro o oMember original
    have after := (turnedComparable.after member (moved.mem oMember)).mp (overtakes.beyond _ (moved.mem oMember) original)
    simp only [RackSegment.turned,rank_shift] at after
    exact (comparable.after belongs oMember).mpr after
  · have after := (turnedComparable.after_prior member).mp overtakes.newest
    simp only [RackSegment.turned,RackClock.turned,rank_shift] at after
    exact (comparable.after_prior belongs).mpr after

theorem Settles.turned (settles : Settles base prior now (Counted prior.minRttMs now echo segs) segs c)
    (moved : Moved turn segs segs') :
    Settles (base + turn) (prior.turned turn) now (Counted prior.minRttMs now echo segs') segs' (c.turned turn) where
  idle := by
    intro none
    have same := settles.idle fun s member counted => none (s.turned turn) (moved.mem member) (moved.counted.mpr counted)
    rw [same]
  clock := by
    intro x member counted latest
    obtain ⟨t,belongs,rfl⟩ := (moved x).mp member
    exact settles.clock t belongs (moved.counted.mp counted) fun s sMember sCounted =>
      latest (s.turned turn) (moved.mem sMember) (moved.counted.mpr sCounted)
  rack := by
    rcases settles.rack with ⟨x,e⟩ | ⟨s,member,counted,x,e⟩
    · exact .inl ⟨x,congrArg (· + turn) e⟩
    · exact .inr ⟨s.turned turn,moved.mem member,moved.counted.mpr counted,x,congrArg (· + turn) e⟩
  top := by
    intro x member counted
    obtain ⟨s,belongs,rfl⟩ := (moved x).mp member
    have bound := settles.top s belongs (moved.counted.mp counted)
    simpa only [RackSegment.turned,RackClock.turned,rank_shift] using bound
  kept := by
    have bound := settles.kept
    simpa only [RackClock.turned,rank_shift] using bound

theorem rackUpdate_turned (comparable : Comparable base prior now segs) (plain : ¬∃ a ∈ segs, Overtakes prior now echo segs a)
    (moved : Moved turn segs segs') :
    rackUpdate segs' now echo (prior.turned turn) = (rackUpdate segs now echo prior).turned turn := by
  have here := (rackUpdate_settles echo comparable).counted comparable plain
  have turnedComparable := moved.comparable comparable
  have there := (rackUpdate_settles echo turnedComparable).counted turnedComparable
    fun found => plain (moved.overtakes comparable found)
  exact settles_unique there (here.turned moved)

theorem Overtakes.latest (overtakes : Overtakes prior now echo segs a) (comparable : Comparable base prior now segs)
    (member : a ∈ segs) (best : ∀ b ∈ segs, Overtakes prior now echo segs b → rank base b.xmitTs b.endSeq ≤ rank base a.xmitTs a.endSeq)
    (moved : Moved turn segs segs') (belongs : s ∈ segs) (accepts : Accepts prior.minRttMs now echo segs' (s.turned turn)) :
    rank base s.xmitTs s.endSeq ≤ rank base a.xmitTs a.endSeq := by
  have later (o : RackSegment) (oMember : o ∈ segs) (original : Original o) := (comparable.after member oMember).mp
    (overtakes.beyond o oMember original)
  have slow (time : a.xmitTs ≤ s.xmitTs) : ¬Unhurried prior.minRttMs now echo segs s := by
    intro unhurried
    apply overtakes.hurried
    unfold Unhurried at unhurried ⊢
    split
    · rename_i unset
      rw [if_pos unset] at unhurried
      exact fun e eMember eligible => time.trans (unhurried e eMember eligible)
    · rename_i set
      rw [if_neg set] at unhurried
      omega
  by_cases earlier : s.xmitTs < a.xmitTs
  · exact (rank_lt_of_lt earlier _ _).le
  have time : a.xmitTs ≤ s.xmitTs := not_lt.mp earlier
  obtain ⟨eligible,original | unhurried | ⟨x,xMember,original,same,_⟩⟩ := accepts
  · exact (later s belongs ⟨original,eligible.1⟩).le
  · exact absurd (moved.unhurried.mp unhurried) (slow time)
  · obtain ⟨o,oMember,rfl⟩ := (moved x).mp xMember
    have oLater := later o oMember original
    have oTime : o.xmitTs = s.xmitTs := same
    by_contra beyond
    have equal : s.xmitTs = a.xmitTs := by
      by_contra differs
      have reverse := @rank_lt_of_lt base a.xmitTs o.xmitTs (by omega) a.endSeq o.endSeq
      omega
    apply beyond
    apply best s belongs
    refine ⟨?_,eligible,slow time,⟨o,oMember,original,oTime⟩,?_,?_⟩
    · by_contra once
      have ahead := later s belongs ⟨by simpa using once,eligible.1⟩
      omega
    · intro p pMember pOriginal
      have ahead := later p pMember pOriginal
      exact (comparable.after belongs pMember).mpr (by omega)
    · have ahead := (comparable.after_prior member).mp overtakes.newest
      exact (comparable.after_prior belongs).mpr (by omega)

end Turn

-- The latest transmission follows the numbers, not the sort of plain integers.
theorem rack_update_symmetric_iff (segs : List RackSegment) (now : Nat) (echo : Option Nat) (prior : RackClock) (base : Seq32)
    (comparable : Comparable base prior now segs) :
    ((∀ other : List RackSegment, other.Perm segs → rackUpdate other now echo prior = rackUpdate segs now echo prior) ∧
      ∀ turn, rackUpdate (segs.map (RackSegment.turned turn)) now echo (prior.turned turn) =
        (rackUpdate segs now echo prior).turned turn) ↔
    ¬∃ a ∈ segs, Overtakes prior now echo segs a := by
  constructor
  · rintro ⟨_,turns⟩ ⟨some,someMember,someOvertakes⟩
    classical
    obtain ⟨a,belongs,most⟩ := Finset.exists_max_image
      (segs.toFinset.filter fun a => Overtakes prior now echo segs a) (fun a => rank base a.xmitTs a.endSeq)
      ⟨some,Finset.mem_filter.mpr ⟨List.mem_toFinset.mpr someMember,someOvertakes⟩⟩
    obtain ⟨listed,overtakes⟩ := Finset.mem_filter.mp belongs
    have member : a ∈ segs := List.mem_toFinset.mp listed
    have best : ∀ b ∈ segs, Overtakes prior now echo segs b → rank base b.xmitTs b.endSeq ≤ rank base a.xmitTs a.endSeq :=
      fun b bMember bOvertakes => most b (Finset.mem_filter.mpr ⟨List.mem_toFinset.mpr bMember,bOvertakes⟩)
    have newest := (comparable.after_prior member).mp overtakes.newest
    have settled (turn : Seq32) := rackUpdate_settles echo ((moved_perm (List.Perm.refl segs) turn).comparable comparable)
    generalize rackUpdate segs now echo prior = r at turns
    -- with the end of the copy at the top of the integers, the copy is delivered last
    have chosen : r.rackXmitTs = a.xmitTs ∧ r.rackEndSeq = a.endSeq := by
      obtain ⟨turn,top⟩ : ∃ turn : Seq32, a.endSeq + turn = BitVec.allOnes 32 := ⟨BitVec.allOnes 32 - a.endSeq,by grind⟩
      have moved := moved_perm (List.Perm.refl segs) turn
      have settles := settled turn
      rw [turns] at settles
      have accepts : Accepts prior.minRttMs now echo (segs.map (RackSegment.turned turn)) (a.turned turn) := by
        obtain ⟨o,oMember,original,time⟩ := overtakes.original
        have after := (comparable.after member oMember).mp (overtakes.beyond o oMember original)
        have below : (o.endSeq + turn).toNat ≠ (a.endSeq + turn).toNat := by
          intro same
          have equal : o.endSeq = a.endSeq := (BitVec.add_left_inj turn).mp (BitVec.eq_of_toNat_eq same)
          rw [time,equal] at after
          omega
        have less : (o.turned turn).endSeq.toNat < (a.turned turn).endSeq.toNat := by
          have bound := (o.endSeq + turn).isLt
          simp only [RackSegment.turned]
          rw [top,BitVec.toNat_allOnes] at below ⊢
          omega
        exact ⟨overtakes.eligible,.inr (.inr ⟨o.turned turn,moved.mem oMember,original,time,less⟩)⟩
      have reached := settles.top _ (moved.mem member) accepts
      simp only [RackSegment.turned,RackClock.turned,rank_shift] at reached
      rcases settles.rack with ⟨x,e⟩ | ⟨y,yMember,yAccepts,x,e⟩
      · have ends : r.rackEndSeq = prior.rackEndSeq := (BitVec.add_left_inj turn).mp e
        have times : r.rackXmitTs = prior.rackXmitTs := x
        rw [times,ends] at reached
        omega
      · obtain ⟨s,sMember,rfl⟩ := (moved y).mp yMember
        have bound := overtakes.latest comparable member best moved sMember yAccepts
        have ends : r.rackEndSeq = s.endSeq := (BitVec.add_left_inj turn).mp e
        have times : r.rackXmitTs = s.xmitTs := x
        rw [times,ends] at reached ⊢
        exact rank_inj (le_antisymm bound reached)
    -- with its end at zero, it comes before the originals and is passed over
    obtain ⟨turn,bottom⟩ : ∃ turn : Seq32, a.endSeq + turn = 0 := ⟨0 - a.endSeq,by grind⟩
    have moved := moved_perm (List.Perm.refl segs) turn
    have settles := settled turn
    rw [turns] at settles
    rcases settles.rack with ⟨x,e⟩ | ⟨y,yMember,yAccepts,x,e⟩
    · have ends : r.rackEndSeq = prior.rackEndSeq := (BitVec.add_left_inj turn).mp e
      have times : r.rackXmitTs = prior.rackXmitTs := x
      rw [← times,← ends,chosen.1,chosen.2] at newest
      omega
    · obtain ⟨s,sMember,rfl⟩ := (moved y).mp yMember
      have ends : s.endSeq = a.endSeq := by
        rw [← chosen.2]
        exact ((BitVec.add_left_inj turn).mp e).symm
      have times : s.xmitTs = a.xmitTs := by
        rw [← chosen.1]
        exact x.symm
      obtain ⟨eligible,original | unhurried | ⟨z,zMember,zOriginal,same,less⟩⟩ := yAccepts
      · have after := (comparable.after member sMember).mp (overtakes.beyond s sMember ⟨original,eligible.1⟩)
        rw [ends,times] at after
        omega
      · have calm := moved.unhurried.mp unhurried
        apply overtakes.hurried
        unfold Unhurried at calm ⊢
        rw [times] at calm
        exact calm
      · have zero : (s.turned turn).endSeq = 0 := by
          simp only [RackSegment.turned,ends]
          exact bottom
        rw [zero] at less
        exact absurd less (Nat.not_lt_zero _)
  · intro plain
    refine ⟨?_,fun turn => rackUpdate_turned comparable plain (moved_perm (List.Perm.refl segs) turn)⟩
    intro other same
    have still : ∀ s : RackSegment, s.turned 0 = s := by simp [RackSegment.turned]
    have moved : Moved 0 segs other := by
      intro x
      simp only [still,exists_eq_right,same.mem_iff]
    have rest : ∀ c : RackClock, c.turned 0 = c := by simp [RackClock.turned]
    have equal := rackUpdate_turned comparable plain moved
    rw [rest,rest] at equal
    exact equal

-- Two segments of millisecond 100, acknowledged at 105 under a floor of 10.
def delivered : RackClock := {minRttMs := 10,rackRttMs := 10,rackXmitTs := 1,rackEndSeq := 50}

def pair (again : Bool) : List RackSegment :=
  [{endSeq := 100,xmitTs := 100,retransmitted := false,lost := false},
   {endSeq := 200,xmitTs := 100,retransmitted := again,lost := false}]

theorem pair_comparable (again : Bool) : Comparable 0 delivered 105 (pair again) := by
  refine ⟨?_,?_,?_⟩
  · simp only [pair,List.forall_mem_cons,List.not_mem_nil,false_implies,implies_true,and_true]
    decide
  · intro _
    decide
  · simp only [pair,List.forall_mem_cons,List.not_mem_nil,false_implies,implies_true,and_true]
    decide

theorem rack_update_symmetric_originals :
    rackUpdate ((pair false).map (RackSegment.turned 0xFFFF_FF6A)) 105 none (delivered.turned 0xFFFF_FF6A) =
      (rackUpdate (pair false) 105 none delivered).turned 0xFFFF_FF6A := by
  refine ((rack_update_symmetric_iff (pair false) 105 none delivered 0 (pair_comparable false)).mpr ?_).2 _
  rintro ⟨a,member,overtakes⟩
  have again := overtakes.again
  simp only [pair,List.mem_cons,List.not_mem_nil,or_false] at member
  rcases member with rfl | rfl
  · cases again
  · cases again

-- With the second end past the turn, the copy is sorted first and dropped.
theorem rack_update_turns :
    (rackUpdate ((pair true).map (RackSegment.turned 0xFFFF_FF6A)) 105 none (delivered.turned 0xFFFF_FF6A)).rackEndSeq =
      100 + 0xFFFF_FF6A ∧
    ((rackUpdate (pair true) 105 none delivered).turned 0xFFFF_FF6A).rackEndSeq = 200 + 0xFFFF_FF6A ∧
    ¬∀ turn, rackUpdate ((pair true).map (RackSegment.turned turn)) 105 none (delivered.turned turn) =
      (rackUpdate (pair true) 105 none delivered).turned turn := by
  have there : (rackUpdate ((pair true).map (RackSegment.turned 0xFFFF_FF6A)) 105 none
      (delivered.turned 0xFFFF_FF6A)).rackEndSeq = 100 + 0xFFFF_FF6A := by decide +kernel
  have here : ((rackUpdate (pair true) 105 none delivered).turned 0xFFFF_FF6A).rackEndSeq = 200 + 0xFFFF_FF6A := by
    decide +kernel
  refine ⟨there,here,?_⟩
  intro turns
  rw [turns,here] at there
  exact absurd there (by decide)

end PmdPytcp.Tcp
