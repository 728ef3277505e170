import PmdPytcp.Lib.Ranks
import PmdPytcp.Neighbor.Moves

namespace PmdPytcp.Neighbor
open NeighborCache Ranks

variable {A M P : Type} [DecidableEq A]

-- Failed and stale neighbors age from their last change, others from their last use.
def age (e : NeighborEntry M P) : ℚ :=
  match e.state with
  | .failed | .stale => e.stateChangedAt
  | _ => e.lastUsedAt

structure Orderly (knobs : Knobs) (d d' : Store A (NeighborEntry M P)) : Prop where
  small : d.size ≤ knobs.gcThresh1 → d' = d
  removes : ∀ a e, d'.get a = some e → d.get a = some e
  spares : ∀ a e, d.get a = some e → d'.get a = none → evictable e = true
  bounded : d'.size ≤ max knobs.gcThresh3 (d.entries.countP fun entry => !evictable entry.2)
  priority : ∀ a e b f, d.get a = some e → d'.get a = none → e.state = .reachable →
    d'.get b = some f → evictable f = true → f.state ≠ .failed ∧ f.state ≠ .stale
  oldest : ∀ a e b f, d.get a = some e → d'.get a = none → d'.get b = some f → evictable f = true →
    e.state = f.state → age e ≤ age f

def expired (knobs : Knobs) (now : ℚ) (e : NeighborEntry M P) : Bool :=
  e.state = .stale && knobs.gcStaleTime ≤ now - e.stateChangedAt

-- What the hard cap chooses from: neither failed nor stale for long.
def remaining (knobs : Knobs) (now : ℚ) (e : NeighborEntry M P) : Bool :=
  evictable e && (e.state ≠ .failed && !expired knobs now e)

def pressed (knobs : Knobs) (now : ℚ) (d : Store A (NeighborEntry M P)) : List (A × NeighborEntry M P) :=
  d.entries.filter fun entry => remaining knobs now entry.2

-- Entries beyond the hard cap once the others are gone.
def excess (knobs : Knobs) (now : ℚ) (d : Store A (NeighborEntry M P)) : Nat :=
  d.size - (d.entries.countP fun entry => evictable entry.2 && !remaining knobs now entry.2) - knobs.gcThresh3

def position (d : Store A (NeighborEntry M P)) (entry : A × NeighborEntry M P) : Nat := d.keys.idxOf entry.1

-- Place in the order of last use, ties in the order of the cache.
def useRank (knobs : Knobs) (now : ℚ) (d : Store A (NeighborEntry M P)) (entry : A × NeighborEntry M P) : Nat :=
  rank (fun entry => entry.2.lastUsedAt) (position d) (pressed knobs now d) entry

-- The cut that the hard cap makes in the order of last use leaves no stale
-- neighbor behind a reachable one, or behind one that went stale later.
def Uncrossed (knobs : Knobs) (now : ℚ) (d : Store A (NeighborEntry M P)) : Prop :=
  ∀ x ∈ pressed knobs now d, ∀ y ∈ pressed knobs now d, useRank knobs now d x < excess knobs now d →
    excess knobs now d ≤ useRank knobs now d y → y.2.state = .stale →
    x.2.state ≠ .reachable ∧ (x.2.state = .stale → x.2.stateChangedAt ≤ y.2.stateChangedAt)

variable {d : Store A (NeighborEntry M P)} {targets : List A} {a : A} {e : NeighborEntry M P} {knobs : Knobs} {now : ℚ}

theorem evict_get (d : Store A (NeighborEntry M P)) (b a : A) :
    (evict d b).1.get a = if a = b then none else d.get a := by
  unfold evict
  cases held : d.get b with
  | none =>
    dsimp only
    split
    · next same => rw [same,held]
    · rfl
  | some e =>
    dsimp only
    split
    · next same => rw [same,Store.get_erase_self]
    · next other => exact Store.get_erase_other d other

theorem evictAll_get (targets : List A) (d : Store A (NeighborEntry M P)) (a : A) :
    (evictAll d targets).1.get a = if a ∈ targets then none else d.get a := by
  induction targets generalizing d with
  | nil => simp [evictAll]
  | cons b rest ih =>
    show (evictAll (evict d b).1 rest).1.get a = _
    rw [ih,evict_get]
    by_cases same : a = b
    · simp [same]
    · simp [same]

structure Targets (d : Store A (NeighborEntry M P)) (targets : List A) : Prop where
  held : ∀ a ∈ targets, ∃ e, d.get a = some e
  once : targets.Nodup

theorem Targets.rest {b : A} {rest : List A} (listed : Targets d (b :: rest)) :
    Targets (evict d b).1 rest ∧ (evict d b).1.size + 1 = d.size := by
  obtain ⟨fresh,once⟩ := List.nodup_cons.mp listed.once
  refine ⟨⟨?_,once⟩,?_⟩
  · intro a member
    obtain ⟨e,held⟩ := listed.held a (List.mem_cons_of_mem b member)
    refine ⟨e,?_⟩
    rw [evict_get,if_neg,held]
    rintro rfl
    exact fresh member
  · obtain ⟨e,held⟩ := listed.held b List.mem_cons_self
    unfold evict
    rw [held]
    exact Store.size_erase d held

theorem evictAll_size (listed : Targets d targets) : (evictAll d targets).1.size + targets.length = d.size := by
  induction targets generalizing d with
  | nil => rfl
  | cons b rest ih =>
    obtain ⟨others,smaller⟩ := listed.rest
    have later := ih others
    show (evictAll (evict d b).1 rest).1.size + (rest.length + 1) = d.size
    omega

theorem evictDown_take (cap : Nat) (listed : Targets d targets) :
    evictDown cap d targets = evictAll d (targets.take (d.size - cap)) := by
  induction targets generalizing d with
  | nil => simp [evictDown,evictAll]
  | cons b rest ih =>
    obtain ⟨others,smaller⟩ := listed.rest
    unfold evictDown
    split
    · next fits => rw [Nat.sub_eq_zero_of_le fits]; rfl
    · next beyond =>
      have step : d.size - cap = ((evict d b).1.size - cap) + 1 := by omega
      rw [step,List.take_succ_cons]
      dsimp only
      rw [ih others]
      rfl

theorem Targets.take (listed : Targets d targets) (n : Nat) : Targets d (targets.take n) where
  held := fun a member => listed.held a (List.mem_of_mem_take member)
  once := listed.once.sublist (List.take_sublist n targets)

variable {time : NeighborEntry M P → ℚ} {keep keep' : A → NeighborEntry M P → Bool}

theorem mem_oldestFirst : a ∈ oldestFirst time keep d ↔ ∃ e, d.get a = some e ∧ evictable e = true ∧ keep a e = true := by
  unfold oldestFirst
  simp only [List.mem_map,List.mem_mergeSort,List.mem_filter,Bool.and_eq_true,Prod.exists,exists_and_right,
    exists_eq_right]
  constructor
  · rintro ⟨e,member,passes⟩
    exact ⟨e,Store.get_eq_some.mpr member,passes⟩
  · rintro ⟨e,held,passes⟩
    exact ⟨e,Store.get_eq_some.mp held,passes⟩

theorem oldestFirst_targets : Targets d (oldestFirst time keep d) where
  held := by
    intro a member
    obtain ⟨e,held,_⟩ := mem_oldestFirst.mp member
    exact ⟨e,held⟩
  once := by
    unfold oldestFirst
    have sorted := (List.mergeSort_perm (d.entries.filter fun entry => evictable entry.2 && keep entry.1 entry.2)
      fun one two => decide (time one.2 ≤ time two.2)).map Prod.fst
    exact sorted.nodup_iff.mpr (d.unique.sublist (List.filter_sublist.map _))

omit [DecidableEq A] in
theorem oldestFirst_length :
    (oldestFirst time keep d).length = d.entries.countP fun entry => evictable entry.2 && keep entry.1 entry.2 := by
  unfold oldestFirst
  rw [List.length_map,List.length_mergeSort,List.countP_eq_length_filter]

theorem oldestFirst_congr (agree : ∀ a e, d.get a = some e → evictable e = true → keep a e = keep' a e) :
    oldestFirst time keep d = oldestFirst time keep' d := by
  unfold oldestFirst
  rw [List.filter_congr]
  intro entry member
  cases eligible : evictable entry.2 with
  | false => rfl
  | true => rw [agree entry.1 entry.2 (Store.get_eq_some.mpr member) eligible]

def failures (d : Store A (NeighborEntry M P)) : List A :=
  oldestFirst NeighborEntry.stateChangedAt (fun _ e => e.state = .failed) d

def expiries (knobs : Knobs) (now : ℚ) (d : Store A (NeighborEntry M P)) : List A :=
  oldestFirst NeighborEntry.stateChangedAt (fun _ e => expired knobs now e) d

def uses (knobs : Knobs) (now : ℚ) (d : Store A (NeighborEntry M P)) : List A :=
  oldestFirst NeighborEntry.lastUsedAt (fun _ e => e.state ≠ .failed && !expired knobs now e) d

def firstTier (d : Store A (NeighborEntry M P)) : Store A (NeighborEntry M P) := (evictAll d (failures d)).1

def secondTier (knobs : Knobs) (now : ℚ) (d : Store A (NeighborEntry M P)) : Store A (NeighborEntry M P) :=
  (evictAll (firstTier d) ((expiries knobs now d).take ((firstTier d).size - knobs.gcThresh2))).1

theorem expired_alive (stale : expired knobs now e = true) : e.state ≠ .failed := by
  intro failed
  unfold expired at stale
  simp [failed] at stale

theorem firstTier_get (a : A) (held : d.get a = some e) :
    (firstTier d).get a = if e.state = .failed then none else some e := by
  unfold firstTier
  rw [evictAll_get]
  by_cases failed : e.state = .failed
  · have listed : a ∈ failures d := mem_oldestFirst.mpr ⟨e,held,by simp [evictable,failed],by simp [failed]⟩
    rw [if_pos listed,if_pos failed]
  · have unlisted : a ∉ failures d := by
      intro member
      obtain ⟨f,found,_,fails⟩ := mem_oldestFirst.mp member
      rw [held] at found
      cases found
      exact failed (by simpa using fails)
    rw [if_neg unlisted,if_neg failed,held]

theorem expiries_targets (knobs : Knobs) (now : ℚ) (d : Store A (NeighborEntry M P)) : Targets (firstTier d) (expiries knobs now d) where
  held := by
    intro a member
    obtain ⟨e,held,_,stale⟩ := mem_oldestFirst.mp member
    exact ⟨e,by rw [firstTier_get a held,if_neg (expired_alive stale)]⟩
  once := oldestFirst_targets.once

theorem firstTier_size (d : Store A (NeighborEntry M P)) : (firstTier d).size + (failures d).length = d.size :=
  evictAll_size oldestFirst_targets

theorem secondTier_size (knobs : Knobs) (now : ℚ) (d : Store A (NeighborEntry M P)) :
    (secondTier knobs now d).size + min ((firstTier d).size - knobs.gcThresh2) (expiries knobs now d).length =
      (firstTier d).size := by
  have sized := evictAll_size ((expiries_targets knobs now d).take
    ((firstTier d).size - knobs.gcThresh2))
  rw [List.length_take] at sized
  exact sized

omit [DecidableEq A] in
theorem failures_length (d : Store A (NeighborEntry M P)) (knobs : Knobs) (now : ℚ) :
    (failures d).length + (expiries knobs now d).length =
      d.entries.countP fun entry => evictable entry.2 && !remaining knobs now entry.2 := by
  unfold failures expiries
  rw [oldestFirst_length,oldestFirst_length]
  induction d.entries with
  | nil => rfl
  | cons entry rest ih =>
    simp only [List.countP_cons]
    have here : (if (evictable entry.2 && decide (entry.2.state = .failed)) = true then 1 else 0) +
        (if (evictable entry.2 && expired knobs now entry.2) = true then 1 else 0) =
        (if (evictable entry.2 && !remaining knobs now entry.2) = true then 1 else 0) := by
      unfold remaining
      cases eligible : evictable entry.2 with
      | false => simp
      | true =>
        by_cases failed : entry.2.state = .failed
        · have fresh : expired knobs now entry.2 = false := by simp [expired,failed]
          simp [failed,fresh]
        · cases stale : expired knobs now entry.2 with
          | false => simp [failed]
          | true => simp [failed]
    omega

theorem third_active (active : knobs.gcThresh3 < (secondTier knobs now d).size) :
    (expiries knobs now d).length ≤ (firstTier d).size - knobs.gcThresh2 := by
  have sized := secondTier_size knobs now d
  have ordered := knobs.gcThreshOrdered
  omega

theorem excess_eq (knobs : Knobs) (now : ℚ) (d : Store A (NeighborEntry M P)) :
    excess knobs now d = (secondTier knobs now d).size - knobs.gcThresh3 := by
  have first := firstTier_size d
  have second := secondTier_size knobs now d
  have counts := failures_length d knobs now
  have ordered := knobs.gcThreshOrdered
  unfold excess
  omega

theorem secondTier_get (a : A) (held : d.get a = some e) :
    (secondTier knobs now d).get a =
      if a ∈ (expiries knobs now d).take ((firstTier d).size - knobs.gcThresh2) ∨ e.state = .failed then none
      else some e := by
  unfold secondTier
  rw [evictAll_get,firstTier_get a held]
  by_cases listed : a ∈ (expiries knobs now d).take ((firstTier d).size - knobs.gcThresh2)
  · simp [listed]
  · simp [listed]

theorem mem_expiries (held : d.get a = some e) :
    a ∈ expiries knobs now d ↔ evictable e = true ∧ expired knobs now e = true := by
  constructor
  · intro member
    obtain ⟨f,found,passes⟩ := mem_oldestFirst.mp member
    rw [held] at found
    cases found
    exact passes
  · intro passes
    exact mem_oldestFirst.mpr ⟨e,held,passes⟩

theorem uses_targets (active : knobs.gcThresh3 < (secondTier knobs now d).size) :
    oldestFirst NeighborEntry.lastUsedAt (fun address _ => ((secondTier knobs now d).get address).isSome) d =
      uses knobs now d := by
  refine oldestFirst_congr ?_
  intro a e held eligible
  have listed : a ∈ (expiries knobs now d).take ((firstTier d).size - knobs.gcThresh2) ↔ expired knobs now e = true := by
    rw [List.take_of_length_le (third_active active),mem_expiries held]
    simp [eligible]
  rw [secondTier_get a held]
  simp only [listed]
  cases stale : expired knobs now e with
  | true => simp
  | false =>
    by_cases failed : e.state = .failed
    · simp [failed]
    · simp [failed]

theorem capped_take (cap : Nat) (listed : cap < d.size → Targets d targets) :
    (if cap < d.size then evictDown cap d targets else (d,[])) = evictAll d (targets.take (d.size - cap)) := by
  split
  · next beyond => exact evictDown_take cap (listed beyond)
  · next fits =>
    rw [Nat.sub_eq_zero_of_le (Nat.le_of_not_lt fits)]
    rfl

theorem gcPass_big (big : knobs.gcThresh1 < d.size) :
    (gcPass knobs now d).1 =
      (evictAll (secondTier knobs now d) ((uses knobs now d).take (excess knobs now d))).1 := by
  have stale : oldestFirst NeighborEntry.stateChangedAt
      (fun address e => e.state = .stale && knobs.gcStaleTime ≤ now - e.stateChangedAt &&
        ((firstTier d).get address).isSome) d = expiries knobs now d := by
    refine oldestFirst_congr ?_
    intro a e held _
    rw [firstTier_get a held]
    show (expired knobs now e && _) = expired knobs now e
    cases old : expired knobs now e with
    | false => rfl
    | true => simp [expired_alive old]
  have second := capped_take knobs.gcThresh2 fun _ => expiries_targets knobs now d
  rw [← stale] at second
  have listed : Targets (secondTier knobs now d)
      (oldestFirst NeighborEntry.lastUsedAt (fun address _ => ((secondTier knobs now d).get address).isSome) d) := by
    refine ⟨?_,oldestFirst_targets.once⟩
    intro a member
    obtain ⟨e,_,_,there⟩ := mem_oldestFirst.mp member
    exact Option.isSome_iff_exists.mp there
  have third := capped_take knobs.gcThresh3 fun _ => listed
  unfold gcPass
  rw [if_neg (Nat.not_le.mpr big)]
  dsimp only
  generalize start : evictAll d _ = one
  have head : one.1 = firstTier d := by
    rw [← start]
    rfl
  rw [head]
  generalize before : (if knobs.gcThresh2 < (firstTier d).size then _ else _ :
    Store A (NeighborEntry M P) × List (Note A M P)) = two
  have same : two.1 = secondTier knobs now d := by
    rw [← before]
    exact congrArg Prod.fst (second.trans (by rw [stale]))
  rw [same,third,← excess_eq]
  by_cases active : knobs.gcThresh3 < (secondTier knobs now d).size
  · rw [uses_targets active]
  · have none : excess knobs now d = 0 := by
      rw [excess_eq]
      omega
    rw [none]
    rfl

theorem entries_placed (d : Store A (NeighborEntry M P)) : Placed (position d) d.entries := by
  refine List.pairwise_iff_getElem.mpr ?_
  intro i j low high less
  have index (k : Nat) (inside : k < d.entries.length) : position d d.entries[k] = k := by
    have listed : k < d.keys.length := by simpa [Store.keys] using inside
    have same : d.entries[k].1 = d.keys[k] := by simp [Store.keys]
    unfold position
    rw [same]
    exact d.unique.idxOf_getElem k listed
  rw [index i low,index j high]
  exact less

theorem mem_pressed : (a,e) ∈ pressed knobs now d ↔ d.get a = some e ∧ remaining knobs now e = true := by
  unfold pressed
  rw [List.mem_filter,Store.get_eq_some]

theorem mem_uses (n : Nat) (held : d.get a = some e) :
    a ∈ (uses knobs now d).take n ↔ remaining knobs now e = true ∧ useRank knobs now d (a,e) < n := by
  have placed : Placed (position d) (pressed knobs now d) := (entries_placed d).filter _
  have listed : (uses knobs now d).take n =
      ((sorted (fun entry => entry.2.lastUsedAt) (pressed knobs now d)).take n).map Prod.fst := (List.map_take).symm
  rw [listed,List.mem_map]
  constructor
  · rintro ⟨entry,inside,rfl⟩
    have member := (sorted_perm _ _).mem_iff.mp (List.mem_of_mem_take inside)
    obtain ⟨found,remains⟩ := mem_pressed.mp member
    rw [held] at found
    cases found
    exact ⟨remains,(mem_take_sorted placed member n).mp inside⟩
  · rintro ⟨remains,low⟩
    have member := mem_pressed.mpr ⟨held,remains⟩
    exact ⟨(a,e),(mem_take_sorted placed member n).mpr low,rfl⟩

theorem gcPass_removed (big : knobs.gcThresh1 < d.size) (held : d.get a = some e) :
    (gcPass knobs now d).1.get a = none ↔
      e.state = .failed ∨ a ∈ (expiries knobs now d).take ((firstTier d).size - knobs.gcThresh2) ∨
      remaining knobs now e = true ∧ useRank knobs now d (a,e) < excess knobs now d := by
  rw [gcPass_big big,evictAll_get,secondTier_get a held]
  simp only [mem_uses _ held]
  by_cases low : remaining knobs now e = true ∧ useRank knobs now d (a,e) < excess knobs now d
  · simp [low]
  · rw [if_neg low]
    by_cases earlier : a ∈ (expiries knobs now d).take ((firstTier d).size - knobs.gcThresh2) ∨ e.state = .failed
    · rw [if_pos earlier]
      exact iff_of_true rfl (earlier.elim (fun listed => .inr (.inl listed)) .inl)
    · rw [if_neg earlier]
      refine iff_of_false (by simp) ?_
      rintro (failed | listed | rest)
      · exact earlier (.inr failed)
      · exact earlier (.inl listed)
      · exact low rest

theorem oldestFirst_cut {b : A} {f : NeighborEntry M P} (n : Nat) (heldA : d.get a = some e) (heldB : d.get b = some f)
    (taken : a ∈ (oldestFirst time keep d).take n) (listed : b ∈ oldestFirst time keep d)
    (left : b ∉ (oldestFirst time keep d).take n) : time e ≤ time f := by
  have rest : b ∈ (oldestFirst time keep d).drop n := by
    rw [← List.take_append_drop n (oldestFirst time keep d),List.mem_append] at listed
    exact listed.resolve_left left
  have ordered := sorted_ordered (fun entry : A × NeighborEntry M P => time entry.2)
    (d.entries.filter fun entry => evictable entry.2 && keep entry.1 entry.2)
  unfold oldestFirst at taken rest
  rw [← List.map_take] at taken
  rw [← List.map_drop] at rest
  obtain ⟨x,inside,rfl⟩ := List.mem_map.mp taken
  obtain ⟨y,outside,rfl⟩ := List.mem_map.mp rest
  have member {z : A × NeighborEntry M P} {g : NeighborEntry M P}
      (here : z ∈ sorted (fun entry : A × NeighborEntry M P => time entry.2)
        (d.entries.filter fun entry => evictable entry.2 && keep entry.1 entry.2))
      (held : d.get z.1 = some g) : z.2 = g := by
    have kept := (List.mem_filter.mp ((sorted_perm _ _).mem_iff.mp here)).1
    have found := Store.get_eq_some.mpr kept
    rw [held] at found
    exact (Option.some.inj found).symm
  rw [← member (List.mem_of_mem_take inside) heldA,← member (List.mem_of_mem_drop outside) heldB]
  rw [← List.take_append_drop n (sorted _ _)] at ordered
  exact (List.pairwise_append.mp ordered).2.2 x inside y outside

theorem excess_active (some_excess : 0 < excess knobs now d) : knobs.gcThresh3 < (secondTier knobs now d).size := by
  rw [excess_eq] at some_excess
  omega

omit [DecidableEq A] in
theorem excess_big (some_excess : 0 < excess knobs now d) : knobs.gcThresh1 < d.size := by
  have ordered := knobs.gcThreshOrdered
  unfold excess at some_excess
  omega

theorem expired_removed (some_excess : 0 < excess knobs now d) (held : d.get a = some e) (eligible : evictable e = true)
    (stale : expired knobs now e = true) : (gcPass knobs now d).1.get a = none := by
  refine (gcPass_removed (excess_big some_excess) held).mpr (.inr (.inl ?_))
  rw [List.take_of_length_le (third_active (excess_active some_excess))]
  exact (mem_expiries held).mpr ⟨eligible,stale⟩

theorem uses_all_targets (knobs : Knobs) (now : ℚ) (d : Store A (NeighborEntry M P)) :
    Targets (secondTier knobs now d) ((uses knobs now d).take (excess knobs now d)) := by
  rcases Nat.eq_zero_or_pos (excess knobs now d) with none | some_excess
  · rw [none]
    exact ⟨nofun,List.nodup_nil⟩
  · refine Targets.take ⟨?_,oldestFirst_targets.once⟩ _
    intro a member
    change a ∈ uses knobs now d at member
    rw [← uses_targets (excess_active some_excess)] at member
    obtain ⟨e,_,_,there⟩ := mem_oldestFirst.mp member
    exact Option.isSome_iff_exists.mp there

omit [DecidableEq A] in
theorem entries_parted (knobs : Knobs) (now : ℚ) (d : Store A (NeighborEntry M P)) :
    d.size = (d.entries.countP fun entry => !evictable entry.2) +
      (d.entries.countP fun entry => evictable entry.2 && !remaining knobs now entry.2) +
      d.entries.countP fun entry => remaining knobs now entry.2 := by
  show d.entries.length = _
  induction d.entries with
  | nil => rfl
  | cons entry rest ih =>
    simp only [List.countP_cons,List.length_cons]
    have here : 1 = (if (!evictable entry.2) = true then 1 else 0) +
        (if (evictable entry.2 && !remaining knobs now entry.2) = true then 1 else 0) +
        (if remaining knobs now entry.2 = true then 1 else 0) := by
      cases eligible : evictable entry.2 with
      | false => simp [remaining,eligible]
      | true => cases remaining knobs now entry.2 <;> simp
    omega

theorem gcPass_bounded (knobs : Knobs) (now : ℚ) (d : Store A (NeighborEntry M P)) :
    (gcPass knobs now d).1.size ≤ max knobs.gcThresh3 (d.entries.countP fun entry => !evictable entry.2) := by
  have ordered := knobs.gcThreshOrdered
  by_cases big : knobs.gcThresh1 < d.size
  · rw [gcPass_big big]
    have sized := evictAll_size (uses_all_targets knobs now d)
    have first := firstTier_size d
    have second := secondTier_size knobs now d
    have counts := failures_length d knobs now
    have parted := entries_parted knobs now d
    have used : (uses knobs now d).length = d.entries.countP fun entry => remaining knobs now entry.2 :=
      oldestFirst_length
    have beyond := excess_eq knobs now d
    rw [List.length_take,used] at sized
    omega
  · unfold gcPass
    rw [if_pos (Nat.le_of_not_lt big)]
    show d.size ≤ _
    omega

theorem gcPass_removes {f : NeighborEntry M P} (left : (gcPass knobs now d).1.get a = some f) : d.get a = some f := by
  rcases gcPass_collects knobs now d a with ⟨same,_⟩ | ⟨_,_,_,_,gone⟩
  · rw [← same]
    exact left
  · rw [gone] at left
    cases left

theorem gcPass_spares (held : d.get a = some e) (gone : (gcPass knobs now d).1.get a = none) : evictable e = true := by
  rcases gcPass_collects knobs now d a with ⟨same,_⟩ | ⟨f,found,eligible,_⟩
  · rw [same,held] at gone
    cases gone
  · rw [held] at found
    cases found
    exact eligible

theorem removed_big (held : d.get a = some e) (gone : (gcPass knobs now d).1.get a = none) : knobs.gcThresh1 < d.size := by
  by_contra small
  unfold gcPass at gone
  rw [if_pos (Nat.le_of_not_lt small)] at gone
  change d.get a = none at gone
  rw [held] at gone
  cases gone

-- A neighbor that neither failed nor stayed stale for long goes by the hard cap
-- alone, and stays when its rank is beyond the cut.
theorem removed_remaining (held : d.get a = some e) (gone : (gcPass knobs now d).1.get a = none)
    (alive : e.state ≠ .failed) (recent : expired knobs now e = false) :
    remaining knobs now e = true ∧ useRank knobs now d (a,e) < excess knobs now d := by
  rcases (gcPass_removed (removed_big held gone) held).mp gone with failed | listed | cut
  · exact absurd failed alive
  · have stale := ((mem_expiries held).mp (List.mem_of_mem_take listed)).2
    rw [recent] at stale
    cases stale
  · exact cut

theorem left_beyond (held : d.get a = some e) (left : (gcPass knobs now d).1.get a = some e)
    (remains : remaining knobs now e = true) : excess knobs now d ≤ useRank knobs now d (a,e) := by
  by_contra low
  have some_excess : 0 < excess knobs now d := by omega
  have gone := (gcPass_removed (excess_big some_excess) held).mpr (.inr (.inr ⟨remains,by omega⟩))
  rw [gone] at left
  cases left

omit [DecidableEq A] in
theorem remaining_parts (remains : remaining knobs now e = true) :
    evictable e = true ∧ e.state ≠ .failed ∧ expired knobs now e = false := by
  unfold remaining at remains
  simpa using remains

omit [DecidableEq A] in
theorem unexpired (other : e.state ≠ .stale) : expired knobs now e = false := by simp [expired,other]

theorem left_alive (held : d.get a = some e) (left : (gcPass knobs now d).1.get a = some e)
    (big : knobs.gcThresh1 < d.size) : e.state ≠ .failed := by
  intro failed
  rw [(gcPass_removed big held).mpr (.inl failed)] at left
  cases left

variable {b : A} {f : NeighborEntry M P}

theorem stale_after_cut (uncrossed : Uncrossed knobs now d) (heldA : d.get a = some e) (heldB : d.get b = some f)
    (cut : remaining knobs now e = true ∧ useRank knobs now d (a,e) < excess knobs now d)
    (left : (gcPass knobs now d).1.get b = some f) (eligible : evictable f = true) (stale : f.state = .stale) :
    e.state ≠ .reachable ∧ (e.state = .stale → e.stateChangedAt ≤ f.stateChangedAt) := by
  have recent : expired knobs now f = false := by
    by_contra old
    have gone := expired_removed (Nat.zero_lt_of_lt cut.2) heldB eligible (by simpa using old)
    rw [gone] at left
    cases left
  have remains : remaining knobs now f = true := by simp [remaining,eligible,stale,recent]
  exact uncrossed (a,e) (mem_pressed.mpr ⟨heldA,cut.1⟩) (b,f) (mem_pressed.mpr ⟨heldB,remains⟩) cut.2
    (left_beyond heldB left remains) stale

theorem gcPass_priority (uncrossed : Uncrossed knobs now d) (heldA : d.get a = some e)
    (gone : (gcPass knobs now d).1.get a = none) (reachable : e.state = .reachable)
    (left : (gcPass knobs now d).1.get b = some f) (eligible : evictable f = true) :
    f.state ≠ .failed ∧ f.state ≠ .stale := by
  have heldB := gcPass_removes left
  refine ⟨left_alive heldB left (removed_big heldA gone),?_⟩
  intro stale
  have cut := removed_remaining heldA gone (by simp [reachable]) (unexpired (by simp [reachable]))
  exact (stale_after_cut uncrossed heldA heldB cut left eligible stale).1 reachable

theorem stale_oldest (uncrossed : Uncrossed knobs now d) (heldA : d.get a = some e)
    (gone : (gcPass knobs now d).1.get a = none) (left : (gcPass knobs now d).1.get b = some f)
    (eligible : evictable f = true) (staleA : e.state = .stale) (staleB : f.state = .stale) :
    e.stateChangedAt ≤ f.stateChangedAt := by
  have heldB := gcPass_removes left
  have big := removed_big heldA gone
  rcases (gcPass_removed big heldA).mp gone with failed | listed | cut
  · rw [staleA] at failed
    cases failed
  · have old := ((mem_expiries heldA).mp (List.mem_of_mem_take listed)).2
    cases older : expired knobs now f with
    | true =>
      refine oldestFirst_cut _ heldA heldB listed ((mem_expiries heldB).mpr ⟨eligible,older⟩) ?_
      intro taken
      rw [(gcPass_removed big heldB).mpr (.inr (.inl taken))] at left
      cases left
    | false =>
      simp only [expired,staleA,staleB,decide_true,Bool.true_and,decide_eq_true_eq,decide_eq_false_iff_not,not_le] at old older
      linarith
  · exact (stale_after_cut uncrossed heldA heldB cut left eligible staleB).2 staleA

theorem used_oldest (heldA : d.get a = some e) (gone : (gcPass knobs now d).1.get a = none)
    (left : (gcPass knobs now d).1.get b = some f) (eligible : evictable f = true)
    (alive : e.state ≠ .failed) (fresh : e.state ≠ .stale) (same : e.state = f.state) :
    e.lastUsedAt ≤ f.lastUsedAt := by
  have heldB := gcPass_removes left
  have cut := removed_remaining heldA gone alive (unexpired fresh)
  have remains : remaining knobs now f = true := by
    have recent : expired knobs now f = false := unexpired (by rw [← same]; exact fresh)
    rw [same] at alive
    simp [remaining,eligible,alive,recent]
  have beyond := left_beyond heldB left remains
  refine oldestFirst_cut (excess knobs now d) heldA heldB ((mem_uses _ heldA).mpr cut) ?_ ?_
  · have all := (mem_uses (useRank knobs now d (b,f) + 1) heldB).mpr ⟨remains,Nat.lt_succ_self _⟩
    exact List.mem_of_mem_take all
  · intro taken
    have low := ((mem_uses _ heldB).mp taken).2
    omega

theorem gcPass_oldest (uncrossed : Uncrossed knobs now d) (heldA : d.get a = some e)
    (gone : (gcPass knobs now d).1.get a = none) (left : (gcPass knobs now d).1.get b = some f)
    (eligible : evictable f = true) (same : e.state = f.state) : age e ≤ age f := by
  have alive := left_alive (gcPass_removes left) left (removed_big heldA gone)
  unfold age
  cases state : e.state with
  | failed => exact absurd (same.symm.trans state) alive
  | stale =>
    rw [← same,state]
    exact stale_oldest uncrossed heldA gone left eligible state (same.symm.trans state)
  | _ =>
    rw [← same,state]
    exact used_oldest heldA gone left eligible (by simp [state]) (by simp [state]) same

theorem orderly_uncrossed (orderly : Orderly knobs d (gcPass knobs now d).1) : Uncrossed knobs now d := by
  rintro ⟨a,e⟩ inX ⟨b,f⟩ inY low high stale
  obtain ⟨heldA,remainsA⟩ := mem_pressed.mp inX
  obtain ⟨heldB,remainsB⟩ := mem_pressed.mp inY
  obtain ⟨eligible,alive,recent⟩ := remaining_parts remainsB
  have big := excess_big (Nat.zero_lt_of_lt low)
  have gone := (gcPass_removed big heldA).mpr (.inr (.inr ⟨remainsA,low⟩))
  have left : (gcPass knobs now d).1.get b = some f := by
    cases still : (gcPass knobs now d).1.get b with
    | none =>
      have below := (removed_remaining heldB still alive recent).2
      omega
    | some g =>
      have found := gcPass_removes still
      rw [heldB] at found
      exact found.symm
  refine ⟨?_,?_⟩
  · intro reachable
    exact (orderly.priority a e b f heldA gone reachable left eligible).2 stale
  · intro staleA
    change e.state = .stale at staleA
    change f.state = .stale at stale
    have aged := orderly.oldest a e b f heldA gone left eligible (staleA.trans stale.symm)
    simpa [age,staleA,stale] using aged

theorem gc_pass_orderly_iff (knobs : Knobs) (now : ℚ) (d : Store A (NeighborEntry M P)) :
    Orderly knobs d (gcPass knobs now d).1 ↔ Uncrossed knobs now d := by
  constructor
  · exact orderly_uncrossed
  · intro uncrossed
    refine ⟨?_,fun a e left => gcPass_removes left,fun a e held gone => gcPass_spares held gone,
      gcPass_bounded knobs now d,?_,?_⟩
    · intro small
      unfold gcPass
      rw [if_pos small]
    · intro a e b f held gone reachable left eligible
      exact gcPass_priority uncrossed held gone reachable left eligible
    · intro a e b f held gone left eligible same
      exact gcPass_oldest uncrossed held gone left eligible same

def tight : Knobs := {Knobs.standard with gcThresh1 := 0,gcThresh2 := 0,gcThresh3 := 1,gcThreshOrdered := by decide}

-- A reachable neighbor that was used longer ago than a stale one.
def crossedCache : Store Nat (NeighborEntry Nat Nat) :=
  (Store.empty.set 7 {macAddress := some 1,state := .reachable,stateChangedAt := 95,lastUsedAt := 90}).set 8
    {macAddress := some 2,state := .stale,stateChangedAt := 99,lastUsedAt := 98}

theorem reachable_evicted_before_stale : ¬Orderly tight crossedCache (gcPass tight 100 crossedCache).1 := by
  intro orderly
  have cut := orderly_uncrossed orderly
    (7,{macAddress := some 1,state := .reachable,stateChangedAt := 95,lastUsedAt := 90}) (by decide +kernel)
    (8,{macAddress := some 2,state := .stale,stateChangedAt := 99,lastUsedAt := 98}) (by decide +kernel)
    (by decide +kernel) (by decide +kernel) rfl
  exact cut.1 rfl

end PmdPytcp.Neighbor
