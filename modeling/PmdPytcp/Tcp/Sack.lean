import PmdPytcp.Lib.Runs
import PmdPytcp.Tcp.Scoreboard

namespace PmdPytcp.Tcp
open Arc Spans

def wire (n : Nat) : Seq32 := BitVec.ofNat 32 n

def wireSpan (s : Span) : Seq32 × Seq32 := (wire s.1,wire s.2)

theorem arc_wire {x y : Nat} (ahead : x ≤ y) (near : y < x + 2^32) : arc (wire x) (wire y) = y - x := by
  have moved : wire y = wire x + BitVec.ofNat 32 (y - x) := by
    unfold wire
    rw [← BitVec.ofNat_add]
    congr 1
    omega
  rw [moved]
  exact arc_add_of_lt _ (by omega)

theorem wire_arc (una : Nat) (seq : Seq32) : wire (una + arc (wire una) seq) = seq := by
  have back := add_arc (wire una) seq
  unfold wire at back ⊢
  rw [BitVec.ofNat_add]
  exact back

theorem le32_wire {x y : Nat} (near : y < x + 2^31) (far : x < y + 2^31) : le32 (wire x) (wire y) = true ↔ x ≤ y := by
  have first : arc (wire (min x y)) (wire x) = x - min x y := arc_wire (by omega) (by omega)
  have second : arc (wire (min x y)) (wire y) = y - min x y := arc_wire (by omega) (by omega)
  have order := @le32_near (wire (min x y)) (wire x) (wire y) (by omega) (by omega)
  rw [order]
  omega

theorem lt32_wire {x y : Nat} (near : y < x + 2^31) (far : x < y + 2^31) : lt32 (wire x) (wire y) = true ↔ x < y := by
  have first : arc (wire (min x y)) (wire x) = x - min x y := arc_wire (by omega) (by omega)
  have second : arc (wire (min x y)) (wire y) = y - min x y := arc_wire (by omega) (by omega)
  have order := @lt32_near (wire (min x y)) (wire x) (wire y) (by omega) (by omega)
  rw [order]
  omega

section Window
variable {low high : Nat} (short : high < low + 2^31)
include short

theorem inside_wire {s : Span} (filled : s.1 < s.2) (bounds : low ≤ s.1 ∧ s.2 ≤ high) :
    Inside (wire low) (wire high) (wireSpan s) ∧ offsets (wire low) (wireSpan s) = (s.1 - low,s.2 - low) := by
  have left : arc (wire low) (wire s.1) = s.1 - low := arc_wire (by omega) (by omega)
  have right : arc (wire low) (wire s.2) = s.2 - low := arc_wire (by omega) (by omega)
  have top : arc (wire low) (wire high) = high - low := arc_wire (by omega) (by omega)
  simp only [Inside,offsets,wireSpan,left,right,top,and_true]
  omega

theorem overlapsOrTouches_wire {a b : Span} (filledA : a.1 < a.2) (boundsA : low ≤ a.1 ∧ a.2 ≤ high)
    (filledB : b.1 < b.2) (boundsB : low ≤ b.1 ∧ b.2 ≤ high) :
    overlapsOrTouches (wire a.1) (wire a.2) (wire b.1) (wire b.2) = true ↔ Meets a b := by
  have span : arc (wire low) (wire high) = high - low := arc_wire (by omega) (by omega)
  obtain ⟨insideA,offsetsA⟩ := inside_wire short filledA boundsA
  obtain ⟨insideB,offsetsB⟩ := inside_wire short filledB boundsB
  have iff := overlapsOrTouches_iff (by omega) insideA insideB
  obtain ⟨leftA,rightA⟩ := Prod.mk.inj offsetsA
  obtain ⟨leftB,rightB⟩ := Prod.mk.inj offsetsB
  rw [leftA,rightA,leftB,rightB] at iff
  refine iff.trans ?_
  simp only [Meets]
  omega

theorem merge_wire {a b : Span} (filledA : a.1 < a.2) (boundsA : low ≤ a.1 ∧ a.2 ≤ high)
    (filledB : b.1 < b.2) (boundsB : low ≤ b.1 ∧ b.2 ≤ high) :
    merge (wire a.1) (wire a.2) (wire b.1) (wire b.2) = wireSpan (hull a b) := by
  have left := @le32_wire a.1 b.1 (by omega) (by omega)
  have right := @le32_wire b.2 a.2 (by omega) (by omega)
  unfold merge wireSpan hull ge32
  rw [Prod.mk.injEq]
  refine ⟨?_,?_⟩
  · by_cases first : a.1 ≤ b.1
    · rw [if_pos (left.mpr first),min_eq_left first]
    · rw [if_neg (mt left.mp first),min_eq_right (by omega)]
  · by_cases last : b.2 ≤ a.2
    · rw [if_pos (right.mpr last),max_eq_left last]
    · rw [if_neg (mt right.mp last),max_eq_right (by omega)]

-- Inside one window the loop of `add_block` is the one on plain numbers.
theorem absorb_wire (rest : List Span) (new : Span) (kept : List Span) (filled : ∀ s ∈ rest, s.1 < s.2)
    (inside : Within low high rest) (newFilled : new.1 < new.2) (bounds : low ≤ new.1 ∧ new.2 ≤ high) :
    SackScoreboard.absorb (rest.map wireSpan) (wire new.1) (wire new.2) (kept.map wireSpan) =
      (swallow rest new kept).map wireSpan := by
  induction rest generalizing new kept with
  | nil =>
    unfold SackScoreboard.absorb swallow
    simp [wireSpan]
  | cons head rest ih =>
    have headFilled := filled head (List.mem_cons_self ..)
    have headInside := inside head (List.mem_cons_self ..)
    have later : ∀ s ∈ rest, s.1 < s.2 := fun s member => filled s (List.mem_cons_of_mem _ member)
    have laterInside : Within low high rest := fun s member => inside s (List.mem_cons_of_mem _ member)
    have meets : overlapsOrTouches (wire new.1) (wire new.2) (wireSpan head).1 (wireSpan head).2 = true ↔ Meets new head :=
      overlapsOrTouches_wire short newFilled bounds headFilled headInside
    have merged : merge (wire new.1) (wire new.2) (wireSpan head).1 (wireSpan head).2 = wireSpan (hull new head) :=
      merge_wire short newFilled bounds headFilled headInside
    rw [List.map_cons]
    unfold SackScoreboard.absorb swallow
    by_cases touching : Meets new head
    · rw [if_pos touching,if_pos (meets.mpr touching),merged]
      exact ih (hull new head) kept later laterInside (by simp only [hull]; omega) (by simp only [hull]; omega)
    · rw [if_neg touching,if_neg (mt meets.mp touching)]
      have next := ih new (kept ++ [head]) later laterInside newFilled bounds
      rw [List.map_append] at next
      exact next

theorem pruneBelow_wire {spans : List Span} {point : Nat} (filled : ∀ s ∈ spans, s.1 < s.2)
    (inside : Within low high spans) (near : point < low + 2^31) (far : high < point + 2^31) :
    SackScoreboard.pruneBelow (spans.map wireSpan) (wire point) = (cut spans point).map wireSpan := by
  unfold SackScoreboard.pruneBelow cut
  rw [List.filter_map,List.map_map,List.map_map]
  have same : spans.filter ((fun block : Seq32 × Seq32 => !le32 block.2 (wire point)) ∘ wireSpan) =
      spans.filter fun s => decide (point < s.2) := by
    apply List.filter_congr
    intro s member
    have fullS := filled s member
    have bounds := inside s member
    have order := @le32_wire s.2 point (by omega) (by omega)
    by_cases above : point < s.2
    · have stays : le32 (wire s.2) (wire point) = false := by
        rw [Bool.eq_false_iff]
        exact fun holds => absurd (order.mp holds) (by omega)
      simp [wireSpan,stays,above]
    · have goes : le32 (wire s.2) (wire point) = true := order.mpr (by omega)
      simp [wireSpan,goes,above]
  rw [same]
  apply List.map_congr_left
  intro s kept
  have member := (List.mem_filter.mp kept).1
  have fullS := filled s member
  have bounds := inside s member
  have order : lt32 (wireSpan s).1 (wire point) = true ↔ s.1 < point := @lt32_wire s.1 point (by omega) (by omega)
  rw [Function.comp_apply,Function.comp_apply]
  by_cases below : s.1 < point
  · rw [if_pos (order.mpr below),max_eq_left (by omega)]
    simp only [wireSpan]
  · rw [if_neg (mt order.mp below),max_eq_right (by omega)]

theorem wide_wire {s : Span} (filled : s.1 < s.2) (bounds : low ≤ s.1 ∧ s.2 ≤ high) :
    arc (wire s.1) (wire s.2) = s.2 - s.1 := arc_wire (by omega) (by omega)

theorem totalSackedBytes_wire {spans : List Span} (filled : ∀ s ∈ spans, s.1 < s.2) (inside : Within low high spans) :
    SackScoreboard.totalSackedBytes (spans.map wireSpan) = total spans := by
  unfold SackScoreboard.totalSackedBytes total
  rw [List.map_map]
  congr 1
  apply List.map_congr_left
  intro s member
  exact wide_wire short (filled s member) (inside s member)

theorem covers_wire {s : Span} {x : Nat} (filled : s.1 < s.2) (bounds : low ≤ s.1 ∧ s.2 ≤ high) (from_ : low ≤ x)
    (turn : x < low + 2^32) : arc (wire s.1) (wire x) < arc (wire s.1) (wire s.2) ↔ s.1 ≤ x ∧ x < s.2 := by
  have wide := wide_wire short filled bounds
  rw [wide]
  by_cases before : x < s.1
  · have behind : arc (wire x) (wire s.1) = s.1 - x := arc_wire (by omega) (by omega)
    have apart : wire x ≠ wire s.1 := by
      intro same
      rw [same,arc_self] at behind
      omega
    have around := arc_swap apart
    omega
  · have ahead : arc (wire s.1) (wire x) = x - s.1 := arc_wire (by omega) (by omega)
    omega

theorem isSacked_wire {spans : List Span} {x : Nat} (filled : ∀ s ∈ spans, s.1 < s.2) (inside : Within low high spans)
    (from_ : low ≤ x) (turn : x < low + 2^32) :
    SackScoreboard.isSacked (spans.map wireSpan) (wire x) = true ↔ x ∈ points spans := by
  rw [mem_points]
  unfold SackScoreboard.isSacked
  simp only [List.any_map,List.any_eq_true,Function.comp_apply,inRange32_iff]
  refine exists_congr fun s => and_congr_right fun member => ?_
  have bounds := inside s member
  have full := filled s member
  obtain ⟨holds,seen⟩ := inside_wire short full bounds
  have span : arc (wire low) (wire high) = high - low := arc_wire (by omega) (by omega)
  have last := arc_pred (by omega) holds
  have wide := wide_wire short full bounds
  obtain ⟨left,right⟩ := Prod.mk.inj seen
  rw [last,left,right]
  have covers := covers_wire short full bounds from_ turn
  rw [wide] at covers
  rw [← covers]
  simp only [wireSpan]
  omega

end Window

-- Calls with the stream numbers of their arguments; an `add_block` has passed
-- its assertion.
inductive Call where
  | add (left right : Nat) (ordered : lt32 (wire left) (wire right) = true)
  | prune (sndUna : Nat)

-- The scoreboard, SND.UNA as the highest prune point, and as ghost how far up
-- blocks have come.
structure Track where
  board : SackScoreboard
  una : Nat
  top : Nat

namespace Track

def fresh (start : Nat) : Track := ⟨[],start,start⟩

def next : Call → Track → Track
  | .add left right ordered,t => {t with board := t.board.addBlock (wire left) (wire right) ordered,top := max t.top right}
  | .prune sndUna,t => {t with board := t.board.pruneBelow (wire sndUna),una := max t.una sndUna}

-- Blocks lie in the half-window above SND.UNA, also above one that comes late.
def InWindow : Call → Track → Prop
  | .add left right _,t => t.una ≤ left ∧ left < right ∧ right < t.una + 2^31
  | .prune sndUna,t => sndUna < t.una + 2^31 ∧ t.una < sndUna + 2^31 ∧ t.top < sndUna + 2^31

instance (call : Call) (t : Track) : Decidable (InWindow call t) :=
  match call with
  | .add .. => inferInstanceAs (Decidable (_ ∧ _ ∧ _))
  | .prune _ => inferInstanceAs (Decidable (_ ∧ _ ∧ _))

end Track

-- All that was added, less everything below a prune point.
def covered (calls : List Call) : Set Nat :=
  {x | (∃ left right ordered, Call.add left right ordered ∈ calls ∧ left ≤ x ∧ x < right) ∧
    ∀ sndUna, Call.prune sndUna ∈ calls → sndUna ≤ x}

-- The scoreboard is a list of intervals of the stream, seen on the wire.
structure Tracks (past : List Call) (spans : List Span) (t : Track) : Prop where
  board : t.board = spans.map wireSpan
  tidy : Tidy spans
  inside : Within t.una t.top spans
  short : t.top < t.una + 2^31
  pruned : ∀ sndUna, Call.prune sndUna ∈ past → sndUna ≤ t.una
  covers : ∀ x, x ∈ points spans ↔ x ∈ covered past

theorem tracks_fresh (start : Nat) : Tracks [] [] (Track.fresh start) where
  board := rfl
  tidy := Tidy.nil
  inside := by simp [Within]
  short := by simp [Track.fresh]
  pruned := by simp
  covers := by simp [points,covered]

theorem tracks_add (tracks : Tracks past spans t) (within : Track.InWindow (.add left right ordered) t) :
    Tracks (past ++ [.add left right ordered]) (insert spans (left,right)) (Track.next (.add left right ordered) t) := by
  obtain ⟨above,filled,near⟩ := within
  have short : max t.top right < t.una + 2^31 := by
    have before := tracks.short
    omega
  have inside : Within t.una (max t.top right) spans := by
    intro s member
    have bounds := tracks.inside s member
    omega
  refine ⟨?_,insert_tidy tracks.tidy filled,?_,short,?_,?_⟩
  · change SackScoreboard.absorb t.board (wire left) (wire right) [] = _
    rw [tracks.board]
    exact absorb_wire short spans (left,right) [] tracks.tidy.filled inside filled ⟨above,le_max_right ..⟩
  · exact swallow_within spans (left,right) [] inside ⟨above,le_max_right ..⟩
  · intro sndUna member
    rcases List.mem_append.mp member with old | fresh
    · exact tracks.pruned sndUna old
    · cases List.mem_singleton.mp fresh
  · intro x
    rw [mem_insert tracks.tidy filled,tracks.covers]
    simp only [covered,Set.mem_ofPred_eq,List.mem_append,List.mem_singleton]
    constructor
    · rintro (⟨⟨l,r,o,member,inRange⟩,later⟩ | inRange)
      · refine ⟨⟨l,r,o,.inl member,inRange⟩,?_⟩
        rintro sndUna (old | fresh)
        · exact later sndUna old
        · cases fresh
      · refine ⟨⟨left,right,ordered,.inr rfl,inRange⟩,?_⟩
        rintro sndUna (old | fresh)
        · exact (tracks.pruned sndUna old).trans (above.trans inRange.1)
        · cases fresh
    · rintro ⟨⟨l,r,o,old | fresh,inRange⟩,later⟩
      · exact .inl ⟨⟨l,r,o,old,inRange⟩,fun sndUna member => later sndUna (.inl member)⟩
      · cases fresh
        exact .inr inRange

theorem tracks_prune (tracks : Tracks past spans t) (within : Track.InWindow (.prune sndUna) t) :
    Tracks (past ++ [.prune sndUna]) (cut spans sndUna) (Track.next (.prune sndUna) t) := by
  obtain ⟨near,_,far⟩ := within
  have short := tracks.short
  refine ⟨?_,cut_tidy tracks.tidy,?_,?_,?_,?_⟩
  · change SackScoreboard.pruneBelow t.board (wire sndUna) = _
    rw [tracks.board]
    exact pruneBelow_wire short tracks.tidy.filled tracks.inside near far
  · have cutInside := @cut_within t.una t.top spans sndUna tracks.inside
    rw [max_comm] at cutInside
    exact cutInside
  · change t.top < max t.una sndUna + 2^31
    omega
  · intro point member
    change point ≤ max t.una sndUna
    rcases List.mem_append.mp member with old | fresh
    · exact (tracks.pruned point old).trans (le_max_left ..)
    · cases List.mem_singleton.mp fresh
      exact le_max_right ..
  · intro x
    rw [mem_cut,tracks.covers]
    simp only [covered,Set.mem_ofPred_eq,List.mem_append,List.mem_singleton]
    constructor
    · rintro ⟨above,⟨l,r,o,member,inRange⟩,later⟩
      refine ⟨⟨l,r,o,.inl member,inRange⟩,?_⟩
      rintro point (old | fresh)
      · exact later point old
      · cases fresh
        exact above
    · rintro ⟨⟨l,r,o,old | fresh,inRange⟩,later⟩
      · exact ⟨later sndUna (.inr rfl),⟨l,r,o,old,inRange⟩,fun point member => later point (.inl member)⟩
      · cases fresh

theorem tracks_next (tracks : Tracks past spans t) (within : Track.InWindow call t) :
    ∃ spans, Tracks (past ++ [call]) spans (Track.next call t) := by
  cases call with
  | add left right ordered => exact ⟨_,tracks_add tracks within⟩
  | prune sndUna => exact ⟨_,tracks_prune tracks within⟩

theorem tracks_run (tracks : Tracks past spans t) (calls : List Call)
    (within : Runs.Met Track.next Track.InWindow calls t) :
    ∃ spans, Tracks (past ++ calls) spans (Runs.run Track.next t calls) := by
  induction calls generalizing past spans t with
  | nil =>
    rw [List.append_nil]
    exact ⟨spans,tracks⟩
  | cons call rest ih =>
    obtain ⟨first,later⟩ := within
    obtain ⟨moved,step⟩ := tracks_next tracks first
    have whole := ih step later
    rw [List.append_assoc] at whole
    exact whole

theorem Tracks.sacked (tracks : Tracks past spans t) (seq : Seq32) :
    t.board.isSacked seq = true ↔ t.una + arc (wire t.una) seq ∈ covered past := by
  have turn := arc_lt (wire t.una) seq
  have decides := @isSacked_wire t.una t.top tracks.short spans (t.una + arc (wire t.una) seq) tracks.tidy.filled
    tracks.inside (by omega) (by omega)
  rw [wire_arc] at decides
  rw [tracks.board,decides]
  exact tracks.covers _

theorem Tracks.held (tracks : Tracks past spans t) (seq : Seq32) :
    (∃ block ∈ t.board, arc block.1 seq < arc block.1 block.2) ↔ t.una + arc (wire t.una) seq ∈ covered past := by
  have turn := arc_lt (wire t.una) seq
  rw [← tracks.covers,mem_points,tracks.board]
  simp only [List.mem_map,exists_exists_and_eq_and]
  refine exists_congr fun s => and_congr_right fun member => ?_
  have same := @covers_wire t.una t.top tracks.short s (t.una + arc (wire t.una) seq) (tracks.tidy.filled s member)
    (tracks.inside s member) (by omega) (by omega)
  rw [wire_arc] at same
  exact same

-- Disjoint and not touching, holding what was added and not pruned.
theorem scoreboard_covers (start : Nat) (calls : List Call)
    (within : Runs.Met Track.next Track.InWindow calls (Track.fresh start)) :
    let t := Runs.run Track.next (Track.fresh start) calls
    (∀ block ∈ t.board, arc (wire t.una) block.1 < arc (wire t.una) block.2) ∧
    (t.board.Pairwise fun a b => Clear (offsets (wire t.una) a) (offsets (wire t.una) b)) ∧
    (∀ seq, (∃ block ∈ t.board, arc block.1 seq < arc block.1 block.2) ↔
      t.una + arc (wire t.una) seq ∈ covered calls) ∧
    (∀ x ∈ covered calls, t.una ≤ x ∧ x < t.una + 2^31) ∧
    t.board.totalSackedBytes = (covered calls).ncard ∧
    ∀ seq, t.board.isSacked seq = true ↔ t.una + arc (wire t.una) seq ∈ covered calls := by
  intro t
  obtain ⟨spans,tracks⟩ : ∃ spans, Tracks calls spans t := tracks_run (tracks_fresh start) calls within
  clear_value t
  have seen : ∀ s ∈ spans, offsets (wire t.una) (wireSpan s) = (s.1 - t.una,s.2 - t.una) := fun s member =>
    (inside_wire tracks.short (tracks.tidy.filled s member) (tracks.inside s member)).2
  have exact : covered calls = (points spans : Set Nat) := by
    ext x
    exact (tracks.covers x).symm
  refine ⟨?_,?_,tracks.held,?_,?_,tracks.sacked⟩
  · rw [tracks.board]
    intro block member
    obtain ⟨s,belongs,rfl⟩ := List.mem_map.mp member
    exact (inside_wire tracks.short (tracks.tidy.filled s belongs) (tracks.inside s belongs)).1.1
  · rw [tracks.board,List.pairwise_map]
    refine List.Pairwise.imp_of_mem ?_ tracks.tidy.clear
    intro a b memberA memberB clear
    have boundsA := tracks.inside a memberA
    have boundsB := tracks.inside b memberB
    have filledA := tracks.tidy.filled a memberA
    have filledB := tracks.tidy.filled b memberB
    rw [seen a memberA,seen b memberB]
    simp only [Clear] at clear ⊢
    omega
  · intro x member
    rw [exact] at member
    obtain ⟨s,belongs,low,high⟩ := mem_points.mp member
    have bounds := tracks.inside s belongs
    have short := tracks.short
    omega
  · rw [exact,Set.ncard_coe_finset,card_points tracks.tidy.apart,tracks.board]
    exact totalSackedBytes_wire tracks.short tracks.tidy.filled tracks.inside

-- Late, early and bridging blocks around the turn of the circle.
def bridged : List Call :=
  [.add (2^32 + 10) (2^32 + 20) (by decide),.add (2^32 - 10) (2^32 - 5) (by decide),
   .add (2^32 - 5) (2^32 + 12) (by decide),.prune (2^32 - 8)]

theorem scoreboard_covers_bridged :
    (Runs.run Track.next (Track.fresh (2^32 - 20)) bridged).board.totalSackedBytes = (covered bridged).ncard ∧
    (Runs.run Track.next (Track.fresh (2^32 - 20)) bridged).board = [(wire (2^32 - 8),wire (2^32 + 20))] := by
  obtain ⟨_,_,_,_,size,_⟩ := scoreboard_covers (2^32 - 20) bridged (by decide +kernel)
  exact ⟨size,by decide +kernel⟩

-- Blocks stand in the order they came, not in that of their numbers.
def backwards : List Call := [.add 20 30 (by decide),.add 10 15 (by decide)]

theorem scoreboard_unsorted :
    Runs.Met Track.next Track.InWindow backwards (Track.fresh 0) ∧
    (Runs.run Track.next (Track.fresh 0) backwards).board = [(20,30),(10,15)] ∧
    ¬((Runs.run Track.next (Track.fresh 0) backwards).board.Pairwise fun a b =>
      arc (wire (Runs.run Track.next (Track.fresh 0) backwards).una) a.1 ≤
        arc (wire (Runs.run Track.next (Track.fresh 0) backwards).una) b.1) := by
  refine ⟨?_,?_,?_⟩ <;> decide +kernel

theorem isLost_antitone {board : SackScoreboard} {x y : Seq32} {mss dupThresh : Pos}
    (below : ∀ block ∈ board, le32 y block.1 = true → le32 x block.1 = true)
    (lost : isLost y board mss dupThresh = true) : isLost x board mss dupThresh = true := by
  have again : board.filter (fun block => le32 y block.1) =
      (board.filter fun block => le32 x block.1).filter fun block => le32 y block.1 := by
    rw [List.filter_filter]
    apply List.filter_congr
    intro block member
    cases above : le32 y block.1 with
    | true => rw [below block member above,Bool.and_self]
    | false => rfl
  have fewer : (board.filter fun block => le32 y block.1).Sublist (board.filter fun block => le32 x block.1) := by
    rw [again]
    exact List.filter_sublist
  have count := fewer.length_le
  have bytes : ((board.filter fun block => le32 y block.1).map fun block => arc block.1 block.2).sum ≤
      ((board.filter fun block => le32 x block.1).map fun block => arc block.1 block.2).sum :=
    (fewer.map _).sum_le_sum fun _ _ => Nat.zero_le _
  unfold isLost at lost ⊢
  simp only [Bool.or_eq_true,decide_eq_true_eq] at lost ⊢
  omega

section Gap
variable {low high : Nat} (short : high < low + 2^31)
include short

theorem gapFrom_wire (spans : List Span) (cursor : Nat) (filled : ∀ s ∈ spans, s.1 < s.2) (inside : Within low high spans)
    (from_ : low ≤ cursor) (until_ : cursor ≤ high) :
    SackScoreboard.gapFrom (spans.map wireSpan) (wire cursor) = wire (gapFrom spans cursor) ∧
      gapFrom spans cursor ≤ high := by
  induction spans generalizing cursor with
  | nil => exact ⟨rfl,until_⟩
  | cons s rest ih =>
    have bounds := inside s (List.mem_cons_self ..)
    have full := filled s (List.mem_cons_self ..)
    have later : ∀ t ∈ rest, t.1 < t.2 := fun t member => filled t (List.mem_cons_of_mem _ member)
    have laterInside : Within low high rest := fun t member => inside t (List.mem_cons_of_mem _ member)
    have order : lt32 (wireSpan s).1 (wire cursor) = true ↔ s.1 < cursor := @lt32_wire s.1 cursor (by omega) (by omega)
    have same : (wireSpan s).1 = wire cursor ↔ s.1 = cursor := by
      refine ⟨?_,fun eq => congrArg wire eq⟩
      intro eq
      have forth := @le32_wire s.1 cursor (by omega) (by omega)
      have back := @le32_wire cursor s.1 (by omega) (by omega)
      have equal : wire s.1 = wire cursor := eq
      rw [equal] at forth back
      exact le_antisymm (forth.mp (le32_self _)) (back.mp (le32_self _))
    rw [List.map_cons]
    unfold SackScoreboard.gapFrom gapFrom
    by_cases starts : s.1 = cursor
    · rw [if_pos (same.mpr starts),if_pos starts]
      exact ih s.2 later laterInside (by omega) bounds.2
    · rw [if_neg (mt same.mp starts),if_neg starts]
      by_cases before : s.1 < cursor
      · rw [if_pos (order.mpr before),if_pos before]
        exact ih cursor later laterInside from_ until_
      · rw [if_neg (mt order.mp before),if_neg before]
        exact ⟨rfl,until_⟩

theorem firstGap_wire {spans : List Span} {una : Nat} (tidy : Tidy spans) (inside : Within low high spans)
    (from_ : low ≤ una) (until_ : una ≤ high) (whole : ∀ s ∈ spans, s.2 ≤ una ∨ una ≤ s.1) :
    ∃ gap, SackScoreboard.firstGap (spans.map wireSpan) (wire una) = wire gap ∧ una ≤ gap ∧ gap ≤ high ∧
      gap ∉ points spans ∧ ∀ x, una ≤ x → x < gap → x ∈ points spans := by
  let sorted := List.insertionSort (fun a b : Span => arc (wire una) (wire a.1) ≤ arc (wire una) (wire b.1)) spans
  have perm : sorted.Perm spans := List.perm_insertionSort _ _
  have members : ∀ s, s ∈ sorted ↔ s ∈ spans := fun s => perm.mem_iff
  have sortedTidy : Tidy sorted :=
    ⟨fun s member => tidy.filled s ((members s).mp member),
      (perm.pairwise_iff fun {a b} clear => Or.symm clear).mpr tidy.clear⟩
  have sortedInside : Within low high sorted := fun s member => inside s ((members s).mp member)
  have mapped : SackScoreboard.sortedFrom (spans.map wireSpan) (wire una) = sorted.map wireSpan := by
    symm
    apply List.map_insertionSort
    intro a _ b _
    rfl
  have upward : sorted.Pairwise fun a b => b.2 ≤ una ∨ a.1 ≤ b.1 := by
    have ordered : sorted.Pairwise fun a b => arc (wire una) (wire a.1) ≤ arc (wire una) (wire b.1) :=
      List.pairwise_insertionSort _ _
    refine List.Pairwise.imp_of_mem ?_ ordered
    intro a b memberA memberB near
    have boundsA := sortedInside a memberA
    have boundsB := sortedInside b memberB
    have filledA := sortedTidy.filled a memberA
    have filledB := sortedTidy.filled b memberB
    rcases whole b ((members b).mp memberB) with below | above
    · exact .inl below
    · right
      have placeB : arc (wire una) (wire b.1) = b.1 - una := arc_wire above (by omega)
      by_cases behind : a.1 < una
      · have back : arc (wire a.1) (wire una) = una - a.1 := arc_wire behind.le (by omega)
        have apart : wire a.1 ≠ wire una := by
          intro same
          rw [same,arc_self] at back
          omega
        have around := arc_swap apart
        omega
      · have placeA : arc (wire una) (wire a.1) = a.1 - una := arc_wire (by omega) (by omega)
        omega
  obtain ⟨seen,bound⟩ := gapFrom_wire short sorted una sortedTidy.filled sortedInside from_ until_
  obtain ⟨start,free,full⟩ := gapFrom_least sorted una sortedTidy upward
    (fun s member => whole s ((members s).mp member)) (Nat.le_refl una)
  have points_same : ∀ x, x ∈ points sorted ↔ x ∈ points spans := by
    intro x
    simp only [mem_points,members]
  refine ⟨gapFrom sorted una,?_,start,bound,?_,?_⟩
  · unfold SackScoreboard.firstGap
    rw [mapped]
    exact seen
  · rw [← points_same]
    exact free
  · intro x above under
    rw [← points_same]
    exact full x above under

end Gap

-- What RFC 6675 calls for: numbers of the flight that the scoreboard misses and
-- the loss rule names.
def Due (board : SackScoreboard) (sndUna sndMax : Seq32) (mss dupThresh : Pos) (seq : Seq32) : Prop :=
  arc sndUna seq < arc sndUna sndMax ∧ board.isSacked seq = false ∧ isLost seq board mss dupThresh = true

-- A block that begins before SND.UNA and ends after it.
def Straddles (sndUna : Seq32) (block : Seq32 × Seq32) : Prop := lt32 block.1 sndUna = true ∧ lt32 sndUna block.2 = true

instance (sndUna : Seq32) (block : Seq32 × Seq32) : Decidable (Straddles sndUna block) :=
  inferInstanceAs (Decidable (_ ∧ _))

-- One window holds the blocks and both edges of the flight.
structure Flight (t : Track) (sndUna sndMax : Nat) : Prop where
  ordered : sndUna ≤ sndMax
  narrow : sndMax < min t.una sndUna + 2^31
  blocks : t.top < sndUna + 2^31

section Recovery
variable {past : List Call} {spans : List Span} {t : Track} {sndUna sndMax : Nat} {mss dupThresh : Pos}

theorem Flight.number (flight : Flight t sndUna sndMax) {seq : Seq32}
    (inside : arc (wire sndUna) seq < arc (wire sndUna) (wire sndMax)) :
    ∃ x, wire x = seq ∧ arc (wire sndUna) seq = x - sndUna ∧ sndUna ≤ x ∧ x < sndMax := by
  have size : arc (wire sndUna) (wire sndMax) = sndMax - sndUna := by
    have narrow := flight.narrow
    exact arc_wire flight.ordered (by omega)
  exact ⟨sndUna + arc (wire sndUna) seq,wire_arc sndUna seq,by omega,by omega,by omega⟩

theorem lost_below (tracks : Tracks past spans t) (flight : Flight t sndUna sndMax) {x y : Seq32}
    (order : arc (wire sndUna) x ≤ arc (wire sndUna) y) (inside : arc (wire sndUna) y < arc (wire sndUna) (wire sndMax))
    (lost : isLost y t.board mss dupThresh = true) : isLost x t.board mss dupThresh = true := by
  obtain ⟨m,rfl,placeY,_,_⟩ := flight.number inside
  obtain ⟨n,rfl,placeX,_,_⟩ := flight.number (order.trans_lt inside)
  refine isLost_antitone ?_ lost
  rw [tracks.board]
  intro block member above
  obtain ⟨s,belongs,rfl⟩ := List.mem_map.mp member
  have bounds := tracks.inside s belongs
  have filled := tracks.tidy.filled s belongs
  obtain ⟨_,narrow,blocks⟩ := flight
  have upper : le32 (wire m) (wire s.1) = true ↔ m ≤ s.1 := le32_wire (by omega) (by omega)
  have lower : le32 (wire n) (wire s.1) = true ↔ n ≤ s.1 := le32_wire (by omega) (by omega)
  have first : m ≤ s.1 := upper.mp above
  exact lower.mpr (by omega)

theorem nextSeg_chooses (tracks : Tracks past spans t) (flight : Flight t sndUna sndMax)
    (clear : ∀ block ∈ t.board, ¬Straddles (wire sndUna) block) :
    (∃ gap, nextSeg t.board (wire sndUna) (wire sndMax) mss dupThresh = some gap ∧
      Due t.board (wire sndUna) (wire sndMax) mss dupThresh gap ∧
      ∀ seq, Due t.board (wire sndUna) (wire sndMax) mss dupThresh seq →
        arc (wire sndUna) gap ≤ arc (wire sndUna) seq) ∨
    nextSeg t.board (wire sndUna) (wire sndMax) mss dupThresh = none ∧
      ∀ seq, ¬Due t.board (wire sndUna) (wire sndMax) mss dupThresh seq := by
  obtain ⟨ordered,narrow,blocks⟩ := flight
  have own := tracks.short
  have short : max t.top sndMax < min t.una sndUna + 2^31 := by omega
  have inside : Within (min t.una sndUna) (max t.top sndMax) spans := by
    intro s member
    have bounds := tracks.inside s member
    omega
  have whole : ∀ s ∈ spans, s.2 ≤ sndUna ∨ sndUna ≤ s.1 := by
    intro s member
    have bounds := inside s member
    have filled := tracks.tidy.filled s member
    have apart : ¬Straddles (wire sndUna) (wireSpan s) := by
      apply clear
      rw [tracks.board]
      exact List.mem_map_of_mem member
    have left : lt32 (wireSpan s).1 (wire sndUna) = true ↔ s.1 < sndUna := lt32_wire (by omega) (by omega)
    have right : lt32 (wire sndUna) (wireSpan s).2 = true ↔ sndUna < s.2 := lt32_wire (by omega) (by omega)
    simp only [Straddles,left,right] at apart
    omega
  obtain ⟨gap,found,from_,until_,free,full⟩ := firstGap_wire short tracks.tidy inside (by omega) (by omega) whole
  rw [← tracks.board] at found
  have sacked (x : Nat) (above : sndUna ≤ x) (under : x < sndMax) :
      t.board.isSacked (wire x) = true ↔ x ∈ points spans := by
    rw [tracks.board]
    exact isSacked_wire short tracks.tidy.filled inside (by omega) (by omega)
  -- whatever is due lies at the gap or above it
  have after : ∀ seq, Due t.board (wire sndUna) (wire sndMax) mss dupThresh seq →
      gap < sndMax ∧ gap - sndUna ≤ arc (wire sndUna) seq := by
    rintro seq ⟨flightSeq,unsacked,_⟩
    obtain ⟨x,rfl,place,above,under⟩ := Flight.number ⟨ordered,narrow,blocks⟩ flightSeq
    have missing : x ∉ points spans := by
      rw [← sacked x above under,unsacked]
      simp
    have reached : gap ≤ x := by
      by_contra before
      exact missing (full x above (by omega))
    omega
  have edge : lt32 (wire gap) (wire sndMax) = true ↔ gap < sndMax := lt32_wire (by omega) (by omega)
  unfold nextSeg
  simp only [found]
  by_cases within : gap < sndMax
  · have place : arc (wire sndUna) (wire gap) = gap - sndUna := arc_wire from_ (by omega)
    have size : arc (wire sndUna) (wire sndMax) = sndMax - sndUna := arc_wire ordered (by omega)
    rw [edge.mpr within,Bool.not_true]
    simp only [Bool.false_eq_true,if_false]
    cases lost : isLost (wire gap) t.board mss dupThresh with
    | true =>
      left
      refine ⟨wire gap,by simp,⟨by omega,?_,lost⟩,?_⟩
      · rw [Bool.eq_false_iff,Ne,sacked gap from_ within]
        exact free
      · intro seq due
        rw [place]
        exact (after seq due).2
    | false =>
      right
      refine ⟨by simp,?_⟩
      intro seq due
      have order := (after seq due).2
      rw [← place] at order
      have below := lost_below tracks ⟨ordered,narrow,blocks⟩ order due.1 due.2.2
      rw [lost] at below
      cases below
  · right
    have beyond : lt32 (wire gap) (wire sndMax) = false := by
      rw [Bool.eq_false_iff]
      exact mt edge.mp within
    rw [beyond]
    exact ⟨by simp,fun seq due => within (after seq due).1⟩

end Recovery

theorem next_seg_least (start : Nat) (calls : List Call)
    (within : Runs.Met Track.next Track.InWindow calls (Track.fresh start)) (sndUna sndMax : Nat) (mss dupThresh : Pos)
    (flight : Flight (Runs.run Track.next (Track.fresh start) calls) sndUna sndMax)
    (clear : ∀ block ∈ (Runs.run Track.next (Track.fresh start) calls).board, ¬Straddles (wire sndUna) block) :
    let board := (Runs.run Track.next (Track.fresh start) calls).board
    let due := Due board (wire sndUna) (wire sndMax) mss dupThresh
    (∀ seq, nextSeg board (wire sndUna) (wire sndMax) mss dupThresh = some seq ↔
      due seq ∧ ∀ other, due other → arc (wire sndUna) seq ≤ arc (wire sndUna) other) ∧
    (nextSeg board (wire sndUna) (wire sndMax) mss dupThresh = none ↔ ∀ seq, ¬due seq) ∧
    ∀ x y, arc (wire sndUna) x ≤ arc (wire sndUna) y → arc (wire sndUna) y < arc (wire sndUna) (wire sndMax) →
      board.isSacked x = false → board.isSacked y = false →
      isLost y board mss dupThresh = true → isLost x board mss dupThresh = true := by
  intro board due
  obtain ⟨spans,tracks⟩ := tracks_run (tracks_fresh start) calls within
  have antitone := fun x y order inside => @lost_below _ _ _ _ _ mss dupThresh tracks flight x y order inside
  rcases @nextSeg_chooses _ _ _ _ _ mss dupThresh tracks flight clear with ⟨gap,chosen,isDue,least⟩ | ⟨refused,nothing⟩
  · refine ⟨?_,?_,fun x y order inside _ _ => antitone x y order inside⟩
    · intro seq
      rw [chosen,Option.some_inj]
      constructor
      · rintro rfl
        exact ⟨isDue,least⟩
      · rintro ⟨seqDue,seqLeast⟩
        have same : arc (wire sndUna) gap = arc (wire sndUna) seq := le_antisymm (least seq seqDue) (seqLeast gap isDue)
        rw [← wire_arc sndUna gap,same,wire_arc]
    · rw [chosen]
      simp only [reduceCtorEq,false_iff,not_forall,not_not]
      exact ⟨gap,isDue⟩
  · refine ⟨?_,?_,fun x y order inside _ _ => antitone x y order inside⟩
    · intro seq
      rw [refused]
      simp only [reduceCtorEq,false_iff,not_and]
      exact fun seqDue => absurd seqDue (nothing seq)
    · rw [refused]
      exact ⟨fun _ => nothing,fun _ => rfl⟩

-- Three blocks above a hole.
def threeAbove : List Call := [.add 40 50 (by decide),.add 10 30 (by decide),.add 60 70 (by decide),.add 80 90 (by decide)]

theorem smss_positive : (0 : Int) < 1460 := by decide

theorem next_seg_least_hole :
    nextSeg (Runs.run Track.next (Track.fresh 0) threeAbove).board (wire 10) (wire 100) ⟨1460,smss_positive⟩ = some 30 ∧
    Due (Runs.run Track.next (Track.fresh 0) threeAbove).board (wire 10) (wire 100) ⟨1460,smss_positive⟩ tcpDupThresh 30 := by
  have chosen : nextSeg (Runs.run Track.next (Track.fresh 0) threeAbove).board (wire 10) (wire 100) ⟨1460,smss_positive⟩ =
      some 30 := by
    decide +kernel
  have clear : ((Runs.run Track.next (Track.fresh 0) threeAbove).board.all
      fun block => decide ¬Straddles (wire 10) block) = true := by
    decide +kernel
  simp only [List.all_eq_true,decide_eq_true_eq] at clear
  refine ⟨chosen,?_⟩
  have spec := next_seg_least 0 threeAbove (by decide +kernel) 10 100 ⟨1460,smss_positive⟩ tcpDupThresh
    ⟨by decide,by decide +kernel,by decide +kernel⟩ clear
  exact ((spec.1 30).mp chosen).1

-- With SND.UNA inside a block the walk stops where it starts, on a number that
-- the scoreboard holds.
theorem next_seg_sacked :
    Runs.Met Track.next Track.InWindow threeAbove (Track.fresh 0) ∧
    nextSeg (Runs.run Track.next (Track.fresh 0) threeAbove).board (wire 20) (wire 100) ⟨1460,smss_positive⟩ =
      some (wire 20) ∧
    (Runs.run Track.next (Track.fresh 0) threeAbove).board.isSacked (wire 20) = true := by
  refine ⟨?_,?_,?_⟩ <;> decide +kernel

end PmdPytcp.Tcp
