import PmdPytcp.Lib.Spans
import PmdPytcp.Tcp.Session

namespace PmdPytcp.Tcp
open Arc Spans

-- What a scoreboard is for: blocks of the flight, none empty, none meeting.
def Inside (una top : Seq32) (block : Seq32 × Seq32) : Prop :=
  arc una block.1 < arc una block.2 ∧ arc una block.2 ≤ arc una top

instance (una top : Seq32) (block : Seq32 × Seq32) : Decidable (Inside una top block) :=
  inferInstanceAs (Decidable (_ ∧ _))

def offsets (una : Seq32) (block : Seq32 × Seq32) : Span := (arc una block.1,arc una block.2)

structure Board (una top : Seq32) (blocks : SackScoreboard) : Prop where
  inside : ∀ block ∈ blocks, Inside una top block
  apart : blocks.Pairwise fun a b => Apart (offsets una a) (offsets una b)

theorem Board.nil (una top : Seq32) : Board una top [] := ⟨by simp,List.Pairwise.nil⟩

section Flight
variable {una top : Seq32} (short : arc una top < 0x8000_0000)
include short

theorem arc_pred {block : Seq32 × Seq32} (inside : Inside una top block) :
    arc block.1 (sub32 block.2 1) = arc una block.2 - arc una block.1 - 1 := by
  have back : arc (sub32 block.2 1) block.2 = 1 := arc_sub32 block.2 (n := 1) (by decide)
  obtain ⟨nonempty,_⟩ := inside
  have fromUna := arc_seen_from una block.1 block.2
  have fromLeft := arc_seen_from block.1 (sub32 block.2 1) block.2
  have small := arc_lt block.1 (sub32 block.2 1)
  omega

theorem overlapsOrTouches_iff {a b : Seq32 × Seq32} (insideA : Inside una top a) (insideB : Inside una top b) :
    overlapsOrTouches a.1 a.2 b.1 b.2 = true ↔ arc una b.1 ≤ arc una a.2 ∧ arc una a.1 ≤ arc una b.2 := by
  have endA := arc_pred short insideA
  have endB := arc_pred short insideB
  have ab := arc_seen_from una a.1 b.1
  have ba := arc_seen_from una b.1 a.1
  obtain ⟨nonemptyA,withinA⟩ := insideA
  obtain ⟨nonemptyB,withinB⟩ := insideB
  have touchRight : a.2 = b.1 ↔ arc una a.2 = arc una b.1 := by
    rw [← arc_eq_zero]
    have seen := arc_seen_from una a.2 b.1
    omega
  have touchLeft : b.2 = a.1 ↔ arc una b.2 = arc una a.1 := by
    rw [← arc_eq_zero]
    have seen := arc_seen_from una b.2 a.1
    omega
  simp only [overlapsOrTouches,Bool.or_eq_true,beq_iff_eq,inRange32_iff,touchRight,touchLeft,endA,endB]
  omega

theorem merge_offsets {a b : Seq32 × Seq32} (insideA : Inside una top a) (insideB : Inside una top b) :
    arc una (merge a.1 a.2 b.1 b.2).1 = min (arc una a.1) (arc una b.1) ∧
    arc una (merge a.1 a.2 b.1 b.2).2 = max (arc una a.2) (arc una b.2) := by
  obtain ⟨nonemptyA,withinA⟩ := insideA
  obtain ⟨nonemptyB,withinB⟩ := insideB
  have left : le32 a.1 b.1 = true ↔ arc una a.1 ≤ arc una b.1 := le32_near (by omega) (by omega)
  have right : ge32 a.2 b.2 = true ↔ arc una b.2 ≤ arc una a.2 := le32_near (by omega) (by omega)
  simp only [merge]
  refine ⟨?_,?_⟩
  · by_cases first : arc una a.1 ≤ arc una b.1
    · rw [if_pos (left.mpr first)]
      omega
    · rw [if_neg fun holds => first (left.mp holds)]
      omega
  · by_cases last : arc una b.2 ≤ arc una a.2
    · rw [if_pos (right.mpr last)]
      omega
    · rw [if_neg fun holds => last (right.mp holds)]
      omega

-- The loop invariant of `add_block`: what survived so far keeps away from the
-- growing block, and everything, seen or not, is a board.
theorem absorb_board (rest : SackScoreboard) (block : Seq32 × Seq32) (survivors : List (Seq32 × Seq32))
    (board : Board una top (survivors ++ rest)) (inside : Inside una top block)
    (away : ∀ s ∈ survivors, Apart (offsets una s) (offsets una block)) :
    Board una top (SackScoreboard.absorb rest block.1 block.2 survivors) := by
  induction rest generalizing block survivors with
  | nil =>
    rw [List.append_nil] at board
    unfold SackScoreboard.absorb
    refine ⟨?_,?_⟩
    · intro b member
      rcases List.mem_append.mp member with old | fresh
      · exact board.inside b old
      · rw [List.mem_singleton.mp fresh]
        exact inside
    · refine List.pairwise_append.mpr ⟨board.apart,List.pairwise_singleton _ _,?_⟩
      intro a old b fresh
      rw [List.mem_singleton.mp fresh]
      exact away a old
  | cons head rest ih =>
    have headInside : Inside una top head := board.inside head (by simp)
    have whole := List.pairwise_append.mp board.apart
    have meets := overlapsOrTouches_iff short inside headInside
    unfold SackScoreboard.absorb
    by_cases overlap : overlapsOrTouches block.1 block.2 head.1 head.2 = true
    · rw [if_pos overlap]
      obtain ⟨left,right⟩ := merge_offsets short inside headInside
      have touching := meets.mp overlap
      apply ih (merge block.1 block.2 head.1 head.2) survivors
      · refine ⟨fun b member => board.inside b ?_,?_⟩
        · rcases List.mem_append.mp member with old | later
          · exact List.mem_append_left _ old
          · exact List.mem_append_right _ (List.mem_cons_of_mem _ later)
        · refine List.pairwise_append.mpr ⟨whole.1,(List.pairwise_cons.mp whole.2.1).2,?_⟩
          intro a old b later
          exact whole.2.2 a old b (List.mem_cons_of_mem _ later)
      · obtain ⟨nonempty,within⟩ := inside
        obtain ⟨headNonempty,headWithin⟩ := headInside
        refine ⟨?_,?_⟩
        · rw [left,right]
          omega
        · rw [right]
          omega
      · intro s old
        have awayBlock := away s old
        have awayHead := whole.2.2 s old head (List.mem_cons_self ..)
        have nonempty := (board.inside s (List.mem_append_left _ old)).1
        simp only [Apart,offsets] at awayBlock awayHead ⊢
        rw [left,right]
        omega
    · rw [if_neg overlap]
      apply ih block (survivors ++ [head])
      · simpa using board
      · exact inside
      · intro s member
        rcases List.mem_append.mp member with old | fresh
        · exact away s old
        · rw [List.mem_singleton.mp fresh]
          have separate := mt meets.mpr overlap
          simp only [Apart,offsets]
          omega

theorem addBlock_board {board : SackScoreboard} {left right : Seq32} (valid : Board una top board)
    (ordered : lt32 left right = true) (inside : Inside una top (left,right)) :
    Board una top (board.addBlock left right ordered) :=
  absorb_board short board (left,right) [] (by simpa using valid) inside (by simp)

-- Blocks that pass the gate of `_ingest_sack_info` belong to the flight.
def GateSound (una top : Seq32) (blocks : List (Seq32 × Seq32)) : Prop :=
  ∀ block ∈ blocks, TcpSession.sackGate una top block = true → Inside una top block

omit short in
instance (una top : Seq32) (blocks : List (Seq32 × Seq32)) : Decidable (GateSound una top blocks) :=
  List.decidableBAll (fun block => TcpSession.sackGate una top block = true → Inside una top block) blocks

theorem addSackBlocks_board {board : SackScoreboard} {blocks : List (Seq32 × Seq32)}
    (valid : Board una top board) (sound : GateSound una top blocks) :
    Board una top (blocks.foldl (TcpSession.addSackBlock una top) board) := by
  induction blocks generalizing board with
  | nil => exact valid
  | cons head rest ih =>
    rw [List.foldl_cons]
    apply ih
    · unfold TcpSession.addSackBlock
      split
      · rename_i gate
        exact addBlock_board short valid _ (sound head (List.mem_cons_self ..) gate)
      · exact valid
    · intro block member
      exact sound block (List.mem_cons_of_mem _ member)

theorem pruneBelow_board {board : SackScoreboard} {ack : Seq32} (valid : Board una top board)
    (reached : arc una ack ≤ arc una top) : Board ack top (board.pruneBelow ack) := by
  have rest : arc ack top = arc una top - arc una ack := arc_cut reached
  have cut : ∀ block ∈ board, le32 block.2 ack ≠ true →
      arc ack block.2 = arc una block.2 - arc una ack ∧ arc una ack < arc una block.2 ∧
      arc ack (if lt32 block.1 ack then ack else block.1) = arc una block.1 - arc una ack := by
    intro block member kept
    obtain ⟨nonempty,within⟩ := valid.inside block member
    have keptIff : le32 block.2 ack = true ↔ arc una block.2 ≤ arc una ack := le32_near (by omega) (by omega)
    have trimIff : lt32 block.1 ack = true ↔ arc una block.1 < arc una ack := lt32_near (by omega) (by omega)
    have above : arc una ack < arc una block.2 := by
      by_contra below
      exact kept (keptIff.mpr (by omega))
    refine ⟨arc_cut (by omega),above,?_⟩
    by_cases trim : arc una block.1 < arc una ack
    · rw [if_pos (trimIff.mpr trim),arc_self]
      omega
    · rw [if_neg (fun holds => trim (trimIff.mp holds))]
      exact arc_cut (by omega)
  refine ⟨?_,?_⟩
  · intro block member
    obtain ⟨old,kept,rfl⟩ := List.mem_map.mp member
    obtain ⟨belongs,test⟩ := List.mem_filter.mp kept
    obtain ⟨right,above,left⟩ := cut old belongs (by simpa using test)
    obtain ⟨nonempty,within⟩ := valid.inside old belongs
    refine ⟨?_,?_⟩
    · show arc ack (if lt32 old.1 ack then ack else old.1) < arc ack old.2
      omega
    · show arc ack old.2 ≤ arc ack top
      omega
  · rw [SackScoreboard.pruneBelow,List.pairwise_map]
    have kept := valid.apart.filter fun block => !le32 block.2 ack
    refine List.Pairwise.imp_of_mem ?_ kept
    intro a b memberA memberB separate
    obtain ⟨belongsA,testA⟩ := List.mem_filter.mp memberA
    obtain ⟨belongsB,testB⟩ := List.mem_filter.mp memberB
    obtain ⟨rightA,aboveA,leftA⟩ := cut a belongsA (by simpa using testA)
    obtain ⟨rightB,aboveB,leftB⟩ := cut b belongsB (by simpa using testB)
    simp only [Apart,offsets] at separate ⊢
    omega

theorem pipe_bounds {board : SackScoreboard} {ack : Seq32} (valid : Board una top board)
    (reached : arc una ack ≤ arc una top) :
    0 ≤ pipe board ack top ∧ pipe board ack top ≤ arc ack top := by
  have rest : arc ack top = arc una top - arc una ack := arc_cut reached
  have counted : countedBytes board ack top ≤ arc ack top := by
    have exact : countedBytes board ack top =
        total ((board.filter fun block => le32 ack block.1 && le32 block.2 top).map (offsets ack)) := by
      unfold countedBytes total
      rw [List.map_map]
      congr 1
      apply List.map_congr_left
      intro block member
      obtain ⟨belongs,test⟩ := List.mem_filter.mp member
      obtain ⟨nonempty,within⟩ := valid.inside block belongs
      have from_ := (Bool.and_eq_true _ _ ▸ test).1
      have aboveAck : arc una ack ≤ arc una block.1 :=
        (le32_near (by omega) (by omega)).mp from_
      have left : arc ack block.1 = arc una block.1 - arc una ack := arc_cut aboveAck
      have right : arc ack block.2 = arc una block.2 - arc una ack := arc_cut (by omega)
      have length : arc block.1 block.2 = arc una block.2 - arc una block.1 := arc_cut (by omega)
      show arc block.1 block.2 = arc ack block.2 - arc ack block.1
      omega
    rw [exact]
    apply total_le
    · intro s member
      obtain ⟨block,kept,rfl⟩ := List.mem_map.mp member
      obtain ⟨belongs,test⟩ := List.mem_filter.mp kept
      obtain ⟨nonempty,within⟩ := valid.inside block belongs
      have from_ := (Bool.and_eq_true _ _ ▸ test).1
      have aboveAck : arc una ack ≤ arc una block.1 :=
        (le32_near (by omega) (by omega)).mp from_
      have right : arc ack block.2 = arc una block.2 - arc una ack := arc_cut (by omega)
      show arc ack block.2 ≤ arc ack top
      omega
    · rw [List.pairwise_map]
      have kept := valid.apart.filter fun block => le32 ack block.1 && le32 block.2 top
      refine List.Pairwise.imp_of_mem ?_ kept
      intro a b memberA memberB separate
      obtain ⟨belongsA,testA⟩ := List.mem_filter.mp memberA
      obtain ⟨belongsB,testB⟩ := List.mem_filter.mp memberB
      obtain ⟨nonemptyA,withinA⟩ := valid.inside a belongsA
      obtain ⟨nonemptyB,withinB⟩ := valid.inside b belongsB
      have aboveA : arc una ack ≤ arc una a.1 :=
        (le32_near (by omega) (by omega)).mp (Bool.and_eq_true _ _ ▸ testA).1
      have aboveB : arc una ack ≤ arc una b.1 :=
        (le32_near (by omega) (by omega)).mp (Bool.and_eq_true _ _ ▸ testB).1
      have leftA : arc ack a.1 = arc una a.1 - arc una ack := arc_cut aboveA
      have leftB : arc ack b.1 = arc una b.1 - arc una ack := arc_cut aboveB
      have rightA : arc ack a.2 = arc una a.2 - arc una ack := arc_cut (by omega)
      have rightB : arc ack b.2 = arc una b.2 - arc una ack := arc_cut (by omega)
      simp only [Apart,offsets] at separate ⊢
      omega
  unfold pipe
  omega

end Flight

theorem gapFrom_within {una top : Seq32} (blocks : List (Seq32 × Seq32)) (cursor : Seq32)
    (inside : ∀ block ∈ blocks, Inside una top block) (start : arc una cursor ≤ arc una top) :
    arc una (SackScoreboard.gapFrom blocks cursor) ≤ arc una top := by
  induction blocks generalizing cursor with
  | nil => exact start
  | cons head rest ih =>
    have later : ∀ block ∈ rest, Inside una top block := fun block member =>
      inside block (List.mem_cons_of_mem _ member)
    unfold SackScoreboard.gapFrom
    split
    · exact ih head.2 later (inside head (List.mem_cons_self ..)).2
    · split
      · exact ih cursor later start
      · exact start

theorem nextSeg_within {una top : Seq32} {board : SackScoreboard} {mss : Pos} {seq : Seq32}
    (valid : Board una top board) (found : nextSeg board una top mss = some seq) :
    arc una seq ≤ arc una top := by
  have gap : seq = board.firstGap una := by
    unfold nextSeg at found
    simp only at found
    split at found
    · cases found
    · split at found
      · exact (Option.some.inj found).symm
      · cases found
  rw [gap]
  apply gapFrom_within
  · intro block member
    have belongs : block ∈ board := by simpa [SackScoreboard.sortedFrom] using member
    exact valid.inside block belongs
  · simp

theorem skipSacked_within {una top : Seq32} (blocks : List (Seq32 × Seq32)) (nxt : Seq32)
    (inside : ∀ block ∈ blocks, Inside una top block) (start : arc una nxt ≤ arc una top) :
    arc una (blocks.foldl TcpSession.skipSacked nxt) ≤ arc una top := by
  induction blocks generalizing nxt with
  | nil => exact start
  | cons head rest ih =>
    rw [List.foldl_cons]
    apply ih
    · exact fun block member => inside block (List.mem_cons_of_mem _ member)
    · unfold TcpSession.skipSacked
      split
      · exact (inside head (List.mem_cons_self ..)).2
      · exact start

theorem Board.empty_of_idle {una : Seq32} {board : SackScoreboard} (valid : Board una una board) : board = [] := by
  cases board with
  | nil => rfl
  | cons head rest =>
    obtain ⟨nonempty,within⟩ := valid.inside head (List.mem_cons_self ..)
    rw [arc_self] at within
    omega

end PmdPytcp.Tcp
