import PmdPytcp.Tcp.Validate

namespace PmdPytcp.Tcp
open Arc

-- RFC 9293 section 3.10.7.4, table 6, read on the circle: `RCV.NXT =< x <
-- RCV.NXT+RCV.WND` says that `x` is less than RCV.WND steps after RCV.NXT.
def FourCase (seq : Seq32) (segLen : Nat) (nxt : Seq32) (wnd : Nat) : Prop :=
  if segLen = 0 then
    if wnd = 0 then seq = nxt else arc nxt seq < wnd
  else
    if wnd = 0 then False else arc nxt seq < wnd ∨ arc nxt (add32 seq (segLen - 1 : Nat)) < wnd

-- What the table is for: the octets of the segment, or the number of an empty
-- one, meet the window.
def MeetsWindow (seq : Seq32) (segLen : Nat) (nxt : Seq32) (wnd : Nat) : Prop :=
  if segLen = 0 then
    if wnd = 0 then seq = nxt else arc nxt seq < wnd
  else
    ∃ i < segLen, arc nxt (add32 seq i) < wnd

-- An empty segment one past the last octet of the window.
def AtRightEdge (seq : Seq32) (segLen : Nat) (nxt : Seq32) (wnd : Nat) : Prop :=
  segLen = 0 ∧ 0 < wnd ∧ arc nxt seq = wnd

-- Segment and window overlap and reach over half the sequence space together.
def SpansHalf (seq : Seq32) (segLen : Nat) (nxt : Seq32) (wnd : Nat) : Prop :=
  arc nxt seq < wnd ∧ 0x8000_0000 ≤ arc nxt seq + segLen ∨ arc seq nxt < segLen ∧ 0 < wnd ∧ 0x8000_0000 ≤ arc seq nxt + wnd

-- The segment starts before the window and ends behind it: no end lies inside.
def CoversWindow (seq : Seq32) (segLen : Nat) (nxt : Seq32) (wnd : Nat) : Prop :=
  0 < wnd ∧ seq ≠ nxt ∧ arc seq nxt + wnd < segLen

section Window
variable {seq nxt : Seq32} {segLen wnd : Nat}

theorem arc_add32_right (a b : Seq32) (n : Nat) : arc a (add32 b n) = (arc a b + n) % 2^32 := by
  rw [add32_nat,arc_add_right]

-- A segment with octets meets the window when its first octet lies inside, or
-- when the window's first octet lies inside it.
theorem meetsWindow_iff (loaded : 0 < segLen) (short : segLen < 0x8000_0000) (narrow : wnd < 0x8000_0000) :
    MeetsWindow seq segLen nxt wnd ↔ 0 < wnd ∧ (arc nxt seq < wnd ∨ arc seq nxt < segLen) := by
  have back := arc_split nxt seq nxt
  have far := arc_lt nxt seq
  have near := arc_lt seq nxt
  rw [arc_self] at back
  unfold MeetsWindow
  rw [if_neg (by omega)]
  constructor
  · intro meets
    obtain ⟨i,inside,reached⟩ := meets
    rw [arc_add32_right] at reached
    omega
  · intro meets
    obtain ⟨opened,first | behind⟩ := meets
    · refine ⟨0,loaded,?_⟩
      rw [arc_add32_right]
      omega
    · refine ⟨arc seq nxt,behind,?_⟩
      rw [add32_arc,arc_self]
      exact opened

theorem fourCase_iff (loaded : 0 < segLen) (short : segLen < 0x8000_0000) (narrow : wnd < 0x8000_0000) :
    FourCase seq segLen nxt wnd ↔
      0 < wnd ∧ (arc nxt seq < wnd ∨ arc seq nxt < segLen ∧ segLen ≤ arc seq nxt + wnd) := by
  have back := arc_split nxt seq nxt
  have far := arc_lt nxt seq
  have near := arc_lt seq nxt
  rw [arc_self] at back
  unfold FourCase
  rw [if_neg (by omega),arc_add32_right]
  split
  · rename_i shut
    simp [shut]
  · omega

theorem acceptable_data_iff (loaded : 0 < segLen) : acceptable seq segLen nxt wnd = true ↔
    0 < wnd ∧ lt32 seq (add32 nxt wnd) = true ∧ lt32 nxt (add32 seq segLen) = true := by
  unfold acceptable
  rw [if_neg (by omega)]
  simp [gt32,and_assoc]

theorem acceptable_empty_iff (narrow : wnd < 0x8000_0000) : acceptable seq 0 nxt wnd = true ↔
    wnd = 0 ∧ seq = nxt ∨ 0 < wnd ∧ arc nxt seq ≤ wnd := by
  unfold acceptable
  rw [if_pos rfl]
  split
  · rw [inRange32_iff,arc_add32 nxt (by omega)]
    omega
  · rename_i shut
    have none : wnd = 0 := by omega
    simp [none]

theorem acceptable_meets (short : segLen < 0x8000_0000) (narrow : wnd < 0x8000_0000)
    (inner : ¬AtRightEdge seq segLen nxt wnd) (near : ¬SpansHalf seq segLen nxt wnd) :
    acceptable seq segLen nxt wnd = true ↔ MeetsWindow seq segLen nxt wnd := by
  by_cases empty : segLen = 0
  · subst empty
    rw [acceptable_empty_iff narrow]
    unfold AtRightEdge at inner
    unfold MeetsWindow
    rw [if_pos rfl]
    split
    · rename_i shut
      simp [shut]
    · omega
  · have loaded : 0 < segLen := by omega
    have back := arc_split nxt seq nxt
    have farA := arc_lt nxt seq
    have farB := arc_lt seq nxt
    rw [arc_self] at back
    unfold SpansHalf at near
    rw [acceptable_data_iff loaded,meetsWindow_iff loaded short narrow,lt32_iff,lt32_iff,
      arc_add32_right,arc_add32_right]
    omega

theorem acceptable_shift (short : segLen < 0x8000_0000) (narrow : wnd < 0x8000_0000)
    (near : ¬SpansHalf seq segLen nxt wnd) (c : Seq32) :
    acceptable (seq + c) segLen (nxt + c) wnd = acceptable seq segLen nxt wnd := by
  by_cases empty : segLen = 0
  · subst empty
    rw [Bool.eq_iff_iff,acceptable_empty_iff narrow,acceptable_empty_iff narrow,arc_shift]
    simp
  · have inner : ¬AtRightEdge seq segLen nxt wnd := fun edge => empty edge.1
    have turned : ¬AtRightEdge (seq + c) segLen (nxt + c) wnd := fun edge => empty edge.1
    have nearTurned : ¬SpansHalf (seq + c) segLen (nxt + c) wnd := by
      unfold SpansHalf
      rwa [arc_shift,arc_shift]
    have same : MeetsWindow (seq + c) segLen (nxt + c) wnd ↔ MeetsWindow seq segLen nxt wnd := by
      unfold MeetsWindow
      rw [if_neg empty,if_neg empty]
      simp only [add32_shift,arc_shift]
    rw [Bool.eq_iff_iff,acceptable_meets short narrow turned nearTurned,acceptable_meets short narrow inner near,same]

theorem acceptable_spansHalf (short : segLen < 0x8000_0000) (narrow : wnd < 0x8000_0000)
    (far : SpansHalf seq segLen nxt wnd) : MeetsWindow seq segLen nxt wnd ∧
    (acceptable seq segLen nxt wnd = true →
      acceptable (seq + 0x8000_0000#32) segLen (nxt + 0x8000_0000#32) wnd = false) := by
  have back := arc_split nxt seq nxt
  have farA := arc_lt nxt seq
  have farB := arc_lt seq nxt
  rw [arc_self] at back
  unfold SpansHalf at far
  have loaded : 0 < segLen := by omega
  have half : (0x8000_0000#32 : Seq32).toNat = 0x8000_0000 := by decide
  refine ⟨?_,?_⟩
  · rw [meetsWindow_iff loaded short narrow]
    omega
  · intro accepted
    obtain ⟨opened,starts,ends⟩ := (acceptable_data_iff loaded).mp accepted
    have startDist := arc_add32_right seq nxt wnd
    have endDist := arc_add32_right nxt seq segLen
    rw [← Bool.not_eq_true,acceptable_data_iff loaded,add32_shift,add32_shift]
    rintro ⟨_,startsTurned,endsTurned⟩
    have startsWide := lt32_iff.mp starts
    have endsWide := lt32_iff.mp ends
    rcases far with ahead | behind
    · have tie : arc nxt (add32 seq segLen) = 0x8000_0000 := by omega
      rw [lt32_half_turn tie half,ends] at endsTurned
      cases endsTurned
    · have tie : arc seq (add32 nxt wnd) = 0x8000_0000 := by omega
      rw [lt32_half_turn tie half,starts] at startsTurned
      cases startsTurned

theorem acceptable_atRightEdge (narrow : wnd < 0x8000_0000) (edge : AtRightEdge seq segLen nxt wnd) :
    acceptable seq segLen nxt wnd = true ∧ ¬MeetsWindow seq segLen nxt wnd ∧ ¬FourCase seq segLen nxt wnd := by
  obtain ⟨rfl,opened,place⟩ := edge
  refine ⟨?_,?_,?_⟩
  · rw [acceptable_empty_iff narrow]
    omega
  · unfold MeetsWindow
    rw [if_pos rfl,if_neg (by omega)]
    omega
  · unfold FourCase
    rw [if_pos rfl,if_neg (by omega)]
    omega

theorem fourCase_meets_iff (short : segLen < 0x8000_0000) (narrow : wnd < 0x8000_0000) :
    (FourCase seq segLen nxt wnd ↔ MeetsWindow seq segLen nxt wnd) ↔ ¬CoversWindow seq segLen nxt wnd := by
  by_cases empty : segLen = 0
  · subst empty
    simp [FourCase,MeetsWindow,CoversWindow]
  · have loaded : 0 < segLen := by omega
    have back := arc_split nxt seq nxt
    have farA := arc_lt nxt seq
    have farB := arc_lt seq nxt
    have place := @arc_eq_zero 32 seq nxt
    rw [arc_self] at back
    rw [fourCase_iff loaded short narrow,meetsWindow_iff loaded short narrow]
    unfold CoversWindow
    rw [Ne,← place]
    omega

theorem spansHalf_not_covers (short : segLen < 0x8000_0000)
    (far : SpansHalf seq segLen nxt wnd) : ¬CoversWindow seq segLen nxt wnd := by
  have back := arc_split nxt seq nxt
  have farA := arc_lt nxt seq
  have place := @arc_eq_zero 32 seq nxt
  rw [arc_self] at back
  unfold CoversWindow
  unfold SpansHalf at far
  rw [Ne,← place]
  omega

-- A verdict that is right under some test, and stays when the circle turns,
-- says that neither slip is met, as long as the test fails at the right edge
-- and holds for an overlap as wide as half the circle.
theorem no_slip {test : Prop} (short : segLen < 0x8000_0000) (narrow : wnd < 0x8000_0000)
    (edge : AtRightEdge seq segLen nxt wnd → ¬test) (wide : SpansHalf seq segLen nxt wnd → test)
    (right : acceptable seq segLen nxt wnd = true ↔ test)
    (stays : ∀ c, acceptable (seq + c) segLen (nxt + c) wnd = acceptable seq segLen nxt wnd) :
    ¬AtRightEdge seq segLen nxt wnd ∧ ¬SpansHalf seq segLen nxt wnd := by
  refine ⟨?_,?_⟩
  · intro atEdge
    exact edge atEdge (right.mp (acceptable_atRightEdge narrow atEdge).1)
  · intro far
    have accepted := right.mpr (wide far)
    have turned := (acceptable_spansHalf short narrow far).2 accepted
    rw [stays,accepted] at turned
    cases turned

end Window

theorem acceptable_rfc9293_iff (seq nxt : Seq32) (segLen wnd : Nat) (short : segLen < 0x8000_0000)
    (narrow : wnd < 0x8000_0000) :
    (((acceptable seq segLen nxt wnd = true ↔ MeetsWindow seq segLen nxt wnd) ∧
        ∀ c, acceptable (seq + c) segLen (nxt + c) wnd = acceptable seq segLen nxt wnd) ↔
      ¬AtRightEdge seq segLen nxt wnd ∧ ¬SpansHalf seq segLen nxt wnd) ∧
    (((acceptable seq segLen nxt wnd = true ↔ FourCase seq segLen nxt wnd) ∧
        ∀ c, acceptable (seq + c) segLen (nxt + c) wnd = acceptable seq segLen nxt wnd) ↔
      ¬AtRightEdge seq segLen nxt wnd ∧ ¬SpansHalf seq segLen nxt wnd ∧ ¬CoversWindow seq segLen nxt wnd) := by
  have cover := @fourCase_meets_iff seq nxt _ _ short narrow
  refine ⟨⟨?_,?_⟩,⟨?_,?_⟩⟩
  · rintro ⟨right,stays⟩
    exact no_slip short narrow (fun edge => (acceptable_atRightEdge narrow edge).2.1)
      (fun far => (acceptable_spansHalf short narrow far).1) right stays
  · rintro ⟨inner,near⟩
    exact ⟨acceptable_meets short narrow inner near,acceptable_shift short narrow near⟩
  · rintro ⟨right,stays⟩
    have clear := no_slip short narrow (fun edge => (acceptable_atRightEdge narrow edge).2.2)
      (fun far => (cover.mpr (spansHalf_not_covers short far)).mpr (acceptable_spansHalf short narrow far).1)
      right stays
    refine ⟨clear.1,clear.2,cover.mp ?_⟩
    rw [← right,acceptable_meets short narrow clear.1 clear.2]
  · rintro ⟨inner,near,inside⟩
    refine ⟨?_,acceptable_shift short narrow near⟩
    rw [acceptable_meets short narrow inner near,cover.mpr inside]

theorem acceptable_rfc9293_in_window :
    (acceptable 1000#32 100 900#32 65535 = true ↔ FourCase 1000#32 100 900#32 65535) ∧
      ∀ c, acceptable (1000#32 + c) 100 (900#32 + c) 65535 = acceptable 1000#32 100 900#32 65535 := by
  refine (acceptable_rfc9293_iff 1000#32 900#32 100 65535 (by decide) (by decide)).2.mpr ⟨?_,?_,?_⟩
  · simp [AtRightEdge]
  · simp [SpansHalf,arc]
  · simp [CoversWindow,arc]

-- An empty ACK one past the window of 65535 octets at 1000 is taken for inside.
theorem acceptable_right_edge : acceptable 66535#32 0 1000#32 65535 = true ∧
    ¬FourCase 66535#32 0 1000#32 65535 ∧ ¬MeetsWindow 66535#32 0 1000#32 65535 := by
  refine ⟨by decide,?_,?_⟩
  · simp [FourCase,arc]
  · simp [MeetsWindow,arc]

end PmdPytcp.Tcp
