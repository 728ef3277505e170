import Mathlib

namespace PmdPytcp.Spans

-- Half-open intervals of numbers, each given by its two ends.
abbrev Span := Nat × Nat

def Apart (a b : Span) : Prop := a.2 ≤ b.1 ∨ b.2 ≤ a.1

def total (spans : List Span) : Nat := (spans.map fun s => s.2 - s.1).sum

def points : List Span → Finset Nat
  | [] => ∅
  | s :: rest => Finset.Ico s.1 s.2 ∪ points rest

theorem mem_points {x : Nat} {spans : List Span} : x ∈ points spans ↔ ∃ s ∈ spans, s.1 ≤ x ∧ x < s.2 := by
  induction spans with
  | nil => simp [points]
  | cons head rest ih => simp [points,ih]

theorem card_points {spans : List Span} (apart : spans.Pairwise Apart) : (points spans).card = total spans := by
  induction spans with
  | nil => simp [points,total]
  | cons head rest ih =>
    obtain ⟨away,others⟩ := List.pairwise_cons.mp apart
    have separate : Disjoint (Finset.Ico head.1 head.2) (points rest) := by
      rw [Finset.disjoint_left]
      intro x inHead inRest
      obtain ⟨s,member,low,high⟩ := mem_points.mp inRest
      obtain ⟨headLow,headHigh⟩ := Finset.mem_Ico.mp inHead
      rcases away s member with before | after
      · omega
      · omega
    have split := Finset.card_union_of_disjoint separate
    have restCard := ih others
    simp only [total] at restCard
    simp [points,total,split,restCard]

theorem total_le {spans : List Span} {bound : Nat} (inside : ∀ s ∈ spans, s.2 ≤ bound)
    (apart : spans.Pairwise Apart) : total spans ≤ bound := by
  rw [← card_points apart]
  have within : points spans ⊆ Finset.range bound := by
    intro x member
    obtain ⟨s,belongs,_,high⟩ := mem_points.mp member
    have top := inside s belongs
    exact Finset.mem_range.mpr (by omega)
  have bounded := Finset.card_le_card within
  simpa using bounded

def Clear (a b : Span) : Prop := a.2 < b.1 ∨ b.2 < a.1

structure Tidy (spans : List Span) : Prop where
  filled : ∀ s ∈ spans, s.1 < s.2
  clear : spans.Pairwise Clear

def Within (low high : Nat) (spans : List Span) : Prop := ∀ s ∈ spans, low ≤ s.1 ∧ s.2 ≤ high

theorem Tidy.nil : Tidy [] := ⟨by simp,List.Pairwise.nil⟩

theorem Tidy.apart (tidy : Tidy spans) : spans.Pairwise Apart := by
  refine tidy.clear.imp ?_
  intro a b clear
  rcases clear with before | after
  · exact .inl before.le
  · exact .inr after.le

theorem points_append (a b : List Span) : x ∈ points (a ++ b) ↔ x ∈ points a ∨ x ∈ points b := by
  simp only [mem_points,List.mem_append]
  constructor
  · rintro ⟨s,left | right,holds⟩
    · exact .inl ⟨s,left,holds⟩
    · exact .inr ⟨s,right,holds⟩
  · rintro (⟨s,left,holds⟩ | ⟨s,right,holds⟩)
    · exact ⟨s,.inl left,holds⟩
    · exact ⟨s,.inr right,holds⟩

def Meets (a b : Span) : Prop := b.1 ≤ a.2 ∧ a.1 ≤ b.2

instance (a b : Span) : Decidable (Meets a b) := inferInstanceAs (Decidable (_ ∧ _))

def hull (a b : Span) : Span := (min a.1 b.1,max a.2 b.2)

-- The new interval swallows what it meets, in list order, and goes last.
def swallow : List Span → Span → List Span → List Span
  | [],new,kept => kept ++ [new]
  | s :: rest,new,kept =>
    if Meets new s then swallow rest (hull new s) kept else swallow rest new (kept ++ [s])

def insert (spans : List Span) (new : Span) : List Span := swallow spans new []

theorem swallow_tidy (rest : List Span) (new : Span) (kept : List Span) (tidy : Tidy (kept ++ rest))
    (filled : new.1 < new.2) (clear : ∀ s ∈ kept, Clear s new) : Tidy (swallow rest new kept) := by
  induction rest generalizing new kept with
  | nil =>
    rw [List.append_nil] at tidy
    refine ⟨?_,?_⟩
    · intro s member
      rcases List.mem_append.mp member with old | fresh
      · exact tidy.filled s old
      · rw [List.mem_singleton.mp fresh]
        exact filled
    · refine List.pairwise_append.mpr ⟨tidy.clear,List.pairwise_singleton _ _,?_⟩
      intro s old other fresh
      rw [List.mem_singleton.mp fresh]
      exact clear s old
  | cons head rest ih =>
    obtain ⟨early,late,across⟩ := List.pairwise_append.mp tidy.clear
    have headFilled : head.1 < head.2 := tidy.filled head (by simp)
    unfold swallow
    split
    · rename_i meets
      obtain ⟨left,right⟩ := meets
      apply ih
      · refine ⟨fun s member => tidy.filled s ?_,?_⟩
        · rcases List.mem_append.mp member with old | later
          · exact List.mem_append_left _ old
          · exact List.mem_append_right _ (List.mem_cons_of_mem _ later)
        · refine List.pairwise_append.mpr ⟨early,(List.pairwise_cons.mp late).2,?_⟩
          exact fun s old other later => across s old other (List.mem_cons_of_mem _ later)
      · simp only [hull]
        omega
      -- what keeps clear of two intervals that meet cannot lie between them
      · intro s old
        have newClear := clear s old
        have oldClear := across s old head (List.mem_cons_self ..)
        have sFilled := tidy.filled s (List.mem_append_left _ old)
        simp only [Clear,hull] at newClear oldClear ⊢
        omega
    · rename_i separate
      apply ih
      · simpa using tidy
      · exact filled
      · intro s member
        rcases List.mem_append.mp member with old | fresh
        · exact clear s old
        · rw [List.mem_singleton.mp fresh]
          simp only [Meets] at separate
          simp only [Clear]
          omega

theorem mem_swallow (rest : List Span) (new : Span) (kept : List Span) (filled : new.1 < new.2)
    (restFilled : ∀ s ∈ rest, s.1 < s.2) :
    x ∈ points (swallow rest new kept) ↔ x ∈ points kept ∨ x ∈ points rest ∨ new.1 ≤ x ∧ x < new.2 := by
  induction rest generalizing new kept with
  | nil => simp [swallow,points_append,points]
  | cons head rest ih =>
    have headFilled : head.1 < head.2 := restFilled head (List.mem_cons_self ..)
    have later : ∀ s ∈ rest, s.1 < s.2 := fun s member => restFilled s (List.mem_cons_of_mem _ member)
    unfold swallow
    split
    · rename_i meets
      obtain ⟨left,right⟩ := meets
      rw [ih (hull new head) kept (by simp only [hull]; omega) later]
      simp only [points,Finset.mem_union,Finset.mem_Ico,hull]
      have whole : min new.1 head.1 ≤ x ∧ x < max new.2 head.2 ↔
          (head.1 ≤ x ∧ x < head.2) ∨ new.1 ≤ x ∧ x < new.2 := by omega
      rw [whole]
      tauto
    · rw [ih new (kept ++ [head]) filled later,points_append]
      simp only [points,Finset.mem_union,Finset.mem_Ico,Finset.notMem_empty,or_false]
      tauto

theorem swallow_within (rest : List Span) (new : Span) (kept : List Span) (inside : Within low high (kept ++ rest))
    (bounds : low ≤ new.1 ∧ new.2 ≤ high) : Within low high (swallow rest new kept) := by
  induction rest generalizing new kept with
  | nil =>
    intro s member
    rcases List.mem_append.mp member with old | fresh
    · exact inside s (by simpa using old)
    · rw [List.mem_singleton.mp fresh]
      exact bounds
  | cons head rest ih =>
    have headInside := inside head (by simp)
    unfold swallow
    split
    · apply ih
      · intro s member
        apply inside s
        rcases List.mem_append.mp member with old | later
        · exact List.mem_append_left _ old
        · exact List.mem_append_right _ (List.mem_cons_of_mem _ later)
      · simp only [hull]
        omega
    · exact ih new (kept ++ [head]) (by simpa using inside) bounds

theorem insert_tidy (tidy : Tidy spans) (filled : new.1 < new.2) : Tidy (insert spans new) :=
  swallow_tidy spans new [] (by simpa using tidy) filled (by simp)

theorem mem_insert (tidy : Tidy spans) (filled : new.1 < new.2) :
    x ∈ points (insert spans new) ↔ x ∈ points spans ∨ new.1 ≤ x ∧ x < new.2 := by
  unfold insert
  rw [mem_swallow spans new [] filled tidy.filled]
  simp [points]

def cut (spans : List Span) (point : Nat) : List Span :=
  (spans.filter fun s => decide (point < s.2)).map fun s => (max point s.1,s.2)

theorem cut_tidy (tidy : Tidy spans) : Tidy (cut spans point) := by
  refine ⟨?_,?_⟩
  · intro s member
    obtain ⟨old,kept,rfl⟩ := List.mem_map.mp member
    obtain ⟨belongs,above⟩ := List.mem_filter.mp kept
    have filled := tidy.filled old belongs
    simp only [decide_eq_true_eq] at above
    simp only [sup_lt_iff]
    exact ⟨above,filled⟩
  · unfold cut
    rw [List.pairwise_map]
    refine (tidy.clear.filter _).imp ?_
    intro a b clear
    simp only [Clear] at clear ⊢
    omega

theorem mem_cut : x ∈ points (cut spans point) ↔ point ≤ x ∧ x ∈ points spans := by
  simp only [mem_points,cut,List.mem_map,List.mem_filter,decide_eq_true_eq]
  constructor
  · rintro ⟨s,⟨old,⟨belongs,_⟩,rfl⟩,low,high⟩
    simp only [sup_le_iff] at low
    exact ⟨low.1,old,belongs,low.2,high⟩
  · rintro ⟨above,s,belongs,low,high⟩
    exact ⟨_,⟨s,⟨belongs,by omega⟩,rfl⟩,by simp only [sup_le_iff]; exact ⟨above,low⟩,high⟩

theorem cut_within (inside : Within low high spans) : Within (max point low) high (cut spans point) := by
  intro s member
  obtain ⟨old,kept,rfl⟩ := List.mem_map.mp member
  have bounds := inside old (List.mem_filter.mp kept).1
  simp only
  omega

def gapFrom : List Span → Nat → Nat
  | [],cursor => cursor
  | s :: rest,cursor =>
    if s.1 = cursor then gapFrom rest s.2 else if s.1 < cursor then gapFrom rest cursor else cursor

-- The intervals come upwards; those that end at or before the start may stand
-- anywhere behind.
theorem gapFrom_least (spans : List Span) (cursor : Nat) (tidy : Tidy spans)
    (upward : spans.Pairwise fun a b => b.2 ≤ start ∨ a.1 ≤ b.1) (ahead : ∀ s ∈ spans, s.2 ≤ start ∨ cursor ≤ s.1)
    (from_ : start ≤ cursor) : cursor ≤ gapFrom spans cursor ∧ gapFrom spans cursor ∉ points spans ∧
      ∀ x, cursor ≤ x → x < gapFrom spans cursor → x ∈ points spans := by
  induction spans generalizing cursor with
  | nil =>
    refine ⟨Nat.le_refl _,by simp [points],?_⟩
    intro x low high
    exact absurd high (by simp only [gapFrom]; omega)
  | cons s rest ih =>
    have filled := tidy.filled s (List.mem_cons_self ..)
    have restTidy : Tidy rest := ⟨fun t member => tidy.filled t (List.mem_cons_of_mem _ member),(List.pairwise_cons.mp tidy.clear).2⟩
    obtain ⟨first,later⟩ := List.pairwise_cons.mp upward
    have place := ahead s (List.mem_cons_self ..)
    have free (g : Nat) (outside : ¬(s.1 ≤ g ∧ g < s.2)) (others : g ∉ points rest) : g ∉ points (s :: rest) := by
      simp only [points,Finset.mem_union,Finset.mem_Ico,not_or]
      exact ⟨outside,others⟩
    unfold gapFrom
    split
    · rename_i same
      have next : ∀ t ∈ rest, t.2 ≤ start ∨ s.2 ≤ t.1 := by
        intro t member
        have clear := (List.pairwise_cons.mp tidy.clear).1 t member
        have tFilled := restTidy.filled t member
        have order := first t member
        simp only [Clear] at clear
        omega
      obtain ⟨low,out,whole⟩ := ih s.2 restTidy later next (by omega)
      refine ⟨by omega,free _ (by omega) out,?_⟩
      intro x above below
      simp only [points,Finset.mem_union,Finset.mem_Ico]
      by_cases inHead : x < s.2
      · exact .inl ⟨by omega,inHead⟩
      · exact .inr (whole x (by omega) below)
    · split
      · rename_i below
        obtain ⟨low,out,whole⟩ := ih cursor restTidy later (fun t member => ahead t (List.mem_cons_of_mem _ member)) from_
        refine ⟨low,free _ (by omega) out,?_⟩
        intro x above under
        simp only [points,Finset.mem_union]
        exact .inr (whole x above under)
      · refine ⟨Nat.le_refl _,free _ (by omega) ?_,fun x low high => absurd high (by omega)⟩
        intro member
        obtain ⟨t,belongs,low,high⟩ := mem_points.mp member
        have order := first t belongs
        omega

end PmdPytcp.Spans
