import Mathlib

namespace PmdPytcp.Ranks
variable {α κ : Type} [LinearOrder κ] {key : α → κ} {pos : α → Nat} {l : List α} {x y : α} {n : Nat}

-- One item goes before another by its key, and among equals by its position.
def before (key : α → κ) (pos : α → Nat) (x y : α) : Bool := key x < key y || (key x = key y && pos x < pos y)

def rank (key : α → κ) (pos : α → Nat) (l : List α) (x : α) : Nat := l.countP fun y => before key pos y x

theorem before_irrefl (x : α) : before key pos x x = false := by simp [before]

theorem before_asymm (first : before key pos x y = true) : before key pos y x = false := by
  unfold before at *
  simp only [Bool.or_eq_true,decide_eq_true_eq,Bool.and_eq_true] at first
  rcases first with less | ⟨same,earlier⟩
  · simp [not_lt.mpr less.le,less.ne']
  · simp [same,earlier.le]

def Placed (pos : α → Nat) (l : List α) : Prop := l.Pairwise fun x y => pos x < pos y

theorem Placed.nodup (placed : Placed pos l) : l.Nodup := by
  refine placed.imp ?_
  rintro x _ less rfl
  exact Nat.lt_irrefl _ less

theorem Placed.inj (placed : Placed pos l) (first : x ∈ l) (second : y ∈ l) (same : pos x = pos y) : x = y := by
  induction l with
  | nil => cases first
  | cons head rest ih =>
    obtain ⟨later,others⟩ := List.pairwise_cons.mp placed
    rcases List.mem_cons.mp first with rfl | inside
    · rcases List.mem_cons.mp second with rfl | after
      · rfl
      · exact absurd same (Nat.ne_of_lt (later y after))
    · rcases List.mem_cons.mp second with rfl | after
      · exact absurd same.symm (Nat.ne_of_lt (later x inside))
      · exact ih others inside after

theorem Placed.sublist (placed : Placed pos l) (first : x ∈ l) (second : y ∈ l) (less : pos x < pos y) : [x,y].Sublist l := by
  induction l with
  | nil => cases first
  | cons head rest ih =>
    obtain ⟨later,others⟩ := List.pairwise_cons.mp placed
    rcases List.mem_cons.mp first with rfl | inside
    · rcases List.mem_cons.mp second with rfl | after
      · exact absurd less (Nat.lt_irrefl _)
      · exact (List.singleton_sublist.mpr after).cons_cons _
    · rcases List.mem_cons.mp second with rfl | after
      · exact absurd (later x inside) (Nat.lt_asymm less)
      · exact (ih others inside after).cons _

theorem one_way (nodup : l.Nodup) (forth : [x,y].Sublist l) (back : [y,x].Sublist l) : False := by
  induction l with
  | nil => cases forth
  | cons head rest ih =>
    obtain ⟨fresh,others⟩ := List.nodup_cons.mp nodup
    rcases List.sublist_cons_iff.mp forth with inner | ⟨_,same,tail⟩
    · rcases List.sublist_cons_iff.mp back with back | ⟨_,same,_⟩
      · exact ih others inner back
      · cases same
        have twice : y ∈ rest := inner.subset (by simp)
        exact fresh twice
    · cases same
      rcases List.sublist_cons_iff.mp back with back | ⟨_,same,_⟩
      · have twice : x ∈ rest := back.subset (by simp)
        exact fresh twice
      · cases same
        have twice : x ∈ rest := tail.subset (by simp)
        exact fresh twice

def sorted (key : α → κ) (l : List α) : List α := l.mergeSort fun x y => key x ≤ key y

theorem keyLe_trans (key : α → κ) (a b c : α) (one : decide (key a ≤ key b) = true) (two : decide (key b ≤ key c) = true) :
    decide (key a ≤ key c) = true := by
  rw [decide_eq_true_eq] at *
  exact one.trans two

theorem keyLe_total (key : α → κ) (a b : α) : (decide (key a ≤ key b) || decide (key b ≤ key a)) = true := by
  simpa using le_total (key a) (key b)

theorem sorted_perm (key : α → κ) (l : List α) : (sorted key l).Perm l := List.mergeSort_perm l _

theorem sorted_ordered (key : α → κ) (l : List α) : (sorted key l).Pairwise fun x y => key x ≤ key y := by
  have ordered := List.pairwise_mergeSort (keyLe_trans key) (keyLe_total key) l
  refine ordered.imp ?_
  intro x y holds
  exact of_decide_eq_true holds

theorem sorted_before (placed : Placed pos l) : (sorted key l).Pairwise fun x y => before key pos x y = true := by
  have nodup : (sorted key l).Nodup := (sorted_perm key l).nodup_iff.mpr placed.nodup
  refine List.pairwise_iff_forall_sublist.mpr ?_
  intro x y pair
  have le := List.pairwise_iff_forall_sublist.mp (sorted_ordered key l) pair
  have first : x ∈ l := (sorted_perm key l).mem_iff.mp (pair.subset (by simp))
  have second : y ∈ l := (sorted_perm key l).mem_iff.mp (pair.subset (by simp))
  rcases le.lt_or_eq with less | same
  · simp [before,less]
  · have placedBefore : pos x < pos y := by
      rcases Nat.lt_trichotomy (pos x) (pos y) with less | equal | more
      · exact less
      · exfalso
        have apart : x ≠ y := List.pairwise_iff_forall_sublist.mp nodup pair
        exact apart (placed.inj first second equal)
      · exfalso
        refine one_way nodup pair ?_
        exact List.pair_sublist_mergeSort (keyLe_trans key) (keyLe_total key) (by simpa using same.ge)
          (placed.sublist second first more)
    simp [before,same,placedBefore]

theorem mem_take_of_before (ordered : l.Pairwise fun x y => before key pos x y = true) (member : x ∈ l) (n : Nat) :
    x ∈ l.take n ↔ rank key pos l x < n := by
  induction l generalizing n with
  | nil => cases member
  | cons head rest ih =>
    obtain ⟨first,others⟩ := List.pairwise_cons.mp ordered
    cases n with
    | zero => simp
    | succ n =>
      rw [List.take_succ_cons,List.mem_cons]
      rcases List.mem_cons.mp member with rfl | member
      · have none : rank key pos (x :: rest) x = 0 := by
          refine List.countP_eq_zero.mpr ?_
          intro y inside
          rcases List.mem_cons.mp inside with rfl | inside
          · simp [before_irrefl]
          · simp [before_asymm (first y inside)]
        simp [none]
      · have other : x ≠ head := by
          intro same
          rw [← same] at first
          have self := first x member
          rw [before_irrefl] at self
          cases self
        have more : rank key pos (head :: rest) x = rank key pos rest x + 1 := by
          unfold rank
          rw [List.countP_cons,if_pos (first x member)]
        rw [more,ih others member n]
        simp [other]

theorem mem_take_sorted (placed : Placed pos l) (member : x ∈ l) (n : Nat) :
    x ∈ (sorted key l).take n ↔ rank key pos l x < n := by
  rw [mem_take_of_before (sorted_before placed) ((sorted_perm key l).mem_iff.mpr member) n]
  unfold rank
  rw [(sorted_perm key l).countP_eq]

end PmdPytcp.Ranks
