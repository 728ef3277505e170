import Mathlib

namespace PmdPytcp.Tiles

abbrev Piece (α : Type) := Nat × List α

def stop (p : Piece α) : Nat := p.1 + p.2.length

def Tiled : Nat → List (Piece α) → Prop
  | _,[] => True
  | start,p :: rest => p.1 = start ∧ Tiled (stop p) rest

def joined (pieces : List (Piece α)) : List α := (pieces.map Prod.snd).flatten

def Before (p q : Piece α) : Prop := stop p ≤ q.1

@[simp] theorem joined_nil : joined ([] : List (Piece α)) = [] := rfl
@[simp] theorem joined_cons (p : Piece α) (rest : List (Piece α)) : joined (p :: rest) = p.2 ++ joined rest := rfl

theorem Tiled.start_le {start : Nat} {pieces : List (Piece α)} (tiled : Tiled start pieces)
    (member : p ∈ pieces) : start ≤ p.1 := by
  induction pieces generalizing start with
  | nil => cases member
  | cons head rest ih =>
    obtain ⟨here,others⟩ := tiled
    rcases List.mem_cons.mp member with same | later
    · rw [same,here]
    · have after := ih others later
      simp only [stop] at after
      omega

theorem Tiled.window {start : Nat} {pieces : List (Piece α)} (tiled : Tiled start pieces)
    (member : p ∈ pieces) :
    stop p ≤ start + (joined pieces).length ∧
      ((joined pieces).drop (p.1 - start)).take p.2.length = p.2 := by
  induction pieces generalizing start with
  | nil => cases member
  | cons head rest ih =>
    obtain ⟨here,others⟩ := tiled
    rcases List.mem_cons.mp member with same | later
    · subst same
      simp only [stop,here,joined_cons,List.length_append,Nat.sub_self,List.drop_zero]
      exact ⟨by omega,by simp⟩
    · obtain ⟨inside,window⟩ := ih others later
      have after := Tiled.start_le others later
      simp only [stop,here] at inside after ⊢ window
      refine ⟨by simp only [joined_cons,List.length_append]; omega,?_⟩
      rw [joined_cons,show p.1 - start = head.2.length + (p.1 - (start + head.2.length)) by omega,
        ← List.drop_drop,List.drop_left]
      exact window

theorem Tiled.stop_last {start : Nat} {pieces : List (Piece α)} (tiled : Tiled start pieces)
    (last : pieces.getLast? = some p) : stop p = start + (joined pieces).length := by
  induction pieces generalizing start with
  | nil => cases last
  | cons head rest ih =>
    obtain ⟨here,others⟩ := tiled
    cases rest with
    | nil =>
      cases last
      simp [stop,here]
    | cons next more =>
      have tail := ih others (by simpa [List.getLast?_cons_cons] using last)
      simp only [stop,here,joined_cons,List.length_append] at tail ⊢
      omega

-- Only the last piece of a tiling may be empty: then the places are distinct.
def Solid (pieces : List (Piece α)) : Prop := ∀ p ∈ pieces.dropLast, p.2 ≠ []

theorem Solid.tail (solid : Solid (head :: next :: rest)) : Solid (next :: rest) := by
  intro p member
  exact solid p (by simpa [List.dropLast] using Or.inr member)

theorem Tiled.ascending {start : Nat} {pieces : List (Piece α)} (tiled : Tiled start pieces)
    (solid : Solid pieces) : pieces.Pairwise (fun p q => p.1 < q.1) := by
  induction pieces generalizing start with
  | nil => exact .nil
  | cons head rest ih =>
    obtain ⟨here,others⟩ := tiled
    cases rest with
    | nil => exact List.pairwise_singleton _ _
    | cons next more =>
      refine List.pairwise_cons.mpr ⟨?_,ih others solid.tail⟩
      intro q later
      have after := others.start_le later
      have filled := List.length_pos_of_ne_nil (solid head (by simp [List.dropLast]))
      simp only [stop] at after
      omega

theorem Tiled.before {start : Nat} {pieces : List (Piece α)} (tiled : Tiled start pieces) :
    pieces.Pairwise Before := by
  induction pieces generalizing start with
  | nil => exact .nil
  | cons head rest ih =>
    obtain ⟨here,others⟩ := tiled
    exact List.pairwise_cons.mpr ⟨fun q later => others.start_le later,ih others⟩

theorem Tiled.apart {start : Nat} {pieces : List (Piece α)} (tiled : Tiled start pieces)
    (first : p ∈ pieces) (second : q ∈ pieces) (other : p ≠ q) : Before p q ∨ Before q p := by
  induction pieces generalizing start with
  | nil => cases first
  | cons head rest ih =>
    obtain ⟨following,_⟩ := List.pairwise_cons.mp tiled.before
    rcases List.mem_cons.mp first with here | later
    · rcases List.mem_cons.mp second with there | after
      · exact absurd (here.trans there.symm) other
      · exact .inl (here ▸ following q after)
    · rcases List.mem_cons.mp second with there | after
      · exact .inr (there ▸ following p later)
      · exact ih tiled.2 later after

theorem Tiled.whole {start : Nat} {pieces kept : List (Piece α)} (tiled : Tiled start pieces)
    (solid : Solid pieces) (part : kept.Sublist pieces) (gapless : Tiled start kept)
    (last : pieces.getLast? = kept.getLast?) : kept = pieces := by
  induction pieces generalizing start kept with
  | nil => exact List.sublist_nil.mp part
  | cons head rest ih =>
    obtain ⟨here,others⟩ := tiled
    cases rest with
    | nil =>
      rcases List.sublist_singleton.mp part with empty | single
      · rw [empty] at last
        cases last
      · exact single
    | cons next more =>
      cases part with
      | cons _ inside =>
        -- the first piece is missing, so nothing starts where the tiling starts
        cases kept with
        | nil => simp [List.getLast?_cons_cons] at last
        | cons first _ =>
          have after := others.start_le (inside.subset List.mem_cons_self)
          have filled := List.length_pos_of_ne_nil (solid head (by simp [List.dropLast]))
          have begins := gapless.1
          simp only [stop] at after
          omega
      | cons_cons _ inside =>
        rename_i kept'
        have ends : (next :: more).getLast? = kept'.getLast? := by
          cases kept' with
          | nil =>
            have single : (head :: next :: more).getLast? = some head := by simpa using last
            have member : head ∈ next :: more := by
              rw [List.getLast?_cons_cons] at single
              exact List.mem_of_getLast? single
            have after := others.start_le member
            have filled := List.length_pos_of_ne_nil (solid head (by simp [List.dropLast]))
            simp only [stop] at after
            omega
          | cons a b => simpa [List.getLast?_cons_cons] using last
        rw [ih others solid.tail inside gapless.2 ends]

theorem getLast_of_sublist {kept pieces : List α} (part : kept.Sublist pieces) (distinct : pieces.Nodup)
    (last : pieces.getLast? = some p) (member : p ∈ kept) : kept.getLast? = some p := by
  obtain ⟨front,rfl⟩ : ∃ front, pieces = front ++ [p] := List.getLast?_eq_some_iff.mp last
  obtain ⟨early,late,rfl,inside,ending⟩ := List.sublist_append_iff.mp part
  have absent : p ∉ early := by
    intro there
    exact (List.nodup_append.mp distinct).2.2 p (inside.subset there) p (by simp) rfl
  have present : p ∈ late := (List.mem_append.mp member).resolve_left absent
  rcases List.sublist_singleton.mp ending with empty | single
  · rw [empty] at present
    cases present
  · rw [single,List.getLast?_append]
    rfl

theorem sublist_of_ascending {kept pieces : List (Piece α)} (part : kept.Subperm pieces)
    (first : kept.Pairwise fun p q => p.1 < q.1) (second : pieces.Pairwise fun p q => p.1 < q.1) :
    kept.Sublist pieces := by
  have strict : Std.Antisymm (fun p q : Piece α => p.1 < q.1) :=
    ⟨fun _ _ below above => absurd above (Nat.not_lt.mpr (Nat.le_of_lt below))⟩
  exact List.sublist_of_subperm_of_pairwise part first second

end PmdPytcp.Tiles
