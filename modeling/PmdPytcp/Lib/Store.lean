import PmdPytcp.Lib.Dict

namespace PmdPytcp

-- Insertion-ordered dictionaries that cannot hold a key twice.
structure Store (κ υ : Type) where
  entries : List (κ × υ)
  unique : (entries.map Prod.fst).Nodup
deriving DecidableEq,Repr

namespace Store
variable {κ υ : Type} [DecidableEq κ]

theorem map_fst_set (d : List (κ × υ)) (k : κ) (v : υ) :
    (Dict.set d k v).map Prod.fst = if k ∈ d.map Prod.fst then d.map Prod.fst else d.map Prod.fst ++ [k] := by
  induction d with
  | nil => simp [Dict.set]
  | cons head rest ih =>
    obtain ⟨k',v'⟩ := head
    by_cases same : k' = k
    · simp [Dict.set,same]
    · have other : k ≠ k' := fun equal => same equal.symm
      simp only [Dict.set,same,if_false,List.map_cons,ih,List.mem_cons,other,false_or]
      split
      · rfl
      · rfl

def empty : Store κ υ := ⟨[],.nil⟩

def get (d : Store κ υ) (k : κ) : Option υ := Dict.get d.entries k

def set (d : Store κ υ) (k : κ) (v : υ) : Store κ υ where
  entries := Dict.set d.entries k v
  unique := by
    rw [map_fst_set]
    split
    · exact d.unique
    · next absent => exact List.nodup_append.mpr ⟨d.unique,by simp,by grind⟩

def filter (d : Store κ υ) (keep : κ → υ → Bool) : Store κ υ where
  entries := d.entries.filter fun entry => keep entry.1 entry.2
  unique := d.unique.sublist (List.filter_sublist.map _)

def erase (d : Store κ υ) (k : κ) : Store κ υ := d.filter fun key _ => key ≠ k

def keys (d : Store κ υ) : List κ := d.entries.map Prod.fst

def values (d : Store κ υ) : List υ := d.entries.map Prod.snd

def size (d : Store κ υ) : Nat := d.entries.length

theorem get_eq_some {d : Store κ υ} {k : κ} {v : υ} : d.get k = some v ↔ (k,v) ∈ d.entries := by
  obtain ⟨entries,unique⟩ := d
  unfold get Dict.get
  induction entries with
  | nil => simp
  | cons head rest ih =>
    obtain ⟨k',v'⟩ := head
    obtain ⟨fresh,others⟩ := List.nodup_cons.mp unique
    by_cases same : k = k'
    · subst same
      have absent : (k,v) ∉ rest := fun member => fresh (List.mem_map.mpr ⟨(k,v),member,rfl⟩)
      simp [absent,eq_comm]
    · have differs : (k == k') = false := by simpa using same
      simpa [List.lookup,differs,same] using ih others

theorem get_eq_none {d : Store κ υ} {k : κ} : d.get k = none ↔ k ∉ d.keys := by
  constructor
  · intro missing member
    obtain ⟨⟨key,value⟩,stored,same⟩ := List.mem_map.mp member
    obtain rfl : key = k := same
    rw [get_eq_some.mpr stored] at missing
    exact absurd missing (by simp)
  · intro absent
    cases found : d.get k with
    | none => rfl
    | some v => exact absurd (List.mem_map_of_mem (get_eq_some.mp found)) absent

theorem mem_keys {d : Store κ υ} {k : κ} : k ∈ d.keys ↔ ∃ v, d.get k = some v := by
  rw [← Option.isSome_iff_exists,← not_iff_not,Option.not_isSome_iff_eq_none,get_eq_none]

@[simp] theorem get_set_self (d : Store κ υ) (k : κ) (v : υ) : (d.set k v).get k = some v :=
  Dict.get_set_self d.entries k v

theorem get_set_other (d : Store κ υ) {k k' : κ} (v : υ) (other : k' ≠ k) : (d.set k v).get k' = d.get k' :=
  Dict.get_set_other d.entries v other

theorem entries_set_new (d : Store κ υ) {k : κ} (v : υ) (absent : d.get k = none) :
    (d.set k v).entries = d.entries ++ [(k,v)] :=
  Dict.set_new d.entries k v (get_eq_none.mp absent)

theorem get_set (d : Store κ υ) (k k' : κ) (v : υ) :
    (d.set k v).get k' = if k' = k then some v else d.get k' := by
  split
  · next same => rw [same,get_set_self]
  · next other => exact get_set_other d v other

theorem get_filter (d : Store κ υ) (keep : κ → υ → Bool) (k : κ) :
    (d.filter keep).get k = (d.get k).filter (keep k) := by
  cases found : d.get k with
  | none =>
    rw [get_eq_none] at found
    exact get_eq_none.mpr fun member => found (List.Sublist.subset (List.filter_sublist.map _) member)
  | some v =>
    have stored := get_eq_some.mp found
    cases kept : keep k v with
    | true =>
      have still : (k,v) ∈ (d.filter keep).entries := List.mem_filter.mpr ⟨stored,kept⟩
      simp [get_eq_some.mpr still,Option.filter,kept]
    | false =>
      have dropped : (d.filter keep).get k = none := by
        rw [get_eq_none]
        intro member
        obtain ⟨w,held⟩ := mem_keys.mp member
        obtain ⟨inside,passes⟩ := List.mem_filter.mp (get_eq_some.mp held)
        have same : some w = some v := by rw [← get_eq_some.mpr inside,found]
        cases same
        simp [kept] at passes
      simp [dropped,Option.filter,kept]

@[simp] theorem get_erase_self (d : Store κ υ) (k : κ) : (d.erase k).get k = none := by
  rw [erase,get_filter]
  cases d.get k with
  | none => rfl
  | some v => simp

theorem get_erase_other (d : Store κ υ) {k k' : κ} (other : k' ≠ k) : (d.erase k).get k' = d.get k' := by
  rw [erase,get_filter]
  cases d.get k' with
  | none => rfl
  | some v => simp [other]

theorem size_erase (d : Store κ υ) {k : κ} {v : υ} (held : d.get k = some v) : (d.erase k).size + 1 = d.size := by
  have member := get_eq_some.mp held
  obtain ⟨entries,unique⟩ := d
  show (entries.filter fun entry => decide (entry.1 ≠ k)).length + 1 = entries.length
  change (k,v) ∈ entries at member
  clear held
  induction entries with
  | nil => cases member
  | cons head rest ih =>
    obtain ⟨fresh,others⟩ := List.nodup_cons.mp unique
    by_cases same : head.1 = k
    · have gone : rest.filter (fun entry => decide (entry.1 ≠ k)) = rest := by
        refine List.filter_eq_self.mpr ?_
        intro entry inside
        rw [decide_eq_true_eq]
        intro again
        exact fresh (List.mem_map.mpr ⟨entry,inside,again.trans same.symm⟩)
      rw [List.filter_cons_of_neg (by simpa using same),gone]
      rfl
    · have inside : (k,v) ∈ rest := by
        rcases List.mem_cons.mp member with equal | inside
        · exact absurd (by rw [← equal]) same
        · exact inside
      rw [List.filter_cons_of_pos (by simpa using same),List.length_cons,List.length_cons,ih others inside]

omit [DecidableEq κ] in
theorem size_filter_le (d : Store κ υ) (keep : κ → υ → Bool) : (d.filter keep).size ≤ d.size :=
  List.length_filter_le _ _

def map (d : Store κ υ) (change : κ → υ → υ) : Store κ υ where
  entries := d.entries.map fun entry => (entry.1,change entry.1 entry.2)
  unique := by
    rw [List.map_map]
    exact d.unique

theorem get_map (d : Store κ υ) (change : κ → υ → υ) (k : κ) : (d.map change).get k = (d.get k).map (change k) := by
  cases found : d.get k with
  | none =>
    rw [get_eq_none] at found
    refine get_eq_none.mpr ?_
    intro member
    apply found
    simpa [keys,map,Function.comp_def] using member
  | some v =>
    refine get_eq_some.mpr ?_
    exact List.mem_map.mpr ⟨(k,v),get_eq_some.mp found,rfl⟩

end PmdPytcp.Store
