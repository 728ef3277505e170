import Mathlib

namespace PmdPytcp.Dict

-- Insertion-ordered dictionaries: setting a present key keeps its place,
-- a new key goes last.
def get [DecidableEq κ] (d : List (κ × υ)) (k : κ) : Option υ := d.lookup k

def set [DecidableEq κ] : List (κ × υ) → κ → υ → List (κ × υ)
  | [],k,v => [(k,v)]
  | (k',v') :: rest,k,v => if k' = k then (k,v) :: rest else (k',v') :: set rest k v

def erase [DecidableEq κ] (d : List (κ × υ)) (k : κ) : List (κ × υ) := d.filter fun entry => entry.1 ≠ k

theorem get_set_self [DecidableEq κ] (d : List (κ × υ)) (k : κ) (v : υ) : get (set d k v) k = some v := by
  unfold get
  induction d with
  | nil => simp [set]
  | cons head rest ih =>
    obtain ⟨k',v'⟩ := head
    unfold set
    by_cases same : k' = k
    · simp [same]
    · have differs : (k == k') = false := by
        simpa using fun other => same other.symm
      simp [same,List.lookup,differs,ih]

theorem get_set_other [DecidableEq κ] (d : List (κ × υ)) {k k' : κ} (v : υ) (other : k' ≠ k) :
    get (set d k v) k' = get d k' := by
  unfold get
  induction d with
  | nil =>
    have differs : (k' == k) = false := by simpa using other
    simp [set,List.lookup,differs]
  | cons head rest ih =>
    obtain ⟨key,value⟩ := head
    by_cases same : key = k
    · subst same
      have differs : (k' == key) = false := by simpa using other
      simp [set,List.lookup,differs]
    · simp only [set,same,if_false]
      by_cases here : k' = key
      · simp [here]
      · have differs : (k' == key) = false := by simpa using here
        simpa [List.lookup,differs] using ih

theorem set_new [DecidableEq κ] (d : List (κ × υ)) (k : κ) (v : υ) (absent : k ∉ d.map Prod.fst) :
    set d k v = d ++ [(k,v)] := by
  induction d with
  | nil => rfl
  | cons head rest ih =>
    obtain ⟨k',v'⟩ := head
    simp only [List.map_cons,List.mem_cons,not_or] at absent
    have differs : k' ≠ k := fun same => absent.1 same.symm
    simp [set,differs,ih absent.2]

theorem get_filter_key [DecidableEq κ] (d : List (κ × υ)) (keep : κ → Bool) (k : κ) :
    get (d.filter fun entry => keep entry.1) k = if keep k then get d k else none := by
  unfold get
  induction d with
  | nil => simp
  | cons head rest ih =>
    obtain ⟨k',v'⟩ := head
    by_cases same : k = k'
    · subst same
      cases kept : keep k with
      | false => simpa [List.filter_cons,kept] using ih
      | true => simp [kept]
    · have differs : (k == k') = false := by simpa using same
      cases kept : keep k' with
      | false => simpa [List.filter_cons,kept,List.lookup,differs] using ih
      | true => simpa [List.filter_cons,kept,List.lookup,differs] using ih

end PmdPytcp.Dict
