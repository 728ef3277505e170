import PmdPytcp.Lib.Store

namespace PmdPytcp

-- A registry that keeps several members under one key and hands them out in
-- turn. A cursor exists for keys with more than one member only.
structure Cohorts (κ σ : Type) where
  members : Store κ (List σ)
  cursor : Store κ Nat

namespace Cohorts
variable {κ σ : Type} [DecidableEq κ]

def empty : Cohorts κ σ := {members := .empty,cursor := .empty}

def cohort (t : Cohorts κ σ) (k : κ) : List σ := (t.members.get k).getD []

def get (t : Cohorts κ σ) (k : κ) : Option σ × Cohorts κ σ :=
  match t.cohort k with
  | [] => (none,t)
  | [single] => (some single,t)
  | one :: two :: rest =>
    let size := (one :: two :: rest).length
    let index := (t.cursor.get k).getD 0
    ((one :: two :: rest)[index % size]?,{t with cursor := t.cursor.set k ((index + 1) % size)})

def values (t : Cohorts κ σ) : List σ := t.members.values.flatten

variable {t : Cohorts κ σ} {k : κ} {m : σ}

theorem get_mem (found : (t.get k).1 = some m) : m ∈ t.cohort k := by
  unfold get at found
  split at found
  · cases found
  · next single held =>
    cases found
    rw [held]
    exact List.mem_singleton_self m
  · next one two rest held =>
    rw [held]
    exact List.mem_of_getElem? found

theorem get_none : (t.get k).1 = none ↔ t.cohort k = [] := by
  unfold get
  split
  · next held => exact iff_of_true rfl held
  · next single held => exact iff_of_false (by simp) (by simp [held])
  · next one two rest held =>
    refine iff_of_false ?_ (by simp [held])
    have inside : ((t.cursor.get k).getD 0) % (one :: two :: rest).length < (one :: two :: rest).length :=
      Nat.mod_lt _ (by simp)
    dsimp only
    rw [List.getElem?_eq_getElem inside]
    simp

-- Lookups move cursors and nothing else.
@[simp] theorem get_members (t : Cohorts κ σ) (k : κ) : (t.get k).2.members = t.members := by
  unfold get
  split <;> rfl

@[simp] theorem cohort_get (t : Cohorts κ σ) (k k' : κ) : (t.get k).2.cohort k' = t.cohort k' := by
  unfold cohort
  rw [get_members]

theorem get_single (single : t.cohort k = [m]) : t.get k = (some m,t) := by
  unfold get
  rw [single]

variable [DecidableEq σ]

-- Idempotent for a member that is there already.
def register (t : Cohorts κ σ) (k : κ) (m : σ) : Cohorts κ σ :=
  {t with members := t.members.set k (if m ∈ t.cohort k then t.cohort k else t.cohort k ++ [m])}

-- The last member takes the key and its cursor along.
def unregister (t : Cohorts κ σ) (k : κ) (m : σ) : Cohorts κ σ :=
  match t.members.get k with
  | none => t
  | some cohort =>
    let rest := cohort.filter (· ≠ m)
    if rest = [] then {members := t.members.erase k,cursor := t.cursor.erase k}
    else {t with members := t.members.set k rest}

theorem cohort_register (t : Cohorts κ σ) (k k' : κ) (m : σ) :
    (t.register k m).cohort k' =
      if k' = k then (if m ∈ t.cohort k then t.cohort k else t.cohort k ++ [m]) else t.cohort k' := by
  unfold register cohort
  dsimp only
  rw [Store.get_set]
  split <;> rfl

theorem cohort_unregister (t : Cohorts κ σ) (k k' : κ) (m : σ) :
    (t.unregister k m).cohort k' = if k' = k then (t.cohort k).filter (· ≠ m) else t.cohort k' := by
  unfold unregister cohort
  cases found : t.members.get k with
  | none =>
    dsimp only
    split
    · next same => rw [same,found]; rfl
    · rfl
  | some cohort =>
    dsimp only
    split
    · next none =>
      dsimp only
      split
      · next same => rw [same,Store.get_erase_self]; simpa using none.symm
      · next other => rw [Store.get_erase_other _ other]
    · dsimp only
      rw [Store.get_set]
      split
      · rfl
      · rfl

end PmdPytcp.Cohorts
