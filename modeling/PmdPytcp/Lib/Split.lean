import Mathlib

namespace PmdPytcp.Split

variable {α : Type} {blank : α → Bool} {t front back : List α} {sep c : α}

def strip (blank : α → Bool) (t : List α) : List α := (t.dropWhile blank).rdropWhile blank

def Tight (blank : α → Bool) (t : List α) : Prop :=
  (∀ c, t.head? = some c → blank c = false) ∧ ∀ c, t.getLast? = some c → blank c = false

theorem strip_tight (tight : Tight blank t) : strip blank t = t := by
  have left : t.dropWhile blank = t := by
    cases t with
    | nil => rfl
    | cons c rest =>
      rw [List.dropWhile_cons,tight.1 c rfl]
      rfl
  rw [strip,left,List.rdropWhile_eq_self_iff]
  intro nonempty
  have last := tight.2 (t.getLast nonempty) (List.getLast?_eq_some_getLast nonempty)
  rw [last]
  decide

theorem strip_last (last : (strip blank t).getLast? = some c) : blank c = false := by
  have nonempty : strip blank t ≠ [] := by
    intro empty
    rw [empty] at last
    cases last
  have ends := List.rdropWhile_last_not blank (t.dropWhile blank) nonempty
  rw [List.getLast?_eq_some_getLast nonempty] at last
  cases last
  exact Bool.eq_false_of_not_eq_true ends

theorem strip_head (head : (strip blank t).head? = some c) : blank c = false := by
  obtain ⟨rest,whole⟩ := List.rdropWhile_prefix blank (t.dropWhile blank)
  have first : (t.dropWhile blank).head? = some c := by
    rw [← whole]
    exact List.head?_append.trans (by rw [show (List.rdropWhile blank (t.dropWhile blank)).head? = some c from head]; rfl)
  have stops := List.head?_dropWhile_not blank t
  rw [first] at stops
  simpa using stops

theorem strip_strip : strip blank (strip blank t) = strip blank t :=
  strip_tight ⟨fun _ => strip_head,fun _ => strip_last⟩

theorem mem_strip (inside : c ∈ strip blank t) : c ∈ t :=
  (List.dropWhile_sublist blank).subset ((List.rdropWhile_prefix blank (t.dropWhile blank)).subset inside)

theorem cut_cases {data missing first rest : List α} (cut : data ++ missing = first ++ rest) :
    (∃ left, data ++ left = first ∧ left ≠ []) ∨ ∃ later, data = first ++ later ∧ later ++ missing = rest := by
  obtain ⟨left,front,behind⟩ | ⟨later,front,behind⟩ := List.append_eq_append_iff.mp cut
  · by_cases none' : left = []
    · subst none'
      exact .inr ⟨[],by rw [front,List.append_nil,List.append_nil],behind⟩
    · exact .inl ⟨left,front.symm,none'⟩
  · exact .inr ⟨later,front,behind.symm⟩

variable [DecidableEq α]

-- What stands before the first separator and what stands behind it, if it occurs.
def partition (sep : α) : List α → List α × Option (List α)
  | [] => ([],none)
  | c :: rest =>
    if c = sep then ([],some rest)
    else
      let found := partition sep rest
      (c :: found.1,found.2)

theorem partition_absent (absent : sep ∉ t) : partition sep t = (t,none) := by
  induction t with
  | nil => rfl
  | cons c rest ih =>
    have differs : c ≠ sep := fun same => absent (same ▸ List.mem_cons_self)
    rw [partition,if_neg differs,ih (fun inside => absent (List.mem_cons_of_mem _ inside))]

theorem partition_found (absent : sep ∉ front) : partition sep (front ++ sep :: back) = (front,some back) := by
  induction front with
  | nil => rw [List.nil_append,partition,if_pos rfl]
  | cons c rest ih =>
    have differs : c ≠ sep := fun same => absent (same ▸ List.mem_cons_self)
    rw [List.cons_append,partition,if_neg differs,ih (fun inside => absent (List.mem_cons_of_mem _ inside))]

theorem partition_none (whole : partition sep t = (front,none)) : front = t ∧ sep ∉ t := by
  by_cases inside : sep ∈ t
  · obtain ⟨before,after,rfl,fresh⟩ := List.eq_append_cons_of_mem inside
    rw [partition_found fresh] at whole
    cases whole
  · rw [partition_absent inside] at whole
    cases whole
    exact ⟨rfl,inside⟩

theorem partition_some (whole : partition sep t = (front,some back)) : t = front ++ sep :: back ∧ sep ∉ front := by
  by_cases inside : sep ∈ t
  · obtain ⟨before,after,rfl,fresh⟩ := List.eq_append_cons_of_mem inside
    rw [partition_found fresh] at whole
    cases whole
    exact ⟨rfl,fresh⟩
  · rw [partition_absent inside] at whole
    cases whole

def fields (sep : α) : List α → List (List α)
  | [] => [[]]
  | c :: rest =>
    if c = sep then [] :: fields sep rest
    else
      match fields sep rest with
      | [] => [[c]]
      | field :: others => (c :: field) :: others

def join (sep : α) : List (List α) → List α
  | [] => []
  | [field] => field
  | field :: others => field ++ sep :: join sep others

theorem fields_absent (absent : sep ∉ t) : fields sep t = [t] := by
  induction t with
  | nil => rfl
  | cons c rest ih =>
    have differs : c ≠ sep := fun same => absent (same ▸ List.mem_cons_self)
    rw [fields,if_neg differs,ih (fun inside => absent (List.mem_cons_of_mem _ inside))]

theorem fields_found (absent : sep ∉ front) : fields sep (front ++ sep :: back) = front :: fields sep back := by
  induction front with
  | nil => rw [List.nil_append,fields,if_pos rfl]
  | cons c rest ih =>
    have differs : c ≠ sep := fun same => absent (same ▸ List.mem_cons_self)
    rw [List.cons_append,fields,if_neg differs,ih (fun inside => absent (List.mem_cons_of_mem _ inside))]

theorem fields_join {parts : List (List α)} (nonempty : parts ≠ []) (absent : ∀ part ∈ parts, sep ∉ part) :
    fields sep (join sep parts) = parts := by
  induction parts with
  | nil => exact absurd rfl nonempty
  | cons part rest ih =>
    cases rest with
    | nil => exact fields_absent (absent part List.mem_cons_self)
    | cons next others =>
      rw [join,fields_found (absent part List.mem_cons_self)]
      · rw [ih (by simp) (fun field inside => absent field (List.mem_cons_of_mem _ inside))]
      · simp

omit [DecidableEq α] in
theorem mem_join {parts : List (List α)} (inside : c ∈ join sep parts) : c = sep ∨ ∃ part ∈ parts, c ∈ part := by
  induction parts with
  | nil => cases inside
  | cons part rest ih =>
    cases rest with
    | nil => exact .inr ⟨part,List.mem_cons_self,inside⟩
    | cons next others =>
      rw [join] at inside
      · rcases List.mem_append.mp inside with here | behind
        · exact .inr ⟨part,List.mem_cons_self,here⟩
        · rcases List.mem_cons.mp behind with same | later
          · exact .inl same
          · obtain same | ⟨field,member,deep⟩ := ih later
            · exact .inl same
            · exact .inr ⟨field,List.mem_cons_of_mem _ member,deep⟩
      · simp

end PmdPytcp.Split
