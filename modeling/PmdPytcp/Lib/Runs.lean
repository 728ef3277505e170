import Mathlib

namespace PmdPytcp.Runs

-- States a machine reaches from its start by inputs that each meet a condition
-- on the state they find.
inductive Reached (start : σ → Prop) (next : ι → σ → σ) (meets : ι → σ → Prop) : σ → Prop where
  | start (s : σ) (first : start s) : Reached start next meets s
  | step (s : σ) (input : ι) (before : Reached start next meets s) (met : meets input s) :
      Reached start next meets (next input s)

variable {start : σ → Prop} {next : ι → σ → σ} {meets : ι → σ → Prop}

theorem Reached.invariant (inv : σ → Prop) (initial : ∀ s, start s → inv s)
    (preserved : ∀ s input, inv s → meets input s → inv (next input s))
    (reached : Reached start next meets s) : inv s := by
  induction reached with
  | start s first => exact initial s first
  | step s input before met ih => exact preserved s input ih met

def run (next : ι → σ → σ) (s : σ) (inputs : List ι) : σ := inputs.foldl (fun s input => next input s) s

-- Every input of a run meets the condition on the state it finds.
def Met (next : ι → σ → σ) (meets : ι → σ → Prop) : List ι → σ → Prop
  | [],_ => True
  | input :: rest,s => meets input s ∧ Met next meets rest (next input s)

def decideMet [∀ input s, Decidable (meets input s)] : ∀ inputs s, Decidable (Met next meets inputs s)
  | [],_ => .isTrue trivial
  | input :: rest,s =>
    have := decideMet rest (next input s)
    inferInstanceAs (Decidable (meets input s ∧ Met next meets rest (next input s)))

instance [∀ input s, Decidable (meets input s)] (inputs : List ι) (s : σ) : Decidable (Met next meets inputs s) :=
  decideMet inputs s

theorem Reached.run (before : Reached start next meets s) (inputs : List ι) (met : Met next meets inputs s) :
    Reached start next meets (run next s inputs) := by
  induction inputs generalizing s with
  | nil => exact before
  | cons input rest ih => exact ih (.step s input before met.1) met.2

theorem met_true (inputs : List ι) : Met next (fun _ _ => True) inputs s := by
  induction inputs generalizing s with
  | nil => trivial
  | cons input rest ih => exact ⟨trivial,ih⟩

-- Conditions that agree on every state an invariant describes are met by the
-- same runs.
theorem met_congr {one two : ι → σ → Prop} (inv : σ → Prop) (preserved : ∀ s input, inv s → inv (next input s))
    (agree : ∀ s input, inv s → (one input s ↔ two input s)) (inputs : List ι) (before : inv s) :
    Met next one inputs s ↔ Met next two inputs s := by
  induction inputs generalizing s with
  | nil => exact Iff.rfl
  | cons input rest ih => exact and_congr (agree s input before) (ih (preserved s input before))

theorem Met.imp {one two : ι → σ → Prop} (implies : ∀ input s, one input s → two input s) (inputs : List ι)
    (met : Met next one inputs s) : Met next two inputs s := by
  induction inputs generalizing s with
  | nil => trivial
  | cons input rest ih => exact ⟨implies input s met.1,ih met.2⟩

theorem Reached.imp {one two : ι → σ → Prop} (implies : ∀ input s, one input s → two input s)
    (reached : Reached start next one s) : Reached start next two s := by
  induction reached with
  | start s first => exact .start s first
  | step s input before met ih => exact .step s input ih (implies input s met)

theorem path_keeps {move : σ → σ → Prop} (inv : σ → Prop) (kept : ∀ a b, move a b → inv a → inv b)
    (path : Relation.ReflTransGen move a b) (before : inv a) : inv b := by
  induction path with
  | refl => exact before
  | tail _ last ih => exact kept _ _ last ih

end PmdPytcp.Runs
