import Mathlib.Data.List.Induction

/-! Strict alternation of two kinds of call, recorded as a list of truth values
in the order of the calls. -/

set_option autoImplicit false

namespace Mpd

def Alternates : Bool → List Bool → Prop
  | _, [] => True
  | first, call :: calls => call = first ∧ Alternates (!first) calls

instance Alternates.decide : (first : Bool) → (calls : List Bool) → Decidable (Alternates first calls)
  | _, [] => isTrue trivial
  | first, call :: calls =>
      have := Alternates.decide (!first) calls
      inferInstanceAs (Decidable (call = first ∧ Alternates (!first) calls))

def nextCall (first : Bool) : List Bool → Bool
  | [] => first
  | _ :: calls => nextCall (!first) calls

@[simp] theorem alternates_nil (first : Bool) : Alternates first [] := trivial

@[simp] theorem nextCall_nil (first : Bool) : nextCall first [] = first := rfl

theorem nextCall_append (first : Bool) (calls later : List Bool) :
    nextCall first (calls ++ later) = nextCall (nextCall first calls) later := by
  induction calls generalizing first with
  | nil => rfl
  | cons head calls ih => exact ih (!first)

theorem alternates_append (first : Bool) (calls later : List Bool) :
    Alternates first (calls ++ later) ↔
      Alternates first calls ∧ Alternates (nextCall first calls) later := by
  induction calls generalizing first with
  | nil => simp
  | cons head calls ih => simp [Alternates, nextCall, ih, and_assoc]

@[simp] theorem nextCall_concat (first : Bool) (calls : List Bool) (call : Bool) :
    nextCall first (calls ++ [call]) = !nextCall first calls :=
  nextCall_append first calls [call]

@[simp] theorem alternates_concat (first : Bool) (calls : List Bool) (call : Bool) :
    Alternates first (calls ++ [call]) ↔ Alternates first calls ∧ call = nextCall first calls := by
  rw [alternates_append, Alternates, and_iff_left (alternates_nil _)]

/-- In an alternation that begins with `true`, the calls `true` exceed the calls
`false` by one exactly while `false` is due. -/
theorem alternates_count {calls : List Bool} (alternates : Alternates true calls) :
    calls.count true = calls.count false + (if nextCall true calls then 0 else 1) := by
  induction calls using List.reverseRecOn with
  | nil => rfl
  | append_singleton calls call ih =>
      rw [alternates_concat] at alternates
      obtain ⟨before, rfl⟩ := alternates
      have counted := ih before
      cases due : nextCall true calls <;> simp [due] at counted ⊢ <;> omega

end Mpd
