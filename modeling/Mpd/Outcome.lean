import Mathlib.Data.List.Basic

/-! Computations that may end in a fault: which faults they may end in, and what holds of
their values. -/

set_option autoImplicit false

namespace Mpd.Outcome

variable {Fault Value Result : Type} {allowed : Fault → Prop}

def Ends (allowed : Fault → Prop) (post : Value → Prop) : Except Fault Value → Prop
  | .ok value => post value
  | .error fault => allowed fault

theorem Ends.mono {first second : Value → Prop} {outcome : Except Fault Value}
    (ends : Ends allowed first outcome) (implies : ∀ value, first value → second value) :
    Ends allowed second outcome := by
  cases outcome with
  | ok value => exact implies value ends
  | error fault => exact ends

theorem Ends.and {first second : Value → Prop} {outcome : Except Fault Value}
    (one : Ends allowed first outcome) (other : Ends allowed second outcome) :
    Ends allowed (fun value => first value ∧ second value) outcome := by
  cases outcome with
  | ok value => exact ⟨one, other⟩
  | error fault => exact one

theorem Ends.bind {p : Value → Prop} {q : Result → Prop} {outcome : Except Fault Value}
    {rest : Value → Except Fault Result} (ends : Ends allowed p outcome)
    (continues : ∀ value, p value → Ends allowed q (rest value)) :
    Ends allowed q (outcome >>= rest) := by
  cases outcome with
  | ok value => exact continues value ends
  | error fault => exact ends

theorem Ends.map {p : Value → Prop} {q : Result → Prop} {outcome : Except Fault Value}
    {f : Value → Result} (ends : Ends allowed p outcome)
    (implies : ∀ value, p value → q (f value)) :
    Ends allowed q (outcome.map f) := by
  cases outcome with
  | ok value => exact implies value ends
  | error fault => exact ends

/-- A loop whose body keeps an invariant keeps it. -/
theorem Ends.foldlM {Item : Type} {invariant : Value → Prop}
    {body : Value → Item → Except Fault Value} {items : List Item}
    (kept : ∀ item ∈ items, ∀ value, invariant value → Ends allowed invariant (body value item))
    {start : Value} (initial : invariant start) :
    Ends allowed invariant (items.foldlM body start) := by
  induction items generalizing start with
  | nil => exact initial
  | cons item items ih =>
      rw [List.foldlM_cons]
      apply Ends.bind (kept item (List.mem_cons_self ..) start initial)
      intro value holds
      exact ih (fun other member => kept other (List.mem_cons_of_mem _ member)) holds

theorem Ends.value {post : Value → Prop} {outcome : Except Fault Value} {value : Value}
    (ends : Ends allowed post outcome) (ok : outcome = .ok value) : post value := by
  subst ok
  exact ends

theorem Ends.fault {post : Value → Prop} {outcome : Except Fault Value} {fault : Fault}
    (ends : Ends allowed post outcome) (error : outcome = .error fault) : allowed fault := by
  subst error
  exact ends

end Mpd.Outcome
