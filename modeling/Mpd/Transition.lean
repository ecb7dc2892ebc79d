import Mathlib.Data.List.Basic

/-! Runs of a deterministic machine: a step function over events, the state
that a list of events leads to, and the induction rules for invariants of a run
whose steps all meet a side condition. -/

set_option autoImplicit false

namespace Mpd.Transition

variable {State Event : Type} (step : State → Event → State)

/-- The state after the listed events. -/
def run (start : State) (events : List Event) : State :=
  events.foldl step start

/-- Every step of the run from `start` meets `allowed`, which sees the state
before the step and the event. -/
def Meets (allowed : State → Event → Prop) : State → List Event → Prop
  | _, [] => True
  | state, event :: events => allowed state event ∧ Meets allowed (step state event) events

@[simp] theorem run_nil (start : State) : run step start [] = start := rfl

@[simp] theorem run_cons (start : State) (event : Event) (events : List Event) :
    run step start (event :: events) = run step (step start event) events := rfl

theorem run_append (start : State) (first second : List Event) :
    run step start (first ++ second) = run step (run step start first) second :=
  List.foldl_append

@[simp] theorem run_concat (start : State) (events : List Event) (event : Event) :
    run step start (events ++ [event]) = step (run step start events) event := by
  rw [run_append, run_cons, run_nil]

theorem meets_append {allowed : State → Event → Prop} {start : State}
    {first second : List Event} :
    Meets step allowed start (first ++ second) ↔
      Meets step allowed start first ∧ Meets step allowed (run step start first) second := by
  induction first generalizing start with
  | nil => simp [Meets]
  | cons event events ih => simp [Meets, ih, and_assoc]

theorem meets_concat {allowed : State → Event → Prop} {start : State}
    {events : List Event} {event : Event} :
    Meets step allowed start (events ++ [event]) ↔
      Meets step allowed start events ∧ allowed (run step start events) event := by
  simp [meets_append, Meets]

theorem meets_of_forall {allowed : State → Event → Prop}
    (always : ∀ state event, allowed state event) (start : State) (events : List Event) :
    Meets step allowed start events := by
  induction events generalizing start with
  | nil => trivial
  | cons event events ih => exact ⟨always start event, ih (step start event)⟩

/-- An element of a list that has been extended is the new last one, or it was there before. -/
theorem concat_eq_append_cons {α : Type} {list before after : List α} {last x : α}
    (split : list ++ [last] = before ++ x :: after) :
    (before = list ∧ x = last) ∨ ∃ init, list = before ++ x :: init := by
  obtain rfl | ⟨init, final, rfl⟩ := after.eq_nil_or_concat'
  · obtain ⟨same, ends⟩ := List.append_inj' split rfl
    exact .inl ⟨same.symm, (List.singleton_inj.mp ends).symm⟩
  · have ends : list ++ [last] = (before ++ x :: init) ++ [final] := by
      rw [split]
      simp
    exact .inr ⟨init, (List.append_inj' ends rfl).1⟩

/-- A property of every event of a list, with the events that come before it. -/
theorem forall_split_concat {α : Type} {P : List α → α → Prop} {list : List α} {last : α} :
    (∀ before x after, list ++ [last] = before ++ x :: after → P before x) ↔
      (∀ before x after, list = before ++ x :: after → P before x) ∧ P list last := by
  constructor
  · intro each
    exact ⟨fun before x after split => each before x (after ++ [last]) (by simp [split]),
      each list last [] rfl⟩
  · rintro ⟨earlier, holds⟩ before x after split
    rcases concat_eq_append_cons split with ⟨rfl, rfl⟩ | ⟨init, split⟩
    · exact holds
    · exact earlier before x init split

/-- What the start satisfies and every allowed step keeps holds at the end of a
run whose steps are all allowed. -/
theorem invariant_run {allowed : State → Event → Prop} {invariant : State → Prop}
    (kept : ∀ state event, invariant state → allowed state event → invariant (step state event))
    {start : State} (initial : invariant start) {events : List Event}
    (meets : Meets step allowed start events) : invariant (run step start events) := by
  induction events generalizing start with
  | nil => exact initial
  | cons event events ih => exact ih (kept start event initial meets.1) meets.2

end Mpd.Transition
