import Mathlib.Data.List.Basic
import Mpd.Chat.Engine

set_option autoImplicit false

namespace Mpd.Chat

/-- No assertion has failed, the stack is deep enough for each match and timer, and what is
queued is going to be sent. -/
structure Sound (c : ChatInfo) : Prop where
  quiet : c.asserted = false
  matches_ : ∀ m ∈ c.matches_, m.frameDepth ≤ c.stack.length
  timers : ∀ t ∈ c.timers, t.frameDepth ≤ c.stack.length
  sent : ∀ queued, c.out = some queued → queued ≠ [] → c.wrEvent = true

def Pattern.Open : Pattern → Prop
  | .exact pat matched => pat ≠ [] → matched < pat.length
  | .regex _ => True

structure Stopped (c : ChatInfo) : Prop where
  matches_ : c.matches_ = []
  timers : c.timers = []
  out : c.out = none
  rdEvent : c.rdEvent = false
  stack : c.stack = []
  pos : c.pos = none
  scriptName : c.scriptName = false

structure ChatInv (c : ChatInfo) : Prop where
  quiet : c.asserted = false
  strays : c.strays = 0
  matches_ : ∀ m ∈ c.matches_, m.frameDepth ≤ c.stack.length ∧ m.pattern.Open
  timers : ∀ t ∈ c.timers, t.frameDepth ≤ c.stack.length
  queued : ∀ queued, c.out = some queued → queued ≠ [] ∧ c.wrEvent = true
  drained : c.out = none → c.wrEvent = false
  idle : c.state = .idle → Stopped c

theorem ChatInv.sound {c : ChatInfo} (inv : ChatInv c) : Sound c :=
  ⟨inv.quiet, fun m found => (inv.matches_ m found).1, inv.timers,
    fun queued out _ => (inv.queued queued out).2⟩

/-- What the invariant speaks of is the same, and an engine that is idle has stopped. -/
theorem ChatInv.same {c c' : ChatInfo} (inv : ChatInv c) (asserted : c'.asserted = c.asserted)
    (strays : c'.strays = c.strays) (matches_ : c'.matches_ = c.matches_)
    (timers : c'.timers = c.timers) (stack : c'.stack = c.stack) (out : c'.out = c.out)
    (wrEvent : c'.wrEvent = c.wrEvent) (idle : c'.state = .idle → Stopped c') : ChatInv c' where
  quiet := asserted.trans inv.quiet
  strays := strays.trans inv.strays
  matches_ := by
    rw [matches_, stack]
    exact inv.matches_
  timers := by
    rw [timers, stack]
    exact inv.timers
  queued := by
    rw [out, wrEvent]
    exact inv.queued
  drained := by
    rw [out, wrEvent]
    exact inv.drained
  idle := idle

section Stop

structure Apart (c c' : ChatInfo) : Prop where
  asserted : c'.asserted = c.asserted
  strays : c'.strays = c.strays
  out : c'.out = c.out
  wrEvent : c'.wrEvent = c.wrEvent
  rdEvent : c'.rdEvent = c.rdEvent
  state : c'.state = c.state
  scriptName : c'.scriptName = c.scriptName

theorem Apart.refl (c : ChatInfo) : Apart c c := ⟨rfl, rfl, rfl, rfl, rfl, rfl, rfl⟩

theorem chatExpandString_keywordAll (c : ChatInfo) : chatExpandString c keywordAll = keywordAll :=
  rfl

theorem chatCancel_keywordAll (c : ChatInfo) :
    chatCancel keywordAll c = { c with matches_ := [], timers := [] } := by
  have all : sameCase keywordAll keywordAll = true := by decide
  unfold chatCancel
  rw [chatExpandString_keywordAll]
  simp [cancelSet, all]

theorem popFrames_none {c : ChatInfo} {count : Nat} (matches_ : c.matches_ = [])
    (timers : c.timers = []) (depth : count = c.stack.length) :
    popFrames count c = { c with stack := [] } := by
  subst depth
  cases c with
  | mk script pos scriptName state rdEvent wrEvent strays out ts nextTimer ms stack globals
      temps lineBuf results asserted crashed =>
    dsimp only at matches_ timers
    subst matches_ timers
    induction stack with
    | nil => rfl
    | cons posn up ih => exact ih

theorem chatStop_eq (c : ChatInfo) :
    chatStop c = { c with
      temps := []
      pos := none
      scriptName := false
      matches_ := []
      timers := []
      rdEvent := false
      wrEvent := false
      out := none
      stack := []
      state := .idle } := by
  unfold chatStop
  rw [chatCancel_keywordAll]
  dsimp only
  rw [popFrames_none]
  · rfl
  · rfl
  · rfl

theorem chatInv_chatStop {c : ChatInfo} (quiet : c.asserted = false) (strays : c.strays = 0) :
    ChatInv (chatStop c) := by
  rw [chatStop_eq]
  exact {
    quiet := quiet
    strays := strays
    matches_ := fun _ found => absurd found List.not_mem_nil
    timers := fun _ found => absurd found List.not_mem_nil
    queued := fun _ out => nomatch out
    drained := fun _ => rfl
    idle := fun _ => ⟨rfl, rfl, rfl, rfl, rfl, rfl, rfl⟩ }

theorem ChatInv.withResults {c : ChatInfo} (inv : ChatInv c) (results : List Bool) :
    ChatInv { c with results := results } := by
  refine inv.same rfl rfl rfl rfl rfl rfl rfl ?_
  intro idle
  have h := inv.idle idle
  exact ⟨h.matches_, h.timers, h.out, h.rdEvent, h.stack, h.pos, h.scriptName⟩

theorem chatInv_chatFailure {c : ChatInfo} (quiet : c.asserted = false) (strays : c.strays = 0) :
    ChatInv (chatFailure c) :=
  (chatInv_chatStop quiet strays).withResults _

theorem ChatInv.stopped {c : ChatInfo} (inv : ChatInv c) : ChatInv (chatFailure c) :=
  chatInv_chatFailure inv.quiet inv.strays

end Stop

section Variables

/-- Nothing but variables differs. -/
def OnlyVars (c c' : ChatInfo) : Prop :=
  ∃ globals temps, c' = { c with globals := globals, temps := temps }

theorem OnlyVars.refl (c : ChatInfo) : OnlyVars c c := ⟨c.globals, c.temps, rfl⟩

theorem OnlyVars.trans {c₁ c₂ c₃ : ChatInfo} (first : OnlyVars c₁ c₂) (second : OnlyVars c₂ c₃) :
    OnlyVars c₁ c₃ := by
  obtain ⟨_, _, rfl⟩ := first
  obtain ⟨globals, temps, rfl⟩ := second
  exact ⟨globals, temps, rfl⟩

theorem OnlyVars.inv {c c' : ChatInfo} (same : OnlyVars c c') (inv : ChatInv c) : ChatInv c' := by
  obtain ⟨globals, temps, rfl⟩ := same
  refine inv.same rfl rfl rfl rfl rfl rfl rfl ?_
  intro idle
  have h := inv.idle idle
  exact ⟨h.matches_, h.timers, h.out, h.rdEvent, h.stack, h.pos, h.scriptName⟩

end Variables

section Commands

variable {c : ChatInfo}

/-- Matches and timers that fit the stack take the place of the old ones. -/
theorem ChatInv.apart {c' : ChatInfo} (inv : ChatInv c) (busy : c.state ≠ .idle)
    (apart : Apart c c')
    (matches_ : ∀ m ∈ c'.matches_, m.frameDepth ≤ c'.stack.length ∧ m.pattern.Open)
    (timers : ∀ t ∈ c'.timers, t.frameDepth ≤ c'.stack.length) : ChatInv c' where
  quiet := apart.asserted.trans inv.quiet
  strays := apart.strays.trans inv.strays
  matches_ := matches_
  timers := timers
  queued queued out := by
    rw [apart.wrEvent]
    exact inv.queued queued (apart.out.symm.trans out)
  drained out := apart.wrEvent.trans (inv.drained (apart.out.symm.trans out))
  idle idle := absurd (apart.state.symm.trans idle) busy

end Commands

end Mpd.Chat
