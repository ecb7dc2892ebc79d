import Mpd.Chat.Runs

/-! Which of the pending matches are left by what the engine does, other than reading the device
and adding a match. -/

set_option autoImplicit false

namespace Mpd.Chat

variable {c : ChatInfo}

/-- Each match that is pending was pending before, perhaps at another depth. -/
def Fewer (c c' : ChatInfo) : Prop :=
  ∀ m' ∈ c'.matches_, ∃ m ∈ c.matches_,
    m'.set = m.set ∧ m'.pattern = m.pattern ∧ m'.since = m.since

theorem Fewer.of_same {c' : ChatInfo} (same : c'.matches_ = c.matches_) : Fewer c c' := by
  intro m' found
  exact ⟨m', same ▸ found, rfl, rfl, rfl⟩

theorem Fewer.trans {c₁ c₂ c₃ : ChatInfo} (first : Fewer c₁ c₂) (second : Fewer c₂ c₃) :
    Fewer c₁ c₃ := by
  intro m'' found
  obtain ⟨m', found', set', pattern', since'⟩ := second m'' found
  obtain ⟨m, found, set, pattern, since⟩ := first m' found'
  exact ⟨m, found, set'.trans set, pattern'.trans pattern, since'.trans since⟩

theorem OnlyVars.fewer {c' : ChatInfo} (same : OnlyVars c c') : Fewer c c' := by
  obtain ⟨globals, temps, rfl⟩ := same
  exact .of_same rfl

section Stop

end Stop

section Commands

end Commands

section Events

end Events

end Mpd.Chat
