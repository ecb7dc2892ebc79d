import Mpd.Chat.Sound

set_option autoImplicit false

namespace Mpd.Chat

variable {c : ChatInfo}

section Write

end Write

section Words

end Words

section Commands

/-- The script waits. -/
theorem ChatInv.waits (inv : ChatInv c) : ChatInv { c with state := .wait } :=
  inv.same rfl rfl rfl rfl rfl rfl rfl nofun

theorem OnlyVars.state {c' : ChatInfo} (same : OnlyVars c c') : c'.state = c.state := by
  obtain ⟨globals, temps, rfl⟩ := same
  rfl

end Commands

end Mpd.Chat
