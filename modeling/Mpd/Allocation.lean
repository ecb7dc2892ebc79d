import Mathlib.Data.Set.Lattice
import Mathlib.Logic.Function.Basic

/-! Exclusive allocation: which resources are in use, and who holds which of them. -/

set_option autoImplicit false

namespace Mpd

/-- The books of an allocator of resources `α` for holders `ι`. -/
structure Ledger (ι α : Type) where
  used : Set α
  held : ι → Set α

namespace Ledger

variable {ι α : Type} (ledger : Ledger ι α)

/-- No resource has two holders, and in use are just those that are held. -/
structure Sound : Prop where
  exclusive : ∀ {i j : ι} {a : α}, a ∈ ledger.held i → a ∈ ledger.held j → i = j
  balanced : ledger.used = ⋃ i, ledger.held i

theorem Sound.mem_used {ledger : Ledger ι α} (sound : ledger.Sound) {a : α} :
    a ∈ ledger.used ↔ ∃ i, a ∈ ledger.held i := by
  rw [sound.balanced, Set.mem_iUnion]

theorem Sound.used_eq_empty {ledger : Ledger ι α} (sound : ledger.Sound)
    (returned : ∀ i, ledger.held i = ∅) : ledger.used = ∅ := by
  rw [sound.balanced]
  simp [returned]

variable [DecidableEq ι]

/-- The holder takes some resources more. -/
def take (i : ι) (taken : Set α) : Ledger ι α where
  used := ledger.used ∪ taken
  held := Function.update ledger.held i (ledger.held i ∪ taken)

def release (i : ι) : Ledger ι α where
  used := ledger.used \ ledger.held i
  held := Function.update ledger.held i ∅

variable {ledger}

theorem mem_held_take {i j : ι} {taken : Set α} {a : α} :
    a ∈ (ledger.take i taken).held j ↔ a ∈ ledger.held j ∨ (j = i ∧ a ∈ taken) := by
  by_cases same : j = i
  · subst same
    simp [take]
  · simp [take, same]

theorem mem_held_release {i j : ι} {a : α} :
    a ∈ (ledger.release i).held j ↔ a ∈ ledger.held j ∧ j ≠ i := by
  by_cases same : j = i
  · subst same
    simp [release]
  · simp [release, same]

namespace Sound

theorem take (sound : ledger.Sound) {i : ι} {taken : Set α} (free : ∀ a ∈ taken, a ∉ ledger.used) :
    (ledger.take i taken).Sound where
  exclusive {j k a} left right := by
    have unheld : ∀ l, a ∈ taken → a ∉ ledger.held l := fun l new held =>
      free a new (sound.mem_used.mpr ⟨l, held⟩)
    obtain held | ⟨rfl, new⟩ := mem_held_take.mp left
    · obtain held' | ⟨-, new⟩ := mem_held_take.mp right
      · exact sound.exclusive held held'
      · exact absurd held (unheld j new)
    · obtain held' | ⟨rfl, -⟩ := mem_held_take.mp right
      · exact absurd held' (unheld k new)
      · rfl
  balanced := by
    ext a
    simp only [Set.mem_iUnion, mem_held_take]
    constructor
    · intro used
      obtain used | new := used
      · obtain ⟨j, held⟩ := sound.mem_used.mp used
        exact ⟨j, .inl held⟩
      · exact ⟨i, .inr ⟨rfl, new⟩⟩
    · rintro ⟨j, held | ⟨-, new⟩⟩
      · exact .inl (sound.mem_used.mpr ⟨j, held⟩)
      · exact .inr new

theorem release (sound : ledger.Sound) (i : ι) : (ledger.release i).Sound where
  exclusive left right :=
    sound.exclusive (mem_held_release.mp left).1 (mem_held_release.mp right).1
  balanced := by
    ext a
    simp only [Set.mem_iUnion, mem_held_release]
    constructor
    · rintro ⟨used, unheld⟩
      obtain ⟨j, held⟩ := sound.mem_used.mp used
      exact ⟨j, held, fun same => unheld (same ▸ held)⟩
    · rintro ⟨j, held, other⟩
      exact ⟨sound.mem_used.mpr ⟨j, held⟩, fun held' => other (sound.exclusive held held')⟩

end Sound

end Ledger

end Mpd
