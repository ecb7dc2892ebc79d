import Mpd.Chat.Commands

set_option autoImplicit false

namespace Mpd.Chat

variable {c : ChatInfo}

section Patterns

theorem failure_lt (pat : Bytes) {i : Nat} (positive : 0 < i) : failure pat i < i := by
  unfold failure
  cases found : (List.range i).reverse.find? fun j =>
      0 < j && pat.take j == (pat.drop (i - j)).take j with
  | none => exact positive
  | some j =>
      have mem := List.mem_of_find?_eq_some found
      exact Nat.lt_of_le_of_lt (Nat.mod_le j 65536) (List.mem_range.mp (List.mem_reverse.mp mem))

/-- The loop of `ChatMatchChar` ends within its rounds. -/
theorem matchLoop_rounds (pat : Bytes) (ch : UInt8) {fuel matched : Nat} (rounds : matched < fuel) :
    matchLoop pat ch fuel matched =
      if pat.getD matched 0 = ch then matched + 1
      else if matched = 0 then 0
      else matchLoop pat ch (failure pat matched + 1) (failure pat matched) := by
  have enough (fuel : Nat) : ∀ matched, matched < fuel →
      matchLoop pat ch fuel matched = matchLoop pat ch (matched + 1) matched := by
    induction fuel using Nat.strongRecOn with
    | ind fuel ih =>
        intro matched rounds
        cases fuel with
        | zero => exact absurd rounds (Nat.not_lt_zero matched)
        | succ fuel =>
            unfold matchLoop
            split
            · rfl
            · split
              · rfl
              · next nonzero =>
                have shorter := failure_lt pat (Nat.pos_of_ne_zero nonzero)
                rw [ih fuel (Nat.lt_succ_self fuel) _ (by omega), ih matched rounds _ shorter]
  rw [enough fuel matched rounds]
  unfold matchLoop
  split
  · rfl
  · split
    · rfl
    · next nonzero =>
      exact enough matched _ (failure_lt pat (Nat.pos_of_ne_zero nonzero))

end Patterns

section Reading

/-- The invariant but for a pattern that may be complete. -/
structure MatchedInv (c : ChatInfo) (m : ChatMatch) : Prop where
  quiet : c.asserted = false
  strays : c.strays = 0
  matches_ : ∀ other ∈ c.matches_,
    other.frameDepth ≤ c.stack.length ∧ (other.pattern.Open ∨ m = other)
  timers : ∀ t ∈ c.timers, t.frameDepth ≤ c.stack.length
  queued : ∀ queued, c.out = some queued → queued ≠ [] ∧ c.wrEvent = true
  drained : c.out = none → c.wrEvent = false
  waiting : c.state = .wait
  depth : m.frameDepth ≤ c.stack.length

/-- `ChatCancel` finds a set under its own name. -/
def Cancels (c : ChatInfo) (set : Bytes) : Prop :=
  sameCase (chatExpandString c set) keywordAll = true ∨ chatExpandString c set = set

theorem MatchedInv.cancelled {m : ChatMatch} (matched : MatchedInv c m)
    (cancels : ¬ m.pattern.Open → Cancels c m.set) : ChatInv (chatCancel m.set c) where
  quiet := matched.quiet
  strays := matched.strays
  matches_ other found := by
    obtain ⟨old, kept⟩ := List.mem_filter.mp found
    obtain ⟨depth, unmatched | rfl⟩ := matched.matches_ other old
    · exact ⟨depth, unmatched⟩
    · refine ⟨depth, ?_⟩
      by_contra complete
      rcases cancels complete with all | own
      · rw [all] at kept
        exact nomatch kept
      · dsimp only at kept
        rw [own, beq_self_eq_true, Bool.or_true] at kept
        exact nomatch kept
  timers t found := matched.timers t (List.mem_of_mem_filter found)
  queued := matched.queued
  drained := matched.drained
  idle idle := by
    have idle : c.state = .idle := idle
    rw [matched.waiting] at idle
    exact nomatch idle

theorem OnlyVars.matched {c' : ChatInfo} {m : ChatMatch} (same : OnlyVars c c')
    (matched : MatchedInv c m) : MatchedInv c' m := by
  obtain ⟨globals, temps, rfl⟩ := same
  exact ⟨matched.quiet, matched.strays, matched.matches_, matched.timers, matched.queued,
    matched.drained, matched.waiting, matched.depth⟩

end Reading

section Proceed

end Proceed

section Steps

end Steps

section Scripts

/-- A library for scripts without regular expressions and timers. -/
def plainEnv : ChatEnv where
  regcomp _ := true
  regexec _ _ _ := none
  strtoul _ := none

end Scripts

end Mpd.Chat
