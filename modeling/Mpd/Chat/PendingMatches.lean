import Mpd.Chat.ExactMatch
import Mpd.Chat.Survivors

/-! The counters of the exact matches that stay pending while other matches fire and the script
goes on. -/

set_option autoImplicit false

namespace Mpd.Chat

open Border

variable {c : ChatInfo}

section Definitions

/-- The counter of an exact match is the length of the longest proper prefix of its pattern that
ends what has been received since the match was added, and no byte has completed the pattern. -/
def ChatMatch.Current (m : ChatMatch) : Prop :=
  match m.pattern with
  | .exact pat matched =>
      matched = overlap pat m.since (pat.length - 1) ∧
        ∀ k, 0 < k → k ≤ m.since.length → ¬ pat <:+ m.since.take k
  | .regex _ => True

def Pattern.Unmoved (ch : UInt8) : Pattern → Prop
  | .exact pat matched => pat ≠ [] ∧ matchLoop pat ch (matched + 1) matched = matched
  | .regex _ => True

def CommandFits (av : List Bytes) (c : ChatInfo) : Prop :=
  chatGetCmd (av.headD []) av.length = some .match →
    BordersFit (chatExpandString c (av.getD (if av.length = 4 then 2 else 1) []))

def LineFits (env : ChatEnv) : List Bytes → ChatInfo → Prop
  | token :: arg1 :: op :: arg2 :: av, c =>
      if chatGetCmd token (av.length + 4) = some .if then
        (chatIf env arg1 op arg2 c).1 = true → LineFits env av (chatIf env arg1 op arg2 c).2
      else CommandFits (token :: arg1 :: op :: arg2 :: av) c
  | av, c => CommandFits av c

end Definitions

section Bytes

structure ChatMatch.Tracked (m : ChatMatch) : Prop where
  current : m.Current
  fit : ∀ pat matched, m.pattern = .exact pat matched → BordersFit pat

theorem ChatMatch.Tracked.same {m m' : ChatMatch} (tracked : m.Tracked)
    (pattern : m'.pattern = m.pattern) (since : m'.since = m.since) : m'.Tracked where
  current := by
    unfold ChatMatch.Current
    rw [pattern, since]
    exact tracked.current
  fit pat matched same := tracked.fit pat matched (pattern.symm.trans same)

theorem tracked_of_regex {m : ChatMatch} {pat : Bytes} (pattern : m.pattern = .regex pat) :
    m.Tracked where
  current := by
    unfold ChatMatch.Current
    rw [pattern]
    trivial
  fit other matched same := by
    rw [pattern] at same
    exact nomatch same

/-- A byte that does not complete the pattern moves the counter to the right place. -/
theorem ChatMatch.Tracked.byte {m m' : ChatMatch} {pat : Bytes} {matched : Nat} {ch : UInt8}
    (tracked : m.Tracked) (pattern : m.pattern = .exact pat matched) (nonempty : pat ≠ [])
    (partly : matchLoop pat ch (matched + 1) matched ≠ pat.length)
    (pattern' : m'.pattern = .exact pat (matchLoop pat ch (matched + 1) matched))
    (since' : m'.since = m.since ++ [ch]) : m'.Tracked := by
  have fit := tracked.fit pat matched pattern
  obtain ⟨counter, open_⟩ : matched = overlap pat m.since (pat.length - 1) ∧
      ∀ k, 0 < k → k ≤ m.since.length → ¬ pat <:+ m.since.take k := by
    have current := tracked.current
    unfold ChatMatch.Current at current
    rw [pattern] at current
    exact current
  have moved : matchLoop pat ch (matched + 1) matched =
      overlap pat (m.since ++ [ch]) pat.length := by
    have candidate := candidate_overlap nonempty m.since ch
    rw [← counter] at candidate
    have rounds := matchRounds_candidate fit candidate (Nat.lt_succ_self matched)
    rw [matchRounds_eq_matchLoop (Nat.lt_succ_self matched)] at rounds
    exact Option.some.inj rounds
  have unended : ¬ pat <:+ m.since ++ [ch] := by
    intro ends
    exact partly (moved.trans (overlap_eq_length_iff.mpr ends))
  constructor
  · unfold ChatMatch.Current
    rw [pattern', since']
    refine ⟨moved.trans (overlap_pred unended).symm, fun k positive within => ?_⟩
    rw [List.length_append, List.length_singleton] at within
    rcases Nat.lt_or_ge m.since.length k with last | before
    · rw [List.take_of_length_le (by simp; omega)]
      exact unended
    · rw [List.take_append_of_le_length before]
      exact open_ k positive before
  · intro other matched' same
    rw [pattern'] at same
    cases same
    exact fit

/-- A match that a byte does not come to is as right as before if the byte would not have moved
it. -/
theorem ChatMatch.Tracked.passed {m : ChatMatch} {ch : UInt8} (tracked : m.Tracked)
    (unmoved : m.pattern.Unmoved ch) : (m.receive ch).Tracked := by
  cases pattern : m.pattern with
  | regex pat => exact tracked_of_regex pattern
  | exact pat matched =>
      rw [pattern] at unmoved
      obtain ⟨nonempty, same⟩ := unmoved
      refine tracked.byte pattern nonempty ?_ (by rw [same]; exact pattern) rfl
      have current := tracked.current
      unfold ChatMatch.Current at current
      rw [pattern] at current
      have positive := List.length_pos_of_ne_nil nonempty
      have below := overlap_le pat m.since (pat.length - 1)
      rw [same, current.1]
      omega

theorem ChatMatch.Tracked.tryMatch {env : ChatEnv} {ch : UInt8} {line : Bytes} {m m' : ChatMatch}
    {holds : Bool} (tracked : m.Tracked)
    (tried : tryMatch env ch line (m.receive ch) = (holds, m', none)) : m'.Tracked := by
  cases pattern : m.pattern with
  | regex pat =>
      unfold Mpd.Chat.tryMatch at tried
      have pattern' : (m.receive ch).pattern = .regex pat := pattern
      rw [pattern'] at tried
      obtain rfl : m.receive ch = m' := congrArg (·.2.1) tried
      exact tracked_of_regex pattern'
  | exact pat matched =>
      unfold Mpd.Chat.tryMatch at tried
      have pattern' : (m.receive ch).pattern = .exact pat matched := pattern
      rw [pattern'] at tried
      dsimp only at tried
      split at tried
      · exact nomatch (congrArg (·.2.2) tried)
      · next nonempty =>
        split at tried
        · exact nomatch (congrArg (·.2.2) tried)
        · next partly =>
          cases tried
          exact tracked.byte pattern nonempty partly rfl rfl

end Bytes

section Proceed

end Proceed

section Steps

def AllTracked (c : ChatInfo) : Prop := ∀ m ∈ c.matches_, m.Tracked

theorem Fewer.tracked {c' : ChatInfo} (fewer : Fewer c c') (all : AllTracked c) :
    AllTracked c' := by
  intro m' found
  obtain ⟨m, pending, -, pattern, since⟩ := fewer m' found
  exact (all m pending).same pattern since

end Steps

section Scripts

end Scripts

end Mpd.Chat
