import Mpd.Border
import Mpd.Chat.Runs

/-! `ChatMatchChar` and `ChatComputeFailure` on their own: what a fresh match makes of a stream
of bytes. -/

set_option autoImplicit false

namespace Mpd.Chat

open Border

section Definitions

inductive MatchFault where
  | assertion | endless
  deriving DecidableEq, Repr

/-- The loop of `ChatMatchChar` with a limit for its rounds. -/
def matchRounds (pat : Bytes) (ch : UInt8) : Nat → Nat → Option Nat
  | 0, _ => none
  | rounds + 1, matched =>
      if pat.getD matched 0 = ch then some (matched + 1)
      else if matched = 0 then some 0
      else matchRounds pat ch rounds (failure pat matched)

def chatMatchChar (rounds : Nat) (pat : Bytes) (ch : UInt8) (matched : Nat) :
    Except MatchFault (Nat × Bool) :=
  if pat = [] then .ok (matched, true)
  else if matched < pat.length then
    match matchRounds pat ch rounds matched with
    | none => .error .endless
    | some next => .ok (next, next == pat.length)
  else .error .assertion

def chatMatchStream (rounds : Nat) (pat : Bytes) : Bytes → Nat → Except MatchFault (Option Nat)
  | [], _ => .ok none
  | ch :: chars, matched =>
      match chatMatchChar rounds pat ch matched with
      | .error fault => .error fault
      | .ok (_, true) => .ok (some 1)
      | .ok (next, false) => (chatMatchStream rounds pat chars next).map (Option.map (· + 1))

structure FirstEnd (pat stream : Bytes) (count : Nat) : Prop where
  within : count ≤ stream.length
  ends : pat <:+ stream.take count
  first : ∀ k, k < count → ¬ pat <:+ stream.take k

/-- The failure function has the longest proper border of each prefix, and a fresh match returns
1 where the pattern ends the stream for the first time, after finitely many rounds for each
byte and with no assertion that fails. -/
structure ExactMatchRight (pat : Bytes) : Prop where
  failure : ∀ i, i < pat.length → failure pat i = border pat i
  matches_ : ∀ (rounds : Nat) (stream : Bytes), pat.length ≤ rounds →
    ∃ found, chatMatchStream rounds pat stream 0 = .ok found ∧
      ∀ count, found = some count ↔ FirstEnd pat stream count

/-- No proper prefix of the pattern has a border that is too long for an entry. -/
def BordersFit (pat : Bytes) : Prop :=
  ∀ i j, i < pat.length → j < i → 65536 ≤ j → ¬ pat.take j <:+ pat.take i

end Definitions

section Failure

theorem find?_reverse_range (p : Nat → Bool) (n : Nat) :
    ((List.range (n + 1)).reverse.find? p).getD 0 = Nat.findGreatest (p ·) n := by
  induction n with
  | zero =>
      rw [List.range_one, List.reverse_singleton, List.find?_singleton]
      cases p 0 <;> rfl
  | succ n ih =>
      rw [List.range_succ, List.reverse_append, List.reverse_singleton, List.singleton_append,
        List.find?_cons, Nat.findGreatest_succ]
      cases p (n + 1) with
      | true => rfl
      | false => exact ih

theorem findGreatest_congr {P Q : Nat → Prop} [DecidablePred P] [DecidablePred Q] {n : Nat}
    (same : ∀ k, 0 < k → k ≤ n → (P k ↔ Q k)) : Nat.findGreatest P n = Nat.findGreatest Q n := by
  induction n with
  | zero => rfl
  | succ n ih =>
      rw [Nat.findGreatest_succ, Nat.findGreatest_succ,
        ih fun k positive below => same k positive (Nat.le_succ_of_le below)]
      by_cases last : P (n + 1)
      · rw [if_pos last, if_pos ((same _ n.succ_pos (Nat.le_refl _)).mp last)]
      · rw [if_neg last, if_neg (mt (same _ n.succ_pos (Nat.le_refl _)).mpr last)]

theorem take_eq_iff_suffix {pat : Bytes} {i j : Nat} (within : i ≤ pat.length) (shorter : j ≤ i) :
    pat.take j = (pat.drop (i - j)).take j ↔ pat.take j <:+ pat.take i := by
  have joined : pat.take i = pat.take (i - j) ++ (pat.drop (i - j)).take j := by
    rw [← List.take_add]
    congr 1
    omega
  constructor
  · intro same
    rw [joined, ← same]
    exact List.suffix_append _ _
  · rintro ⟨before, ends⟩
    rw [joined] at ends
    refine (List.append_inj' ends ?_).2
    rw [List.length_take, List.length_take, List.length_drop]
    omega

theorem failure_eq {pat : Bytes} {i : Nat} (within : i < pat.length) :
    failure pat i = border pat i % 65536 := by
  cases i with
  | zero => rfl
  | succ n =>
      unfold failure
      rw [find?_reverse_range]
      congr 1
      apply findGreatest_congr
      intro j positive below
      have ends := take_eq_iff_suffix (i := n + 1) (Nat.le_of_lt within) (Nat.le_succ_of_le below)
      simp only [positive, decide_true, Bool.true_and, beq_iff_eq]
      exact ends

theorem failure_eq_border_iff {pat : Bytes} :
    (∀ i, i < pat.length → failure pat i = border pat i) ↔ BordersFit pat := by
  constructor
  · intro right i j within shorter big ends
    have same := right i within
    have longer : j ≤ border pat i := le_overlap (by omega) ends
    have cut : failure pat i < 65536 := by
      rw [failure_eq within]
      exact Nat.mod_lt _ (by decide)
    omega
  · intro fit i within
    rw [failure_eq within]
    apply Nat.mod_eq_of_lt
    by_contra big
    rcases Nat.eq_zero_or_pos i with rfl | positive
    · exact big (Nat.lt_of_le_of_lt (overlap_le pat (pat.take 0) 0) (by decide))
    · exact fit i _ within (border_lt positive) (Nat.not_lt.mp big) (take_overlap pat _ (i - 1))

end Failure

section Stream

variable {pat : Bytes} {ch : UInt8}

theorem matchRounds_candidate (fit : BordersFit pat) {text : Bytes} {rounds matched : Nat}
    (candidate : Candidate pat text ch matched) (enough : matched < rounds) :
    matchRounds pat ch rounds matched = some (overlap pat (text ++ [ch]) pat.length) := by
  induction rounds generalizing matched with
  | zero => exact absurd enough (Nat.not_lt_zero matched)
  | succ rounds ih =>
      have here : pat.getD matched 0 = pat.get ⟨matched, candidate.within⟩ := by
        rw [List.getD_eq_getElem?_getD, List.getElem?_eq_getElem candidate.within, Option.getD_some]
        rfl
      unfold matchRounds
      by_cases next : pat.get ⟨matched, candidate.within⟩ = ch
      · rw [if_pos (here.trans next), candidate.hit next]
      rw [if_neg fun same => next (here.symm.trans same)]
      by_cases first : matched = 0
      · subst first
        rw [if_pos rfl, candidate.miss next]
      have positive := Nat.pos_of_ne_zero first
      have shorter : border pat matched < matched := border_lt positive
      rw [if_neg first, failure_eq_border_iff.mpr fit matched candidate.within]
      exact ih (candidate.fall positive next) (by omega)

/-- The loop of the engine is the one with a limit. -/
theorem matchRounds_eq_matchLoop {rounds matched : Nat} (enough : matched < rounds) :
    matchRounds pat ch rounds matched = some (matchLoop pat ch (matched + 1) matched) := by
  induction rounds generalizing matched with
  | zero => exact absurd enough (Nat.not_lt_zero matched)
  | succ rounds ih =>
      rw [matchLoop_rounds pat ch (Nat.lt_succ_self matched)]
      unfold matchRounds
      split
      · rfl
      split
      · rfl
      · next nonzero =>
        have shorter := failure_lt pat (Nat.pos_of_ne_zero nonzero)
        exact ih (by omega)

/-- One byte takes the counter from the longest proper prefix that ends the text to the one that
ends the longer text. -/
theorem chatMatchChar_overlap (nonempty : pat ≠ []) (fit : BordersFit pat) (text : Bytes)
    {rounds : Nat} (enough : pat.length ≤ rounds) :
    chatMatchChar rounds pat ch (overlap pat text (pat.length - 1)) =
      .ok (overlap pat (text ++ [ch]) pat.length, decide (pat <:+ text ++ [ch])) := by
  have candidate := candidate_overlap nonempty text ch
  have within := candidate.within
  unfold chatMatchChar
  rw [if_neg nonempty, if_pos within,
    matchRounds_candidate fit candidate (Nat.lt_of_lt_of_le within enough)]
  dsimp only
  congr 2
  rw [Bool.eq_iff_iff, beq_iff_eq, decide_eq_true_iff]
  exact overlap_eq_length_iff

theorem firstEnd_append_nil {text : Bytes} (open_ : ∀ k, k ≤ text.length → ¬ pat <:+ text.take k)
    (count : Nat) : ¬ FirstEnd pat (text ++ []) (text.length + count) := by
  intro first
  have within := first.within
  rw [List.length_append, List.length_nil] at within
  have ends := first.ends
  rw [List.append_nil] at ends
  exact open_ (text.length + count) (by omega) ends

theorem firstEnd_append_singleton {text : Bytes}
    (open_ : ∀ k, k ≤ text.length → ¬ pat <:+ text.take k) (ends : pat <:+ text ++ [ch])
    (chars : Bytes) : FirstEnd pat (text ++ ch :: chars) (text.length + 1) where
  within := by simp
  ends := by
    rw [← List.singleton_append, ← List.append_assoc, List.take_left' (by simp)]
    exact ends
  first k small := by
    rw [List.take_append_of_le_length (Nat.le_of_lt_succ small)]
    exact open_ k (Nat.le_of_lt_succ small)

theorem FirstEnd.unique {stream : Bytes} {m n : Nat} (first : FirstEnd pat stream m)
    (second : FirstEnd pat stream n) : m = n := by
  rcases Nat.lt_trichotomy m n with less | same | more
  · exact absurd first.ends (second.first m less)
  · exact same
  · exact absurd second.ends (first.first n more)

/-- The run from a counter that is right for the text that is behind. -/
theorem chatMatchStream_overlap (nonempty : pat ≠ []) (fit : BordersFit pat) {rounds : Nat}
    (enough : pat.length ≤ rounds) (stream text : Bytes)
    (open_ : ∀ k, k ≤ text.length → ¬ pat <:+ text.take k) :
    ∃ found, chatMatchStream rounds pat stream (overlap pat text (pat.length - 1)) = .ok found ∧
      ∀ count, found = some count ↔ FirstEnd pat (text ++ stream) (text.length + count) := by
  induction stream generalizing text with
  | nil =>
      refine ⟨none, rfl, fun count => ?_⟩
      simp only [reduceCtorEq, false_iff]
      exact firstEnd_append_nil open_ count
  | cons ch chars ih =>
      have joined : text ++ ch :: chars = (text ++ [ch]) ++ chars := by simp
      unfold chatMatchStream
      rw [chatMatchChar_overlap nonempty fit text enough]
      by_cases ends : pat <:+ text ++ [ch]
      · rw [decide_eq_true ends]
        refine ⟨some 1, rfl, fun count => ?_⟩
        have first := firstEnd_append_singleton open_ ends chars
        constructor
        · intro same
          cases same
          exact first
        · intro other
          have same := first.unique other
          congr 1
          omega
      · rw [decide_eq_false ends]
        dsimp only
        have open' (k : Nat) (small : k ≤ (text ++ [ch]).length) :
            ¬ pat <:+ (text ++ [ch]).take k := by
          rw [List.length_append, List.length_singleton] at small
          rcases Nat.lt_or_ge text.length k with beyond | within
          · rw [List.take_of_length_le (by simp; omega)]
            exact ends
          · rw [List.take_append_of_le_length within]
            exact open_ k within
        rw [← overlap_pred ends]
        obtain ⟨found, run, right⟩ := ih (text ++ [ch]) open'
        refine ⟨found.map (· + 1), by rw [run]; rfl, fun count => ?_⟩
        rw [joined]
        cases count with
        | zero =>
            constructor
            · intro same
              cases found <;> simp at same
            · intro other
              have ended := other.ends
              rw [List.append_assoc, Nat.add_zero, List.take_left' rfl] at ended
              have whole := open_ text.length (Nat.le_refl _)
              rw [List.take_length] at whole
              exact absurd ended whole
        | succ count =>
            have shifted : text.length + (count + 1) = (text ++ [ch]).length + count := by
              simp
              omega
            rw [shifted, ← right count]
            cases found <;> simp

/-- A pattern that is not empty is matched as it should be if and only if the failure function
has room for the borders of its prefixes. -/
theorem exactMatchRight_iff (pat : Bytes) (nonempty : pat ≠ []) :
    ExactMatchRight pat ↔ BordersFit pat := by
  constructor
  · intro right
    exact failure_eq_border_iff.mp right.failure
  · intro fit
    refine ⟨failure_eq_border_iff.mpr fit, fun rounds stream enough => ?_⟩
    have fresh (k : Nat) (small : k ≤ ([] : Bytes).length) : ¬ pat <:+ ([] : Bytes).take k := by
      rw [List.take_nil, List.suffix_nil]
      exact nonempty
    obtain ⟨found, run, right⟩ := chatMatchStream_overlap nonempty fit enough stream [] fresh
    rw [overlap_nil _ (Nat.sub_le _ 1)] at run
    refine ⟨found, run, fun count => ?_⟩
    have shown := right count
    rw [List.nil_append, List.length_nil, Nat.zero_add] at shown
    exact shown

def abaPattern : Bytes := [97, 98, 97]

theorem exactMatchRight_aba : ExactMatchRight abaPattern :=
  (exactMatchRight_iff abaPattern (by decide)).mpr fun i j within shorter big _ => by
    have small : i < 3 := within
    omega

/-- The letter `a` 65537 times, and `b`. -/
def longPattern : Bytes := List.replicate 65537 97 ++ [98]

theorem not_exactMatchRight_long : ¬ ExactMatchRight longPattern := by
  intro right
  have fit := failure_eq_border_iff.mp right.failure
  have prefix_eq (k : Nat) (small : k ≤ 65537) :
      longPattern.take k = List.replicate k 97 := by
    rw [longPattern, List.take_append_of_le_length (by rw [List.length_replicate]; exact small),
      List.take_replicate, Nat.min_eq_left small]
  refine fit 65537 65536 ?_ (by decide) (by decide) ?_
  · rw [longPattern, List.length_append, List.length_replicate]
    decide
  · rw [prefix_eq 65537 (by decide), prefix_eq 65536 (by decide), List.replicate_succ]
    exact List.suffix_cons _ _

end Stream

end Mpd.Chat
