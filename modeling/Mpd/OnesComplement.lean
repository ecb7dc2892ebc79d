import Mathlib.Data.Nat.ModEq
import Mathlib.Algebra.BigOperators.Group.List.Basic
import Mpd.Bytes
import Mpd.Region

/-! Sums in ones' complement: of words, with the carry added at the end, and of bytes that stand in
pairs. -/

set_option autoImplicit false

namespace Mpd.OnesComplement

section Words

variable {base : Nat}

/-- A sum whose carry is added again. -/
def add (base a b : Nat) : Nat := (a + b) % base + (a + b) / base

def sum (base : Nat) (words : List Nat) : Nat := words.foldl (add base) 0

theorem add_modEq (base a b : Nat) : add base a b ≡ a + b [MOD base - 1] := by
  have carry : (a + b) / base ≡ base * ((a + b) / base) [MOD base - 1] := by
    cases base with
    | zero => simp [Nat.ModEq]
    | succ n =>
        rw [Nat.add_sub_cancel]
        exact ((Nat.modEq_iff_dvd' (Nat.le_mul_of_pos_left _ n.succ_pos)).mpr
          ⟨(a + b) / (n + 1), by rw [Nat.succ_mul, Nat.add_sub_cancel]⟩)
  have whole := Nat.mod_add_div (a + b) base
  unfold add
  calc (a + b) % base + (a + b) / base
      ≡ (a + b) % base + base * ((a + b) / base) [MOD base - 1] := Nat.ModEq.add_left _ carry
    _ = a + b := whole

theorem add_lt {a b : Nat} (first : a < base) (second : b < base) : add base a b < base := by
  unfold add
  by_cases small : a + b < base
  · rw [Nat.mod_eq_of_lt small, Nat.div_eq_of_lt small]
    omega
  · have one : (a + b) / base = 1 := by
      rw [Nat.div_eq_sub_div (by omega) (by omega), Nat.div_eq_of_lt (by omega)]
    have rest := Nat.mod_add_div (a + b) base
    rw [one] at rest ⊢
    omega

theorem add_eq_zero_iff {a b : Nat} : add base a b = 0 ↔ a = 0 ∧ b = 0 := by
  have whole := Nat.mod_add_div (a + b) base
  unfold add
  constructor
  · intro zero
    obtain ⟨rest, carry⟩ := Nat.add_eq_zero_iff.mp zero
    rw [rest, carry] at whole
    omega
  · rintro ⟨rfl, rfl⟩
    simp

theorem foldl_modEq (base : Nat) (words : List Nat) (start : Nat) :
    words.foldl (add base) start ≡ start + words.sum [MOD base - 1] := by
  induction words generalizing start with
  | nil => exact Nat.ModEq.refl _
  | cons word words ih =>
      rw [List.foldl_cons, List.sum_cons, ← Nat.add_assoc]
      exact (ih _).trans (Nat.ModEq.add_right _ (add_modEq base start word))

theorem foldl_lt {words : List Nat} (small : ∀ word ∈ words, word < base) {start : Nat}
    (first : start < base) : words.foldl (add base) start < base := by
  induction words generalizing start with
  | nil => exact first
  | cons word words ih =>
      exact ih (fun other found => small other (List.mem_cons_of_mem _ found))
        (add_lt first (small word List.mem_cons_self))

theorem foldl_eq_zero_iff (base : Nat) (words : List Nat) (start : Nat) :
    words.foldl (add base) start = 0 ↔ start = 0 ∧ words.sum = 0 := by
  induction words generalizing start with
  | nil => simp
  | cons word words ih =>
      rw [List.foldl_cons, ih, add_eq_zero_iff, List.sum_cons]
      omega

/-- The sum is minus zero if and only if the words add up to a multiple of it. -/
theorem sum_eq_top_iff {words : List Nat} (small : ∀ word ∈ words, word < base)
    (nonzero : words.sum ≠ 0) : sum base words = base - 1 ↔ base - 1 ∣ words.sum := by
  have positive : 0 < base := by
    by_contra zero
    cases words with
    | nil => exact nonzero rfl
    | cons word words =>
        have := small word List.mem_cons_self
        omega
  have congruent := foldl_modEq base words 0
  have bounded := foldl_lt small positive
  have zero := foldl_eq_zero_iff base words 0
  rw [Nat.zero_add] at congruent
  unfold sum
  constructor
  · intro top
    rw [top] at congruent
    exact Nat.modEq_zero_iff_dvd.mp (congruent.symm.trans (by simp [Nat.ModEq]))
  · intro divides
    obtain ⟨count, total⟩ :=
      Nat.modEq_zero_iff_dvd.mp (congruent.trans (Nat.modEq_zero_iff_dvd.mpr divides))
    have other : words.foldl (add base) 0 ≠ 0 := fun none => nonzero (zero.mp none).2
    rw [total] at bounded other ⊢
    have one : count = 1 := by
      rcases Nat.lt_trichotomy count 1 with less | same | more
      · obtain rfl : count = 0 := by omega
        exact absurd (Nat.mul_zero _) other
      · exact same
      · have twice := Nat.mul_le_mul_left (base - 1) more
        have : 0 < base - 1 := Nat.pos_of_ne_zero fun none => other (by rw [none, Nat.zero_mul])
        omega
    rw [one, Nat.mul_one]

end Words

section Octets

/-- Words of two bytes. A last byte alone is the high one. -/
def words : Bytes → List Nat
  | [] => []
  | [a] => [a.toNat * 256]
  | a :: b :: rest => (a.toNat * 256 + b.toNat) :: words rest

/-- What a byte counts in its word. -/
def weight (high : Bool) : Nat := if high then 256 else 1

def weighted : Bool → Bytes → Nat
  | _, [] => 0
  | high, a :: rest => weight high * a.toNat + weighted (!high) rest

theorem sum_words (bytes : Bytes) : (words bytes).sum = weighted true bytes := by
  induction bytes using words.induct with
  | case1 => rfl
  | case2 a => simp [words, weighted, weight, Nat.mul_comm]
  | case3 a b rest ih =>
      rw [words, List.sum_cons, ih]
      simp [weighted, weight]
      omega

theorem words_lt (bytes : Bytes) : ∀ word ∈ words bytes, word < 65536 := by
  induction bytes using words.induct with
  | case1 => exact nofun
  | case2 a =>
      intro word found
      have := a.toNat_lt
      rw [List.mem_singleton.mp found]
      omega
  | case3 a b rest ih =>
      intro word found
      rcases List.mem_cons.mp found with rfl | later
      · have := a.toNat_lt
        have := b.toNat_lt
        omega
      · exact ih word later

/-- Whether the byte at a place is the high one of its word. -/
def highAt (place : Nat) (high : Bool) : Bool := if place % 2 = 0 then high else !high

theorem highAt_succ (place : Nat) (high : Bool) : highAt (place + 1) high = highAt place (!high) := by
  unfold highAt
  cases high with
  | true => split <;> split <;> first | rfl | omega
  | false => split <;> split <;> first | rfl | omega

theorem weighted_append (high : Bool) (front back : Bytes) :
    weighted high (front ++ back) =
      weighted high front + weighted (highAt front.length high) back := by
  induction front generalizing high with
  | nil => simp [weighted, highAt]
  | cons a front ih =>
      rw [List.cons_append, weighted, weighted, ih, List.length_cons, highAt_succ, Nat.add_assoc]

/-- Two bytes that are written change the sum by what they count at their places. -/
theorem weighted_overwrite {memory : Bytes} {place : Nat} {a b : UInt8} (high : Bool)
    (first : memory[place]? = some a) (second : memory[place + 1]? = some b) (c d : UInt8) :
    weighted high (Region.overwrite memory place [c, d]) +
        (weight (highAt place high) * a.toNat + weight (!highAt place high) * b.toNat) =
      weighted high memory +
        (weight (highAt place high) * c.toNat + weight (!highAt place high) * d.toNat) := by
  obtain ⟨within, rfl⟩ := List.getElem?_eq_some_iff.mp first
  obtain ⟨within', rfl⟩ := List.getElem?_eq_some_iff.mp second
  have split : memory = memory.take place ++
      memory[place] :: memory[place + 1] :: memory.drop (place + 2) := by
    rw [← List.drop_eq_getElem_cons within', ← List.drop_eq_getElem_cons within,
      List.take_append_drop]
  have length : (memory.take place).length = place := List.length_take_of_le within.le
  unfold Region.overwrite
  conv_rhs => rw [split]
  rw [List.append_assoc, List.cons_append, List.cons_append, List.nil_append, weighted_append,
    weighted_append, length]
  simp only [weighted, List.length_cons, List.length_nil, Nat.zero_add, Nat.reduceAdd]
  omega

end Octets

end Mpd.OnesComplement
