import Mathlib.Data.List.Infix
import Mathlib.Data.Nat.Find

/-! Prefixes of a pattern that end a text, and how the longest of them grows with the text. -/

set_option autoImplicit false

namespace Mpd.Border

variable {α : Type} {pat text : List α}

/-- Of two prefixes that end a text the shorter one ends the longer one. -/
theorem take_suffix_take {j k : Nat} (shorter : j ≤ k) (endsJ : pat.take j <:+ text)
    (endsK : pat.take k <:+ text) : pat.take j <:+ pat.take k := by
  apply List.suffix_of_suffix_length_le endsJ endsK
  rw [List.length_take, List.length_take]
  omega

theorem take_succ_suffix {k : Nat} (within : k < pat.length) (a : α) :
    pat.take (k + 1) <:+ text ++ [a] ↔ pat[k] = a ∧ pat.take k <:+ text := by
  rw [List.take_succ_eq_append_getElem within]
  constructor
  · rintro ⟨before, joined⟩
    rw [← List.append_assoc] at joined
    have parts := List.append_inj' joined rfl
    exact ⟨List.head_eq_of_cons_eq parts.2, before, parts.1⟩
  · rintro ⟨rfl, before, rfl⟩
    exact ⟨before, by rw [List.append_assoc]⟩

/-- A prefix that ends the text, where no longer one goes on with the next element. -/
structure Candidate (pat text : List α) (a : α) (k : Nat) : Prop where
  within : k < pat.length
  ends : pat.take k <:+ text
  longest : ∀ (j : Nat) (inside : j < pat.length), k < j → pat.take j <:+ text → pat[j] ≠ a

/-- No prefix that is longer than a candidate's successor ends the longer text. -/
theorem Candidate.bounded {a : α} {k : Nat} (candidate : Candidate pat text a k) {j : Nat}
    (inside : j ≤ pat.length) (ends : pat.take j <:+ text ++ [a]) : j ≤ k + 1 := by
  by_contra beyond
  obtain ⟨i, rfl⟩ : ∃ i, j = i + 1 := ⟨j - 1, by omega⟩
  obtain ⟨next, before⟩ := (take_succ_suffix (by omega) a).mp ends
  exact candidate.longest i (by omega) (by omega) before next

variable [DecidableEq α]

/-- The length of the longest prefix of `pat`, of at most `bound` elements, that ends `text`. -/
def overlap (pat text : List α) (bound : Nat) : Nat :=
  Nat.findGreatest (fun k => pat.take k <:+ text) bound

/-- The length of the longest proper border of the first `i` elements. -/
def border (pat : List α) (i : Nat) : Nat := overlap pat (pat.take i) (i - 1)

theorem take_overlap (pat text : List α) (bound : Nat) :
    pat.take (overlap pat text bound) <:+ text := by
  have empty : pat.take 0 <:+ text := List.nil_suffix
  exact Nat.findGreatest_spec (P := fun k => pat.take k <:+ text) (Nat.zero_le bound) empty

theorem overlap_le (pat text : List α) (bound : Nat) : overlap pat text bound ≤ bound :=
  Nat.findGreatest_le bound

theorem le_overlap {k bound : Nat} (within : k ≤ bound) (ends : pat.take k <:+ text) :
    k ≤ overlap pat text bound :=
  Nat.le_findGreatest within ends

theorem overlap_eq {k bound : Nat} (within : k ≤ bound) (ends : pat.take k <:+ text)
    (longest : ∀ j, j ≤ bound → pat.take j <:+ text → j ≤ k) : overlap pat text bound = k := by
  apply Nat.le_antisymm
  · exact longest _ (overlap_le pat text bound) (take_overlap pat text bound)
  · exact le_overlap within ends

theorem overlap_nil (bound : Nat) (within : bound ≤ pat.length) : overlap pat [] bound = 0 := by
  apply overlap_eq (Nat.zero_le bound) List.nil_suffix
  intro j below ends
  have empty := congrArg List.length (List.suffix_nil.mp ends)
  rw [List.length_take] at empty
  simp only [List.length_nil] at empty
  omega

theorem border_lt {i : Nat} (positive : 0 < i) : border pat i < i := by
  have below : border pat i ≤ i - 1 := overlap_le pat (pat.take i) (i - 1)
  omega

theorem candidate_overlap (nonempty : pat ≠ []) (text : List α) (a : α) :
    Candidate pat text a (overlap pat text (pat.length - 1)) where
  within := by
    have positive := List.length_pos_of_ne_nil nonempty
    have below := overlap_le pat text (pat.length - 1)
    omega
  ends := take_overlap pat text _
  longest j inside beyond ends := by
    have most : j ≤ overlap pat text (pat.length - 1) := le_overlap (by omega) ends
    omega

theorem Candidate.hit {a : α} {k : Nat} (candidate : Candidate pat text a k)
    (next : pat.get ⟨k, candidate.within⟩ = a) : overlap pat (text ++ [a]) pat.length = k + 1 := by
  apply overlap_eq candidate.within
  · exact (take_succ_suffix candidate.within a).mpr ⟨next, candidate.ends⟩
  · exact fun j inside ends => candidate.bounded inside ends

theorem Candidate.miss {a : α} (candidate : Candidate pat text a 0)
    (other : pat.get ⟨0, candidate.within⟩ ≠ a) : overlap pat (text ++ [a]) pat.length = 0 := by
  apply overlap_eq (Nat.zero_le _) List.nil_suffix
  intro j inside ends
  have few := candidate.bounded inside ends
  by_contra positive
  obtain rfl : j = 0 + 1 := by omega
  exact other ((take_succ_suffix candidate.within a).mp ends).1

/-- Where a candidate does not go on, its longest border is the next one. -/
theorem Candidate.fall {a : α} {k : Nat} (candidate : Candidate pat text a k) (positive : 0 < k)
    (other : pat.get ⟨k, candidate.within⟩ ≠ a) : Candidate pat text a (border pat k) where
  within := Nat.lt_trans (border_lt positive) candidate.within
  ends := (take_overlap pat (pat.take k) (k - 1)).trans candidate.ends
  longest j inside beyond ends := by
    rcases Nat.lt_trichotomy j k with shorter | same | longer
    · have most : j ≤ border pat k := le_overlap (by omega)
        (take_suffix_take (Nat.le_of_lt shorter) ends candidate.ends)
      exact absurd beyond (Nat.not_lt.mpr most)
    · subst same
      exact other
    · exact candidate.longest j inside longer ends

/-- A prefix of the whole length is the pattern. -/
theorem overlap_eq_length_iff : overlap pat text pat.length = pat.length ↔ pat <:+ text := by
  constructor
  · intro whole
    have ends := take_overlap pat text pat.length
    rw [whole, List.take_length] at ends
    exact ends
  · intro ends
    apply overlap_eq (Nat.le_refl _)
    · rw [List.take_length]
      exact ends
    · exact fun j inside _ => inside

/-- Where the pattern does not end the text, the longest prefix is a proper one. -/
theorem overlap_pred (open_ : ¬ pat <:+ text) :
    overlap pat text (pat.length - 1) = overlap pat text pat.length := by
  have below := overlap_le pat text pat.length
  have other := mt overlap_eq_length_iff.mp open_
  apply overlap_eq (by omega) (take_overlap pat text _)
  exact fun j inside ends => le_overlap (by omega) ends

end Mpd.Border
