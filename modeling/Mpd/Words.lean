import Mathlib.Algebra.GroupWithZero.Nat
import Mathlib.Data.List.Basic
import Mathlib.Data.List.TakeWhile
import Mathlib.Algebra.BigOperators.Group.List.Basic
import Mathlib.Algebra.Order.BigOperators.Group.List

/-! The words of a text: what stands between its separators. -/

set_option autoImplicit false

namespace Mpd.Words

variable {α : Type} {sep : α → Bool}

/-- The pieces between separators that are not empty. -/
def words (sep : α → Bool) (text : List α) : List (List α) :=
  (text.splitOnP sep).filter (!·.isEmpty)

def everyOther : List α → List α
  | [] => []
  | [a] => [a]
  | a :: _ :: rest => a :: everyOther rest

theorem everyOther_cons (a : α) (rest : List α) :
    everyOther (a :: rest) = a :: everyOther rest.tail := by
  cases rest with
  | nil => rfl
  | cons b rest => rfl

theorem everyOther_sublist (list : List α) : (everyOther list).Sublist list := by
  induction list using everyOther.induct with
  | case1 => exact List.Sublist.refl []
  | case2 a => exact List.Sublist.refl [a]
  | case3 a b rest ih => exact (ih.cons b).cons_cons a

theorem words_nil : words sep [] = [] := rfl

theorem words_separator {c : α} (separates : sep c = true) (text : List α) :
    words sep (c :: text) = words sep text := by
  unfold words
  rw [List.splitOnP_cons_eq_if_modifyHead, if_pos separates]
  rfl

theorem words_dropWhile (text : List α) : words sep (text.dropWhile sep) = words sep text := by
  induction text with
  | nil => rfl
  | cons c text ih =>
      by_cases separates : sep c = true
      · rw [List.dropWhile_cons_of_pos separates, ih, words_separator separates]
      · rw [List.dropWhile_cons_of_neg separates]

structure IsWord (sep : α → Bool) (word : List α) : Prop where
  nonempty : word ≠ []
  clean : ∀ c ∈ word, sep c = false

theorem words_word {word : List α} (is_word : IsWord sep word) : words sep word = [word] := by
  unfold words
  rw [List.splitOnP_eq_singleton is_word.clean]
  cases word with
  | nil => exact absurd rfl is_word.nonempty
  | cons c word => rfl

theorem words_append {word : List α} {c : α} (is_word : IsWord sep word)
    (separates : sep c = true) (text : List α) :
    words sep (word ++ c :: text) = word :: words sep text := by
  unfold words
  rw [List.splitOnP_append_cons_of_forall_mem is_word.clean c separates]
  cases word with
  | nil => exact absurd rfl is_word.nonempty
  | cons d word => rfl

/-- A text that starts with no separator starts with a word. -/
theorem isWord_takeWhile {c : α} (other : sep c = false) (text : List α) :
    IsWord sep ((c :: text).takeWhile (!sep ·)) where
  nonempty := by
    rw [List.takeWhile_cons_of_pos (by rw [other]; rfl)]
    exact List.cons_ne_nil _ _
  clean d found := by
    have kept := List.mem_takeWhile_imp found
    rwa [Bool.not_eq_true'] at kept

/-- What stands behind the first word is nothing, or a separator and more. -/
theorem dropWhile_cases (sep : α → Bool) (text : List α) :
    text.dropWhile (!sep ·) = [] ∨
      ∃ c rest, text.dropWhile (!sep ·) = c :: rest ∧ sep c = true := by
  cases left : text.dropWhile (!sep ·) with
  | nil => exact .inl rfl
  | cons c rest =>
      have stopped := List.head?_dropWhile_not (!sep ·) text
      rw [left] at stopped
      have stopped : (!sep c) = false := by simpa using stopped
      exact .inr ⟨c, rest, rfl, by simpa using stopped⟩

theorem words_takeWhile {c : α} (other : sep c = false) (text : List α) :
    words sep (c :: text) =
      (c :: text).takeWhile (!sep ·) :: words sep ((c :: text).dropWhile (!sep ·)) := by
  have is_word := isWord_takeWhile other text
  have joined := List.takeWhile_append_dropWhile (p := (!sep ·)) (l := c :: text)
  conv_lhs => rw [← joined]
  rcases dropWhile_cases sep (c :: text) with none | ⟨d, rest, some, separates⟩
  · rw [none, List.append_nil, words_word is_word, words_nil]
  · rw [some, words_append is_word separates, words_separator separates]

/-- A text is empty, it starts with a separator, or it starts with a word. -/
theorem text_induction (sep : α → Bool) {motive : List α → Prop} (empty : motive [])
    (separator : ∀ c text, sep c = true → motive text → motive (c :: text))
    (word : ∀ c text, sep c = false → motive ((c :: text).dropWhile (!sep ·)) →
      motive (c :: text)) (text : List α) : motive text := by
  induction size : text.length using Nat.strongRecOn generalizing text with
  | ind size ih =>
      cases text with
      | nil => exact empty
      | cons c text =>
          cases separates : sep c with
          | true => exact separator c text separates (ih _ (by rw [← size]; simp) text rfl)
          | false =>
              refine word c text separates (ih _ ?_ _ rfl)
              rw [← size, List.dropWhile_cons_of_pos (by rw [separates]; rfl), List.length_cons]
              exact Nat.lt_succ_of_le (List.dropWhile_sublist _).length_le

theorem isWord_of_mem {word text : List α} (found : word ∈ words sep text) :
    IsWord sep word := by
  induction text using text_induction sep with
  | empty => exact absurd found List.not_mem_nil
  | separator c text separates ih =>
      rw [words_separator separates] at found
      exact ih found
  | word c text other ih =>
      rw [words_takeWhile other] at found
      rcases List.mem_cons.mp found with rfl | later
      · exact isWord_takeWhile other text
      · exact ih later

theorem mem_of_mem_words {word text : List α} {c : α} (found : word ∈ words sep text)
    (inside : c ∈ word) : c ∈ text := by
  induction text using text_induction sep with
  | empty => exact absurd found List.not_mem_nil
  | separator d text separates ih =>
      rw [words_separator separates] at found
      exact List.mem_cons_of_mem _ (ih found)
  | word d text other ih =>
      rw [words_takeWhile other] at found
      rcases List.mem_cons.mp found with rfl | later
      · exact (List.takeWhile_sublist _).subset inside
      · exact (List.dropWhile_sublist _).subset (ih later)

/-- The room that words take with something behind each. -/
def extent (list : List (List α)) : Nat := (list.map (·.length + 1)).sum

theorem extent_cons (word : List α) (list : List (List α)) :
    extent (word :: list) = word.length + 1 + extent list := by
  simp [extent]

theorem extent_everyOther (list : List (List α)) : extent (everyOther list) ≤ extent list := by
  induction list using everyOther.induct with
  | case1 => exact Nat.le_refl _
  | case2 a => exact Nat.le_refl _
  | case3 a b rest ih =>
      rw [everyOther, extent_cons, extent_cons, extent_cons]
      omega

/-- The words of a text fit into it, but for what is behind the last one. -/
theorem extent_words (text : List α) : extent (words sep text) ≤ text.length + 1 := by
  have sharper : extent (words sep text) ≤ text.length + 1 ∧
      ∀ c rest, text = c :: rest → sep c = true → extent (words sep text) ≤ text.length := by
    induction text using text_induction sep with
    | empty => exact ⟨Nat.zero_le _, fun _ _ same => by cases same⟩
    | separator c text separates ih =>
        rw [words_separator separates, List.length_cons]
        exact ⟨Nat.le_succ_of_le ih.1, fun _ _ _ _ => ih.1⟩
    | word c text other ih =>
        have parts := congrArg List.length
          (List.takeWhile_append_dropWhile (p := (!sep ·)) (l := c :: text))
        rw [List.length_append] at parts
        rw [words_takeWhile other, extent_cons]
        constructor
        · rcases dropWhile_cases sep (c :: text) with none | ⟨d, rest, some, separates⟩
          · rw [none] at parts ⊢
            rw [words_nil]
            simp only [extent, List.map_nil, List.sum_nil, List.length_nil] at parts ⊢
            omega
          · have less := ih.2 d rest some separates
            omega
        · intro d rest same separates
          cases same
          rw [other] at separates
          cases separates
  exact sharper.1

/-- Words with one separator between them are the words of what they make up. -/
theorem words_intercalate {c : α} (separates : sep c = true) {list : List (List α)}
    (are_words : ∀ word ∈ list, IsWord sep word) : words sep ([c].intercalate list) = list := by
  induction list with
  | nil => rfl
  | cons word list ih =>
      have first := are_words word List.mem_cons_self
      cases list with
      | nil => simpa [List.intercalate] using words_word first
      | cons next list =>
          have rest := ih fun word found => are_words word (List.mem_cons_of_mem _ found)
          rw [List.intercalate_cons_cons, List.append_assoc, List.singleton_append,
            words_append first separates, rest]

theorem length_intercalate (c : α) (word : List α) (list : List (List α)) :
    ([c].intercalate (word :: list)).length + 1 = extent (word :: list) := by
  induction list generalizing word with
  | nil => simp [List.intercalate, extent]
  | cons next list ih =>
      rw [List.intercalate_cons_cons, List.length_append, List.length_append, extent_cons, ← ih next]
      simp
      omega

end Mpd.Words
