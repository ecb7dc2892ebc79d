import Mathlib.Data.List.Basic

/-! Regions of a memory: a window that is read, and a block that is written over what was there. -/

set_option autoImplicit false

namespace Mpd.Region

variable {Cell : Type}

def window (memory : List Cell) (start count : Nat) : List Cell := (memory.drop start).take count

def overwrite (memory : List Cell) (start : Nat) (block : List Cell) : List Cell :=
  memory.take start ++ block ++ memory.drop (start + block.length)

theorem getElem?_window (memory : List Cell) (start count index : Nat) :
    (window memory start count)[index]? =
      if index < count then memory[start + index]? else none := by
  rw [window, List.getElem?_take]
  split
  · rw [List.getElem?_drop]
  · rfl

theorem length_window {memory : List Cell} {start count : Nat}
    (within : start + count ≤ memory.length) : (window memory start count).length = count := by
  rw [window, List.length_take, List.length_drop]
  omega

theorem getElem?_overwrite {memory block : List Cell} {start : Nat}
    (within : start + block.length ≤ memory.length) (index : Nat) :
    (overwrite memory start block)[index]? =
      if start ≤ index ∧ index < start + block.length then block[index - start]?
      else memory[index]? := by
  have before : (memory.take start).length = start := by
    rw [List.length_take]
    omega
  rw [overwrite, List.append_assoc, List.getElem?_append, before]
  by_cases left : index < start
  · rw [if_pos left, if_neg (by omega), List.getElem?_take_of_lt left]
  rw [if_neg left, List.getElem?_append]
  by_cases inside : index - start < block.length
  · rw [if_pos inside, if_pos (by omega)]
  · rw [if_neg inside, if_neg (by omega), List.getElem?_drop]
    congr 1
    omega

theorem length_overwrite {memory block : List Cell} {start : Nat}
    (within : start + block.length ≤ memory.length) :
    (overwrite memory start block).length = memory.length := by
  rw [overwrite, List.length_append, List.length_append, List.length_take, List.length_drop]
  omega

/-- A block that is written in a window is written at its place in the window. -/
theorem window_overwrite {memory block : List Cell} {start count place : Nat}
    (within : start + count ≤ memory.length) (inside : place + block.length ≤ count) :
    window (overwrite memory (start + place) block) start count =
      overwrite (window memory start count) place block := by
  apply List.ext_getElem?
  intro index
  rw [getElem?_window, getElem?_overwrite (by omega),
    getElem?_overwrite (by rw [length_window within]; exact inside), getElem?_window]
  by_cases windowed : index < count
  · rw [if_pos windowed, if_pos windowed]
    by_cases written : place ≤ index ∧ index < place + block.length
    · rw [if_pos (by omega), if_pos written]
      congr 1
      omega
    · rw [if_neg (by omega), if_neg written]
  · rw [if_neg windowed, if_neg windowed, if_neg (by omega)]

/-- A window is what is before a part of it, the part, and what is after it. -/
theorem window_parts (memory : List Cell) (start before count after : Nat) :
    window memory start (before + count + after) =
      window memory start before ++ window memory (start + before) count ++
        window memory (start + before + count) after := by
  unfold window
  rw [Nat.add_assoc, List.take_add, List.take_add, List.drop_drop, List.drop_drop,
    List.append_assoc]

theorem window_overwrite_self {memory block : List Cell} {start : Nat}
    (within : start + block.length ≤ memory.length) :
    window (overwrite memory start block) start block.length = block := by
  apply List.ext_getElem?
  intro index
  rw [getElem?_window, getElem?_overwrite within]
  by_cases inside : index < block.length
  · rw [if_pos inside, if_pos (by omega), Nat.add_sub_cancel_left]
  · rw [if_neg inside, List.getElem?_eq_none (Nat.le_of_not_lt inside)]

/-- A block leaves a window alone that it does not touch. -/
theorem window_overwrite_of_apart {memory block : List Cell} {start count place : Nat}
    (within : place + block.length ≤ memory.length)
    (apart : start + count ≤ place ∨ place + block.length ≤ start) :
    window (overwrite memory place block) start count = window memory start count := by
  apply List.ext_getElem?
  intro index
  rw [getElem?_window, getElem?_window, getElem?_overwrite within]
  by_cases inside : index < count
  · rw [if_pos inside, if_pos inside, if_neg (by omega)]
  · rw [if_neg inside, if_neg inside]

theorem drop_window (memory : List Cell) (start count skipped : Nat) :
    (window memory start count).drop skipped =
      window memory (start + skipped) (count - skipped) := by
  rw [window, window, List.drop_take, List.drop_drop]

theorem take_window (memory : List Cell) (start : Nat) {count taken : Nat} (few : taken ≤ count) :
    (window memory start count).take taken = window memory start taken := by
  rw [window, window, List.take_take, Nat.min_eq_left few]

theorem window_window (memory : List Cell) {start count place taken : Nat}
    (inside : place + taken ≤ count) :
    window (window memory start count) place taken = window memory (start + place) taken := by
  apply List.ext_getElem?
  intro index
  rw [getElem?_window, getElem?_window, getElem?_window]
  by_cases asked : index < taken
  · rw [if_pos asked, if_pos asked, if_pos (by omega), Nat.add_assoc]
  · rw [if_neg asked, if_neg asked]

theorem window_congr {memory memory' : List Cell} {start count : Nat}
    (same : ∀ place, start ≤ place → place < start + count → memory[place]? = memory'[place]?) :
    window memory start count = window memory' start count := by
  apply List.ext_getElem?
  intro index
  rw [getElem?_window, getElem?_window]
  by_cases inside : index < count
  · rw [if_pos inside, if_pos inside, same _ (Nat.le_add_right _ _) (Nat.add_lt_add_left inside _)]
  · rw [if_neg inside, if_neg inside]

end Mpd.Region
