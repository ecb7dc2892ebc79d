import Mathlib.Data.List.TakeWhile
import Mpd.Bytes

/-! Strings of C in memory: a NUL ends them, and `strncpy` and `strlcpy` copy them. -/

set_option autoImplicit false

namespace Mpd.CString

/-- The string at the beginning of the memory. -/
def content (mem : Bytes) : Bytes := mem.takeWhile (· ≠ 0)

def Ends (tail : Bytes) : Prop := tail = [] ∨ ∃ later, tail = 0 :: later

theorem length_content_le (mem : Bytes) : (content mem).length ≤ mem.length :=
  (List.takeWhile_prefix _).length_le

theorem content_append {text tail : Bytes} (text_only : (0 : UInt8) ∉ text) (ends : Ends tail) :
    content (text ++ tail) = text := by
  have whole : ∀ c ∈ text, decide (c ≠ 0) = true := by
    intro c member
    simp only [ne_eq, decide_eq_true_eq]
    rintro rfl
    exact text_only member
  unfold content
  rw [List.takeWhile_append_of_pos whole]
  rcases ends with rfl | ⟨later, rfl⟩
  · simp
  · simp

theorem content_text {text : Bytes} (text_only : (0 : UInt8) ∉ text) : content text = text := by
  have found := content_append text_only (.inl rfl : Ends [])
  rwa [List.append_nil] at found

theorem ends_fill (later : Bytes) (count : Nat) : Ends ((0 :: later).take count) := by
  cases count with
  | zero => exact .inl rfl
  | succ count => exact .inr ⟨later.take count, rfl⟩

theorem not_mem_content (mem : Bytes) : (0 : UInt8) ∉ content mem := fun member =>
  absurd (List.mem_takeWhile_imp member) (by decide)

theorem content_take (mem : Bytes) (count : Nat) :
    content (mem.take count) = (content mem).take count :=
  (List.take_takeWhile ..).symm

theorem content_nul (front later : Bytes) : content (front ++ 0 :: later) = content front := by
  induction front with
  | nil => rfl
  | cons c front ih =>
      unfold content at ih ⊢
      rw [List.cons_append, List.takeWhile_cons, List.takeWhile_cons, ih]

theorem content_of_mem {front : Bytes} (nul : (0 : UInt8) ∈ front) (later : Bytes) :
    content (front ++ later) = content front := by
  obtain ⟨before, behind, rfl⟩ := List.append_of_mem nul
  rw [List.append_assoc, List.cons_append, content_nul, content_nul]

/-- `strncpy(dst, src, count)`, filled up with NULs. There is none behind a longer string. -/
def strncpy (dst src : Bytes) (count : Nat) : Bytes :=
  let str := content (src.take count)
  str ++ List.replicate (count - str.length) 0 ++ dst.drop count

def strlcpy (dst src : Bytes) (size : Nat) : Bytes :=
  let str := (content src).take (size - 1)
  str ++ 0 :: dst.drop (str.length + 1)

structure Holds (buf text : Bytes) : Prop where
  ended : (0 : UInt8) ∈ buf
  text : content buf = text

instance (buf text : Bytes) : Decidable (Holds buf text) :=
  decidable_of_iff ((0 : UInt8) ∈ buf ∧ content buf = text)
    ⟨fun both => ⟨both.1, both.2⟩, fun holds => ⟨holds.ended, holds.text⟩⟩

/-- A NUL that is written into an array cuts the string in it. -/
theorem holds_set {buf : Bytes} {place : Nat} (inside : place < buf.length) :
    Holds (buf.set place 0) ((content buf).take place) := by
  refine ⟨List.mem_set inside 0, ?_⟩
  have parts : buf.set place 0 = buf.take place ++ 0 :: buf.drop (place + 1) :=
    List.set_eq_take_append_cons_drop.trans (if_pos inside)
  rw [parts, content_nul, content_take]

theorem length_strncpy {dst : Bytes} (src : Bytes) {count : Nat} (room : count ≤ dst.length) :
    (strncpy dst src count).length = dst.length := by
  have short := length_content_le (src.take count)
  rw [List.length_take] at short
  simp only [strncpy, List.length_append, List.length_replicate, List.length_drop]
  omega

/-- What `strncpy` copies, cut at a place that it has reached. -/
theorem content_strncpy_take (dst src : Bytes) {count place : Nat} (reached : place ≤ count) :
    (content (strncpy dst src count)).take place = content (src.take place) := by
  have cut : content (src.take place) = (content (src.take count)).take place := by
    rw [← content_take, List.take_take, Nat.min_eq_left reached]
  rw [cut]
  unfold strncpy
  dsimp only
  have only := not_mem_content (src.take count)
  generalize content (src.take count) = str at only
  by_cases whole : count ≤ str.length
  · rw [Nat.sub_eq_zero_of_le whole, List.replicate_zero, List.append_nil, ← content_take,
      List.take_append_of_le_length (Nat.le_trans reached whole)]
    exact content_text fun member => only (List.mem_of_mem_take member)
  · obtain ⟨more, some⟩ := Nat.exists_eq_succ_of_ne_zero (Nat.sub_ne_zero_of_lt
      (Nat.lt_of_not_le whole))
    rw [some, List.replicate_succ, List.append_assoc, List.cons_append,
      content_append only (.inr ⟨_, rfl⟩)]

theorem strncpy_whole (dst src : Bytes) (count : Nat) (fills : dst.length ≤ count) :
    content (strncpy dst src count) = content (src.take count) ∧
      ((0 : UInt8) ∈ strncpy dst src count ↔ (content (src.take count)).length < count) := by
  have only := not_mem_content (src.take count)
  unfold strncpy
  dsimp only
  rw [List.drop_of_length_le fills, List.append_nil]
  constructor
  · refine content_append only ?_
    cases count - (content (src.take count)).length with
    | zero => exact .inl rfl
    | succ more => exact .inr ⟨_, rfl⟩
  · simp only [List.mem_append, only, false_or, List.mem_replicate, and_true]
    omega

theorem length_strlcpy (dst src : Bytes) : dst ≠ [] →
    (strlcpy dst src dst.length).length = dst.length := by
  intro room
  have positive := List.length_pos_iff.mpr room
  simp only [strlcpy, List.length_append, List.length_take, List.length_cons, List.length_drop]
  omega

theorem holds_strlcpy (dst src : Bytes) (size : Nat) :
    Holds (strlcpy dst src size) ((content src).take (size - 1)) := by
  have only : (0 : UInt8) ∉ (content src).take (size - 1) := fun member =>
    not_mem_content src (List.mem_of_mem_take member)
  exact ⟨by simp [strlcpy], content_append only (.inr ⟨_, rfl⟩)⟩

end Mpd.CString
