import Mathlib.Algebra.Group.Int.Defs
import Mathlib.Algebra.Group.Nat.Defs
import Mathlib.Data.List.TakeWhile
import Mpd.Bytes

/-! Functions of the C library that cut strings and read numbers. -/

set_option autoImplicit false

namespace Mpd.Strings

def strsep (delim : UInt8) (text : Bytes) : Bytes × Option Bytes :=
  let token := text.takeWhile (· != delim)
  (token, if token.length < text.length then some (text.drop (token.length + 1)) else none)

/-- `isspace` in the C locale. -/
def isSpace (c : UInt8) : Bool := c = 32 || 9 ≤ c && c ≤ 13

def isDigit (c : UInt8) : Bool := 48 ≤ c && c ≤ 57

def numeral (digits : Bytes) : Nat := digits.foldl (fun n c => n * 10 + (c.toNat - 48)) 0

def decimal (text : Bytes) : Int :=
  let text := text.dropWhile isSpace
  let sign := text.headD 0
  let digits := (if sign = 45 ∨ sign = 43 then text.tail else text).takeWhile isDigit
  if sign = 45 then -(numeral digits : Int) else numeral digits

/-- `atol` has 64 bits and stays within them. -/
def atol (text : Bytes) : Int := max (-2 ^ 63) (min (2 ^ 63 - 1) (decimal text))

def int (value : Int) : Int := Int.bmod value (2 ^ 32)

/-- A number that has 31 bits comes through `atol` and an `int`. -/
theorem int_atol {text : Bytes} (low : 0 ≤ decimal text) (high : decimal text < 2 ^ 31) :
    int (atol text) = decimal text := by
  have same : max (-2 ^ 63) (min (2 ^ 63 - 1) (decimal text)) = decimal text := by omega
  unfold int atol
  rw [same]
  exact Int.bmod_eq_of_le (by omega) (by omega)

theorem bne_of_not_mem {delim : UInt8} {text : Bytes} (clean : delim ∉ text) :
    ∀ c ∈ text, (c != delim) = true := by
  intro c found
  apply bne_iff_ne.mpr
  rintro rfl
  exact clean found

theorem takeWhile_clean {delim : UInt8} {text : Bytes} (clean : delim ∉ text) :
    text.takeWhile (· != delim) = text :=
  List.takeWhile_eq_self_iff.mpr (bne_of_not_mem clean)

theorem takeWhile_token {delim : UInt8} {token : Bytes} (clean : delim ∉ token) (rest : Bytes) :
    (token ++ delim :: rest).takeWhile (· != delim) = token := by
  rw [List.takeWhile_append_of_pos (bne_of_not_mem clean), List.takeWhile_cons_of_neg (by simp),
    List.append_nil]

theorem strsep_of_not_mem {delim : UInt8} {text : Bytes} (none : delim ∉ text) :
    strsep delim text = (text, Option.none) := by
  unfold strsep
  rw [takeWhile_clean none]
  dsimp only
  rw [if_neg (Nat.lt_irrefl _)]

theorem strsep_append {delim : UInt8} {token : Bytes} (clean : delim ∉ token) (rest : Bytes) :
    strsep delim (token ++ delim :: rest) = (token, some rest) := by
  unfold strsep
  rw [takeWhile_token clean]
  dsimp only
  rw [if_pos (by simp), List.drop_length_add_append]
  rfl

/-- What has no delimiter belongs to the token. -/
theorem strsep_front {delim : UInt8} {front : Bytes} (clean : delim ∉ front) (text : Bytes) :
    strsep delim (front ++ text) = (front ++ (strsep delim text).1, (strsep delim text).2) := by
  unfold strsep
  rw [List.takeWhile_append_of_pos (bne_of_not_mem clean)]
  simp only [List.length_append, Nat.add_lt_add_iff_left, Nat.add_assoc]
  rw [List.drop_length_add_append]

/-- A text has no delimiter, or it is a token, a delimiter and a rest. -/
theorem strsep_cases (delim : UInt8) (text : Bytes) :
    delim ∉ text ∨ ∃ token rest, text = token ++ delim :: rest ∧ delim ∉ token := by
  by_cases found : delim ∈ text
  · exact .inr (List.eq_append_cons_of_mem found)
  · exact .inl found

end Mpd.Strings
