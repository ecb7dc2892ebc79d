import Mpd.CString

/-! `ParseLine` and `Escape` of `util.c`, on the memory that they rewrite, and what the
escapes should stand for. -/

set_option autoImplicit false

namespace Mpd.ParseLine

open CString

def quote : UInt8 := 34
def backslash : UInt8 := 92
def letterX : UInt8 := 120

/-- The macro `isspace` of `util.c`. -/
def isSpace (c : UInt8) : Bool := c = 32 || c = 9 || c = 10 || c = 13

def isOctal (c : UInt8) : Bool := 48 ≤ c && c ≤ 55

def isXdigit (c : UInt8) : Bool :=
  48 ≤ c && c ≤ 57 || 65 ≤ c && c ≤ 70 || 97 ≤ c && c ≤ 102

def xdigit (c : UInt8) : UInt8 :=
  if 48 ≤ c && c ≤ 57 then c - 48 else if 65 ≤ c && c ≤ 70 then c - 65 + 10 else c - 97 + 10

/-- The byte that is left of a number. -/
def octalValue (digits : Bytes) : UInt8 := digits.foldl (fun x c => (x <<< 3) + (c - 48)) 0

def hexValue (digits : Bytes) : UInt8 := digits.foldl (fun x c => (x <<< 4) + xdigit c) 0

/-- `strcpy(p, p + count)`, byte by byte from the front. The memory ends with a NUL that is not
listed. -/
def copyForward (mem : Bytes) (count : Nat) : Bytes :=
  let str := content (mem.drop count)
  str ++ (0 :: mem.drop (str.length + 1)).take (mem.length - str.length)

theorem length_copyForward (mem : Bytes) (count : Nat) :
    (copyForward mem count).length = mem.length := by
  have short := length_content_le (mem.drop count)
  simp only [List.length_drop] at short
  simp only [copyForward, List.length_append, List.length_take, List.length_cons, List.length_drop]
  omega

/-- What `strcpy(p, p + count)` makes of the memory at `p` where the two strings overlap. C leaves
that undefined, and `none` is anything that is no such memory. -/
structure Overlap where
  copy : Bytes → Nat → Option Bytes
  length_copy : ∀ {mem count mem'}, copy mem count = some mem' → mem'.length = mem.length

/-- The strings are copied as those that do not overlap are. -/
def Overlap.forward : Overlap where
  copy mem count := some (copyForward mem count)
  length_copy copied := by
    cases copied
    exact length_copyForward _ _

/-- Nothing is known of the memory. -/
def Overlap.fault : Overlap where
  copy _ _ := none
  length_copy := nofun

/-- `strcpy(p, p + count)`. The strings overlap unless the NUL behind the second one is in front
of its beginning. -/
def strcpyFrom (overlap : Overlap) (mem : Bytes) (count : Nat) : Option Bytes :=
  if count ≤ (content (mem.drop count)).length then overlap.copy mem count
  else some (copyForward mem count)

def letter? (c : UInt8) : Option UInt8 :=
  if c = 116 then some 9 else if c = 110 then some 10 else if c = 114 then some 13
  else if c = 115 then some 32 else if c = quote then some quote else none

/-- `Escape`. The counter `k` of its loops over digits is never increased. -/
def escape (overlap : Overlap) (mem : Bytes) : Option Bytes :=
  match mem with
  | [] => some []
  | c :: rest =>
      match letter? c with
      | some x => some (x :: rest)
      | none =>
          if isOctal c then
            let digits := mem.takeWhile isOctal
            strcpyFrom overlap (mem.set (digits.length - 1) (octalValue digits)) (digits.length - 1)
          else if c = letterX then
            let digits := rest.takeWhile isXdigit
            strcpyFrom overlap (mem.set digits.length (hexValue digits)) digits.length
          else some mem

section Lengths

variable {overlap : Overlap} {mem mem' : Bytes}

theorem length_strcpyFrom {count : Nat} (copied : strcpyFrom overlap mem count = some mem') :
    mem'.length = mem.length := by
  unfold strcpyFrom at copied
  split_ifs at copied
  · exact overlap.length_copy copied
  · cases copied
    exact length_copyForward mem count

theorem length_escape (escaped : escape overlap mem = some mem') : mem'.length = mem.length := by
  unfold escape at escaped
  split at escaped
  · cases escaped
    rfl
  · split at escaped
    · cases escaped
      rfl
    · split_ifs at escaped
      · rw [length_strcpyFrom escaped, List.length_set]
      · rw [length_strcpyFrom escaped, List.length_set]
      · cases escaped
        rfl

/-- What a loop over an argument makes of the memory in front of it, where there is a
character: an escape takes the place of a backslash. In quotes one in front of the end stays. -/
def rewrite (overlap : Overlap) (quoted : Bool) (mem : Bytes) : Option Bytes :=
  if mem.headD 0 = backslash ∧ (quoted → mem.getD 1 0 ≠ 0) then
    (strcpyFrom overlap mem 1).bind (escape overlap)
  else some mem

theorem length_rewrite {quoted : Bool} (rewritten : rewrite overlap quoted mem = some mem') :
    mem'.length = mem.length := by
  unfold rewrite at rewritten
  split_ifs at rewritten
  · obtain ⟨moved, copied, escaped⟩ := Option.bind_eq_some_iff.mp rewritten
    rw [length_escape escaped, length_strcpyFrom copied]
  · cases rewritten
    rfl

end Lengths

/-- The loop over an argument: the characters that it passes, and the memory that is left. In
quotes it stops behind a quote. -/
def convert (overlap : Overlap) (quoted : Bool) (mem : Bytes) : Option (Bytes × Bytes) :=
  match mem with
  | [] => some ([], [])
  | c :: rest =>
      if c = 0 then some ([], c :: rest)
      else if quoted ∧ c = quote then some ([], rest)
      else
        match _ : rewrite overlap quoted (c :: rest) with
        | none => none
        | some mem =>
            (convert overlap quoted mem.tail).map fun later => (mem.headD 0 :: later.1, later.2)
  termination_by mem.length
  decreasing_by
    rw [List.length_tail, length_rewrite ‹_›, List.length_cons]
    omega

/-- `ParseLine`, with the arguments that it returns. -/
def parseLine (overlap : Overlap) : Nat → Bytes → Option (List Bytes)
  | 0, _ => some []
  | max_args + 1, line =>
      let line := line.dropWhile isSpace
      match line with
      | [] => some []
      | c :: rest =>
          if c = 0 then some []
          else if c = quote then
            (convert overlap true rest).bind fun converted =>
              (parseLine overlap max_args converted.2).map (content converted.1 :: ·)
          else
            let arg := (c :: rest).takeWhile fun c => c ≠ 0 && !isSpace c
            let line := (c :: rest).drop arg.length
            let line := if line.headD 0 ≠ 0 then line.tail else line
            (convert overlap false arg).bind fun converted =>
              (parseLine overlap max_args line).map (content converted.1 :: ·)

/-- The byte that the escape behind a backslash should stand for, and what is left. Without
digits it stands for its letter. -/
def decode (c : UInt8) (rest : Bytes) : UInt8 × Bytes :=
  match letter? c with
  | some x => (x, rest)
  | none =>
      if isOctal c then
        let digits := ((c :: rest).takeWhile isOctal).take 3
        (octalValue digits, (c :: rest).drop digits.length)
      else if c = letterX then
        let digits := (rest.takeWhile isXdigit).take 2
        if digits = [] then (c, rest) else (hexValue digits, rest.drop digits.length)
      else (c, rest)

theorem length_decode (c : UInt8) (rest : Bytes) : (decode c rest).2.length ≤ rest.length := by
  unfold decode
  split
  · exact Nat.le_refl _
  · dsimp only
    split_ifs with octal
    · simp [octal]
    · exact Nat.le_refl _
    · simp
    · exact Nat.le_refl _

def argument (quoted : Bool) (text : Bytes) : Bytes × Bytes :=
  match text with
  | [] => ([], [])
  | [c] => if quoted ∧ c = quote then ([], []) else ([c], [])
  | c :: next :: rest =>
      if quoted ∧ c = quote then ([], next :: rest)
      else if c = backslash then
        let decoded := decode next rest
        let later := argument quoted decoded.2
        (decoded.1 :: later.1, later.2)
      else
        let later := argument quoted (next :: rest)
        (c :: later.1, later.2)
  termination_by text.length
  decreasing_by
    · have shorter := length_decode next rest
      simp only [List.length_cons]
      omega
    · simp

/-- The arguments of a line as documented, at most `max_args`. -/
def arguments : Nat → Bytes → List Bytes
  | 0, _ => []
  | max_args + 1, line =>
      match line.dropWhile isSpace with
      | [] => []
      | c :: rest =>
          if c = quote then
            let found := argument true rest
            found.1 :: arguments max_args found.2
          else
            let text := (c :: rest).takeWhile (!isSpace ·)
            (argument false text).1 :: arguments max_args (((c :: rest).drop text.length).tail)

/-- An escape has as many digits as it may, one at least, and is not the end of the string. -/
def WellFormed (c : UInt8) (rest : Bytes) : Prop :=
  if isOctal c then
    let digits := (c :: rest).takeWhile isOctal
    digits.length ≤ 3 ∧ octalValue digits ≠ 0
  else if c = letterX then
    let digits := rest.takeWhile isXdigit
    digits ≠ [] ∧ digits.length ≤ 2 ∧ hexValue digits ≠ 0
  else True

/-- All escapes of an argument are well formed. Outside of quotes it does not end in a lone
backslash. -/
def Clean (quoted : Bool) (text : Bytes) : Prop :=
  match text with
  | [] => True
  | [c] => quoted ∨ c ≠ backslash
  | c :: next :: rest =>
      if quoted ∧ c = quote then True
      else if c = backslash then WellFormed next rest ∧ Clean quoted (decode next rest).2
      else Clean quoted (next :: rest)
  termination_by text.length
  decreasing_by
    · have shorter := length_decode next rest
      simp only [List.length_cons]
      omega
    · simp

/-- An argument has no backslash, but in quotes that are not closed it may end in one. -/
def Unescaped (quoted : Bool) : Bytes → Prop
  | [] => True
  | [c] => quoted ∨ c ≠ backslash
  | c :: next :: rest =>
      if quoted ∧ c = quote then True else c ≠ backslash ∧ Unescaped quoted (next :: rest)

/-- Each argument that is returned is good. -/
def EachArgument (good : Bool → Bytes → Prop) : Nat → Bytes → Prop
  | 0, _ => True
  | max_args + 1, line =>
      match line.dropWhile isSpace with
      | [] => True
      | c :: rest =>
          if c = quote then good true rest ∧ EachArgument good max_args (argument true rest).2
          else
            let text := (c :: rest).takeWhile (!isSpace ·)
            good false text ∧ EachArgument good max_args (((c :: rest).drop text.length).tail)

section Strings

theorem strcpyFrom_forward (mem : Bytes) (count : Nat) :
    strcpyFrom .forward mem count = some (copyForward mem count) := ite_self _

theorem copyForward_text {front text tail : Bytes} (text_only : (0 : UInt8) ∉ text)
    (ends : Ends tail) :
    ∃ tail', copyForward (front ++ (text ++ tail)) front.length = text ++ tail' ∧ Ends tail' := by
  have str : content ((front ++ (text ++ tail)).drop front.length) = text := by
    rw [List.drop_left]
    exact content_append text_only ends
  unfold copyForward
  rw [str]
  exact ⟨_, rfl, ends_fill _ _⟩

end Strings

section Escapes

/-- The value of a number in the place of its last digit, and the rest behind it. -/
theorem copyForward_number {digits rest tail : Bytes} {x : UInt8} (there : digits ≠ [])
    (nonzero : x ≠ 0) (text_only : (0 : UInt8) ∉ rest) (ends : Ends tail) :
    ∃ tail', copyForward ((digits ++ (rest ++ tail)).set (digits.length - 1) x) (digits.length - 1) =
      x :: rest ++ tail' ∧ Ends tail' := by
  obtain ⟨front, last, rfl⟩ : ∃ front last, digits = front ++ [last] :=
    ⟨digits.dropLast, digits.getLast there, (List.dropLast_append_getLast there).symm⟩
  have place : (front ++ [last]).length - 1 = front.length := by simp
  have written : (front ++ [last] ++ (rest ++ tail)).set front.length x =
      front ++ (x :: rest ++ tail) := by
    simp
  rw [place, written]
  refine copyForward_text ?_ ends
  simp [nonzero.symm, text_only]

theorem copyForward_zero {mem : Bytes} {place : Nat} (inside : place < mem.length) :
    (copyForward (mem.set place 0) place).head? = some 0 := by
  have empty : content ((mem.set place 0).drop place) = [] := by
    rw [List.drop_eq_getElem_cons (by simpa using inside)]
    simp [content]
  unfold copyForward
  rw [empty]
  have size : mem.length = mem.length - 1 + 1 := by omega
  simp only [List.length_nil, List.length_set, Nat.sub_zero, List.nil_append]
  rw [size]
  rfl

/-- What `Escape` decodes, and what it leaves: it takes every digit that there is. -/
def consumed (c : UInt8) (rest : Bytes) : UInt8 × Bytes :=
  match letter? c with
  | some x => (x, rest)
  | none =>
      if isOctal c then
        let digits := (c :: rest).takeWhile isOctal
        (octalValue digits, (c :: rest).drop digits.length)
      else if c = letterX then
        let digits := rest.takeWhile isXdigit
        (hexValue digits, rest.drop digits.length)
      else (c, rest)

theorem takeWhile_ends {p : UInt8 → Bool} (stops : p 0 = false) (text : Bytes) {tail : Bytes}
    (ends : Ends tail) : (text ++ tail).takeWhile p = text.takeWhile p := by
  induction text with
  | nil =>
      rcases ends with rfl | ⟨later, rfl⟩
      · rfl
      · simp [stops]
  | cons c text ih =>
      rw [List.cons_append, List.takeWhile_cons, List.takeWhile_cons, ih]

theorem takeWhile_append_drop (p : UInt8 → Bool) (text : Bytes) :
    text.takeWhile p ++ text.drop (text.takeWhile p).length = text :=
  List.prefix_iff_eq_append.mp (List.takeWhile_prefix p)

/-- A number of which something is left is written in the place of its digits, and one of
which nothing is left ends the string. -/
theorem copyForward_digits {digits rest tail : Bytes} (x : UInt8) (there : digits ≠ [])
    (text_only : (0 : UInt8) ∉ rest) (ends : Ends tail) :
    let mem := copyForward ((digits ++ (rest ++ tail)).set (digits.length - 1) x) (digits.length - 1)
    (x ≠ 0 → ∃ tail', mem = x :: rest ++ tail' ∧ Ends tail') ∧ (x = 0 → mem.head? = some 0) := by
  refine ⟨fun nonzero => copyForward_number there nonzero text_only ends, ?_⟩
  rintro rfl
  refine copyForward_zero ?_
  have positive := List.length_pos_iff.mpr there
  rw [List.length_append]
  omega

theorem consumed_suffix (c : UInt8) (rest : Bytes) : (consumed c rest).2 <:+ rest := by
  unfold consumed
  split
  · exact List.suffix_refl rest
  · dsimp only
    split_ifs with octal
    · rw [List.takeWhile_cons_of_pos octal, List.length_cons, List.drop_succ_cons]
      exact List.drop_suffix _ rest
    · exact List.drop_suffix _ rest
    · exact List.suffix_refl rest

theorem escape_text {c : UInt8} {rest tail : Bytes} (text_only : (0 : UInt8) ∉ c :: rest)
    (ends : Ends tail) :
    ∃ mem, escape .forward (c :: rest ++ tail) = some mem ∧
      ((consumed c rest).1 ≠ 0 →
        ∃ tail', mem = (consumed c rest).1 :: (consumed c rest).2 ++ tail' ∧ Ends tail') ∧
      ((consumed c rest).1 = 0 → mem.head? = some 0) := by
  have rest_only : ∀ count, (0 : UInt8) ∉ rest.drop count := fun count member =>
    text_only (List.mem_cons_of_mem c (List.mem_of_mem_drop member))
  have nonzero : c ≠ 0 := fun zero => text_only (zero ▸ List.mem_cons_self)
  cases letter : letter? c with
  | some x =>
      have positive : x ≠ 0 := by
        unfold letter? at letter
        split_ifs at letter <;> cases letter <;> decide
      simp only [consumed, escape, List.cons_append, letter]
      exact ⟨_, rfl, fun _ => ⟨tail, rfl, ends⟩, fun zero => absurd zero positive⟩
  | none =>
      by_cases octal : isOctal c = true
      · have run : (c :: (rest ++ tail)).takeWhile isOctal = (c :: rest).takeWhile isOctal :=
          takeWhile_ends (by decide) (c :: rest) ends
        have split := takeWhile_append_drop isOctal (c :: rest)
        have first : (c :: rest).takeWhile isOctal ≠ [] := by simp [octal]
        have only : (0 : UInt8) ∉ (c :: rest).drop ((c :: rest).takeWhile isOctal).length :=
          fun member => text_only (List.mem_of_mem_drop member)
        have digits := copyForward_digits (octalValue ((c :: rest).takeWhile isOctal)) first only ends
        rw [← List.append_assoc, split] at digits
        simp only [consumed, escape, List.cons_append, letter, octal, if_true, run]
        exact ⟨_, strcpyFrom_forward _ _, digits⟩
      · by_cases hex : c = letterX
        · have run : (rest ++ tail).takeWhile isXdigit = rest.takeWhile isXdigit :=
            takeWhile_ends (by decide) rest ends
          have split := takeWhile_append_drop isXdigit rest
          have digits := @copyForward_digits (c :: rest.takeWhile isXdigit) _ _
            (hexValue (rest.takeWhile isXdigit)) (by simp)
            (rest_only (rest.takeWhile isXdigit).length) ends
          rw [← List.append_assoc, List.cons_append, split, List.length_cons,
            Nat.add_sub_cancel] at digits
          subst hex
          simp only [consumed, escape, List.cons_append, letter, run]
          exact ⟨_, strcpyFrom_forward _ _, digits⟩
        · simp only [consumed, escape, List.cons_append, letter, octal, hex, Bool.false_eq_true,
            if_false]
          exact ⟨_, rfl, fun _ => ⟨tail, rfl, ends⟩, fun zero => absurd zero nonzero⟩

theorem consumed_of_wellFormed {c : UInt8} {rest : Bytes} (nonzero : c ≠ 0)
    (well : WellFormed c rest) : consumed c rest = decode c rest ∧ (consumed c rest).1 ≠ 0 := by
  cases letter : letter? c with
  | some x =>
      have positive : x ≠ 0 := by
        unfold letter? at letter
        split_ifs at letter <;> cases letter <;> decide
      simp only [consumed, decode, letter]
      exact ⟨trivial, positive⟩
  | none =>
      unfold WellFormed at well
      by_cases octal : isOctal c = true
      · rw [if_pos octal] at well
        obtain ⟨few, positive⟩ := well
        simp only [consumed, decode, letter, octal, if_true, List.take_of_length_le few]
        exact ⟨trivial, positive⟩
      · rw [if_neg octal] at well
        by_cases hex : c = letterX
        · rw [if_pos hex] at well
          obtain ⟨there, few, positive⟩ := well
          subst hex
          simp only [consumed, decode, letter, List.take_of_length_le few, if_neg there]
          exact ⟨rfl, positive⟩
        · simp only [consumed, decode, letter, octal, hex, Bool.false_eq_true, if_false]
          exact ⟨trivial, nonzero⟩

/-- Digits are nothing else to `ParseLine`. -/
def Plain (c : UInt8) : Prop := c ≠ 0 ∧ c ≠ backslash ∧ c ≠ quote

theorem plain_of_xdigit {c : UInt8} (digit : isXdigit c = true) : Plain c := by
  refine ⟨?_, ?_, ?_⟩
  · rintro rfl
    exact absurd digit (by decide)
  · rintro rfl
    exact absurd digit (by decide)
  · rintro rfl
    exact absurd digit (by decide)

theorem xdigit_of_octal {c : UInt8} (digit : isOctal c = true) : isXdigit c = true := by
  simp only [isOctal, Bool.and_eq_true, decide_eq_true_eq] at digit
  have low : 48 ≤ c ∧ c ≤ 57 := ⟨digit.1, UInt8.le_trans digit.2 (by decide)⟩
  simp [isXdigit, low]

theorem drop_takeWhile (p : UInt8 → Bool) (text : Bytes) {count : Nat}
    (many : count ≤ (text.takeWhile p).length) :
    text.drop ((text.takeWhile p).take count).length =
      (text.takeWhile p).drop count ++ text.drop (text.takeWhile p).length := by
  rw [List.length_take, Nat.min_eq_left many]
  conv_lhs => rw [← takeWhile_append_drop p text]
  exact List.drop_append_of_le_length many

theorem consumed_of_not_wellFormed {c : UInt8} {rest : Bytes} (bad : ¬ WellFormed c rest) :
    (consumed c rest).1 = 0 ∨ ∃ extra, extra ≠ [] ∧ (∀ digit ∈ extra, Plain digit) ∧
      (decode c rest).2 = extra ++ (consumed c rest).2 := by
  cases letter : letter? c with
  | some x =>
      refine absurd ?_ bad
      unfold letter? at letter
      split_ifs at letter with t n r s q
      all_goals subst_vars; exact trivial
  | none =>
      unfold WellFormed at bad
      by_cases octal : isOctal c = true
      · rw [if_pos octal] at bad
        by_cases zero : octalValue ((c :: rest).takeWhile isOctal) = 0
        · refine .inl ?_
          simp only [consumed, letter, octal, if_true]
          exact zero
        · have many : 3 < ((c :: rest).takeWhile isOctal).length :=
            Nat.lt_of_not_le fun few => bad ⟨few, zero⟩
          refine .inr ⟨((c :: rest).takeWhile isOctal).drop 3, ?_, ?_, ?_⟩
          · exact List.drop_eq_nil_iff.not.mpr (Nat.not_le.mpr many)
          · intro digit member
            exact plain_of_xdigit (xdigit_of_octal
              (List.mem_takeWhile_imp (List.mem_of_mem_drop member)))
          · simp only [decode, consumed, letter, octal, if_true]
            exact drop_takeWhile isOctal (c :: rest) (Nat.le_of_lt many)
      · rw [if_neg octal] at bad
        by_cases hex : c = letterX
        · rw [if_pos hex] at bad
          subst hex
          by_cases zero : hexValue (rest.takeWhile isXdigit) = 0
          · refine .inl ?_
            simp only [consumed, letter]
            exact zero
          · have there : rest.takeWhile isXdigit ≠ [] := by
              intro none
              rw [none] at zero
              exact zero rfl
            have many : 2 < (rest.takeWhile isXdigit).length :=
              Nat.lt_of_not_le fun few => bad ⟨there, few, zero⟩
            have found : (rest.takeWhile isXdigit).take 2 ≠ [] := by simp [there]
            refine .inr ⟨(rest.takeWhile isXdigit).drop 2, ?_, ?_, ?_⟩
            · exact List.drop_eq_nil_iff.not.mpr (Nat.not_le.mpr many)
            · intro digit member
              exact plain_of_xdigit (List.mem_takeWhile_imp (List.mem_of_mem_drop member))
            · simp only [decode, consumed, letter, if_neg found]
              exact drop_takeWhile isXdigit rest (Nat.le_of_lt many)
        · rw [if_neg hex] at bad
          exact absurd trivial bad

end Escapes

section Arguments

variable {quoted : Bool}

theorem argument_plain {c : UInt8} (ordinary : c ≠ backslash) (goes_on : ¬ (quoted ∧ c = quote))
    (rest : Bytes) : argument quoted (c :: rest) =
      (c :: (argument quoted rest).1, (argument quoted rest).2) := by
  cases rest with
  | nil => simp [argument, goes_on]
  | cons next rest =>
      rw [argument, if_neg goes_on, if_neg ordinary]

theorem clean_plain {c : UInt8} (ordinary : c ≠ backslash) (goes_on : ¬ (quoted ∧ c = quote))
    (rest : Bytes) : Clean quoted (c :: rest) ↔ Clean quoted rest := by
  cases rest with
  | nil => simp [Clean, ordinary]
  | cons next rest =>
      rw [Clean, if_neg goes_on, if_neg ordinary]

theorem length_argument_append {extra : Bytes} (plain : ∀ digit ∈ extra, Plain digit) (rest : Bytes) :
    (argument quoted (extra ++ rest)).1.length = extra.length + (argument quoted rest).1.length := by
  induction extra with
  | nil => simp
  | cons digit extra ih =>
      obtain ⟨-, ordinary, no_quote⟩ := plain digit List.mem_cons_self
      rw [List.cons_append, argument_plain ordinary (fun both => no_quote both.2), List.length_cons,
        ih (fun digit member => plain digit (List.mem_cons_of_mem _ member)), List.length_cons]
      omega

theorem convert_ends (overlap : Overlap) {tail : Bytes} (ends : Ends tail) :
    convert overlap quoted tail = some ([], tail) := by
  rcases ends with rfl | ⟨later, rfl⟩
  · rw [convert]
  · rw [convert, if_pos rfl]

theorem convert_rewrite (overlap : Overlap) {c : UInt8} (nonzero : c ≠ 0)
    (goes_on : ¬ (quoted ∧ c = quote)) (rest : Bytes) :
    convert overlap quoted (c :: rest) = (rewrite overlap quoted (c :: rest)).bind fun mem =>
      (convert overlap quoted mem.tail).map fun later => (mem.headD 0 :: later.1, later.2) := by
  rw [convert, if_neg nonzero, if_neg goes_on]
  split
  · rename_i failed
    rw [failed]
    rfl
  · rename_i mem done
    rw [done]
    rfl

theorem convert_cons {overlap : Overlap} {c : UInt8} (nonzero : c ≠ 0)
    (goes_on : ¬ (quoted ∧ c = quote)) {rest : Bytes} {c' : UInt8} {mem' : Bytes}
    (rewritten : rewrite overlap quoted (c :: rest) = some (c' :: mem')) :
    convert overlap quoted (c :: rest) =
      (convert overlap quoted mem').map fun later => (c' :: later.1, later.2) := by
  rw [convert_rewrite overlap nonzero goes_on, rewritten]
  rfl

theorem escape_forward (mem : Bytes) : ∃ mem', escape .forward mem = some mem' := by
  unfold escape
  split
  · exact ⟨_, rfl⟩
  · split
    · exact ⟨_, rfl⟩
    · split_ifs
      · exact ⟨_, strcpyFrom_forward _ _⟩
      · exact ⟨_, strcpyFrom_forward _ _⟩
      · exact ⟨_, rfl⟩

theorem rewrite_forward (quoted : Bool) (mem : Bytes) :
    ∃ mem', rewrite .forward quoted mem = some mem' := by
  unfold rewrite
  split_ifs
  · rw [strcpyFrom_forward]
    exact escape_forward _
  · exact ⟨_, rfl⟩

/-- A forward copy can always be made. -/
theorem convert_forward (mem : Bytes) :
    ∃ converted, convert .forward quoted mem = some converted := by
  induction size : mem.length using Nat.strong_induction_on generalizing mem with
  | h size' ih =>
      cases mem with
      | nil => exact ⟨_, convert_ends .forward (.inl rfl)⟩
      | cons c rest =>
          by_cases zero : c = 0
          · exact ⟨_, convert_ends .forward (.inr ⟨rest, by rw [zero]⟩)⟩
          · by_cases stop : quoted ∧ c = quote
            · rw [convert, if_neg zero, if_pos stop]
              exact ⟨_, rfl⟩
            · obtain ⟨mem', rewritten⟩ := rewrite_forward quoted (c :: rest)
              have same := length_rewrite rewritten
              rw [List.length_cons] at same size
              have shorter : mem'.tail.length < size' := by
                rw [List.length_tail]
                omega
              obtain ⟨later, converted⟩ := ih _ shorter mem'.tail rfl
              rw [convert_rewrite .forward zero stop, rewritten, Option.bind_some, converted]
              exact ⟨_, rfl⟩

theorem rewrite_plain (overlap : Overlap) {c : UInt8} (ordinary : c ≠ backslash) (mem : Bytes) :
    rewrite overlap quoted (c :: mem) = some (c :: mem) :=
  if_neg fun both => ordinary both.1

/-- In quotes a backslash at the end of the line stays. -/
theorem rewrite_last (overlap : Overlap) {tail : Bytes} (ends : Ends tail) :
    rewrite overlap true (backslash :: tail) = some (backslash :: tail) := by
  have stop : (backslash :: tail).getD 1 0 = 0 := by
    rcases ends with rfl | ⟨later, rfl⟩ <;> rfl
  exact if_neg fun both => both.2 rfl stop

theorem rewrite_escape {c : UInt8} {rest tail : Bytes} (text_only : (0 : UInt8) ∉ c :: rest)
    (ends : Ends tail) :
    ∃ tail', rewrite .forward quoted (backslash :: (c :: rest ++ tail)) =
        escape .forward (c :: rest ++ tail') ∧ Ends tail' := by
  obtain ⟨tail', moved, ends'⟩ := @copyForward_text [backslash] _ _ text_only ends
  refine ⟨tail', ?_, ends'⟩
  have nonzero : c ≠ 0 := fun zero => text_only (zero ▸ List.mem_cons_self)
  unfold rewrite
  rw [if_pos ⟨rfl, fun _ => nonzero⟩, strcpyFrom_forward]
  exact congrArg (escape .forward) moved

/-- What a forward copy makes of an argument, with whatever stands behind the line: if it is
clean what is documented, and fewer characters otherwise. -/
structure Converts (quoted : Bool) (text tail : Bytes) (converted : Bytes × Bytes) : Prop where
  done : convert .forward quoted (text ++ tail) = some converted
  right : Clean quoted text → ∃ tail',
    converted = ((argument quoted text).1, (argument quoted text).2 ++ tail') ∧ Ends tail' ∧
      (0 : UInt8) ∉ (argument quoted text).1 ∧ (0 : UInt8) ∉ (argument quoted text).2
  short : ¬ Clean quoted text →
    (content converted.1).length < (argument quoted text).1.length

theorem Converts.length_le {text tail : Bytes} {converted : Bytes × Bytes}
    (converts : Converts quoted text tail converted) :
    (content converted.1).length ≤ (argument quoted text).1.length := by
  by_cases clean : Clean quoted text
  · obtain ⟨tail', converted, -, only, -⟩ := converts.right clean
    rw [converted, content_text only]
  · exact Nat.le_of_lt (converts.short clean)

theorem Converts.atQuote (rest tail : Bytes) (text_only : (0 : UInt8) ∉ rest) (ends : Ends tail) :
    Converts true (quote :: rest) tail ([], rest ++ tail) := by
  have found : argument true (quote :: rest) = ([], rest) := by
    cases rest <;> simp [argument]
  have clean : Clean true (quote :: rest) := by
    cases rest <;> simp [Clean]
  refine ⟨?_, fun _ => ⟨tail, ?_, ends, ?_, ?_⟩, fun bad => absurd clean bad⟩
  · rw [List.cons_append, convert, if_neg (by decide), if_pos ⟨rfl, rfl⟩]
  · rw [found]
  · rw [found]
    exact List.not_mem_nil
  · rw [found]
    exact text_only

theorem Converts.plain {c : UInt8} (ordinary : c ≠ backslash) (goes_on : ¬ (quoted ∧ c = quote))
    (nonzero : c ≠ 0) {rest tail : Bytes} {later : Bytes × Bytes}
    (converts : Converts quoted rest tail later) :
    Converts quoted (c :: rest) tail (c :: later.1, later.2) := by
  have found := argument_plain ordinary goes_on rest
  refine ⟨?_, ?_, ?_⟩
  · rw [List.cons_append,
      convert_cons nonzero goes_on (rewrite_plain .forward ordinary (rest ++ tail)), converts.done]
    rfl
  · intro clean
    obtain ⟨tail', same, ends, only, rest_only⟩ :=
      converts.right ((clean_plain ordinary goes_on rest).mp clean)
    refine ⟨tail', ?_, ends, ?_, ?_⟩
    · rw [same, found]
    · rw [found]
      simp [nonzero.symm, only]
    · rw [found]
      exact rest_only
  · intro bad
    have shorter := converts.short fun clean => bad ((clean_plain ordinary goes_on rest).mpr clean)
    have head : content (c :: later.1) = c :: content later.1 := by simp [content, nonzero]
    rw [found, head, List.length_cons, List.length_cons]
    omega

theorem Converts.lone {tail : Bytes} (ends : Ends tail) :
    ∃ converted, Converts quoted [backslash] tail converted := by
  have found : argument quoted [backslash] = ([backslash], []) := by
    cases quoted <;> simp [argument, backslash, quote]
  have goes_on : ¬ (quoted ∧ backslash = quote) := fun both => absurd both.2 (by decide)
  cases quoted with
  | true =>
      have converted := convert_cons (by decide) goes_on (rewrite_last .forward ends)
      rw [convert_ends .forward ends] at converted
      refine ⟨_, converted, fun _ => ⟨tail, ?_, ends, ?_, ?_⟩, fun bad => absurd (by simp [Clean]) bad⟩
      · rw [found, List.nil_append]
      · rw [found]
        decide
      · rw [found]
        exact List.not_mem_nil
  | false =>
      obtain ⟨tail', moved, ends'⟩ := @copyForward_text [backslash] [] _
        List.not_mem_nil ends
      have size := length_copyForward ([backslash] ++ ([] ++ tail)) [backslash].length
      rw [moved] at size
      have rewritten : rewrite .forward false (backslash :: tail) = escape .forward tail' := by
        unfold rewrite
        rw [if_pos ⟨rfl, nofun⟩, strcpyFrom_forward]
        exact congrArg (escape .forward) moved
      rcases ends' with rfl | ⟨later, rfl⟩
      · simp at size
      · have nul : escape .forward (0 :: later) = some (0 :: later) := by
          simp [escape, letter?, isOctal, letterX, quote]
        rw [nul] at rewritten
        obtain ⟨behind, converted⟩ := convert_forward later
        refine ⟨(0 :: behind.1, behind.2), ?_, fun clean => absurd clean (by simp [Clean]), fun _ => ?_⟩
        · rw [List.singleton_append, convert_cons (by decide) goes_on rewritten, converted]
          rfl
        · rw [found]
          simp [content]

theorem Converts.escaped {next : UInt8} {rest tail : Bytes} (text_only : (0 : UInt8) ∉ next :: rest)
    (ends : Ends tail)
    (later : ∀ text tail, text.length ≤ rest.length → (0 : UInt8) ∉ text → Ends tail →
      ∃ converted, Converts quoted text tail converted) :
    ∃ converted, Converts quoted (backslash :: next :: rest) tail converted := by
  have goes_on : ¬ (quoted ∧ backslash = quote) := fun both => absurd both.2 (by decide)
  have nonzero : next ≠ 0 := fun zero => text_only (zero ▸ List.mem_cons_self)
  have found : argument quoted (backslash :: next :: rest) =
      ((decode next rest).1 :: (argument quoted (decode next rest).2).1,
        (argument quoted (decode next rest).2).2) := by
    rw [argument, if_neg goes_on, if_pos rfl]
  obtain ⟨tail₁, rewritten, ends₁⟩ := @rewrite_escape quoted _ _ _ text_only ends
  obtain ⟨mem, escaped, number, nul⟩ := escape_text text_only ends₁
  rw [escaped] at rewritten
  have clean_iff : Clean quoted (backslash :: next :: rest) ↔
      WellFormed next rest ∧ Clean quoted (decode next rest).2 := by
    rw [Clean, if_neg goes_on, if_pos rfl]
  by_cases zero : (consumed next rest).1 = 0
  · -- the NUL ends the argument, which has one character at least
    obtain ⟨later, rfl⟩ := List.head?_eq_some_iff.mp (nul zero)
    obtain ⟨behind, converted⟩ := convert_forward later
    refine ⟨(0 :: behind.1, behind.2), ?_, fun clean => ?_, fun _ => ?_⟩
    · rw [List.cons_append, convert_cons (by decide) goes_on rewritten, converted]
      rfl
    · exact absurd zero (consumed_of_wellFormed nonzero (clean_iff.mp clean).1).2
    · rw [found]
      simp [content]
  · obtain ⟨tail₂, rfl, ends₂⟩ := number zero
    have suffix := consumed_suffix next rest
    have rest_only : (0 : UInt8) ∉ (consumed next rest).2 := fun member =>
      text_only (List.mem_cons_of_mem next (suffix.subset member))
    obtain ⟨after, converts⟩ :=
      later (consumed next rest).2 tail₂ suffix.length_le rest_only ends₂
    have head : content ((consumed next rest).1 :: after.1) =
        (consumed next rest).1 :: content after.1 := by simp [content, zero]
    have converted : convert .forward quoted (backslash :: next :: rest ++ tail) =
        some ((consumed next rest).1 :: after.1, after.2) := by
      rw [List.cons_append, convert_cons (by decide) goes_on rewritten]
      exact congrArg _ converts.done
    refine ⟨_, converted, ?_, ?_⟩
    · intro clean
      obtain ⟨same, -⟩ := consumed_of_wellFormed nonzero (clean_iff.mp clean).1
      rw [← same] at found clean_iff
      obtain ⟨tail₃, behind, ends₃, only, left_only⟩ := converts.right (clean_iff.mp clean).2
      refine ⟨tail₃, ?_, ends₃, ?_, ?_⟩
      · rw [behind, found]
      · rw [found]
        simp [Ne.symm zero, only]
      · rw [found]
        exact left_only
    · intro bad
      rw [found, head, List.length_cons, List.length_cons]
      by_cases well : WellFormed next rest
      · obtain ⟨same, -⟩ := consumed_of_wellFormed nonzero well
        rw [← same] at clean_iff ⊢
        have shorter := converts.short fun clean => bad (clean_iff.mpr ⟨well, clean⟩)
        omega
      · obtain ⟨extra, there, plain, left⟩ := (consumed_of_not_wellFormed well).resolve_left zero
        have bounded := converts.length_le
        have more := @length_argument_append quoted _ plain (consumed next rest).2
        have positive := List.length_pos_iff.mpr there
        rw [left, more]
        omega

theorem converts (quoted : Bool) (text : Bytes) {tail : Bytes} (text_only : (0 : UInt8) ∉ text)
    (ends : Ends tail) : ∃ converted, Converts quoted text tail converted := by
  induction size : text.length using Nat.strong_induction_on generalizing text tail with
  | h size' ih =>
      match text, text_only, size with
      | [], _, _ =>
          refine ⟨_, convert_ends .forward ends, fun _ => ⟨tail, ?_, ends, ?_, ?_⟩,
            fun bad => absurd (by simp [Clean]) bad⟩
          · simp [argument]
          · simp [argument]
          · simp [argument]
      | c :: rest, text_only, size =>
          have nonzero : c ≠ 0 := fun zero => text_only (zero ▸ List.mem_cons_self)
          have rest_only : (0 : UInt8) ∉ rest := fun member =>
            text_only (List.mem_cons_of_mem c member)
          by_cases stop : quoted ∧ c = quote
          · obtain ⟨rfl, rfl⟩ := stop
            exact ⟨_, .atQuote rest tail rest_only ends⟩
          · by_cases ordinary : c = backslash
            · subst ordinary
              cases rest with
              | nil => exact Converts.lone ends
              | cons next rest =>
                  refine Converts.escaped rest_only ends ?_
                  intro text tail bounded only ends
                  refine ih text.length ?_ text only ends rfl
                  simp only [← size, List.length_cons]
                  omega
            · obtain ⟨later, converts⟩ := ih rest.length (by simp [← size]) rest rest_only ends rfl
              exact ⟨_, converts.plain ordinary stop nonzero⟩

end Arguments

section Faults

variable {quoted : Bool} {mem mem' : Bytes}

/-- Where two strings do not overlap it does not matter what would be if they did. -/
theorem strcpyFrom_of_fault (overlap : Overlap) {count : Nat}
    (copied : strcpyFrom .fault mem count = some mem') : strcpyFrom overlap mem count = some mem' := by
  unfold strcpyFrom at copied ⊢
  split_ifs at copied ⊢
  · cases copied
  · exact copied

theorem escape_of_fault (overlap : Overlap) (escaped : escape .fault mem = some mem') :
    escape overlap mem = some mem' := by
  unfold escape at escaped ⊢
  split at escaped
  · exact escaped
  · dsimp only
    split at escaped
    · exact escaped
    · split_ifs at escaped ⊢
      · exact strcpyFrom_of_fault overlap escaped
      · exact strcpyFrom_of_fault overlap escaped
      · exact escaped

theorem rewrite_of_fault (overlap : Overlap) (rewritten : rewrite .fault quoted mem = some mem') :
    rewrite overlap quoted mem = some mem' := by
  unfold rewrite at rewritten ⊢
  split_ifs at rewritten ⊢
  · obtain ⟨moved, copied, escaped⟩ := Option.bind_eq_some_iff.mp rewritten
    rw [strcpyFrom_of_fault overlap copied]
    exact escape_of_fault overlap escaped
  · exact rewritten

theorem convert_of_fault (overlap : Overlap) {converted : Bytes × Bytes}
    (done : convert .fault quoted mem = some converted) :
    convert overlap quoted mem = some converted := by
  induction size : mem.length using Nat.strong_induction_on generalizing mem converted with
  | h size' ih =>
      cases mem with
      | nil =>
          rw [convert_ends _ (.inl rfl)] at done ⊢
          exact done
      | cons c rest =>
          by_cases zero : c = 0
          · rw [convert_ends _ (.inr ⟨rest, by rw [zero]⟩)] at done ⊢
            exact done
          · by_cases stop : quoted ∧ c = quote
            · rw [convert, if_neg zero, if_pos stop] at done ⊢
              exact done
            · rw [convert_rewrite _ zero stop] at done ⊢
              obtain ⟨mem', rewritten, passed⟩ := Option.bind_eq_some_iff.mp done
              obtain ⟨later, behind, rfl⟩ := Option.map_eq_some_iff.mp passed
              have same := length_rewrite rewritten
              rw [List.length_cons] at same size
              have shorter : mem'.tail.length < size' := by
                rw [List.length_tail]
                omega
              rw [rewrite_of_fault overlap rewritten, Option.bind_some, ih _ shorter behind rfl]
              rfl

theorem parseLine_of_fault (overlap : Overlap) {max_args : Nat} {line : Bytes} {av : List Bytes}
    (parsed : parseLine .fault max_args line = some av) :
    parseLine overlap max_args line = some av := by
  induction max_args generalizing line av with
  | zero => exact parsed
  | succ max_args ih =>
      unfold parseLine at parsed ⊢
      dsimp only at parsed ⊢
      split at parsed
      · exact parsed
      · split_ifs at parsed ⊢
        · exact parsed
        all_goals
          obtain ⟨converted, done, passed⟩ := Option.bind_eq_some_iff.mp parsed
          obtain ⟨later, behind, rfl⟩ := Option.map_eq_some_iff.mp passed
          rw [convert_of_fault overlap done, Option.bind_some, ih behind]
          rfl

theorem unescaped_plain {c : UInt8} (ordinary : c ≠ backslash) (goes_on : ¬ (quoted ∧ c = quote))
    (rest : Bytes) : Unescaped quoted (c :: rest) ↔ Unescaped quoted rest := by
  cases rest with
  | nil => simp [Unescaped, ordinary]
  | cons next rest =>
      rw [Unescaped, if_neg goes_on]
      exact and_iff_right ordinary

/-- An argument without escapes is taken as it is. -/
theorem convert_unescaped (overlap : Overlap) {text tail : Bytes} (text_only : (0 : UInt8) ∉ text)
    (ends : Ends tail) (unescaped : Unescaped quoted text) :
    convert overlap quoted (text ++ tail) =
      some ((argument quoted text).1, (argument quoted text).2 ++ tail) ∧
      (0 : UInt8) ∉ (argument quoted text).1 ∧ (0 : UInt8) ∉ (argument quoted text).2 := by
  induction text with
  | nil =>
      rw [List.nil_append, convert_ends overlap ends]
      simp [argument]
  | cons c rest ih =>
      have nonzero : c ≠ 0 := fun zero => text_only (zero ▸ List.mem_cons_self)
      have rest_only : (0 : UInt8) ∉ rest := fun member =>
        text_only (List.mem_cons_of_mem c member)
      by_cases stop : quoted ∧ c = quote
      · have found : argument quoted (c :: rest) = ([], rest) := by
          cases rest <;> simp [argument, stop]
        rw [List.cons_append, convert, if_neg nonzero, if_pos stop, found]
        exact ⟨rfl, List.not_mem_nil, rest_only⟩
      · by_cases escapes : c = backslash
        · subst escapes
          have found : argument quoted [backslash] = ([backslash], []) := by
            cases quoted <;> simp [argument, backslash, quote]
          cases rest with
          | nil =>
              have inside : quoted = true := by simpa [Unescaped] using unescaped
              subst inside
              rw [List.cons_append, List.nil_append,
                convert_cons nonzero stop (rewrite_last overlap ends), convert_ends overlap ends,
                found]
              exact ⟨rfl, text_only, List.not_mem_nil⟩
          | cons next rest =>
              rw [Unescaped, if_neg stop] at unescaped
              exact absurd rfl unescaped.1
        · obtain ⟨later, only, left_only⟩ :=
            ih rest_only ((unescaped_plain escapes stop rest).mp unescaped)
          rw [List.cons_append, convert_cons nonzero stop (rewrite_plain overlap escapes _), later,
            argument_plain escapes stop rest]
          refine ⟨rfl, ?_, left_only⟩
          simp [nonzero.symm, only]

/-- An escape makes an overlapping copy. -/
theorem rewrite_fault {c : UInt8} (nonzero : c ≠ 0) (rest : Bytes) :
    rewrite .fault quoted (backslash :: c :: rest) = none := by
  have overlaps : 1 ≤ (content (c :: rest)).length := by simp [content, nonzero]
  have failed : strcpyFrom .fault (backslash :: c :: rest) 1 = none := if_pos overlaps
  unfold rewrite
  rw [if_pos ⟨rfl, fun _ => nonzero⟩, failed]
  rfl

theorem unescaped_of_clean {text tail : Bytes} (text_only : (0 : UInt8) ∉ text)
    {converted : Bytes × Bytes} (done : convert .fault quoted (text ++ tail) = some converted)
    (clean : Clean quoted text) : Unescaped quoted text := by
  induction text generalizing converted with
  | nil => trivial
  | cons c rest ih =>
      have nonzero : c ≠ 0 := fun zero => text_only (zero ▸ List.mem_cons_self)
      have rest_only : (0 : UInt8) ∉ rest := fun member =>
        text_only (List.mem_cons_of_mem c member)
      by_cases stop : quoted ∧ c = quote
      · cases rest with
        | nil => exact .inl stop.1
        | cons next rest => rw [Unescaped, if_pos stop]; trivial
      · by_cases escapes : c = backslash
        · subst escapes
          cases rest with
          | nil => simpa [Clean, Unescaped] using clean
          | cons next rest =>
              have next_nonzero : next ≠ 0 := fun zero => rest_only (zero ▸ List.mem_cons_self)
              rw [List.cons_append, List.cons_append, convert_rewrite _ nonzero stop,
                rewrite_fault next_nonzero] at done
              cases done
        · rw [List.cons_append, convert_cons nonzero stop (rewrite_plain .fault escapes _)] at done
          obtain ⟨later, behind, -⟩ := Option.map_eq_some_iff.mp done
          exact (unescaped_plain escapes stop rest).mpr
            (ih rest_only behind ((clean_plain escapes stop rest).mp clean))

end Faults

section Lines

theorem dropWhile_ends (text : Bytes) {tail : Bytes} (ends : Ends tail) :
    (text ++ tail).dropWhile isSpace = text.dropWhile isSpace ++ tail := by
  induction text with
  | nil =>
      rcases ends with rfl | ⟨later, rfl⟩
      · rfl
      · rfl
  | cons c text ih =>
      rw [List.cons_append, List.dropWhile_cons, List.dropWhile_cons, ih]
      split_ifs
      · rfl
      · rfl

/-- An argument is right if and only if it is good, and then the rest of the line is there. -/
structure Settles (overlap : Overlap) (good : Bool → Bytes → Prop) : Prop where
  right_iff : ∀ (quoted : Bool) {text tail : Bytes}, (0 : UInt8) ∉ text → Ends tail →
    ((∃ converted, convert overlap quoted (text ++ tail) = some converted ∧
      content converted.1 = (argument quoted text).1) ↔ good quoted text)
  left : ∀ (quoted : Bool) {text tail : Bytes} {converted : Bytes × Bytes}, (0 : UInt8) ∉ text →
    Ends tail → good quoted text → convert overlap quoted (text ++ tail) = some converted →
    (0 : UInt8) ∉ (argument quoted text).2 ∧
      ∃ tail', converted.2 = (argument quoted text).2 ++ tail' ∧ Ends tail'

theorem settles_forward : Settles .forward Clean where
  right_iff quoted text tail text_only ends := by
    obtain ⟨converted, converts⟩ := converts quoted text text_only ends
    constructor
    · rintro ⟨this, done, same⟩
      cases done.symm.trans converts.done
      by_contra bad
      exact absurd (congrArg List.length same) (Nat.ne_of_lt (converts.short bad))
    · intro clean
      obtain ⟨tail', rfl, -, only, -⟩ := converts.right clean
      exact ⟨_, converts.done, content_text only⟩
  left quoted text tail this text_only ends clean done := by
    obtain ⟨converted, converts⟩ := converts quoted text text_only ends
    cases done.symm.trans converts.done
    obtain ⟨tail', rfl, ends', -, left_only⟩ := converts.right clean
    exact ⟨left_only, tail', rfl, ends'⟩

theorem settles_fault : Settles .fault Unescaped where
  right_iff quoted text tail text_only ends := by
    constructor
    · rintro ⟨converted, done, same⟩
      refine unescaped_of_clean text_only done ?_
      exact (settles_forward.right_iff quoted text_only ends).mp
        ⟨converted, convert_of_fault .forward done, same⟩
    · intro unescaped
      obtain ⟨done, only, -⟩ := convert_unescaped .fault text_only ends unescaped
      exact ⟨_, done, content_text only⟩
  left quoted text tail converted text_only ends unescaped done := by
    obtain ⟨same, -, left_only⟩ := convert_unescaped .fault text_only ends unescaped
    cases done.symm.trans same
    exact ⟨left_only, tail, rfl, ends⟩

theorem takeWhile_text {text : Bytes} (text_only : (0 : UInt8) ∉ text) :
    text.takeWhile (fun c => c ≠ 0 && !isSpace c) = text.takeWhile (!isSpace ·) := by
  induction text with
  | nil => rfl
  | cons c text ih =>
      have nonzero : c ≠ 0 := fun zero => text_only (zero ▸ List.mem_cons_self)
      have later := ih fun member => text_only (List.mem_cons_of_mem c member)
      simp only [List.takeWhile_cons, later, ne_eq, nonzero, not_false_eq_true, decide_true,
        Bool.true_and]

theorem map_cons_iff {parsed : Option (List Bytes)} {arg arg' : Bytes} {av : List Bytes} :
    parsed.map (arg :: ·) = some (arg' :: av) ↔ arg = arg' ∧ parsed = some av := by
  cases parsed <;> simp

/-- The first argument and those behind it. -/
theorem bind_cons_iff {found : Option (Bytes × Bytes)} {parse : Bytes → Option (List Bytes)}
    {arg : Bytes} {av : List Bytes} :
    (found.bind fun converted => (parse converted.2).map (content converted.1 :: ·)) =
        some (arg :: av) ↔
      ∃ converted, found = some converted ∧ content converted.1 = arg ∧
        parse converted.2 = some av := by
  simp only [Option.bind_eq_some_iff, map_cons_iff]

theorem parseLine_iff {overlap : Overlap} {good : Bool → Bytes → Prop}
    (settles : Settles overlap good) (max_args : Nat) {line tail : Bytes}
    (line_only : (0 : UInt8) ∉ line) (ends : Ends tail) :
    parseLine overlap max_args (line ++ tail) = some (arguments max_args line) ↔
      EachArgument good max_args line := by
  induction max_args generalizing line tail with
  | zero => simp [parseLine, arguments, EachArgument]
  | succ max_args ih =>
      unfold parseLine arguments EachArgument
      rw [dropWhile_ends line ends]
      dsimp only
      have skipped_only : (0 : UInt8) ∉ line.dropWhile isSpace := fun member =>
        line_only ((List.dropWhile_suffix _).subset member)
      cases skipped : line.dropWhile isSpace with
      | nil =>
          rcases ends with rfl | ⟨later, rfl⟩
          · simp
          · simp
      | cons c rest =>
          rw [skipped] at skipped_only
          have nonzero : c ≠ 0 := fun zero => skipped_only (zero ▸ List.mem_cons_self)
          have rest_only : (0 : UInt8) ∉ rest := fun member =>
            skipped_only (List.mem_cons_of_mem c member)
          rw [List.cons_append]
          dsimp only
          rw [if_neg nonzero]
          by_cases quotes : c = quote
          · rw [if_pos quotes, if_pos quotes, if_pos quotes, bind_cons_iff]
            constructor
            · rintro ⟨converted, done, same, behind⟩
              have right := (settles.right_iff true rest_only ends).mp ⟨converted, done, same⟩
              obtain ⟨left_only, tail', left, ends'⟩ := settles.left true rest_only ends right done
              rw [left] at behind
              exact ⟨right, (ih left_only ends').mp behind⟩
            · rintro ⟨right, later⟩
              obtain ⟨converted, done, same⟩ := (settles.right_iff true rest_only ends).mpr right
              obtain ⟨left_only, tail', left, ends'⟩ := settles.left true rest_only ends right done
              exact ⟨converted, done, same, left ▸ (ih left_only ends').mpr later⟩
          · rw [if_neg quotes, if_neg quotes, if_neg quotes]
            have text : (c :: (rest ++ tail)).takeWhile (fun c => c ≠ 0 && !isSpace c) =
                (c :: rest).takeWhile (!isSpace ·) :=
              (takeWhile_ends (by decide) (c :: rest) ends).trans (takeWhile_text skipped_only)
            have whole := List.takeWhile_prefix (!isSpace ·) (l := c :: rest)
            have text_only : (0 : UInt8) ∉ (c :: rest).takeWhile (!isSpace ·) := fun member =>
              skipped_only (whole.subset member)
            rw [text]
            generalize (c :: rest).takeWhile (!isSpace ·) = text at whole text_only
            have left : (c :: (rest ++ tail)).drop text.length =
                (c :: rest).drop text.length ++ tail := List.drop_append_of_le_length whole.length_le
            have left_only : (0 : UInt8) ∉ (c :: rest).drop text.length := fun member =>
              skipped_only (List.mem_of_mem_drop member)
            have arg := settles.right_iff false text_only (.inl rfl : Ends [])
            rw [List.append_nil] at arg
            rw [left, @bind_cons_iff _ fun _ => parseLine overlap max_args _, ← arg]
            simp only [← and_assoc, exists_and_right]
            refine and_congr_right fun _ => ?_
            cases behind : (c :: rest).drop text.length with
            | nil =>
                have nothing : ([] ++ tail : Bytes).headD 0 = 0 := by
                  rcases ends with rfl | ⟨later, rfl⟩ <;> rfl
                rw [if_neg (not_not.mpr nothing)]
                exact ih List.not_mem_nil ends
            | cons space later =>
                rw [behind] at left_only
                have character : (space :: later ++ tail).headD 0 ≠ 0 := fun zero =>
                  left_only (zero ▸ List.mem_cons_self)
                rw [if_pos character]
                exact ih (fun member => left_only (List.mem_cons_of_mem space member)) ends

theorem parseLine_line_iff {overlap : Overlap} {good : Bool → Bytes → Prop}
    (settles : Settles overlap good) (max_args : Nat) {line : Bytes}
    (line_only : (0 : UInt8) ∉ line) :
    parseLine overlap max_args line = some (arguments max_args line) ↔
      EachArgument good max_args line := by
  have found := parseLine_iff settles max_args line_only (.inl rfl : Ends [])
  rwa [List.append_nil] at found

theorem unescaped_of_not_mem {quoted : Bool} {text : Bytes} (none : backslash ∉ text) :
    Unescaped quoted text ∧ backslash ∉ (argument quoted text).2 := by
  induction text with
  | nil => exact ⟨trivial, by simp [argument]⟩
  | cons c rest ih =>
      obtain ⟨first, later⟩ := List.ne_and_not_mem_of_not_mem_cons none
      by_cases stop : quoted ∧ c = quote
      · cases rest with
        | nil => simp [Unescaped, argument, stop]
        | cons next rest => simpa [Unescaped, argument, stop] using later
      · rw [unescaped_plain first.symm stop, argument_plain first.symm stop]
        exact ih later

/-- No strings overlap where there is no backslash. -/
theorem parseLine_of_not_mem (overlap : Overlap) (max_args : Nat) {line tail : Bytes}
    (line_only : (0 : UInt8) ∉ line) (none : backslash ∉ line) (ends : Ends tail) :
    parseLine overlap max_args (line ++ tail) = some (arguments max_args line) := by
  refine parseLine_of_fault overlap ((parseLine_iff settles_fault max_args line_only ends).mpr ?_)
  clear line_only ends
  induction max_args generalizing line with
  | zero => trivial
  | succ max_args ih =>
      have skipped : backslash ∉ line.dropWhile isSpace := fun member =>
        none ((List.dropWhile_suffix _).subset member)
      unfold EachArgument
      split
      · trivial
      · rename_i c rest found
        rw [found] at skipped
        dsimp only
        split_ifs
        · obtain ⟨unescaped, later⟩ := @unescaped_of_not_mem true rest
            fun member => skipped (List.mem_cons_of_mem c member)
          exact ⟨unescaped, ih later⟩
        · have word := (List.takeWhile_prefix (!isSpace ·) (l := c :: rest)).subset
          refine ⟨(unescaped_of_not_mem fun member => skipped (word member)).1, ih fun member => ?_⟩
          exact skipped (List.mem_of_mem_drop (List.mem_of_mem_tail member))

theorem length_parseLine {overlap : Overlap} {max_args : Nat} {line : Bytes} {av : List Bytes}
    (parsed : parseLine overlap max_args line = some av) : av.length ≤ max_args := by
  induction max_args generalizing line av with
  | zero =>
      cases parsed
      exact Nat.le_refl 0
  | succ max_args ih =>
      unfold parseLine at parsed
      dsimp only at parsed
      split at parsed
      · cases parsed
        exact Nat.zero_le _
      · split_ifs at parsed
        · cases parsed
          exact Nat.zero_le _
        all_goals
          obtain ⟨converted, -, passed⟩ := Option.bind_eq_some_iff.mp parsed
          obtain ⟨later, behind, rfl⟩ := Option.map_eq_some_iff.mp passed
          exact Nat.succ_le_succ (ih behind)

/-- `ParseLine` returns at most `max_args` arguments. Whatever becomes of strings that overlap,
they are those of the line, with each escape decoded as documented, if and only if there is no
escape in them; and if they are copied forward, if and only if every escape in them is well
formed. -/
theorem parseLine_documented_iff (max_args : Nat) (line : Bytes) (line_only : (0 : UInt8) ∉ line) :
    (∀ overlap av, parseLine overlap max_args line = some av → av.length ≤ max_args) ∧
      ((∀ overlap, parseLine overlap max_args line = some (arguments max_args line)) ↔
        EachArgument Unescaped max_args line) ∧
      (parseLine .forward max_args line = some (arguments max_args line) ↔
        EachArgument Clean max_args line) := by
  refine ⟨fun _ _ => length_parseLine, ?_, parseLine_line_iff settles_forward max_args line_only⟩
  have certain := parseLine_line_iff settles_fault max_args line_only
  exact ⟨fun always => certain.mp (always .fault), fun unescaped overlap =>
    parseLine_of_fault overlap (certain.mpr unescaped)⟩

/-- `a\101 "b\x4a"` is read as documented if its strings are copied forward, and `a "b c"` in
any case. -/
theorem parseLine_documented_clean :
    parseLine .forward 2 [97, 92, 49, 48, 49, 32, 34, 98, 92, 120, 52, 97, 34] =
        some [[97, 65], [98, 74]] ∧
      ∀ overlap, parseLine overlap 2 [97, 32, 34, 98, 32, 99, 34] = some [[97], [98, 32, 99]] := by
  have found := (parseLine_documented_iff 2 [97, 92, 49, 48, 49, 32, 34, 98, 92, 120, 52, 97, 34]
    (by decide)).2.2
  have certain := (parseLine_documented_iff 2 [97, 32, 34, 98, 32, 99, 34] (by decide)).2.1
  have clean : EachArgument Clean 2 [97, 92, 49, 48, 49, 32, 34, 98, 92, 120, 52, 97, 34] := by
    simp [EachArgument, Clean, decode, WellFormed, isSpace, quote, backslash, letter?, isOctal,
      letterX, isXdigit, octalValue, hexValue, xdigit]
    decide
  have unescaped : EachArgument Unescaped 2 [97, 32, 34, 98, 32, 99, 34] := by
    simp [EachArgument, Unescaped, isSpace, quote, backslash]
  refine ⟨?_, fun overlap => ?_⟩
  · rw [found.mpr clean]
    simp [arguments, argument, decode, isSpace, quote, backslash, letter?, isOctal, letterX,
      isXdigit, octalValue, hexValue, xdigit]
    decide
  · rw [certain.mpr unescaped overlap]
    simp [arguments, argument, isSpace, quote, backslash]

/-- Of `\1234` one byte is made, where the first three digits are one and the last is text. Of
`a\` the backslash is lost, without strings that overlap. -/
theorem parseLine_not_documented :
    parseLine .forward 1 [92, 49, 50, 51, 52] ≠ some (arguments 1 [92, 49, 50, 51, 52]) ∧
      ∀ overlap, parseLine overlap 1 [97, 92] ≠ some (arguments 1 [97, 92]) := by
  constructor
  · refine mt (parseLine_line_iff settles_forward 1 (by decide)).mp ?_
    simp [EachArgument, Clean, WellFormed, isSpace, quote, backslash, isOctal]
  · intro overlap
    have moved : rewrite overlap false [92] = some [0] := by
      simp [rewrite, strcpyFrom, copyForward, content, escape, backslash, letter?, quote, isOctal,
        letterX]
    have lost : convert overlap false [97, 92] = some ([97, 0], []) := by
      rw [convert_cons (by decide) (by decide) (rewrite_plain overlap (by decide) [92]),
        convert_cons (by decide) (by decide) moved, convert_ends overlap (.inl rfl)]
      rfl
    simp [parseLine, arguments, argument, isSpace, quote, backslash, lost, content]

end Lines

end Mpd.ParseLine
