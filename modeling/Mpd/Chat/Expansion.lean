import Mathlib.Algebra.Group.Int.Defs
import Mathlib.Data.List.TakeWhile
import Mpd.Chat.Defs

/-! `ChatExpandString` in two passes, the first of which counts the bytes that the second one
writes. -/

set_option autoImplicit false

namespace Mpd.Chat

section Definitions

def intMax : Int := 2 ^ 31 - 1

inductive ExpandFault where
  | overflow | outside | noMemory | asserted
  deriving DecidableEq, Repr

def chatVarFind (name : Bytes) (head : List (Bytes × Bytes)) :
    Option Bytes × List (Bytes × Bytes) :=
  match head.lookup name with
  | none => (none, head)
  | some value => (some value, (name, value) :: head.eraseP (name == ·.1))

def chatVarTake (rname : Bytes) (c : ChatInfo) : Option Bytes × ChatInfo :=
  if rname = [] then (none, c)
  else
    match chatVarExtract rname.tail maxVarname true with
    | none => (none, c)
    | some (_, name) =>
        if isUpper (name.headD 0) then
          let (var, globals) := chatVarFind name c.globals
          (var, { c with globals := globals })
        else
          let (var, temps) := chatVarFind name c.temps
          (var, { c with temps := temps })

/-- The variables of `ChatExpandString`. `new` is what has been written of the buffer, so that
its length is `j`, and `size` the room that the buffer has. -/
structure Expansion where
  doit : Bool
  new_len : Int
  new : Bytes
  size : Nat
  deriving DecidableEq, Repr

def Expansion.write (text : Bytes) (e : Expansion) : Except ExpandFault Expansion :=
  if e.new.length + text.length ≤ e.size then .ok { e with new := e.new ++ text }
  else .error .outside

def Expansion.normal (ch : UInt8) (e : Expansion) : Except ExpandFault Expansion :=
  if e.doit then e.write [ch]
  else if e.new_len + 1 > intMax then .error .overflow
  else .ok { e with new_len := e.new_len + 1 }

/-- The value of a variable. The sum with `strlen` is a `size_t` that becomes an `int`. -/
def Expansion.value (text : Bytes) (e : Expansion) : Except ExpandFault Expansion :=
  if e.doit then e.write text
  else .ok { e with new_len := Int.bmod (e.new_len + text.length) (2 ^ 32) }

/-- One pass, over at most as many bytes as the string has. -/
def rescan : Nat → Bytes → ChatInfo → Expansion → Except ExpandFault (ChatInfo × Expansion)
  | fuel + 1, ch :: rest, c, e =>
      if ch = 36 then
        if rest.headD 0 = 36 then do
          let e ← e.normal 36
          rescan fuel rest.tail c e
        else
          match chatVarExtract rest (maxVarname - 1) false with
          | none => do
              let e ← e.normal ch
              rescan fuel rest c e
          | some (nlen, name) =>
              match chatVarTake (36 :: name) c with
              | (none, c) => rescan fuel (rest.drop nlen) c e
              | (some value, c) => do
                  let e ← e.value value
                  rescan fuel (rest.drop nlen) c e
      else do
        let e ← e.normal ch
        rescan fuel rest c e
  | _, _, c, e => .ok (c, e)

def chatExpandPasses (c : ChatInfo) (string : Bytes) : Except ExpandFault (Bytes × ChatInfo) := do
  let (c, e) ← rescan string.length string c ⟨false, 0, [], 0⟩
  if e.new_len + 1 > intMax then .error .overflow
  else if e.new_len + 1 < 0 then .error .noMemory
  else
    let (c, filled) ← rescan string.length string c
      { e with doit := true, size := (e.new_len + 1).toNat }
    let _ ← filled.write [0]
    if (filled.new.length : Int) = e.new_len then .ok (filled.new, c) else .error .asserted

inductive Piece where
  | char (ch : UInt8)
  | var (name : Bytes)
  deriving DecidableEq, Repr

def identifier (text : Bytes) : Option Bytes :=
  if isAlpha (text.headD 0) then some (text.takeWhile isNameChar) else none

/-- An identifier, in braces or not, and the number of bytes that it takes. -/
def reference (text : Bytes) : Option (Nat × Bytes) :=
  if text.headD 0 = 123 then
    match identifier text.tail with
    | none => none
    | some name =>
        if (text.tail.drop name.length).headD 0 = 125 then some (name.length + 2, name) else none
  else (identifier text).map fun name => (name.length, name)

def pieces (extract : Bytes → Option (Nat × Bytes)) : Bytes → List Piece
  | [] => []
  | ch :: rest =>
      if ch = 36 then
        if rest.headD 0 = 36 then .char 36 :: pieces extract rest.tail
        else
          match extract rest with
          | none => .char ch :: pieces extract rest
          | some (nlen, name) => .var name :: pieces extract (rest.drop nlen)
      else .char ch :: pieces extract rest
  termination_by text => text.length
  decreasing_by all_goals (simp; try omega)

/-- The value of a variable, nothing where it is not set. -/
def ChatInfo.valueOf (c : ChatInfo) (name : Bytes) : Bytes :=
  ((if isUpper (name.headD 0) then c.globals else c.temps).lookup name).getD []

def Piece.text (valueOf : Bytes → Bytes) : Piece → Bytes
  | .char ch => [ch]
  | .var name => valueOf name

def substitute (c : ChatInfo) (string : Bytes) : Bytes :=
  (pieces reference string).flatMap (Piece.text c.valueOf)

/-- The expansion of the string is the substitution, and nothing goes wrong. -/
def ExpandsRight (c : ChatInfo) (string : Bytes) : Prop :=
  ∃ c', chatExpandPasses c string = .ok (substitute c string, c')

/-- An `int` counts the expanded string and its NUL. -/
def ExpansionFits (c : ChatInfo) (string : Bytes) : Prop :=
  ((substitute c string).length : Int) < intMax

/-- The names in a string have at most 98 bytes. -/
def NamesFit (string : Bytes) : Prop :=
  ∀ name, .var name ∈ pieces reference string → name.length < maxVarname - 1

end Definitions

section Lookup

structure SameVars (c c' : ChatInfo) : Prop where
  globals : ∀ name, c'.globals.lookup name = c.globals.lookup name
  temps : ∀ name, c'.temps.lookup name = c.temps.lookup name

theorem SameVars.refl (c : ChatInfo) : SameVars c c := ⟨fun _ => rfl, fun _ => rfl⟩

theorem SameVars.trans {a b c : ChatInfo} (one : SameVars a b) (other : SameVars b c) :
    SameVars a c :=
  ⟨fun name => (other.globals name).trans (one.globals name),
    fun name => (other.temps name).trans (one.temps name)⟩

theorem chatVarFind_fst (name : Bytes) (head : List (Bytes × Bytes)) :
    (chatVarFind name head).1 = head.lookup name := by
  unfold chatVarFind
  cases head.lookup name with
  | none => rfl
  | some value => rfl

theorem lookup_eraseP {name other : Bytes} (distinct : other ≠ name)
    (head : List (Bytes × Bytes)) :
    (head.eraseP (name == ·.1)).lookup other = head.lookup other := by
  induction head with
  | nil => rfl
  | cons var head ih =>
      by_cases same : name = var.1
      · rw [List.eraseP_cons_of_pos (by simpa using same), List.lookup_cons]
        have no : (other == var.1) = false := by rw [← same]; simpa using distinct
        rw [no]
      · rw [List.eraseP_cons_of_neg (by simpa using same), List.lookup_cons, List.lookup_cons, ih]

theorem lookup_chatVarFind (name other : Bytes) (head : List (Bytes × Bytes)) :
    (chatVarFind name head).2.lookup other = head.lookup other := by
  unfold chatVarFind
  cases found : head.lookup name with
  | none => rfl
  | some value =>
      dsimp only
      rw [List.lookup_cons]
      by_cases same : other = name
      · subst same
        rw [beq_self_eq_true, found]
      · have no : (other == name) = false := by simpa using same
        rw [no, lookup_eraseP same]

theorem sameVars_chatVarTake (rname : Bytes) (c : ChatInfo) :
    SameVars c (chatVarTake rname c).2 := by
  unfold chatVarTake
  split
  · exact .refl c
  · split
    · exact .refl c
    · next name _ =>
      split
      · exact ⟨fun other => lookup_chatVarFind name other c.globals, fun _ => rfl⟩
      · exact ⟨fun _ => rfl, fun other => lookup_chatVarFind name other c.temps⟩

/-- The order of the variables does not matter for what is found. -/
theorem chatVarTake_fst (rname : Bytes) {c c' : ChatInfo} (same : SameVars c c') :
    (chatVarTake rname c').1 = chatVarGet c rname := by
  unfold chatVarTake chatVarGet
  by_cases empty : rname = []
  · rw [if_pos empty, if_pos empty]
  · rw [if_neg empty, if_neg empty]
    cases chatVarExtract rname.tail maxVarname true with
    | none => rfl
    | some found =>
        dsimp only
        split
        · exact (chatVarFind_fst found.2 c'.globals).trans (same.globals found.2)
        · exact (chatVarFind_fst found.2 c'.temps).trans (same.temps found.2)

end Lookup

section Passes

variable {e : Expansion} {text : Bytes} {n : Nat}

def Expansion.add (text : Bytes) (e : Expansion) : Expansion :=
  if e.doit then { e with new := e.new ++ text } else { e with new_len := e.new_len + text.length }

/-- There is room for a number of bytes. -/
def Expansion.Room (n : Nat) (e : Expansion) : Prop :=
  if e.doit then e.new.length + n ≤ e.size else 0 ≤ e.new_len ∧ e.new_len + n ≤ intMax

theorem Expansion.normal_of_room (ch : UInt8) (room : e.Room (n + 1)) :
    e.normal ch = .ok (e.add [ch]) := by
  unfold Expansion.Room at room
  unfold Expansion.normal Expansion.add Expansion.write
  cases second : e.doit with
  | true =>
      rw [second, if_pos rfl] at room
      rw [if_pos rfl, if_pos rfl, if_pos (by rw [List.length_singleton]; omega)]
  | false =>
      rw [second, if_neg Bool.false_ne_true] at room
      rw [if_neg Bool.false_ne_true, if_neg Bool.false_ne_true, if_neg (by omega)]
      rfl

theorem Expansion.value_of_room (room : e.Room (text.length + n)) :
    e.value text = .ok (e.add text) := by
  unfold Expansion.Room at room
  unfold Expansion.value Expansion.add Expansion.write
  cases second : e.doit with
  | true =>
      rw [second, if_pos rfl] at room
      rw [if_pos rfl, if_pos rfl, if_pos (by omega)]
  | false =>
      rw [second, if_neg Bool.false_ne_true] at room
      have small : Int.bmod (e.new_len + text.length) (2 ^ 32) = e.new_len + text.length := by
        unfold intMax at room
        exact Int.bmod_eq_of_le (by omega) (by omega)
      rw [if_neg Bool.false_ne_true, if_neg Bool.false_ne_true, small]

theorem Expansion.room_add (room : e.Room (text.length + n)) : (e.add text).Room n := by
  unfold Expansion.Room at room
  unfold Expansion.Room Expansion.add
  cases second : e.doit with
  | true =>
      rw [second, if_pos rfl] at room
      rw [if_pos rfl]
      dsimp only
      rw [if_pos rfl, List.length_append]
      omega
  | false =>
      rw [second, if_neg Bool.false_ne_true] at room
      rw [if_neg Bool.false_ne_true]
      dsimp only
      rw [if_neg Bool.false_ne_true]
      omega

theorem Expansion.add_add (a b : Bytes) (e : Expansion) : (e.add a).add b = e.add (a ++ b) := by
  unfold Expansion.add
  cases e.doit with
  | true => simp
  | false =>
      simp
      omega

theorem Expansion.add_nil (e : Expansion) : e.add [] = e := by
  obtain ⟨doit, new_len, new, size⟩ := e
  cases doit with
  | true => simp [Expansion.add]
  | false => simp [Expansion.add]

/-- A pass that has room for the expansion adds it, and keeps the values of the variables. -/
theorem rescan_of_room {c : ChatInfo} (fuel : Nat) (string : Bytes) {c' : ChatInfo}
    (same : SameVars c c') {e : Expansion} (room : e.Room (expandFrom c fuel string).length) :
    ∃ last, rescan fuel string c' e = .ok (last, e.add (expandFrom c fuel string)) ∧
      SameVars c last := by
  induction fuel generalizing string c' e with
  | zero => exact ⟨c', by rw [rescan, expandFrom, Expansion.add_nil] <;> exact nofun, same⟩
  | succ fuel ih =>
      cases string with
      | nil => exact ⟨c', by rw [rescan, expandFrom, Expansion.add_nil] <;> exact nofun, same⟩
      | cons ch rest =>
          -- A byte that is copied.
          have copied (ch : UInt8) (rest : Bytes)
              (room : e.Room (ch :: expandFrom c fuel rest).length) :
              ∃ last, (do let e ← e.normal ch; rescan fuel rest c' e) =
                .ok (last, e.add (ch :: expandFrom c fuel rest)) ∧ SameVars c last := by
            rw [List.length_cons] at room
            rw [Expansion.normal_of_room ch room]
            have behind : (e.add [ch]).Room (expandFrom c fuel rest).length :=
              Expansion.room_add (by rwa [List.length_singleton, Nat.add_comm])
            obtain ⟨last, ran, kept⟩ := ih rest same behind
            exact ⟨last, by rw [Expansion.add_add] at ran; exact ran, kept⟩
          rw [expandFrom] at room ⊢
          rw [rescan]
          by_cases prefixed : ch = 36
          · rw [if_pos prefixed] at room ⊢
            rw [if_pos prefixed]
            by_cases twice : rest.headD 0 = 36
            · rw [if_pos twice] at room ⊢
              rw [if_pos twice]
              exact copied 36 rest.tail room
            · rw [if_neg twice] at room ⊢
              rw [if_neg twice]
              cases extracted : chatVarExtract rest (maxVarname - 1) false with
              | none =>
                  rw [extracted] at room
                  exact copied ch rest room
              | some found =>
                  obtain ⟨nlen, name⟩ := found
                  rw [extracted] at room
                  dsimp only at room ⊢
                  have value := chatVarTake_fst (36 :: name) same
                  have kept := same.trans (sameVars_chatVarTake (36 :: name) c')
                  cases taken : chatVarTake (36 :: name) c' with
                  | mk var c'' =>
                    rw [taken] at value kept
                    dsimp only at value kept
                    rw [← value] at room ⊢
                    cases var with
                    | none => exact ih (rest.drop nlen) kept room
                    | some value =>
                        rw [Option.getD_some] at room ⊢
                        rw [List.length_append] at room
                        dsimp only
                        rw [Expansion.value_of_room room]
                        obtain ⟨last, ran, kept⟩ :=
                          ih (rest.drop nlen) kept (Expansion.room_add room)
                        exact ⟨last, by rw [Expansion.add_add] at ran; exact ran, kept⟩
          · rw [if_neg prefixed] at room ⊢
            rw [if_neg prefixed]
            exact copied ch rest room

/-- Where the expanded string can be counted, the passes make it as `chatExpandString` has it. -/
theorem chatExpandPasses_of_fits {c : ChatInfo} {string : Bytes}
    (fits : ((chatExpandString c string).length : Int) < intMax) :
    ∃ c', chatExpandPasses c string = .ok (chatExpandString c string, c') ∧ SameVars c c' := by
  unfold chatExpandString at fits ⊢
  obtain ⟨c', counted, kept⟩ := rescan_of_room string.length string (SameVars.refl c)
    (e := ⟨false, 0, [], 0⟩) ⟨Int.le_refl 0, by dsimp only; omega⟩
  generalize expanded : expandFrom c string.length string = text at fits counted
  obtain ⟨last, written, kept⟩ := rescan_of_room string.length string kept
    (e := ⟨true, text.length, [], text.length + 1⟩) (by
      rw [expanded]
      show [].length + text.length ≤ text.length + 1
      rw [List.length_nil]
      omega)
  rw [expanded] at written
  refine ⟨last, ?_, kept⟩
  have start : Expansion.add text ⟨false, 0, [], 0⟩ = ⟨false, text.length, [], 0⟩ := by
    simp [Expansion.add]
  have done : Expansion.add text ⟨true, text.length, [], text.length + 1⟩ =
      ⟨true, text.length, text, text.length + 1⟩ := rfl
  have nul : Expansion.write [0] ⟨true, text.length, text, text.length + 1⟩ =
      .ok ⟨true, text.length, text ++ [0], text.length + 1⟩ := if_pos (Nat.le_refl _)
  rw [start] at counted
  rw [done] at written
  have size : ((text.length : Int) + 1).toNat = text.length + 1 := by omega
  unfold chatExpandPasses
  rw [counted]
  simp only [bind, Except.bind]
  rw [if_neg (by omega), if_neg (by omega), size, written]
  dsimp only
  rw [nul]
  exact if_pos rfl

/-- What the passes make has been counted by an `int`. -/
theorem fits_of_chatExpandPasses {c c' : ChatInfo} {string text : Bytes}
    (expanded : chatExpandPasses c string = .ok (text, c')) : (text.length : Int) < intMax := by
  unfold chatExpandPasses at expanded
  simp only [bind, Except.bind] at expanded
  split at expanded
  · exact nomatch expanded
  · next first _ =>
    split at expanded
    · exact nomatch expanded
    · split at expanded
      · exact nomatch expanded
      · next counted positive =>
        split at expanded
        · exact nomatch expanded
        · next second _ =>
          split at expanded
          · exact nomatch expanded
          · split at expanded
            · next same =>
              cases expanded
              rw [same]
              omega
            · exact nomatch expanded

end Passes

section Pieces

variable {extract : Bytes → Option (Nat × Bytes)} {rest name : Bytes} {n : Nat}

theorem pieces_twice (twice : rest.headD 0 = 36) :
    pieces extract (36 :: rest) = .char 36 :: pieces extract rest.tail := by
  rw [pieces, if_pos rfl, if_pos twice]

theorem pieces_none (once : rest.headD 0 ≠ 36) (none : extract rest = .none) :
    pieces extract (36 :: rest) = .char 36 :: pieces extract rest := by
  rw [pieces, if_pos rfl, if_neg once, none]

theorem pieces_some (once : rest.headD 0 ≠ 36) (found : extract rest = some (n, name)) :
    pieces extract (36 :: rest) = .var name :: pieces extract (rest.drop n) := by
  rw [pieces, if_pos rfl, if_neg once, found]

theorem pieces_other {ch : UInt8} (other : ch ≠ 36) :
    pieces extract (ch :: rest) = .char ch :: pieces extract rest := by
  rw [pieces, if_neg other]

/-- A text without a `$` stays as it is. -/
theorem pieces_append {front : Bytes} (plain : (36 : UInt8) ∉ front) (rest : Bytes) :
    pieces extract (front ++ rest) = front.map .char ++ pieces extract rest := by
  induction front with
  | nil => rfl
  | cons ch front ih =>
      obtain ⟨other, plain⟩ := not_or.mp (mt List.mem_cons.mpr plain)
      rw [List.cons_append, pieces_other (Ne.symm other), ih plain]
      rfl

end Pieces

section Substitution

theorem takeWhile_isNameChar {text : Bytes} (letter : isAlpha (text.headD 0) = true) :
    ∃ c rest, text.takeWhile isNameChar = c :: rest ∧ isAlpha c = true := by
  cases text with
  | nil => exact absurd letter (by decide)
  | cons c text =>
      have kept : isNameChar c = true := by
        unfold isNameChar
        rw [List.headD_cons] at letter
        rw [letter]
        rfl
      rw [List.takeWhile_cons_of_pos kept]
      exact ⟨c, _, rfl, letter⟩

/-- The name that `ChatVarExtract` reads is the identifier, cut to a length. -/
theorem chatVarExtract_eq {max : Nat} (positive : 2 ≤ max) (rest : Bytes) :
    chatVarExtract rest max false =
      if rest.headD 0 = 123 then
        (identifier rest.tail).bind fun name =>
          if (rest.tail.drop (name.take (max - 1)).length).headD 0 = 125 then
            some ((name.take (max - 1)).length + 2, name.take (max - 1))
          else none
      else (identifier rest).map fun name => ((name.take (max - 1)).length, name.take (max - 1)) := by
  have read (body : Bytes) (brace : Bool) :
      (if (!isAlpha (body.headD 0)) = true then none
        else if ((body.takeWhile isNameChar).take (max - 1)).isEmpty = true then none
        else if (brace && (body.drop ((body.takeWhile isNameChar).take (max - 1)).length).headD 0
          != 125) = true then none
        else some (((body.takeWhile isNameChar).take (max - 1)).length + (if brace then 2 else 0),
          (body.takeWhile isNameChar).take (max - 1))) =
      (identifier body).bind fun name =>
        if (brace && (body.drop (name.take (max - 1)).length).headD 0 != 125) = true then none
        else some ((name.take (max - 1)).length + (if brace then 2 else 0), name.take (max - 1)) := by
    unfold identifier
    cases letter : isAlpha (body.headD 0) with
    | false => rfl
    | true =>
        obtain ⟨c, later, found, -⟩ := takeWhile_isNameChar letter
        have nonempty : ((body.takeWhile isNameChar).take (max - 1)).isEmpty = false := by
          rw [found, show max - 1 = (max - 2) + 1 by omega]
          rfl
        rw [nonempty]
        rfl
  unfold chatVarExtract
  by_cases brace : rest.headD 0 = 123
  · have read := read rest.tail true
    rw [if_pos brace, brace]
    simp only [beq_self_eq_true, if_true, Bool.true_and, Bool.false_and, Bool.false_eq_true,
      if_false] at read ⊢
    rw [read]
    congr 1
    funext name
    by_cases closed : (rest.tail.drop (name.take (max - 1)).length).headD 0 = 125
    · rw [if_pos closed, closed]
      rfl
    · rw [if_neg closed, if_pos (by simpa using closed)]
  · have read := read rest false
    have no : (rest.headD 0 == 123) = false := by simpa using brace
    rw [if_neg brace, no]
    simp only [Bool.false_eq_true, if_false, Bool.false_and] at read ⊢
    rw [read]
    cases identifier rest with
    | none => rfl
    | some name => rfl

/-- What is behind a name that has been cut is no brace. -/
theorem headD_drop_identifier {text name : Bytes} {count : Nat} (found : identifier text = some name)
    (cut : count < name.length) : isNameChar ((text.drop count).headD 0) = true := by
  unfold identifier at found
  split at found
  · cases found
    have here : (text.drop count).headD 0 ∈ text.takeWhile isNameChar := by
      have parts := List.takeWhile_append_dropWhile (p := isNameChar) (l := text)
      have first : (text.drop count).headD 0 = (text.takeWhile isNameChar)[count] := by
        conv_lhs => rw [← parts]
        rw [List.drop_append_of_le_length cut.le, List.drop_eq_getElem_cons cut]
        rfl
      rw [first]
      exact List.getElem_mem cut
    exact List.mem_takeWhile_imp here
  · exact nomatch found

variable {rest name : Bytes} {n : Nat}

/-- A reference is a name, or a name between braces. -/
theorem reference_cases (found : reference rest = some (n, name)) :
    (rest.headD 0 ≠ 123 ∧ n = name.length ∧ identifier rest = some name) ∨
      (rest.headD 0 = 123 ∧ n = name.length + 2 ∧ identifier rest.tail = some name ∧
        (rest.tail.drop name.length).headD 0 = 125) := by
  unfold reference at found
  by_cases brace : rest.headD 0 = 123
  · rw [if_pos brace] at found
    right
    cases named : identifier rest.tail with
    | none =>
        rw [named] at found
        cases found
    | some name' =>
        rw [named] at found
        dsimp only at found
        split at found
        · next closed =>
          cases found
          exact ⟨brace, rfl, rfl, closed⟩
        · cases found
  · rw [if_neg brace] at found
    left
    obtain ⟨name', named, same⟩ := Option.map_eq_some_iff.mp found
    cases same
    exact ⟨brace, rfl, named⟩

theorem chatVarExtract_none {max : Nat} (positive : 2 ≤ max) (no_reference : reference rest = none) :
    chatVarExtract rest max false = none := by
  rw [chatVarExtract_eq positive]
  unfold reference at no_reference
  by_cases brace : rest.headD 0 = 123
  · rw [if_pos brace] at no_reference ⊢
    cases found : identifier rest.tail with
    | none => rfl
    | some name =>
        rw [found] at no_reference
        rw [Option.bind_some]
        by_cases cut : max - 1 < name.length
        · have inside := headD_drop_identifier found cut
          rw [List.length_take_of_le cut.le, if_neg]
          intro closed
          rw [closed] at inside
          exact absurd inside (by decide)
        · rw [List.take_of_length_le (Nat.not_lt.mp cut)]
          dsimp only at no_reference
          split at no_reference
          · exact nomatch no_reference
          · next opened => rw [if_neg opened]
  · rw [if_neg brace] at no_reference ⊢
    rw [Option.map_eq_none_iff] at no_reference
    rw [no_reference]
    rfl

theorem chatVarExtract_short {max : Nat} (positive : 2 ≤ max)
    (found : reference rest = some (n, name)) (short : name.length < max) :
    chatVarExtract rest max false = some (n, name) := by
  rw [chatVarExtract_eq positive]
  rcases reference_cases found with ⟨brace, rfl, named⟩ | ⟨brace, rfl, named, closed⟩
  · rw [if_neg brace, named, Option.map_some, List.take_of_length_le (by omega)]
  · rw [if_pos brace, named, Option.bind_some, List.take_of_length_le (by omega), if_pos closed]

/-- A name that is too long is cut, or it is no name at all. -/
theorem chatVarExtract_long {max : Nat} (positive : 2 ≤ max)
    (found : reference rest = some (n, name)) (long : max ≤ name.length) :
    (rest.headD 0 ≠ 123 ∧ n = name.length ∧ identifier rest = some name ∧
        chatVarExtract rest max false = some (max - 1, name.take (max - 1))) ∨
      (rest.headD 0 = 123 ∧ n = name.length + 2 ∧ identifier rest.tail = some name ∧
        chatVarExtract rest max false = none) := by
  rw [chatVarExtract_eq positive]
  rcases reference_cases found with ⟨brace, size, named⟩ | ⟨brace, size, named, -⟩
  · left
    refine ⟨brace, size, named, ?_⟩
    rw [if_neg brace, named, Option.map_some, List.length_take_of_le (by omega)]
  · right
    have inside := headD_drop_identifier named (show max - 1 < name.length by omega)
    refine ⟨brace, size, named, ?_⟩
    rw [if_pos brace, named, Option.bind_some, List.length_take_of_le (by omega), if_neg]
    intro closed
    rw [closed] at inside
    exact absurd inside (by decide)

abbrev extracted (rest : Bytes) : Option (Nat × Bytes) := chatVarExtract rest (maxVarname - 1) false

theorem expandFrom_eq (c : ChatInfo) {fuel : Nat} {string : Bytes} (enough : string.length ≤ fuel) :
    expandFrom c fuel string =
      (pieces extracted string).flatMap (Piece.text fun name => (chatVarGet c (36 :: name)).getD []) := by
  induction fuel generalizing string with
  | zero =>
      obtain rfl := List.length_eq_zero_iff.mp (Nat.le_zero.mp enough)
      rw [expandFrom, pieces, List.flatMap_nil]
      exact nofun
  | succ fuel ih =>
      cases string with
      | nil =>
          rw [expandFrom, pieces, List.flatMap_nil]
          exact nofun
      | cons ch rest =>
          rw [List.length_cons, Nat.add_le_add_iff_right] at enough
          rw [expandFrom, pieces]
          by_cases prefixed : ch = 36
          · rw [if_pos prefixed, if_pos prefixed]
            by_cases twice : rest.headD 0 = 36
            · rw [if_pos twice, if_pos twice, List.flatMap_cons,
                ih ((List.tail_sublist rest).length_le.trans enough)]
              rfl
            · rw [if_neg twice, if_neg twice]
              unfold extracted
              cases chatVarExtract rest (maxVarname - 1) false with
              | none =>
                  dsimp only
                  rw [List.flatMap_cons, ih enough]
                  rfl
              | some found =>
                  dsimp only
                  rw [List.flatMap_cons, ih ((List.drop_sublist _ rest).length_le.trans enough)]
                  rfl
          · rw [if_neg prefixed, if_neg prefixed, List.flatMap_cons, ih enough]
            rfl

/-- Names that fit are read as they are. -/
theorem pieces_extracted {string : Bytes} (fit : NamesFit string) :
    pieces extracted string = pieces reference string := by
  have two : 2 ≤ maxVarname - 1 := by decide
  unfold NamesFit at fit
  induction string using pieces.induct reference with
  | case1 => rw [pieces, pieces]
  | case2 rest twice ih =>
      rw [pieces_twice twice] at fit ⊢
      rw [pieces_twice twice, ih fun name found => fit name (List.mem_cons_of_mem _ found)]
  | case3 rest once no_reference ih =>
      rw [pieces_none once no_reference] at fit ⊢
      rw [pieces_none once (chatVarExtract_none two no_reference),
        ih fun name found => fit name (List.mem_cons_of_mem _ found)]
  | case4 rest once n name found ih =>
      rw [pieces_some once found] at fit ⊢
      rw [pieces_some once (chatVarExtract_short two found (fit name List.mem_cons_self)),
        ih fun name found => fit name (List.mem_cons_of_mem _ found)]
  | case5 ch rest other ih =>
      rw [pieces_other other] at fit ⊢
      rw [pieces_other other, ih fun name found => fit name (List.mem_cons_of_mem _ found)]

structure IsName (name : Bytes) : Prop where
  letter : isAlpha (name.headD 0) = true
  chars : ∀ ch ∈ name, isNameChar ch = true

theorem isName_identifier {text : Bytes} (found : identifier text = some name) : IsName name := by
  unfold identifier at found
  split at found
  · next letter =>
    cases found
    refine ⟨?_, fun ch member => List.mem_takeWhile_imp member⟩
    obtain ⟨c, later, same, letter⟩ := takeWhile_isNameChar letter
    rw [same]
    exact letter
  · exact nomatch found

theorem isName_reference (found : reference rest = some (n, name)) : IsName name := by
  rcases reference_cases found with ⟨-, -, named⟩ | ⟨-, -, named, -⟩
  · exact isName_identifier named
  · exact isName_identifier named

theorem isName_of_mem {string : Bytes} (found : .var name ∈ pieces reference string) :
    IsName name := by
  induction string using pieces.induct reference with
  | case1 =>
      rw [pieces] at found
      exact nomatch found
  | case2 rest twice ih =>
      rw [pieces_twice twice] at found
      exact ih ((List.mem_cons.mp found).resolve_left nofun)
  | case3 rest once no_reference ih =>
      rw [pieces_none once no_reference] at found
      exact ih ((List.mem_cons.mp found).resolve_left nofun)
  | case4 rest once n name' named ih =>
      rw [pieces_some once named] at found
      rcases List.mem_cons.mp found with same | later
      · cases same
        exact isName_reference named
      · exact ih later
  | case5 ch rest other ih =>
      rw [pieces_other other] at found
      exact ih ((List.mem_cons.mp found).resolve_left nofun)

/-- A name that fits is the one that is looked up. -/
theorem chatVarGet_name (c : ChatInfo) (is_name : IsName name) (fits : name.length < maxVarname) :
    (chatVarGet c (36 :: name)).getD [] = c.valueOf name := by
  have no_brace : (name.headD 0 == 123) = false := by
    have letter := is_name.letter
    by_contra brace
    rw [Bool.not_eq_false, beq_iff_eq] at brace
    rw [brace] at letter
    exact absurd letter (by decide)
  have nonempty : name.isEmpty = false := by
    cases name with
    | nil => exact absurd is_name.letter (by decide)
    | cons ch name => rfl
  have whole : (name.takeWhile isNameChar).take (maxVarname - 1) = name := by
    rw [List.takeWhile_eq_self_iff.mpr is_name.chars, List.take_of_length_le (by omega)]
  have read : chatVarExtract name maxVarname true = some (name.length, name) := by
    unfold chatVarExtract
    simp only [no_brace, Bool.false_eq_true, if_false, whole, is_name.letter, nonempty,
      List.drop_length]
    rfl
  unfold chatVarGet ChatInfo.valueOf
  rw [if_neg (List.cons_ne_nil _ _), List.tail_cons, read]

/-- Where the names of a string fit, its expansion is the substitution. -/
theorem chatExpandString_eq {c : ChatInfo} {string : Bytes} (fit : NamesFit string) :
    chatExpandString c string = substitute c string := by
  unfold chatExpandString substitute
  rw [expandFrom_eq c (Nat.le_refl _), pieces_extracted fit]
  apply List.flatMap_congr
  intro piece found
  cases piece with
  | char ch => rfl
  | var name =>
      exact chatVarGet_name c (isName_of_mem found)
        (Nat.lt_of_lt_of_le (fit name found) (by decide))

/-- A reference has no `$`. -/
theorem reference_plain (found : reference rest = some (n, name)) :
    n ≤ rest.length ∧ (36 : UInt8) ∉ rest.take n := by
  -- A name at the beginning of a text.
  have taken {text : Bytes} (named : identifier text = some name) :
      text.take name.length = name ∧ name.length ≤ text.length ∧ (36 : UInt8) ∉ name := by
    have plain : (36 : UInt8) ∉ name := fun member =>
      absurd ((isName_identifier named).chars 36 member) (by decide)
    unfold identifier at named
    split at named
    · cases named
      have front := List.takeWhile_prefix isNameChar (l := text)
      exact ⟨(List.prefix_iff_eq_take.mp front).symm, front.length_le, plain⟩
    · exact nomatch named
  rcases reference_cases found with ⟨-, rfl, named⟩ | ⟨brace, rfl, named, closed⟩
  · obtain ⟨same, within, plain⟩ := taken named
    exact ⟨within, by rwa [same]⟩
  · obtain ⟨same, within, plain⟩ := taken named
    cases rest with
    | nil => exact absurd brace (by decide)
    | cons open_ text =>
        rw [List.headD_cons] at brace
        rw [List.tail_cons] at same within closed
        subst brace
        cases behind : text.drop name.length with
        | nil =>
            rw [behind] at closed
            exact absurd closed (by decide)
        | cons close later =>
            rw [behind, List.headD_cons] at closed
            subst closed
            have split := List.take_append_drop name.length text
            rw [behind, same] at split
            have length := congrArg List.length split
            rw [List.length_append, List.length_cons] at length
            refine ⟨by rw [List.length_cons]; omega, ?_⟩
            have front : (123 :: text).take (name.length + 2) = 123 :: name ++ [125] := by
              rw [List.take_succ_cons, ← split, List.take_append, Nat.add_sub_cancel_left,
                List.take_of_length_le (Nat.le_succ _)]
              rfl
            rw [front]
            intro member
            rcases List.mem_append.mp member with member | member
            · exact plain ((List.mem_cons.mp member).resolve_left (by decide))
            · exact absurd member (by decide)

def plain (pieces : List Piece) : Bytes := pieces.flatMap (Piece.text fun _ => [])

theorem length_plain_char (ch : UInt8) (pieces : List Piece) :
    (plain (.char ch :: pieces)).length = (plain pieces).length + 1 := rfl

theorem plain_var (name : Bytes) (pieces : List Piece) : plain (.var name :: pieces) = plain pieces :=
  rfl

theorem plain_chars (front : Bytes) (pieces : List Piece) :
    plain (front.map .char ++ pieces) = front ++ plain pieces := by
  induction front with
  | nil => rfl
  | cons ch front ih =>
      rw [List.map_cons, List.cons_append, List.cons_append, ← ih]
      rfl

/-- A name that does not fit leaves bytes that are to be replaced. -/
theorem plain_extracted (string : Bytes) :
    (plain (pieces reference string)).length ≤ (plain (pieces extracted string)).length ∧
      (¬ NamesFit string →
        (plain (pieces reference string)).length < (plain (pieces extracted string)).length) := by
  have two : 2 ≤ maxVarname - 1 := by decide
  unfold NamesFit
  induction string using pieces.induct reference with
  | case1 =>
      rw [pieces, pieces]
      exact ⟨Nat.le_refl _, fun long => absurd nofun long⟩
  | case2 rest twice ih =>
      rw [pieces_twice twice, pieces_twice twice, length_plain_char, length_plain_char]
      refine ⟨Nat.succ_le_succ ih.1, fun long => Nat.succ_lt_succ (ih.2 fun fit => long ?_)⟩
      exact fun name found => fit name ((List.mem_cons.mp found).resolve_left nofun)
  | case3 rest once no_reference ih =>
      rw [pieces_none once no_reference, pieces_none once (chatVarExtract_none two no_reference),
        length_plain_char, length_plain_char]
      refine ⟨Nat.succ_le_succ ih.1, fun long => Nat.succ_lt_succ (ih.2 fun fit => long ?_)⟩
      exact fun name found => fit name ((List.mem_cons.mp found).resolve_left nofun)
  | case4 rest once n name found ih =>
      rw [pieces_some once found, plain_var]
      by_cases short : name.length < maxVarname - 1
      · rw [pieces_some once (chatVarExtract_short two found short), plain_var]
        refine ⟨ih.1, fun long => ih.2 fun fit => long fun name' member => ?_⟩
        rcases List.mem_cons.mp member with same | later
        · cases same
          exact short
        · exact fit name' later
      · obtain ⟨within, no_dollar⟩ := reference_plain found
        suffices less : (plain (pieces reference (rest.drop n))).length <
            (plain (pieces extracted (36 :: rest))).length from ⟨less.le, fun _ => less⟩
        rcases chatVarExtract_long two found (Nat.not_lt.mp short) with
          ⟨-, rfl, -, cut⟩ | ⟨-, -, -, none⟩
        · have front : (36 : UInt8) ∉ (rest.take name.length).drop (maxVarname - 1 - 1) :=
            fun member => no_dollar ((List.drop_sublist _ _).subset member)
          have split : rest.drop (maxVarname - 1 - 1) =
              (rest.take name.length).drop (maxVarname - 1 - 1) ++ rest.drop name.length := by
            conv_lhs => rw [← List.take_append_drop name.length rest]
            rw [List.drop_append_of_le_length (by rw [List.length_take_of_le within]; omega)]
          rw [pieces_some once cut, plain_var, split, pieces_append front, plain_chars,
            List.length_append, List.length_drop, List.length_take_of_le within]
          omega
        · rw [pieces_none once none, length_plain_char]
          conv_rhs => rw [← List.take_append_drop n rest]
          rw [pieces_append no_dollar, plain_chars, List.length_append]
          omega
  | case5 ch rest other ih =>
      rw [pieces_other other, pieces_other other, length_plain_char, length_plain_char]
      refine ⟨Nat.succ_le_succ ih.1, fun long => Nat.succ_lt_succ (ih.2 fun fit => long ?_)⟩
      exact fun name found => fit name ((List.mem_cons.mp found).resolve_left nofun)

end Substitution

section Theorems

variable {string : Bytes}

/-- Where all names of a string fit, its expansion is right if and only if it can be counted. -/
theorem expandsRight_of_namesFit (fit : NamesFit string) (c : ChatInfo) :
    ExpandsRight c string ↔ ExpansionFits c string := by
  have same := chatExpandString_eq (c := c) fit
  unfold ExpandsRight ExpansionFits
  constructor
  · rintro ⟨c', expanded⟩
    exact fits_of_chatExpandPasses expanded
  · intro fits
    rw [← same] at fits ⊢
    obtain ⟨c', expanded, -⟩ := chatExpandPasses_of_fits fits
    exact ⟨c', expanded⟩

structure NoVars (c : ChatInfo) : Prop where
  globals : c.globals = []
  temps : c.temps = []

theorem substitute_noVars {c : ChatInfo} (none : NoVars c) (string : Bytes) :
    substitute c string = plain (pieces reference string) := by
  have unset : c.valueOf = fun _ => [] := by
    funext name
    unfold ChatInfo.valueOf
    rw [none.globals, none.temps, ite_self]
    rfl
  unfold substitute plain
  rw [unset]

theorem chatExpandString_noVars {c : ChatInfo} (none : NoVars c) (string : Bytes) :
    chatExpandString c string = plain (pieces extracted string) := by
  have unset (rname : Bytes) : (chatVarGet c rname).getD [] = [] := by
    unfold chatVarGet
    rw [none.globals, none.temps]
    split
    · rfl
    · split
      · rfl
      · rw [ite_self]
        rfl
  unfold chatExpandString plain
  rw [expandFrom_eq c (Nat.le_refl _)]
  simp only [unset]

theorem length_plain_pieces (extract : Bytes → Option (Nat × Bytes)) (string : Bytes) :
    (plain (pieces extract string)).length ≤ string.length := by
  induction string using pieces.induct extract with
  | case1 =>
      rw [pieces]
      exact Nat.le_refl _
  | case2 rest twice ih =>
      rw [pieces_twice twice, length_plain_char, List.length_cons]
      exact Nat.succ_le_succ (ih.trans (List.tail_sublist rest).length_le)
  | case3 rest once none ih =>
      rw [pieces_none once none, length_plain_char, List.length_cons]
      exact Nat.succ_le_succ ih
  | case4 rest once n name found ih =>
      rw [pieces_some once found, plain_var, List.length_cons]
      exact Nat.le_succ_of_le (ih.trans (List.drop_sublist n rest).length_le)
  | case5 ch rest other ih =>
      rw [pieces_other other, length_plain_char, List.length_cons]
      exact Nat.succ_le_succ ih

/-- Without variables, a name that does not fit makes the expansion of a string too long. -/
theorem not_expandsRight {c : ChatInfo} (none : NoVars c) (short : (string.length : Int) < intMax)
    (long : ¬ NamesFit string) : ExpansionFits c string ∧ ¬ ExpandsRight c string := by
  have meant := substitute_noVars none string
  have made := chatExpandString_noVars none string
  have meant_short := length_plain_pieces reference string
  have made_short := length_plain_pieces extracted string
  have less := (plain_extracted string).2 long
  constructor
  · unfold ExpansionFits
    rw [meant]
    omega
  · rintro ⟨c', right⟩
    have counted : ((chatExpandString c string).length : Int) < intMax := by
      rw [made]
      omega
    obtain ⟨last, expanded, -⟩ := chatExpandPasses_of_fits counted
    rw [expanded, made, meant] at right
    have same := congrArg Prod.fst (Except.ok.inj right)
    dsimp only at same
    rw [same] at less
    exact Nat.lt_irrefl _ less

def noVars : ChatInfo where
  script := []
  pos := none
  scriptName := false
  state := .idle
  rdEvent := false
  wrEvent := false
  strays := 0
  out := none
  timers := []
  nextTimer := 0
  matches_ := []
  stack := []
  globals := []
  temps := []
  lineBuf := []
  results := []
  asserted := false
  crashed := false

/-- A string expands as it should, whatever the variables are, if and only if its names fit. -/
theorem expandsRight_iff (string : Bytes) (short : (string.length : Int) < intMax) :
    (∀ c, ExpandsRight c string ↔ ExpansionFits c string) ↔ NamesFit string := by
  constructor
  · intro always
    by_contra long
    have none : NoVars noVars := ⟨rfl, rfl⟩
    obtain ⟨fits, wrong⟩ := not_expandsRight none short long
    exact wrong ((always noVars).mpr fits)
  · exact expandsRight_of_namesFit

/-- `a$b$$`. -/
theorem expandsRight_short :
    (∀ c, ExpandsRight c [97, 36, 98, 36, 36] ↔ ExpansionFits c [97, 36, 98, 36, 36]) ↔
      NamesFit [97, 36, 98, 36, 36] :=
  expandsRight_iff [97, 36, 98, 36, 36] (by decide)

/-- A `$` and a name of 99 letters, which a variable may have. -/
theorem not_expandsRight_always :
    ¬ ∀ c string, ExpansionFits c string → ExpandsRight c string := by
  intro always
  have short : ((36 :: List.replicate 99 97 : Bytes).length : Int) < intMax := by
    rw [List.length_cons, List.length_replicate]
    decide
  have long : ¬ NamesFit (36 :: List.replicate 99 97) := by
    intro fit
    have found : reference (List.replicate 99 97) = some (99, List.replicate 99 97) := by decide
    have member : .var (List.replicate 99 97) ∈ pieces reference (36 :: List.replicate 99 97) := by
      rw [pieces_some (by decide) found]
      exact List.mem_cons_self
    exact absurd (fit _ member) (by decide)
  have none : NoVars noVars := ⟨rfl, rfl⟩
  obtain ⟨fits, wrong⟩ := not_expandsRight none short long
  exact wrong (always noVars _ fits)

end Theorems

end Mpd.Chat
