import Mpd.CString
import Mpd.Region
import Mpd.Words

/-! `IfaceFixAclForDelete`: the keys of a table rule are left of its keys and values, for the
command that deletes what `IfaceUp` has added. -/

set_option autoImplicit false

namespace Mpd.TableKeys

open CString Words

def sep (c : UInt8) : Bool := c = 32 || c = 9

inductive Fault where
  | outOfBounds
  deriving DecidableEq, Repr

inductive Returned where
  | rule (text : Bytes)
  | buffer (mem : Bytes)
  deriving DecidableEq, Repr

def Returned.text : Returned → Bytes
  | .rule text => text
  | .buffer mem => content mem

def store (mem : Bytes) (s : Nat) (block : Bytes) : Except Fault Bytes :=
  if s + block.length ≤ mem.length then .ok (Region.overwrite mem s block) else .error .outOfBounds

theorem length_rest_lt (c : UInt8) (r : Bytes) :
    (((c :: r).dropWhile (!sep ·)).dropWhile sep).length < (c :: r).length := by
  cases separates : sep c with
  | true =>
      rw [List.dropWhile_cons_of_neg (by rw [separates]; exact nofun),
        List.dropWhile_cons_of_pos separates, List.length_cons]
      exact Nat.lt_succ_of_le (List.dropWhile_sublist _).length_le
  | false =>
      rw [List.dropWhile_cons_of_pos (by rw [separates]; rfl), List.length_cons]
      exact Nat.lt_succ_of_le
        ((List.dropWhile_sublist _).trans (List.dropWhile_sublist _)).length_le

/-- The loop of `IfaceFixAclForDelete`, at a place of the rule that is no separator. The buffer has
`mem`, and the next byte goes to `s`. -/
def fixLoop (orig : Bytes) : Bytes → (state : Int) → (mem : Bytes) → (s : Nat) →
    Except Fault Returned
  | [], _, mem, s => do
      let mem ← store mem s [0]
      .ok (.buffer mem)
  | c :: r, state, mem, s =>
      let word := (c :: r).takeWhile (!sep ·)
      let rest := (c :: r).dropWhile (!sep ·)
      if state = 0 ∧ rest = [] then .ok (.rule (c :: r))
      else if state < 0 then fixLoop orig (rest.dropWhile sep) 1 mem s
      else if (mem.length : Int) - s < word.length + 1 + state then .ok (.rule orig)
      else do
        let (mem, s) ←
          if state ≠ 0 then do
            let mem ← store mem s [32]
            .ok (mem, s + 1)
          else .ok (mem, s)
        let mem ← store mem s word
        fixLoop orig (rest.dropWhile sep) (-1) mem (s + word.length)
termination_by r => r.length
decreasing_by
  all_goals exact length_rest_lt c r

def ifaceFixAclForDelete (r buf : Bytes) : Except Fault Returned :=
  fixLoop r (r.dropWhile sep) 0 buf 0

def keys (r : Bytes) : List Bytes := everyOther (words sep r)

def joinedKeys (r : Bytes) : Bytes := [32].intercalate (keys r)

/-- `IfaceUp` adds a rule to its table: a key, its value, the next key. -/
def addedKeys (rule : Bytes) : List Bytes := keys rule

/-- `IfaceDown` deletes a list of keys from the table. -/
def deletedKeys (text : Bytes) : List Bytes := words sep text

/-- The joined keys where they fit, the rule where they do not, and the word where there is only
one. -/
def JoinedOrKept (r buf : Bytes) : Prop :=
  ∃ returned, ifaceFixAclForDelete r buf = .ok returned ∧
    ((∃ word, words sep r = [word] ∧ returned.text = word) ∨
      (words sep r).length ≠ 1 ∧
        ((joinedKeys r).length < buf.length → ∃ mem, returned = .buffer mem ∧
          content mem = joinedKeys r) ∧
        (buf.length ≤ (joinedKeys r).length → returned = .rule r))

/-- What is returned for a buffer of `len` bytes. A word with nothing behind it is returned as it
is. -/
structure Fixed (r : Bytes) (len : Nat) (returned : Returned) : Prop where
  single : ∀ word, IsWord sep word → r.dropWhile sep = word → returned = .rule word
  joined : ¬ IsWord sep (r.dropWhile sep) → (joinedKeys r).length < len →
    ∃ mem, returned = .buffer mem ∧ mem.length = len ∧ content mem = joinedKeys r
  long : ¬ IsWord sep (r.dropWhile sep) → len ≤ (joinedKeys r).length → returned = .rule r
  deleted : IsWord sep (r.dropWhile sep) ∨ (joinedKeys r).length < len →
    deletedKeys returned.text = addedKeys r

theorem store_append {out tail block : Bytes} (room : block.length ≤ tail.length) :
    store (out ++ tail) out.length block = .ok (out ++ block ++ tail.drop block.length) := by
  unfold store Region.overwrite
  rw [if_pos (by rw [List.length_append]; omega), List.take_left' rfl, List.drop_append,
    List.drop_of_length_le (Nat.le_add_right _ _), List.nil_append, Nat.add_sub_cancel_left]

theorem intercalate_flatMap (word : Bytes) (list : List Bytes) :
    [32].intercalate (word :: list) = word ++ list.flatMap (32 :: ·) := by
  induction list generalizing word with
  | nil => simp [List.intercalate]
  | cons next list ih =>
      rw [List.intercalate_cons_cons, ih next, List.flatMap_cons]
      simp

/-- The buffer with more bytes behind those that it has, or the rule where they do not fit. -/
def continued (orig out tail more : Bytes) : Except Fault Returned :=
  if more.length < tail.length then
    .ok (.buffer (out ++ more ++ 0 :: tail.drop (more.length + 1)))
  else .ok (.rule orig)

theorem continued_append (orig out : Bytes) {tail piece : Bytes} (more : Bytes)
    (fits : piece.length ≤ tail.length) :
    continued orig (out ++ piece) (tail.drop piece.length) more =
      continued orig out tail (piece ++ more) := by
  unfold continued
  rw [List.length_append, List.length_drop, List.drop_drop, List.append_assoc out piece more]
  by_cases room : piece.length + more.length < tail.length
  · rw [if_pos room, if_pos (by omega), Nat.add_assoc]
  · rw [if_neg room, if_neg (by omega)]

/-- The loop behind the first word, where it skips a value or copies a key. -/
theorem fixLoop_spec (orig : Bytes) {r : Bytes} (copies : Bool) (out tail : Bytes)
    (clean : ∀ c rest, r = c :: rest → sep c = false) (room : 0 < tail.length) :
    fixLoop orig r (if copies then 1 else -1) (out ++ tail) out.length =
      continued orig out tail
        ((everyOther (if copies then words sep r else (words sep r).tail)).flatMap (32 :: ·)) := by
  induction size : r.length using Nat.strongRecOn generalizing r copies out tail with
  | ind size ih =>
  cases r with
  | nil =>
      have stored : store (out ++ tail) out.length [0] = .ok (out ++ [0] ++ tail.drop 1) :=
        store_append room
      have none : (everyOther (if copies then words sep [] else (words sep []).tail)).flatMap
          (32 :: ·) = [] := by
        cases copies <;> rfl
      rw [none, fixLoop, stored, continued, List.length_nil, if_pos room, List.append_nil,
        List.append_assoc]
      rfl
  | cons c rest =>
      have other := clean c rest rfl
      have shorter := length_rest_lt c rest
      have clean' : ∀ d later, ((c :: rest).dropWhile (!sep ·)).dropWhile sep = d :: later →
          sep d = false := by
        intro d later left
        have stopped := List.head?_dropWhile_not sep ((c :: rest).dropWhile (!sep ·))
        rw [left] at stopped
        simpa using stopped
      rw [words_takeWhile other, ← words_dropWhile ((c :: rest).dropWhile (!sep ·)), fixLoop]
      dsimp only
      generalize (c :: rest).takeWhile (!sep ·) = word
      generalize ((c :: rest).dropWhile (!sep ·)).dropWhile sep = next at shorter clean' ⊢
      cases copies with
      | false =>
          rw [if_neg (by simp), if_pos (by decide)]
          exact ih next.length (size ▸ shorter) true out tail clean' room rfl
      | true =>
          rw [if_neg (by simp), if_neg (by decide), if_pos rfl, if_pos rfl, everyOther_cons,
            List.flatMap_cons]
          by_cases short : tail.length < word.length + 2
          · rw [if_pos (by rw [List.length_append]; omega), continued, if_neg]
            rw [List.length_append, List.length_cons]
            omega
          rw [if_neg (by rw [List.length_append]; omega), if_pos (by decide)]
          have first : store (out ++ tail) out.length [32] = .ok (out ++ [32] ++ tail.drop 1) :=
            store_append (by simp; omega)
          have second : store (out ++ [32] ++ tail.drop 1) (out.length + 1) word =
              .ok (out ++ [32] ++ word ++ (tail.drop 1).drop word.length) := by
            have place : out.length + 1 = (out ++ [32]).length := by rw [List.length_append]; rfl
            rw [place]
            exact store_append (by rw [List.length_drop]; omega)
          have later := ih next.length (size ▸ shorter) false (out ++ [32] ++ word)
            ((tail.drop 1).drop word.length) clean' (by simp; omega) rfl
          rw [List.length_append, List.length_append, List.length_singleton] at later
          rw [first]
          dsimp only [bind, Except.bind]
          rw [second]
          dsimp only
          rw [if_neg Bool.false_ne_true] at later
          have fits : (32 :: word).length ≤ tail.length := by
            rw [List.length_cons]
            omega
          rw [later, List.drop_drop, List.append_assoc, Nat.add_comm 1, ← List.length_cons,
            List.singleton_append]
          exact continued_append orig out _ fits

theorem not_isWord_of_behind {c d : UInt8} {r rest : Bytes}
    (behind : (c :: r).dropWhile (!sep ·) = d :: rest) (separates : sep d = true) :
    ¬ IsWord sep (c :: r) := by
  intro is_word
  have inside : d ∈ c :: r := (List.dropWhile_sublist (!sep ·)).subset (behind ▸ List.mem_cons_self)
  rw [is_word.clean d inside] at separates
  cases separates

/-- A single word with nothing behind it is returned; else the joined keys or the rule are. -/
theorem ifaceFixAclForDelete_eq (r : Bytes) {buf : Bytes} (room : buf ≠ []) :
    (IsWord sep (r.dropWhile sep) →
      ifaceFixAclForDelete r buf = .ok (.rule (r.dropWhile sep))) ∧
    (¬ IsWord sep (r.dropWhile sep) →
      ifaceFixAclForDelete r buf = continued r [] buf (joinedKeys r)) := by
  have positive := List.length_pos_of_ne_nil room
  have all : keys r = everyOther (words sep (r.dropWhile sep)) := by rw [words_dropWhile, keys]
  unfold ifaceFixAclForDelete joinedKeys
  rw [all]
  cases left : r.dropWhile sep with
  | nil =>
      refine ⟨fun is_word => absurd rfl is_word.nonempty, fun _ => ?_⟩
      have stored : store buf 0 [0] = .ok ([0] ++ buf.drop 1) := @store_append [] buf [0] positive
      rw [fixLoop, stored, continued, words_nil]
      exact (if_pos positive).symm
  | cons c rest =>
      have other : sep c = false := by
        have stopped := List.head?_dropWhile_not sep r
        rw [left] at stopped
        simpa using stopped
      rw [words_takeWhile other, fixLoop, everyOther_cons, intercalate_flatMap]
      dsimp only
      rcases dropWhile_cases sep (c :: rest) with none | ⟨d, later, some, separates⟩
      · have whole := List.takeWhile_append_dropWhile (p := (!sep ·)) (l := c :: rest)
        rw [none, List.append_nil] at whole
        refine ⟨fun _ => if_pos ⟨rfl, none⟩, fun many => ?_⟩
        rw [← whole] at many
        exact absurd (isWord_takeWhile other rest) many
      · refine ⟨fun is_word => absurd is_word (not_isWord_of_behind some separates), fun _ => ?_⟩
        rw [if_neg (by rw [some]; exact fun both => nomatch both.2), if_neg (by decide)]
        have clean : ∀ e more, ((c :: rest).dropWhile (!sep ·)).dropWhile sep = e :: more →
            sep e = false := by
          intro e more next
          have stopped := List.head?_dropWhile_not sep ((c :: rest).dropWhile (!sep ·))
          rw [next] at stopped
          simpa using stopped
        rw [← words_dropWhile ((c :: rest).dropWhile (!sep ·))]
        generalize (c :: rest).takeWhile (!sep ·) = word
        generalize ((c :: rest).dropWhile (!sep ·)).dropWhile sep = next at clean ⊢
        by_cases short : buf.length < word.length + 1
        · rw [if_pos (by omega), continued, if_neg]
          rw [List.length_append]
          omega
        · have stored : store buf 0 word = .ok (word ++ buf.drop word.length) :=
            @store_append [] buf word (by omega)
          have spec := fixLoop_spec r false word (buf.drop word.length) clean
            (by rw [List.length_drop]; omega)
          rw [if_neg Bool.false_ne_true, if_neg Bool.false_ne_true] at spec
          rw [if_neg (by omega), if_neg (by decide)]
          dsimp only [bind, Except.bind]
          rw [stored]
          dsimp only
          rw [Nat.zero_add, spec]
          exact continued_append r [] _ (by omega)

/-- The keys fit where the rule is shorter than the buffer. -/
theorem length_joinedKeys (r : Bytes) : (joinedKeys r).length ≤ r.length := by
  unfold joinedKeys
  have total : extent (words sep r) ≤ r.length + 1 := extent_words r
  have fewer := extent_everyOther (words sep r)
  cases some : keys r with
  | nil => exact Nat.zero_le _
  | cons key rest =>
      have room := length_intercalate (32 : UInt8) key rest
      rw [← some] at room ⊢
      unfold keys at room ⊢
      omega

theorem isWord_of_key {r key : Bytes} (found : key ∈ keys r) : IsWord sep key :=
  isWord_of_mem ((everyOther_sublist _).subset found)

theorem zero_not_mem_joinedKeys {r : Bytes} (string : (0 : UInt8) ∉ r) :
    (0 : UInt8) ∉ joinedKeys r := by
  have clean : ∀ key ∈ keys r, (0 : UInt8) ∉ key := fun key found inside =>
    string (mem_of_mem_words ((everyOther_sublist _).subset found) inside)
  unfold joinedKeys
  cases some : keys r with
  | nil => exact List.not_mem_nil
  | cons key rest =>
      rw [some] at clean
      rw [intercalate_flatMap]
      intro found
      rcases List.mem_append.mp found with first | later
      · exact clean key List.mem_cons_self first
      · obtain ⟨other, listed, inside⟩ := List.mem_flatMap.mp later
        rcases List.mem_cons.mp inside with space | inside
        · exact absurd space (by decide)
        · exact clean other (List.mem_cons_of_mem _ listed) inside

/-- The keys that are joined are found again. -/
theorem deletedKeys_joinedKeys (r : Bytes) : deletedKeys (joinedKeys r) = keys r :=
  words_intercalate (by decide) fun _ => isWord_of_key

/-- What is returned for a buffer that is not empty, and nothing is written outside of it. -/
theorem ifaceFixAclForDelete_fixed (r buf : Bytes) (string : (0 : UInt8) ∉ r) (room : buf ≠ []) :
    ∃ returned, ifaceFixAclForDelete r buf = .ok returned ∧ Fixed r buf.length returned := by
  obtain ⟨single, many⟩ := ifaceFixAclForDelete_eq r room
  by_cases is_word : IsWord sep (r.dropWhile sep)
  · refine ⟨_, single is_word, ?_, fun no => absurd is_word no, fun no => absurd is_word no, ?_⟩
    · rintro word - rfl
      rfl
    · intro _
      unfold deletedKeys addedKeys keys
      rw [← words_dropWhile r]
      change words sep (r.dropWhile sep) = _
      rw [words_word is_word]
      rfl
  · rw [many is_word, continued]
    by_cases fits : (joinedKeys r).length < buf.length
    · have text : content ([] ++ joinedKeys r ++ 0 :: buf.drop ((joinedKeys r).length + 1)) =
          joinedKeys r :=
        content_append (zero_not_mem_joinedKeys string) (.inr ⟨_, rfl⟩)
      rw [if_pos fits]
      refine ⟨_, rfl, ?_, fun _ _ => ⟨_, rfl, ?_, text⟩, ?_, ?_⟩
      · rintro word single rfl
        exact absurd single is_word
      · simp only [List.nil_append, List.length_append, List.length_cons, List.length_drop]
        omega
      · exact fun _ long => absurd fits (Nat.not_lt.mpr long)
      · intro _
        change deletedKeys (content _) = keys r
        rw [text, deletedKeys_joinedKeys]
    · rw [if_neg fits]
      refine ⟨_, rfl, ?_, fun _ short => absurd short fits, fun _ _ => rfl, ?_⟩
      · rintro word single rfl
        exact absurd single is_word
      · rintro (single | short)
        · exact absurd single is_word
        · exact absurd short fits

/-- `10.0.0.1 1 10.0.0.2` in short: the keys `a` and `b` with a value. -/
theorem ifaceFixAclForDelete_fixed_two :
    ∃ returned, ifaceFixAclForDelete [97, 32, 49, 32, 98] [0, 0, 0, 0, 0, 0] = .ok returned ∧
      Fixed [97, 32, 49, 32, 98] 6 returned :=
  ifaceFixAclForDelete_fixed [97, 32, 49, 32, 98] [0, 0, 0, 0, 0, 0] (by decide) (by decide)

/-- The NUL of an empty string is written behind a buffer of no bytes. -/
theorem not_joinedOrKept : ¬ ∀ r buf : Bytes, (0 : UInt8) ∉ r → JoinedOrKept r buf := by
  intro always
  obtain ⟨returned, run, -⟩ := always [] [] (by decide)
  unfold ifaceFixAclForDelete at run
  rw [List.dropWhile_nil, fixLoop] at run
  exact nomatch run

end Mpd.TableKeys
