import Mathlib.Data.List.TakeWhile
import Mpd.Chat.Runs

/-! What `ChatRead` makes of a stream of bytes that comes in several events. The place in the line
buffer is kept during an event and taken from the buffer at the next one. -/

set_option autoImplicit false

namespace Mpd.Chat

variable {env : ChatEnv}

section Definitions

structure RegexCall where
  pat : Bytes
  text : Bytes
  complete : Bool
  deriving DecidableEq, Repr

def lineText (line : Bytes) : Bytes × Bool :=
  let complete := line.getLast? == some 10
  let text := if complete then line.dropLast else line
  (if complete && text.getLast? == some 13 then text.dropLast else text, complete)

def scanCalls (env : ChatEnv) (ch : UInt8) (line : Bytes) : List ChatMatch → List RegexCall
  | [] => []
  | m :: rest =>
      let call := match m.pattern with
        | .exact _ _ => []
        | .regex pat => [⟨pat, (lineText line).1, (lineText line).2⟩]
      match tryMatch env ch line m with
      | (_, _, some _) => call
      | (_, _, none) => call ++ scanCalls env ch line rest

structure ByteSeen where
  calls : List RegexCall
  fired : Option (ChatMatch × Bool × List Bytes)
  deriving DecidableEq, Repr

structure LineState where
  buf : Bytes
  len : Nat
  matches_ : List ChatMatch
  deriving DecidableEq, Repr

def placed (ch : UInt8) (len : Nat) (buf : Bytes) : Bytes :=
  (putChar ch len buf).1.take (putChar ch len buf).2

def scanSeen (env : ChatEnv) (ch : UInt8) (line : Bytes) (ms : List ChatMatch) :
    ByteSeen × List ChatMatch :=
  let pending := ms.map (·.receive ch)
  let scanned := chatScan env ch line pending
  (⟨scanCalls env ch line pending, scanned.2.2⟩, scanned.2.1)

/-- A byte that is read, as in the loop of `ChatRead`. -/
def LineState.byte (env : ChatEnv) (ch : UInt8) (st : LineState) : ByteSeen × LineState :=
  let scanned := scanSeen env ch (placed ch st.len st.buf) st.matches_
  (scanned.1,
    { buf := if ch = 10 then [] else (putChar ch st.len st.buf).1
      len := if ch = 10 then 0 else (putChar ch st.len st.buf).2
      matches_ := scanned.2 })

def seen (env : ChatEnv) : Bytes → LineState → List ByteSeen
  | [], _ => []
  | ch :: chars, st =>
      (st.byte env ch).1 ::
        if (st.byte env ch).1.fired = none then seen env chars (st.byte env ch).2 else []

/-- The state after bytes at which no match fires. -/
def after (env : ChatEnv) : Bytes → LineState → Option LineState
  | [], st => some st
  | ch :: chars, st =>
      if (st.byte env ch).1.fired = none then after env chars (st.byte env ch).2 else none

def strlen (buf : Bytes) : Nat := (buf.takeWhile (· != 0)).length

/-- An event starts with the place that it finds in the buffer. -/
def entered (c : ChatInfo) : LineState := ⟨c.lineBuf, strlen c.lineBuf, c.matches_⟩

def chatReads (env : ChatEnv) : List Bytes → ChatInfo → List ByteSeen
  | [], _ => []
  | chunk :: chunks, c =>
      seen env chunk (entered c) ++
        match (chatInput env chunk (strlen c.lineBuf)
          (ensure (c.state == .wait) { c with rdEvent := false })).1 with
        | some _ => []
        | none => chatReads env chunks (chatRead env chunk .again c)

/-- A regular expression is handed the same whether a byte comes to the place that was kept or to
the one that the buffer has. -/
def Kept (ch : UInt8) (st : LineState) : Prop :=
  lineText (placed ch st.len st.buf) = lineText (placed ch (strlen st.buf) st.buf)

/-- Something holds at each byte at which a regular expression is tried, where the place is kept
from byte to byte. -/
def AtEachTried (env : ChatEnv) (good : UInt8 → LineState → Prop) : Bytes → LineState → Prop
  | [], _ => True
  | ch :: chars, st =>
      ((st.byte env ch).1.calls ≠ [] → good ch st) ∧
        ((st.byte env ch).1.fired = none → AtEachTried env good chars (st.byte env ch).2)

def PlaceKept (env : ChatEnv) (chars : Bytes) (st : LineState) : Prop :=
  AtEachTried env Kept chars st

/-- However a stream is split into events, the same bytes are compared and the same match fires at
the same byte. -/
def SplitsAgree (env : ChatEnv) (chars : Bytes) (c : ChatInfo) : Prop :=
  ∀ first second : List Bytes, first.flatten = chars → second.flatten = chars →
    chatReads env first c = chatReads env second c

end Definitions

section Scan

variable {ch : UInt8} {line line' : Bytes}

theorem tryMatch_exact {m : ChatMatch} {pat : Bytes} {matched : Nat}
    (pattern : m.pattern = .exact pat matched) :
    tryMatch env ch line m = tryMatch env ch line' m := by
  unfold tryMatch
  rw [pattern]

/-- A regular expression sees what it is handed. -/
theorem tryMatch_handed {m : ChatMatch} (same : lineText line = lineText line') :
    tryMatch env ch line m = tryMatch env ch line' m := by
  cases pattern : m.pattern with
  | exact pat matched => exact tryMatch_exact pattern
  | regex pat =>
      have handed (line : Bytes) : tryMatch env ch line m =
          (true, m, (env.regexec pat (lineText line).1 (lineText line).2).map
            fun pieces => (false, pieces)) := by
        unfold tryMatch
        rw [pattern]
        rfl
      rw [handed, handed, same]

theorem chatScan_handed {ms : List ChatMatch} (same : lineText line = lineText line') :
    chatScan env ch line ms = chatScan env ch line' ms ∧
      scanCalls env ch line ms = scanCalls env ch line' ms := by
  induction ms with
  | nil => exact ⟨rfl, rfl⟩
  | cons m rest ih =>
      unfold chatScan scanCalls
      rw [tryMatch_handed same, ih.1, ih.2, same]
      exact ⟨rfl, rfl⟩

/-- A regular expression is tried at each byte that comes to it. -/
theorem scanCalls_regex {m : ChatMatch} {pat : Bytes} (pattern : m.pattern = .regex pat)
    (line : Bytes) (rest : List ChatMatch) :
    ∃ later, scanCalls env ch line (m :: rest) =
      ⟨pat, (lineText line).1, (lineText line).2⟩ :: later := by
  unfold scanCalls
  rw [pattern]
  dsimp only
  split
  · exact ⟨_, rfl⟩
  · exact ⟨_, rfl⟩

theorem exact_of_scanCalls {m : ChatMatch} {rest : List ChatMatch}
    (none : scanCalls env ch line (m :: rest) = []) :
    ∃ pat matched, m.pattern = .exact pat matched := by
  cases pattern : m.pattern with
  | exact pat matched => exact ⟨pat, matched, rfl⟩
  | regex pat =>
      obtain ⟨later, calls⟩ := scanCalls_regex pattern line rest
      rw [calls] at none
      cases none

/-- Where no regular expression is tried the line does not matter. -/
theorem chatScan_blind {ms : List ChatMatch} (none : scanCalls env ch line ms = []) :
    chatScan env ch line ms = chatScan env ch line' ms ∧ scanCalls env ch line' ms = [] := by
  induction ms with
  | nil => exact ⟨rfl, rfl⟩
  | cons m rest ih =>
      obtain ⟨pat, matched, pattern⟩ := exact_of_scanCalls none
      have same : tryMatch env ch line m = tryMatch env ch line' m := tryMatch_exact pattern
      unfold scanCalls at none ⊢
      unfold chatScan
      rw [pattern] at none ⊢
      rw [same] at none ⊢
      rcases tried : tryMatch env ch line' m with ⟨holds, m', hit⟩
      rw [tried] at none
      cases hit with
      | some told => exact ⟨rfl, rfl⟩
      | none =>
          obtain ⟨scan, calls⟩ := ih none
          dsimp only
          rw [scan, calls]
          exact ⟨rfl, rfl⟩

/-- What the first regular expression is handed tells what all are. -/
theorem lineText_of_scanCalls {ms : List ChatMatch} (tried : scanCalls env ch line ms ≠ [])
    (same : scanCalls env ch line ms = scanCalls env ch line' ms) :
    lineText line = lineText line' := by
  induction ms with
  | nil => exact absurd rfl tried
  | cons m rest ih =>
      cases pattern : m.pattern with
      | regex pat =>
          obtain ⟨later, first⟩ := scanCalls_regex pattern line rest
          obtain ⟨later', first'⟩ := scanCalls_regex pattern line' rest
          rw [first, first'] at same
          injection same with heads
          injection heads with _ text complete
          exact Prod.ext text complete
      | exact pat matched =>
          unfold scanCalls at tried same
          rw [pattern] at tried same
          have alike : tryMatch env ch line m = tryMatch env ch line' m := tryMatch_exact pattern
          rw [alike] at tried same
          rcases matched' : tryMatch env ch line' m with ⟨holds, m', hit⟩
          rw [matched'] at tried same
          cases hit with
          | some told => exact absurd rfl tried
          | none => exact ih tried same

/-- No regular expression is pending where none is tried and nothing fires. -/
def Blind (ms : List ChatMatch) : Prop := ∀ m ∈ ms, ∃ pat matched, m.pattern = .exact pat matched

theorem tryMatch_pattern {m : ChatMatch} {pat : Bytes} {matched : Nat}
    (pattern : m.pattern = .exact pat matched) :
    ∃ next, (tryMatch env ch line m).2.1.pattern = .exact pat next := by
  unfold tryMatch
  rw [pattern]
  dsimp only
  split
  · exact ⟨matched, pattern⟩
  · exact ⟨_, rfl⟩

theorem blind_of_missed {ms ms' : List ChatMatch} {holds : Bool}
    (none : scanCalls env ch line ms = [])
    (missed : chatScan env ch line ms = (holds, ms', .none)) : Blind ms' := by
  induction ms generalizing holds ms' with
  | nil =>
      cases missed
      exact fun _ found => absurd found List.not_mem_nil
  | cons m rest ih =>
      obtain ⟨pat, matched, pattern⟩ := exact_of_scanCalls none
      have next := @tryMatch_pattern env ch line m pat matched pattern
      unfold scanCalls at none
      unfold chatScan at missed
      rw [pattern] at none
      rcases tried : tryMatch env ch line m with ⟨first, m', hit⟩
      rw [tried] at none missed next
      cases hit with
      | some told => cases (Prod.mk.inj (Prod.mk.inj missed).2).2
      | none =>
          rcases later : chatScan env ch line rest with ⟨second, rest', hit'⟩
          dsimp only at missed
          rw [later] at missed
          cases missed
          intro other found
          rcases List.mem_cons.mp found with rfl | found
          · exact ⟨pat, next⟩
          · exact ih none later other found

theorem Blind.calls {ms : List ChatMatch} (blind : Blind ms) : scanCalls env ch line ms = [] := by
  induction ms with
  | nil => rfl
  | cons m rest ih =>
      obtain ⟨pat, matched, pattern⟩ := blind m List.mem_cons_self
      unfold scanCalls
      rw [pattern]
      dsimp only
      split
      · rfl
      · exact ih fun m found => blind m (List.mem_cons_of_mem _ found)

theorem Blind.receive {ms : List ChatMatch} (blind : Blind ms) :
    Blind (ms.map (·.receive ch)) := by
  intro m found
  obtain ⟨old, pending, rfl⟩ := List.mem_map.mp found
  exact blind old pending

theorem scanSeen_handed (ms : List ChatMatch) (same : lineText line = lineText line') :
    scanSeen env ch line ms = scanSeen env ch line' ms := by
  unfold scanSeen
  dsimp only
  rw [(chatScan_handed same).1, (chatScan_handed same).2]

theorem scanSeen_blind {ms : List ChatMatch} (none : (scanSeen env ch line ms).1.calls = [])
    (line' : Bytes) : scanSeen env ch line ms = scanSeen env ch line' ms := by
  have calls : scanCalls env ch line (ms.map (·.receive ch)) = [] := none
  obtain ⟨scan, calls'⟩ := @chatScan_blind env ch line line' _ calls
  unfold scanSeen
  dsimp only
  rw [scan, calls, calls']

theorem blind_scanSeen {ms : List ChatMatch} (none : (scanSeen env ch line ms).1.calls = [])
    (missed : (scanSeen env ch line ms).1.fired = .none) :
    Blind (scanSeen env ch line ms).2 := by
  rcases scanned : chatScan env ch line (ms.map (·.receive ch)) with ⟨holds, ms', hit⟩
  have hit' : (scanSeen env ch line ms).1.fired = hit := congrArg (·.2.2) scanned
  have left : (scanSeen env ch line ms).2 = ms' := congrArg (·.2.1) scanned
  rw [left]
  rw [hit'] at missed
  subst missed
  exact blind_of_missed none scanned

end Scan

section Place

variable {ch : UInt8} {buf : Bytes} {a b : Nat}

theorem strlen_le (buf : Bytes) : strlen buf ≤ buf.length :=
  (List.takeWhile_sublist _).length_le

theorem placed_of_lt (room : a < 255) (within : a ≤ buf.length) :
    placed ch a buf = buf.take a ++ [ch] := by
  unfold placed putChar
  rw [if_pos (by exact room)]
  dsimp only
  rw [← List.singleton_append, ← List.append_assoc]
  apply List.take_left'
  simp [List.length_take, Nat.min_eq_left within]

theorem placed_of_ge (full : 255 ≤ a) : placed ch a buf = buf.take a := by
  unfold placed putChar
  rw [if_neg (by exact Nat.not_lt.mpr full)]

theorem lineText_of_open {line : Bytes} (other : ch ≠ 10) :
    lineText (line ++ [ch]) = (line ++ [ch], false) := by
  unfold lineText
  have open_ : ((line ++ [ch]).getLast? == some 10) = false := by simp [other]
  rw [open_]
  rfl

/-- A line that is handed as one that is not complete is handed as it is. -/
theorem eq_of_lineText_open {line line' : Bytes} (other : ch ≠ 10)
    (same : lineText (line ++ [ch]) = lineText line') : line' = line ++ [ch] := by
  rw [lineText_of_open other] at same
  unfold lineText at same
  dsimp only at same
  have complete : false = (line'.getLast? == some 10) := congrArg Prod.snd same
  rw [← complete] at same
  exact (congrArg Prod.fst same).symm

/-- The buffer stays as it is where its last byte is put once more. -/
theorem putChar_last (last : buf.take 255 = buf.take 254 ++ [ch]) :
    putChar ch 254 buf = putChar ch 255 buf := by
  have buffer : buf.take 254 ++ ch :: buf.drop 255 = buf := by
    rw [← List.singleton_append, ← List.append_assoc, ← last, List.take_append_drop]
  unfold putChar
  rw [if_pos (by decide), if_neg (by decide), buffer]

/-- Two places at which a regular expression is handed the same with a byte that does not end the
line. -/
theorem putChar_of_handed_lt (other : ch ≠ 10) (less : a < b) (withinB : b ≤ buf.length)
    (same : lineText (placed ch a buf) = lineText (placed ch b buf)) :
    putChar ch a buf = putChar ch b buf ∨ 255 ≤ a := by
  rcases Nat.lt_or_ge a 255 with room | full
  · left
    have withinA : a ≤ buf.length := by omega
    rw [placed_of_lt room withinA] at same
    have raw := eq_of_lineText_open other same
    have lengths := congrArg List.length raw
    rcases Nat.lt_or_ge b 255 with roomB | fullB
    · rw [placed_of_lt roomB withinB] at lengths
      simp only [List.length_append, List.length_take, List.length_singleton] at lengths
      omega
    · rw [placed_of_ge fullB] at raw lengths
      simp only [List.length_append, List.length_take, List.length_singleton] at lengths
      obtain rfl : b = 255 := by omega
      obtain rfl : a = 254 := by omega
      exact putChar_last raw
  · exact .inr full

theorem putChar_of_handed (other : ch ≠ 10) (withinA : a ≤ buf.length) (withinB : b ≤ buf.length)
    (same : lineText (placed ch a buf) = lineText (placed ch b buf)) :
    putChar ch a buf = putChar ch b buf ∨ 255 ≤ a ∧ 255 ≤ b := by
  rcases Nat.lt_trichotomy a b with less | rfl | more
  · rcases putChar_of_handed_lt other less withinB same with alike | full
    · exact .inl alike
    · exact .inr ⟨full, by omega⟩
  · exact .inl rfl
  · rcases putChar_of_handed_lt other more withinA same.symm with alike | full
    · exact .inl alike.symm
    · exact .inr ⟨by omega, full⟩

end Place

section Splits

variable {ch : UInt8} {st : LineState}

def LineState.rewind (st : LineState) : LineState := { st with len := strlen st.buf }

def LineState.Valid (st : LineState) : Prop := st.len ≤ st.buf.length

theorem LineState.valid_rewind (st : LineState) : st.rewind.Valid := strlen_le st.buf

theorem LineState.Valid.byte (valid : st.Valid) (env : ChatEnv) (ch : UInt8) :
    (st.byte env ch).2.Valid := by
  unfold LineState.Valid LineState.byte putChar
  dsimp only
  by_cases newline : ch = 10
  · rw [if_pos newline, if_pos newline]
    exact Nat.le_refl 0
  · rw [if_neg newline, if_neg newline]
    by_cases room : st.len < maxLine - 1
    · rw [if_pos room]
      have within : st.len ≤ st.buf.length := valid
      simp only [List.length_append, List.length_take, List.length_cons]
      omega
    · rw [if_neg room]
      exact valid

/-- Without regular expressions the line does not matter. -/
theorem seen_blind {chars : Bytes} {st st' : LineState} (blind : Blind st.matches_)
    (same : st'.matches_ = st.matches_) :
    seen env chars st' = seen env chars st ∧ PlaceKept env chars st := by
  induction chars generalizing st st' with
  | nil => exact ⟨rfl, trivial⟩
  | cons ch chars ih =>
      have unseen : (st.byte env ch).1.calls = [] := Blind.calls (Blind.receive blind)
      have scan : scanSeen env ch (placed ch st'.len st'.buf) st'.matches_ =
          scanSeen env ch (placed ch st.len st.buf) st.matches_ := by
        rw [same]
        exact (scanSeen_blind unseen _).symm
      have first : (st'.byte env ch).1 = (st.byte env ch).1 := by
        have heads := congrArg Prod.fst scan
        exact heads
      have next : (st'.byte env ch).2.matches_ = (st.byte env ch).2.matches_ := by
        have tails := congrArg Prod.snd scan
        exact tails
      unfold seen PlaceKept AtEachTried
      rw [first]
      by_cases missed : (st.byte env ch).1.fired = none
      · obtain ⟨rest, kept⟩ := ih (blind_scanSeen unseen missed) next
        rw [if_pos missed, if_pos missed, rest]
        exact ⟨rfl, fun tried => absurd unseen tried, fun _ => kept⟩
      · rw [if_neg missed, if_neg missed]
        exact ⟨rfl, fun tried => absurd unseen tried, fun fires => absurd fires missed⟩

/-- A byte that makes no difference leaves one state for both places, or keeps them apart as they
were. -/
theorem byte_rewind (valid : st.Valid) (kept : Kept ch st) :
    (st.rewind.byte env ch).1 = (st.byte env ch).1 ∧
      ((st.rewind.byte env ch).2 = (st.byte env ch).2 ∨
        (st.rewind.byte env ch).2 = (st.byte env ch).2.rewind) := by
  have scan := @scanSeen_handed env ch _ _ st.matches_ kept
  have matches_ : (st.rewind.byte env ch).2.matches_ = (st.byte env ch).2.matches_ :=
    (congrArg Prod.snd scan).symm
  refine ⟨(congrArg Prod.fst scan).symm, ?_⟩
  by_cases newline : ch = 10
  · left
    unfold LineState.byte at matches_ ⊢
    dsimp only at matches_ ⊢
    rw [matches_, if_pos newline, if_pos newline, if_pos newline, if_pos newline]
  rcases putChar_of_handed newline valid (strlen_le st.buf) kept with alike | ⟨fullA, fullB⟩
  · left
    have alike' : putChar ch st.rewind.len st.rewind.buf = putChar ch st.len st.buf := alike.symm
    unfold LineState.byte at matches_ ⊢
    dsimp only at matches_ ⊢
    rw [matches_, alike']
  · right
    have still : putChar ch st.len st.buf = (st.buf, st.len) :=
      if_neg (by exact Nat.not_lt.mpr fullA)
    have still' : putChar ch st.rewind.len st.rewind.buf = (st.buf, strlen st.buf) :=
      if_neg (by exact Nat.not_lt.mpr fullB)
    unfold LineState.byte at matches_ ⊢
    dsimp only [LineState.rewind] at matches_ ⊢
    dsimp only [LineState.rewind] at still'
    simp only [if_neg newline]
    rw [matches_, still, still']

/-- Taking the place from the buffer makes no difference for the bytes that follow. -/
theorem seen_rewind {chars : Bytes} (valid : st.Valid) (kept : PlaceKept env chars st) :
    seen env chars st.rewind = seen env chars st ∧ PlaceKept env chars st.rewind := by
  induction chars generalizing st with
  | nil => exact ⟨rfl, trivial⟩
  | cons ch chars ih =>
      obtain ⟨here, later⟩ := kept
      have alike : Kept ch st.rewind := rfl
      by_cases unseen : (st.byte env ch).1.calls = []
      · have scan := scanSeen_blind unseen (placed ch (strlen st.buf) st.buf)
        have first : (st.rewind.byte env ch).1 = (st.byte env ch).1 :=
          (congrArg Prod.fst scan).symm
        have next : (st.rewind.byte env ch).2.matches_ = (st.byte env ch).2.matches_ :=
          (congrArg Prod.snd scan).symm
        unfold seen PlaceKept AtEachTried
        rw [first]
        by_cases missed : (st.byte env ch).1.fired = none
        · have blind := blind_scanSeen unseen missed
          have same := @seen_blind env chars (st.byte env ch).2 _ blind next
          have kept := @seen_blind env chars (st.rewind.byte env ch).2 (st.byte env ch).2
            (next ▸ blind) next.symm
          rw [if_pos missed, if_pos missed, same.1]
          exact ⟨rfl, fun _ => alike, fun _ => kept.2⟩
        · rw [if_neg missed, if_neg missed]
          exact ⟨rfl, fun _ => alike, fun fires => absurd fires missed⟩
      · obtain ⟨first, next⟩ := @byte_rewind env ch st valid (here unseen)
        unfold seen PlaceKept AtEachTried
        rw [first]
        by_cases missed : (st.byte env ch).1.fired = none
        · rw [if_pos missed, if_pos missed]
          rcases next with next | next
          · rw [next]
            exact ⟨rfl, fun _ => alike, fun _ => later missed⟩
          · obtain ⟨rest, kept⟩ := ih (valid.byte env ch) (later missed)
            rw [next, rest]
            exact ⟨rfl, fun _ => alike, fun _ => kept⟩
        · rw [if_neg missed, if_neg missed]
          exact ⟨rfl, fun _ => alike, fun fires => absurd fires missed⟩

theorem seen_cons (ch : UInt8) (chars : Bytes) (st : LineState) :
    seen env (ch :: chars) st = (st.byte env ch).1 ::
      if (st.byte env ch).1.fired = none then seen env chars (st.byte env ch).2 else [] := rfl

theorem after_cons (ch : UInt8) (chars : Bytes) (st : LineState) :
    after env (ch :: chars) st =
      if (st.byte env ch).1.fired = none then after env chars (st.byte env ch).2 else none := rfl

theorem seen_append (first second : Bytes) (st : LineState) :
    seen env (first ++ second) st = seen env first st ++
      match after env first st with
      | none => []
      | some st' => seen env second st' := by
  induction first generalizing st with
  | nil => rfl
  | cons ch chars ih =>
      rw [List.cons_append, seen_cons, seen_cons, after_cons]
      by_cases missed : (st.byte env ch).1.fired = none
      · rw [if_pos missed, if_pos missed, if_pos missed, ih]
        rfl
      · rw [if_neg missed, if_neg missed, if_neg missed]
        rfl

/-- After an event without a match the state is kept for the next bytes. -/
theorem PlaceKept.after {first second : Bytes} {st st' : LineState} (valid : st.Valid)
    (kept : PlaceKept env (first ++ second) st) (missed : after env first st = some st') :
    st'.Valid ∧ PlaceKept env second st' := by
  induction first generalizing st with
  | nil =>
      obtain rfl := Option.some.inj missed
      exact ⟨valid, kept⟩
  | cons ch chars ih =>
      unfold Mpd.Chat.after at missed
      split at missed
      · next none => exact ih (valid.byte env ch) (kept.2 none) missed
      · exact nomatch missed

/-- What comes of several events, where only the line and the matches are followed. -/
def splitSeen (env : ChatEnv) : List Bytes → LineState → List ByteSeen
  | [], _ => []
  | chunk :: chunks, st =>
      seen env chunk st ++
        match after env chunk st with
        | none => []
        | some st' => splitSeen env chunks st'.rewind

/-- The bytes in one event and in several ones. -/
theorem splitSeen_of_placeKept {chunks : List Bytes} (valid : st.Valid)
    (kept : PlaceKept env chunks.flatten st) :
    splitSeen env chunks st = seen env chunks.flatten st := by
  induction chunks generalizing st with
  | nil => rfl
  | cons chunk chunks ih =>
      rw [List.flatten_cons] at kept ⊢
      rw [seen_append]
      unfold splitSeen
      cases missed : after env chunk st with
      | none => rfl
      | some st' =>
          obtain ⟨valid', kept'⟩ := kept.after valid missed
          obtain ⟨same, rewound⟩ := seen_rewind valid' kept'
          dsimp only
          rw [ih st'.valid_rewind rewound, same]

theorem splitSeen_singleton (chars : Bytes) (st : LineState) :
    splitSeen env [chars] st = seen env chars st := by
  unfold splitSeen
  cases after env chars st with
  | none => exact List.append_nil _
  | some st' => exact List.append_nil _

/-- If a split into two events never makes a difference, the place is kept. -/
theorem placeKept_of_two {chars : Bytes}
    (alike : ∀ first second, first ++ second = chars →
      splitSeen env [first, second] st = seen env chars st) : PlaceKept env chars st := by
  induction chars generalizing st with
  | nil => trivial
  | cons ch chars ih =>
      refine ⟨fun tried => ?_, fun missed => ih fun first second joined => ?_⟩
      · have split := alike [] (ch :: chars) rfl
        have once : splitSeen env [[], ch :: chars] st =
            splitSeen env [ch :: chars] st.rewind := rfl
        rw [once, splitSeen_singleton] at split
        have heads := List.head_eq_of_cons_eq split
        have calls : (st.rewind.byte env ch).1.calls = (st.byte env ch).1.calls :=
          congrArg ByteSeen.calls heads
        exact lineText_of_scanCalls tried calls.symm
      · have split := alike (ch :: first) second (by rw [List.cons_append, joined])
        unfold splitSeen seen after at split
        rw [if_pos missed, if_pos missed, if_pos missed, List.cons_append] at split
        unfold splitSeen
        exact List.tail_eq_of_cons_eq split

end Splits

section Bytes

variable {env : ChatEnv} {ch : UInt8} {st : LineState}

/-- What a buffer of `maxLine` bytes holds of a line: there is room for the NUL, and it has been
emptied at the last newline. -/
structure LineState.Fits (st : LineState) : Prop where
  valid : st.Valid
  room : st.buf.length < maxLine
  noNewline : 10 ∉ st.buf

structure LineState.LastAgain (ch : UInt8) (st : LineState) : Prop where
  other : ch ≠ 10
  places : st.len = 254 ∧ strlen st.buf = 255 ∨ st.len = 255 ∧ strlen st.buf = 254
  last : st.buf[254]? = some ch

/-- A newline comes to a carriage return, and the one of the two that would be dropped before it
is the only one. -/
structure LineState.ReturnAhead (ch : UInt8) (st : LineState) : Prop where
  newline : ch = 10
  places : st.len + 1 = strlen st.buf
  room : st.len < 254
  ahead : st.buf[st.len]? = some 13
  alone : (st.buf.take st.len).getLast? ≠ some 13

/-- The line up to the place is a string that ends there, but for two corner cases. -/
def LineState.Whole (ch : UInt8) (st : LineState) : Prop :=
  st.len = strlen st.buf ∨ st.LastAgain ch ∨ st.ReturnAhead ch

theorem LineState.Fits.entered {c : ChatInfo} (room : c.lineBuf.length < maxLine)
    (noNewline : 10 ∉ c.lineBuf) : (entered c).Fits :=
  ⟨strlen_le c.lineBuf, room, noNewline⟩

theorem LineState.Fits.byte (fits : st.Fits) (ch : UInt8) : (st.byte env ch).2.Fits := by
  refine ⟨fits.valid.byte env ch, ?_, ?_⟩
  · unfold LineState.byte putChar
    dsimp only
    by_cases newline : ch = 10
    · rw [if_pos newline]
      decide
    · rw [if_neg newline]
      have within : st.len ≤ st.buf.length := fits.valid
      have room := fits.room
      split
      · simp only [List.length_append, List.length_take, List.length_cons, List.length_drop]
        omega
      · exact room
  · unfold LineState.byte putChar
    dsimp only
    by_cases newline : ch = 10
    · rw [if_pos newline]
      exact List.not_mem_nil
    · rw [if_neg newline]
      split
      · intro found
        rcases List.mem_append.mp found with front | back
        · exact fits.noNewline (List.mem_of_mem_take front)
        · rcases List.mem_cons.mp back with here | behind
          · exact newline here.symm
          · exact fits.noNewline (List.mem_of_mem_drop behind)
      · exact fits.noNewline

/-- The text of a line that a newline ends. -/
theorem lineText_newline (line : Bytes) :
    lineText (line ++ [10]) =
      (if line.getLast? = some 13 then line.dropLast else line, true) := by
  unfold lineText
  simp

theorem dropped_length (line : Bytes) :
    (if line.getLast? = some 13 then line.dropLast else line).length ≤ line.length ∧
      line.length ≤ (if line.getLast? = some 13 then line.dropLast else line).length + 1 := by
  split
  · rw [List.length_dropLast]
    omega
  · omega

theorem take_succ_of_getElem? {buf : Bytes} {a : Nat} {last : UInt8} (here : buf[a]? = some last) :
    buf.take (a + 1) = buf.take a ++ [last] := by
  rw [List.take_add_one, here]
  rfl

/-- Two places where a newline comes to the line, before the last one that a byte can be put at. -/
theorem handed_newline_iff {buf : Bytes} {a b : Nat} (less : a < b) (within : b ≤ buf.length) :
    lineText (buf.take a ++ [10]) = lineText (buf.take b ++ [10]) ↔
      b = a + 1 ∧ buf[a]? = some 13 ∧ (buf.take a).getLast? ≠ some 13 := by
  rw [lineText_newline, lineText_newline, Prod.mk.injEq]
  have lengthA : (buf.take a).length = a := List.length_take_of_le (by omega)
  have lengthB : (buf.take b).length = b := List.length_take_of_le within
  constructor
  · rintro ⟨same, -⟩
    have lengths := congrArg List.length same
    have next : b = a + 1 := by
      have short := (dropped_length (buf.take a)).1
      have long := (dropped_length (buf.take b)).2
      omega
    subst next
    obtain ⟨last, here⟩ : ∃ last, buf[a]? = some last := ⟨_, List.getElem?_eq_getElem within⟩
    have taken := take_succ_of_getElem? here
    have stripped : (buf.take (a + 1)).getLast? = some 13 := by
      by_contra whole
      rw [if_neg whole, lengthB] at lengths
      split at lengths
      · rw [List.length_dropLast] at lengths
        omega
      · omega
    refine ⟨rfl, ?_, ?_⟩
    · rw [taken, List.getLast?_concat] at stripped
      rw [here, stripped]
    · intro also
      have some_ : buf.take a ≠ [] := by
        rintro empty
        rw [empty] at also
        cases also
      have positive := List.length_pos_of_ne_nil some_
      rw [if_pos also, if_pos stripped, List.length_dropLast, List.length_dropLast] at lengths
      omega
  · rintro ⟨rfl, here, alone⟩
    rw [take_succ_of_getElem? here, if_neg alone, if_pos List.getLast?_concat,
      List.dropLast_concat]
    exact ⟨rfl, rfl⟩

/-- Two places at which a line of the buffer is handed alike. -/
theorem handed_iff {buf : Bytes} {a b : Nat} (less : a < b) (within : b ≤ buf.length)
    (room : buf.length < maxLine) (noNewline : 10 ∉ buf) :
    lineText (placed ch a buf) = lineText (placed ch b buf) ↔
      (ch ≠ 10 ∧ a = 254 ∧ b = 255 ∧ buf[254]? = some ch) ∨
        (ch = 10 ∧ b = a + 1 ∧ a < 254 ∧ buf[a]? = some 13 ∧
          (buf.take a).getLast? ≠ some 13) := by
  have room : buf.length ≤ 255 := Nat.le_of_lt_succ room
  rw [placed_of_lt (by omega) (by omega)]
  rcases Nat.lt_or_ge b 255 with roomB | fullB
  · rw [placed_of_lt roomB within]
    by_cases newline : ch = 10
    · subst newline
      rw [handed_newline_iff less within]
      constructor
      · rintro ⟨next, return_, alone⟩
        exact .inr ⟨rfl, next, by omega, return_, alone⟩
      · rintro (⟨other, -⟩ | ⟨-, next, -, return_, alone⟩)
        · exact absurd rfl other
        · exact ⟨next, return_, alone⟩
    · rw [lineText_of_open newline, lineText_of_open newline]
      constructor
      · intro same
        have lengths := congrArg (fun text => List.length text.1) same
        simp only [List.length_append, List.length_take] at lengths
        omega
      · rintro (⟨-, -, rfl, -⟩ | ⟨rfl, -⟩)
        · exact absurd roomB (Nat.lt_irrefl _)
        · exact absurd rfl newline
  · obtain rfl : b = 255 := by omega
    rw [placed_of_ge (Nat.le_refl _)]
    by_cases newline : ch = 10
    · subst newline
      have open_ : (lineText (buf.take 255)).2 = false := by
        unfold lineText
        dsimp only
        rw [beq_eq_false_iff_ne]
        intro ends
        exact noNewline (List.mem_of_mem_take (List.mem_of_getLast? ends))
      constructor
      · intro same
        rw [lineText_newline] at same
        have complete := congrArg Prod.snd same
        rw [open_] at complete
        cases complete
      · rintro (⟨other, -⟩ | ⟨-, next, short, -⟩)
        · exact absurd rfl other
        · omega
    · constructor
      · intro same
        have raw := eq_of_lineText_open newline same
        have lengths := congrArg List.length raw
        simp only [List.length_append, List.length_take, List.length_singleton] at lengths
        obtain rfl : a = 254 := by omega
        refine .inl ⟨newline, rfl, rfl, ?_⟩
        obtain ⟨last, here⟩ : ∃ last, buf[254]? = some last :=
          ⟨_, List.getElem?_eq_getElem within⟩
        rw [take_succ_of_getElem? here] at raw
        rw [here, List.singleton_inj.mp (List.append_cancel_left raw)]
      · rintro (⟨-, rfl, -, last⟩ | ⟨rfl, -⟩)
        · rw [take_succ_of_getElem? last]
        · exact absurd rfl newline

/-- The byte at the end of a line that does not fill the buffer is a NUL. -/
theorem getElem?_strlen {buf : Bytes} (within : strlen buf < buf.length) :
    buf[strlen buf]? = some 0 := by
  induction buf with
  | nil => cases within
  | cons byte rest ih =>
      by_cases nul : byte = 0
      · subst nul
        rfl
      · have next : strlen (byte :: rest) = strlen rest + 1 := by
          unfold strlen
          rw [List.takeWhile_cons_of_pos (by simpa using nul), List.length_cons]
        rw [next] at within ⊢
        rw [List.getElem?_cons_succ]
        exact ih (Nat.lt_of_succ_lt_succ within)

/-- The place that is kept from byte to byte makes a difference on these bytes only. -/
theorem kept_iff (fits : st.Fits) : Kept ch st ↔ st.Whole ch := by
  have valid : st.len ≤ st.buf.length := fits.valid
  constructor
  · intro kept
    rcases Nat.lt_trichotomy st.len (strlen st.buf) with less | same | more
    · rcases (handed_iff less (strlen_le _) fits.room fits.noNewline).mp kept with
        ⟨other, len, whole, last⟩ | ⟨newline, next, room, return_, alone⟩
      · exact .inr (.inl ⟨other, .inl ⟨len, whole⟩, last⟩)
      · exact .inr (.inr ⟨newline, next.symm, room, return_, alone⟩)
    · exact .inl same
    · rcases (handed_iff more valid fits.room fits.noNewline).mp kept.symm with
        ⟨other, whole, len, last⟩ | ⟨-, -, -, return_, -⟩
      · exact .inr (.inl ⟨other, .inr ⟨len, whole⟩, last⟩)
      · rw [getElem?_strlen (Nat.lt_of_lt_of_le more valid)] at return_
        exact absurd return_ (by decide)
  · rintro (same | last | return_)
    · unfold Kept
      rw [same]
    · rcases last.places with ⟨len, whole⟩ | ⟨len, whole⟩
      · exact (handed_iff (by omega) (strlen_le _) fits.room fits.noNewline).mpr
          (.inl ⟨last.other, len, whole, last.last⟩)
      · exact ((handed_iff (by omega) valid fits.room fits.noNewline).mpr
          (.inl ⟨last.other, whole, len, last.last⟩)).symm
    · have places := return_.places
      exact (handed_iff (by omega) (strlen_le _) fits.room fits.noNewline).mpr
        (.inr ⟨return_.newline, places.symm, return_.room, return_.ahead, return_.alone⟩)

/-- The condition of the splits on the bytes of the line buffer. -/
theorem placeKept_iff_whole {chars : Bytes} (fits : st.Fits) :
    PlaceKept env chars st ↔ AtEachTried env (fun ch st => st.Whole ch) chars st := by
  unfold PlaceKept
  induction chars generalizing st with
  | nil => exact Iff.rfl
  | cons ch chars ih =>
      unfold AtEachTried
      rw [kept_iff fits, ih (fits.byte ch)]

end Bytes

section Reads

/-- A byte in the loop of `ChatRead`. -/
theorem chatInput_byte (ch : UInt8) (chars : Bytes) (len : Nat) (c : ChatInfo) :
    ∃ c' : ChatInfo,
      c'.lineBuf = (LineState.byte env ch ⟨c.lineBuf, len, c.matches_⟩).2.buf ∧
      c'.matches_ = (LineState.byte env ch ⟨c.lineBuf, len, c.matches_⟩).2.matches_ ∧
      chatInput env (ch :: chars) len c =
        match (LineState.byte env ch ⟨c.lineBuf, len, c.matches_⟩).1.fired with
        | some told => (some told, c')
        | none =>
            chatInput env chars (LineState.byte env ch ⟨c.lineBuf, len, c.matches_⟩).2.len c' := by
  rcases scanned : chatScan env ch (placed ch len c.lineBuf) (c.matches_.map (·.receive ch)) with
    ⟨holds, ms, hit⟩
  refine ⟨ensure holds { c with
    matches_ := ms
    lineBuf := if ch = 10 then [] else (putChar ch len c.lineBuf).1 }, ?_, ?_, ?_⟩
  · cases holds <;> rfl
  · have left : (LineState.byte env ch ⟨c.lineBuf, len, c.matches_⟩).2.matches_ = ms :=
      congrArg (·.2.1) scanned
    rw [left]
    cases holds <;> rfl
  · have fired : (LineState.byte env ch ⟨c.lineBuf, len, c.matches_⟩).1.fired = hit :=
      congrArg (·.2.2) scanned
    rw [fired]
    unfold placed at scanned
    conv_lhs => unfold chatInput
    dsimp only
    rw [scanned]
    cases hit <;> rfl

/-- The line and the matches after an event are those of the engine. -/
theorem chatInput_after (chars : Bytes) (len : Nat) (c : ChatInfo) :
    match after env chars ⟨c.lineBuf, len, c.matches_⟩ with
    | none => (chatInput env chars len c).1 ≠ none
    | some st => (chatInput env chars len c).1 = none ∧
        (chatInput env chars len c).2.lineBuf = st.buf ∧
        (chatInput env chars len c).2.matches_ = st.matches_ := by
  induction chars generalizing len c with
  | nil => exact ⟨rfl, rfl, rfl⟩
  | cons ch chars ih =>
      obtain ⟨c', lineBuf, matches_, byte⟩ := @chatInput_byte env ch chars len c
      rw [byte]
      unfold after
      cases fired : (LineState.byte env ch ⟨c.lineBuf, len, c.matches_⟩).1.fired with
      | some told =>
          rw [if_neg nofun]
          exact nofun
      | none =>
          rw [if_pos rfl]
          have rest := ih (LineState.byte env ch ⟨c.lineBuf, len, c.matches_⟩).2.len c'
          rw [lineBuf, matches_] at rest
          exact rest

/-- The engine as the loop of `ChatRead` finds it. -/
abbrev reading (c : ChatInfo) : ChatInfo := ensure (c.state == .wait) { c with rdEvent := false }

theorem lineBuf_reading (c : ChatInfo) : (reading c).lineBuf = c.lineBuf := by
  unfold reading
  cases c.state == .wait <;> rfl

theorem matches_reading (c : ChatInfo) : (reading c).matches_ = c.matches_ := by
  unfold reading
  cases c.state == .wait <;> rfl

/-- An event without a match ends with the next one registered. -/
theorem chatRead_missed {chunk : Bytes} {c c' : ChatInfo}
    (got : chatInput env chunk (strlen c.lineBuf) (reading c) = (none, c')) :
    chatRead env chunk .again c = { c' with rdEvent := true } := by
  unfold strlen at got
  rw [← lineBuf_reading c] at got
  unfold chatRead
  dsimp only
  rw [got]

/-- Several events of the engine, in the words of the line and the matches. -/
theorem chatReads_eq (chunks : List Bytes) (c : ChatInfo) :
    chatReads env chunks c = splitSeen env chunks (entered c) := by
  induction chunks generalizing c with
  | nil => rfl
  | cons chunk chunks ih =>
      have event := @chatInput_after env chunk (strlen c.lineBuf) (reading c)
      rw [lineBuf_reading, matches_reading] at event
      change match after env chunk (entered c) with | none => _ | some st => _ at event
      unfold chatReads splitSeen
      cases left : after env chunk (entered c) with
      | none =>
          rw [left] at event
          obtain ⟨told, hit⟩ := Option.ne_none_iff_exists'.mp event
          rw [hit]
      | some st =>
          rw [left] at event
          rcases got : chatInput env chunk (strlen c.lineBuf) (reading c) with ⟨hit, c'⟩
          rw [got] at event
          obtain ⟨rfl, lineBuf, matches_⟩ : hit = none ∧ _ := event
          have next : entered (chatRead env chunk .again c) = st.rewind := by
            rw [chatRead_missed got]
            unfold entered LineState.rewind
            dsimp only
            rw [lineBuf, matches_]
          dsimp only
          rw [ih, next]

/-- The splits of a stream agree if and only if no regular expression is handed a line whose
place in the buffer is not where the buffer ends. -/
theorem splitsAgree_iff (env : ChatEnv) (chars : Bytes) (c : ChatInfo) :
    SplitsAgree env chars c ↔ PlaceKept env chars (entered c) := by
  have whole : chatReads env [chars] c = seen env chars (entered c) := by
    rw [chatReads_eq, splitSeen_singleton]
  constructor
  · intro agree
    apply placeKept_of_two
    intro first second joined
    have flat : [first, second].flatten = chars := by simpa using joined
    have same := agree [first, second] [chars] flat (by simp)
    rw [whole, chatReads_eq] at same
    exact same
  · intro kept first second one two
    have valid : (entered c).Valid := strlen_le c.lineBuf
    have right {chunks : List Bytes} (flat : chunks.flatten = chars) :
        chatReads env chunks c = seen env chars (entered c) := by
      rw [chatReads_eq, ← flat]
      exact splitSeen_of_placeKept valid (flat ▸ kept)
    rw [right one, right two]

/-- The place is kept while there is no NUL byte. -/
theorem placeKept_of_noNul {chars : Bytes} {st : LineState} (buf : 0 ∉ st.buf)
    (len : st.len = st.buf.length) (noNul : 0 ∉ chars) : PlaceKept env chars st := by
  induction chars generalizing st with
  | nil => trivial
  | cons ch chars ih =>
      obtain ⟨here, later⟩ := not_or.mp (mt List.mem_cons.mpr noNul)
      have whole : strlen st.buf = st.len := by
        rw [len, strlen, List.takeWhile_eq_self_iff.mpr]
        intro x found
        rw [bne_iff_ne]
        rintro rfl
        exact buf found
      refine ⟨fun _ => ?_, fun _ => ?_⟩
      · unfold Kept
        rw [whole]
      · have put : putChar ch st.len st.buf =
            (st.buf ++ [ch], st.len + 1) ∨ putChar ch st.len st.buf = (st.buf, st.len) := by
          unfold putChar
          split
          · left
            rw [len, List.take_length, List.drop_of_length_le (Nat.le_succ _)]
          · exact .inr rfl
        by_cases newline : ch = 10
        · refine ih ?_ ?_ later
          · unfold LineState.byte
            dsimp only
            rw [if_pos newline]
            exact List.not_mem_nil
          · unfold LineState.byte
            dsimp only
            rw [if_pos newline, if_pos newline]
            rfl
        · rcases put with put | put
          · refine ih ?_ ?_ later
            · unfold LineState.byte
              dsimp only
              rw [if_neg newline, put]
              exact fun found => (List.mem_append.mp found).elim buf
                fun last => here (List.mem_singleton.mp last)
            · unfold LineState.byte
              dsimp only
              rw [if_neg newline, if_neg newline, put, List.length_append, len]
              rfl
          · refine ih ?_ ?_ later
            · unfold LineState.byte
              dsimp only
              rw [if_neg newline, put]
              exact buf
            · unfold LineState.byte
              dsimp only
              rw [if_neg newline, if_neg newline, put]
              exact len

def waitsForRegex : ChatInfo :=
  { chatInit with
    state := .wait
    rdEvent := true
    matches_ := [⟨[], [], .regex [], 0, []⟩] }

/-- A NUL byte between two letters is a part of the line in one event, and is lost in two. -/
theorem not_splitsAgree : ¬ ∀ (env : ChatEnv) (chars : Bytes) (c : ChatInfo),
    SplitsAgree env chars c := by
  intro always
  have same := always plainEnv [97, 0, 98] waitsForRegex [[97, 0, 98]] [[97, 0], [98]]
    (by decide) (by decide)
  exact absurd same (by decide)

end Reads

end Mpd.Chat
