import Mpd.Console.Login

/-! The line editor of a session at the console. As long as no TAB, no percent sign and no backslash
is typed, the array for the line holds a string with nothing behind it, and nothing is undefined. -/

set_option autoImplicit false

namespace Mpd.Console

open Mpd.CString

variable {World : Type}

/-- The array for a line, with the text in it and nothing behind. -/
def padded (text : Bytes) : Bytes := text ++ List.replicate (maxConsoleLine - text.length) 0

structure Text (text : Bytes) : Prop where
  visible : ∀ c ∈ text, 32 ≤ c
  short : text.length + 2 ≤ maxConsoleLine

theorem Text.nil : Text [] := ⟨by simp, by decide⟩

theorem Text.no_nul {text : Bytes} (typed : Text text) : (0 : UInt8) ∉ text := fun member =>
  absurd (typed.visible 0 member) (by decide)

theorem ends_replicate (count : Nat) : Ends (List.replicate count 0) := by
  cases count with
  | zero => exact .inl rfl
  | succ count => exact .inr ⟨_, List.replicate_succ⟩

theorem content_padded {text : Bytes} (typed : Text text) : content (padded text) = text :=
  content_append typed.no_nul (ends_replicate _)

theorem padded_concat {text : Bytes} (typed : Text text) (c : UInt8) :
    (padded text).set text.length c = padded (text ++ [c]) := by
  have short := typed.short
  have room : maxConsoleLine - text.length = (maxConsoleLine - (text ++ [c]).length) + 1 := by
    rw [List.length_append, List.length_singleton]
    omega
  rw [padded, padded, room, List.replicate_succ, List.set_append_right _ _ (Nat.le_refl _),
    Nat.sub_self, List.set_cons_zero, List.append_assoc, List.singleton_append]

theorem padded_erase {text : Bytes} {c : UInt8} (typed : Text (text ++ [c])) :
    (padded (text ++ [c])).set text.length 0 = padded text := by
  have short := typed.short
  rw [List.length_append, List.length_singleton] at short
  have room : maxConsoleLine - text.length = (maxConsoleLine - (text ++ [c]).length) + 1 := by
    rw [List.length_append, List.length_singleton]
    omega
  rw [padded, padded, room, List.append_assoc, List.set_append_right _ _ (Nat.le_refl _),
    Nat.sub_self, List.singleton_append, List.set_cons_zero, List.replicate_succ]

theorem writeFormat_plain {text : Bytes} (plain : (37 : UInt8) ∉ text) :
    writeFormat text = some text := by
  induction text with
  | nil => rfl
  | cons c text ih =>
      obtain ⟨first, rest⟩ := List.ne_and_not_mem_of_not_mem_cons plain
      have ordinary : c ≠ 37 := first.symm
      rw [writeFormat.eq_def]
      simp only [ordinary, if_false, ih rest]
      rfl

structure Shows (cs : ConsoleSession World) (text : Bytes) : Prop where
  typed : Text text
  cmd : cs.cmd = padded text
  cmd_len : cs.cmd_len = text.length

structure Plain (text : Bytes) : Prop where
  percent : (37 : UInt8) ∉ text
  backslash : (92 : UInt8) ∉ text

theorem Plain.nil : Plain [] := ⟨List.not_mem_nil, List.not_mem_nil⟩

theorem Plain.init {init : Bytes} {last : UInt8} (plain : Plain (init ++ [last])) : Plain init :=
  ⟨fun member => plain.percent (List.mem_append_left _ member), fun member =>
    plain.backslash (List.mem_append_left _ member)⟩

theorem Plain.concat {text : Bytes} {c : UInt8} (plain : Plain text) (percent : c ≠ 37)
    (backslash : c ≠ 92) : Plain (text ++ [c]) := by
  constructor
  · simp [plain.percent, percent.symm]
  · simp [plain.backslash, backslash.symm]

structure Tidy (cs : ConsoleSession World) : Prop where
  line : ∃ text, Shows cs text ∧ Plain text
  count : cs.history.length = maxConsoleHist
  history : ∀ old ∈ cs.history, ∃ text, Text text ∧ Plain text ∧ old = padded text
  currhist : cs.currhist ≤ maxConsoleHist

section Keys

variable {cs : ConsoleSession World}

theorem padded_nil : padded [] = List.replicate maxConsoleLine 0 := rfl

/-- Nothing but what the editor keeps is looked at. -/
theorem Tidy.of_same {cs' : ConsoleSession World} (tidy : Tidy cs) (cmd : cs'.cmd = cs.cmd)
    (cmd_len : cs'.cmd_len = cs.cmd_len) (history : cs'.history = cs.history)
    (currhist : cs'.currhist = cs.currhist) : Tidy cs' := by
  obtain ⟨text, ⟨typed, shown, length⟩, plain⟩ := tidy.line
  exact ⟨⟨text, ⟨typed, cmd.trans shown, cmd_len.trans length⟩, plain⟩,
    by rw [history]; exact tidy.count, by rw [history]; exact tidy.history,
    by rw [currhist]; exact tidy.currhist⟩

theorem Tidy.act (tidy : Tidy cs) (act : ConsoleAct World) : Tidy (cs.act act) :=
  tidy.of_same rfl rfl rfl rfl

theorem Tidy.clearCmd (tidy : Tidy cs) : Tidy cs.clearCmd :=
  ⟨⟨[], ⟨.nil, padded_nil.symm, rfl⟩, .nil⟩, tidy.count, tidy.history, tidy.currhist⟩

theorem Tidy.atFirst (tidy : Tidy cs) : Tidy { cs with currhist := 0 } :=
  ⟨tidy.line.imp fun _ line => ⟨⟨line.1.typed, line.1.cmd, line.1.cmd_len⟩, line.2⟩,
    tidy.count, tidy.history, Nat.zero_le _⟩

theorem Tidy.pushHistory (tidy : Tidy cs) : Tidy (pushHistory cs) := by
  obtain ⟨text, ⟨typed, shown, length⟩, plain⟩ := tidy.line
  refine ⟨⟨text, ⟨typed, shown, length⟩, plain⟩, ?_, ?_, tidy.currhist⟩
  · simp only [Console.pushHistory, List.length_cons, List.length_dropLast, tidy.count]
    decide
  · intro old member
    cases List.mem_cons.mp member with
    | inl this => exact ⟨text, typed, plain, this.trans shown⟩
    | inr earlier => exact tidy.history old (List.dropLast_subset _ earlier)

/-- The line is written as a format. -/
theorem Tidy.writeCmd (tidy : Tidy cs) : ∃ cs', writeCmd cs = some cs' ∧ Tidy cs' := by
  obtain ⟨text, ⟨typed, shown, -⟩, plain⟩ := tidy.line
  refine ⟨_, ?_, tidy.act (.write text)⟩
  rw [Console.writeCmd, shown, content_padded typed, writeFormat_plain plain.percent]
  rfl

/-- A line of the history becomes the line. -/
theorem Tidy.recall (tidy : Tidy cs) {place currhist : Nat} (inside : place < maxConsoleHist)
    (bounded : currhist ≤ maxConsoleHist) :
    Tidy { cs with
      cmd := cs.history.getD place [], currhist
      cmd_len := (content (cs.history.getD place [])).length } := by
  have within : place < cs.history.length := by
    rw [tidy.count]
    exact inside
  obtain ⟨text, typed, plain, shown⟩ := tidy.history _ (List.getElem_mem within)
  have line : cs.history.getD place [] = padded text := by
    rw [List.getD_eq_getElem _ _ within, shown]
  refine ⟨⟨text, ⟨typed, line, ?_⟩, plain⟩, tidy.count, tidy.history, bounded⟩
  rw [line, content_padded typed]

theorem Tidy.consoleCancel (tidy : Tidy cs) : Tidy (consoleCancel cs) := by
  unfold Console.consoleCancel
  split_ifs
  · exact tidy
  · have cleared := (tidy.act (.write [13, 10])).clearCmd
    exact (cleared.act (.prompt cs.state)).of_same rfl rfl rfl rfl

theorem Tidy.consoleUp (tidy : Tidy cs) : ∃ cs', consoleUp cs = some cs' ∧ Tidy cs' := by
  unfold Console.consoleUp
  split_ifs with more
  · exact ((tidy.act _).recall more.1 more.1).writeCmd
  · exact ⟨cs, rfl, tidy⟩

theorem Tidy.consoleDown (tidy : Tidy cs) : ∃ cs', consoleDown cs = some cs' ∧ Tidy cs' := by
  unfold Console.consoleDown
  split_ifs with deep filled news
  · have older : cs.currhist - 2 < maxConsoleHist :=
      Nat.lt_of_lt_of_le (by omega) tidy.currhist
    have place : cs.currhist - 1 ≤ maxConsoleHist := Nat.le_trans (by omega) tidy.currhist
    exact ((tidy.act _).recall older place).writeCmd
  · exact ⟨_, rfl, ((tidy.pushHistory.act _).act _).atFirst.clearCmd⟩
  · exact ⟨_, rfl, (tidy.act _).atFirst.clearCmd⟩
  · exact ⟨_, rfl, tidy.atFirst.clearCmd⟩

/-- The line without its last character. -/
theorem Shows.init {init : Bytes} {last : UInt8} (shows : Shows cs (init ++ [last])) :
    Shows { cs with cmd_len := cs.cmd_len - 1, cmd := cs.cmd.set (cs.cmd_len - 1) 0 } init := by
  obtain ⟨typed, cmd, cmd_len⟩ := shows
  have shorter : cs.cmd_len - 1 = init.length := by
    rw [cmd_len, List.length_append, List.length_singleton, Nat.add_sub_cancel]
  refine ⟨⟨fun c member => typed.visible c (List.mem_append_left _ member), ?_⟩, ?_, shorter⟩
  · have short := typed.short
    rw [List.length_append] at short
    omega
  · change cs.cmd.set (cs.cmd_len - 1) 0 = padded init
    rw [cmd, shorter, padded_erase typed]

theorem Tidy.consoleErase (tidy : Tidy cs) : Tidy (consoleErase cs) := by
  obtain ⟨text, shows, plain⟩ := tidy.line
  unfold Console.consoleErase
  by_cases filled : 0 < cs.cmd_len
  · obtain rfl | ⟨init, last, rfl⟩ := text.eq_nil_or_concat'
    · rw [shows.cmd_len] at filled
      cases filled
    · have erased : Tidy { cs with
          cmd_len := cs.cmd_len - 1, cmd := cs.cmd.set (cs.cmd_len - 1) 0 } :=
        ⟨⟨init, shows.init, plain.init⟩, tidy.count, tidy.history, tidy.currhist⟩
      rw [if_pos filled]
      dsimp only
      split_ifs
      · exact erased.act _
      · exact erased
  · rw [if_neg filled]
    exact tidy

/-- The line with one more character. -/
theorem Shows.concat {text : Bytes} {c : UInt8} (shows : Shows cs text)
    (room : ¬ cs.cmd_len + 2 ≥ maxConsoleLine) (visible : 32 ≤ c) :
    Shows { cs with cmd := cs.cmd.set cs.cmd_len c, cmd_len := cs.cmd_len + 1 } (text ++ [c]) := by
  obtain ⟨typed, cmd, cmd_len⟩ := shows
  refine ⟨⟨?_, ?_⟩, ?_, ?_⟩
  · intro d member
    cases List.mem_append.mp member with
    | inl earlier => exact typed.visible d earlier
    | inr last => exact List.mem_singleton.mp last ▸ visible
  · rw [List.length_append, List.length_singleton]
    omega
  · change cs.cmd.set cs.cmd_len c = padded (text ++ [c])
    rw [cmd, cmd_len, padded_concat typed]
  · change cs.cmd_len + 1 = (text ++ [c]).length
    rw [cmd_len, List.length_append, List.length_singleton]

theorem Tidy.concat {c : UInt8} (tidy : Tidy cs) (room : ¬ cs.cmd_len + 2 ≥ maxConsoleLine)
    (visible : 32 ≤ c) (percent : c ≠ 37) (backslash : c ≠ 92) :
    Tidy { cs with cmd := cs.cmd.set cs.cmd_len c, cmd_len := cs.cmd_len + 1 } := by
  obtain ⟨text, shows, plain⟩ := tidy.line
  exact ⟨⟨text ++ [c], shows.concat room visible, plain.concat percent backslash⟩, tidy.count,
    tidy.history, tidy.currhist⟩

theorem Tidy.consoleChar {c : UInt8} (tidy : Tidy cs) (percent : c ≠ 37) (backslash : c ≠ 92) :
    Tidy (consoleChar c cs) := by
  unfold Console.consoleChar
  dsimp only
  split_ifs with telnet option full control
  · exact tidy.of_same rfl rfl rfl rfl
  · exact tidy
  · exact tidy.act _
  · exact tidy
  · exact (tidy.act (.write [c])).concat full (UInt8.not_lt.mp control) percent backslash
  · exact tidy.concat full (UInt8.not_lt.mp control) percent backslash

/-- The line is read as a command. -/
theorem Tidy.parseLine (tidy : Tidy cs) (overlap : ParseLine.Overlap) :
    ∃ av, ParseLine.parseLine overlap maxConsoleArgs cs.cmd = some av := by
  obtain ⟨text, ⟨typed, shown, -⟩, plain⟩ := tidy.line
  rw [shown]
  exact ⟨_, ParseLine.parseLine_of_not_mem overlap maxConsoleArgs typed.no_nul plain.backslash
    (ends_replicate _)⟩

theorem Tidy.enterCommand {env : ConsoleEnv World} {c : UInt8} (tidy : Tidy cs) :
    ∃ cs', enterCommand env c cs = some cs' ∧ Tidy cs' := by
  obtain ⟨av, parsed⟩ := tidy.parseLine env.overlap
  unfold Console.enterCommand
  rw [parsed, Option.bind_some]
  dsimp only
  have ran : Tidy (if c ≠ 63 then doCommand env av cs else cs.act (.help av)) := by
    split_ifs
    · exact tidy.of_same rfl rfl rfl rfl
    · exact tidy.act _
  generalize (if c ≠ 63 then doCommand env av cs else cs.act (.help av)) = cs₁ at ran ⊢
  have prompted := ran.act (.prompt cs₁.state)
  split_ifs
  · exact ⟨_, rfl, ran.of_same rfl rfl rfl rfl⟩
  · exact ⟨_, rfl, prompted.pushHistory.atFirst.clearCmd⟩
  · exact ⟨_, rfl, prompted.atFirst.clearCmd⟩
  · exact prompted.writeCmd

theorem Tidy.consoleEnter {env : ConsoleEnv World} {c : UInt8} (tidy : Tidy cs) :
    ∃ cs', consoleEnter env c cs = some cs' ∧ Tidy cs' := by
  have ended : Tidy (endLine c cs) := by
    unfold endLine
    dsimp only
    split_ifs
    · exact ((tidy.act (.write [63])).act (.write [13, 10])).of_same rfl rfl rfl rfl
    · exact (tidy.act (.write [13, 10])).of_same rfl rfl rfl rfl
  unfold Console.consoleEnter
  dsimp only
  generalize endLine c cs = cs₁ at ended ⊢
  cases asked : cs₁.state with
  | username => exact ⟨_, rfl, (ended.of_same rfl rfl rfl rfl : Tidy { cs₁ with
      username := (content cs₁.cmd).take 31 }).clearCmd.of_same rfl rfl rfl rfl⟩
  | password =>
      refine ⟨_, rfl, ?_⟩
      unfold enterPassword
      cases authenticated env cs₁ with
      | none =>
          have failed : Tidy { cs₁ with username := [], state := .username } :=
            ended.of_same rfl rfl rfl rfl
          exact (failed.act _).clearCmd.act _
      | some u =>
          have passed : Tidy { cs₁ with state := .authentic, priv := u.priv } :=
            ended.of_same rfl rfl rfl rfl
          exact (passed.act _).clearCmd.act _
  | authentic => exact ended.enterCommand

/-- Every key but TAB, the percent sign and the backslash keeps the editor in order. -/
theorem Tidy.consoleKey {env : ConsoleEnv World} {c : UInt8} (tidy : Tidy cs) (tab : c ≠ 9)
    (percent : c ≠ 37) (backslash : c ≠ 92) : ∃ cs', consoleKey env c cs = some cs' ∧ Tidy cs' := by
  have effect := consoleKey_effect env c cs
  generalize Console.consoleKey env c cs = result at effect ⊢
  cases effect with
  | keeps => exact ⟨_, rfl, tidy.of_same rfl rfl rfl rfl⟩
  | tab key => exact absurd key tab
  | cancel => exact ⟨_, rfl, tidy.consoleCancel⟩
  | up => exact tidy.consoleUp
  | down => exact tidy.consoleDown
  | erase => exact ⟨_, rfl, tidy.consoleErase⟩
  | enter => exact tidy.consoleEnter
  | char => exact ⟨_, rfl, tidy.consoleChar percent backslash⟩

theorem cursorKey_cases (c : UInt8) : cursorKey c ≠ 9 ∧ cursorKey c ≠ 37 ∧ cursorKey c ≠ 92 := by
  unfold cursorKey
  split_ifs <;> decide

theorem Tidy.step {env : ConsoleEnv World} {event : ConsoleEvent World} (tidy : Tidy cs)
    (tab : event ≠ .byte 9) (percent : event ≠ .byte 37) (backslash : event ≠ .byte 92) :
    ∃ cs', consoleStep env cs event = some cs' ∧ Tidy cs' := by
  have seen : Tidy { cs with world := env.unrefDead cs.world } := tidy.of_same rfl rfl rfl rfl
  cases event with
  | byte c =>
      have done : ∃ cs', consoleByte env c cs = some cs' ∧ Tidy cs' := by
        unfold consoleByte
        dsimp only
        split_ifs
        · have last : Tidy { cs with world := env.unrefDead cs.world, escaped := 0 } :=
            tidy.of_same rfl rfl rfl rfl
          obtain ⟨no_tab, no_percent, no_backslash⟩ := cursorKey_cases c
          exact last.consoleKey no_tab no_percent no_backslash
        · exact ⟨_, rfl, tidy.of_same rfl rfl rfl rfl⟩
        · exact ⟨_, rfl, tidy.of_same rfl rfl rfl rfl⟩
        · exact seen.consoleKey (fun same => tab (same ▸ rfl)) (fun same => percent (same ▸ rfl))
            fun same => backslash (same ▸ rfl)
      obtain ⟨cs', did, after⟩ := done
      rw [consoleStep]
      split_ifs
      · exact ⟨cs, rfl, tidy⟩
      · refine ⟨if cs'.closed then cs'.act .close else cs', by rw [did]; rfl, ?_⟩
        split_ifs
        · exact after.act _
        · exact after
  | eof =>
      rw [consoleStep]
      split_ifs
      · exact ⟨cs, rfl, tidy⟩
      · exact ⟨_, rfl, (tidy.act .close).of_same rfl rfl rfl rfl⟩
  | elsewhere world => exact ⟨_, rfl, tidy.of_same rfl rfl rfl rfl⟩

end Keys

theorem tidy_connect (world : World) : Tidy (consoleConnect world) := by
  refine ⟨⟨[], ⟨.nil, padded_nil.symm, rfl⟩, .nil⟩, rfl, ?_, Nat.zero_le _⟩
  intro old member
  exact ⟨[], .nil, .nil, (List.mem_replicate.mp member).2.trans padded_nil.symm⟩

theorem Tidy.run {env : ConsoleEnv World} {cs : ConsoleSession World} (tidy : Tidy cs)
    {events : List (ConsoleEvent World)} (tab : .byte 9 ∉ events) (percent : .byte 37 ∉ events)
    (backslash : .byte 92 ∉ events) : ∃ cs', consoleRun env cs events = some cs' ∧ Tidy cs' := by
  induction events generalizing cs with
  | nil => exact ⟨cs, rfl, tidy⟩
  | cons event events ih =>
      obtain ⟨first, rest⟩ := List.ne_and_not_mem_of_not_mem_cons tab
      obtain ⟨first', rest'⟩ := List.ne_and_not_mem_of_not_mem_cons percent
      obtain ⟨first'', rest''⟩ := List.ne_and_not_mem_of_not_mem_cons backslash
      obtain ⟨cs₁, done, after⟩ := tidy.step first.symm first'.symm first''.symm
      obtain ⟨cs', ran, last⟩ := ih after rest rest' rest''
      exact ⟨cs', by rw [consoleRun, done]; exact ran, last⟩

/-- Whatever else is typed, a session to which no TAB, no percent sign and no backslash is sent
does nothing undefined, and its arrays hold the texts that were typed. -/
theorem console_tidy (env : ConsoleEnv World) (world : World) {events : List (ConsoleEvent World)}
    (tab : .byte 9 ∉ events) (percent : .byte 37 ∉ events) (backslash : .byte 92 ∉ events) :
    ∃ cs, consoleRun env (consoleConnect world) events = some cs ∧ Tidy cs :=
  (tidy_connect world).run tab percent backslash

theorem console_tidy_root :
    ∃ cs, consoleRun rootEnv (consoleConnect 0) (typed rootTypes) = some cs ∧ Tidy cs :=
  console_tidy rootEnv 0 (by simp [typed, rootTypes, spelled]) (by simp [typed, rootTypes, spelled])
    (by simp [typed, rootTypes, spelled])

-- a percent sign that comes back from the history
example : (consoleRun rootEnv (consoleConnect 0) (typed [37, 14, 16])).isNone := by
  decide +kernel

section Typing

def typable (c : UInt8) : Bool := 32 ≤ c && c != 63 && c != 127 && c != 253 && c != 255

structure Asks (env : ConsoleEnv World) (users : GHash ConsoleUser) (state : ConsoleState)
    (username text : Bytes) (cs : ConsoleSession World) : Prop where
  shows : Shows cs text
  state : cs.state = state
  username : cs.username = username
  telnet : cs.telnet = false
  escaped : cs.escaped = 0
  closed : cs.closed = false
  users : env.gUsers cs.world = users

variable {env : ConsoleEnv World} {users : GHash ConsoleUser} {state : ConsoleState}
  {username text : Bytes} {cs : ConsoleSession World}

theorem consoleKey_typable {c : UInt8} (ordinary : typable c = true) (cs : ConsoleSession World) :
    consoleKey env c cs = some (consoleChar c cs) := by
  simp only [typable, Bool.and_eq_true, decide_eq_true_eq, bne_iff_ne] at ordinary
  obtain ⟨⟨⟨⟨visible, question⟩, delete⟩, telnetDo⟩, telnet⟩ := ordinary
  have low {d : UInt8} (control : d < 32) : c ≠ d := fun same =>
    absurd visible (UInt8.not_le.mpr (same ▸ control))
  have controls : c ≠ 0 ∧ c ≠ 27 ∧ c ≠ 9 ∧ c ≠ 3 ∧ c ≠ 16 ∧ c ≠ 14 ∧ c ≠ 6 ∧ c ≠ 2 ∧ c ≠ 8 ∧
      c ≠ 13 ∧ c ≠ 10 :=
    ⟨low (by decide), low (by decide), low (by decide), low (by decide), low (by decide),
      low (by decide), low (by decide), low (by decide), low (by decide), low (by decide),
      low (by decide)⟩
  simp [consoleKey, controls, question, delete, telnetDo, telnet]

theorem consoleChar_visible {c : UInt8} (cs : ConsoleSession World) (telnet : cs.telnet = false)
    (free : ¬ cs.cmd_len + 2 ≥ maxConsoleLine) (visible : 32 ≤ c) :
    ∃ acts, consoleChar c cs = { cs with
      acts, cmd := cs.cmd.set cs.cmd_len c, cmd_len := cs.cmd_len + 1 } := by
  unfold consoleChar
  rw [if_neg (by simp [telnet]), if_neg free, if_neg (UInt8.not_lt.mpr visible)]
  dsimp only
  split_ifs
  · exact ⟨_, rfl⟩
  · exact ⟨_, rfl⟩

/-- A byte that is not part of an escape sequence. -/
theorem consoleStep_key {c : UInt8} (asks : Asks env users state username text cs) :
    consoleStep env cs (.byte c) =
      (consoleKey env c { cs with world := env.unrefDead cs.world }).map fun cs =>
        if cs.closed then cs.act .close else cs := by
  rw [consoleStep, if_neg (by simp [asks.closed])]
  unfold consoleByte
  dsimp only
  rw [if_neg (by simp [asks.escaped])]

theorem consoleRun_append (cs : ConsoleSession World) (first second : List (ConsoleEvent World)) :
    consoleRun env cs (first ++ second) =
      (consoleRun env cs first).bind fun cs => consoleRun env cs second := by
  induction first generalizing cs with
  | nil => rfl
  | cons event first ih =>
      rw [List.cons_append, consoleRun, consoleRun, Option.bind_assoc]
      exact congrArg _ (funext ih)

variable (stable : ∀ world, env.gUsers (env.unrefDead world) = env.gUsers world)
include stable

theorem Asks.typeChar {c : UInt8} (asks : Asks env users state username text cs)
    (room : text.length + 2 < maxConsoleLine) (ordinary : typable c = true) :
    ∃ cs', consoleStep env cs (.byte c) = some cs' ∧
      Asks env users state username (text ++ [c]) cs' := by
  have visible : 32 ≤ c := by
    simp only [typable, Bool.and_eq_true, decide_eq_true_eq] at ordinary
    exact ordinary.1.1.1.1
  have free : ¬ cs.cmd_len + 2 ≥ maxConsoleLine := by
    rw [asks.shows.cmd_len]
    omega
  obtain ⟨acts, done⟩ := consoleChar_visible { cs with world := env.unrefDead cs.world } asks.telnet
    free visible
  refine ⟨{ cs with
    world := env.unrefDead cs.world, acts
    cmd := cs.cmd.set cs.cmd_len c, cmd_len := cs.cmd_len + 1 }, ?_, ?_⟩
  · rw [consoleStep_key asks, consoleKey_typable ordinary, done, Option.map_some, if_neg]
    exact fun ended => Bool.noConfusion (ended.symm.trans asks.closed)
  · obtain ⟨typed, cmd, cmd_len⟩ := asks.shows.concat free visible
    exact ⟨⟨typed, cmd, cmd_len⟩, asks.state, asks.username, asks.telnet, asks.escaped,
      asks.closed, (stable cs.world).trans asks.users⟩

theorem Asks.type {more : Bytes} (asks : Asks env users state username text cs)
    (room : text.length + more.length + 1 < maxConsoleLine)
    (ordinary : ∀ c ∈ more, typable c = true) :
    ∃ cs', consoleRun env cs (typed more) = some cs' ∧
      Asks env users state username (text ++ more) cs' := by
  induction more generalizing text cs with
  | nil => exact ⟨cs, rfl, by rw [List.append_nil]; exact asks⟩
  | cons c more ih =>
      obtain ⟨first, rest⟩ := List.forall_mem_cons.mp ordinary
      rw [List.length_cons] at room
      obtain ⟨cs₁, done, next⟩ := asks.typeChar stable (by omega) first
      obtain ⟨cs', ran, last⟩ := ih next (by
        rw [List.length_append, List.length_singleton]
        omega) rest
      refine ⟨cs', ?_, ?_⟩
      · change (consoleStep env cs (.byte c)).bind _ = _
        rw [done]
        exact ran
      · rw [List.append_assoc] at last
        exact last

theorem Asks.endUsername (asks : Asks env users .username username text cs) :
    ∃ cs', consoleStep env cs (.byte 13) = some cs' ∧
      Asks env users .password (text.take 31) [] cs' := by
  have line : content cs.cmd = text := by
    rw [asks.shows.cmd, content_padded asks.shows.typed]
  rw [consoleStep_key asks, consoleKey_enter rfl]
  have asked : (endLine 13 { cs with world := env.unrefDead cs.world }).state = .username :=
    asks.state
  unfold consoleEnter
  dsimp only
  rw [asked]
  refine ⟨_, by
    rw [Option.map_some, if_neg]
    exact fun ended => Bool.noConfusion (ended.symm.trans asks.closed), ?_⟩
  exact ⟨⟨.nil, padded_nil.symm, rfl⟩, rfl, congrArg (List.take 31) line, rfl, asks.escaped,
    asks.closed, (stable cs.world).trans asks.users⟩

theorem Asks.endPassword (asks : Asks env users .password username text cs) {u : ConsoleUser}
    (listed : ghashGet consoleUserKeys users (some ⟨username, [], 0⟩) = some u)
    (password : content u.password = text) :
    ∃ cs', consoleStep env cs (.byte 13) = some cs' ∧ cs'.state = .authentic ∧
      cs'.priv = u.priv := by
  have line : content cs.cmd = text := by
    rw [asks.shows.cmd, content_padded asks.shows.typed]
  rw [consoleStep_key asks, consoleKey_enter rfl]
  have asked : (endLine 13 { cs with world := env.unrefDead cs.world }).state = .password :=
    asks.state
  have found : authenticated env (endLine 13 { cs with world := env.unrefDead cs.world }) =
      some u := by
    refine Option.filter_eq_some_iff.mpr ⟨?_, ?_⟩
    · change ghashGet consoleUserKeys (env.gUsers (env.unrefDead cs.world))
        (some ⟨cs.username, [], 0⟩) = some u
      rw [stable, asks.users, asks.username, listed]
    · exact beq_iff_eq.mpr (password.trans line.symm)
  unfold consoleEnter
  dsimp only
  rw [asked]
  unfold enterPassword
  rw [found]
  refine ⟨_, by
    rw [Option.map_some, if_neg]
    exact fun ended => Bool.noConfusion (ended.symm.trans asks.closed), rfl, rfl⟩

/-- Who types a name and the password that the table has for it is let in with the privilege of
that user. -/
theorem console_login (world : World) {name password : Bytes} {u : ConsoleUser}
    (name_short : name.length ≤ 31) (password_short : password.length + 1 < maxConsoleLine)
    (name_typable : ∀ c ∈ name, typable c = true)
    (password_typable : ∀ c ∈ password, typable c = true)
    (listed : ghashGet consoleUserKeys (env.gUsers world) (some ⟨name, [], 0⟩) = some u)
    (known : content u.password = password) :
    ∃ cs, consoleRun env (consoleConnect world) (typed (name ++ [13] ++ password ++ [13])) =
        some cs ∧
      cs.state = .authentic ∧ cs.priv = u.priv := by
  have start : Asks env (env.gUsers world) .username [] [] (consoleConnect world) :=
    ⟨⟨.nil, padded_nil.symm, rfl⟩, rfl, rfl, rfl, rfl, rfl, rfl⟩
  obtain ⟨named, ranName, asksName⟩ := start.type stable
    (by simp only [List.length_nil, maxConsoleLine]; omega) name_typable
  obtain ⟨asked, doneName, asksPassword⟩ := asksName.endUsername stable
  obtain ⟨entered, ranPassword, asksEnd⟩ := asksPassword.type stable
    (by rw [List.length_nil]; omega) password_typable
  rw [List.nil_append, List.take_of_length_le name_short] at asksEnd
  obtain ⟨cs, doneEnd, inside, priv⟩ := asksEnd.endPassword stable listed known
  refine ⟨cs, ?_, inside, priv⟩
  have parts : (typed (name ++ [13] ++ password ++ [13]) : List (ConsoleEvent World)) =
      typed name ++ [.byte 13] ++ typed password ++ [.byte 13] := by
    simp [typed]
  rw [parts, consoleRun_concat, consoleRun_append, consoleRun_concat, ranName]
  simp only [Option.bind_some, doneName, ranPassword, doneEnd]

omit stable in
theorem console_login_root :
    ∃ cs, consoleRun rootEnv (consoleConnect 0)
        (typed (spelled ['r', 'o', 'o', 't'] ++ [13] ++ spelled ['h', 'u', 's', 'h'] ++ [13])) = some cs ∧
      cs.state = .authentic ∧ cs.priv = 2 :=
  console_login (fun _ => rfl) 0 (u := ⟨spelled ['r', 'o', 'o', 't'], spelled ['h', 'u', 's', 'h'], 2⟩)
    (by decide) (by decide) (by decide +kernel) (by decide +kernel) (by decide +kernel) (by decide)

end Typing

end Mpd.Console
