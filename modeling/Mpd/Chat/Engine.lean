import Mpd.Chat.Defs

/-! The events of the chat script engine of `chat.c`: the device that is read and written, the
timers, the lines of the script one after the other, and the calls that start a script and
stop it. -/

set_option autoImplicit false

namespace Mpd.Chat

section Exact

/-- The entry `i` of `ChatComputeFailure`, in memory that is zeroed. An entry has 16 bits. -/
def failure (pat : Bytes) (i : Nat) : Nat :=
  ((List.range i).reverse.find? fun j =>
    0 < j && pat.take j == (pat.drop (i - j)).take j).getD 0 % 65536

/-- The loop of `ChatMatchChar`, which makes at most `matched + 1` rounds. -/
def matchLoop (pat : Bytes) (ch : UInt8) : Nat → Nat → Nat
  | 0, _ => 0
  | fuel + 1, matched =>
      if pat.getD matched 0 = ch then matched + 1
      else if matched = 0 then 0
      else matchLoop pat ch fuel (failure pat matched)

/-- A pattern of `ChatRead` gets a byte, where `line` is the text of the line buffer: whether
the assertion holds, the pattern after it, and the pieces where it matches. -/
def tryMatch (env : ChatEnv) (ch : UInt8) (line : Bytes) (m : ChatMatch) :
    Bool × ChatMatch × Option (Bool × List Bytes) :=
  match m.pattern with
  | .exact pat matched =>
      if pat = [] then (true, m, some (true, [pat]))
      else
        let next := matchLoop pat ch (matched + 1) matched
        (matched < pat.length, { m with pattern := .exact pat next },
          if next = pat.length then some (true, [pat]) else none)
  | .regex pat =>
      let complete := line.getLast? == some 10
      let text := if complete then line.dropLast else line
      let text := if complete && text.getLast? == some 13 then text.dropLast else text
      (true, m, (env.regexec pat text complete).map fun pieces => (false, pieces))

/-- The loop of `ChatRead` over the patterns, up to one that matches. -/
def chatScan (env : ChatEnv) (ch : UInt8) (line : Bytes) :
    List ChatMatch → Bool × List ChatMatch × Option (ChatMatch × Bool × List Bytes)
  | [] => (true, [], none)
  | m :: rest =>
      match tryMatch env ch line m with
      | (holds, m, some (exact, pieces)) => (holds, m :: rest, some (m, exact, pieces))
      | (holds, m, none) =>
          let (others, rest, hit) := chatScan env ch line rest
          (holds && others, m :: rest, hit)

end Exact

section Events

/-- `ChatRun` up to its loop. -/
def chatRun (c : ChatInfo) : ChatInfo :=
  let c := chatCancel defaultSet (ensure (c.state != .running) c)
  { c with state := .running }

def chatReturns : Nat → ChatInfo → ChatInfo
  | 0, c => c
  | count + 1, c => chatReturns count (chatReturn false c)

/-- What follows on a match and on a timer: its set is cancelled, the stack is popped, and the
script goes on at the label. -/
def chatProceed (set label : Bytes) (frameDepth : Nat) (c : ChatInfo) : ChatInfo :=
  let c := chatReturns frameDepth (chatCancel set c)
  let (found, c) := chatGoto (label.take (maxLabel - 1)) c
  if found then chatRun c else c

inductive ReadEnd where
  | again | closed | error
  deriving DecidableEq, Repr

/-- A byte is put into the line buffer of `len` bytes. -/
def putChar (ch : UInt8) (len : Nat) (buf : Bytes) : Bytes × Nat :=
  if len < maxLine - 1 then (buf.take len ++ ch :: buf.drop (len + 1), len + 1) else (buf, len)

/-- The loop of `ChatRead` over the bytes, up to one that a pattern matches. -/
def chatInput (env : ChatEnv) :
    Bytes → Nat → ChatInfo → Option (ChatMatch × Bool × List Bytes) × ChatInfo
  | [], _, c => (none, c)
  | ch :: chars, len, c =>
      let (buf, len) := putChar ch len c.lineBuf
      let (holds, matches_, hit) := chatScan env ch (buf.take len) (c.matches_.map (·.receive ch))
      let c := ensure holds { c with
        matches_ := matches_
        lineBuf := if ch = 10 then [] else buf }
      match hit with
      | some _ => (hit, c)
      | none => chatInput env chars (if ch = 10 then 0 else len) c

def chatRead (env : ChatEnv) (chars : Bytes) (ending : ReadEnd) (c : ChatInfo) : ChatInfo :=
  let c := ensure (c.state == .wait) { c with rdEvent := false }
  match chatInput env chars (c.lineBuf.takeWhile (· != 0)).length c with
  | (some (m, exact, pieces), c) =>
      chatProceed m.set m.label m.frameDepth (chatSetMatchVars exact pieces c)
  | (none, c) =>
      match ending with
      | .again => { c with rdEvent := true }
      | .closed | .error => chatFailure c

def chatInit : ChatInfo where
  script := []
  pos := none
  scriptName := false
  state := .idle
  rdEvent := false
  wrEvent := false
  strays := 0
  out := none
  timers := []
  nextTimer := 0
  matches_ := []
  stack := []
  globals := []
  temps := []
  lineBuf := []
  results := []
  asserted := false
  crashed := false

end Events

end Mpd.Chat
