import Mathlib.Algebra.Group.Nat.Defs
import Mpd.Bytes
import Mpd.Transition

/-! The chat script engine of `chat.c`: variables, patterns, timers, the call stack and the
output queue, and the commands that a script makes of them. A script is given as the lines
that `ReadFullLine` and `ParseLine` make of the file. -/

set_option autoImplicit false

namespace Mpd.Chat

def word (chars : List Char) : Bytes := chars.map fun ch => UInt8.ofNat ch.toNat

def keywordAll : Bytes := word ['a', 'l', 'l']
def varMatched : Bytes :=
  word ['$', 'm', 'a', 't', 'c', 'h', 'e', 'd', 'S', 't', 'r', 'i', 'n', 'g']
def varBaudrate : Bytes := word ['$', 'B', 'a', 'u', 'd', 'r', 'a', 't', 'e']
def defaultSet : Bytes := []
def defaultLabel : Bytes := []

def maxVarname : Nat := 100
def maxLine : Nat := 256
def maxLabel : Nat := 32

/-- A line of a script. A line that does not start with white space is a label, or nothing. -/
inductive ScriptLine where
  | label (name : Bytes)
  | command (words : List Bytes)
  deriving DecidableEq, Repr

inductive ChatState where
  | idle | running | wait
  deriving DecidableEq, Repr

/-- `struct cm_exact`, less the failure function, or a regular expression. -/
inductive Pattern where
  | exact (pat : Bytes) (matched : Nat)
  | regex (pat : Bytes)
  deriving DecidableEq, Repr

/-- `struct chatmatch`. `since` are the bytes that the device has sent since the match was added;
no field of the source has them. -/
structure ChatMatch where
  set : Bytes
  label : Bytes
  pattern : Pattern
  frameDepth : Nat
  since : Bytes
  deriving DecidableEq, Repr

def ChatMatch.receive (ch : UInt8) (m : ChatMatch) : ChatMatch := { m with since := m.since ++ [ch] }

/-- `struct chattimer`. The address of a timer is a number. -/
structure ChatTimer where
  address : Nat
  set : Bytes
  label : Bytes
  armed : Bool
  frameDepth : Nat
  deriving DecidableEq, Repr

/-- `struct chatinfo`, less what only the log shows. `pos` is the next line of the open
script. `wrEvent` tells whether the event is registered, `strays` counts write events that
were registered before and have been forgotten since. `results` are the calls of the result
function. `asserted` is set by an assertion that fails, `crashed` by a null pointer. -/
structure ChatInfo where
  script : List ScriptLine
  pos : Option Nat
  scriptName : Bool
  state : ChatState
  rdEvent : Bool
  wrEvent : Bool
  strays : Nat
  out : Option Bytes
  timers : List ChatTimer
  nextTimer : Nat
  matches_ : List ChatMatch
  stack : List Nat
  globals : List (Bytes × Bytes)
  temps : List (Bytes × Bytes)
  lineBuf : Bytes
  results : List Bool
  asserted : Bool
  crashed : Bool
  deriving DecidableEq, Repr

/-- The C library: whether `regcomp` takes a pattern, the pieces that `regexec` finds in a
line which is complete or not, and what `strtoul` makes of a text, if anything. -/
structure ChatEnv where
  regcomp : Bytes → Bool
  regexec : Bytes → (line : Bytes) → (complete : Bool) → Option (List Bytes)
  strtoul : Bytes → Option Nat

def ensure (holds : Bool) (c : ChatInfo) : ChatInfo :=
  if holds then c else { c with asserted := true }

section Variables

def isUpper (ch : UInt8) : Bool := 65 ≤ ch && ch ≤ 90

def isAlpha (ch : UInt8) : Bool := isUpper ch || (97 ≤ ch && ch ≤ 122)

def isNameChar (ch : UInt8) : Bool := isAlpha ch || (48 ≤ ch && ch ≤ 57) || ch == 95

def sameCase (s t : Bytes) : Bool :=
  let lower (ch : UInt8) := if isUpper ch then ch + 32 else ch
  s.map lower == t.map lower

def chatVarExtract (string : Bytes) (max : Nat) (strict : Bool) : Option (Nat × Bytes) :=
  let brace := string.headD 0 == 123
  let body := if brace then string.tail else string
  let name := (body.takeWhile isNameChar).take (max - 1)
  let rest := body.drop name.length
  if !isAlpha (body.headD 0) then none
  else if name.isEmpty then none
  else if brace && rest.headD 0 != 125 then none
  else if strict && (if brace then rest.tail else rest).headD 0 != 0 then none
  else some (name.length + (if brace then 2 else 0), name)

/-- `ChatVarGet` and `ChatVarFind`. The order of a list of variables does not matter. -/
def chatVarGet (c : ChatInfo) (rname : Bytes) : Option Bytes :=
  if rname = [] then none
  else
    match chatVarExtract rname.tail maxVarname true with
    | none => none
    | some (_, name) =>
        (if isUpper (name.headD 0) then c.globals else c.temps).lookup name

/-- The loop of `ChatExpandString`, over at most as many bytes as the string has. -/
def expandFrom (c : ChatInfo) : Nat → Bytes → Bytes
  | fuel + 1, ch :: rest =>
      if ch = 36 then
        if rest.headD 0 = 36 then 36 :: expandFrom c fuel rest.tail
        else
          match chatVarExtract rest (maxVarname - 1) false with
          | none => ch :: expandFrom c fuel rest
          | some (nlen, name) =>
              (chatVarGet c (36 :: name)).getD [] ++ expandFrom c fuel (rest.drop nlen)
      else ch :: expandFrom c fuel rest
  | _, _ => []

def chatExpandString (c : ChatInfo) (string : Bytes) : Bytes := expandFrom c string.length string

end Variables

section Stop

def cancelSet (set : Bytes) (c : ChatInfo) : ChatInfo :=
  let cancels (other : Bytes) : Bool := sameCase set keywordAll || other == set
  { c with
    matches_ := c.matches_.filter (!cancels ·.set)
    timers := c.timers.filter (!cancels ·.set) }

def chatCancel (set0 : Bytes) (c : ChatInfo) : ChatInfo := cancelSet (chatExpandString c set0) c

/-- The part of `ChatReturn` that pops a frame. -/
def popFrame (seek : Bool) (c : ChatInfo) : ChatInfo :=
  match c.stack with
  | [] => c
  | posn :: up =>
      { c with
        pos := if seek then some posn else c.pos
        stack := up
        matches_ := c.matches_.filterMap fun m =>
          if m.frameDepth = 0 then none else some { m with frameDepth := m.frameDepth - 1 }
        timers := c.timers.filterMap fun t =>
          if t.frameDepth = 0 then none else some { t with frameDepth := t.frameDepth - 1 } }

def popFrames : Nat → ChatInfo → ChatInfo
  | 0, c => c
  | count + 1, c => popFrames count (popFrame false c)

def chatStop (c : ChatInfo) : ChatInfo :=
  let c := chatCancel keywordAll { c with temps := [], pos := none, scriptName := false }
  let c := { c with rdEvent := false, wrEvent := false, out := none }
  { popFrames c.stack.length c with state := .idle }

def chatFailure (c : ChatInfo) : ChatInfo :=
  let c := chatStop c
  { c with results := c.results ++ [false] }

end Stop

section Commands

/-- `ChatSetBaudrate`, where `takes` tells whether the text is a number that the device
accepts. -/
def chatSetBaudrate (takes : Bool) (c : ChatInfo) : Bool × ChatInfo :=
  if takes then (true, c) else (false, chatFailure c)

def setVar (name value : Bytes) (c : ChatInfo) : ChatInfo :=
  let store (vars : List (Bytes × Bytes)) := (name, value) :: vars.filter (·.1 != name)
  if isUpper (name.headD 0) then { c with globals := store c.globals }
  else { c with temps := store c.temps }

/-- `ChatVarSet`; `false` where the name is not valid. -/
def chatVarSet (rname value : Bytes) (expand pre takes : Bool) (c : ChatInfo) : Bool × ChatInfo :=
  if rname = [] then (false, c)
  else
    match chatVarExtract rname.tail maxVarname true with
    | none => (false, c)
    | some (_, name) =>
        let new := if expand then chatExpandString c value else value
        if rname = varBaudrate && !pre then
          let (set, c) := chatSetBaudrate takes c
          (true, if set then setVar name new c else c)
        else (true, setVar name new c)

/-- The decimal digits of a number. -/
def digits (k : Nat) : Bytes := word (Nat.toDigits 10 k)

/-- `ChatSetMatchVars` with the pieces that have matched. The names in the list of variables
lack the `$` that the old ones are looked for with. -/
def chatSetMatchVars (exact : Bool) (pieces : List Bytes) (c : ChatInfo) : ChatInfo :=
  let old (name : Bytes) : Bool :=
    name.take varMatched.length == varMatched &&
      (name.drop varMatched.length).all fun ch => 48 ≤ ch && ch ≤ 57
  let c := { c with temps := c.temps.filter (!old ·.1) }
  let c := (chatVarSet varMatched (pieces.headD []) false false true c).2
  if exact then c
  else pieces.zipIdx.foldl (fun c (piece, k) =>
    (chatVarSet (varMatched ++ digits k) piece false false true c).2) c

/-- `SeekToLabel` without an index. -/
def chatSeekToLabel (label : Bytes) (c : ChatInfo) : Bool × ChatInfo :=
  match c.script.findIdx? (· == .label label) with
  | some k => (true, { c with pos := some (k + 1) })
  | none => (false, { c with pos := some c.script.length })

def chatGoto (label0 : Bytes) (c : ChatInfo) : Bool × ChatInfo :=
  let label := chatExpandString c label0
  if label = defaultLabel then (true, c)
  else
    let (found, c) := chatSeekToLabel label c
    if found then (true, c) else (false, chatFailure c)

def chatReturn (seek : Bool) (c : ChatInfo) : ChatInfo :=
  if c.stack = [] then chatFailure c else popFrame seek c

inductive CmdId where
  | if | set | match | regex | timer | cancel | print | call | log | return | goto | success
  | failure | wait | nothing
  deriving DecidableEq, Repr

/-- `gCmds`: the names with the bounds for the number of words, where zero is none. -/
def gCmds : List (Bytes × CmdId × Nat × Nat) :=
  [(word ['i', 'f'], .if, 4, 0),
    (word ['s', 'e', 't'], .set, 3, 3),
    (word ['m', 'a', 't', 'c', 'h'], .match, 2, 4),
    (word ['r', 'e', 'g', 'e', 'x'], .regex, 2, 4),
    (word ['t', 'i', 'm', 'e', 'r'], .timer, 2, 4),
    (word ['c', 'a', 'n', 'c', 'e', 'l'], .cancel, 2, 0),
    (word ['p', 'r', 'i', 'n', 't'], .print, 2, 2),
    (word ['c', 'a', 'l', 'l'], .call, 2, 2),
    (word ['l', 'o', 'g'], .log, 2, 2),
    (word ['r', 'e', 't', 'u', 'r', 'n'], .return, 1, 1),
    (word ['g', 'o', 't', 'o'], .goto, 2, 2),
    (word ['s', 'u', 'c', 'c', 'e', 's', 's'], .success, 1, 1),
    (word ['f', 'a', 'i', 'l', 'u', 'r', 'e'], .failure, 1, 1),
    (word ['w', 'a', 'i', 't'], .wait, 1, 2),
    (word ['n', 'o', 'p'], .nothing, 1, 1)]

def chatGetCmd (token : Bytes) (n_args : Nat) : Option CmdId :=
  match gCmds.find? fun cmd => sameCase cmd.1 token with
  | none => none
  | some (_, id, min, max) =>
      if (min != 0 && n_args < min) || (max != 0 && max < n_args) then none else some id

/-- Whether `ChatIf` proceeds, and the variables that a match has set. -/
def chatIf (env : ChatEnv) (arg1 op arg2 : Bytes) (c : ChatInfo) : Bool × ChatInfo :=
  let arg1 := chatExpandString c arg1
  let arg2 := chatExpandString c arg2
  let matching := word ['m', 'a', 't', 'c', 'h']
  if op = word ['=', '='] then (arg1 == arg2, c)
  else if op = word ['!', '='] then (arg1 != arg2, c)
  else if op.take 5 = matching ∨ op.take 6 = 33 :: matching then
    if env.regcomp arg2 then
      match env.regexec arg2 arg1 true with
      | none => (op.headD 0 == 33, c)
      | some pieces => (op.headD 0 != 33, chatSetMatchVars false pieces c)
    else (false, c)
  else (false, c)

end Commands

end Mpd.Chat
