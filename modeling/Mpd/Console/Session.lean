import Mpd.Command
import Mpd.CString
import Mpd.Util.GHash
import Mpd.Util.ParseLine

/-! A session at the console, `console.c`: the reader takes the bytes of a terminal one by one,
edits a line with them, asks for a name and a password, and then runs commands. -/

set_option autoImplicit false

namespace Mpd.Console

open Mpd.CString Mpd.ParseLine

def maxConsoleArgs : Nat := 50
def maxConsoleLine : Nat := 400
def maxConsoleHist : Nat := 10

def spelled (chars : List Char) : Bytes := chars.map fun ch => UInt8.ofNat ch.toNat

inductive ConsoleState where
  | username | password | authentic
  deriving DecidableEq, Repr

structure ConsoleUser where
  username : Bytes
  password : Bytes
  priv : Int
  deriving DecidableEq, Repr

def consoleUserHash (u : ConsoleUser) : UInt32 :=
  (content u.username).foldl (fun hash c =>
    (hash + ((hash <<< 1) + (hash <<< 4) + (hash <<< 7) + (hash <<< 8) + (hash <<< 24))) ^^^
      c.toUInt32) 0x811c9dc5

def consoleUserKeys : GHashKeys ConsoleUser where
  hash := consoleUserHash
  equal u1 u2 := content u1.username == content u2.username

inductive ConsoleAct (World : Type) where
  | write (text : Bytes)
  | text (text : String)
  | prompt (state : ConsoleState)
  | welcome
  | command (av : List Bytes) (path : List (CmdTab World))
  | error (text : String) (av : List Bytes)
  | help (av : List Bytes)
  | close

/-- What a session uses of the rest of the daemon: `gCommands`, `gUsers`, its own `exit`, which
a command may set, and the removal of references to what has died from its context. What becomes of
strings that overlap is up to the C library. -/
structure ConsoleEnv (World : Type) where
  overlap : Overlap
  gCommands : List (CmdTab World)
  gUsers : World → GHash ConsoleUser
  exit : World → Bool
  unrefDead : World → World

/-- `struct console_session`, less its descriptor, together with the world and the record of what
it does. Of the user it keeps the name and the privilege. -/
structure ConsoleSession (World : Type) where
  username : Bytes
  priv : Int
  state : ConsoleState
  telnet : Bool
  escaped : UInt8
  cmd_len : Nat
  cmd : Bytes
  currhist : Nat
  history : List Bytes
  closed : Bool
  world : World
  acts : List (ConsoleAct World)

variable {World : Type}

namespace ConsoleSession

def act (act : ConsoleAct World) (cs : ConsoleSession World) : ConsoleSession World :=
  { cs with acts := cs.acts ++ [act] }

def clearCmd (cs : ConsoleSession World) : ConsoleSession World :=
  { cs with cmd := List.replicate maxConsoleLine 0, cmd_len := 0 }

def prompt (cs : ConsoleSession World) : ConsoleSession World := cs.act (.prompt cs.state)

def rubOut (cs : ConsoleSession World) : ConsoleSession World :=
  cs.act (.write (List.replicate cs.cmd_len [8, 32, 8]).flatten)

end ConsoleSession

/-- A string that is written as a format: `none` where it asks for an argument, as there is
none. -/
def writeFormat : Bytes → Option Bytes
  | [] => some []
  | c :: rest =>
      if c = 37 then
        match rest with
        | 37 :: rest => (writeFormat rest).map (37 :: ·)
        | _ => none
      else (writeFormat rest).map (c :: ·)

def writeCmd (cs : ConsoleSession World) : Option (ConsoleSession World) :=
  (writeFormat (content cs.cmd)).map fun text => cs.act (.write text)

/-- The array `dst` after `strcpy(dst, src)`. -/
def strcpy (dst src : Bytes) : Bytes := src ++ 0 :: dst.drop (src.length + 1)

/-- The loop over the arguments for TAB, from the next one on: `none` where it overruns `compl`,
reads a name that is not there, or copies strings that overlap. A word may not be found; behind a
command the words stay as they are, and a bell tells of them. -/
def completeArgs (overlap : Overlap) (priv : Int) (help : Bool) (tab : List (CmdTab World))
    (av : List Bytes) (compl : Bytes) : Option (Except Unit (Bytes × Bool)) :=
  match av with
  | [] => some (.ok (compl, false))
  | str :: av =>
      match findCommand priv tab str with
      | .error _ => some (.error ())
      | .ok cmd =>
          match parseLine overlap maxConsoleArgs (cmd.name ++ [0]) with
          | none | some [] => none
          | some (word :: _) =>
              let compl := (compl ++ word ++ [32]).take (maxConsoleLine - 1)
              match cmd with
              | .submenu _ _ _ _ menu => completeArgs overlap priv false menu av compl
              | .command .. =>
                  if help ∧ compl = spelled ['h', 'e', 'l', 'p', ' '] then
                    completeArgs overlap priv false tab av compl
                  else
                    let compl := compl ++ (av.intersperse [32]).flatten
                    if compl.length < maxConsoleLine then some (.ok (compl, !av.isEmpty)) else none

def consoleTab (env : ConsoleEnv World) (cs : ConsoleSession World) :
    Option (ConsoleSession World) :=
  if cs.state ≠ .authentic then some cs
  else
    let found := (parseLine env.overlap maxConsoleArgs (content cs.cmd ++ [0])).bind fun av =>
      completeArgs env.overlap cs.priv true env.gCommands av []
    match found with
    | none => none
    | some (.error _) => some (cs.act (.write [7]))
    | some (.ok (compl, bell)) =>
        let cs := (if bell then cs.act (.write [7]) else cs).rubOut
        writeCmd { cs with cmd := strcpy cs.cmd compl, cmd_len := compl.length }

def pushHistory (cs : ConsoleSession World) : ConsoleSession World :=
  { cs with history := cs.cmd :: cs.history.dropLast }

def isNews (cs : ConsoleSession World) : Bool := content cs.cmd != content (cs.history.headD [])

def consoleCancel (cs : ConsoleSession World) : ConsoleSession World :=
  if cs.telnet then cs
  else
    let cs := ((cs.act (.write [13, 10])).clearCmd).prompt
    { cs with telnet := false }

def consoleUp (cs : ConsoleSession World) : Option (ConsoleSession World) :=
  if cs.currhist < maxConsoleHist ∧ (cs.history.getD cs.currhist []).headD 0 ≠ 0 then
    let cs := cs.rubOut
    let cmd := cs.history.getD cs.currhist []
    writeCmd { cs with cmd, currhist := cs.currhist + 1, cmd_len := (content cmd).length }
  else some cs

def consoleDown (cs : ConsoleSession World) : Option (ConsoleSession World) :=
  if 1 < cs.currhist then
    let cs := cs.rubOut
    let cmd := cs.history.getD (cs.currhist - 2) []
    writeCmd { cs with cmd, currhist := cs.currhist - 1, cmd_len := (content cmd).length }
  else
    let cs :=
      if 0 < cs.cmd_len then
        if isNews cs then ((pushHistory cs).act (.write [13, 10])).prompt else cs.rubOut
      else cs
    some { cs with currhist := 0 }.clearCmd

def consoleErase (cs : ConsoleSession World) : ConsoleSession World :=
  if 0 < cs.cmd_len then
    let cs := { cs with cmd_len := cs.cmd_len - 1, cmd := cs.cmd.set (cs.cmd_len - 1) 0 }
    if cs.state ≠ .password then cs.act (.write [8, 32, 8]) else cs
  else cs

def consoleChar (c : UInt8) (cs : ConsoleSession World) : ConsoleSession World :=
  if cs.telnet then if c < 251 then { cs with telnet := false } else cs
  else if cs.cmd_len + 2 ≥ maxConsoleLine then cs.act (.write [7])
  else if c < 32 then cs
  else
    let cs := if cs.state ≠ .password then cs.act (.write [c]) else cs
    { cs with cmd := cs.cmd.set cs.cmd_len c, cmd_len := cs.cmd_len + 1 }

def enterUsername (cs : ConsoleSession World) : ConsoleSession World :=
  let cs := { cs with username := (content cs.cmd).take 31 }.clearCmd
  { cs with state := .password }.prompt

def authenticated (env : ConsoleEnv World) (cs : ConsoleSession World) : Option ConsoleUser :=
  (ghashGet consoleUserKeys (env.gUsers cs.world) (some ⟨cs.username, [], 0⟩)).filter fun u =>
    content u.password == content cs.cmd

def enterPassword (env : ConsoleEnv World) (cs : ConsoleSession World) : ConsoleSession World :=
  let cs :=
    match authenticated env cs with
    | some u => { cs with state := .authentic, priv := u.priv }.act .welcome
    | none =>
        { cs with username := [], state := .username }.act (.text "Login failed\r\n")
  cs.clearCmd.prompt

def commandErrors (rtn : Int) (av : List Bytes) : List (ConsoleAct World) :=
  if rtn = 0 then []
  else if rtn = cmdErrUndef then [.error "Unknown command: '%s'. Try \"help\".\r\n" av]
  else if rtn = cmdErrAmbig then [.error "Ambiguous command: '%s'. Try \"help\".\r\n" av]
  else if rtn = cmdErrRecur then [.error "Recursion detected for: '%s'!\r\n" av]
  else if rtn = cmdErrNoctx then [.error "Incorrect context for: '%s'\r\n" av]
  else if rtn = cmdErrOther then [.error "Error in '%s': %s\r\n" av]
  else [.help av]

def doCommand (env : ConsoleEnv World) (av : List Bytes) (cs : ConsoleSession World) :
    ConsoleSession World :=
  let done := doCommandTab cs.priv env.gCommands av cs.world
  { cs with
    world := done.world
    acts := cs.acts ++ .command av done.path :: commandErrors done.rtn av }

def enterCommand (env : ConsoleEnv World) (c : UInt8) (cs : ConsoleSession World) :
    Option (ConsoleSession World) :=
  (parseLine env.overlap maxConsoleArgs cs.cmd).bind fun av =>
    let cs := if c ≠ 63 then doCommand env av cs else cs.act (.help av)
    if env.exit cs.world then some { cs with closed := true }
    else
      let cs := cs.prompt
      if c ≠ 63 then
        let cs := if 0 < cs.cmd_len ∧ isNews cs then pushHistory cs else cs
        some { cs with currhist := 0 }.clearCmd
      else writeCmd cs

def endLine (c : UInt8) (cs : ConsoleSession World) : ConsoleSession World :=
  let cs := if c = 63 then cs.act (.write [63]) else cs
  { cs.act (.write [13, 10]) with telnet := false }

def consoleEnter (env : ConsoleEnv World) (c : UInt8) (cs : ConsoleSession World) :
    Option (ConsoleSession World) :=
  let cs := endLine c cs
  match cs.state with
  | .username => some (enterUsername cs)
  | .password => some (enterPassword env cs)
  | .authentic => enterCommand env c cs

/-- The `switch` over the byte. -/
def consoleKey (env : ConsoleEnv World) (c : UInt8) (cs : ConsoleSession World) :
    Option (ConsoleSession World) :=
  if c = 0 then some cs
  else if c = 27 then some { cs with escaped := 1 }
  else if c = 255 then some { cs with telnet := true }
  else if c = 253 then some cs
  else if c = 9 then consoleTab env cs
  else if c = 3 then some (consoleCancel cs)
  else if c = 16 then consoleUp cs
  else if c = 14 then consoleDown cs
  else if c = 6 ∨ c = 2 then some cs
  else if c = 8 ∨ c = 127 then some (consoleErase cs)
  else if c = 13 ∨ c = 10 ∨ c = 63 then consoleEnter env c cs
  else some (consoleChar c cs)

def cursorKey (c : UInt8) : UInt8 :=
  if c = 65 then 16 else if c = 66 then 14 else if c = 67 then 6 else if c = 68 then 2 else 0

/-- The loop of `ConsoleSessionReadEvent` for one byte: `none` where what it does is undefined. -/
def consoleByte (env : ConsoleEnv World) (c : UInt8) (cs : ConsoleSession World) :
    Option (ConsoleSession World) :=
  let cs := { cs with world := env.unrefDead cs.world }
  if cs.escaped ≠ 0 then
    if cs.escaped = 91 then consoleKey env (cursorKey c) { cs with escaped := 0 }
    else some { cs with escaped := if c = 91 then c else 0 }
  else consoleKey env c cs

inductive ConsoleEvent (World : Type) where
  | byte (c : UInt8)
  | eof
  | elsewhere (world : World)

def consoleStep (env : ConsoleEnv World) (cs : ConsoleSession World) :
    ConsoleEvent World → Option (ConsoleSession World)
  | .byte c =>
      if cs.closed then some cs
      else (consoleByte env c cs).map fun cs => if cs.closed then cs.act .close else cs
  | .eof => if cs.closed then some cs else some { cs.act .close with closed := true }
  | .elsewhere world => some { cs with world }

def consoleRun (env : ConsoleEnv World) (cs : ConsoleSession World) :
    List (ConsoleEvent World) → Option (ConsoleSession World)
  | [] => some cs
  | event :: events => (consoleStep env cs event).bind fun cs => consoleRun env cs events

/-- `ConsoleConnect`, where `CONSOLE_AUTH` is enabled. -/
def consoleConnect (world : World) : ConsoleSession World where
  username := []
  priv := 0
  state := .username
  telnet := false
  escaped := 0
  cmd_len := 0
  cmd := List.replicate maxConsoleLine 0
  currhist := 0
  history := List.replicate maxConsoleHist (List.replicate maxConsoleLine 0)
  closed := false
  world
  acts := [.text "Multi-link PPP daemon for FreeBSD\r\n\r\n",
    .write [255, 251, 3, 255, 253, 3, 255, 251, 1, 255, 253, 1], .prompt .username]

end Mpd.Console
