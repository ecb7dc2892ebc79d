import Mpd.Console.Session
import Mathlib.Data.List.Induction

/-! A command that a session runs was preceded by a login, and every entry of the tables on its
way is within the privilege of the user who logged in. -/

set_option autoImplicit false

namespace Mpd.Console

open Mpd.CString

variable {World : Type}

def ConsoleAct.runs : ConsoleAct World → Bool
  | command .. | error .. | help .. => true
  | write .. | text .. | prompt .. | welcome | close => false

/-- The line may be another one, but nobody has logged in or out, and no command has run. -/
structure Edits (before after : ConsoleSession World) : Prop where
  username : after.username = before.username
  priv : after.priv = before.priv
  state : after.state = before.state
  acts : ∃ quiet, after.acts = before.acts ++ quiet ∧ ∀ act ∈ quiet, act.runs = false

namespace Edits

theorem refl (cs : ConsoleSession World) : Edits cs cs :=
  ⟨rfl, rfl, rfl, [], by simp, by simp⟩

theorem trans {first second third : ConsoleSession World} (left : Edits first second)
    (right : Edits second third) : Edits first third := by
  obtain ⟨quiet, acts, silent⟩ := left.acts
  obtain ⟨more, later, still⟩ := right.acts
  refine ⟨right.username.trans left.username, right.priv.trans left.priv,
    right.state.trans left.state, quiet ++ more, ?_, ?_⟩
  · rw [later, acts, List.append_assoc]
  · intro act member
    exact (List.mem_append.mp member).elim (silent act) (still act)

theorem act {act : ConsoleAct World} (quiet : act.runs = false) (cs : ConsoleSession World) :
    Edits cs (cs.act act) :=
  ⟨rfl, rfl, rfl, [act], rfl, by simpa using quiet⟩

/-- Of the fields that may change only the line and the world are read. -/
theorem same {before after : ConsoleSession World} (username : after.username = before.username)
    (priv : after.priv = before.priv) (state : after.state = before.state)
    (acts : after.acts = before.acts) : Edits before after :=
  ⟨username, priv, state, [], by simp [acts], by simp⟩

theorem rubOut (cs : ConsoleSession World) : Edits cs cs.rubOut := .act rfl cs

theorem prompt (cs : ConsoleSession World) : Edits cs cs.prompt := .act rfl cs

end Edits

section Keys

variable {cs cs' : ConsoleSession World}

theorem writeCmd_edits (written : writeCmd cs = some cs') : Edits cs cs' := by
  obtain ⟨text, -, rfl⟩ := Option.map_eq_some_iff.mp written
  exact .act rfl cs

theorem consoleTab_edits {env : ConsoleEnv World} (done : consoleTab env cs = some cs') :
    Edits cs cs' := by
  unfold consoleTab at done
  dsimp only at done
  split_ifs at done
  · cases done
    exact .refl cs
  · split at done
    · cases done
    · cases done
      exact .act rfl cs
    · rename_i compl bell completed
      have belled : Edits cs (if bell then cs.act (.write [7]) else cs) := by
        split_ifs
        · exact .act rfl cs
        · exact .refl cs
      have rubbed := belled.trans (.rubOut _)
      refine Edits.trans ?_ (writeCmd_edits done)
      exact rubbed.trans (.same rfl rfl rfl rfl)

theorem consoleCancel_edits (cs : ConsoleSession World) : Edits cs (consoleCancel cs) := by
  unfold consoleCancel
  split_ifs
  · exact .refl cs
  · have written : Edits cs (cs.act (.write [13, 10])) := .act rfl cs
    have cleared : Edits cs (cs.act (.write [13, 10])).clearCmd :=
      written.trans (.same rfl rfl rfl rfl)
    exact (cleared.trans (.prompt _)).trans (.same rfl rfl rfl rfl)

theorem consoleUp_edits (done : consoleUp cs = some cs') : Edits cs cs' := by
  unfold consoleUp at done
  split_ifs at done
  · refine Edits.trans ?_ (writeCmd_edits done)
    exact (Edits.rubOut cs).trans (.same rfl rfl rfl rfl)
  · cases done
    exact .refl cs

theorem consoleDown_edits (done : consoleDown cs = some cs') : Edits cs cs' := by
  have rubbed := Edits.rubOut cs
  unfold consoleDown at done
  split_ifs at done
  · refine Edits.trans ?_ (writeCmd_edits done)
    exact rubbed.trans (.same rfl rfl rfl rfl)
  · cases done
    have pushed : Edits cs (pushHistory cs) := .same rfl rfl rfl rfl
    have prompted : Edits cs ((pushHistory cs).act (.write [13, 10])).prompt :=
      (pushed.trans (.act rfl _)).trans (.prompt _)
    exact prompted.trans (.same rfl rfl rfl rfl)
  · cases done
    exact rubbed.trans (.same rfl rfl rfl rfl)
  · cases done
    exact .same rfl rfl rfl rfl

theorem consoleErase_edits (cs : ConsoleSession World) : Edits cs (consoleErase cs) := by
  unfold consoleErase
  dsimp only
  split_ifs
  · have erased : Edits cs { cs with
        cmd_len := cs.cmd_len - 1, cmd := cs.cmd.set (cs.cmd_len - 1) 0 } := .same rfl rfl rfl rfl
    exact erased.trans (.act rfl _)
  · exact .same rfl rfl rfl rfl
  · exact .refl cs

theorem consoleChar_edits (c : UInt8) (cs : ConsoleSession World) :
    Edits cs (consoleChar c cs) := by
  unfold consoleChar
  dsimp only
  split_ifs
  · exact .same rfl rfl rfl rfl
  · exact .refl cs
  · exact .act rfl cs
  · exact .refl cs
  · exact (show Edits cs (cs.act (.write [c])) from .act rfl cs).trans (.same rfl rfl rfl rfl)
  · exact .same rfl rfl rfl rfl

def isEnter (c : UInt8) : Bool := c = 13 ∨ c = 10 ∨ c = 63

inductive KeyEffect (env : ConsoleEnv World) (c : UInt8) (cs : ConsoleSession World) :
    Option (ConsoleSession World) → Prop where
  | keeps (escaped : UInt8) (telnet : Bool) : KeyEffect env c cs (some { cs with escaped, telnet })
  | tab (key : c = 9) : KeyEffect env c cs (consoleTab env cs)
  | cancel : KeyEffect env c cs (some (consoleCancel cs))
  | up : KeyEffect env c cs (consoleUp cs)
  | down : KeyEffect env c cs (consoleDown cs)
  | erase : KeyEffect env c cs (some (consoleErase cs))
  | enter (ends : isEnter c = true) : KeyEffect env c cs (consoleEnter env c cs)
  | char : KeyEffect env c cs (some (consoleChar c cs))

theorem consoleKey_effect (env : ConsoleEnv World) (c : UInt8) (cs : ConsoleSession World) :
    KeyEffect env c cs (consoleKey env c cs) := by
  unfold consoleKey
  refine iteInduction (fun _ => .keeps cs.escaped cs.telnet) fun _ => ?_
  refine iteInduction (fun _ => .keeps 1 cs.telnet) fun _ => ?_
  refine iteInduction (fun _ => .keeps cs.escaped true) fun _ => ?_
  refine iteInduction (fun _ => .keeps cs.escaped cs.telnet) fun _ => ?_
  refine iteInduction .tab fun _ => ?_
  refine iteInduction (fun _ => .cancel) fun _ => ?_
  refine iteInduction (fun _ => .up) fun _ => ?_
  refine iteInduction (fun _ => .down) fun _ => ?_
  refine iteInduction (fun _ => .keeps cs.escaped cs.telnet) fun _ => ?_
  refine iteInduction (fun _ => .erase) fun _ => ?_
  exact iteInduction (fun ends => .enter (decide_eq_true ends)) fun _ => .char

/-- Only the keys that end a line do more than edit it. -/
theorem consoleKey_edits {env : ConsoleEnv World} {c : UInt8} (other : isEnter c = false)
    (done : consoleKey env c cs = some cs') : Edits cs cs' := by
  have effect := consoleKey_effect env c cs
  generalize consoleKey env c cs = result at effect done
  cases effect with
  | keeps =>
      cases done
      exact .same rfl rfl rfl rfl
  | tab => exact consoleTab_edits done
  | cancel =>
      cases done
      exact consoleCancel_edits cs
  | up => exact consoleUp_edits done
  | down => exact consoleDown_edits done
  | erase =>
      cases done
      exact consoleErase_edits cs
  | enter ends =>
      rw [other] at ends
      cases ends
  | char =>
      cases done
      exact consoleChar_edits c cs

theorem consoleKey_enter {env : ConsoleEnv World} {c : UInt8} (ends : isEnter c = true) :
    consoleKey env c cs = consoleEnter env c cs := by
  have key : c = 13 ∨ c = 10 ∨ c = 63 := by simpa [isEnter] using ends
  rcases key with rfl | rfl | rfl <;> rfl

end Keys

structure Reached (env : ConsoleEnv World) (world : World) (events : List (ConsoleEvent World))
    (state : ConsoleState) (cs : ConsoleSession World) : Prop where
  ran : consoleRun env (consoleConnect world) events = some cs
  state : cs.state = state

def Named (env : ConsoleEnv World) (world : World) (events : List (ConsoleEvent World))
    (username : Bytes) : Prop :=
  ∃ before c after cs, events = before ++ .byte c :: after ∧
    Reached env world before .username cs ∧ username = (content cs.cmd).take 31

/-- The user is in the table under the name that was entered, and the user's password was the line
of the session when a password was asked for. -/
def LoggedIn (env : ConsoleEnv World) (world : World) (events : List (ConsoleEvent World))
    (u : ConsoleUser) : Prop :=
  ∃ before c after cs username, events = before ++ .byte c :: after ∧
    Reached env world before .password cs ∧ Named env world before username ∧
    ghashGet consoleUserKeys (env.gUsers (env.unrefDead cs.world)) (some ⟨username, [], 0⟩) =
      some u ∧ content u.password = content cs.cmd

structure Authorized (env : ConsoleEnv World) (world : World)
    (events : List (ConsoleEvent World)) (cs : ConsoleSession World) : Prop where
  named : cs.state = .password → Named env world events cs.username
  silent : cs.state ≠ .authentic → ∀ act ∈ cs.acts, act.runs = false
  user : cs.state = .authentic → ∃ u, LoggedIn env world events u ∧ cs.priv = u.priv
  path : ∀ av path, .command av path ∈ cs.acts → ∀ cmd ∈ path, cmd.priv ≤ cs.priv

section Runs

variable {env : ConsoleEnv World} {world : World} {events : List (ConsoleEvent World)}

theorem consoleRun_concat (cs : ConsoleSession World) (events : List (ConsoleEvent World))
    (event : ConsoleEvent World) :
    consoleRun env cs (events ++ [event]) =
      (consoleRun env cs events).bind fun cs => consoleStep env cs event := by
  induction events generalizing cs with
  | nil => simp [consoleRun]
  | cons first events ih =>
      rw [List.cons_append, consoleRun, consoleRun, Option.bind_assoc]
      exact congrArg _ (funext ih)

theorem Named.concat {username : Bytes} (named : Named env world events username)
    (event : ConsoleEvent World) : Named env world (events ++ [event]) username := by
  obtain ⟨before, c, after, cs, rfl, reached, same⟩ := named
  exact ⟨before, c, after ++ [event], cs, by simp, reached, same⟩

theorem LoggedIn.concat {u : ConsoleUser} (login : LoggedIn env world events u)
    (event : ConsoleEvent World) : LoggedIn env world (events ++ [event]) u := by
  obtain ⟨before, c, after, cs, username, rfl, rest⟩ := login
  exact ⟨before, c, after ++ [event], cs, username, by simp, rest⟩

variable {cs cs' : ConsoleSession World}

theorem Authorized.concat (authorized : Authorized env world events cs)
    (event : ConsoleEvent World) : Authorized env world (events ++ [event]) cs :=
  ⟨fun asked => (authorized.named asked).concat event, authorized.silent, fun in' =>
    (authorized.user in').imp fun _ login => ⟨login.1.concat event, login.2⟩, authorized.path⟩

theorem Authorized.edits (authorized : Authorized env world events cs) (edits : Edits cs cs') :
    Authorized env world events cs' := by
  obtain ⟨quiet, acts, still⟩ := edits.acts
  refine ⟨?_, ?_, ?_, ?_⟩
  · rw [edits.state, edits.username]
    exact authorized.named
  · rw [edits.state, acts]
    intro outside act member
    exact (List.mem_append.mp member).elim (authorized.silent outside act) (still act)
  · rw [edits.state, edits.priv]
    exact authorized.user
  · rw [edits.priv, acts]
    intro av path member
    cases List.mem_append.mp member with
    | inl earlier => exact authorized.path av path earlier
    | inr later => exact Bool.noConfusion (still _ later)

/-- A name is entered. -/
theorem Authorized.enterUsername (authorized : Authorized env world events cs)
    (asked : cs.state = .username) (named : Named env world events ((content cs.cmd).take 31)) :
    Authorized env world events (enterUsername cs) := by
  have outside : cs.state ≠ .authentic := by simp [asked]
  unfold Console.enterUsername
  refine Authorized.edits ?_ (.prompt _)
  refine ⟨fun _ => named, fun _ => authorized.silent outside, ?_, authorized.path⟩
  exact fun in' => ConsoleState.noConfusion in'

/-- A password is entered. -/
theorem Authorized.enterPassword (authorized : Authorized env world events cs)
    (asked : cs.state = .password)
    (login : ∀ u, authenticated env cs = some u → LoggedIn env world events u) :
    Authorized env world events (enterPassword env cs) := by
  have outside : cs.state ≠ .authentic := by simp [asked]
  have silent := authorized.silent outside
  have none_ran (av : List Bytes) (path : List (CmdTab World)) :
      ConsoleAct.command av path ∉ cs.acts := fun ran => Bool.noConfusion (silent _ ran)
  unfold Console.enterPassword
  refine Authorized.edits ?_ (.prompt _)
  cases found : authenticated env cs with
  | none =>
      have failed : Authorized env world events { cs with username := [], state := .username } :=
        ⟨fun in' => ConsoleState.noConfusion in', fun _ => silent,
          fun in' => ConsoleState.noConfusion in', authorized.path⟩
      exact (failed.edits (.act rfl _)).edits (.same rfl rfl rfl rfl)
  | some u =>
      have passed : Authorized env world events { cs with state := .authentic, priv := u.priv } := by
        refine ⟨fun in' => ConsoleState.noConfusion in', fun outside => absurd rfl outside,
          fun _ => ⟨u, login u found, rfl⟩, ?_⟩
        exact fun av path ran => absurd ran (none_ran av path)
      exact (passed.edits (.act rfl _)).edits (.same rfl rfl rfl rfl)

theorem commandErrors_paths {rtn : Int} {av : List Bytes} {av' : List Bytes}
    {path : List (CmdTab World)} : ConsoleAct.command av' path ∉ commandErrors rtn av := by
  unfold commandErrors
  split_ifs <;> simp

/-- A command is entered. -/
theorem Authorized.doCommand (authorized : Authorized env world events cs)
    (inside : cs.state = .authentic) (av : List Bytes) :
    Authorized env world events (doCommand env av cs) := by
  refine ⟨?_, fun outside => absurd inside outside, authorized.user, ?_⟩
  · exact fun asked => ConsoleState.noConfusion (inside.symm.trans asked)
  · intro av' path ran
    cases List.mem_append.mp ran with
    | inl earlier => exact authorized.path av' path earlier
    | inr later =>
        cases List.mem_cons.mp later with
        | inl this =>
            cases this
            exact doCommandTab_path cs.priv env.gCommands av cs.world
        | inr error => exact absurd error commandErrors_paths

theorem Authorized.help (authorized : Authorized env world events cs)
    (inside : cs.state = .authentic) (av : List Bytes) :
    Authorized env world events (cs.act (.help av)) := by
  refine ⟨?_, fun outside => absurd inside outside, authorized.user, ?_⟩
  · exact fun asked => ConsoleState.noConfusion (inside.symm.trans asked)
  · intro av' path ran
    cases List.mem_append.mp ran with
    | inl earlier => exact authorized.path av' path earlier
    | inr later => cases List.mem_singleton.mp later

theorem Authorized.enterCommand {c : UInt8} (authorized : Authorized env world events cs)
    (inside : cs.state = .authentic) (done : enterCommand env c cs = some cs') :
    Authorized env world events cs' := by
  unfold Console.enterCommand at done
  obtain ⟨av, -, done⟩ := Option.bind_eq_some_iff.mp done
  dsimp only at done
  have ran : Authorized env world events
      (if c ≠ 63 then Console.doCommand env av cs else cs.act (.help av)) := by
    split_ifs
    · exact authorized.doCommand inside _
    · exact authorized.help inside _
  generalize (if c ≠ 63 then Console.doCommand env av cs else cs.act (.help av)) = cs₁ at done ran
  have prompted := ran.edits (.prompt cs₁)
  split_ifs at done
  · cases done
    exact ran.edits (.same rfl rfl rfl rfl)
  · cases done
    exact prompted.edits (.same rfl rfl rfl rfl)
  · cases done
    exact prompted.edits (.same rfl rfl rfl rfl)
  · exact prompted.edits (writeCmd_edits done)

structure Met (env : ConsoleEnv World) (cs cs₁ : ConsoleSession World) : Prop where
  edits : Edits cs cs₁
  cmd : cs₁.cmd = cs.cmd
  world : cs₁.world = env.unrefDead cs.world

theorem Met.endLine {cs₁ : ConsoleSession World} (met : Met env cs cs₁) (key : UInt8) :
    Met env cs (endLine key cs₁) := by
  unfold Console.endLine
  dsimp only
  have question : Edits cs₁ (if key = 63 then cs₁.act (.write [63]) else cs₁) := by
    split_ifs
    · exact .act rfl cs₁
    · exact .refl cs₁
  have newline := (met.edits.trans question).trans
    (.act (rfl : (ConsoleAct.write [13, 10] : ConsoleAct World).runs = false) _)
  refine ⟨newline.trans (.same rfl rfl rfl rfl), ?_, ?_⟩
  · split_ifs <;> exact met.cmd
  · split_ifs <;> exact met.world

theorem Authorized.consoleEnter {c key : UInt8} {cs₁ : ConsoleSession World}
    (authorized : Authorized env world events cs)
    (ran : consoleRun env (consoleConnect world) events = some cs) (met : Met env cs cs₁)
    (done : consoleEnter env key cs₁ = some cs') :
    Authorized env world (events ++ [.byte c]) cs' := by
  replace met := met.endLine key
  unfold Console.consoleEnter at done
  dsimp only at done
  generalize endLine key cs₁ = cs₂ at met done
  have before := (authorized.edits met.edits).concat (.byte c)
  cases asked : cs₂.state with
  | username =>
      rw [asked] at done
      cases done
      refine before.enterUsername asked ⟨events, c, [], cs, rfl, ⟨ran, ?_⟩, by rw [met.cmd]⟩
      exact met.edits.state.symm.trans asked
  | password =>
      rw [asked] at done
      cases done
      refine before.enterPassword asked fun u found => ?_
      have here : cs.state = .password := met.edits.state.symm.trans asked
      obtain ⟨listed, password⟩ := Option.filter_eq_some_iff.mp found
      rw [met.edits.username, met.world] at listed
      rw [beq_iff_eq, met.cmd] at password
      exact ⟨events, c, [], cs, cs.username, rfl, ⟨ran, here⟩, authorized.named here, listed,
        password⟩
  | authentic =>
      rw [asked] at done
      exact before.enterCommand asked done

theorem Authorized.consoleByte {c : UInt8} (authorized : Authorized env world events cs)
    (ran : consoleRun env (consoleConnect world) events = some cs)
    (done : consoleByte env c cs = some cs') :
    Authorized env world (events ++ [.byte c]) cs' := by
  have key {key : UInt8} {cs₁ : ConsoleSession World} (done : consoleKey env key cs₁ = some cs')
      (met : Met env cs cs₁) :
      Authorized env world (events ++ [.byte c]) cs' := by
    cases ends : isEnter key with
    | true =>
        rw [consoleKey_enter ends] at done
        exact authorized.consoleEnter ran met done
    | false => exact ((authorized.edits met.edits).edits (consoleKey_edits ends done)).concat _
  unfold Console.consoleByte at done
  dsimp only at done
  split_ifs at done
  · exact key done ⟨.same rfl rfl rfl rfl, rfl, rfl⟩
  · cases done
    exact (authorized.concat _).edits (.same rfl rfl rfl rfl)
  · cases done
    exact (authorized.concat _).edits (.same rfl rfl rfl rfl)
  · exact key done ⟨.same rfl rfl rfl rfl, rfl, rfl⟩

theorem Authorized.step {event : ConsoleEvent World} (authorized : Authorized env world events cs)
    (ran : consoleRun env (consoleConnect world) events = some cs)
    (done : consoleStep env cs event = some cs') :
    Authorized env world (events ++ [event]) cs' := by
  cases event with
  | byte c =>
      rw [consoleStep] at done
      split_ifs at done
      · cases done
        exact authorized.concat _
      · obtain ⟨cs₁, did, rfl⟩ := Option.map_eq_some_iff.mp done
        have after := authorized.consoleByte ran did
        split_ifs
        · exact after.edits (.act rfl _)
        · exact after
  | eof =>
      rw [consoleStep] at done
      split_ifs at done
      · cases done
        exact authorized.concat _
      · cases done
        have ended : Edits cs (cs.act .close) := .act rfl cs
        exact (authorized.concat _).edits (ended.trans (.same rfl rfl rfl rfl))
  | elsewhere world' =>
      cases done
      exact (authorized.concat _).edits (.same rfl rfl rfl rfl)

theorem authorized_run (ran : consoleRun env (consoleConnect world) events = some cs) :
    Authorized env world events cs := by
  induction events using List.reverseRecOn generalizing cs with
  | nil =>
      cases ran
      exact ⟨fun in' => ConsoleState.noConfusion in', fun _ => by
        simp [consoleConnect, ConsoleAct.runs], fun in' => ConsoleState.noConfusion in', by
        simp [consoleConnect]⟩
  | append_singleton events event ih =>
      rw [consoleRun_concat] at ran
      obtain ⟨before, earlier, done⟩ := Option.bind_eq_some_iff.mp ran
      exact (ih earlier).step earlier done

/-- A session that has run a command, or helped with one, has seen the name and the password of
one of the users, and has followed only entries of the tables that this user may. -/
theorem console_authorized (env : ConsoleEnv World) (world : World)
    (events : List (ConsoleEvent World)) {cs : ConsoleSession World}
    (ran : consoleRun env (consoleConnect world) events = some cs)
    (active : ∃ act ∈ cs.acts, act.runs = true) :
    ∃ u, LoggedIn env world events u ∧
      ∀ av path, .command av path ∈ cs.acts → ∀ cmd ∈ path, cmd.priv ≤ u.priv := by
  have authorized := authorized_run ran
  obtain ⟨act, done, runs⟩ := active
  have inside : cs.state = .authentic := by
    by_contra outside
    rw [authorized.silent outside act done] at runs
    cases runs
  obtain ⟨u, login, priv⟩ := authorized.user inside
  exact ⟨u, login, priv ▸ authorized.path⟩

/-- A daemon with one user and one command, which counts how often it runs. -/
def rootEnv : ConsoleEnv Nat where
  overlap := .fault
  gCommands := [.command (spelled ['s', 'h', 'o', 'w']) 1 (fun _ => true) fun _ runs => (0, runs + 1)]
  gUsers _ :=
    let root : ConsoleUser := ⟨spelled ['r', 'o', 'o', 't'], spelled ['h', 'u', 's', 'h'], 2⟩
    ((ghashPut consoleUserKeys (some root) true true (ghashCreate 0 0)).getD (0, ghashCreate 0 0)).2
  exit _ := false
  unrefDead world := world

def typed (text : Bytes) : List (ConsoleEvent World) := text.map .byte

def rootTypes : Bytes :=
  spelled ['r', 'o', 'o', 't', '\r', 'h', 'u', 's', 'h', '\r', 's', 'h', 'o', 'w', '\r']

theorem console_authorized_root :
    ∃ cs, consoleRun rootEnv (consoleConnect 0) (typed rootTypes) =
        some cs ∧
      ∃ u, LoggedIn rootEnv 0 (typed rootTypes) u ∧
        ∀ av path, .command av path ∈ cs.acts → ∀ cmd ∈ path, cmd.priv ≤ u.priv := by
  have runs : ((consoleRun rootEnv (consoleConnect 0)
      (typed rootTypes)).map fun cs => cs.acts.any (·.runs)) =
        some true := by
    decide +kernel
  obtain ⟨cs, ran, active⟩ := Option.map_eq_some_iff.mp runs
  exact ⟨cs, ran, console_authorized rootEnv 0 _ ran (List.any_eq_true.mp active)⟩

end Runs

end Mpd.Console
