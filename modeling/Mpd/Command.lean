import Mpd.Bytes

/-! The command tables of `command.c`: a command is looked up by the beginning of its name among
those that the context is privileged to run. -/

set_option autoImplicit false

namespace Mpd

def cmdErrUndef : Int := -2
def cmdErrAmbig : Int := -3
def cmdErrRecur : Int := -4
def cmdErrUnfin : Int := -5
def cmdErrNoctx : Int := -6
def cmdErrOther : Int := -7

/-- `struct cmdtab`, less its description. The context of a command, but for its privilege, is
a part of the world. Without further arguments `ShowSessCmds` has a command of its own. -/
inductive CmdTab (World : Type) where
  | command (name : Bytes) (priv : Int) (admits : World → Bool)
      (func : List Bytes → World → Int × World)
  | submenu (name : Bytes) (priv : Int) (admits : World → Bool)
      (showSessions : Option (World → Int × World)) (menu : List (CmdTab World))

variable {World : Type}

namespace CmdTab

def name : CmdTab World → Bytes
  | command name .. => name
  | submenu name .. => name

def priv : CmdTab World → Int
  | command _ priv .. => priv
  | submenu _ priv .. => priv

def admits : CmdTab World → World → Bool
  | command _ _ admits _ => admits
  | submenu _ _ admits .. => admits

end CmdTab

def findCommand (priv : Int) (cmds : List (CmdTab World)) (str : Bytes) :
    Except Int (CmdTab World) :=
  match cmds.filter fun cmd => str.isPrefixOf cmd.name && decide (cmd.priv ≤ priv) with
  | [] => .error cmdErrUndef
  | [cmd] => .ok cmd
  | _ => .error cmdErrAmbig

/-- What `DoCommandTab` returns and leaves behind, and the entries of the tables that led it to
the function it called, if any. -/
structure DoneCommand (World : Type) where
  rtn : Int
  world : World
  path : List (CmdTab World)

def doCommandTab (priv : Int) (cmdlist : List (CmdTab World)) (av : List Bytes) (w : World) :
    DoneCommand World :=
  match av with
  | [] => ⟨cmdErrUnfin, w, []⟩
  | str :: av =>
      match findCommand priv cmdlist str with
      | .error rtn => ⟨rtn, w, []⟩
      | .ok cmd =>
          if !cmd.admits w then ⟨cmdErrNoctx, w, []⟩
          else
            match cmd with
            | .command _ _ _ func => ⟨(func av w).1, (func av w).2, [cmd]⟩
            | .submenu _ _ _ (some showSessions) menu =>
                if av = [] then ⟨(showSessions w).1, (showSessions w).2, [cmd]⟩
                else
                  let done := doCommandTab priv menu av w
                  { done with path := cmd :: done.path }
            | .submenu _ _ _ none menu =>
                let done := doCommandTab priv menu av w
                { done with path := cmd :: done.path }

theorem findCommand_priv {priv : Int} {cmds : List (CmdTab World)} {str : Bytes}
    {cmd : CmdTab World} (found : findCommand priv cmds str = .ok cmd) :
    cmd ∈ cmds ∧ cmd.priv ≤ priv := by
  have member : cmd ∈ cmds.filter fun cmd => str.isPrefixOf cmd.name && decide (cmd.priv ≤ priv) := by
    unfold findCommand at found
    split at found
    · cases found
    · rename_i only
      cases found
      rw [only]
      exact List.mem_singleton_self _
    · cases found
  obtain ⟨listed, fits⟩ := List.mem_filter.mp member
  rw [Bool.and_eq_true, decide_eq_true_eq] at fits
  exact ⟨listed, fits.2⟩

/-- No entry above the privilege of the context is followed. -/
theorem doCommandTab_path (priv : Int) (cmdlist : List (CmdTab World)) (av : List Bytes)
    (w : World) : ∀ cmd ∈ (doCommandTab priv cmdlist av w).path, cmd.priv ≤ priv := by
  induction av generalizing cmdlist with
  | nil => simp [doCommandTab]
  | cons str av ih =>
      rw [doCommandTab]
      cases found : findCommand priv cmdlist str with
      | error rtn => simp
      | ok cmd =>
          have allowed := (findCommand_priv found).2
          have below (menu : List (CmdTab World)) : ∀ entry ∈ cmd :: (doCommandTab priv menu av w).path,
              entry.priv ≤ priv :=
            List.forall_mem_cons.mpr ⟨allowed, ih menu⟩
          have alone : ∀ entry ∈ [cmd], entry.priv ≤ priv := List.forall_mem_singleton.mpr allowed
          cases admitted : cmd.admits w with
          | false => simp [admitted]
          | true =>
              dsimp only
              rw [admitted, if_neg (by decide)]
              cases cmd with
              | command name level admits func => exact alone
              | submenu name level admits showSessions menu =>
                  cases showSessions with
                  | none => exact below menu
                  | some showSessions =>
                      by_cases bare : av = []
                      · simpa only [bare, if_true] using alone
                      · simpa only [bare, if_false] using below menu

end Mpd
