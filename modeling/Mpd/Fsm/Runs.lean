import Mpd.Transition
import Mpd.Fsm.Refinement

/-! Runs of one FSM from `FsmInit`, and the rule that carries an invariant of
the automaton over to them. -/

set_option autoImplicit false

namespace Mpd

open Transition

variable {Layer : Type}

/-- The FSM after the listed events, from `FsmInit` on. -/
def fsmRun (T : FsmType Layer) (layer : Layer) (events : List FsmEvent) : FsmWorld Layer :=
  run (fsmStep T) (FsmWorld.init layer) events

/-- The control right after `FsmInit`. -/
def Control.init : Control where
  state := .initial
  maxconfig := fsmMaxConfig
  maxterminate := fsmMaxTerminate
  maxfailure := fsmMaxFailure
  restart := 0
  failure := 0
  config := 0
  timer := false
  calls := []

structure Control.DefaultLimits (c : Control) : Prop where
  maxconfig : c.maxconfig = fsmMaxConfig
  maxterminate : c.maxterminate = fsmMaxTerminate
  maxfailure : c.maxfailure = fsmMaxFailure

theorem Action.perform_limits (c : Control) (action : Action) (limits : c.DefaultLimits) :
    (action.perform c).DefaultLimits := by
  cases action <;> exact ⟨limits.maxconfig, limits.maxterminate, limits.maxfailure⟩

theorem Control.performAll_limits {c : Control} (limits : c.DefaultLimits)
    (actions : List Action) : (c.performAll actions).DefaultLimits := by
  induction actions generalizing c with
  | nil => exact limits
  | cons action actions ih => exact ih (Action.perform_limits c action limits)

theorem Control.react_limits {c : Control} (limits : c.DefaultLimits) (signal : Option Signal) :
    (c.react signal).DefaultLimits := by
  cases signal with
  | none => exact limits
  | some signal => exact performAll_limits limits (response c.state signal)

theorem answerSignal_ne_rcrStuck {signal : Signal} (other : signal ≠ .rcrStuck) (id : UInt8)
    (w : FsmWorld Layer) : answerSignal signal id w ≠ some .rcrStuck := by
  unfold answerSignal
  split_ifs <;> simp [other]

theorem rejectSignal_ne_rcrStuck (fatal : Bool) : rejectSignal fatal ≠ .rcrStuck := by
  cases fatal <;> simp [rejectSignal]

theorem magicSignal_ne_rcrStuck (T : FsmType Layer) (junk : Nat → UInt8) (bp : Bytes)
    (w : FsmWorld Layer) : magicSignal T junk bp w ≠ some .rcrStuck := by
  unfold magicSignal
  split_ifs <;> simp

theorem actionSignal_rcrStuck {T : FsmType Layer} {junk : Nat → UInt8} {code : FsmCode}
    {id : UInt8} {bp : Bytes} {w : FsmWorld Layer}
    (stuck : actionSignal T junk code id bp w = some .rcrStuck) :
    code = .configReq ∧ configReqSignal T bp w = .rcrStuck := by
  cases code with
  | configReq => exact ⟨rfl, Option.some.inj stuck⟩
  | configAck => exact absurd stuck (answerSignal_ne_rcrStuck (by simp) id w)
  | configNak => exact absurd stuck (answerSignal_ne_rcrStuck (by simp) id w)
  | configRej => exact absurd stuck (answerSignal_ne_rcrStuck (by simp) id w)
  | codeRej => exact absurd (Option.some.inj stuck) (rejectSignal_ne_rcrStuck _)
  | protoRej => exact absurd (Option.some.inj stuck) (rejectSignal_ne_rcrStuck _)
  | vendor => exact absurd stuck (magicSignal_ne_rcrStuck T junk bp w)
  | echoReq => exact absurd stuck (magicSignal_ne_rcrStuck T junk bp w)
  | echoRep => exact absurd stuck (magicSignal_ne_rcrStuck T junk bp w)
  | discReq => exact absurd stuck (magicSignal_ne_rcrStuck T junk bp w)
  | ident => exact absurd stuck (magicSignal_ne_rcrStuck T junk bp w)
  | timeRem => exact absurd stuck (magicSignal_ne_rcrStuck T junk bp w)
  | _ => simp [actionSignal] at stuck

/-- Only a Configure-Request that is not acceptable finds an FSM stuck. -/
theorem fsmSignal_rcrStuck {T : FsmType Layer} {w : FsmWorld Layer} {event : FsmEvent}
    (stuck : fsmSignal T w event = some .rcrStuck) :
    ∃ junk packet id bp, event = .input junk packet ∧
      readHeader packet = some (FsmCode.configReq.num, id, bp) ∧
      T.knownCode? FsmCode.configReq.num = some .configReq ∧
      configReqSignal T bp w = .rcrStuck := by
  cases event with
  | input junk packet =>
      simp only [fsmSignal, inputSignal] at stuck
      rcases header : readHeader packet with _ | ⟨code, id, bp⟩
      · simp [header] at stuck
      · simp only [header, Option.bind_eq_some_iff] at stuck
        obtain ⟨row, known, acted⟩ := stuck
        obtain ⟨rfl, signal⟩ := actionSignal_rcrStuck acted
        obtain rfl : code = FsmCode.configReq.num := FsmCode.ofByte?_eq_some (by
          simp only [FsmType.knownCode?, Option.filter_eq_some_iff] at known
          exact known.1)
        exact ⟨junk, packet, id, bp, rfl, header, known, signal⟩
  | timeout =>
      simp only [fsmSignal] at stuck
      split_ifs at stuck <;> simp at stuck
  | echoTimeout bund traffic =>
      simp only [fsmSignal] at stuck
      split_ifs at stuck
      simp at stuck
  | _ => simp [fsmSignal] at stuck

/-- With the default limits a request never finds a stopped FSM stuck. -/
theorem not_rcrStuck_of_stopped {T : FsmType Layer} {w : FsmWorld Layer} {event : FsmEvent}
    (limits : (control w).DefaultLimits) (stopped : w.fsm.state = .stopped) :
    fsmSignal T w event ≠ some .rcrStuck := by
  intro stuck
  obtain ⟨junk, packet, id, bp, -, -, -, signal⟩ := fsmSignal_rcrStuck stuck
  have limit : w.fsm.conf.maxfailure = 5 := limits.maxfailure
  simp only [configReqSignal, stopped, if_true, limit] at signal
  split_ifs at signal
  omega

/-- What the table keeps holds of the control in every run. A request may find the
FSM stuck only in the states `stuckIn`. -/
theorem control_invariant (T : FsmType Layer) [NonReentrant T] (layer : Layer)
    {invariant : Control → Prop} (allowed : FsmWorld Layer → FsmEvent → Prop)
    (stuckIn : FsmState → Prop) (initial : invariant Control.init)
    (stuck : ∀ w event, (control w).DefaultLimits → allowed w event →
      fsmSignal T w event = some .rcrStuck → stuckIn w.fsm.state)
    (kept : ∀ (c : Control) (signal : Signal),
      (signal = .rcrStuck → stuckIn c.state) → invariant c → invariant (c.respond signal))
    {events : List FsmEvent}
    (meets : Meets (fsmStep T) allowed (FsmWorld.init layer) events) :
    invariant (control (fsmRun T layer events)) := by
  let sound (w : FsmWorld Layer) : Prop := (control w).DefaultLimits ∧ invariant (control w)
  have step (w : FsmWorld Layer) (event : FsmEvent) (before : sound w)
      (permitted : allowed w event) : sound (fsmStep T w event) := by
    obtain ⟨limits, holds⟩ := before
    simp only [sound, control_fsmStep]
    refine ⟨Control.react_limits limits _, ?_⟩
    cases signalled : fsmSignal T w event with
    | none => exact holds
    | some signal =>
        refine kept (control w) signal (fun isStuck => ?_) holds
        rw [isStuck] at signalled
        exact stuck w event limits permitted signalled
  have start : sound (FsmWorld.init layer) := ⟨⟨rfl, rfl, rfl⟩, initial⟩
  exact (invariant_run (fsmStep T) step start meets).2

/-- A protocol without options: it asks for none, and rejects every one it is
asked for. -/
def FsmType.bare : FsmType Unit where
  proto := 0x8021
  known_codes := 0xFE
  newState _ _ w := w
  layerUp w := w
  layerDown w := w
  layerStart w := w
  layerFinish w := w
  buildConfigReq w := ([], w)
  decodeConfig options mode w := if mode = .req then options.foldl (flip fsmRej) w else w
  configure w := w
  unConfigure w := w
  sendTerminateReq w := w
  sendTerminateAck w := w
  recvCodeRej := none
  recvProtoRej := none
  failure _ w := w
  recvResetReq _ _ w := w
  recvResetAck _ _ w := w
  recvIdent _ w := w
  recvDiscReq _ w := w
  recvTimeRemain _ w := w
  recvVendor _ w := w
  wantMagic _ := 0
  peerMagic _ := 0

theorem keepsFsm_fsmRej (option : FsmOption) (w : FsmWorld Layer) :
    KeepsFsm w (fsmRej option w) := by
  unfold fsmRej
  split_ifs <;> exact ⟨rfl, rfl⟩

theorem keepsFsm_foldl_fsmRej (options : List FsmOption) (w : FsmWorld Layer) :
    KeepsFsm w (options.foldl (flip fsmRej) w) := by
  induction options generalizing w with
  | nil => exact ⟨rfl, rfl⟩
  | cons option options ih =>
      have first := keepsFsm_fsmRej option w
      have rest := ih (fsmRej option w)
      exact ⟨rest.control.trans first.control, rest.reqid.trans first.reqid⟩

theorem Keeps.refl (w : FsmWorld Layer) : Keeps w w := ⟨⟨rfl, rfl⟩, rfl, rfl, rfl⟩

instance : NonReentrant FsmType.bare where
  newState _ _ w := .refl w
  layerUp w := .refl w
  layerDown w := .refl w
  layerStart w := .refl w
  layerFinish w := .refl w
  buildConfigReq w := .refl w
  decodeConfig options mode w := by
    simp only [FsmType.bare]
    split_ifs
    · exact keepsFsm_foldl_fsmRej options w
    · exact ⟨rfl, rfl⟩
  decodeBuffers options mode w other := by
    simp only [FsmType.bare, other, if_false]
    exact .refl w
  configure w := .refl w
  unConfigure w := .refl w
  sendTerminateReq w := .refl w
  sendTerminateAck w := .refl w
  recvCodeRej _ found := nomatch found
  recvProtoRej _ found := nomatch found
  failure _ w := .refl w
  recvResetReq _ _ w := .refl w
  recvResetAck _ _ w := .refl w
  recvIdent _ w := .refl w
  recvDiscReq _ w := .refl w
  recvTimeRemain _ w := .refl w
  recvVendor _ w := .refl w

end Mpd
