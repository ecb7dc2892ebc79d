import Mathlib.Logic.Function.Iterate
import Mpd.Fsm.Runs

/-! The restart timer is pending exactly while the FSM waits for the peer, so an
FSM that hears nothing gives up after finitely many expirations. -/

set_option autoImplicit false

namespace Mpd

open Transition

variable {Layer : Type}

theorem short_le (value : Int) : short value ≤ 32767 := by
  unfold short
  omega

structure Control.ShortRestart (c : Control) : Prop where
  restart : c.restart ≤ 32767
  maxconfig : c.maxconfig ≤ 32767
  maxterminate : c.maxterminate ≤ 32767

theorem Action.perform_shortRestart {c : Control} (ranged : c.ShortRestart) (action : Action) :
    (action.perform c).ShortRestart := by
  obtain ⟨restart, maxconfig, maxterminate⟩ := ranged
  cases action with
  | sendConfigReq | sendTerminateReq => exact ⟨short_le _, maxconfig, maxterminate⟩
  | initCounters | initRestart => exact ⟨maxconfig, maxconfig, maxterminate⟩
  | initTermination => exact ⟨maxterminate, maxconfig, maxterminate⟩
  | zeroRestart => exact ⟨by simp [Action.perform], maxconfig, maxterminate⟩
  | _ => exact ⟨restart, maxconfig, maxterminate⟩

theorem Control.performAll_shortRestart {c : Control} (ranged : c.ShortRestart)
    (actions : List Action) : (c.performAll actions).ShortRestart := by
  induction actions generalizing c with
  | nil => exact ranged
  | cons action actions ih => exact ih (Action.perform_shortRestart ranged action)

theorem timer_respond (c : Control) (signal : Signal)
    (possible : signal = .rcrStuck → c.state ≠ .stopped) (waits : c.timer = c.state.waiting) :
    (c.respond signal).timer = (c.respond signal).state.waiting := by
  cases state : c.state <;> cases signal <;>
    simp_all [Control.respond, response, Action.perform, admitResponse, renegotiateResponse,
      answeredResponse, shutDownResponse, FsmState.waiting, FsmState.stopsTimer]

structure Control.Timed (c : Control) : Prop where
  timer : c.timer = c.state.waiting
  ranged : c.ShortRestart

theorem Control.timed_respond {c : Control} {signal : Signal}
    (possible : signal = .rcrStuck → c.state ≠ .stopped) (timed : c.Timed) :
    (c.respond signal).Timed :=
  ⟨timer_respond c signal possible timed.timer, performAll_shortRestart timed.ranged _⟩

theorem timed_run (T : FsmType Layer) [NonReentrant T] (layer : Layer)
    (events : List FsmEvent) : (control (fsmRun T layer events)).Timed := by
  refine control_invariant T layer (fun _ _ => True) (· ≠ .stopped)
    ⟨rfl, by decide, by decide, by decide⟩ ?_ (fun c signal => Control.timed_respond)
    (meets_of_forall _ (by simp) _ _)
  intro w event limits _ stuck stopped
  exact not_rcrStuck_of_stopped limits stopped stuck

def Control.expire (c : Control) : Control :=
  c.react (if c.timer then some (if c.restart > 0 then .toPlus else .toMinus) else none)

theorem control_timeout (T : FsmType Layer) [NonReentrant T] (w : FsmWorld Layer) :
    control (fsmStep T w .timeout) = (control w).expire :=
  control_fsmStep T w .timeout

/-- A pending timer that expires with restarts left is pending again, with one
restart less. -/
theorem Control.expire_of_left {c : Control} (timed : c.Timed) (pending : c.timer = true)
    (left : 0 < c.restart) :
    c.expire.timer = true ∧ c.expire.restart = c.restart - 1 := by
  have waits : c.state.waiting = true := by rw [← timed.timer, pending]
  have exact : short (c.restart - 1) = c.restart - 1 :=
    short_of_bounds (by omega) (by have := timed.ranged.restart; omega)
  cases state : c.state <;>
    simp_all [expire, respond, response, Action.perform, FsmState.waiting]

/-- A pending timer that expires with no restarts left is not pending any more. -/
theorem Control.expire_of_spent {c : Control} (timed : c.Timed) (spent : c.restart ≤ 0) :
    c.expire.timer = false := by
  cases pending : c.timer with
  | false => simp [expire, pending]
  | true =>
      have waits : c.state.waiting = true := by rw [← timed.timer, pending]
      have expired : c.expire = c.respond .toMinus := by simp [expire, pending, Int.not_lt.mpr spent]
      rw [expired]
      cases state : c.state <;>
        simp_all [respond, response, shutDownResponse, Action.perform, FsmState.waiting,
          FsmState.stopsTimer]

theorem Control.timed_expire {c : Control} (timed : c.Timed) : c.expire.Timed := by
  unfold expire
  split_ifs
  · exact timed_respond (by simp) timed
  · exact timed_respond (by simp) timed
  · exact timed

/-- The timer is not pending after one expiration for each restart that is left and
one more. -/
theorem Control.expire_stops {c : Control} (timed : c.Timed) :
    ∃ count : Nat, (count : Int) ≤ max c.restart 0 + 1 ∧ (expire^[count] c).timer = false := by
  induction left : c.restart.toNat generalizing c with
  | zero => exact ⟨1, by omega, expire_of_spent timed (by omega)⟩
  | succ restarts ih =>
      cases pending : c.timer with
      | false => exact ⟨0, by omega, pending⟩
      | true =>
          obtain ⟨-, fewer⟩ := expire_of_left timed pending (by omega)
          obtain ⟨count, bounded, stopped⟩ := ih (timed_expire timed) (by omega)
          exact ⟨count + 1, by omega, stopped⟩

theorem control_timeouts (T : FsmType Layer) [NonReentrant T] (w : FsmWorld Layer)
    (count : Nat) :
    control (run (fsmStep T) w (List.replicate count .timeout)) =
      Control.expire^[count] (control w) := by
  induction count generalizing w with
  | zero => rfl
  | succ count ih =>
      rw [List.replicate_succ, run_cons, ih, control_timeout]
      rfl

/-- In every run the restart timer is pending exactly in Closing, Stopping,
Req-Sent, Ack-Rcvd and Ack-Sent, and expirations alone stop it after at most as
many as there are restarts left and one more. -/
theorem timer_pending_iff_waiting (T : FsmType Layer) [NonReentrant T] (layer : Layer)
    (events : List FsmEvent) :
    let w := fsmRun T layer events
    (w.fsm.timer = true ↔
      w.fsm.state ∈ [.closing, .stopping, .reqSent, .ackRcvd, .ackSent]) ∧
    ∃ count : Nat, (count : Int) ≤ max w.fsm.restart 0 + 1 ∧
      (fsmRun T layer (events ++ List.replicate count .timeout)).fsm.timer = false := by
  intro w
  have timed : (control w).Timed := timed_run T layer events
  constructor
  · have waits : w.fsm.timer = w.fsm.state.waiting := timed.timer
    rw [waits, FsmState.waiting_iff]
  · obtain ⟨count, bounded, stopped⟩ := Control.expire_stops timed
    refine ⟨count, bounded, ?_⟩
    rw [fsmRun, run_append]
    rw [← control_timeouts T] at stopped
    exact stopped

theorem timer_pending_iff_waiting_reqSent :
    let w := fsmRun .bare () [.open, .up]
    w.fsm.timer = true ∧ ∃ count : Nat, (count : Int) ≤ max w.fsm.restart 0 + 1 ∧
      (fsmRun .bare () ([.open, .up] ++ List.replicate count .timeout)).fsm.timer = false :=
  have pending := timer_pending_iff_waiting .bare () [.open, .up]
  ⟨pending.1.mpr (by decide), pending.2⟩

end Mpd
