import Mpd.Fsm.Defs

/-! The option negotiation automaton as a table: for each state and each signal,
the list of actions that it responds with. A control is what of an FSM decides
and records these responses: its state, its limits and counters, its restart
timer, and those calls to its protocol that come in pairs. -/

set_option autoImplicit false

namespace Mpd

/-- What the automaton is told: the administrative events, the expirations with
and without a restart left, and what the received packets amount to. -/
inductive Signal where
  | open | close | up | down
  | toPlus | toMinus
  | rcrPlus | rcrMinus | rcrStuck
  | rca | rcn | rcj | rtr | rta
  | rxjPlus | rxjMinus
  deriving DecidableEq, Repr

/-- What a response is made of, as far as the control is concerned. -/
inductive Action where
  | goto (state : FsmState)
  | call (told : LayerCall)
  | initCounters
  | initRestart
  | initTermination
  | zeroRestart
  | sendConfigReq
  | sendTerminateReq
  | refuse
  | startTimer
  | stopTimer
  deriving DecidableEq, Repr

structure Control where
  state : FsmState
  maxconfig : Int
  maxterminate : Int
  maxfailure : Int
  restart : Int
  failure : Int
  config : Int
  timer : Bool
  calls : List LayerCall
  deriving DecidableEq, Repr

namespace FsmState

def negotiating : FsmState → Bool
  | .reqSent | .ackRcvd | .ackSent | .opened => true
  | _ => false

theorem negotiating_iff {state : FsmState} :
    state.negotiating = true ↔ state ∈ [.reqSent, .ackRcvd, .ackSent, .opened] := by
  cases state <;> simp [negotiating]

def waiting : FsmState → Bool
  | .closing | .stopping | .reqSent | .ackRcvd | .ackSent => true
  | _ => false

theorem waiting_iff {state : FsmState} :
    state.waiting = true ↔ state ∈ [.closing, .stopping, .reqSent, .ackRcvd, .ackSent] := by
  cases state <;> simp [waiting]

end FsmState

namespace Action

def perform (c : Control) : Action → Control
  | .goto state => { c with state, timer := !state.stopsTimer && c.timer }
  | .call told => { c with calls := c.calls ++ [told] }
  | .initCounters =>
      { c with
        timer := false
        restart := c.maxconfig
        failure := c.maxfailure
        config := c.maxconfig }
  | .initRestart => { c with timer := false, restart := c.maxconfig }
  | .initTermination => { c with timer := false, restart := c.maxterminate }
  | .zeroRestart => { c with timer := false, restart := 0 }
  | .sendConfigReq =>
      { c with timer := true, restart := short (c.restart - 1), config := short (c.config - 1) }
  | .sendTerminateReq => { c with timer := true, restart := short (c.restart - 1) }
  | .refuse => { c with failure := short (c.failure - 1) }
  | .startTimer => { c with timer := true }
  | .stopTimer => { c with timer := false }

end Action

def shutDownResponse : FsmState → List Action
  | .closing => [.goto .closed]
  | .stopping => [.goto .stopped]
  | .ackRcvd | .ackSent | .reqSent => [.goto .stopped, .call .unConfigure]
  | .opened =>
      [.goto .stopping, .initTermination, .sendTerminateReq, .call .down, .call .unConfigure]
  | .initial | .starting | .closed | .stopped => []

/-- What the automaton does before it looks at a Configure-Request. -/
def admitResponse : FsmState → List Action
  | .stopped => [.call .configure]
  | _ => []

/-- What the automaton does about a Configure-Request before it answers it. -/
def renegotiateResponse : FsmState → List Action
  | .opened => [.call .down, .sendConfigReq]
  | .stopped => [.initCounters, .sendConfigReq]
  | _ => []

def answeredResponse : FsmState → Bool → List Action
  | .stopped, true | .opened, true | .reqSent, true => [.goto .ackSent]
  | .stopped, false | .opened, false | .ackSent, false => [.goto .reqSent]
  | .ackRcvd, true => [.goto .opened, .call .up]
  | _, _ => []

def response : FsmState → Signal → List Action
  | .initial, .open => [.goto .starting]
  | .closed, .open => [.call .configure, .goto .reqSent, .initCounters, .sendConfigReq]
  | .closing, .open => [.goto .stopping]
  | .starting, .close => [.goto .initial]
  | .stopped, .close => [.goto .closed]
  | .stopping, .close => [.goto .closing]
  | .opened, .close =>
      [.goto .closing, .initTermination, .sendTerminateReq, .call .down, .call .unConfigure]
  | .reqSent, .close | .ackRcvd, .close | .ackSent, .close =>
      [.goto .closing, .initTermination, .sendTerminateReq, .call .unConfigure]
  | .initial, .up => [.goto .closed]
  | .starting, .up => [.call .configure, .goto .reqSent, .initCounters, .sendConfigReq]
  | .closing, .down | .closed, .down => [.goto .initial]
  | .stopped, .down => [.goto .starting]
  | .stopping, .down | .reqSent, .down | .ackRcvd, .down | .ackSent, .down =>
      [.goto .starting, .call .unConfigure]
  | .opened, .down => [.goto .starting, .call .down, .call .unConfigure]
  | .closing, .toPlus | .stopping, .toPlus => [.stopTimer, .sendTerminateReq]
  | .reqSent, .toPlus | .ackSent, .toPlus => [.stopTimer, .sendConfigReq]
  | .ackRcvd, .toPlus => [.stopTimer, .goto .reqSent, .sendConfigReq]
  | .closing, .toMinus => [.stopTimer, .goto .closed]
  | .stopping, .toMinus => [.stopTimer, .goto .stopped]
  | .reqSent, .toMinus => .stopTimer :: shutDownResponse .reqSent
  | .ackSent, .toMinus => .stopTimer :: shutDownResponse .ackSent
  | .ackRcvd, .toMinus => .stopTimer :: shutDownResponse .ackRcvd
  | _, .toPlus | _, .toMinus => [.stopTimer]
  | state, .rcrPlus =>
      admitResponse state ++ renegotiateResponse state ++ answeredResponse state true
  | .initial, .rcrMinus | .starting, .rcrMinus | .closed, .rcrMinus => []
  | .closing, .rcrMinus | .stopping, .rcrMinus => []
  | state, .rcrMinus =>
      admitResponse state ++ renegotiateResponse state ++ .refuse :: answeredResponse state false
  | .closed, .rcrStuck | .closing, .rcrStuck | .stopping, .rcrStuck => []
  | state, .rcrStuck =>
      admitResponse state ++ renegotiateResponse state ++ shutDownResponse state
  | .reqSent, .rca => [.goto .ackRcvd, .initCounters, .startTimer]
  | .ackRcvd, .rca => [.goto .reqSent, .sendConfigReq]
  | .ackSent, .rca => [.goto .opened, .initCounters, .call .up]
  | .opened, .rca => [.goto .reqSent, .call .down, .sendConfigReq]
  | .reqSent, .rcn | .ackSent, .rcn => [.initRestart, .sendConfigReq]
  | .opened, .rcn => [.call .down, .goto .reqSent, .sendConfigReq]
  | .ackRcvd, .rcn => [.goto .reqSent, .sendConfigReq]
  | .reqSent, .rcj | .ackSent, .rcj => [.initRestart, .sendConfigReq]
  | .opened, .rcj => [.goto .reqSent, .call .down, .sendConfigReq]
  | .ackRcvd, .rcj => [.goto .reqSent, .sendConfigReq]
  | .ackRcvd, .rtr | .ackSent, .rtr => [.goto .reqSent]
  | .opened, .rtr =>
      [.goto .stopping, .call .down, .zeroRestart, .startTimer, .call .unConfigure]
  | .closing, .rta => [.goto .closed]
  | .stopping, .rta => [.goto .stopped]
  | .ackRcvd, .rta => [.goto .reqSent]
  | .opened, .rta => [.goto .reqSent, .call .down, .sendConfigReq]
  | .ackRcvd, .rxjPlus => [.goto .reqSent]
  | state, .rxjMinus => shutDownResponse state
  | _, _ => []

namespace Control

def performAll (c : Control) (actions : List Action) : Control :=
  actions.foldl Action.perform c

@[simp] theorem performAll_nil (c : Control) : c.performAll [] = c := rfl

@[simp] theorem performAll_cons (c : Control) (action : Action) (actions : List Action) :
    c.performAll (action :: actions) = (action.perform c).performAll actions := rfl

def respond (c : Control) (signal : Signal) : Control :=
  c.performAll (response c.state signal)

/-- The response to an event, which may be no signal at all. -/
def react (c : Control) (signal : Option Signal) : Control :=
  signal.elim c c.respond

@[simp] theorem react_none (c : Control) : c.react none = c := rfl

@[simp] theorem react_some (c : Control) (signal : Signal) :
    c.react (some signal) = c.respond signal := rfl

end Control

/-- A catastrophic reject shuts the FSM down. -/
theorem respond_rxjMinus (c : Control) :
    c.respond .rxjMinus = c.performAll (shutDownResponse c.state) := by
  cases state : c.state <;> simp [Control.respond, response, state]

end Mpd
