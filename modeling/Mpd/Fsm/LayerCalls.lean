import Mpd.Alternation
import Mpd.Fsm.Runs

/-! The calls to the protocol come in pairs: it is configured before it is
unconfigured, and its layer goes up before it goes down. -/

set_option autoImplicit false

namespace Mpd

open Transition

variable {Layer : Type}

/-- Whether a protocol is configured after a call, given whether it was before. -/
def LayerCall.brackets (configured : Bool) : LayerCall → Bool
  | .configure => true
  | .unConfigure => false
  | _ => configured

/-- The last of the Configure and UnConfigure calls was Configure. -/
def configured (calls : List LayerCall) : Bool :=
  calls.foldl LayerCall.brackets false

def ConfiguresOnce : Bool → List LayerCall → Prop
  | _, [] => True
  | configured, told :: calls =>
      (told = .configure → configured = false) ∧
        ConfiguresOnce (told.brackets configured) calls

theorem configured_append (first second : List LayerCall) :
    configured (first ++ second) = second.foldl LayerCall.brackets (configured first) :=
  List.foldl_append

theorem configuresOnce_append (before : Bool) (first second : List LayerCall) :
    ConfiguresOnce before (first ++ second) ↔
      ConfiguresOnce before first ∧
        ConfiguresOnce (first.foldl LayerCall.brackets before) second := by
  induction first generalizing before with
  | nil => simp [ConfiguresOnce]
  | cons told calls ih => simp [ConfiguresOnce, ih, and_assoc]

instance ConfiguresOnce.decide : (configured : Bool) → (calls : List LayerCall) →
    Decidable (ConfiguresOnce configured calls)
  | _, [] => isTrue trivial
  | configured, told :: calls =>
      have := ConfiguresOnce.decide (told.brackets configured) calls
      inferInstanceAs (Decidable ((told = .configure → configured = false) ∧
        ConfiguresOnce (told.brackets configured) calls))

def Action.told : Action → Option LayerCall
  | .call told => some told
  | _ => none

def Action.leads (state : FsmState) : Action → FsmState
  | .goto next => next
  | _ => state

def toldCalls (actions : List Action) : List LayerCall := actions.filterMap Action.told

theorem Control.performAll_calls (c : Control) (actions : List Action) :
    (c.performAll actions).calls = c.calls ++ toldCalls actions := by
  induction actions generalizing c with
  | nil => exact (List.append_nil _).symm
  | cons action actions ih =>
      rw [performAll_cons, ih]
      cases action with
      | call told => exact List.append_assoc c.calls [told] _
      | _ => rfl

theorem Control.performAll_state (c : Control) (actions : List Action) :
    (c.performAll actions).state = actions.foldl Action.leads c.state := by
  induction actions generalizing c with
  | nil => rfl
  | cons action actions ih =>
      rw [performAll_cons, ih, List.foldl_cons]
      cases action <;> rfl

structure Control.Bracketed (c : Control) : Prop where
  once : ConfiguresOnce false c.calls
  configured : configured c.calls = c.state.negotiating

/-- A response configures what is not configured, and leaves it so where it negotiates. -/
theorem response_brackets (state : FsmState) (signal : Signal)
    (possible : signal = .rcrStuck → state ≠ .stopped) :
    ConfiguresOnce state.negotiating (toldCalls (response state signal)) ∧
      (toldCalls (response state signal)).foldl LayerCall.brackets state.negotiating =
        ((response state signal).foldl Action.leads state).negotiating := by
  cases state <;> cases signal <;> first
    | exact absurd rfl (possible rfl)
    | decide

theorem Control.bracketed_respond {c : Control} {signal : Signal}
    (possible : signal = .rcrStuck → c.state ≠ .stopped) (bracketed : c.Bracketed) :
    (c.respond signal).Bracketed := by
  obtain ⟨once, isConfigured⟩ := bracketed
  have last : c.calls.foldl LayerCall.brackets false = c.state.negotiating := isConfigured
  obtain ⟨configures, leads⟩ := response_brackets c.state signal possible
  constructor
  · rw [respond, performAll_calls, configuresOnce_append, last]
    exact ⟨once, configures⟩
  · rw [respond, performAll_calls, configured_append, isConfigured, performAll_state]
    exact leads

theorem bracketed_run (T : FsmType Layer) [NonReentrant T] (layer : Layer)
    (events : List FsmEvent) : (control (fsmRun T layer events)).Bracketed := by
  refine control_invariant T layer (fun _ _ => True) (· ≠ .stopped)
    ⟨trivial, rfl⟩ ?_ (fun c signal => Control.bracketed_respond)
    (meets_of_forall _ (by simp) _ _)
  intro w event limits _ stuck stopped
  exact not_rcrStuck_of_stopped limits stopped stuck

/-- An event only adds to the calls. -/
theorem fsmStep_calls (T : FsmType Layer) [NonReentrant T] (w : FsmWorld Layer)
    (event : FsmEvent) :
    ∃ later, pairedCalls (fsmStep T w event).log = pairedCalls w.log ++ later := by
  have stepped := congrArg Control.calls (control_fsmStep T w event)
  cases signalled : fsmSignal T w event with
  | none => exact ⟨[], by simpa [signalled] using stepped⟩
  | some signal =>
      refine ⟨toldCalls (response w.fsm.state signal), ?_⟩
      rw [signalled, Control.react_some, Control.respond, control_state,
        Control.performAll_calls] at stepped
      exact stepped

/-- Calls without UnConfigure leave a configured protocol configured. -/
theorem foldl_brackets_of_not_mem {calls : List LayerCall} (absent : .unConfigure ∉ calls) :
    calls.foldl LayerCall.brackets true = true := by
  induction calls with
  | nil => rfl
  | cons told calls ih =>
      rw [List.mem_cons, not_or] at absent
      have kept : told.brackets true = true := by
        cases told <;> simp_all [LayerCall.brackets]
      rw [List.foldl_cons, kept]
      exact ih absent.2

/-- In every run Configure is called only when the protocol is not configured, and
the protocol is configured exactly in Req-Sent, Ack-Rcvd, Ack-Sent and Opened; an
event that leaves these states calls UnConfigure. -/
theorem configure_brackets_negotiation (T : FsmType Layer) [NonReentrant T] (layer : Layer)
    (events : List FsmEvent) :
    let w := fsmRun T layer events
    (∀ before after, pairedCalls w.log = before ++ .configure :: after →
      configured before = false) ∧
    (configured (pairedCalls w.log) = true ↔
      w.fsm.state ∈ [.reqSent, .ackRcvd, .ackSent, .opened]) ∧
    ∀ event, w.fsm.state ∈ [.reqSent, .ackRcvd, .ackSent, .opened] →
      (fsmStep T w event).fsm.state ∉ [.reqSent, .ackRcvd, .ackSent, .opened] →
      ∃ later, pairedCalls (fsmStep T w event).log = pairedCalls w.log ++ later ∧
        .unConfigure ∈ later := by
  intro w
  have bracketed : (control w).Bracketed := bracketed_run T layer events
  simp only [← FsmState.negotiating_iff]
  refine ⟨?_, ?_, ?_⟩
  · intro before after split
    have once := bracketed.once
    rw [control_calls, split, configuresOnce_append] at once
    exact once.2.1 rfl
  · rw [← control_calls, bracketed.configured, control_state]
  · intro event inside outside
    have next : (control (fsmStep T w event)).Bracketed := by
      have run := bracketed_run T layer (events ++ [event])
      rwa [fsmRun, run_concat] at run
    obtain ⟨later, grown⟩ := fsmStep_calls T w event
    refine ⟨later, grown, ?_⟩
    by_contra absent
    have kept := foldl_brackets_of_not_mem absent
    have before : configured (pairedCalls w.log) = true := bracketed.configured.trans inside
    have after := next.configured
    rw [control_calls, grown, configured_append, before, kept] at after
    exact outside after.symm

theorem configure_brackets_negotiation_reqSent :
    let w := fsmRun .bare () [.open, .up]
    configured (pairedCalls w.log) = true ∧
      ∃ later, pairedCalls (fsmStep .bare w .down).log = pairedCalls w.log ++ later ∧
        .unConfigure ∈ later :=
  have bracketed := configure_brackets_negotiation .bare () [.open, .up]
  ⟨bracketed.2.1.mpr (by decide), bracketed.2.2 .down (by decide) (by decide)⟩

def upDown (calls : List LayerCall) : List Bool :=
  calls.filterMap fun
    | .up => some true
    | .down => some false
    | _ => none

@[simp] theorem upDown_append (first second : List LayerCall) :
    upDown (first ++ second) = upDown first ++ upDown second :=
  List.filterMap_append

structure Control.Alternating (c : Control) : Prop where
  alternates : Alternates true (upDown c.calls)
  due : nextCall true (upDown c.calls) = !decide (c.state = .opened)

/-- A response takes the layer up and down in turn, and up where it leads to Opened. -/
theorem response_alternates (state : FsmState) (signal : Signal)
    (possible : signal = .rcrStuck → state ≠ .stopped ∧ state ≠ .opened) :
    Alternates (!decide (state = .opened)) (upDown (toldCalls (response state signal))) ∧
      nextCall (!decide (state = .opened)) (upDown (toldCalls (response state signal))) =
        !decide ((response state signal).foldl Action.leads state = .opened) := by
  cases state <;> cases signal <;> first
    | exact absurd rfl (possible rfl).1
    | exact absurd rfl (possible rfl).2
    | decide

theorem Control.alternating_respond {c : Control} {signal : Signal}
    (possible : signal = .rcrStuck → c.state ≠ .stopped ∧ c.state ≠ .opened)
    (alternating : c.Alternating) : (c.respond signal).Alternating := by
  obtain ⟨alternates, due⟩ := alternating
  obtain ⟨turns, leads⟩ := response_alternates c.state signal possible
  constructor
  · rw [respond, performAll_calls, upDown_append, alternates_append, due]
    exact ⟨alternates, turns⟩
  · rw [respond, performAll_calls, upDown_append, nextCall_append, due, performAll_state]
    exact leads

/-- LayerUp and LayerDown strictly alternate beginning with LayerUp, and there is
one LayerUp more exactly in Opened. -/
def LayersAlternate (w : FsmWorld Layer) : Prop :=
  let calls := upDown (pairedCalls w.log)
  Alternates true calls ∧
    calls.count true = calls.count false + (if w.fsm.state = .opened then 1 else 0)

instance (w : FsmWorld Layer) : Decidable (LayersAlternate w) :=
  inferInstanceAs (Decidable (_ ∧ _))

theorem layersAlternate_iff (w : FsmWorld Layer) :
    LayersAlternate w ↔ (control w).Alternating := by
  constructor
  · rintro ⟨alternates, counts⟩
    refine ⟨alternates, ?_⟩
    have due := alternates_count alternates
    rw [control_calls, control_state]
    cases next : nextCall true (upDown (pairedCalls w.log)) <;>
      by_cases opened : w.fsm.state = .opened <;> simp [next, opened] at due counts ⊢ <;> omega
  · rintro ⟨alternates, due⟩
    refine ⟨alternates, ?_⟩
    rw [control_calls, control_state] at due
    have counts := alternates_count alternates
    rw [control_calls, due] at counts
    by_cases opened : w.fsm.state = .opened <;> simpa [opened] using counts

/-- The event is a Configure-Request that is not acceptable and that arrives in
Opened when no failure is left. -/
def RefusedInOpened (T : FsmType Layer) (w : FsmWorld Layer) (event : FsmEvent) : Prop :=
  ∃ junk packet id bp, event = .input junk packet ∧
    readHeader packet = some (FsmCode.configReq.num, id, bp) ∧
    T.knownCode? FsmCode.configReq.num = some .configReq ∧
    w.fsm.state = .opened ∧ w.fsm.failure ≤ 0 ∧
    (fsmDecodeBuffer T bp .req w).fullyAcked = false

theorem refusedInOpened_iff {T : FsmType Layer} {w : FsmWorld Layer} {event : FsmEvent} :
    RefusedInOpened T w event ↔
      w.fsm.state = .opened ∧ fsmSignal T w event = some .rcrStuck := by
  constructor
  · rintro ⟨junk, packet, id, bp, rfl, header, known, opened, spent, refused⟩
    refine ⟨opened, ?_⟩
    simp [fsmSignal, inputSignal, header, known, actionSignal, configReqSignal, fsmAdmit, opened,
      spent, refused]
  · rintro ⟨opened, stuck⟩
    obtain ⟨junk, packet, id, bp, rfl, header, known, signal⟩ := fsmSignal_rcrStuck stuck
    refine ⟨junk, packet, id, bp, rfl, header, known, opened, ?_⟩
    simp only [configReqSignal, fsmAdmit, opened, reduceCtorEq, if_false] at signal
    split_ifs at signal with acked spent
    exact ⟨spent, by simpa using acked⟩

/-- A refused request in Opened takes the layer down twice. -/
theorem not_alternating_of_refused {T : FsmType Layer} [NonReentrant T] {w : FsmWorld Layer}
    {event : FsmEvent} (refused : RefusedInOpened T w event) :
    ¬ (control (fsmStep T w event)).Alternating := by
  obtain ⟨opened, stuck⟩ := refusedInOpened_iff.mp refused
  have twice : upDown (control (fsmStep T w event)).calls =
      upDown (pairedCalls w.log) ++ [false] ++ [false] := by
    rw [control_fsmStep, stuck]
    simp [Control.respond, opened, response, admitResponse, renegotiateResponse,
      shutDownResponse, Action.perform, upDown]
  rintro ⟨alternates, -⟩
  rw [twice, alternates_concat, alternates_concat, nextCall_concat] at alternates
  obtain ⟨⟨-, first⟩, second⟩ := alternates
  rw [← first] at second
  exact absurd second (by decide)

/-- The layer calls alternate after every event of a run exactly when in no step of
the run a request is refused in Opened with no failure left. -/
theorem layersAlternate_iff_not_refused (T : FsmType Layer) [NonReentrant T] (layer : Layer)
    (events : List FsmEvent) :
    (∀ earlier later, events = earlier ++ later → LayersAlternate (fsmRun T layer earlier)) ↔
      Meets (fsmStep T) (fun w event => ¬ RefusedInOpened T w event) (FsmWorld.init layer)
        events := by
  simp only [layersAlternate_iff]
  constructor
  · intro alternating
    induction events using List.reverseRecOn with
    | nil => trivial
    | append_singleton events event ih =>
        rw [meets_concat]
        refine ⟨ih fun earlier later split => alternating earlier (later ++ [event]) ?_, ?_⟩
        · rw [split, List.append_assoc]
        · intro refused
          have last := alternating (events ++ [event]) [] (List.append_nil _).symm
          rw [fsmRun, run_concat] at last
          exact not_alternating_of_refused refused last
  · rintro meets earlier later rfl
    refine control_invariant T layer _ (fun state => state ≠ .stopped ∧ state ≠ .opened)
      ⟨trivial, rfl⟩ ?_ (fun c signal => Control.alternating_respond)
      (meets_append _ |>.mp meets).1
    intro w event limits notRefused stuck
    refine ⟨fun stopped => not_rcrStuck_of_stopped limits stopped stuck, fun opened => ?_⟩
    exact notRefused (refusedInOpened_iff.mpr ⟨opened, stuck⟩)

theorem layersAlternate_opened :
    LayersAlternate (fsmRun .bare () [.open, .up, .receive .configAck 1 [],
      .receive .configReq 1 []]) := by
  refine (layersAlternate_iff_not_refused .bare () _).mpr ?_ _ [] (List.append_nil _).symm
  refine ⟨?_, ?_, ?_, ?_, trivial⟩
  · exact fun ⟨_, _, _, _, received, _⟩ => nomatch received
  · exact fun ⟨_, _, _, _, received, _⟩ => nomatch received
  · exact fun ⟨_, _, _, _, _, _, _, opened, _⟩ => absurd opened (by decide)
  · exact fun ⟨_, _, _, _, _, _, _, opened, _⟩ => absurd opened (by decide)

/-- Five refused requests in Ack-Rcvd use up the failures, and the acceptable one
that opens the layer does not start them over: the next refused request takes the
layer down, then fails in Opened and takes it down again. -/
theorem not_layersAlternate_refused :
    ¬ ∀ (T : FsmType Unit) [NonReentrant T] (events : List FsmEvent),
      LayersAlternate (fsmRun T () events) := by
  intro alternates
  have twice := alternates .bare ([.open, .up, .receive .configAck 1 []] ++
    List.replicate 5 (.receive .configReq 1 [3, 2]) ++
    [.receive .configReq 1 [], .receive .configReq 1 [3, 2]])
  revert twice
  decide

end Mpd
