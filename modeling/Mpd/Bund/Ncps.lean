import Mpd.Transition
import Mpd.Alternation
import Mpd.Ipcp.Options
import Mathlib.Logic.Function.Basic

/-! The interface of a bundle under `BundNcpsJoin` and `BundNcpsLeave`. The configuration
of either address family may fail, and `FsmFailure` may then take the layer of that very
protocol down again from inside the call. -/

set_option autoImplicit false

namespace Mpd.Ncps

inductive Family where
  | ip
  | ipv6
  deriving DecidableEq, Repr

inductive NcpProto where
  | none
  | ipcp
  | ipv6cp
  deriving DecidableEq, Repr

def Family.proto : Family → NcpProto
  | .ip => .ipcp
  | .ipv6 => .ipv6cp

def Family.other : Family → Family
  | .ip => .ipv6
  | .ipv6 => .ip

/-- What comes of `IfaceIpIfaceUp` or `IfaceIpv6IfaceUp`: where it fails, `FsmFailure` calls
the down handler of the layer if its FSM was opened. -/
inductive UpOutcome where
  | configured
  | failed (opened : Bool)
  deriving DecidableEq, Repr

inductive FamilyCall where
  | up (configured : Bool)
  | down
  deriving DecidableEq, Repr

/-- The protocols a bundle may run, of which there is at least one. -/
structure NcpOptions where
  ipcp : Bool
  ipv6cp : Bool
  enabled : ipcp || ipv6cp
  deriving DecidableEq, Repr

def NcpOptions.family (options : NcpOptions) : Family → Bool
  | .ip => options.ipcp
  | .ipv6 => options.ipv6cp

/-- The interface with the calls made on it so far: those of `IfaceUp` (`true`) and
`IfaceDown`, and those of either address family. -/
structure IfaceWorld where
  iface : Iface
  options : NcpOptions
  asked : Nat
  ifaceCalls : List Bool
  familyCalls : Family → List FamilyCall
  overflow : Bool

def isUp (iface : Iface) : Family → Bool
  | .ip => iface.ip_up
  | .ipv6 => iface.ipv6_up

def setUp (iface : Iface) (family : Family) (up : Bool) : Iface :=
  match family with
  | .ip => { iface with ip_up := up }
  | .ipv6 => { iface with ipv6_up := up }

def IfaceWorld.call (w : IfaceWorld) (family : Family) (calls : List FamilyCall) : IfaceWorld :=
  { w with familyCalls := Function.update w.familyCalls family (w.familyCalls family ++ calls) }

/-- `IfaceIpIfaceDown` and `IfaceIpv6IfaceDown`, where the family is up. -/
def familyDown (family : Family) (w : IfaceWorld) : IfaceWorld :=
  if isUp w.iface family then
    { w with iface := setUp w.iface family false }.call family [.down]
  else w

/-- `IfaceIpIfaceUp` and `IfaceIpv6IfaceUp`, with what their failure does. -/
def familyConfigure (leave : NcpProto → IfaceWorld → IfaceWorld) (outcomes : Nat → UpOutcome)
    (family : Family) (w : IfaceWorld) : Bool × IfaceWorld :=
  let asked := { w with asked := w.asked + 1 }
  match outcomes w.asked with
  | .configured => (true, asked.call family [.up true])
  | .failed false => (false, asked.call family [.up false])
  | .failed true => (false, leave family.proto (asked.call family [.up false]))

/-- The flag of the family is set before the call and cleared where it fails. -/
def familyUp (leave : NcpProto → IfaceWorld → IfaceWorld) (outcomes : Nat → UpOutcome)
    (family : Family) (w : IfaceWorld) : Bool × IfaceWorld :=
  let result := familyConfigure leave outcomes family { w with iface := setUp w.iface family true }
  if result.1 then result
  else (false, { result.2 with iface := setUp result.2.iface family false })

def ifaceDown (w : IfaceWorld) : IfaceWorld :=
  { w with
    iface := { w.iface with dod := false, up := false }
    ifaceCalls := w.ifaceCalls ++ [false] }

def ifaceUp (dod : Bool) (w : IfaceWorld) : IfaceWorld :=
  { w with
    iface := { w.iface with dod := w.iface.dod || dod, up := true }
    ifaceCalls := w.ifaceCalls ++ [true] }

/-- What `BundNcpsLeave` takes down before it looks at the interface. -/
def leaveFamilies : NcpProto → IfaceWorld → IfaceWorld
  | .ipcp, w => familyDown .ip w
  | .ipv6cp, w => familyDown .ipv6 w
  | .none, w => familyDown .ipv6 (familyDown .ip w)

/-- An enabled family comes up on demand. -/
def demand (leave : NcpProto → IfaceWorld → IfaceWorld) (outcomes : Nat → UpOutcome)
    (family : Family) (w : IfaceWorld) : IfaceWorld :=
  if w.options.family family then (familyUp leave outcomes family w).2 else w

/-- `BundNcpsLeave`, entered again from its own calls to the given depth. -/
def bundNcpsLeave (outcomes : Nat → UpOutcome) : Nat → NcpProto → IfaceWorld → IfaceWorld
  | 0, _, w => { w with overflow := true }
  | depth + 1, proto, w =>
      let w := leaveFamilies proto w
      if w.iface.up && !w.iface.ip_up && !w.iface.ipv6_up then
        let w := ifaceDown w
        if w.iface.open then
          let leave := bundNcpsLeave outcomes depth
          let w := demand leave outcomes .ipv6 (demand leave outcomes .ip w)
          if w.iface.ip_up || w.iface.ipv6_up then ifaceUp true w else w
        else w
      else w

/-- An interface that was up on demand only is taken down. -/
def endDod (w : IfaceWorld) : IfaceWorld :=
  if w.iface.dod then ifaceDown (familyDown .ipv6 (familyDown .ip w)) else w

/-- A family that is not up comes up; `false` where `BundNcpsJoin` then returns. -/
def joinFamily (leave : NcpProto → IfaceWorld → IfaceWorld) (outcomes : Nat → UpOutcome)
    (family : Family) (w : IfaceWorld) : Bool × IfaceWorld :=
  if isUp w.iface family then (true, w) else familyUp leave outcomes family w

def joinEnabled (leave : NcpProto → IfaceWorld → IfaceWorld) (outcomes : Nat → UpOutcome)
    (family : Family) (w : IfaceWorld) : Bool × IfaceWorld :=
  if w.options.family family then joinFamily leave outcomes family w else (true, w)

/-- The switch of `BundNcpsJoin` over the protocol. -/
def joinFamilies (leave : NcpProto → IfaceWorld → IfaceWorld) (outcomes : Nat → UpOutcome)
    (proto : NcpProto) (w : IfaceWorld) : Bool × IfaceWorld :=
  match proto with
  | .ipcp => joinFamily leave outcomes .ip w
  | .ipv6cp => joinFamily leave outcomes .ipv6 w
  | .none =>
      let ip := joinEnabled leave outcomes .ip w
      if ip.1 then joinEnabled leave outcomes .ipv6 ip.2 else ip

def bundNcpsJoin (outcomes : Nat → UpOutcome) (depth : Nat) (proto : NcpProto) (w : IfaceWorld) :
    IfaceWorld :=
  let joined := joinFamilies (bundNcpsLeave outcomes depth) outcomes proto (endDod w)
  let w := joined.2
  if joined.1 && !w.iface.up then ifaceUp (proto == .none) w else w

/-- A call of the one or the other, or what an operator may change between two of them. -/
inductive NcpsEvent where
  | join (proto : NcpProto)
  | leave (proto : NcpProto)
  | setOpen («open» : Bool)
  | configure (options : NcpOptions)
  deriving DecidableEq, Repr

/-- How deep the handlers nest: a failure inside of a failure does not occur. -/
def nesting : Nat := 2

def ncpsStep (outcomes : Nat → UpOutcome) (w : IfaceWorld) : NcpsEvent → IfaceWorld
  | .join proto => bundNcpsJoin outcomes nesting proto w
  | .leave proto => bundNcpsLeave outcomes nesting proto w
  | .setOpen isOpen => { w with iface := { w.iface with «open» := isOpen } }
  | .configure options => { w with options }

def ncpsStart (options : NcpOptions) : IfaceWorld where
  iface := { «open» := false, dod := false, up := false, ip_up := false, ipv6_up := false }
  options := options
  asked := 0
  ifaceCalls := []
  familyCalls _ := []
  overflow := false

def ncpsRun (outcomes : Nat → UpOutcome) (options : NcpOptions) (events : List NcpsEvent) :
    IfaceWorld :=
  events.foldl (ncpsStep outcomes) (ncpsStart options)

def lastUp (calls : List FamilyCall) : Option (Bool × Nat) :=
  calls.foldl (fun last call =>
    match call with
    | .up configured => some (configured, 0)
    | .down => last.map fun (configured, downs) => (configured, downs + 1)) none

/-- A successful configuration is taken down exactly once before the next one. -/
def Matched (calls : List FamilyCall) : Prop :=
  ∀ before downs again after,
    calls = before ++ .up true :: (List.replicate downs .down ++ .up again :: after) → downs = 1

def Released (calls : List FamilyCall) : Prop := ∀ downs, lastUp calls = some (true, downs) → downs = 1

@[simp] theorem lastUp_up (calls : List FamilyCall) (configured : Bool) :
    lastUp (calls ++ [.up configured]) = some (configured, 0) := by
  simp [lastUp]

@[simp] theorem lastUp_down (calls : List FamilyCall) :
    lastUp (calls ++ [.down]) =
      (lastUp calls).map fun (configured, downs) => (configured, downs + 1) := by
  simp [lastUp]

theorem lastUp_downs (calls : List FamilyCall) (configured : Bool) (downs : Nat) :
    lastUp (calls ++ .up configured :: List.replicate downs .down) = some (configured, downs) := by
  induction downs with
  | zero => simp
  | succ downs ih =>
      have moved : calls ++ FamilyCall.up configured :: List.replicate (downs + 1) .down =
          (calls ++ .up configured :: List.replicate downs .down) ++ [.down] := by
        simp [List.replicate_succ']
      rw [moved, lastUp_down, ih]
      rfl

theorem matched_concat {calls : List FamilyCall} {call : FamilyCall} (matched : Matched calls)
    (released : ∀ configured, call = .up configured → Released calls) :
    Matched (calls ++ [call]) := by
  intro before downs again after split
  have marked : calls ++ [call] =
      (before ++ .up true :: List.replicate downs .down) ++ .up again :: after := by
    rw [split]
    simp
  rcases Transition.concat_eq_append_cons marked with ⟨rfl, last⟩ | ⟨init, earlier⟩
  · exact released again last.symm downs (lastUp_downs before true downs)
  · apply matched before downs again init
    rw [earlier]
    simp

theorem matched_down {calls : List FamilyCall} (matched : Matched calls) :
    Matched (calls ++ [.down]) :=
  matched_concat matched nofun

theorem matched_up {calls : List FamilyCall} {configured : Bool} (matched : Matched calls)
    (released : Released calls) : Matched (calls ++ [.up configured]) :=
  matched_concat matched fun _ _ => released

structure Settled (calls : List FamilyCall) (up : Bool) : Prop where
  matched : Matched calls
  live : up = true → lastUp calls = some (true, 0)
  released : up = false → Released calls

theorem settled_nil : Settled [] false where
  matched before _ _ _ split := by simp at split
  live := nofun
  released _ _ last := by simp [lastUp] at last

theorem Settled.down {calls : List FamilyCall} (settled : Settled calls true) :
    Settled (calls ++ [.down]) false where
  matched := matched_down settled.matched
  live := nofun
  released _ downs last := by
    rw [lastUp_down, settled.live rfl] at last
    simpa using last.symm

theorem Settled.configured {calls : List FamilyCall} (settled : Settled calls false) :
    Settled (calls ++ [.up true]) true where
  matched := matched_up settled.matched (settled.released rfl)
  live _ := lastUp_up calls true
  released := nofun

theorem Settled.failed {calls : List FamilyCall} (settled : Settled calls false) :
    Settled (calls ++ [.up false]) false where
  matched := matched_up settled.matched (settled.released rfl)
  live := nofun
  released _ downs last := by simp at last

/-- After a failure the layer that was opened is taken down as well. -/
theorem Settled.failed_opened {calls : List FamilyCall} (settled : Settled calls false) :
    Settled (calls ++ [.up false, .down]) false where
  matched := by
    have moved : calls ++ [.up false, .down] = (calls ++ [.up false]) ++ [.down] := by simp
    rw [moved]
    exact matched_down settled.failed.matched
  live := nofun
  released _ downs last := by
    have moved : calls ++ [.up false, .down] = (calls ++ [.up false]) ++ [.down] := by simp
    rw [moved, lastUp_down] at last
    simp at last

section Calls

variable (w : IfaceWorld) (family : Family) (calls : List FamilyCall)

@[simp] theorem call_iface : (w.call family calls).iface = w.iface := rfl
@[simp] theorem call_options : (w.call family calls).options = w.options := rfl
@[simp] theorem call_asked : (w.call family calls).asked = w.asked := rfl
@[simp] theorem call_ifaceCalls : (w.call family calls).ifaceCalls = w.ifaceCalls := rfl
@[simp] theorem call_overflow : (w.call family calls).overflow = w.overflow := rfl

end Calls

section Flags

variable (iface : Iface) (family : Family) (up : Bool)

@[simp] theorem setUp_up : (setUp iface family up).up = iface.up := by cases family <;> rfl
@[simp] theorem setUp_dod : (setUp iface family up).dod = iface.dod := by cases family <;> rfl
@[simp] theorem setUp_open : (setUp iface family up).open = iface.open := by cases family <;> rfl

@[simp] theorem isUp_setUp : isUp (setUp iface family up) family = up := by cases family <;> rfl

@[simp] theorem isUp_setUp_other : isUp (setUp iface family up) family.other = isUp iface family.other := by
  cases family <;> rfl

@[simp] theorem setUp_setUp (again : Bool) :
    setUp (setUp iface family up) family again = setUp iface family again := by
  cases family <;> rfl

end Flags

def UpOutcome.succeeds : UpOutcome → Bool
  | .configured => true
  | .failed _ => false

def UpOutcome.calls : UpOutcome → List FamilyCall
  | .configured => [.up true]
  | .failed false => [.up false]
  | .failed true => [.up false, .down]

/-- The layer that fails goes down from inside the call; the interface stays as it is. -/
theorem bundNcpsLeave_nested (outcomes : Nat → UpOutcome) (depth : Nat) (family : Family)
    (w : IfaceWorld) (up : isUp w.iface family = true)
    (covered : w.iface.up = true → isUp w.iface family.other = true) :
    bundNcpsLeave outcomes (depth + 1) family.proto w =
      { w with iface := setUp w.iface family false }.call family [.down] := by
  cases family with
  | ip =>
      have ip : w.iface.ip_up = true := up
      have other : w.iface.up = true → w.iface.ipv6_up = true := covered
      have stays : (w.iface.up && !w.iface.ipv6_up) = false := by
        cases up : w.iface.up <;> simp_all
      simp [bundNcpsLeave, leaveFamilies, familyDown, Family.proto, isUp, setUp, ip, stays]
  | ipv6 =>
      have ipv6 : w.iface.ipv6_up = true := up
      have other : w.iface.up = true → w.iface.ip_up = true := covered
      have stays : (w.iface.up && !w.iface.ip_up) = false := by
        cases up : w.iface.up <;> simp_all
      simp [bundNcpsLeave, leaveFamilies, familyDown, Family.proto, isUp, setUp, ipv6, stays]

theorem familyUp_eq (outcomes : Nat → UpOutcome) (depth : Nat) (family : Family) (w : IfaceWorld)
    (covered : w.iface.up = true → isUp w.iface family.other = true) :
    familyUp (bundNcpsLeave outcomes (depth + 1)) outcomes family w =
      ((outcomes w.asked).succeeds,
        { w with
          asked := w.asked + 1
          iface := setUp w.iface family ((outcomes w.asked).succeeds) }.call family
            (outcomes w.asked).calls) := by
  cases outcome : outcomes w.asked with
  | configured => simp [familyUp, familyConfigure, outcome, UpOutcome.calls, UpOutcome.succeeds, IfaceWorld.call]
  | failed opened =>
      cases opened with
      | false => simp [familyUp, familyConfigure, outcome, UpOutcome.calls, UpOutcome.succeeds, IfaceWorld.call]
      | true =>
          have nested := bundNcpsLeave_nested outcomes depth family
            ({ w with asked := w.asked + 1, iface := setUp w.iface family true }.call family
              [.up false]) (by simp) (by simpa using covered)
          simp only [familyUp, familyConfigure, outcome, nested]
          simp [UpOutcome.calls, UpOutcome.succeeds, IfaceWorld.call]

end Mpd.Ncps
