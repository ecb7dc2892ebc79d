import Mpd.Auth.Defs
import Mpd.Ipcp.Options

/-! The way of a received frame: over a link, or over the virtual link of a bundle. -/

set_option autoImplicit false

namespace Mpd.Input

def protoIp : UInt16 := 0x0021
def protoIpv6 : UInt16 := 0x0057
def protoVjuncomp : UInt16 := 0x002F
def protoMp : UInt16 := 0x003D
def protoCompd : UInt16 := 0x00FD
def protoCrypt : UInt16 := 0x0053
def protoIpv6cp : UInt16 := 0x8057
def protoCcp : UInt16 := 0x80FD
def protoEcp : UInt16 := 0x8053

def protLinkLayer (proto : UInt16) : Bool := proto &&& 0xC000 == 0xC000

def codeCoderej : UInt8 := 7
def codeProtorej : UInt8 := 8
def codeEchoreq : UInt8 := 9
def codeEchorep : UInt8 := 10

structure InLink where
  name : String
  phase : LcpPhase
  multilink : Bool
  rejid : UInt8
  deriving DecidableEq, Repr

inductive Engine where
  | ipcp | ipv6cp | ccp | ecp
  deriving DecidableEq, Repr

structure InBund where
  links : List (Option InLink)
  slots : links ≠ []
  enabled : Engine → Bool

inductive Sink where
  | lcp (l : InLink)
  | auth (l : InLink) (proto : UInt16)
  | engine (engine : Engine)
  | echoReply (bp : List UInt8)
  | protocolReject (l : InLink) (id : UInt8) (bp : List UInt8)
  | freed
  deriving DecidableEq, Repr

inductive Verdict where
  | handled (sink : Sink)
  | reject
  deriving DecidableEq, Repr

/-- A frame comes from a link, which may be in no bundle, or from a bundle. -/
inductive Arrival where
  | link (l : InLink) (b : Option InBund)
  | bundle (b : InBund)

def inputLinkCheck (l : InLink) (proto : UInt16) : Bool :=
  match l.phase with
  | .dead => false
  | .establish => proto == protoLcp
  | .authenticate => protLinkLayer proto
  | .network => true
  | .terminate => proto == protoLcp

/-- The link level of `InputDispatch`, where it decides. -/
def linkDispatch (l : InLink) (proto : UInt16) : Option Verdict :=
  if proto = protoLcp then some (.handled (.lcp l))
  else if proto = protoPap ∨ proto = protoChap ∨ proto = protoEap then
    some (.handled (.auth l proto))
  else if proto = protoMp then some (if l.multilink then .handled .freed else .reject)
  else none

/-- The engine a protocol belongs to, and whether the engine takes its frames: data is
not expected here. -/
def bundProto (proto : UInt16) : Option (Engine × Bool) :=
  if proto = protoIpcp then some (.ipcp, true)
  else if proto = protoIp ∨ proto = protoVjuncomp ∨ proto = protoVjcomp then some (.ipcp, false)
  else if proto = protoIpv6cp then some (.ipv6cp, true)
  else if proto = protoIpv6 then some (.ipv6cp, false)
  else if proto = protoCcp then some (.ccp, true)
  else if proto = protoCompd then some (.ccp, false)
  else if proto = protoEcp then some (.ecp, true)
  else if proto = protoCrypt then some (.ecp, false)
  else none

def bundDispatch (b : InBund) (proto : UInt16) : Verdict :=
  match bundProto proto with
  | none => .reject
  | some (engine, control) =>
      if !b.enabled engine then .reject
      else if control then .handled (.engine engine)
      else .handled .freed

def inputDispatch (b : Option InBund) (l : Option InLink) (proto : UInt16) : Verdict :=
  match l.bind (linkDispatch · proto) with
  | some verdict => verdict
  | none => b.elim (.handled .freed) (bundDispatch · proto)

/-- The big-endian protocol in front of the frame that is sent back. -/
def protocolRejectBody (proto : UInt16) (bp : List UInt8) : List UInt8 :=
  (proto >>> 8).toUInt8 :: proto.toUInt8 :: bp

/-- The first link of the bundle in its network phase. -/
def rejectLink (links : List (Option InLink)) : Option InLink :=
  (links.find? fun slot => slot.any (·.phase == .network)).join

/-- `for (k = 0; k < NG_PPP_MAX_LINKS && !b->links[k]; k++)`, whose body is the statement
that was to follow it: a pass is made for an empty slot only, and returns. -/
def rejectScan (inputFrame : Arrival → Option (List Sink)) (b : InBund) :
    List (Option InLink) → Option (List Sink)
  | none :: _ => inputFrame (.bundle b)
  | some _ :: _ => some [.freed]
  | [] => some [.freed]

def inputMPLink (inputFrame : Arrival → Option (List Sink)) (b : InBund) (proto : UInt16)
    (bp : List UInt8) : Option (List Sink) :=
  if proto = protoLcp then
    match bp with
    | code :: rest =>
        if bp.length < 8 then some [.freed]
        else if code = codeCoderej ∨ code = codeProtorej then rejectScan inputFrame b b.links
        else if code = codeEchoreq then some [.echoReply (codeEchorep :: rest)]
        else some [.freed]
    | [] => some [.freed]
  else some [.freed]

/-- The end of `InputFrame`. -/
def inputVerdict (verdict : Verdict) (l : Option InLink) (proto : UInt16) (bp : List UInt8) :
    List Sink :=
  match verdict with
  | .handled sink => [sink]
  | .reject =>
      match l with
      | none => [.freed]
      | some l => [.protocolReject l l.rejid (protocolRejectBody proto bp)]

/-- `InputFrame`, as deep as it may call itself. -/
def inputFrame : Nat → UInt16 → List UInt8 → Arrival → Option (List Sink)
  | 0, _, _, _ => none
  | depth + 1, proto, bp, .bundle b =>
      if protLinkLayer proto then inputMPLink (inputFrame depth proto bp) b proto bp
      else some (inputVerdict (inputDispatch (some b) none proto) (rejectLink b.links) proto bp)
  | _ + 1, proto, bp, .link l b =>
      if inputLinkCheck l proto then
        some (inputVerdict (inputDispatch b (some l) proto) (some l) proto bp)
      else some [.freed]

def InBund.attached (b : InBund) : List InLink := b.links.reduceOption

def LcpReject (proto : UInt16) (bp : List UInt8) : Prop :=
  proto = protoLcp ∧ 4 ≤ bp.length ∧ (bp.head? = some codeCoderej ∨ bp.head? = some codeProtorej)

/-- What is to become of a frame: `InputFrame` returns and has consumed it once, and a
reject that came over the bundle has gone to the LCP of one of its links. -/
def Consumed (arrival : Arrival) (proto : UInt16) (bp : List UInt8) : Prop :=
  ∃ depth sinks, inputFrame depth proto bp arrival = some sinks ∧ sinks.length = 1 ∧
    ∀ b, arrival = .bundle b → LcpReject proto bp →
      if b.attached = [] then sinks = [.freed] else ∃ l ∈ b.attached, sinks = [.lcp l]

/-- A reject over the bundle that `InputMPLink` looks into, or that a link waits for. -/
def Misrouted (arrival : Arrival) (proto : UInt16) (bp : List UInt8) : Prop :=
  ∃ b, arrival = .bundle b ∧ LcpReject proto bp ∧ (8 ≤ bp.length ∨ b.attached ≠ [])

theorem inputVerdict_once (verdict : Verdict) (l : Option InLink) (proto : UInt16)
    (bp : List UInt8) : (inputVerdict verdict l proto bp).length = 1 := by
  cases verdict with
  | handled => rfl
  | reject => cases l <;> rfl

/-- Over a link there is no way around: the frame is consumed in the first call. -/
theorem inputFrame_link (depth : Nat) (l : InLink) (b : Option InBund) (proto : UInt16)
    (bp : List UInt8) :
    ∃ sinks, inputFrame (depth + 1) proto bp (.link l b) = some sinks ∧ sinks.length = 1 := by
  rw [inputFrame]
  split
  · exact ⟨_, rfl, inputVerdict_once _ _ _ _⟩
  · exact ⟨_, rfl, rfl⟩

theorem lcpReject_linkLayer {proto : UInt16} {bp : List UInt8} (reject : LcpReject proto bp) :
    protLinkLayer proto = true := by
  rw [reject.1]
  decide

/-- A reject of eight bytes or more gets to the scan of the slots. -/
theorem inputFrame_reject {proto : UInt16} {bp : List UInt8} (reject : LcpReject proto bp)
    (whole : 8 ≤ bp.length) (depth : Nat) (b : InBund) :
    inputFrame (depth + 1) proto bp (.bundle b) =
      rejectScan (inputFrame depth proto bp) b b.links := by
  rw [inputFrame, if_pos (lcpReject_linkLayer reject)]
  obtain ⟨rfl, -, code⟩ := reject
  cases bp with
  | nil => simp at whole
  | cons head rest =>
      have is_reject : head = codeCoderej ∨ head = codeProtorej := by simpa using code
      simp only [inputMPLink]
      rw [if_neg (Nat.not_lt.mpr whole), if_pos is_reject]
      rfl

theorem inputFrame_short {proto : UInt16} {bp : List UInt8} (reject : LcpReject proto bp)
    (short : bp.length < 8) (depth : Nat) (b : InBund) :
    inputFrame (depth + 1) proto bp (.bundle b) = some [.freed] := by
  rw [inputFrame, if_pos (lcpReject_linkLayer reject)]
  cases bp with
  | nil => simp [inputMPLink]
  | cons head rest => simp only [inputMPLink, if_pos short, ite_self]

/-- With its first slot empty, a bundle is handed the reject again and again. -/
theorem inputFrame_endless {proto : UInt16} {bp : List UInt8} (reject : LcpReject proto bp)
    (whole : 8 ≤ bp.length) (b : InBund) (rest : List (Option InLink))
    (empty : b.links = none :: rest) (depth : Nat) :
    inputFrame depth proto bp (.bundle b) = none := by
  induction depth with
  | zero => rfl
  | succ depth ih => rw [inputFrame_reject reject whole, empty, rejectScan, ih]

theorem attached_first {b : InBund} {l : InLink} {rest : List (Option InLink)}
    (first : b.links = some l :: rest) : b.attached ≠ [] := by
  unfold InBund.attached
  rw [first]
  exact List.cons_ne_nil l rest.reduceOption

theorem misrouted_lost {arrival : Arrival} {proto : UInt16} {bp : List UInt8}
    (misrouted : Misrouted arrival proto bp) : ¬ Consumed arrival proto bp := by
  obtain ⟨b, rfl, reject, lost⟩ := misrouted
  rintro ⟨depth, sinks, result, -, target⟩
  have delivered := target b rfl reject
  cases depth with
  | zero => exact absurd result nofun
  | succ depth =>
      have freed : b.attached ≠ [] → sinks = [.freed] → False := by
        rintro waiting rfl
        rw [if_neg waiting] at delivered
        obtain ⟨l, -, same⟩ := delivered
        exact absurd same nofun
      by_cases whole : 8 ≤ bp.length
      · cases slots : b.links with
        | nil => exact b.slots slots
        | cons slot rest =>
            cases slot with
            | none =>
                rw [inputFrame_endless reject whole b rest slots] at result
                exact absurd result nofun
            | some l =>
                rw [inputFrame_reject reject whole, slots, rejectScan] at result
                exact freed (attached_first slots) (Option.some.inj result).symm
      · rw [inputFrame_short reject (Nat.lt_of_not_le whole)] at result
        exact freed (lost.resolve_left whole) (Option.some.inj result).symm

theorem inputMPLink_once {again : Arrival → Option (List Sink)} {b : InBund} {proto : UInt16}
    {bp : List UInt8} (other : ¬ (LcpReject proto bp ∧ 8 ≤ bp.length)) :
    ∃ sinks, inputMPLink again b proto bp = some sinks ∧ sinks.length = 1 := by
  unfold inputMPLink
  split
  case isFalse => exact ⟨_, rfl, rfl⟩
  case isTrue lcp =>
      cases bp with
      | nil => exact ⟨_, rfl, rfl⟩
      | cons code rest =>
          dsimp only
          split_ifs with short reject echo
          · exact ⟨_, rfl, rfl⟩
          · refine (other ⟨⟨lcp, by omega, by simpa using reject⟩, by omega⟩).elim
          · exact ⟨_, rfl, rfl⟩
          · exact ⟨_, rfl, rfl⟩

/-- A frame is consumed as it should be exactly if it is no reject that came over the
bundle with eight bytes or more, or to a bundle with a link. -/
theorem consumed_iff (arrival : Arrival) (proto : UInt16) (bp : List UInt8) :
    Consumed arrival proto bp ↔ ¬ Misrouted arrival proto bp := by
  refine ⟨fun consumed misrouted => misrouted_lost misrouted consumed, fun routed => ?_⟩
  cases arrival with
  | link l b =>
      obtain ⟨sinks, result, once⟩ := inputFrame_link 0 l b proto bp
      exact ⟨1, sinks, result, once, nofun⟩
  | bundle b =>
      by_cases reject : LcpReject proto bp
      · have short : bp.length < 8 :=
          Nat.lt_of_not_le fun whole => routed ⟨b, rfl, reject, .inl whole⟩
        have unattached : b.attached = [] :=
          Classical.not_not.mp fun waiting => routed ⟨b, rfl, reject, .inr waiting⟩
        refine ⟨1, [.freed], inputFrame_short reject short 0 b, rfl, ?_⟩
        rintro _ ⟨⟩ -
        rw [if_pos unattached]
      · have single : ∃ sinks, inputFrame 1 proto bp (.bundle b) = some sinks ∧ sinks.length = 1 := by
          rw [inputFrame]
          split
          · exact inputMPLink_once fun both => reject both.1
          · exact ⟨_, rfl, inputVerdict_once _ _ _ _⟩
        obtain ⟨sinks, result, once⟩ := single
        exact ⟨1, sinks, result, once, fun _ _ is_reject => absurd is_reject reject⟩

/-- A Protocol-Reject over a bundle whose only link sits in its second slot. -/
theorem protocolReject_endless :
    ¬ Consumed (.bundle ⟨[none, some ⟨"L1", .network, true, 0⟩], nofun, fun _ => true⟩) protoLcp
      [8, 1, 0, 8, 0x80, 0x57, 1, 1] :=
  misrouted_lost ⟨_, rfl, ⟨rfl, by decide, .inr rfl⟩, .inl (by decide)⟩

end Mpd.Input
