import Mathlib.Logic.Function.Basic
import Mpd.L2tp.Avp
import Mpd.Auth.Defs

/-! The control messages of L2TP: the table of `l2tp_ctrl.c` that says where each message is
expected and what it must carry, and the structures that `ppp_l2tp_avp_list2ptrs` makes of
decoded AVPs. -/

set_option autoImplicit false

namespace Mpd

/-- What no step of the program should come to: a byte that is not there, a NULL pointer, an
index past a table, a failed `assert`, and a loop that has not ended. -/
inductive L2tpFault where
  | absentByte | nullPointer | tableIndex | assertion | endless
  deriving DecidableEq, Repr

inductive L2tpMsgType where
  | sccrq | sccrp | scccn | stopCcn | hello | ocrq | ocrp | occn | icrq | icrp | iccn | cdn
  | wen | sli
  deriving DecidableEq, Repr

def L2tpMsgType.num : L2tpMsgType → UInt16
  | sccrq => 1 | sccrp => 2 | scccn => 3 | stopCcn => 4 | hello => 6 | ocrq => 7 | ocrp => 8
  | occn => 9 | icrq => 10 | icrp => 11 | iccn => 12 | cdn => 14 | wen => 15 | sli => 16

inductive L2tpCtrlState where
  | idle | waitCtlReply | waitCtlConnect | established | dying
  deriving DecidableEq, Repr

inductive L2tpSessState where
  | waitReply | waitConnect | waitAnswer | established | dying
  deriving DecidableEq, Repr

inductive L2tpOrig where
  | origLocal | origRemote
  deriving DecidableEq, Repr

inductive L2tpSide where
  | sideLns | sideLac
  deriving DecidableEq, Repr

def l2tpCtrlStateStr : L2tpCtrlState → String
  | .idle => "idle" | .waitCtlReply => "wait-ctl-reply" | .waitCtlConnect => "wait-ctl-conn"
  | .established => "established" | .dying => "dying"

def l2tpSessStateStr : L2tpSessState → String
  | .waitReply => "wait-cs-reply" | .waitConnect => "wait-connect"
  | .waitAnswer => "wait-answer" | .established => "established" | .dying => "dying"

def l2tpSessOrigStr : L2tpOrig → String
  | .origLocal => "local" | .origRemote => "remote"

def l2tpSessSideStr : L2tpSide → String
  | .sideLns => "LNS" | .sideLac => "LAC"

inductive L2tpExpected where
  | ctrl (valid_states : List L2tpCtrlState)
  | sess (valid_states : List L2tpSessState) (valid_orig : List L2tpOrig)
      (valid_side : List L2tpSide)
  deriving DecidableEq, Repr

structure L2tpMsgInfo where
  name : String
  type : L2tpMsgType
  expected : L2tpExpected
  req_avps : List AvpType

def l2tpMsgInfo : List L2tpMsgInfo :=
  [⟨"SCCRQ", .sccrq, .ctrl [.idle],
      [.protocolVersion, .hostName, .framingCapabilities, .assignedTunnelId]⟩,
    ⟨"SCCRP", .sccrp, .ctrl [.waitCtlReply],
      [.protocolVersion, .hostName, .framingCapabilities, .assignedTunnelId]⟩,
    ⟨"SCCCN", .scccn, .ctrl [.waitCtlConnect], []⟩,
    ⟨"StopCCN", .stopCcn,
      .ctrl [.idle, .waitCtlReply, .waitCtlConnect, .established, .dying],
      [.assignedTunnelId, .resultCode]⟩,
    ⟨"HELLO", .hello,
      .ctrl [.idle, .waitCtlReply, .waitCtlConnect, .established, .dying], []⟩,
    ⟨"ICRQ", .icrq, .ctrl [.established], [.assignedSessionId, .callSerialNumber]⟩,
    ⟨"OCRQ", .ocrq, .ctrl [.established],
      [.assignedSessionId, .callSerialNumber, .minimumBps, .maximumBps, .bearerType,
        .framingType, .calledNumber]⟩,
    ⟨"ICRP", .icrp, .sess [.waitReply, .dying] [.origLocal] [.sideLac],
      [.assignedSessionId]⟩,
    ⟨"OCRP", .ocrp, .sess [.waitReply, .dying] [.origLocal] [.sideLns],
      [.assignedSessionId]⟩,
    ⟨"ICCN", .iccn, .sess [.waitConnect, .dying] [.origRemote] [.sideLns],
      [.txConnectSpeed, .framingType]⟩,
    ⟨"OCCN", .occn, .sess [.waitConnect, .dying] [.origLocal] [.sideLns],
      [.txConnectSpeed, .framingType]⟩,
    ⟨"CDN", .cdn,
      .sess [.waitReply, .waitConnect, .waitAnswer, .established, .dying]
        [.origLocal, .origRemote] [.sideLac, .sideLns],
      [.resultCode, .assignedSessionId]⟩,
    ⟨"WEN", .wen, .sess [.established, .dying] [.origLocal, .origRemote] [.sideLns],
      [.callErrors]⟩,
    ⟨"SLI", .sli, .sess [.established, .dying] [.origLocal, .origRemote] [.sideLac],
      [.accm]⟩]

structure ErrResultCodeAvp where
  result : UInt16
  error : UInt16
  errmsg : Bytes

structure ProtoVersionAvp where
  version : UInt8
  revision : UInt8

structure FramingAvp where
  sync : Bool
  async : Bool

structure BearerAvp where
  digital : Bool
  analog : Bool

structure CauseCodeAvp where
  causecode : UInt16
  causemsg : UInt8
  message : Bytes

structure CallErrorAvp where
  crc : UInt32
  frame : UInt32
  overrun : UInt32
  buffer : UInt32
  timeout : UInt32
  alignment : UInt32

structure AccmAvp where
  xmit : UInt32
  recv : UInt32

/-- The structure that a pointer of `struct ppp_l2tp_avp_ptrs` points to. There is none for a
Random-Vector. -/
def AvpData : AvpType → Type
  | .messageType => UInt16
  | .resultCode => ErrResultCodeAvp
  | .protocolVersion => ProtoVersionAvp
  | .framingCapabilities => FramingAvp
  | .bearerCapabilities => BearerAvp
  | .tieBreaker => Bytes
  | .firmwareRevision => UInt16
  | .hostName => Bytes
  | .vendorName => Bytes
  | .assignedTunnelId => UInt16
  | .receiveWindowSize => UInt16
  | .challenge => Bytes
  | .causeCode => CauseCodeAvp
  | .challengeResponse => Bytes
  | .assignedSessionId => UInt16
  | .callSerialNumber => UInt32
  | .minimumBps => UInt32
  | .maximumBps => UInt32
  | .bearerType => BearerAvp
  | .framingType => FramingAvp
  | .calledNumber => Bytes
  | .callingNumber => Bytes
  | .subAddress => Bytes
  | .txConnectSpeed => UInt32
  | .physicalChannelId => UInt32
  | .initialRecvConfreq => Bytes
  | .lastSentConfreq => Bytes
  | .lastRecvConfreq => Bytes
  | .proxyAuthenType => UInt16
  | .proxyAuthenName => Bytes
  | .proxyAuthenChallenge => Bytes
  | .proxyAuthenId => UInt16
  | .proxyAuthenResponse => Bytes
  | .callErrors => CallErrorAvp
  | .accm => AccmAvp
  | .randomVector => Unit
  | .privateGroupId => Bytes
  | .rxConnectSpeed => UInt32
  | .sequencingRequired => Unit

abbrev AvpPtrs : Type := (type : AvpType) → Option (AvpData type)

def AvpPtrs.follow (ptrs : AvpPtrs) (type : AvpType) : Except L2tpFault (AvpData type) :=
  match ptrs type with
  | some data => .ok data
  | none => .error .nullPointer

namespace AvpType

def all : List AvpType :=
  pppL2tpAvpInfoList.map (·.type)

def ofNum (num : UInt16) : Option AvpType :=
  all.find? fun type => type.num = num

@[simp] theorem ofNum_num (type : AvpType) : ofNum type.num = some type := by
  cases type <;> rfl

end AvpType

def avpByte (avp : Avp) (index : Nat) : Except L2tpFault UInt8 :=
  match avp.value[index]? with
  | some byte => .ok byte
  | none => .error .absentByte

def avpWord16 (avp : Avp) (index : Nat) : Except L2tpFault UInt16 := do
  let high ← avpByte avp index
  let low ← avpByte avp (index + 1)
  pure (be16 high low)

def avpWord32 (avp : Avp) (index : Nat) : Except L2tpFault UInt32 := do
  let a ← avpByte avp index
  let b ← avpByte avp (index + 1)
  let c ← avpByte avp (index + 2)
  let d ← avpByte avp (index + 3)
  pure (be32 a b c d)

/-- `AVP_STORE8`. What is not stored is zero. -/
def avpStore8 (avp : Avp) (offset : Nat) : Except L2tpFault UInt8 :=
  if avp.vlen > offset then avpByte avp offset else pure 0

def avpStore16 (avp : Avp) (offset : Nat) : Except L2tpFault UInt16 :=
  if avp.vlen ≥ (offset + 1) * 2 then avpWord16 avp (offset * 2) else pure 0

def avpStore32 (avp : Avp) : Except L2tpFault UInt32 :=
  if avp.vlen ≥ 4 then avpWord32 avp 0 else pure 0

def avpMemcpyOff (avp : Avp) (offset : Nat) : Bytes :=
  if avp.vlen > offset then avp.value.drop offset else []

/-- Framing capabilities and framing type: `L2TP_FRAMING_SYNC` is 1, `L2TP_FRAMING_ASYNC` 2. -/
def avpFraming (avp : Avp) : Except L2tpFault FramingAvp := do
  let bits ← avpStore32 avp
  pure ⟨bits &&& 1 ≠ 0, bits &&& 2 ≠ 0⟩

def avpBearer (avp : Avp) : Except L2tpFault BearerAvp := do
  let bits ← avpStore32 avp
  pure ⟨bits &&& 1 ≠ 0, bits &&& 2 ≠ 0⟩

def avpCallErrors (avp : Avp) : Except L2tpFault CallErrorAvp :=
  if avp.vlen ≥ 2 + 6 * 4 then do
    pure ⟨← avpWord32 avp 2, ← avpWord32 avp 6, ← avpWord32 avp 10, ← avpWord32 avp 14,
      ← avpWord32 avp 18, ← avpWord32 avp 22⟩
  else pure ⟨0, 0, 0, 0, 0, 0⟩

def avpAccm (avp : Avp) : Except L2tpFault AccmAvp :=
  if avp.vlen ≥ 2 + 2 * 4 then do pure ⟨← avpWord32 avp 2, ← avpWord32 avp 6⟩
  else pure ⟨0, 0⟩

def avpData : (type : AvpType) → Avp → Except L2tpFault (AvpData type)
  | .messageType, avp => avpStore16 avp 0
  | .resultCode, avp => do
      pure ⟨← avpStore16 avp 0, ← avpStore16 avp 1, avpMemcpyOff avp 4⟩
  | .protocolVersion, avp => do pure ⟨← avpStore8 avp 0, ← avpStore8 avp 1⟩
  | .framingCapabilities, avp => avpFraming avp
  | .bearerCapabilities, avp => avpBearer avp
  | .tieBreaker, avp =>
      pure (if avp.vlen ≥ 8 then avp.value.take 8 else List.replicate 8 0)
  | .firmwareRevision, avp => avpStore16 avp 0
  | .hostName, avp => pure avp.value
  | .vendorName, avp => pure avp.value
  | .assignedTunnelId, avp => avpStore16 avp 0
  | .receiveWindowSize, avp => avpStore16 avp 0
  | .challenge, avp => pure avp.value
  | .causeCode, avp => do
      pure ⟨← avpStore16 avp 0, ← avpStore8 avp 2, avpMemcpyOff avp 3⟩
  | .challengeResponse, avp =>
      -- The structure has sixteen bytes even when the value has fewer.
      pure (avp.value ++ List.replicate (16 - avp.vlen) 0)
  | .assignedSessionId, avp => avpStore16 avp 0
  | .callSerialNumber, avp => avpStore32 avp
  | .minimumBps, avp => avpStore32 avp
  | .maximumBps, avp => avpStore32 avp
  | .bearerType, avp => avpBearer avp
  | .framingType, avp => avpFraming avp
  | .calledNumber, avp => pure avp.value
  | .callingNumber, avp => pure avp.value
  | .subAddress, avp => pure avp.value
  | .txConnectSpeed, avp => avpStore32 avp
  | .physicalChannelId, avp => avpStore32 avp
  | .initialRecvConfreq, avp => pure avp.value
  | .lastSentConfreq, avp => pure avp.value
  | .lastRecvConfreq, avp => pure avp.value
  | .proxyAuthenType, avp => avpStore16 avp 0
  | .proxyAuthenName, avp => pure avp.value
  | .proxyAuthenChallenge, avp => pure avp.value
  | .proxyAuthenId, avp => avpStore16 avp 0
  | .proxyAuthenResponse, avp => pure avp.value
  | .callErrors, avp => avpCallErrors avp
  | .accm, avp => avpAccm avp
  | .randomVector, _ => pure ()
  | .privateGroupId, avp => pure avp.value
  | .rxConnectSpeed, avp => avpStore32 avp
  | .sequencingRequired, _ => pure ()

/-- The body of the loop of `ppp_l2tp_avp_list2ptrs`. -/
def avpList2ptrsOne (ptrs : AvpPtrs) (avp : Avp) : Except L2tpFault AvpPtrs :=
  if avp.vendor ≠ 0 then .ok ptrs
  else
    match AvpType.ofNum avp.type with
    | none => .ok ptrs
    | some .randomVector => .ok ptrs
    | some type => (avpData type avp).map fun data => Function.update ptrs type (some data)

def avpList2ptrs (list : List Avp) : Except L2tpFault AvpPtrs :=
  list.foldlM avpList2ptrsOne fun _ => none

theorem avpByte_ok (avp : Avp) (index : Nat) (present : index < avp.vlen) :
    ∃ byte, avpByte avp index = .ok byte := by
  unfold avpByte Avp.vlen at *
  rw [List.getElem?_eq_getElem present]
  exact ⟨_, rfl⟩

theorem avpWord16_ok (avp : Avp) (index : Nat) (present : index + 1 < avp.vlen) :
    ∃ word, avpWord16 avp index = .ok word := by
  obtain ⟨high, readHigh⟩ := avpByte_ok avp index (Nat.lt_of_succ_lt present)
  obtain ⟨low, readLow⟩ := avpByte_ok avp _ present
  exact ⟨be16 high low, by simp [avpWord16, readHigh, readLow, bind, Except.bind, pure,
    Except.pure]⟩

theorem avpWord32_ok (avp : Avp) (index : Nat) (present : index + 3 < avp.vlen) :
    ∃ word, avpWord32 avp index = .ok word := by
  obtain ⟨a, readA⟩ := avpByte_ok avp index (by omega)
  obtain ⟨b, readB⟩ := avpByte_ok avp (index + 1) (by omega)
  obtain ⟨c, readC⟩ := avpByte_ok avp (index + 2) (by omega)
  obtain ⟨d, readD⟩ := avpByte_ok avp _ present
  exact ⟨be32 a b c d, by simp [avpWord32, readA, readB, readC, readD, bind, Except.bind, pure,
    Except.pure]⟩

theorem avpStore8_ok (avp : Avp) (offset : Nat) : ∃ byte, avpStore8 avp offset = .ok byte := by
  unfold avpStore8
  split
  · exact avpByte_ok avp offset ‹_›
  · exact ⟨0, rfl⟩

theorem avpStore16_ok (avp : Avp) (offset : Nat) : ∃ word, avpStore16 avp offset = .ok word := by
  unfold avpStore16
  split
  · exact avpWord16_ok avp _ (by omega)
  · exact ⟨0, rfl⟩

theorem avpStore32_ok (avp : Avp) : ∃ word, avpStore32 avp = .ok word := by
  unfold avpStore32
  split
  · exact avpWord32_ok avp 0 (by omega)
  · exact ⟨0, rfl⟩

theorem avpFraming_ok (avp : Avp) : ∃ framing, avpFraming avp = .ok framing := by
  obtain ⟨bits, stored⟩ := avpStore32_ok avp
  exact ⟨_, by rw [avpFraming, stored]; rfl⟩

theorem avpBearer_ok (avp : Avp) : ∃ bearer, avpBearer avp = .ok bearer := by
  obtain ⟨bits, stored⟩ := avpStore32_ok avp
  exact ⟨_, by rw [avpBearer, stored]; rfl⟩

theorem avpCallErrors_ok (avp : Avp) : ∃ errors, avpCallErrors avp = .ok errors := by
  unfold avpCallErrors
  split
  · obtain ⟨crc, readCrc⟩ := avpWord32_ok avp 2 (by omega)
    obtain ⟨frame, readFrame⟩ := avpWord32_ok avp 6 (by omega)
    obtain ⟨overrun, readOverrun⟩ := avpWord32_ok avp 10 (by omega)
    obtain ⟨buffer, readBuffer⟩ := avpWord32_ok avp 14 (by omega)
    obtain ⟨timeout, readTimeout⟩ := avpWord32_ok avp 18 (by omega)
    obtain ⟨alignment, readAlignment⟩ := avpWord32_ok avp 22 (by omega)
    exact ⟨_, by
      rw [readCrc, readFrame, readOverrun, readBuffer, readTimeout, readAlignment]; rfl⟩
  · exact ⟨_, rfl⟩

theorem avpAccm_ok (avp : Avp) : ∃ accm, avpAccm avp = .ok accm := by
  unfold avpAccm
  split
  · obtain ⟨xmit, readXmit⟩ := avpWord32_ok avp 2 (by omega)
    obtain ⟨recv, readRecv⟩ := avpWord32_ok avp 6 (by omega)
    exact ⟨_, by rw [readXmit, readRecv]; rfl⟩
  · exact ⟨_, rfl⟩

/-- The macros check the length of a value before they read of it. -/
theorem avpData_ok (type : AvpType) (avp : Avp) : ∃ data, avpData type avp = .ok data := by
  cases type with
  | messageType | firmwareRevision | assignedTunnelId | receiveWindowSize | assignedSessionId
  | proxyAuthenType | proxyAuthenId => exact avpStore16_ok avp 0
  | callSerialNumber | minimumBps | maximumBps | txConnectSpeed | physicalChannelId
  | rxConnectSpeed => exact avpStore32_ok avp
  | framingCapabilities | framingType => exact avpFraming_ok avp
  | bearerCapabilities | bearerType => exact avpBearer_ok avp
  | resultCode =>
      obtain ⟨result, readResult⟩ := avpStore16_ok avp 0
      obtain ⟨error, readError⟩ := avpStore16_ok avp 1
      exact ⟨_, by rw [avpData, readResult, readError]; rfl⟩
  | protocolVersion =>
      obtain ⟨version, readVersion⟩ := avpStore8_ok avp 0
      obtain ⟨revision, readRevision⟩ := avpStore8_ok avp 1
      exact ⟨_, by rw [avpData, readVersion, readRevision]; rfl⟩
  | causeCode =>
      obtain ⟨causecode, readCode⟩ := avpStore16_ok avp 0
      obtain ⟨causemsg, readMsg⟩ := avpStore8_ok avp 2
      exact ⟨_, by rw [avpData, readCode, readMsg]; rfl⟩
  | callErrors => exact avpCallErrors_ok avp
  | accm => exact avpAccm_ok avp
  | _ => exact ⟨_, rfl⟩

/-- An AVP fills the pointer of its type, and no pointer is taken away. -/
theorem avpList2ptrsOne_ok (ptrs : AvpPtrs) (avp : Avp) :
    ∃ after, avpList2ptrsOne ptrs avp = .ok after ∧
      (∀ type, (ptrs type).isSome → (after type).isSome) ∧
      ∀ type, avp.vendor = 0 → avp.type = type.num → type ≠ .randomVector →
        (after type).isSome := by
  unfold avpList2ptrsOne
  by_cases vendor : avp.vendor = 0
  case neg => exact ⟨ptrs, if_pos vendor, fun _ had => had, fun _ is => absurd is vendor⟩
  rw [if_neg (not_not.mpr vendor)]
  cases found : AvpType.ofNum avp.type with
  | none =>
      refine ⟨ptrs, rfl, fun _ had => had, fun type _ is => ?_⟩
      rw [is, AvpType.ofNum_num] at found
      exact nomatch found
  | some case =>
      by_cases vector : case = .randomVector
      case pos =>
        subst vector
        refine ⟨ptrs, rfl, fun _ had => had, fun type _ is other => ?_⟩
        rw [is, AvpType.ofNum_num] at found
        exact absurd (Option.some.inj found) other
      obtain ⟨data, read⟩ := avpData_ok case avp
      refine ⟨Function.update ptrs case (some data), ?_, fun type had => ?_, fun type _ is _ => ?_⟩
      · cases case <;> first | exact absurd rfl vector | (dsimp only; rw [read]; rfl)
      · by_cases same : type = case
        · subst same
          rw [Function.update_self]
          rfl
        · rw [Function.update_of_ne same]
          exact had
      · rw [is, AvpType.ofNum_num] at found
        cases Option.some.inj found
        rw [Function.update_self]
        rfl

theorem avpList2ptrs_from_ok (list : List Avp) (ptrs : AvpPtrs) :
    ∃ after, list.foldlM avpList2ptrsOne ptrs = .ok after ∧
      (∀ type, (ptrs type).isSome → (after type).isSome) ∧
      ∀ avp ∈ list, ∀ type, avp.vendor = 0 → avp.type = type.num → type ≠ .randomVector →
        (after type).isSome := by
  induction list generalizing ptrs with
  | nil => exact ⟨ptrs, rfl, fun _ had => had, fun _ is => nomatch is⟩
  | cons avp list ih =>
      obtain ⟨middle, stored, kept, filled⟩ := avpList2ptrsOne_ok ptrs avp
      obtain ⟨after, rest, keptRest, filledRest⟩ := ih middle
      refine ⟨after, ?_, fun type had => keptRest type (kept type had), fun other member => ?_⟩
      · rw [List.foldlM_cons, stored]
        exact rest
      · cases member with
        | head => exact fun type vendor is vector => keptRest type (filled type vendor is vector)
        | tail _ member => exact filledRest other member

/-- `ppp_l2tp_avp_list2ptrs` reads no byte that is not there, and the pointer of every AVP of
the list is set. -/
theorem avpList2ptrs_ok (list : List Avp) :
    ∃ ptrs, avpList2ptrs list = .ok ptrs ∧
      ∀ avp ∈ list, ∀ type, avp.vendor = 0 → avp.type = type.num → type ≠ .randomVector →
        (ptrs type).isSome := by
  obtain ⟨ptrs, stored, -, filled⟩ := avpList2ptrs_from_ok list fun _ => none
  exact ⟨ptrs, stored, filled⟩

end Mpd
