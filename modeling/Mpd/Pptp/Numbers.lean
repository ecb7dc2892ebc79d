import Mpd.CString

/-! `PptpInCallRequest` of `pptp_ctrl.c`: the phone numbers of an incoming call, from the
message to the link side and into the channel. -/

set_option autoImplicit false

namespace Mpd.PptpNumbers

open CString

def pptpPhoneLen : Nat := 64
def pptpSubaddrLen : Nat := 64
def pptpRecvWin : UInt16 := 16
def pptpPpd : UInt16 := 1

def pptpIcrReslOk : UInt8 := 1
def pptpIcrReslNak : UInt8 := 3

structure InCallRequest where
  cid : UInt16
  serno : UInt16
  bearType : UInt32
  dialedLen : UInt16
  dialingLen : UInt16
  dialed : Bytes
  dialing : Bytes
  subaddr : Bytes
  behind : UInt8
  dialed_length : dialed.length = pptpPhoneLen
  dialing_length : dialing.length = pptpPhoneLen
  subaddr_length : subaddr.length = pptpSubaddrLen

/-- The arrays for the numbers, with room for a NUL. -/
structure Numbers where
  callingNum : Bytes
  calledNum : Bytes
  subAddress : Bytes
  calling_length : callingNum.length = pptpPhoneLen + 1
  called_length : calledNum.length = pptpPhoneLen + 1
  sub_length : subAddress.length = pptpSubaddrLen + 1

structure CallChan where
  cid : UInt16
  orig : Bool
  incoming : Bool
  bearType : UInt32
  minBps : UInt32
  maxBps : UInt32
  serno : UInt16
  peerCid : UInt16
  cookie : Bool
  callingNum : Bytes
  calledNum : Bytes
  subAddress : Bytes

structure InCallReply where
  cid : UInt16
  peerCid : UInt16
  result : UInt8
  recvWin : UInt16
  ppd : UInt16

/-- The surroundings: the local arrays before they are written, the call id that is free,
`gGetInLink` when it is set, and whether the reply can be written. -/
structure InCallEnv where
  stack : Numbers
  callId : UInt16
  getInLink : Option (Bytes → Bytes → Bool)
  written : Bool

structure InCall where
  callingNum : Bytes
  calledNum : Bytes
  subAddress : Bytes
  chan : CallChan
  reply : InCallReply
  killed : Bool

namespace InCallRequest

variable (req : InCallRequest)

/-- The memory from each of the three fields on. -/
def fromSubaddr : Bytes := req.subaddr ++ [req.behind]
def fromDialing : Bytes := req.dialing ++ req.fromSubaddr
def fromDialed : Bytes := req.dialed ++ req.fromDialing

/-- The fields cut at their announced length and at their first NUL. -/
def callingText : Bytes := content (req.dialing.take req.dialingLen.toNat)
def calledText : Bytes := content (req.dialed.take req.dialedLen.toNat)
def subaddrText : Bytes := content req.subaddr

end InCallRequest

def pptpCtrlGetChan (cid : UInt16) (bearType : UInt32) (callingNum calledNum subAddress : Bytes) :
    CallChan where
  cid := cid
  orig := false
  incoming := true
  bearType := bearType
  minBps := 0
  maxBps := 0x7FFFFFFF
  serno := 0
  peerCid := 0
  cookie := false
  callingNum := strlcpy (List.replicate (pptpPhoneLen + 1) 0) callingNum (pptpPhoneLen + 1)
  calledNum := strlcpy (List.replicate (pptpPhoneLen + 1) 0) calledNum (pptpPhoneLen + 1)
  subAddress := strlcpy (List.replicate (pptpSubaddrLen + 1) 0) subAddress (pptpSubaddrLen + 1)

def pptpInCallRequest (env : InCallEnv) (req : InCallRequest) : InCall :=
  let dialedLen := min req.dialedLen.toNat pptpPhoneLen
  let dialingLen := min req.dialingLen.toNat pptpPhoneLen
  let callingNum := (strncpy env.stack.callingNum req.fromDialing pptpPhoneLen).set dialingLen 0
  let calledNum := (strncpy env.stack.calledNum req.fromDialed pptpPhoneLen).set dialedLen 0
  let subAddress :=
    (strncpy env.stack.subAddress req.fromSubaddr pptpSubaddrLen).set pptpSubaddrLen 0
  let ch := pptpCtrlGetChan env.callId req.bearType callingNum calledNum subAddress
  let cookie := env.getInLink.any fun getInLink => getInLink (content callingNum) (content calledNum)
  let ch := { ch with cookie }
  let reply : InCallReply := ⟨ch.cid, req.cid, pptpIcrReslNak, pptpRecvWin, pptpPpd⟩
  if cookie then
    let ch := { ch with
      serno := req.serno
      peerCid := req.cid
      bearType := req.bearType
      callingNum := strncpy ch.callingNum req.fromDialing (pptpPhoneLen + 1)
      calledNum := strncpy ch.calledNum req.fromDialed (pptpPhoneLen + 1)
      subAddress := strncpy ch.subAddress req.fromSubaddr (pptpSubaddrLen + 1) }
    { callingNum, calledNum, subAddress, chan := ch
      reply := { reply with result := pptpIcrReslOk }
      killed := !env.written }
  else { callingNum, calledNum, subAddress, chan := ch, reply, killed := true }

namespace InCall

/-- The arrays that `PptpCtrlGetChan` and `gGetInLink` are called with hold the numbers. -/
structure CallsRight (call : InCall) (req : InCallRequest) : Prop where
  calling : Holds call.callingNum req.callingText
  called : Holds call.calledNum req.calledText
  subaddr : Holds call.subAddress req.subaddrText

structure ChanRight (call : InCall) (req : InCallRequest) : Prop where
  calling : Holds call.chan.callingNum req.callingText
  called : Holds call.chan.calledNum req.calledText
  subaddr : Holds call.chan.subAddress req.subaddrText

end InCall

/-- A field ends with a NUL, if need be the byte behind it, and not behind its announced
length. -/
def Fits (field : Bytes) (next : UInt8) (announced : Nat) : Prop :=
  ((0 : UInt8) ∈ field ∨ next = 0) ∧ (content field).length ≤ announced

def Accepted (env : InCallEnv) (req : InCallRequest) : Prop :=
  env.getInLink.any (· req.callingText req.calledText) = true

structure InCallRequest.AllFit (req : InCallRequest) : Prop where
  dialing : Fits req.dialing (req.subaddr.headD 0) req.dialingLen.toNat
  dialed : Fits req.dialed (req.dialing.headD 0) req.dialedLen.toNat
  subaddr : Fits req.subaddr req.behind pptpSubaddrLen

section Arrays

variable {buf field later : Bytes} {next : UInt8} {size : Nat}

/-- A field that is copied up to its size, and then cut, is the string that was meant. -/
theorem holds_cut (room : buf.length = size + 1) (field_length : field.length = size)
    (announced : Nat) :
    Holds ((strncpy buf (field ++ later) size).set (min announced size) 0)
      (content (field.take announced)) := by
  have within : min announced size ≤ size := Nat.min_le_right ..
  have length : (strncpy buf (field ++ later) size).length = buf.length :=
    length_strncpy _ (by omega)
  have holds := @holds_set (strncpy buf (field ++ later) size) (min announced size) (by omega)
  rw [content_strncpy_take _ _ within, List.take_append_of_le_length (field_length.symm ▸ within)]
    at holds
  have cut : field.take (min announced size) = field.take announced := by
    rw [← field_length, ← List.take_eq_take_min]
  rwa [cut] at holds

/-- One that is copied with one byte more is so if and only if it fits. -/
theorem holds_copy_iff (room : buf.length = size + 1) (field_length : field.length = size)
    (announced : Nat) :
    Holds (strncpy buf (field ++ next :: later) (size + 1)) (content (field.take announced)) ↔
      Fits field next announced := by
  have copied : (field ++ next :: later).take (size + 1) = field ++ [next] := by
    rw [← field_length, List.take_append, List.take_of_length_le (Nat.le_succ _)]
    simp
  obtain ⟨text, ended⟩ :=
    strncpy_whole buf (field ++ next :: later) (size + 1) (Nat.le_of_eq room)
  rw [copied] at text ended
  have holds : Holds (strncpy buf (field ++ next :: later) (size + 1))
      (content (field.take announced)) ↔
      (content (field ++ [next])).length < size + 1 ∧
        content (field ++ [next]) = (content field).take announced := by
    rw [← content_take, ← ended, ← text]
    exact ⟨fun holds => ⟨holds.ended, holds.text⟩, fun both => ⟨both.1, both.2⟩⟩
  rw [holds]
  unfold Fits
  by_cases stops : (0 : UInt8) ∈ field ∨ next = 0
  · have same : content (field ++ [next]) = content field := by
      rcases stops with nul | rfl
      · exact content_of_mem nul [next]
      · exact content_nul field []
    have short := length_content_le field
    rw [same]
    constructor
    · rintro ⟨-, cut⟩
      have length := congrArg List.length cut
      rw [List.length_take] at length
      exact ⟨stops, by omega⟩
    · rintro ⟨-, fits⟩
      exact ⟨by omega, (List.take_of_length_le fits).symm⟩
  · rw [not_or] at stops
    have only : (0 : UInt8) ∉ field ++ [next] := by simp [stops.1, Ne.symm stops.2]
    have whole : (content (field ++ [next])).length = size + 1 := by
      rw [content_text only, List.length_append, field_length]
      rfl
    constructor
    · rintro ⟨short, -⟩
      omega
    · rintro ⟨nul, -⟩
      exact absurd nul (not_or.mpr stops)

end Arrays

section Calls

variable (env : InCallEnv) (req : InCallRequest)

theorem arrays_right :
    Holds ((strncpy env.stack.callingNum req.fromDialing pptpPhoneLen).set
      (min req.dialingLen.toNat pptpPhoneLen) 0) req.callingText ∧
    Holds ((strncpy env.stack.calledNum req.fromDialed pptpPhoneLen).set
      (min req.dialedLen.toNat pptpPhoneLen) 0) req.calledText ∧
    Holds ((strncpy env.stack.subAddress req.fromSubaddr pptpSubaddrLen).set pptpSubaddrLen 0)
      req.subaddrText := by
  have subaddr := @holds_cut _ _ [req.behind] _ env.stack.sub_length req.subaddr_length
    pptpSubaddrLen
  rw [Nat.min_self, List.take_of_length_le (Nat.le_of_eq req.subaddr_length)] at subaddr
  exact ⟨holds_cut env.stack.calling_length req.dialing_length _,
    holds_cut env.stack.called_length req.dialed_length _, subaddr⟩

theorem holds_strlcpy_of_holds {buf text dst : Bytes} {size : Nat} (holds : Holds buf text)
    (fits : text.length ≤ size) : Holds (strlcpy dst buf (size + 1)) text := by
  have copied := holds_strlcpy dst buf (size + 1)
  rwa [holds.text, Nat.add_sub_cancel, List.take_of_length_le fits] at copied

theorem pptpCtrlGetChan_right {callingNum calledNum subAddress : Bytes}
    (calling : Holds callingNum req.callingText) (called : Holds calledNum req.calledText)
    (subaddr : Holds subAddress req.subaddrText) :
    let ch := pptpCtrlGetChan env.callId req.bearType callingNum calledNum subAddress
    Holds ch.callingNum req.callingText ∧ Holds ch.calledNum req.calledText ∧
      Holds ch.subAddress req.subaddrText := by
  have short (field : Bytes) (announced : Nat) :
      (content (field.take announced)).length ≤ field.length :=
    Nat.le_trans (length_content_le _) (by rw [List.length_take]; exact Nat.min_le_right ..)
  refine ⟨holds_strlcpy_of_holds calling ?_, holds_strlcpy_of_holds called ?_,
    holds_strlcpy_of_holds subaddr ?_⟩
  · exact req.dialing_length ▸ short req.dialing _
  · exact req.dialed_length ▸ short req.dialed _
  · exact req.subaddr_length ▸ length_content_le req.subaddr

theorem length_getChan_array (buf : Bytes) (size : Nat) :
    (strlcpy (List.replicate (size + 1) 0) buf (size + 1)).length = size + 1 := by
  have length := length_strlcpy (List.replicate (size + 1) 0) buf (by simp)
  rwa [List.length_replicate] at length

theorem cons_of_length {field : Bytes} {size : Nat} (length : field.length = size + 1) :
    ∃ later, field = field.headD 0 :: later := by
  cases field with
  | nil => cases length
  | cons next later => exact ⟨later, rfl⟩

theorem pptpInCallRequest_callsRight_and_chanRight_iff :
    (pptpInCallRequest env req).CallsRight req ∧
      ((pptpInCallRequest env req).ChanRight req ↔ (Accepted env req → req.AllFit)) := by
  obtain ⟨calling, called, sub⟩ := arrays_right env req
  obtain ⟨calling', called', sub'⟩ := pptpCtrlGetChan_right env req calling called sub
  obtain ⟨dialing, dialing_cons⟩ := cons_of_length req.dialing_length
  obtain ⟨subaddr, subaddr_cons⟩ := cons_of_length req.subaddr_length
  have from_dialing : req.fromDialing =
      req.dialing ++ req.subaddr.headD 0 :: (subaddr ++ [req.behind]) :=
    congrArg (fun subaddr => req.dialing ++ (subaddr ++ [req.behind])) subaddr_cons
  have from_dialed : req.fromDialed =
      req.dialed ++ req.dialing.headD 0 :: (dialing ++ req.fromSubaddr) :=
    congrArg (fun dialing => req.dialed ++ (dialing ++ req.fromSubaddr)) dialing_cons
  unfold pptpInCallRequest
  dsimp only
  rw [calling.text, called.text]
  split
  · rename_i accepted
    refine ⟨⟨calling, called, sub⟩, ?_⟩
    have copy_calling := @holds_copy_iff _ _ (subaddr ++ [req.behind]) (req.subaddr.headD 0) _
      (length_getChan_array ((strncpy env.stack.callingNum
        req.fromDialing pptpPhoneLen).set (min req.dialingLen.toNat pptpPhoneLen) 0) pptpPhoneLen)
      req.dialing_length req.dialingLen.toNat
    have copy_called := @holds_copy_iff _ _ (dialing ++ req.fromSubaddr) (req.dialing.headD 0) _
      (length_getChan_array ((strncpy env.stack.calledNum
        req.fromDialed pptpPhoneLen).set (min req.dialedLen.toNat pptpPhoneLen) 0) pptpPhoneLen)
      req.dialed_length req.dialedLen.toNat
    have copy_sub := @holds_copy_iff _ _ [] req.behind _
      (length_getChan_array ((strncpy env.stack.subAddress req.fromSubaddr pptpSubaddrLen).set
        pptpSubaddrLen 0) pptpSubaddrLen) req.subaddr_length pptpSubaddrLen
    rw [← from_dialing] at copy_calling
    rw [← from_dialed] at copy_called
    rw [List.take_of_length_le (Nat.le_of_eq req.subaddr_length)] at copy_sub
    constructor
    · rintro ⟨calling, called, sub⟩ -
      exact ⟨copy_calling.mp calling, copy_called.mp called, copy_sub.mp sub⟩
    · intro fit
      obtain ⟨calling, called, sub⟩ := fit accepted
      exact ⟨copy_calling.mpr calling, copy_called.mpr called, copy_sub.mpr sub⟩
  · rename_i denied
    exact ⟨⟨calling, called, sub⟩, fun _ accepted => absurd accepted denied,
      fun _ => ⟨calling', called', sub'⟩⟩

/-- The arrays that are passed on hold the numbers of every request. With them those of the
channel do if and only if the fields of an accepted call fit. -/
theorem pptpInCallRequest_right_iff :
    (pptpInCallRequest env req).CallsRight req ∧
      ((pptpInCallRequest env req).CallsRight req ∧ (pptpInCallRequest env req).ChanRight req ↔
        (Accepted env req → req.AllFit)) := by
  obtain ⟨calls, chan⟩ := pptpInCallRequest_callsRight_and_chanRight_iff env req
  exact ⟨calls, (and_iff_right calls).trans chan⟩

def longCalled : InCallRequest where
  cid := 1
  serno := 1
  bearType := 1
  dialedLen := 64
  dialingLen := 1
  dialed := List.replicate 64 49
  dialing := 53 :: List.replicate 63 0
  subaddr := List.replicate 64 0
  behind := 0
  dialed_length := rfl
  dialing_length := rfl
  subaddr_length := rfl

def acceptsCalls : InCallEnv where
  stack := ⟨List.replicate 65 0, List.replicate 65 0, List.replicate 65 0, rfl, rfl, rfl⟩
  callId := 1
  getInLink := some fun _ _ => true
  written := true

/-- The channel's copy of the number goes on with the first digit of the other one, and has no
end. -/
theorem pptpInCallRequest_not_right :
    ¬ ((pptpInCallRequest acceptsCalls longCalled).CallsRight longCalled ∧
      (pptpInCallRequest acceptsCalls longCalled).ChanRight longCalled) := by
  rintro ⟨-, -, called, -⟩
  have endless : (0 : UInt8) ∉ (pptpInCallRequest acceptsCalls longCalled).chan.calledNum := by
    decide +kernel
  exact endless called.ended

end Calls

end Mpd.PptpNumbers
