import Mpd.Fsm.Runs

/-! The round trip of a Code-Reject: one FSM receives a packet of a code that it
does not know, and what it sends back is received by the FSM that sent the packet. -/

set_option autoImplicit false

namespace Mpd

variable {Layer Sender Receiver : Type}

theorem readHeader_length {packet bp : Bytes} {code id : UInt8}
    (read : readHeader packet = some (code, id, bp)) : bp.length + 4 < 65536 := by
  unfold readHeader at read
  split at read
  · rename_i first second high low payload
    dsimp only at read
    split_ifs at read with bad
    obtain ⟨rfl, rfl, rfl⟩ : first = code ∧ second = id ∧
        payload.take ((be16 high low).toNat - 4) = bp := by simpa using read
    have bounded : (be16 high low).toNat < 65536 := (be16 high low).toNat_lt
    have taken := List.length_take_le ((be16 high low).toNat - 4) payload
    omega
  · exact nomatch read

/-- A framed packet is read back as what went into the frame. -/
theorem readHeader_framePacket (code : FsmCode) (id : UInt8) {payload : Bytes}
    (fits : payload.length + 4 < 65536) :
    readHeader (framePacket code id payload) = some (code.num, id, payload) := by
  have length : (UInt16.ofNat (4 + payload.length)).toNat = 4 + payload.length := by
    rw [UInt16.toNat_ofNat']
    omega
  have back := congrArg UInt16.toNat (be16_putBe16 (UInt16.ofNat (4 + payload.length)))
  rw [length] at back
  simp only [framePacket, putBe16, List.cons_append, List.nil_append, readHeader, length, back]
  rw [if_neg (by omega), Nat.add_sub_cancel_left, List.take_length]

/-- `FsmInput` hands the packet to `FsmRecvCodeRej`, which takes it as the rejection
of `code`. -/
def TakenAsRejectionOf (T : FsmType Layer) (junk : Nat → UInt8) (w : FsmWorld Layer)
    (packet : Bytes) (code : UInt8) : Prop :=
  ∃ id bp, readHeader packet = some (FsmCode.codeRej.num, id, bp) ∧
    fsmInput T junk packet w = fsmRecvCodeRej T bp w ∧ rejectedCode bp = code

/-- The answer to the packet is one Code-Reject, and its receiver takes it as the
rejection of `code`. -/
def CodeRejectReturns (receiver : FsmType Receiver) (sender : FsmType Sender)
    (junk : Nat → UInt8) (r : FsmWorld Receiver) (s : FsmWorld Sender) (packet : Bytes)
    (code : UInt8) : Prop :=
  ∃ rejid payload,
    (fsmInput receiver junk packet r).log = r.log ++ [.output .codeRej rejid payload] ∧
    TakenAsRejectionOf sender junk s (framePacket .codeRej rejid payload) code

/-- The answer to a packet of an unknown code is a Code-Reject with the payload of
the packet, without its header. -/
theorem fsmInput_unknown (T : FsmType Layer) (junk : Nat → UInt8) (w : FsmWorld Layer)
    {packet bp : Bytes} {code id : UInt8} (wellFormed : readHeader packet = some (code, id, bp))
    (unknown : T.knownCode? code = none) :
    (fsmInput T junk packet w).log = w.log ++ [.output .codeRej w.fsm.rejid bp] := by
  simp [fsmInput, wellFormed, unknown, fsmSendCodeRej, fsmOutput, FsmWorld.emit]

theorem takenAsRejectionOf_iff {T : FsmType Layer} {junk : Nat → UInt8} {w : FsmWorld Layer}
    {rejid code : UInt8} {payload : Bytes} (fits : payload.length + 4 < 65536)
    (knows : T.knownCode? FsmCode.codeRej.num = some .codeRej) :
    TakenAsRejectionOf T junk w (framePacket .codeRej rejid payload) code ↔
      rejectedCode payload = code := by
  have read := readHeader_framePacket .codeRej rejid fits
  constructor
  · rintro ⟨id, bp, found, -, taken⟩
    rw [read] at found
    obtain ⟨-, rfl⟩ : rejid = id ∧ payload = bp := by simpa using found
    exact taken
  · intro taken
    refine ⟨rejid, payload, read, ?_, taken⟩
    simp [fsmInput, read, knows, fsmAction]

/-- The code that is read from a payload is `code` exactly when the payload begins
with it, or is empty and `code` is 0. -/
theorem rejectedCode_eq_iff {payload : Bytes} {code : UInt8} :
    rejectedCode payload = code ↔
      payload.head? = some code ∨ (payload = [] ∧ code = 0) := by
  cases payload with
  | nil => simp [rejectedCode, eq_comm]
  | cons first rest => simp [rejectedCode]

/-- The round trip names the code of the rejected packet exactly when the payload of
that packet happens to begin with its own code, or is empty while the code is 0. -/
theorem codeRejectReturns_iff (receiver : FsmType Receiver) (sender : FsmType Sender)
    (junk : Nat → UInt8) (r : FsmWorld Receiver) (s : FsmWorld Sender)
    {packet bp : Bytes} {code id : UInt8} (wellFormed : readHeader packet = some (code, id, bp))
    (unknown : receiver.knownCode? code = none)
    (knows : sender.knownCode? FsmCode.codeRej.num = some .codeRej) :
    CodeRejectReturns receiver sender junk r s packet code ↔
      bp.head? = some code ∨ (bp = [] ∧ code = 0) := by
  have fits := readHeader_length wellFormed
  have answered := fsmInput_unknown receiver junk r wellFormed unknown
  rw [← rejectedCode_eq_iff]
  constructor
  · rintro ⟨rejid, payload, sent, taken⟩
    rw [answered] at sent
    obtain ⟨rfl, rfl⟩ : r.fsm.rejid = rejid ∧ bp = payload := by simpa using sent
    exact (takenAsRejectionOf_iff fits knows).mp taken
  · intro taken
    exact ⟨r.fsm.rejid, bp, answered, (takenAsRejectionOf_iff fits knows).mpr taken⟩

theorem codeRejectReturns_vendor :
    CodeRejectReturns .bare .bare (fun _ => 0) (.init ()) (.init ()) [0, 7, 0, 4] 0 :=
  (codeRejectReturns_iff .bare .bare (fun _ => 0) (.init ()) (.init ())
    (show readHeader [0, 7, 0, 4] = some (0, 7, []) by decide) (by decide) (by decide)).mpr
    (Or.inr ⟨rfl, rfl⟩)

/-- A Reset-Request with the payload 1 comes back as the rejection of code 1, which
is Configure-Request, and not of code 14. -/
theorem not_codeRejectReturns_resetReq :
    FsmType.bare.knownCode? 14 = none ∧
      ¬ CodeRejectReturns .bare .bare (fun _ => 0) (.init ()) (.init ()) [14, 7, 0, 5, 1] 14 := by
  refine ⟨by decide, ?_⟩
  rintro ⟨rejid, payload, sent, id, bp, read, -, taken⟩
  have answered := fsmInput_unknown .bare (fun _ => 0) (.init ())
    (show readHeader [14, 7, 0, 5, 1] = some (14, 7, [1]) by decide) (by decide)
  rw [answered] at sent
  obtain ⟨rfl, rfl⟩ : 1 = rejid ∧ [1] = payload := by
    simpa [FsmWorld.init, fsmInit] using sent
  have framed : readHeader (framePacket .codeRej 1 [1]) = some (7, 1, [1]) := by decide
  rw [framed] at read
  obtain ⟨-, -, rfl⟩ : (7 : UInt8) = FsmCode.codeRej.num ∧ 1 = id ∧ [1] = bp := by
    simpa using read
  exact absurd taken (by decide)

end Mpd
