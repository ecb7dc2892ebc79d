import Mathlib.Data.List.GetD
import Mpd.Fsm.Preservation
import Mpd.Link.Init

/-! The packets whose handlers look at the magic number of the peer, and how far
their handling depends on what `FsmCheckMagic` finds on the stack. -/

set_option autoImplicit false

namespace Mpd

/-- The codes whose handlers call `FsmCheckMagic`. -/
def FsmCode.checksMagic : FsmCode → Bool
  | vendor | echoReq | echoRep | discReq | ident | timeRem => true
  | _ => false

section Read

variable {Layer : Type} {T : FsmType Layer} {bp : Bytes} {w : FsmWorld Layer}

theorem putBe32_readMagic (junk : Nat → UInt8) (bp : Bytes) :
    putBe32 (readMagic junk bp) =
      [bp.getD 0 (junk 0), bp.getD 1 (junk 1), bp.getD 2 (junk 2), bp.getD 3 (junk 3)] :=
  putBe32_be32 _ _ _ _

theorem readMagic_of_long (long : 4 ≤ bp.length) (junk junk' : Nat → UInt8) :
    readMagic junk bp = readMagic junk' bp := by
  have read (i : Nat) (first : i < 4) : bp.getD i (junk i) = bp.getD i (junk' i) := by
    rw [List.getD_eq_getElem _ _ (by omega), List.getD_eq_getElem _ _ (by omega)]
  unfold readMagic
  rw [read 0 (by decide), read 1 (by decide), read 2 (by decide), read 3 (by decide)]

theorem prefix_of_short (short : bp.length < 4) (a b c d : UInt8) :
    bp <+: [bp.getD 0 a, bp.getD 1 b, bp.getD 2 c, bp.getD 3 d] := by
  rcases bp with _ | ⟨first, _ | ⟨second, _ | ⟨third, rest⟩⟩⟩
  · exact List.nil_prefix
  · exact ⟨[b, c, d], rfl⟩
  · exact ⟨[c, d], rfl⟩
  · have done : rest = [] := by
      refine List.length_eq_zero_iff.mp ?_
      simp only [List.length_cons] at short
      omega
    rw [done]
    exact ⟨[d], rfl⟩

/-- A payload that is not the beginning of a number cannot be completed to it. -/
theorem readMagic_ne {magic : UInt32} (other : ¬ bp <+: putBe32 magic) (short : bp.length < 4)
    (junk : Nat → UInt8) : readMagic junk bp ≠ magic := by
  intro same
  have bytes := putBe32_readMagic junk bp
  rw [same] at bytes
  apply other
  rw [bytes]
  exact prefix_of_short short _ _ _ _

theorem readMagic_completed {magic : UInt32} (beginning : bp <+: putBe32 magic) :
    readMagic (fun i => (putBe32 magic).getD i 0) bp = magic := by
  apply putBe32_injective
  have read (i : Nat) : bp.getD i ((putBe32 magic).getD i 0) = (putBe32 magic).getD i 0 := by
    obtain ⟨rest, joined⟩ := beginning
    rw [← joined]
    by_cases inside : i < bp.length
    · rw [List.getD_append _ _ _ _ inside, List.getD_eq_getElem _ _ inside,
        List.getD_eq_getElem _ _ inside]
    · rw [List.getD_eq_default _ _ (by omega)]
  rw [putBe32_readMagic]
  simp only [read]
  rfl

def strayByte (magic : UInt32) : UInt8 := if magic.toNat % 256 = 1 then 2 else 1

theorem readMagic_stray (magic : UInt32) (short : bp.length < 4) :
    readMagic (fun _ => strayByte magic) bp ≠ magic ∧
      readMagic (fun _ => strayByte magic) bp ≠ 0 := by
  have last : (readMagic (fun _ => strayByte magic) bp).toNat % 256 = (strayByte magic).toNat := by
    have third : bp.getD 3 (strayByte magic) = strayByte magic :=
      List.getD_eq_default _ _ (by omega)
    have bounded : (strayByte magic).toNat < 256 := (strayByte magic).toNat_lt
    rw [readMagic, be32, third, UInt32.toNat_ofNat']
    omega
  constructor
  · intro same
    rw [same] at last
    unfold strayByte at last
    split_ifs at last with one
    · rw [one] at last
      revert last
      decide
    · exact one last
  · intro zero
    rw [zero] at last
    unfold strayByte at last
    revert last
    split_ifs <;> decide

end Read

section Failure

/-- `FsmFailure` with a wrong magic number does nothing in these states. -/
def FailureIdle (fsm : Fsm) : Prop :=
  fsm.state = .initial ∨ fsm.state = .starting ∨ fsm.state = .stopped ∧ fsm.conf.passive = true

/-- The received bytes and the state settle what comes out of `FsmCheckMagic`:
there is no check, or the number is there as a whole, or the bytes that are there
begin neither zero nor the number that is expected, or nobody would notice. -/
def MagicSettled (bp : Bytes) (w : FsmWorld Link) : Prop :=
  w.fsm.conf.check_magic = false ∨ 4 ≤ bp.length ∨
    (¬ bp <+: putBe32 0 ∧ ¬ bp <+: putBe32 w.layer.lcp.peer_magic) ∨ FailureIdle w.fsm

variable {depth : Nat} {bp : Bytes} {w : FsmWorld Link}

theorem wrongMagic_lcpType (junk : Nat → UInt8) :
    wrongMagic (lcpType depth) junk bp w =
      (w.fsm.conf.check_magic && readMagic junk bp != 0 &&
        readMagic junk bp != w.layer.lcp.peer_magic) := by
  have link : protLinkLayer (lcpType depth).proto = true := by
    change protLinkLayer protoLcp = true
    decide
  simp only [wrongMagic, link, if_true]
  rfl

theorem fsmFailure_of_idle (idle : FailureIdle w.fsm) :
    fsmFailure (lcpType depth) .recdBadMagic w = w := by
  unfold fsmFailure fsmShutDown
  rcases idle with state | state | ⟨state, passive⟩
  · simp only [lcpType, lcpTypeWith, state]
  · simp only [lcpType, lcpTypeWith, state]
  · simp only [lcpType, lcpTypeWith, state, fsmLayerFinishActive, passive, if_true]

theorem fsmCheckMagic_of_settled (settled : MagicSettled bp w) (junk junk' : Nat → UInt8) :
    fsmCheckMagic (lcpType depth) junk bp w = fsmCheckMagic (lcpType depth) junk' bp w := by
  unfold fsmCheckMagic
  rw [wrongMagic_lcpType, wrongMagic_lcpType]
  rcases settled with off | long | ⟨notZero, notPeer⟩ | idle
  · simp only [off, Bool.false_and]
  · rw [readMagic_of_long long junk junk']
  · by_cases long : 4 ≤ bp.length
    · rw [readMagic_of_long long junk junk']
    · have wrong (junk : Nat → UInt8) : (readMagic junk bp != 0 &&
          readMagic junk bp != w.layer.lcp.peer_magic) = true := by
        have zero := readMagic_ne notZero (by omega) junk
        have peer := readMagic_ne notPeer (by omega) junk
        simp [zero, peer]
      simp only [Bool.and_assoc, wrong]
  · rw [fsmFailure_of_idle idle, ite_self, ite_self]

theorem lcpLayerFinish_keeps (w : FsmWorld Link) :
    (lcpLayerFinish w).fsm = w.fsm ∧ (lcpLayerFinish w).log = w.log := by
  unfold lcpLayerFinish
  dsimp only
  split_ifs
  · exact ⟨rfl, rfl⟩
  · exact ⟨rfl, rfl⟩

theorem lcpLayerDown_fsm (w : FsmWorld Link) : (lcpLayerDown w).fsm = w.fsm := by
  unfold lcpLayerDown
  dsimp only
  split_ifs <;> rfl

theorem fsmLayerFinish_lcp (w : FsmWorld Link) :
    (fsmLayerFinish (lcpType depth) w).fsm = w.fsm ∧
      (fsmLayerFinish (lcpType depth) w).log = w.log ++ [.call .finish] :=
  lcpLayerFinish_keeps (w.emit (.call .finish))

/-- Everywhere else the failure shows in the state or in the record of calls. -/
theorem fsmFailure_shows (noticed : ¬ FailureIdle w.fsm) :
    (fsmFailure (lcpType depth) .recdBadMagic w).fsm.state ≠ .opened ∧
      ((fsmFailure (lcpType depth) .recdBadMagic w).fsm.state ≠ w.fsm.state ∨
        (fsmFailure (lcpType depth) .recdBadMagic w).log = w.log ++ [.call .finish]) := by
  change (fsmShutDown (lcpType depth) w).fsm.state ≠ .opened ∧
    ((fsmShutDown (lcpType depth) w).fsm.state ≠ w.fsm.state ∨
      (fsmShutDown (lcpType depth) w).log = w.log ++ [.call .finish])
  -- The negotiating states end in Stopped, whether or not `LayerFinish` is called.
  have negotiating : (fsmUnConfigure (lcpType depth) (fsmLayerFinishActive (lcpType depth)
      (fsmNewState (lcpType depth) .stopped w))).fsm.state = .stopped := by
    change (fsmLayerFinishActive (lcpType depth)
      (fsmNewState (lcpType depth) .stopped w)).fsm.state = .stopped
    unfold fsmLayerFinishActive
    split_ifs
    · rfl
    · rw [(fsmLayerFinish_lcp _).1]
      rfl
  unfold fsmShutDown
  cases state : w.fsm.state with
  | initial => exact absurd (.inl state) noticed
  | starting => exact absurd (.inr (.inl state)) noticed
  | closed =>
      obtain ⟨fsm, log⟩ := @fsmLayerFinish_lcp depth w
      simp only [fsm, state, log]
      exact ⟨by decide, .inr trivial⟩
  | stopped =>
      have active : w.fsm.conf.passive = false := by
        cases passive : w.fsm.conf.passive with
        | false => rfl
        | true => exact absurd (.inr (.inr ⟨state, passive⟩)) noticed
      obtain ⟨fsm, log⟩ := @fsmLayerFinish_lcp depth w
      simp only [fsmLayerFinishActive, active, Bool.false_eq_true, if_false, fsm, state, log]
      exact ⟨by decide, .inr trivial⟩
  | closing =>
      simp only [(fsmLayerFinish_lcp _).1, fsmNewState_state]
      exact ⟨by decide, .inl (by decide)⟩
  | stopping =>
      simp only [(fsmLayerFinish_lcp _).1, fsmNewState_state]
      exact ⟨by decide, .inl (by decide)⟩
  | reqSent =>
      simp only [negotiating]
      exact ⟨by decide, .inl (by decide)⟩
  | ackRcvd =>
      simp only [negotiating]
      exact ⟨by decide, .inl (by decide)⟩
  | ackSent =>
      simp only [negotiating]
      exact ⟨by decide, .inl (by decide)⟩
  | opened =>
      have stopping (w : FsmWorld Link) :
          (fsmUnConfigure (lcpType depth) (fsmLayerDown (lcpType depth) w)).fsm = w.fsm :=
        lcpLayerDown_fsm (w.emit (.call .down))
      simp only [stopping]
      exact ⟨nofun, .inl nofun⟩

end Failure

section Handlers

variable {depth : Nat} {bp : Bytes} {w : FsmWorld Link}

/-- Two runs end in the same state of the FSM, with the same replies and calls. -/
def SameOutcome (first second : FsmWorld Link) : Prop :=
  first.fsm = second.fsm ∧ first.log = second.log

theorem knownCode?_vendor (code : UInt8) : (lcpType depth).knownCode? code ≠ some .vendor := by
  intro known
  obtain ⟨found, bit⟩ := Option.filter_eq_some_iff.mp known
  have zero := FsmCode.ofByte?_eq_some found
  rw [zero] at bit
  have unset : (0x3FFE : UInt16).toNat.testBit FsmCode.vendor.num.toNat = false := by decide
  change (0x3FFE : UInt16).toNat.testBit FsmCode.vendor.num.toNat = true at bit
  rw [unset] at bit
  cases bit

/-- What a handler adds to `FsmCheckMagic`: at most a reply, and that in Opened. -/
theorem fsmAction_after_check {code : FsmCode} (checks : code.checksMagic = true)
    (named : code ≠ .vendor) (junk : Nat → UInt8) (id : UInt8) :
    let checked := fsmCheckMagic (lcpType depth) junk bp w
    let handled := fsmAction (lcpType depth) junk code id bp w
    handled.fsm = checked.fsm ∧
      ∃ replies, handled.log = checked.log ++ replies ∧
        (checked.fsm.state ≠ .opened → replies = []) := by
  intro checked handled
  have silent (same : handled.fsm = checked.fsm) (log : handled.log = checked.log) :
      handled.fsm = checked.fsm ∧ ∃ replies, handled.log = checked.log ++ replies ∧
        (checked.fsm.state ≠ .opened → replies = []) :=
    ⟨same, [], by rw [log, List.append_nil], fun _ => rfl⟩
  cases code with
  | vendor => exact absurd rfl named
  | echoReq =>
      by_cases opened : checked.fsm.state = .opened
      · have answered : handled = fsmOutput .echoRep id
            (putBe32 ((lcpType depth).wantMagic checked.layer) ++ bp.drop 4) checked :=
          if_neg (fun other => other opened)
        rw [answered]
        exact ⟨rfl, _, rfl, fun other => absurd opened other⟩
      · have ignored : handled = checked := if_pos opened
        exact silent (by rw [ignored]) (by rw [ignored])
  | echoRep => exact silent rfl rfl
  | discReq => exact silent rfl rfl
  | timeRem => exact silent rfl rfl
  | ident =>
      have kept (data : Bytes) (w : FsmWorld Link) :
          (lcpRecvIdent data w).fsm = w.fsm ∧ (lcpRecvIdent data w).log = w.log := by
        unfold lcpRecvIdent
        split_ifs <;> exact ⟨rfl, rfl⟩
      exact silent (kept _ _).1 (kept _ _).2
  | _ => cases checks

theorem fsmAction_of_settled (settled : MagicSettled bp w) {code : FsmCode}
    (junk junk' : Nat → UInt8) (id : UInt8) :
    fsmAction (lcpType depth) junk code id bp w = fsmAction (lcpType depth) junk' code id bp w := by
  have same := @fsmCheckMagic_of_settled depth _ _ settled junk junk'
  cases code <;> simp only [fsmAction, fsmRecvEchoReq, same]

/-- The other handlers do not look at the number. -/
theorem fsmAction_unchecked {Layer : Type} (T : FsmType Layer) {code : FsmCode}
    (checks : code.checksMagic = false) (junk junk' : Nat → UInt8) (id : UInt8) (bp : Bytes)
    (w : FsmWorld Layer) : fsmAction T junk code id bp w = fsmAction T junk' code id bp w := by
  cases code <;> first | cases checks; done | simp only [fsmAction]

theorem settled_of_sameOutcome {code : FsmCode} (checks : code.checksMagic = true)
    (named : code ≠ .vendor) (id : UInt8)
    (same : ∀ junk junk', SameOutcome (fsmAction (lcpType depth) junk code id bp w)
      (fsmAction (lcpType depth) junk' code id bp w)) : MagicSettled bp w := by
  by_contra unsettled
  simp only [MagicSettled, not_or, not_and, not_not, Bool.not_eq_false] at unsettled
  obtain ⟨checking, short, begins, noticed⟩ := unsettled
  -- One content of the stack completes a number that passes, another one does not.
  have passing : ∃ junk, fsmCheckMagic (lcpType depth) junk bp w = w := by
    by_cases zero : bp <+: putBe32 0
    · refine ⟨fun i => (putBe32 0).getD i 0, ?_⟩
      have read := readMagic_completed zero
      rw [fsmCheckMagic, wrongMagic_lcpType, read]
      simp
    · refine ⟨fun i => (putBe32 w.layer.lcp.peer_magic).getD i 0, ?_⟩
      have read := readMagic_completed (begins zero)
      rw [fsmCheckMagic, wrongMagic_lcpType, read]
      simp
  obtain ⟨junk, passed⟩ := passing
  have failed : fsmCheckMagic (lcpType depth) (fun _ => strayByte w.layer.lcp.peer_magic) bp w =
      fsmFailure (lcpType depth) .recdBadMagic w := by
    obtain ⟨notPeer, notZero⟩ := readMagic_stray w.layer.lcp.peer_magic (Nat.lt_of_not_le short)
    rw [fsmCheckMagic, wrongMagic_lcpType]
    simp [checking, notPeer, notZero]
  obtain ⟨fsm, log⟩ := same junk fun _ => strayByte w.layer.lcp.peer_magic
  obtain ⟨fsm', replies, log', silent⟩ := @fsmAction_after_check depth bp w _ checks named
    junk id
  obtain ⟨fsm'', replies', log'', silent'⟩ := @fsmAction_after_check depth bp w _ checks
    named (fun _ => strayByte w.layer.lcp.peer_magic) id
  rw [passed] at fsm' log' silent
  rw [failed] at fsm'' log'' silent'
  obtain ⟨closed, shown⟩ := @fsmFailure_shows depth _ noticed
  have state : (fsmFailure (lcpType depth) .recdBadMagic w).fsm = w.fsm := by
    rw [← fsm'', ← fsm, fsm']
  rcases shown with moved | finished
  · exact moved (by rw [state])
  · rw [log', log'', silent' closed, silent (by rw [← state]; exact closed), List.append_nil,
      List.append_nil, finished] at log
    simp at log

end Handlers

/-- For each packet the handling by LCP is the same for every content of the
stack, in its replies and calls and in the state of the FSM, if and only if the
packet has no handler that looks at a magic number or what is received of the
number settles the check. The FSMs of the other protocols know no such packet. -/
theorem fsmInput_stack_independent_iff (depth : Nat) (packet : Bytes) (w : FsmWorld Link) :
    ((∀ junk junk', SameOutcome (fsmInput (lcpType depth) junk packet w)
        (fsmInput (lcpType depth) junk' packet w)) ↔
      ∀ code id bp known, readHeader packet = some (code, id, bp) →
        (lcpType depth).knownCode? code = some known → known.checksMagic = true →
        MagicSettled bp w) ∧
    ∀ (Layer : Type) (T : FsmType Layer) (world : FsmWorld Layer),
      (∀ known : FsmCode, known.checksMagic = true →
        T.known_codes.toNat.testBit known.num.toNat = false) →
      ∀ junk junk', fsmInput T junk packet world = fsmInput T junk' packet world := by
  constructor
  · constructor
    · intro same code id bp known header row checks
      have named : known ≠ .vendor := by
        intro vendor
        exact knownCode?_vendor code (vendor ▸ row)
      refine @settled_of_sameOutcome depth _ _ _ checks named id ?_
      intro junk junk'
      have outcome := same junk junk'
      simpa only [fsmInput, header, row] using outcome
    · intro settled junk junk'
      unfold fsmInput
      cases header : readHeader packet with
      | none => exact ⟨rfl, rfl⟩
      | some read =>
          obtain ⟨code, id, bp⟩ := read
          cases row : (lcpType depth).knownCode? code with
          | none =>
              simp only [row]
              exact ⟨rfl, rfl⟩
          | some known =>
              simp only [row]
              cases checks : known.checksMagic with
              | true =>
                  rw [fsmAction_of_settled (settled code id bp known header row checks) junk junk']
                  exact ⟨rfl, rfl⟩
              | false =>
                  rw [fsmAction_unchecked _ checks junk junk']
                  exact ⟨rfl, rfl⟩
  · intro Layer T world unknown junk junk'
    unfold fsmInput
    cases header : readHeader packet with
    | none => rfl
    | some read =>
        obtain ⟨code, id, bp⟩ := read
        cases row : T.knownCode? code with
        | none => simp only [row]
        | some known =>
            simp only [row]
            obtain ⟨found, bit⟩ := Option.filter_eq_some_iff.mp row
            rw [FsmCode.ofByte?_eq_some found] at bit
            cases checks : known.checksMagic with
            | true =>
                rw [unknown known checks] at bit
                cases bit
            | false => exact fsmAction_unchecked T checks junk junk' id bp world

def checkingLcp : FsmWorld Link :=
  let w := lcpInit .bare
  { w with fsm := { w.fsm with state := .reqSent, conf := { w.fsm.conf with check_magic := true } } }

/-- An Echo-Request without a payload brings the negotiation down if the stack
holds ones and does nothing if it holds zeros. -/
theorem fsmInput_stack_dependent :
    ¬ ∀ junk junk', SameOutcome (fsmInput (lcpType 1) junk [9, 7, 0, 4] checkingLcp)
      (fsmInput (lcpType 1) junk' [9, 7, 0, 4] checkingLcp) := by
  intro same
  have zeros : (fsmInput (lcpType 1) (fun _ => 0) [9, 7, 0, 4] checkingLcp).fsm.state =
      .reqSent := by decide
  have ones : (fsmInput (lcpType 1) (fun _ => 1) [9, 7, 0, 4] checkingLcp).fsm.state =
      .stopped := by decide
  have state := (same (fun _ => 0) fun _ => 1).1
  rw [state, ones] at zeros
  cases zeros

end Mpd
