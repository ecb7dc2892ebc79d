import Mathlib.Data.Nat.Bitwise
import Mpd.Auth.Defs
import Mpd.Lcp.Suggestions

/-! The negotiation of MPPC and MPPE of `ccp_mppc.c`: what is asked for, what is
accepted, and how the rules of an answer settle. -/

set_option autoImplicit false

namespace Mpd

def mppcBit : UInt32 := 0x00000001
def mppe40 : UInt32 := 0x00000020
def mppe128 : UInt32 := 0x00000040
def mppe56 : UInt32 := 0x00000080
def mppeBits : UInt32 := 0x000000e0
def mppeStateless : UInt32 := 0x01000000

def mppcSupported : UInt32 := mppcBit ||| mppeBits ||| mppeStateless

def mppcConfCompress : Nat := 0
def mppcConf40 : Nat := 1
def mppcConf56 : Nat := 2
def mppcConf128 : Nat := 3
def mppcConfStateless : Nat := 4
def mppcConfPolicy : Nat := 5

inductive MppeType where
  | bits40 | bits56 | bits128
  deriving DecidableEq, Repr

namespace MppeType

def conf : MppeType → Nat
  | bits40 => mppcConf40 | bits56 => mppcConf56 | bits128 => mppcConf128

def policy : MppeType → UInt32
  | bits40 => 2 | bits56 => 8 | bits128 => 4

end MppeType

/-- `struct mppcinfo`, less the keys. -/
structure MppcInfo where
  options : OptInfo
  peer_reject : UInt32 := 0
  recv_bits : UInt32 := 0
  xmit_bits : UInt32 := 0
  deriving DecidableEq, Repr

def MppcInfo.peerRejected (mppc : MppcInfo) (x : Nat) : Bool := mppc.peer_reject.toNat.testBit x

def MppcInfo.peerRej (mppc : MppcInfo) (x : Nat) : MppcInfo :=
  { mppc with peer_reject := mppc.peer_reject ||| 1 <<< UInt32.ofNat x }

structure MsoftParams where
  types : UInt32
  has_lm_hash : Bool
  has_nt_hash : Bool
  has_keys : Bool
  chap_alg : UInt8
  deriving DecidableEq, Repr

/-- What the negotiation looks at: the bundle, and what the kernel supports. -/
structure MppcBund where
  mppc : MppcInfo
  msoft : MsoftParams
  mppcPresent : Bool
  mppePresent : Bool
  deriving DecidableEq, Repr

def mppcKeyAvailable (b : MppcBund) (type : MppeType) : Bool :=
  if b.msoft.chap_alg = chapAlgMsoft then
    !((type = .bits128 && !b.msoft.has_nt_hash) || (type ≠ .bits128 && !b.msoft.has_lm_hash))
  else !(!b.msoft.has_keys && !b.msoft.has_nt_hash)

def mppcEnabledMppeType (b : MppcBund) (type : MppeType) : Bool :=
  if !b.mppePresent then false
  else if !mppcKeyAvailable b type then false
  else if b.mppc.options.enabled mppcConfPolicy then
    b.msoft.types &&& type.policy ≠ 0 && !b.mppc.peerRejected type.conf
  else b.mppc.options.enabled type.conf && !b.mppc.peerRejected type.conf

def mppcAcceptableMppeType (b : MppcBund) (type : MppeType) : Bool :=
  if !b.mppePresent then false
  else if !mppcKeyAvailable b type then false
  else if b.mppc.options.enabled mppcConfPolicy then b.msoft.types &&& type.policy ≠ 0
  else b.mppc.options.acceptable type.conf

def mppcRequestBits (b : MppcBund) : UInt32 :=
  let mppc := b.mppc
  let bits : UInt32 := 0
  let bits :=
    if mppc.options.enabled mppcConfCompress && !mppc.peerRejected mppcConfCompress &&
        b.mppcPresent then bits ||| mppcBit
    else bits
  let bits :=
    if mppcEnabledMppeType b .bits40 && !mppc.peerRejected mppcConf40 then bits ||| mppe40
    else bits
  let bits :=
    if mppcEnabledMppeType b .bits56 && !mppc.peerRejected mppcConf56 then bits ||| mppe56
    else bits
  let bits :=
    if mppcEnabledMppeType b .bits128 && !mppc.peerRejected mppcConf128 then bits ||| mppe128
    else bits
  if mppc.options.enabled mppcConfStateless && !mppc.peerRejected mppcConfStateless && bits ≠ 0
  then bits ||| mppeStateless
  else bits

structure MppcAccepts where
  compress : Bool
  key40 : Bool
  key56 : Bool
  key128 : Bool
  stateless : Bool
  deriving DecidableEq, Repr

def MppcBund.accepts (b : MppcBund) : MppcAccepts where
  compress := b.mppc.options.acceptable mppcConfCompress && b.mppcPresent
  key40 := mppcAcceptableMppeType b .bits40
  key56 := mppcAcceptableMppeType b .bits56
  key128 := mppcAcceptableMppeType b .bits128
  stateless := b.mppc.options.acceptable mppcConfStateless

def mppcStrongest (bits : UInt32) : UInt32 :=
  if bits &&& mppe128 ≠ 0 then bits &&& ~~~(mppe40 ||| mppe56)
  else if bits &&& mppe56 ≠ 0 then bits &&& ~~~mppe40
  else bits

/-- The rules by which `MppcDecodeConfigReq` edits the bits of a request. -/
def mppcAnswerBits (accepts : MppcAccepts) (bits : UInt32) : UInt32 :=
  let bits := if bits &&& ~~~mppcSupported ≠ 0 then bits &&& mppcSupported else bits
  let bits := if !accepts.compress then bits &&& ~~~mppcBit else bits
  let bits := if !accepts.key40 then bits &&& ~~~mppe40 else bits
  let bits := if !accepts.key56 then bits &&& ~~~mppe56 else bits
  let bits := if !accepts.key128 then bits &&& ~~~mppe128 else bits
  let bits := mppcStrongest bits
  let bits :=
    if bits &&& mppeBits = 0 then
      let bits := if accepts.key40 then bits ||| mppe40 else bits
      let bits := if accepts.key56 then bits ||| mppe56 else bits
      if accepts.key128 then bits ||| mppe128 else bits
    else bits
  if bits &&& mppeStateless ≠ 0 &&
      (!accepts.stateless || bits &&& (mppeBits ||| mppcBit) = 0) then bits &&& ~~~mppeStateless
  else bits

inductive OptAnswer where
  | ack (option : FsmOption)
  | nak (option : FsmOption)
  | rej (option : FsmOption)
  deriving DecidableEq, Repr

def ccpTyMppc : UInt8 := 18

def mppcOption (bits : UInt32) : FsmOption := ⟨ccpTyMppc, putBe32 bits, by simp⟩

def FsmOption.bits (option : FsmOption) : UInt32 :=
  be32 (option.data.getD 0 0) (option.data.getD 1 0) (option.data.getD 2 0) (option.data.getD 3 0)

/-- A nak'd bit that is not set is rejected by the peer. -/
def mppcDecodeNak (mppc : MppcInfo) (bits : UInt32) : MppcInfo :=
  let mppc := if bits &&& mppcBit = 0 then mppc.peerRej mppcConfCompress else mppc
  let mppc := if bits &&& mppe40 = 0 then mppc.peerRej mppcConf40 else mppc
  let mppc := if bits &&& mppe56 = 0 then mppc.peerRej mppcConf56 else mppc
  let mppc := if bits &&& mppe128 = 0 then mppc.peerRej mppcConf128 else mppc
  if bits &&& mppeStateless = 0 then mppc.peerRej mppcConfStateless else mppc

def mppcDecodeConfigReq (opt : FsmOption) (mode : FsmMode) (b : MppcBund) :
    Option OptAnswer × MppcBund :=
  if opt.len ≠ 6 then (if mode = .req then some (.rej opt) else none, b)
  else
    match mode with
    | .req =>
        let bits := mppcAnswerBits b.accepts opt.bits
        let b := { b with mppc := { b.mppc with recv_bits := bits } }
        if bits ≠ 0 then
          if bits ≠ opt.bits then (some (.nak (opt.overwrite (putBe32 bits))), b)
          else (some (.ack opt), b)
        else (some (.rej opt), b)
    | .nak => (none, { b with mppc := mppcDecodeNak b.mppc opt.bits })
    | _ => (none, b)

/-- The peer asks, and takes up what the Nak proposes, as many times as told. -/
def mppcAsk (opt : FsmOption) (b : MppcBund) : Nat → Option OptAnswer × MppcBund
  | 0 => mppcDecodeConfigReq opt .req b
  | again + 1 =>
      match mppcDecodeConfigReq opt .req b with
      | (some (.nak other), b) => mppcAsk other b again
      | settled => settled

structure MppcAllowed (accepts : MppcAccepts) (bits : UInt32) : Prop where
  supported : bits &&& ~~~mppcSupported = 0
  compress : bits &&& mppcBit ≠ 0 → accepts.compress = true
  key40 : bits &&& mppe40 ≠ 0 → accepts.key40 = true
  key56 : bits &&& mppe56 ≠ 0 → accepts.key56 = true
  key128 : bits &&& mppe128 ≠ 0 → accepts.key128 = true
  stateless : bits &&& mppeStateless ≠ 0 → accepts.stateless = true

/-- The bits are supported and accepted, and name one key length at most. -/
structure MppcAcceptable (accepts : MppcAccepts) (bits : UInt32) : Prop
    extends MppcAllowed accepts bits where
  oneKey : bits &&& mppeBits ∈ [0, mppe40, mppe56, mppe128]

/-- The bits name a key length if one is accepted, and do not ask for the stateless mode alone. -/
structure MppcComplete (accepts : MppcAccepts) (bits : UInt32) : Prop where
  encrypts : bits &&& mppeBits = 0 →
    accepts.key40 = false ∧ accepts.key56 = false ∧ accepts.key128 = false
  notAlone : bits &&& mppeStateless ≠ 0 → bits &&& (mppeBits ||| mppcBit) ≠ 0

section Rules

structure MppcWord where
  compress : Bool
  key40 : Bool
  key56 : Bool
  key128 : Bool
  stateless : Bool
  deriving DecidableEq

def MppcWord.bits (word : MppcWord) : UInt32 :=
  (if word.compress then mppcBit else 0) ||| (if word.key40 then mppe40 else 0) |||
    (if word.key56 then mppe56 else 0) ||| (if word.key128 then mppe128 else 0) |||
    (if word.stateless then mppeStateless else 0)

theorem and_or_distrib (x first second : UInt32) :
    x &&& (first ||| second) = x &&& first ||| x &&& second := by
  apply UInt32.toBitVec_inj.mp
  simp only [UInt32.toBitVec_and, UInt32.toBitVec_or]
  exact BitVec.and_or_distrib_left

theorem and_not_and (x mask : UInt32) : x &&& mask &&& ~~~mask = 0 := by
  apply UInt32.toBitVec_inj.mp
  simp [BitVec.and_assoc]

theorem and_eq_self {x mask : UInt32} (within : x &&& ~~~mask = 0) : x &&& mask = x := by
  have whole : mask ||| ~~~mask = -1 := by
    apply UInt32.toBitVec_inj.mp
    simp
  have split := and_or_distrib x mask (~~~mask)
  rw [whole, within] at split
  simpa using split.symm

theorem and_oneBit (x : UInt32) {mask : UInt32} {place : Nat} (one : mask.toNat = 2 ^ place) :
    x &&& mask = if x &&& mask ≠ 0 then mask else 0 := by
  split_ifs with set
  · have nonzero : (x &&& mask).toNat ≠ 0 := fun zero => set (UInt32.toNat_inj.mp zero)
    apply UInt32.toNat_inj.mp
    rw [UInt32.toNat_and, one, Nat.and_two_pow] at nonzero ⊢
    cases bit : x.toNat.testBit place with
    | true => simp
    | false => simp [bit] at nonzero
  · exact not_not.mp set

theorem exists_word (x : UInt32) : ∃ word : MppcWord, x &&& mppcSupported = word.bits := by
  refine ⟨⟨x &&& mppcBit ≠ 0, x &&& mppe40 ≠ 0, x &&& mppe56 ≠ 0, x &&& mppe128 ≠ 0,
    x &&& mppeStateless ≠ 0⟩, ?_⟩
  have parts : mppcSupported = mppcBit ||| mppe40 ||| mppe56 ||| mppe128 ||| mppeStateless := by
    decide
  simp only [parts, and_or_distrib, MppcWord.bits, decide_eq_true_eq]
  rw [← @and_oneBit x mppcBit 0 rfl]
  rw [← @and_oneBit x mppe40 5 rfl]
  rw [← @and_oneBit x mppe56 7 rfl]
  rw [← @and_oneBit x mppe128 6 rfl]
  rw [← @and_oneBit x mppeStateless 24 rfl]

theorem mppcAnswerBits_supported (accepts : MppcAccepts) (x : UInt32) :
    mppcAnswerBits accepts x = mppcAnswerBits accepts (x &&& mppcSupported) := by
  have first : (if x &&& ~~~mppcSupported ≠ 0 then x &&& mppcSupported else x) =
      x &&& mppcSupported := by
    split_ifs with more
    · rfl
    · exact (and_eq_self (not_not.mp more)).symm
  have second : (if x &&& mppcSupported &&& ~~~mppcSupported ≠ 0 then
      x &&& mppcSupported &&& mppcSupported else x &&& mppcSupported) = x &&& mppcSupported :=
    if_neg (not_not.mpr (and_not_and x mppcSupported))
  unfold mppcAnswerBits
  rw [first, second]

section Decide

variable (accepts : MppcAccepts) (bits : UInt32)

instance : Decidable (MppcAllowed accepts bits) :=
  decidable_of_iff (bits &&& ~~~mppcSupported = 0 ∧
    (bits &&& mppcBit ≠ 0 → accepts.compress = true) ∧
    (bits &&& mppe40 ≠ 0 → accepts.key40 = true) ∧ (bits &&& mppe56 ≠ 0 → accepts.key56 = true) ∧
    (bits &&& mppe128 ≠ 0 → accepts.key128 = true) ∧
    (bits &&& mppeStateless ≠ 0 → accepts.stateless = true))
    ⟨fun ⟨supported, compress, key40, key56, key128, stateless⟩ =>
      ⟨supported, compress, key40, key56, key128, stateless⟩,
    fun ⟨supported, compress, key40, key56, key128, stateless⟩ =>
      ⟨supported, compress, key40, key56, key128, stateless⟩⟩

instance : Decidable (MppcAcceptable accepts bits) :=
  decidable_of_iff (MppcAllowed accepts bits ∧ bits &&& mppeBits ∈ [0, mppe40, mppe56, mppe128])
    ⟨fun ⟨allowed, oneKey⟩ => ⟨allowed, oneKey⟩, fun ⟨allowed, oneKey⟩ => ⟨allowed, oneKey⟩⟩

instance : Decidable (MppcComplete accepts bits) :=
  decidable_of_iff ((bits &&& mppeBits = 0 →
      accepts.key40 = false ∧ accepts.key56 = false ∧ accepts.key128 = false) ∧
    (bits &&& mppeStateless ≠ 0 → bits &&& (mppeBits ||| mppcBit) ≠ 0))
    ⟨fun ⟨encrypts, notAlone⟩ => ⟨encrypts, notAlone⟩,
    fun ⟨encrypts, notAlone⟩ => ⟨encrypts, notAlone⟩⟩

end Decide

/-- What the rules make of a word: it is allowed, they leave alone what is acceptable and complete
and nothing else, and the third time they leave it alone or nothing of it. -/
def RulesSettle (accepts : MppcAccepts) (word : MppcWord) : Prop :=
  let once := mppcAnswerBits accepts word.bits
  let twice := mppcAnswerBits accepts once
  MppcAllowed accepts once ∧
    (once = word.bits ↔ MppcAcceptable accepts word.bits ∧ MppcComplete accepts word.bits) ∧
    (mppcAnswerBits accepts twice = 0 ∨ mppcAnswerBits accepts twice = twice)

instance (accepts : MppcAccepts) (word : MppcWord) : Decidable (RulesSettle accepts word) := by
  unfold RulesSettle
  infer_instance

theorem rulesSettle (accepts : MppcAccepts) (word : MppcWord) : RulesSettle accepts word := by
  have each : ∀ a b c d e f g h i j, RulesSettle ⟨a, b, c, d, e⟩ ⟨f, g, h, i, j⟩ := by
    decide +kernel
  obtain ⟨a, b, c, d, e⟩ := accepts
  obtain ⟨f, g, h, i, j⟩ := word
  exact each a b c d e f g h i j

variable (accepts : MppcAccepts) (x : UInt32)

theorem allowed_mppcAnswerBits : MppcAllowed accepts (mppcAnswerBits accepts x) := by
  obtain ⟨word, bits⟩ := exists_word x
  rw [mppcAnswerBits_supported, bits]
  exact (rulesSettle accepts word).1

/-- The rules leave alone the bits that are acceptable and complete. -/
theorem mppcAnswerBits_eq_self_iff :
    mppcAnswerBits accepts x = x ↔ MppcAcceptable accepts x ∧ MppcComplete accepts x := by
  obtain ⟨word, bits⟩ := exists_word x
  have settle := (rulesSettle accepts word).2.1
  constructor
  · intro fixed
    have supported := (allowed_mppcAnswerBits accepts x).supported
    rw [fixed] at supported
    have whole : x = word.bits := (and_eq_self supported).symm.trans bits
    rw [whole] at fixed ⊢
    exact settle.mp fixed
  · intro good
    have whole : x = word.bits := (and_eq_self good.1.supported).symm.trans bits
    rw [whole] at good ⊢
    exact settle.mpr good

theorem mppcAnswerBits_settles :
    let twice := mppcAnswerBits accepts (mppcAnswerBits accepts x)
    mppcAnswerBits accepts twice = 0 ∨ mppcAnswerBits accepts twice = twice := by
  obtain ⟨word, bits⟩ := exists_word x
  rw [mppcAnswerBits_supported accepts x, bits]
  exact (rulesSettle accepts word).2.2

end Rules

section Rounds

theorem bits_mppcOption (bits : UInt32) : (mppcOption bits).bits = bits := be32_putBe32 bits

theorem bits_overwrite {opt : FsmOption} (sized : opt.len = 6) (bits : UInt32) :
    (opt.overwrite (putBe32 bits)).bits = bits := by
  have data : (opt.overwrite (putBe32 bits)).data = putBe32 bits :=
    FsmOption.data_overwrite (by simp only [FsmOption.len] at sized; simp; omega)
  unfold FsmOption.bits
  rw [data]
  exact be32_putBe32 bits

theorem mppcDecodeConfigReq_req {opt : FsmOption} (sized : opt.len = 6) (b : MppcBund) :
    let bits := mppcAnswerBits b.accepts opt.bits
    mppcDecodeConfigReq opt .req b =
      (some (if bits = 0 then .rej opt
        else if bits = opt.bits then .ack opt else .nak (opt.overwrite (putBe32 bits))),
        { b with mppc := { b.mppc with recv_bits := bits } }) := by
  intro bits
  unfold mppcDecodeConfigReq
  rw [if_neg (not_not.mpr sized)]
  change (if bits ≠ 0 then _ else _) = _
  by_cases empty : bits = 0
  · rw [if_neg (not_not.mpr empty), if_pos empty]
  · rw [if_pos empty, if_neg empty]
    by_cases same : bits = opt.bits
    · rw [if_pos same]
      change (if bits ≠ opt.bits then _ else _) = _
      rw [if_neg (not_not.mpr same)]
    · rw [if_neg same]
      change (if bits ≠ opt.bits then _ else _) = _
      rw [if_pos same]

/-- What an answer may be: an acknowledgement of bits that are acceptable and recorded, or a
rejection. -/
def MppcSettled (accepts : MppcAccepts) : Option OptAnswer × MppcBund → Prop
  | (some (.ack option), b) =>
      MppcAcceptable accepts option.bits ∧ b.mppc.recv_bits = option.bits
  | (some (.rej _), _) => True
  | _ => False

/-- What the rules leave alone, or of which they leave nothing, settles the negotiation. -/
theorem settled_of_fixed {opt : FsmOption} (sized : opt.len = 6) {b : MppcBund}
    (done : mppcAnswerBits b.accepts opt.bits = 0 ∨ mppcAnswerBits b.accepts opt.bits = opt.bits) :
    MppcSettled b.accepts (mppcDecodeConfigReq opt .req b) := by
  rw [mppcDecodeConfigReq_req sized]
  by_cases empty : mppcAnswerBits b.accepts opt.bits = 0
  · rw [if_pos empty]
    trivial
  · have fixed := done.resolve_left empty
    rw [if_neg empty, if_pos fixed]
    exact ⟨((mppcAnswerBits_eq_self_iff _ _).mp fixed).1, fixed⟩

/-- One more round: it settles the negotiation, or the rules go on with what they proposed. -/
theorem settled_mppcAsk {opt : FsmOption} (sized : opt.len = 6) (b : MppcBund) (again : Nat)
    (later : ∀ other b', other.len = 6 → b'.accepts = b.accepts →
      other.bits = mppcAnswerBits b.accepts opt.bits → MppcSettled b.accepts (mppcAsk other b' again)) :
    MppcSettled b.accepts (mppcAsk opt b (again + 1)) := by
  unfold mppcAsk
  by_cases done : mppcAnswerBits b.accepts opt.bits = 0 ∨
      mppcAnswerBits b.accepts opt.bits = opt.bits
  · have settled := settled_of_fixed sized done
    split
    · rename_i other b' proposed
      rw [proposed] at settled
      exact settled.elim
    · exact settled
  · obtain ⟨some_left, changed⟩ := not_or.mp done
    rw [mppcDecodeConfigReq_req sized, if_neg some_left, if_neg changed]
    refine later _ _ ?_ rfl (bits_overwrite sized _)
    rw [FsmOption.len_overwrite]
    exact sized

/-- An Ack is for the bits that were asked for, and is given if and only if they are acceptable and
complete. -/
theorem acked_iff {opt other : FsmOption} (sized : opt.len = 6) {b : MppcBund} :
    (mppcDecodeConfigReq opt .req b).1 = some (.ack other) ↔
      other = opt ∧ opt.bits ≠ 0 ∧ MppcAcceptable b.accepts opt.bits ∧
        MppcComplete b.accepts opt.bits := by
  rw [mppcDecodeConfigReq_req sized, ← mppcAnswerBits_eq_self_iff]
  dsimp only
  constructor
  · intro answer
    split_ifs at answer with empty same
    · cases answer
    · obtain rfl : opt = other := OptAnswer.ack.inj (Option.some.inj answer)
      rw [same] at empty
      exact ⟨rfl, empty, same⟩
    · cases answer
  · rintro ⟨rfl, some_, same⟩
    rw [if_neg (by rwa [same]), if_pos same]

/-- A Nak proposes bits that are supported and accepted. -/
theorem allowed_of_nak {opt other : FsmOption} (sized : opt.len = 6) {b : MppcBund}
    (proposed : (mppcDecodeConfigReq opt .req b).1 = some (.nak other)) :
    other.bits ≠ 0 ∧ MppcAllowed b.accepts other.bits := by
  rw [mppcDecodeConfigReq_req sized] at proposed
  dsimp only at proposed
  split_ifs at proposed with empty same
  · cases proposed
  · cases proposed
  · obtain rfl := OptAnswer.nak.inj (Option.some.inj proposed)
    rw [bits_overwrite sized]
    exact ⟨empty, allowed_mppcAnswerBits b.accepts opt.bits⟩

theorem acked_mppcDecodeConfigReq {opt other : FsmOption} (sized : opt.len = 6) {b b' : MppcBund}
    (acked : mppcDecodeConfigReq opt .req b = (some (.ack other), b')) :
    other = opt ∧ MppcAcceptable b.accepts opt.bits ∧ b'.mppc.recv_bits = opt.bits := by
  obtain ⟨rfl, -, acceptable, complete⟩ := (acked_iff sized).mp (congrArg Prod.fst acked)
  have same := (mppcAnswerBits_eq_self_iff _ _).mpr ⟨acceptable, complete⟩
  rw [mppcDecodeConfigReq_req sized] at acked
  obtain rfl : _ = b' := congrArg Prod.snd acked
  exact ⟨rfl, acceptable, same⟩

/-- Whatever the peer asks for, an Ack is for bits that are supported and accepted, with one
key length at most, and for those that are recorded; and a peer that takes up each proposal
comes to an Ack or a Reject after at most two Naks. -/
theorem mppc_negotiation_converges (b : MppcBund) (bits : UInt32) :
    (∀ other b', mppcDecodeConfigReq (mppcOption bits) .req b = (some (.ack other), b') →
      other = mppcOption bits ∧ MppcAcceptable b.accepts bits ∧ b'.mppc.recv_bits = bits) ∧
    MppcSettled b.accepts (mppcAsk (mppcOption bits) b 2) := by
  have sized : (mppcOption bits).len = 6 := rfl
  constructor
  · intro other b' acked
    have agreed := acked_mppcDecodeConfigReq sized acked
    rw [bits_mppcOption] at agreed
    exact agreed
  · refine settled_mppcAsk sized b 1 ?_
    intro first b₁ sized₁ accepts₁ bits₁
    rw [← accepts₁]
    refine settled_mppcAsk sized₁ b₁ 0 ?_
    intro second b₂ sized₂ accepts₂ bits₂
    rw [← accepts₂]
    refine settled_of_fixed sized₂ ?_
    have settles := mppcAnswerBits_settles b.accepts (mppcOption bits).bits
    rw [accepts₂, bits₂, bits₁, accepts₁]
    exact settles

def strongKeys : MppcBund where
  mppc := { options := ⟨0, 0b1010⟩ }
  msoft := ⟨0, true, true, true, chapAlgMsoft⟩
  mppcPresent := true
  mppePresent := true

/-- Compression is asked for: both keys are proposed, then the longer one, which is taken. -/
theorem mppc_negotiation_converges_keys :
    (∃ b', mppcDecodeConfigReq (mppcOption mppcBit) .req strongKeys =
      (some (.nak (mppcOption (mppe40 ||| mppe128))), b')) ∧
    (∃ b', mppcDecodeConfigReq (mppcOption (mppe40 ||| mppe128)) .req strongKeys =
      (some (.nak (mppcOption mppe128)), b')) ∧
    MppcAcceptable strongKeys.accepts mppe128 :=
  ⟨⟨_, rfl⟩, ⟨_, rfl⟩, ((mppc_negotiation_converges strongKeys mppe128).1 _ _ rfl).2.1⟩

end Rounds

end Mpd
