import Mpd.Ccp.Mppc
import Mpd.Fsm.OptionList

/-! The Configure-Request of CCP, and the transmit type that goes with it. -/

set_option autoImplicit false

namespace Mpd

inductive CompType where
  | mppc | deflate | pred1
  deriving DecidableEq, Repr

def gCompTypes : List CompType := [.mppc, .deflate, .pred1]

def CompType.num : CompType → UInt8
  | mppc => ccpTyMppc | deflate => 26 | pred1 => 1

/-- `struct ccpstate` with the bundle's own parameters, as far as a request goes. -/
structure CcpBund extends MppcBund where
  options : OptInfo
  peer_reject : UInt32
  xmit : Option CompType
  xmit_windowBits : Int
  recv_windowBits : Int

def CcpBund.peerRejected (b : CcpBund) (x : Nat) : Bool := b.peer_reject.toNat.testBit x

def mppcBuildConfigReq (b : CcpBund) : Bytes × Int × CcpBund :=
  let bits := mppcRequestBits b.toMppcBund
  let b := { b with mppc := { b.mppc with xmit_bits := bits } }
  if bits ≠ 0 then (fsmConfValue CompType.mppc.num (putBe32 bits), 1, b) else ([], 0, b)

/-- `DeflateBuildConfigReq`, which leaves `*ok` as it is without a window. -/
def deflateBuildConfigReq (b : CcpBund) (ok : Int) : Bytes × Int × CcpBund :=
  if b.xmit_windowBits > 0 then
    let opt := UInt16.ofInt ((b.xmit_windowBits - 8) * 4096 + 8 * 256)
    (fsmConfValue CompType.deflate.num (putBe16 opt), 1, b)
  else ([], ok, b)

/-- A Nak of ours asks for the largest window; one that is no window of the peer's leaves none. -/
def deflateDecodeConfigReq (opt : FsmOption) (mode : FsmMode) (b : CcpBund) :
    Option OptAnswer × CcpBund :=
  if opt.len ≠ 4 then (if mode = .req then some (.rej opt) else none, b)
  else
    let o := (be16 (opt.byte 0) (opt.byte 1)).toNat
    let window := o / 4096 % 16
    let method := o / 256 % 16
    let chk := o % 4
    let valid := 0 < window ∧ window ≤ 7 ∧ method = 8 ∧ chk = 0
    match mode with
    | .req =>
        if valid then (some (.ack opt), { b with recv_windowBits := window + 8 })
        else (some (.nak (opt.overwrite (putBe16 (7 * 4096 + 8 * 256)))), b)
    | .nak => (none, { b with xmit_windowBits := if valid then window + 8 else 0 })
    | _ => (none, b)

def pred1BuildConfigReq (b : CcpBund) : Bytes × Int × CcpBund :=
  (fsmConfValue CompType.pred1.num [], 1, b)

def CompType.buildConfigReq (ct : CompType) (b : CcpBund) (ok : Int) : Bytes × Int × CcpBund :=
  match ct with
  | mppc => mppcBuildConfigReq b
  | deflate => deflateBuildConfigReq b ok
  | pred1 => pred1BuildConfigReq b

/-- The loop of `CcpBuildConfigReq` over the types from one index on. -/
def ccpBuildLoop : List CompType → Nat → CcpBund → Int → Bytes → Bytes × CcpBund
  | [], _, b, _, cp => (cp, b)
  | ct :: types, type, b, ok, cp =>
      if b.options.enabled type && !b.peerRejected type then
        let (written, ok, b) := ct.buildConfigReq b ok
        let b := if ok ≠ 0 ∧ b.xmit = none then { b with xmit := some ct } else b
        ccpBuildLoop types (type + 1) b ok (cp ++ written)
      else ccpBuildLoop types (type + 1) b ok cp

/-- `ok` is what the stack holds at first. -/
def ccpBuildConfigReq (b : CcpBund) (ok : Int) : Bytes × CcpBund :=
  ccpBuildLoop gCompTypes 0 { b with xmit := none } ok []

def CompType.presentIn (request : Bytes) (ct : CompType) : Bool :=
  (fsmExtractOptions fsmMaxOpts request).1.any (·.type = ct.num)

/-- The transmit type is the first one whose option is in the request, and there is none only
for an empty request. -/
def XmitRequested (built : Bytes × CcpBund) : Prop :=
  built.2.xmit = gCompTypes.find? (CompType.presentIn built.1) ∧
    (built.2.xmit = none ↔ built.1 = [])

/-- Deflate has no window to ask for, and no type before it has written `ok`. -/
def OkUnset (b : CcpBund) : Prop :=
  (b.options.enabled 0 && !b.peerRejected 0) = false ∧
    (b.options.enabled 1 && !b.peerRejected 1) = true ∧ b.xmit_windowBits ≤ 0

instance (b : CcpBund) : Decidable (OkUnset b) := by
  unfold OkUnset
  infer_instance

namespace CcpBund

variable (b : CcpBund)

def offer : CompType → Option FsmOption
  | .mppc =>
      let bits := mppcRequestBits b.toMppcBund
      if bits ≠ 0 then some (mppcOption bits) else none
  | .deflate =>
      if b.xmit_windowBits > 0 then
        let opt := UInt16.ofInt ((b.xmit_windowBits - 8) * 4096 + 8 * 256)
        some ⟨CompType.deflate.num, putBe16 opt, length_putBe16_fits opt⟩
      else none
  | .pred1 => some ⟨CompType.pred1.num, [], by simp⟩

theorem type_offer {ct : CompType} {option : FsmOption} (offers : b.offer ct = some option) :
    option.type = ct.num := by
  cases ct with
  | mppc =>
      unfold offer at offers
      dsimp only at offers
      split_ifs at offers
      cases offers
      rfl
  | deflate =>
      unfold offer at offers
      dsimp only at offers
      split_ifs at offers
      cases offers
      rfl
  | pred1 =>
      cases offers
      rfl

/-- A builder writes the option that its type offers, and says so; only Deflate says nothing
where it offers none. -/
structure Built (ct : CompType) (ok : Int) (built : Bytes × Int × CcpBund) : Prop where
  written : built.1 = (b.offer ct).toList.flatMap FsmOption.bytes
  ok : built.2.1 = if (b.offer ct).isSome then 1 else if ct = .deflate then ok else 0
  offer : built.2.2.offer = b.offer
  options : built.2.2.options = b.options
  peer_reject : built.2.2.peer_reject = b.peer_reject
  xmit : built.2.2.xmit = b.xmit

theorem buildConfigReq_built (ct : CompType) (ok : Int) : b.Built ct ok (ct.buildConfigReq b ok) := by
  cases ct with
  | mppc =>
      have kept : ∀ bits : UInt32, ({ b with mppc := { b.mppc with xmit_bits := bits } } :
          CcpBund).offer = b.offer := by
        intro bits
        funext ct
        cases ct <;> rfl
      unfold CompType.buildConfigReq mppcBuildConfigReq
      dsimp only
      by_cases bits : mppcRequestBits b.toMppcBund = 0
      · have none_offered : b.offer .mppc = none := if_neg (not_not.mpr bits)
        rw [if_neg (not_not.mpr bits)]
        exact ⟨by rw [none_offered]; rfl, by rw [none_offered]; rfl, kept _, rfl, rfl, rfl⟩
      · have offered : b.offer .mppc = some (mppcOption (mppcRequestBits b.toMppcBund)) :=
          if_pos bits
        rw [if_pos bits]
        exact ⟨by rw [offered]; rfl, by rw [offered]; rfl, kept _, rfl, rfl, rfl⟩
  | deflate =>
      unfold CompType.buildConfigReq deflateBuildConfigReq
      by_cases window : b.xmit_windowBits > 0
      · have offered : (b.offer .deflate).isSome = true := by simp [offer, window]
        rw [if_pos window]
        exact ⟨by simp [offer, window, fsmConfValue, FsmOption.bytes, FsmOption.len],
          by rw [offered]; rfl, rfl, rfl, rfl, rfl⟩
      · have none_offered : b.offer .deflate = none := if_neg window
        rw [if_neg window]
        exact ⟨by rw [none_offered]; rfl, by rw [none_offered]; rfl, rfl, rfl, rfl, rfl⟩
  | pred1 => exact ⟨rfl, rfl, rfl, rfl, rfl, rfl⟩

def joins (type : Nat) : Bool := b.options.enabled type && !b.peerRejected type

def puts (ct : CompType) (type : Nat) : Option FsmOption :=
  if b.joins type then b.offer ct else none

structure Looped (start : CcpBund) : Prop where
  offer : b.offer = start.offer
  options : b.options = start.options
  peer_reject : b.peer_reject = start.peer_reject

variable {b} {start : CcpBund}

theorem Looped.joins (looped : Looped b start) (type : Nat) : b.joins type = start.joins type := by
  unfold CcpBund.joins peerRejected
  rw [looped.options, looped.peer_reject]

theorem Looped.round (looped : Looped b start) (ct : CompType) (types : List CompType) (type : Nat)
    (ok : Int) (cp : Bytes) :
    ∃ ok' b', ccpBuildLoop (ct :: types) type b ok cp =
        ccpBuildLoop types (type + 1) b' ok' (cp ++ (start.puts ct type).toList.flatMap FsmOption.bytes) ∧
      Looped b' start ∧
      ok' = (if start.joins type then
        if (start.offer ct).isSome then 1 else if ct = .deflate then ok else 0 else ok) ∧
      b'.xmit = if start.joins type ∧ ok' ≠ 0 ∧ b.xmit = none then some ct else b.xmit := by
  have same := looped.joins type
  cases on : start.joins type with
  | false =>
      rw [on] at same
      refine ⟨ok, b, ?_, looped, by simp, by simp⟩
      have skipped : ¬ (b.options.enabled type && !b.peerRejected type) = true := by
        intro joined
        exact absurd (same.symm.trans joined) (by decide)
      rw [ccpBuildLoop, if_neg skipped]
      simp [puts, on]
  | true =>
      rw [on] at same
      have joined : (b.options.enabled type && !b.peerRejected type) = true := same
      have built := b.buildConfigReq_built ct ok
      obtain ⟨written, ok', offers, options, rejected, xmit⟩ := built
      rw [looped.offer] at written ok' offers
      let taken := ct.buildConfigReq b ok
      let after := if taken.2.1 ≠ 0 ∧ taken.2.2.xmit = none then { taken.2.2 with xmit := some ct }
        else taken.2.2
      refine ⟨taken.2.1, after, ?_, ?_, ok'.trans (by simp), ?_⟩
      · rw [ccpBuildLoop, if_pos joined]
        change ccpBuildLoop types (type + 1) after taken.2.1 (cp ++ taken.1) = _
        rw [written]
        simp [puts, on]
      · dsimp only [after]
        split_ifs
        · exact ⟨offers, options.trans looped.options, rejected.trans looped.peer_reject⟩
        · exact ⟨offers, options.trans looped.options, rejected.trans looped.peer_reject⟩
      · dsimp only [after, taken]
        rw [xmit]
        by_cases chosen : (ct.buildConfigReq b ok).2.1 ≠ 0 ∧ b.xmit = none
        · rw [if_pos chosen, if_pos ⟨rfl, chosen⟩]
        · rw [if_neg chosen, if_neg (fun all => chosen all.2)]
          exact xmit

end CcpBund

section Choice

variable (b : CcpBund) (ok : Int)

theorem ccpBuildConfigReq_eq :
    let built := ccpBuildConfigReq b ok
    built.1 = ((b.puts .mppc 0).toList ++ (b.puts .deflate 1).toList ++
      (b.puts .pred1 2).toList).flatMap FsmOption.bytes ∧
    built.2.xmit = if (b.puts .mppc 0).isSome then some .mppc
      else if (b.puts .deflate 1).isSome ∨ OkUnset b ∧ ok ≠ 0 then some .deflate
      else if (b.puts .pred1 2).isSome then some .pred1 else none := by
  intro built
  have looped : CcpBund.Looped { b with xmit := none } b := by
    refine ⟨?_, rfl, rfl⟩
    funext ct
    cases ct <;> rfl
  obtain ⟨ok₁, b₁, round₁, looped₁, told₁, xmit₁⟩ := looped.round .mppc [.deflate, .pred1] 0 ok []
  obtain ⟨ok₂, b₂, round₂, looped₂, told₂, xmit₂⟩ := looped₁.round .deflate [.pred1] 1 ok₁ _
  obtain ⟨ok₃, b₃, round₃, looped₃, told₃, xmit₃⟩ := looped₂.round .pred1 [] 2 ok₂ _
  have whole : built = (_, b₃) := round₁.trans (round₂.trans round₃)
  rw [whole]
  constructor
  · simp [List.flatMap_append]
  · have deflates : (b.offer .deflate).isSome = true ↔ 0 < b.xmit_windowBits := by
      simp [CcpBund.offer]
    have predicts : (b.offer .pred1).isSome = true := rfl
    have unset : OkUnset b ↔ b.joins 0 = false ∧ b.joins 1 = true ∧ ¬ 0 < b.xmit_windowBits :=
      and_congr Iff.rfl (and_congr Iff.rfl Int.not_lt.symm)
    dsimp only
    rw [xmit₃, told₃, xmit₂, told₂, xmit₁, told₁]
    simp only [unset, ← deflates]
    unfold CcpBund.puts
    by_cases zero : ok = 0
    · cases b.joins 0 <;> cases b.joins 1 <;> cases b.joins 2 <;>
        cases b.offer .mppc <;> cases b.offer .deflate <;> simp [predicts, zero]
    · cases b.joins 0 <;> cases b.joins 1 <;> cases b.joins 2 <;>
        cases b.offer .mppc <;> cases b.offer .deflate <;> simp [predicts, zero]

theorem presentIn_ccpBuildConfigReq :
    let request := (ccpBuildConfigReq b ok).1
    (CompType.mppc.presentIn request = (b.puts .mppc 0).isSome) ∧
      (CompType.deflate.presentIn request = (b.puts .deflate 1).isSome) ∧
      (CompType.pred1.presentIn request = (b.puts .pred1 2).isSome) ∧
      (request = [] ↔ (b.puts .mppc 0).isSome = false ∧ (b.puts .deflate 1).isSome = false ∧
        (b.puts .pred1 2).isSome = false) := by
  intro request
  have written : request = _ := (ccpBuildConfigReq_eq b ok).1
  have typed {ct : CompType} {type : Nat} {option : FsmOption} (puts : b.puts ct type = some option) :
      option.type = ct.num := by
    unfold CcpBund.puts at puts
    split_ifs at puts
    exact b.type_offer puts
  have found := fsmExtractOptions_flatMap_bytes fsmMaxOpts ((b.puts .mppc 0).toList ++
    (b.puts .deflate 1).toList ++ (b.puts .pred1 2).toList) (by
      cases b.puts .mppc 0 <;> cases b.puts .deflate 1 <;> cases b.puts .pred1 2 <;>
        simp [fsmMaxOpts])
  rw [← written] at found
  unfold CompType.presentIn
  rw [found]
  have first : ∀ option, b.puts .mppc 0 = some option → option.type = 18 := fun _ => typed
  have second : ∀ option, b.puts .deflate 1 = some option → option.type = 26 := fun _ => typed
  have third : ∀ option, b.puts .pred1 2 = some option → option.type = 1 := fun _ => typed
  cases mppc : b.puts .mppc 0 <;> cases deflate : b.puts .deflate 1 <;>
    cases pred1 : b.puts .pred1 2 <;>
    simp_all [FsmOption.bytes, CompType.num, ccpTyMppc]

/-- The transmit type is right if and only if `ok` was set before it is looked at, or happens
to be zero. -/
theorem xmitRequested_iff : XmitRequested (ccpBuildConfigReq b ok) ↔ ¬ OkUnset b ∨ ok = 0 := by
  obtain ⟨-, xmit⟩ := ccpBuildConfigReq_eq b ok
  obtain ⟨mppc, deflate, pred1, empty⟩ := presentIn_ccpBuildConfigReq b ok
  unfold XmitRequested gCompTypes
  rw [xmit, empty]
  simp only [List.find?_cons, List.find?_nil, mppc, deflate, pred1]
  by_cases unset : OkUnset b ∧ ok ≠ 0
  · have refuted : ¬ (¬ OkUnset b ∨ ok = 0) := by
      rintro (set | zero)
      · exact set unset.1
      · exact unset.2 zero
    have none_first : b.puts .mppc 0 = none := by
      unfold CcpBund.puts CcpBund.joins
      rw [unset.1.1]
      rfl
    have none_second : b.puts .deflate 1 = none := by
      have window : ¬ b.xmit_windowBits > 0 := Int.not_lt.mpr unset.1.2.2
      simp [CcpBund.puts, CcpBund.offer, window]
    rw [none_first, none_second]
    cases b.puts .pred1 2 <;> simp [unset]
  · have granted : ¬ OkUnset b ∨ ok = 0 := by
      by_cases zero : ok = 0
      · exact .inr zero
      · exact .inl fun set => unset ⟨set, zero⟩
    cases b.puts .mppc 0 <;> cases b.puts .deflate 1 <;> cases b.puts .pred1 2 <;>
      simp [unset, granted]

end Choice

/-- A bundle that offers Deflate alone, as `DeflateConfigure` leaves it. -/
def deflateOnly : CcpBund where
  mppc := { options := ⟨0, 0⟩ }
  msoft := ⟨0, false, false, false, 0⟩
  mppcPresent := true
  mppePresent := true
  options := ⟨2, 2⟩
  peer_reject := 0
  xmit := none
  xmit_windowBits := 15
  recv_windowBits := 0

def deflateNakd : CcpBund :=
  (deflateDecodeConfigReq ⟨CompType.deflate.num, [0, 0], by decide⟩ .nak deflateOnly).2

/-- The request is empty, and Deflate is the transmit type. -/
theorem xmitRequested_not_deflate :
    (ccpBuildConfigReq deflateNakd 1).1 = [] ∧
      (ccpBuildConfigReq deflateNakd 1).2.xmit = some .deflate ∧
      ¬ XmitRequested (ccpBuildConfigReq deflateNakd 1) := by
  have request : (ccpBuildConfigReq deflateNakd 1).1 = [] := by decide
  have xmit : (ccpBuildConfigReq deflateNakd 1).2.xmit = some .deflate := by decide
  refine ⟨request, xmit, ?_⟩
  rintro ⟨-, none_only⟩
  rw [xmit] at none_only
  exact nomatch none_only.mpr request

end Mpd
