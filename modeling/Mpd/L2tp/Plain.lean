import Mpd.L2tp.AvpRoundTrip
import Mpd.L2tp.DataEvent

/-! Control messages in which no AVP is hidden: what is received is what was written. -/

set_option autoImplicit false

namespace Mpd

/-- An AVP of a known type that is not a Random-Vector and fits. -/
def Avp.Plain (avp : Avp) : Prop :=
  (avpDescriptor pppL2tpAvpInfoList avp.vendor avp.type).isSome = true ∧
    ¬(avp.vendor = 0 ∧ avp.type = AvpType.randomVector.num) ∧ avp.vlen ≤ avpMaxVlen

instance (avp : Avp) : Decidable avp.Plain :=
  inferInstanceAs (Decidable (_ ∧ _ ∧ _))

/-- The bytes of an AVP that is not hidden. -/
def avpPlainBytes (avp : Avp) : Bytes :=
  avpHeader (avpFlags avp.mandatory false ||| UInt16.ofNat (6 + avp.vlen)) avp.vendor avp.type ++
    avp.value

def l2tpPlainMsg (session_id : UInt16) (avps : List Avp) : Bytes :=
  putBe16 session_id ++ avps.flatMap avpPlainBytes

theorem avpUnpackFrom_plainList (md5 : Md5) (secret randvec : Option Bytes) {avps : List Avp}
    (plain : ∀ avp ∈ avps, avp.Plain) :
    avpUnpackFrom md5 pppL2tpAvpInfoList secret randvec (avps.flatMap avpPlainBytes) =
      .ok avps := by
  induction avps with
  | nil =>
      rw [List.flatMap_nil, avpUnpackFrom, if_pos List.length_nil]
  | cons avp avps ih =>
      obtain ⟨known, other, fits⟩ := plain avp (List.mem_cons_self ..)
      have bytes : avpPlainBytes avp =
          avpPackAvp md5 secret (Vector.replicate 4 0) false avp fun _ => 0 := by
        unfold avpPackAvp
        cases secret <;> rfl
      rw [List.flatMap_cons, bytes, avpUnpackFrom_plain _ _ _ (Bool.and_false _) known other fits,
        ih fun other member => plain other (List.mem_cons_of_mem _ member)]
      rfl

theorem l2tpPacket_plainMsg (env : L2tpEnv) (w : L2tpWorld) (session_id : UInt16)
    {avps : List Avp} (plain : ∀ avp ∈ avps, avp.Plain) :
    l2tpPacket env w (l2tpPlainMsg session_id avps) =
      (l2tpCtrlDump env avps >>= fun _ => l2tpMessage env w session_id avps) := by
  unfold l2tpPacket l2tpPlainMsg avpUnpack
  simp only [putBe16, List.cons_append, List.nil_append, be16_putBe16,
    avpUnpackFrom_plainList env.md5 w.ctrl.secret none plain]

theorem l2tpStep_plainMsg (env : L2tpEnv) {w : L2tpWorld} (here : w.gone = false)
    (session_id : UInt16) {avps : List Avp} (plain : ∀ avp ∈ avps, avp.Plain)
    (short : (l2tpPlainMsg session_id avps).length ≤ 4096) :
    l2tpStep env w (.received (some (l2tpPlainMsg session_id avps))) =
      (l2tpCtrlDump env avps >>= fun _ =>
        l2tpMessage env (w.setCtrl fun ctrl => { ctrl with idle_timer := true }) session_id
          avps) := by
  unfold l2tpStep l2tpDataEvent
  rw [if_neg (by rw [here]; exact Bool.false_ne_true)]
  dsimp only
  rw [List.take_of_length_le short, l2tpPacket_plainMsg env _ session_id plain]

def l2tpCalmEnv : L2tpEnv where
  md5 := fun _ => Vector.replicate 16 0
  answer := fun _ => true
  drawn := fun count => UInt16.ofNat (count + 1)
  order := id
  order_perm := fun _ => List.Perm.refl _
  strerror := []
  callback := fun _ _ => []
  fields := fun _ => (false, false)
  outstanding := fun _ => none

def l2tpSccrpAvps : List Avp :=
  [avpOfWord16 .messageType L2tpMsgType.sccrp.num,
    ⟨true, 0, AvpType.protocolVersion.num, [1, 0]⟩, ⟨true, 0, AvpType.hostName.num, []⟩,
    avpOfWord32 .framingCapabilities 3, avpOfWord16 .assignedTunnelId 7]

def l2tpEstablished (env : L2tpEnv) : Except L2tpFault L2tpWorld :=
  l2tpMessage env ((l2tpStart env { initiates := true }).setCtrl fun ctrl =>
    { ctrl with idle_timer := true }) 0 l2tpSccrpAvps

/-- A run that starts with an SCCRP. -/
theorem l2tpRun_sccrp (events : List L2tpEvent) :
    l2tpRun l2tpCalmEnv { initiates := true }
        (.received (some (l2tpPlainMsg 0 l2tpSccrpAvps)) :: events) =
      Transition.run (fun r event => r.bind fun w => l2tpStep l2tpCalmEnv w event)
        (l2tpEstablished l2tpCalmEnv) events := by
  unfold l2tpRun
  rw [Transition.run_cons]
  congr 1
  dsimp only [Except.bind]
  rw [l2tpStep_plainMsg l2tpCalmEnv (by decide) 0 (by decide) (by decide)]
  rfl

end Mpd
