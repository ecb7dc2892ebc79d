import Mpd.Ipcp.Exclusive
import Mpd.Ipcp.Suggestions

/-! The Configure-Naks of LCP and IPCP lead the peer to a request that is not nak'd
for the same options again. -/

set_option autoImplicit false

namespace Mpd

def requestOptions (bp : Bytes) : List FsmOption := (fsmExtractOptions fsmMaxOpts bp).1

/-- With the configuration unchanged, a request in which the suggestions of a Nak are taken up
is not answered with a Nak for the options that they replace. -/
def NaksConverge {Layer Config : Type} {T : FsmType Layer} {A : AnswersOptions T.decodeConfig}
    (N : NaksOptions A) (config : Layer → Config) (w w' : FsmWorld Layer) : Prop :=
  config (A.begin w').layer = config (A.begin w).layer → ∀ bp bp' : Bytes,
    let nakd := N.nakd (A.begin w).layer [] (requestOptions bp)
    requestOptions bp' = revise (requestOptions bp) nakd →
      let again := N.nakd (A.begin w').layer [] (requestOptions bp')
      (fsmDecodeBuffer T bp .req w).nak = presentBytes nakd ∧
        (fsmDecodeBuffer T bp' .req w').nak = presentBytes again ∧
        ∀ (i : Nat) (other : FsmOption), nakd[i]? = some (some other) →
          (requestOptions bp')[i]? = some other ∧ again[i]? = some none

theorem nak_fsmDecodeBuffer {Layer : Type} {T : FsmType Layer}
    {A : AnswersOptions T.decodeConfig} (N : NaksOptions A) (bp : Bytes) (w : FsmWorld Layer) :
    (fsmDecodeBuffer T bp .req w).nak =
      presentBytes (N.nakd (A.begin w).layer [] (requestOptions bp)) := by
  have empty : (A.begin w).nak = [] := (A.begin_silent w).nak
  rw [A.fsmDecodeBuffer_eq, N.nak_answerAll, empty]
  rfl

/-- Where the suggestions of a protocol pass its test, its Naks converge. -/
theorem TakesSuggestions.naksConverge {Layer Config : Type} {T : FsmType Layer}
    {A : AnswersOptions T.decodeConfig} {N : NaksOptions A} (C : TakesSuggestions N Config)
    {w : FsmWorld Layer} (offers : C.offers (A.begin w).layer) (w' : FsmWorld Layer) :
    NaksConverge N C.config w w' := by
  intro same bp bp'
  dsimp only
  intro revised
  refine ⟨nak_fsmDecodeBuffer N bp w, nak_fsmDecodeBuffer N bp' w', ?_⟩
  intro i other was
  rw [revised]
  exact C.not_nakd_again offers same (requestOptions bp) [] [] i other was

theorem suggestsAccepted_begin (depth : Nat) {w : FsmWorld Link}
    (offers : SuggestsAccepted w.layer) :
    SuggestsAccepted (lcpAnswers.begin (configReqStart (lcpType depth) w)).layer := by
  refine suggestsAccepted_lcpForget ?_
  unfold configReqStart
  split_ifs
  · exact suggestsAccepted_lcpConfigure _
  · exact offers

theorem addrInRange_begin (depth : Nat) {w : FsmWorld Bund} (within : AddrInRange w.layer) :
    AddrInRange (ipcpAnswers.begin (configReqStart (ipcpType depth) w)).layer := by
  change AddrInRange (configReqStart (ipcpType depth) w).layer
  unfold configReqStart
  split_ifs
  · exact addrInRange_ipcpConfigure _
  · exact within

/-- A Configure-Nak of LCP in any history, and one of IPCP where it has an address for the
peer, leads to a request that is not nak'd for the same options, however far the
negotiation has moved on, as long as the local configuration is the same. -/
theorem naks_converge (depth : Nat) :
    (∀ (start : FsmWorld Link) (events : List FsmEvent) (w' : FsmWorld Link),
      NaksConverge (T := lcpType depth) lcpNaks Link.localConfig
        (configReqStart (lcpType depth) (lcpHistory depth start events)) w') ∧
    (∀ (start : FsmWorld Bund) (events : List FsmEvent) (w' : FsmWorld Bund),
      (configReqStart (ipcpType depth) (ipcpHistory depth start events)).layer.hasPeerAddr →
        NaksConverge (T := ipcpType depth) ipcpNaks Bund.localConfig
          (configReqStart (ipcpType depth) (ipcpHistory depth start events)) w') := by
  constructor
  · intro start events w'
    have offers := suggestsAccepted_begin depth (suggestsAccepted_lcpHistory depth start events)
    exact lcpTakesSuggestions.naksConverge (T := lcpType depth) offers w'
  · intro start events w' available
    have within := addrInRange_begin depth (addrInRange_ipcpHistory depth start events)
    exact ipcpTakesSuggestions.naksConverge (T := ipcpType depth) (within.offers available) w'

def ipcpWithHost : FsmWorld Bund where
  fsm := fsmInit
  layer := { Bund.pooled with
    ipcp := { Bund.pooled.ipcp with
      conf := { Bund.pooled.ipcp.conf with
        ippool := []
        peer_allow := ⟨inAddrtouAddr 0xC0000202, 32⟩ } } }
  ack := []
  nak := []
  rej := []
  log := []

/-- The peer asks for an address, and then for the one that the Nak has. -/
theorem naks_converge_addr :
    let w := configReqStart (ipcpType 0) (ipcpHistory 0 ipcpWithHost [])
    (fsmDecodeBuffer (ipcpType 0) [3, 6, 0, 0, 0, 0] .req w).nak = [3, 6, 192, 0, 2, 2] ∧
      (ipcpNaks.nakd (ipcpAnswers.begin w).layer []
        (requestOptions [3, 6, 192, 0, 2, 2]))[0]? = some none := by
  have available : (configReqStart (ipcpType 0)
      (ipcpHistory 0 ipcpWithHost [])).layer.hasPeerAddr := by
    constructor <;> decide
  have converges := (naks_converge 0).2 ipcpWithHost []
    (configReqStart (ipcpType 0) (ipcpHistory 0 ipcpWithHost [])) available rfl
    [3, 6, 0, 0, 0, 0] [3, 6, 192, 0, 2, 2] (by decide)
  refine ⟨converges.1.trans (by decide), ?_⟩
  exact (converges.2.2 0 ⟨3, [192, 0, 2, 2], by decide⟩ (by decide)).2

end Mpd
