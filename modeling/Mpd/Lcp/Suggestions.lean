import Mpd.Fsm.Naks
import Mpd.Lcp.Authentication
import Mpd.Lcp.Recorded

/-! What LCP suggests in a Configure-Nak passes the test of LCP itself. -/

set_option autoImplicit false

namespace Mpd

namespace FsmOption

theorem data_overwrite {option : FsmOption} {bytes : Bytes}
    (length : bytes.length = option.data.length) : (option.overwrite bytes).data = bytes := by
  simp [overwrite, ← length]

@[simp] theorem meaning?_overwrite {Meaning : Type} (list : List (FsmOptInfo Meaning))
    (option : FsmOption) (bytes : Bytes) :
    (option.overwrite bytes).meaning? list = option.meaning? list := by
  unfold meaning?
  rw [len_overwrite]
  rfl

end FsmOption

/-- What LCP suggests for a supported option that it does not acknowledge. -/
def lcpSuggestsSupported (l : Link) (opt : FsmOption) : LcpOpt → Option FsmOption
  | .mru => some (opt.overwrite (putBe16 lcpMinMru))
  | .authproto => (l.lcp.peer_protos.findSome? id).map lcpAuthProtoNak
  | .magicnum =>
      if l.lcp.want_magic = 0 then none
      else some (opt.overwrite
        (putBe32 (~~~(be32 (opt.byte 0) (opt.byte 1) (opt.byte 2) (opt.byte 3)))))
  | .mrru =>
      if l.conf.options.enabled linkConfMultilink then
        some (opt.overwrite (putBe16 mpMinMrru))
      else none
  | _ => none

/-- What LCP suggests for an option that it does not acknowledge. -/
def lcpSuggests (l : Link) (opt : FsmOption) : Option FsmOption :=
  (opt.meaning? gLcpConfOpts).bind (lcpSuggestsSupported l opt)

section Answers

variable {opt : FsmOption} {w : FsmWorld Link}

theorem lcpDecodeSupported_of_suggests {meaning : LcpOpt}
    (refuses : lcpAcksSupported w.layer opt meaning = false) :
    lcpDecodeSupported .req meaning opt w = match lcpSuggestsSupported w.layer opt meaning with
      | some other => fsmNak other w
      | none => fsmRej opt w := by
  cases meaning with
  | vendor => rfl
  | callback => rfl
  | accmap => exact nomatch refuses
  | mru =>
      simp only [lcpAcksSupported, decide_eq_false_iff_not, not_not] at refuses
      simp only [lcpDecodeSupported, lcpDecodeMru, refuses, if_true]
      rfl
  | authproto =>
      have denied : ((authOptPos opt).bind (gLcpAuthProtos[·]?)).any (fun authProto =>
        w.layer.conf.options.acceptable authProto.conf) = false := refuses
      simp only [lcpDecodeSupported, lcpDecodeAuthproto, denied, Bool.false_eq_true, if_false,
        lcpSuggestsSupported]
      cases w.layer.lcp.peer_protos.findSome? id <;> rfl
  | magicnum =>
      simp only [lcpDecodeSupported, lcpDecodeMagicnum, lcpSuggestsSupported]
      by_cases unwanted : w.layer.lcp.want_magic = 0
      · simp only [unwanted, if_true]
      · have same : be32 (opt.byte 0) (opt.byte 1) (opt.byte 2) (opt.byte 3) =
            w.layer.lcp.want_magic := by
          simpa [lcpAcksSupported, unwanted] using refuses
        simp only [unwanted, same, if_false, if_true]
  | protocomp =>
      have denied : w.layer.conf.options.acceptable linkConfProtocomp = false := refuses
      simp only [lcpDecodeSupported, lcpDecodeProtocomp, denied, Bool.false_eq_true, if_false]
      rfl
  | acfcomp =>
      have denied : w.layer.conf.options.acceptable linkConfAcfcomp = false := refuses
      simp only [lcpDecodeSupported, lcpDecodeAcfcomp, denied, Bool.false_eq_true, if_false]
      rfl
  | mrru =>
      simp only [lcpDecodeSupported, lcpDecodeMrru, lcpSuggestsSupported]
      cases multilink : w.layer.conf.options.enabled linkConfMultilink with
      | false => simp only [Bool.false_eq_true, not_false_eq_true, if_true, if_false]
      | true =>
          have small : be16 (opt.byte 0) (opt.byte 1) < mpMinMrru := by
            simpa [lcpAcksSupported, multilink] using refuses
          simp only [not_true, small, if_true, if_false]
  | shortseqnum =>
      have denied : ¬ w.layer.conf.options.enabled linkConfMultilink = true ∨
          ¬ w.layer.conf.options.acceptable linkConfShortseq = true := by
        have both : ¬ (w.layer.conf.options.enabled linkConfMultilink = true ∧
            w.layer.conf.options.acceptable linkConfShortseq = true) := by
          rw [← Bool.and_eq_true]
          exact Bool.eq_false_iff.mp refuses
        exact not_and_or.mp both
      simp only [lcpDecodeSupported, lcpDecodeShortseq, denied, if_true]
      rfl
  | endpointdisc =>
      simp only [lcpAcksSupported, decide_eq_false_iff_not, not_not] at refuses
      simp only [lcpDecodeSupported, lcpDecodeEndpointdisc, refuses, if_true]
      rfl

def lcpNaks : NaksOptions lcpAnswers where
  suggests := lcpSuggests
  answered opt w refuses := by
    change lcpAcks w.layer opt = false at refuses
    change lcpDecodeOption .req opt w = _
    unfold lcpAcks at refuses
    unfold lcpDecodeOption lcpSuggests
    cases meaning : opt.meaning? gLcpConfOpts with
    | none => rfl
    | some supported =>
        rw [meaning, Option.any_some] at refuses
        exact lcpDecodeSupported_of_suggests refuses

end Answers

section Taken

variable {opt : FsmOption} {l : Link}

theorem length_of_supported {Meaning : Type} {list : List (FsmOptInfo Meaning)}
    {meaning : Meaning} {size : Nat} (means : opt.meaning? list = some meaning)
    (sized : ∀ oi ∈ list, oi.supported = some meaning → oi.minLen = size ∧ oi.maxLen = size) :
    opt.data.length = size := by
  obtain ⟨oi, found, bounds⟩ := Option.bind_eq_some_iff.mp means
  have listed := List.mem_of_find?_eq_some found
  split_ifs at bounds with outside
  obtain ⟨least, most⟩ := sized oi listed bounds
  rw [least, most, FsmOption.len] at outside
  omega

theorem number_overwrite (number : UInt16) (length : opt.data.length = 2) :
    let other := opt.overwrite (putBe16 number)
    be16 (other.byte 0) (other.byte 1) = number := by
  have data := FsmOption.data_overwrite (length.symm ▸ length_putBe16 number :
    (putBe16 number).length = opt.data.length)
  dsimp only [FsmOption.byte]
  rw [data]
  exact be16_putBe16 number

theorem magic_overwrite (magic : UInt32) (length : opt.data.length = 4) :
    let other := opt.overwrite (putBe32 magic)
    be32 (other.byte 0) (other.byte 1) (other.byte 2) (other.byte 3) = magic := by
  have data := FsmOption.data_overwrite (length.symm ▸ length_putBe32 magic :
    (putBe32 magic).length = opt.data.length)
  dsimp only [FsmOption.byte]
  rw [data]
  exact be32_putBe32 magic

def SuggestsAccepted (l : Link) : Prop :=
  ∀ entry, some entry ∈ l.lcp.peer_protos →
    entry ∈ gLcpAuthProtos ∧ l.conf.options.acceptable entry.conf = true

theorem lcpAcks_lcpAuthProtoNak {entry : LcpAuthProto} (listed : entry ∈ gLcpAuthProtos)
    (accepted : l.conf.options.acceptable entry.conf = true) :
    lcpAcks l (lcpAuthProtoNak entry) = true := by
  have table : ∀ entry ∈ gLcpAuthProtos,
      (lcpAuthProtoNak entry).meaning? gLcpConfOpts = some .authproto ∧
        (authOptPos (lcpAuthProtoNak entry)).bind (gLcpAuthProtos[·]?) = some entry := by decide
  obtain ⟨means, found⟩ := table entry listed
  unfold lcpAcks
  rw [means, Option.any_some]
  change lcpAcceptsAuth l.conf.options (lcpAuthProtoNak entry) = true
  unfold lcpAcceptsAuth
  rw [found]
  exact accepted

structure LcpLocal where
  options : OptInfo
  want_magic : UInt32
  deriving DecidableEq, Repr

def Link.localConfig (l : Link) : LcpLocal := ⟨l.conf.options, l.lcp.want_magic⟩

theorem lcpAcks_of_suggests {other : FsmOption} {l' : Link} (offers : SuggestsAccepted l)
    (refuses : lcpAcks l opt = false) (suggests : lcpSuggests l opt = some other)
    (same : l'.localConfig = l.localConfig) : lcpAcks l' other = true := by
  obtain ⟨meaning, means, suggested⟩ := Option.bind_eq_some_iff.mp suggests
  have options : l'.conf.options = l.conf.options := congrArg LcpLocal.options same
  have magic : l'.lcp.want_magic = l.lcp.want_magic := congrArg LcpLocal.want_magic same
  unfold lcpAcks at refuses
  rw [means, Option.any_some] at refuses
  cases meaning with
  | mru =>
      obtain rfl := Option.some.inj suggested
      have length : opt.data.length = 2 := length_of_supported means (by decide)
      unfold lcpAcks
      rw [FsmOption.meaning?_overwrite, means, Option.any_some]
      simp only [lcpAcksSupported, number_overwrite lcpMinMru length]
      decide
  | mrru =>
      simp only [lcpSuggestsSupported] at suggested
      split_ifs at suggested with multilink
      obtain rfl := Option.some.inj suggested
      have length : opt.data.length = 2 := length_of_supported means (by decide)
      unfold lcpAcks
      rw [FsmOption.meaning?_overwrite, means, Option.any_some]
      simp only [lcpAcksSupported, number_overwrite mpMinMrru length, options, multilink,
        Bool.true_and]
      decide
  | magicnum =>
      simp only [lcpSuggestsSupported] at suggested
      split_ifs at suggested with unwanted
      obtain rfl := Option.some.inj suggested
      have length : opt.data.length = 4 := length_of_supported means (by decide)
      have looped : be32 (opt.byte 0) (opt.byte 1) (opt.byte 2) (opt.byte 3) =
          l.lcp.want_magic := by
        simpa [lcpAcksSupported, unwanted] using refuses
      unfold lcpAcks
      rw [FsmOption.meaning?_overwrite, means, Option.any_some]
      simp only [lcpAcksSupported, magic_overwrite _ length, magic, looped]
      simp [unwanted]
  | authproto =>
      obtain ⟨entry, found, rfl⟩ := Option.map_eq_some_iff.mp suggested
      obtain ⟨slot, member, rfl⟩ := List.exists_of_findSome?_eq_some found
      obtain ⟨listed, accepted⟩ := offers entry member
      rw [← options] at accepted
      exact lcpAcks_lcpAuthProtoNak listed accepted
  | _ => cases suggested

def lcpTakesSuggestions : TakesSuggestions lcpNaks LcpLocal where
  config := Link.localConfig
  offers := SuggestsAccepted
  config_record _ _ _ := rfl
  offers_record _ _ _ offers := offers
  taken offers refuses suggests same := lcpAcks_of_suggests offers refuses suggests same

end Taken

section Runs

def KeepsSuggestions (before after : FsmWorld Link) : Prop :=
  SuggestsAccepted before.layer → SuggestsAccepted after.layer

theorem SuggestsAccepted.of_same {before after : Link} (offers : SuggestsAccepted before)
    (conf : after.conf = before.conf)
    (peer_protos : after.lcp.peer_protos = before.lcp.peer_protos) : SuggestsAccepted after := by
  intro entry member
  rw [peer_protos] at member
  rw [conf]
  exact offers entry member

theorem suggestsAccepted_lcpConfigure (w : FsmWorld Link) :
    SuggestsAccepted (lcpConfigure w).layer := by
  have conf := (lcpConfigure_negotiates w).keepsConfiguration.conf
  intro entry member
  have listed : some entry ∈ lcpAcceptAuth w.layer.conf.options lcpPossibleProtos := member
  obtain ⟨other, possible, slot⟩ := List.mem_map.mp listed
  split_ifs at slot with accepted
  obtain rfl := Option.some.inj slot
  rw [conf]
  exact ⟨(lcpPossibleProtos_mem other).mp possible, accepted⟩

theorem suggestsAccepted_lcpForget {w : FsmWorld Link} (offers : SuggestsAccepted w.layer) :
    SuggestsAccepted (lcpForget w).layer := by
  unfold lcpForget
  split_ifs
  · exact suggestsAccepted_lcpConfigure w
  · exact offers.of_same rfl rfl

/-- An answer to our own request leaves the protocols alone that we accept. -/
theorem peer_protos_lcpDecodeAuthproto {mode : FsmMode} (answer : mode ≠ .req) (opt : FsmOption)
    (w : FsmWorld Link) :
    let after := (lcpDecodeAuthproto mode opt w).layer
    after.conf = w.layer.conf ∧ after.lcp.peer_protos = w.layer.lcp.peer_protos := by
  cases mode with
  | req => exact absurd rfl answer
  | nop => exact ⟨rfl, rfl⟩
  | rej =>
      simp only [lcpDecodeAuthproto]
      split_ifs <;> exact ⟨rfl, rfl⟩
  | nak =>
      simp only [lcpDecodeAuthproto]
      split
      · exact ⟨rfl, rfl⟩
      · rename_i entry _
        by_cases enabled : w.layer.conf.options.enabled entry.conf = true
        · rw [if_pos enabled]
          exact ⟨rfl, rfl⟩
        · rw [if_neg enabled]
          split <;> exact ⟨rfl, rfl⟩

theorem suggestsAccepted_answer (mode : FsmMode) (opt : FsmOption) {w : FsmWorld Link}
    (offers : SuggestsAccepted w.layer) : SuggestsAccepted (lcpDecodeOption mode opt w).layer := by
  have effect := optionEffect_lcpDecodeOption mode opt w
  generalize (lcpDecodeOption mode opt w).layer = after at effect ⊢
  cases effect with
  | recorded asked acks => exact offers.of_same rfl rfl
  | kept => exact offers
  | auth answer means =>
      obtain ⟨conf, peer_protos⟩ := peer_protos_lcpDecodeAuthproto answer opt w
      exact offers.of_same conf peer_protos
  | other answer lcp magics changed => exact offers.of_same rfl changed.peer_protos

theorem suggestsAccepted_lcpDecodeConfig (options : List FsmOption) (mode : FsmMode)
    {w : FsmWorld Link} (offers : SuggestsAccepted w.layer) :
    SuggestsAccepted (lcpDecodeConfig options mode w).layer := by
  refine lcpDecodeConfig_preserves (P := fun w => SuggestsAccepted w.layer) ?_ ?_ options offers
  · exact fun _ _ offers => suggestsAccepted_lcpForget offers
  · exact fun opt _ offers => suggestsAccepted_answer mode opt offers

theorem lcpFrame_keepsSuggestions : LcpFrame KeepsSuggestions where
  refl _ := id
  trans left right offers := right (left offers)
  counters _ _ := id
  emit _ _ _ := id
  layer _ _ same offers := offers.of_same same.conf (congrArg (·.peer_protos) same.lcp)
  configure w _ := suggestsAccepted_lcpConfigure w
  decodeConfig options mode _ _ offers := suggestsAccepted_lcpDecodeConfig options mode offers

theorem suggestsAccepted_lcpHistory (depth : Nat) (start : FsmWorld Link)
    (events : List FsmEvent) : SuggestsAccepted (lcpHistory depth start events).layer := by
  have respects := lcpFrame_keepsSuggestions.lcpTypeAll (fun _ _ _ => id) (fun _ _ _ _ => id)
    (fun options _ offers => suggestsAccepted_lcpDecodeConfig options .req offers) depth
  have kept : ∀ state event, SuggestsAccepted state.layer → True →
      SuggestsAccepted (fsmStep (lcpType depth) state event).layer := fun state event offers _ =>
    respects.fsmStep state event (fun _ _ => trivial) offers
  exact Transition.invariant_run _ kept (suggestsAccepted_lcpConfigure start)
    (Transition.meets_of_forall _ (fun _ _ => trivial) _ events)

end Runs

end Mpd
