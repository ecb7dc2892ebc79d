import Mpd.Auth.Input

/-! A link with its authentication as `LcpInit` leaves it. -/

set_option autoImplicit false

namespace Mpd

/-- What `LcpInit` does not decide: the surroundings of the link, its configuration
and that of its authentication. -/
structure LinkSetup where
  env : Env
  type : Option PhysType
  originate : LinkOriginate
  conf : LinkConf
  self_discrim : Discrim
  authConf : AuthConf
  eapOptions : OptInfo

/-- A link without a device, with no option enabled and none acceptable. -/
def LinkSetup.bare : LinkSetup where
  env := {
    crypto := {
      md5 := id
      ntPasswordHash := id
      ntChallengeResponse := fun _ hash => hash
      generateNTResponse := fun _ _ _ hash => hash
      generateAuthenticatorResponse := fun hash _ _ _ _ => hash }
    generateMagic := fun _ => 1
    random := fun _ => 0
    bundJoin := fun _ => true
    authGetData := fun _ => none }
  type := none
  originate := .unknown
  conf := {
    mtu := 1500, mru := 1500, mrru := 1500, accmap := 0, ident := none
    options := { enable := 0, accept := 0 } }
  self_discrim := .null
  authConf := { authname := [], password := [], options := { enable := 0, accept := 0 } }
  eapOptions := { enable := 0, accept := 0 }

def authInit (setup : LinkSetup) : Auth where
  peer_to_self := 0
  self_to_peer := 0
  peer_to_self_alg := 0
  self_to_peer_alg := 0
  timer := false
  pap := { next_id := 0, retry := 0, timer := false }
  chap := {
    proto := 0, next_id := 0, retry := 0, chalTimer := false, respTimer := false, resp := none
    resp_id := 0 }
  eap := {
    next_id := 0, retry := 0, identTimer := false, reqTimer := false, identity := []
    peer_types := List.replicate eapNumTypes 0, want_types := List.replicate eapNumTypes 0
    options := setup.eapOptions }
  thread := none
  conf := setup.authConf
  params := authparamsInit

def lcpStateInit : LcpState where
  peer_mru := 0
  peer_accmap := 0
  peer_acfcomp := false
  peer_protocomp := false
  peer_magic := 0
  peer_auth := 0
  peer_alg := 0
  peer_mrru := 0
  peer_shortseq := false
  peer_discrim := .null
  phase := .dead
  need_reset := false
  peer_reject := 0
  peer_protos := List.replicate 5 none
  peer_ident := []
  want_mru := 0
  want_accmap := 0
  want_acfcomp := false
  want_protocomp := false
  want_magic := 0
  want_callback := false
  want_auth := 0
  want_alg := 0
  want_protos := List.replicate 5 none
  want_mrru := 0
  want_shortseq := false

def lcpEchoInterval : Int := 5
def lcpEchoTimeout : Int := 40

def lcpInit (setup : LinkSetup) : FsmWorld Link where
  fsm := { fsmInit with
    conf := { fsmInit.conf with echo_int := lcpEchoInterval, echo_max := lcpEchoTimeout } }
  layer := {
    env := setup.env
    type := setup.type
    originate := setup.originate
    conf := setup.conf
    self_discrim := setup.self_discrim
    openTimer := false
    rep := false
    joined_bund := false
    lcp := lcpStateInit
    auth := authInit setup
    magics := 0
    randoms := 0
    joins := 0
    trace := [] }
  ack := []
  nak := []
  rej := []
  log := []

end Mpd
