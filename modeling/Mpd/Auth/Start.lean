import Mpd.Link.Defs

/-! The half of `auth.c`, `pap.c`, `chap.c` and `eap.c` that does not depend on LCP: the
packets that start an authentication, the timers that repeat them, and the end of it. -/

set_option autoImplicit false

namespace Mpd

def papRequest : UInt8 := 1
def papAck : UInt8 := 2
def papNak : UInt8 := 3
def chapChallenge : UInt8 := 1
def chapResponse : UInt8 := 2
def chapSuccess : UInt8 := 3
def chapFailure : UInt8 := 4
def chapMsV1ChangePw : UInt8 := 5
def chapMsV2ChangePw : UInt8 := 7
def eapRequest : UInt8 := 1
def eapResponse : UInt8 := 2
def eapSuccess : UInt8 := 3
def eapFailure : UInt8 := 4

def eapTypeIdent : UInt8 := 1
def eapTypeNotif : UInt8 := 2
def eapTypeNak : UInt8 := 3
def eapTypeMd5Chal : UInt8 := 4

def eapNumTypes : Nat := 29
def eapConfRadius : Nat := 0
def eapConfMd5 : Nat := 1

def chapMaxName : Nat := 64
def chapMaxVal : Nat := 64

def authOutput (proto : UInt16) (code id : UInt8) (ptr : Bytes) (add_len : Bool)
    (eap_type : UInt8) (w : FsmWorld Link) : FsmWorld Link :=
  let payload := (if proto = protoEap then [eap_type] else []) ++
    (if add_len then [UInt8.ofNat ptr.length] else []) ++ ptr
  w.note (.frame proto
    (code :: id :: putBe16 (UInt16.ofNat (4 + payload.length)) ++ payload))

def authCleanup (w : FsmWorld Link) : FsmWorld Link :=
  w.setAuth { w.layer.auth with params := authparamsInit }

def PapInfo.stop (pap : PapInfo) : PapInfo := { pap with timer := false }

def ChapInfo.stop (chap : ChapInfo) : ChapInfo :=
  { chap with chalTimer := false, respTimer := false, resp := none }

def EapInfo.stop (eap : EapInfo) : EapInfo :=
  { eap with identTimer := false, reqTimer := false }

/-- `AuthStop`. A thread that is cancelled does not come to its finish handler. -/
def authStop (w : FsmWorld Link) : FsmWorld Link :=
  let a := w.layer.auth
  w.setAuth { a with
    timer := false, pap := a.pap.stop, chap := a.chap.stop, eap := a.eap.stop, thread := none }

def papSendRequest (w : FsmWorld Link) : FsmWorld Link :=
  let a := w.layer.auth
  let authname := a.conf.authname
  -- without a secret the source sends what happens to be in the buffer
  let password :=
    if a.conf.password ≠ [] then cstr authMaxAuthname a.conf.password
    else cstr authMaxAuthname ((w.layer.env.authGetData authname).getD [])
  let pkt := UInt8.ofNat authname.length :: authname ++
    UInt8.ofNat password.length :: password
  let w := w.setAuth { a with pap := { a.pap with next_id := a.pap.next_id + 1 } }
  authOutput protoPap papRequest a.pap.next_id pkt false 0 w

def papStart (which : AuthSide) (w : FsmWorld Link) : FsmWorld Link :=
  match which with
  | .peerToSelf => w
  | .selfToPeer =>
      papSendRequest (w.setAuth { w.layer.auth with
        pap := { next_id := 1, retry := authRetries, timer := true } })

def gIdBytes : Bytes := [0x3B, 0x1E, 0x68]

/-- `ChapGenRandom`: the identifying bytes carry the origination in their top bits. -/
def chapGenRandom (len : Nat) (w : FsmWorld Link) : Bytes × FsmWorld Link :=
  let l := w.layer
  let origination := (l.originate.num &&& 0x03) <<< 6
  let prefixed := gIdBytes.modifyHead (· ||| origination)
  let rest := (List.range (len - gIdBytes.length)).map fun k =>
    UInt8.ofNat (l.env.random (l.randoms + k))
  (prefixed.take len ++ rest,
    { w with layer := { l with randoms := l.randoms + (len - gIdBytes.length) } })

/-- The length of a challenge, `none` for an algorithm that `ChapSendChallenge` does
not know. Only that for MD5 is random. -/
def chapChallengeLength (alg : UInt8) (w : FsmWorld Link) : Option Nat × FsmWorld Link :=
  if alg = chapAlgMsoft then (some 8, w)
  else if alg = chapAlgMsoftv2 then (some 16, w)
  else if alg = chapAlgMd5 then
    let l := w.layer
    (some (l.env.random l.randoms % 32 + 16),
      { w with layer := { l with randoms := l.randoms + 1 } })
  else (none, w)

/-- The first half of `ChapSendChallenge`: the challenge is drawn only once. -/
def chapMakeChallenge (w : FsmWorld Link) : FsmWorld Link :=
  let a := w.layer.auth
  if a.params.chap.chal_data ≠ [] then w
  else
    match chapChallengeLength a.peer_to_self_alg w with
    | (none, w) => w.note (.abort .chapSendChallenge)
    | (some len, w) =>
        let drawn := chapGenRandom len w
        drawn.2.setAuth { a with
          params := { a.params with chap := { a.params.chap with chal_data := drawn.1 } } }

def chapSendChallenge (w : FsmWorld Link) : FsmWorld Link :=
  let w := chapMakeChallenge w
  let a := w.layer.auth
  let chal_data := a.params.chap.chal_data
  let w := w.setAuth { a with chap := { a.chap with next_id := a.chap.next_id + 1 } }
  authOutput a.chap.proto (if a.chap.proto = protoChap then chapChallenge else eapRequest)
    a.chap.next_id (UInt8.ofNat chal_data.length :: chal_data ++ a.conf.authname) false
    eapTypeMd5Chal w

/-- A new challenge, as `ChapStart` and `EapSendRequest` send it. -/
def chapFirstChallenge (proto : UInt16) (w : FsmWorld Link) : FsmWorld Link :=
  let a := w.layer.auth
  chapSendChallenge (w.setAuth { a with
    chap := { a.chap with proto, next_id := 1, retry := authRetries, chalTimer := true }
    params := { a.params with chap := { a.params.chap with chal_data := [] } } })

def chapStart (which : AuthSide) (w : FsmWorld Link) : FsmWorld Link :=
  let a := w.layer.auth
  match which with
  | .selfToPeer => w.setAuth { a with chap := { a.chap with proto := protoChap } }
  | .peerToSelf => chapFirstChallenge protoChap w

def chapSendResponse (w : FsmWorld Link) : FsmWorld Link :=
  let a := w.layer.auth
  match a.chap.resp with
  | none => w.note (.abort .chapSendResponse)
  | some resp =>
      let w := authOutput a.chap.proto
        (if a.chap.proto = protoChap then chapResponse else eapResponse) a.chap.resp_id resp
        false eapTypeMd5Chal w
      w.setAuth { a with
        chap := { a.chap with respTimer := w.layer.lcp.phase = .authenticate } }

def eapSendIdentRequest (w : FsmWorld Link) : FsmWorld Link :=
  let a := w.layer.auth
  let w := w.setAuth { a with eap := { a.eap with next_id := a.eap.next_id + 1 } }
  authOutput protoEap eapRequest a.eap.next_id [] false eapTypeIdent w

/-- The list of types with which `EapStart` fills its arrays. -/
def eapTypes (md5 : Bool) : List UInt8 :=
  (if md5 then eapTypeMd5Chal else 0) :: List.replicate (eapNumTypes - 1) 0

def eapStart (which : AuthSide) (w : FsmWorld Link) : FsmWorld Link :=
  let a := w.layer.auth
  let eap := { a.eap with
    want_types := eapTypes (a.eap.options.enabled eapConfMd5)
    peer_types := eapTypes (a.eap.options.acceptable eapConfMd5) }
  match which with
  | .selfToPeer => w.setAuth { a with eap }
  | .peerToSelf =>
      eapSendIdentRequest (w.setAuth { a with
        eap := { eap with next_id := 1, retry := authRetries, identTimer := true,
                          reqTimer := false } })

def eapIdentTimeout (w : FsmWorld Link) : FsmWorld Link :=
  let a := w.layer.auth
  let retry := a.eap.retry - 1
  if retry > 0 then
    eapSendIdentRequest (w.setAuth { a with eap := { a.eap with retry, identTimer := true } })
  else w.setAuth { a with eap := { a.eap with retry, identTimer := false } }

def eapRadiusSendMsg (w : FsmWorld Link) : FsmWorld Link :=
  w.note (.frame protoEap (w.layer.auth.params.eapmsg.getD []))

/-- The half of `AuthStart` for one direction. -/
def authStartSide (which : AuthSide) (proto : UInt16) (w : FsmWorld Link) : FsmWorld Link :=
  if proto = 0 then w
  else if proto = protoPap then papStart which w
  else if proto = protoChap then chapStart which w
  else if proto = protoEap then eapStart which w
  else w.note (.abort .authStart)

/-- `AuthStart` after it found that there is something to do. -/
def authStartBoth (w : FsmWorld Link) : FsmWorld Link :=
  let w := w.setAuth { w.layer.auth with timer := true }
  let w := authStartSide .selfToPeer w.layer.auth.self_to_peer w
  authStartSide .peerToSelf w.layer.auth.peer_to_self w

/-- The first half of `AuthStart`: what LCP negotiated, and no parameters yet. -/
def authNegotiated (w : FsmWorld Link) : FsmWorld Link :=
  let lcp := w.layer.lcp
  w.setAuth { w.layer.auth with
    params := authparamsInit
    self_to_peer := lcp.peer_auth
    peer_to_self := lcp.want_auth
    self_to_peer_alg := lcp.peer_alg
    peer_to_self_alg := lcp.want_alg }

end Mpd
