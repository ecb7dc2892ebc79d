import Mpd.Lcp.Phase

/-! The other half of `auth.c`, `pap.c`, `chap.c` and `eap.c`: what a link does with the
packets of an authentication, and how it comes to the verdict. -/

set_option autoImplicit false

namespace Mpd

def authMsgWelcome : Bytes := ascii "Welcome"
def authMsgInvalid : Bytes := ascii "Login incorrect"
def authMsgBadPacket : Bytes := ascii "Incorrectly formatted packet"
def authMsgNotAllowed : Bytes := ascii "Login not allowed for this account"
def authMsgNotExpected : Bytes := ascii "Unexpected packet"
def authMsgAcctDisab : Bytes := ascii "Account disabled"
def authMsgRestrHours : Bytes := ascii "Login hours restricted"

def mschapError : AuthFail → Nat × Bytes
  | .acctDisabled => (647, authMsgAcctDisab)
  | .noPermission => (649, authMsgNotAllowed)
  | .restrictedHours => (646, authMsgRestrHours)
  | .invalidPacket | .invalidLogin | .notExpected => (691, authMsgInvalid)

def authFailText : AuthFail → Bytes
  | .acctDisabled => authMsgAcctDisab
  | .noPermission => authMsgNotAllowed
  | .restrictedHours => authMsgRestrHours
  | .notExpected => authMsgNotExpected
  | .invalidPacket => authMsgBadPacket
  | .invalidLogin => authMsgInvalid

def authFailMsg (auth : AuthData) : Bytes :=
  if auth.proto = protoChap ∧ (auth.alg = chapAlgMsoft ∨ auth.alg = chapAlgMsoftv2) then
    match auth.mschap_error with
    | some message => cstr 64 message
    | none =>
        let error := mschapError auth.why_fail
        cstr 64 (ascii "E=" ++ ascii (toString error.1) ++ ascii " R=0 M=" ++
          auth.reply_message.getD error.2)
  else cstr 64 (auth.reply_message.getD (authFailText auth.why_fail))

def authFinish (T : FsmType Link) (which : AuthSide) (ok : Bool) (w : FsmWorld Link) :
    FsmWorld Link :=
  let w := w.note (.authFinish which ok)
  let a := w.layer.auth
  let a := match which with
    | .selfToPeer => { a with self_to_peer := 0 }
    | .peerToSelf => { a with peer_to_self := 0 }
  let w := w.setAuth a
  if ok then
    if a.peer_to_self = 0 ∧ a.self_to_peer = 0 then lcpAuthResult T true (authStop w) else w
  else lcpAuthResult T false (authStop w)

/-- `AuthDataNew`, as `AuthInput` fills it. -/
def authDataNew (l : Link) (proto : UInt16) (id code : UInt8) : AuthData where
  conf := l.auth.conf
  proto
  alg := 0
  id
  code
  eap_radius := false
  status := .undef
  why_fail := .invalidLogin
  reply_message := none
  mschap_error := none
  mschapv2resp := none
  finish := .papInputFinish
  params := l.auth.params

/-- `PapInputFinish` from one of its two labels on. -/
def papReply (T : FsmType Link) (auth : AuthData) (good : Bool) (w : FsmWorld Link) :
    FsmWorld Link :=
  if good then
    authFinish T .peerToSelf true
      (authOutput protoPap papAck auth.id (auth.reply_message.getD authMsgWelcome) true 0 w)
  else
    authFinish T .peerToSelf false
      (authOutput protoPap papNak auth.id (authFailMsg auth) true 0 w)

def papAgrees (params : AuthParams) : Bool :=
  params.authname == params.pap.peer_name && params.password == params.pap.peer_pass

/-- `PapInputFinish`. The parameters that it compares are those of the link. -/
def papInputFinish (T : FsmType Link) (auth : AuthData) (w : FsmWorld Link) : FsmWorld Link :=
  match auth.status with
  | .busy => w
  | .fail => papReply T auth false w
  | .success => papReply T auth true w
  | .undef =>
      if papAgrees w.layer.auth.params then papReply T auth true w
      else papReply T { auth with why_fail := .invalidLogin } false w

/-- The name without what stands before its last backslash. -/
def stripDomain (name : Bytes) : Bytes := (name.reverse.takeWhile (· ≠ 0x5C)).reverse

/-- `ChapGetSecret`. A hash that is already there is taken for that of the password. -/
def chapGetSecret (alg : UInt8) (password : Bytes) (w : FsmWorld Link) :
    Bytes × FsmWorld Link :=
  if alg = chapAlgMd5 then (password, w)
  else
    let a := w.layer.auth
    match a.params.nt_hash with
    | some nt_hash => (nt_hash, w)
    | none =>
        let nt_hash := w.layer.env.crypto.ntPasswordHash password
        (nt_hash, w.setAuth { a with params := { a.params with nt_hash := some nt_hash } })

def chapMsoftChalLen : Nat := 8
def chapMsoftv2ChalLen : Nat := 16

/-- `ChapHash`, after the peer challenge of MS-CHAPv2 is known. Only MD5 heeds the length of
the challenge: the others read on into what is `beyond` it in its buffer. -/
def chapHash (crypto : Crypto) (alg id : UInt8)
    (username secret challenge beyond peerChal : Bytes) : Option Bytes :=
  if alg = chapAlgMd5 then some (crypto.md5 (id :: secret ++ challenge))
  else if alg = chapAlgMsoft then
    some (List.replicate 24 0 ++
      crypto.ntChallengeResponse ((challenge ++ beyond).take chapMsoftChalLen) secret ++ [1])
  else if alg = chapAlgMsoftv2 then
    some (peerChal ++ List.replicate 8 0 ++
      crypto.generateNTResponse ((challenge ++ beyond).take chapMsoftv2ChalLen) peerChal
        (stripDomain username) secret ++ [0])
  else none

def chapNtHash (value : Bytes) : Bytes := (value.drop 24).take 24

def chapHashAgree (alg : UInt8) (self peer : Bytes) : Bool :=
  if alg = chapAlgMd5 then self == peer
  else if alg = chapAlgMsoft then
    self.length == 49 && peer.length == 49 && self.getD 48 0 == 1 && peer.getD 48 0 == 1 &&
      chapNtHash self == chapNtHash peer
  else if alg = chapAlgMsoftv2 then
    self.length == 49 && peer.length == 49 && chapNtHash self == chapNtHash peer
  else false

def chapAgrees (crypto : Crypto) (alg id : UInt8) (secret : Bytes) (params : AuthParams) :
    Bool :=
  params.chap.chal_data != [] &&
    (chapHash crypto alg id params.authname secret params.chap.chal_data []
      (params.chap.value.take 16)).any (chapHashAgree alg · params.chap.value)

def hexDigits (bytes : Bytes) : Bytes :=
  bytes.flatMap fun byte =>
    [ascii "0123456789ABCDEF" |>.getD (byte.toNat / 16) 0,
      ascii "0123456789ABCDEF" |>.getD (byte.toNat % 16) 0]

def chapAckMesg (l : Link) (auth : AuthData) : Bytes :=
  match auth.mschapv2resp, auth.reply_message with
  | some resp, reply =>
      if l.auth.peer_to_self_alg = chapAlgMsoftv2 then cstr 128 resp
      else cstr 128 (reply.getD authMsgWelcome)
  | none, reply => cstr 128 (reply.getD authMsgWelcome)

def chapValidMesg (l : Link) (auth : AuthData) : Bytes :=
  if l.auth.peer_to_self_alg = chapAlgMsoftv2 then
    let params := l.auth.params
    let authresp := l.env.crypto.generateAuthenticatorResponse (params.nt_hash.getD [])
      (chapNtHash params.chap.value) (params.chap.value.take 16) params.chap.chal_data
      params.authname
    let signed := ascii "S=" ++ hexDigits authresp
    match auth.reply_message with
    | some reply => cstr 128 (signed ++ ascii " M=" ++ reply)
    | none => cstr 128 signed
  else chapAckMesg l auth

/-- `ChapInputFinish` from one of its two labels on. -/
def chapReply (T : FsmType Link) (auth : AuthData) (good : Option Bytes) (w : FsmWorld Link) :
    FsmWorld Link :=
  let proto := w.layer.auth.chap.proto
  match good with
  | some ackMesg =>
      authFinish T .peerToSelf true
        (authOutput proto (if proto = protoChap then chapSuccess else eapSuccess) auth.id
          ackMesg false eapTypeMd5Chal w)
  | none =>
      authFinish T .peerToSelf false
        (authOutput proto (if proto = protoChap then chapFailure else eapFailure) auth.id
          (authFailMsg auth) false eapTypeMd5Chal w)

/-- The half of `ChapInputFinish` that compares the response. -/
def chapCompare (T : FsmType Link) (auth : AuthData) (w : FsmWorld Link) : FsmWorld Link :=
  let alg := w.layer.auth.peer_to_self_alg
  let got := chapGetSecret alg w.layer.auth.params.password w
  let w := got.2
  let params := w.layer.auth.params
  if alg ≠ chapAlgMd5 ∧ alg ≠ chapAlgMsoft ∧ alg ≠ chapAlgMsoftv2 then
    chapReply T { auth with why_fail := .invalidPacket } none w
  else if chapAgrees w.layer.env.crypto alg auth.id got.1 params then
    chapReply T auth (some (chapValidMesg w.layer auth)) w
  else chapReply T { auth with why_fail := .invalidLogin } none w

def chapInputFinish (T : FsmType Link) (auth : AuthData) (w : FsmWorld Link) : FsmWorld Link :=
  match auth.status with
  | .busy => w
  | .fail => chapReply T auth none w
  | .success => chapReply T auth (some (chapAckMesg w.layer auth)) w
  | .undef => chapCompare T auth w

/-- The half of `EapRadiusProxyFinish` that answers the peer. -/
def eapRadiusReply (auth : AuthData) (w : FsmWorld Link) : FsmWorld Link :=
  let a := w.layer.auth
  let code := if auth.status = .success then eapSuccess else eapFailure
  let eapmsg := a.params.eapmsg.getD (code :: auth.id :: putBe16 4)
  let w := eapRadiusSendMsg (w.setAuth { a with
    eap := { a.eap with retry := authRetries }
    params := { a.params with eapmsg := some eapmsg } })
  if auth.status = .undef then
    w.setAuth { w.layer.auth with eap := { w.layer.auth.eap with reqTimer := true } }
  else w

def eapRadiusProxyFinish (T : FsmType Link) (auth : AuthData) (w : FsmWorld Link) :
    FsmWorld Link :=
  let w := eapRadiusReply auth w
  match auth.status with
  | .fail => authFinish T .peerToSelf false w
  | .success => authFinish T .peerToSelf true w
  | _ => w

/-- The call `auth->finish(l, auth)`. -/
def authCallFinish (T : FsmType Link) (auth : AuthData) : FsmWorld Link → FsmWorld Link :=
  match auth.finish with
  | .papInputFinish => papInputFinish T auth
  | .chapInputFinish => chapInputFinish T auth
  | .eapRadiusProxyFinish => eapRadiusProxyFinish T auth

inductive LinkMatch where
  | drop
  | forward (rept : Bytes)
  deriving DecidableEq, Repr

/-- The answers that `AuthAsyncStart` gets: the link action, whether the repeater can
be created, whether the user is logged in too often, and whether a thread started. The
`stack` is what the array `value` of `ChapInput` holds before a challenge is copied to it. -/
structure AsyncAnswers where
  action : Option LinkMatch
  repCreated : Bool
  loginsExceeded : Bool
  started : Bool
  stack : Vector UInt8 chapMaxVal
  deriving DecidableEq, Repr

/-- The connection is forwarded to a repeater, which kills LCP. -/
def authForward (T : FsmType Link) (rept : Bytes) (repCreated : Bool) (w : FsmWorld Link) :
    FsmWorld Link :=
  if repCreated then
    let w := { w with layer := { w.layer with rep := true } }.note (.repeater rept)
    fsmClose T (fsmDown T w)
  else w.note .physClose

/-- `AuthAsyncStart` after the check of the link action, with `AuthPreChecks`. -/
def authAsyncProcess (T : FsmType Link) (answers : AsyncAnswers) (auth : AuthData)
    (w : FsmWorld Link) : FsmWorld Link :=
  if w.layer.auth.thread.isSome then authCallFinish T { auth with status := .busy } w
  else if auth.params.authname = [] ∨ answers.loginsExceeded then
    authCallFinish T { auth with status := .fail, why_fail := .invalidLogin } w
  else if answers.started then
    (w.setAuth { w.layer.auth with thread := some auth }).note (.authAsyncStart auth)
  else authCallFinish T { auth with status := .fail, why_fail := .notExpected } w

def authAsyncStart (T : FsmType Link) (answers : AsyncAnswers) (auth : AuthData)
    (w : FsmWorld Link) : FsmWorld Link :=
  match answers.action with
  | some .drop => w.note .physClose
  | some (.forward rept) => authForward T rept answers.repCreated w
  | none => authAsyncProcess T answers auth w

def papParse (pkt : Bytes) : Option (Bytes × Bytes) :=
  match pkt with
  | [] => none
  | name_len :: rest =>
      match rest.drop name_len.toNat with
      | [] => none
      | pass_len :: pass =>
          if pass.length < pass_len.toNat then none
          else some (rest.take name_len.toNat, pass.take pass_len.toNat)

def chapParsePkt (pkt : Bytes) (len : Nat) : Option (Bytes × Bytes) :=
  let val_len := (pkt.getD 0 0).toNat
  if pkt = [] ∨ len < 1 ∨ val_len < 1 ∨ val_len > chapMaxVal ∨ len < val_len + 1 ∨
      len - val_len - 1 > chapMaxName then none
  else
    some (((pkt.drop (1 + val_len)).take (len - val_len - 1)).takeWhile (· ≠ 0),
      (pkt.drop 1).take val_len)

/-- The challenge carries our identification with the origination of our own side. -/
def chapIdFails (originate : LinkOriginate) (value : Bytes) : Bool :=
  let top := value.getD 0 0
  let chalOrig := (top >>> 6) &&& 0x03
  if value.length < gIdBytes.length ∨ (top &&& 0x3F) :: (value.drop 1).take 2 ≠ gIdBytes then false
  else
    match originate with
    | .local => chalOrig != LinkOriginate.remote.num
    | .remote => chalOrig != LinkOriginate.local.num
    | .unknown => false

def chapPassword (l : Link) (auth : AuthData) : Option Bytes :=
  if auth.conf.authname = auth.params.authname ∧ auth.conf.password ≠ [] then
    some (cstr authMaxAuthname auth.conf.password)
  else (l.env.authGetData auth.params.authname).map (cstr authMaxAuthname)

/-- The check of a challenge: the name we use to authenticate ourselves, and the value. -/
def chapCheckChallenge (auth : AuthData) (originate : LinkOriginate) (pkt : Bytes)
    (len : Nat) : Option (Bytes × Bytes) :=
  match chapParsePkt pkt len with
  | none => none
  | some (peer_name, value) =>
      if value = auth.params.chap.chal_data ∨ chapIdFails originate value then none
      else some (if auth.conf.authname ≠ [] then auth.conf.authname else peer_name, value)

/-- The hash that answers a challenge, where there is a secret for the name. -/
def chapAnswer (auth : AuthData) (name value beyond : Bytes) (w : FsmWorld Link) :
    Option Bytes × FsmWorld Link :=
  match chapPassword w.layer auth with
  | none => (none, w)
  | some password =>
      let alg := w.layer.auth.self_to_peer_alg
      let got := chapGetSecret alg password w
      let drawn := if alg = chapAlgMsoftv2 then chapGenRandom 16 got.2 else ([], got.2)
      (chapHash w.layer.env.crypto alg auth.id name got.1 value beyond drawn.1, drawn.2)

def AuthData.named (auth : AuthData) (name : Bytes) : AuthData :=
  { auth with params := { auth.params with authname := cstr authMaxAuthname name } }

def chapRecvChallenge (stack : Vector UInt8 chapMaxVal) (auth : AuthData) (pkt : Bytes)
    (len : Nat) (w : FsmWorld Link) : FsmWorld Link :=
  match chapCheckChallenge auth w.layer.originate pkt len with
  | none => w
  | some (name, value) =>
      let answer := chapAnswer (auth.named name) name value (stack.toList.drop value.length) w
      match answer.1 with
      | none => answer.2
      | some hash =>
          let a := answer.2.layer.auth
          chapSendResponse (answer.2.setAuth { a with chap := { a.chap with
            resp := some (UInt8.ofNat hash.length :: hash ++ name), resp_id := auth.id } })

def chapRecvResponse (T : FsmType Link) (answers : AsyncAnswers) (auth : AuthData)
    (pkt : Bytes) (len : Nat) (w : FsmWorld Link) : FsmWorld Link :=
  let a := w.layer.auth
  let auth := { auth with alg := a.peer_to_self_alg }
  let w := w.setAuth { a with chap := { a.chap with chalTimer := false } }
  match chapParsePkt pkt len with
  | none => chapInputFinish T { auth with why_fail := .invalidPacket } w
  | some (peer_name, value) =>
      let microsoft := a.peer_to_self_alg = chapAlgMsoft ∨ a.peer_to_self_alg = chapAlgMsoftv2
      let name :=
        if ¬ w.layer.conf.options.enabled linkConfMsdomain ∧ microsoft then stripDomain peer_name
        else peer_name
      authAsyncStart T answers { auth with
        finish := .chapInputFinish
        params := { auth.params with
          chap := { auth.params.chap with value }
          authname := cstr authMaxAuthname name } } w

def chapRecvResult (T : FsmType Link) (auth : AuthData) (w : FsmWorld Link) : FsmWorld Link :=
  let a := w.layer.auth
  let w := w.setAuth { a with chap := { a.chap with respTimer := false, resp := none } }
  if a.self_to_peer ≠ protoChap ∨ w.layer.lcp.phase ≠ .authenticate then w
  else authFinish T .selfToPeer (auth.code = chapSuccess) w

/-- The label `badResponse` of `ChapInput`. -/
def chapBadResponse (T : FsmType Link) (auth : AuthData) (w : FsmWorld Link) : FsmWorld Link :=
  authFinish T .peerToSelf false
    (authOutput auth.proto (if auth.proto = protoChap then chapFailure else eapFailure) auth.id
      (authFailMsg { auth with why_fail := .notExpected }) false eapTypeMd5Chal w)

/-- The protocol of the packet becomes that of the answers. -/
def chapEnter (proto : UInt16) (w : FsmWorld Link) : FsmWorld Link :=
  w.setAuth { w.layer.auth with chap := { w.layer.auth.chap with proto } }

def chapInput (T : FsmType Link) (answers : AsyncAnswers) (auth : AuthData) (pkt : Bytes)
    (len : Nat) (w : FsmWorld Link) : FsmWorld Link :=
  let a := w.layer.auth
  let w := chapEnter auth.proto w
  if auth.code = chapChallenge then chapRecvChallenge answers.stack auth pkt len w
  else if auth.code = chapResponse then chapRecvResponse T answers auth pkt len w
  else if auth.code = chapSuccess ∨ auth.code = chapFailure then
    chapRecvResult T { auth with alg := a.self_to_peer_alg } w
  else if auth.code = chapMsV1ChangePw ∨ auth.code = chapMsV2ChangePw then
    chapBadResponse T auth w
  else w

def eapTypeSupported (type : UInt8) : Bool :=
  type = eapTypeIdent || type = eapTypeNotif || type = eapTypeNak || type = eapTypeMd5Chal

/-- `EapSendRequest`. A type that is given is requested, and the first entry of the
list is used up for it. -/
def eapSendRequest (T : FsmType Link) (type : UInt8) (w : FsmWorld Link) : FsmWorld Link :=
  let a := w.layer.auth
  let found := if type = 0 then a.eap.want_types.findIdx? (· ≠ 0) else some 0
  match found with
  | none => authFinish T .peerToSelf false w
  | some i =>
      let req_type := if type = 0 then a.eap.want_types.getD i 0 else type
      let a := { a with eap := { a.eap with want_types := a.eap.want_types.set i 0 } }
      if req_type = eapTypeMd5Chal then
        chapFirstChallenge protoEap (w.setAuth { a with peer_to_self_alg := chapAlgMd5 })
      else authFinish T .peerToSelf false (w.setAuth a)

def eapSendNak (T : FsmType Link) (id : UInt8) (w : FsmWorld Link) : FsmWorld Link :=
  let a := w.layer.auth
  match a.eap.peer_types.findIdx? (· ≠ 0) with
  | none => authFinish T .selfToPeer false w
  | some i =>
      authOutput protoEap eapResponse id [a.eap.peer_types.getD i 0] false eapTypeNak
        (w.setAuth { a with eap := { a.eap with peer_types := a.eap.peer_types.set i 0 } })

def eapRadiusProxy (T : FsmType Link) (answers : AsyncAnswers) (auth : AuthData)
    (pkt : Bytes) (len : Nat) (w : FsmWorld Link) : FsmWorld Link :=
  let a := w.layer.auth
  let ident := auth.code = eapResponse ∧ pkt.getD 0 0 = eapTypeIdent
  let eap := { a.eap with
    identTimer := if ident then false else a.eap.identTimer
    identity := if ident then cstr authMaxAuthname ((pkt.drop 1).take (len - 1)) else a.eap.identity
    reqTimer := false }
  authAsyncStart T answers { auth with
    eap_radius := true
    finish := .eapRadiusProxyFinish
    params := { auth.params with
      eapmsg := some (auth.code :: auth.id :: putBe16 (UInt16.ofNat (len + 4)) ++ pkt.take len)
      authname := cstr authMaxAuthname eap.identity } } (w.setAuth { a with eap })

def eapRecvRequest (T : FsmType Link) (answers : AsyncAnswers) (auth : AuthData)
    (pkt : Bytes) (len : Nat) (w : FsmWorld Link) : FsmWorld Link :=
  let a := w.layer.auth
  let type := pkt.getD 0 0
  if type = eapTypeIdent then
    authOutput protoEap eapResponse auth.id auth.conf.authname false eapTypeIdent w
  else if type = eapTypeNak ∨ type = eapTypeNotif then authFinish T .selfToPeer false w
  else if eapTypeSupported type ∧ type ∈ a.eap.peer_types then
    chapInput T answers { auth with code := chapChallenge } (pkt.drop 1) ((len + 65535) % 65536)
      (w.setAuth { a with self_to_peer_alg := chapAlgMd5 })
  else eapSendNak T auth.id w

def eapRecvResponse (T : FsmType Link) (answers : AsyncAnswers) (auth : AuthData)
    (pkt : Bytes) (len : Nat) (w : FsmWorld Link) : FsmWorld Link :=
  let a := w.layer.auth
  let type := pkt.getD 0 0
  if type = eapTypeIdent then
    eapSendRequest T 0 (w.setAuth { a with eap := { a.eap with identTimer := false } })
  else if type = eapTypeNotif then w
  else if type = eapTypeNak then
    -- the source reads the type through a null pointer when there is none
    if len < 2 then w.note (.abort .eapNak)
    else
      let desired := pkt.getD 1 0
      eapSendRequest T (if eapTypeSupported desired then desired else 0) w
  else if type = eapTypeMd5Chal then
    chapInput T answers { auth with code := chapResponse } (pkt.drop 1) ((len + 65535) % 65536) w
  else authFinish T .peerToSelf false w

def eapInput (T : FsmType Link) (answers : AsyncAnswers) (auth : AuthData) (pkt : Bytes)
    (len : Nat) (w : FsmWorld Link) : FsmWorld Link :=
  if w.layer.auth.eap.options.enabled eapConfRadius then eapRadiusProxy T answers auth pkt len w
  else if auth.code = eapRequest then eapRecvRequest T answers auth pkt len w
  else if auth.code = eapResponse then eapRecvResponse T answers auth pkt len w
  else if auth.code = eapSuccess then authFinish T .selfToPeer true w
  else if auth.code = eapFailure then authFinish T .selfToPeer false w
  else authFinish T .peerToSelf false w

/-- What `AuthInput` reads off a packet: the code, the id, all the bytes after the
header, and how many of them count. -/
def authHeader : Bytes → Option (UInt8 × UInt8 × Bytes × Nat)
  | code :: id :: high :: low :: pkt =>
      let len := (pkt.length + 4) % 65536
      let fsmh_len := (be16 high low).toNat
      if len < 4 ∨ (len > fsmh_len ∧ fsmh_len < 4) then none
      else some (code, id, pkt, min len fsmh_len - 4)
  | _ => none

end Mpd
