import Mpd.Auth.Reflection

/-! Which methods the authenticator requests in EAP, as the peer answers with
identities and Naks. -/

set_option autoImplicit false

namespace Mpd.EapMethods

/-- What `EapSendRequest` makes of its argument: it sends the request of a
method, knows no such method, or has run out of types. -/
inductive Choice where
  | request (method : UInt8)
  | unimplemented (method : UInt8)
  | ranOut
  deriving DecidableEq, Repr

def choose (type : UInt8) (eap : EapInfo) : Choice :=
  let found := if type = 0 then eap.want_types.findIdx? (· ≠ 0) else some 0
  match found with
  | none => .ranOut
  | some i =>
      let req_type := if type = 0 then eap.want_types.getD i 0 else type
      if req_type = eapTypeMd5Chal then .request req_type else .unimplemented req_type

def usedUp (type : UInt8) (eap : EapInfo) : EapInfo :=
  let found := if type = 0 then eap.want_types.findIdx? (· ≠ 0) else some 0
  match found with
  | none => eap
  | some i => { eap with want_types := eap.want_types.set i 0 }

theorem eapSendRequest_eq (T : FsmType Link) (type : UInt8) (w : FsmWorld Link) :
    let a := w.layer.auth
    let a := { a with eap := usedUp type a.eap }
    eapSendRequest T type w =
      match choose type w.layer.auth.eap with
      | .request _ => chapFirstChallenge protoEap (w.setAuth { a with peer_to_self_alg := chapAlgMd5 })
      | .unimplemented _ => authFinish T .peerToSelf false (w.setAuth a)
      | .ranOut => authFinish T .peerToSelf false w := by
  unfold eapSendRequest choose usedUp
  dsimp only
  cases found : if type = 0 then w.layer.auth.eap.want_types.findIdx? (· ≠ 0) else some 0 with
  | none => rfl
  | some i =>
      dsimp only
      generalize (if type = 0 then w.layer.auth.eap.want_types.getD i 0 else type) = req_type
      by_cases md5 : req_type = eapTypeMd5Chal
      · rw [if_pos md5, if_pos md5]
      · rw [if_neg md5, if_neg md5]

/-- The answers of the peer and the timer of the Identity request. -/
inductive Event where
  | identity (name : Bytes)
  | nak (desired : UInt8) (more : Bytes)
  | identTimeout
  deriving DecidableEq, Repr

def Event.payload : Event → Bytes
  | identity name => eapTypeIdent :: name
  | nak desired more => eapTypeNak :: desired :: more
  | identTimeout => []

/-- The argument with which the event makes `EapInput` call `EapSendRequest`. In the
proxy mode the answers go to the RADIUS server instead. -/
def Event.wish (radius : Bool) : Event → Option UInt8
  | identity _ => if radius then none else some 0
  | nak desired _ =>
      if radius then none else some (if eapTypeSupported desired then desired else 0)
  | identTimeout => none

def Event.isIdentity : Event → Bool
  | identity _ => true
  | _ => false

def step (T : FsmType Link) (answers : AsyncAnswers) (id : UInt8) (w : FsmWorld Link)
    (event : Event) : FsmWorld Link :=
  match event with
  | .identTimeout => eapIdentTimeout w
  | _ =>
      eapInput T answers (authDataNew w.layer protoEap id eapResponse) event.payload
        event.payload.length w

/-- What came of an authentication: the methods that were requested, in their
order, and whether it ended with a duplicate of an Identity response. -/
structure Record where
  requests : List UInt8
  duplicateFailed : Bool
  deriving DecidableEq, Repr

/-- The events of one authentication, up to the one that makes it fail.
`identified` tells whether an Identity response came in before. -/
def run (T : FsmType Link) (answers : AsyncAnswers) (id : UInt8) (radius : Bool) :
    List Event → Bool → FsmWorld Link → Record
  | [], _, _ => ⟨[], false⟩
  | event :: events, identified, w =>
      let next := run T answers id radius events (identified || event.isIdentity)
        (step T answers id w event)
      match (event.wish radius).map (choose · w.layer.auth.eap) with
      | none => next
      | some (.request method) => { next with requests := method :: next.requests }
      | some _ => ⟨[], identified && event.isIdentity⟩

/-- A sequence of answers that the code handles well. `want` tells whether the
list still has a method. There is no second Identity response, and no Nak asks
for the method once the list is empty. -/
def Orderly : Bool → Bool → List Event → Prop
  | _, _, [] => True
  | want, identified, .identTimeout :: events => Orderly want identified events
  | want, identified, .identity _ :: events =>
      identified = false ∧ (want = true → Orderly false true events)
  | want, identified, .nak desired _ :: events =>
      if desired = eapTypeMd5Chal then want = true ∧ Orderly false identified events
      else if eapTypeSupported desired then True
      else want = true → Orderly false identified events

/-- Every request is for a method that is enabled, and none is made twice. -/
def Selected (enabled : Bool) (requests : List UInt8) : Prop :=
  (∀ method ∈ requests, method = eapTypeMd5Chal ∧ enabled = true) ∧ requests.Nodup

section Step

variable {T : FsmType Link} {answers : AsyncAnswers} {id : UInt8} {w : FsmWorld Link}

/-- What the selection of a method goes by: the list of wanted types and the
options, which have the proxy mode switched off. -/
structure Listed (want enabled : Bool) (eap : EapInfo) : Prop where
  want_types : eap.want_types = eapTypes want
  md5 : eap.options.enabled eapConfMd5 = enabled
  radius : eap.options.enabled eapConfRadius = false

theorem eap_chapMakeChallenge (w : FsmWorld Link) :
    (chapMakeChallenge w).layer.auth.eap = w.layer.auth.eap := by
  unfold chapMakeChallenge chapChallengeLength
  dsimp only
  split_ifs <;> rfl

theorem eap_chapFirstChallenge (proto : UInt16) (w : FsmWorld Link) :
    (chapFirstChallenge proto w).layer.auth.eap = w.layer.auth.eap := by
  unfold chapFirstChallenge chapSendChallenge
  exact eap_chapMakeChallenge _

theorem Listed.identTimeout {want enabled : Bool} (listed : Listed want enabled w.layer.auth.eap) :
    Listed want enabled (eapIdentTimeout w).layer.auth.eap := by
  unfold eapIdentTimeout
  dsimp only
  split_ifs
  · exact ⟨listed.want_types, listed.md5, listed.radius⟩
  · exact ⟨listed.want_types, listed.md5, listed.radius⟩

theorem choose_zero {want enabled : Bool} {eap : EapInfo} (listed : Listed want enabled eap) :
    choose 0 eap = if want then .request eapTypeMd5Chal else .ranOut := by
  unfold choose
  rw [listed.want_types]
  cases want <;> decide

theorem choose_md5 (eap : EapInfo) : choose eapTypeMd5Chal eap = .request eapTypeMd5Chal := rfl

theorem choose_other {type : UInt8} (given : type ≠ 0) (other : type ≠ eapTypeMd5Chal)
    (eap : EapInfo) : choose type eap = .unimplemented type := by
  unfold choose
  simp only [if_neg given, if_neg other]

/-- Whichever type is requested, the list is empty afterwards. -/
theorem Listed.usedUp {want enabled : Bool} {eap : EapInfo} (listed : Listed want enabled eap)
    {type method : UInt8} (requested : choose type eap = .request method) :
    Listed false enabled (EapMethods.usedUp type eap) := by
  have emptied : (eapTypes want).set 0 0 = eapTypes false := by
    cases want <;> decide
  have first : (if type = 0 then eap.want_types.findIdx? (· ≠ 0) else some 0) = some 0 := by
    by_cases zero : type = 0
    · rw [zero, choose_zero listed] at requested
      cases want with
      | false => cases requested
      | true =>
          rw [if_pos zero, listed.want_types]
          decide
    · rw [if_neg zero]
  unfold EapMethods.usedUp
  rw [first]
  refine ⟨?_, listed.md5, listed.radius⟩
  dsimp only
  rw [listed.want_types]
  exact emptied

theorem Listed.sendRequest {want enabled : Bool} (listed : Listed want enabled w.layer.auth.eap)
    {type method : UInt8} (requested : choose type w.layer.auth.eap = .request method) :
    Listed false enabled (eapSendRequest T type w).layer.auth.eap := by
  have used := listed.usedUp requested
  rw [eapSendRequest_eq, requested]
  dsimp only
  rw [eap_chapFirstChallenge]
  exact used

theorem eapInput_response (local_ : w.layer.auth.eap.options.enabled eapConfRadius = false)
    (payload : Bytes) :
    eapInput T answers (authDataNew w.layer protoEap id eapResponse) payload payload.length w =
      eapRecvResponse T answers (authDataNew w.layer protoEap id eapResponse) payload
        payload.length w := by
  have request : (authDataNew w.layer protoEap id eapResponse).code ≠ eapRequest := by
    change eapResponse ≠ eapRequest
    decide
  have response : (authDataNew w.layer protoEap id eapResponse).code = eapResponse := rfl
  unfold eapInput
  rw [local_, if_neg (by decide), if_neg request, if_pos response]

theorem step_identity (name : Bytes)
    (local_ : w.layer.auth.eap.options.enabled eapConfRadius = false) :
    step T answers id w (.identity name) = eapSendRequest T 0
      (w.setAuth { w.layer.auth with eap := { w.layer.auth.eap with identTimer := false } }) := by
  change eapInput T answers (authDataNew w.layer protoEap id eapResponse) _ _ w = _
  rw [eapInput_response local_]
  unfold eapRecvResponse
  exact if_pos rfl

theorem step_nak (desired : UInt8) (more : Bytes)
    (local_ : w.layer.auth.eap.options.enabled eapConfRadius = false) :
    step T answers id w (.nak desired more) =
      eapSendRequest T (if eapTypeSupported desired then desired else 0) w := by
  have long : ¬ (Event.nak desired more).payload.length < 2 := by
    simp [Event.payload]
  have type : (Event.nak desired more).payload.getD 0 0 = eapTypeNak := rfl
  change eapInput T answers (authDataNew w.layer protoEap id eapResponse) _ _ w = _
  rw [eapInput_response local_]
  unfold eapRecvResponse
  dsimp only
  rw [type, if_neg (by decide), if_neg (by decide), if_pos rfl, if_neg long]
  rfl

theorem Listed.step {want enabled : Bool} (listed : Listed want enabled w.layer.auth.eap)
    {event : Event} {type method : UInt8} (wish : event.wish false = some type)
    (requested : choose type w.layer.auth.eap = .request method) :
    Listed false enabled (step T answers id w event).layer.auth.eap := by
  cases event with
  | identTimeout => cases wish
  | identity name =>
      obtain rfl : (0 : UInt8) = type := Option.some.inj wish
      rw [step_identity name listed.radius]
      have listed' : Listed want enabled (w.setAuth { w.layer.auth with
          eap := { w.layer.auth.eap with identTimer := false } }).layer.auth.eap :=
        ⟨listed.want_types, listed.md5, listed.radius⟩
      exact listed'.sendRequest requested
  | nak desired more =>
      obtain rfl : (if eapTypeSupported desired then desired else 0) = type := Option.some.inj wish
      rw [step_nak desired more listed.radius]
      exact listed.sendRequest requested

end Step

section Runs

variable {T : FsmType Link} {answers : AsyncAnswers} {id : UInt8}

/-- The requests made so far fit the list: none while it has its method, and the
enabled method once it was used up. -/
structure Before (want identified enabled : Bool) (requests : List UInt8) : Prop where
  unused : want = true → enabled = true ∧ identified = false ∧ requests = []
  used : want = false → requests = if enabled then [eapTypeMd5Chal] else []

theorem Before.selected {want identified enabled : Bool} {requests : List UInt8}
    (before : Before want identified enabled requests) : Selected enabled requests := by
  cases want with
  | true =>
      rw [(before.unused rfl).2.2]
      exact ⟨nofun, List.nodup_nil⟩
  | false =>
      rw [before.used rfl]
      cases enabled with
      | true => exact ⟨by simp, by simp⟩
      | false => exact ⟨nofun, List.nodup_nil⟩

theorem Before.request {identified enabled : Bool} {requests : List UInt8}
    (before : Before true identified enabled requests) (identified' : Bool) :
    Before false identified' enabled (requests ++ [eapTypeMd5Chal]) := by
  obtain ⟨on, -, none⟩ := before.unused rfl
  refine ⟨nofun, ?_⟩
  intro _
  rw [none, on]
  rfl

theorem Before.not_selected {identified enabled : Bool} {requests later : List UInt8}
    (before : Before false identified enabled requests) :
    ¬ Selected enabled (requests ++ eapTypeMd5Chal :: later) := by
  rintro ⟨enabled', distinct⟩
  have on := (enabled' eapTypeMd5Chal (by simp)).2
  rw [before.used rfl, on, if_pos rfl] at distinct
  simp at distinct

/-- A run goes well from a state on if and only if the rest of it is orderly. -/
theorem run_selected_iff (events : List Event) {want identified enabled : Bool}
    {w : FsmWorld Link} {requests : List UInt8} (listed : Listed want enabled w.layer.auth.eap)
    (before : Before want identified enabled requests) :
    Selected enabled (requests ++ (run T answers id false events identified w).requests) ∧
        (run T answers id false events identified w).duplicateFailed = false ↔
      Orderly want identified events := by
  induction events generalizing want identified w requests with
  | nil =>
      simp only [run, Orderly, List.append_nil, and_true, iff_true]
      exact before.selected
  | cons event events ih =>
      -- A request goes on to a state with an empty list.
      have requesting {type : UInt8} (wish : event.wish false = some type)
          (chosen : choose type w.layer.auth.eap = .request eapTypeMd5Chal) (wanted : want = true) :
          Selected enabled (requests ++ (run T answers id false (event :: events) identified
              w).requests) ∧
            (run T answers id false (event :: events) identified w).duplicateFailed = false ↔
          Orderly false (identified || event.isIdentity) events := by
        subst wanted
        have left : Listed false enabled (step T answers id w event).layer.auth.eap :=
          listed.step wish chosen
        have next := ih left
          (before.request (identified || event.isIdentity))
        simp only [run, wish, Option.map_some, chosen]
        rw [List.append_cons]
        exact next
      -- The authentication ends here.
      have ending {type : UInt8} {choice : Choice} (wish : event.wish false = some type)
          (chosen : choose type w.layer.auth.eap = choice)
          (fails : ∀ method, choice ≠ .request method) :
          Selected enabled (requests ++ (run T answers id false (event :: events) identified
              w).requests) ∧
            (run T answers id false (event :: events) identified w).duplicateFailed = false ↔
          (identified && event.isIdentity) = false := by
        simp only [run, wish, Option.map_some, chosen]
        cases choice with
        | request method => exact absurd rfl (fails method)
        | unimplemented method => simp [before.selected]
        | ranOut => simp [before.selected]
      cases event with
      | identTimeout =>
          have next := ih (listed.identTimeout) before
          simpa only [run, Event.wish, Option.map_none, Event.isIdentity, Bool.or_false, step,
            Orderly] using next
      | identity name =>
          have chosen := choose_zero listed
          cases want with
          | true =>
              obtain ⟨-, fresh, -⟩ := before.unused rfl
              rw [requesting rfl chosen rfl]
              simp [Orderly, fresh, Event.isIdentity]
          | false =>
              rw [ending rfl chosen nofun]
              simp [Orderly, Event.isIdentity]
      | nak desired more =>
          by_cases md5 : desired = eapTypeMd5Chal
          · subst md5
            have wish : (Event.nak eapTypeMd5Chal more).wish false = some eapTypeMd5Chal := rfl
            cases want with
            | true =>
                rw [requesting wish (choose_md5 _) rfl]
                simp [Orderly, Event.isIdentity]
            | false =>
                obtain ⟨later, again⟩ : ∃ later, (run T answers id false
                    (.nak eapTypeMd5Chal more :: events) identified w).requests =
                      eapTypeMd5Chal :: later := by
                  simp only [run, wish, Option.map_some, choose_md5]
                  exact ⟨_, rfl⟩
                rw [again]
                constructor
                · rintro ⟨selected, -⟩
                  exact absurd selected before.not_selected
                · intro orderly
                  simp [Orderly] at orderly
          · by_cases supported : eapTypeSupported desired = true
            · have given : desired ≠ 0 := by
                intro zero
                rw [zero] at supported
                revert supported
                decide
              have wish : (Event.nak desired more).wish false = some desired := by
                simp [Event.wish, supported]
              rw [ending wish (choose_other given md5 _) nofun]
              simp [Orderly, md5, supported, Event.isIdentity]
            · have wish : (Event.nak desired more).wish false = some 0 := by
                simp [Event.wish, supported]
              have chosen := choose_zero listed
              cases want with
              | true =>
                  rw [requesting wish chosen rfl]
                  simp [Orderly, md5, supported, Event.isIdentity]
              | false =>
                  rw [ending wish chosen nofun]
                  simp [Orderly, md5, supported, Event.isIdentity]

/-- The proxy mode leaves the selection alone. -/
theorem run_radius (events : List Event) (identified : Bool) (w : FsmWorld Link) :
    run T answers id true events identified w = ⟨[], false⟩ := by
  induction events generalizing identified w with
  | nil => rfl
  | cons event events ih =>
      have wish : event.wish true = none := by cases event <;> rfl
      simp only [run, wish, Option.map_none]
      exact ih _ _

/-- In the authentication that starts when `EapStart` is called for the peer, only
enabled methods are requested, each at most once, and no duplicate of an Identity
response makes it fail, if and only if EAP is left to the RADIUS server or the
answers of the peer are orderly. -/
theorem eapMethods_selected_iff (T : FsmType Link) (answers : AsyncAnswers) (id : UInt8)
    (w : FsmWorld Link) (events : List Event) :
    let enabled := w.layer.auth.eap.options.enabled eapConfMd5
    let radius := w.layer.auth.eap.options.enabled eapConfRadius
    let record := run T answers id radius events false (eapStart .peerToSelf w)
    Selected enabled record.requests ∧ record.duplicateFailed = false ↔
      radius = true ∨ Orderly enabled false events := by
  intro enabled radius record
  cases proxy : radius with
  | true =>
      have nothing : record = ⟨[], false⟩ := by
        change run T answers id radius events false _ = _
        rw [proxy]
        exact run_radius events false _
      rw [nothing]
      exact ⟨fun _ => .inl rfl, fun _ => ⟨⟨nofun, List.nodup_nil⟩, rfl⟩⟩
  | false =>
      have listed : Listed enabled enabled (eapStart .peerToSelf w).layer.auth.eap :=
        ⟨rfl, rfl, proxy⟩
      have before : Before enabled false enabled [] := by
        refine ⟨fun on => ⟨on, rfl, rfl⟩, ?_⟩
        intro off
        rw [off]
        rfl
      have selected := @run_selected_iff T answers id events _ _ _ _ _ listed before
      change Selected enabled (run T answers id radius events false _).requests ∧
        (run T answers id radius events false _).duplicateFailed = false ↔ _
      rw [proxy]
      simpa using selected

def ready : FsmWorld Link :=
  lcpInit { LinkSetup.bare with eapOptions := { enable := 1 <<< eapConfMd5.toUInt32, accept := 0 } }

/-- The request for the identity was sent twice, and the peer answers both. -/
theorem eapMethods_fail_on_duplicate :
    ready.layer.auth.eap.options.enabled eapConfMd5 = true ∧
      (run (lcpType 0) .quiet 1 false [.identTimeout, .identity [109], .identity [109]] false
        (eapStart .peerToSelf ready)).duplicateFailed = true := by
  refine ⟨by decide, ?_⟩
  decide

end Runs

end Mpd.EapMethods
